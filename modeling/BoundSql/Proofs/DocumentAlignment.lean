import BoundSql.Proofs.Criteria.Misfit
import BoundSql.Proofs.WindowAlignment

/-!
# Alignment of the statement of a document

Everything in a document other than its criteria is written in step. A statement is therefore as far out of
step as the operators of its filters are from their operands.
-/

namespace BoundSql

open Text

theorem neutral_repr (n : Nat) : Neutral n.repr := (bare_repr n).plain.neutral

theorem Condition.excess_predicate {c : Condition} {n : Int} (h : c.fragment.Excess n) (keyword : String)
    (hkeyword : Neutral (" " ++ keyword ++ " ")) : (c.predicate keyword).Excess n := by
  cases c with
  | empty => exact h
  | written f =>
    have hword := (Fragment.excess_neutral hkeyword).append h
    rwa [Int.zero_add] at hword

namespace Select

variable {s : Select} {n : Int}

theorem excess_element {column : String} (hs : s.fragment.Excess n) (h : Neutral column) :
    (s.element column).fragment.Excess n := by
  apply hs.text
  split
  · have hcomma : Neutral "," := by decide
    exact hcomma.append h
  · exact h

theorem excess_elements {columns : List String} (hs : s.fragment.Excess n) (h : ∀ c ∈ columns, Neutral c) :
    (s.elements columns).fragment.Excess n :=
  List.foldlRecOn columns element (motive := fun s : Select => s.fragment.Excess n) hs
    fun _ ht column hcolumn => excess_element ht (h column hcolumn)

end Select

namespace SelectDocument

variable {s : Select} {n : Int} (d : SelectDocument)

theorem excess_source (htable : Neutral d.table) (hfields : ∀ c ∈ d.fields, Neutral c) :
    d.source.fragment.Excess 0 := by
  have hstart : (if d.distinct then Select.distinct {} else {} : Select).fragment.Excess 0 := by
    split <;> exact ⟨by decide, by decide⟩
  have hcolumns : ∀ c ∈ (if d.fields.isEmpty then ["*"] else d.fields), Neutral c := by
    split
    · exact List.forall_mem_singleton.mpr (by decide)
    · exact hfields
  have hfrom : Neutral " FROM " := by decide
  exact (Select.excess_elements hstart hcolumns).text (hfrom.append htable)

theorem excess_grouped (hs : s.fragment.Excess n) (h : ∀ c ∈ d.groupBy, Neutral c) :
    (d.grouped s).fragment.Excess n := by
  unfold grouped
  split
  · exact hs
  · rename_i column columns hcolumns
    rw [hcolumns] at h
    obtain ⟨hcolumn, hrest⟩ := List.forall_mem_cons.mp h
    have hkeyword : (s.close (.text " GROUP BY ")).fragment.Excess n := hs.text (by decide)
    exact Select.excess_elements (Select.excess_element hkeyword hcolumn) hrest

theorem excess_direction (hs : s.fragment.Excess n) (o : Order) : (direction s o).fragment.Excess n := by
  unfold direction
  split
  · exact hs.text (by decide)
  · exact hs.text (by decide)

theorem excess_ordered (hs : s.fragment.Excess n) (h : ∀ o ∈ d.orderBy, Neutral o.column) :
    (d.ordered s).fragment.Excess n := by
  unfold ordered
  split
  · exact hs
  · rename_i o os hos
    rw [hos] at h
    obtain ⟨ho, hrest⟩ := List.forall_mem_cons.mp h
    have hkeyword : (s.close (.text " ORDER BY ")).fragment.Excess n := hs.text (by decide)
    have hfirst := excess_direction (Select.excess_element hkeyword ho) o
    exact List.foldlRecOn os _ (motive := fun s : Select => s.fragment.Excess n) hfirst
      fun _ ht p hp => excess_direction (Select.excess_element ht (hrest p hp)) p

theorem excess_paginated (hs : s.fragment.Excess n) : (d.paginated s).fragment.Excess n := by
  have hlimit (rows : UInt64) {s : Select} (hs : s.fragment.Excess n) : (s.limit rows).fragment.Excess n := by
    have hkeyword : Neutral " LIMIT " := by decide
    exact hs.text (hkeyword.append (neutral_repr _))
  have hkeyword : Neutral " OFFSET " := by decide
  have hrows : Neutral " ROWS" := by decide
  unfold paginated
  cases d.limit with
  | some rows =>
    cases d.offset with
    | none => exact hlimit rows hs
    | some skipped => exact (hlimit rows hs).text (hkeyword.append (neutral_repr _))
  | none =>
    have hoffset : (d.offset.elim s s.offset).fragment.Excess n := by
      cases d.offset with
      | none => exact hs
      | some skipped => exact hs.text ((hkeyword.append (neutral_repr _)).append hrows)
    cases d.fetch with
    | none => exact hoffset
    | some rows =>
      have hfetch : Neutral " FETCH FIRST " := by decide
      have honly : Neutral " ROWS ONLY" := by decide
      exact hoffset.text ((hfetch.append (neutral_repr _)).append honly)

end SelectDocument

def Window.texts (w : Window) : List String := [w.tableAlias, w.rowAlias, w.orderBy]

namespace Document

/-- Everything that a document writes as it is, its filters included. Their operands are not among it. -/
def texts (d : Document) : List String :=
  d.filters.map Filter.column ++
    match d with
    | select d =>
      d.table :: d.fields ++ d.groupBy ++ d.orderBy.map Order.column ++ d.window.elim [] Window.texts
    | update d => d.table :: d.assignments.map Assignment.column
    | delete d => [d.table]

end Document

theorem Select.excess_window_of_plain {s t : Select} {w : Window} {n : Int} (hs : s.fragment.Excess n)
    (hw : ∀ u ∈ w.texts, Plain u.toList) (h : s.window w = .ok t) : t.fragment.Excess n := by
  simp only [Window.texts, List.forall_mem_cons] at hw
  obtain ⟨htable, hrow, horder, -⟩ := hw
  have hneutral : w.Neutral := ⟨htable.neutral, hrow.neutral, horder.neutral⟩
  have hunmarked : '?' ∉ w.column.toList :=
    w.unmarked_iff_column.mp ⟨fun hmark => (horder _ hmark).2 rfl, fun hmark => (hrow _ hmark).2 rfl⟩
  obtain ⟨before, rest, hsplit, -⟩ := window_eq_ok h
  have hwindow := excess_window hs hneutral hsplit h
  rw [hneutral.column.placeholders_eq, List.count_eq_zero.mpr hunmarked, ite_self] at hwindow
  rwa [Int.natCast_zero, Int.add_zero] at hwindow

theorem SelectDocument.excess_select {d : SelectDocument} {s : Select}
    (htexts : ∀ t ∈ (Document.select d).texts, Plain t.toList) (h : d.select = .ok s) :
    s.fragment.Excess (Filter.misfit (Document.select d).filters) := by
  simp only [Document.texts, Document.filters, List.cons_append, List.forall_mem_append, List.forall_mem_cons,
    List.forall_mem_map] at htexts
  obtain ⟨⟨hfilters, hhaving⟩, htable, ⟨⟨hfields, hgroups⟩, horders⟩, hwindow⟩ := htexts
  obtain ⟨c, hc, h⟩ := bind_eq_ok h
  obtain ⟨c', hc', h⟩ := bind_eq_ok h
  have hsource := d.excess_source htable.neutral fun u hu => (hfields u hu).neutral
  have hfiltered : (d.source.filter c).fragment.Excess (0 + Filter.misfit (Criterion.allFilters d.filters)) :=
    hsource.append (Condition.excess_predicate (Criterion.excess_condition hfilters hc) "WHERE" (by decide))
  have hgrouped := d.excess_grouped hfiltered fun u hu => (hgroups u hu).neutral
  have hhaving := hgrouped.append
    (Condition.excess_predicate (Criterion.excess_condition hhaving hc') "HAVING" (by decide))
  rw [Int.zero_add, ← Filter.misfit_append] at hhaving
  have hordered := d.excess_ordered (s := (d.grouped (d.source.filter c)).having c') hhaving
    fun o ho => (horders o ho).neutral
  have hpaginated := d.excess_paginated hordered
  dsimp only at h
  cases hw : d.window with
  | none =>
    rw [hw] at h
    cases h
    exact hpaginated
  | some w =>
    rw [hw] at h hwindow
    exact Select.excess_window_of_plain hpaginated hwindow (DocumentError.lift_eq_ok h)

theorem Update.excess_assign (u : Update) {n : Int} (hu : u.fragment.Excess n) {column : String}
    (h : Neutral column) (v : Value) : (u.assign column v).fragment.Excess n := by
  have hcomma : Neutral (if 0 < u.assignments then ", " else "") := by
    split <;> decide
  have hall := (hu.text hcomma).append (Fragment.aligned_assignment h v).excess
  rwa [Int.add_zero, ← Fragment.append_assoc] at hall

theorem UpdateDocument.excess_update {d : UpdateDocument} {u : Update}
    (htexts : ∀ t ∈ (Document.update d).texts, Plain t.toList) (h : d.update = .ok u) :
    u.fragment.Excess (Filter.misfit (Document.update d).filters) := by
  simp only [Document.texts, Document.filters, List.forall_mem_append, List.forall_mem_cons,
    List.forall_mem_map] at htexts
  obtain ⟨hfilters, htable, hcolumns⟩ := htexts
  obtain ⟨c, hc, h⟩ := bind_eq_ok h
  cases h
  have hstart : (Update.ofTable d.table).fragment.Excess 0 := by
    have hupdate : Neutral "UPDATE " := by decide
    have hset : Neutral " SET " := by decide
    exact Fragment.excess_neutral ((hupdate.append htable.neutral).append hset)
  have hassigned := List.foldlRecOn d.assignments (fun u a => u.assign a.column a.value)
    (motive := fun u : Update => u.fragment.Excess 0) hstart
    fun u hu a ha => u.excess_assign hu (hcolumns a ha).neutral a.value
  have hall := hassigned.append
    (Condition.excess_predicate (Criterion.excess_condition hfilters hc) "WHERE" (by decide))
  rwa [Int.zero_add] at hall

theorem DeleteDocument.excess_delete {d : DeleteDocument} {e : Delete}
    (htexts : ∀ t ∈ (Document.delete d).texts, Plain t.toList) (h : d.delete = .ok e) :
    e.fragment.Excess (Filter.misfit (Document.delete d).filters) := by
  simp only [Document.texts, Document.filters, List.forall_mem_append, List.forall_mem_cons,
    List.forall_mem_map] at htexts
  obtain ⟨hfilters, htable, -⟩ := htexts
  obtain ⟨c, hc, h⟩ := bind_eq_ok h
  cases h
  have hdelete : Neutral "DELETE FROM " := by decide
  have hstart := Fragment.excess_neutral (hdelete.append htable.neutral)
  have hall := hstart.append
    (Condition.excess_predicate (Criterion.excess_condition hfilters hc) "WHERE" (by decide))
  rwa [Int.zero_add] at hall

namespace Document

theorem excess_statement {d : Document} {f : Fragment} (htexts : ∀ t ∈ d.texts, Plain t.toList)
    (h : d.statement = .ok f) : f.Excess (Filter.misfit d.filters) := by
  cases d with
  | select d =>
    obtain ⟨s, hs, rfl⟩ := map_eq_ok h
    exact SelectDocument.excess_select htexts hs
  | update d =>
    obtain ⟨u, hu, rfl⟩ := map_eq_ok h
    exact UpdateDocument.excess_update htexts hu
  | delete d =>
    obtain ⟨e, he, rfl⟩ := map_eq_ok h
    exact DeleteDocument.excess_delete htexts he

/-- A statement has a placeholder for every value exactly if as many lists stand behind operators that bind
their operand as values are bound by operators that write it. -/
theorem placeholders_eq_length_iff {d : Document} {f : Fragment} (htexts : ∀ t ∈ d.texts, Plain t.toList)
    (h : d.statement = .ok f) :
    placeholders false f.sql.toList = f.values.length ↔
      d.filters.countP Filter.dangling = d.filters.countP Filter.surplus := by
  have hcount := (excess_statement htexts h).count
  unfold Filter.misfit at hcount
  omega

/-- The two ways to be out of step make up for each other. -/
def crossed : Document :=
  .delete ⟨"t", [.filter ⟨"a", "=", some (.list [.int 1, .int 2]), none, .and⟩,
    .group [.filter ⟨"b", "in", some (.scalar (.int 5)), none, .and⟩] .or]⟩

theorem placeholders_eq_length_iff_crossed :
    (∀ t ∈ crossed.texts, Plain t.toList) ∧
      crossed.statement = .ok ⟨"DELETE FROM t WHERE a = ?(1,2) OR (b IN )", [.int 5]⟩ ∧
      placeholders false "DELETE FROM t WHERE a = ?(1,2) OR (b IN )".toList = 1 := by
  have htexts : ∀ t ∈ crossed.texts, Plain t.toList := by decide
  have hstatement : crossed.statement = .ok ⟨"DELETE FROM t WHERE a = ?(1,2) OR (b IN )", [.int 5]⟩ := rfl
  have hdangling : crossed.filters.countP Filter.dangling = 1 := rfl
  have hsurplus : crossed.filters.countP Filter.surplus = 1 := rfl
  have hcounts := hdangling.trans hsurplus.symm
  exact ⟨htexts, hstatement, (placeholders_eq_length_iff htexts hstatement).mpr hcounts⟩

def unfilled : Document :=
  .delete ⟨"t", [.filter ⟨"a", "=", some (.list [.int 1, .int 2]), none, .and⟩]⟩

/-- A list for an operator that binds its operand is accepted, and its placeholder has no value. -/
theorem not_forall_placeholders_eq_length :
    ¬ ∀ (d : Document) (f : Fragment), (∀ t ∈ d.texts, Plain t.toList) → d.statement = .ok f →
      placeholders false f.sql.toList = f.values.length := by
  intro hall
  have htexts : ∀ t ∈ unfilled.texts, Plain t.toList := by decide
  have hstatement : unfilled.statement = .ok ⟨"DELETE FROM t WHERE a = ?(1,2)", []⟩ := rfl
  have hcount := hall unfilled _ htexts hstatement
  exact absurd hcount (by decide)

end Document

end BoundSql

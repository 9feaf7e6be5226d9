import BoundSql.Proofs.Criteria.Misfit
import BoundSql.Proofs.Criteria.Pruning
import BoundSql.Proofs.LiteralReading

/-!
# Criteria can be told from their text

The text of what is left of criteria determines their outline: the tree of groups, the columns, the operators,
the lists and the connectives. No list can hold a text that passes for a part of the tree. Every piece is
told from all others by what it begins with, and shows by itself where it ends.
-/

namespace BoundSql

namespace Operator

/-- The text behind the column. -/
def suffix (o : Operator) : List Char := (o.clause "").toList

def isExistence : Operator → Bool
  | existence _ => true
  | _ => false

def takesList : Operator → Bool
  | membership _ => true
  | _ => false

theorem toList_clause {o : Operator} (h : o.isExistence = false) (column : String) :
    (o.clause column).toList = column.toList ++ o.suffix := by
  cases o with
  | existence n => cases h
  | comparison c => simp [clause, suffix]
  | quantified c q => simp [clause, suffix]
  | pattern n => simp [clause, suffix]
  | range n => simp [clause, suffix]
  | membership n => simp [clause, suffix]

theorem head?_suffix : ∀ p ∈ catalogue, p.2.isExistence = false → p.2.suffix.head? = some ' ' := by
  decide

theorem eq_of_suffix_begins : ∀ p ∈ catalogue, ∀ q ∈ catalogue, p.2.isExistence = false →
    q.2.isExistence = false → p.2.suffix <+: q.2.suffix → p.2 = q.2 := by
  decide +kernel

variable {o o' : Operator} {name name' : String} {r t : List Char}

/-- No operator is the beginning of another one. -/
theorem suffix_append_injective (h : ofName? name = some o) (h' : ofName? name' = some o')
    (ho : o.isExistence = false) (ho' : o'.isExistence = false) (happend : o.suffix ++ r = o'.suffix ++ t) :
    o = o' ∧ r = t := by
  have heq : o = o' := by
    have hprefix : o.suffix <+: o'.suffix ++ t := ⟨r, happend⟩
    rcases List.prefix_or_prefix_of_prefix hprefix (List.prefix_append _ t) with hfirst | hfirst
    · exact eq_of_suffix_begins _ (mem_catalogue h) _ (mem_catalogue h') ho ho' hfirst
    · exact (eq_of_suffix_begins _ (mem_catalogue h') _ (mem_catalogue h) ho' ho hfirst).symm
  rw [heq] at happend
  exact ⟨heq, List.append_cancel_left happend⟩

/-- What a filter carries for an operator. The column is not written in front of `EXISTS`. -/
def Admits (o : Operator) (f : Filter) : Prop :=
  match o with
  | existence _ => False
  | membership _ => ∃ items, f.value = some (.list items) ∧ ∀ v ∈ items, v.isExact = true
  | range _ => ∃ a b, f.values = some [a, b]
  | _ => ∀ items, f.value ≠ some (.list items)

variable {f : Filter}

theorem Admits.isExistence_eq_false (h : o.Admits f) : o.isExistence = false := by
  cases o with
  | existence n => cases h
  | _ => rfl

/-- Of what an operator admits, only `IN` writes a list. -/
theorem Admits.listed_eq_none (h : o.Admits f) (hname : ofName? f.op = some o) (hlist : o.takesList = false) :
    f.listed = none := by
  have hunlisted (hvalue : ∀ items, f.value ≠ some (.list items)) : f.listed = none := by
    unfold Filter.listed
    split
    · exact absurd ‹_› (hvalue _)
    · rfl
  cases o with
  | existence n => cases h
  | membership n => cases hlist
  | range n => exact Filter.listed_of_takesPair ((takesPair_iff_arity hname).mpr rfl)
  | comparison c => exact hunlisted h
  | quantified c q => exact hunlisted h
  | pattern n => exact hunlisted h

theorem Admits.exists_listed (h : o.Admits f) (hname : ofName? f.op = some o) (hlist : o.takesList = true)
    (hlive : f.isLive = true) :
    ∃ items, f.listed = some items ∧ items ≠ [] ∧ ∀ v ∈ items, v.isExact = true := by
  cases o with
  | membership n =>
    obtain ⟨items, hvalue, hexact⟩ := h
    have hsingle : takesPair f.op = false := by
      rw [Bool.eq_false_iff, Ne, takesPair_iff_arity hname]
      exact Nat.zero_ne_add_one 1
    refine ⟨items, ?_, ?_, hexact⟩
    · rw [Filter.listed, hvalue, hsingle]
      rfl
    · rintro rfl
      rw [Filter.isLive, hsingle, hvalue] at hlive
      cases hlive
  | _ => cases hlist

end Operator

/-- The characters of a column. -/
def isNameChar (c : Char) : Bool := c.isAlphanum || c == '_' || c == '.'

namespace Filter

/-- The column is a name, and the operator stands with what it takes. -/
structure Regular (f : Filter) : Prop where
  column_ne_empty : f.column ≠ ""
  isNameChar_column : ∀ c ∈ f.column.toList, isNameChar c = true
  admits : ∃ o, Operator.ofName? f.op = some o ∧ o.Admits f

variable {f g : Filter} {r t : List Char}

/-- The list behind the operator, if there is one. -/
def listText (f : Filter) : String := f.listed.elim "" fun items => Literal.list (items.map Value.inline)

/-- The column reaches to the first space. -/
theorem exists_toList_rendered {o : Operator} (hname : Operator.ofName? f.op = some o)
    (ho : o.isExistence = false) (r : List Char) :
    ∃ s, f.rendered.toList ++ r = f.column.toList ++ ' ' :: s ∧
      ' ' :: s = o.suffix ++ (f.listText.toList ++ r) := by
  obtain ⟨s, hs⟩ := List.head?_eq_some_iff.mp (Operator.head?_suffix _ (Operator.mem_catalogue hname) ho)
  rw [rendered, hname, Option.elim_some, String.toList_append, Operator.toList_clause ho, hs,
    List.append_assoc, List.append_assoc]
  exact ⟨_, rfl, rfl⟩

theorem listText_append_injective {o : Operator} (hf : Operator.ofName? f.op = some o) (hfo : o.Admits f)
    (hflive : f.isLive = true) (hg : Operator.ofName? g.op = some o) (hgo : o.Admits g)
    (hglive : g.isLive = true) (h : f.listText.toList ++ r = g.listText.toList ++ t) :
    f.listed = g.listed ∧ r = t := by
  rw [listText, listText] at h
  cases hlist : o.takesList with
  | false =>
    rw [hfo.listed_eq_none hf hlist, hgo.listed_eq_none hg hlist] at h ⊢
    exact ⟨rfl, h⟩
  | true =>
    obtain ⟨items, hitems, hne, hexact⟩ := hfo.exists_listed hf hlist hflive
    obtain ⟨items', hitems', hne', hexact'⟩ := hgo.exists_listed hg hlist hglive
    rw [hitems, hitems'] at h ⊢
    obtain ⟨rfl, hrest⟩ := Literal.list_append_injective hexact hexact' hne hne' h
    exact ⟨rfl, hrest⟩

/-- The text of a filter determines what is written, and where it ends. -/
theorem rendered_append_injective (hf : f.Regular) (hflive : f.isLive = true) (hg : g.Regular)
    (hglive : g.isLive = true) (h : f.rendered.toList ++ r = g.rendered.toList ++ t) :
    (f.column = g.column ∧ Operator.ofName? f.op = Operator.ofName? g.op ∧ f.listed = g.listed) ∧ r = t := by
  obtain ⟨o, hname, hadmits⟩ := hf.admits
  obtain ⟨o', hname', hadmits'⟩ := hg.admits
  obtain ⟨s, hs, hbehind⟩ := exists_toList_rendered hname hadmits.isExistence_eq_false r
  obtain ⟨s', hs', hbehind'⟩ := exists_toList_rendered hname' hadmits'.isExistence_eq_false t
  rw [hs, hs'] at h
  have hcolumn := congrArg (List.takeWhile isNameChar) h
  rw [Text.takeWhile_append_cons hf.isNameChar_column (by decide),
    Text.takeWhile_append_cons hg.isNameChar_column (by decide)] at hcolumn
  rw [hcolumn, List.append_cancel_left_eq, hbehind, hbehind'] at h
  obtain ⟨rfl, hlist⟩ := Operator.suffix_append_injective hname hname' hadmits.isExistence_eq_false
    hadmits'.isExistence_eq_false h
  obtain ⟨hlisted, hrest⟩ := listText_append_injective hname hadmits hflive hname' hadmits' hglive hlist
  exact ⟨⟨String.toList_inj.mp hcolumn, hname.trans hname'.symm, hlisted⟩, hrest⟩

theorem Regular.exists_rendered_eq_cons (hf : f.Regular) :
    ∃ c cs, f.rendered.toList = c :: cs ∧ isNameChar c = true := by
  obtain ⟨o, hname, hadmits⟩ := hf.admits
  obtain ⟨s, hs, -⟩ := exists_toList_rendered hname hadmits.isExistence_eq_false []
  have hne : f.column.toList ≠ [] := fun hnil => hf.column_ne_empty (String.toList_eq_nil_iff.mp hnil)
  obtain ⟨c, cs, hcs⟩ := List.exists_cons_of_ne_nil hne
  refine ⟨c, cs ++ ' ' :: s, ?_, hf.isNameChar_column c (hcs ▸ List.mem_cons_self)⟩
  rw [← List.append_nil f.rendered.toList, hs, hcs, List.cons_append]

end Filter

/-- What a criterion says apart from the values it binds. -/
inductive Outline where
  | clause (column : String) (op : Option Operator) (elements : Option (List Value))
  | group (members : List (Option Connective × Outline))

namespace Outline

mutual

def text : Outline → String
  | clause column op elements =>
    op.elim "" (·.clause column) ++ elements.elim "" fun items => Literal.list (items.map Value.inline)
  | group members => "(" ++ textAll members ++ ")"

def textAll : List (Option Connective × Outline) → String
  | [] => ""
  | (op, o) :: rest => (op.elim "" fun op => " " ++ op.keyword ++ " ") ++ o.text ++ textAll rest

end

end Outline

namespace Criterion

mutual

def outline : Criterion → Outline
  | group members _ => .group (outlineAll members)
  | filter f => .clause f.column (Operator.ofName? f.op) f.listed

/-- The connective of the first criterion is not written. -/
def outlineAll : List Criterion → List (Option Connective × Outline)
  | [] => []
  | x :: xs => (none, x.outline) :: outlineRest xs

def outlineRest : List Criterion → List (Option Connective × Outline)
  | [] => []
  | x :: xs => (some x.joinedBy, x.outline) :: outlineRest xs

end

mutual

theorem text_outline (x : Criterion) : x.outline.text = x.rendered := by
  cases x with
  | group members op => rw [outline, Outline.text, textAll_outlineAll members, rendered]
  | filter f => rw [outline, Outline.text, rendered, Filter.rendered]

theorem textAll_outlineAll (xs : List Criterion) : Outline.textAll (outlineAll xs) = renderAll xs := by
  cases xs with
  | nil => rw [outlineAll, Outline.textAll, renderAll]
  | cons x xs =>
    rw [outlineAll, Outline.textAll, text_outline x, textAll_outlineRest xs, renderAll, Option.elim_none,
      String.empty_append]

theorem textAll_outlineRest (xs : List Criterion) : Outline.textAll (outlineRest xs) = renderRest xs := by
  cases xs with
  | nil => rw [outlineRest, Outline.textAll, renderRest]
  | cons x xs =>
    rw [outlineRest, Outline.textAll, text_outline x, textAll_outlineRest xs, renderRest, Option.elim_some]

end

/-- Every filter is a regular one that is not left out. -/
def Legible (fs : List Filter) : Prop := ∀ f ∈ fs, f.Regular ∧ f.isLive = true

theorem legible_append {fs gs : List Filter} : Legible (fs ++ gs) ↔ Legible fs ∧ Legible gs :=
  List.forall_mem_append

/-- What may stand behind a list of criteria. -/
def Closing (r : List Char) : Prop := r = [] ∨ ∃ s, r = ')' :: s

theorem Closing.eq_of_cons {c : Char} {cs : List Char} (h : Closing (c :: cs)) : c = ')' := by
  rcases h with h | ⟨s, h⟩
  · cases h
  · exact (List.cons.inj h).1

theorem toList_rendered_group (members : List Criterion) (op : Connective) (r : List Char) :
    (group members op).rendered.toList ++ r = '(' :: ((renderAll members).toList ++ ')' :: r) := by
  rw [rendered]
  simp

theorem toList_renderAll_cons (x : Criterion) (xs : List Criterion) (r : List Char) :
    (renderAll (x :: xs)).toList ++ r = x.rendered.toList ++ ((renderRest xs).toList ++ r) := by
  rw [renderAll, String.toList_append, List.append_assoc]

theorem toList_renderRest_cons (x : Criterion) (xs : List Criterion) (r : List Char) :
    (renderRest (x :: xs)).toList ++ r =
      ' ' :: (x.joinedBy.keyword.toList ++ ' ' :: (x.rendered.toList ++ ((renderRest xs).toList ++ r))) := by
  rw [renderRest]
  simp

theorem keyword_append_injective {op op' : Connective} {r t : List Char}
    (h : op.keyword.toList ++ r = op'.keyword.toList ++ t) : op = op' ∧ r = t := by
  cases op <;> cases op' <;> simp_all [Connective.keyword]

/-- A clause begins with a letter of its column. -/
theorem exists_rendered_filter_eq_cons {f : Filter} (hf : Legible (filter f).filters) :
    ∃ c cs, (filter f).rendered.toList = c :: cs ∧ isNameChar c = true := by
  rw [rendered]
  exact (hf f (by simp [filters])).1.exists_rendered_eq_cons

theorem rendered_group_ne_rendered_filter {f : Filter} (hf : Legible (filter f).filters)
    (members : List Criterion) (op : Connective) (r t : List Char) :
    (group members op).rendered.toList ++ r ≠ (filter f).rendered.toList ++ t := by
  intro h
  obtain ⟨c, cs, hcs, hc⟩ := exists_rendered_filter_eq_cons hf
  rw [toList_rendered_group, hcs, List.cons_append] at h
  obtain ⟨rfl, -⟩ := List.cons.inj h
  exact absurd hc (by decide)

theorem Closing.ne_rendered_append {r : List Char} (hr : Closing r) {x : Criterion} (hx : Legible x.filters)
    (t : List Char) : r ≠ x.rendered.toList ++ t := by
  rintro rfl
  cases x with
  | group members op =>
    rw [toList_rendered_group] at hr
    exact absurd hr.eq_of_cons (by decide)
  | filter f =>
    obtain ⟨c, cs, hcs, hc⟩ := exists_rendered_filter_eq_cons hx
    rw [hcs, List.cons_append] at hr
    obtain rfl := hr.eq_of_cons
    exact absurd hc (by decide)

theorem Closing.ne_renderRest_append {r : List Char} (hr : Closing r) (x : Criterion) (xs : List Criterion)
    (t : List Char) : r ≠ (renderRest (x :: xs)).toList ++ t := by
  rintro rfl
  rw [toList_renderRest_cons] at hr
  exact absurd hr.eq_of_cons (by decide)

mutual

/-- The text of a criterion determines its outline, and where it ends. -/
theorem rendered_append_injective (x y : Criterion) (hx : Legible x.filters) (hy : Legible y.filters)
    {r t : List Char} (h : x.rendered.toList ++ r = y.rendered.toList ++ t) :
    x.outline = y.outline ∧ r = t := by
  cases x with
  | group members op =>
    cases y with
    | group members' op' =>
      rw [filters] at hx hy
      rw [toList_rendered_group, toList_rendered_group] at h
      -- the parenthesis behind the members ends both lists
      obtain ⟨hmembers, hrest⟩ := renderAll_append_injective members members' hx hy (.inr ⟨r, rfl⟩)
        (.inr ⟨t, rfl⟩) (List.cons.inj h).2
      rw [outline, outline, hmembers]
      exact ⟨rfl, (List.cons.inj hrest).2⟩
    | filter g => exact absurd h (rendered_group_ne_rendered_filter hy members op r t)
  | filter f =>
    cases y with
    | group members op => exact absurd h.symm (rendered_group_ne_rendered_filter hx members op t r)
    | filter g =>
      obtain ⟨hf, hflive⟩ := hx f (by simp [filters])
      obtain ⟨hg, hglive⟩ := hy g (by simp [filters])
      rw [rendered, rendered] at h
      obtain ⟨⟨hcolumn, hop, hlisted⟩, hrest⟩ := Filter.rendered_append_injective hf hflive hg hglive h
      rw [outline, outline, hcolumn, hop, hlisted]
      exact ⟨rfl, hrest⟩

theorem renderAll_append_injective (xs ys : List Criterion) (hxs : Legible (allFilters xs))
    (hys : Legible (allFilters ys)) {r t : List Char} (hr : Closing r) (ht : Closing t)
    (h : (renderAll xs).toList ++ r = (renderAll ys).toList ++ t) : outlineAll xs = outlineAll ys ∧ r = t := by
  cases xs with
  | nil =>
    cases ys with
    | nil => exact ⟨rfl, h⟩
    | cons y ys =>
      rw [allFilters, legible_append] at hys
      rw [renderAll, toList_renderAll_cons] at h
      exact absurd h (hr.ne_rendered_append hys.1 _)
  | cons x xs =>
    rw [allFilters, legible_append] at hxs
    cases ys with
    | nil =>
      rw [renderAll, toList_renderAll_cons] at h
      exact absurd h.symm (ht.ne_rendered_append hxs.1 _)
    | cons y ys =>
      rw [allFilters, legible_append] at hys
      rw [toList_renderAll_cons, toList_renderAll_cons] at h
      obtain ⟨hfirst, h⟩ := rendered_append_injective x y hxs.1 hys.1 h
      obtain ⟨hothers, hrest⟩ := renderRest_append_injective xs ys hxs.2 hys.2 hr ht h
      rw [outlineAll, outlineAll, hfirst, hothers]
      exact ⟨rfl, hrest⟩

theorem renderRest_append_injective (xs ys : List Criterion) (hxs : Legible (allFilters xs))
    (hys : Legible (allFilters ys)) {r t : List Char} (hr : Closing r) (ht : Closing t)
    (h : (renderRest xs).toList ++ r = (renderRest ys).toList ++ t) :
    outlineRest xs = outlineRest ys ∧ r = t := by
  cases xs with
  | nil =>
    cases ys with
    | nil => exact ⟨rfl, h⟩
    | cons y ys => exact absurd h (hr.ne_renderRest_append y ys t)
  | cons x xs =>
    cases ys with
    | nil => exact absurd h.symm (ht.ne_renderRest_append x xs r)
    | cons y ys =>
      rw [allFilters, legible_append] at hxs hys
      rw [toList_renderRest_cons, toList_renderRest_cons] at h
      obtain ⟨hjoined, h⟩ := keyword_append_injective (List.cons.inj h).2
      obtain ⟨hfirst, h⟩ := rendered_append_injective x y hxs.1 hys.1 (List.cons.inj h).2
      obtain ⟨hothers, hrest⟩ := renderRest_append_injective xs ys hxs.2 hys.2 hr ht h
      rw [outlineRest, outlineRest, hjoined, hfirst, hothers]
      exact ⟨rfl, hrest⟩

end

theorem legible_prune {xs : List Criterion} (h : ∀ f ∈ allFilters xs, f.Regular) :
    Legible (allFilters (prune xs)) := by
  rw [allFilters_prune]
  intro f hf
  obtain ⟨hmem, hlive⟩ := List.mem_filter.mp hf
  exact ⟨h f hmem, hlive⟩

theorem sql_condition {criteria : List Criterion} {c : Condition} (h : condition criteria = .ok c) :
    c.sql = renderAll (prune criteria) := by
  obtain ⟨rfl, -⟩ := addAll_eq_ok criteria h
  rw [Condition.sql, fragment_attachAll_empty]

/-- Two lists of criteria are written alike if and only if what is left of them has the same outline. -/
theorem sql_eq_iff_outlineAll_eq {xs ys : List Criterion} {c d : Condition}
    (hxs : ∀ f ∈ allFilters xs, f.Regular) (hys : ∀ f ∈ allFilters ys, f.Regular)
    (hc : condition xs = .ok c) (hd : condition ys = .ok d) :
    c.sql = d.sql ↔ outlineAll (prune xs) = outlineAll (prune ys) := by
  rw [sql_condition hc, sql_condition hd]
  constructor
  · intro h
    have hlists : (renderAll (prune xs)).toList ++ [] = (renderAll (prune ys)).toList ++ [] := by rw [h]
    exact (renderAll_append_injective _ _ (legible_prune hxs) (legible_prune hys) (.inl rfl) (.inl rfl) hlists).1
  · intro h
    rw [← textAll_outlineAll, ← textAll_outlineAll, h]

/-- The list holds a text that reads like the end of it and a group behind it. -/
def forged : List Criterion :=
  [.filter ⟨"a.b", "IN", some (.list [.text "') OR (c = ?", .int (-1)]), none, .or⟩,
    .group [.filter ⟨"c", "between", none, some [.int 5, .int 6], .and⟩] .or]

def forgery : String := "a.b IN (''') OR (c = ?',-1) OR (c BETWEEN ? AND ?)"

/-- Other names of the operators, another first connective, and clauses that are left out. -/
def reforged : List Criterion :=
  [.filter ⟨"d", "=", none, none, .and⟩,
    .filter ⟨"a.b", "in_list", some (.list [.text "') OR (c = ?", .int (-1)]), none, .and⟩,
    .group [.group [] .and, .filter ⟨"c", " Between ", none, some [.int 7, .int 8], .or⟩] .or]

theorem sql_eq_iff_outlineAll_eq_forged :
    (∀ f ∈ allFilters forged, f.Regular) ∧ (∀ f ∈ allFilters reforged, f.Regular) ∧
      condition forged = .ok (.written ⟨forgery, [.int 5, .int 6]⟩) ∧
      condition reforged = .ok (.written ⟨forgery, [.int 7, .int 8]⟩) ∧
      outlineAll (prune forged) = outlineAll (prune reforged) := by
  have hforged : ∀ f ∈ allFilters forged, f.Regular := by
    have hall : allFilters forged = [⟨"a.b", "IN", some (.list [.text "') OR (c = ?", .int (-1)]), none, .or⟩,
        ⟨"c", "between", none, some [.int 5, .int 6], .and⟩] := rfl
    rw [hall, List.forall_mem_cons, List.forall_mem_singleton]
    exact ⟨⟨by decide, List.all_eq_true.mp rfl, .membership false, rfl, _, rfl, by decide⟩,
      ⟨by decide, List.all_eq_true.mp rfl, .range false, rfl, _, _, rfl⟩⟩
  have hreforged : ∀ f ∈ allFilters reforged, f.Regular := by
    have hall : allFilters reforged = [⟨"d", "=", none, none, .and⟩,
        ⟨"a.b", "in_list", some (.list [.text "') OR (c = ?", .int (-1)]), none, .and⟩,
        ⟨"c", " Between ", none, some [.int 7, .int 8], .or⟩] := rfl
    rw [hall, List.forall_mem_cons, List.forall_mem_cons, List.forall_mem_singleton]
    exact ⟨⟨by decide, List.all_eq_true.mp rfl, .comparison .eq, rfl, nofun⟩,
      ⟨by decide, List.all_eq_true.mp rfl, .membership false, rfl, _, rfl, by decide⟩,
      ⟨by decide, List.all_eq_true.mp rfl, .range false, rfl, _, _, rfl⟩⟩
  have hc : condition forged = .ok (.written ⟨forgery, [.int 5, .int 6]⟩) := rfl
  have hd : condition reforged = .ok (.written ⟨forgery, [.int 7, .int 8]⟩) := rfl
  exact ⟨hforged, hreforged, hc, hd, (sql_eq_iff_outlineAll_eq hforged hreforged hc hd).mp rfl⟩

end Criterion

end BoundSql

import BoundSql.Proofs.Alignment

/-!
# Alignment of a paginated statement

The numbering column is inserted in the middle of the text, at a point that plain text search finds. It may
be a point inside a literal, where the literals of the inserted texts are turned inside out.
-/

namespace BoundSql

open Text

namespace Window

structure Neutral (w : Window) : Prop where
  tableAlias : Text.Neutral w.tableAlias
  rowAlias : Text.Neutral w.rowAlias
  orderBy : Text.Neutral w.orderBy

/-- No `?` at all in the texts that are inserted, not even in a literal. -/
def Unmarked (w : Window) : Prop := '?' ∉ w.orderBy.toList ∧ '?' ∉ w.rowAlias.toList

instance (w : Window) : Decidable w.Unmarked :=
  inferInstanceAs (Decidable (_ ∧ _))

theorem Neutral.column {w : Window} (h : w.Neutral) : Text.Neutral w.column := by
  have hcall : Text.Neutral w.numbering.call := by
    cases w.numbering <;> decide
  have hcomma : Text.Neutral "," := by decide
  have hover : Text.Neutral " OVER(ORDER BY " := by decide
  have has : Text.Neutral ") AS " := by decide
  exact ((((hcomma.append hcall).append hover).append h.orderBy).append has).append h.rowAlias

/-- A character that the fixed parts of the column do not have comes from its texts. -/
theorem not_mem_column_iff {w : Window} {c : Char}
    (hc : ∀ t ∈ [",", "row_number()", "rank()", " OVER(ORDER BY ", ") AS "], c ∉ t.toList) :
    c ∉ w.column.toList ↔ c ∉ w.orderBy.toList ∧ c ∉ w.rowAlias.toList := by
  simp only [List.forall_mem_cons] at hc
  obtain ⟨hcomma, hnumber, hrank, hover, has, -⟩ := hc
  have hcall : c ∉ w.numbering.call.toList := by
    cases w.numbering with
    | rowNumber => exact hnumber
    | rank => exact hrank
  unfold column
  simp only [String.toList_append, List.mem_append, hcomma, hcall, hover, has, false_or, or_false, not_or]

theorem unmarked_iff_column (w : Window) : w.Unmarked ↔ '?' ∉ w.column.toList :=
  (not_mem_column_iff (by decide)).symm

theorem plain_column {w : Window} (horder : Plain w.orderBy.toList) (hrow : Plain w.rowAlias.toList) :
    Plain w.column.toList := by
  intro c hc
  constructor
  · rintro rfl
    exact (not_mem_column_iff (by decide)).mpr ⟨fun h => (horder _ h).1 rfl, fun h => (hrow _ h).1 rfl⟩ hc
  · rintro rfl
    exact (not_mem_column_iff (by decide)).mpr ⟨fun h => (horder _ h).2 rfl, fun h => (hrow _ h).2 rfl⟩ hc

theorem aligned_bounds {w : Window} (h : w.Neutral) : ∀ b ∈ w.bounds, b.Aligned := by
  have hbound (comparison : String) (hout : endsQuoted false comparison.toList = false)
      (hone : placeholders false comparison.toList = 1) (v : Value) :
      (Fragment.text (w.rowAlias ++ comparison) ++ .bound v).Aligned := by
    apply Fragment.aligned_text_bound
    · rw [String.toList_append, endsQuoted_append, h.rowAlias.1, hout]
    · rw [String.toList_append, placeholders_append, h.rowAlias.1, h.rowAlias.2, hone]
  intro b hb
  rcases List.mem_append.mp hb with hb | hb
  · split at hb
    · rw [List.mem_singleton.mp hb]
      exact hbound " >= ?" (by decide) (by decide) _
    · cases hb
  · split at hb
    · rw [List.mem_singleton.mp hb]
      exact hbound " < ?" (by decide) (by decide) _
    · cases hb

theorem aligned_predicate {w : Window} (h : w.Neutral) : w.predicate.Aligned := by
  have hbounds := aligned_bounds h
  unfold predicate
  split
  · exact Fragment.aligned_empty
  · rename_i b bs hcons
    rw [hcons] at hbounds
    obtain ⟨hb, hbs⟩ := List.forall_mem_cons.mp hbounds
    have hwhere : (Fragment.text " WHERE ").Aligned := Fragment.aligned_text (by decide)
    have hand : (Fragment.text " AND ").Aligned := Fragment.aligned_text (by decide)
    refine (hwhere.append hb).append (Fragment.aligned_concat ?_)
    exact List.forall_mem_map.mpr fun f hf => hand.append (hbs f hf)

end Window

namespace Select

theorem append_of_splitFrom? {s : Select} {before rest : String} (h : s.splitFrom? = some (before, rest)) :
    before ++ rest = s.fragment.sql := by
  simp only [splitFrom?, Option.map_eq_some_iff, Prod.mk.injEq] at h
  obtain ⟨⟨a, b⟩, hsplit, rfl, rfl⟩ := h
  have hab := append_of_splitBefore? hsplit
  rw [← String.ofList_append, hab]
  simp

theorem window_eq_ok {s t : Select} {w : Window} (h : s.window w = .ok t) :
    ∃ before rest, s.splitFrom? = some (before, rest) ∧
      t.fragment = .text "SELECT * FROM (" ++ ⟨before ++ w.column ++ rest, s.fragment.values⟩ ++
        .text (") AS " ++ w.tableAlias) ++ w.predicate := by
  unfold window at h
  split at h
  · cases h
  · rename_i before rest hsplit
    refine ⟨before, rest, hsplit, ?_⟩
    cases h
    rfl

/-- The first ` FROM` stands outside literals. -/
def SplitsOutside (s : Select) : Prop :=
  ∀ before rest, s.splitFrom? = some (before, rest) → endsQuoted false before.toList = false

/-- The inserted column adds exactly the placeholders that it has on the side of the insertion point. -/
theorem excess_window {s t : Select} {w : Window} {n : Int} (hs : s.fragment.Excess n) (hw : w.Neutral)
    {before rest : String} (hsplit : s.splitFrom? = some (before, rest)) (h : s.window w = .ok t) :
    t.fragment.Excess (n + placeholders (endsQuoted false before.toList) w.column.toList) := by
  obtain ⟨before', rest', hsplit', ht⟩ := window_eq_ok h
  rw [hsplit] at hsplit'
  cases hsplit'
  have hsql := append_of_splitFrom? hsplit
  have hinsert := scan_insert (hw.column.endsQuoted_eq (endsQuoted false before.toList)) rest.toList
  have hmiddle : Fragment.Excess ⟨before ++ w.column ++ rest, s.fragment.values⟩
      (n + placeholders (endsQuoted false before.toList) w.column.toList) := by
    have hout := hs.outside
    have hcount := hs.count
    rw [← hsql, String.toList_append] at hout hcount
    constructor
    · rw [String.toList_append, String.toList_append, hinsert.1, hout]
    · rw [String.toList_append, String.toList_append, hinsert.2, Int.natCast_add, hcount]
      exact Int.add_assoc _ _ _
  have hopen : (Fragment.text "SELECT * FROM (").Excess 0 :=
    Fragment.excess_neutral (by decide)
  have hclose : (Fragment.text (") AS " ++ w.tableAlias)).Excess 0 := by
    have has : Text.Neutral ") AS " := by decide
    exact Fragment.excess_neutral (has.append hw.tableAlias)
  have hpredicate := (Window.aligned_predicate hw).excess
  have hall := ((hopen.append hmiddle).append hclose).append hpredicate
  rw [Int.zero_add, Int.add_zero, Int.add_zero] at hall
  rwa [ht]

/-- Pagination with neutral texts keeps alignment exactly if the insertion point is outside literals or no
`?` is inserted. -/
theorem aligned_window_iff {s t : Select} {w : Window} (hs : s.fragment.Aligned) (hw : w.Neutral)
    (h : s.window w = .ok t) : t.fragment.Aligned ↔ s.SplitsOutside ∨ w.Unmarked := by
  obtain ⟨before, rest, hsplit, -⟩ := window_eq_ok h
  have hexcess := excess_window hs.excess hw hsplit h
  rw [Int.zero_add, hw.column.placeholders_eq] at hexcess
  have hcount : w.column.toList.count '?' = 0 ↔ w.Unmarked := by
    rw [Window.unmarked_iff_column, List.count_eq_zero]
  have houtside : s.SplitsOutside ↔ endsQuoted false before.toList = false := by
    constructor
    · intro hall
      exact hall before rest hsplit
    · intro hout before' rest' hsplit'
      rw [hsplit] at hsplit'
      cases hsplit'
      exact hout
  rw [houtside, ← hcount, Fragment.aligned_iff_excess]
  constructor
  · intro h0
    have hzero := hexcess.unique h0
    cases hq : endsQuoted false before.toList with
    | false => exact .inl rfl
    | true =>
      rw [hq] at hzero
      exact .inr (by simpa using hzero)
  · rintro (hout | hnone)
    · rw [hout] at hexcess
      simpa using hexcess
    · rw [hnone] at hexcess
      simpa using hexcess

end Select

end BoundSql

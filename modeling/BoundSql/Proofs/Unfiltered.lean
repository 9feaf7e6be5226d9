import BoundSql.Proofs.Criteria.Fault
import BoundSql.Proofs.Emptiness
import BoundSql.Proofs.StatementText

/-!
# Which statements touch every row

An UPDATE or DELETE document writes a condition exactly if one of its filters applies, however deep it
stands in the groups. Otherwise the statement ends before the condition and touches every row of the table.
-/

namespace BoundSql

theorem Operator.clause_ne_empty (column : String) (o : Operator) : o.clause column ≠ "" := by
  intro h
  cases o with
  | quantified c q =>
    obtain ⟨-, hclosing⟩ := String.append_eq_empty_iff.mp h
    simp at hclosing
  | existence n =>
    obtain ⟨-, hkeyword⟩ := String.append_eq_empty_iff.mp h
    simp at hkeyword
  | comparison | pattern | range | membership =>
    obtain ⟨-, hkeyword⟩ := String.append_eq_empty_iff.mp h
    simp at hkeyword

namespace Criterion

variable {c d : Condition}

mutual

/-- Nothing is left of a criterion exactly if all its filters are missing. -/
theorem pruned_eq_none_iff (x : Criterion) : x.pruned = none ↔ ∀ f ∈ x.filters, f.isLive = false := by
  cases x with
  | group members op =>
    rw [pruned, filters, ← prune_eq_nil_iff members]
    cases prune members with
    | nil => exact iff_of_true rfl rfl
    | cons y ys => exact iff_of_false nofun nofun
  | filter f =>
    rw [pruned, filters, List.forall_mem_singleton]
    cases f.isLive with
    | false => exact iff_of_true rfl rfl
    | true => exact iff_of_false nofun nofun

theorem prune_eq_nil_iff (xs : List Criterion) : prune xs = [] ↔ ∀ f ∈ allFilters xs, f.isLive = false := by
  cases xs with
  | nil =>
    rw [prune, allFilters]
    exact iff_of_true rfl nofun
  | cons x xs =>
    rw [prune, allFilters, List.append_eq_nil_iff, List.forall_mem_append, ← pruned_eq_none_iff x,
      ← prune_eq_nil_iff xs, Option.toList_eq_nil_iff]

end

/-- Both a clause and a group are written with a text of their own. -/
theorem evident_addTo (hc : c.Evident) {x : Criterion} (h : addTo c x = .ok d) : d.Evident := by
  cases x with
  | group members op =>
    rw [addTo] at h
    obtain ⟨inner, -, h⟩ := bind_eq_ok h
    cases h
    exact hc.apply (.group op (some inner)) trivial
  | filter f =>
    rw [addTo] at h
    obtain ⟨g, hg, h⟩ := bind_eq_ok h
    cases h
    obtain ⟨o, -, ⟨a, b, -, -, rfl⟩ | ⟨-, rfl⟩⟩ := Filter.clause_eq_ok hg
    · exact hc.apply (.guarded _) (o.clause_ne_empty f.column)
    · exact hc.apply (.guarded _) (o.clause_ne_empty f.column)

theorem evident_addAll (hc : c.Evident) {xs : List Criterion} (h : addAll c xs = .ok d) : d.Evident := by
  induction xs generalizing c with
  | nil =>
    rw [addAll] at h
    cases h
    exact hc
  | cons x xs ih =>
    rw [addAll] at h
    obtain ⟨e, hx, hxs⟩ := bind_eq_ok h
    exact ih (evident_addTo hc hx) hxs

variable {criteria : List Criterion} {w : Condition}

theorem isEmpty_condition_iff (h : condition criteria = .ok w) :
    w.isEmpty = true ↔ ∀ f ∈ allFilters criteria, f.isLive = false := by
  obtain ⟨rfl, -⟩ := addAll_eq_ok criteria h
  rw [isEmpty_attachAll_empty, List.isEmpty_iff, prune_eq_nil_iff]

theorem sql_condition_eq_empty_iff (h : condition criteria = .ok w) :
    w.sql = "" ↔ ∀ f ∈ allFilters criteria, f.isLive = false := by
  have hevident := evident_addAll Condition.evident_empty h
  rw [← hevident.isEmpty_iff_sql, isEmpty_condition_iff h]

end Criterion

namespace Document

/-- What an UPDATE or DELETE document writes whatever its criteria are, and the criteria. -/
def unfiltered? : Document → Option (Fragment × List Criterion)
  | .select _ => none
  | .update d =>
    some (⟨"UPDATE " ++ d.table ++ " SET " ++ Assignment.texts d.assignments, d.assignments.map Assignment.value⟩,
      d.filters)
  | .delete d => some (⟨"DELETE FROM " ++ d.table, []⟩, d.filters)

variable {d : Document} {f : Fragment} {criteria : List Criterion}

theorem filters_of_unfiltered? (hd : d.unfiltered? = some (f, criteria)) :
    d.filters = Criterion.allFilters criteria := by
  cases d with
  | select => cases hd
  | update | delete =>
    cases hd
    rfl

theorem statement_of_condition (hd : d.unfiltered? = some (f, criteria)) {w : Condition}
    (hw : Criterion.condition criteria = .ok w) :
    d.statement = .ok ⟨f.sql ++ w.predicateText "WHERE", f.values ++ w.values⟩ := by
  cases d with
  | select => cases hd
  | update d =>
    cases hd
    exact statement_update hw
  | delete d =>
    cases hd
    exact statement_delete hw

theorem statement_of_condition_empty (hd : d.unfiltered? = some (f, criteria))
    (hw : Criterion.condition criteria = .ok .empty) : d.statement = .ok f := by
  rw [statement_of_condition hd hw]
  apply congrArg Except.ok
  exact Fragment.append_empty f

theorem statement_of_condition_written (hd : d.unfiltered? = some (f, criteria)) {g : Fragment}
    (hw : Criterion.condition criteria = .ok (.written g)) :
    d.statement = .ok ⟨f.sql ++ " WHERE " ++ g.sql, f.values ++ g.values⟩ := by
  rw [statement_of_condition hd hw, String.append_assoc]
  rfl

/-- The keyword makes a statement longer. -/
theorem statement_ne_of_condition_written (hd : d.unfiltered? = some (f, criteria)) {g : Fragment}
    (hw : Criterion.condition criteria = .ok (.written g)) : d.statement ≠ .ok f := by
  rw [statement_of_condition_written hd hw]
  intro h
  have hlength := congrArg (fun q => q.sql.length) (Except.ok.inj h)
  simp only [String.length_append] at hlength
  have hkeyword : " WHERE ".length = 7 := rfl
  omega

/-- The condition is written exactly if some filter applies, it has a text then, and its values stand behind
the assigned ones. The statement ends before it exactly if every filter is missing. -/
theorem statement_eq_unfiltered_iff (hd : d.unfiltered? = some (f, criteria))
    (hfault : ∀ g ∈ d.filters, g.fault = none) :
    ∃ w, Criterion.condition criteria = .ok w ∧
      ((∃ g ∈ d.filters, g.isLive = true) →
        w.sql ≠ "" ∧ d.statement = .ok ⟨f.sql ++ " WHERE " ++ w.sql, f.values ++ w.values⟩) ∧
      (d.statement = .ok f ↔ ∀ g ∈ d.filters, g.isLive = false) := by
  rw [filters_of_unfiltered? hd] at hfault ⊢
  obtain ⟨w, hw⟩ := Criterion.exists_condition (List.findSome?_eq_none_iff.mpr hfault)
  have hempty := Criterion.isEmpty_condition_iff hw
  refine ⟨w, hw, ?_, ?_⟩
  · rintro ⟨g, hg, hlive⟩
    have hnot : ¬ ∀ g ∈ Criterion.allFilters criteria, g.isLive = false := by
      intro hall
      rw [hall g hg] at hlive
      cases hlive
    cases w with
    | empty => exact absurd (hempty.mp rfl) hnot
    | written q =>
      have hsql := mt (Criterion.sql_condition_eq_empty_iff hw).mp hnot
      exact ⟨hsql, statement_of_condition_written hd hw⟩
  · rw [← hempty]
    cases w with
    | empty => exact iff_of_true (statement_of_condition_empty hd hw) rfl
    | written q => exact iff_of_false (statement_ne_of_condition_written hd hw) nofun

/-- The only filter that applies stands in a group of a group. -/
def correction : Document := .update {
  table := "hero"
  assignments := [⟨"city", .null⟩, ⟨"age", .int 3⟩]
  filters := [.filter ⟨"name", "=", some (.scalar (.text "")), none, .and⟩,
    .group [.group [.filter ⟨"id", "in", some (.list [.int 1, .int 2]), none, .and⟩] .or,
      .filter ⟨"age", "between", none, some [.int 1, .null], .and⟩] .or] }

theorem statement_eq_unfiltered_iff_correction :
    (∀ g ∈ correction.filters, g.fault = none) ∧ (∃ g ∈ correction.filters, g.isLive = true) ∧
      correction.statement =
        .ok ⟨"UPDATE hero SET city = ?, age = ? WHERE ((id IN (1,2)))", [.null, .int 3]⟩ := by
  have hfault : ∀ g ∈ correction.filters, g.fault = none := by decide
  have hlive : ∃ g ∈ correction.filters, g.isLive = true := by decide
  obtain ⟨w, hw, hwritten, -⟩ := statement_eq_unfiltered_iff (d := correction) rfl hfault
  have hcondition : w = .written ⟨"((id IN (1,2)))", []⟩ := (Except.ok.inj hw).symm
  obtain ⟨-, hstatement⟩ := hwritten hlive
  refine ⟨hfault, hlive, hstatement.trans ?_⟩
  subst hcondition
  exact congrArg Except.ok (Fragment.eq_mk (by decide +kernel) rfl)

end Document

end BoundSql

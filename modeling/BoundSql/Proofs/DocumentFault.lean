import BoundSql.Proofs.Criteria.Fault
import BoundSql.Proofs.StatementText

/-!
# Which documents are refused

Only a filter can be at fault. The source of a SELECT document is always written, so a window always finds
the place of its column.
-/

namespace BoundSql

variable {e : DocumentError}

namespace SelectDocument

variable {d : SelectDocument} {w h : Condition}

theorem exists_splitFrom?_base (d : SelectDocument) (w h : Condition) :
    ∃ a b, (d.base w h).splitFrom? = some (a, b) := by
  apply Select.exists_splitFrom?
  obtain ⟨rest, htail⟩ := d.tail_eq w h
  rw [fragment_base, htail]
  refine ⟨d.head.toList, rest.toList, ?_⟩
  simp only [String.toList_append, List.append_assoc]

theorem exists_select (hw : Criterion.condition d.filters = .ok w) (hh : Criterion.condition d.having = .ok h) :
    ∃ s, d.select = .ok s := by
  rw [select_eq hw hh]
  cases d.window with
  | none => exact ⟨_, rfl⟩
  | some v =>
    obtain ⟨a, b, hsplit⟩ := d.exists_splitFrom?_base w h
    dsimp only
    rw [Select.window_of_splitFrom? hsplit]
    exact ⟨_, rfl⟩

theorem select_eq_error_iff : d.select = .error e ↔ (Document.select d).filters.findSome? Filter.fault = some e := by
  rw [Document.filters, List.findSome?_append]
  cases hw : Criterion.condition d.filters with
  | error e' =>
    have hselect : d.select = .error e' := by
      rw [select, hw]
      rfl
    rw [hselect, Criterion.condition_eq_error_iff.mp hw, Option.some_or, Option.some_inj, Except.error.injEq]
  | ok w =>
    rw [Criterion.findSome?_fault_of_condition hw, Option.none_or, ← Criterion.condition_eq_error_iff]
    cases hh : Criterion.condition d.having with
    | error e' =>
      have hselect : d.select = .error e' := by
        rw [select, hw, hh]
        rfl
      rw [hselect, Except.error.injEq, Except.error.injEq]
    | ok h =>
      obtain ⟨s, hs⟩ := exists_select hw hh
      rw [hs]
      exact ⟨nofun, nofun⟩

end SelectDocument

namespace Document

theorem statement_eq_error_iff_findSome? (d : Document) :
    d.statement = .error e ↔ d.filters.findSome? Filter.fault = some e := by
  cases d with
  | select d =>
    rw [statement, DocumentError.map_eq_error_iff, SelectDocument.select_eq_error_iff]
  | update d =>
    rw [statement, DocumentError.map_eq_error_iff, UpdateDocument.update, DocumentError.bind_pure_eq_error_iff]
    exact Criterion.condition_eq_error_iff
  | delete d =>
    rw [statement, DocumentError.map_eq_error_iff, DeleteDocument.delete, DocumentError.bind_pure_eq_error_iff]
    exact Criterion.condition_eq_error_iff

/-- A document is refused exactly for the first of its faulty filters, those of WHERE before those of HAVING,
and never for the place of its window. -/
theorem statement_eq_error_iff (d : Document) :
    ((∃ e, d.statement = .error e) ↔ ∃ f ∈ d.filters, f.fault ≠ none) ∧
      (∀ e, d.statement = .error e ↔
        ∃ before f after, d.filters = before ++ f :: after ∧ f.fault = some e ∧ ∀ g ∈ before, g.fault = none) ∧
      ∀ sql, d.statement ≠ .error (.assembly (.missingFrom sql)) := by
  refine ⟨?_, ?_, ?_⟩
  · simp only [statement_eq_error_iff_findSome?]
    rw [← Option.ne_none_iff_exists', Ne, List.findSome?_eq_none_iff]
    simp only [Classical.not_forall, exists_prop]
  · intro e
    rw [statement_eq_error_iff_findSome?]
    exact List.findSome?_eq_some_iff
  · intro sql hmissing
    have hfirst := (statement_eq_error_iff_findSome? d).mp hmissing
    obtain ⟨f, -, hfault⟩ := List.exists_of_findSome?_eq_some hfirst
    exact f.fault_ne_missingFrom sql hfault

end Document

end BoundSql

import BoundSql.Proofs.Criteria.Filter

/-!
# Faulty filters

A filter is looked at even if its clause drops out, or the group around it. The first fault ends the
translation.
-/

namespace BoundSql

variable {e : DocumentError}

theorem DocumentError.bind_pure_eq_error_iff {α β : Type} {x : Except DocumentError α} {g : α → β} :
    (do return g (← x)) = .error e ↔ x = .error e := by
  cases x with
  | ok a => exact ⟨nofun, nofun⟩
  | error e' =>
    constructor
    · intro h
      cases h
      rfl
    · intro h
      cases h
      rfl

theorem DocumentError.map_eq_error_iff {α β : Type} {x : Except DocumentError α} {g : α → β} :
    g <$> x = .error e ↔ x = .error e := bind_pure_eq_error_iff

namespace Filter

/-- What is wrong with a filter. An unknown operator comes before the number of operands. -/
def fault (f : Filter) : Option DocumentError :=
  if Operator.ofName? f.op = none then some (.assembly (.unknownOperator f.op))
  else if Operator.takesPair f.op then
    if f.values.map List.length = some 2 then none else some (.pairExpected f.column f.op)
  else if f.values.isSome then some (.singleExpected f.column f.op)
  else none

variable {f : Filter}

/-- A filter without a fault stands for a clause, any other one for its fault. -/
theorem clause_cases (f : Filter) :
    (f.fault = none ∧ ∃ g, f.clause = .ok g) ∨ ∃ e, f.fault = some e ∧ f.clause = .error e := by
  cases hname : Operator.ofName? f.op with
  | none =>
    refine .inr ⟨.assembly (.unknownOperator f.op), ?_, ?_⟩
    · rw [fault, if_pos hname]
    · rw [clause, Operator.lookup_eq_error_iff.mpr ⟨hname, rfl⟩]
      rfl
  | some o =>
    have hlookup : DocumentError.lift (Operator.lookup f.op) = .ok o := by
      rw [Operator.lookup_eq_ok_iff.mpr hname]
      rfl
    rw [fault, hname, if_neg (Option.some_ne_none o), clause, hlookup]
    simp only [bind, Except.bind]
    by_cases hpair : Operator.takesPair f.op = true
    · rw [if_pos hpair, if_pos hpair]
      match f.values with
      | some [a, b] => exact .inl ⟨rfl, _, rfl⟩
      | none => exact .inr ⟨_, rfl, rfl⟩
      | some [] => exact .inr ⟨_, rfl, rfl⟩
      | some [a] => exact .inr ⟨_, rfl, rfl⟩
      | some (a :: b :: c :: rest) => exact .inr ⟨_, if_neg (by simp), rfl⟩
    · rw [if_neg hpair, if_neg hpair]
      cases f.values with
      | none => exact .inl ⟨rfl, _, rfl⟩
      | some values => exact .inr ⟨_, rfl, rfl⟩

theorem clause_eq_error_iff : f.clause = .error e ↔ f.fault = some e := by
  rcases clause_cases f with ⟨hnone, g, hg⟩ | ⟨e', hsome, he⟩
  · simp [hnone, hg]
  · simp [hsome, he]

theorem fault_ne_missingFrom (f : Filter) (sql : String) : f.fault ≠ some (.assembly (.missingFrom sql)) := by
  unfold fault
  split
  · simp
  · split
    · split <;> simp
    · split <;> simp

end Filter

namespace Criterion

mutual

/-- Whatever was written before, the first fault of a criterion is the error. -/
theorem addTo_eq_error_iff {e : DocumentError} (c : Condition) (x : Criterion) :
    addTo c x = .error e ↔ x.filters.findSome? Filter.fault = some e := by
  cases x with
  | group members op =>
    rw [addTo, filters, DocumentError.bind_pure_eq_error_iff]
    exact addAll_eq_error_iff .empty members
  | filter f =>
    rw [addTo, filters, DocumentError.bind_pure_eq_error_iff, Filter.clause_eq_error_iff,
      List.findSome?_singleton]

theorem addAll_eq_error_iff {e : DocumentError} (c : Condition) (xs : List Criterion) :
    addAll c xs = .error e ↔ (allFilters xs).findSome? Filter.fault = some e := by
  cases xs with
  | nil => simp [addAll, allFilters]
  | cons x xs =>
    rw [addAll, allFilters, List.findSome?_append]
    cases hfault : x.filters.findSome? Filter.fault with
    | some e' =>
      rw [(addTo_eq_error_iff c x).mpr hfault, Option.some_or, Option.some_inj]
      exact ⟨Except.error.inj, congrArg Except.error⟩
    | none =>
      cases hx : addTo c x with
      | ok d =>
        rw [Option.none_or]
        exact addAll_eq_error_iff d xs
      | error e' =>
        rw [(addTo_eq_error_iff c x).mp hx] at hfault
        cases hfault

end

variable {criteria : List Criterion}

theorem condition_eq_error_iff :
    condition criteria = .error e ↔ (allFilters criteria).findSome? Filter.fault = some e :=
  addAll_eq_error_iff .empty criteria

theorem findSome?_fault_of_condition {c : Condition} (h : condition criteria = .ok c) :
    (allFilters criteria).findSome? Filter.fault = none := by
  cases hfault : (allFilters criteria).findSome? Filter.fault with
  | none => rfl
  | some e =>
    rw [condition_eq_error_iff.mpr hfault] at h
    cases h

theorem exists_condition (h : (allFilters criteria).findSome? Filter.fault = none) :
    ∃ c, condition criteria = .ok c := by
  cases hc : condition criteria with
  | ok c => exact ⟨c, rfl⟩
  | error e =>
    rw [condition_eq_error_iff.mp hc] at h
    cases h

end Criterion

end BoundSql

import BoundSql.Proofs.ConditionText
import BoundSql.Proofs.Criteria.Filter

/-!
# Presence before and after conversion

A caller may convert a value before handing it over, and documents always do. The converted value is present
exactly if the value itself is, so the default checker decides alike and the same clause is written or left out.
-/

namespace BoundSql

/-! ## One value -/

namespace Candidate

/-- The candidate of a caller who has converted it. -/
def converted (v : Candidate) : Candidate := .operand v.toOperand

/-- What a candidate binds behind its clause. A collection is written, a query brings its own values. -/
def bound : Candidate → List Value
  | scalar s => [s.toValue]
  | text s => [.text s]
  | value v => [v]
  | optional b => [b.elim .null Bindable.toValue]
  | items _ => []
  | query q => q.values
  | operand o => o.values

theorem isPresent_toOperand (v : Candidate) : v.toOperand.isPresent = v.isPresent := by
  cases v with
  | scalar s => exact s.isPresent_toValue
  | optional b => exact Option.isSome_map
  | items elements =>
    rw [toOperand, Operand.isPresent, isPresent, List.isEmpty_map]
  | text | value | query | operand => rfl

theorem isPresent_converted (v : Candidate) : v.converted.isPresent = v.isPresent := v.isPresent_toOperand

theorem values_toOperand (v : Candidate) : v.toOperand.values = v.bound := by
  cases v with
  | optional b => cases b <;> rfl
  | _ => rfl

end Candidate

/-! ## One call -/

/-- The verdict on a value does not depend on its conversion. -/
def Checker.Stable (accepts : Checker) : Prop := ∀ i v, accepts i v.converted = accepts i v

theorem Checker.valid_stable : valid.Stable := fun _ v => v.isPresent_converted

theorem Checker.Stable.verdicts_converted {accepts : Checker} (h : accepts.Stable) (i : Nat) (cs : List Candidate) :
    accepts.verdicts i (cs.map Candidate.converted) = accepts.verdicts i cs := by
  induction cs generalizing i with
  | nil => rfl
  | cons v cs ih => rw [List.map_cons, verdicts, verdicts, h i v, ih]

namespace Condition

namespace Guarded

def converted (g : Guarded) : Guarded := { g with candidates := g.candidates.map Candidate.converted }

theorem accepted_converted {g : Guarded} (h : g.checker.Stable) : g.converted.accepted = g.accepted :=
  congrArg (·.all id) (h.verdicts_converted 0 g.candidates)

theorem piece_converted (g : Guarded) : g.converted.piece = g.piece := by
  unfold piece converted
  rw [List.map_map]
  rfl

theorem values_piece (g : Guarded) : g.piece.values = g.candidates.flatMap Candidate.bound := by
  rw [← Call.body_guarded]
  exact congrArg (g.candidates.flatMap ·) (funext Candidate.values_toOperand)

end Guarded

theorem guarded_converted (c : Condition) {g : Guarded} (h : g.checker.Stable) :
    c.guarded g.converted = c.guarded g := by
  unfold guarded
  rw [Guarded.accepted_converted h, Guarded.piece_converted]
  rfl

theorem values_joint (c : Condition) (op : Connective) : (c.joint op).values = [] := by
  cases c <;> rfl

theorem values_attach (c : Condition) (op : Connective) (piece : Fragment) :
    (c.attach op piece).values = c.values ++ piece.values := by
  show c.values ++ ((c.joint op).values ++ piece.values) = c.values ++ piece.values
  rw [values_joint, List.nil_append]

/-- A clause that is written binds what its values bind. -/
theorem values_guarded_of_accepted (c : Condition) {g : Guarded} (h : g.accepted = true) :
    (c.guarded g).values = c.values ++ g.candidates.flatMap Candidate.bound := by
  rw [guarded, if_pos h, values_attach, Guarded.values_piece]

/-- Converting the values of a clause changes neither whether the default checker accepts them nor what is
written, and each value binds what its type says. -/
theorem guarded_valid_converted (c : Condition) (op : Connective) (column : String) (maker : String → String)
    (vs : List Candidate) :
    (∀ v : Candidate, v.toOperand.isPresent = v.isPresent) ∧
      c.guarded ⟨op, column, maker, vs.map Candidate.converted, Checker.valid⟩ =
        c.guarded ⟨op, column, maker, vs, Checker.valid⟩ ∧
      (vs.all Candidate.isPresent = true →
        (c.guarded ⟨op, column, maker, vs, Checker.valid⟩).isEmpty = false ∧
          (c.guarded ⟨op, column, maker, vs, Checker.valid⟩).values = c.values ++ vs.flatMap Candidate.bound) ∧
      (vs.all Candidate.isPresent = false → c.guarded ⟨op, column, maker, vs, Checker.valid⟩ = c) := by
  let g : Guarded := ⟨op, column, maker, vs, Checker.valid⟩
  have haccepted : g.accepted = vs.all Candidate.isPresent := Guarded.accepted_valid op column maker vs
  refine ⟨Candidate.isPresent_toOperand, c.guarded_converted (g := g) Checker.valid_stable, ?_, ?_⟩
  · intro hpresent
    rw [← haccepted] at hpresent
    refine ⟨?_, c.values_guarded_of_accepted hpresent⟩
    rw [guarded, if_pos hpresent]
    rfl
  · intro habsent
    rw [← haccepted] at habsent
    exact if_neg (Bool.eq_false_iff.mp habsent)

/-! ## Programs -/

namespace Call

/-- The same call with the values of its clause converted. -/
def converted : Call → Call
  | guarded g => guarded g.converted
  | call => call

/-- The checker of a guarded clause does not look at more than the converted value shows. -/
def Stable : Call → Prop
  | guarded g => g.checker.Stable
  | _ => True

end Call

theorem apply_converted (c : Condition) {call : Call} (h : call.Stable) : c.apply call.converted = c.apply call := by
  cases call with
  | guarded g => exact c.guarded_converted h
  | _ => rfl

/-- Conversion makes no difference to a condition, wherever in its calls it takes place. -/
theorem run_converted (c : Condition) {calls : List Call} (h : ∀ call ∈ calls, call.Stable) :
    c.run (calls.map Call.converted) = c.run calls := by
  induction calls generalizing c with
  | nil => rfl
  | cons call calls ih =>
    obtain ⟨hcall, hcalls⟩ := List.forall_mem_cons.mp h
    rw [List.map_cons, run_cons, run_cons, apply_converted c hcall, ih (c.apply call) hcalls]

end Condition

/-! ## Documents -/

namespace Filter

variable {f : Filter} {g : Condition.Guarded}

/-- The operands of a filter as a program hands them over. -/
def native (f : Filter) : List Candidate :=
  if Operator.takesPair f.op then (f.values.getD []).map .value
  else
    match f.value with
    | none => [.value .null]
    | some (.list items) => [.items (items.map .value)]
    | some (.scalar v) => [.value v]

theorem exists_native (h : Operator.takesPair f.op = false) : ∃ v, f.native = [v] ∧ v.toOperand = f.operand := by
  rw [native, h, if_neg Bool.false_ne_true]
  unfold operand
  cases f.value with
  | none => exact ⟨_, rfl, rfl⟩
  | some o =>
    cases o with
    | list items =>
      refine ⟨_, rfl, congrArg Operand.list ?_⟩
      rw [List.map_map]
      rfl
    | scalar v => exact ⟨_, rfl, rfl⟩

/-- The clause of a filter is the one that its operands give without conversion. -/
theorem guarded_native (c : Condition) (h : f.clause = .ok g) :
    c.guarded { g with candidates := f.native } = c.guarded g := by
  obtain ⟨o, -, ⟨a, b, hpair, hvalues, rfl⟩ | ⟨hsingle, rfl⟩⟩ := clause_eq_ok h
  · rw [native, if_pos hpair, hvalues]
    rfl
  · obtain ⟨v, hv, hoperand⟩ := exists_native hsingle
    rw [hv, ← hoperand]
    exact (c.guarded_converted (g := ⟨f.connective, f.column, o.clause, [v], Checker.valid⟩)
      Checker.valid_stable).symm

end Filter

namespace Criterion

open Condition (Call)

mutual

/-- The call that a criterion stands for, its operands as a program hands them over. -/
def call : Criterion → Except DocumentError Call
  | .group members op => do return .group op (some (Condition.run .empty (← calls members)))
  | .filter f => do return .guarded { ← f.clause with candidates := f.native }

def calls : List Criterion → Except DocumentError (List Call)
  | [] => .ok []
  | x :: xs => do return (← x.call) :: (← calls xs)

end

mutual

theorem addTo_eq_apply_call (c : Condition) (x : Criterion) : addTo c x = c.apply <$> x.call := by
  cases x with
  | group members op =>
    rw [addTo, call, addAll_eq_run_calls .empty members]
    cases calls members <;> rfl
  | filter f =>
    rw [addTo, call]
    cases hclause : f.clause with
    | error e => rfl
    | ok g => exact congrArg Except.ok (Filter.guarded_native c hclause).symm

/-- A condition of a document is what a program makes of the same values. -/
theorem addAll_eq_run_calls (c : Condition) (xs : List Criterion) : addAll c xs = c.run <$> calls xs := by
  cases xs with
  | nil =>
    rw [addAll, calls]
    rfl
  | cons x xs =>
    have hrest := fun d => addAll_eq_run_calls d xs
    rw [addAll, calls, addTo_eq_apply_call c x, funext hrest]
    cases x.call with
    | error e => rfl
    | ok call => cases calls xs <;> rfl

end

end Criterion

end BoundSql

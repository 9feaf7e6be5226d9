import BoundSql.Document.Statement
import BoundSql.Proofs.OperatorNames

/-!
# Filters

What a filter comes to: whether it is left out, the text that is written for it, and what that text binds.
-/

namespace BoundSql

open Condition

theorem bind_eq_ok {ε α β : Type} {x : Except ε α} {k : α → Except ε β} {b : β} (h : x >>= k = .ok b) :
    ∃ a, x = .ok a ∧ k a = .ok b := by
  cases x with
  | ok a => exact ⟨a, rfl, h⟩
  | error e => cases h

theorem map_eq_ok {ε α β : Type} {x : Except ε α} {g : α → β} {b : β} (h : g <$> x = .ok b) :
    ∃ a, x = .ok a ∧ g a = b := by
  cases x with
  | ok a =>
    cases h
    exact ⟨a, rfl, rfl⟩
  | error e => cases h

theorem DocumentError.lift_eq_ok {α : Type} {x : Except AssemblyError α} {a : α} (h : lift x = .ok a) :
    x = .ok a := by
  cases x with
  | ok b =>
    cases h
    rfl
  | error e => cases h

theorem Checker.all_verdicts_valid (i : Nat) (cs : List Candidate) :
    (Checker.valid.verdicts i cs).all id = cs.all Candidate.isPresent := by
  have hpresent : (cs.zipIdx i).all (fun p => Checker.valid p.2 p.1) =
      (cs.zipIdx i).all (Candidate.isPresent ∘ Prod.fst) := rfl
  rw [all_verdicts, hpresent, ← List.all_map, List.zipIdx_map_fst]

theorem Condition.Guarded.accepted_valid (op : Connective) (column : String) (maker : String → String)
    (cs : List Candidate) :
    (Guarded.mk op column maker cs Checker.valid).accepted = cs.all Candidate.isPresent :=
  Checker.all_verdicts_valid 0 cs

def FilterOperand.isPresent : FilterOperand → Bool
  | list items => !items.isEmpty
  | scalar v => v.isPresent

namespace Filter

/-- Everything that the operator takes is given and has a meaning. -/
def isLive (f : Filter) : Bool :=
  if Operator.takesPair f.op then f.values.any (·.all Value.isPresent)
  else f.value.any FilterOperand.isPresent

/-- The list that is written behind the operator. -/
def listed (f : Filter) : Option (List Value) :=
  match f.value with
  | some (.list items) => if Operator.takesPair f.op then none else some items
  | _ => none

def rendered (f : Filter) : String :=
  (Operator.ofName? f.op).elim "" (·.clause f.column) ++
    f.listed.elim "" fun items => Literal.list (items.map Value.inline)

/-- What is bound to the placeholders of the operator. -/
def bound (f : Filter) : List Value :=
  if Operator.takesPair f.op then f.values.getD []
  else
    match f.value with
    | some (.scalar v) => [v]
    | _ => []

variable {f : Filter} {g : Guarded}

theorem isPresent_operand (f : Filter) : f.operand.isPresent = f.value.any FilterOperand.isPresent := by
  unfold operand
  cases f.value with
  | none => rfl
  | some o =>
    cases o with
    | list items => cases items <;> rfl
    | scalar v => rfl

theorem clause_eq_ok (h : f.clause = .ok g) :
    ∃ o, Operator.ofName? f.op = some o ∧
      ((∃ a b, Operator.takesPair f.op = true ∧ f.values = some [a, b] ∧
          g = ⟨f.connective, f.column, o.clause, [.value a, .value b], Checker.valid⟩) ∨
        (Operator.takesPair f.op = false ∧
          g = ⟨f.connective, f.column, o.clause, [.operand f.operand], Checker.valid⟩)) := by
  obtain ⟨o, ho, h⟩ := bind_eq_ok h
  refine ⟨o, Operator.lookup_eq_ok_iff.mp (DocumentError.lift_eq_ok ho), ?_⟩
  split at h
  · rename_i hpair
    split at h
    · rename_i a b hvalues
      cases h
      exact .inl ⟨a, b, hpair, hvalues, rfl⟩
    · cases h
  · rename_i hpair
    split at h
    · cases h
    · cases h
      exact .inr ⟨by simpa using hpair, rfl⟩

theorem listed_of_takesPair (h : Operator.takesPair f.op = true) : f.listed = none := by
  unfold listed
  split
  · rw [if_pos h]
  · rfl

theorem accepted_clause (h : f.clause = .ok g) : g.accepted = f.isLive := by
  obtain ⟨o, -, ⟨a, b, hpair, hvalues, rfl⟩ | ⟨hsingle, rfl⟩⟩ := clause_eq_ok h
  · rw [Guarded.accepted_valid, isLive, if_pos hpair, hvalues]
    rfl
  · rw [Guarded.accepted_valid, isLive, hsingle]
    simp [Candidate.isPresent, isPresent_operand]

theorem connective_clause (h : f.clause = .ok g) : g.connective = f.connective := by
  obtain ⟨o, -, ⟨a, b, -, -, rfl⟩ | ⟨-, rfl⟩⟩ := clause_eq_ok h
  · rfl
  · rfl

theorem piece_clause (h : f.clause = .ok g) (hlive : f.isLive = true) :
    g.piece = ⟨f.rendered, f.bound⟩ := by
  obtain ⟨o, hname, ⟨a, b, hpair, hvalues, rfl⟩ | ⟨hsingle, rfl⟩⟩ := clause_eq_ok h
  · rw [rendered, hname, listed_of_takesPair hpair, bound, if_pos hpair, hvalues]
    exact (Fragment.text_append_mk _ [a, b]).trans (by simp)
  · rw [isLive, hsingle] at hlive
    rw [rendered, hname, listed, bound, hsingle]
    cases hvalue : f.value with
    | none =>
      rw [hvalue] at hlive
      cases hlive
    | some operand =>
      have hpiece : (Guarded.mk f.connective f.column o.clause [.operand f.operand] Checker.valid).piece =
          .text (o.clause f.column) ++ operand.toOperand.fragment := by
        rw [Filter.operand, hvalue]
        exact congrArg (Fragment.text (o.clause f.column) ++ ·) (Fragment.empty_append _)
      rw [hpiece]
      cases operand with
      | list items => rfl
      | scalar v => exact (Fragment.text_append_mk _ [v]).trans (by simp)

end Filter

end BoundSql

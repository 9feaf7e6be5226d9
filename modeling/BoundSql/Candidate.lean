import BoundSql.Fragment
import BoundSql.Literal

/-!
# Candidates

A guarded clause is written only if its value is meaningful. A `Candidate` is what a caller hands over, an
`Operand` what becomes of it: a bound value, a literal list or a subquery.
-/

namespace BoundSql

inductive Operand where
  | plain (v : Value)
  | optional (v : Option Value)
  | list (elements : List String)
  | subquery (q : Fragment)
  deriving BEq, Inhabited

namespace Operand

/-- Null, empty text, an empty list and an absent option are missing. -/
def isPresent : Operand → Bool
  | plain v => v.isPresent
  | optional v => v.isSome
  | list elements => !elements.isEmpty
  | subquery _ => true

/-- A list and a subquery are written; any other value is bound to a placeholder of its clause, an absent
one as null. -/
def fragment : Operand → Fragment
  | plain v => .bound v
  | optional v => .bound (v.getD .null)
  | list elements => .text (Literal.list elements)
  | subquery q => q.parens

end Operand

inductive Candidate where
  | scalar (s : Scalar)
  | text (s : String)
  | value (v : Value)
  | optional (b : Option Bindable)
  | items (elements : List Item)
  | query (q : Fragment)
  | operand (o : Operand)
  deriving Inhabited

namespace Candidate

def isPresent : Candidate → Bool
  | scalar _ => true
  | text s => s ≠ ""
  | value v => v.isPresent
  | optional b => b.isSome
  | items elements => !elements.isEmpty
  | query _ => true
  | operand o => o.isPresent

def toOperand : Candidate → Operand
  | scalar s => .plain s.toValue
  | text s => .plain (.text s)
  | value v => .plain v
  | optional b => .optional (b.map Bindable.toValue)
  | items elements => .list (elements.map Item.display)
  | query q => .subquery q
  | operand o => o

end Candidate

/-- A test on candidates. The position tells the first value of a pair from the second. -/
abbrev Checker := Nat → Candidate → Bool

namespace Checker

/-- Accepts what is present. -/
def valid : Checker := fun _ c => c.isPresent

/-- The verdicts on the values from position `i` on, up to the first rejection. -/
def verdicts (accepts : Checker) (i : Nat) : List Candidate → List Bool
  | [] => []
  | c :: cs => if accepts i c then true :: verdicts accepts (i + 1) cs else [false]

/-- The verdicts end with the first rejection, which is enough to reject. -/
theorem all_verdicts (accepts : Checker) (i : Nat) (cs : List Candidate) :
    (accepts.verdicts i cs).all id = (cs.zipIdx i).all fun p => accepts p.2 p.1 := by
  induction cs generalizing i with
  | nil => rfl
  | cons c cs ih =>
    rw [verdicts, List.zipIdx_cons, List.all_cons]
    dsimp only
    cases accepts i c with
    | true => exact ih (i + 1)
    | false => rfl

end Checker

end BoundSql

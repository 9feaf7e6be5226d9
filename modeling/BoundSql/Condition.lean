import BoundSql.Candidate

/-!
# Conditions

A boolean expression together with the values it binds. Clauses whose value is missing are left out, and
the first clause that is written never gets a leading `AND` or `OR`.
-/

namespace BoundSql

inductive Connective where
  | and
  | or
  deriving DecidableEq, Repr

def Connective.keyword : Connective → String
  | and => "AND"
  | or => "OR"

/-- Nothing has been written yet, or a fragment has, which may be of no text. -/
inductive Condition where
  | empty
  | written (fragment : Fragment)
  deriving BEq, Inhabited

namespace Condition

def isEmpty : Condition → Bool
  | empty => true
  | written _ => false

def fragment : Condition → Fragment
  | empty => {}
  | written f => f

def sql (c : Condition) : String := c.fragment.sql

def values (c : Condition) : List Value := c.fragment.values

/-- Appends a piece as it is. -/
def write (c : Condition) (piece : Fragment) : Condition :=
  written (c.fragment ++ piece)

@[simp] theorem fragment_written (f : Fragment) : (written f).fragment = f := rfl

theorem isEmpty_iff {c : Condition} : c.isEmpty = true ↔ c = empty := by
  cases c <;> simp [isEmpty]

/-- What separates a condition from its next clause. -/
def joint (c : Condition) (op : Connective) : Fragment :=
  match c with
  | empty => {}
  | written _ => .text (" " ++ op.keyword ++ " ")

/-- Appends a piece as a further clause. -/
def attach (c : Condition) (op : Connective) (piece : Fragment) : Condition :=
  c.write (c.joint op ++ piece)

/-- Fixed texts that callers put between raw pieces. -/
inductive Symbol where
  | equals
  | notEquals
  | greater
  | greaterEquals
  | lesser
  | lesserEquals
  | like
  | notLike
  | between
  | notBetween
  | and
  | or
  | isNull
  | isNotNull
  deriving DecidableEq, Repr

def Symbol.text : Symbol → String
  | equals => " = "
  | notEquals => " <> "
  | greater => " > "
  | greaterEquals => " >= "
  | lesser => " < "
  | lesserEquals => " <= "
  | like => " LIKE "
  | notLike => " NOT LIKE "
  | between => " BETWEEN "
  | notBetween => " NOT BETWEEN "
  | and => " AND "
  | or => " OR "
  | isNull => " IS NULL"
  | isNotNull => " IS NOT NULL"

/-- A clause that is written if a checker accepts all of its values. -/
structure Guarded where
  connective : Connective
  column : String
  maker : String → String
  candidates : List Candidate
  checker : Checker

namespace Guarded

def verdicts (g : Guarded) : List Bool := g.checker.verdicts 0 g.candidates

def accepted (g : Guarded) : Bool := g.verdicts.all id

def piece (g : Guarded) : Fragment :=
  .text (g.maker g.column) ++ .concat (g.candidates.map fun c => c.toOperand.fragment)

end Guarded

/-- One step of building a condition. -/
inductive Call where
  | text (s : String)
  | symbol (s : Symbol)
  | membership (negated : Bool) (operand : Operand)
  | existence (negated : Bool) (q : Fragment)
  | negate (other : Condition)
  | compound (other : Condition)
  | guarded (g : Guarded)
  /-- A group that is dropped when it is missing or empty. -/
  | group (op : Connective) (other : Option Condition)

/-- The clause of an operator as raw text. -/
def Call.compare (maker : String → String) (column : String) : Call := .text (maker column)

def group (c : Condition) (op : Connective) : Condition → Condition
  | empty => c
  | written f => c.attach op f.parens

def guarded (c : Condition) (g : Guarded) : Condition :=
  if g.accepted then c.attach g.connective g.piece else c

def apply (c : Condition) : Call → Condition
  | .text s => c.write (.text s)
  | .symbol s => c.write (.text s.text)
  | .membership n o => c.write (.text (if n then " NOT IN " else " IN ") ++ o.fragment)
  | .existence n q => c.write (.text (if n then "NOT EXISTS" else "EXISTS") ++ q.parens)
  | .negate other => c.write (.text "NOT " ++ other.fragment.parens)
  | .compound other => c.write other.fragment.parens
  | .guarded g => c.guarded g
  | .group op other => c.group op (other.getD .empty)

/-- Runs a program of calls. -/
def run (c : Condition) (calls : List Call) : Condition := calls.foldl apply c

@[simp] theorem run_nil (c : Condition) : c.run [] = c := rfl

@[simp] theorem run_cons (c : Condition) (call : Call) (calls : List Call) :
    c.run (call :: calls) = (c.apply call).run calls := rfl

theorem run_append (c : Condition) (p q : List Call) : c.run (p ++ q) = (c.run p).run q := by
  simp [run]

end Condition

/-- The condition behind a keyword, or nothing when it is empty. -/
def Condition.predicate (keyword : String) : Condition → Fragment
  | .empty => {}
  | .written f => .text (" " ++ keyword ++ " ") ++ f

end BoundSql

import BoundSql.Condition

/-!
# UPDATE and DELETE statements
-/

namespace BoundSql

/-- An UPDATE statement, with the number of assignments written so far. -/
structure Update where
  fragment : Fragment
  assignments : Nat
  deriving BEq, Inhabited

namespace Update

def ofTable (table : String) : Update :=
  ⟨.text ("UPDATE " ++ table ++ " SET "), 0⟩

/-- Assignments are never left out: an absent value sets the column to null. -/
def assign (u : Update) (column : String) (value : Value) : Update where
  fragment := u.fragment ++ .text (if 0 < u.assignments then ", " else "") ++
    .text (column ++ " = ?") ++ .bound value
  assignments := u.assignments + 1

def filter (u : Update) (c : Condition) : Update :=
  { u with fragment := u.fragment ++ c.predicate "WHERE" }

inductive Call where
  | assign (column : String) (value : Bindable)
  | filter (c : Condition)

def apply (u : Update) : Call → Update
  | .assign column value => u.assign column value.toValue
  | .filter c => u.filter c

def run (u : Update) (calls : List Call) : Update := calls.foldl apply u

@[simp] theorem fragment_filter (u : Update) (c : Condition) :
    (u.filter c).fragment = u.fragment ++ c.predicate "WHERE" := rfl

end Update

/-- A DELETE statement. -/
structure Delete where
  fragment : Fragment
  deriving BEq, Inhabited

namespace Delete

def ofTable (table : String) : Delete := ⟨.text ("DELETE FROM " ++ table)⟩

/-- Without a condition every row is deleted. -/
def filter (d : Delete) (c : Condition) : Delete :=
  ⟨d.fragment ++ c.predicate "WHERE"⟩

@[simp] theorem fragment_filter (d : Delete) (c : Condition) :
    (d.filter c).fragment = d.fragment ++ c.predicate "WHERE" := rfl

end Delete

end BoundSql

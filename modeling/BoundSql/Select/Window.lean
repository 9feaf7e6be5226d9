import BoundSql.Error
import BoundSql.Select
import BoundSql.Text.Split

/-!
# Window pagination

A statement is paginated by numbering its rows: a column that numbers them is inserted before the first
` FROM`, the result becomes a subquery, and the rows outside the bounds are filtered out. The insertion
point is found by plain text search, also inside an expression or a literal.
-/

namespace BoundSql

/-- The function that numbers the rows. -/
inductive Numbering where
  | rowNumber
  | rank
  deriving DecidableEq, Repr, Inhabited

def Numbering.call : Numbering → String
  | rowNumber => "row_number()"
  | rank => "rank()"

/-- A negative bound is absent. -/
structure Window where
  numbering : Numbering := .rowNumber
  tableAlias : String
  rowAlias : String
  orderBy : String
  min : Int64 := -1
  max : Int64 := -1

namespace Window

/-- The column that numbers the rows. -/
def column (w : Window) : String :=
  "," ++ w.numbering.call ++ " OVER(ORDER BY " ++ w.orderBy ++ ") AS " ++ w.rowAlias

/-- The bounds that are given, the lower one first. -/
def bounds (w : Window) : List Fragment :=
  (if 0 ≤ w.min then [.text (w.rowAlias ++ " >= ?") ++ .bound (.int w.min)] else []) ++
    if 0 ≤ w.max then [.text (w.rowAlias ++ " < ?") ++ .bound (.int w.max)] else []

/-- The given bounds as a predicate. -/
def predicate (w : Window) : Fragment :=
  match w.bounds with
  | [] => {}
  | b :: bs => .text " WHERE " ++ b ++ .concat (bs.map (.text " AND " ++ ·))

end Window

/-- Where the first ` FROM` begins. -/
def Select.splitFrom? (s : Select) : Option (String × String) :=
  (Text.splitBefore? " FROM".toList [] s.fragment.sql.toList).map fun p =>
    (String.ofList p.1, String.ofList p.2)

def Select.window (s : Select) (w : Window) : Except AssemblyError Select :=
  match s.splitFrom? with
  | none => .error (.missingFrom s.fragment.sql)
  | some (before, rest) =>
    .ok ⟨.text "SELECT * FROM (" ++ ⟨before ++ w.column ++ rest, s.fragment.values⟩ ++
      .text (") AS " ++ w.tableAlias) ++ w.predicate, false⟩

namespace Select

/-- One step of building a statement. -/
inductive Step where
  | call (c : Call)
  | paginate (w : Window)

/-- A rewrite that fails leaves the statement as it was. -/
def advance (s : Select) : Step → Select
  | .call c => s.apply c
  | .paginate w =>
    match s.window w with
    | .ok t => t
    | .error _ => s

def proceed (s : Select) (steps : List Step) : Select := steps.foldl advance s

@[simp] theorem proceed_cons (s : Select) (step : Step) (steps : List Step) :
    s.proceed (step :: steps) = (s.advance step).proceed steps := rfl

theorem advance_of_eq_ok {s t : Select} {w : Window} (h : s.window w = .ok t) :
    s.advance (.paginate w) = t := by
  rw [advance, h]

theorem advance_of_eq_error {s : Select} {w : Window} {e : AssemblyError} (h : s.window w = .error e) :
    s.advance (.paginate w) = s := by
  rw [advance, h]

theorem proceed_append (s : Select) (p q : List Step) : s.proceed (p ++ q) = (s.proceed p).proceed q := by
  simp [proceed]

end Select

end BoundSql

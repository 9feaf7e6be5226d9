import BoundSql.Condition

/-!
# SELECT statements

Every step appends to the statement in call order; steps are neither reordered nor checked against each
other. The field list, `GROUP BY` and `ORDER BY` are comma-separated lists that share one flag: it holds
while a further element needs a comma.
-/

namespace BoundSql

inductive JoinKind where
  | inner
  | left
  | right
  | full
  | natural
  | cross
  deriving DecidableEq, Repr

namespace JoinKind

def keyword : JoinKind → String
  | inner => "INNER JOIN"
  | left => "LEFT OUTER JOIN"
  | right => "RIGHT OUTER JOIN"
  | full => "FULL OUTER JOIN"
  | natural => "NATURAL JOIN"
  | cross => "CROSS JOIN"

def takesPredicate : JoinKind → Bool
  | natural => false
  | cross => false
  | _ => true

end JoinKind

/-- What a join adds to the sources of a statement. -/
inductive Source where
  | table (name : String)
  | query (q : Fragment) (tableAlias : String)
  deriving Inhabited

def Source.fragment : Source → Fragment
  | table name => .text name
  | query q tableAlias => q.parens ++ .text (" " ++ tableAlias)

structure Select where
  fragment : Fragment := .text "SELECT "
  listOpen : Bool := false
  deriving BEq, Inhabited

namespace Select

/-- Appends a piece and leaves the current list as it is. -/
def push (s : Select) (piece : Fragment) : Select :=
  { s with fragment := s.fragment ++ piece }

/-- Appends a piece that ends the current list. -/
def close (s : Select) (piece : Fragment) : Select :=
  ⟨s.fragment ++ piece, false⟩

/-- Appends an element to the current list. -/
def element (s : Select) (column : String) : Select :=
  ⟨s.fragment ++ .text (if s.listOpen then "," ++ column else column), true⟩

@[simp] theorem fragment_push (s : Select) (piece : Fragment) :
    (s.push piece).fragment = s.fragment ++ piece := rfl

@[simp] theorem listOpen_push (s : Select) (piece : Fragment) :
    (s.push piece).listOpen = s.listOpen := rfl

@[simp] theorem fragment_close (s : Select) (piece : Fragment) :
    (s.close piece).fragment = s.fragment ++ piece := rfl

def elements (s : Select) (columns : List String) : Select :=
  columns.foldl element s

/-- Starts a list behind a keyword. -/
def list (s : Select) (keyword column : String) : Select :=
  (s.close (.text keyword)).element column

def distinct (s : Select) : Select := s.push (.text "DISTINCT ")

def columnAlias (s : Select) (name : String) : Select := s.push (.text (" AS " ++ name))

def ascending (s : Select) : Select := s.push (.text " ASC")

def descending (s : Select) : Select := s.push (.text " DESC")

def groupBy (s : Select) (column : String) : Select := s.list " GROUP BY " column

def orderBy (s : Select) (column : String) : Select := s.list " ORDER BY " column

def fromTable (s : Select) (table : String) : Select :=
  s.close (.text (" FROM " ++ table))

def fromQuery (s : Select) (q : Fragment) (tableAlias : Option String) : Select :=
  s.close (.text " FROM " ++ q.parens ++ .text (tableAlias.elim "" (" " ++ ·)))

/-- A further source behind a comma. -/
def comma (s : Select) (source : Source) : Select :=
  s.push (.text "," ++ source.fragment)

def join (s : Select) (kind : JoinKind) (source : Source) : Select :=
  s.close (.text (" " ++ kind.keyword ++ " ") ++ source.fragment)

/-- The predicate of a join, or nothing when it is empty. -/
def on (s : Select) (c : Condition) : Select := s.push (c.predicate "ON")

/-- A join with an empty predicate is left out altogether. -/
def joinOn (s : Select) (kind : JoinKind) (source : Source) (c : Condition) : Select :=
  if c.isEmpty then s else (s.join kind source).on c

def filter (s : Select) (c : Condition) : Select := s.close (c.predicate "WHERE")

def having (s : Select) (c : Condition) : Select := s.close (c.predicate "HAVING")

def union (s : Select) (all : Bool) (other : Select) : Select :=
  s.close (.text (if all then " UNION ALL " else " UNION ") ++ other.fragment)

def offset (s : Select) (rows : UInt64) : Select :=
  s.close (.text (" OFFSET " ++ rows.toNat.repr ++ " ROWS"))

def fetch (s : Select) (rows : UInt64) : Select :=
  s.close (.text (" FETCH FIRST " ++ rows.toNat.repr ++ " ROWS ONLY"))

def limit (s : Select) (rows : UInt64) : Select :=
  s.close (.text (" LIMIT " ++ rows.toNat.repr))

/-- The form of `OFFSET` that goes with `LIMIT`. -/
def plainOffset (s : Select) (rows : UInt64) : Select :=
  s.close (.text (" OFFSET " ++ rows.toNat.repr))

/-- One step of building a statement, window pagination apart. -/
inductive Call where
  | distinct
  | elements (columns : List String)
  | columnAlias (name : String)
  | ascending
  | descending
  | groupBy (column : String)
  | orderBy (column : String)
  | fromTable (table : String)
  | fromQuery (q : Fragment) (tableAlias : Option String)
  | comma (source : Source)
  | join (kind : JoinKind) (source : Source)
  | joinOn (kind : JoinKind) (source : Source) (c : Condition)
  | on (c : Condition)
  | filter (c : Condition)
  | having (c : Condition)
  | union (all : Bool) (other : Select)
  | offset (rows : UInt64)
  | fetch (rows : UInt64)
  | limit (rows : UInt64)
  | plainOffset (rows : UInt64)

def apply (s : Select) : Call → Select
  | .distinct => s.distinct
  | .elements columns => s.elements columns
  | .columnAlias name => s.columnAlias name
  | .ascending => s.ascending
  | .descending => s.descending
  | .groupBy column => s.groupBy column
  | .orderBy column => s.orderBy column
  | .fromTable table => s.fromTable table
  | .fromQuery q tableAlias => s.fromQuery q tableAlias
  | .comma source => s.comma source
  | .join kind source => s.join kind source
  | .joinOn kind source c => s.joinOn kind source c
  | .on c => s.on c
  | .filter c => s.filter c
  | .having c => s.having c
  | .union all other => s.union all other
  | .offset rows => s.offset rows
  | .fetch rows => s.fetch rows
  | .limit rows => s.limit rows
  | .plainOffset rows => s.plainOffset rows

/-- Runs a program of calls. -/
def run (s : Select) (calls : List Call) : Select := calls.foldl apply s

@[simp] theorem run_nil (s : Select) : s.run [] = s := rfl

@[simp] theorem run_cons (s : Select) (call : Call) (calls : List Call) :
    s.run (call :: calls) = (s.apply call).run calls := rfl

theorem run_append (s : Select) (p q : List Call) : s.run (p ++ q) = (s.run p).run q := by
  simp [run]

end Select

end BoundSql

import BoundSql.Condition
import BoundSql.Operator
import BoundSql.Select.Window

/-!
# Statement documents

A document describes one statement as data. Its criteria are clauses that drop out when their operand is
missing, and groups that drop out when nothing in them is left.
-/

namespace BoundSql

/-- The operand of an operator that takes a single value. A list is written into the text. -/
inductive FilterOperand where
  | list (items : List Value)
  | scalar (v : Value)
  deriving Inhabited

structure Filter where
  column : String
  op : String
  value : Option FilterOperand := none
  /-- The operands of an operator that takes a pair. -/
  values : Option (List Value) := none
  connective : Connective := .and
  deriving Inhabited

inductive Criterion where
  | group (members : List Criterion) (connective : Connective)
  | filter (f : Filter)
  deriving Inhabited

structure Order where
  column : String
  descending : Bool := false
  deriving Inhabited

structure SelectDocument where
  table : String
  distinct : Bool := false
  /-- All columns when there are none. -/
  fields : List String := []
  filters : List Criterion := []
  groupBy : List String := []
  having : List Criterion := []
  orderBy : List Order := []
  offset : Option UInt64 := none
  fetch : Option UInt64 := none
  /-- Overrides `fetch`. -/
  limit : Option UInt64 := none
  /-- Applied last. -/
  window : Option Window := none

structure Assignment where
  column : String
  value : Value
  deriving Inhabited

structure UpdateDocument where
  table : String
  assignments : List Assignment
  filters : List Criterion := []

structure DeleteDocument where
  table : String
  filters : List Criterion := []

inductive StatementKind where
  | select
  | update
  | delete
  deriving DecidableEq, Repr

def StatementKind.keyword : StatementKind → String
  | select => "SELECT"
  | update => "UPDATE"
  | delete => "DELETE"

inductive Document where
  | select (d : SelectDocument)
  | update (d : UpdateDocument)
  | delete (d : DeleteDocument)

def Document.kind : Document → StatementKind
  | select _ => .select
  | update _ => .update
  | delete _ => .delete

mutual

/-- The filters of a criterion, from left to right. -/
def Criterion.filters : Criterion → List Filter
  | .group members _ => Criterion.allFilters members
  | .filter f => [f]

def Criterion.allFilters : List Criterion → List Filter
  | [] => []
  | c :: cs => c.filters ++ Criterion.allFilters cs

end

/-- The filters of a document, in the order in which they are translated. -/
def Document.filters : Document → List Filter
  | select d => Criterion.allFilters d.filters ++ Criterion.allFilters d.having
  | update d => Criterion.allFilters d.filters
  | delete d => Criterion.allFilters d.filters

end BoundSql

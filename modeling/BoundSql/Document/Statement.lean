import BoundSql.Document
import BoundSql.Update

/-!
# From documents to statements
-/

namespace BoundSql

/-- Why a document describes no statement. -/
inductive DocumentError where
  | assembly (e : AssemblyError)
  | pairExpected (column op : String)
  | singleExpected (column op : String)
  deriving DecidableEq, Repr

def DocumentError.message : DocumentError → String
  | assembly e => e.message
  | pairExpected column op =>
    "Filter on '" ++ column ++ "' with operator '" ++ op ++ "' needs exactly two values"
  | singleExpected column op =>
    "Filter on '" ++ column ++ "' with operator '" ++ op ++ "' takes a single value"

def DocumentError.lift {α : Type} : Except AssemblyError α → Except DocumentError α
  | .ok a => .ok a
  | .error e => .error (.assembly e)

def FilterOperand.toOperand : FilterOperand → Operand
  | list items => .list (items.map Value.inline)
  | scalar v => .plain v

namespace Filter

/-- A missing operand counts as null. -/
def operand (f : Filter) : Operand :=
  f.value.elim (.plain .null) FilterOperand.toOperand

/-- The clause that a filter stands for. Its operator must be known, and its operands must be as many as
the operator takes, even if the clause drops out. -/
def clause (f : Filter) : Except DocumentError Condition.Guarded := do
  let o ← DocumentError.lift (Operator.lookup f.op)
  if Operator.takesPair f.op then
    match f.values with
    | some [a, b] => .ok ⟨f.connective, f.column, o.clause, [.value a, .value b], Checker.valid⟩
    | _ => .error (.pairExpected f.column f.op)
  else if f.values.isSome then .error (.singleExpected f.column f.op)
  else .ok ⟨f.connective, f.column, o.clause, [.operand f.operand], Checker.valid⟩

end Filter

namespace Criterion

mutual

/-- Adds a criterion to a condition. -/
def addTo (c : Condition) : Criterion → Except DocumentError Condition
  | .group members op => do
    let inner ← addAll .empty members
    return c.group op inner
  | .filter f => do return c.guarded (← f.clause)

def addAll (c : Condition) : List Criterion → Except DocumentError Condition
  | [] => .ok c
  | x :: xs => do addAll (← addTo c x) xs

end

/-- The condition that a list of criteria stands for. -/
def condition (criteria : List Criterion) : Except DocumentError Condition :=
  addAll .empty criteria

end Criterion

namespace SelectDocument

/-- The field list and the source. -/
def source (d : SelectDocument) : Select :=
  let start : Select := if d.distinct then Select.distinct {} else {}
  (start.elements (if d.fields.isEmpty then ["*"] else d.fields)).fromTable d.table

def grouped (d : SelectDocument) (s : Select) : Select :=
  match d.groupBy with
  | [] => s
  | column :: columns => (s.groupBy column).elements columns

def direction (s : Select) (o : Order) : Select :=
  if o.descending then s.descending else s.ascending

def ordered (d : SelectDocument) (s : Select) : Select :=
  match d.orderBy with
  | [] => s
  | o :: os => os.foldl (fun s o => direction (s.element o.column) o) (direction (s.orderBy o.column) o)

def paginated (d : SelectDocument) (s : Select) : Select :=
  match d.limit with
  | some rows => d.offset.elim (s.limit rows) (s.limit rows).plainOffset
  | none =>
    let s := d.offset.elim s s.offset
    d.fetch.elim s s.fetch

/-- Both ways to bound the number of rows are given. -/
def ignoresFetch (d : SelectDocument) : Bool := d.limit.isSome && d.fetch.isSome

def select (d : SelectDocument) : Except DocumentError Select := do
  let s := d.source.filter (← Criterion.condition d.filters)
  let s := (d.grouped s).having (← Criterion.condition d.having)
  let s := d.paginated (d.ordered s)
  match d.window with
  | none => return s
  | some w => DocumentError.lift (s.window w)

end SelectDocument

def UpdateDocument.update (d : UpdateDocument) : Except DocumentError Update := do
  let u := d.assignments.foldl (fun u a => u.assign a.column a.value) (Update.ofTable d.table)
  return u.filter (← Criterion.condition d.filters)

def DeleteDocument.delete (d : DeleteDocument) : Except DocumentError Delete := do
  return (Delete.ofTable d.table).filter (← Criterion.condition d.filters)

/-- The statement that a document describes. -/
def Document.statement : Document → Except DocumentError Fragment
  | select d => Select.fragment <$> d.select
  | update d => Update.fragment <$> d.update
  | delete d => Delete.fragment <$> d.delete

end BoundSql

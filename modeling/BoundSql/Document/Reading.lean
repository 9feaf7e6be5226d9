import BoundSql.Document
import BoundSql.Json.Library

/-!
# Reading documents from JSON

Values and criteria have no mark of their shape: the shapes are tried in turn, and the first that fits is
taken. Everything else is a record.
-/

namespace BoundSql

open Json (Key Result Decoder Field Record Fields)

variable (lib : Json.Library)

/-! ## Values -/

namespace Value

def null? : Json → Option Value
  | .null => some .null
  | _ => none

def bool? : Json → Option Value
  | .bool b => some (.bool b)
  | _ => none

def int? : Json → Option Value
  | .number (.whole n) =>
    if -0x8000000000000000 ≤ n ∧ n < 0x8000000000000000 then some (.int (Int64.ofInt n)) else none
  | _ => none

/-- Integers beyond 64 bits are floating-point numbers. -/
def float? : Json → Option Value
  | .number (.whole n) => some (.float (Float.ofInt n))
  | .number (.real x) => some (.float x)
  | _ => none

def text? : Json → Option Value
  | .string (some s) => some (.text s)
  | _ => none

def byte? : Json → Option UInt8
  | .number (.whole n) => if 0 ≤ n ∧ n < 256 then some n.toNat.toUInt8 else none
  | _ => none

/-- A blob is an array of integers below 256. -/
def blob? : Json → Option Value
  | .array items _ => .blob <$> items.mapM byte?
  | _ => none

def ofJson? : Json → Option Value :=
  lib.firstOf [null?, bool?, int?, float?, text?, blob?]

def decoder : Decoder Value := Json.anyOf "SqlValue" (ofJson? lib)

end Value

namespace FilterOperand

def list? : Json → Option FilterOperand
  | .array items _ => .list <$> items.mapM (Value.ofJson? lib)
  | _ => none

def scalar? (j : Json) : Option FilterOperand := .scalar <$> Value.ofJson? lib j

/-- An array of values is a list before it is anything else. -/
def ofJson? : Json → Option FilterOperand := lib.firstOf [list? lib, scalar? lib]

end FilterOperand

/-! ## Criteria -/

namespace Criterion

def text? : Json → Option String
  | .string s => s
  | _ => none

/-- A flag that is false by default. -/
def flag? : Option Json → Option Bool
  | none => some false
  | some (.bool b) => some b
  | some _ => none

def orNull? {α : Type} (read? : Json → Option α) : Option Json → Option (Option α)
  | none => some none
  | some .null => some none
  | some j => some <$> read? j

def values? : Json → Option (List Value)
  | .array items _ => items.mapM (Value.ofJson? lib)
  | _ => none

def connective (or : Bool) : Connective := if or then .or else .and

/-- The value of a member. Fails if it is given twice. -/
def once? (name : String) (members : List (Key × Json)) : Option (Option Json) :=
  match members.filter fun m => m.1 = .name name with
  | [] => some none
  | [m] => some (some m.2)
  | _ => none

/-- A filter from the values of its fields. -/
def filterOf? (column op value values or : Option Json) : Option Filter := do
  return {
    column := ← column >>= text?
    op := ← op >>= text?
    value := ← orNull? (FilterOperand.ofJson? lib) value
    values := ← orNull? (values? lib) values
    connective := connective (← flag? or) }

/-- A filter is an object of its fields, or an array of at least the first two. -/
def filter? : Json → Option Filter
  | .object members _ => do
    filterOf? lib (← once? "column" members) (← once? "op" members) (← once? "value" members)
      (← once? "values" members) (← once? "or" members)
  | .array items _ =>
    if 5 < items.length then none
    else filterOf? lib items[0]? items[1]? items[2]? items[3]? items[4]?
  | _ => none

mutual

/-- An object that has a group of criteria is a group, whatever else it has. -/
def ofJson? : Json → Option Criterion
  | .object members stop =>
    let group? (_ : Json) : Option Criterion := do
      let _ ← once? "group" members
      let inner ← groupOf? members
      return .group inner (connective (← flag? (← once? "or" members)))
    lib.firstOf [group?, fun j => .filter <$> filter? lib j] (.object members stop)
  | j => .filter <$> filter? lib j

/-- The criteria of the first member that is called a group. -/
def groupOf? : List (Key × Json) → Option (List Criterion)
  | [] => none
  | (k, j) :: ms => if k = .name "group" then criteria? j else groupOf? ms

def criteria? : Json → Option (List Criterion)
  | .array items _ => all? items
  | _ => none

def all? : List Json → Option (List Criterion)
  | [] => some []
  | j :: js => do return (← ofJson? j) :: (← all? js)

end

def decoder : Decoder Criterion := Json.anyOf "Criterion" (ofJson? lib)

end Criterion

/-! ## Records -/

namespace Order

def record : Record where
  name := "OrderBy"
  fields := [.of "column" .required Json.text, .of "descending" .defaulted Json.boolean]

def decoder : Decoder Order := fun depth j => do
  let given ← lib.fields record depth j
  let depth := depth + 1
  return {
    column := ← given.get "column" (Json.text depth) (.ok "")
    descending := ← given.get "descending" (Json.boolean depth) (.ok false) }

end Order

namespace Window

def numberings : List (String × Numbering) := [("row_number", .rowNumber), ("rank", .rank)]

def record : Record where
  name := "WindowSpec"
  fields := [
    .of "function" .defaulted (Json.choice numberings),
    .of "alias" .required Json.text,
    .of "row_alias" .required Json.text,
    .of "order_by" .required Json.text,
    .of "min" .defaulted Json.integer64,
    .of "max" .defaulted Json.integer64]

def decoder : Decoder Window := fun depth j => do
  let given ← lib.fields record depth j
  let depth := depth + 1
  return {
    numbering := ← given.get "function" (Json.choice numberings depth) (.ok .rowNumber)
    tableAlias := ← given.get "alias" (Json.text depth) (.ok "")
    rowAlias := ← given.get "row_alias" (Json.text depth) (.ok "")
    orderBy := ← given.get "order_by" (Json.text depth) (.ok "")
    min := ← given.get "min" (Json.integer64 depth) (.ok (-1))
    max := ← given.get "max" (Json.integer64 depth) (.ok (-1)) }

end Window

namespace SelectDocument

def record : Record where
  name := "SelectDocument"
  fields := [
    .of "table" .required Json.text,
    .of "distinct" .defaulted Json.boolean,
    .of "fields" .defaulted (Json.list Json.text),
    .of "where" .defaulted (Json.list (Criterion.decoder lib)),
    .of "group_by" .defaulted (Json.list Json.text),
    .of "having" .defaulted (Json.list (Criterion.decoder lib)),
    .of "order_by" .defaulted (Json.list (Order.decoder lib)),
    .of "offset" .optional (Json.orNull Json.natural64),
    .of "fetch" .optional (Json.orNull Json.natural64),
    .of "limit" .optional (Json.orNull Json.natural64),
    .of "window" .optional (Json.orNull (Window.decoder lib))]

def decoder : Decoder SelectDocument := fun depth j => do
  let given ← lib.fields (record lib) depth j
  let depth := depth + 1
  return {
    table := ← given.get "table" (Json.text depth) (.ok "")
    distinct := ← given.get "distinct" (Json.boolean depth) (.ok false)
    fields := ← given.get "fields" (Json.list Json.text depth) (.ok [])
    filters := ← given.get "where" (Json.list (Criterion.decoder lib) depth) (.ok [])
    groupBy := ← given.get "group_by" (Json.list Json.text depth) (.ok [])
    having := ← given.get "having" (Json.list (Criterion.decoder lib) depth) (.ok [])
    orderBy := ← given.get "order_by" (Json.list (Order.decoder lib) depth) (.ok [])
    offset := ← given.get "offset" (Json.orNull Json.natural64 depth) (.ok none)
    fetch := ← given.get "fetch" (Json.orNull Json.natural64 depth) (.ok none)
    limit := ← given.get "limit" (Json.orNull Json.natural64 depth) (.ok none)
    window := ← given.get "window" (Json.orNull (Window.decoder lib) depth) (.ok none) }

end SelectDocument

namespace Assignment

def record : Record where
  name := "Assignment"
  fields := [.of "column" .required Json.text, .of "value" .required (Value.decoder lib)]

def decoder : Decoder Assignment := fun depth j => do
  let given ← lib.fields (record lib) depth j
  let depth := depth + 1
  return {
    column := ← given.get "column" (Json.text depth) (.ok "")
    value := ← given.get "value" (Value.decoder lib depth) (.ok .null) }

end Assignment

namespace UpdateDocument

def record : Record where
  name := "UpdateDocument"
  fields := [
    .of "table" .required Json.text,
    .of "set" .required (Json.list (Assignment.decoder lib)),
    .of "where" .defaulted (Json.list (Criterion.decoder lib))]

def decoder : Decoder UpdateDocument := fun depth j => do
  let given ← lib.fields (record lib) depth j
  let depth := depth + 1
  return {
    table := ← given.get "table" (Json.text depth) (.ok "")
    assignments := ← given.get "set" (Json.list (Assignment.decoder lib) depth) (.ok [])
    filters := ← given.get "where" (Json.list (Criterion.decoder lib) depth) (.ok []) }

end UpdateDocument

namespace DeleteDocument

def record : Record where
  name := "DeleteDocument"
  fields := [
    .of "table" .required Json.text,
    .of "where" .defaulted (Json.list (Criterion.decoder lib))]

def decoder : Decoder DeleteDocument := fun depth j => do
  let given ← lib.fields (record lib) depth j
  let depth := depth + 1
  return {
    table := ← given.get "table" (Json.text depth) (.ok "")
    filters := ← given.get "where" (Json.list (Criterion.decoder lib) depth) (.ok []) }

end DeleteDocument

namespace Fragment

def record : Record where
  name := "Query"
  fields := [.of "sql" .required Json.text, .of "values" .required (Json.list (Value.decoder lib))]

def decoder : Decoder Fragment := fun depth j => do
  let given ← lib.fields (record lib) depth j
  let depth := depth + 1
  return {
    sql := ← given.get "sql" (Json.text depth) (.ok "")
    values := ← given.get "values" (Json.list (Value.decoder lib) depth) (.ok []) }

/-- The statement that a JSON text holds. -/
def ofJson (source : String) : Result Fragment := Json.Library.standard.decode (decoder .standard) source

end Fragment

/-! ## Documents -/

def Criterion.listOfJson (source : String) : Result (List Criterion) :=
  Json.Library.standard.decode (Json.list (Criterion.decoder .standard)) source

def Document.decode (kind : StatementKind) (source : String) : Result Document :=
  match kind with
  | .select => Document.select <$> lib.decode (SelectDocument.decoder lib) source
  | .update => Document.update <$> lib.decode (UpdateDocument.decoder lib) source
  | .delete => Document.delete <$> lib.decode (DeleteDocument.decoder lib) source

def Document.ofJson (kind : StatementKind) (source : String) : Result Document :=
  Document.decode .standard kind source

end BoundSql

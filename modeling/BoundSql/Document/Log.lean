import BoundSql.Document.Statement

/-!
# What is logged on the way to a statement
-/

namespace BoundSql

inductive Severity where
  | debug
  | warning
  deriving DecidableEq, Repr

inductive Event where
  | readingInput
  | readingFile (path : String)
  | filter (column op : String)
  | fetchIgnored
  | built (kind : StatementKind) (sql : String) (values : Nat)
  deriving DecidableEq, Repr

namespace Event

def severity : Event → Severity
  | fetchIgnored => .warning
  | _ => .debug

def message : Event → String
  | readingInput => "reading document from stdin"
  | readingFile path => "reading document path=" ++ path
  | filter column op => "applying filter column=" ++ column ++ " op=" ++ op
  | fetchIgnored => "both limit and fetch given, fetch ignored"
  | built kind sql values =>
    "built " ++ kind.keyword ++ " statement sql=" ++ sql ++ " values=" ++ values.repr

/-- Levels are set flush right. -/
def line (e : Event) : String :=
  (match e.severity with
    | .debug => "DEBUG "
    | .warning => " WARN ") ++ e.message

end Event

/-- A filter is logged once its operator is known. The first faulty one is the last that is looked at. -/
def Filter.events : List Filter → List Event
  | [] => []
  | f :: fs =>
    if (Operator.ofName? f.op).isNone then []
    else .filter f.column f.op :: match f.clause with
      | .ok _ => events fs
      | .error _ => []

def Document.warnings : Document → List Event
  | select d => if d.ignoresFetch then [.fetchIgnored] else []
  | _ => []

/-- The events of a translation, in order. -/
def Document.events (d : Document) : List Event :=
  Filter.events d.filters ++ match d.statement with
    | .ok q => d.warnings ++ [.built d.kind q.sql q.values.length]
    | .error _ => []

end BoundSql

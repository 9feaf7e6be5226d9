/-!
# Assembly errors
-/

namespace BoundSql

/-- Why a statement cannot be assembled. -/
inductive AssemblyError where
  | missingFrom (sql : String)
  | unknownOperator (name : String)
  deriving DecidableEq, Repr

def AssemblyError.message : AssemblyError → String
  | missingFrom sql => "window rewrite needs a ` FROM` token in: " ++ sql
  | unknownOperator name => "unknown operator: " ++ name

end BoundSql

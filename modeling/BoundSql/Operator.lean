import BoundSql.Error
import BoundSql.Text.Blank

/-!
# Operators

The catalogue of clause operators: the text each one writes after a column, and the names it is known by.
-/

namespace BoundSql

inductive Comparison where
  | eq
  | notEq
  | gt
  | gtEq
  | lt
  | ltEq
  deriving DecidableEq, Repr

def Comparison.symbol : Comparison → String
  | eq => "="
  | notEq => "<>"
  | gt => ">"
  | gtEq => ">="
  | lt => "<"
  | ltEq => "<="

inductive Quantifier where
  | any
  | all
  deriving DecidableEq, Repr

def Quantifier.keyword : Quantifier → String
  | any => "ANY"
  | all => "ALL"

inductive Operator where
  | comparison (c : Comparison)
  /-- Compares with the elements of a bound array. -/
  | quantified (c : Comparison) (q : Quantifier)
  | pattern (negated : Bool)
  /-- Binds two values. -/
  | range (negated : Bool)
  /-- Followed by a literal list or a subquery. -/
  | membership (negated : Bool)
  /-- Followed by a subquery; the column is not written. -/
  | existence (negated : Bool)
  deriving DecidableEq, Repr

namespace Operator

def negation (negated : Bool) : String := if negated then "NOT " else ""

def clause (column : String) : Operator → String
  | comparison c => column ++ " " ++ c.symbol ++ " ?"
  | quantified c q => column ++ " " ++ c.symbol ++ " " ++ q.keyword ++ "(?)"
  | pattern n => column ++ " " ++ negation n ++ "LIKE ?"
  | range n => column ++ " " ++ negation n ++ "BETWEEN ? AND ?"
  | membership n => column ++ " " ++ negation n ++ "IN "
  | existence n => negation n ++ "EXISTS"

/-- Every operator under each of its names. -/
def catalogue : List (String × Operator) :=
  [("eq", comparison .eq), ("=", comparison .eq),
    ("not_eq", comparison .notEq), ("ne", comparison .notEq), ("<>", comparison .notEq),
    ("!=", comparison .notEq),
    ("gt", comparison .gt), (">", comparison .gt),
    ("gt_eq", comparison .gtEq), ("gte", comparison .gtEq), (">=", comparison .gtEq),
    ("lt", comparison .lt), ("<", comparison .lt),
    ("lt_eq", comparison .ltEq), ("lte", comparison .ltEq), ("<=", comparison .ltEq),
    ("like", pattern false), ("not_like", pattern true),
    ("between", range false), ("not_between", range true),
    ("in", membership false), ("in_list", membership false),
    ("not_in", membership true), ("not_in_list", membership true),
    ("exists", existence false), ("not_exists", existence true),
    ("eq_any", quantified .eq .any), ("eq_all", quantified .eq .all),
    ("not_eq_any", quantified .notEq .any), ("not_eq_all", quantified .notEq .all),
    ("gt_any", quantified .gt .any), ("gt_all", quantified .gt .all),
    ("gt_eq_any", quantified .gtEq .any), ("gt_eq_all", quantified .gtEq .all),
    ("lt_any", quantified .lt .any), ("lt_all", quantified .lt .all),
    ("lt_eq_any", quantified .ltEq .any), ("lt_eq_all", quantified .ltEq .all)]

/-- The names of the operators that bind two values. -/
def pairNames : List String := ["between", "not_between"]

/-- Names are compared without the blank characters around them and without regard to the case of ASCII
letters. -/
def canonical (name : String) : String :=
  String.ofList ((Text.trim name.toList).map Char.toLower)

def ofName? (name : String) : Option Operator :=
  catalogue.lookup (canonical name)

def lookup (name : String) : Except AssemblyError Operator :=
  match ofName? name with
  | some o => .ok o
  | none => .error (.unknownOperator name)

def takesPair (name : String) : Bool :=
  pairNames.contains (canonical name)

end Operator

end BoundSql

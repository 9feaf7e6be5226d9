import BoundSql.Proofs.Filling
import BoundSql.Proofs.Program

/-!
# Running a program with its values in place

The same program, each piece of which is filled with the values of its own call before it is appended. What a
call embeds has been filled already when it was made, with its own values.
-/

namespace BoundSql

namespace Program

def enclosed (cs : List Char) : List Char := '(' :: cs ++ [')']

/-- The elements of a comma-separated list; `isOpen` holds if others stand before them. -/
def listed (isOpen : Bool) : List String → List Char
  | [] => []
  | column :: columns => (if isOpen then "," ++ column else column).toList ++ listed true columns

def written : Operand → List Char
  | .list es => (Literal.list es).toList
  | .subquery q => enclosed q.filled
  | _ => []

def led (keyword : String) (c : Condition) (filled : List Char) : List Char :=
  if c.isEmpty then [] else (" " ++ keyword ++ " ").toList ++ filled

/-- No meaning is given to a window rewrite, which reads the text that it changes. -/
def inline {p : Product} : Program p → List Char
  | .empty | .noValues => []
  | .text c s => c.inline ++ s.toList
  | .symbol c s => c.inline ++ s.text.toList
  | .inList c n es => c.inline ++ ((if n then " NOT IN " else " IN ").toList ++ (Literal.list es).toList)
  | .inQuery c n q => c.inline ++ ((if n then " NOT IN " else " IN ").toList ++ enclosed q.inline)
  | .existence c n q =>
    c.inline ++ ((if n then "NOT EXISTS" else "EXISTS").toList ++ enclosed q.inline)
  | .negate c other => c.inline ++ ("NOT ".toList ++ enclosed other.inline)
  | .compound c other => c.inline ++ enclosed other.inline
  | .guarded c op column maker checker given =>
    if (Condition.Guarded.mk op column maker given.eval checker).accepted then
      c.inline ++ ((c.eval.joint op).sql.toList ++
        (fill false (maker column).toList ((given.eval.map Candidate.toOperand).flatMap Operand.bound) ++
          given.inline))
    else c.inline
  | .group c op other =>
    if other.eval.isEmpty then c.inline
    else c.inline ++ ((c.eval.joint op).sql.toList ++ enclosed other.inline)
  | .noGroup c _ => c.inline
  | .value c rest => written c.toOperand ++ rest.inline
  | .subquery q _ rest => enclosed q.inline ++ rest.inline
  | .outside q => q.filled
  | .ofCondition c => c.inline
  | .ofSelect s => s.inline
  | .ofUpdate u => u.inline
  | .ofDelete d => d.inline
  | .table name => name.toList
  | .derived q tableAlias => enclosed q.inline ++ (" " ++ tableAlias).toList
  | .start => "SELECT ".toList
  | .distinct s => s.inline ++ "DISTINCT ".toList
  | .elements s columns => s.inline ++ listed s.eval.listOpen columns
  | .columnAlias s name => s.inline ++ (" AS " ++ name).toList
  | .ascending s => s.inline ++ " ASC".toList
  | .descending s => s.inline ++ " DESC".toList
  | .groupBy s column => s.inline ++ " GROUP BY ".toList ++ column.toList
  | .orderBy s column => s.inline ++ " ORDER BY ".toList ++ column.toList
  | .fromTable s name => s.inline ++ (" FROM " ++ name).toList
  | .fromQuery s q tableAlias =>
    s.inline ++ (" FROM ".toList ++ enclosed q.inline ++ (tableAlias.elim "" (" " ++ ·)).toList)
  | .comma s source => s.inline ++ (",".toList ++ source.inline)
  | .join s kind source => s.inline ++ ((" " ++ kind.keyword ++ " ").toList ++ source.inline)
  | .joinOn s kind source c =>
    if c.eval.isEmpty then s.inline
    else s.inline ++ ((" " ++ kind.keyword ++ " ").toList ++ source.inline) ++ led "ON" c.eval c.inline
  | .on s c => s.inline ++ led "ON" c.eval c.inline
  | .filter s c => s.inline ++ led "WHERE" c.eval c.inline
  | .having s c => s.inline ++ led "HAVING" c.eval c.inline
  | .union s all other =>
    s.inline ++ ((if all then " UNION ALL " else " UNION ").toList ++ other.inline)
  | .offset s rows => s.inline ++ (" OFFSET " ++ rows.toNat.repr ++ " ROWS").toList
  | .fetch s rows => s.inline ++ (" FETCH FIRST " ++ rows.toNat.repr ++ " ROWS ONLY").toList
  | .limit s rows => s.inline ++ (" LIMIT " ++ rows.toNat.repr).toList
  | .plainOffset s rows => s.inline ++ (" OFFSET " ++ rows.toNat.repr).toList
  | .window s _ => s.inline
  | .ofTable name => ("UPDATE " ++ name ++ " SET ").toList
  | .assign u column v =>
    u.inline ++ (if 0 < u.eval.assignments then ", " else "").toList ++
      fill false (column ++ " = ?").toList [v.toValue]
  | .filterUpdate u c => u.inline ++ led "WHERE" c.eval c.inline
  | .deleteFrom name => ("DELETE FROM " ++ name).toList
  | .filterDelete d c => d.inline ++ led "WHERE" c.eval c.inline

theorem inline_guarded (c : Program .condition) (op : Connective) (column : String)
    (maker : String → String) (checker : Checker) (given : Program .values) :
    (guarded c op column maker checker given).inline =
      if (Condition.Guarded.mk op column maker given.eval checker).accepted then
        c.inline ++ ((c.eval.joint op).sql.toList ++
          (fill false (maker column).toList ((given.eval.map Candidate.toOperand).flatMap Operand.bound) ++
            given.inline))
      else c.inline := rfl

theorem inline_group (c : Program .condition) (op : Connective) (other : Program .condition) :
    (group c op other).inline =
      if other.eval.isEmpty then c.inline
      else c.inline ++ ((c.eval.joint op).sql.toList ++ enclosed other.inline) := rfl

theorem inline_joinOn (s : Program .select) (kind : JoinKind) (source : Program .source)
    (c : Program .condition) :
    (joinOn s kind source c).inline =
      if c.eval.isEmpty then s.inline
      else s.inline ++ ((" " ++ kind.keyword ++ " ").toList ++ source.inline) ++
        led "ON" c.eval c.inline := rfl

end Program

end BoundSql

import BoundSql.Proofs.Alignment
import BoundSql.Update

/-!
# Programs of builder calls

A program is the tree of calls behind a condition or a statement: every call extends what one program makes,
and takes what other programs make as its operands. Queries that come from outside are leaves. `eval` runs a
program.
-/

namespace BoundSql

inductive Product where
  | condition
  | select
  | update
  | delete
  /-- A finished piece that other programs embed. -/
  | query
  | source
  /-- What a guarded clause is given. -/
  | values

abbrev Product.State : Product → Type
  | condition => Condition
  | select => Select
  | update => Update
  | delete => Delete
  | query => Fragment
  | source => Source
  | values => List Candidate

/-- Of the values of a guarded clause, the part that is written behind it. -/
def Product.fragment : (p : Product) → p.State → Fragment
  | condition, c => c.fragment
  | select, s => s.fragment
  | update, u => u.fragment
  | delete, d => d.fragment
  | query, q => q
  | source, s => s.fragment
  | values, cs => .concat ((cs.map Candidate.toOperand).map Operand.written)

inductive Program : Product → Type where
  | empty : Program .condition
  | text (c : Program .condition) (s : String) : Program .condition
  | symbol (c : Program .condition) (s : Condition.Symbol) : Program .condition
  | inList (c : Program .condition) (negated : Bool) (elements : List String) : Program .condition
  | inQuery (c : Program .condition) (negated : Bool) (q : Program .query) : Program .condition
  | existence (c : Program .condition) (negated : Bool) (q : Program .query) : Program .condition
  | negate (c other : Program .condition) : Program .condition
  | compound (c other : Program .condition) : Program .condition
  | guarded (c : Program .condition) (op : Connective) (column : String) (maker : String → String)
      (checker : Checker) (given : Program .values) : Program .condition
  | group (c : Program .condition) (op : Connective) (other : Program .condition) : Program .condition
  /-- A provider that gives no group. -/
  | noGroup (c : Program .condition) (op : Connective) : Program .condition
  | noValues : Program .values
  | value (c : Candidate) (rest : Program .values) : Program .values
  /-- A query is given as it is, or as an operand already. -/
  | subquery (q : Program .query) (converted : Bool) (rest : Program .values) : Program .values
  | outside (q : Fragment) : Program .query
  | ofCondition (c : Program .condition) : Program .query
  | ofSelect (s : Program .select) : Program .query
  | ofUpdate (u : Program .update) : Program .query
  | ofDelete (d : Program .delete) : Program .query
  | table (name : String) : Program .source
  | derived (q : Program .query) (tableAlias : String) : Program .source
  | start : Program .select
  | distinct (s : Program .select) : Program .select
  | elements (s : Program .select) (columns : List String) : Program .select
  | columnAlias (s : Program .select) (name : String) : Program .select
  | ascending (s : Program .select) : Program .select
  | descending (s : Program .select) : Program .select
  | groupBy (s : Program .select) (column : String) : Program .select
  | orderBy (s : Program .select) (column : String) : Program .select
  | fromTable (s : Program .select) (table : String) : Program .select
  | fromQuery (s : Program .select) (q : Program .query) (tableAlias : Option String) : Program .select
  | comma (s : Program .select) (source : Program .source) : Program .select
  | join (s : Program .select) (kind : JoinKind) (source : Program .source) : Program .select
  | joinOn (s : Program .select) (kind : JoinKind) (source : Program .source)
      (c : Program .condition) : Program .select
  | on (s : Program .select) (c : Program .condition) : Program .select
  | filter (s : Program .select) (c : Program .condition) : Program .select
  | having (s : Program .select) (c : Program .condition) : Program .select
  | union (s : Program .select) (all : Bool) (other : Program .select) : Program .select
  | offset (s : Program .select) (rows : UInt64) : Program .select
  | fetch (s : Program .select) (rows : UInt64) : Program .select
  | limit (s : Program .select) (rows : UInt64) : Program .select
  | plainOffset (s : Program .select) (rows : UInt64) : Program .select
  /-- A rewrite that fails leaves the statement as it was. -/
  | window (s : Program .select) (w : Window) : Program .select
  | ofTable (table : String) : Program .update
  | assign (u : Program .update) (column : String) (value : Bindable) : Program .update
  | filterUpdate (u : Program .update) (c : Program .condition) : Program .update
  | deleteFrom (table : String) : Program .delete
  | filterDelete (d : Program .delete) (c : Program .condition) : Program .delete

namespace Program

def eval {p : Product} : Program p → p.State
  | .empty => Condition.empty
  | .text c s => c.eval.apply (.text s)
  | .symbol c s => c.eval.apply (.symbol s)
  | .inList c n es => c.eval.apply (.membership n (.list es))
  | .inQuery c n q => c.eval.apply (.membership n (.subquery q.eval))
  | .existence c n q => c.eval.apply (.existence n q.eval)
  | .negate c other => c.eval.apply (.negate other.eval)
  | .compound c other => c.eval.apply (.compound other.eval)
  | .guarded c op column maker checker given =>
    c.eval.apply (.guarded ⟨op, column, maker, given.eval, checker⟩)
  | .group c op other => c.eval.apply (.group op (some other.eval))
  | .noGroup c op => c.eval.apply (.group op none)
  | .noValues => []
  | .value c rest => c :: rest.eval
  | .subquery q converted rest =>
    (if converted then .operand (.subquery q.eval) else .query q.eval) :: rest.eval
  | .outside q => q
  | .ofCondition c => c.eval.fragment
  | .ofSelect s => s.eval.fragment
  | .ofUpdate u => u.eval.fragment
  | .ofDelete d => d.eval.fragment
  | .table name => Source.table name
  | .derived q tableAlias => Source.query q.eval tableAlias
  | .start => ({} : Select)
  | .distinct s => s.eval.apply .distinct
  | .elements s columns => s.eval.apply (.elements columns)
  | .columnAlias s name => s.eval.apply (.columnAlias name)
  | .ascending s => s.eval.apply .ascending
  | .descending s => s.eval.apply .descending
  | .groupBy s column => s.eval.apply (.groupBy column)
  | .orderBy s column => s.eval.apply (.orderBy column)
  | .fromTable s name => s.eval.apply (.fromTable name)
  | .fromQuery s q tableAlias => s.eval.apply (.fromQuery q.eval tableAlias)
  | .comma s source => s.eval.apply (.comma source.eval)
  | .join s kind source => s.eval.apply (.join kind source.eval)
  | .joinOn s kind source c => s.eval.apply (.joinOn kind source.eval c.eval)
  | .on s c => s.eval.apply (.on c.eval)
  | .filter s c => s.eval.apply (.filter c.eval)
  | .having s c => s.eval.apply (.having c.eval)
  | .union s all other => s.eval.apply (.union all other.eval)
  | .offset s rows => s.eval.apply (.offset rows)
  | .fetch s rows => s.eval.apply (.fetch rows)
  | .limit s rows => s.eval.apply (.limit rows)
  | .plainOffset s rows => s.eval.apply (.plainOffset rows)
  | .window s w =>
    match s.eval.window w with
    | .ok t => t
    | .error _ => s.eval
  | .ofTable name => Update.ofTable name
  | .assign u column v => u.eval.apply (.assign column v)
  | .filterUpdate u c => u.eval.apply (.filter c.eval)
  | .deleteFrom name => Delete.ofTable name
  | .filterDelete d c => d.eval.filter c.eval

theorem eval_window (s : Program .select) (w : Window) :
    (window s w).eval = match s.eval.window w with
      | .ok t => t
      | .error _ => s.eval := rfl

def fragment {p : Product} (e : Program p) : Fragment := p.fragment e.eval

/-- What has been made before the last call of a program, its operands included. -/
def earlier {p : Product} : Program p → List Fragment
  | .empty | .noValues | .outside _ | .table _ | .start | .ofTable _ | .deleteFrom _ => []
  | .text c _ | .symbol c _ | .inList c _ _ | .noGroup c _ | .ofCondition c => c.fragment :: c.earlier
  | .inQuery c _ q | .existence c _ q => c.fragment :: c.earlier ++ q.fragment :: q.earlier
  | .negate c other | .compound c other | .group c _ other =>
    c.fragment :: c.earlier ++ other.fragment :: other.earlier
  | .guarded c _ _ _ _ given => c.fragment :: c.earlier ++ given.fragment :: given.earlier
  | .value _ rest => rest.fragment :: rest.earlier
  | .subquery q _ rest => q.fragment :: q.earlier ++ rest.fragment :: rest.earlier
  | .ofSelect s | .distinct s | .elements s _ | .columnAlias s _ | .ascending s | .descending s
  | .groupBy s _ | .orderBy s _ | .fromTable s _ | .offset s _ | .fetch s _ | .limit s _
  | .plainOffset s _ | .window s _ => s.fragment :: s.earlier
  | .ofUpdate u | .assign u _ _ => u.fragment :: u.earlier
  | .ofDelete d => d.fragment :: d.earlier
  | .derived q _ => q.fragment :: q.earlier
  | .fromQuery s q _ => s.fragment :: s.earlier ++ q.fragment :: q.earlier
  | .comma s source | .join s _ source =>
    s.fragment :: s.earlier ++ source.fragment :: source.earlier
  | .joinOn s _ source c =>
    s.fragment :: s.earlier ++ source.fragment :: source.earlier ++ c.fragment :: c.earlier
  | .on s c | .filter s c | .having s c => s.fragment :: s.earlier ++ c.fragment :: c.earlier
  | .union s _ other => s.fragment :: s.earlier ++ other.fragment :: other.earlier
  | .filterUpdate u c => u.fragment :: u.earlier ++ c.fragment :: c.earlier
  | .filterDelete d c => d.fragment :: d.earlier ++ c.fragment :: c.earlier

/-- Everything that a program ever makes. -/
def produced {p : Product} (e : Program p) : List Fragment := e.fragment :: e.earlier

end Program

end BoundSql

import BoundSql.Condition

/-!
# Drafts

A condition while it is written: its text, its values and a flag that is up as long as no clause has been
written. Whoever writes has to take the flag down; whoever reads asks nothing else to learn whether there is a
condition at all.
-/

namespace BoundSql

structure Draft where
  sql : String := ""
  values : List Value := []
  /-- No clause has been written. -/
  fresh : Bool := true
  deriving BEq, Inhabited

namespace Draft

def fragment (d : Draft) : Fragment := ⟨d.sql, d.values⟩

/-- Appends to the text. The flag stays as it is. -/
def append (d : Draft) (text : String) : Draft := { d with sql := d.sql ++ text }

/-- Appends to the values. The flag stays as it is. -/
def bind (d : Draft) (values : List Value) : Draft := { d with values := d.values ++ values }

/-- Takes the flag down. -/
def begun (d : Draft) : Draft := { d with fresh := false }

@[simp] theorem fragment_append (d : Draft) (text : String) :
    (d.append text).fragment = d.fragment ++ .text text := by
  show Fragment.mk _ _ = Fragment.mk _ _
  simp [append, fragment]

@[simp] theorem fragment_bind (d : Draft) (values : List Value) :
    (d.bind values).fragment = d.fragment ++ ⟨"", values⟩ := by
  show Fragment.mk _ _ = Fragment.mk _ _
  simp [bind, fragment]

@[simp] theorem fragment_begun (d : Draft) : d.begun.fragment = d.fragment := rfl

/-! ## Writers -/

/-- In front of the first clause stands no connective. -/
def connect (d : Draft) (op : Connective) : Draft :=
  if d.fresh then d else d.append (" " ++ op.keyword ++ " ")

def raw (d : Draft) (text : String) : Draft := (d.append text).begun

/-- Appends a piece between parentheses. The flag stays as it is. -/
def embed (d : Draft) (q : Fragment) : Draft :=
  (((d.append "(").append q.sql).append ")").bind q.values

/-- Embeds another draft, whether or not there is anything in it. -/
def enclose (d other : Draft) : Draft := (d.embed other.fragment).begun

/-- Appends what becomes of an operand. Its clause takes the flag down. -/
def operand (d : Draft) : Operand → Draft
  | .plain v => d.bind [v]
  | .optional v => d.bind [v.getD .null]
  | .list elements => d.append (Literal.list elements)
  | .subquery q => d.embed q

def guarded (d : Draft) (g : Condition.Guarded) : Draft :=
  if g.accepted then
    let clause := (d.connect g.connective).append (g.maker g.column)
    ((g.candidates.map Candidate.toOperand).foldl operand clause).begun
  else d

def group (d : Draft) (op : Connective) (other : Draft) : Draft :=
  if other.fresh then d else (d.connect op).enclose other

/-- One step of writing. What it embeds has been written by steps too. -/
inductive Call where
  | text (s : String)
  | symbol (s : Condition.Symbol)
  | membership (negated : Bool) (operand : Operand)
  | existence (negated : Bool) (q : Fragment)
  | negate (other : List Call)
  | compound (other : List Call)
  | guarded (g : Condition.Guarded)
  | group (op : Connective) (other : List Call)
  /-- A group that is missing. -/
  | noGroup (op : Connective)

mutual

def apply (d : Draft) : Call → Draft
  | .text s => d.raw s
  | .symbol s => d.raw s.text
  | .membership n o => (d.raw (if n then " NOT IN " else " IN ")).operand o
  | .existence n q => (d.raw (if n then "NOT EXISTS" else "EXISTS")).operand (.subquery q)
  | .negate other => (d.raw "NOT ").enclose (run {} other)
  | .compound other => d.enclose (run {} other)
  | .guarded g => d.guarded g
  | .group op other => d.group op (run {} other)
  | .noGroup _ => d

/-- Runs a program of calls. -/
def run (d : Draft) : List Call → Draft
  | [] => d
  | call :: calls => (d.apply call).run calls

end

/-! ## Readers -/

/-- The condition of a draft, as it is embedded in statements. -/
def condition (d : Draft) : Condition := if d.fresh then .empty else .written d.fragment

@[simp] theorem condition_begun (d : Draft) : d.begun.condition = .written d.fragment := rfl

end Draft

end BoundSql

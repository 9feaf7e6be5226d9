import BoundSql.Proofs.Alignment

/-!
# The text of a condition

Guarded clauses and groups may be left out, all other calls write. A condition reads as what its surviving
calls write, one after the other, and a connective stands in front of a clause exactly if something was
written before it. So what a program adds to a condition does not depend on the condition, as long as that
is not empty.
-/

namespace BoundSql

namespace Operand

/-- What an operand writes behind its clause. -/
def text : Operand → String
  | list elements => "(" ++ ",".intercalate elements ++ ")"
  | subquery q => "(" ++ q.sql ++ ")"
  | _ => ""

def values : Operand → List Value
  | plain v => [v]
  | optional v => [v.getD .null]
  | list _ => []
  | subquery q => q.values

theorem fragment_eq_mk (o : Operand) : o.fragment = ⟨o.text, o.values⟩ := by
  cases o with
  | subquery q => exact Fragment.parens_mk q.sql q.values
  | _ => rfl

theorem concat_eq_mk (os : List Operand) :
    Fragment.concat (os.map fragment) = ⟨String.join (os.map text), os.flatMap values⟩ := by
  induction os with
  | nil => rfl
  | cons o os ih =>
    rw [List.map_cons, List.map_cons, Fragment.concat_cons, fragment_eq_mk, ih, String.join_cons, List.flatMap_cons]
    rfl

end Operand

namespace Condition

namespace Call

/-- The checker accepts all values of a guarded clause. A group is given and is not empty. -/
def survives : Call → Bool
  | .guarded g => g.candidates.zipIdx.all fun p => g.checker p.2 p.1
  | .group _ other => other.any fun c => !c.isEmpty
  | _ => true

/-- A guarded clause and a group have a connective of their own. -/
def connective? : Call → Option Connective
  | .guarded g => some g.connective
  | .group op _ => some op
  | _ => none

/-- What stands in front of a call that is not the first one to write. -/
def lead (call : Call) : String := call.connective?.elim "" fun op => " " ++ op.keyword ++ " "

/-- What a call that survives writes itself, with the values that it binds. -/
def body : Call → Fragment
  | .text s => ⟨s, []⟩
  | .symbol s => ⟨s.text, []⟩
  | .membership n o => ⟨(if n then " NOT IN " else " IN ") ++ o.text, o.values⟩
  | .existence n q => ⟨(if n then "NOT EXISTS" else "EXISTS") ++ ("(" ++ q.sql ++ ")"), q.values⟩
  | .negate other => ⟨"NOT " ++ ("(" ++ other.sql ++ ")"), other.values⟩
  | .compound other => ⟨"(" ++ other.sql ++ ")", other.values⟩
  | .guarded g =>
    ⟨g.maker g.column ++ String.join (g.candidates.map fun c => c.toOperand.text),
      g.candidates.flatMap fun c => c.toOperand.values⟩
  | .group _ other => ⟨"(" ++ (other.getD .empty).sql ++ ")", (other.getD .empty).values⟩

/-- What several calls write behind something else. -/
def behind : List Call → Fragment
  | [] => {}
  | call :: calls => ⟨call.lead ++ call.body.sql, call.body.values⟩ ++ behind calls

/-- What several calls write, each but the first behind its connective. -/
def joined : List Call → Fragment
  | [] => {}
  | call :: calls => call.body ++ behind calls

theorem values_joined (calls : List Call) : (joined calls).values = calls.flatMap (·.body.values) := by
  have hbehind : ∀ calls : List Call, (behind calls).values = calls.flatMap (·.body.values) := by
    intro calls
    induction calls with
    | nil => rfl
    | cons call calls ih => exact congrArg (call.body.values ++ ·) ih
  cases calls with
  | nil => rfl
  | cons call calls => exact congrArg (call.body.values ++ ·) (hbehind calls)

theorem survives_guarded (g : Guarded) : (guarded g).survives = g.accepted :=
  (g.checker.all_verdicts 0 g.candidates).symm

theorem body_guarded (g : Guarded) : (guarded g).body = g.piece := by
  have hoperands := Operand.concat_eq_mk (g.candidates.map Candidate.toOperand)
  rw [List.map_map, List.map_map, List.flatMap_map] at hoperands
  exact (congrArg (Fragment.text (g.maker g.column) ++ ·) hoperands).symm

end Call

variable {call : Call}

/-! ## One call -/

/-- What separates a condition from what a call writes. -/
def gap (c : Condition) (call : Call) : Fragment :=
  match c with
  | empty => {}
  | written _ => .text call.lead

theorem gap_of_connective?_eq_none (c : Condition) (h : call.connective? = none) : c.gap call = {} := by
  cases c with
  | empty => rfl
  | written f =>
    rw [gap, Call.lead, h]
    rfl

theorem gap_of_connective?_eq_some (c : Condition) {op : Connective} (h : call.connective? = some op) :
    c.gap call = c.joint op := by
  cases c with
  | empty => rfl
  | written f =>
    rw [gap, Call.lead, h]
    rfl

theorem apply_of_not_survives (c : Condition) (h : call.survives = false) : c.apply call = c := by
  cases call with
  | guarded g =>
    rw [Call.survives_guarded] at h
    exact if_neg (Bool.eq_false_iff.mp h)
  | group op other =>
    cases other with
    | none => rfl
    | some other =>
      cases other with
      | empty => rfl
      | written f => cases h
  | _ => cases h

theorem apply_of_survives (c : Condition) (h : call.survives = true) :
    c.apply call = c.write (c.gap call ++ call.body) := by
  have hparens (f : Fragment) : f.parens = ⟨"(" ++ f.sql ++ ")", f.values⟩ := Fragment.parens_mk f.sql f.values
  cases call with
  | text | symbol =>
    rw [gap_of_connective?_eq_none c rfl, Fragment.empty_append]
    rfl
  | membership n o =>
    rw [gap_of_connective?_eq_none c rfl, Fragment.empty_append, apply, o.fragment_eq_mk]
    rfl
  | existence | negate =>
    rw [gap_of_connective?_eq_none c rfl, Fragment.empty_append, apply, hparens]
    rfl
  | compound other =>
    rw [gap_of_connective?_eq_none c rfl, Fragment.empty_append]
    exact congrArg c.write (hparens _)
  | guarded g =>
    rw [Call.survives_guarded] at h
    rw [gap_of_connective?_eq_some c rfl, Call.body_guarded]
    exact if_pos h
  | group op other =>
    rw [gap_of_connective?_eq_some c rfl]
    cases other with
    | none => cases h
    | some other =>
      cases other with
      | empty => cases h
      | written f => exact congrArg (c.attach op) (hparens f)

/-! ## A program of calls -/

/-- Calls that are left out leave no trace. -/
theorem run_filter_survives (c : Condition) (calls : List Call) : c.run (calls.filter Call.survives) = c.run calls := by
  induction calls generalizing c with
  | nil => rfl
  | cons call calls ih =>
    cases h : call.survives with
    | true => rw [List.filter_cons_of_pos h, run_cons, run_cons, ih]
    | false =>
      rw [List.filter_cons_of_neg (Bool.eq_false_iff.mp h), run_cons, apply_of_not_survives c h, ih]

theorem run_written (f : Fragment) (calls : List Call) :
    (written f).run calls = written (f ++ Call.behind (calls.filter Call.survives)) := by
  induction calls generalizing f with
  | nil => exact congrArg written (Fragment.append_empty f).symm
  | cons call calls ih =>
    cases h : call.survives with
    | true =>
      have happly : (written f).apply call = written (f ++ ⟨call.lead ++ call.body.sql, call.body.values⟩) :=
        apply_of_survives _ h
      rw [List.filter_cons_of_pos h, run_cons, happly, ih, Fragment.append_assoc, Call.behind]
    | false =>
      rw [List.filter_cons_of_neg (Bool.eq_false_iff.mp h), run_cons, apply_of_not_survives _ h, ih]

/-- The first call that survives is written without its connective. -/
theorem run_empty (calls : List Call) :
    empty.run calls =
      if (calls.filter Call.survives).isEmpty then empty else written (Call.joined (calls.filter Call.survives)) := by
  induction calls with
  | nil => rfl
  | cons call calls ih =>
    cases h : call.survives with
    | true =>
      have happly : empty.apply call = written call.body := by
        rw [apply_of_survives _ h]
        exact congrArg written ((Fragment.empty_append _).trans (Fragment.empty_append _))
      rw [List.filter_cons_of_pos h, run_cons, happly, run_written]
      rfl
    | false =>
      rw [List.filter_cons_of_neg (Bool.eq_false_iff.mp h), run_cons, apply_of_not_survives _ h, ih]

/-- What a program writes on its own: the calls that survive, in order, and all but the first behind their
connectives. -/
theorem run_empty_eq_survivors (calls : List Call) :
    (empty.run calls).sql = (Call.joined (calls.filter Call.survives)).sql ∧
      (empty.run calls).values = (calls.filter Call.survives).flatMap (·.body.values) ∧
      ((empty.run calls).isEmpty = true ↔ calls.filter Call.survives = []) ∧
      empty.run calls = empty.run (calls.filter Call.survives) := by
  rw [run_filter_survives, run_empty]
  cases calls.filter Call.survives with
  | nil => exact ⟨rfl, rfl, iff_of_true rfl rfl, rfl⟩
  | cons call rest => exact ⟨rfl, Call.values_joined (call :: rest), iff_of_false nofun nofun, rfl⟩

/-- What a program writes does not depend on what was written before it, but for one connective between the
two: that of the first call that survives. -/
theorem run_of_isEmpty_eq_false {c : Condition} (hc : c.isEmpty = false) (calls : List Call) :
    ((empty.run calls).isEmpty = true → c.run calls = c) ∧
      ((empty.run calls).isEmpty = false →
        (c.run calls).sql = c.sql ++ (calls.find? Call.survives).elim "" Call.lead ++ (empty.run calls).sql ∧
        (c.run calls).values = c.values ++ (empty.run calls).values ∧
        (c.run calls).isEmpty = false) := by
  cases c with
  | empty => cases hc
  | written f =>
    rw [run_written, run_empty, ← List.head?_filter]
    cases calls.filter Call.survives with
    | nil => exact ⟨fun _ => congrArg written (Fragment.append_empty f), nofun⟩
    | cons call rest =>
      refine ⟨nofun, fun _ => ⟨?_, rfl, rfl⟩⟩
      have hsql : (f ++ Call.behind (call :: rest)).sql =
          f.sql ++ (call.lead ++ call.body.sql ++ (Call.behind rest).sql) := rfl
      exact hsql.trans (by simp [String.append_assoc, Call.joined, sql])

/-- A missing text and a provider without a group, before the first clause that is written. -/
def search : List Call := [
  .guarded ⟨.and, "name", (· ++ " = ?"), [.text ""], Checker.valid⟩,
  .group .and none,
  .group .or (some (.written ⟨"a = ?", [.null]⟩)),
  .guarded ⟨.and, "age", (· ++ " BETWEEN ? AND ?"), [.scalar (.int 3), .scalar (.int 9)], Checker.valid⟩]

theorem run_of_isEmpty_eq_false_search :
    (written ⟨"id > ?", [.int 1]⟩).isEmpty = false ∧
      ((written ⟨"id > ?", [.int 1]⟩).run search).sql = "id > ? OR (a = ?) AND age BETWEEN ? AND ?" ∧
      ((written ⟨"id > ?", [.int 1]⟩).run search).values = [.int 1, .null, .int 3, .int 9] := by
  obtain ⟨-, hmore⟩ := run_of_isEmpty_eq_false (c := written ⟨"id > ?", [.int 1]⟩) rfl search
  obtain ⟨hsql, hvalues, -⟩ := hmore rfl
  exact ⟨rfl, hsql.trans (by decide +kernel), hvalues.trans rfl⟩

end Condition

end BoundSql

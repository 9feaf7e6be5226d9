import BoundSql.Condition.Draft
import BoundSql.Proofs.Emptiness
import BoundSql.Select
import BoundSql.Update

/-!
# Drafts and conditions

The flag of a draft is kept apart from its text and its values. No program of calls leaves it up once something
has been written, so the flag alone tells whether there is a condition, and nothing is lost where it is asked.
A draft and the condition that the same calls build are the same.
-/

namespace BoundSql

namespace Draft

variable {d : Draft}

/-! ## The flag -/

/-- A flag that is up stands for an untouched draft. -/
def Sound (d : Draft) : Prop := d.fresh = true → d = {}

theorem sound_new : Sound {} := fun _ => rfl

theorem sound_of_fresh_eq_false (h : d.fresh = false) : d.Sound := by
  intro hfresh
  rw [h] at hfresh
  cases hfresh

/-- A writer that leaves the flag up is not among the calls. -/
example : ¬ (operand {} (.plain .null)).Sound := fun h => nomatch congrArg values (h rfl)

@[simp] theorem fresh_enclose (d other : Draft) : (d.enclose other).fresh = false := rfl

@[simp] theorem fresh_operand (d : Draft) (o : Operand) : (d.operand o).fresh = d.fresh := by
  cases o <;> rfl

/-- A call takes the flag down, or it changes nothing. -/
theorem apply_eq_or_fresh (d : Draft) (call : Call) : d.apply call = d ∨ (d.apply call).fresh = false := by
  cases call with
  | noGroup op => exact .inl rfl
  | guarded g =>
    rw [apply, guarded]
    split
    · exact .inr rfl
    · exact .inl rfl
  | group op other =>
    rw [apply, group]
    split
    · exact .inl rfl
    · exact .inr rfl
  | membership n o => exact .inr (fresh_operand _ o)
  | _ => exact .inr rfl

theorem Sound.apply (hd : d.Sound) (call : Call) : (d.apply call).Sound := by
  rcases d.apply_eq_or_fresh call with hsame | hdown
  · rw [hsame]
    exact hd
  · exact sound_of_fresh_eq_false hdown

theorem Sound.run (hd : d.Sound) (calls : List Call) : (d.run calls).Sound := by
  induction calls generalizing d with
  | nil => exact hd
  | cons call calls ih => exact ih (hd.apply call)

/-! ## The condition of a draft -/

theorem Sound.fragment_condition (hd : d.Sound) : d.condition.fragment = d.fragment := by
  unfold condition
  split
  · rename_i hfresh
    rw [hd hfresh]
    rfl
  · rfl

theorem Sound.fragment_eq (hd : d.Sound) {c : Condition} (h : d.condition = c) : d.fragment = c.fragment := by
  rw [← hd.fragment_condition, h]

theorem isEmpty_condition (d : Draft) : d.condition.isEmpty = d.fresh := by
  unfold condition
  cases d.fresh <;> rfl

theorem condition_of_fresh_eq_false (h : d.fresh = false) : d.condition = .written d.fragment := by
  rw [condition, h]
  rfl

theorem fragment_connect (d : Draft) (op : Connective) :
    (d.connect op).fragment = d.fragment ++ d.condition.joint op := by
  unfold connect condition
  split
  · exact (Fragment.append_empty _).symm
  · exact fragment_append d _

theorem fragment_embed (d : Draft) (q : Fragment) : (d.embed q).fragment = d.fragment ++ q.parens := by
  show Fragment.mk _ _ = Fragment.mk _ _
  simp [embed, fragment, append, bind, Fragment.parens, String.append_assoc]

theorem fragment_enclose (d other : Draft) : (d.enclose other).fragment = d.fragment ++ other.fragment.parens :=
  d.fragment_embed other.fragment

theorem fragment_operand (d : Draft) (o : Operand) : (d.operand o).fragment = d.fragment ++ o.fragment := by
  cases o with
  | plain v => exact fragment_bind d [v]
  | optional v => exact fragment_bind d [v.getD .null]
  | list elements => exact fragment_append d _
  | subquery q => exact fragment_embed d q

theorem fragment_foldl_operand (os : List Operand) (d : Draft) :
    (os.foldl operand d).fragment = d.fragment ++ .concat (os.map Operand.fragment) := by
  induction os generalizing d with
  | nil => exact (Fragment.append_empty _).symm
  | cons o os ih =>
    rw [List.foldl_cons, ih, fragment_operand, List.map_cons, Fragment.concat_cons, Fragment.append_assoc]

theorem Sound.condition_raw (hd : d.Sound) (text : String) :
    (d.raw text).condition = d.condition.write (.text text) := by
  rw [raw, condition_begun, fragment_append, Condition.write, hd.fragment_condition]

theorem Sound.condition_operand (hd : d.Sound) (text : String) (o : Operand) :
    ((d.raw text).operand o).condition = d.condition.write (.text text ++ o.fragment) := by
  rw [condition_of_fresh_eq_false (fresh_operand _ o), fragment_operand, raw, fragment_begun, fragment_append,
    Condition.write, hd.fragment_condition, Fragment.append_assoc]

theorem condition_enclose (d other : Draft) :
    (d.enclose other).condition = .written (d.fragment ++ other.fragment.parens) := by
  rw [condition_of_fresh_eq_false (fresh_enclose d other), fragment_enclose]

theorem Sound.condition_guarded (hd : d.Sound) (g : Condition.Guarded) :
    (d.guarded g).condition = d.condition.guarded g := by
  unfold guarded Condition.guarded
  split
  · have hpiece : g.piece = .text (g.maker g.column) ++
        .concat ((g.candidates.map Candidate.toOperand).map Operand.fragment) := by
      rw [List.map_map]
      rfl
    rw [condition_begun, fragment_foldl_operand, fragment_append, fragment_connect, Condition.attach, Condition.write,
      hd.fragment_condition, hpiece]
    simp only [Fragment.append_assoc]
  · rfl

theorem Sound.condition_group (hd : d.Sound) (op : Connective) (other : Draft) :
    (d.group op other).condition = d.condition.group op other.condition := by
  unfold group
  cases hfresh : other.fresh with
  | true =>
    have hempty : other.condition = .empty := if_pos hfresh
    rw [if_pos rfl, hempty]
    rfl
  | false =>
    rw [if_neg Bool.false_ne_true, condition_enclose, condition_of_fresh_eq_false hfresh, fragment_connect,
      Condition.group, Condition.attach, Condition.write, hd.fragment_condition, Fragment.append_assoc]

mutual

/-- The same call on conditions. -/
def Call.condition : Call → Condition.Call
  | .text s => .text s
  | .symbol s => .symbol s
  | .membership n o => .membership n o
  | .existence n q => .existence n q
  | .negate other => .negate (Condition.empty.run (conditions other))
  | .compound other => .compound (Condition.empty.run (conditions other))
  | .guarded g => .guarded g
  | .group op other => .group op (some (Condition.empty.run (conditions other)))
  | .noGroup op => .group op none

def conditions : List Call → List Condition.Call
  | [] => []
  | call :: calls => call.condition :: conditions calls

end

mutual

theorem condition_apply {d : Draft} (hd : d.Sound) (call : Call) :
    (d.apply call).condition = d.condition.apply call.condition := by
  cases call with
  | text s => exact hd.condition_raw s
  | symbol s => exact hd.condition_raw s.text
  | membership n o => exact hd.condition_operand _ o
  | existence n q => exact hd.condition_operand _ (.subquery q)
  | guarded g => exact hd.condition_guarded g
  | noGroup op => rfl
  | negate other =>
    have hother := (sound_new.run other).fragment_eq (condition_run sound_new other)
    rw [apply, condition_enclose, hother, raw, fragment_begun, fragment_append, Call.condition, Condition.apply,
      Condition.write, hd.fragment_condition, Fragment.append_assoc]
    rfl
  | compound other =>
    have hother := (sound_new.run other).fragment_eq (condition_run sound_new other)
    rw [apply, condition_enclose, hother, Call.condition, Condition.apply, Condition.write, hd.fragment_condition]
    rfl
  | group op other =>
    have hother : (run {} other).condition = Condition.empty.run (conditions other) := condition_run sound_new other
    rw [apply, hd.condition_group, hother]
    rfl

/-- A draft stands for the condition that the same calls build. -/
theorem condition_run {d : Draft} (hd : d.Sound) (calls : List Call) :
    (d.run calls).condition = d.condition.run (conditions calls) := by
  cases calls with
  | nil => rfl
  | cons call calls =>
    rw [run, condition_run (hd.apply call) calls, condition_apply hd call, conditions, Condition.run_cons]

end

theorem condition_run_new (calls : List Call) : (run {} calls).condition = Condition.empty.run (conditions calls) :=
  condition_run sound_new calls

/-! ## Calls that write -/

/-- The values of a guarded clause are accepted. A group is given, and something has been written to it. -/
def Call.survives : Call → Bool
  | .guarded g => g.accepted
  | .group _ other => !(run {} other).fresh
  | .noGroup _ => false
  | _ => true

/-- A raw call has a text, and so has the clause of a guarded one. -/
def Call.HasText : Call → Prop
  | .text s => s ≠ ""
  | .guarded g => g.maker g.column ≠ ""
  | _ => True

theorem Call.survives_condition (call : Call) : call.condition.survives = call.survives := by
  cases call with
  | guarded g => exact Condition.Call.survives_guarded g
  | group op other =>
    have hempty := isEmpty_condition (run {} other)
    rw [condition_run_new] at hempty
    exact congrArg (!·) hempty
  | _ => rfl

theorem Call.HasText.condition {call : Call} (h : call.HasText) : call.condition.HasText := by
  cases call with
  | text s => exact h
  | guarded g => exact h
  | _ => trivial

theorem forall_mem_conditions {P : Condition.Call → Prop} {calls : List Call} :
    (∀ call ∈ conditions calls, P call) ↔ ∀ call ∈ calls, P call.condition := by
  induction calls with
  | nil => simp [conditions]
  | cons call calls ih => rw [conditions, List.forall_mem_cons, List.forall_mem_cons, ih]

/-- The flag is up exactly if no call has written, and then the draft is the one that every program starts
from. If all texts are there, it is up exactly if there is no text: a keyword is written exactly in front of a
text, and everything that has been written or bound goes with it. -/
theorem fresh_run_iff_sql_eq (calls : List Call) :
    ((run {} calls).fresh = true ↔ ∀ call ∈ calls, call.survives = false) ∧
      ((run {} calls).fresh = true → run {} calls = {}) ∧
      ((∀ call ∈ calls, call.HasText) →
        ((run {} calls).fresh = true ↔ (run {} calls).sql = "") ∧
        ((run {} calls).sql = "" → (run {} calls).values = []) ∧
        (∀ u : Update, (u.filter (run {} calls).condition).fragment =
          u.fragment ++ (run {} calls).fragment.ledBy "WHERE") ∧
        (∀ d : Delete, (d.filter (run {} calls).condition).fragment =
          d.fragment ++ (run {} calls).fragment.ledBy "WHERE") ∧
        ∀ s : Select,
          (s.filter (run {} calls).condition).fragment = s.fragment ++ (run {} calls).fragment.ledBy "WHERE" ∧
          (s.having (run {} calls).condition).fragment = s.fragment ++ (run {} calls).fragment.ledBy "HAVING" ∧
          (s.on (run {} calls).condition).fragment = s.fragment ++ (run {} calls).fragment.ledBy "ON") := by
  have hsound : (run {} calls).Sound := sound_new.run calls
  have hfresh := isEmpty_condition (run {} calls)
  refine ⟨?survivors, hsound, ?texts⟩
  case survivors =>
    rw [← hfresh, condition_run_new, Condition.isEmpty_run_empty_iff, forall_mem_conditions]
    simp only [Call.survives_condition]
  case texts =>
    intro h
    have htexts : ∀ call ∈ conditions calls, call.HasText :=
      forall_mem_conditions.mpr fun call hcall => (h call hcall).condition
    have hevident : (run {} calls).condition.Evident := by
      rw [condition_run_new]
      exact Condition.evident_empty.run htexts
    have hfragment := hsound.fragment_condition
    have hiff : (run {} calls).fresh = true ↔ (run {} calls).sql = "" := by
      rw [← hfresh, hevident.isEmpty_iff_sql, Condition.sql, hfragment]
      rfl
    have hled (keyword : String) :
        (run {} calls).condition.predicate keyword = (run {} calls).fragment.ledBy keyword := by
      rw [hevident.predicate_eq_ledBy, hfragment]
    refine ⟨hiff, ?_, ?_, ?_, ?_⟩
    · intro hsql
      rw [hsound (hiff.mpr hsql)]
    · intro u
      rw [Update.fragment_filter, hled]
    · intro d
      rw [Delete.fragment_filter, hled]
    · intro s
      rw [Select.filter, Select.having, Select.on, hled, hled, hled]
      exact ⟨rfl, rfl, rfl⟩

/-- Only the last group writes, around a condition that binds no value. -/
def sparse : List Call := [
  .guarded ⟨.and, "name", (· ++ " = ?"), [.text ""], Checker.valid⟩,
  .group .or [.guarded ⟨.and, "age", (· ++ " = ?"), [.optional none], Checker.valid⟩],
  .noGroup .and,
  .group .or [.text "a", .symbol .isNull]]

theorem fresh_run_iff_sql_eq_sparse :
    (∀ call ∈ sparse, call.HasText) ∧
      ((run {} sparse).fresh = true ↔ (run {} sparse).sql = "") ∧
      (run {} sparse).sql = "(a IS NULL)" ∧
      ((Delete.ofTable "t").filter (run {} sparse).condition).fragment.sql = "DELETE FROM t WHERE (a IS NULL)" := by
  have htexts : ∀ call ∈ sparse, call.HasText := by
    simp [sparse, Call.HasText]
  obtain ⟨hiff, -, -, hdelete, -⟩ := (fresh_run_iff_sql_eq sparse).2.2 htexts
  refine ⟨htexts, hiff, by decide +kernel, ?_⟩
  rw [hdelete]
  decide +kernel

end Draft

end BoundSql

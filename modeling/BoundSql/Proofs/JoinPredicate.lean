import BoundSql.Proofs.EmptyPredicate
import Mathlib.Algebra.GroupWithZero.Nat

/-!
# Predicates of joins

A join with a predicate is the join without one and an `ON` behind it, whatever its kind: nobody asks whether
the kind takes a predicate. So a NATURAL or CROSS join gets an `ON` exactly if the predicate that it is given
is not empty, and a program of calls can do without the predicates of such joins exactly if all of them are
empty.
-/

namespace BoundSql

theorem Condition.length_predicate_pos {c : Condition} (h : c.isEmpty = false) (keyword : String) :
    0 < (c.predicate keyword).sql.length := by
  cases c with
  | empty => cases h
  | written f =>
    have hblank : (" " : String).length = 1 := rfl
    simp only [predicate, Fragment.sql_append, Fragment.sql_text, String.length_append, hblank]
    omega

namespace Select

namespace Call

/-- A join of a kind that takes no predicate, without the predicate that it is given. -/
def bared : Call → Call
  | .joinOn kind source c =>
    if kind.takesPredicate || c.isEmpty then .joinOn kind source c else .join kind source
  | call => call

/-- What a call writes as the predicate of a kind that takes none. -/
def stray : Call → Fragment
  | .joinOn kind _ c => if kind.takesPredicate then {} else c.predicate "ON"
  | _ => {}

variable {call : Call}

theorem bared_eq_self (h : ∀ kind source c, call = .joinOn kind source c → kind.takesPredicate = false →
    c.isEmpty = true) : call.bared = call := by
  cases call with
  | joinOn kind source c =>
    apply if_pos
    cases hkind : kind.takesPredicate with
    | true => rfl
    | false => exact h kind source c rfl hkind
  | _ => rfl

end Call

variable {s t : Select}

/-- A predicated join does what the join and an `ON` do, one after the other. -/
theorem joinOn_of_isEmpty_eq_false {c : Condition} (h : c.isEmpty = false) (s : Select) (kind : JoinKind)
    (source : Source) : s.joinOn kind source c = (s.join kind source).push (c.predicate "ON") :=
  if_neg (Bool.eq_false_iff.mp h)

theorem length_push (s : Select) (piece : Fragment) : (s.push piece).length = s.length + piece.sql.length :=
  length_mk_append s.fragment piece s.listOpen

theorem length_join (s : Select) (kind : JoinKind) (source : Source) : s.length ≤ (s.join kind source).length := by
  unfold join close
  rw [length_mk_append]
  exact Nat.le_add_right _ _

/-! ## One call -/

theorem apply_eq_push_stray (s : Select) (call : Call) : s.apply call = (s.apply call.bared).push call.stray := by
  cases call with
  | joinOn kind source c =>
    rw [Call.bared, Call.stray]
    cases hkind : kind.takesPredicate with
    | true => exact (push_empty _).symm
    | false =>
      cases hc : c.isEmpty with
      | true =>
        obtain rfl := Condition.isEmpty_iff.mp hc
        exact (push_empty _).symm
      | false => exact joinOn_of_isEmpty_eq_false hc s kind source
  | _ => exact (push_empty _).symm

/-- A join with a predicate is left out, or is a join without one, exactly if the predicate is empty. Otherwise
the keyword, the text and all values of the predicate stand behind the join, whatever its kind. -/
theorem joinOn_eq_or_eq_join_iff (s : Select) (kind : JoinKind) (source : Source) (c : Condition) :
    ((s.joinOn kind source c = s ∨ s.joinOn kind source c = s.join kind source) ↔ c.isEmpty = true) ∧
      (c.isEmpty = false →
        s.joinOn kind source c = (s.join kind source).push ⟨" ON " ++ c.sql, c.values⟩) := by
  cases hc : c.isEmpty with
  | true => exact ⟨iff_of_true (.inl (if_pos hc)) rfl, nofun⟩
  | false =>
    have hjoinOn := joinOn_of_isEmpty_eq_false hc s kind source
    have hlength := Condition.length_predicate_pos hc "ON"
    have hgrows := length_push (s.join kind source) (c.predicate "ON")
    have hjoin := length_join s kind source
    refine ⟨iff_of_false ?_ nofun, fun _ => ?_⟩
    · rw [hjoinOn]
      rintro (heq | heq)
      · rw [heq] at hgrows
        omega
      · rw [heq] at hgrows
        omega
    · rw [hjoinOn, c.predicate_eq, Condition.predicateText, hc]
      rfl

/-- A NATURAL join with a predicate is written with an `ON`. -/
theorem not_forall_joinOn_eq_or_eq_join :
    ¬ ∀ (steps : List Step) (kind : JoinKind) (source : Source) (c : Condition), kind.takesPredicate = false →
      (proceed {} steps).joinOn kind source c = proceed {} steps ∨
        (proceed {} steps).joinOn kind source c = (proceed {} steps).join kind source := by
  intro hall
  have hcases := hall [.call (.elements ["*"]), .call (.fromTable "t")] .natural (.table "u")
    (.written ⟨"t.a = u.a", []⟩) rfl
  have hsql := hcases.imp (congrArg (·.fragment.sql)) (congrArg (·.fragment.sql))
  revert hsql
  decide +kernel

/-! ## A program of calls -/

/-- Apart from the predicates that should not be there, two statements with the same list open grow alike. -/
theorem length_run_map_bared {calls : List Call} (h : s.listOpen = t.listOpen) :
    (t.run calls).length + s.length =
      (s.run (calls.map Call.bared)).length + t.length + (calls.map (·.stray.sql.length)).sum := by
  induction calls generalizing s t with
  | nil => exact Nat.add_comm _ _
  | cons call calls ih =>
    obtain ⟨piece, isOpen, happly⟩ := exists_apply_mk call.bared s.listOpen
    have hs : s.apply call.bared = ⟨s.fragment ++ piece, isOpen⟩ := happly s.fragment
    have ht : t.apply call.bared = ⟨t.fragment ++ piece, isOpen⟩ := by
      rw [h] at happly
      exact happly t.fragment
    have hwritten := t.apply_eq_push_stray call
    rw [ht] at hwritten
    have hopen : (s.apply call.bared).listOpen = (t.apply call).listOpen := by
      rw [hs, hwritten]
      rfl
    have hstep : (t.apply call).length + s.length =
        (s.apply call.bared).length + t.length + call.stray.sql.length := by
      rw [hwritten, length_push, hs, length_mk_append, length_mk_append]
      unfold length
      omega
    have hrest := ih hopen
    rw [run_cons, List.map_cons, run_cons, List.map_cons, List.sum_cons]
    omega

/-- The predicates of NATURAL and CROSS joins can be taken out of a program exactly if all of them are empty. -/
theorem run_map_bared_eq_iff (s : Select) (calls : List Call) :
    s.run (calls.map Call.bared) = s.run calls ↔
      ∀ kind source c, .joinOn kind source c ∈ calls → kind.takesPredicate = false → c.isEmpty = true := by
  constructor
  · intro heq kind source c hmem hkind
    have hlength : (s.run calls).length + s.length =
        (s.run (calls.map Call.bared)).length + s.length + (calls.map (·.stray.sql.length)).sum :=
      length_run_map_bared rfl
    rw [heq] at hlength
    have hsum : (calls.map (·.stray.sql.length)).sum = 0 := by omega
    have hstray : (c.predicate "ON").sql.length = 0 := by
      have hzero := List.sum_eq_zero_iff_forall_eq_nat.mp hsum _ (List.mem_map_of_mem hmem)
      rwa [Call.stray, hkind] at hzero
    cases hc : c.isEmpty with
    | true => rfl
    | false =>
      have hpos := Condition.length_predicate_pos hc "ON"
      omega
  · intro h
    have hsame : ∀ call ∈ calls, call.bared = call := by
      intro call hmem
      apply Call.bared_eq_self
      rintro kind source c rfl
      exact h kind source c hmem
    rw [List.map_congr_left hsame, List.map_id']

end Select

end BoundSql

import BoundSql.Proofs.StatementText
import BoundSql.Proofs.WindowAlignment

/-!
# Calls with an empty predicate

A call whose condition is empty writes nothing. A join and its `ON` change nothing else either, but `WHERE`
and `HAVING` end the list that was being written: the next element of it gets no comma. Such a call can be
left out exactly if no element follows in the list that it ends.
-/

namespace BoundSql.Select

namespace Call

def isVacuous : Call → Bool
  | .on c | .filter c | .having c | .joinOn _ _ c => c.isEmpty
  | _ => false

def addsElement : Call → Bool
  | .elements columns => !columns.isEmpty
  | _ => false

/-- The list that was being written goes on behind the call. -/
def keepsList : Call → Bool
  | .distinct | .columnAlias _ | .ascending | .descending | .comma _ | .on _ => true
  | .elements columns => columns.isEmpty
  | .joinOn _ _ c => c.isEmpty
  | _ => false

end Call

/-- An element is added before the list that is being written ends. -/
def continuesList (s : Select) : List Step → Bool
  | [] => false
  | .call c :: steps => c.addsElement || (c.keepsList && (s.apply c).continuesList steps)
  | .paginate w :: steps =>
    match s.window w with
    | .ok _ => false
    | .error _ => s.continuesList steps

theorem push_empty (s : Select) : s.push {} = s := by
  unfold push
  rw [Fragment.append_empty]

theorem list_eq_mk (s : Select) (keyword column : String) :
    s.list keyword column = ⟨s.fragment ++ .text (keyword ++ column), true⟩ :=
  congrArg (Select.mk · true) (Fragment.append_text_append _ _ _)

/-! ## What one call can do -/

variable {c : Call}

theorem exists_apply_eq_push (h : c.keepsList = true) : ∃ piece, ∀ s : Select, s.apply c = s.push piece := by
  cases c with
  | distinct | columnAlias | ascending | descending | comma | on => exact ⟨_, fun s => rfl⟩
  | elements columns =>
    obtain rfl := List.isEmpty_iff.mp h
    exact ⟨{}, fun s => s.push_empty.symm⟩
  | joinOn kind source c =>
    refine ⟨{}, fun s => ?_⟩
    rw [push_empty]
    exact if_pos h
  | _ => cases h

theorem exists_apply_eq_mk (hkeeps : c.keepsList = false) (hadds : c.addsElement = false) :
    ∃ piece isOpen, ∀ s : Select, s.apply c = ⟨s.fragment ++ piece, isOpen⟩ := by
  cases c with
  | distinct | columnAlias | ascending | descending | comma | on => cases hkeeps
  | elements columns =>
    cases columns with
    | nil => cases hkeeps
    | cons column columns => cases hadds
  | groupBy column | orderBy column => exact ⟨_, true, fun s => s.list_eq_mk _ column⟩
  | joinOn kind source c =>
    have hc : ¬ c.isEmpty = true := Bool.eq_false_iff.mp hkeeps
    refine ⟨.text (" " ++ kind.keyword ++ " ") ++ source.fragment ++ c.predicate "ON", false, fun s => ?_⟩
    have hjoin : s.joinOn kind source c = (s.join kind source).on c := if_neg hc
    exact hjoin.trans (congrArg (Select.mk · false) (Fragment.append_assoc _ _ _))
  | _ => exact ⟨_, _, fun s => rfl⟩

theorem exists_apply_eq_elements (h : c.addsElement = true) : ∃ text, ∀ s : Select,
    s.apply c = ⟨s.fragment ++ .text (if s.listOpen then "," ++ text else text), true⟩ := by
  cases c with
  | elements columns =>
    cases columns with
    | nil => cases h
    | cons column columns =>
      refine ⟨",".intercalate (column :: columns), ?_⟩
      rintro ⟨f, isOpen⟩
      cases isOpen with
      | false => exact elements_closed f column columns
      | true => exact elements_open f column columns
  | _ => cases h

/-- Which piece is appended depends only on whether a list is open. -/
theorem exists_apply_mk (c : Call) (isOpen : Bool) :
    ∃ piece isOpen', ∀ f, apply ⟨f, isOpen⟩ c = ⟨f ++ piece, isOpen'⟩ := by
  by_cases hkeeps : c.keepsList = true
  · obtain ⟨piece, happly⟩ := exists_apply_eq_push hkeeps
    exact ⟨piece, isOpen, fun f => happly ⟨f, isOpen⟩⟩
  · by_cases hadds : c.addsElement = true
    · obtain ⟨text, happly⟩ := exists_apply_eq_elements hadds
      exact ⟨.text (if isOpen then "," ++ text else text), true, fun f => happly ⟨f, isOpen⟩⟩
    · obtain ⟨piece, isOpen', happly⟩ :=
        exists_apply_eq_mk (Bool.eq_false_iff.mpr hkeeps) (Bool.eq_false_iff.mpr hadds)
      exact ⟨piece, isOpen', fun f => happly ⟨f, isOpen⟩⟩

theorem window_congr {s t : Select} (h : s.fragment = t.fragment) (w : Window) : s.window w = t.window w := by
  unfold window splitFrom?
  rw [h]

/-- As long as no element follows, it does not show whether the list has ended. -/
theorem fragment_proceed_of_not_continuesList {steps : List Step} {f : Fragment}
    (h : continuesList ⟨f, true⟩ steps = false) :
    (proceed ⟨f, false⟩ steps).fragment = (proceed ⟨f, true⟩ steps).fragment := by
  induction steps generalizing f with
  | nil => rfl
  | cons step steps ih =>
    rw [proceed_cons, proceed_cons]
    cases step with
    | call c =>
      rw [continuesList, Bool.or_eq_false_iff] at h
      obtain ⟨hadds, hrest⟩ := h
      by_cases hkeeps : c.keepsList = true
      · obtain ⟨piece, happly⟩ := exists_apply_eq_push hkeeps
        rw [hkeeps, Bool.true_and, happly] at hrest
        rw [advance, advance, happly, happly]
        exact ih hrest
      · obtain ⟨piece, isOpen, happly⟩ := exists_apply_eq_mk (Bool.eq_false_iff.mpr hkeeps) hadds
        rw [advance, advance, happly, happly]
    | paginate w =>
      have hsame : window ⟨f, false⟩ w = window ⟨f, true⟩ w := window_congr rfl w
      rw [continuesList] at h
      split at h
      · rename_i t ht
        rw [advance_of_eq_ok ht, advance_of_eq_ok (hsame.trans ht)]
      · rename_i e he
        rw [advance_of_eq_error he, advance_of_eq_error (hsame.trans he)]
        exact ih h

/-! ## A comma that is missing -/

def length (s : Select) : Nat := s.fragment.sql.length

def HasFrom (s : Select) : Prop := " FROM".toList <:+: s.fragment.sql.toList

theorem length_mk_append (f piece : Fragment) (isOpen : Bool) :
    length ⟨f ++ piece, isOpen⟩ = f.sql.length + piece.sql.length := by
  unfold length
  rw [Fragment.sql_append, String.length_append]

theorem HasFrom.append {s : Select} (h : s.HasFrom) (piece : Fragment) (isOpen : Bool) :
    HasFrom ⟨s.fragment ++ piece, isOpen⟩ := by
  unfold HasFrom
  rw [Fragment.sql_append, String.toList_append]
  exact h.trans (List.prefix_append _ _).isInfix

theorem HasFrom.exists_window {s : Select} (h : s.HasFrom) (w : Window) : ∃ t, s.window w = .ok t := by
  obtain ⟨before, rest, hsplit⟩ := exists_splitFrom? h
  exact ⟨_, window_of_splitFrom? hsplit w⟩

theorem hasFrom_of_window {s t : Select} {w : Window} (h : s.window w = .ok t) : s.HasFrom := by
  obtain ⟨before, rest, hsplit, -⟩ := window_eq_ok h
  exact infix_of_splitFrom? hsplit

/-- A rewrite adds the same length to every statement. -/
theorem exists_length_window (w : Window) : ∃ n, 2 < n ∧ ∀ {s t : Select}, s.window w = .ok t →
    t.length = s.length + n ∧ t.HasFrom ∧ t.listOpen = false := by
  refine ⟨15 + w.column.length + 5 + w.tableAlias.length + w.rowFilter.length, by omega, ?_⟩
  intro s t h
  obtain ⟨before, rest, hsplit, -⟩ := window_eq_ok h
  have hs : s.length = before.length + rest.length := by
    rw [length, ← append_of_splitFrom? hsplit, String.length_append]
  rw [window_of_splitFrom? hsplit w] at h
  cases h
  refine ⟨?_, ?_, rfl⟩
  · have hopen : "SELECT * FROM (".length = 15 := rfl
    have hclose : ") AS ".length = 5 := rfl
    rw [hs]
    unfold length Window.wrap
    simp only [String.length_append, hopen, hclose]
    omega
  · have hopen : "SELECT * FROM (".toList = "SELECT *".toList ++ " FROM".toList ++ " (".toList := rfl
    refine (List.infix_append "SELECT *".toList " FROM".toList " (".toList).trans ?_
    rw [← hopen]
    unfold Window.wrap
    simp only [String.toList_append, List.append_assoc]
    exact (List.prefix_append _ _).isInfix

/-- The first of two statements lacks a comma that the second has, or it has been paginated since it did. -/
inductive Diverged (x y : Select) : Prop where
  | missing {a b : List Char} (hx : x.fragment.sql.toList = a ++ b)
      (hy : y.fragment.sql.toList = a ++ ',' :: b) (hopen : x.listOpen = y.listOpen)
  | shorter (hfrom : x.HasFrom) (hlength : y.length = x.length + 1) (hopen : x.listOpen = y.listOpen)
  /-- The second may gain a comma when its list is open and that of the first is not. -/
  | longer (hfrom : x.HasFrom) (hlength : y.length + (y.listOpen && !x.listOpen).toNat < x.length)

namespace Diverged

variable {x y : Select}

theorem length_of_missing {a b : List Char} (hx : x.fragment.sql.toList = a ++ b)
    (hy : y.fragment.sql.toList = a ++ ',' :: b) : y.length = x.length + 1 := by
  unfold length
  rw [← String.length_toList, ← String.length_toList, hx, hy]
  simp only [List.length_append, List.length_cons]
  omega

theorem fragment_ne (h : Diverged x y) : x.fragment ≠ y.fragment := by
  intro heq
  have hlength : x.length = y.length := congrArg (·.sql.length) heq
  cases h with
  | missing hx hy hopen =>
    have hcomma := length_of_missing hx hy
    omega
  | shorter hfrom hcomma hopen => omega
  | longer hfrom hlonger => omega

theorem apply (h : Diverged x y) (c : Call) : Diverged (x.apply c) (y.apply c) := by
  cases h with
  | @missing a b hx hy hopen =>
    obtain ⟨piece, isOpen, happly⟩ := exists_apply_mk c x.listOpen
    have hxc := happly x.fragment
    rw [hopen] at happly
    have hyc := happly y.fragment
    rw [hxc, hyc]
    refine .missing (a := a) (b := b ++ piece.sql.toList) ?_ ?_ rfl
    · rw [Fragment.sql_append, String.toList_append, hx, List.append_assoc]
    · rw [Fragment.sql_append, String.toList_append, hy, List.append_assoc, List.cons_append]
  | shorter hfrom hlength hopen =>
    obtain ⟨piece, isOpen, happly⟩ := exists_apply_mk c x.listOpen
    have hxc := happly x.fragment
    rw [hopen] at happly
    have hyc := happly y.fragment
    rw [hxc, hyc]
    refine .shorter (hfrom.append piece isOpen) ?_ rfl
    rw [length_mk_append, length_mk_append]
    unfold length at hlength
    omega
  | longer hfrom hlength =>
    unfold length at hlength
    by_cases hkeeps : c.keepsList = true
    · obtain ⟨piece, happly⟩ := exists_apply_eq_push hkeeps
      rw [happly, happly]
      refine .longer (hfrom.append piece _) ?_
      rw [listOpen_push, listOpen_push]
      unfold push
      rw [length_mk_append, length_mk_append]
      omega
    · by_cases hadds : c.addsElement = true
      · obtain ⟨text, happly⟩ := exists_apply_eq_elements hadds
        rw [happly, happly]
        refine .longer (hfrom.append _ _) ?_
        have hcomma : ",".length = 1 := rfl
        rw [length_mk_append, length_mk_append]
        revert hlength
        cases x.listOpen <;> cases y.listOpen <;> simp [String.length_append, hcomma] <;> omega
      · obtain ⟨piece, isOpen, happly⟩ :=
          exists_apply_eq_mk (Bool.eq_false_iff.mpr hkeeps) (Bool.eq_false_iff.mpr hadds)
        rw [happly, happly]
        refine .longer (hfrom.append _ _) ?_
        rw [length_mk_append, length_mk_append, Bool.and_not_self]
        simp only [Bool.toNat_false]
        omega

theorem paginate (h : Diverged x y) (w : Window) :
    Diverged (x.advance (.paginate w)) (y.advance (.paginate w)) := by
  obtain ⟨n, hn, hwindow⟩ := exists_length_window w
  cases hxw : x.window w with
  | ok x' =>
    obtain ⟨hx', hfrom', hxopen⟩ := hwindow hxw
    rw [advance_of_eq_ok hxw]
    cases hyw : y.window w with
    | ok y' =>
      obtain ⟨hy', -, hyopen⟩ := hwindow hyw
      have hopen' : x'.listOpen = y'.listOpen := hxopen.trans hyopen.symm
      rw [advance_of_eq_ok hyw]
      cases h with
      | missing hx hy hopen =>
        have hcomma := length_of_missing hx hy
        exact .shorter hfrom' (by omega) hopen'
      | shorter hfrom hcomma hopen => exact .shorter hfrom' (by omega) hopen'
      | longer hfrom hlonger =>
        refine .longer hfrom' ?_
        rw [hyopen, Bool.false_and, Bool.toNat_false]
        omega
    | error e =>
      have hgain := Bool.toNat_le (y.listOpen && !x'.listOpen)
      rw [advance_of_eq_error hyw]
      cases h with
      | missing hx hy hopen =>
        have hcomma := length_of_missing hx hy
        exact .longer hfrom' (by omega)
      | shorter hfrom hcomma hopen => exact .longer hfrom' (by omega)
      | longer hfrom hlonger => exact .longer hfrom' (by omega)
  | error e =>
    have hnone : ¬ x.HasFrom := by
      intro hfrom
      obtain ⟨t, ht⟩ := hfrom.exists_window w
      rw [hxw] at ht
      cases ht
    rw [advance_of_eq_error hxw]
    cases h with
    | @missing a b hx hy hopen =>
      cases hyw : y.window w with
      | ok y' =>
        -- the token has no comma, so it stands in front of the missing one or behind it
        have hfrom : " FROM".toList <:+: a ++ ',' :: b := hy ▸ hasFrom_of_window hyw
        refine absurd ?_ hnone
        unfold HasFrom
        rw [hx]
        rcases Text.infix_or_infix (by decide) hfrom with ha | hb
        · exact ha.trans (List.prefix_append a b).isInfix
        · exact hb.trans (List.suffix_append a b).isInfix
      | error e' =>
        rw [advance_of_eq_error hyw]
        exact .missing hx hy hopen
    | shorter hfrom hcomma hopen => exact absurd hfrom hnone
    | longer hfrom hlonger => exact absurd hfrom hnone

theorem proceed (h : Diverged x y) (steps : List Step) : Diverged (x.proceed steps) (y.proceed steps) := by
  induction steps generalizing x y with
  | nil => exact h
  | cons step steps ih =>
    cases step with
    | call c => exact ih (h.apply c)
    | paginate w => exact ih (h.paginate w)

end Diverged

/-! ## Leaving the call out -/

/-- The comma of the next element is missing at once, and nothing that follows makes up for it. -/
theorem fragment_proceed_ne_of_continuesList {steps : List Step} {f : Fragment}
    (h : continuesList ⟨f, true⟩ steps = true) :
    (proceed ⟨f, false⟩ steps).fragment ≠ (proceed ⟨f, true⟩ steps).fragment := by
  induction steps generalizing f with
  | nil => cases h
  | cons step steps ih =>
    rw [proceed_cons, proceed_cons]
    cases step with
    | call c =>
      by_cases hadds : c.addsElement = true
      · obtain ⟨text, happly⟩ := exists_apply_eq_elements hadds
        have hdiverged : Diverged (apply ⟨f, false⟩ c) (apply ⟨f, true⟩ c) := by
          rw [happly, happly]
          refine .missing (a := f.sql.toList) (b := text.toList) ?_ ?_ rfl
          · exact String.toList_append
          · exact String.toList_append.trans (congrArg (f.sql.toList ++ ·) String.toList_append)
        exact (hdiverged.proceed steps).fragment_ne
      · rw [continuesList, Bool.eq_false_iff.mpr hadds, Bool.false_or, Bool.and_eq_true] at h
        obtain ⟨hkeeps, hrest⟩ := h
        obtain ⟨piece, happly⟩ := exists_apply_eq_push hkeeps
        rw [happly] at hrest
        rw [advance, advance, happly, happly]
        exact ih hrest
    | paginate w =>
      have hsame : window ⟨f, false⟩ w = window ⟨f, true⟩ w := window_congr rfl w
      rw [continuesList] at h
      split at h
      · cases h
      · rename_i e he
        rw [advance_of_eq_error he, advance_of_eq_error (hsame.trans he)]
        exact ih h

theorem apply_of_isVacuous (h : c.isVacuous = true) (s : Select) :
    s.apply c = ⟨s.fragment, s.listOpen && c.keepsList⟩ := by
  have hempty {c : Condition} (h : c.isEmpty = true) : c = .empty := by
    cases c with
    | empty => rfl
    | written f => cases h
  cases c with
  | on c =>
    obtain rfl := hempty h
    rw [Call.keepsList, Bool.and_true]
    exact s.push_empty
  | filter c | having c =>
    obtain rfl := hempty h
    exact congr (congrArg Select.mk (Fragment.append_empty _)) (Bool.and_false _).symm
  | joinOn kind source c =>
    have hc : c.isEmpty = true := h
    rw [Call.keepsList, hc, Bool.and_true]
    exact if_pos hc
  | _ => cases h

/-- A call with an empty predicate can be left out exactly if the list that is open before it goes on
behind it, or there is none, or no element follows in it. -/
theorem fragment_proceed_vacuous_iff (h : c.isVacuous = true) (s : Select) (p q : List Step) :
    (s.proceed (p ++ .call c :: q)).fragment = (s.proceed (p ++ q)).fragment ↔
      c.keepsList = true ∨ (s.proceed p).listOpen = false ∨ (s.proceed p).continuesList q = false := by
  rw [proceed_append, proceed_append, proceed_cons, advance, apply_of_isVacuous h]
  rcases s.proceed p with ⟨f, isOpen⟩
  dsimp only
  by_cases hsame : (isOpen && c.keepsList) = isOpen
  · rw [hsame]
    refine iff_of_true rfl ?_
    cases isOpen with
    | false => exact .inr (.inl rfl)
    | true => exact .inl hsame
  · have hopen : isOpen = true := by
      cases isOpen with
      | false => exact absurd rfl hsame
      | true => rfl
    subst hopen
    rw [Bool.true_and] at hsame ⊢
    rw [Bool.eq_false_iff.mpr hsame]
    constructor
    · intro heq
      refine .inr (.inr (Bool.eq_false_iff.mpr fun hcontinues => ?_))
      exact fragment_proceed_ne_of_continuesList hcontinues heq
    · rintro (hkeeps | hclosed | hcontinues)
      · cases hkeeps
      · cases hclosed
      · exact fragment_proceed_of_not_continuesList hcontinues

/-- A `WHERE` without a predicate behind the last column. The `GROUP BY` has a list of its own. -/
theorem fragment_proceed_vacuous_iff_grouped :
    (Call.filter .empty).isVacuous = true ∧
      (proceed {} ([.call (.elements ["a"])] ++ .call (.filter .empty) ::
          [.call (.fromTable "t"), .call (.on .empty), .call (.groupBy "a"), .call (.elements ["b"])])).fragment =
        .text "SELECT a FROM t GROUP BY a,b" := by
  refine ⟨rfl, ?_⟩
  rw [(fragment_proceed_vacuous_iff rfl {} _ _).mpr (.inr (.inr rfl))]
  exact Fragment.eq_mk (by decide +kernel) rfl

/-- Between two columns a `WHERE` without a predicate takes the comma away. -/
theorem not_forall_fragment_proceed_vacuous :
    ¬ ∀ (c : Call) (p q : List Step), c.isVacuous = true →
      (proceed {} (p ++ .call c :: q)).fragment = (proceed {} (p ++ q)).fragment := by
  intro hall
  have heq := hall (.filter .empty) [.call (.elements ["a"])] [.call (.elements ["b"])] rfl
  have hsql := congrArg Fragment.sql heq
  revert hsql
  decide +kernel

end BoundSql.Select

import BoundSql.Proofs.EmptyPredicate

/-!
# Where the numbering column goes

A statement is cut where its first ` FROM` begins, and there is one such place at most. What is appended
later does not move it. A rewrite does, to a place behind the `SELECT *` that it puts in front, so that
rewrites of a rewritten statement nest: none of them reaches into the statement that was wrapped before.
-/

namespace BoundSql

open Text

namespace Fragment

/-- The `?` behind the text `u` stands outside literals, and `v` is its value. -/
structure Binds (f : Fragment) (u : String) (v : Value) : Prop where
  mark : ∃ rest, f.sql = u ++ ("?" ++ rest)
  outside : endsQuoted false u.toList = false
  value : f.values[placeholders false u.toList]? = some v

variable {f g : Fragment} {u u' rest : String} {v : Value}

theorem exists_binds (h : placeholders false f.sql.toList = f.values.length) (hmark : f.sql = u ++ ("?" ++ rest))
    (hout : endsQuoted false u.toList = false) : ∃ v, f.Binds u v := by
  have hlt : placeholders false u.toList < f.values.length := by
    have hone : placeholders false "?".toList = 1 := by decide
    rw [← h, hmark, String.toList_append, String.toList_append, placeholders_append, hout, placeholders_append, hone]
    omega
  exact ⟨f.values[placeholders false u.toList], ⟨rest, hmark⟩, hout, List.getElem?_eq_getElem hlt⟩

/-- A `?` keeps its value when the text before it changes but for its placeholders, and values are added. -/
theorem Binds.move (h : f.Binds u v) (hmark : ∃ rest, g.sql = u' ++ ("?" ++ rest))
    (hout : endsQuoted false u'.toList = endsQuoted false u.toList)
    (hcount : placeholders false u'.toList = placeholders false u.toList) (hvalues : f.values <+: g.values) :
    g.Binds u' v := by
  obtain ⟨more, hvalues⟩ := hvalues
  refine ⟨hmark, hout.trans h.outside, ?_⟩
  obtain ⟨hlt, -⟩ := List.getElem?_eq_some_iff.mp h.value
  rw [hcount, ← hvalues, List.getElem?_append_left hlt]
  exact h.value

end Fragment

namespace Select

/-- The first ` FROM` begins between `a` and `b`. -/
structure Cut (s : Select) (a b : String) : Prop where
  append : s.fragment.sql = a ++ b
  begins : " FROM".toList <+: b.toList
  first : ∀ i < a.toList.length, ¬ " FROM".toList <+: s.fragment.sql.toList.drop i

theorem cut_of_splitFrom? {s : Select} {a b : String} (h : s.splitFrom? = some (a, b)) : s.Cut a b := by
  have happend := append_of_splitFrom? h
  simp only [splitFrom?, Option.map_eq_some_iff, Prod.mk.injEq] at h
  obtain ⟨⟨before, rest⟩, hsplit, rfl, rfl⟩ := h
  refine ⟨happend.symm, ?_, ?_⟩
  · have hbegins := prefix_of_splitBefore? hsplit
    rwa [← String.toList_ofList (l := rest)] at hbegins
  · intro i hi
    rw [String.toList_ofList] at hi
    exact not_prefix_drop_of_splitBefore? hsplit (by rwa [List.length_nil, Nat.zero_add])

theorem cut_of_not_infix {s : Select} {a b : String} (hs : s.fragment.sql = a ++ (" FROM" ++ b))
    (ha : ¬ " FROM".toList <:+: a.toList) : s.Cut a (" FROM" ++ b) :=
  cut_of_splitFrom? (splitFrom?_eq hs ha)

theorem HasFrom.exists_cut {s : Select} (h : s.HasFrom) : ∃ a b, s.Cut a b := by
  obtain ⟨a, b, hsplit⟩ := exists_splitFrom? h
  exact ⟨a, b, cut_of_splitFrom? hsplit⟩

namespace Cut

variable {s : Select} {a b a' b' : String}

theorem toList_append (h : s.Cut a b) : s.fragment.sql.toList = a.toList ++ b.toList := by
  rw [h.append, String.toList_append]

theorem not_length_lt (h : s.Cut a b) (h' : s.Cut a' b') : ¬ a.toList.length < a'.toList.length := by
  intro hlt
  refine h'.first _ hlt ?_
  rw [h.toList_append, List.drop_left]
  exact h.begins

/-- There is only one way to cut a statement. -/
theorem unique (h : s.Cut a b) (h' : s.Cut a' b') : a' = a ∧ b' = b := by
  have hlt := h.not_length_lt h'
  have hgt := h'.not_length_lt h
  have happend : a'.toList ++ b'.toList = a.toList ++ b.toList := h'.toList_append.symm.trans h.toList_append
  obtain ⟨ha, hb⟩ := List.append_inj happend (by omega)
  exact ⟨String.toList_inj.mp ha, String.toList_inj.mp hb⟩

theorem hasFrom (h : s.Cut a b) : s.HasFrom := by
  unfold HasFrom
  rw [h.toList_append]
  exact h.begins.isInfix.trans (List.suffix_append _ _).isInfix

theorem splitFrom? (h : s.Cut a b) : s.splitFrom? = some (a, b) := by
  obtain ⟨a', b', hsplit⟩ := exists_splitFrom? h.hasFrom
  obtain ⟨rfl, rfl⟩ := h.unique (cut_of_splitFrom? hsplit)
  exact hsplit

theorem window (h : s.Cut a b) (w : Window) :
    s.window w = .ok ⟨⟨w.wrap a b, s.fragment.values ++ w.limits⟩, false⟩ :=
  window_of_splitFrom? h.splitFrom? w

/-- A ` FROM` that begins in the old text would end in it, since the first one does. -/
theorem extend (h : s.Cut a b) (piece : Fragment) (isOpen : Bool) :
    Cut ⟨s.fragment ++ piece, isOpen⟩ a (b ++ piece.sql) := by
  have hsql : (s.fragment ++ piece).sql.toList = s.fragment.sql.toList ++ piece.sql.toList := String.toList_append
  refine ⟨?_, ?_, ?_⟩
  · rw [Fragment.sql_append, h.append, String.append_assoc]
  · rw [String.toList_append]
    exact h.begins.trans (List.prefix_append _ _)
  · intro i hi hlater
    have hlength := h.begins.length_le
    have hi' : i ≤ s.fragment.sql.toList.length := by
      rw [h.toList_append, List.length_append]
      omega
    rw [hsql, List.drop_append_of_le_length hi'] at hlater
    refine h.first i hi (List.prefix_of_prefix_length_le hlater (List.prefix_append _ _) ?_)
    rw [h.toList_append, List.length_drop, List.length_append]
    omega

section Binding

variable (h : s.Cut a b) (w : Window)
variable (hcount : placeholders false s.fragment.sql.toList = s.fragment.values.length)
include h hcount

/-- A placeholder before the cut keeps its value. -/
theorem binds_before {u rest : String} (hmark : a = u ++ ("?" ++ rest)) (hout : endsQuoted false u.toList = false) :
    ∃ v, s.fragment.Binds u v ∧
      Fragment.Binds ⟨w.wrap a b, s.fragment.values ++ w.limits⟩ ("SELECT * FROM (" ++ u) v := by
  have hs : s.fragment.sql = u ++ ("?" ++ (rest ++ b)) := by
    rw [h.append, hmark, String.append_assoc, String.append_assoc]
  obtain ⟨v, hbinds⟩ := Fragment.exists_binds hcount hs hout
  have hwrap : w.wrap a b = "SELECT * FROM (" ++ u ++
      ("?" ++ (rest ++ w.column ++ b ++ ") AS " ++ w.tableAlias ++ w.rowFilter)) := by
    unfold Window.wrap
    simp only [hmark, String.append_assoc]
  have hopen := scan_insert_plain (m := "SELECT * FROM (") (by decide) "" u
  rw [String.empty_append, String.empty_append] at hopen
  exact ⟨v, hbinds, hbinds.move ⟨_, hwrap⟩ hopen.1 hopen.2 (List.prefix_append _ _)⟩

/-- So does one behind it, if the column between has no quotes and no `?`. -/
theorem binds_behind (horder : Plain w.orderBy.toList) (hrow : Plain w.rowAlias.toList) {u rest : String}
    (hmark : b = u ++ ("?" ++ rest)) (hout : endsQuoted false (a ++ u).toList = false) :
    ∃ v, s.fragment.Binds (a ++ u) v ∧
      Fragment.Binds ⟨w.wrap a b, s.fragment.values ++ w.limits⟩ ("SELECT * FROM (" ++ a ++ w.column ++ u) v := by
  have hs : s.fragment.sql = a ++ u ++ ("?" ++ rest) := by
    rw [h.append, hmark, String.append_assoc]
  obtain ⟨v, hbinds⟩ := Fragment.exists_binds hcount hs hout
  have hwrap : w.wrap a b = "SELECT * FROM (" ++ a ++ w.column ++ u ++
      ("?" ++ (rest ++ ") AS " ++ w.tableAlias ++ w.rowFilter)) := by
    unfold Window.wrap
    simp only [hmark, String.append_assoc]
  have hopen := scan_insert_plain (m := "SELECT * FROM (") (by decide) "" (a ++ u)
  have hcolumn := scan_insert_plain (Window.plain_column horder hrow) ("SELECT * FROM (" ++ a) u
  rw [String.empty_append, String.empty_append, ← String.append_assoc] at hopen
  have hout := hcolumn.1.trans hopen.1
  have hcount := hcolumn.2.trans hopen.2
  exact ⟨v, hbinds, hbinds.move ⟨_, hwrap⟩ hout hcount (List.prefix_append _ _)⟩

end Binding

end Cut

/-! ## One rewrite -/

theorem window_eq_error {s : Select} (h : ¬ s.HasFrom) (w : Window) :
    s.window w = .error (.missingFrom s.fragment.sql) := by
  have hnone : s.splitFrom? = none := by
    cases hsplit : s.splitFrom? with
    | none => rfl
    | some p => exact absurd (infix_of_splitFrom? hsplit) h
  unfold window
  rw [hnone]

theorem window_eq_error_iff (s : Select) (w : Window) : (∃ e, s.window w = .error e) ↔ ¬ s.HasFrom := by
  constructor
  · rintro ⟨e, he⟩ hfrom
    obtain ⟨t, ht⟩ := hfrom.exists_window w
    rw [he] at ht
    cases ht
  · intro hnone
    exact ⟨_, window_eq_error hnone w⟩

/-- A statement without ` FROM` is refused. Any other is cut in one way only, the column goes between the two
pieces, and the bounds are added to what is bound already. -/
theorem window_of_cut (s : Select) (w : Window) :
    ((∃ e, s.window w = .error e) ↔ ¬ s.HasFrom) ∧
      (¬ s.HasFrom → s.window w = .error (.missingFrom s.fragment.sql)) ∧
      (s.HasFrom → ∃ a b, (∀ a' b', s.Cut a' b' ↔ a' = a ∧ b' = b) ∧ ∃ t, s.window w = .ok t ∧
        t.fragment.sql = "SELECT * FROM (" ++ a ++ ("," ++ w.numbering.call ++ " OVER(ORDER BY " ++ w.orderBy ++
          ") AS " ++ w.rowAlias) ++ b ++ ") AS " ++ w.tableAlias ++ w.rowFilter ∧
        t.fragment.values = s.fragment.values ++ w.limits ∧
        (placeholders false s.fragment.sql.toList = s.fragment.values.length → Plain w.orderBy.toList →
          Plain w.rowAlias.toList →
          (∀ u rest, a = u ++ ("?" ++ rest) → endsQuoted false u.toList = false →
            ∃ v, s.fragment.Binds u v ∧ t.fragment.Binds ("SELECT * FROM (" ++ u) v) ∧
          ∀ u rest, b = u ++ ("?" ++ rest) → endsQuoted false (a ++ u).toList = false →
            ∃ v, s.fragment.Binds (a ++ u) v ∧ t.fragment.Binds ("SELECT * FROM (" ++ a ++ w.column ++ u) v)) := by
  refine ⟨s.window_eq_error_iff w, fun hnone => window_eq_error hnone w, fun hfrom => ?_⟩
  obtain ⟨a, b, hcut⟩ := hfrom.exists_cut
  refine ⟨a, b, fun a' b' => ⟨hcut.unique, ?_⟩, _, hcut.window w, rfl, rfl, fun hcount horder hrow => ⟨?_, ?_⟩⟩
  · rintro ⟨rfl, rfl⟩
    exact hcut
  · exact fun u rest hmark hout => hcut.binds_before w hcount hmark hout
  · exact fun u rest hmark hout => hcut.binds_behind w hcount horder hrow hmark hout

/-- A placeholder on either side of the cut, and a `?` in a literal. -/
def marked : Select := ⟨⟨"SELECT ?,'?' FROM t WHERE a = ?", [.int 1, .int 2]⟩, false⟩

theorem window_of_cut_marked :
    ∃ t, marked.window ⟨.rank, "p", "n", "a", 7, -1⟩ = .ok t ∧
      t.fragment.values = [.int 1, .int 2, .int 7] ∧ t.fragment.Binds "SELECT * FROM (SELECT " (.int 1) ∧
      t.fragment.Binds "SELECT * FROM (SELECT ?,'?',rank() OVER(ORDER BY a) AS n FROM t WHERE a = " (.int 2) := by
  have hcut : marked.Cut "SELECT ?,'?'" (" FROM" ++ " t WHERE a = ?") :=
    cut_of_not_infix (by decide +kernel) (by decide +kernel)
  obtain ⟨-, -, hrewrite⟩ := window_of_cut marked ⟨.rank, "p", "n", "a", 7, -1⟩
  obtain ⟨a, b, hunique, t, ht, hsql, hvalues, hbinds⟩ := hrewrite hcut.hasFrom
  obtain ⟨rfl, rfl⟩ := (hunique _ _).mp hcut
  obtain ⟨hbefore, hbehind⟩ := hbinds (by decide +kernel) (by decide) (by decide)
  obtain ⟨v, hv, hfield⟩ := hbefore "SELECT " ",'?'" (by decide +kernel) (by decide)
  obtain ⟨x, hx, hfilter⟩ := hbehind " FROM t WHERE a = " "" (by decide +kernel) (by decide)
  obtain rfl : Value.int 1 = v := Option.some.inj hv.value
  obtain rfl : Value.int 2 = x := Option.some.inj hx.value
  exact ⟨t, ht, hvalues, hfield, hfilter⟩

/-! ## Rewrites upon rewrites -/

/-- What calls append to a statement whose list is open or not. -/
def appended (isOpen : Bool) (calls : List Call) : Fragment := (run ⟨{}, isOpen⟩ calls).fragment

theorem run_eq_mk (s : Select) (calls : List Call) :
    ∃ isOpen, s.run calls = ⟨s.fragment ++ appended s.listOpen calls, isOpen⟩ := by
  have hrun (f : Fragment) (isOpen : Bool) :
      run ⟨f, isOpen⟩ calls = ⟨f ++ appended isOpen calls, (run ⟨{}, isOpen⟩ calls).listOpen⟩ := by
    unfold appended
    induction calls generalizing f isOpen with
    | nil => exact congrArg (Select.mk · isOpen) (Fragment.append_empty f).symm
    | cons c calls ih =>
      obtain ⟨piece, isOpen', happly⟩ := exists_apply_mk c isOpen
      have hpiece := happly {}
      rw [Fragment.empty_append] at hpiece
      rw [run_cons, run_cons, happly, hpiece, ih, ih piece, Fragment.append_assoc]
  exact ⟨_, hrun s.fragment s.listOpen⟩

/-- A rewrite, and the calls up to the next one. -/
structure Layer where
  window : Window
  calls : List Call

namespace Layer

def steps (l : Layer) : List Step := .paginate l.window :: l.calls.map Step.call

/-- What stands behind the leading `SELECT *` when a rewrite has cut a statement into `a` and `b`. -/
def enclose (l : Layer) (a b : String) : String :=
  " FROM (" ++ a ++ l.window.column ++ b ++ ") AS " ++ l.window.tableAlias ++ l.window.rowFilter ++
    (appended false l.calls).sql

def values (l : Layer) : List Value := l.window.limits ++ (appended false l.calls).values

/-- What stands behind the leading `SELECT *` of wrappers around wrappers, the innermost ones first. -/
def nested (rest : String) (ls : List Layer) : String := ls.foldl (fun rest l => l.enclose "SELECT *" rest) rest

end Layer

/-- The calls before the first rewrite, and the layers that follow. -/
def layers : List Step → List Call × List Layer
  | [] => ([], [])
  | .call c :: steps => (c :: (layers steps).1, (layers steps).2)
  | .paginate w :: steps => ([], ⟨w, (layers steps).1⟩ :: (layers steps).2)

theorem append_layers (steps : List Step) :
    (layers steps).1.map Step.call ++ (layers steps).2.flatMap Layer.steps = steps := by
  induction steps with
  | nil => rfl
  | cons step steps ih =>
    cases step with
    | call c => exact congrArg (Step.call c :: ·) ih
    | paginate w => exact congrArg (Step.paginate w :: ·) ih

theorem proceed_map_call (s : Select) (calls : List Call) : s.proceed (calls.map Step.call) = s.run calls := by
  induction calls generalizing s with
  | nil => rfl
  | cons c calls ih => exact ih (s.apply c)

theorem Cut.run {s : Select} {a b : String} (h : s.Cut a b) (calls : List Call) :
    (s.run calls).Cut a (b ++ (appended s.listOpen calls).sql) := by
  obtain ⟨isOpen, hrun⟩ := s.run_eq_mk calls
  rw [hrun]
  exact h.extend _ isOpen

theorem Layer.exists_enclose_eq (l : Layer) (a b : String) : ∃ rest, l.enclose a b = " FROM" ++ rest := by
  have hopen : " FROM (" = " FROM" ++ " (" := by decide
  unfold enclose
  simp only [hopen, String.append_assoc]
  exact ⟨_, rfl⟩

/-- Behind a rewrite and the calls that follow it, the column of the next one goes behind the new `SELECT *`. -/
theorem Cut.layer {s : Select} {a b : String} (h : s.Cut a b) (l : Layer) :
    (s.proceed l.steps).Cut "SELECT *" (l.enclose a b) ∧
      (s.proceed l.steps).fragment.values = s.fragment.values ++ l.values := by
  obtain ⟨isOpen, hrun⟩ :=
    run_eq_mk ⟨⟨l.window.wrap a b, s.fragment.values ++ l.window.limits⟩, false⟩ l.calls
  rw [Layer.steps, proceed_cons, advance_of_eq_ok (h.window l.window), proceed_map_call, hrun]
  constructor
  · obtain ⟨rest, hrest⟩ := l.exists_enclose_eq a b
    rw [hrest]
    refine cut_of_not_infix ?_ (by decide +kernel)
    have hopen : "SELECT * FROM (" = "SELECT *" ++ " FROM (" := by decide
    rw [← hrest]
    unfold Layer.enclose Window.wrap
    simp only [Fragment.sql_append, hopen, String.append_assoc]
  · exact List.append_assoc _ _ _

theorem Cut.layers {s : Select} {rest : String} (h : s.Cut "SELECT *" rest) (ls : List Layer) :
    (s.proceed (ls.flatMap Layer.steps)).Cut "SELECT *" (Layer.nested rest ls) ∧
      (s.proceed (ls.flatMap Layer.steps)).fragment.values = s.fragment.values ++ ls.flatMap Layer.values := by
  induction ls generalizing s rest with
  | nil => exact ⟨h, (List.append_nil _).symm⟩
  | cons l ls ih =>
    obtain ⟨hcut, hvalues⟩ := h.layer l
    obtain ⟨hcuts, hmore⟩ := ih hcut
    rw [List.flatMap_cons, List.flatMap_cons, proceed_append]
    refine ⟨hcuts, ?_⟩
    rw [hmore, hvalues, List.append_assoc]

/-- The next rewrite puts its column between `a` and `b`, and adds nothing but its bounds to the values. -/
structure SplicesAt (s : Select) (a b : String) : Prop where
  cut : s.Cut a b
  window : ∀ w, s.window w = .ok ⟨⟨w.wrap a b, s.fragment.values ++ w.limits⟩, false⟩

theorem Cut.splicesAt {s : Select} {a b : String} (h : s.Cut a b) : s.SplicesAt a b := ⟨h, h.window⟩

/-- Calls leave the place of the next column where it is. Behind a rewrite it stays behind the leading
`SELECT *`, whatever follows, and every further rewrite wraps the whole of what was there. -/
theorem splicesAt_proceed (s : Select) :
    (∀ a b, s.Cut a b → ∀ calls, (s.run calls).SplicesAt a (b ++ (appended s.listOpen calls).sql)) ∧
      ∀ w t, s.window w = .ok t → ∃ a b, s.Cut a b ∧ ∀ steps,
        (t.proceed steps).SplicesAt "SELECT *"
            (Layer.nested (Layer.enclose ⟨w, (layers steps).1⟩ a b) (layers steps).2) ∧
          (t.proceed steps).fragment.values =
            s.fragment.values ++ (⟨w, (layers steps).1⟩ :: (layers steps).2).flatMap Layer.values := by
  constructor
  · exact fun a b h calls => (h.run calls).splicesAt
  · intro w t ht
    obtain ⟨a, b, hcut⟩ := (hasFrom_of_window ht).exists_cut
    refine ⟨a, b, hcut, fun steps => ?_⟩
    obtain ⟨hfirst, hvalues⟩ := hcut.layer ⟨w, (layers steps).1⟩
    obtain ⟨hcuts, hmore⟩ := hfirst.layers (layers steps).2
    have hsteps : s.proceed (Layer.steps ⟨w, (layers steps).1⟩) = t.proceed ((layers steps).1.map Step.call) := by
      rw [Layer.steps, proceed_cons, advance_of_eq_ok ht]
    rw [hsteps, ← proceed_append, append_layers] at hcuts hmore
    rw [hsteps] at hvalues
    refine ⟨hcuts.splicesAt, ?_⟩
    rw [hmore, hvalues, List.flatMap_cons, List.append_assoc]

/-- A filter that has a ` FROM`, and a further rewrite behind it. -/
def stacked : List Step := [
  .call (.filter (.written ⟨" FROM = ?", [.null]⟩)),
  .paginate ⟨.rank, "q", "k", "b", -1, 5⟩,
  .call (.orderBy "k")]

theorem splicesAt_proceed_stacked :
    ∃ t, window ⟨.text "SELECT a FROM t", false⟩ ⟨.rowNumber, "p", "n", "a", 0, 9⟩ = .ok t ∧
      (t.proceed stacked).fragment =
        ⟨"SELECT * FROM (SELECT *,rank() OVER(ORDER BY b) AS k FROM (SELECT a,row_number() OVER(ORDER BY a) AS n" ++
            " FROM t) AS p WHERE n >= ? AND n < ? WHERE  FROM = ?) AS q WHERE k < ? ORDER BY k",
          [.int 0, .int 9, .null, .int 5]⟩ := by
  have hcut : Cut ⟨.text "SELECT a FROM t", false⟩ "SELECT a" (" FROM" ++ " t") :=
    cut_of_not_infix (by decide +kernel) (by decide +kernel)
  obtain ⟨-, hrewrites⟩ := splicesAt_proceed ⟨.text "SELECT a FROM t", false⟩
  have hwindow := hcut.window ⟨.rowNumber, "p", "n", "a", 0, 9⟩
  obtain ⟨a, b, hcut', hsteps⟩ := hrewrites _ _ hwindow
  obtain ⟨rfl, rfl⟩ := hcut.unique hcut'
  obtain ⟨hsplices, hvalues⟩ := hsteps stacked
  exact ⟨_, hwindow, Fragment.eq_mk (hsplices.cut.append.trans (by decide +kernel)) (hvalues.trans rfl)⟩

end Select

end BoundSql

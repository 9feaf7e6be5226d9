import BoundSql.Proofs.StatementText
import BoundSql.Proofs.WindowAlignment

/-!
# Parentheses outside literals

The scan for placeholders also tells how many parentheses are open: those inside literals do not count. A
closed text opens whatever it closes and closes whatever it opens, so a parenthesis in front of it is
closed by the first one behind it.
-/

namespace BoundSql

namespace Text

/-- The open parentheses behind a character. None are left to close where this fails. -/
def depthAfter? (quoted : Bool) (depth : Nat) (c : Char) : Option Nat :=
  if quoted then some depth
  else if c = '(' then some (depth + 1)
  else if c = ')' then
    match depth with
    | 0 => none
    | depth + 1 => some depth
  else some depth

def nesting? (quoted : Bool) (depth : Nat) : List Char → Option Nat
  | [] => some depth
  | c :: cs => (depthAfter? quoted depth c).bind fun d => nesting? (side quoted c) d cs

def Closed (cs : List Char) : Prop :=
  endsQuoted false cs = false ∧ nesting? false 0 cs = some 0

instance (cs : List Char) : Decidable (Closed cs) :=
  inferInstanceAs (Decidable (_ ∧ _))

/-- What stands between a parenthesis that was just opened and the one that closes it, and what stands
behind that. -/
def untilClosing? (quoted : Bool) (depth : Nat) : List Char → Option (List Char × List Char)
  | [] => none
  | c :: cs =>
    match depthAfter? quoted depth c with
    | none => some ([], cs)
    | some d => (untilClosing? (side quoted c) d cs).map fun p => (c :: p.1, p.2)

variable {q : Bool} {c : Char} {cs a b m : List Char} {d e : Nat}

@[simp] theorem nesting?_nil (q : Bool) (d : Nat) : nesting? q d [] = some d := rfl

theorem nesting?_cons (q : Bool) (d : Nat) (c : Char) (cs : List Char) :
    nesting? q d (c :: cs) = (depthAfter? q d c).bind fun e => nesting? (side q c) e cs := rfl

theorem depthAfter?_true (d : Nat) (c : Char) : depthAfter? true d c = some d := rfl

theorem depthAfter?_of_ne (hopen : c ≠ '(') (hclose : c ≠ ')') (q : Bool) (d : Nat) :
    depthAfter? q d c = some d := by
  unfold depthAfter?
  rw [if_neg hopen, if_neg hclose, ite_self]

theorem depthAfter?_add (h : depthAfter? q d c = some e) (n : Nat) :
    depthAfter? q (d + n) c = some (e + n) := by
  unfold depthAfter? at h ⊢
  by_cases hq : q = true
  · rw [if_pos hq] at h ⊢
    cases h
    rfl
  · rw [if_neg hq] at h ⊢
    by_cases hopen : c = '('
    · rw [if_pos hopen] at h ⊢
      cases h
      rw [Nat.add_right_comm]
    · rw [if_neg hopen] at h ⊢
      by_cases hclose : c = ')'
      · rw [if_pos hclose] at h ⊢
        cases d with
        | zero => cases h
        | succ d =>
          cases h
          rw [Nat.succ_add]
      · rw [if_neg hclose] at h ⊢
        cases h
        rfl

theorem nesting?_append (q : Bool) (d : Nat) (a b : List Char) :
    nesting? q d (a ++ b) = (nesting? q d a).bind fun e => nesting? (endsQuoted q a) e b := by
  induction a generalizing q d with
  | nil => rfl
  | cons c cs ih =>
    rw [List.cons_append, nesting?_cons, nesting?_cons, Option.bind_assoc]
    simp only [ih, endsQuoted_cons]

/-- Parentheses that were open before stay open. -/
theorem nesting?_add (h : nesting? q d cs = some e) (n : Nat) : nesting? q (d + n) cs = some (e + n) := by
  induction cs generalizing q d with
  | nil =>
    cases h
    rfl
  | cons c cs ih =>
    obtain ⟨f, hc, hcs⟩ := Option.bind_eq_some_iff.mp h
    rw [nesting?_cons, depthAfter?_add hc n]
    exact ih hcs

theorem nesting?_of_bare (h : Bare cs) (q : Bool) (d : Nat) : nesting? q d cs = some d := by
  induction cs generalizing q with
  | nil => rfl
  | cons c cs ih =>
    obtain ⟨-, -, hopen, hclose⟩ := h c List.mem_cons_self
    rw [nesting?_cons, depthAfter?_of_ne hopen hclose]
    exact ih (fun x hx => h x (List.mem_cons_of_mem c hx)) _

/-- A text without quotes stays inside the literal in which it stands. -/
theorem nesting?_of_not_mem (h : '\'' ∉ cs) (d : Nat) : nesting? true d cs = some d := by
  induction cs with
  | nil => rfl
  | cons c cs ih =>
    rw [List.mem_cons, not_or] at h
    have hside : side true c = true := if_neg (Ne.symm h.1)
    rw [nesting?_cons, depthAfter?_true, hside]
    exact ih h.2

/-- Between the two quotes of a pair the scan is outside for no character. -/
theorem nesting?_doubled (d : Nat) (cs : List Char) : nesting? true d (doubled cs) = some d := by
  induction cs with
  | nil => rfl
  | cons c cs ih =>
    rw [doubled_cons, nesting?_append]
    split
    · exact ih
    · rename_i hc
      have hside : side true c = true := if_neg hc
      simpa [nesting?_cons, depthAfter?_true, hside] using ih

theorem Closed.nesting?_eq (h : Closed cs) (d : Nat) : nesting? false d cs = some d := by
  have hd := nesting?_add h.2 d
  rwa [Nat.zero_add] at hd

theorem Closed.endsQuoted_eq (h : Closed cs) (q : Bool) : endsQuoted q cs = q := by
  cases q with
  | false => exact h.1
  | true =>
    have hnot := endsQuoted_not false cs
    rwa [h.1] at hnot

theorem Closed.append (ha : Closed a) (hb : Closed b) : Closed (a ++ b) := by
  constructor
  · rw [endsQuoted_append, ha.1, hb.1]
  · rw [nesting?_append, ha.2, ha.1]
    exact hb.2

theorem Bare.closed (h : Bare cs) : Closed cs :=
  ⟨endsQuoted_of_plain h.plain false, nesting?_of_bare h false 0⟩

theorem closed_nil : Closed [] := ⟨rfl, rfl⟩

theorem Closed.parens (h : Closed cs) : Closed ('(' :: cs ++ [')']) := by
  constructor
  · rw [List.cons_append, endsQuoted_cons, endsQuoted_append]
    simp [side, h.1]
  · have hdepth : depthAfter? false 0 '(' = some 1 := rfl
    rw [List.cons_append, nesting?_cons, hdepth]
    have hside : side false '(' = false := rfl
    rw [Option.bind_some, hside, nesting?_append, h.nesting?_eq 1, h.1]
    rfl

theorem closed_quoted (cs : List Char) : Closed (quoted cs) := by
  constructor
  · have hout := (neutral_quoted cs).1
    rwa [String.toList_ofList] at hout
  · have hside : side false '\'' = true := rfl
    have hdepth : depthAfter? false 0 '\'' = some 0 := rfl
    rw [quoted, nesting?_cons, hdepth, Option.bind_some, hside, nesting?_append, nesting?_doubled,
      endsQuoted_doubled]
    rfl

/-- Inside a literal the inserted text is not looked at, outside it closes all it opens. -/
theorem Closed.insert (h : Closed (a ++ b)) (hm : Closed m) (hquote : '\'' ∉ m) :
    Closed (a ++ m ++ b) := by
  have hside := hm.endsQuoted_eq (endsQuoted false a)
  constructor
  · rw [endsQuoted_append, endsQuoted_append, hside, ← endsQuoted_append]
    exact h.1
  · have hdepth := h.2
    rw [nesting?_append] at hdepth
    obtain ⟨e, ha, hb⟩ := Option.bind_eq_some_iff.mp hdepth
    have hmiddle : nesting? (endsQuoted false a) e m = some e := by
      cases endsQuoted false a with
      | false => exact hm.nesting?_eq e
      | true => exact nesting?_of_not_mem hquote e
    rw [nesting?_append, nesting?_append, endsQuoted_append, ha, Option.bind_some, hmiddle, hside]
    exact hb

theorem untilClosing?_append (h : nesting? q d m = some e) (r : List Char) :
    untilClosing? q d (m ++ r) = (untilClosing? (endsQuoted q m) e r).map fun p => (m ++ p.1, p.2) := by
  induction m generalizing q d with
  | nil =>
    cases h
    simp
  | cons c cs ih =>
    obtain ⟨f, hc, hcs⟩ := Option.bind_eq_some_iff.mp h
    rw [List.cons_append, untilClosing?, hc]
    dsimp only
    rw [ih hcs, Option.map_map, endsQuoted_cons]
    rfl

/-- A parenthesis in front of a closed text is closed by the one behind it. -/
theorem Closed.untilClosing?_eq (h : Closed m) (r : List Char) :
    untilClosing? false 0 (m ++ ')' :: r) = some (m, r) := by
  have hend : untilClosing? false 0 (')' :: r) = some ([], r) := rfl
  rw [untilClosing?_append h.2, h.1, hend, Option.map_some, List.append_nil]

theorem closed_append {s t : String} (hs : Closed s.toList) (ht : Closed t.toList) :
    Closed (s ++ t).toList := by
  rw [String.toList_append]
  exact hs.append ht

theorem closed_parens {s : String} (h : Closed s.toList) : Closed ("(" ++ s ++ ")").toList := by
  rw [String.toList_append, String.toList_append]
  exact h.parens

theorem closed_list {es : List String} (h : ∀ e ∈ es, Closed e.toList) :
    Closed (Literal.list es).toList := by
  have hcommas : Closed (",".intercalate es).toList :=
    intercalate_of_append (P := fun s => Closed s.toList) closed_append (by decide) (by decide) h
  exact closed_parens hcommas

end Text

open Text

theorem Value.closed_inline (v : Value) : Closed v.inline.toList := by
  rw [Value.inline, String.toList_ofList]
  cases v with
  | null => decide
  | bool b => cases b <;> decide
  | int n => exact (bare_literal_int _).closed
  | float x => exact (bare_number_write _).closed
  | text s => exact closed_quoted s.toList
  | blob bytes =>
    have hbytes := bare_flatMap_byte bytes
    constructor
    · simp [Value.literal, side, endsQuoted_of_plain hbytes.plain]
    · have hquote : nesting? false 0 "X'".toList = some 0 := rfl
      have hside : endsQuoted false "X'".toList = true := rfl
      have hliteral : (blob bytes).literal = "X'".toList ++ (bytes.flatMap Literal.byte ++ ['\'']) := rfl
      rw [hliteral, nesting?_append, hquote, Option.bind_some, hside, nesting?_append,
        nesting?_of_bare hbytes, endsQuoted_of_plain hbytes.plain]
      rfl

namespace Window

structure Closed (w : Window) : Prop where
  tableAlias : Text.Closed w.tableAlias.toList
  rowAlias : Text.Closed w.rowAlias.toList
  orderBy : Text.Closed w.orderBy.toList

/-- No quotes in the texts of the inserted column. -/
def Unquoted (w : Window) : Prop := '\'' ∉ w.orderBy.toList ∧ '\'' ∉ w.rowAlias.toList

variable {w : Window}

theorem Closed.column (h : w.Closed) : Text.Closed w.column.toList := by
  have hopen : " OVER(ORDER BY " = " OVER" ++ ("(" ++ "ORDER BY ") := by decide
  have hclose : ") AS " = ")" ++ " AS " := by decide
  have hparts : w.column =
      "," ++ w.numbering.call ++ " OVER" ++ ("(" ++ ("ORDER BY " ++ w.orderBy) ++ ")") ++ (" AS " ++ w.rowAlias) := by
    unfold Window.column
    simp only [hopen, hclose, String.append_assoc]
  have hcall : Text.Closed ("," ++ w.numbering.call ++ " OVER").toList := by
    cases w.numbering <;> decide
  have horder : Text.Closed ("ORDER BY " ++ w.orderBy).toList := closed_append (by decide) h.orderBy
  have halias : Text.Closed (" AS " ++ w.rowAlias).toList := closed_append (by decide) h.rowAlias
  rw [hparts]
  exact closed_append (closed_append hcall (closed_parens horder)) halias

theorem Unquoted.column (h : w.Unquoted) : '\'' ∉ w.column.toList :=
  (not_mem_column_iff (by decide)).mpr h

theorem Closed.rowFilter (h : w.Closed) : Text.Closed w.rowFilter.toList := by
  have hbound {keyword comparison : String} (hkeyword : Text.Closed keyword.toList)
      (hcomparison : Text.Closed comparison.toList) :
      Text.Closed (keyword ++ w.rowAlias ++ comparison).toList :=
    closed_append (closed_append hkeyword h.rowAlias) hcomparison
  unfold Window.rowFilter
  apply closed_append
  · split
    · exact hbound (by decide) (by decide)
    · exact closed_nil
  · split
    · split
      · exact hbound (by decide) (by decide)
      · exact hbound (by decide) (by decide)
    · exact closed_nil

end Window

namespace Select

/-- The statement that a rewrite puts between parentheses, cut where the column is inserted. -/
theorem closed_spliced {s : Select} {w : Window} {before rest : String}
    (hs : Closed s.fragment.sql.toList) (hw : w.Closed) (hquote : w.Unquoted)
    (h : s.splitFrom? = some (before, rest)) : Closed (before ++ w.column ++ rest).toList := by
  rw [← append_of_splitFrom? h, String.toList_append] at hs
  rw [String.toList_append, String.toList_append]
  exact hs.insert hw.column hquote.column

/-- The paginated statement, with the one that it wraps between parentheses. -/
theorem window_eq_wrapped {s : Select} {before rest : String} (h : s.splitFrom? = some (before, rest))
    (w : Window) : s.window w = .ok ⟨⟨"SELECT * FROM " ++ ("(" ++ (before ++ w.column ++ rest) ++ ")") ++
        (" AS " ++ w.tableAlias ++ w.rowFilter), s.fragment.values ++ w.limits⟩, false⟩ := by
  have hopen : "SELECT * FROM (" = "SELECT * FROM " ++ "(" := by decide
  have hclose : ") AS " = ")" ++ " AS " := by decide
  refine (window_of_splitFrom? h w).trans ?_
  unfold Window.wrap
  simp only [hopen, hclose, String.append_assoc]

theorem closed_window {s t : Select} {w : Window} (hs : Closed s.fragment.sql.toList) (hw : w.Closed)
    (hquote : w.Unquoted) (h : s.window w = .ok t) : Closed t.fragment.sql.toList := by
  obtain ⟨before, rest, hsplit, -⟩ := window_eq_ok h
  rw [window_eq_wrapped hsplit w] at h
  cases h
  have hspliced := closed_parens (closed_spliced hs hw hquote hsplit)
  have halias : Closed (" AS " ++ w.tableAlias).toList := closed_append (by decide) hw.tableAlias
  exact closed_append (closed_append (by decide) hspliced) (closed_append halias hw.rowFilter)

end Select

end BoundSql

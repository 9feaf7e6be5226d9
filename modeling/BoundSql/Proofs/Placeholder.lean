import BoundSql.Text.Quoted

/-!
# Placeholders outside literals

A text is scanned from left to right. Every single quote changes sides between plain text and literal, and a
`?` is a placeholder where it stands outside literals. A neutral text brings the scan back and has none.
-/

namespace BoundSql.Text

/-- The side after one character; `quoted` holds inside a literal. -/
def side (quoted : Bool) (c : Char) : Bool :=
  if c = '\'' then !quoted else quoted

def endsQuoted (quoted : Bool) (cs : List Char) : Bool := cs.foldl side quoted

/-- How many `?` of a text stand outside literals. -/
def placeholders (quoted : Bool) : List Char → Nat
  | [] => 0
  | c :: cs => (if c = '?' ∧ quoted = false then 1 else 0) + placeholders (side quoted c) cs

def Neutral (s : String) : Prop :=
  endsQuoted false s.toList = false ∧ placeholders false s.toList = 0

instance (s : String) : Decidable (Neutral s) :=
  inferInstanceAs (Decidable (_ ∧ _))

/-- No single quote and no `?`. -/
def Plain (cs : List Char) : Prop := ∀ c ∈ cs, c ≠ '\'' ∧ c ≠ '?'

instance (cs : List Char) : Decidable (Plain cs) :=
  List.decidableBAll (fun c => c ≠ '\'' ∧ c ≠ '?') cs

/-- Neither quotes nor `?` nor parentheses, as in the keywords. -/
def Bare (cs : List Char) : Prop := ∀ c ∈ cs, c ≠ '\'' ∧ c ≠ '?' ∧ c ≠ '(' ∧ c ≠ ')'

instance (cs : List Char) : Decidable (Bare cs) :=
  List.decidableBAll (fun c => c ≠ '\'' ∧ c ≠ '?' ∧ c ≠ '(' ∧ c ≠ ')') cs

theorem Bare.plain {cs : List Char} (h : Bare cs) : Plain cs :=
  fun c hc => ⟨(h c hc).1, (h c hc).2.1⟩

@[simp] theorem endsQuoted_nil (q : Bool) : endsQuoted q [] = q := rfl

@[simp] theorem endsQuoted_cons (q : Bool) (c : Char) (cs : List Char) :
    endsQuoted q (c :: cs) = endsQuoted (side q c) cs := rfl

@[simp] theorem endsQuoted_append (q : Bool) (a b : List Char) :
    endsQuoted q (a ++ b) = endsQuoted (endsQuoted q a) b := by
  simp [endsQuoted]

@[simp] theorem placeholders_nil (q : Bool) : placeholders q [] = 0 := rfl

@[simp] theorem placeholders_append (q : Bool) (a b : List Char) :
    placeholders q (a ++ b) = placeholders q a + placeholders (endsQuoted q a) b := by
  induction a generalizing q with
  | nil => simp
  | cons c cs ih =>
    rw [List.cons_append, placeholders, placeholders, ih, endsQuoted_cons]
    omega

/-- A piece that brings the scan back to its side may be inserted anywhere, and adds its own placeholders. -/
theorem scan_insert {q : Bool} {a m : List Char} (h : endsQuoted (endsQuoted q a) m = endsQuoted q a)
    (b : List Char) :
    endsQuoted q (a ++ m ++ b) = endsQuoted q (a ++ b) ∧
      placeholders q (a ++ m ++ b) = placeholders q (a ++ b) + placeholders (endsQuoted q a) m := by
  constructor
  · rw [endsQuoted_append, endsQuoted_append, endsQuoted_append, h]
  · rw [placeholders_append, placeholders_append, placeholders_append, endsQuoted_append, h]
    omega

theorem endsQuoted_not (q : Bool) (cs : List Char) : endsQuoted (!q) cs = !endsQuoted q cs := by
  induction cs generalizing q with
  | nil => rfl
  | cons c cs ih =>
    have hside : side (!q) c = !side q c := by
      unfold side
      split <;> rfl
    rw [endsQuoted_cons, endsQuoted_cons, hside, ih]

/-- Whichever side a scan begins on, it misses the `?` that a scan from the other side meets. -/
theorem placeholders_true_add_false (cs : List Char) :
    placeholders true cs + placeholders false cs = cs.count '?' := by
  induction cs with
  | nil => rfl
  | cons c cs ih =>
    rw [placeholders, placeholders, List.count_cons, ← ih]
    by_cases hc : c = '\''
    · subst hc
      simp [side]
      omega
    · by_cases hq : c = '?'
      · simp [side, hq]
        omega
      · simp [side, hc, hq]

/-- A neutral text that stands inside a literal has a placeholder for every `?` in it. -/
theorem Neutral.placeholders_eq {s : String} (h : Neutral s) (q : Bool) :
    placeholders q s.toList = if q then s.toList.count '?' else 0 := by
  have hsum := placeholders_true_add_false s.toList
  rw [h.2] at hsum
  cases q with
  | false => exact h.2
  | true => exact hsum

theorem Neutral.endsQuoted_eq {s : String} (h : Neutral s) (q : Bool) : endsQuoted q s.toList = q := by
  cases q with
  | false => exact h.1
  | true =>
    have hnot := endsQuoted_not false s.toList
    rwa [h.1] at hnot

theorem endsQuoted_of_plain {cs : List Char} (h : Plain cs) (q : Bool) : endsQuoted q cs = q := by
  induction cs with
  | nil => rfl
  | cons c cs ih =>
    have hc : side q c = q := if_neg (h c List.mem_cons_self).1
    rw [endsQuoted_cons, hc]
    exact ih fun d hd => h d (List.mem_cons_of_mem c hd)

theorem placeholders_of_plain {cs : List Char} (h : Plain cs) (q : Bool) : placeholders q cs = 0 := by
  induction cs with
  | nil => rfl
  | cons c cs ih =>
    obtain ⟨hquote, hmark⟩ := h c List.mem_cons_self
    have hside : side q c = q := if_neg hquote
    rw [placeholders, hside, ih fun d hd => h d (List.mem_cons_of_mem c hd)]
    simp [hmark]

/-- A text without quotes and `?` can be put anywhere. -/
theorem scan_insert_plain {m : String} (h : Plain m.toList) (a b : String) :
    endsQuoted false (a ++ m ++ b).toList = endsQuoted false (a ++ b).toList ∧
      placeholders false (a ++ m ++ b).toList = placeholders false (a ++ b).toList := by
  obtain ⟨hout, hcount⟩ := scan_insert (endsQuoted_of_plain h (endsQuoted false a.toList)) b.toList
  rw [placeholders_of_plain h] at hcount
  simp only [String.toList_append]
  exact ⟨hout, hcount⟩

theorem Plain.neutral {s : String} (h : Plain s.toList) : Neutral s :=
  ⟨endsQuoted_of_plain h false, placeholders_of_plain h false⟩

theorem Neutral.append {s t : String} (hs : Neutral s) (ht : Neutral t) : Neutral (s ++ t) := by
  constructor
  · rw [String.toList_append, endsQuoted_append, hs.1, ht.1]
  · rw [String.toList_append, placeholders_append, hs.1, hs.2, ht.2]

/-- Inside a literal every doubled quote leaves the literal and comes back at once. -/
theorem endsQuoted_doubled (q : Bool) (cs : List Char) : endsQuoted q (doubled cs) = q := by
  induction cs with
  | nil => rfl
  | cons c cs ih =>
    rw [doubled_cons, endsQuoted_append]
    split
    · simpa [side] using ih
    · rename_i hc
      simpa [side, hc] using ih

theorem placeholders_doubled (cs : List Char) : placeholders true (doubled cs) = 0 := by
  induction cs with
  | nil => rfl
  | cons c cs ih =>
    rw [doubled_cons, placeholders_append]
    split
    · simpa [placeholders, side] using ih
    · rename_i hc
      simpa [placeholders, side, hc] using ih

theorem neutral_quoted (cs : List Char) : Neutral (String.ofList (quoted cs)) := by
  constructor
  · simp [quoted, side, endsQuoted_doubled]
  · simp [quoted, placeholders, side, endsQuoted_doubled, placeholders_doubled]

end BoundSql.Text

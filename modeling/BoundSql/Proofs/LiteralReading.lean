import BoundSql.Literal

/-!
# Literals can be read back

A reader of literals, which stops where the literal ends. Floating-point numbers are not among them: a whole
one looks like an integer.
-/

namespace BoundSql

namespace Text

variable {p : Char → Bool} {cs : List Char} {d : Char}

theorem takeWhile_append_cons (hcs : ∀ c ∈ cs, p c = true) (hd : p d = false) (r : List Char) :
    (cs ++ d :: r).takeWhile p = cs := by
  rw [List.takeWhile_append_of_pos hcs, List.takeWhile_cons_of_neg (by simp [hd]), List.append_nil]

theorem dropWhile_append_cons (hcs : ∀ c ∈ cs, p c = true) (hd : p d = false) (r : List Char) :
    (cs ++ d :: r).dropWhile p = d :: r := by
  rw [List.dropWhile_append_of_pos hcs, List.dropWhile_cons_of_neg (by simp [hd])]

end Text

namespace Literal

/-- The characters of a text, and what follows it. Its opening quote is passed. -/
def readText? : List Char → Option (List Char × List Char)
  | [] => none
  | '\'' :: '\'' :: cs => (readText? cs).map fun p => ('\'' :: p.1, p.2)
  | '\'' :: cs => some ([], cs)
  | c :: cs => (readText? cs).map fun p => (c :: p.1, p.2)

def digit? (c : Char) : Option Nat := "0123456789ABCDEF".toList.idxOf? c

/-- The bytes of a blob, and what follows it. Its opening quote is passed. -/
def readBytes? : List Char → Option (List UInt8 × List Char)
  | '\'' :: cs => some ([], cs)
  | a :: b :: cs => do
    let high ← digit? a
    let low ← digit? b
    let rest ← readBytes? cs
    return ((16 * high + low).toUInt8 :: rest.1, rest.2)
  | _ => none

def readNat? (cs : List Char) : Option (Nat × List Char) :=
  if (cs.takeWhile Char.isDigit).isEmpty then none
  else some (Nat.ofDigitChars 10 (cs.takeWhile Char.isDigit) 0, cs.dropWhile Char.isDigit)

def readInt? : List Char → Option (Int × List Char)
  | '-' :: cs => (readNat? cs).map fun p => (-(p.1 : Int), p.2)
  | cs => (readNat? cs).map fun p => ((p.1 : Int), p.2)

def read? : List Char → Option (Value × List Char)
  | 'N' :: 'U' :: 'L' :: 'L' :: cs => some (.null, cs)
  | 'T' :: 'R' :: 'U' :: 'E' :: cs => some (.bool true, cs)
  | 'F' :: 'A' :: 'L' :: 'S' :: 'E' :: cs => some (.bool false, cs)
  | '\'' :: cs => (readText? cs).map fun p => (.text (String.ofList p.1), p.2)
  | 'X' :: '\'' :: cs => (readBytes? cs).map fun p => (.blob p.1, p.2)
  | cs => (readInt? cs).map fun p => (.int (Int64.ofInt p.1), p.2)

/-- What stands behind an element of a list. -/
def Stop (d : Char) : Prop := d = ',' ∨ d = ')'

variable {d : Char}

theorem Stop.ne_quote (h : Stop d) : d ≠ '\'' := by
  rcases h with rfl | rfl <;> decide

theorem Stop.not_isDigit (h : Stop d) : d.isDigit = false := by
  rcases h with rfl | rfl <;> decide

theorem readText?_doubled (cs : List Char) (hd : d ≠ '\'') (r : List Char) :
    readText? (Text.doubled cs ++ '\'' :: d :: r) = some (cs, d :: r) := by
  induction cs with
  | nil => simp [readText?, hd]
  | cons c cs ih =>
    rw [Text.doubled_cons]
    split
    · rename_i hc
      subst hc
      simp [readText?, ih]
    · rename_i hc
      simp [readText?, ih, hc]

theorem readBytes?_flatMap_byte (bytes : List UInt8) (r : List Char) :
    readBytes? (bytes.flatMap byte ++ '\'' :: r) = some (bytes, r) := by
  induction bytes with
  | nil => rfl
  | cons b bytes ih =>
    have hdigit : ∀ n < 16, digit? n.digitChar.toUpper = some n := by decide
    have hquote : ∀ n < 16, n.digitChar.toUpper ≠ '\'' := by decide
    have hb := b.toNat_lt
    have hhigh := hdigit (b.toNat / 16) (by omega)
    have hlow := hdigit (b.toNat % 16) (by omega)
    have hbyte : (16 * (b.toNat / 16) + b.toNat % 16).toUInt8 = b := by
      rw [Nat.div_add_mod]
      exact UInt8.ofNat_toNat
    rw [List.flatMap_cons, byte]
    simp only [List.cons_append, List.nil_append]
    rw [readBytes?]
    · simp only [hhigh, hlow, ih, Option.bind_eq_bind, Option.bind_some, Option.pure_def, hbyte]
    · exact hquote _ (by omega)

theorem readNat?_toDigits (n : Nat) (hd : d.isDigit = false) (r : List Char) :
    readNat? (Nat.toDigits 10 n ++ d :: r) = some (n, d :: r) := by
  have hdigits : ∀ c ∈ Nat.toDigits 10 n, c.isDigit = true := fun _ hc =>
    Nat.isDigit_of_mem_toDigits (by decide) (by decide) hc
  rw [readNat?, Text.takeWhile_append_cons hdigits hd, Text.dropWhile_append_cons hdigits hd,
    Nat.ofDigitChars_toDigits (by decide) (by decide), if_neg]
  simp [Nat.toDigits_ne_nil]

theorem exists_toDigits_eq_cons (n : Nat) : ∃ c cs, Nat.toDigits 10 n = c :: cs ∧ c.isDigit = true := by
  obtain ⟨c, cs, hcs⟩ := List.exists_cons_of_ne_nil (Nat.toDigits_ne_nil (n := n) (b := 10))
  refine ⟨c, cs, hcs, Nat.isDigit_of_mem_toDigits (b := 10) (n := n) (by decide) (by decide) ?_⟩
  rw [hcs]
  exact List.mem_cons_self

theorem exists_int_eq_cons (n : Int) : ∃ c cs, int n = c :: cs ∧ (c = '-' ∨ c.isDigit = true) := by
  unfold int
  split
  · exact ⟨_, _, rfl, .inl rfl⟩
  · obtain ⟨c, cs, hcs, hc⟩ := exists_toDigits_eq_cons n.natAbs
    exact ⟨c, cs, hcs, .inr hc⟩

theorem readInt?_int (n : Int) (hd : d.isDigit = false) (r : List Char) :
    readInt? (int n ++ d :: r) = some (n, d :: r) := by
  have hread := readNat?_toDigits n.natAbs hd r
  unfold int
  split
  · have habs : -(n.natAbs : Int) = n := by omega
    rw [List.cons_append, readInt?, hread, Option.map_some, habs]
  · have habs : (n.natAbs : Int) = n := by omega
    obtain ⟨c, cs, hcs, hc⟩ := exists_toDigits_eq_cons n.natAbs
    rw [hcs, List.cons_append] at hread ⊢
    rw [readInt?, hread, Option.map_some, habs]
    intro rest heq
    obtain ⟨rfl, -⟩ := List.cons.inj heq
    exact absurd hc (by decide)

end Literal

/-- Every value but a floating-point number. -/
def Value.isExact : Value → Bool
  | float _ => false
  | _ => true

namespace Literal

variable {v w : Value} {vs ws : List Value} {r t : List Char}

/-- A literal in a list is read back, and the reader stops behind it. -/
theorem read?_literal (hv : v.isExact = true) (hd : Stop d) (r : List Char) :
    read? (v.literal ++ d :: r) = some (v, d :: r) := by
  cases v with
  | null => rfl
  | bool b => cases b <;> rfl
  | int n =>
    have hread := readInt?_int n.toInt hd.not_isDigit r
    obtain ⟨c, cs, hcs, hc⟩ := exists_int_eq_cons n.toInt
    rw [Value.literal]
    rw [hcs, List.cons_append] at hread ⊢
    rw [read?, hread, Option.map_some, Int64.ofInt_toInt]
    -- no other kind of literal begins like an integer
    all_goals
      intro rest heq
      obtain ⟨rfl, -⟩ := List.cons.inj heq
      exact absurd hc (by decide)
  | float x => cases hv
  | text s =>
    have hread := readText?_doubled s.toList hd.ne_quote r
    rw [Value.literal, Text.quoted, List.cons_append, List.append_assoc, List.singleton_append, read?, hread,
      Option.map_some, String.ofList_toList]
  | blob bytes =>
    have hread := readBytes?_flatMap_byte bytes (d :: r)
    rw [Value.literal, List.cons_append, List.cons_append, List.append_assoc, List.singleton_append, read?, hread,
      Option.map_some]

/-- What stands behind the first element of a list: the other elements, the closing parenthesis and `r`. -/
def behind (vs : List Value) (r : List Char) : List Char :=
  vs.flatMap (fun v => ',' :: v.literal) ++ ')' :: r

theorem behind_cons (v : Value) (vs : List Value) (r : List Char) :
    behind (v :: vs) r = ',' :: (v.literal ++ behind vs r) := by
  simp [behind]

theorem exists_behind_eq_cons (vs : List Value) (r : List Char) : ∃ d t, behind vs r = d :: t ∧ Stop d := by
  cases vs with
  | nil => exact ⟨_, _, rfl, .inr rfl⟩
  | cons v vs => exact ⟨_, _, behind_cons v vs r, .inl rfl⟩

theorem literal_append_injective (hv : v.isExact = true) (hw : w.isExact = true)
    (h : v.literal ++ behind vs r = w.literal ++ behind ws t) : v = w ∧ behind vs r = behind ws t := by
  obtain ⟨d, s, hvs, hd⟩ := exists_behind_eq_cons vs r
  obtain ⟨e, u, hws, he⟩ := exists_behind_eq_cons ws t
  have hread := read?_literal hv hd s
  rw [← hvs, h, hws, read?_literal hw he u] at hread
  obtain ⟨hval, hrest⟩ := Prod.mk.inj (Option.some.inj hread)
  rw [hws, hrest]
  exact ⟨hval.symm, rfl⟩

theorem behind_injective (hvs : ∀ v ∈ vs, v.isExact = true) (hws : ∀ w ∈ ws, w.isExact = true)
    (h : behind vs r = behind ws t) : vs = ws ∧ r = t := by
  induction vs generalizing ws with
  | nil =>
    cases ws with
    | nil => exact ⟨rfl, (List.cons.inj h).2⟩
    | cons w ws =>
      rw [behind_cons] at h
      exact absurd (List.cons.inj h).1 (by decide)
  | cons v vs ih =>
    cases ws with
    | nil =>
      rw [behind_cons] at h
      exact absurd (List.cons.inj h).1 (by decide)
    | cons w ws =>
      rw [behind_cons, behind_cons] at h
      obtain ⟨hv, hvs'⟩ := List.forall_mem_cons.mp hvs
      obtain ⟨hw, hws'⟩ := List.forall_mem_cons.mp hws
      obtain ⟨hfirst, hrest⟩ := literal_append_injective hv hw (List.cons.inj h).2
      obtain ⟨hothers, hr⟩ := ih hvs' hws' hrest
      rw [hfirst, hothers]
      exact ⟨rfl, hr⟩

theorem toList_list_append (v : Value) (vs : List Value) (r : List Char) :
    (list ((v :: vs).map Value.inline)).toList ++ r = '(' :: (v.literal ++ behind vs r) := by
  have hjoin (v : Value) (vs : List Value) :
      (",".intercalate ((v :: vs).map Value.inline)).toList ++ ')' :: r = v.literal ++ behind vs r := by
    induction vs generalizing v with
    | nil => simp [Value.inline, behind]
    | cons w vs ih =>
      rw [behind_cons, ← ih w, List.map_cons, List.map_cons, String.intercalate_cons_cons]
      simp [Value.inline]
  rw [list, String.toList_append, String.toList_append, List.append_assoc, List.append_assoc]
  exact congrArg ('(' :: ·) (hjoin v vs)

/-- A list that is not empty determines its elements and where it ends. -/
theorem list_append_injective (hvs : ∀ v ∈ vs, v.isExact = true) (hws : ∀ w ∈ ws, w.isExact = true)
    (hvs' : vs ≠ []) (hws' : ws ≠ [])
    (h : (list (vs.map Value.inline)).toList ++ r = (list (ws.map Value.inline)).toList ++ t) :
    vs = ws ∧ r = t := by
  obtain ⟨v, vs, rfl⟩ := List.exists_cons_of_ne_nil hvs'
  obtain ⟨w, ws, rfl⟩ := List.exists_cons_of_ne_nil hws'
  rw [toList_list_append, toList_list_append] at h
  -- with a comma in front, the first element is one of the others
  apply behind_injective hvs hws
  rw [behind_cons, behind_cons]
  exact congrArg (',' :: ·) (List.cons.inj h).2

end Literal

end BoundSql

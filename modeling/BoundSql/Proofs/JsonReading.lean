import BoundSql.Json.Decode
import BoundSql.Proofs.LiteralReading

/-!
# Written JSON is read back

What is written for a text, an integer, a list or an object is read as the tree that it stands for, and the
reader stops behind it. Blanks in front of a value do not matter. Two units of fuel for each character are
enough.
-/

namespace BoundSql.Json

variable {cs gap last r : List Char}

/-! ## Characters between quotes -/

theorem characters_unescaped {c : Char} (hquote : c ≠ '"') (hslash : c ≠ '\\') (hblank : ¬ c < ' ')
    (seen r : List Char) : characters seen false none (c :: r) = characters (c :: seen) false none r := by
  rw [characters]
  · rw [if_neg hblank]
    rfl
  all_goals
    intros
    simp_all

theorem characters_escaped (seen : List Char) (c : Char) (r : List Char) :
    characters seen false none (escaped c ++ r) = characters (c :: seen) false none r := by
  unfold escaped
  split
  case h_8 hquote hslash _ _ _ _ _ =>
    split
    · rename_i hcontrol
      have hunit : ∀ n < 32, unit? '0' '0' (n / 16).digitChar (n % 16).digitChar = some n := by decide
      have hc : c.toNat < 32 := hcontrol
      have hlow : c.toNat < 0xD800 ∨ 0xDFFF < c.toNat := .inl (by omega)
      simp only [List.cons_append, List.nil_append]
      rw [characters]
      simp only [hunit c.toNat hc, if_pos hlow, Char.ofNat_toNat]
      rfl
    · rename_i hcontrol
      exact characters_unescaped hquote hslash hcontrol seen r
  -- the characters that have an escape of one letter
  all_goals rfl

theorem characters_flatMap_escaped (seen s r : List Char) :
    characters seen false none (s.flatMap escaped ++ '"' :: r) =
      .whole (some (String.ofList (seen.reverse ++ s))) r := by
  induction s generalizing seen with
  | nil =>
    rw [List.flatMap_nil, List.nil_append, List.append_nil, characters]
    rfl
  | cons c s ih =>
    rw [List.flatMap_cons, List.append_assoc, characters_escaped, ih, List.reverse_cons, List.append_assoc]
    rfl

theorem characters_writeText (s : String) (r : List Char) :
    characters [] false none (s.toList.flatMap escaped ++ '"' :: r) = .whole (some s) r := by
  rw [characters_flatMap_escaped, List.reverse_nil, List.nil_append, String.ofList_toList]

/-! ## What stands around a value -/

def Blank (cs : List Char) : Prop := ∀ c ∈ cs, isBlank c = true

/-- What may stand behind a value: nothing, a blank, a comma or a closing bracket. -/
def Delimited (cs : List Char) : Prop :=
  ∀ c ∈ cs.head?, isBlank c = true ∨ c = ',' ∨ c = ']' ∨ c = '}'

theorem delimited_nil : Delimited [] := fun _ hc => nomatch hc

theorem delimited_cons {c : Char} (hc : c = ',' ∨ c = ']' ∨ c = '}') (r : List Char) : Delimited (c :: r) := by
  rintro d hd
  cases hd
  exact .inr hc

theorem Delimited.append (hgap : Blank gap) (hr : Delimited r) : Delimited (gap ++ r) := by
  cases gap with
  | nil => exact hr
  | cons g gap =>
    rintro d hd
    cases hd
    exact .inl (hgap g List.mem_cons_self)

theorem eq_of_isBlank {c : Char} (hc : isBlank c = true) : c = ' ' ∨ c = '\n' ∨ c = '\t' ∨ c = '\r' := by
  simpa [isBlank, or_assoc] using hc

theorem Delimited.not_number {c : Char} (h : Delimited (c :: r)) :
    c.isDigit = false ∧ c ≠ '.' ∧ c ≠ 'e' ∧ c ≠ 'E' := by
  rcases h c rfl with hc | rfl | rfl | rfl
  · rcases eq_of_isBlank hc with rfl | rfl | rfl | rfl <;> decide
  · decide
  · decide
  · decide

theorem skipBlanks_append (hgap : Blank gap) (cs : List Char) : skipBlanks (gap ++ cs) = skipBlanks cs :=
  List.dropWhile_append_of_pos hgap

theorem skipBlanks_cons {c : Char} (hc : isBlank c = false) (cs : List Char) : skipBlanks (c :: cs) = c :: cs :=
  List.dropWhile_cons_of_neg (by simp [hc])

theorem read_append_blank (hgap : Blank gap) (fuel : Nat) (cs : List Char) :
    read fuel (gap ++ cs) = read fuel cs := by
  cases fuel with
  | zero => rw [read, read]
  | succ fuel => rw [read, read, skipBlanks_append hgap]

theorem readItems_append_blank (hgap : Blank gap) (fuel : Nat) (seen : List Json) (cs : List Char) :
    readItems fuel seen (gap ++ cs) = readItems fuel seen cs := by
  cases fuel with
  | zero => rw [readItems, readItems]
  | succ fuel => rw [readItems, readItems, read_append_blank hgap]

theorem readMembers_append_blank (hgap : Blank gap) (fuel : Nat) (seen : List (Key × Json)) (cs : List Char) :
    readMembers fuel seen (gap ++ cs) = readMembers fuel seen cs := by
  cases fuel with
  | zero => rw [readMembers, readMembers]
  | succ fuel => rw [readMembers, readMembers, skipBlanks_append hgap]

/-! ## Integers -/

theorem head?_toDigits_ne_zero {n : Nat} (h : 0 < n) : (Nat.toDigits 10 n).head? ≠ some '0' := by
  induction n using Nat.strongRecOn with
  | ind n ih =>
    rw [Nat.toDigits_eq_if (by decide)]
    split
    · rename_i hn
      have hdigit : ∀ n < 10, 0 < n → n.digitChar ≠ '0' := by decide
      simpa using hdigit n hn h
    · have hhead := ih (n / 10) (by omega) (by omega)
      obtain ⟨c, cs, hcs, -⟩ := Literal.exists_toDigits_eq_cons (n / 10)
      rw [hcs] at hhead ⊢
      exact hhead

/-- There is no leading zero. -/
theorem eq_nil_of_toDigits_eq_cons {n : Nat} (h : Nat.toDigits 10 n = '0' :: cs) : cs = [] := by
  by_cases hn : n = 0
  · subst hn
    exact (List.cons.inj h).2.symm
  · have hhead := head?_toDigits_ne_zero (Nat.pos_of_ne_zero hn)
    rw [h] at hhead
    exact absurd rfl hhead

/-- What stands behind the digits is neither a fraction nor an exponent. -/
theorem exponent?_delimited (plain : Number) (scaled : Int → Number) (hr : Delimited r) :
    exponent? plain scaled r = .ok (plain, r) := by
  unfold exponent?
  split
  · exact absurd rfl hr.not_number.2.2.1
  · exact absurd rfl hr.not_number.2.2.2
  · rfl

theorem toNat_toUInt64 {n : Nat} (hn : n < 0x10000000000000000) : n.toUInt64.toNat = n :=
  UInt64.toNat_ofNat_of_lt' hn

/-- Digits of a number of 64 bits all go into the significand. -/
theorem accumulate_of_lt (n : UInt64) (cs : List Char) (h : Nat.ofDigitChars 10 cs n.toNat < 0x10000000000000000) :
    accumulate n cs = ((Nat.ofDigitChars 10 cs n.toNat).toUInt64, []) := by
  induction cs generalizing n with
  | nil => exact congrArg (·, []) UInt64.ofNat_toNat.symm
  | cons c cs ih =>
    rw [Nat.ofDigitChars_cons] at h ⊢
    have hle : 10 * n.toNat + (c.toNat - '0'.toNat) ≤
        Nat.ofDigitChars 10 cs (10 * n.toNat + (c.toNat - '0'.toNat)) := by
      rw [Nat.ofDigitChars_eq_ofDigitChars_zero]
      exact Nat.le_add_right_of_le (Nat.le_mul_of_pos_left _ (Nat.pow_pos (by decide)))
    have hfits := Nat.lt_of_le_of_lt hle h
    have hnext := ih (10 * n.toNat + (c.toNat - '0'.toNat)).toUInt64
    rw [toNat_toUInt64 hfits] at hnext
    rw [accumulate, if_pos hfits, hnext h]

theorem accumulate_toDigits {n : Nat} (hn : n < 0x10000000000000000) :
    accumulate 0 (Nat.toDigits 10 n) = (n.toUInt64, []) := by
  have hvalue : Nat.ofDigitChars 10 (Nat.toDigits 10 n) 0 = n := Nat.ofDigitChars_ten_toDigits
  have haccumulate := accumulate_of_lt 0 (Nat.toDigits 10 n)
  rw [UInt64.toNat_zero, hvalue] at haccumulate
  exact haccumulate hn

theorem numeral_toDigits (negative : Bool) {n : Nat} (hn : n < 0x10000000000000000) (hr : Delimited r) :
    numeral negative (Nat.toDigits 10 n ++ r) = .ok (.ofWhole negative n.toUInt64 0, r) := by
  have hdigits : ∀ c ∈ Nat.toDigits 10 n, c.isDigit = true := fun _ hc =>
    Nat.isDigit_of_mem_toDigits (by decide) (by decide) hc
  have htail : r.takeWhile Char.isDigit = [] ∧ r.dropWhile Char.isDigit = r := by
    cases r with
    | nil => exact ⟨rfl, rfl⟩
    | cons c r => simp [hr.not_number.1]
  have htake : (Nat.toDigits 10 n ++ r).takeWhile Char.isDigit = Nat.toDigits 10 n := by
    rw [List.takeWhile_append_of_pos hdigits, htail.1, List.append_nil]
  have hdrop : (Nat.toDigits 10 n ++ r).dropWhile Char.isDigit = r := by
    rw [List.dropWhile_append_of_pos hdigits, htail.2]
  unfold numeral
  rw [htake, hdrop]
  dsimp only
  rw [accumulate_toDigits hn]
  dsimp only
  split
  · rename_i hnil
    exact absurd hnil Nat.toDigits_ne_nil
  · rename_i hzero
    exact absurd (eq_nil_of_toDigits_eq_cons hzero) (List.cons_ne_nil _ _)
  · exact absurd rfl hr.not_number.2.1
  · exact exponent?_delimited _ _ hr

theorem readNumber_toDigits (negative : Bool) {n : Nat} (hn : n < 0x10000000000000000) (hr : Delimited r) :
    readNumber negative (Nat.toDigits 10 n ++ r) = (.number (.ofWhole negative n.toUInt64 0), some r) := by
  rw [readNumber, numeral_toDigits negative hn hr]

theorem Number.ofWhole_false {n : Nat} (hn : n < 0x10000000000000000) : ofWhole false n.toUInt64 0 = .whole n := by
  rw [ofWhole, toNat_toUInt64 hn]
  rfl

/-- The sign of zero is not lost, so zero is left out. -/
theorem Number.ofWhole_true {n : Nat} (hpos : 0 < n) (hn : n ≤ 0x8000000000000000) :
    ofWhole true n.toUInt64 0 = .whole (-n) := by
  have hnat := toNat_toUInt64 (n := n) (by omega)
  have hfits : ¬ (n.toUInt64 = 0 ∨ 0x8000000000000000 < n.toUInt64) := by
    rw [← UInt64.toNat_inj, UInt64.lt_iff_toNat_lt, hnat]
    exact fun h => h.elim (Nat.ne_of_gt hpos) (Nat.not_lt_of_le hn)
  rw [ofWhole, if_neg (by simp), if_pos rfl, if_neg hfits, hnat]

/-! ## Values -/

/-- The text of a tree, whatever stands behind it. -/
structure Reads (cs : List Char) (j : Json) : Prop where
  /-- An element of a list must not look like the end of the list. -/
  begins : ∃ c t, cs = c :: t ∧ isBlank c = false ∧ c ≠ ']'
  read_append : ∀ {fuel : Nat} {r : List Char}, 2 * cs.length ≤ fuel → Delimited r →
    read (fuel + 1) (cs ++ r) = (j, some r)

theorem reads_null : Reads "null".toList .null where
  begins := ⟨_, _, rfl, by decide, by decide⟩
  read_append hfuel hr := by
    rw [read]
    rfl

theorem reads_bool (b : Bool) : Reads (if b then "true".toList else "false".toList) (.bool b) where
  begins := by cases b <;> exact ⟨_, _, rfl, by decide, by decide⟩
  read_append hfuel hr := by
    rw [read]
    cases b <;> rfl

theorem reads_writeText (s : String) : Reads (writeText s) (.string (some s)) where
  begins := ⟨_, _, rfl, by decide, by decide⟩
  read_append {fuel r} hfuel hr := by
    rw [writeText, List.cons_append, List.append_assoc, List.singleton_append, read,
      skipBlanks_cons (by decide)]
    simp only [characters_writeText]

theorem not_isBlank_of_isDigit {c : Char} (hc : c.isDigit = true) : isBlank c = false := by
  refine Bool.eq_false_iff.mpr fun hblank => ?_
  rcases eq_of_isBlank hblank with rfl | rfl | rfl | rfl <;> exact absurd hc (by decide)

theorem read_digit {c : Char} (hc : c.isDigit = true) (fuel : Nat) (cs : List Char) :
    read (fuel + 1) (c :: cs) = readNumber false (c :: cs) := by
  have hother (d : Char) (hd : d.isDigit = false) : c ≠ d := by
    rintro rfl
    rw [hd] at hc
    cases hc
  rw [read, skipBlanks_cons (not_isBlank_of_isDigit hc)]
  split
  case h_8 =>
    rename_i heq
    obtain ⟨rfl, rfl⟩ := List.cons.inj heq
    exact if_pos hc
  case h_9 heq => cases heq
  -- no other kind of value begins with a digit
  all_goals
    rename_i heq
    exact absurd (List.cons.inj heq).1 (hother _ rfl)

theorem reads_toDigits {n : Nat} (hn : n < 0x10000000000000000) :
    Reads (Nat.toDigits 10 n) (.number (.whole n)) := by
  obtain ⟨c, t, hcs, hc⟩ := Literal.exists_toDigits_eq_cons n
  constructor
  · refine ⟨c, t, hcs, ?_, ?_⟩
    · exact not_isBlank_of_isDigit hc
    · rintro rfl
      exact absurd hc (by decide)
  · intro fuel r hfuel hr
    have hnumber := readNumber_toDigits false hn hr
    rw [Number.ofWhole_false hn] at hnumber
    rw [hcs, List.cons_append] at hnumber ⊢
    rw [read_digit hc, hnumber]

theorem reads_writeInt {n : Int} (hmin : -0x8000000000000000 ≤ n) (hmax : n < 0x10000000000000000) :
    Reads (writeInt n) (.number (.whole n)) := by
  unfold writeInt
  split
  · have hneg : -(n.natAbs : Int) = n := by omega
    have habs := Number.ofWhole_true (n := n.natAbs) (by omega) (by omega)
    rw [hneg] at habs
    refine ⟨⟨_, _, rfl, by decide, by decide⟩, fun hfuel hr => ?_⟩
    rw [List.cons_append, read, skipBlanks_cons (by decide)]
    simp only [readNumber_toDigits true (by omega : n.natAbs < _) hr, habs]
  · have habs : (n.natAbs : Int) = n := by omega
    have hreads := reads_toDigits (n := n.natAbs) (by omega)
    rwa [habs] at hreads

/-! ## Lists and objects -/

theorem readItems_comma {item : Json} (h : Reads cs item) {fuel : Nat} (hfuel : 2 * cs.length ≤ fuel)
    (hgap : Blank gap) (seen : List Json) (r : List Char) :
    readItems (fuel + 2) seen (cs ++ ',' :: (gap ++ r)) = readItems (fuel + 1) (item :: seen) r := by
  rw [readItems, h.read_append hfuel (delimited_cons (.inl rfl) _)]
  simp only [skipBlanks_cons (c := ',') rfl, readItems_append_blank hgap]

theorem readItems_close {item : Json} (h : Reads cs item) {fuel : Nat} (hfuel : 2 * cs.length ≤ fuel)
    (hlast : Blank last) (seen : List Json) (r : List Char) :
    readItems (fuel + 2) seen (cs ++ (last ++ ']' :: r)) = (.array (seen.reverse ++ [item]) none, some r) := by
  rw [readItems, h.read_append hfuel (.append hlast (delimited_cons (.inr (.inl rfl)) r))]
  simp only [skipBlanks_append hlast, skipBlanks_cons (c := ']') rfl, List.reverse_cons]

variable {α : Type} {text : α → List Char} {tree : α → Json}

theorem readItems_intercalate (hgap : Blank gap) (hlast : Blank last) (a : α) (as : List α)
    (h : ∀ b ∈ a :: as, Reads (text b) (tree b)) (seen : List Json) (r : List Char) {fuel : Nat}
    (hfuel : 2 * (List.intercalate (',' :: gap) ((a :: as).map text)).length ≤ fuel) :
    readItems (fuel + 2) seen (List.intercalate (',' :: gap) ((a :: as).map text) ++ (last ++ ']' :: r)) =
      (.array (seen.reverse ++ (a :: as).map tree) none, some r) := by
  induction as generalizing a seen fuel with
  | nil =>
    rw [List.map_singleton, List.intercalate_singleton] at hfuel ⊢
    exact readItems_close (h a List.mem_cons_self) hfuel hlast seen r
  | cons b as ih =>
    obtain ⟨ha, hbs⟩ := List.forall_mem_cons.mp h
    rw [List.map_cons, List.map_cons, List.intercalate_cons_cons] at hfuel ⊢
    simp only [List.length_append, List.length_cons] at hfuel
    obtain ⟨fuel, rfl⟩ := Nat.exists_eq_add_of_le' (Nat.le_trans (by omega : 1 ≤ _) hfuel)
    have hrest := ih b hbs (tree a :: seen) (by rw [List.map_cons]; omega : _ ≤ fuel)
    rw [List.reverse_cons, List.append_assoc] at hrest
    rw [List.append_assoc, List.append_assoc, List.cons_append, readItems_comma ha (by omega) hgap]
    exact hrest

/-- A member of an object, with the text and the tree of its value. -/
structure Member where
  key : String
  text : List Char
  tree : Json

namespace Member

def write (s : Spacing) (m : Member) : List Char := writeText m.key ++ ':' :: (s.afterKey ++ m.text)

def entry (m : Member) : Key × Json := (.name m.key, m.tree)

theorem length_text_le (s : Spacing) (m : Member) : m.text.length ≤ (m.write s).length := by
  simp only [write, List.length_append, List.length_cons]
  omega

theorem write_append (s : Spacing) (m : Member) (r : List Char) : m.write s ++ r =
    '"' :: (m.key.toList.flatMap escaped ++ '"' :: ':' :: (s.afterKey ++ (m.text ++ r))) := by
  simp [write, writeText]

end Member

variable {s : Spacing} {m : Member}

theorem readMembers_comma (h : Reads m.text m.tree) (hs : Blank s.afterKey) {fuel : Nat}
    (hfuel : 2 * (m.write s).length ≤ fuel) (hgap : Blank gap) (seen : List (Key × Json)) (r : List Char) :
    readMembers (fuel + 2) seen (m.write s ++ ',' :: (gap ++ r)) =
      readMembers (fuel + 1) (m.entry :: seen) r := by
  have hlength := m.length_text_le s
  have hread := h.read_append (by omega : _ ≤ fuel) (delimited_cons (.inl rfl) (gap ++ r))
  rw [m.write_append, readMembers, skipBlanks_cons (by decide)]
  simp only [characters_writeText, skipBlanks_cons (c := ':') rfl, read_append_blank hs, hread,
    skipBlanks_cons (c := ',') rfl, readMembers_append_blank hgap, Option.elim, Member.entry]

theorem readMembers_close (h : Reads m.text m.tree) (hs : Blank s.afterKey) {fuel : Nat}
    (hfuel : 2 * (m.write s).length ≤ fuel) (hlast : Blank last) (seen : List (Key × Json)) (r : List Char) :
    readMembers (fuel + 2) seen (m.write s ++ (last ++ '}' :: r)) =
      (.object (seen.reverse ++ [m.entry]) none, some r) := by
  have hlength := m.length_text_le s
  have hread := h.read_append (by omega : _ ≤ fuel) (.append hlast (delimited_cons (.inr (.inr rfl)) r))
  rw [m.write_append, readMembers, skipBlanks_cons (by decide)]
  simp only [characters_writeText, skipBlanks_cons (c := ':') rfl, read_append_blank hs, hread,
    skipBlanks_append hlast, skipBlanks_cons (c := '}') rfl, Option.elim, List.reverse_cons, Member.entry]

theorem readMembers_intercalate (hs : Blank s.afterKey) (hgap : Blank gap) (hlast : Blank last)
    (m : Member) (ms : List Member) (h : ∀ n ∈ m :: ms, Reads n.text n.tree) (seen : List (Key × Json))
    (r : List Char) {fuel : Nat}
    (hfuel : 2 * (List.intercalate (',' :: gap) ((m :: ms).map (Member.write s))).length ≤ fuel) :
    readMembers (fuel + 2) seen
        (List.intercalate (',' :: gap) ((m :: ms).map (Member.write s)) ++ (last ++ '}' :: r)) =
      (.object (seen.reverse ++ (m :: ms).map Member.entry) none, some r) := by
  induction ms generalizing m seen fuel with
  | nil =>
    rw [List.map_singleton, List.intercalate_singleton] at hfuel ⊢
    exact readMembers_close (h m List.mem_cons_self) hs hfuel hlast seen r
  | cons n ms ih =>
    obtain ⟨hm, hns⟩ := List.forall_mem_cons.mp h
    rw [List.map_cons, List.map_cons, List.intercalate_cons_cons] at hfuel ⊢
    simp only [List.length_append, List.length_cons] at hfuel
    obtain ⟨fuel, rfl⟩ := Nat.exists_eq_add_of_le' (Nat.le_trans (by omega : 1 ≤ _) hfuel)
    have hrest := ih n hns (m.entry :: seen) (by rw [List.map_cons]; omega : _ ≤ fuel)
    rw [List.reverse_cons, List.append_assoc] at hrest
    rw [List.append_assoc, List.append_assoc, List.cons_append, readMembers_comma hm hs (by omega) hgap]
    exact hrest

/-- A layout that sets parts apart by nothing but blanks. -/
structure Spacing.IsBlank (s : Spacing) : Prop where
  line : ∀ depth, Blank (s.line depth)
  afterKey : Blank s.afterKey

theorem Spacing.isBlank_compact : compact.IsBlank where
  line _ _ hc := nomatch hc
  afterKey _ hc := nomatch hc

theorem Spacing.isBlank_pretty : pretty.IsBlank where
  line depth := by
    intro c hc
    rcases List.mem_cons.mp hc with rfl | hc
    · rfl
    · obtain ⟨-, rfl⟩ := List.mem_replicate.mp hc
      rfl
  afterKey := by
    intro c hc
    obtain rfl := List.mem_singleton.mp hc
    rfl

theorem enclosed_cons_append (s : Spacing) (depth : Nat) (left right : Char) (x : List Char)
    (xs : List (List Char)) (r : List Char) :
    enclosed s depth left right (x :: xs) ++ r =
      left :: (s.line (depth + 1) ++
        (List.intercalate (',' :: s.line (depth + 1)) (x :: xs) ++ (s.line depth ++ right :: r))) := by
  simp [enclosed]

theorem exists_enclosed_eq_cons (s : Spacing) (depth : Nat) (left right : Char) (xs : List (List Char)) :
    ∃ t, enclosed s depth left right xs = left :: t := by
  cases xs <;> exact ⟨_, rfl⟩

theorem exists_intercalate_eq_cons (sep : List Char) (c : Char) (t : List Char) (xs : List (List Char)) :
    ∃ u, List.intercalate sep ((c :: t) :: xs) = c :: u := by
  cases xs with
  | nil => exact ⟨t, List.intercalate_singleton⟩
  | cons x xs => exact ⟨_, List.intercalate_cons_cons⟩

theorem read_list {c : Char} (hblank : isBlank c = false) (hne : c ≠ ']') (hgap : Blank gap) (fuel : Nat)
    (cs : List Char) : read (fuel + 1) ('[' :: (gap ++ c :: cs)) = readItems fuel [] (c :: cs) := by
  rw [read, skipBlanks_cons (by decide)]
  simp only [skipBlanks_append hgap, skipBlanks_cons hblank]
  split
  · rename_i heq
    cases heq
  · rename_i heq
    exact absurd (List.cons.inj heq).1 hne
  · rfl

theorem read_object (hgap : Blank gap) (fuel : Nat) (cs : List Char) :
    read (fuel + 1) ('{' :: (gap ++ '"' :: cs)) = readMembers fuel [] ('"' :: cs) := by
  have hquote : skipBlanks (gap ++ '"' :: cs) = '"' :: cs := by
    rw [skipBlanks_append hgap, skipBlanks_cons (by decide)]
  rw [read, skipBlanks_cons (by decide)]
  simp only [hquote]
  rfl

/-- The fuel that the elements get. -/
theorem exists_eq_add_two {depth : Nat} {left right : Char} {x : List Char}
    {xs : List (List Char)} {fuel : Nat} (h : 2 * (enclosed s depth left right (x :: xs)).length ≤ fuel) :
    ∃ n, fuel = n + 2 ∧ 2 * (List.intercalate (',' :: s.line (depth + 1)) (x :: xs)).length ≤ n := by
  have hlength := congrArg List.length (enclosed_cons_append s depth left right x xs [])
  simp only [List.append_nil, List.length_append, List.length_cons] at hlength
  exact ⟨fuel - 2, by omega, by omega⟩

theorem reads_items (hs : s.IsBlank) (depth : Nat) (as : List α)
    (h : ∀ a ∈ as, Reads (text a) (tree a)) :
    Reads (enclosed s depth '[' ']' (as.map text)) (.array (as.map tree) none) := by
  constructor
  · obtain ⟨t, ht⟩ := exists_enclosed_eq_cons s depth '[' ']' (as.map text)
    exact ⟨_, t, ht, by decide, by decide⟩
  · intro fuel r hfuel hr
    cases as with
    | nil =>
      rw [read]
      rfl
    | cons a as =>
      obtain ⟨n, rfl, hn⟩ := exists_eq_add_two hfuel
      obtain ⟨c, t, hcs, hblank, hne⟩ := (h a List.mem_cons_self).begins
      obtain ⟨u, hu⟩ := exists_intercalate_eq_cons (',' :: s.line (depth + 1)) c t (as.map text)
      have hitems := readItems_intercalate (hs.line (depth + 1)) (hs.line depth) a as h [] r hn
      rw [List.map_cons, hcs, hu, List.cons_append] at hitems
      rw [List.map_cons, enclosed_cons_append, hcs, hu, List.cons_append,
        read_list hblank hne (hs.line (depth + 1))]
      exact hitems

theorem reads_members (hs : s.IsBlank) (depth : Nat) (ms : List Member) (h : ∀ m ∈ ms, Reads m.text m.tree) :
    Reads (enclosed s depth '{' '}' (ms.map (Member.write s))) (.object (ms.map Member.entry) none) := by
  constructor
  · obtain ⟨t, ht⟩ := exists_enclosed_eq_cons s depth '{' '}' (ms.map (Member.write s))
    exact ⟨_, t, ht, by decide, by decide⟩
  · intro fuel r hfuel hr
    cases ms with
    | nil =>
      rw [read]
      rfl
    | cons m ms =>
      obtain ⟨n, rfl, hn⟩ := exists_eq_add_two hfuel
      obtain ⟨t, ht⟩ : ∃ t, m.write s = '"' :: t := ⟨_, rfl⟩
      obtain ⟨u, hu⟩ := exists_intercalate_eq_cons (',' :: s.line (depth + 1)) '"' t (ms.map (Member.write s))
      have hmembers := readMembers_intercalate hs.afterKey (hs.line (depth + 1)) (hs.line depth) m ms h [] r hn
      rw [List.map_cons, ht, hu, List.cons_append] at hmembers
      rw [List.map_cons, enclosed_cons_append, ht, hu, List.cons_append, read_object (hs.line (depth + 1))]
      exact hmembers

/-- Behind a whole text there may be blanks. -/
theorem ofText_append {j : Json} (h : Reads cs j) (hr : Blank r) :
    ofText (String.ofList (cs ++ r)) = (j, some r) := by
  have hdelimited : Delimited r := by
    have hnil := Delimited.append hr delimited_nil
    rwa [List.append_nil] at hnil
  unfold ofText
  rw [String.toList_ofList]
  refine h.read_append ?_ hdelimited
  rw [List.length_append]
  omega

end BoundSql.Json

import BoundSql.Literal
import BoundSql.Proofs.Placeholder

/-!
# Written values are neutral

Whatever a value holds, the text written for it leaves the scan where it was and adds no placeholder: quotes
and `?` of the data stay inside one literal. The same holds for a list of such texts.
-/

namespace BoundSql

open Text

namespace Literal

/-- Numbers, words and hexadecimal digits are made of letters, digits, signs and points. -/
def Mark (c : Char) : Prop := c.isAlphanum = true ∨ c = '-' ∨ c = '.'

instance (c : Char) : Decidable (Mark c) := inferInstanceAs (Decidable (_ ∨ _ ∨ _))

theorem forall_mark {cs : List Char} (h : cs.all (fun c => Mark c) = true) : ∀ c ∈ cs, Mark c := by
  intro c hc
  exact of_decide_eq_true (List.all_eq_true.mp h c hc)

theorem mark_of_isDigit {c : Char} (h : c.isDigit = true) : Mark c := by
  left
  rw [Char.isAlphanum, h, Bool.or_true]

theorem Mark.ne {c d : Char} (h : Mark c) (hd : ¬ Mark d := by decide) : c ≠ d := by
  rintro rfl
  exact hd h

theorem bare_of_mark {cs : List Char} (h : ∀ c ∈ cs, Mark c) : Bare cs :=
  fun c hc => ⟨(h c hc).ne, (h c hc).ne, (h c hc).ne, (h c hc).ne⟩

theorem mark_toDigits (n : Nat) : ∀ c ∈ Nat.toDigits 10 n, Mark c :=
  fun _ hc => mark_of_isDigit (Nat.isDigit_of_mem_toDigits (by decide) (by decide) hc)

end Literal

open Literal

theorem bare_toDigits (n : Nat) : Bare (Nat.toDigits 10 n) := bare_of_mark (mark_toDigits n)

theorem bare_repr (n : Nat) : Bare n.repr.toList := by
  rw [Nat.toList_repr]
  exact bare_toDigits n

namespace Decimal

theorem isDigit_of_mem_digits {n : Nat} {c : Char} (hc : c ∈ digits n) : c.isDigit = true := by
  unfold digits at hc
  split at hc
  · simp at hc
  · exact Nat.isDigit_of_mem_toDigits (by decide) (by decide) hc

theorem isDigit_of_mem_ofScaled {d : Nat} {shift : Int} {c : Char}
    (hc : c ∈ (Numeral.ofScaled d shift).digits) : c.isDigit = true := by
  simp only [Numeral.ofScaled] at hc
  split at hc
  · have h0 : c = '0' := List.mem_singleton.mp hc
    subst h0
    decide
  · have hsub := (List.dropWhile_sublist _).subset (List.mem_reverse.mp hc)
    exact isDigit_of_mem_digits (List.mem_reverse.mp hsub)

theorem isDigit_of_mem_numeral {tie : Tie} {b : Binary} {c : Char}
    (hc : c ∈ (b.numeral tie).digits) : c.isDigit = true :=
  isDigit_of_mem_ofScaled hc

theorem mark_positional {d : Numeral} (h : ∀ c ∈ d.digits, Mark c) : ∀ c ∈ d.positional false, Mark c := by
  have hpoint : ∀ c ∈ ['.'], Mark c := forall_mark rfl
  have hzeros (n : Nat) : ∀ c ∈ List.replicate n '0', Mark c := by
    intro c hc
    rw [List.eq_of_mem_replicate hc]
    decide
  unfold Numeral.positional
  split
  · have hhead : ∀ c ∈ ['0', '.'], Mark c := forall_mark rfl
    exact List.forall_mem_append.mpr ⟨hhead, List.forall_mem_append.mpr ⟨hzeros _, h⟩⟩
  · dsimp only
    split
    · exact List.forall_mem_append.mpr ⟨List.forall_mem_append.mpr ⟨h, hzeros _⟩, forall_mark rfl⟩
    · refine List.forall_mem_append.mpr ⟨fun c hc => h c (List.mem_of_mem_take hc), ?_⟩
      exact List.forall_mem_append.mpr ⟨hpoint, fun c hc => h c (List.mem_of_mem_drop hc)⟩

end Decimal

open Decimal

theorem mark_number_write (r : Reading) : ∀ c ∈ (Literal.number.write r).toList, Mark c := by
  cases r with
  | nan => exact forall_mark rfl
  | infinite negative => cases negative <;> exact forall_mark rfl
  | finite negative b =>
    rw [Layout.write, String.toList_ofList]
    have hdigits : ∀ c ∈ (b.numeral Literal.number.tie).digits, Mark c :=
      fun _ hc => mark_of_isDigit (isDigit_of_mem_numeral hc)
    have hmagnitude : ∀ c ∈ Literal.number.magnitude b, Mark c := mark_positional hdigits
    refine List.forall_mem_append.mpr ⟨?_, hmagnitude⟩
    cases negative <;> exact forall_mark rfl

theorem bare_number_write (r : Reading) : Bare (Literal.number.write r).toList :=
  bare_of_mark (mark_number_write r)

theorem mark_literal_int (n : Int) : ∀ c ∈ Literal.int n, Mark c := by
  unfold Literal.int
  split
  · have hsign : ∀ c ∈ ['-'], Mark c := forall_mark rfl
    exact List.forall_mem_append.mpr ⟨hsign, mark_toDigits _⟩
  · exact mark_toDigits _

theorem bare_literal_int (n : Int) : Bare (Literal.int n) := bare_of_mark (mark_literal_int n)

theorem mark_flatMap_byte (bytes : List UInt8) : ∀ c ∈ bytes.flatMap Literal.byte, Mark c := by
  have hdigit : ∀ n < 16, Mark n.digitChar.toUpper := by decide
  intro c hc
  obtain ⟨b, -, hb⟩ := List.mem_flatMap.mp hc
  have hlt := b.toNat_lt
  simp only [Literal.byte, List.mem_cons, List.not_mem_nil, or_false] at hb
  rcases hb with rfl | rfl
  · exact hdigit _ (by omega)
  · exact hdigit _ (by omega)

theorem bare_flatMap_byte (bytes : List UInt8) : Bare (bytes.flatMap Literal.byte) :=
  bare_of_mark (mark_flatMap_byte bytes)

/-- A literal brings the scan back outside and holds no placeholder. -/
theorem Value.neutral_inline (v : Value) : Neutral v.inline := by
  cases v with
  | null => decide
  | bool b => cases b <;> decide
  | int n =>
    apply Plain.neutral
    rw [Value.inline, String.toList_ofList]
    exact (bare_literal_int _).plain
  | float x =>
    apply Plain.neutral
    rw [Value.inline, String.toList_ofList]
    exact (bare_number_write _).plain
  | text s => exact neutral_quoted s.toList
  | blob bytes =>
    have hbytes := (bare_flatMap_byte bytes).plain
    constructor
    · simp [Value.inline, Value.literal, side, endsQuoted_of_plain hbytes]
    · simp [Value.inline, Value.literal, placeholders, side, endsQuoted_of_plain hbytes,
        placeholders_of_plain hbytes]

/-- Only the display of a text or of a character can hold quotes and `?` of its own. -/
def Item.Textual : Item → Prop
  | .char _ | .text _ => True
  | _ => False

theorem Item.neutral_display {i : Item} (h : ¬ i.Textual) : Neutral i.display := by
  cases i with
  | bool b => cases b <;> decide
  | int n =>
    apply Plain.neutral
    rw [Item.display, String.toList_ofList]
    exact (bare_literal_int n).plain
  | float x => exact (bare_number_write _).plain.neutral
  | single x => exact (bare_number_write _).plain.neutral
  | char c => exact absurd trivial h
  | text s => exact absurd trivial h
  | value v => exact v.neutral_inline

theorem intercalate_of_append {P : String → Prop} (happend : ∀ {s t}, P s → P t → P (s ++ t))
    (hnil : P "") (hcomma : P ",") {es : List String} (h : ∀ e ∈ es, P e) : P (",".intercalate es) := by
  induction es with
  | nil =>
    rw [String.intercalate_nil]
    exact hnil
  | cons e es ih =>
    obtain ⟨he, hes⟩ := List.forall_mem_cons.mp h
    cases es with
    | nil => rwa [String.intercalate_singleton]
    | cons d ds =>
      rw [String.intercalate_cons_cons]
      exact happend (happend he hcomma) (ih hes)

theorem neutral_intercalate {es : List String} (h : ∀ e ∈ es, Neutral e) :
    Neutral (",".intercalate es) :=
  intercalate_of_append Neutral.append (by decide) (by decide) h

theorem neutral_list {es : List String} (h : ∀ e ∈ es, Neutral e) : Neutral (Literal.list es) := by
  have hopen : Neutral "(" := by decide
  have hclose : Neutral ")" := by decide
  exact (hopen.append (neutral_intercalate h)).append hclose

theorem neutral_quote (s : String) : Neutral (quote s) := neutral_quoted s.toList

end BoundSql

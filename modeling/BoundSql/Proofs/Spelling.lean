import BoundSql.Text.Blank
import Mathlib.Data.List.Forall2
import Mathlib.Data.List.TakeWhile

/-!
# Spellings of a name

Two texts spell the same name if they differ only in the blank characters around it and in the case of ASCII
letters. Trimming a text and lowering its letters gives every spelling of a name the same form, and other
names another one.
-/

namespace BoundSql.Text

/-! ## The case of letters -/

/-- `c` is a capital ASCII letter and `d` its small one. -/
def CapitalOf (c d : Char) : Prop := 'A' ≤ c ∧ c ≤ 'Z' ∧ d.toNat = c.toNat + 32

def SameLetter (c d : Char) : Prop := c = d ∨ CapitalOf c d ∨ CapitalOf d c

theorem capitalOf_iff {c d : Char} :
    CapitalOf c d ↔ 65 ≤ c.toNat ∧ c.toNat ≤ 90 ∧ d.toNat = c.toNat + 32 := Iff.rfl

theorem toNat_toLower (c : Char) :
    c.toLower.toNat = if 65 ≤ c.toNat ∧ c.toNat ≤ 90 then c.toNat + 32 else c.toNat := by
  have hcapital : (c.val ≥ 'A'.val ∧ c.val ≤ 'Z'.val) ↔ 65 ≤ c.toNat ∧ c.toNat ≤ 90 := Iff.rfl
  unfold Char.toLower
  split
  · rename_i h
    rw [if_pos (hcapital.mp h)]
    have hle : c.val.toNat ≤ 90 := (hcapital.mp h).2
    have hshift : ('a'.val - 'A'.val).toNat = 32 := rfl
    have hval : (c.val + ('a'.val - 'A'.val)).toNat = c.val.toNat + 32 := by
      rw [UInt32.toNat_add, hshift]
      exact Nat.mod_eq_of_lt (by omega)
    exact hval
  · rename_i h
    rw [if_neg (h ∘ hcapital.mpr)]

theorem toLower_eq_toLower_iff {c d : Char} : c.toLower = d.toLower ↔ SameLetter c d := by
  rw [← Char.toNat_inj, toNat_toLower, toNat_toLower, SameLetter, capitalOf_iff, capitalOf_iff, ← Char.toNat_inj]
  split <;> split <;> omega

/-- No character of ASCII behind the space is blank. -/
theorem isBlank_eq_false {c : Char} (hspace : 0x20 < c.toNat) (hascii : c.toNat < 0x80) : isBlank c = false := by
  simp only [isBlank, blankRanges, List.any_cons, List.any_nil, Bool.or_false, Bool.or_eq_false_iff,
    decide_eq_false_iff_not]
  omega

theorem isBlank_toLower (c : Char) : isBlank c.toLower = isBlank c := by
  have hlower := toNat_toLower c
  split at hlower
  · rw [isBlank_eq_false (c := c) (by omega) (by omega), isBlank_eq_false (by omega) (by omega)]
  · rw [Char.toNat_inj.mp hlower]

theorem map_toLower_eq_iff {cs ds : List Char} :
    cs.map Char.toLower = ds.map Char.toLower ↔ List.Forall₂ SameLetter cs ds := by
  rw [← List.forall₂_eq_eq_eq, List.forall₂_map_left_iff, List.forall₂_map_right_iff]
  simp only [toLower_eq_toLower_iff]

/-! ## Blank characters around a text -/

/-- Some blank characters, `core`, and some blank characters again. -/
def Padded (core cs : List Char) : Prop :=
  ∃ before after, cs = before ++ core ++ after ∧
    (∀ c ∈ before, isBlank c = true) ∧ ∀ c ∈ after, isBlank c = true

theorem padded_trim (cs : List Char) : Padded (trim cs) cs := by
  let kept := (cs.dropWhile isBlank).reverse
  refine ⟨cs.takeWhile isBlank, (kept.takeWhile isBlank).reverse, ?_, ?_, ?_⟩
  · have hkept : trim cs ++ (kept.takeWhile isBlank).reverse = cs.dropWhile isBlank := by
      rw [trim, ← List.reverse_append, List.takeWhile_append_dropWhile, List.reverse_reverse]
    rw [List.append_assoc, hkept, List.takeWhile_append_dropWhile]
  · exact fun c hc => List.mem_takeWhile_imp hc
  · exact fun c hc => List.mem_takeWhile_imp (List.mem_reverse.mp hc)

theorem trim_append_blank {cs after : List Char} (h : ∀ c ∈ after, isBlank c = true) :
    trim (cs ++ after) = trim cs := by
  unfold trim
  rw [List.dropWhile_append]
  split
  · rename_i hblank
    rw [List.isEmpty_iff.mp hblank, List.dropWhile_eq_nil_iff.mpr h]
  · have hreverse : ∀ c ∈ after.reverse, isBlank c = true := fun c hc => h c (List.mem_reverse.mp hc)
    rw [List.reverse_append, List.dropWhile_append_of_pos hreverse]

theorem Padded.trim_eq {core cs : List Char} (h : Padded core cs) : trim cs = trim core := by
  obtain ⟨before, after, rfl, hbefore, hafter⟩ := h
  rw [List.append_assoc, trim, List.dropWhile_append_of_pos hbefore, ← trim, trim_append_blank hafter]

theorem map_toLower_trim (cs : List Char) : (trim cs).map Char.toLower = trim (cs.map Char.toLower) := by
  have hblank : isBlank ∘ Char.toLower = isBlank := funext isBlank_toLower
  simp only [trim, List.dropWhile_map, ← List.map_reverse, hblank]

/-! ## Spellings -/

/-- The texts differ only in the blank characters around them and in the case of ASCII letters. -/
def Respelled (s t : String) : Prop :=
  ∃ core core', Padded core s.toList ∧ Padded core' t.toList ∧ List.Forall₂ SameLetter core core'

/-- What is left of a text after trimming, with its letters lowered, tells names apart and nothing else. -/
theorem map_toLower_trim_eq_iff (s t : String) :
    (trim s.toList).map Char.toLower = (trim t.toList).map Char.toLower ↔ Respelled s t := by
  constructor
  · intro h
    exact ⟨_, _, padded_trim s.toList, padded_trim t.toList, map_toLower_eq_iff.mp h⟩
  · rintro ⟨core, core', hs, ht, hsame⟩
    -- The cores may be padded themselves, so the letters are lowered before the trimming.
    rw [hs.trim_eq, ht.trim_eq, map_toLower_trim, map_toLower_trim, map_toLower_eq_iff.mpr hsame]

end BoundSql.Text

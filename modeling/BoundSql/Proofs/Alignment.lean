import BoundSql.Proofs.LiteralText
import BoundSql.Select.Window

/-!
# Alignment of text and values

A fragment is aligned when its text leaves no literal open and has as many placeholders as there are values.
Pieces of a clause are not aligned one by one, so the difference is counted: it adds up under concatenation.
-/

namespace BoundSql

open Text

namespace Fragment

structure Aligned (f : Fragment) : Prop where
  outside : endsQuoted false f.sql.toList = false
  count : placeholders false f.sql.toList = f.values.length

/-- As `Aligned`, with `n` placeholders more than values. -/
structure Excess (f : Fragment) (n : Int) : Prop where
  outside : endsQuoted false f.sql.toList = false
  count : (placeholders false f.sql.toList : Int) = f.values.length + n

variable {a b f : Fragment} {m n : Int}

theorem aligned_iff_excess : f.Aligned ↔ f.Excess 0 :=
  ⟨fun h => ⟨h.outside, by simp [h.count]⟩, fun h => ⟨h.outside, by have := h.count; omega⟩⟩

theorem Aligned.excess (h : f.Aligned) : f.Excess 0 := aligned_iff_excess.mp h

theorem Excess.unique (hm : f.Excess m) (hn : f.Excess n) : m = n := by
  have h := hm.count
  rw [hn.count] at h
  omega

theorem Excess.append (ha : a.Excess m) (hb : b.Excess n) : (a ++ b).Excess (m + n) := by
  constructor
  · rw [sql_append, String.toList_append, endsQuoted_append, ha.outside, hb.outside]
  · rw [sql_append, String.toList_append, placeholders_append, ha.outside, values_append,
      List.length_append]
    have hca := ha.count
    have hcb := hb.count
    omega

theorem excess_text {s : String} (h : endsQuoted false s.toList = false) :
    (text s).Excess (placeholders false s.toList) :=
  ⟨h, by simp⟩

theorem excess_neutral {s : String} (h : Neutral s) : (text s).Excess 0 :=
  Aligned.excess ⟨h.1, h.2⟩

theorem excess_values (vs : List Value) : Excess ⟨"", vs⟩ (-(vs.length : Int)) :=
  ⟨rfl, (Int.add_right_neg _).symm⟩

theorem excess_bound (v : Value) : (bound v).Excess (-1) := excess_values [v]

theorem excess_empty : Excess {} 0 :=
  ⟨rfl, rfl⟩

theorem Aligned.append (ha : a.Aligned) (hb : b.Aligned) : (a ++ b).Aligned :=
  aligned_iff_excess.mpr (ha.excess.append hb.excess)

theorem aligned_text {s : String} (h : Neutral s) : (text s).Aligned :=
  ⟨h.1, h.2⟩

theorem aligned_empty : Aligned {} := aligned_iff_excess.mpr excess_empty

theorem Excess.parens (h : f.Excess n) : f.parens.Excess n := by
  have hopen : (text "(").Excess 0 := excess_neutral (by decide)
  have hclose : (text ")").Excess 0 := excess_neutral (by decide)
  have hparens := (hopen.append h).append hclose
  rwa [Int.zero_add, Int.add_zero] at hparens

theorem Aligned.parens (h : f.Aligned) : f.parens.Aligned :=
  aligned_iff_excess.mpr h.excess.parens

@[simp] theorem concat_nil : concat [] = {} := rfl

@[simp] theorem concat_cons (f : Fragment) (fs : List Fragment) : concat (f :: fs) = f ++ concat fs := by
  have go : ∀ (fs : List Fragment) (start : Fragment), fs.foldl (· ++ ·) start = start ++ concat fs := by
    intro fs
    induction fs with
    | nil =>
      intro start
      exact (append_empty start).symm
    | cons g gs ih =>
      intro start
      have hg := ih g
      rw [List.foldl_cons, ih, append_assoc, ← hg]
      simp [concat]
  simpa [concat] using go fs f

theorem aligned_concat {fs : List Fragment} (h : ∀ f ∈ fs, f.Aligned) : (concat fs).Aligned := by
  induction fs with
  | nil => exact aligned_empty
  | cons f fs ih =>
    obtain ⟨hf, hfs⟩ := List.forall_mem_cons.mp h
    rw [concat_cons]
    exact hf.append (ih hfs)

theorem aligned_text_bound {s : String} (h : endsQuoted false s.toList = false)
    (hone : placeholders false s.toList = 1) (v : Value) : (text s ++ bound v).Aligned := by
  have hs := (excess_text h).append (excess_bound v)
  rw [hone] at hs
  exact aligned_iff_excess.mpr hs

theorem aligned_assignment {column : String} (h : Neutral column) (v : Value) :
    (text (column ++ " = ?") ++ .bound v).Aligned := by
  apply aligned_text_bound
  · rw [String.toList_append, endsQuoted_append, h.1]
    decide
  · rw [String.toList_append, placeholders_append, h.1, h.2]
    decide

theorem Excess.text {f : Fragment} {n : Int} {s : String} (h : f.Excess n) (hs : Neutral s) :
    (f ++ .text s).Excess n := by
  have htext := h.append (excess_neutral hs)
  rwa [Int.add_zero] at htext

end Fragment

namespace Operand

def written : Operand → Fragment
  | list elements => .text (Literal.list elements)
  | subquery q => q.parens
  | _ => {}

/-- What an operand binds to the placeholders of its clause. -/
def bound : Operand → List Value
  | plain v => [v]
  | optional v => [v.getD .null]
  | _ => []

theorem fragment_eq (o : Operand) : o.fragment = ⟨"", o.bound⟩ ++ o.written := by
  cases o with
  | plain v => rfl
  | optional v => rfl
  | list elements => exact (Fragment.empty_append _).symm
  | subquery q => exact (Fragment.empty_append _).symm

theorem sql_concat (os : List Operand) :
    (Fragment.concat (os.map fragment)).sql = (Fragment.concat (os.map written)).sql := by
  induction os with
  | nil => rfl
  | cons o os ih => simp [fragment_eq, ih]

theorem length_values_concat (os : List Operand) :
    (Fragment.concat (os.map fragment)).values.length =
      (os.flatMap bound).length + (Fragment.concat (os.map written)).values.length := by
  induction os with
  | nil => rfl
  | cons o os ih =>
    simp only [List.map_cons, Fragment.concat_cons, Fragment.values_append, List.length_append,
      List.flatMap_cons, fragment_eq, ih]
    omega

/-- Operands whose written parts are aligned miss the placeholders for what they bind. -/
theorem excess_concat {os : List Operand} (h : (Fragment.concat (os.map written)).Aligned) :
    (Fragment.concat (os.map fragment)).Excess (-((os.flatMap bound).length : Int)) := by
  have hsql := sql_concat os
  have hlength := length_values_concat os
  have hcount := h.count
  constructor
  · rw [hsql]
    exact h.outside
  · rw [hsql]
    omega

end Operand

/-- The text of a clause fits its operands if it has one placeholder for every value they bind. -/
theorem excess_clause {s : String} {os : List Operand} (h : endsQuoted false s.toList = false)
    (hos : (Fragment.concat (os.map Operand.written)).Aligned) :
    (Fragment.text s ++ .concat (os.map Operand.fragment)).Excess
      (placeholders false s.toList - (os.flatMap Operand.bound).length) := by
  rw [Int.sub_eq_add_neg]
  exact (Fragment.excess_text h).append (Operand.excess_concat hos)

end BoundSql

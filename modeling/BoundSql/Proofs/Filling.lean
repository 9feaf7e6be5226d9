import BoundSql.Proofs.Alignment

/-!
# Filling placeholders

The statement with its values written in place: each placeholder gives way to the literal of its value. What
is written in place is not scanned again.
-/

namespace BoundSql

open Text

/-- Copies a text and writes each value for the next `?` outside literals. A `?` for which no value is left is
copied. -/
def fill (quoted : Bool) : List Char → List Value → List Char
  | [], _ => []
  | c :: cs, [] => c :: fill (side quoted c) cs []
  | c :: cs, v :: vs =>
    if c = '?' ∧ quoted = false then v.literal ++ fill (side quoted c) cs vs
    else c :: fill (side quoted c) cs (v :: vs)

def Fragment.filled (f : Fragment) : List Char := fill false f.sql.toList f.values

@[simp] theorem fill_nil (q : Bool) (cs : List Char) : fill q cs [] = cs := by
  induction cs generalizing q with
  | nil => rfl
  | cons c cs ih => rw [fill, ih]

/-- The values of a text with as many placeholders are used up where it ends. -/
theorem fill_append {q : Bool} {a : List Char} {va : List Value} (h : placeholders q a = va.length)
    (b : List Char) (vb : List Value) :
    fill q (a ++ b) (va ++ vb) = fill q a va ++ fill (endsQuoted q a) b vb := by
  induction a generalizing q va with
  | nil =>
    have hnone : va = [] := List.eq_nil_of_length_eq_zero h.symm
    subst hnone
    simp [fill]
  | cons c cs ih =>
    rw [placeholders] at h
    rw [List.cons_append, endsQuoted_cons]
    by_cases hc : c = '?' ∧ q = false
    · rw [if_pos hc] at h
      cases va with
      | nil =>
        rw [List.length_nil] at h
        omega
      | cons v vs =>
        have hcs : placeholders (side q c) cs = vs.length := by
          rw [List.length_cons] at h
          omega
        rw [List.cons_append, fill, if_pos hc, fill, if_pos hc, ih hcs, List.append_assoc]
    · rw [if_neg hc, Nat.zero_add] at h
      have hstep (ds : List Char) (vs : List Value) :
          fill q (c :: ds) vs = c :: fill (side q c) ds vs := by
        cases vs with
        | nil => rw [fill]
        | cons v vs => rw [fill, if_neg hc]
      rw [hstep, hstep, ih h, List.cons_append]

namespace Fragment

@[simp] theorem filled_text (s : String) : (text s).filled = s.toList := fill_nil _ _

theorem filled_append {a : Fragment} (ha : a.Aligned) (b : Fragment) :
    (a ++ b).filled = a.filled ++ b.filled := by
  unfold filled
  rw [sql_append, String.toList_append, values_append, fill_append ha.count, ha.outside]

theorem filled_parens {f : Fragment} (h : f.Aligned) : f.parens.filled = '(' :: f.filled ++ [')'] := by
  have hopen : (text "(").Aligned := aligned_text (by decide)
  rw [parens, filled_append (hopen.append h), filled_append hopen, filled_text, filled_text]
  rfl

end Fragment

end BoundSql

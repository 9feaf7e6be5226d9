import BoundSql.CommandLine
import BoundSql.Proofs.LiteralText
import Mathlib.Algebra.GroupWithZero.Nat

/-!
# The lines of the text output

A statement of one line is followed by a comment line for each value, as long as no bound text has a line
break. A break in a text ends its comment, and what stands behind it is a line of its own.
-/

namespace BoundSql

open Literal

/-- The line breaks that a value brings into its literal. -/
def Value.breaks : Value → Nat
  | text s => s.toList.count '\n'
  | _ => 0

theorem count_break_of_mark {cs : List Char} (h : ∀ c ∈ cs, Mark c) : cs.count '\n' = 0 := by
  apply List.count_eq_zero_of_not_mem
  intro hbreak
  exact absurd (h _ hbreak) (by decide)

theorem Text.count_break_doubled (cs : List Char) : (doubled cs).count '\n' = cs.count '\n' := by
  induction cs with
  | nil => rfl
  | cons c cs ih =>
    rw [doubled_cons, List.count_append, ih, List.count_cons]
    by_cases hquote : c = '\''
    · subst hquote
      simp
    · rw [if_neg hquote, List.count_singleton, Nat.add_comm]

theorem Value.count_break_literal (v : Value) : v.literal.count '\n' = v.breaks := by
  cases v with
  | null => rfl
  | bool b => cases b <;> rfl
  | int n => exact count_break_of_mark (mark_literal_int n.toInt)
  | float x => exact count_break_of_mark (mark_number_write _)
  | text s => simp [literal, Text.quoted, Text.count_break_doubled, breaks]
  | blob bytes => simp [literal, count_break_of_mark (mark_flatMap_byte bytes), breaks]

namespace CommandLine

def lines (s : String) : List String := (s.toList.splitOn '\n').map String.ofList

/-- The comment for the value behind `n` other ones. -/
def comment (v : Value) (n : Nat) : String := "-- ?" ++ (n + 1).repr ++ " = " ++ v.inline

theorem lines_append_break (s t : String) : lines (s ++ "\n" ++ t) = lines s ++ lines t := by
  have hbreak : (s ++ "\n" ++ t).toList = s.toList ++ '\n' :: t.toList := by simp
  rw [lines, hbreak, List.splitOn_append_cons_self, List.map_append]
  rfl

theorem lines_of_not_mem {s : String} (h : '\n' ∉ s.toList) : lines s = [s] := by
  rw [lines, List.splitOn_eq_singleton h, List.map_singleton, String.ofList_toList]

theorem length_splitOn_break (cs : List Char) : (cs.splitOn '\n').length = cs.count '\n' + 1 := by
  induction cs with
  | nil => rfl
  | cons c cs ih =>
    rw [List.splitOn_cons_eq_if_modifyHead, List.count_cons]
    split
    · rw [List.length_cons, ih]
    · rw [List.length_modifyHead, ih]

theorem length_lines (s : String) : (lines s).length = s.toList.count '\n' + 1 := by
  rw [lines, List.length_map, length_splitOn_break]

theorem count_break_comment (v : Value) (n : Nat) : (comment v n).toList.count '\n' = v.breaks := by
  have hnumber : (n + 1).repr.toList.count '\n' = 0 := by
    rw [Nat.toList_repr]
    exact count_break_of_mark (mark_toDigits (n + 1))
  simp only [comment, Value.inline, String.toList_append, String.toList_ofList, List.count_append, hnumber,
    v.count_break_literal]
  simp

/-- Pieces that begin with a line break. -/
theorem lines_append_join (s : String) (pieces : List String) :
    lines (s ++ String.join (pieces.map ("\n" ++ ·))) = lines s ++ pieces.flatMap lines := by
  induction pieces generalizing s with
  | nil => simp
  | cons piece pieces ih =>
    rw [List.map_cons, String.join_cons, ← String.append_assoc, ← String.append_assoc, ih, lines_append_break,
      List.flatMap_cons, List.append_assoc]

/-- The comments of a statement in order. -/
def comments (q : Fragment) : List String := q.values.zipIdx.map fun v => comment v.1 v.2

theorem showText_eq (q : Fragment) :
    showText q = q.sql ++ ";" ++ String.join ((comments q).map ("\n" ++ ·)) := by
  have hpiece (v : Value × Nat) : "\n-- ?" ++ (v.2 + 1).repr ++ " = " ++ v.1.inline = "\n" ++ comment v.1 v.2 := by
    have hbreak : "\n-- ?" = "\n" ++ "-- ?" := rfl
    rw [hbreak, comment]
    simp only [String.append_assoc]
  rw [showText, comments, List.map_map]
  simp only [hpiece]
  rfl

theorem length_comments (q : Fragment) : (comments q).length = q.values.length := by
  rw [comments, List.length_map, List.length_zipIdx]

theorem map_count_break_comments (q : Fragment) :
    (comments q).map (fun c => c.toList.count '\n') = q.values.map Value.breaks := by
  rw [comments, List.map_map]
  have hcount : (fun c => c.toList.count '\n') ∘ (fun v : Value × Nat => comment v.1 v.2) = Value.breaks ∘ Prod.fst := by
    funext v
    exact count_break_comment v.1 v.2
  rw [hcount, ← List.map_map, List.zipIdx_map_fst]

theorem length_flatMap_lines (pieces : List String) :
    (pieces.flatMap lines).length = pieces.length + (pieces.map fun c => c.toList.count '\n').sum := by
  induction pieces with
  | nil => rfl
  | cons piece pieces ih =>
    rw [List.flatMap_cons, List.length_append, length_lines, ih, List.map_cons, List.sum_cons, List.length_cons]
    omega

/-- Cutting pieces at their line breaks changes nothing exactly if there are none. -/
theorem flatMap_lines_eq_iff (pieces : List String) :
    pieces.flatMap lines = pieces ↔ (pieces.map fun c => c.toList.count '\n').sum = 0 := by
  constructor
  · intro h
    have hlength := length_flatMap_lines pieces
    rw [h] at hlength
    omega
  · intro hsum
    rw [List.sum_eq_zero_iff_forall_eq_nat, List.forall_mem_map] at hsum
    induction pieces with
    | nil => rfl
    | cons piece pieces ih =>
      obtain ⟨hpiece, hpieces⟩ := List.forall_mem_cons.mp hsum
      rw [List.flatMap_cons, lines_of_not_mem (List.count_eq_zero.mp hpiece), ih hpieces]
      rfl

theorem sum_breaks_eq_zero_iff (vs : List Value) :
    (vs.map Value.breaks).sum = 0 ↔ ∀ s, .text s ∈ vs → '\n' ∉ s.toList := by
  rw [List.sum_eq_zero_iff_forall_eq_nat, List.forall_mem_map]
  constructor
  · intro h s hs
    exact List.count_eq_zero.mp (h (.text s) hs)
  · intro h v hv
    cases v with
    | text s => exact List.count_eq_zero.mpr (h s hv)
    | _ => rfl

/-- A statement of one line is the first line, and the comments follow it. There are as many lines more as the
bound texts have line breaks, so each comment is one line exactly if there are no such breaks. -/
theorem lines_showText (q : Fragment) (hsql : '\n' ∉ q.sql.toList) :
    lines (showText q) = (q.sql ++ ";") :: (comments q).flatMap lines ∧
      (lines (showText q)).length = 1 + q.values.length + (q.values.map Value.breaks).sum ∧
      (lines (showText q) = (q.sql ++ ";") :: comments q ↔ ∀ s, .text s ∈ q.values → '\n' ∉ s.toList) := by
  have hfirst : '\n' ∉ (q.sql ++ ";").toList := by
    simp [hsql]
  have hlines : lines (showText q) = (q.sql ++ ";") :: (comments q).flatMap lines := by
    rw [showText_eq, lines_append_join, lines_of_not_mem hfirst]
    rfl
  refine ⟨hlines, ?_, ?_⟩
  · rw [hlines, List.length_cons, length_flatMap_lines, length_comments, map_count_break_comments]
    omega
  · rw [hlines, List.cons.injEq, flatMap_lines_eq_iff, map_count_break_comments, sum_breaks_eq_zero_iff]
    exact and_iff_right rfl

def greeting : Fragment := ⟨"INSERT INTO t VALUES (?, ?)", [.text "it's \t--", .null]⟩

theorem lines_showText_greeting :
    '\n' ∉ greeting.sql.toList ∧
      lines (showText greeting) = ["INSERT INTO t VALUES (?, ?);", "-- ?1 = 'it''s \t--'", "-- ?2 = NULL"] := by
  have hsql : '\n' ∉ greeting.sql.toList := by decide +kernel
  refine ⟨hsql, ?_⟩
  obtain ⟨-, -, hlines⟩ := lines_showText greeting hsql
  rw [hlines.mpr]
  · decide +kernel
  · intro s hs
    simp only [greeting, List.mem_cons, Value.text.injEq, List.not_mem_nil, or_false, reduceCtorEq] at hs
    subst hs
    decide +kernel

/-- A text that ends its comment and goes on as a statement. -/
def escaping : Fragment := ⟨"UPDATE t SET a = ?", [.text "x\nDROP TABLE t; --"]⟩

theorem not_forall_length_lines_showText :
    ¬ ∀ q : Fragment, '\n' ∉ q.sql.toList → (lines (showText q)).length = 1 + q.values.length := by
  intro h
  have hlines : lines (showText escaping) = ["UPDATE t SET a = ?;", "-- ?1 = 'x", "DROP TABLE t; --'"] := by
    decide +kernel
  have hlength := h escaping (by decide +kernel)
  rw [hlines] at hlength
  exact absurd hlength (by decide)

end CommandLine

end BoundSql

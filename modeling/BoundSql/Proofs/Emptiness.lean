import BoundSql.Proofs.ConditionText

/-!
# When a condition is empty

A condition is empty exactly if no call has written to it. When no raw text and no text of a maker is empty,
the text alone tells the two cases apart, and a keyword stands in front of a condition exactly if there is
something behind it.
-/

namespace BoundSql

/-- A keyword and a fragment behind it, or nothing when the fragment has no text. -/
def Fragment.ledBy (keyword : String) (f : Fragment) : Fragment :=
  if f.sql = "" then {} else ⟨" " ++ keyword ++ " " ++ f.sql, f.values⟩

namespace Condition

/-- A raw call has a text, and so has the clause of a guarded one. -/
def Call.HasText : Call → Prop
  | .text s => s ≠ ""
  | .guarded g => g.maker g.column ≠ ""
  | _ => True

theorem Symbol.text_ne_empty (s : Symbol) : s.text ≠ "" := by
  cases s <;> simp [Symbol.text]

theorem Call.sql_body_ne_empty {call : Call} (h : call.HasText) : call.body.sql ≠ "" := by
  intro hbody
  cases call with
  | text s => exact h hbody
  | symbol s => exact s.text_ne_empty hbody
  | membership n o =>
    obtain ⟨hkeyword, -⟩ := String.append_eq_empty_iff.mp hbody
    cases n <;> simp at hkeyword
  | existence n q =>
    obtain ⟨hkeyword, -⟩ := String.append_eq_empty_iff.mp hbody
    cases n <;> simp at hkeyword
  | negate other =>
    obtain ⟨hkeyword, -⟩ := String.append_eq_empty_iff.mp hbody
    simp at hkeyword
  | guarded g =>
    obtain ⟨hclause, -⟩ := String.append_eq_empty_iff.mp hbody
    exact h hclause
  | compound | group =>
    obtain ⟨-, hclosing⟩ := String.append_eq_empty_iff.mp hbody
    simp at hclosing

/-- Only an empty condition has no text. -/
def Evident (c : Condition) : Prop := c.sql = "" → c.isEmpty = true

variable {c : Condition}

theorem evident_empty : empty.Evident := fun _ => rfl

/-- A call that survives adds its own text, any other one changes nothing. -/
theorem Evident.apply (hc : c.Evident) (call : Call) (h : call.HasText) : (c.apply call).Evident := by
  cases hsurvives : call.survives with
  | false =>
    rw [apply_of_not_survives c hsurvives]
    exact hc
  | true =>
    rw [apply_of_survives c hsurvives]
    intro hsql
    have hpiece : (c.gap call ++ call.body).sql = "" := (String.append_eq_empty_iff.mp hsql).2
    have hbody : call.body.sql = "" := (String.append_eq_empty_iff.mp hpiece).2
    exact absurd hbody (Call.sql_body_ne_empty h)

theorem Evident.run (hc : c.Evident) {calls : List Call} (h : ∀ call ∈ calls, call.HasText) :
    (c.run calls).Evident := by
  induction calls generalizing c with
  | nil => exact hc
  | cons call calls ih =>
    obtain ⟨hcall, hcalls⟩ := List.forall_mem_cons.mp h
    exact ih (hc.apply call hcall) hcalls

theorem Evident.isEmpty_iff_sql (hc : c.Evident) : c.isEmpty = true ↔ c.sql = "" := by
  constructor
  · intro hempty
    rw [isEmpty_iff.mp hempty]
    rfl
  · exact hc

theorem Evident.predicate_eq_ledBy (hc : c.Evident) (keyword : String) :
    c.predicate keyword = c.fragment.ledBy keyword := by
  cases c with
  | empty => rfl
  | written f =>
    have hsql : f.sql ≠ "" := by
      intro hsql
      cases hc hsql
    rw [fragment_written, Fragment.ledBy, if_neg hsql]
    exact congrArg (Fragment.mk _) (List.nil_append f.values)

theorem isEmpty_run_empty_iff (calls : List Call) :
    (empty.run calls).isEmpty = true ↔ ∀ call ∈ calls, call.survives = false := by
  have hnone : calls.filter Call.survives = [] ↔ ∀ call ∈ calls, call.survives = false := by
    simp only [List.filter_eq_nil_iff, Bool.not_eq_true]
  rw [run_empty, ← hnone]
  cases calls.filter Call.survives with
  | nil => exact iff_of_true rfl rfl
  | cons call rest => exact iff_of_false nofun nofun

end Condition

end BoundSql

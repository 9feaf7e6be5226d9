import BoundSql.Proofs.Program.Alignment

/-!
# Every value sits on its own placeholder

Equal counts do not rule out that two values have changed places. They have not: filling the final text with
the final values is the same as filling every piece with the values of its own call.
-/

namespace BoundSql

open Text

namespace Operand

theorem written_of_bound {o : Operand} (h : o.bound.length = 1) : o.written = {} := by
  cases o with
  | plain v => rfl
  | optional v => rfl
  | list elements => cases h
  | subquery q => cases h

/-- What several operands bind stands in front of what they write if none of them does both, or there is only
one. -/
theorem concat_eq_bound_append {os : List Operand} (h : os.length ≤ 1 ∨ ∀ o ∈ os, o.bound.length = 1) :
    Fragment.concat (os.map fragment) = ⟨"", os.flatMap bound⟩ ++ .concat (os.map written) := by
  induction os with
  | nil => rfl
  | cons o os ih =>
    rw [List.map_cons, List.map_cons, Fragment.concat_cons, Fragment.concat_cons, List.flatMap_cons,
      fragment_eq]
    rcases h with h | h
    · have hnone : os = [] := List.eq_nil_of_length_eq_zero (by simpa using h)
      subst hnone
      simp
    · have ho := written_of_bound (h o List.mem_cons_self)
      have hos := ih (.inr fun p hp => h p (List.mem_cons_of_mem o hp))
      rw [ho, hos, Fragment.append_empty, Fragment.empty_append, ← Fragment.append_assoc]
      rfl

end Operand

namespace Contract

/-- As `aligning`, without windows. Of several operands of one clause none is written behind it. -/
def binding : Contract where
  text := Neutral
  element := Literal.Element
  clause s os := aligning.clause s os ∧ (os.length ≤ 1 ∨ ∀ o ∈ os, o.bound.length = 1)
  outside := Fragment.Aligned
  window _ _ := False

theorem filled_clause {s : String} {os : List Operand} (h : binding.clause s os) :
    (Fragment.text s ++ .concat (os.map Operand.fragment)).filled =
      fill false s.toList (os.flatMap Operand.bound) ++ (Fragment.concat (os.map Operand.written)).filled := by
  obtain ⟨⟨hout, hcount⟩, hseparate⟩ := h
  have hbound : Fragment.Aligned ⟨s, os.flatMap Operand.bound⟩ := ⟨hout, hcount⟩
  rw [Operand.concat_eq_bound_append hseparate, ← Fragment.append_assoc, Fragment.text_append_mk,
    Fragment.filled_append hbound]
  rfl

theorem filled_assignment (column : String) (v : Value) :
    (Fragment.text (column ++ " = ?") ++ .bound v).filled = fill false (column ++ " = ?").toList [v] := by
  unfold Fragment.filled
  rw [Fragment.sql_append, Fragment.sql_text, Fragment.sql_bound, String.append_empty]
  rfl

theorem keeps_filled : binding.Keeps fun f x => f.Aligned ∧ f.filled = x where
  bare h := ⟨Fragment.aligned_text h.plain.neutral, Fragment.filled_text _⟩
  text h := ⟨Fragment.aligned_text h, Fragment.filled_text _⟩
  list h := ⟨Fragment.aligned_text (neutral_list fun e he => (h e he).neutral), Fragment.filled_text _⟩
  append := by
    rintro a b _ _ ⟨ha, rfl⟩ ⟨hb, rfl⟩
    exact ⟨ha.append hb, Fragment.filled_append ha b⟩
  parens := by
    rintro f _ ⟨hf, rfl⟩
    exact ⟨hf.parens, Fragment.filled_parens hf⟩
  clause := by
    rintro s os _ hclause ⟨hos, rfl⟩
    exact ⟨aligned_clause hclause.1 hos, filled_clause hclause⟩
  assignment h := ⟨Fragment.aligned_assignment h _, filled_assignment _ _⟩
  outside h := ⟨h, rfl⟩
  window h := h.elim

end Contract

namespace Program

theorem filled_eq_inline {p : Product} (e : Program p) (h : e.Meets .binding) :
    e.fragment.filled = e.inline :=
  (Contract.keeps_filled.holds e h).2

/-- Two assignments, of which the first binds a `?`, and a group with three values behind a list. -/
def correction : Program .update :=
  let name : Program .condition :=
    .guarded .empty .and "u.name" (Operator.clause · (.comparison .eq)) Checker.valid
      (.value (.text "it's ?") .noValues)
  let either : Program .condition :=
    .guarded name .or "u.age" (Operator.clause · (.range false)) Checker.valid
      (.value (.scalar (.int 18)) (.value (.optional (some (.scalar (.int 65)))) .noValues))
  .filterUpdate (.assign (.assign (.ofTable "u") "name" (.text "?")) "age" .absent)
    (.group (.inList (.text .empty "u.id") true [quote "?"]) .and either)

theorem filled_eq_inline_correction :
    correction.Meets .binding ∧ correction.fragment.filled = correction.inline := by
  have hu : Neutral "u" := by decide
  have hname : Neutral "name" := by decide
  have hage : Neutral "age" := by decide
  have hid : Neutral "u.id" := by decide
  have hquoted : ∀ e ∈ [quote "?"], Literal.Element e :=
    List.forall_mem_singleton.mpr (.inl (neutral_quote "?"))
  have hmeets : correction.Meets .binding := by
    refine ⟨⟨⟨hu, hname⟩, hage⟩, ⟨⟨trivial, hid⟩, hquoted⟩, ⟨trivial, ⟨trivial, trivial⟩, ?_⟩,
      ⟨trivial, trivial, trivial⟩, ?_⟩
    · exact ⟨⟨by decide, by decide⟩, .inl (by decide)⟩
    · refine ⟨⟨by decide, by decide⟩, .inr ?_⟩
      exact List.forall_mem_cons.mpr ⟨rfl, List.forall_mem_singleton.mpr rfl⟩
  exact ⟨hmeets, filled_eq_inline correction hmeets⟩

end Program

end BoundSql

import BoundSql.Proofs.Criteria.Filter

/-!
# Placeholders and operands of filters

Criteria count the operands of an operator, but not whether a list is given to an operator that binds its
operand, or a value to one that writes it. The first leaves a placeholder without a value, the second a value
without a placeholder. Nothing else in a condition is out of step.
-/

namespace BoundSql

open Text

namespace Filter

/-- A list behind an operator that binds its operand. -/
def dangling (f : Filter) : Bool :=
  f.isLive && f.listed.isSome && (Operator.ofName? f.op).any (·.arity != 0)

/-- A value bound by an operator that writes its operand. -/
def surplus (f : Filter) : Bool :=
  f.isLive && f.listed.isNone && (Operator.ofName? f.op).any (·.arity == 0)

/-- The placeholders without a value less the values without a placeholder. -/
def misfit (fs : List Filter) : Int := fs.countP dangling - fs.countP surplus

@[simp] theorem misfit_nil : misfit [] = 0 := rfl

theorem misfit_append (fs gs : List Filter) : misfit (fs ++ gs) = misfit fs + misfit gs := by
  simp only [misfit, List.countP_append]
  omega

variable {f : Filter} {g : Condition.Guarded}

theorem misfit_of_not_live (h : f.isLive = false) : misfit [f] = 0 := by
  simp [misfit, dangling, surplus, h]

theorem misfit_eq (h : f.clause = .ok g) (hlive : f.isLive = true) :
    ∃ o, Operator.ofName? f.op = some o ∧ misfit [f] = o.arity - f.bound.length := by
  obtain ⟨o, hname, hshape⟩ := clause_eq_ok h
  refine ⟨o, hname, ?_⟩
  have hpair := Operator.takesPair_iff_arity hname
  obtain ⟨a, b, htakes, hvalues, -⟩ | ⟨htakes, -⟩ := hshape
  · have harity := hpair.mp htakes
    have hbound : f.bound = [a, b] := by
      rw [bound, if_pos htakes, hvalues]
      rfl
    have hlisted : f.listed = none := listed_of_takesPair htakes
    simp [misfit, dangling, surplus, hlisted, hname, harity, hbound]
  · have harity : o.arity = 0 ∨ o.arity = 1 := by
      have hne : o.arity ≠ 2 := by simpa [htakes] using hpair
      have hle := o.arity_le
      omega
    have hpresent : f.value.any FilterOperand.isPresent = true := by
      simpa [isLive, htakes] using hlive
    cases hvalue : f.value with
    | none =>
      rw [hvalue] at hpresent
      cases hpresent
    | some operand =>
      cases operand with
      | list items =>
        have hlisted : f.listed = some items := by simp [listed, hvalue, htakes]
        have hbound : f.bound = [] := by simp [bound, hvalue, htakes]
        rcases harity with harity | harity
        · simp [misfit, dangling, surplus, hlive, hlisted, hbound, hname, harity]
        · simp [misfit, dangling, surplus, hlive, hlisted, hbound, hname, harity]
      | scalar v =>
        have hlisted : f.listed = none := by simp [listed, hvalue]
        have hbound : f.bound = [v] := by simp [bound, hvalue, htakes]
        rcases harity with harity | harity
        · simp [misfit, dangling, surplus, hlive, hlisted, hbound, hname, harity]
        · simp [misfit, dangling, surplus, hlive, hlisted, hbound, hname, harity]

theorem excess_piece (hcolumn : Plain f.column.toList) (h : f.clause = .ok g) (hlive : f.isLive = true) :
    g.piece.Excess (misfit [f]) := by
  obtain ⟨o, hname, hmisfit⟩ := misfit_eq h hlive
  have hlist : Fragment.Excess
      (.text (f.listed.elim "" fun items => Literal.list (items.map Value.inline))) 0 := by
    cases f.listed with
    | none => exact Fragment.excess_empty
    | some items =>
      have hitems : ∀ e ∈ items.map Value.inline, Neutral e :=
        List.forall_mem_map.mpr fun v _ => v.neutral_inline
      rw [Option.elim_some]
      exact Fragment.excess_neutral (neutral_list hitems)
  have hpiece := ((o.excess_clause hcolumn.neutral).append hlist).append (Fragment.excess_values f.bound)
  have hrendered : ⟨f.rendered, f.bound⟩ = Fragment.text (o.clause f.column) ++
      .text (f.listed.elim "" fun items => Literal.list (items.map Value.inline)) ++ ⟨"", f.bound⟩ := by
    rw [rendered, hname]
    exact (Fragment.text_append_mk _ _).symm
  rw [piece_clause h hlive, hrendered, hmisfit]
  rwa [Int.add_zero, ← Int.sub_eq_add_neg] at hpiece

end Filter

namespace Criterion

variable {c d : Condition} {n : Int}

theorem excess_joint (c : Condition) (op : Connective) : (c.joint op).Excess 0 := by
  cases c with
  | empty => exact Fragment.excess_empty
  | written f => cases op <;> exact Fragment.excess_neutral (by decide)

theorem excess_attach {piece : Fragment} {m : Int} (hc : c.fragment.Excess n) (hpiece : piece.Excess m)
    (op : Connective) : (c.attach op piece).fragment.Excess (n + m) := by
  have hjoint := (excess_joint c op).append hpiece
  rw [Int.zero_add] at hjoint
  exact hc.append hjoint

mutual

theorem excess_addTo {c d : Condition} {n : Int} (x : Criterion)
    (hcolumns : ∀ f ∈ x.filters, Plain f.column.toList)
    (hc : c.fragment.Excess n) (h : addTo c x = .ok d) : d.fragment.Excess (n + Filter.misfit x.filters) := by
  cases x with
  | group members op =>
    rw [filters] at hcolumns ⊢
    rw [addTo] at h
    obtain ⟨inner, hinner, h⟩ := bind_eq_ok h
    cases h
    have hmembers := excess_addAll (c := .empty) members hcolumns Fragment.excess_empty hinner
    rw [Int.zero_add] at hmembers
    cases inner with
    | empty =>
      rw [hmembers.unique Fragment.excess_empty, Int.add_zero]
      exact hc
    | written f => exact excess_attach hc hmembers.parens op
  | filter f =>
    rw [filters] at hcolumns ⊢
    rw [addTo] at h
    obtain ⟨g, hg, h⟩ := bind_eq_ok h
    cases h
    rw [Condition.guarded, Filter.accepted_clause hg]
    cases hlive : f.isLive with
    | false =>
      rw [Filter.misfit_of_not_live hlive, Int.add_zero]
      exact hc
    | true => exact excess_attach hc (Filter.excess_piece (hcolumns f List.mem_cons_self) hg hlive) _

theorem excess_addAll {c d : Condition} {n : Int} (xs : List Criterion)
    (hcolumns : ∀ f ∈ allFilters xs, Plain f.column.toList)
    (hc : c.fragment.Excess n) (h : addAll c xs = .ok d) :
    d.fragment.Excess (n + Filter.misfit (allFilters xs)) := by
  cases xs with
  | nil =>
    rw [addAll] at h
    cases h
    rw [allFilters, Filter.misfit_nil, Int.add_zero]
    exact hc
  | cons x xs =>
    rw [addAll] at h
    obtain ⟨e, hx, hxs⟩ := bind_eq_ok h
    rw [allFilters] at hcolumns ⊢
    obtain ⟨hfirst, hrest⟩ := List.forall_mem_append.mp hcolumns
    have hall := excess_addAll xs hrest (excess_addTo x hfirst hc hx) hxs
    rwa [Filter.misfit_append, ← Int.add_assoc]

end

theorem excess_condition {criteria : List Criterion} {c : Condition}
    (hcolumns : ∀ f ∈ allFilters criteria, Plain f.column.toList) (h : condition criteria = .ok c) :
    c.fragment.Excess (Filter.misfit (allFilters criteria)) := by
  have hall := excess_addAll (c := .empty) criteria hcolumns Fragment.excess_empty h
  rwa [Int.zero_add] at hall

end Criterion

end BoundSql

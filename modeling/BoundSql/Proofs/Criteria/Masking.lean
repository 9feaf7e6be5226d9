import BoundSql.Proofs.Criteria.Fault
import BoundSql.Proofs.Criteria.Pruning
import BoundSql.Proofs.StatementText

/-!
# Masked criteria

A masked value tells only whether it is present. Masking the operands of criteria changes neither what is
left of them nor the text that is written, and leaves every fault where it is.
-/

namespace BoundSql

/-- A mark of presence. -/
def Value.masked (v : Value) : Value := if v.isPresent then .bool true else .null

theorem Value.isPresent_masked (v : Value) : v.masked.isPresent = v.isPresent := by
  unfold masked
  cases hpresent : v.isPresent with
  | true => rfl
  | false => rfl

/-- A list is no data to be bound: it is part of the text. -/
def FilterOperand.masked : FilterOperand → FilterOperand
  | list items => list items
  | scalar v => scalar v.masked

theorem FilterOperand.isPresent_masked (o : FilterOperand) : o.masked.isPresent = o.isPresent := by
  cases o with
  | list items => rfl
  | scalar v => exact v.isPresent_masked

namespace Filter

def masked (f : Filter) : Filter :=
  { f with value := f.value.map FilterOperand.masked, values := f.values.map (·.map Value.masked) }

variable (f : Filter)

@[simp] theorem column_masked : f.masked.column = f.column := rfl

@[simp] theorem op_masked : f.masked.op = f.op := rfl

theorem isLive_masked : f.masked.isLive = f.isLive := by
  have hpair : f.masked.values.any (·.all Value.isPresent) = f.values.any (·.all Value.isPresent) := by
    unfold masked
    cases f.values with
    | none => rfl
    | some vs =>
      simp only [Option.map_some, Option.any_some, List.all_map]
      exact congrArg vs.all (funext Value.isPresent_masked)
  have hsingle : f.masked.value.any FilterOperand.isPresent = f.value.any FilterOperand.isPresent := by
    unfold masked
    cases f.value with
    | none => rfl
    | some o => exact o.isPresent_masked
  rw [isLive, isLive, hpair, hsingle, op_masked]

theorem listed_masked : f.masked.listed = f.listed := by
  unfold listed masked
  cases f.value with
  | none => rfl
  | some o => cases o <;> rfl

theorem rendered_masked : f.masked.rendered = f.rendered := by
  rw [rendered, rendered, listed_masked, op_masked, column_masked]

theorem bound_masked : f.masked.bound = f.bound.map Value.masked := by
  unfold bound masked
  split
  · cases f.values <;> rfl
  · cases f.value with
    | none => rfl
    | some o => cases o <;> rfl

theorem fault_masked : f.masked.fault = f.fault := by
  have hlength : f.masked.values.map List.length = f.values.map List.length := by
    unfold masked
    cases f.values with
    | none => rfl
    | some vs => simp
  have hgiven : f.masked.values.isSome = f.values.isSome := Option.isSome_map
  rw [fault, fault, hlength, hgiven, op_masked, column_masked]

theorem findSome?_fault_masked (fs : List Filter) : (fs.map masked).findSome? fault = fs.findSome? fault := by
  have hcomp : fault ∘ masked = fault := by
    funext f
    rw [Function.comp_apply, f.fault_masked]
  rw [List.findSome?_map, hcomp]

theorem given_masked : f.masked.given = f.given.map Value.masked := by
  unfold given
  rw [isLive_masked, bound_masked]
  split <;> rfl

end Filter

namespace Criterion

mutual

def masked : Criterion → Criterion
  | group members op => group (maskAll members) op
  | filter f => filter f.masked

def maskAll : List Criterion → List Criterion
  | [] => []
  | x :: xs => x.masked :: maskAll xs

end

theorem maskAll_eq_map (xs : List Criterion) : maskAll xs = xs.map masked := by
  induction xs with
  | nil => rw [maskAll, List.map_nil]
  | cons x xs ih => rw [maskAll, List.map_cons, ih]

theorem joinedBy_masked (x : Criterion) : x.masked.joinedBy = x.joinedBy := by
  cases x <;> rw [masked] <;> rfl

mutual

theorem filters_masked (x : Criterion) : x.masked.filters = x.filters.map Filter.masked := by
  cases x with
  | group members op =>
    rw [masked, filters, filters]
    exact allFilters_maskAll members
  | filter f =>
    rw [masked, filters, filters]
    rfl

theorem allFilters_maskAll (xs : List Criterion) :
    allFilters (maskAll xs) = (allFilters xs).map Filter.masked := by
  cases xs with
  | nil => rw [maskAll, allFilters, List.map_nil]
  | cons x xs => rw [maskAll, allFilters, allFilters, filters_masked x, allFilters_maskAll xs, List.map_append]

end

mutual

theorem pruned_masked (x : Criterion) : x.masked.pruned = x.pruned.map masked := by
  cases x with
  | group members op =>
    rw [masked, pruned, pruned, prune_maskAll members]
    cases prune members with
    | nil => rw [maskAll, Option.map_none]
    | cons y ys => rw [maskAll, Option.map_some, masked, maskAll]
  | filter f =>
    rw [masked, pruned, pruned, f.isLive_masked]
    cases f.isLive with
    | false => rfl
    | true => rw [if_pos rfl, if_pos rfl, Option.map_some, masked]

theorem prune_maskAll (xs : List Criterion) : prune (maskAll xs) = maskAll (prune xs) := by
  cases xs with
  | nil => rw [maskAll, prune, maskAll]
  | cons x xs =>
    rw [maskAll, prune, prune, pruned_masked x, prune_maskAll xs, maskAll_eq_map, maskAll_eq_map, List.map_append]
    cases x.pruned <;> rfl

end

mutual

theorem rendered_masked (x : Criterion) : x.masked.rendered = x.rendered := by
  cases x with
  | group members op => rw [masked, rendered, rendered, renderAll_maskAll members]
  | filter f => rw [masked, rendered, rendered, f.rendered_masked]

theorem renderAll_maskAll (xs : List Criterion) : renderAll (maskAll xs) = renderAll xs := by
  cases xs with
  | nil => rw [maskAll]
  | cons x xs => rw [maskAll, renderAll, renderAll, rendered_masked x, renderRest_maskAll xs]

theorem renderRest_maskAll (xs : List Criterion) : renderRest (maskAll xs) = renderRest xs := by
  cases xs with
  | nil => rw [maskAll]
  | cons x xs =>
    rw [maskAll, renderRest, renderRest, joinedBy_masked, rendered_masked x, renderRest_maskAll xs]

end

variable {criteria : List Criterion} {c : Condition}

theorem findSome?_fault_maskAll (criteria : List Criterion) :
    (allFilters (maskAll criteria)).findSome? Filter.fault = (allFilters criteria).findSome? Filter.fault := by
  rw [allFilters_maskAll, Filter.findSome?_fault_masked]

/-- The text behind a keyword does not depend on what is masked. -/
theorem condition_maskAll (h : condition criteria = .ok c) :
    ∃ c', condition (maskAll criteria) = .ok c' ∧ ∀ keyword, c'.predicateText keyword = c.predicateText keyword := by
  have hfault := findSome?_fault_of_condition h
  rw [← findSome?_fault_maskAll] at hfault
  obtain ⟨c', hc'⟩ := exists_condition hfault
  refine ⟨c', hc', ?_⟩
  intro keyword
  have hempty : (maskAll (prune criteria)).isEmpty = (prune criteria).isEmpty := by
    rw [maskAll_eq_map, List.isEmpty_map]
  rw [predicateText_condition hc', predicateText_condition h, prune_maskAll, renderAll_maskAll, hempty]

end Criterion

end BoundSql

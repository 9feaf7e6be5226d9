import BoundSql.Proofs.Criteria.Filter

/-!
# Criteria are pruned and rendered

Translating criteria is the same as dropping first what is missing, at any depth, and then writing what is
left. The connective in front of a clause is its own, and the first clause of each list has none.
-/

namespace BoundSql

/-- What a filter binds, nothing if it is left out. -/
def Filter.given (f : Filter) : List Value := if f.isLive then f.bound else []

namespace Criterion

def joinedBy : Criterion → Connective
  | group _ op => op
  | filter f => f.connective

mutual

/-- What is left of a criterion when everything missing is dropped. -/
def pruned : Criterion → Option Criterion
  | group members op =>
    match prune members with
    | [] => none
    | x :: xs => some (group (x :: xs) op)
  | filter f => if f.isLive then some (filter f) else none

def prune : List Criterion → List Criterion
  | [] => []
  | x :: xs => x.pruned.toList ++ prune xs

end

mutual

def rendered : Criterion → String
  | group members _ => "(" ++ renderAll members ++ ")"
  | filter f => f.rendered

/-- A list of criteria: all but the first stand behind their connectives. -/
def renderAll : List Criterion → String
  | [] => ""
  | x :: xs => x.rendered ++ renderRest xs

def renderRest : List Criterion → String
  | [] => ""
  | x :: xs => " " ++ x.joinedBy.keyword ++ " " ++ x.rendered ++ renderRest xs

end

/-- The text of a criterion and what its filters bind, in document order. -/
def fragment (x : Criterion) : Fragment := ⟨x.rendered, x.filters.flatMap Filter.bound⟩

def attachAll (c : Condition) (xs : List Criterion) : Condition :=
  xs.foldl (fun c x => c.attach x.joinedBy x.fragment) c

variable {c d : Condition}

theorem fragment_filter (f : Filter) : (filter f).fragment = ⟨f.rendered, f.bound⟩ := by
  rw [fragment, rendered, filters, List.flatMap_singleton]

theorem attachAll_cons (c : Condition) (x : Criterion) (xs : List Criterion) :
    attachAll c (x :: xs) = attachAll (c.attach x.joinedBy x.fragment) xs := rfl

theorem attachAll_append (c : Condition) (xs ys : List Criterion) :
    attachAll c (xs ++ ys) = attachAll (attachAll c xs) ys := List.foldl_append

theorem attachAll_written (f : Fragment) (xs : List Criterion) :
    attachAll (.written f) xs = .written (f ++ ⟨renderRest xs, (allFilters xs).flatMap Filter.bound⟩) := by
  induction xs generalizing f with
  | nil =>
    rw [renderRest, allFilters]
    exact congrArg Condition.written (Fragment.append_empty f).symm
  | cons x xs ih =>
    have hstep : (Condition.written f).attach x.joinedBy x.fragment =
        .written (f ++ (.text (" " ++ x.joinedBy.keyword ++ " ") ++ x.fragment)) := rfl
    rw [attachAll_cons, hstep, ih, Fragment.append_assoc, Fragment.append_assoc, renderRest, allFilters,
      List.flatMap_append]
    congr 2
    show Fragment.mk _ _ = Fragment.mk _ _
    simp [fragment, String.append_assoc]

theorem attachAll_empty (x : Criterion) (xs : List Criterion) :
    attachAll .empty (x :: xs) =
      .written ⟨renderAll (x :: xs), (allFilters (x :: xs)).flatMap Filter.bound⟩ := by
  have hfirst : ({} : Fragment) ++ (({} : Fragment) ++ x.fragment) = x.fragment := by
    rw [Fragment.empty_append, Fragment.empty_append]
  have hstep : Condition.empty.attach x.joinedBy x.fragment = .written x.fragment :=
    congrArg Condition.written hfirst
  rw [attachAll_cons, hstep, attachAll_written, renderAll, allFilters, List.flatMap_append]
  rfl

theorem fragment_attachAll_empty (xs : List Criterion) :
    (attachAll .empty xs).fragment = ⟨renderAll xs, (allFilters xs).flatMap Filter.bound⟩ := by
  cases xs with
  | nil =>
    rw [renderAll, allFilters]
    rfl
  | cons x xs => rw [attachAll_empty, Condition.fragment_written]

theorem isEmpty_attachAll_empty (xs : List Criterion) : (attachAll .empty xs).isEmpty = xs.isEmpty := by
  cases xs with
  | nil => rfl
  | cons x xs =>
    rw [attachAll_empty]
    rfl

theorem addAll_singleton (c : Condition) (x : Criterion) : addAll c [x] = addTo c x := by
  rw [addAll]
  cases addTo c x <;> rfl

theorem addAll_append (c : Condition) (xs ys : List Criterion) :
    addAll c (xs ++ ys) = addAll c xs >>= fun d => addAll d ys := by
  induction xs generalizing c with
  | nil => rfl
  | cons x xs ih =>
    rw [List.cons_append, addAll, addAll, bind_assoc]
    exact congrArg (addTo c x >>= ·) (funext ih)

mutual

/-- Adding a criterion attaches what is left of it, and adding what is left of it does the same. -/
theorem addTo_eq_ok {c d : Condition} (x : Criterion) (h : addTo c x = .ok d) :
    d = attachAll c x.pruned.toList ∧ addAll c x.pruned.toList = .ok d := by
  cases x with
  | group members op =>
    rw [addTo] at h
    obtain ⟨inner, hinner, h⟩ := bind_eq_ok h
    cases h
    obtain ⟨hattach, hprune⟩ := addAll_eq_ok members hinner
    rw [pruned]
    cases hp : prune members with
    | nil =>
      -- no clause of the group is left, so the inner condition is empty
      rw [hp] at hattach
      subst hattach
      exact ⟨rfl, rfl⟩
    | cons y ys =>
      rw [hp] at hattach hprune
      rw [attachAll_empty] at hattach
      subst hattach
      have hparens : (Fragment.mk (renderAll (y :: ys)) ((allFilters (y :: ys)).flatMap Filter.bound)).parens =
          (group (y :: ys) op).fragment := Fragment.parens_mk _ _
      constructor
      · exact congrArg (c.attach op) hparens
      · rw [Option.toList_some, addAll_singleton, addTo, hprune]
        rfl
  | filter f =>
    have hadd := h
    rw [addTo] at h
    obtain ⟨g, hg, h⟩ := bind_eq_ok h
    have hguarded : c.guarded g = if f.isLive then c.attach f.connective (filter f).fragment else c := by
      rw [Condition.guarded, Filter.accepted_clause hg, Filter.connective_clause hg, fragment_filter]
      split
      · rw [Filter.piece_clause hg ‹_›]
      · rfl
    cases h
    rw [hguarded] at hadd ⊢
    rw [pruned]
    cases hlive : f.isLive with
    | false => exact ⟨rfl, rfl⟩
    | true =>
      rw [hlive] at hadd
      refine ⟨rfl, ?_⟩
      rw [if_pos rfl, Option.toList_some, addAll_singleton]
      exact hadd

theorem addAll_eq_ok {c d : Condition} (xs : List Criterion) (h : addAll c xs = .ok d) :
    d = attachAll c (prune xs) ∧ addAll c (prune xs) = .ok d := by
  cases xs with
  | nil =>
    rw [addAll] at h
    cases h
    exact ⟨rfl, rfl⟩
  | cons x xs =>
    rw [addAll] at h
    obtain ⟨e, hx, hxs⟩ := bind_eq_ok h
    obtain ⟨he, hx⟩ := addTo_eq_ok x hx
    obtain ⟨hd, hxs⟩ := addAll_eq_ok xs hxs
    rw [prune, attachAll_append, ← he]
    refine ⟨hd, ?_⟩
    rw [addAll_append, hx]
    exact hxs

end

theorem allFilters_append (xs ys : List Criterion) : allFilters (xs ++ ys) = allFilters xs ++ allFilters ys := by
  induction xs with
  | nil => rw [allFilters, List.nil_append, List.nil_append]
  | cons x xs ih => rw [List.cons_append, allFilters, allFilters, ih, List.append_assoc]

mutual

theorem allFilters_pruned (x : Criterion) : allFilters x.pruned.toList = x.filters.filter Filter.isLive := by
  cases x with
  | group members op =>
    rw [pruned, filters, ← allFilters_prune members]
    cases prune members with
    | nil => rfl
    | cons y ys => rw [Option.toList_some, allFilters, allFilters, List.append_nil, filters]
  | filter f =>
    rw [pruned, filters, List.filter_cons, List.filter_nil]
    cases f.isLive with
    | false => rfl
    | true => rw [if_pos rfl, if_pos rfl, Option.toList_some, allFilters, allFilters, List.append_nil, filters]

/-- The filters that are left are those that are live, however deep they stand. -/
theorem allFilters_prune (xs : List Criterion) : allFilters (prune xs) = (allFilters xs).filter Filter.isLive := by
  cases xs with
  | nil => rw [prune, allFilters, List.filter_nil]
  | cons x xs =>
    rw [prune, allFilters_append, allFilters_pruned x, allFilters_prune xs, allFilters, List.filter_append]

end

theorem flatMap_bound_prune (xs : List Criterion) :
    (allFilters (prune xs)).flatMap Filter.bound = (allFilters xs).flatMap Filter.given := by
  rw [allFilters_prune]
  induction allFilters xs with
  | nil => rw [List.filter_nil, List.flatMap_nil, List.flatMap_nil]
  | cons f fs ih =>
    rw [List.filter_cons, List.flatMap_cons, Filter.given, ← ih]
    cases f.isLive with
    | false => rw [if_neg Bool.false_ne_true, if_neg Bool.false_ne_true, List.nil_append]
    | true => rw [if_pos rfl, if_pos rfl, List.flatMap_cons]

theorem values_condition {criteria : List Criterion} {c : Condition} (h : condition criteria = .ok c) :
    c.values = (allFilters criteria).flatMap Filter.given := by
  obtain ⟨rfl, -⟩ := addAll_eq_ok criteria h
  rw [Condition.values, fragment_attachAll_empty, flatMap_bound_prune]

/-- The condition of a list of criteria: its text and values are those of what is left of the list. -/
theorem condition_eq_ok {criteria : List Criterion} {c : Condition} (h : condition criteria = .ok c) :
    (c.isEmpty = true ↔ prune criteria = []) ∧
      c.sql = renderAll (prune criteria) ∧
      c.values = (allFilters (prune criteria)).flatMap Filter.bound ∧
      condition (prune criteria) = .ok c := by
  obtain ⟨hattach, hprune⟩ := addAll_eq_ok criteria h
  cases hleft : prune criteria with
  | nil =>
    rw [hleft] at hattach hprune
    subst hattach
    rw [renderAll, allFilters]
    exact ⟨⟨fun _ => rfl, fun _ => rfl⟩, rfl, rfl, hprune⟩
  | cons x xs =>
    rw [hleft, attachAll_empty] at hattach
    rw [hleft] at hprune
    subst hattach
    refine ⟨?_, rfl, rfl, hprune⟩
    simp [Condition.isEmpty]

/-- The first filter and the first group drop out, and with them the connective of the next. -/
def sample : List Criterion :=
  [.filter ⟨"a", "=", some (.scalar (.text "")), none, .and⟩,
    .group [.group [.filter ⟨"b", "in", some (.list []), none, .and⟩] .or] .and,
    .filter ⟨"c", "like", some (.scalar (.text "x%")), none, .or⟩,
    .group [.filter ⟨"d", "between", none, some [.int 1, .text "2"], .or⟩,
      .filter ⟨"e", "not_between", none, some [.int 1, .null], .and⟩,
      .filter ⟨"f", " IN ", some (.list [.int 3, .text "?"]), none, .or⟩] .and]

theorem condition_eq_ok_sample :
    condition sample = .ok (.written
        ⟨"c LIKE ? AND (d BETWEEN ? AND ? OR f IN (3,'?'))", [.text "x%", .int 1, .text "2"]⟩) ∧
      renderAll (prune sample) = "c LIKE ? AND (d BETWEEN ? AND ? OR f IN (3,'?'))" := by
  have h : condition sample = .ok (.written
      ⟨"c LIKE ? AND (d BETWEEN ? AND ? OR f IN (3,'?'))", [.text "x%", .int 1, .text "2"]⟩) := rfl
  obtain ⟨-, hsql, -, -⟩ := condition_eq_ok h
  exact ⟨h, hsql.symm⟩

end Criterion

end BoundSql

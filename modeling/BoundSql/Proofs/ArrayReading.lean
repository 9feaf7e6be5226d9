import BoundSql.Proofs.Criteria.Pruning
import BoundSql.Proofs.Omission.Criteria
import BoundSql.Proofs.ValueReading

/-!
# Arrays in documents

An array of small integers can be taken for a list of integers and for a blob. As the operand of a filter it is
a list, like any other array, and is not bound. Everywhere else, also as an element of such a list, it is one
blob.
-/

namespace BoundSql

open Json (Key Field Record Fields)

namespace Json

/-- What a record is given in a field: the first member with its name, or the element at its place. -/
def field? (name : String) (position : Nat) : Json → Option Json
  | .object members _ => members.lookup (.name name)
  | .array items _ => items[position]?
  | _ => none

end Json

/-! ## Values -/

variable {lib : Json.Library}

namespace Value

variable {j : Json} {items : List Json} {stop : Option Json.Break} {bs : List UInt8}

/-- One value for each element, a blob for the arrays of bytes and for nothing else. -/
def Elements (lib : Json.Library) (items : List Json) (vs : List Value) : Prop :=
  List.Forall₂ (fun j v => ofJson? lib j = some v ∧ ∀ bs, v = .blob bs ↔ ∃ stop, j = .array (Json.bytes bs) stop)
    items vs

theorem blob_iff_of_ofJson? (laws : lib.Laws) {v : Value} (h : ofJson? lib j = some v) (bs : List UInt8) :
    v = .blob bs ↔ ∃ stop, j = .array (Json.bytes bs) stop := by
  rw [← ofJson?_eq_blob_iff laws, h, Option.some_inj]

theorem elements_of_mapM (laws : lib.Laws) {vs : List Value} (h : items.mapM (ofJson? lib) = some vs) :
    Elements lib items vs :=
  (Json.mapM_eq_some_iff_forall₂.mp h).imp fun _ _ hv => ⟨hv, blob_iff_of_ofJson? laws hv⟩

/-- An integer can be read by itself, so an array that passes for a blob passes for a list before. -/
theorem exists_mapM_bytes (laws : lib.Laws) (bs : List UInt8) :
    ∃ vs, (Json.bytes bs).mapM (ofJson? lib) = some vs := by
  induction bs with
  | nil => exact ⟨[], rfl⟩
  | cons b bs ih =>
    obtain ⟨vs, hvs⟩ := ih
    have hb := b.toNat_lt
    have hrange : -0x8000000000000000 ≤ (b.toNat : Int) ∧ (b.toNat : Int) < 0x8000000000000000 := by omega
    have hint : int? (.number (.whole b.toNat)) = some (.int (Int64.ofInt b.toNat)) := by rw [int?, if_pos hrange]
    refine ⟨.int (Int64.ofInt b.toNat) :: vs, ?_⟩
    rw [Json.bytes, List.map_cons, List.mapM_cons, ofJson?_of_int? laws hint, ← Json.bytes, hvs]
    rfl

end Value

/-! ## Operands -/

namespace FilterOperand

variable {j : Json}

theorem ofJson?_array (laws : lib.Laws) (items : List Json) (stop : Option Json.Break) :
    ofJson? lib (.array items stop) = .list <$> items.mapM (Value.ofJson? lib) := by
  rw [ofJson?, laws.firstOf_eq, List.findSome?_cons, List.findSome?_singleton, list?, scalar?]
  cases hitems : items.mapM (Value.ofJson? lib) with
  | some vs => rfl
  | none =>
    -- neither is the array a blob, whose elements could all be read
    rw [Value.ofJson?_array laws]
    cases hbytes : items.mapM Value.byte? with
    | none => rfl
    | some bs =>
      obtain ⟨vs, hvs⟩ := Value.exists_mapM_bytes laws bs
      rw [Value.mapM_byte?_eq_some_iff.mp hbytes, hvs] at hitems
      cases hitems

theorem ofJson?_of_not_array (laws : lib.Laws) (h : ∀ items stop, j ≠ .array items stop) :
    ofJson? lib j = .scalar <$> Value.ofJson? lib j := by
  rw [ofJson?, laws.firstOf_eq, List.findSome?_cons, List.findSome?_singleton, list?.eq_2 lib j h]
  rfl

theorem ofJson?_ne_blob (laws : lib.Laws) (j : Json) (bs : List UInt8) :
    ofJson? lib j ≠ some (.scalar (.blob bs)) := by
  intro h
  by_cases harray : ∃ items stop, j = .array items stop
  · obtain ⟨items, stop, rfl⟩ := harray
    rw [ofJson?_array laws] at h
    obtain ⟨vs, -, heq⟩ := Option.map_eq_some_iff.mp h
    cases heq
  · have hnot : ∀ items stop, j ≠ .array items stop := fun items stop heq => harray ⟨items, stop, heq⟩
    rw [ofJson?_of_not_array laws hnot] at h
    obtain ⟨v, hv, heq⟩ := Option.map_eq_some_iff.mp h
    cases heq
    obtain ⟨stop, heq⟩ := (Value.ofJson?_eq_blob_iff laws).mp hv
    exact hnot _ _ heq

end FilterOperand

/-! ## Filters -/

/-- What becomes of arrays in the tree of a filter. The operand is a list exactly if it is an array, and then it
binds nothing: the filter binds what it would bind without it. -/
structure Filter.Takes (lib : Json.Library) (leaf : Json) (f : Filter) : Prop where
  list : ∀ items stop, leaf.field? "value" 2 = some (.array items stop) →
    ∃ vs, f.value = some (.list vs) ∧ Value.Elements lib items vs ∧ { f with value := none }.given = f.given
  scalar : (∀ items stop, leaf.field? "value" 2 ≠ some (.array items stop)) →
    ∀ vs, f.value ≠ some (.list vs)
  pair : ∀ items stop, leaf.field? "values" 3 = some (.array items stop) →
    ∃ vs, f.values = some vs ∧ Value.Elements lib items vs

theorem Filter.given_of_list {f : Filter} {vs : List Value} (h : f.value = some (.list vs)) :
    { f with value := none }.given = f.given := by
  unfold given isLive bound
  cases hpair : Operator.takesPair f.op with
  | true => rfl
  | false =>
    rw [h]
    simp

namespace Criterion

variable {j : Json} {f : Filter} {ms : List (Key × Json)}

theorem exists_of_orNull? {α : Type} {read? : Json → Option α} {o : Option Json} {a : α}
    (h : orNull? read? o = some (some a)) : ∃ j, o = some j ∧ read? j = some a := by
  unfold orNull? at h
  split at h
  · cases h
  · cases h
  · obtain ⟨b, hb, heq⟩ := Option.map_eq_some_iff.mp h
    cases heq
    exact ⟨_, rfl, hb⟩

/-- The operands of a filter are read from their fields, in both of its forms. -/
theorem fields_of_filter? (h : filter? lib j = some f) :
    orNull? (FilterOperand.ofJson? lib) (j.field? "value" 2) = some f.value ∧
      orNull? (values? lib) (j.field? "values" 3) = some f.values := by
  cases j with
  | object ms stop =>
    obtain ⟨column, op, value, values, or, -, -, hvalue, hvalues, -, hread⟩ := filter?_object_eq_some_iff.mp h
    obtain ⟨-, -, hv, hvs, -⟩ := filterOf?_eq_some_iff.mp hread
    rw [Json.field?, Json.field?, (once?_eq_some_iff.mp hvalue).2, (once?_eq_some_iff.mp hvalues).2]
    exact ⟨hv, hvs⟩
  | array items stop =>
    rw [filter?] at h
    split at h
    · cases h
    · obtain ⟨-, -, hv, hvs, -⟩ := filterOf?_eq_some_iff.mp h
      exact ⟨hv, hvs⟩
  | _ => cases h

theorem takes_of_filter? (laws : lib.Laws) (h : filter? lib j = some f) : f.Takes lib j := by
  obtain ⟨hvalue, hvalues⟩ := fields_of_filter? h
  constructor
  · intro items stop hfield
    rw [hfield] at hvalue
    obtain ⟨o, ho, heq⟩ := Option.map_eq_some_iff.mp hvalue
    rw [FilterOperand.ofJson?_array laws] at ho
    obtain ⟨vs, hvs, rfl⟩ := Option.map_eq_some_iff.mp ho
    exact ⟨vs, heq.symm, Value.elements_of_mapM laws hvs, Filter.given_of_list heq.symm⟩
  · intro hfield vs hlist
    rw [hlist] at hvalue
    obtain ⟨operand, hoperand, hread⟩ := exists_of_orNull? hvalue
    have hnot : ∀ items stop, operand ≠ .array items stop := by
      rintro items stop rfl
      exact hfield items stop hoperand
    rw [FilterOperand.ofJson?_of_not_array laws hnot] at hread
    obtain ⟨v, -, heq⟩ := Option.map_eq_some_iff.mp hread
    cases heq
  · intro items stop hfield
    rw [hfield] at hvalues
    obtain ⟨vs, hvs, heq⟩ := Option.map_eq_some_iff.mp hvalues
    exact ⟨vs, heq.symm, Value.elements_of_mapM laws hvs⟩

/-! ## Criteria -/

section

variable (lib : Json.Library)

mutual

/-- The trees that the filters of a criterion are read from, from left to right. -/
def leaves : Json → List Json
  | .object members stop =>
    match ofJson? lib (.object members stop) with
    | some (.group _ _) => groupLeaves members
    | _ => [.object members stop]
  | j => [j]

/-- The leaves of the criteria in the first member that is called a group. -/
def groupLeaves : List (Key × Json) → List Json
  | [] => []
  | (k, j) :: ms => if k = .name "group" then arrayLeaves j else groupLeaves ms

def arrayLeaves : Json → List Json
  | .array items _ => allLeaves items
  | _ => []

def allLeaves : List Json → List Json
  | [] => []
  | j :: js => leaves j ++ allLeaves js

end

end

/-- Filter by filter, what the leaves are read as. -/
def FromLeaves (lib : Json.Library) (leaves : List Json) (fs : List Filter) : Prop :=
  List.Forall₂ (fun leaf f => filter? lib leaf = some f) leaves fs

theorem filter?_of_ofJson? (laws : lib.Laws) {stop : Option Json.Break}
    (h : ofJson? lib (.object ms stop) = some (.filter f)) : filter? lib (.object ms stop) = some f := by
  rw [ofJson?_object laws, Option.or_eq_some_iff] at h
  rcases h with h | ⟨-, h⟩
  · simp [Option.bind_eq_some_iff] at h
  · obtain ⟨g, hg, heq⟩ := Option.map_eq_some_iff.mp h
    cases heq
    exact hg

theorem exists_of_not_object {x : Criterion} (hj : ∀ ms stop, j ≠ .object ms stop) (h : ofJson? lib j = some x) :
    leaves lib j = [j] ∧ ∃ f, filter? lib j = some f ∧ x = .filter f := by
  cases j with
  | object ms stop => exact absurd rfl (hj ms stop)
  | _ =>
    unfold ofJson? at h
    obtain ⟨f, hf, rfl⟩ := Option.map_eq_some_iff.mp h
    unfold leaves
    exact ⟨rfl, f, hf, rfl⟩

mutual

theorem fromLeaves_of_ofJson? (laws : lib.Laws) {x : Criterion} (j : Json) (h : ofJson? lib j = some x) :
    FromLeaves lib (leaves lib j) x.filters := by
  cases j with
  | object ms stop =>
    rw [leaves, h]
    cases x with
    | group inner op =>
      obtain ⟨j, or, hgroup, hinner, -⟩ := (ofJson?_eq_group_iff laws).mp h
      exact fromLeaves_of_groupOf? laws ms ((groupOf?_of_once? hgroup).trans hinner)
    | filter f =>
      rw [filters]
      exact .cons (filter?_of_ofJson? laws h) .nil
  | _ =>
    obtain ⟨hleaves, f, hf, rfl⟩ := exists_of_not_object (by nofun) h
    rw [hleaves, filters]
    exact .cons hf .nil

theorem fromLeaves_of_groupOf? (laws : lib.Laws) {xs : List Criterion} (ms : List (Key × Json))
    (h : groupOf? lib ms = some xs) : FromLeaves lib (groupLeaves lib ms) (allFilters xs) := by
  cases ms with
  | nil => cases h
  | cons m ms =>
    obtain ⟨k, j⟩ := m
    rw [groupOf?] at h
    rw [groupLeaves]
    split
    · rw [if_pos ‹_›] at h
      exact fromLeaves_of_criteria? laws j h
    · rw [if_neg ‹_›] at h
      exact fromLeaves_of_groupOf? laws ms h

theorem fromLeaves_of_criteria? (laws : lib.Laws) {xs : List Criterion} (j : Json)
    (h : criteria? lib j = some xs) : FromLeaves lib (arrayLeaves lib j) (allFilters xs) := by
  cases j with
  | array items stop =>
    rw [criteria?] at h
    rw [arrayLeaves]
    exact fromLeaves_of_all? laws items h
  | _ => cases h

theorem fromLeaves_of_all? (laws : lib.Laws) {xs : List Criterion} (js : List Json) (h : all? lib js = some xs) :
    FromLeaves lib (allLeaves lib js) (allFilters xs) := by
  cases js with
  | nil =>
    cases h
    rw [allLeaves, allFilters]
    exact .nil
  | cons j js =>
    rw [all?] at h
    obtain ⟨x, hx, h⟩ := Option.bind_eq_some_iff.mp h
    obtain ⟨ys, hys, h⟩ := Option.bind_eq_some_iff.mp h
    cases h
    rw [allLeaves, allFilters]
    exact List.rel_append (fromLeaves_of_ofJson? laws j hx) (fromLeaves_of_all? laws js hys)

end

end Criterion

/-! ## Reading a whole tree -/

namespace Json

variable {α : Type} {depth : Nat} {j : Json}

theorem exists_array_of_list {d : Decoder α} {as : List α} (h : list d depth j = .ok as) :
    ∃ items stop, j = .array items stop := by
  unfold list at h
  split at h
  · exact ⟨_, _, rfl⟩
  · exact (unexpected_ne_ok _ _ _ h).elim

end Json

namespace Criterion

variable {depth : Nat} {xs : List Criterion}

theorem all?_eq_mapM (items : List Json) : all? lib items = items.mapM (ofJson? lib) := by
  induction items with
  | nil => rw [all?, List.mapM_nil, Option.pure_def]
  | cons j items ih => rw [all?, List.mapM_cons, ih]

/-- Every filter of a list of criteria, at any depth, has its own part of the tree, in the same order. -/
theorem takes_of_list (laws : lib.Laws) {j : Json} (h : Json.list (decoder lib) depth j = .ok xs) :
    List.Forall₂ (Filter.Takes lib) (arrayLeaves lib j) (allFilters xs) := by
  obtain ⟨items, stop, rfl⟩ := Json.exists_array_of_list h
  obtain ⟨-, hall⟩ := Json.read_of_mapM_anyOf (Json.list_array_eq_ok h)
  have hread := fromLeaves_of_all? laws items ((all?_eq_mapM items).trans hall)
  rw [arrayLeaves]
  exact hread.imp fun _ _ => takes_of_filter? laws

end Criterion

namespace Assignment

variable {depth : Nat} {j : Json} {a : Assignment} {given : Fields}

theorem exists_lookup_of_fields (laws : lib.Laws) (h : lib.fields (record lib) depth j = .ok given) :
    ∃ v, j.field? "value" 1 = some v ∧ given.lookup "value" = some v := by
  obtain ⟨ms, stop, rfl⟩ | ⟨items, stop, rfl⟩ := laws.object_or_array h
  · have hlookup := laws.lookup_of_object h "value"
    have hfits := laws.fits_of_object h
    obtain ⟨v, hmem⟩ := hfits.required "value" (.tail _ (.head _))
    have honce : (ms.filter (·.1 = .name "value")).length ≤ 1 := hfits.once rfl
    have hv := Json.lookup_of_mem honce hmem
    exact ⟨v, hv, hlookup.trans hv⟩
  · have hnames : ((record lib).fields.map (·.name)).Nodup := show ["column", "value"].Nodup by decide
    have hlookup := laws.lookup_of_array h hnames 1 _ rfl
    have hlength := laws.lt_length_of_array h 1 _ rfl nofun
    rw [List.getElem?_eq_getElem hlength] at hlookup
    exact ⟨items[1], List.getElem?_eq_getElem hlength, hlookup⟩

/-- A value that is assigned is read from its field, in both forms of an assignment. -/
theorem elements_of_decoder (laws : lib.Laws) (h : decoder lib depth j = .ok a) :
    ∃ v, j.field? "value" 1 = some v ∧ Value.Elements lib [v] [a.value] := by
  obtain ⟨given, hgiven, h⟩ := bind_eq_ok h
  obtain ⟨v, hfield, hlookup⟩ := exists_lookup_of_fields laws hgiven
  obtain ⟨column, -, h⟩ := bind_eq_ok h
  obtain ⟨value, hvalue, h⟩ := bind_eq_ok h
  cases h
  rw [Fields.get, hlookup] at hvalue
  obtain ⟨-, hread⟩ := Json.anyOf_eq_ok_iff.mp hvalue
  exact ⟨v, hfield, .cons ⟨hread, Value.blob_iff_of_ofJson? laws hread⟩ .nil⟩

end Assignment

end BoundSql

import BoundSql.Document.Reading
import BoundSql.Proofs.Omission.Members

/-!
# Criteria with members left out

What a filter or a group says about itself by default may be left out of it, at any depth. An object is taken
for a group if it can be read as one, so it matters what it is read as before anything is left out of it.
-/

namespace BoundSql

open Json (Key Thinned Unchanged Remains Carries)

/-- What a filter without the member reads as, or does not look at. -/
def Filter.Redundant (ms : List (Key × Json)) (name : String) (j : Json) : Prop :=
  match name with
  | "column" | "op" => False
  | "value" => j = .null ∨ ∃ op, (.name "op", .string (some op)) ∈ ms ∧ Operator.takesPair op = true
  | "values" => j = .null
  | "or" => j = .bool false
  | _ => True

namespace Criterion

def GroupRedundant (name : String) (j : Json) : Prop :=
  match name with
  | "group" => False
  | "or" => j = .bool false
  | _ => True

/-- The members of a group are exchanged, and nothing else. -/
def GroupWithin (items items' : List Json) (name : String) (j j' : Json) : Prop :=
  match name with
  | "group" => j = .array items none ∧ j' = .array items' none
  | _ => j' = j

/-- A criterion, and the same with some members left out of its objects. -/
inductive Thinner (lib : Json.Library) : Json → Json → Prop
  | same (j : Json) : Thinner lib j j
  | filter {ms ms' : List (Key × Json)} :
      (∀ j, (.name "group", j) ∉ ms) → Thinned (Filter.Redundant ms) Unchanged ms ms' →
        Thinner lib (.object ms none) (.object ms' none)
  | group {ms ms' : List (Key × Json)} {inner : List Criterion} {op : Connective} {items items' : List Json} :
      ofJson? lib (.object ms none) = some (.group inner op) → List.Forall₂ (Thinner lib) items items' →
        Thinned GroupRedundant (GroupWithin items items') ms ms' → Thinner lib (.object ms none) (.object ms' none)

/-! ## Members that are given once -/

variable {lib : Json.Library} {Out : String → Json → Prop} {Within : String → Json → Json → Prop}
variable {ms ms' : List (Key × Json)} {name : String} {j j' : Json} {o : Option Json}

theorem once?_eq_some_iff :
    once? name ms = some o ↔ (ms.filter (·.1 = .name name)).length ≤ 1 ∧ ms.lookup (.name name) = o := by
  rw [Json.lookup_eq_head?_filter]
  unfold once?
  cases ms.filter (·.1 = .name name) with
  | nil => simp
  | cons m rest => cases rest <;> simp

theorem once?_of_not_mem (h : ∀ j, (.name name, j) ∉ ms) : once? name ms = some none := by
  have hnone : ms.filter (·.1 = .name name) = [] := by
    rw [List.filter_eq_nil_iff]
    rintro ⟨k, j⟩ hmem hk
    obtain rfl : k = .name name := by simpa using hk
    exact h j hmem
  unfold once?
  rw [hnone]

theorem once?_thinned (h : Thinned Out Within ms ms') (ho : once? name ms = some o) :
    ∃ o', once? name ms' = some o' ∧ Remains Out Within name o o' := by
  obtain ⟨honce, rfl⟩ := once?_eq_some_iff.mp ho
  exact ⟨_, once?_eq_some_iff.mpr ⟨Nat.le_trans (h.length_filter_le _) honce, rfl⟩, h.lookup honce⟩

/-! ## Whole values -/

theorem wholeItems_carries {depth : Nat} {items items' : List Json}
    (h : List.Forall₂ (fun j j' => Carries Eq (Json.whole depth j) (Json.whole depth j')) items items') :
    Carries Eq (Json.wholeItems depth items) (Json.wholeItems depth items') := by
  induction h with
  | nil => exact .refl (fun _ => rfl) _
  | cons hj _ ih =>
    rw [Json.wholeItems, Json.wholeItems]
    exact hj.bind fun _ _ _ => ih

theorem wholeMembers_carries {depth : Nat}
    (hwithin : ∀ name j j', Within name j j' → Carries Eq (Json.whole depth j) (Json.whole depth j'))
    (h : Thinned Out Within ms ms') : Carries Eq (Json.wholeMembers depth ms) (Json.wholeMembers depth ms') := by
  induction h with
  | nil => exact .refl (fun _ => rfl) _
  | @left name j ms ms' _ _ ih =>
    intro u hu
    rw [Json.wholeMembers] at hu
    obtain ⟨-, -, hu⟩ := bind_eq_ok hu
    obtain ⟨-, -, hu⟩ := bind_eq_ok hu
    exact ih u hu
  | @kept name j j' ms ms' hw _ ih =>
    rw [Json.wholeMembers, Json.wholeMembers]
    refine (Carries.refl (S := Eq) (fun _ => rfl) _).bind fun _ _ _ => ?_
    exact (hwithin name j j' hw).bind fun _ _ _ => ih

theorem whole_object_carries
    (hwithin : ∀ depth name j j', Within name j j' → Carries Eq (Json.whole depth j) (Json.whole depth j'))
    (h : Thinned Out Within ms ms') (depth : Nat) :
    Carries Eq (Json.whole depth (.object ms none)) (Json.whole depth (.object ms' none)) := by
  rw [Json.whole, Json.whole]
  apply (Carries.refl (fun _ => rfl) (Json.enter depth)).bind
  rintro inside _ rfl
  apply (wholeMembers_carries (hwithin inside) h).bind
  rintro _ _ -
  exact .refl (fun _ => rfl) _

/-! ## Filters -/

variable {f : Filter} {stop : Option Json.Break}

theorem filterOf?_eq_some_iff {column op value values or : Option Json} :
    filterOf? lib column op value values or = some f ↔
      column >>= text? = some f.column ∧ op >>= text? = some f.op ∧
        orNull? (FilterOperand.ofJson? lib) value = some f.value ∧ orNull? (values? lib) values = some f.values ∧
          (flag? or).map connective = some f.connective := by
  obtain ⟨fcolumn, fop, fvalue, fvalues, fconnective⟩ := f
  simp only [filterOf?, Option.bind_eq_bind, Option.bind_eq_some_iff, Option.map_eq_some_iff, Option.pure_def,
    Option.some.injEq, Filter.mk.injEq]
  constructor
  · rintro ⟨c, hc, o, ho, v, hv, vs, hvs, b, hb, rfl, rfl, rfl, rfl, rfl⟩
    exact ⟨hc, ho, hv, hvs, b, hb, rfl⟩
  · rintro ⟨hc, ho, hv, hvs, b, hb, rfl⟩
    exact ⟨_, hc, _, ho, _, hv, _, hvs, b, hb, rfl, rfl, rfl, rfl, rfl⟩

theorem filter?_object_eq_some_iff :
    filter? lib (.object ms stop) = some f ↔
      ∃ column op value values or, once? "column" ms = some column ∧ once? "op" ms = some op ∧
        once? "value" ms = some value ∧ once? "values" ms = some values ∧ once? "or" ms = some or ∧
          filterOf? lib column op value values or = some f := by
  simp only [filter?, Option.bind_eq_bind, Option.bind_eq_some_iff]
  constructor
  · rintro ⟨c, hc, o, ho, v, hv, vs, hvs, b, hb, hf⟩
    exact ⟨c, o, v, vs, b, hc, ho, hv, hvs, hb, hf⟩
  · rintro ⟨c, o, v, vs, b, hc, ho, hv, hvs, hb, hf⟩
    exact ⟨c, hc, o, ho, v, hv, vs, hvs, b, hb, hf⟩

theorem clause_with_value {v : Option FilterOperand} (h : v = f.value ∨ Operator.takesPair f.op = true) :
    { f with value := v }.clause = f.clause := by
  rcases h with rfl | hpair
  · rfl
  · unfold Filter.clause
    simp only [hpair, if_true]

theorem exists_filter_thinned (h : Thinned (Filter.Redundant ms) Unchanged ms ms')
    (hf : filter? lib (.object ms none) = some f) :
    ∃ f', filter? lib (.object ms' none) = some f' ∧ f'.clause = f.clause := by
  obtain ⟨column, op, value, values, or, hcolumn, hop, hvalue, hvalues, hor, hread⟩ :=
    filter?_object_eq_some_iff.mp hf
  obtain ⟨hc, ho, hv, hvs, hflag⟩ := filterOf?_eq_some_iff.mp hread
  obtain ⟨column', hcolumn', hcolumns⟩ := once?_thinned h hcolumn
  obtain ⟨op', hop', hops⟩ := once?_thinned h hop
  obtain ⟨value', hvalue', hvaluer⟩ := once?_thinned h hvalue
  obtain ⟨values', hvalues', hvaluesr⟩ := once?_thinned h hvalues
  obtain ⟨or', hor', hors⟩ := once?_thinned h hor
  obtain ⟨v, hv', hsame⟩ : ∃ v, orNull? (FilterOperand.ofJson? lib) value' = some v ∧
      (v = f.value ∨ Operator.takesPair f.op = true) := by
    cases hvaluer with
    | absent => exact ⟨f.value, hv, .inl rfl⟩
    | kept heq =>
      subst heq
      exact ⟨f.value, hv, .inl rfl⟩
    | left hout =>
      obtain rfl | ⟨name, hmem, hpair⟩ := hout
      · exact ⟨f.value, hv, .inl rfl⟩
      · obtain ⟨honce, rfl⟩ := once?_eq_some_iff.mp hop
        rw [Json.lookup_of_mem honce hmem] at ho
        cases ho
        exact ⟨none, rfl, .inr hpair⟩
  have hcolumnread : column' = column := hcolumns.eq_of_not_out id id
  have hopread : op' = op := hops.eq_of_not_out id id
  have hvaluesread : orNull? (values? lib) values' = orNull? (values? lib) values :=
    hvaluesr.read_eq (by rintro _ rfl; rfl) id
  have horread : flag? or' = flag? or := hors.read_eq (by rintro _ rfl; rfl) id
  refine ⟨{ f with value := v }, ?_, clause_with_value hsame⟩
  refine filter?_object_eq_some_iff.mpr
    ⟨column', op', value', values', or', hcolumn', hop', hvalue', hvalues', hor', ?_⟩
  rw [hcolumnread, hopread]
  exact filterOf?_eq_some_iff.mpr ⟨hc, ho, hv', hvaluesread.trans hvs, (congrArg _ horread).trans hflag⟩

/-! ## Groups -/

theorem groupOf?_eq (ms : List (Key × Json)) : groupOf? lib ms = (ms.lookup (.name "group")).bind (criteria? lib) := by
  induction ms with
  | nil => rw [groupOf?, List.lookup_nil, Option.bind_none]
  | cons m ms ih =>
    obtain ⟨k, j⟩ := m
    rw [groupOf?]
    by_cases hk : k = .name "group"
    · rw [if_pos hk, hk, List.lookup_cons_self, Option.bind_some]
    · rw [if_neg hk, ih, Json.lookup_cons_of_ne (Ne.symm hk)]

theorem groupOf?_of_once? (h : once? "group" ms = some o) : groupOf? lib ms = o.bind (criteria? lib) := by
  obtain ⟨-, rfl⟩ := once?_eq_some_iff.mp h
  exact groupOf?_eq ms

theorem ofJson?_object (laws : lib.Laws) (ms : List (Key × Json)) (stop : Option Json.Break) :
    ofJson? lib (.object ms stop) =
      (do
        let _ ← once? "group" ms
        let inner ← groupOf? lib ms
        return group inner (connective (← flag? (← once? "or" ms)))).or
          (.filter <$> filter? lib (.object ms stop)) := by
  rw [ofJson?, laws.firstOf_eq, List.findSome?_cons, List.findSome?_singleton]
  split
  · rename_i hgroup
    exact congrArg (Option.or · _) hgroup.symm
  · rename_i hnone
    exact congrArg (Option.or · _) hnone.symm

theorem ofJson?_eq_group_iff (laws : lib.Laws) {inner : List Criterion} {op : Connective} :
    ofJson? lib (.object ms stop) = some (.group inner op) ↔
      ∃ j or, once? "group" ms = some (some j) ∧ criteria? lib j = some inner ∧ once? "or" ms = some or ∧
        (flag? or).map connective = some op := by
  have hfilter : ∀ f : Option Filter, Criterion.filter <$> f ≠ some (.group inner op) := by
    intro f
    cases f <;> nofun
  rw [ofJson?_object laws, Option.or_eq_some_iff]
  simp only [hfilter, and_false, or_false, Option.bind_eq_bind, Option.bind_eq_some_iff, Option.pure_def,
    Option.map_eq_some_iff, Option.some.injEq, Criterion.group.injEq]
  constructor
  · rintro ⟨o, ho, xs, hxs, or, hor, b, hb, rfl, hop⟩
    rw [groupOf?_of_once? ho] at hxs
    obtain ⟨j, rfl, hj⟩ := Option.bind_eq_some_iff.mp hxs
    exact ⟨j, or, ho, hj, hor, b, hb, hop⟩
  · rintro ⟨j, or, ho, hj, hor, b, hb, hop⟩
    exact ⟨some j, ho, inner, (groupOf?_of_once? ho).trans hj, or, hor, b, hb, rfl, hop⟩

theorem ofJson?_of_not_group (laws : lib.Laws) (h : once? "group" ms = some none) :
    ofJson? lib (.object ms stop) = .filter <$> filter? lib (.object ms stop) := by
  have hnone : groupOf? lib ms = none := groupOf?_of_once? h
  rw [ofJson?_object laws, h, hnone]
  rfl

/-- Two criteria that come to the same in every condition. -/
def Alike (x x' : Criterion) : Prop := ∀ c, addTo c x' = addTo c x

theorem addAll_alike {xs xs' : List Criterion} (h : List.Forall₂ Alike xs xs') (c : Condition) :
    addAll c xs' = addAll c xs := by
  induction h generalizing c with
  | nil => rfl
  | cons hx _ ih =>
    rw [addAll, addAll, hx c]
    exact congrArg _ (funext ih)

/-- The second tree can be used where the first one can, and is read as the same. -/
structure Tracks (lib : Json.Library) (j j' : Json) : Prop where
  whole : ∀ depth, Carries Eq (Json.whole depth j) (Json.whole depth j')
  read : ∀ {x}, ofJson? lib j = some x → ∃ x', ofJson? lib j' = some x' ∧ Alike x x'

theorem tracks_same (j : Json) : Tracks lib j j where
  whole _ := .refl (fun _ => rfl) _
  read hx := ⟨_, hx, fun _ => rfl⟩

theorem tracks_filter (laws : lib.Laws) (hgroup : ∀ j, (.name "group", j) ∉ ms)
    (h : Thinned (Filter.Redundant ms) Unchanged ms ms') :
    Tracks lib (.object ms none) (.object ms' none) where
  whole depth := by
    refine whole_object_carries ?_ h depth
    rintro depth name j _ rfl
    exact .refl (fun _ => rfl) _
  read hx := by
    have hnone := once?_of_not_mem hgroup
    obtain ⟨o, hnone', hremains⟩ := once?_thinned h hnone
    obtain rfl := hremains.eq_none
    rw [ofJson?_of_not_group laws hnone] at hx
    obtain ⟨f, hf, rfl⟩ := Option.map_eq_some_iff.mp hx
    obtain ⟨f', hf', hclause⟩ := exists_filter_thinned h hf
    refine ⟨.filter f', ?_, ?_⟩
    · rw [ofJson?_of_not_group laws hnone', hf']
      rfl
    · intro c
      rw [addTo, addTo, hclause]

theorem exists_all?_tracks {items items' : List Json} (h : List.Forall₂ (Tracks lib) items items')
    {xs : List Criterion} (hxs : all? lib items = some xs) : ∃ xs', all? lib items' = some xs' ∧ List.Forall₂ Alike xs xs' := by
  induction h generalizing xs with
  | nil =>
    cases hxs
    exact ⟨[], rfl, .nil⟩
  | cons hj _ ih =>
    rw [all?] at hxs
    obtain ⟨x, hx, hxs⟩ := Option.bind_eq_some_iff.mp hxs
    obtain ⟨ys, hys, hxs⟩ := Option.bind_eq_some_iff.mp hxs
    cases hxs
    obtain ⟨x', hx', halike⟩ := hj.read hx
    obtain ⟨ys', hys', halikes⟩ := ih hys
    refine ⟨x' :: ys', ?_, .cons halike halikes⟩
    rw [all?, hx', hys']
    rfl

theorem tracks_group (laws : lib.Laws) {inner : List Criterion} {op : Connective} {items items' : List Json}
    (hread : ofJson? lib (.object ms none) = some (.group inner op)) (hitems : List.Forall₂ (Tracks lib) items items')
    (h : Thinned GroupRedundant (GroupWithin items items') ms ms') :
    Tracks lib (.object ms none) (.object ms' none) where
  whole depth := by
    refine whole_object_carries ?_ h depth
    intro depth name j j' hwithin
    unfold GroupWithin at hwithin
    split at hwithin
    · obtain ⟨rfl, rfl⟩ := hwithin
      rw [Json.whole, Json.whole]
      apply (Carries.refl (fun _ => rfl) (Json.enter depth)).bind
      rintro inside _ rfl
      apply (wholeItems_carries (hitems.imp fun _ _ ht => ht.whole inside)).bind
      rintro _ _ -
      exact .refl (fun _ => rfl) _
    · subst hwithin
      exact .refl (fun _ => rfl) _
  read hx := by
    cases hread.symm.trans hx
    obtain ⟨j, or, hj, hinner, hor, hop⟩ := (ofJson?_eq_group_iff laws).mp hread
    obtain ⟨o, hj', hremains⟩ := once?_thinned h hj
    obtain ⟨or', hor', hors⟩ := once?_thinned h hor
    have horread : flag? or' = flag? or := hors.read_eq (by rintro _ rfl; rfl) id
    cases hremains with
    | left hout => exact hout.elim
    | kept hwithin =>
      obtain ⟨rfl, rfl⟩ := hwithin
      obtain ⟨inner', hinner', halike⟩ := exists_all?_tracks hitems hinner
      refine ⟨.group inner' op, ?_, ?_⟩
      · exact (ofJson?_eq_group_iff laws).mpr ⟨_, or', hj', hinner', hor', (congrArg _ horread).trans hop⟩
      · intro c
        rw [addTo, addTo, addAll_alike halike]

/-- A list of criteria stands inside a group, so what holds of a criterion is shown together with what holds of
such a list. -/
theorem Thinner.tracks (laws : lib.Laws) (h : Thinner lib j j') : Tracks lib j j' := by
  refine @Thinner.rec lib (fun j j' _ => Tracks lib j j')
    (fun items items' _ => List.Forall₂ (Tracks lib) items items') ?same ?filter ?group ?nil ?cons j j' h
  case same =>
    intro j
    exact tracks_same j
  case filter =>
    intro ms ms' hgroup hthin
    exact tracks_filter laws hgroup hthin
  case group =>
    intro ms ms' inner op items items' hread _ hthin hitems
    exact tracks_group laws hread hitems hthin
  case nil => exact .nil
  case cons =>
    intro j j' items items' _ _ hj hitems
    exact .cons hj hitems

theorem decoder_carries (laws : lib.Laws) (h : Thinner lib j j') {depth : Nat} :
    Carries Alike (decoder lib depth j) (decoder lib depth j') := by
  have htracks := h.tracks laws
  apply (htracks.whole depth).bind
  rintro _ _ -
  intro x hx
  split at hx
  · rename_i y hy
    cases hx
    obtain ⟨x', hx', halike⟩ := htracks.read hy
    refine ⟨x', ?_, halike⟩
    rw [hx']
  · cases hx

end Criterion

end BoundSql

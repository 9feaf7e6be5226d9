import BoundSql.Proofs.JsonLaws
import Mathlib.Data.List.Forall2

/-!
# Members that are left out

Two trees that differ in what is left out of their objects are read side by side. Whoever reads the first can
read the second, as long as no required member is gone, and finds the values that are left or the defaults.
-/

namespace BoundSql.Json

variable {α β : Type} {S : α → α → Prop} {T : β → β → Prop} {R : Json → Json → Prop}

/-! ## Results that stay -/

/-- The second result is there if the first one is, and corresponds to it. -/
def Carries (S : α → α → Prop) (x x' : Result α) : Prop := ∀ a, x = .ok a → ∃ a', x' = .ok a' ∧ S a a'

namespace Carries

theorem pure {a a' : α} (h : S a a') : Carries S (.ok a) (.ok a') := by
  intro b hb
  cases hb
  exact ⟨a', rfl, h⟩

theorem refl (h : ∀ a, S a a) (x : Result α) : Carries S x x := fun a hx => ⟨a, hx, h a⟩

theorem bind {x x' : Result α} {k k' : α → Result β} (hx : Carries S x x')
    (hk : ∀ a a', S a a' → Carries T (k a) (k' a')) : Carries T (x >>= k) (x' >>= k') := by
  intro b hb
  obtain ⟨a, ha, hb⟩ := bind_eq_ok hb
  obtain ⟨a', ha', hS⟩ := hx a ha
  obtain ⟨b', hb', hT⟩ := hk a a' hS b hb
  refine ⟨b', ?_, hT⟩
  rw [ha']
  exact hb'

theorem and {P : α → Prop} {x x' : Result α} (hx : Carries S x x') (hP : ∀ a, x = .ok a → P a) :
    Carries (fun a a' => P a ∧ S a a') x x' := by
  intro a ha
  obtain ⟨a', ha', hS⟩ := hx a ha
  exact ⟨a', ha', hP a ha, hS⟩

theorem map {x x' : Result α} {g g' : α → β} (hx : Carries S x x') (hg : ∀ a a', S a a' → T (g a) (g' a')) :
    Carries T (g <$> x) (g' <$> x') := by
  intro b hb
  obtain ⟨a, ha, rfl⟩ := map_eq_ok hb
  obtain ⟨a', ha', hS⟩ := hx a ha
  refine ⟨g' a', ?_, hg a a' hS⟩
  rw [ha']
  rfl

theorem mapM {f : Json → Result α} {items items' : List Json}
    (h : List.Forall₂ (fun j j' => Carries S (f j) (f j')) items items') :
    Carries (List.Forall₂ S) (items.mapM f) (items'.mapM f) := by
  induction h with
  | nil => exact pure .nil
  | cons hj _ ih =>
    rw [List.mapM_cons, List.mapM_cons]
    refine hj.bind ?_
    intro a a' ha
    refine ih.bind ?_
    intro as as' has
    exact pure (.cons ha has)

end Carries

/-! ## Objects with fewer members -/

/-- Members of an object that are left out, if `Out` allows it, or stay with values that `Within` allows. -/
inductive Thinned (Out : String → Json → Prop) (Within : String → Json → Json → Prop) :
    List (Key × Json) → List (Key × Json) → Prop
  | nil : Thinned Out Within [] []
  | left {name : String} {j : Json} {ms ms' : List (Key × Json)} :
      Out name j → Thinned Out Within ms ms' → Thinned Out Within ((.name name, j) :: ms) ms'
  | kept {name : String} {j j' : Json} {ms ms' : List (Key × Json)} :
      Within name j j' → Thinned Out Within ms ms' →
        Thinned Out Within ((.name name, j) :: ms) ((.name name, j') :: ms')

/-- Nothing is left out inside a member. -/
def Unchanged (_ : String) (j j' : Json) : Prop := j' = j

/-- What becomes of the member with a name. -/
inductive Remains (Out : String → Json → Prop) (Within : String → Json → Json → Prop) (name : String) :
    Option Json → Option Json → Prop
  | absent : Remains Out Within name none none
  | left {j : Json} : Out name j → Remains Out Within name (some j) none
  | kept {j j' : Json} : Within name j j' → Remains Out Within name (some j) (some j')

/-- An object, and the same with some members left out. What may be left out can depend on the other members. -/
inductive Thinner (Out : List (Key × Json) → String → Json → Prop) (Within : String → Json → Json → Prop) :
    Json → Json → Prop
  | same (j : Json) : Thinner Out Within j j
  | object {ms ms' : List (Key × Json)} :
      Thinned (Out ms) Within ms ms' → Thinner Out Within (.object ms none) (.object ms' none)

/-- Two arrays whose elements correspond. -/
inductive Each (R : Json → Json → Prop) : Json → Json → Prop
  | array {items items' : List Json} : List.Forall₂ R items items' → Each R (.array items none) (.array items' none)

variable {Out : String → Json → Prop} {Within : String → Json → Json → Prop}

theorem Remains.eq_none {name : String} {o : Option Json} (h : Remains Out Within name none o) : o = none := by
  cases h
  rfl

/-- A member that says nothing new to its reader, and is not exchanged. -/
theorem Remains.read_eq {name : String} {o o' : Option Json} {read : Option Json → β}
    (h : Remains Out Within name o o') (hout : ∀ {j}, Out name j → read none = read (some j))
    (hwithin : ∀ {j j'}, Within name j j' → j' = j) : read o' = read o := by
  cases h with
  | absent => rfl
  | left ho => exact hout ho
  | kept hw => rw [hwithin hw]

theorem Remains.eq_of_not_out {name : String} {o o' : Option Json} (h : Remains Out Within name o o')
    (hout : ∀ {j}, ¬ Out name j) (hwithin : ∀ {j j'}, Within name j j' → j' = j) : o' = o := by
  have hread : id o' = id o := h.read_eq (fun ho => absurd ho hout) hwithin
  exact hread

/-! ## Lists and absent values -/

theorem list_array_eq_ok {d : Decoder α} {depth : Nat} {items : List Json} {stop : Option Break} {as : List α}
    (h : list d depth (.array items stop) = .ok as) : items.mapM (d (depth + 1)) = .ok as := by
  obtain ⟨inside, henter, hlist⟩ := bind_eq_ok h
  obtain ⟨-, rfl⟩ := enter_eq_ok henter
  obtain ⟨elements, hitems, hclose⟩ := bind_eq_ok hlist
  obtain ⟨-, -, hdone⟩ := bind_eq_ok hclose
  cases hdone
  exact hitems

theorem list_nil_carries {S : List α → List α → Prop} (hnil : S [] []) (d : Decoder α) (depth : Nat) :
    Carries S (list d depth (.array [] none)) (.ok []) := by
  intro as has
  cases list_array_eq_ok has
  exact ⟨[], rfl, hnil⟩

theorem list_carries (d : Decoder α) (hd : ∀ depth j j', R j j' → Carries S (d depth j) (d depth j')) {j j' : Json}
    (h : Each R j j') (depth : Nat) :
    Carries (List.Forall₂ S) (list d depth j) (list d depth j') := by
  cases h with
  | array hitems =>
    apply (Carries.refl (fun _ => rfl) (enter depth)).bind
    rintro inside _ rfl
    apply (Carries.mapM (hitems.imp (hd _))).bind
    intro as as' has
    exact .pure has

theorem list_carries_eq (d : Decoder α) (hd : ∀ depth j j', R j j' → Carries Eq (d depth j) (d depth j'))
    {j j' : Json} (h : Each R j j') (depth : Nat) : Carries Eq (list d depth j) (list d depth j') := by
  intro as has
  obtain ⟨as', has', heq⟩ := list_carries d hd h depth as has
  rw [List.forall₂_eq_eq_eq] at heq
  exact ⟨as', has', heq⟩

theorem isSome_of_orNull {d : Decoder α} {depth : Nat} {j : Json} {o : Option α} (h : orNull d depth j = .ok o)
    (hj : j ≠ .null) : o.isSome = true := by
  unfold orNull at h
  split at h
  · exact absurd rfl hj
  · obtain ⟨a, -, rfl⟩ := map_eq_ok h
    rfl

theorem orNull_carries {Out : List (Key × Json) → String → Json → Prop} {d : Decoder α} {depth : Nat} {j j' : Json}
    (hrefl : ∀ a, S a a) (h : Thinner Out Within j j') (hd : Carries S (d depth j) (d depth j')) :
    Carries (Option.Rel S) (orNull d depth j) (orNull d depth j') := by
  cases h with
  | same j =>
    apply Carries.refl
    intro o
    cases o with
    | none => exact .none
    | some a => exact .some (hrefl a)
  | object _ => exact hd.map fun _ _ hS => .some hS

/-! ## Records -/

/-- What becomes of the fields that are given. -/
def Fields.Remain (Out : String → Json → Prop) (Within : String → Json → Json → Prop) (given given' : Fields) : Prop :=
  ∀ name, Remains Out Within name (given.lookup name) (given'.lookup name)

variable {ms ms' : List (Key × Json)} {name : String} {j : Json}

namespace Thinned

theorem exists_of_mem (h : Thinned Out Within ms ms') {k : Key} {j' : Json} (hmem : (k, j') ∈ ms') :
    ∃ name j, k = .name name ∧ (.name name, j) ∈ ms ∧ Within name j j' := by
  induction h with
  | nil => cases hmem
  | left _ _ ih =>
    obtain ⟨name, j, hk, hj, hwithin⟩ := ih hmem
    exact ⟨name, j, hk, List.mem_cons_of_mem _ hj, hwithin⟩
  | kept hwithin _ ih =>
    rcases List.mem_cons.mp hmem with heq | hmem
    · cases heq
      exact ⟨_, _, rfl, List.mem_cons_self, hwithin⟩
    · obtain ⟨name, j, hk, hj, hwithin⟩ := ih hmem
      exact ⟨name, j, hk, List.mem_cons_of_mem _ hj, hwithin⟩

theorem exists_of_not_out (h : Thinned Out Within ms ms') (hmem : (.name name, j) ∈ ms) (hout : ¬ Out name j) :
    ∃ j', (.name name, j') ∈ ms' := by
  induction h with
  | nil => cases hmem
  | left hleft _ ih =>
    rcases List.mem_cons.mp hmem with heq | hmem
    · cases heq
      exact absurd hleft hout
    · exact ih hmem
  | kept _ _ ih =>
    rcases List.mem_cons.mp hmem with heq | hmem
    · cases heq
      exact ⟨_, List.mem_cons_self⟩
    · obtain ⟨j', hj'⟩ := ih hmem
      exact ⟨j', List.mem_cons_of_mem _ hj'⟩

theorem length_filter_le (h : Thinned Out Within ms ms') (k : Key) :
    (ms'.filter (·.1 = k)).length ≤ (ms.filter (·.1 = k)).length := by
  induction h with
  | nil => exact Nat.le_refl _
  | left _ _ ih => exact Nat.le_trans ih ((List.sublist_cons_self _ _).filter _).length_le
  | @kept name j j' ms ms' _ _ ih =>
    by_cases hk : .name name = k
    · rw [List.filter_cons_of_pos (by simpa using hk), List.filter_cons_of_pos (by simpa using hk)]
      exact Nat.succ_le_succ ih
    · rw [List.filter_cons_of_neg (by simpa using hk), List.filter_cons_of_neg (by simpa using hk)]
      exact ih

theorem lookup (h : Thinned Out Within ms ms') (honce : (ms.filter (·.1 = .name name)).length ≤ 1) :
    Remains Out Within name (ms.lookup (.name name)) (ms'.lookup (.name name)) := by
  induction h with
  | nil => exact .absent
  | @left s j ms ms' hout hrest ih =>
    by_cases hs : name = s
    · subst hs
      rw [filter_name_cons_self, List.length_cons] at honce
      have hnone : ms'.filter (·.1 = .name name) = [] := by
        have hle := hrest.length_filter_le (.name name)
        exact List.eq_nil_of_length_eq_zero (by omega)
      rw [List.lookup_cons_self, lookup_eq_head?_filter name ms', hnone]
      exact .left hout
    · rw [filter_name_cons_of_ne hs] at honce
      rw [lookup_name_cons_of_ne hs]
      exact ih honce
  | @kept s j j' ms ms' hwithin _ ih =>
    by_cases hs : name = s
    · subst hs
      rw [List.lookup_cons_self, List.lookup_cons_self]
      exact .kept hwithin
    · rw [filter_name_cons_of_ne hs] at honce
      rw [lookup_name_cons_of_ne hs, lookup_name_cons_of_ne hs]
      exact ih honce

end Thinned

variable {lib : Library} {r : Record} {depth : Nat}

/-- No required field may be left out, and whatever passes the check of its field does so still. -/
structure Record.Tolerates (r : Record) (Out : String → Json → Prop) (Within : String → Json → Json → Prop) :
    Prop where
  required : ∀ name ∈ r.required, ∀ j, ¬ Out name j
  within : ∀ {name j j'}, Within name j j' → j' = j ∨
    ∃ f, r.field? name = some f ∧ ∀ depth, f.check depth j = .ok () → f.check depth j' = .ok ()

theorem Record.Fits.thinned (hfits : r.Fits depth ms) (ht : r.Tolerates Out Within) (h : Thinned Out Within ms ms') :
    r.Fits depth ms' where
  depth_lt := hfits.depth_lt
  member := by
    rintro ⟨k, j'⟩ hmem
    obtain ⟨name, j, rfl, hj, hwithin⟩ := h.exists_of_mem hmem
    obtain ⟨s, hs, hread⟩ := hfits.member _ hj
    cases hs
    refine ⟨name, rfl, ?_⟩
    obtain rfl | ⟨f, hfield, hchecks⟩ := ht.within hwithin
    · exact hread
    · rw [hfield] at hread ⊢
      exact hchecks _ hread
  once hfield := Nat.le_trans (h.length_filter_le _) (hfits.once hfield)
  required name hname := by
    obtain ⟨j, hj⟩ := hfits.required name hname
    exact h.exists_of_not_out hj (ht.required name hname j)

/-- The fields that are read from an object and from what remains of it. -/
theorem Library.Laws.fields_thinned (laws : lib.Laws) (ht : r.Tolerates Out Within) (h : Thinned Out Within ms ms')
    (depth : Nat) :
    Carries (Fields.Remain Out Within) (lib.fields r depth (.object ms none))
      (lib.fields r depth (.object ms' none)) := by
  intro given hgiven
  have hfits := laws.fits_of_object hgiven
  obtain ⟨given', hgiven'⟩ := laws.exists_of_fits (hfits.thinned ht h)
  refine ⟨given', hgiven', fun name => ?_⟩
  rw [laws.lookup_of_object hgiven, laws.lookup_of_object hgiven']
  cases hfield : r.field? name with
  | none => exact .absent
  | some f => exact h.lookup (hfits.once hfield)

theorem Library.Laws.lookup_of_mem {given : Fields} {f : Field} (laws : lib.Laws)
    (hgiven : lib.fields r depth (.object ms none) = .ok given) (hfield : r.field? name = some f)
    (hmem : (.name name, j) ∈ ms) : given.lookup name = some j := by
  rw [laws.lookup_of_object hgiven, hfield]
  exact Json.lookup_of_mem ((laws.fits_of_object hgiven).once hfield) hmem

theorem Field.check_of {name : String} {absence : Absence} {d : Decoder α} {depth : Nat} {j j' : Json}
    (hd : Carries S (d depth j) (d depth j')) (h : (Field.of name absence d).check depth j = .ok ()) :
    (Field.of name absence d).check depth j' = .ok () := by
  obtain ⟨a, ha, -⟩ := map_eq_ok h
  obtain ⟨a', ha', -⟩ := hd a ha
  exact congrArg ((fun _ => ()) <$> ·) ha'

variable {given given' : Fields} {name : String} {d : Json → Result α} {default : Result α}

/-- A field that is left out has its default, which corresponds to every value that it may have had. -/
theorem Fields.get_remains (h : Remains Out Within name (given.lookup name) (given'.lookup name))
    (hdefault : Carries S default default) (hout : ∀ {j}, Out name j → Carries S (d j) default)
    (hwithin : ∀ {j j'}, Within name j j' → Carries S (d j) (d j')) :
    Carries S (given.get name d default) (given'.get name d default) := by
  unfold get
  generalize given.lookup name = o, given'.lookup name = o' at h
  cases h with
  | absent => exact hdefault
  | left ho => exact hout ho
  | kept hw => exact hwithin hw

theorem Fields.get_default (h : Remains Out Within name (given.lookup name) (given'.lookup name))
    (hout : ∀ {j}, Out name j → Carries Eq (d j) default) (hwithin : ∀ {j j'}, Within name j j' → j' = j) :
    Carries Eq (given.get name d default) (given'.get name d default) := by
  apply get_remains h (.refl (fun _ => rfl) default) hout
  intro j j' hw
  rw [hwithin hw]
  exact .refl (fun _ => rfl) (d j)

/-! ## Texts -/

theorem Library.decode_carries {d : Decoder α} {source source' : String} {j' : Json}
    (hd : Carries S (d 0 (lib.parse source).1) (d 0 j')) (h : lib.Holds source' j') :
    Carries S (lib.decode d source) (lib.decode d source') := by
  intro a ha
  obtain ⟨b, hb, hend⟩ := bind_eq_ok ha
  obtain rfl : b = a := by
    split at hend
    · cases hend
    · cases hend
      rfl
  rw [h.decode_eq]
  exact hd b hb

end BoundSql.Json

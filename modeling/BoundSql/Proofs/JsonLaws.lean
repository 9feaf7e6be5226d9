import BoundSql.Json.Library
import BoundSql.Proofs.Criteria.Filter
import Mathlib.Data.List.Forall2

/-!
# What is relied on in JSON

Records can be read from objects with all required members, and from arrays. A field that no member names is
given nothing, so that its option is absent or its default applies, and a member that no field knows is passed
over. Shapes are tried in their order. The standard library obeys these laws.
-/

namespace BoundSql.Json

theorem enter_of_lt {depth : Nat} (h : depth < maxDepth) : enter depth = .ok (depth + 1) := if_pos h

theorem enter_eq_ok {depth inside : Nat} (h : enter depth = .ok inside) :
    depth < maxDepth ∧ inside = depth + 1 := by
  unfold enter at h
  split at h
  · rename_i hdepth
    cases h
    exact ⟨hdepth, rfl⟩
  · cases h

theorem unexpected_ne_ok {α : Type} (expected : String) (j : Json) (a : α) : unexpected expected j ≠ .ok a := by
  unfold unexpected
  split <;> nofun

/-! ## Members by name -/

section

variable {name s : String} {j : Json} {ms : List (Key × Json)}

theorem lookup_cons_of_ne {α β : Type} [BEq α] [LawfulBEq α] {a b : α} (h : a ≠ b) (v : β) (es : List (α × β)) :
    ((b, v) :: es).lookup a = es.lookup a := by
  rw [List.lookup_cons, beq_false_of_ne h]

theorem lookup_name_cons_of_ne (h : name ≠ s) : ((Key.name s, j) :: ms).lookup (.name name) = ms.lookup (.name name) :=
  lookup_cons_of_ne (by simpa using h) j ms

theorem filter_name_cons_self :
    ((Key.name name, j) :: ms).filter (·.1 = .name name) = (.name name, j) :: ms.filter (·.1 = .name name) :=
  List.filter_cons_of_pos (by simp)

theorem filter_name_cons_of_ne (h : name ≠ s) :
    ((Key.name s, j) :: ms).filter (·.1 = .name name) = ms.filter (·.1 = .name name) :=
  List.filter_cons_of_neg (by simpa using h.symm)

theorem lookup_eq_head?_filter (name : String) (ms : List (Key × Json)) :
    ms.lookup (.name name) = (ms.filter (·.1 = .name name)).head?.map (·.2) := by
  induction ms with
  | nil => rfl
  | cons m ms ih =>
    obtain ⟨k, j⟩ := m
    by_cases hk : k = .name name
    · rw [hk, List.lookup_cons_self, filter_name_cons_self]
      rfl
    · rw [lookup_cons_of_ne (Ne.symm hk), List.filter_cons_of_neg (by simpa using hk), ih]

/-- A name that occurs once is looked up where it occurs. -/
theorem lookup_of_mem (honce : (ms.filter (·.1 = .name name)).length ≤ 1) (hmem : (.name name, j) ∈ ms) :
    ms.lookup (.name name) = some j := by
  have hnamed : (.name name, j) ∈ ms.filter (·.1 = .name name) := List.mem_filter.mpr ⟨hmem, by simp⟩
  have hone : (ms.filter (·.1 = .name name)).length = 1 := Nat.le_antisymm honce (List.length_pos_of_mem hnamed)
  obtain ⟨m, hm⟩ := List.length_eq_one_iff.mp hone
  rw [hm] at hnamed
  obtain rfl := List.mem_singleton.mp hnamed
  rw [lookup_eq_head?_filter, hm]
  rfl

end

namespace Record

def required (r : Record) : List String := (r.fields.filter (·.absence = .required)).map (·.name)

/-- The members of an object that can be read as a record. -/
structure Fits (r : Record) (depth : Nat) (ms : List (Key × Json)) : Prop where
  depth_lt : depth < maxDepth
  /-- A member that no field knows only has to end. -/
  member : ∀ m ∈ ms, ∃ name, m.1 = .name name ∧
    (r.field? name).elim (pass m.2) (fun f => f.check (depth + 1) m.2) = .ok ()
  once : ∀ {name f}, r.field? name = some f → (ms.filter (·.1 = .name name)).length ≤ 1
  required : ∀ name ∈ r.required, ∃ j, (.name name, j) ∈ ms

theorem Fits.of_nodup {r : Record} {depth : Nat} {ms : List (Key × Json)} (hdepth : depth < maxDepth)
    (hmember : ∀ m ∈ ms, ∃ name, m.1 = .name name ∧
      (r.field? name).elim (pass m.2) (fun f => f.check (depth + 1) m.2) = .ok ())
    (hkeys : (ms.map (·.1)).Nodup) (hrequired : ∀ name ∈ r.required, ∃ j, (.name name, j) ∈ ms) : r.Fits depth ms where
  depth_lt := hdepth
  member := hmember
  once {name _} _ := by
    have hcount := List.nodup_iff_count.mp hkeys (.name name)
    rw [List.count, List.countP_map, List.countP_eq_length_filter] at hcount
    exact hcount
  required := hrequired

end Record

/-- The laws of the operations. -/
structure Library.Laws (lib : Library) : Prop where
  firstOf_eq : ∀ {α : Type} (shapes : List (Json → Option α)) (j : Json),
    lib.firstOf shapes j = shapes.findSome? fun shape => shape j
  /-- Only objects and arrays are records. -/
  object_or_array : ∀ {r : Record} {depth : Nat} {j : Json} {given : Fields}, lib.fields r depth j = .ok given →
    (∃ ms stop, j = .object ms stop) ∨ ∃ items stop, j = .array items stop
  fits_of_object : ∀ {r : Record} {depth : Nat} {ms : List (Key × Json)} {stop : Option Break} {given : Fields},
    lib.fields r depth (.object ms stop) = .ok given → r.Fits depth ms
  /-- A field gets the value of the member with its name, and nothing if that is missing. -/
  lookup_of_object : ∀ {r : Record} {depth : Nat} {ms : List (Key × Json)} {stop : Option Break} {given : Fields},
    lib.fields r depth (.object ms stop) = .ok given →
      ∀ name, given.lookup name = (r.field? name).bind fun _ => ms.lookup (.name name)
  exists_of_fits : ∀ {r : Record} {depth : Nat} {ms : List (Key × Json)}, r.Fits depth ms →
    ∃ given, lib.fields r depth (.object ms none) = .ok given
  /-- The elements of an array go to the fields in the order of their declaration. -/
  lookup_of_array : ∀ {r : Record} {depth : Nat} {items : List Json} {stop : Option Break} {given : Fields},
    lib.fields r depth (.array items stop) = .ok given → (r.fields.map (·.name)).Nodup →
      ∀ (i : Nat) (f : Field), r.fields[i]? = some f → given.lookup f.name = items[i]?
  /-- Only fields with a default may lie behind the end of an array. -/
  lt_length_of_array : ∀ {r : Record} {depth : Nat} {items : List Json} {stop : Option Break} {given : Fields},
    lib.fields r depth (.array items stop) = .ok given →
      ∀ (i : Nat) (f : Field), r.fields[i]? = some f → f.absence ≠ .defaulted → i < items.length
  exists_of_array : ∀ {r : Record} {depth : Nat} {items : List Json}, depth < maxDepth →
    List.Forall₂ (fun f j => f.check (depth + 1) j = .ok ()) r.fields items →
      ∃ given, lib.fields r depth (.array items none) = .ok given

/-! ## Texts -/

/-- Nothing but blanks stands behind the tree. -/
def Library.Holds (lib : Library) (source : String) (j : Json) : Prop :=
  ∃ rest, lib.parse source = (j, some rest) ∧ skipBlanks rest = []

theorem Library.Holds.decode_eq {α : Type} {lib : Library} {source : String} {j : Json} (h : lib.Holds source j)
    (d : Decoder α) : lib.decode d source = d 0 j := by
  obtain ⟨rest, hparse, hblank⟩ := h
  unfold decode
  rw [hparse]
  simp only [Option.map_some, hblank]
  exact bind_pure (d 0 j)

/-! ## Objects -/

namespace Record

variable {r : Record} {depth : Nat} {seen given : Fields} {ms : List (Key × Json)} {name : String} {f : Field}

theorem ne_of_field? {s : String} (hname : r.field? name = some f) (hs : r.field? s = none) : name ≠ s := by
  rintro rfl
  rw [hname] at hs
  cases hs

/-- The members that have been taken after `seen`. -/
inductive Takes (r : Record) (depth : Nat) : Fields → List (Key × Json) → Fields → Prop
  | nil (seen : Fields) : Takes r depth seen [] seen
  | unknown {seen given : Fields} {name : String} {j : Json} {ms : List (Key × Json)} :
      r.field? name = none → pass j = .ok () → Takes r depth seen ms given →
        Takes r depth seen ((.name name, j) :: ms) given
  | known {seen given : Fields} {name : String} {f : Field} {j : Json} {ms : List (Key × Json)} :
      r.field? name = some f → seen.lookup name = none → f.check depth j = .ok () →
        Takes r depth ((name, j) :: seen) ms given → Takes r depth seen ((.name name, j) :: ms) given

theorem members_eq_ok_iff : r.members depth seen ms = .ok given ↔ r.Takes depth seen ms given := by
  constructor
  · intro h
    induction ms generalizing seen with
    | nil =>
      cases h
      exact .nil given
    | cons m ms ih =>
      obtain ⟨k, j⟩ := m
      rw [members] at h
      obtain ⟨name, hname, hmember⟩ := bind_eq_ok h
      cases k with
      | lone => cases hname
      | unread b => cases hname
      | name s =>
        cases hname
        split at hmember
        · rename_i hfield
          obtain ⟨⟨⟩, hpass, hrest⟩ := bind_eq_ok hmember
          exact .unknown hfield hpass (ih hrest)
        · rename_i f hfield
          split at hmember
          · cases hmember
          · rename_i hseen
            obtain ⟨⟨⟩, hcheck, hrest⟩ := bind_eq_ok hmember
            exact .known hfield (Option.not_isSome_iff_eq_none.mp hseen) hcheck (ih hrest)
  · intro h
    induction h with
    | nil seen => rfl
    | unknown hfield hpass _ ih =>
      rw [members]
      simp only [Key.text, bind, Except.bind, hfield, hpass]
      exact ih
    | known hfield hseen hcheck _ ih =>
      rw [members]
      simp only [Key.text, bind, Except.bind, hfield, hseen, hcheck, Option.isSome_none, Bool.false_eq_true, if_false]
      exact ih

namespace Takes

theorem member (h : r.Takes depth seen ms given) : ∀ m ∈ ms, ∃ name, m.1 = .name name ∧
    (r.field? name).elim (pass m.2) (fun f => f.check depth m.2) = .ok () := by
  induction h with
  | nil => exact fun _ hm => nomatch hm
  | @unknown _ _ name j _ hfield hpass _ ih =>
    refine List.forall_mem_cons.mpr ⟨⟨name, rfl, ?_⟩, ih⟩
    rw [hfield]
    exact hpass
  | @known _ _ name f j _ hfield _ hcheck _ ih =>
    refine List.forall_mem_cons.mpr ⟨⟨name, rfl, ?_⟩, ih⟩
    rw [hfield]
    exact hcheck

/-- What has been taken stays, and is not given again. -/
theorem lookup_of_seen {j : Json} (h : r.Takes depth seen ms given) (hfield : r.field? name = some f)
    (hseen : seen.lookup name = some j) :
    given.lookup name = some j ∧ (ms.filter (·.1 = .name name)).length = 0 := by
  induction h with
  | nil => exact ⟨hseen, rfl⟩
  | unknown hnone _ _ ih =>
    rw [filter_name_cons_of_ne (ne_of_field? hfield hnone)]
    exact ih hseen
  | @known seen _ s _ i _ _ hnew _ _ ih =>
    have hne : name ≠ s := by
      rintro rfl
      rw [hseen] at hnew
      cases hnew
    rw [filter_name_cons_of_ne hne]
    exact ih ((lookup_cons_of_ne hne i seen).trans hseen)

theorem lookup_of_unknown (h : r.Takes depth seen ms given) (hfield : r.field? name = none) :
    given.lookup name = seen.lookup name := by
  induction h with
  | nil => rfl
  | unknown _ _ _ ih => exact ih
  | known hsome _ _ _ ih => rw [ih, lookup_cons_of_ne (ne_of_field? hsome hfield).symm]

/-- A field that has not been taken is given once at most, and gets what it is given. -/
theorem lookup_of_new (h : r.Takes depth seen ms given) (hfield : r.field? name = some f)
    (hseen : seen.lookup name = none) :
    given.lookup name = ms.lookup (.name name) ∧ (ms.filter (·.1 = .name name)).length ≤ 1 := by
  induction h with
  | nil => exact ⟨hseen, Nat.zero_le 1⟩
  | unknown hnone _ _ ih =>
    have hne := ne_of_field? hfield hnone
    rw [lookup_name_cons_of_ne hne, filter_name_cons_of_ne hne]
    exact ih hseen
  | @known seen _ s _ j _ _ _ _ hrest ih =>
    by_cases hs : name = s
    · subst hs
      obtain ⟨hgiven, hnone⟩ := hrest.lookup_of_seen hfield List.lookup_cons_self
      rw [List.lookup_cons_self, filter_name_cons_self, List.length_cons, hnone]
      exact ⟨hgiven, Nat.le_refl 1⟩
    · rw [lookup_name_cons_of_ne hs, filter_name_cons_of_ne hs]
      exact ih ((lookup_cons_of_ne hs j seen).trans hseen)

end Takes

/-- Members with known names that come once, and behind nothing of the same name, can all be taken. -/
theorem exists_takes (hmember : ∀ m ∈ ms, ∃ name, m.1 = .name name ∧
      (r.field? name).elim (pass m.2) (fun f => f.check depth m.2) = .ok ())
    (honce : ∀ name f, r.field? name = some f →
      (ms.filter (·.1 = .name name)).length + (if (seen.lookup name).isSome then 1 else 0) ≤ 1) :
    ∃ given, r.Takes depth seen ms given := by
  induction ms generalizing seen with
  | nil => exact ⟨seen, .nil seen⟩
  | cons m ms ih =>
    obtain ⟨⟨name, hname, hmember⟩, hrest⟩ := List.forall_mem_cons.mp hmember
    obtain ⟨k, j⟩ := m
    obtain rfl : k = .name name := hname
    have hshorter (s : String) : (ms.filter (·.1 = .name s)).length ≤
        (((.name name, j) :: ms).filter (·.1 = .name s)).length :=
      ((List.sublist_cons_self _ _).filter _).length_le
    cases hfield : r.field? name with
    | none =>
      rw [hfield] at hmember
      obtain ⟨given, hgiven⟩ := ih hrest fun s f hs =>
        Nat.le_trans (Nat.add_le_add_right (hshorter s) _) (honce s f hs)
      exact ⟨given, .unknown hfield hmember hgiven⟩
    | some f =>
      rw [hfield] at hmember
      have hfirst := honce name f hfield
      rw [filter_name_cons_self, List.length_cons] at hfirst
      have hnew : seen.lookup name = none := by
        rw [← Option.not_isSome_iff_eq_none]
        intro hsome
        rw [if_pos hsome] at hfirst
        omega
      have honceLater : ∀ s f', r.field? s = some f' → (ms.filter (·.1 = .name s)).length +
          (if (List.lookup s ((name, j) :: seen)).isSome then 1 else 0) ≤ 1 := by
        intro s f' hs
        by_cases heq : s = name
        · subst heq
          rw [List.lookup_cons_self, if_pos Option.isSome_some]
          omega
        · rw [lookup_cons_of_ne heq]
          exact Nat.le_trans (Nat.add_le_add_right (hshorter s) _) (honce s f' hs)
      obtain ⟨given, hgiven⟩ := ih hrest honceLater
      exact ⟨given, .known hfield hnew hmember hgiven⟩

theorem exists_field?_of_mem_required (h : name ∈ r.required) : ∃ f, r.field? name = some f := by
  obtain ⟨f, hf, rfl⟩ := List.mem_map.mp h
  rw [← Option.isSome_iff_exists, field?, List.find?_isSome]
  exact ⟨f, List.mem_of_mem_filter hf, by simp⟩

theorem find?_missing_eq_none_iff :
    (r.fields.find? fun f => f.absence = .required && (given.lookup f.name).isNone) = none ↔
      ∀ name ∈ r.required, given.lookup name ≠ none := by
  simp only [required, List.find?_eq_none, List.forall_mem_map, List.mem_filter, Bool.and_eq_true, decide_eq_true_eq,
    Option.isNone_iff_eq_none, not_and, and_imp, ne_eq]

theorem read_object_eq_ok_iff {stop : Option Break} : r.read depth (.object ms stop) = .ok given ↔
    depth < maxDepth ∧ stop = none ∧ r.Takes (depth + 1) [] ms given ∧
      ∀ name ∈ r.required, given.lookup name ≠ none := by
  rw [← find?_missing_eq_none_iff, ← members_eq_ok_iff]
  constructor
  · intro h
    obtain ⟨inside, henter, hmembers⟩ := bind_eq_ok h
    obtain ⟨hdepth, rfl⟩ := enter_eq_ok henter
    obtain ⟨taken, htaken, hclose⟩ := bind_eq_ok hmembers
    obtain ⟨⟨⟩, hstop, hfull⟩ := bind_eq_ok hclose
    cases stop with
    | some b => cases hstop
    | none =>
      split at hfull
      · cases hfull
      · rename_i hnone
        cases hfull
        exact ⟨hdepth, rfl, htaken, hnone⟩
  · rintro ⟨hdepth, rfl, htaken, hnone⟩
    unfold read
    simp only [enter_of_lt hdepth, bind, Except.bind, htaken, close, hnone]
    rfl

/-! ## Arrays -/

variable {fs : List Field} {js : List Json} {stop : Option Break} {position : Nat}

theorem items_cons_eq_ok {j : Json} (h : r.items depth position seen (f :: fs) (j :: js) stop = .ok given) :
    r.items depth (position + 1) ((f.name, j) :: seen) fs js stop = .ok given := by
  obtain ⟨-, -, hrest⟩ := bind_eq_ok h
  exact hrest

/-- The fields behind the end of an array are those that have a default. -/
theorem items_nil_eq_ok (h : r.items depth position seen (f :: fs) [] stop = .ok given) :
    r.items depth (position + 1) seen fs [] stop = .ok given := by
  cases stop with
  | some b => cases h
  | none =>
    rw [items] at h
    split at h
    · exact h
    · cases h

theorem lt_length_items (h : r.items depth position seen fs js stop = .ok given) {i : Nat} (hi : fs[i]? = some f)
    (hf : f.absence ≠ .defaulted) : i < js.length := by
  induction fs generalizing position seen js i with
  | nil => cases hi
  | cons g fs ih =>
    cases js with
    | nil =>
      cases i with
      | zero =>
        cases hi
        cases stop with
        | some b => cases h
        | none =>
          rw [items, if_neg hf] at h
          cases h
      | succ i => exact absurd (ih (items_nil_eq_ok h) (i := i) hi) (Nat.not_lt_zero i)
    | cons j js =>
      cases i with
      | zero => exact Nat.succ_pos _
      | succ i => exact Nat.succ_lt_succ (ih (items_cons_eq_ok h) hi)

theorem items_done_eq_ok (h : r.items depth position seen [] js stop = .ok given) : js = [] ∧ given = seen := by
  cases js with
  | cons j js => cases h
  | nil =>
    obtain ⟨-, -, hdone⟩ := bind_eq_ok h
    cases hdone
    exact ⟨rfl, rfl⟩

theorem lookup_items_of_not_mem (h : r.items depth position seen fs js stop = .ok given)
    (hname : name ∉ fs.map (·.name)) : given.lookup name = seen.lookup name := by
  induction fs generalizing position seen js with
  | nil => rw [(items_done_eq_ok h).2]
  | cons f fs ih =>
    obtain ⟨hne, hrest⟩ := List.ne_and_not_mem_of_not_mem_cons hname
    cases js with
    | nil => exact ih (items_nil_eq_ok h) hrest
    | cons j js => rw [ih (items_cons_eq_ok h) hrest, lookup_cons_of_ne hne]

theorem lookup_items (h : r.items depth position seen fs js stop = .ok given) (hnames : (fs.map (·.name)).Nodup)
    (hseen : ∀ g ∈ fs, seen.lookup g.name = none) {i : Nat} (hi : fs[i]? = some f) : given.lookup f.name = js[i]? := by
  induction fs generalizing position seen js i with
  | nil => cases hi
  | cons g fs ih =>
    obtain ⟨hnew, hrest⟩ := List.nodup_cons.mp hnames
    cases js with
    | nil =>
      cases i with
      | zero =>
        cases hi
        rw [lookup_items_of_not_mem (items_nil_eq_ok h) hnew]
        exact hseen f List.mem_cons_self
      | succ i => exact ih (items_nil_eq_ok h) hrest (fun e he => hseen e (List.mem_cons_of_mem _ he)) (i := i) hi
    | cons j js =>
      cases i with
      | zero =>
        cases hi
        rw [lookup_items_of_not_mem (items_cons_eq_ok h) hnew, List.lookup_cons_self]
        rfl
      | succ i =>
        refine ih (items_cons_eq_ok h) hrest (fun e he => ?_) hi
        have hne : e.name ≠ g.name := by
          intro heq
          exact hnew (List.mem_map.mpr ⟨e, he, heq⟩)
        rw [lookup_cons_of_ne hne]
        exact hseen e (List.mem_cons_of_mem _ he)

theorem exists_items (h : List.Forall₂ (fun f j => f.check depth j = .ok ()) fs js) (position : Nat) (seen : Fields) :
    ∃ given, r.items depth position seen fs js none = .ok given := by
  induction h generalizing position seen with
  | nil => exact ⟨seen, rfl⟩
  | @cons f j fs js hcheck _ ih =>
    obtain ⟨given, hgiven⟩ := ih (position + 1) ((f.name, j) :: seen)
    refine ⟨given, ?_⟩
    rw [items, hcheck]
    exact hgiven

end Record

/-! ## The standard library -/

theorem Library.standard_holds {source : String} {j : Json} (h : ofText source = (j, some [])) :
    standard.Holds source j := ⟨[], h, rfl⟩

theorem Library.standard_laws : standard.Laws where
  firstOf_eq _ _ := rfl
  object_or_array {r depth j given} h := by
    replace h : r.read depth j = .ok given := h
    unfold Record.read at h
    split at h
    · exact .inl ⟨_, _, rfl⟩
    · exact .inr ⟨_, _, rfl⟩
    · exact (unexpected_ne_ok _ _ _ h).elim
  fits_of_object h := by
    obtain ⟨hdepth, -, htaken, hfull⟩ := Record.read_object_eq_ok_iff.mp h
    refine ⟨hdepth, htaken.member, fun hfield => (htaken.lookup_of_new hfield rfl).2, fun name hname => ?_⟩
    obtain ⟨f, hfield⟩ := Record.exists_field?_of_mem_required hname
    obtain ⟨j, hj⟩ := Option.ne_none_iff_exists'.mp (hfull name hname)
    rw [(htaken.lookup_of_new hfield rfl).1, List.lookup_eq_some_iff] at hj
    obtain ⟨before, after, rfl, -⟩ := hj
    exact ⟨j, List.mem_append_right before List.mem_cons_self⟩
  lookup_of_object {r depth ms stop given} h name := by
    obtain ⟨-, -, htaken, -⟩ := Record.read_object_eq_ok_iff.mp h
    cases hfield : r.field? name with
    | none => exact htaken.lookup_of_unknown hfield
    | some f => exact (htaken.lookup_of_new hfield rfl).1
  exists_of_fits {r depth ms} h := by
    obtain ⟨given, hgiven⟩ : ∃ given, r.Takes (depth + 1) [] ms given :=
      Record.exists_takes h.member fun name f hfield => h.once hfield
    refine ⟨given, Record.read_object_eq_ok_iff.mpr ⟨h.depth_lt, rfl, hgiven, fun name hname hnone => ?_⟩⟩
    obtain ⟨f, hfield⟩ := Record.exists_field?_of_mem_required hname
    obtain ⟨j, hj⟩ := h.required name hname
    rw [(hgiven.lookup_of_new hfield rfl).1, List.lookup_eq_none_iff] at hnone
    simpa using hnone _ hj
  lookup_of_array {r depth items stop given} h hnames i f hi := by
    obtain ⟨inside, -, hitems⟩ := bind_eq_ok h
    exact Record.lookup_items hitems hnames (fun _ _ => rfl) hi
  lt_length_of_array {r depth items stop given} h i f hi hf := by
    obtain ⟨inside, -, hitems⟩ := bind_eq_ok h
    exact Record.lt_length_items hitems hi hf
  exists_of_array {r depth items} hdepth h := by
    obtain ⟨given, hgiven⟩ := Record.exists_items (r := r) h 0 []
    refine ⟨given, ?_⟩
    show (do r.items (← enter depth) 0 [] r.fields items none) = .ok given
    rw [enter_of_lt hdepth]
    exact hgiven

end BoundSql.Json

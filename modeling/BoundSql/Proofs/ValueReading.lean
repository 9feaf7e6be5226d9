import BoundSql.Document.Reading
import BoundSql.Proofs.JsonLaws

/-!
# Reading values

A value is taken in as a whole, and then the shapes are tried. Only an array of integers below 256 is a blob, and
an integer is taken for nothing else.
-/

namespace BoundSql

namespace Json

variable {depth : Nat} {items : List Json}

/-- The elements of an array of bytes. -/
def bytes (bs : List UInt8) : List Json := bs.map fun b => .number (.whole b.toNat)

theorem mapM_eq_some_iff_forall₂ {α β : Type} {f : α → Option β} {xs : List α} {ys : List β} :
    xs.mapM f = some ys ↔ List.Forall₂ (fun x y => f x = some y) xs ys := by
  induction xs generalizing ys with
  | nil =>
    rw [List.mapM_nil, List.forall₂_nil_left_iff, Option.pure_def, Option.some_inj]
    exact eq_comm
  | cons x xs ih =>
    rw [List.mapM_cons, List.forall₂_cons_left_iff]
    simp only [Option.bind_eq_bind, Option.bind_eq_some_iff, Option.pure_def, Option.some_inj, ih]
    constructor
    · rintro ⟨y, hy, ys', hys, rfl⟩
      exact ⟨y, ys', hy, hys, rfl⟩
    · rintro ⟨y, ys', hy, hys, rfl⟩
      exact ⟨y, hy, ys', hys, rfl⟩

theorem wholeItems_eq_ok (h : ∀ j ∈ items, whole depth j = .ok ()) :
    wholeItems depth items = .ok () := by
  induction items with
  | nil => rw [wholeItems]
  | cons j items ih =>
    obtain ⟨hj, hitems⟩ := List.forall_mem_cons.mp h
    rw [wholeItems, hj, ih hitems]
    rfl

theorem whole_array (hdepth : depth < maxDepth)
    (h : ∀ j ∈ items, whole (depth + 1) j = .ok ()) : whole depth (.array items none) = .ok () := by
  rw [whole, enter_of_lt hdepth]
  simp only [bind, Except.bind, wholeItems_eq_ok h]
  rfl

theorem anyOf_eq_ok_iff {α : Type} {name : String} {read? : Json → Option α} {j : Json} {a : α} :
    anyOf name read? depth j = .ok a ↔ whole depth j = .ok () ∧ read? j = some a := by
  constructor
  · intro h
    obtain ⟨⟨⟩, hwhole, h⟩ := bind_eq_ok h
    split at h
    · rename_i hread
      cases h
      exact ⟨hwhole, hread⟩
    · cases h
  · rintro ⟨hwhole, hread⟩
    unfold anyOf
    simp only [hwhole, bind, Except.bind, hread]

theorem read_of_mapM_anyOf {α : Type} {name : String} {read? : Json → Option α} {as : List α}
    (h : items.mapM (anyOf name read? depth) = .ok as) :
    (∀ j ∈ items, whole depth j = .ok ()) ∧ items.mapM read? = some as := by
  induction items generalizing as with
  | nil =>
    cases h
    exact ⟨nofun, rfl⟩
  | cons j items ih =>
    rw [List.mapM_cons] at h
    obtain ⟨a, ha, h⟩ := bind_eq_ok h
    obtain ⟨rest, hrest, h⟩ := bind_eq_ok h
    cases h
    obtain ⟨hwhole, hread⟩ := anyOf_eq_ok_iff.mp ha
    obtain ⟨hwholes, hreads⟩ := ih hrest
    rw [List.mapM_cons, hread, hreads]
    exact ⟨List.forall_mem_cons.mpr ⟨hwhole, hwholes⟩, rfl⟩

theorem list_array {α : Type} {d : Decoder α} {as : List α} (hdepth : depth < maxDepth)
    (h : items.mapM (d (depth + 1)) = .ok as) : list d depth (.array items none) = .ok as := by
  unfold list
  simp only [enter_of_lt hdepth, bind, Except.bind, h]
  rfl

end Json

namespace Value

variable {lib : Json.Library} {j : Json} {items : List Json} {stop : Option Json.Break} {bs : List UInt8}

theorem ofJson?_of_int? (laws : lib.Laws) {v : Value} (h : int? j = some v) : ofJson? lib j = some v := by
  have hnull : null? j = none := by
    cases j with
    | null => cases h
    | _ => rfl
  have hbool : bool? j = none := by
    cases j with
    | bool b => cases h
    | _ => rfl
  rw [ofJson?, laws.firstOf_eq]
  simp only [List.findSome?_cons, hnull, hbool, h]

theorem byte?_eq_some_iff {b : UInt8} : byte? j = some b ↔ j = .number (.whole b.toNat) := by
  have hb := b.toNat_lt
  constructor
  · intro h
    unfold byte? at h
    split at h
    · rename_i n
      split at h
      · rename_i hn
        cases h
        have hmod : n.toNat % 256 = n.toNat := Nat.mod_eq_of_lt (by omega)
        rw [Nat.toUInt8, UInt8.toNat_ofNat', hmod, Int.toNat_of_nonneg hn.1]
      · cases h
    · cases h
  · rintro rfl
    rw [byte?, if_pos (by omega), Int.toNat_natCast]
    exact congrArg some UInt8.ofNat_toNat

theorem mapM_byte?_eq_some_iff : items.mapM byte? = some bs ↔ items = Json.bytes bs := by
  rw [Json.mapM_eq_some_iff_forall₂, Json.bytes, ← List.forall₂_eq_eq_eq, List.forall₂_map_right_iff]
  simp only [byte?_eq_some_iff]

theorem ofJson?_array (laws : lib.Laws) : ofJson? lib (.array items stop) = .blob <$> items.mapM byte? := by
  rw [ofJson?, laws.firstOf_eq]
  show List.findSome? (fun shape => shape (.array items stop)) [blob?] = _
  rw [List.findSome?_singleton]
  rfl

/-- Only an array of bytes is a blob, and it is nothing else. -/
theorem ofJson?_eq_blob_iff (laws : lib.Laws) :
    ofJson? lib j = some (.blob bs) ↔ ∃ stop, j = .array (Json.bytes bs) stop := by
  constructor
  · intro h
    rw [ofJson?, laws.firstOf_eq] at h
    obtain ⟨shape, hshape, hread⟩ := List.exists_of_findSome?_eq_some h
    simp only [List.mem_cons, List.not_mem_nil, or_false] at hshape
    rcases hshape with rfl | rfl | rfl | rfl | rfl | rfl
    case inr.inr.inr.inr.inr =>
      unfold blob? at hread
      split at hread
      · rename_i items stop
        obtain ⟨bs', hbs, heq⟩ := Option.map_eq_some_iff.mp hread
        cases heq
        rw [mapM_byte?_eq_some_iff.mp hbs]
        exact ⟨stop, rfl⟩
      · cases hread
    case inr.inr.inl =>
      unfold int? at hread
      split at hread
      · split at hread <;> cases hread
      · cases hread
    -- every other shape has its own constructor
    all_goals
      cases j with
      | number n => cases n <;> cases hread
      | string s => cases s <;> cases hread
      | _ => cases hread
  · rintro ⟨stop, rfl⟩
    rw [ofJson?_array laws, mapM_byte?_eq_some_iff.mpr rfl]
    rfl

theorem whole_bytes {depth : Nat} (hdepth : depth < Json.maxDepth) :
    Json.whole depth (.array (Json.bytes bs) none) = .ok () := by
  apply Json.whole_array hdepth
  intro j hj
  obtain ⟨b, -, rfl⟩ := List.mem_map.mp hj
  rfl

theorem decoder_bytes (laws : lib.Laws) {depth : Nat} (hdepth : depth < Json.maxDepth) :
    decoder lib depth (.array (Json.bytes bs) none) = .ok (.blob bs) :=
  Json.anyOf_eq_ok_iff.mpr ⟨whole_bytes hdepth, (ofJson?_eq_blob_iff laws).mpr ⟨none, rfl⟩⟩

end Value

end BoundSql

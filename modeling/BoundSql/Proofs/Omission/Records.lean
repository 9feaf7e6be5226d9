import BoundSql.Proofs.Omission.Criteria

/-!
# Parts of documents with members left out

The orders, assignments, windows and lists of criteria that stand in a document, each with the members that it
can do without.
-/

namespace BoundSql

open Json (Fields Unchanged Remains Carries Each)

variable {lib : Json.Library} {j j' : Json} {depth : Nat}

/-! ## Orders and assignments -/

namespace Order

def Redundant (name : String) (j : Json) : Prop :=
  match name with
  | "column" => False
  | "descending" => j = .bool false
  | _ => True

def Thinner : Json → Json → Prop := Json.Thinner (fun _ => Redundant) Unchanged

theorem tolerates : record.Tolerates Redundant Unchanged where
  required := List.forall_mem_singleton.mpr fun _ => id
  within := .inl

theorem decoder_carries (laws : lib.Laws) (h : Thinner j j') :
    Carries Eq (decoder lib depth j) (decoder lib depth j') := by
  cases h with
  | same j => exact .refl (fun _ => rfl) _
  | object hthin =>
    apply (laws.fields_thinned tolerates hthin depth).bind
    intro given given' hremains
    refine (Fields.get_default (hremains "column") False.elim id).bind ?_
    rintro column _ rfl
    refine (Fields.get_default (hremains "descending") ?_ id).bind ?_
    · rintro _ rfl
      exact .pure rfl
    rintro descending _ rfl
    exact .pure rfl

theorem list_carries (laws : lib.Laws) (h : Each Thinner j j') :
    Carries Eq (Json.list (decoder lib) depth j) (Json.list (decoder lib) depth j') :=
  Json.list_carries_eq (decoder lib) (fun _ _ _ => decoder_carries laws) h depth

end Order

namespace Assignment

def Redundant (name : String) (_ : Json) : Prop :=
  match name with
  | "column" | "value" => False
  | _ => True

def Thinner : Json → Json → Prop := Json.Thinner (fun _ => Redundant) Unchanged

theorem tolerates : (record lib).Tolerates Redundant Unchanged where
  required := List.forall_mem_cons.mpr ⟨fun _ => id, List.forall_mem_singleton.mpr fun _ => id⟩
  within := .inl

theorem decoder_carries (laws : lib.Laws) (h : Thinner j j') :
    Carries Eq (decoder lib depth j) (decoder lib depth j') := by
  cases h with
  | same j => exact .refl (fun _ => rfl) _
  | object hthin =>
    apply (laws.fields_thinned tolerates hthin depth).bind
    intro given given' hremains
    refine (Fields.get_default (hremains "column") False.elim id).bind ?_
    rintro column _ rfl
    refine (Fields.get_default (hremains "value") False.elim id).bind ?_
    rintro value _ rfl
    exact .pure rfl

theorem list_carries (laws : lib.Laws) (h : Each Thinner j j') :
    Carries Eq (Json.list (decoder lib) depth j) (Json.list (decoder lib) depth j') :=
  Json.list_carries_eq (decoder lib) (fun _ _ _ => decoder_carries laws) h depth

end Assignment

/-! ## Windows -/

namespace Window

def Redundant (name : String) (j : Json) : Prop :=
  match name with
  | "alias" | "row_alias" | "order_by" => False
  | "function" => j = .string (some "row_number")
  | "min" | "max" => ∃ n < 0, j = .number (.whole n)
  | _ => True

def Thinner : Json → Json → Prop := Json.Thinner (fun _ => Redundant) Unchanged

/-- Two bounds that are the same, or are both absent. -/
def SameBound (a a' : Int64) : Prop := a' = a ∨ a < 0 ∧ a' < 0

/-- Two windows that paginate in the same way. -/
def Alike (w w' : Window) : Prop := ∀ s : Select, s.window w' = s.window w

theorem tolerates : record.Tolerates Redundant Unchanged where
  required := List.forall_mem_cons.mpr ⟨fun _ => id,
    List.forall_mem_cons.mpr ⟨fun _ => id, List.forall_mem_singleton.mpr fun _ => id⟩⟩
  within := .inl

theorem bound_carries (h : ∃ n < 0, j = .number (.whole n)) :
    Carries SameBound (Json.integer64 depth j) (.ok (-1)) := by
  obtain ⟨n, hn, rfl⟩ := h
  unfold Json.integer64
  dsimp only
  split
  · rename_i hrange
    obtain ⟨hmin, hmax⟩ := hrange
    apply Carries.pure
    refine .inr ⟨?_, by decide⟩
    rw [Int64.lt_iff_toInt_lt, Int64.toInt_ofInt_of_le hmin hmax]
    exact hn
  · intro a ha
    cases ha

theorem SameBound.given_eq {a a' : Int64} (h : SameBound a a') (g : Int64 → List Fragment) :
    (if 0 ≤ a' then g a' else []) = if 0 ≤ a then g a else [] := by
  rcases h with rfl | ⟨ha, ha'⟩
  · rfl
  · rw [if_neg (Int64.not_le.mpr ha), if_neg (Int64.not_le.mpr ha')]

theorem alike_of_sameBound {w : Window} {min max : Int64} (hmin : SameBound w.min min) (hmax : SameBound w.max max) :
    Alike w { w with min, max } := by
  have hbounds : { w with min, max }.bounds = w.bounds := by
    unfold bounds
    exact congrArg₂ (· ++ ·) (hmin.given_eq fun a => [.text (w.rowAlias ++ " >= ?") ++ .bound (.int a)])
      (hmax.given_eq fun a => [.text (w.rowAlias ++ " < ?") ++ .bound (.int a)])
  intro s
  unfold Select.window predicate
  rw [hbounds]
  rfl

theorem get_bound_carries {given given' : Fields} {name : String}
    (h : Remains Redundant Unchanged name (given.lookup name) (given'.lookup name))
    (hname : ∀ {j}, Redundant name j → ∃ n < 0, j = .number (.whole n)) :
    Carries SameBound (given.get name (Json.integer64 depth) (.ok (-1)))
      (given'.get name (Json.integer64 depth) (.ok (-1))) := by
  apply Fields.get_remains h (.pure (.inl rfl))
  · intro j hout
    exact bound_carries (hname hout)
  · rintro j _ rfl
    exact .refl (fun _ => .inl rfl) _

theorem decoder_carries (laws : lib.Laws) (h : Thinner j j') :
    Carries Alike (decoder lib depth j) (decoder lib depth j') := by
  cases h with
  | same j => exact .refl (fun _ _ => rfl) _
  | object hthin =>
    apply (laws.fields_thinned tolerates hthin depth).bind
    intro given given' hremains
    refine (Fields.get_default (hremains "function") ?_ id).bind ?_
    · rintro _ rfl
      exact .pure rfl
    rintro numbering _ rfl
    refine (Fields.get_default (hremains "alias") False.elim id).bind ?_
    rintro tableAlias _ rfl
    refine (Fields.get_default (hremains "row_alias") False.elim id).bind ?_
    rintro rowAlias _ rfl
    refine (Fields.get_default (hremains "order_by") False.elim id).bind ?_
    rintro orderBy _ rfl
    refine (get_bound_carries (hremains "min") id).bind ?_
    intro min min' hmin
    refine (get_bound_carries (hremains "max") id).bind ?_
    intro max max' hmax
    exact .pure (alike_of_sameBound (w := ⟨numbering, tableAlias, rowAlias, orderBy, min, max⟩) hmin hmax)

theorem orNull_carries (laws : lib.Laws) (h : Thinner j j') :
    Carries (Option.Rel Alike) (Json.orNull (decoder lib) depth j) (Json.orNull (decoder lib) depth j') :=
  Json.orNull_carries (fun _ _ => rfl) h (decoder_carries laws h)

end Window

/-! ## Lists of criteria -/

namespace Criterion

/-- Two lists of criteria that stand for the same condition. -/
def AlikeLists (xs xs' : List Criterion) : Prop := condition xs' = condition xs

theorem list_carries (laws : lib.Laws) (h : Each (Thinner lib) j j') :
    Carries AlikeLists (Json.list (decoder lib) depth j) (Json.list (decoder lib) depth j') := by
  intro xs hxs
  obtain ⟨xs', hxs', halike⟩ :=
    Json.list_carries (decoder lib) (fun _ _ _ h => decoder_carries laws h) h depth xs hxs
  exact ⟨xs', hxs', addAll_alike halike .empty⟩

theorem get_carries (laws : lib.Laws) {Out : String → Json → Prop} {Within : String → Json → Json → Prop}
    {given given' : Fields} {name : String} (h : Remains Out Within name (given.lookup name) (given'.lookup name))
    (hout : ∀ {j}, Out name j → j = .array [] none) (hwithin : ∀ {j j'}, Within name j j' → Each (Thinner lib) j j') :
    Carries AlikeLists (given.get name (Json.list (decoder lib) depth) (.ok []))
      (given'.get name (Json.list (decoder lib) depth) (.ok [])) := by
  apply Fields.get_remains (S := AlikeLists) h (.pure rfl)
  · intro j ho
    rw [hout ho]
    exact Json.list_nil_carries (S := AlikeLists) rfl (decoder lib) depth
  · intro j j' hw
    exact list_carries laws (hwithin hw)

end Criterion

end BoundSql

import BoundSql.Proofs.ArrayReading

/-!
# Arrays of bytes

An array of bytes is one blob wherever a value is read: as the value that a column is set to, and as an element of
either operand of a filter. The objects around it may have their members in any order, and members that no one
knows among them.
-/

namespace BoundSql

open Json (Key Fields)

namespace Json

variable {known : List String} {Passed : Json → Prop} {given : Fields} {ms : List (Key × Json)}
variable {name : String} {j : Json}

def entries (given : Fields) : List (Key × Json) := given.map fun g => (.name g.1, g.2)

theorem filter_entries (hnames : (given.map (·.1)).Nodup) :
    (entries given).filter (·.1 = .name name) = (given.lookup name).toList.map fun j => (.name name, j) := by
  induction given with
  | nil => rfl
  | cons g given ih =>
    obtain ⟨s, j⟩ := g
    obtain ⟨hnew, hrest⟩ := List.nodup_cons.mp hnames
    rw [entries, List.map_cons, ← entries]
    by_cases hs : name = s
    · subst hs
      have hnone : given.lookup name = none := by
        rw [List.lookup_eq_none_iff]
        intro g hg
        rw [bne_iff_ne]
        rintro rfl
        exact hnew (List.mem_map.mpr ⟨g, hg, rfl⟩)
      rw [filter_name_cons_self, ih hrest, hnone, List.lookup_cons_self]
      rfl
    · rw [filter_name_cons_of_ne hs, lookup_cons_of_ne hs]
      exact ih hrest

/-- The given members in any order, with others among them whose names are not known. -/
def Spells (known : List String) (Passed : Json → Prop) (given : Fields) (ms : List (Key × Json)) : Prop :=
  ∃ more, ms.Perm (entries given ++ more) ∧ ∀ m ∈ more, ∃ s, m.1 = .name s ∧ s ∉ known ∧ Passed m.2

namespace Spells

theorem mem_of_given (h : Spells known Passed given ms) (hg : (name, j) ∈ given) : (.name name, j) ∈ ms := by
  obtain ⟨more, hperm, -⟩ := h
  rw [hperm.mem_iff]
  exact List.mem_append_left more (List.mem_map.mpr ⟨(name, j), hg, rfl⟩)

theorem cases_of_mem {m : Key × Json} (h : Spells known Passed given ms) (hm : m ∈ ms) :
    (∃ g ∈ given, (.name g.1, g.2) = m) ∨ ∃ s, m.1 = .name s ∧ s ∉ known ∧ Passed m.2 := by
  obtain ⟨more, hperm, hmore⟩ := h
  rcases List.mem_append.mp (hperm.mem_iff.mp hm) with hgiven | hrest
  · exact .inl (List.mem_map.mp hgiven)
  · exact .inr (hmore m hrest)

theorem filter_eq (h : Spells known Passed given ms) (hname : name ∈ known) (hnames : (given.map (·.1)).Nodup) :
    ms.filter (·.1 = .name name) = (given.lookup name).toList.map fun j => (.name name, j) := by
  obtain ⟨more, hperm, hmore⟩ := h
  have hnone : more.filter (·.1 = .name name) = [] := by
    rw [List.filter_eq_nil_iff]
    intro m hm heq
    obtain ⟨s, hs, hnew, -⟩ := hmore m hm
    rw [decide_eq_true_eq, hs, Key.name.injEq] at heq
    rw [heq] at hnew
    exact hnew hname
  have hfilter := hperm.filter (·.1 = .name name)
  rw [List.filter_append, hnone, List.append_nil, filter_entries hnames] at hfilter
  cases hlookup : given.lookup name with
  | none =>
    rw [hlookup] at hfilter
    exact List.perm_nil.mp hfilter
  | some j =>
    rw [hlookup] at hfilter
    exact List.perm_singleton.mp hfilter

/-- A name that is known is not given twice. -/
theorem once (h : Spells known Passed given ms) (hname : name ∈ known) (hnames : (given.map (·.1)).Nodup) :
    (ms.filter (·.1 = .name name)).length ≤ 1 := by
  rw [h.filter_eq hname hnames, List.length_map]
  exact Option.length_toList_le

theorem lookup_eq (h : Spells known Passed given ms) (hname : name ∈ known) (hnames : (given.map (·.1)).Nodup) :
    ms.lookup (.name name) = given.lookup name := by
  rw [lookup_eq_head?_filter, h.filter_eq hname hnames]
  cases given.lookup name <;> rfl

end Spells

theorem wholeMembers_eq_ok {depth : Nat} (h : ∀ m ∈ ms, ∃ s, m.1 = .name s ∧ whole depth m.2 = .ok ()) :
    wholeMembers depth ms = .ok () := by
  induction ms with
  | nil => rfl
  | cons m ms ih =>
    obtain ⟨⟨s, hs, hm⟩, hrest⟩ := List.forall_mem_cons.mp h
    obtain ⟨k, j⟩ := m
    obtain rfl : k = .name s := hs
    rw [wholeMembers, hm]
    exact ih hrest

theorem whole_object {depth : Nat} (hdepth : depth < maxDepth)
    (h : ∀ m ∈ ms, ∃ s, m.1 = .name s ∧ whole (depth + 1) m.2 = .ok ()) : whole depth (.object ms none) = .ok () := by
  rw [whole, enter_of_lt hdepth]
  simp only [bind, Except.bind, wholeMembers_eq_ok h]
  rfl

end Json

variable {lib : Json.Library} {depth : Nat} {bs : List UInt8} {items : List Json} {vs : List Value}
variable {ms : List (Key × Json)} {given : Fields} {j : Json}

/-! ## Values -/

namespace Value

/-- Elements with the array of some bytes among them, and the values that they are read as. -/
def BlobAmong (lib : Json.Library) (depth : Nat) (bs : List UInt8) (items : List Json) (vs : List Value) : Prop :=
  ∃ pre post us ws, items = pre ++ .array (Json.bytes bs) none :: post ∧ vs = us ++ .blob bs :: ws ∧
    pre.mapM (decoder lib depth) = .ok us ∧ post.mapM (decoder lib depth) = .ok ws

theorem BlobAmong.mapM_decoder (h : BlobAmong lib depth bs items vs) (laws : lib.Laws)
    (hdepth : depth < Json.maxDepth) : items.mapM (decoder lib depth) = .ok vs := by
  obtain ⟨pre, post, us, ws, rfl, rfl, hpre, hpost⟩ := h
  rw [List.mapM_append, List.mapM_cons, hpre, decoder_bytes laws hdepth, hpost]
  rfl

end Value

/-! ## Assignments -/

namespace Assignment

variable {column : String} {v : Value}

def known : List String := ["column", "value"]

theorem decoder_of_fields (hgiven : lib.fields (record lib) depth j = .ok given) {i : Json}
    (hcolumn : given.lookup "column" = some (.string (some column))) (hvalue : given.lookup "value" = some i)
    (hv : Value.decoder lib (depth + 1) i = .ok v) : decoder lib depth j = .ok ⟨column, v⟩ := by
  unfold decoder
  simp only [hgiven, bind, Except.bind, Fields.get, hcolumn, hvalue, hv, Json.text]
  rfl

theorem fits {i : Json} (hdepth : depth < Json.maxDepth) (hv : Value.decoder lib (depth + 1) i = .ok v)
    (hms : Json.Spells known (Json.pass · = .ok ()) [("column", .string (some column)), ("value", i)] ms) :
    (record lib).Fits depth ms where
  depth_lt := hdepth
  member m hm := by
    rcases hms.cases_of_mem hm with ⟨g, hg, rfl⟩ | ⟨s, hs, hnew, hpass⟩
    · refine ⟨g.1, rfl, ?_⟩
      rcases List.mem_cons.mp hg with rfl | hg
      · rfl
      · obtain rfl := List.mem_singleton.mp hg
        exact congrArg (Functor.map _) hv
    · refine ⟨s, hs, ?_⟩
      have hfield : (record lib).field? s = none := by
        unfold known at hnew
        simp only [List.mem_cons, List.not_mem_nil, or_false, not_or] at hnew
        simp [Json.Record.field?, record, Json.Field.of, Ne.symm hnew.1, Ne.symm hnew.2]
      rw [hfield]
      exact hpass
  once {name f} hfield := by
    have hname : name ∈ known := by
      have hsome := List.find?_some hfield
      rw [decide_eq_true_eq] at hsome
      rw [← hsome]
      exact List.mem_map.mpr ⟨f, List.mem_of_find?_eq_some hfield, rfl⟩
    exact hms.once hname (show known.Nodup by decide)
  required name hname := by
    rcases List.mem_cons.mp hname with rfl | hname
    · exact ⟨_, hms.mem_of_given List.mem_cons_self⟩
    · obtain rfl := List.mem_singleton.mp hname
      exact ⟨_, hms.mem_of_given (List.mem_cons_of_mem _ List.mem_cons_self)⟩

theorem decoder_object (laws : lib.Laws) {i : Json} (hdepth : depth < Json.maxDepth)
    (hv : Value.decoder lib (depth + 1) i = .ok v)
    (hms : Json.Spells known (Json.pass · = .ok ()) [("column", .string (some column)), ("value", i)] ms) :
    decoder lib depth (.object ms none) = .ok ⟨column, v⟩ := by
  obtain ⟨given, hgiven⟩ := laws.exists_of_fits (fits hdepth hv hms)
  have hcolumn := laws.lookup_of_mem hgiven rfl (hms.mem_of_given List.mem_cons_self)
  have hvalue := laws.lookup_of_mem hgiven rfl (hms.mem_of_given (List.mem_cons_of_mem _ List.mem_cons_self))
  exact decoder_of_fields hgiven hcolumn hvalue hv

theorem decoder_array (laws : lib.Laws) {i : Json} (hdepth : depth < Json.maxDepth)
    (hv : Value.decoder lib (depth + 1) i = .ok v) :
    decoder lib depth (.array [.string (some column), i] none) = .ok ⟨column, v⟩ := by
  have hchecks : List.Forall₂ (fun f j => f.check (depth + 1) j = .ok ()) (record lib).fields
      [.string (some column), i] := .cons rfl (.cons (congrArg (Functor.map _) hv) .nil)
  obtain ⟨given, hgiven⟩ := laws.exists_of_array hdepth hchecks
  have hnames : ((record lib).fields.map (·.name)).Nodup := show ["column", "value"].Nodup by decide
  exact decoder_of_fields hgiven (laws.lookup_of_array hgiven hnames 0 _ rfl)
    (laws.lookup_of_array hgiven hnames 1 _ rfl) hv

end Assignment

/-! ## Filters -/

namespace Criterion

variable {column op name : String} {value : Option Json} {f : Filter} {Passed : Json → Prop}

def known : List String := ["column", "op", "value", "values", "or", "group"]

theorem decoder_object (laws : lib.Laws) (hdepth : depth < Json.maxDepth)
    (hms : Json.Spells known (Json.whole (depth + 1) · = .ok ()) given ms) (hnames : (given.map (·.1)).Nodup)
    (hwhole : ∀ g ∈ given, Json.whole (depth + 1) g.2 = .ok ()) (hgroup : given.lookup "group" = none)
    (hf : filterOf? lib (given.lookup "column") (given.lookup "op") (given.lookup "value") (given.lookup "values")
      (given.lookup "or") = some f) : decoder lib depth (.object ms none) = .ok (.filter f) := by
  have honce (name : String) (hname : name ∈ known) : once? name ms = some (given.lookup name) :=
    once?_eq_some_iff.mpr ⟨hms.once hname hnames, hms.lookup_eq hname hnames⟩
  have hfilter : filter? lib (.object ms none) = some f :=
    filter?_object_eq_some_iff.mpr ⟨_, _, _, _, _, honce "column" (by decide), honce "op" (by decide),
      honce "value" (by decide), honce "values" (by decide), honce "or" (by decide), hf⟩
  refine Json.anyOf_eq_ok_iff.mpr ⟨Json.whole_object hdepth fun m hm => ?_, ?_⟩
  · rcases hms.cases_of_mem hm with ⟨g, hg, rfl⟩ | ⟨s, hs, -, hpassed⟩
    · exact ⟨g.1, rfl, hwhole g hg⟩
    · exact ⟨s, hs, hpassed⟩
  · rw [ofJson?_of_not_group laws (hgroup ▸ honce "group" (by decide)), hfilter]
    rfl

theorem decoder_array (hdepth : depth < Json.maxDepth) (hlength : items.length ≤ 5)
    (hwhole : ∀ j ∈ items, Json.whole (depth + 1) j = .ok ())
    (hf : filterOf? lib items[0]? items[1]? items[2]? items[3]? items[4]? = some f) :
    decoder lib depth (.array items none) = .ok (.filter f) := by
  refine Json.anyOf_eq_ok_iff.mpr ⟨Json.whole_array hdepth hwhole, ?_⟩
  rw [ofJson?, filter?, if_neg (Nat.not_lt_of_le hlength), hf]
  · rfl
  · intro members stop h
    cases h

theorem filterOf?_value (laws : lib.Laws) (h : items.mapM (Value.ofJson? lib) = some vs) :
    filterOf? lib (some (.string (some column))) (some (.string (some op))) (some (.array items none)) none none =
      some ⟨column, op, some (.list vs), none, .and⟩ := by
  refine filterOf?_eq_some_iff.mpr ⟨rfl, rfl, ?_, rfl, rfl⟩
  rw [orNull?, FilterOperand.ofJson?_array laws, h]
  · rfl
  · intro h
    cases h

theorem filterOf?_values (hvalue : orNull? (FilterOperand.ofJson? lib) value = some none)
    (h : items.mapM (Value.ofJson? lib) = some vs) :
    filterOf? lib (some (.string (some column))) (some (.string (some op))) value (some (.array items none)) none =
      some ⟨column, op, none, some vs, .and⟩ := by
  refine filterOf?_eq_some_iff.mpr ⟨rfl, rfl, hvalue, ?_, rfl⟩
  rw [orNull?, values?, h]
  · rfl
  · intro h
    cases h

theorem whole_text (depth : Nat) (s : String) : Json.whole depth (.string (some s)) = .ok () := by rw [Json.whole]

theorem whole_operand (hdepth : depth + 1 < Json.maxDepth) (h : items.mapM (Value.decoder lib (depth + 2)) = .ok vs) :
    Json.whole (depth + 1) (.array items none) = .ok () :=
  Json.whole_array hdepth (Json.read_of_mapM_anyOf h).1

theorem decoder_value (laws : lib.Laws) (hdepth : depth + 1 < Json.maxDepth)
    (h : items.mapM (Value.decoder lib (depth + 2)) = .ok vs)
    (hms : Json.Spells known (Json.whole (depth + 1) · = .ok ())
      [("column", .string (some column)), ("op", .string (some op)), ("value", .array items none)] ms) :
    decoder lib depth (.object ms none) = .ok (.filter ⟨column, op, some (.list vs), none, .and⟩) := by
  refine decoder_object laws (Nat.lt_of_succ_lt hdepth) hms (show ["column", "op", "value"].Nodup by decide) ?_ rfl
    (filterOf?_value laws (Json.read_of_mapM_anyOf h).2)
  exact List.forall_mem_cons.mpr ⟨whole_text _ _,
    List.forall_mem_cons.mpr ⟨whole_text _ _, List.forall_mem_singleton.mpr (whole_operand hdepth h)⟩⟩

theorem decoder_values (laws : lib.Laws) (hdepth : depth + 1 < Json.maxDepth)
    (h : items.mapM (Value.decoder lib (depth + 2)) = .ok vs)
    (hms : Json.Spells known (Json.whole (depth + 1) · = .ok ())
      [("column", .string (some column)), ("op", .string (some op)), ("values", .array items none)] ms) :
    decoder lib depth (.object ms none) = .ok (.filter ⟨column, op, none, some vs, .and⟩) := by
  refine decoder_object laws (Nat.lt_of_succ_lt hdepth) hms (show ["column", "op", "values"].Nodup by decide) ?_ rfl
    (filterOf?_values rfl (Json.read_of_mapM_anyOf h).2)
  exact List.forall_mem_cons.mpr ⟨whole_text _ _,
    List.forall_mem_cons.mpr ⟨whole_text _ _, List.forall_mem_singleton.mpr (whole_operand hdepth h)⟩⟩

theorem decoder_value_array (laws : lib.Laws) (hdepth : depth + 1 < Json.maxDepth)
    (h : items.mapM (Value.decoder lib (depth + 2)) = .ok vs) :
    decoder lib depth (.array [.string (some column), .string (some op), .array items none] none) =
      .ok (.filter ⟨column, op, some (.list vs), none, .and⟩) := by
  refine decoder_array (Nat.lt_of_succ_lt hdepth) (Nat.le_of_ble_eq_true rfl) ?_
    (filterOf?_value laws (Json.read_of_mapM_anyOf h).2)
  exact List.forall_mem_cons.mpr ⟨whole_text _ _,
    List.forall_mem_cons.mpr ⟨whole_text _ _, List.forall_mem_singleton.mpr (whole_operand hdepth h)⟩⟩

theorem decoder_values_array (hdepth : depth + 1 < Json.maxDepth)
    (h : items.mapM (Value.decoder lib (depth + 2)) = .ok vs) :
    decoder lib depth (.array [.string (some column), .string (some op), .null, .array items none] none) =
      .ok (.filter ⟨column, op, none, some vs, .and⟩) := by
  refine decoder_array (Nat.lt_of_succ_lt hdepth) (Nat.le_of_ble_eq_true rfl) ?_
    (filterOf?_values rfl (Json.read_of_mapM_anyOf h).2)
  exact List.forall_mem_cons.mpr ⟨whole_text _ _, List.forall_mem_cons.mpr ⟨whole_text _ _,
    List.forall_mem_cons.mpr ⟨rfl, List.forall_mem_singleton.mpr (whole_operand hdepth h)⟩⟩⟩

end Criterion

/-! ## Every place of a value -/

/-- The array of some bytes is one blob as the value that a column is set to, and as an element of either operand of a
filter, whether these are objects or arrays. -/
structure Json.Library.ReadsBlob (lib : Json.Library) (bs : List UInt8) : Prop where
  assignment : ∀ {depth : Nat} {column : String} {ms : List (Key × Json)}, depth + 1 < maxDepth →
    Spells Assignment.known (pass · = .ok ())
      [("column", .string (some column)), ("value", .array (bytes bs) none)] ms →
        Assignment.decoder lib depth (.object ms none) = .ok ⟨column, .blob bs⟩
  assignment_array : ∀ {depth : Nat} (column : String), depth + 1 < maxDepth →
    Assignment.decoder lib depth (.array [.string (some column), .array (bytes bs) none] none) = .ok ⟨column, .blob bs⟩
  value : ∀ {depth : Nat} {column op : String} {items : List Json} {vs : List Value} {ms : List (Key × Json)},
    depth + 2 < maxDepth → Value.BlobAmong lib (depth + 2) bs items vs →
      Spells Criterion.known (whole (depth + 1) · = .ok ())
        [("column", .string (some column)), ("op", .string (some op)), ("value", .array items none)] ms →
          Criterion.decoder lib depth (.object ms none) = .ok (.filter ⟨column, op, some (.list vs), none, .and⟩)
  value_array : ∀ {depth : Nat} (column op : String) {items : List Json} {vs : List Value},
    depth + 2 < maxDepth → Value.BlobAmong lib (depth + 2) bs items vs →
      Criterion.decoder lib depth (.array [.string (some column), .string (some op), .array items none] none) =
        .ok (.filter ⟨column, op, some (.list vs), none, .and⟩)
  values : ∀ {depth : Nat} {column op : String} {items : List Json} {vs : List Value} {ms : List (Key × Json)},
    depth + 2 < maxDepth → Value.BlobAmong lib (depth + 2) bs items vs →
      Spells Criterion.known (whole (depth + 1) · = .ok ())
        [("column", .string (some column)), ("op", .string (some op)), ("values", .array items none)] ms →
          Criterion.decoder lib depth (.object ms none) = .ok (.filter ⟨column, op, none, some vs, .and⟩)
  values_array : ∀ {depth : Nat} (column op : String) {items : List Json} {vs : List Value},
    depth + 2 < maxDepth → Value.BlobAmong lib (depth + 2) bs items vs →
      Criterion.decoder lib depth
          (.array [.string (some column), .string (some op), .null, .array items none] none) =
        .ok (.filter ⟨column, op, none, some vs, .and⟩)

theorem Json.Library.Laws.readsBlob (laws : lib.Laws) (bs : List UInt8) : lib.ReadsBlob bs where
  assignment hdepth hms :=
    Assignment.decoder_object laws (Nat.lt_of_succ_lt hdepth) (Value.decoder_bytes laws hdepth) hms
  assignment_array _ hdepth :=
    Assignment.decoder_array laws (Nat.lt_of_succ_lt hdepth) (Value.decoder_bytes laws hdepth)
  value hdepth hitems hms :=
    Criterion.decoder_value laws (Nat.lt_of_succ_lt hdepth) (hitems.mapM_decoder laws hdepth) hms
  value_array _ _ _ _ hdepth hitems :=
    Criterion.decoder_value_array laws (Nat.lt_of_succ_lt hdepth) (hitems.mapM_decoder laws hdepth)
  values hdepth hitems hms :=
    Criterion.decoder_values laws (Nat.lt_of_succ_lt hdepth) (hitems.mapM_decoder laws hdepth) hms
  values_array _ _ _ _ hdepth hitems :=
    Criterion.decoder_values_array (Nat.lt_of_succ_lt hdepth) (hitems.mapM_decoder laws hdepth)

/-- An array is read as the list of its elements where it is the operand of a filter, and as nothing else. So no
filter of a tree binds anything for it, while an array of bytes that stands elsewhere is one blob. -/
theorem FilterOperand.ofJson?_array_list_not_blob (laws : lib.Laws) :
    (∀ items stop, FilterOperand.ofJson? lib (.array items stop) = .list <$> items.mapM (Value.ofJson? lib)) ∧
      (∀ j, (∀ items stop, j ≠ .array items stop) → ∀ vs, FilterOperand.ofJson? lib j ≠ some (.list vs)) ∧
      (∀ j bs, FilterOperand.ofJson? lib j ≠ some (.scalar (.blob bs))) ∧
      (∀ depth j xs, Json.list (Criterion.decoder lib) depth j = .ok xs →
        List.Forall₂ (Filter.Takes lib) (Criterion.arrayLeaves lib j) (Criterion.allFilters xs) ∧
          ∀ c, Criterion.condition xs = .ok c → c.values = (Criterion.allFilters xs).flatMap Filter.given) ∧
      (∀ depth j a, Assignment.decoder lib depth j = .ok a →
        ∃ v, j.field? "value" 1 = some v ∧ Value.Elements lib [v] [a.value]) ∧
      ∀ bs, lib.ReadsBlob bs := by
  refine ⟨FilterOperand.ofJson?_array laws, ?other, FilterOperand.ofJson?_ne_blob laws, ?criteria, ?assignment,
    laws.readsBlob⟩
  case other =>
    intro j h vs hlist
    rw [FilterOperand.ofJson?_of_not_array laws h] at hlist
    obtain ⟨v, -, heq⟩ := Option.map_eq_some_iff.mp hlist
    cases heq
  case criteria =>
    intro depth j xs h
    exact ⟨Criterion.takes_of_list laws h, fun c hc => Criterion.values_condition hc⟩
  case assignment =>
    intro depth j a h
    exact Assignment.elements_of_decoder laws h

namespace Json

/-- An assignment, and two filters with the array among the elements of an operand. -/
def blobAssignment : List (Key × Json) :=
  [(.name "column", .string (some "a")), (.name "note", .null), (.name "value", .array (bytes [0, 255]) none)]

def blobOperand : List (Key × Json) :=
  [(.name "op", .string (some "in")), (.name "column", .string (some "a")),
    (.name "value", .array [.string (some "b"), .array (bytes [0, 255]) none] none), (.name "note", .null)]

def blobPair : Json :=
  .array [.string (some "a"), .string (some "between"), .null,
    .array [.array (bytes [0, 255]) none, .string (some "b")] none] none

end Json

theorem FilterOperand.ofJson?_array_list_not_blob_mixed :
    Json.Library.standard.Laws ∧
      FilterOperand.ofJson? .standard (.array (Json.bytes [0, 255]) none) = some (.list [.int 0, .int 255]) ∧
      FilterOperand.ofJson? .standard (.array (Json.bytes [0, 255]) none) ≠ some (.scalar (.blob [0, 255])) ∧
      FilterOperand.ofJson? .standard (.string (some "b")) ≠ some (.list [.text "b"]) ∧
      Assignment.decoder .standard 0 (.object Json.blobAssignment none) = .ok ⟨"a", .blob [0, 255]⟩ ∧
      (∃ v, (Json.object Json.blobAssignment none).field? "value" 1 = some v ∧
        Value.Elements .standard [v] [.blob [0, 255]]) ∧
      ∃ xs c,
        Json.list (Criterion.decoder .standard) 0 (.array [.object Json.blobOperand none, Json.blobPair] none) = .ok xs ∧
        xs = [.filter ⟨"a", "in", some (.list [.text "b", .blob [0, 255]]), none, .and⟩,
          .filter ⟨"a", "between", none, some [.blob [0, 255], .text "b"], .and⟩] ∧
        List.Forall₂ (Filter.Takes .standard) [.object Json.blobOperand none, Json.blobPair]
          (Criterion.allFilters xs) ∧
        Criterion.condition xs = .ok c ∧ c.values = [.blob [0, 255], .text "b"] := by
  obtain ⟨hlist, hother, hscalar, hcriteria, hassignment, hblob⟩ :=
    FilterOperand.ofJson?_array_list_not_blob Json.Library.standard_laws
  have htext : [Json.string (some "b")].mapM (Value.decoder .standard 3) = .ok [.text "b"] := rfl
  have hlast : Value.BlobAmong .standard 3 [0, 255] [.string (some "b"), .array (Json.bytes [0, 255]) none]
      [.text "b", .blob [0, 255]] := ⟨_, [], _, [], rfl, rfl, htext, rfl⟩
  have hfirst : Value.BlobAmong .standard 3 [0, 255] [.array (Json.bytes [0, 255]) none, .string (some "b")]
      [.blob [0, 255], .text "b"] := ⟨[], _, [], _, rfl, rfl, rfl, htext⟩
  have hset : Assignment.decoder .standard 0 (.object Json.blobAssignment none) = .ok ⟨"a", .blob [0, 255]⟩ := by
    refine (hblob [0, 255]).assignment (by decide) ⟨[(.name "note", .null)], ?_, ?_⟩
    · exact .cons _ (.swap _ _ _)
    · exact List.forall_mem_singleton.mpr ⟨"note", rfl, by decide, rfl⟩
  have hspells : Json.Spells Criterion.known (Json.whole 2 · = .ok ()) [("column", .string (some "a")),
      ("op", .string (some "in")), ("value", .array [.string (some "b"), .array (Json.bytes [0, 255]) none] none)]
      Json.blobOperand := by
    refine ⟨[(.name "note", .null)], ?_, ?_⟩
    · exact .swap _ _ _
    · exact List.forall_mem_singleton.mpr ⟨"note", rfl, by decide, rfl⟩
  have hoperand := (hblob [0, 255]).value (by decide) hlast hspells
  have hpair : Criterion.decoder .standard 1 Json.blobPair =
      .ok (.filter ⟨"a", "between", none, some [.blob [0, 255], .text "b"], .and⟩) :=
    (hblob [0, 255]).values_array "a" "between" (by decide) hfirst
  have hread : Json.list (Criterion.decoder .standard) 0 (.array [.object Json.blobOperand none, Json.blobPair] none) =
      .ok [.filter ⟨"a", "in", some (.list [.text "b", .blob [0, 255]]), none, .and⟩,
        .filter ⟨"a", "between", none, some [.blob [0, 255], .text "b"], .and⟩] := by
    apply Json.list_array (by decide)
    rw [List.mapM_cons, List.mapM_cons, List.mapM_nil, hoperand, hpair]
    rfl
  obtain ⟨htakes, hvalues⟩ := hcriteria 0 _ _ hread
  refine ⟨Json.Library.standard_laws, ?_, hscalar _ _, hother (.string (some "b")) nofun _, hset,
    hassignment 0 _ _ hset, _, _, hread, rfl, ?_, rfl, ?_⟩
  · rw [hlist]
    rfl
  · exact htakes
  · rw [hvalues _ rfl]
    rfl

end BoundSql

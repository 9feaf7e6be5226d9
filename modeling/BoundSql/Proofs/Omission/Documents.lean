import BoundSql.Proofs.Omission.Records

/-!
# Documents with members left out

A member that says what its absence would mean can be left out of a document, and so can a member that no one
looks at. The document can still be read and describes the same statement, or is refused with the same error.
-/

namespace BoundSql

open Json (Key Fields Remains Carries Each)

variable {lib : Json.Library} {j j' : Json} {depth : Nat}

namespace SelectDocument

/-- `limit` comes before `fetch`. -/
def Redundant (ms : List (Key × Json)) (name : String) (j : Json) : Prop :=
  match name with
  | "table" => False
  | "distinct" => j = .bool false
  | "fields" => j = .array [] none ∨ j = .array [.string (some "*")] none
  | "where" | "group_by" | "having" | "order_by" => j = .array [] none
  | "offset" | "limit" | "window" => j = .null
  | "fetch" => j = .null ∨ ∃ rows, (.name "limit", rows) ∈ ms ∧ rows ≠ .null
  | _ => True

def Within (lib : Json.Library) (name : String) (j j' : Json) : Prop :=
  match name with
  | "where" | "having" => Each (Criterion.Thinner lib) j j'
  | "order_by" => Each Order.Thinner j j'
  | "window" => Window.Thinner j j'
  | _ => j' = j

def Thinner (lib : Json.Library) : Json → Json → Prop := Json.Thinner Redundant (Within lib)

/-- The fields that are selected. -/
def shown (fields : List String) : List String := if fields.isEmpty then ["*"] else fields

/-- Two documents that describe the same statement. -/
structure Alike (d d' : SelectDocument) : Prop where
  table : d'.table = d.table
  distinct : d'.distinct = d.distinct
  fields : shown d'.fields = shown d.fields
  filters : Criterion.AlikeLists d.filters d'.filters
  groupBy : d'.groupBy = d.groupBy
  having : Criterion.AlikeLists d.having d'.having
  orderBy : d'.orderBy = d.orderBy
  offset : d'.offset = d.offset
  fetch : d'.fetch = d.fetch ∨ d.limit.isSome = true
  limit : d'.limit = d.limit
  window : Option.Rel Window.Alike d.window d'.window

variable {ms ms' : List (Key × Json)}

theorem tolerates (laws : lib.Laws) : (record lib).Tolerates (Redundant ms) (Within lib) where
  required := List.forall_mem_singleton.mpr fun _ => id
  within := by
    intro name j j' h
    unfold Within at h
    split at h
    · exact .inr ⟨_, rfl, fun _ => Json.Field.check_of (Criterion.list_carries laws h)⟩
    · exact .inr ⟨_, rfl, fun _ => Json.Field.check_of (Criterion.list_carries laws h)⟩
    · exact .inr ⟨_, rfl, fun _ => Json.Field.check_of (Order.list_carries laws h)⟩
    · exact .inr ⟨_, rfl, fun _ => Json.Field.check_of (Window.orNull_carries laws h)⟩
    · exact .inl h

theorem get_fields_carries {given given' : Fields}
    (h : Remains (Redundant ms) (Within lib) "fields" (given.lookup "fields") (given'.lookup "fields")) :
    Carries (fun a a' => shown a' = shown a) (given.get "fields" (Json.list Json.text depth) (.ok []))
      (given'.get "fields" (Json.list Json.text depth) (.ok [])) := by
  apply Fields.get_remains (S := fun a a' => shown a' = shown a) h (.pure rfl)
  · rintro j (rfl | rfl)
    · exact Json.list_nil_carries (S := fun a a' => shown a' = shown a) rfl Json.text depth
    · intro fields hfields
      cases Json.list_array_eq_ok hfields
      exact ⟨[], rfl, rfl⟩
  · rintro j _ rfl
    exact .refl (S := fun a a' => shown a' = shown a) (fun _ => rfl) _

def HasLimit (given : Fields) : Prop := ∃ rows, given.lookup "limit" = some rows ∧ rows ≠ .null

/-- Who has a limit does not look at the number of rows to fetch. -/
theorem get_fetch_carries {given given' : Fields}
    (h : Remains (Redundant ms) (Within lib) "fetch" (given.lookup "fetch") (given'.lookup "fetch"))
    (hlimit : ∀ rows, (.name "limit", rows) ∈ ms → given.lookup "limit" = some rows) :
    Carries (fun a a' => a' = a ∨ HasLimit given) (given.get "fetch" (Json.orNull Json.natural64 depth) (.ok none))
      (given'.get "fetch" (Json.orNull Json.natural64 depth) (.ok none)) := by
  apply Fields.get_remains h (.pure (.inl rfl))
  · rintro j (rfl | ⟨rows, hmem, hrows⟩)
    · exact .pure (.inl rfl)
    · intro a _
      exact ⟨none, rfl, .inr ⟨rows, hlimit rows hmem, hrows⟩⟩
  · rintro j _ rfl
    exact .refl (fun _ => .inl rfl) _

theorem get_limit_carries {given given' : Fields}
    (h : Remains (Redundant ms) (Within lib) "limit" (given.lookup "limit") (given'.lookup "limit")) :
    Carries (fun a a' => (HasLimit given → a.isSome = true) ∧ a = a')
      (given.get "limit" (Json.orNull Json.natural64 depth) (.ok none))
      (given'.get "limit" (Json.orNull Json.natural64 depth) (.ok none)) := by
  refine (Fields.get_default h ?_ id).and ?_
  · rintro _ rfl
    exact .pure rfl
  · rintro a ha ⟨rows, hrows, hnull⟩
    unfold Fields.get at ha
    rw [hrows] at ha
    exact Json.isSome_of_orNull ha hnull

theorem get_window_carries (laws : lib.Laws) {given given' : Fields}
    (h : Remains (Redundant ms) (Within lib) "window" (given.lookup "window") (given'.lookup "window")) :
    Carries (Option.Rel Window.Alike) (given.get "window" (Json.orNull (Window.decoder lib) depth) (.ok none))
      (given'.get "window" (Json.orNull (Window.decoder lib) depth) (.ok none)) := by
  apply Fields.get_remains h (.pure .none)
  · rintro _ rfl
    exact .pure .none
  · intro j j' hwithin
    exact Window.orNull_carries laws hwithin

theorem decoder_carries (laws : lib.Laws) (h : Thinner lib j j') :
    Carries Alike (decoder lib depth j) (decoder lib depth j') := by
  cases h with
  | same j =>
    apply Carries.refl
    intro d
    refine ⟨rfl, rfl, rfl, rfl, rfl, rfl, rfl, rfl, .inl rfl, rfl, ?_⟩
    cases d.window with
    | none => exact .none
    | some w => exact .some fun _ => rfl
  | @object ms ms' hthin =>
    have hread := (laws.fields_thinned (tolerates laws) hthin depth).and
      (P := fun given => ∀ rows, (.name "limit", rows) ∈ ms → given.lookup "limit" = some rows)
      fun given hgiven rows hmem => laws.lookup_of_mem hgiven rfl hmem
    refine hread.bind ?_
    rintro given given' ⟨hlimit, hremains⟩
    refine (Fields.get_default (hremains "table") False.elim id).bind ?_
    rintro table _ rfl
    refine (Fields.get_default (hremains "distinct") ?_ id).bind ?_
    · rintro _ rfl
      exact .pure rfl
    rintro distinct _ rfl
    refine (get_fields_carries (hremains "fields")).bind ?_
    intro fields fields' hfields
    refine (Criterion.get_carries laws (hremains "where") id id).bind ?_
    intro filters filters' hfilters
    refine (Fields.get_default (hremains "group_by") ?_ id).bind ?_
    · rintro _ rfl
      exact Json.list_nil_carries rfl Json.text _
    rintro groupBy _ rfl
    refine (Criterion.get_carries laws (hremains "having") id id).bind ?_
    intro having having' hhaving
    refine (Fields.get_remains (S := Eq) (hremains "order_by") (.pure rfl) ?_ ?_).bind ?_
    · rintro _ rfl
      exact Json.list_nil_carries rfl (Order.decoder lib) _
    · intro i i' horders
      exact Order.list_carries laws horders
    rintro orderBy _ rfl
    refine (Fields.get_default (hremains "offset") ?_ id).bind ?_
    · rintro _ rfl
      exact .pure rfl
    rintro offset _ rfl
    refine (get_fetch_carries (hremains "fetch") hlimit).bind ?_
    intro fetch fetch' hfetch
    refine (get_limit_carries (hremains "limit")).bind ?_
    rintro limit _ ⟨hgiven, rfl⟩
    refine (get_window_carries laws (hremains "window")).bind ?_
    intro window window' hwindow
    exact .pure ⟨rfl, rfl, hfields, hfilters, rfl, hhaving, rfl, rfl, hfetch.imp_right hgiven, rfl, hwindow⟩

variable {d d' : SelectDocument}

theorem Alike.source_eq (h : Alike d d') : d'.source = d.source := by
  have hfields := h.fields
  unfold shown at hfields
  unfold source
  rw [h.table, h.distinct, hfields]

theorem Alike.paginated_eq (h : Alike d d') : d'.paginated = d.paginated := by
  funext s
  unfold paginated
  rw [h.limit, h.offset]
  cases hlimit : d.limit with
  | some rows => rfl
  | none =>
    rcases h.fetch with hfetch | hgiven
    · rw [hfetch]
    · rw [hlimit] at hgiven
      cases hgiven

theorem Alike.select_eq (h : Alike d d') : d'.select = d.select := by
  have hfilters : Criterion.condition d'.filters = Criterion.condition d.filters := h.filters
  have hhaving : Criterion.condition d'.having = Criterion.condition d.having := h.having
  have hgrouped : d'.grouped = d.grouped := by
    unfold grouped
    rw [h.groupBy]
  have hordered : d'.ordered = d.ordered := by
    unfold ordered
    rw [h.orderBy]
  have hwindow := h.window
  unfold select
  rw [hfilters, hhaving, h.source_eq, hgrouped, hordered, h.paginated_eq]
  generalize d.window = w, d'.window = w' at hwindow ⊢
  cases hwindow with
  | none => rfl
  | some halike => simp only [halike _]

end SelectDocument

namespace UpdateDocument

def Redundant (name : String) (j : Json) : Prop :=
  match name with
  | "table" | "set" => False
  | "where" => j = .array [] none
  | _ => True

def Within (lib : Json.Library) (name : String) (j j' : Json) : Prop :=
  match name with
  | "set" => Each Assignment.Thinner j j'
  | "where" => Each (Criterion.Thinner lib) j j'
  | _ => j' = j

def Thinner (lib : Json.Library) : Json → Json → Prop := Json.Thinner (fun _ => Redundant) (Within lib)

theorem tolerates (laws : lib.Laws) : (record lib).Tolerates Redundant (Within lib) where
  required := List.forall_mem_cons.mpr ⟨fun _ => id, List.forall_mem_singleton.mpr fun _ => id⟩
  within := by
    intro name j j' h
    unfold Within at h
    split at h
    · exact .inr ⟨_, rfl, fun _ => Json.Field.check_of (Assignment.list_carries laws h)⟩
    · exact .inr ⟨_, rfl, fun _ => Json.Field.check_of (Criterion.list_carries laws h)⟩
    · exact .inl h

theorem decoder_carries (laws : lib.Laws) (h : Thinner lib j j') :
    Carries (fun d d' => d'.update = d.update) (decoder lib depth j) (decoder lib depth j') := by
  cases h with
  | same j =>
    apply Carries.refl
    intro d
    rfl
  | object hthin =>
    apply (laws.fields_thinned (tolerates laws) hthin depth).bind
    intro given given' hremains
    refine (Fields.get_default (hremains "table") False.elim id).bind ?_
    rintro table _ rfl
    refine (Fields.get_remains (S := Eq) (hremains "set") (.pure rfl) False.elim ?_).bind ?_
    · intro i i' hassignments
      exact Assignment.list_carries laws hassignments
    rintro assignments _ rfl
    refine (Criterion.get_carries laws (hremains "where") id id).bind ?_
    intro filters filters' hfilters
    have hcondition : Criterion.condition filters' = Criterion.condition filters := hfilters
    apply Carries.pure
    unfold update
    rw [hcondition]

end UpdateDocument

namespace DeleteDocument

def Redundant (name : String) (j : Json) : Prop :=
  match name with
  | "table" => False
  | "where" => j = .array [] none
  | _ => True

def Within (lib : Json.Library) (name : String) (j j' : Json) : Prop :=
  match name with
  | "where" => Each (Criterion.Thinner lib) j j'
  | _ => j' = j

def Thinner (lib : Json.Library) : Json → Json → Prop := Json.Thinner (fun _ => Redundant) (Within lib)

theorem tolerates (laws : lib.Laws) : (record lib).Tolerates Redundant (Within lib) where
  required := List.forall_mem_singleton.mpr fun _ => id
  within := by
    intro name j j' h
    unfold Within at h
    split at h
    · exact .inr ⟨_, rfl, fun _ => Json.Field.check_of (Criterion.list_carries laws h)⟩
    · exact .inl h

theorem decoder_carries (laws : lib.Laws) (h : Thinner lib j j') :
    Carries (fun d d' => d'.delete = d.delete) (decoder lib depth j) (decoder lib depth j') := by
  cases h with
  | same j =>
    apply Carries.refl
    intro d
    rfl
  | object hthin =>
    apply (laws.fields_thinned (tolerates laws) hthin depth).bind
    intro given given' hremains
    refine (Fields.get_default (hremains "table") False.elim id).bind ?_
    rintro table _ rfl
    refine (Criterion.get_carries laws (hremains "where") id id).bind ?_
    intro filters filters' hfilters
    have hcondition : Criterion.condition filters' = Criterion.condition filters := hfilters
    apply Carries.pure
    unfold delete
    rw [hcondition]

end DeleteDocument

namespace Document

def Thinner (lib : Json.Library) : StatementKind → Json → Json → Prop
  | .select => SelectDocument.Thinner lib
  | .update => UpdateDocument.Thinner lib
  | .delete => DeleteDocument.Thinner lib

/-- A document that can be read can be read without the members that say nothing, and describes the same statement
or is refused with the same error. -/
theorem statement_of_thinner (laws : lib.Laws) {kind : StatementKind} {source source' : String} {j' : Json}
    {d : Document} (hread : decode lib kind source = .ok d) (hthin : Thinner lib kind (lib.parse source).1 j')
    (hholds : lib.Holds source' j') : ∃ d', decode lib kind source' = .ok d' ∧ d'.statement = d.statement := by
  cases kind with
  | select =>
    have hcarries := Json.Library.decode_carries (SelectDocument.decoder_carries laws hthin) hholds
    apply hcarries.map (T := fun d d' => d'.statement = d.statement) ?_ d hread
    intro d d' halike
    exact congrArg (Select.fragment <$> ·) halike.select_eq
  | update =>
    have hcarries := Json.Library.decode_carries (UpdateDocument.decoder_carries laws hthin) hholds
    apply hcarries.map (T := fun d d' => d'.statement = d.statement) ?_ d hread
    intro d d' hupdate
    exact congrArg (Update.fragment <$> ·) hupdate
  | delete =>
    have hcarries := Json.Library.decode_carries (DeleteDocument.decoder_carries laws hthin) hholds
    apply hcarries.map (T := fun d d' => d'.statement = d.statement) ?_ d hread
    intro d d' hdelete
    exact congrArg (Delete.fragment <$> ·) hdelete

def page : String :=
  "\x7b\"table\":\"t\",\"where\":[\x7b\"group\":[" ++
    "\x7b\"column\":\"a\",\"op\":\"between\",\"values\":[1,2]\x7d" ++ "]\x7d],\"limit\":3\x7d"

/-- The same page with much that says nothing. -/
def wordyPage : String :=
  "\x7b\"table\":\"t\",\"fields\":[\"*\"],\"where\":[\x7b\"or\":false,\"note\":1,\"group\":[" ++
    "\x7b\"column\":\"a\",\"op\":\"between\",\"value\":7,\"values\":[1,2]\x7d" ++ "]\x7d],\"fetch\":9,\"limit\":3\x7d"

def range : List (Key × Json) := [(.name "values", .array [.number (.whole 1), .number (.whole 2)] none)]

/-- A filter by a pair, with some more members. -/
def between (more : List (Key × Json)) : Json :=
  .object ((.name "column", .string (some "a")) :: (.name "op", .string (some "between")) :: more) none

def pageTree : Json := .object [(.name "table", .string (some "t")),
  (.name "where", .array [.object [(.name "group", .array [between range] none)] none] none),
  (.name "limit", .number (.whole 3))] none

def wordyPageTree : Json := .object [(.name "table", .string (some "t")),
  (.name "fields", .array [.string (some "*")] none),
  (.name "where", .array [.object [(.name "or", .bool false), (.name "note", .number (.whole 1)),
    (.name "group", .array [between ((.name "value", .number (.whole 7)) :: range)] none)] none] none),
  (.name "fetch", .number (.whole 9)), (.name "limit", .number (.whole 3))] none

theorem ofText_page : Json.ofText page = (pageTree, some []) := by
  unfold Json.ofText page
  simp only [String.reduceAppend, String.reduceToList]
  rfl

set_option maxRecDepth 2048 in
theorem ofText_wordyPage : Json.ofText wordyPage = (wordyPageTree, some []) := by
  unfold Json.ofText wordyPage
  simp only [String.reduceAppend, String.reduceToList]
  rfl

theorem thinner_wordyPageTree : Thinner .standard .select wordyPageTree pageTree := by
  have hfilter : Criterion.Thinner .standard (between ((.name "value", .number (.whole 7)) :: range))
      (between range) := by
    refine .filter (by simp [range]) (.kept rfl (.kept rfl (.left (.inr ⟨"between", ?_, ?_⟩) (.kept rfl .nil))))
    · exact .tail _ (.head _)
    · decide
  refine .object (.kept rfl (.left (.inr rfl) (.kept (.array (.cons ?_ .nil)) (.left (.inr ?_) (.kept rfl .nil)))))
  · exact .group rfl (.cons hfilter .nil) (.left rfl (.left trivial (.kept ⟨rfl, rfl⟩ .nil)))
  · exact ⟨.number (.whole 3), by simp, nofun⟩

/-- What both pages say. -/
def pageStatement : Fragment := ⟨"SELECT * FROM t WHERE (a BETWEEN ? AND ?) LIMIT 3", [.int 1, .int 2]⟩

theorem statement_of_thinner_page :
    Json.Library.standard.Laws ∧ Thinner .standard .select (Json.Library.standard.parse wordyPage).1 pageTree ∧
      Json.Library.standard.Holds page pageTree ∧
      ∃ d d', decode .standard .select wordyPage = .ok d ∧ decode .standard .select page = .ok d' ∧
        d.statement = .ok pageStatement ∧ d'.statement = .ok pageStatement := by
  have hwordy := Json.Library.standard_holds ofText_wordyPage
  have hholds := Json.Library.standard_holds ofText_page
  have hthin : Thinner .standard .select (Json.Library.standard.parse wordyPage).1 pageTree := by
    obtain ⟨rest, hparse, -⟩ := hwordy
    rw [hparse]
    exact thinner_wordyPageTree
  obtain ⟨d, hd, hsql⟩ : ∃ d, decode .standard .select wordyPage = .ok d ∧ d.statement = .ok pageStatement := by
    rw [decode, hwordy.decode_eq]
    exact ⟨_, rfl, rfl⟩
  obtain ⟨d', hd', hstatement⟩ := statement_of_thinner Json.Library.standard_laws hd hthin hholds
  exact ⟨Json.Library.standard_laws, hthin, hholds, d, d', hd, hd', hsql, hstatement.trans hsql⟩

end Document

end BoundSql

import BoundSql.CommandLine
import BoundSql.Proofs.JsonReading
import BoundSql.Proofs.ValueReading

/-!
# Statements survive JSON

A value bears no mark of its kind in JSON. The kinds are tried in a fixed order, and the tree of a value
fits the kind that it was written for before it fits another one. Floating-point numbers are not considered
here.
-/

namespace BoundSql

open Json (Key Decoder maxDepth)

/-- The tree of a value, as it is read. -/
def Value.tree : Value → Json
  | null => .null
  | bool b => .bool b
  | int n => .number (.whole n.toInt)
  | float x => .number (.real x)
  | text s => .string (some s)
  | blob bytes => .array (bytes.map fun b => .number (.whole b.toNat)) none

namespace Json

theorem mapM_map_of_eq_pure {m : Type → Type} [Monad m] [LawfulMonad m] {α β : Type} {f : β → α} {g : α → m β}
    {xs : List β} (h : ∀ x ∈ xs, g (f x) = pure x) : (xs.map f).mapM g = pure xs := by
  induction xs with
  | nil => rfl
  | cons x xs ih =>
    obtain ⟨hx, hxs⟩ := List.forall_mem_cons.mp h
    rw [List.map_cons, List.mapM_cons, hx, ih hxs, pure_bind, pure_bind]

theorem list_map {α : Type} {d : Decoder α} {tree : α → Json} {depth : Nat} {xs : List α}
    (hdepth : depth < maxDepth) (h : ∀ x ∈ xs, d (depth + 1) (tree x) = .ok x) :
    list d depth (.array (xs.map tree) none) = .ok xs :=
  list_array hdepth (mapM_map_of_eq_pure h)

variable {s : Spacing}

theorem reads_writeValue (hs : s.IsBlank) (depth : Nat) {v : Value} (hv : v.isExact = true) :
    Reads (writeValue s depth v) v.tree := by
  cases v with
  | null => exact reads_null
  | bool b => exact reads_bool b
  | int n =>
    have hmin := n.le_toInt
    have hmax := n.toInt_lt
    exact reads_writeInt (by omega) (by omega)
  | float x => cases hv
  | text t => exact reads_writeText t
  | blob bytes =>
    refine reads_items hs depth bytes fun b _ => reads_toDigits ?_
    have hb := b.toNat_lt
    omega

end Json

namespace Value

variable {lib : Json.Library} {v : Value}

/-- An integer is tried before a floating-point number, and a text before the bytes of a blob. -/
theorem ofJson?_tree (laws : lib.Laws) (hv : v.isExact = true) : ofJson? lib v.tree = some v := by
  cases v with
  | int n =>
    have hmin := n.le_toInt
    have hmax := n.toInt_lt
    have hrange : -0x8000000000000000 ≤ n.toInt ∧ n.toInt < 0x8000000000000000 := by omega
    refine ofJson?_of_int? laws ?_
    rw [tree, int?, if_pos hrange, Int64.ofInt_toInt]
  | float x => cases hv
  | blob bytes => exact (ofJson?_eq_blob_iff laws).mpr ⟨none, rfl⟩
  | _ =>
    rw [ofJson?, laws.firstOf_eq]
    rfl

theorem whole_tree (v : Value) {depth : Nat} (hdepth : depth < maxDepth) :
    Json.whole depth v.tree = .ok () := by
  cases v with
  | blob bytes => exact whole_bytes hdepth
  | _ => rfl

theorem decoder_tree (laws : lib.Laws) (hv : v.isExact = true) {depth : Nat} (hdepth : depth < maxDepth) :
    decoder lib depth v.tree = .ok v :=
  Json.anyOf_eq_ok_iff.mpr ⟨v.whole_tree hdepth, ofJson?_tree laws hv⟩

end Value

namespace Fragment

/-- The members of a statement. -/
def members (f : Fragment) : List (Key × Json) :=
  [(.name "sql", .string (some f.sql)), (.name "values", .array (f.values.map Value.tree) none)]

def tree (f : Fragment) : Json := .object f.members none

variable {lib : Json.Library} {f : Fragment} {s : Json.Spacing}

theorem reads_writeStatement (hs : s.IsBlank) (hf : ∀ v ∈ f.values, v.isExact = true) :
    Json.Reads (Json.writeStatement s f) f.tree := by
  have hsql := Json.reads_writeText f.sql
  have hvalues := Json.reads_items hs 1 f.values fun v hv => Json.reads_writeValue hs 2 (hf v hv)
  exact Json.reads_members hs 0 [⟨"sql", _, _⟩, ⟨"values", _, _⟩]
    (List.forall_mem_cons.mpr ⟨hsql, List.forall_mem_singleton.mpr hvalues⟩)

theorem decoder_tree (laws : lib.Laws) (hf : ∀ v ∈ f.values, v.isExact = true) : decoder lib 0 f.tree = .ok f := by
  have hvalues : Json.list (Value.decoder lib) 1 (.array (f.values.map Value.tree) none) = .ok f.values :=
    Json.list_map (by decide) fun v hv => Value.decoder_tree laws (hf v hv) (by decide)
  have hcheck : (Json.Field.of "values" .required (Json.list (Value.decoder lib))).check 1
      (.array (f.values.map Value.tree) none) = .ok () := congrArg ((fun _ => ()) <$> ·) hvalues
  have hfits : (record lib).Fits 0 f.members := by
    refine .of_nodup (by decide) ?_ (by simp [members]) ?_
    · exact List.forall_mem_cons.mpr ⟨⟨"sql", rfl, rfl⟩, List.forall_mem_singleton.mpr ⟨"values", rfl, hcheck⟩⟩
    · refine List.forall_mem_cons.mpr ⟨⟨_, List.mem_cons_self⟩, List.forall_mem_singleton.mpr ⟨_, .tail _ (.head _)⟩⟩
  obtain ⟨given, hgiven⟩ := laws.exists_of_fits hfits
  have hsql : given.lookup "sql" = some (.string (some f.sql)) := laws.lookup_of_object hgiven "sql"
  have hlist : given.lookup "values" = some (.array (f.values.map Value.tree) none) :=
    laws.lookup_of_object hgiven "values"
  unfold decoder tree
  simp only [hgiven, bind, Except.bind, Json.Fields.get, hsql, hlist, hvalues]
  rfl

/-- A statement is decoded from every text whose tree it has, whoever reads the text. -/
theorem decode_of_parse (laws : lib.Laws) (hf : ∀ v ∈ f.values, v.isExact = true) {source : String} {r : List Char}
    (hparse : lib.parse source = (f.tree, some r)) (hr : Json.Blank r) :
    lib.decode (decoder lib) source = .ok f := by
  have hskip : Json.skipBlanks r = [] := by
    have happend := Json.skipBlanks_append hr []
    rwa [List.append_nil] at happend
  have hholds : lib.Holds source f.tree := ⟨r, hparse, hskip⟩
  rw [hholds.decode_eq, decoder_tree laws hf]

theorem ofJson_writeStatement (hs : s.IsBlank) (hf : ∀ v ∈ f.values, v.isExact = true) {r : List Char}
    (hr : Json.Blank r) : ofJson (String.ofList (Json.writeStatement s f ++ r)) = .ok f :=
  decode_of_parse Json.Library.standard_laws hf (Json.ofText_append (reads_writeStatement hs hf) hr) hr

/-- A statement without floating-point numbers is what its JSON says, on one line or over several, and what
the command line prints. -/
theorem ofJson_rendered (hf : ∀ v ∈ f.values, v.isExact = true) :
    ofJson f.toJson = .ok f ∧ ofJson (CommandLine.Format.json.render f) = .ok f ∧
      ofJson (CommandLine.Format.json.render f ++ "\n") = .ok f := by
  have hnil : Json.Blank [] := fun _ hc => nomatch hc
  have hnewline : Json.Blank ['\n'] := by
    intro c hc
    obtain rfl := List.mem_singleton.mp hc
    rfl
  have hcompact := ofJson_writeStatement Json.Spacing.isBlank_compact hf hnil
  have hpretty := ofJson_writeStatement Json.Spacing.isBlank_pretty hf hnil
  have hprinted := ofJson_writeStatement Json.Spacing.isBlank_pretty hf hnewline
  rw [List.append_nil] at hcompact hpretty
  rw [String.ofList_append] at hprinted
  exact ⟨hcompact, hpretty, hprinted⟩

/-- An integer at the limit, a text with quotes, a control character and a surrogate pair, and an empty blob. -/
def mixed : Fragment where
  sql := "SELECT \"é\"\n"
  values := [.null, .bool true, .int Int64.minValue, .text "'\\\"\x01😀", .text "", .blob [], .blob [0, 255]]

theorem ofJson_rendered_mixed :
    mixed.toJson = "\x7b\"sql\":\"SELECT \\\"é\\\"\\n\",\"values\":[null,true,-9223372036854775808," ++
        "\"'\\\\\\\"\\u0001😀\",\"\",[],[0,255]]\x7d" ∧
      (∀ v ∈ mixed.values, v.isExact = true) ∧ ofJson mixed.toJson = .ok mixed ∧
      ofJson (CommandLine.Format.json.render mixed) = .ok mixed := by
  have hexact : ∀ v ∈ mixed.values, v.isExact = true := List.all_eq_true.mp rfl
  obtain ⟨hcompact, hpretty, -⟩ := ofJson_rendered hexact
  exact ⟨by decide +kernel, hexact, hcompact, hpretty⟩

end Fragment

end BoundSql

import BoundSql.Json.Reader
import BoundSql.Json.Writer
import BoundSql.Text.Displayed

/-!
# Decoding JSON

A decoder walks a tree from left to right and fails at the first thing that is wrong. It knows the number
of arrays and objects around the value; values that are used may not lie deeper than `maxDepth`, values
that are passed over may.
-/

namespace BoundSql.Json

/-- The value found where another one was expected. -/
inductive Found where
  | null
  | bool (b : Bool)
  | whole (n : Int)
  | real (x : Float)
  | text (s : String)
  | sequence
  | map

def Found.describe : Found → String
  | null => "null"
  | bool b => "boolean `" ++ (if b then "true" else "false") ++ "`"
  | whole n => "integer `" ++ String.ofList (writeInt n) ++ "`"
  | real x => "floating point `" ++ layout.float x ++ "`"
  | text s => "string " ++ Text.displayed s
  | sequence => "sequence"
  | map => "map"

/-- How a well-formed value does not fit. -/
inductive Mismatch where
  | type (found : Found) (expected : String)
  | range (n : Int) (expected : String)
  | length (n : Nat) (expected : String)
  | missing (field : String)
  | duplicate (field : String)
  | variant (name : String) (known : List String)
  | noVariant (name : String)

def Mismatch.message : Mismatch → String
  | type found expected => "invalid type: " ++ found.describe ++ ", expected " ++ expected
  | range n expected =>
    "invalid value: integer `" ++ String.ofList (writeInt n) ++ "`, expected " ++ expected
  | length n expected => "invalid length " ++ n.repr ++ ", expected " ++ expected
  | missing field => "missing field `" ++ field ++ "`"
  | duplicate field => "duplicate field `" ++ field ++ "`"
  | variant name known =>
    "unknown variant `" ++ name ++ "`, expected " ++
      " or ".intercalate (known.map fun k => "`" ++ k ++ "`")
  | noVariant name => "data did not match any variant of untagged enum " ++ name

inductive ReadError where
  | fault (f : Fault)
  | mismatch (m : Mismatch)

abbrev Result := Except ReadError

def fault {α : Type} (f : Fault) : Result α := .error (.fault f)

def mismatch {α : Type} (m : Mismatch) : Result α := .error (.mismatch m)

/-- A decoder of values that have this many arrays and objects around them. -/
abbrev Decoder (α : Type) := Nat → Json → Result α

def maxDepth : Nat := 127

/-- The depth inside an array or object. -/
def enter (depth : Nat) : Result Nat :=
  if depth < maxDepth then .ok (depth + 1) else fault .malformed

/-- Fails at a break where the end was expected. -/
def close : Option Break → Result Unit
  | none => .ok ()
  | some b => fault b.read

/-- The failure of a decoder that expected something else. -/
def unexpected {α : Type} (expected : String) : Json → Result α
  | .null => mismatch (.type .null expected)
  | .bool b => mismatch (.type (.bool b) expected)
  | .number (.whole n) => mismatch (.type (.whole n) expected)
  | .number (.real x) => mismatch (.type (.real x) expected)
  | .number .huge => fault .malformed
  | .string (some s) => mismatch (.type (.text s) expected)
  | .string none => fault .malformed
  | .array _ _ => mismatch (.type .sequence expected)
  | .object _ _ => mismatch (.type .map expected)
  | .broken b => fault b.read

/-! ## Passing over values -/

mutual

/-- A value that is not used only has to end. -/
def pass : Json → Result Unit
  | .array items stop => do passItems items; (stop.map fun b => b.skip).elim (.ok ()) fault
  | .object members stop => do passMembers members; (stop.map fun b => b.skip).elim (.ok ()) fault
  | .broken b => fault b.skip
  | _ => .ok ()

def passItems : List Json → Result Unit
  | [] => .ok ()
  | j :: js => do pass j; passItems js

def passMembers : List (Key × Json) → Result Unit
  | [] => .ok ()
  | (.unread b, _) :: _ => fault b.skip
  | (_, j) :: ms => do pass j; passMembers ms

end

/-! ## Whole values -/

/-- The text of a key. -/
def Key.text : Key → Result String
  | name s => .ok s
  | lone => fault .malformed
  | unread b => fault b.read

mutual

/-- Fails at the first thing in a value that keeps it from being used, whatever it is used for. -/
def whole (depth : Nat) : Json → Result Unit
  | .null => .ok ()
  | .bool _ => .ok ()
  | .number .huge => fault .malformed
  | .number _ => .ok ()
  | .string none => fault .malformed
  | .string (some _) => .ok ()
  | .array items stop => do wholeItems (← enter depth) items; close stop
  | .object members stop => do wholeMembers (← enter depth) members; close stop
  | .broken b => fault b.read

def wholeItems (depth : Nat) : List Json → Result Unit
  | [] => .ok ()
  | j :: js => do whole depth j; wholeItems depth js

def wholeMembers (depth : Nat) : List (Key × Json) → Result Unit
  | [] => .ok ()
  | (k, j) :: ms => do let _ ← k.text; whole depth j; wholeMembers depth ms

end

/-- Decodes a value of one of several shapes: it is taken in as a whole, and then the shapes are tried. -/
def anyOf {α : Type} (name : String) (read? : Json → Option α) : Decoder α := fun depth j => do
  whole depth j
  match read? j with
  | some a => .ok a
  | none => mismatch (.noVariant name)

/-! ## Simple values -/

def text : Decoder String := fun _ j =>
  match j with
  | .string (some s) => .ok s
  | j => unexpected "a string" j

def boolean : Decoder Bool := fun _ j =>
  match j with
  | .bool b => .ok b
  | j => unexpected "a boolean" j

def natural64 : Decoder UInt64 := fun _ j =>
  match j with
  | .number (.whole n) =>
    if 0 ≤ n ∧ n < 0x10000000000000000 then .ok n.toNat.toUInt64 else mismatch (.range n "u64")
  | j => unexpected "u64" j

def integer64 : Decoder Int64 := fun _ j =>
  match j with
  | .number (.whole n) =>
    if -0x8000000000000000 ≤ n ∧ n < 0x8000000000000000 then .ok (Int64.ofInt n) else mismatch (.range n "i64")
  | j => unexpected "i64" j

/-- Null is an absent value. -/
def orNull {α : Type} (inner : Decoder α) : Decoder (Option α) := fun depth j =>
  match j with
  | .null => .ok none
  | j => some <$> inner depth j

def list {α : Type} (inner : Decoder α) : Decoder (List α) := fun depth j =>
  match j with
  | .array items stop => do
    let depth ← enter depth
    let elements ← items.mapM (inner depth)
    close stop
    return elements
  | j => unexpected "a sequence" j

/-- One of several names, as a text or as the only key of an object whose value is null. -/
def choice {α : Type} (options : List (String × α)) : Decoder α := fun depth j =>
  let named (name : String) : Result α :=
    match options.lookup name with
    | some a => .ok a
    | none => mismatch (.variant name (options.map (·.1)))
  match j with
  | .string (some s) => named s
  | .object members stop => do
    let _ ← enter depth
    match members with
    | [] => (close stop : Result Unit) >>= fun _ => fault .malformed
    | (k, j) :: rest =>
      let a ← k.text >>= named
      match j with
      | .null => pure ()
      | j => unexpected "unit" j
      if rest.isEmpty then close stop else fault .malformed
      return a
  | .broken b => fault b.name
  | _ => fault .malformed

/-! ## Records -/

/-- What the absence of a field means. -/
inductive Absence where
  | required
  /-- May be missing from an object. -/
  | optional
  /-- May be missing from an object, and from the end of an array. -/
  | defaulted
  deriving DecidableEq

/-- A field of a record, with what its value has to pass. -/
structure Field where
  name : String
  absence : Absence
  check : Nat → Json → Result Unit

def Field.of {α : Type} (name : String) (absence : Absence) (d : Decoder α) : Field :=
  ⟨name, absence, fun depth j => (fun _ => ()) <$> d depth j⟩

/-- A record is an object of its fields, or an array of them in the order of their declaration. -/
structure Record where
  name : String
  fields : List Field

/-- The fields of a record that are given, with their values. -/
abbrev Fields := List (String × Json)

namespace Record

def expected (r : Record) : String := "struct " ++ r.name

def field? (r : Record) (name : String) : Option Field := r.fields.find? (·.name = name)

/-- Unknown members are passed over. -/
def members (r : Record) (depth : Nat) (seen : Fields) : List (Key × Json) → Result Fields
  | [] => .ok seen
  | (k, j) :: ms => do
    let name ← k.text
    match r.field? name with
    | none =>
      pass j
      members r depth seen ms
    | some f =>
      if (seen.lookup name).isSome then mismatch (.duplicate name)
      else
        f.check depth j
        members r depth ((name, j) :: seen) ms

/-- `position` counts the fields that come before. -/
def items (r : Record) (depth position : Nat) (seen : Fields) :
    List Field → List Json → Option Break → Result Fields
  | [], [], stop => do close stop; return seen
  | [], _ :: _, _ => fault .malformed
  | f :: fs, j :: js, stop => do
    f.check depth j
    items r depth (position + 1) ((f.name, j) :: seen) fs js stop
  | _ :: _, [], some b => fault b.read
  | f :: fs, [], none =>
    if f.absence = .defaulted then items r depth (position + 1) seen fs [] none
    else mismatch (.length position (r.expected ++ " with " ++ r.fields.length.repr ++ " elements"))

def read (r : Record) : Decoder Fields := fun depth j =>
  match j with
  | .object members stop => do
    let depth ← enter depth
    let given ← r.members depth [] members
    close stop
    match r.fields.find? fun f => f.absence = .required && (given.lookup f.name).isNone with
    | some f => mismatch (.missing f.name)
    | none => return given
  | .array items stop => do r.items (← enter depth) 0 [] r.fields items stop
  | j => unexpected r.expected j

end Record

/-- The value of a field, or its default. -/
def Fields.get {α : Type} (given : Fields) (name : String) (d : Json → Result α) (default : Result α) :
    Result α :=
  match given.lookup name with
  | some j => d j
  | none => default

end BoundSql.Json

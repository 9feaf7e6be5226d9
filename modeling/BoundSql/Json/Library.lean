import BoundSql.Json.Decode

/-!
# What is asked of JSON

Values, criteria and documents are decoded with the help of three operations, whoever provides them.
`Library.standard` is what the program uses.
-/

namespace BoundSql.Json

structure Library where
  /-- Reads a text into a tree. -/
  parse : String → Json × Rest
  /-- The fields of a record that a tree gives. -/
  fields : Record → Decoder Fields
  /-- Reads a tree as one of several shapes. -/
  firstOf : {α : Type} → List (Json → Option α) → Json → Option α

/-- The first shape that fits. -/
def firstOf {α : Type} (shapes : List (Json → Option α)) (j : Json) : Option α :=
  shapes.findSome? fun shape => shape j

namespace Library

def standard : Library := ⟨ofText, Record.read, Json.firstOf⟩

/-- Decodes a whole text. -/
def decode {α : Type} (lib : Library) (d : Decoder α) (source : String) : Result α := do
  let (j, rest) := lib.parse source
  let a ← d 0 j
  match rest.map skipBlanks with
  | some (_ :: _) => fault .malformed
  | _ => return a

end Library

end BoundSql.Json

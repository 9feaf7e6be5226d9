import BoundSql.Json.Numeral
import BoundSql.Json.Text

/-!
# Reading JSON texts

Each reader takes the characters that are left and returns what it read together with the characters
behind it, or without any when it met a break.
-/

namespace BoundSql.Json

/-- The characters behind a value, if the value is whole. -/
abbrev Rest := Option (List Char)

def isBlank (c : Char) : Bool := c = ' ' || c = '\n' || c = '\t' || c = '\r'

def skipBlanks (cs : List Char) : List Char := cs.dropWhile isBlank

/-- The break before these characters: the text ends there, or something wrong follows. -/
def faultAt : List Char → Fault
  | [] => .unfinished
  | _ :: _ => .malformed

/-- Reads the rest of one of the three words. -/
def word (value : Json) : List Char → List Char → Json × Rest
  | [], cs => (value, some cs)
  | _ :: _, [] => (.broken ⟨.unfinished, .unfinished, .malformed⟩, none)
  | w :: ws, c :: cs => if c = w then word value ws cs else (.broken (.plain .malformed), none)

/-- The number as a value. -/
def readNumber (negative : Bool) (cs : List Char) : Json × Rest :=
  match numeral negative cs with
  | .ok (n, cs) => (.number n, some cs)
  | .error b => (.broken b, none)

mutual

/-- Reads a value. Every call on fewer characters has less fuel, two units for each character. -/
def read (fuel : Nat) (cs : List Char) : Json × Rest :=
  match fuel with
  | 0 => (.broken (.plain .unfinished), none)
  | fuel + 1 =>
    match skipBlanks cs with
    | 'n' :: cs => word .null "ull".toList cs
    | 't' :: cs => word (.bool true) "rue".toList cs
    | 'f' :: cs => word (.bool false) "alse".toList cs
    | '"' :: cs =>
      match characters [] false none cs with
      | .whole s cs => (.string s, some cs)
      | .cut b => (.broken b, none)
    | '[' :: cs =>
      match skipBlanks cs with
      | [] => (.array [] (some (.plain .unfinished)), none)
      | ']' :: cs => (.array [] none, some cs)
      | cs => readItems fuel [] cs
    | '{' :: cs =>
      match skipBlanks cs with
      | [] => (.object [] (some (.plain .unfinished)), none)
      | '}' :: cs => (.object [] none, some cs)
      | cs => readMembers fuel [] cs
    | '-' :: cs => readNumber true cs
    | c :: cs => if c.isDigit then readNumber false (c :: cs) else (.broken (.plain .malformed), none)
    | [] => (.broken (.plain .unfinished), none)

/-- Reads an element of an array and what follows it. -/
def readItems (fuel : Nat) (seen : List Json) (cs : List Char) : Json × Rest :=
  match fuel with
  | 0 => (.array seen.reverse (some (.plain .unfinished)), none)
  | fuel + 1 =>
    match read fuel cs with
    | (item, none) => (.array (item :: seen).reverse none, none)
    | (item, some cs) =>
      match skipBlanks cs with
      | ',' :: cs => readItems fuel (item :: seen) cs
      | ']' :: cs => (.array (item :: seen).reverse none, some cs)
      | cs => (.array (item :: seen).reverse (some (.plain (faultAt cs))), none)

/-- Reads a member of an object and what follows it. -/
def readMembers (fuel : Nat) (seen : List (Key × Json)) (cs : List Char) : Json × Rest :=
  let stop (key : Key) (b : Break) : Json × Rest :=
    (.object ((key, .broken b) :: seen).reverse none, none)
  let unread (b : Break) : Json × Rest := stop (.unread b) b
  match fuel with
  | 0 => unread (.plain .unfinished)
  | fuel + 1 =>
    match skipBlanks cs with
    | '"' :: cs =>
      match characters [] false none cs with
      | .cut b => unread b
      | .whole s cs =>
        let key := s.elim Key.lone Key.name
        match skipBlanks cs with
        | ':' :: cs =>
          match read fuel cs with
          | (value, none) => (.object ((key, value) :: seen).reverse none, none)
          | (value, some cs) =>
            match skipBlanks cs with
            | ',' :: cs => readMembers fuel ((key, value) :: seen) cs
            | '}' :: cs => (.object ((key, value) :: seen).reverse none, some cs)
            | cs => (.object ((key, value) :: seen).reverse (some (.plain (faultAt cs))), none)
        | cs => stop key (.plain (faultAt cs))
    | cs => unread (.plain (faultAt cs))

end

/-- Reads a whole text. Behind the value only blanks may follow. -/
def ofText (text : String) : Json × Rest :=
  let cs := text.toList
  read (2 * cs.length + 2) cs

end BoundSql.Json

import BoundSql.Json

/-!
# JSON texts between quotes

Escapes name UTF-16 units, so a pair of them may stand for one character. Half of a pair alone has no
character: the text can be passed over but not used.
-/

namespace BoundSql.Json

/-- A text between quotes: its characters, or nothing when half of a surrogate pair stands in it. -/
inductive Token where
  | whole (s : Option String) (rest : List Char)
  | cut (b : Break)

def hexDigit? (c : Char) : Option Nat :=
  if '0' ≤ c ∧ c ≤ '9' then some (c.toNat - '0'.toNat)
  else if 'a' ≤ c ∧ c ≤ 'f' then some (c.toNat - 'a'.toNat + 10)
  else if 'A' ≤ c ∧ c ≤ 'F' then some (c.toNat - 'A'.toNat + 10)
  else none

/-- The 16-bit unit with these four digits. -/
def unit? (a b c d : Char) : Option Nat := do
  return (((← hexDigit? a) * 16 + (← hexDigit? b)) * 16 + (← hexDigit? c)) * 16 + (← hexDigit? d)

/-- The characters that stand for another one behind a backslash. -/
def escapes : List (Char × Char) :=
  [('"', '"'), ('\\', '\\'), ('/', '/'), ('b', '\x08'), ('f', '\x0c'), ('n', '\n'), ('r', '\r'),
    ('t', '\t')]

/-- Fewer than four bytes are left for the digits of a unit. -/
def endsInUnit (cs : List Char) : Bool :=
  decide (cs.foldl (fun n c => n + c.utf8Size) 0 < 4)

/-- The character that two surrogates stand for. -/
def ofSurrogates (high low : Nat) : Char :=
  Char.ofNat (0x10000 + (high - 0xD800) * 0x400 + (low - 0xDC00))

def cut (lone : Bool) (f : Fault) : Token :=
  let read := if lone then .malformed else f
  .cut ⟨read, f, read⟩

/-- Reads up to the closing quote. `seen` holds the characters read so far, the last one first, `high` the
first half of a surrogate pair that was read last, and `lone` is set once such a half stayed alone. -/
def characters (seen : List Char) (lone : Bool) (high : Option Nat) : List Char → Token
  | [] => cut lone .unfinished
  | '"' :: cs => .whole (if lone || high.isSome then none else some (String.ofList seen.reverse)) cs
  | '\\' :: 'u' :: a :: b :: c :: d :: cs =>
    match unit? a b c d with
    | none => cut lone .malformed
    | some n =>
      if n < 0xD800 ∨ 0xDFFF < n then characters (Char.ofNat n :: seen) (lone || high.isSome) none cs
      else if n < 0xDC00 then characters seen (lone || high.isSome) (some n) cs
      else
        match high with
        | some h => characters (ofSurrogates h n :: seen) lone none cs
        | none => characters seen true none cs
  | '\\' :: 'u' :: cs => cut lone (if endsInUnit cs then .unfinished else .malformed)
  | ['\\'] => cut lone .unfinished
  | '\\' :: e :: cs =>
    match escapes.lookup e with
    | some c => characters (c :: seen) (lone || high.isSome) none cs
    | none => cut lone .malformed
  | c :: cs =>
    if c < ' ' then cut lone .malformed else characters (c :: seen) (lone || high.isSome) none cs
termination_by structural cs => cs

end BoundSql.Json

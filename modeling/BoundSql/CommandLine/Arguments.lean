import BoundSql.Document

/-!
# Arguments

Options may stand before or behind the name of the command, each at most once on either side; the one
behind wins. A path that is not given as an option is taken from the environment.
-/

namespace BoundSql.CommandLine

inductive Format where
  | text
  | json
  deriving DecidableEq, Repr

def Format.ofName? : String → Option Format
  | "text" => some .text
  | "json" => some .json
  | _ => none

inductive UsageError where
  | unknownOption (argument : String)
  | unexpectedArgument (argument : String)
  | missingValue (option : String)
  | invalidValue (option value : String)
  | repeated (option : String)
  | missingCommand
  deriving DecidableEq, Repr

def UsageError.message : UsageError → String
  | unknownOption argument => "unknown option '" ++ argument ++ "'"
  | unexpectedArgument argument => "unexpected argument '" ++ argument ++ "'"
  | missingValue option => "option '" ++ option ++ "' needs a value"
  | invalidValue option value => "invalid value '" ++ value ++ "' for option '" ++ option ++ "'"
  | repeated option => "option '" ++ option ++ "' is given more than once"
  | missingCommand => "no command is given"

/-- Why no document is translated. -/
inductive Halt where
  | usage (e : UsageError)
  | help
  | version
  deriving DecidableEq, Repr

abbrev Parse := Except Halt

def usage {α : Type} (e : UsageError) : Parse α := .error (.usage e)

/-- The options on one side of the command. -/
structure Options where
  document : Option String := none
  format : Option Format := none
  verbose : Bool := false
  deriving DecidableEq, Repr

/-- The options that take a value. -/
inductive Valued where
  | document
  | format
  deriving DecidableEq, Repr

def Valued.name : Valued → String
  | document => "--document"
  | format => "--format"

def Options.setVerbose (o : Options) : Parse Options :=
  if o.verbose then usage (.repeated "--verbose") else .ok { o with verbose := true }

/-- A path may not be empty, and a format has to be known. -/
def Options.set (o : Options) (option : Valued) (value : String) : Parse Options :=
  match option with
  | .document =>
    if value = "" then usage (.invalidValue option.name value)
    else if o.document.isSome then usage (.repeated option.name)
    else .ok { o with document := some value }
  | .format =>
    match Format.ofName? value with
    | none => usage (.invalidValue option.name value)
    | some f =>
      if o.format.isSome then usage (.repeated option.name) else .ok { o with format := some f }

/-- Where options stand: before the command, where the version can be asked for, or behind it. -/
inductive Side where
  | before
  | behind
  deriving DecidableEq, Repr

/-- The options so far, and the option that waits for the next argument. -/
abbrev State := Options × Option Valued

/-- Short options run together; the rest behind one that takes a value is that value, with or without an
equals sign. -/
def short (side : Side) (argument : String) (o : Options) : List Char → Parse State
  | [] => .ok (o, none)
  | 'v' :: cs => do short side argument (← o.setVerbose) cs
  | 'd' :: cs => valued .document cs
  | 'f' :: cs => valued .format cs
  | 'h' :: _ => .error .help
  | 'V' :: _ => if side = .before then .error .version else usage (.unknownOption argument)
  | _ => usage (.unknownOption argument)
where
  valued (option : Valued) : List Char → Parse State
    | [] => .ok (o, some option)
    | '=' :: value => do return (← o.set option (String.ofList value), none)
    | value => do return (← o.set option (String.ofList value), none)

/-- A long option, with the value behind its equals sign if there is one. -/
def long (side : Side) (argument : String) (o : Options) (cs : List Char) : Parse State :=
  let name := String.ofList (cs.takeWhile (· ≠ '='))
  let value : Option String := match cs.dropWhile (· ≠ '=') with
    | [] => none
    | _ :: value => some (String.ofList value)
  let valued (option : Valued) : Parse State :=
    match value with
    | none => .ok (o, some option)
    | some v => do return (← o.set option v, none)
  match name, value with
  | "document", _ => valued .document
  | "format", _ => valued .format
  | "verbose", none => do return (← o.setVerbose, none)
  | "help", none => .error .help
  | "version", none => if side = .before then .error .version else usage (.unknownOption argument)
  | _, _ => usage (.unknownOption argument)

/-- A single hyphen is not an option. -/
def isOption : List Char → Bool
  | '-' :: _ :: _ => true
  | _ => false

def option (side : Side) (argument : String) (o : Options) : List Char → Parse State
  | '-' :: '-' :: cs => long side argument o cs
  | '-' :: cs => short side argument o cs
  | _ => usage (.unexpectedArgument argument)

/-- Reads options up to the first argument that is none. Behind a double hyphen nothing is an option. -/
def options (side : Side) : State → List String → Parse (Options × Option (String × List String))
  | (o, none), [] => .ok (o, none)
  | (_, some waiting), [] => usage (.missingValue waiting.name)
  | (o, some waiting), a :: as =>
    if isOption a.toList then usage (.missingValue waiting.name)
    else do options side (← o.set waiting a, none) as
  | (o, none), a :: as =>
    if a = "--" then
      match as with
      | [] => .ok (o, none)
      | b :: _ => usage (.unexpectedArgument b)
    else if isOption a.toList then do options side (← option side a o a.toList) as
    else .ok (o, some (a, as))

/-- Commands are named for the kind of statement that they print. -/
def kindNamed? : String → Option StatementKind
  | "select" => some .select
  | "update" => some .update
  | "delete" => some .delete
  | _ => none

/-- What is asked for: a kind of statement, the path of its document, and how to show it. -/
structure Invocation where
  kind : StatementKind
  document : Option String
  format : Format
  verbose : Bool
  deriving DecidableEq, Repr

/-- The path of the document. An empty one in the environment is an error on each side that does not give
a path itself. -/
def document (environment : Option String) (before behind : Options) : Parse (Option String) :=
  if environment = some "" ∧ (before.document.isNone ∨ behind.document.isNone) then
    usage (.invalidValue Valued.document.name "")
  else .ok ((behind.document <|> before.document) <|> environment)

/-- The command `help` may name another one. -/
def help : List String → Parse Invocation
  | [] => .error .help
  | [a] =>
    if a = "help" ∨ (kindNamed? a).isSome then .error .help
    else usage (.unexpectedArgument a)
  | _ :: b :: _ => usage (.unexpectedArgument b)

def parse (environment : Option String) (arguments : List String) : Parse Invocation := do
  match ← options .before ({}, none) arguments with
  | (_, none) => usage .missingCommand
  | (before, some (command, rest)) =>
    match kindNamed? command with
    | none => if command = "help" then help rest else usage (.unexpectedArgument command)
    | some kind =>
      match ← options .behind ({}, none) rest with
      | (_, some (a, _)) => usage (.unexpectedArgument a)
      | (behind, none) =>
        return {
          kind
          document := ← document environment before behind
          format := (behind.format <|> before.format).getD .text
          verbose := before.verbose || behind.verbose }

end BoundSql.CommandLine

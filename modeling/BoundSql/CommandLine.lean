import BoundSql.CommandLine.Arguments
import BoundSql.CommandLine.Directory
import BoundSql.Document.Log
import BoundSql.Document.Reading

/-!
# The command line

A run of the program as a function: from arguments, environment and the document that is read to the exit
code and what is written on both outputs. Trace lines, the exact words of help and usage errors, and the
positions in messages about malformed documents are left out.
-/

namespace BoundSql.CommandLine

def programName : String := "sqlweave"

def programVersion : String := "0.1.0"

def helpText : String :=
  "Render parameterized SQL from JSON statement documents\n\n" ++
  "Usage: " ++ programName ++ " [OPTIONS] <COMMAND>\n\n" ++
  "Commands:\n" ++
  "  select  Render a SELECT statement\n" ++
  "  update  Render an UPDATE statement\n" ++
  "  delete  Render a DELETE statement\n\n" ++
  "Options:\n" ++
  "  -d, --document <DOCUMENT>  Statement document path; `-` or nothing reads stdin\n" ++
  "  -f, --format <FORMAT>      Output format: text or json\n" ++
  "  -v, --verbose              Enable verbose output\n"

/-- Where the document is read from. -/
inductive Origin where
  | input
  | file (path : String)
  deriving DecidableEq, Repr

/-- A single hyphen stands for the standard input. Slashes and dots behind it change nothing. -/
def namesInput (path : String) : Bool :=
  match Directory.parts path with
  | "-" :: rest => rest.all fun p => p = "" || p = "."
  | _ => false

def Invocation.origin (i : Invocation) : Origin :=
  match i.document with
  | some path => if namesInput path then .input else .file path
  | none => .input

def Origin.event : Origin → Event
  | input => .readingInput
  | file path => .readingFile path

/-- What a run leaves behind. -/
structure Response where
  exit : UInt8
  stdout : String := ""
  stderr : List String := []

/-- The statement, and a comment line for each of its values. -/
def showText (q : Fragment) : String :=
  q.sql ++ ";" ++
    String.join (q.values.zipIdx.map fun v => "\n-- ?" ++ (v.2 + 1).repr ++ " = " ++ v.1.inline)

def Format.render (q : Fragment) : Format → String
  | text => showText q
  | json => q.toPrettyJson

/-- Why a run fails after its arguments were understood. -/
inductive Failure where
  | unreadable (f : ReadFault)
  | invalid (e : Json.ReadError)
  | document (e : DocumentError)

/-- The lines of a failure. What exactly is wrong with a document is not told. -/
def Failure.lines : Failure → List String
  | unreadable f => ["Error: IO error: " ++ f.message, "", "Caused by:", "    " ++ f.message]
  | invalid _ => ["Error: Invalid document"]
  | document e => ["Error: " ++ e.message]

/-- The document, once its bytes are there. -/
def Invocation.load (i : Invocation) (content : Except ReadFault ByteArray) : Except Failure Document :=
  match content with
  | .error f => .error (.unreadable f)
  | .ok bytes =>
    match String.fromUTF8? bytes with
    | none => .error (.unreadable .notText)
    | some source => (Document.ofJson i.kind source).mapError .invalid

/-- The events of a run and its result. -/
def Invocation.outcome (i : Invocation) (content : Except ReadFault ByteArray) :
    List Event × Except Failure Fragment :=
  match i.load content with
  | .error e => ([i.origin.event], .error e)
  | .ok d => (i.origin.event :: d.events, d.statement.mapError .document)

/-- Warnings are always shown, the rest on demand. -/
def Invocation.shows (i : Invocation) (e : Event) : Bool :=
  i.verbose || e.severity = .warning

def Invocation.respond (i : Invocation) (content : Except ReadFault ByteArray) : Response :=
  let (events, result) := i.outcome content
  let log := (events.filter i.shows).map Event.line
  match result with
  | .ok q => ⟨0, i.format.render q ++ "\n", log⟩
  | .error e => ⟨1, "", log ++ e.lines⟩

def Halt.response : Halt → Response
  | usage e => ⟨2, "", ["error: " ++ e.message, "", "For more information, try '--help'."]⟩
  | help => ⟨0, helpText, []⟩
  | version => ⟨0, programName ++ " " ++ programVersion ++ "\n", []⟩

/-- A whole run; `read` gives the bytes of a document. -/
def run (environment : Option String) (arguments : List String)
    (read : Origin → Except ReadFault ByteArray) : Response :=
  match parse environment arguments with
  | .error h => h.response
  | .ok i => i.respond (read i.origin)

end BoundSql.CommandLine

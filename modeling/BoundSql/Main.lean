import BoundSql.CommandLine

/-!
# The program
-/

namespace BoundSql.CommandLine

def ReadFault.ofError : IO.Error → ReadFault
  | .noFileOrDirectory .. => .notFound
  | .permissionDenied .. => .denied
  | .inappropriateType _ 21 _ => .isDirectory
  | .inappropriateType .. => .notDirectory
  | .invalidArgument .. => .tooLong
  | e => .other e.toString

/-- The bytes of a document. -/
def readOrigin (o : Origin) : IO (Except ReadFault ByteArray) := do
  try
    match o with
    | .input => return .ok (← (← IO.getStdin).readBinToEnd)
    | .file path => return .ok (← IO.FS.readBinFile path)
  catch e => return .error (ReadFault.ofError e)

/-- A run on the standard input and the file system. -/
def respond (arguments : List String) : IO Response := do
  match parse (← IO.getEnv "SQLWEAVE_DOCUMENT") arguments with
  | .error h => return h.response
  | .ok i => return i.respond (← readOrigin i.origin)

end BoundSql.CommandLine

/-- Prints what a run leaves behind and exits with its code. -/
def main (arguments : List String) : IO UInt32 := do
  let r ← BoundSql.CommandLine.respond arguments
  IO.print r.stdout
  r.stderr.forM fun line => IO.eprintln line
  return r.exit.toUInt32

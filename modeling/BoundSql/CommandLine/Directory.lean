/-!
# Reading files

What can go wrong when a document is read, and a directory of files that is held in memory.
-/

namespace BoundSql.CommandLine

inductive ReadFault where
  | notFound
  | denied
  | notDirectory
  | tooLong
  | isDirectory
  | notText
  | other (message : String)
  deriving DecidableEq, Repr

def ReadFault.message : ReadFault → String
  | notFound => "No such file or directory (os error 2)"
  | denied => "Permission denied (os error 13)"
  | notDirectory => "Not a directory (os error 20)"
  | isDirectory => "Is a directory (os error 21)"
  | tooLong => "File name too long (os error 36)"
  | notText => "stream did not contain valid UTF-8"
  | other message => message

/-- The files of the working directory, which has no directories in it. -/
structure Directory where
  files : List (String × ByteArray)

namespace Directory

/-- The parts of a path between its slashes. -/
def parts (path : String) : List String :=
  path.toList.foldr
    (fun c parts =>
      if c = '/' then "" :: parts
      else match parts with
        | [] => [c.toString]
        | p :: ps => (String.ofList (c :: p.toList)) :: ps)
    [""]

/-- How many bytes a name may have. -/
def nameLimit : Nat := 255

/-- How many bytes a path may have. -/
def pathLimit : Nat := 4095

/-- Follows the parts of a path from the working directory. `outside` is set once the path has left it. -/
def follow (d : Directory) (outside : Bool) : List String → Except ReadFault ByteArray
  | [] => .error .isDirectory
  | p :: ps =>
    if p = "" ∨ p = "." then d.follow outside ps
    else if p = ".." then d.follow true ps
    else if nameLimit < p.utf8ByteSize then .error .tooLong
    else if outside then .error .notFound
    else match d.files.lookup p with
      | none => .error .notFound
      | some content => if ps.isEmpty then .ok content else .error .notDirectory

def read (d : Directory) (path : String) : Except ReadFault ByteArray :=
  if pathLimit < path.utf8ByteSize then .error .tooLong
  else d.follow (path.toList.head? = some '/') (parts path)

end Directory

end BoundSql.CommandLine

/-!
# Quoted text

A text literal stands between single quotes, and a quote inside it is written twice.
-/

namespace BoundSql.Text

/-- Writes every single quote twice and everything else once. -/
def doubled (cs : List Char) : List Char :=
  cs.flatMap fun c => if c = '\'' then ['\'', '\''] else [c]

/-- The literal with these characters. -/
def quoted (cs : List Char) : List Char :=
  '\'' :: (doubled cs ++ ['\''])

def quote (s : String) : String :=
  String.ofList (quoted s.toList)

@[simp] theorem doubled_nil : doubled [] = [] := rfl

theorem doubled_cons (c : Char) (cs : List Char) :
    doubled (c :: cs) = (if c = '\'' then ['\'', '\''] else [c]) ++ doubled cs := rfl

end BoundSql.Text

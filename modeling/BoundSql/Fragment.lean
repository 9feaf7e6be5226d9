import BoundSql.Value

/-!
# Fragments

A piece of a statement: text with `?` placeholders, and the values they bind in order. Everything that is
written is a concatenation of fragments, so text and values stay side by side.
-/

namespace BoundSql

structure Fragment where
  sql : String := ""
  values : List Value := []
  deriving BEq, Inhabited

namespace Fragment

def text (s : String) : Fragment := ⟨s, []⟩

/-- A value whose placeholder is written elsewhere. -/
def bound (v : Value) : Fragment := ⟨"", [v]⟩

instance : Append Fragment := ⟨fun a b => ⟨a.sql ++ b.sql, a.values ++ b.values⟩⟩

def parens (f : Fragment) : Fragment := text "(" ++ f ++ text ")"

def concat (fs : List Fragment) : Fragment := fs.foldl (· ++ ·) {}

@[simp] theorem sql_append (a b : Fragment) : (a ++ b).sql = a.sql ++ b.sql := rfl

@[simp] theorem values_append (a b : Fragment) : (a ++ b).values = a.values ++ b.values := rfl

@[simp] theorem sql_text (s : String) : (text s).sql = s := rfl

@[simp] theorem values_text (s : String) : (text s).values = [] := rfl

@[simp] theorem sql_bound (v : Value) : (bound v).sql = "" := rfl

@[simp] theorem values_bound (v : Value) : (bound v).values = [v] := rfl

@[simp] theorem values_parens (f : Fragment) : f.parens.values = f.values := by
  simp [parens]

theorem append_assoc (a b c : Fragment) : a ++ b ++ c = a ++ (b ++ c) := by
  show Fragment.mk _ _ = Fragment.mk _ _
  simp [String.append_assoc]

@[simp] theorem append_empty (a : Fragment) : a ++ ({} : Fragment) = a := by
  show Fragment.mk _ _ = a
  simp

@[simp] theorem empty_append (a : Fragment) : ({} : Fragment) ++ a = a := by
  show Fragment.mk _ _ = a
  simp

theorem text_append_mk (s : String) (vs : List Value) : text s ++ ⟨"", vs⟩ = ⟨s, vs⟩ := by
  show Fragment.mk _ _ = Fragment.mk _ _
  simp

theorem parens_mk (s : String) (vs : List Value) :
    (Fragment.mk s vs).parens = ⟨"(" ++ s ++ ")", vs⟩ := by
  show Fragment.mk _ _ = Fragment.mk _ _
  simp

end Fragment

end BoundSql

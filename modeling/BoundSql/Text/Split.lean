/-!
# Splitting a text at a token
-/

namespace BoundSql.Text

/-- What stands before the first occurrence of `token` and what begins with it. `seen` holds the
characters already passed, the last one first. -/
def splitBefore? (token seen : List Char) : List Char → Option (List Char × List Char)
  | [] => if token.isEmpty then some (seen.reverse, []) else none
  | c :: cs =>
    if token.isPrefixOf (c :: cs) then some (seen.reverse, c :: cs)
    else splitBefore? token (c :: seen) cs

/-- Nothing is lost. -/
theorem append_of_splitBefore? {token seen cs a b : List Char}
    (h : splitBefore? token seen cs = some (a, b)) : a ++ b = seen.reverse ++ cs := by
  induction cs generalizing seen with
  | nil => simp only [splitBefore?] at h; split at h <;> simp_all
  | cons c cs ih =>
    rw [splitBefore?] at h
    split at h
    · simp_all
    · simpa using ih h

end BoundSql.Text

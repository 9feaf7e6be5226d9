import BoundSql.Select.Window

/-!
# Where a text is cut

The cut before a token is found exactly if the text has the token. A token whose first character does not
come again in it cannot begin in one text and end in the next one that it opens.
-/

namespace BoundSql

namespace Text

variable {token seen cs : List Char}

theorem exists_splitBefore? (h : token <:+: cs) (seen : List Char) :
    ∃ a b, splitBefore? token seen cs = some (a, b) := by
  induction cs generalizing seen with
  | nil =>
    have hnil : token = [] := List.infix_nil.mp h
    exact ⟨seen.reverse, [], by simp [splitBefore?, hnil]⟩
  | cons c cs ih =>
    rw [splitBefore?]
    split
    · exact ⟨_, _, rfl⟩
    · rename_i hprefix
      rcases List.infix_cons_iff.mp h with hstart | hlater
      · exact absurd (List.isPrefixOf_iff_prefix.mpr hstart) hprefix
      · exact ih hlater (c :: seen)

theorem prefix_of_splitBefore? {a b : List Char} (h : splitBefore? token seen cs = some (a, b)) :
    token <+: b := by
  induction cs generalizing seen with
  | nil =>
    rw [splitBefore?] at h
    split at h
    · rename_i hempty
      rw [List.isEmpty_iff.mp hempty]
      exact List.nil_prefix
    · cases h
  | cons c cs ih =>
    rw [splitBefore?] at h
    split at h
    · rename_i hprefix
      cases h
      exact List.isPrefixOf_iff_prefix.mp hprefix
    · exact ih h

/-- The token that is found is the first one. -/
theorem not_prefix_drop_of_splitBefore? {a b : List Char}
    (h : splitBefore? token seen cs = some (a, b)) {i : Nat} (hi : seen.length + i < a.length) :
    ¬ token <+: cs.drop i := by
  induction cs generalizing seen i with
  | nil =>
    rw [splitBefore?] at h
    split at h
    · cases h
      rw [List.length_reverse] at hi
      omega
    · cases h
  | cons c cs ih =>
    rw [splitBefore?] at h
    split at h
    · cases h
      rw [List.length_reverse] at hi
      omega
    · rename_i hprefix
      cases i with
      | zero => exact fun hstart => hprefix (List.isPrefixOf_iff_prefix.mpr hstart)
      | succ i =>
        refine ih h ?_
        rw [List.length_cons]
        omega

/-- A token does not reach across a character that it does not have. -/
theorem infix_or_infix {c : Char} {a b : List Char} (hc : c ∉ token) (h : token <:+: a ++ c :: b) :
    token <:+: a ∨ token <:+: b := by
  obtain ⟨s, t, h⟩ := h
  rcases List.append_eq_append_iff.mp h with ⟨u, ha, -⟩ | ⟨u, hs, hb⟩
  · exact .inl ⟨s, u, ha.symm⟩
  · cases u with
    | nil => exact .inl ⟨s, [], by simpa using hs⟩
    | cons d u =>
      obtain ⟨rfl, rfl⟩ := List.cons.inj hb
      rcases List.append_eq_append_iff.mp hs with ⟨v, -, htoken⟩ | ⟨v, -, hv⟩
      · exact absurd (htoken ▸ List.mem_append_right v List.mem_cons_self) hc
      · cases v with
        | nil =>
          rw [List.nil_append] at hv
          rw [← hv] at hc
          exact absurd List.mem_cons_self hc
        | cons e v =>
          obtain ⟨-, rfl⟩ := List.cons.inj hv
          exact .inr ⟨v, t, rfl⟩

theorem prefix_of_prefix_append {c : Char} {t x b : List Char} (hc : c ∉ t) (hx : x ≠ [])
    (h : c :: t <+: x ++ (c :: t ++ b)) : c :: t <+: x := by
  rcases List.prefix_or_prefix_of_prefix h (List.prefix_append x _) with hinside | ⟨z, hz⟩
  · exact hinside
  · rw [← hz, List.prefix_append_right_inj] at h
    cases z with
    | nil => exact ⟨[], by simpa using hz.symm⟩
    | cons d z =>
      -- the token would begin again inside itself
      obtain ⟨e, x, rfl⟩ := List.exists_cons_of_ne_nil hx
      obtain ⟨-, ht⟩ := List.cons.inj hz
      rw [hz, List.cons_append, List.cons_prefix_cons] at h
      rw [← ht, h.1] at hc
      exact absurd (List.mem_append_right x List.mem_cons_self) hc

theorem splitBefore?_append {c : Char} {t a : List Char} (hc : c ∉ t) (ha : ¬ c :: t <:+: a)
    (seen b : List Char) :
    splitBefore? (c :: t) seen (a ++ (c :: t ++ b)) = some (seen.reverse ++ a, c :: t ++ b) := by
  induction a generalizing seen with
  | nil => simp [splitBefore?]
  | cons d a ih =>
    have hstart : ¬ (c :: t).isPrefixOf (d :: (a ++ (c :: t ++ b))) = true := by
      intro hprefix
      have htoken := prefix_of_prefix_append hc (List.cons_ne_nil d a) (List.isPrefixOf_iff_prefix.mp hprefix)
      exact ha htoken.isInfix
    have hlater : ¬ c :: t <:+: a := fun h => ha (List.infix_cons_iff.mpr (.inr h))
    rw [List.cons_append, splitBefore?, if_neg hstart, ih hlater]
    simp

end Text

namespace Select

theorem exists_splitFrom? {s : Select} (h : " FROM".toList <:+: s.fragment.sql.toList) :
    ∃ before rest, s.splitFrom? = some (before, rest) := by
  obtain ⟨a, b, hsplit⟩ := Text.exists_splitBefore? h []
  exact ⟨String.ofList a, String.ofList b, by rw [splitFrom?, hsplit]; rfl⟩

theorem infix_of_splitFrom? {s : Select} {a b : String} (h : s.splitFrom? = some (a, b)) :
    " FROM".toList <:+: s.fragment.sql.toList := by
  simp only [splitFrom?, Option.map_eq_some_iff] at h
  obtain ⟨p, hsplit, -⟩ := h
  have happend := Text.append_of_splitBefore? hsplit
  rw [List.reverse_nil, List.nil_append] at happend
  rw [← happend]
  exact (Text.prefix_of_splitBefore? hsplit).isInfix.trans (List.suffix_append _ _).isInfix

/-- The first ` FROM` is the one behind a text that has none. -/
theorem splitFrom?_eq {s : Select} {a b : String} (hs : s.fragment.sql = a ++ (" FROM" ++ b))
    (ha : ¬ " FROM".toList <:+: a.toList) : s.splitFrom? = some (a, " FROM" ++ b) := by
  have htoken : " FROM".toList = ' ' :: "FROM".toList := by decide
  rw [htoken] at ha
  have hcut := Text.splitBefore?_append (by decide) ha [] b.toList
  rw [← htoken, ← String.toList_append, ← String.toList_append, ← hs] at hcut
  rw [splitFrom?, hcut]
  simp only [Option.map_some, List.reverse_nil, List.nil_append, String.ofList_toList]

end Select

end BoundSql

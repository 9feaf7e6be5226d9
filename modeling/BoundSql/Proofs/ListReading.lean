import BoundSql.Condition
import BoundSql.Proofs.LiteralReading

/-!
# Literal lists can be read back

A reader of lists of literals, which stops behind the closing parenthesis. A list in a statement is read as the
values that it was written for, whatever quotes, commas and parentheses they hold and whatever follows it.
-/

namespace BoundSql

namespace Literal

variable {cs r : List Char} {v : Value} {vs : List Value}

/-! ## A reader takes characters from the front -/

theorem suffix_of_readText? {s : List Char} (h : readText? cs = some (s, r)) : r <:+ cs := by
  fun_induction readText? cs generalizing s with
  | case1 => cases h
  | case2 cs ih =>
    obtain ⟨⟨t, r'⟩, hread, heq⟩ := Option.map_eq_some_iff.mp h
    cases heq
    exact (ih hread).trans ((List.suffix_cons _ _).trans (List.suffix_cons _ _))
  | case3 cs =>
    cases h
    exact List.suffix_cons _ _
  | case4 c cs _ _ ih =>
    obtain ⟨⟨t, r'⟩, hread, heq⟩ := Option.map_eq_some_iff.mp h
    cases heq
    exact (ih hread).trans (List.suffix_cons _ _)

theorem suffix_of_readBytes? {bytes : List UInt8} (h : readBytes? cs = some (bytes, r)) : r <:+ cs := by
  fun_induction readBytes? cs generalizing bytes with
  | case1 cs =>
    cases h
    exact List.suffix_cons _ _
  | case2 a b cs _ ih =>
    obtain ⟨high, -, h⟩ := Option.bind_eq_some_iff.mp h
    obtain ⟨low, -, h⟩ := Option.bind_eq_some_iff.mp h
    obtain ⟨⟨rest, r'⟩, hread, h⟩ := Option.bind_eq_some_iff.mp h
    cases h
    exact (ih hread).trans ((List.suffix_cons _ _).trans (List.suffix_cons _ _))
  | case3 => cases h

theorem suffix_of_readNat? {n : Nat} (h : readNat? cs = some (n, r)) : r <:+ cs := by
  unfold readNat? at h
  split at h
  · cases h
  · cases h
    exact List.dropWhile_suffix _

theorem suffix_of_readInt? {n : Int} (h : readInt? cs = some (n, r)) : r <:+ cs := by
  unfold readInt? at h
  split at h
  · obtain ⟨⟨m, r'⟩, hread, heq⟩ := Option.map_eq_some_iff.mp h
    cases heq
    exact (suffix_of_readNat? hread).trans (List.suffix_cons _ _)
  · obtain ⟨⟨m, r'⟩, hread, heq⟩ := Option.map_eq_some_iff.mp h
    cases heq
    exact suffix_of_readNat? hread

theorem suffix_of_read? (h : read? cs = some (v, r)) : r <:+ cs := by
  unfold read? at h
  split at h
  · cases h
    exact List.suffix_append "NULL".toList _
  · cases h
    exact List.suffix_append "TRUE".toList _
  · cases h
    exact List.suffix_append "FALSE".toList _
  · obtain ⟨⟨s, r'⟩, hread, heq⟩ := Option.map_eq_some_iff.mp h
    cases heq
    exact (suffix_of_readText? hread).trans (List.suffix_cons _ _)
  · obtain ⟨⟨bytes, r'⟩, hread, heq⟩ := Option.map_eq_some_iff.mp h
    cases heq
    exact (suffix_of_readBytes? hread).trans (List.suffix_append "X'".toList _)
  · obtain ⟨⟨n, r'⟩, hread, heq⟩ := Option.map_eq_some_iff.mp h
    cases heq
    exact suffix_of_readInt? hread

/-! ## Lists -/

/-- The elements of a list, and what follows its closing parenthesis. What stands in front of the first one is
passed. -/
def readElements? (cs : List Char) : Option (List Value × List Char) :=
  match _ : read? cs with
  | some (v, ')' :: r) => some ([v], r)
  | some (v, ',' :: r) => (readElements? r).map fun p => (v :: p.1, p.2)
  | _ => none
termination_by cs.length
decreasing_by exact (suffix_of_read? ‹read? cs = some (v, ',' :: r)›).length_le

/-- A list in parentheses, and what follows it. -/
def readList? : List Char → Option (List Value × List Char)
  | '(' :: ')' :: r => some ([], r)
  | '(' :: cs => readElements? cs
  | _ => none

theorem readElements?_of_closed (h : read? cs = some (v, ')' :: r)) : readElements? cs = some ([v], r) := by
  rw [readElements?]
  split <;> simp_all

theorem readElements?_of_comma (h : read? cs = some (v, ',' :: r)) :
    readElements? cs = (readElements? r).map fun p => (v :: p.1, p.2) := by
  rw [readElements?]
  split <;> simp_all

/-- Each element is read up to the comma behind it, and the last one up to the parenthesis. -/
theorem readElements?_append_behind (hv : v.isExact = true) (hvs : ∀ v ∈ vs, v.isExact = true) (r : List Char) :
    readElements? (v.literal ++ behind vs r) = some (v :: vs, r) := by
  induction vs generalizing v with
  | nil => exact readElements?_of_closed (read?_literal hv (.inr rfl) r)
  | cons w vs ih =>
    obtain ⟨hw, hvs⟩ := List.forall_mem_cons.mp hvs
    have hread := read?_literal hv (.inl rfl) (w.literal ++ behind vs r)
    rw [behind_cons, readElements?_of_comma hread, ih hw hvs, Option.map_some]

theorem read?_closing (cs : List Char) : read? (')' :: cs) = none := rfl

/-- No literal begins with the parenthesis that closes an empty list. -/
theorem literal_append_behind_ne (hv : v.isExact = true) (vs : List Value) (r cs : List Char) :
    v.literal ++ behind vs r ≠ ')' :: cs := by
  obtain ⟨d, t, hbehind, hd⟩ := exists_behind_eq_cons vs r
  intro heq
  have hread := read?_literal hv hd t
  rw [← hbehind, heq, read?_closing] at hread
  cases hread

theorem readList?_list (hvs : ∀ v ∈ vs, v.isExact = true) (r : List Char) :
    readList? ((list (vs.map Value.inline)).toList ++ r) = some (vs, r) := by
  cases vs with
  | nil =>
    rw [List.map_nil, list_nil]
    rfl
  | cons v vs =>
    obtain ⟨hv, hvs⟩ := List.forall_mem_cons.mp hvs
    rw [toList_list_append, readList?]
    · exact readElements?_append_behind hv hvs r
    · exact fun cs => literal_append_behind_ne hv vs r cs

/-- A quoted text is the literal of a text. -/
theorem quoteAll_eq_map_inline (items : List Item) :
    quoteAll items = (items.map fun i => Value.text i.display).map Value.inline := by
  rw [List.map_map]
  rfl

end Literal

namespace Condition

variable {elements : List String}

theorem fragment_guarded_of_list {g : Guarded} {v : Candidate} (hv : g.candidates = [v])
    (hlist : v.toOperand = .list elements) (h : g.accepted = true) (c : Condition) :
    (c.guarded g).fragment =
      c.fragment ++ (c.joint g.connective ++ .text (g.maker g.column ++ Literal.list elements)) := by
  have hpiece : g.piece = .text (g.maker g.column ++ Literal.list elements) := by
    unfold Guarded.piece
    rw [hv, List.map_singleton, hlist]
    exact congrArg (Fragment.text (g.maker g.column) ++ ·) (Fragment.empty_append _)
  rw [guarded, if_pos h, hpiece]
  rfl

theorem fragment_membership_list (c : Condition) (negated : Bool) :
    (c.apply (.membership negated (.list elements))).fragment =
      c.fragment ++ .text ((if negated then " NOT IN " else " IN ") ++ Literal.list elements) := rfl

end Condition

namespace Literal

variable {vs : List Value}

/-- A list of values is read as these values, and a list of quoted texts as the texts. The reader stops behind
the list, whatever follows. A condition has the same text behind `IN` and behind a guarded clause. -/
theorem readList?_list_append (hvs : ∀ v ∈ vs, v.isExact = true) (items : List Item) (r : List Char) :
    readList? ((list (vs.map Value.inline)).toList ++ r) = some (vs, r) ∧
      readList? ((list (quoteAll items)).toList ++ r) = some (items.map fun i => .text i.display, r) ∧
      ∀ (c : Condition) (elements : List String),
        (∀ negated, (c.apply (.membership negated (.list elements))).fragment =
          c.fragment ++ .text ((if negated then " NOT IN " else " IN ") ++ list elements)) ∧
        ∀ (g : Condition.Guarded) (v : Candidate), g.candidates = [v] → v.toOperand = .list elements →
          g.accepted = true → (c.guarded g).fragment =
            c.fragment ++ (c.joint g.connective ++ .text (g.maker g.column ++ list elements)) := by
  have htexts : ∀ v ∈ items.map fun i => Value.text i.display, v.isExact = true :=
    List.forall_mem_map.mpr fun _ _ => rfl
  refine ⟨readList?_list hvs r, ?_, fun c elements => ⟨?_, ?_⟩⟩
  · rw [quoteAll_eq_map_inline]
    exact readList?_list htexts r
  · exact c.fragment_membership_list
  · exact fun g v hv hlist h => Condition.fragment_guarded_of_list hv hlist h c

/-- A text that reads like the end of the list, and bytes with all kinds of digits. -/
def assorted : List Value :=
  [.null, .bool false, .int Int64.minValue, .text "'), ('?", .text "", .blob [0, 0xAF, 255], .blob []]

theorem readList?_list_append_assorted :
    (∀ v ∈ assorted, v.isExact = true) ∧
      readList? ("(NULL,FALSE,-9223372036854775808,'''), (''?','',X'00AFFF',X'')".toList ++ " OR (a IN ('b'))".toList) =
        some (assorted, " OR (a IN ('b'))".toList) ∧
      (Condition.empty.guarded ⟨.and, "a", (· ++ " IN "), [.items (assorted.map .value)], Checker.valid⟩).sql =
        "a IN (NULL,FALSE,-9223372036854775808,'''), (''?','',X'00AFFF',X'')" := by
  have hexact : ∀ v ∈ assorted, v.isExact = true := List.all_eq_true.mp rfl
  have htext : list (assorted.map Value.inline) =
      "(NULL,FALSE,-9223372036854775808,'''), (''?','',X'00AFFF',X'')" := by decide +kernel
  obtain ⟨hread, -, hcondition⟩ := readList?_list_append hexact [] " OR (a IN ('b'))".toList
  obtain ⟨-, hguarded⟩ := hcondition .empty (assorted.map Value.inline)
  refine ⟨hexact, ?_, ?_⟩
  · rw [htext] at hread
    exact hread
  · have hsql := congrArg Fragment.sql (hguarded
      ⟨.and, "a", (· ++ " IN "), [.items (assorted.map .value)], Checker.valid⟩ _ rfl rfl rfl)
    rw [htext] at hsql
    exact hsql.trans (by decide +kernel)

end Literal

end BoundSql

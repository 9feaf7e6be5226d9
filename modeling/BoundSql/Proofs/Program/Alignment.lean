import BoundSql.Operator
import BoundSql.Proofs.Program.Contract
import BoundSql.Proofs.WindowAlignment

/-!
# Whatever programs make is aligned

No call can bring text and values out of step, as long as every piece that a program is given brings the scan
back outside literals and its clauses have one placeholder for every value they bind.
-/

namespace BoundSql

open Text

/-- Neutral as it is, or the display of something quoted or of something other than a text. -/
def Literal.Element (e : String) : Prop :=
  Neutral e ∨ (∃ i : Item, ¬ i.Textual ∧ e = i.display) ∨ ∃ i : Item, e = quote i.display

theorem Literal.Element.neutral {e : String} (h : Literal.Element e) : Neutral e := by
  rcases h with h | ⟨i, hi, rfl⟩ | ⟨i, rfl⟩
  · exact h
  · exact Item.neutral_display hi
  · exact neutral_quote _

namespace Contract

def aligning : Contract where
  text := Neutral
  element := Literal.Element
  clause s os :=
    endsQuoted false s.toList = false ∧ placeholders false s.toList = (os.flatMap Operand.bound).length
  outside := Fragment.Aligned
  window s w := w.Neutral ∧ (s.SplitsOutside ∨ w.Unmarked)

theorem aligned_clause {s : String} {os : List Operand} (h : aligning.clause s os)
    (hos : (Fragment.concat (os.map Operand.written)).Aligned) :
    (Fragment.text s ++ .concat (os.map Operand.fragment)).Aligned := by
  obtain ⟨hout, hcount⟩ := h
  have hclause := excess_clause hout hos
  rw [hcount, Int.sub_self] at hclause
  exact Fragment.aligned_iff_excess.mpr hclause

theorem keeps_aligned : aligning.Keeps fun f _ => f.Aligned where
  bare h := Fragment.aligned_text h.plain.neutral
  text h := Fragment.aligned_text h
  list h := Fragment.aligned_text (neutral_list fun e he => (h e he).neutral)
  append ha hb := ha.append hb
  parens h := h.parens
  clause h hos := aligned_clause h hos
  assignment h := Fragment.aligned_assignment h _
  outside h := h
  window h hs hok := (Select.aligned_window_iff hs h.1 hok).mpr h.2

end Contract

namespace Program

/-- The fragments of a whole run: conditions, statements, operands and everything before them. -/
theorem aligned_of_mem_produced {p : Product} (e : Program p) (h : e.Meets .aligning) :
    ∀ f ∈ e.produced, f.Aligned :=
  e.forall_produced (fun e he => Contract.keeps_aligned.holds e he) h

/-- A list whose elements hold quotes and `?`, and a pair. -/
def adults : Program .condition :=
  .guarded (.inList (.text .empty "u.name") true (Literal.quoteAll [.text "it's ?", .int 3])) .or "u.age"
    (Operator.clause · (.range false)) Checker.valid
    (.value (.scalar (.int 18)) (.value (.optional (some (.scalar (.int 65)))) .noValues))

def named : Program .condition :=
  .guarded .empty .and "t.id" (Operator.clause · (.membership false)) Checker.valid
    (.subquery (.ofSelect (.filter (.fromTable (.elements .start ["u.id"]) "u") adults)) false .noValues)

/-- The first ` FROM` stands in a literal. -/
def listing : Program .select :=
  .filter (.fromTable (.elements .start ["' FROM?' AS origin", "t.id"]) "t") (.group named .or named)

def numbered : Program .select :=
  .window (.window listing ⟨.rowNumber, "p", "rn", "t.id", 0, 10⟩) ⟨.rank, "q", "'it''s'", "t.id", -1, 5⟩

theorem aligned_of_mem_produced_numbered :
    numbered.Meets .aligning ∧ ∀ f ∈ numbered.produced, f.Aligned := by
  have htexts : ∀ s ∈ ["u.name", "u.id", "u", "' FROM?' AS origin", "t.id", "t", "p", "rn", "q",
      "'it''s'"], Neutral s := by decide
  simp only [List.forall_mem_cons] at htexts
  obtain ⟨hname, hid, hu, horigin, htid, ht, hp, hrn, hq, hits, -⟩ := htexts
  have hquoted : ∀ e ∈ Literal.quoteAll [.text "it's ?", .int 3], Literal.Element e := by
    intro e he
    obtain ⟨i, -, rfl⟩ := List.mem_map.mp he
    exact .inr (.inr ⟨i, rfl⟩)
  have hadults : adults.Meets .aligning :=
    ⟨⟨⟨trivial, hname⟩, hquoted⟩, ⟨trivial, trivial, trivial⟩, by decide, by decide⟩
  have hnamed : named.Meets .aligning := by
    refine ⟨trivial, ⟨⟨⟨⟨trivial, ?_⟩, hu⟩, hadults⟩, trivial⟩, by decide, by decide⟩
    exact List.forall_mem_singleton.mpr hid
  have hlisting : listing.Meets .aligning := by
    refine ⟨⟨⟨trivial, ?_⟩, ht⟩, hnamed, hnamed⟩
    exact List.forall_mem_cons.mpr ⟨horigin, List.forall_mem_singleton.mpr htid⟩
  have hmeets : numbered.Meets .aligning :=
    ⟨⟨hlisting, ⟨hp, hrn, htid⟩, .inr (by decide)⟩, ⟨hq, hits, htid⟩, .inr (by decide)⟩
  exact ⟨hmeets, aligned_of_mem_produced numbered hmeets⟩

end Program

end BoundSql

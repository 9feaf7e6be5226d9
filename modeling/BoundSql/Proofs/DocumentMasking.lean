import BoundSql.Proofs.Criteria.Masking
import BoundSql.Proofs.DocumentFault

/-!
# Operands do not reach the text

Two documents that are the same but for their operands, present in both or in neither, are refused with the
same error or give the same text. At each position of the values, each statement has the operand that stands
at one place of its own document.
-/

namespace BoundSql

def SelectDocument.masked (d : SelectDocument) : SelectDocument :=
  { d with filters := Criterion.maskAll d.filters, having := Criterion.maskAll d.having }

/-- All assigned values look alike, present or not: an assignment is never left out. -/
def UpdateDocument.masked (d : UpdateDocument) : UpdateDocument :=
  { d with
    assignments := d.assignments.map ({ · with value := .null })
    filters := Criterion.maskAll d.filters }

def DeleteDocument.masked (d : DeleteDocument) : DeleteDocument :=
  { d with filters := Criterion.maskAll d.filters }

/-- What of a document is no operand. -/
def Document.masked : Document → Document
  | select d => select d.masked
  | update d => update d.masked
  | delete d => delete d.masked

/-- Where a bound value stands in a document. -/
inductive Place where
  | assignment (i : Nat)
  /-- The `j`-th value of the `i`-th filter. -/
  | operand (i j : Nat)
  | limit (i : Nat)
  deriving DecidableEq, Repr

namespace Document

def assigned : Document → List Value
  | update d => d.assignments.map Assignment.value
  | _ => []

def limits : Document → List Value
  | select d => d.window.elim [] Window.limits
  | _ => []

def value? (d : Document) : Place → Option Value
  | .assignment i => d.assigned[i]?
  | .operand i j => d.filters[i]?.bind (·.bound[j]?)
  | .limit i => d.limits[i]?

/-- The places whose values are bound, in the order of the placeholders. -/
def places (d : Document) : List Place :=
  (List.range d.assigned.length).map .assignment ++
    (List.range d.filters.length).flatMap (fun i =>
      (List.range (d.filters[i]?.elim 0 (·.given.length))).map (.operand i)) ++
    (List.range d.limits.length).map .limit

theorem value?_operand (d : Document) (i j : Nat) :
    d.value? (.operand i j) = d.filters[i]?.bind (·.bound[j]?) := rfl

theorem filters_masked (d : Document) : d.masked.filters = d.filters.map Filter.masked := by
  cases d with
  | select d =>
    rw [filters, List.map_append, ← Criterion.allFilters_maskAll, ← Criterion.allFilters_maskAll]
    rfl
  | update d =>
    rw [filters, ← Criterion.allFilters_maskAll]
    rfl
  | delete d =>
    rw [filters, ← Criterion.allFilters_maskAll]
    rfl

theorem length_assigned_masked (d : Document) : d.masked.assigned.length = d.assigned.length := by
  cases d with
  | select d => rfl
  | update d => simp [masked, assigned, UpdateDocument.masked]
  | delete d => rfl

theorem limits_masked (d : Document) : d.masked.limits = d.limits := by
  cases d <;> rfl

theorem places_masked (d : Document) : d.masked.places = d.places := by
  have hgiven (i : Nat) : d.masked.filters[i]?.elim 0 (·.given.length) = d.filters[i]?.elim 0 (·.given.length) := by
    rw [filters_masked, List.getElem?_map]
    cases d.filters[i]? with
    | none => rfl
    | some f =>
      rw [Option.map_some, Option.elim_some, Option.elim_some, f.given_masked, List.length_map]
  unfold places
  simp only [hgiven, length_assigned_masked, limits_masked]
  rw [filters_masked, List.length_map]

theorem map_getElem?_range {α : Type} (l : List α) : (List.range l.length).map (l[·]?) = l.map some := by
  apply List.ext_getElem
  · simp
  · intro i h₁ h₂
    simp

theorem flatMap_getElem?_range {α β : Type} (l : List α) (g : Option α → List β) :
    (List.range l.length).flatMap (fun i => g l[i]?) = l.flatMap (g ∘ some) := by
  rw [← List.flatMap_map (f := (l[·]?)), map_getElem?_range, List.flatMap_map]
  rfl

theorem map_getElem?_bound (f : Filter) :
    (List.range f.given.length).map (f.bound[·]?) = f.given.map some := by
  unfold Filter.given
  split
  · exact map_getElem?_range f.bound
  · rfl

theorem map_value?_operands (d : Document) :
    ((List.range d.filters.length).flatMap fun i =>
      (List.range (d.filters[i]?.elim 0 (·.given.length))).map (.operand i)).map d.value? =
        (d.filters.flatMap Filter.given).map some := by
  have hfilters := flatMap_getElem?_range d.filters fun o =>
    (List.range (o.elim 0 (·.given.length))).map fun j => o.bind (·.bound[j]?)
  simp only [List.map_flatMap, List.map_map, Function.comp_def, value?_operand]
  rw [hfilters]
  simp only [Function.comp_def, Option.elim_some, Option.bind_some, map_getElem?_bound]

/-- What the places hold. -/
theorem map_value?_places (d : Document) :
    d.places.map d.value? = (d.assigned ++ d.filters.flatMap Filter.given ++ d.limits).map some := by
  unfold places
  rw [List.map_append, List.map_append, map_value?_operands, List.map_map, List.map_map, List.map_append,
    List.map_append, ← map_getElem?_range d.assigned, ← map_getElem?_range d.limits]
  rfl

variable {d d' : Document} {f : Fragment}

theorem findSome?_fault_of_statement (h : d.statement = .ok f) : d.filters.findSome? Filter.fault = none := by
  cases hfault : d.filters.findSome? Filter.fault with
  | none => rfl
  | some e =>
    rw [(statement_eq_error_iff_findSome? d).mpr hfault] at h
    cases h

end Document

namespace SelectDocument

variable {d : SelectDocument} {f : Fragment}

theorem exists_conditions (h : (Document.select d).statement = .ok f) :
    ∃ w v, Criterion.condition d.filters = .ok w ∧ Criterion.condition d.having = .ok v := by
  have hfault := Document.findSome?_fault_of_statement h
  rw [Document.filters, List.findSome?_append, Option.or_eq_none_iff] at hfault
  obtain ⟨w, hw⟩ := Criterion.exists_condition hfault.1
  obtain ⟨v, hv⟩ := Criterion.exists_condition hfault.2
  exact ⟨w, v, hw, hv⟩

theorem values_statement (h : (Document.select d).statement = .ok f) :
    f.values = (Document.select d).filters.flatMap Filter.given ++ (Document.select d).limits := by
  obtain ⟨w, v, hw, hv⟩ := exists_conditions h
  rw [Document.filters, List.flatMap_append, ← Criterion.values_condition hw, ← Criterion.values_condition hv,
    Document.limits]
  cases hwindow : d.window with
  | none =>
    rw [statement_of_window_eq_none hw hv hwindow] at h
    cases h
    exact (List.append_nil _).symm
  | some r =>
    obtain ⟨a, b, hsplit⟩ := d.exists_splitFrom?_base w v
    rw [statement_of_window_eq_some hw hv hwindow hsplit] at h
    cases h
    rfl

theorem exists_statement_masked (h : (Document.select d).statement = .ok f) :
    ∃ f', (Document.select d).masked.statement = .ok f' ∧ f'.sql = f.sql := by
  obtain ⟨w, v, hw, hv⟩ := exists_conditions h
  obtain ⟨w', hw', hwtext⟩ := Criterion.condition_maskAll hw
  obtain ⟨v', hv', hvtext⟩ := Criterion.condition_maskAll hv
  have htext : d.masked.head ++ d.masked.tail w' v' = d.head ++ d.tail w v := by
    unfold tail
    rw [hwtext, hvtext]
    rfl
  cases hwindow : d.window with
  | none =>
    rw [statement_of_window_eq_none hw hv hwindow] at h
    cases h
    exact ⟨_, statement_of_window_eq_none (d := d.masked) hw' hv' hwindow, htext⟩
  | some r =>
    obtain ⟨a, b, hsplit⟩ := d.exists_splitFrom?_base w v
    rw [statement_of_window_eq_some hw hv hwindow hsplit] at h
    cases h
    have hsplit' : (d.masked.base w' v').splitFrom? = some (a, b) := by
      rw [← hsplit, Select.splitFrom?, Select.splitFrom?, fragment_base, fragment_base, htext]
    exact ⟨_, statement_of_window_eq_some (d := d.masked) hw' hv' hwindow hsplit', rfl⟩

end SelectDocument

namespace Document

variable {d d' : Document} {f : Fragment}

theorem values_statement (h : d.statement = .ok f) : f.values.map some = d.places.map d.value? := by
  rw [map_value?_places]
  apply congrArg (List.map some)
  cases d with
  | select d => exact SelectDocument.values_statement h
  | update d =>
    obtain ⟨w, hw⟩ := Criterion.exists_condition (findSome?_fault_of_statement h)
    rw [statement_update hw] at h
    cases h
    rw [Criterion.values_condition hw]
    exact (List.append_nil _).symm
  | delete d =>
    obtain ⟨w, hw⟩ := Criterion.exists_condition (findSome?_fault_of_statement h)
    rw [statement_delete hw] at h
    cases h
    rw [Criterion.values_condition hw]
    exact (List.append_nil _).symm

theorem exists_statement_masked (h : d.statement = .ok f) :
    ∃ f', d.masked.statement = .ok f' ∧ f'.sql = f.sql := by
  cases d with
  | select d => exact SelectDocument.exists_statement_masked h
  | update d =>
    obtain ⟨w, hw⟩ := Criterion.exists_condition (findSome?_fault_of_statement h)
    obtain ⟨w', hw', htext⟩ := Criterion.condition_maskAll hw
    rw [statement_update hw] at h
    cases h
    refine ⟨_, statement_update hw', ?_⟩
    have hhead : d.masked.head = d.head := by
      rw [UpdateDocument.head, UpdateDocument.masked, Assignment.texts, List.map_map]
      rfl
    rw [hhead, htext]
  | delete d =>
    obtain ⟨w, hw⟩ := Criterion.exists_condition (findSome?_fault_of_statement h)
    obtain ⟨w', hw', htext⟩ := Criterion.condition_maskAll hw
    rw [statement_delete hw] at h
    cases h
    refine ⟨_, statement_delete hw', ?_⟩
    rw [htext]
    rfl

theorem statement_masked_eq_error_iff {e : DocumentError} (d : Document) :
    d.masked.statement = .error e ↔ d.statement = .error e := by
  rw [statement_eq_error_iff_findSome?, statement_eq_error_iff_findSome?, filters_masked,
    Filter.findSome?_fault_masked]

/-- Documents that are the same behind the mask have the same text or the same error. Their values come from
the same places, each from its own document. -/
theorem statement_of_masked_eq {d d' : Document} (h : d.masked = d'.masked) :
    (∃ e, d.statement = .error e ∧ d'.statement = .error e) ∨
      ∃ sql vs vs', d.statement = .ok ⟨sql, vs⟩ ∧ d'.statement = .ok ⟨sql, vs'⟩ ∧ vs.length = vs'.length ∧
        vs.map some = d.places.map d.value? ∧ vs'.map some = d.places.map d'.value? := by
  have hplaces : d'.places = d.places := by
    rw [← places_masked d', ← h, places_masked]
  cases hd : d.statement with
  | error e =>
    have he := (statement_masked_eq_error_iff d).mpr hd
    rw [h, statement_masked_eq_error_iff] at he
    exact .inl ⟨e, rfl, he⟩
  | ok f =>
    cases hd' : d'.statement with
    | error e =>
      have he := (statement_masked_eq_error_iff d').mpr hd'
      rw [← h, statement_masked_eq_error_iff, hd] at he
      cases he
    | ok f' =>
      obtain ⟨g, hg, hsql⟩ := exists_statement_masked hd
      obtain ⟨g', hg', hsql'⟩ := exists_statement_masked hd'
      rw [h, hg'] at hg
      cases hg
      have hvs := values_statement hd
      have hvs' := values_statement hd'
      rw [hplaces] at hvs'
      have hlength : f.values.length = f'.values.length := by
        have hcount := congrArg List.length hvs
        have hcount' := congrArg List.length hvs'
        rw [List.length_map, List.length_map] at hcount hcount'
        rw [hcount, hcount']
      have hf' : f' = ⟨f.sql, f'.values⟩ := Fragment.eq_mk (hsql'.symm.trans hsql) rfl
      exact .inr ⟨f.sql, f.values, f'.values, rfl, congrArg Except.ok hf', hlength, hvs, hvs'⟩

/-- The first filter is left out, whatever its text. -/
def rewording (name note : Value) (low high : Value) : Document :=
  .update ⟨"hero", [⟨"name", name⟩, ⟨"note", note⟩], [
    .filter ⟨"city", "=", some (.scalar .null), none, .and⟩,
    .group [.filter ⟨"age", "between", none, some [low, high], .and⟩] .or]⟩

theorem statement_of_masked_eq_rewording :
    (rewording (.text "Bob") .null (.int 3) (.int 9)).masked =
        (rewording .null (.text "'; --") (.text "?) OR (1=1") (.bool false)).masked ∧
      ∃ sql vs vs', (rewording (.text "Bob") .null (.int 3) (.int 9)).statement = .ok ⟨sql, vs⟩ ∧
        (rewording .null (.text "'; --") (.text "?) OR (1=1") (.bool false)).statement = .ok ⟨sql, vs'⟩ ∧
        vs.length = vs'.length ∧
        vs.map some = [.assignment 0, .assignment 1, .operand 1 0, .operand 1 1].map
          (rewording (.text "Bob") .null (.int 3) (.int 9)).value? ∧
        vs'.map some = [.assignment 0, .assignment 1, .operand 1 0, .operand 1 1].map
          (rewording .null (.text "'; --") (.text "?) OR (1=1") (.bool false)).value? := by
  have hmasked : (rewording (.text "Bob") .null (.int 3) (.int 9)).masked =
      (rewording .null (.text "'; --") (.text "?) OR (1=1") (.bool false)).masked := rfl
  rcases statement_of_masked_eq hmasked with ⟨e, he, -⟩ | hsame
  · cases he
  · exact ⟨hmasked, hsame⟩

end Document

end BoundSql

import BoundSql.Operator
import BoundSql.Proofs.Alignment
import BoundSql.Proofs.Spelling

/-!
# Operators and their names

A name finds an operator if it spells one of the names in the catalogue. How many placeholders the operator
writes behind a column can be read off that name: two for the names of pairs, none where a list or a subquery
follows, and one for all others.
-/

namespace BoundSql.Operator

open Text

/-! ## Placeholders -/

/-- How many values an operator binds. -/
def arity : Operator → Nat
  | comparison _ | quantified _ _ | pattern _ => 1
  | range _ => 2
  | membership _ | existence _ => 0

theorem arity_le (o : Operator) : o.arity ≤ 2 := by
  cases o <;> simp [arity]

theorem excess_clause (o : Operator) {column : String} (h : Neutral column) :
    (Fragment.text (o.clause column)).Excess o.arity := by
  have hplain {s : String} (hs : Plain s.toList) : (Fragment.text s).Excess 0 :=
    Fragment.excess_neutral hs.neutral
  have hcolumn := (Fragment.excess_neutral h).append (hplain (s := " ") (by decide))
  have hnegation (n : Bool) : (Fragment.text (negation n)).Excess 0 := by
    cases n <;> exact hplain (by decide)
  have hsymbol (c : Comparison) : (Fragment.text c.symbol).Excess 0 := by
    cases c <;> exact hplain (by decide)
  cases o with
  | comparison c =>
    have hmark : (Fragment.text " ?").Excess 1 := ⟨by decide, by decide⟩
    exact (hcolumn.append (hsymbol c)).append hmark
  | quantified c q =>
    have hkeyword : (Fragment.text q.keyword).Excess 0 := by
      cases q <;> exact hplain (by decide)
    have hmark : (Fragment.text "(?)").Excess 1 := ⟨by decide, by decide⟩
    exact (((hcolumn.append (hsymbol c)).append (hplain (s := " ") (by decide))).append hkeyword).append hmark
  | pattern n =>
    have hmark : (Fragment.text "LIKE ?").Excess 1 := ⟨by decide, by decide⟩
    exact (hcolumn.append (hnegation n)).append hmark
  | range n =>
    have hmarks : (Fragment.text "BETWEEN ? AND ?").Excess 2 := ⟨by decide, by decide⟩
    exact (hcolumn.append (hnegation n)).append hmarks
  | membership n => exact (hcolumn.append (hnegation n)).append (hplain (s := "IN ") (by decide))
  | existence n => exact (hnegation n).append (hplain (s := "EXISTS") (by decide))

theorem placeholders_clause (o : Operator) {column : String} (h : Neutral column) :
    placeholders false (o.clause column).toList = o.arity := by
  have hcount := (o.excess_clause h).count
  exact Int.ofNat_inj.mp (by simpa using hcount)

/-! ## Names -/

/-- The names of the operators that bind nothing, since a list or a subquery is written behind them. -/
def unboundNames : List String := ["in", "in_list", "not_in", "not_in_list", "exists", "not_exists"]

theorem respelled_iff_canonical {s t : String} : Respelled s t ↔ canonical s = canonical t := by
  rw [canonical, canonical, String.ofList_inj, map_toLower_trim_eq_iff]

instance (s t : String) : Decidable (Respelled s t) := decidable_of_iff _ respelled_iff_canonical.symm

variable {name : String} {o : Operator}

theorem mem_catalogue (h : ofName? name = some o) : (canonical name, o) ∈ catalogue := by
  obtain ⟨before, rest, hcatalogue, -⟩ := List.lookup_eq_some_iff.mp h
  rw [hcatalogue]
  exact List.mem_append_right before List.mem_cons_self

theorem canonical_of_mem_catalogue {n : String} (h : (n, o) ∈ catalogue) : canonical n = n := by
  have hall : ∀ p ∈ catalogue, canonical p.1 = p.1 := by decide +kernel
  exact hall (n, o) h

/-- No name stands twice in the catalogue. -/
theorem lookup_of_mem_catalogue {n : String} (h : (n, o) ∈ catalogue) : catalogue.lookup n = some o := by
  have hall : ∀ p ∈ catalogue, catalogue.lookup p.1 = some p.2 := by decide +kernel
  exact hall (n, o) h

theorem ofName?_eq_some_iff : ofName? name = some o ↔ ∃ n, (n, o) ∈ catalogue ∧ Respelled n name := by
  constructor
  · intro h
    have hmem := mem_catalogue h
    exact ⟨canonical name, hmem, respelled_iff_canonical.mpr (canonical_of_mem_catalogue hmem)⟩
  · rintro ⟨n, hmem, hspelled⟩
    rw [ofName?, ← respelled_iff_canonical.mp hspelled, canonical_of_mem_catalogue hmem]
    exact lookup_of_mem_catalogue hmem

theorem exists_respelled_iff {names : List String} (h : ∀ n ∈ names, canonical n = n) :
    (∃ n ∈ names, Respelled n name) ↔ canonical name ∈ names := by
  constructor
  · rintro ⟨n, hmem, hspelled⟩
    rwa [← respelled_iff_canonical.mp hspelled, h n hmem]
  · intro hmem
    exact ⟨canonical name, hmem, respelled_iff_canonical.mpr (h _ hmem)⟩

theorem takesPair_iff_exists_respelled : takesPair name = true ↔ ∃ n ∈ pairNames, Respelled n name := by
  rw [exists_respelled_iff (by decide), takesPair, List.contains_iff_mem]

/-! ## The operator of a name -/

theorem takesPair_iff_arity (h : ofName? name = some o) : takesPair name = true ↔ o.arity = 2 := by
  have hall : ∀ p ∈ catalogue, pairNames.contains p.1 = true ↔ p.2.arity = 2 := by decide
  exact hall (canonical name, o) (mem_catalogue h)

theorem exists_unbound_iff_arity (h : ofName? name = some o) :
    (∃ n ∈ unboundNames, Respelled n name) ↔ o.arity = 0 := by
  have hall : ∀ p ∈ catalogue, p.1 ∈ unboundNames ↔ p.2.arity = 0 := by decide
  rw [exists_respelled_iff (by decide)]
  exact hall (canonical name, o) (mem_catalogue h)

theorem arity_eq (h : ofName? name = some o) :
    o.arity = if takesPair name then 2 else if ∃ n ∈ unboundNames, Respelled n name then 0 else 1 := by
  by_cases hpair : takesPair name = true
  · rw [if_pos hpair]
    exact (takesPair_iff_arity h).mp hpair
  · rw [if_neg hpair]
    by_cases hunbound : ∃ n ∈ unboundNames, Respelled n name
    · rw [if_pos hunbound]
      exact (exists_unbound_iff_arity h).mp hunbound
    · rw [if_neg hunbound]
      have hle := o.arity_le
      have htwo : o.arity ≠ 2 := mt (takesPair_iff_arity h).mpr hpair
      have hzero : o.arity ≠ 0 := mt (exists_unbound_iff_arity h).mpr hunbound
      omega

theorem exists_range_of_takesPair (h : takesPair name = true) :
    ∃ negated, ofName? name = some (range negated) := by
  obtain ⟨n, hn, hspelled⟩ := takesPair_iff_exists_respelled.mp h
  have hall : ∀ n ∈ pairNames, ∃ negated, (n, range negated) ∈ catalogue := by decide
  obtain ⟨negated, hmem⟩ := hall n hn
  exact ⟨negated, ofName?_eq_some_iff.mpr ⟨n, hmem, hspelled⟩⟩

theorem lookup_eq_ok_iff : lookup name = .ok o ↔ ofName? name = some o := by
  unfold lookup
  cases ofName? name with
  | none => simp
  | some o' => simp

theorem lookup_eq_error_iff {e : AssemblyError} :
    lookup name = .error e ↔ ofName? name = none ∧ e = .unknownOperator name := by
  unfold lookup
  cases ofName? name with
  | none => simp [eq_comm]
  | some o' => simp

/-- The catalogue, the names of pairs and the placeholders of the operators agree under every spelling of
every name. -/
theorem ofName?_consistent {column : String} (hcolumn : Neutral column) (name : String) :
    (∀ o, ofName? name = some o ↔ ∃ n, (n, o) ∈ catalogue ∧ Respelled n name) ∧
      (takesPair name = true → (ofName? name).isSome = true) ∧
      (∀ o, ofName? name = some o → placeholders false (o.clause column).toList =
        if takesPair name then 2 else if ∃ n ∈ unboundNames, Respelled n name then 0 else 1) ∧
      (∀ other, Respelled name other → ofName? other = ofName? name ∧ takesPair other = takesPair name) ∧
      (∀ o, lookup name = .ok o ↔ ofName? name = some o) ∧
      ∀ e, lookup name = .error e ↔ ofName? name = none ∧ e = .unknownOperator name := by
  refine ⟨fun o => ofName?_eq_some_iff, ?_, ?_, ?_, fun o => lookup_eq_ok_iff, fun e => lookup_eq_error_iff⟩
  · intro hpair
    obtain ⟨negated, hname⟩ := exists_range_of_takesPair hpair
    rw [hname]
    rfl
  · intro o hname
    rw [placeholders_clause o hcolumn, arity_eq hname]
  · intro other hspelled
    have hcanonical := respelled_iff_canonical.mp hspelled
    rw [ofName?, ofName?, takesPair, takesPair, hcanonical]
    exact ⟨rfl, rfl⟩

/-- The name stands between an em space and a line break, and the column holds a `?` inside a literal. -/
theorem ofName?_consistent_padded :
    Neutral "coalesce(t.a, 'it''s ?')" ∧ Respelled "\u2003Not_BETWEEN\n" "not_between" ∧
      ofName? "\u2003Not_BETWEEN\n" = some (range true) ∧ takesPair "\u2003Not_BETWEEN\n" = true ∧
      placeholders false ((range true).clause "coalesce(t.a, 'it''s ?')").toList = 2 := by
  have hcolumn : Neutral "coalesce(t.a, 'it''s ?')" := by decide
  have hspelled : Respelled "\u2003Not_BETWEEN\n" "not_between" := by decide +kernel
  obtain ⟨-, -, hmarks, hspelling, -⟩ := ofName?_consistent hcolumn "\u2003Not_BETWEEN\n"
  obtain ⟨hfound, hpair⟩ := hspelling "not_between" hspelled
  have hname : ofName? "\u2003Not_BETWEEN\n" = some (range true) := hfound.symm.trans (by decide)
  have htakes : takesPair "\u2003Not_BETWEEN\n" = true := hpair.symm.trans (by decide)
  refine ⟨hcolumn, hspelled, hname, htakes, ?_⟩
  rw [hmarks (range true) hname, if_pos htakes]

end BoundSql.Operator

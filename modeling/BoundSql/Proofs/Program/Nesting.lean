import BoundSql.Operator
import BoundSql.Proofs.Nesting
import BoundSql.Proofs.Program.Contract

/-!
# Whatever programs make is closed

Groups and subqueries keep their meaning because a call that opens a parenthesis writes the one that closes
it, and the text between them neither closes the first nor leaves another one open.
-/

namespace BoundSql

open Text

/-- A piece that stands between parentheses, and the text around them. -/
structure Enclosure where
  before : String
  inner : Fragment
  after : String

namespace Enclosure

def within (m : Enclosure) (before after : String) : Enclosure :=
  ⟨before ++ m.before, m.inner, m.after ++ after⟩

/-- The three parts make up a text, and each of them is closed. -/
structure Splits (m : Enclosure) (text : String) : Prop where
  text_eq : text = m.before ++ ("(" ++ m.inner.sql ++ ")") ++ m.after
  before : Closed m.before.toList
  inner : Closed m.inner.sql.toList
  after : Closed m.after.toList

variable {m : Enclosure} {text : String}

theorem Splits.within (h : m.Splits text) {a b : String} (ha : Closed a.toList) (hb : Closed b.toList) :
    (m.within a b).Splits (a ++ text ++ b) where
  text_eq := by
    rw [h.text_eq]
    simp only [Enclosure.within, String.append_assoc]
  before := closed_append ha h.before
  inner := h.inner
  after := closed_append h.after hb

theorem Splits.behind (h : m.Splits text) {a : String} (ha : Closed a.toList) :
    (m.within a "").Splits (a ++ text) := by
  have hw := h.within ha (b := "") (by decide)
  rwa [String.append_empty] at hw

theorem splits_parens {a : String} {q : Fragment} (ha : Closed a.toList) (hq : Closed q.sql.toList) :
    (Enclosure.mk a q "").Splits (a ++ ("(" ++ q.sql ++ ")")) :=
  ⟨(String.append_empty).symm, ha, hq, closed_nil⟩

theorem splits_keyword_parens {a keyword : String} {q : Fragment} (ha : Closed a.toList)
    (hkeyword : Closed keyword.toList) (hq : Closed q.sql.toList) :
    (Enclosure.mk (a ++ keyword) q "").Splits (a ++ (keyword ++ ("(" ++ q.sql ++ ")"))) := by
  rw [← String.append_assoc]
  exact splits_parens (closed_append ha hkeyword) hq

theorem Splits.matched (h : m.Splits text) :
    endsQuoted false m.before.toList = false ∧
      untilClosing? false 0 (m.inner.sql ++ ")" ++ m.after).toList =
        some (m.inner.sql.toList, m.after.toList) := by
  have hclose := h.inner.untilClosing?_eq m.after.toList
  refine ⟨h.before.1, ?_⟩
  rw [String.toList_append, String.toList_append, List.append_assoc]
  exact hclose

end Enclosure

namespace Program

/-- The groups, negated and compound conditions, subqueries and paginated statements that the last call of a
program puts between parentheses. -/
def enclosures {p : Product} : Program p → List Enclosure
  | .inQuery c n q => [⟨c.fragment.sql ++ (if n then " NOT IN " else " IN "), q.fragment, ""⟩]
  | .existence c n q => [⟨c.fragment.sql ++ (if n then "NOT EXISTS" else "EXISTS"), q.fragment, ""⟩]
  | .negate c other => [⟨c.fragment.sql ++ "NOT ", other.fragment, ""⟩]
  | .compound c other => [⟨c.fragment.sql, other.fragment, ""⟩]
  | .group c op other =>
    if other.eval.isEmpty then []
    else [⟨c.fragment.sql ++ (c.eval.joint op).sql, other.fragment, ""⟩]
  | .guarded c op column maker checker given =>
    if (Condition.Guarded.mk op column maker given.eval checker).accepted then
      given.enclosures.map fun m => m.within (c.fragment.sql ++ (c.eval.joint op).sql ++ maker column) ""
    else []
  | .value c rest =>
    (match c.toOperand with
      | .subquery q => [⟨"", q, rest.fragment.sql⟩]
      | _ => []) ++ rest.enclosures.map fun m => m.within c.toOperand.written.sql ""
  | .subquery q _ rest =>
    ⟨"", q.fragment, rest.fragment.sql⟩ ::
      rest.enclosures.map fun m => m.within ("(" ++ q.fragment.sql ++ ")") ""
  | .derived q tableAlias => [⟨"", q.fragment, " " ++ tableAlias⟩]
  | .fromQuery s q tableAlias =>
    [⟨s.fragment.sql ++ " FROM ", q.fragment, tableAlias.elim "" (" " ++ ·)⟩]
  | .comma s source => source.enclosures.map fun m => m.within (s.fragment.sql ++ ",") ""
  | .join s kind source =>
    source.enclosures.map fun m => m.within (s.fragment.sql ++ (" " ++ kind.keyword ++ " ")) ""
  | .joinOn s kind source c =>
    if c.eval.isEmpty then []
    else
      source.enclosures.map fun m =>
        m.within (s.fragment.sql ++ (" " ++ kind.keyword ++ " ")) (c.eval.predicate "ON").sql
  | .window s w =>
    match s.eval.splitFrom? with
    | none => []
    | some (before, rest) =>
      [⟨"SELECT * FROM ", ⟨before ++ w.column ++ rest, s.fragment.values⟩,
        " AS " ++ w.tableAlias ++ w.rowFilter⟩]
  | _ => []

end Program

namespace Contract

/-- The texts of an inserted column have no quotes, so that it may stand inside a literal. -/
def closing : Contract where
  text s := Closed s.toList
  element e := Closed e.toList ∨ (∃ v : Value, e = v.inline) ∨ ∃ i : Item, e = quote i.display
  clause s _ := Closed s.toList
  outside q := Closed q.sql.toList
  window _ w := w.Closed ∧ w.Unquoted

theorem closed_element {e : String} (h : closing.element e) : Closed e.toList := by
  rcases h with h | ⟨v, rfl⟩ | ⟨i, rfl⟩
  · exact h
  · exact v.closed_inline
  · rw [quote, String.toList_ofList]
    exact closed_quoted _

theorem sql_clause (s : String) (os : List Operand) :
    (Fragment.text s ++ .concat (os.map Operand.fragment)).sql =
      s ++ (Fragment.concat (os.map Operand.written)).sql := by
  rw [Fragment.sql_append, Operand.sql_concat]
  rfl

theorem keeps_closed : closing.Keeps fun f _ => Closed f.sql.toList where
  bare h := h.closed
  text h := h
  list h := closed_list fun e he => closed_element (h e he)
  append ha hb := closed_append ha hb
  parens h := closed_parens h
  clause h hos := by
    rw [sql_clause]
    exact closed_append h hos
  assignment {column _} h := by
    have hcolumn : Closed (column ++ " = ?").toList := closed_append h (by decide)
    exact closed_append hcolumn closed_nil
  outside h := h
  window h hs hok := Select.closed_window hs h.1 h.2 hok

end Contract

namespace Program

variable {p : Product}

theorem closed_fragment (e : Program p) (h : e.Meets .closing) : Closed e.fragment.sql.toList :=
  Contract.keeps_closed.holds e h

theorem closed_joint (c : Condition) (op : Connective) : Closed (c.joint op).sql.toList :=
  Contract.keeps_closed.joint c op

theorem closed_join (kind : JoinKind) : Closed (" " ++ kind.keyword ++ " ").toList :=
  Contract.keeps_closed.join_keyword kind

/-- The parts between the parentheses, and those around them, are what earlier calls made. -/
theorem splits_of_mem_enclosures (e : Program p) (h : e.Meets .closing) {m : Enclosure}
    (hm : m ∈ e.enclosures) : m.Splits e.fragment.sql := by
  induction e generalizing m with
  | inQuery c n q =>
    obtain ⟨hc, hq⟩ := h
    obtain rfl := List.mem_singleton.mp hm
    have hkeyword : Closed (if n then " NOT IN " else " IN ").toList := by cases n <;> decide
    exact Enclosure.splits_keyword_parens (c.closed_fragment hc) hkeyword (q.closed_fragment hq)
  | existence c n q =>
    obtain ⟨hc, hq⟩ := h
    obtain rfl := List.mem_singleton.mp hm
    have hkeyword : Closed (if n then "NOT EXISTS" else "EXISTS").toList := by cases n <;> decide
    exact Enclosure.splits_keyword_parens (c.closed_fragment hc) hkeyword (q.closed_fragment hq)
  | negate c other =>
    obtain ⟨hc, ho⟩ := h
    obtain rfl := List.mem_singleton.mp hm
    have hkeyword : Closed "NOT ".toList := by decide
    exact Enclosure.splits_keyword_parens (c.closed_fragment hc) hkeyword (other.closed_fragment ho)
  | compound c other =>
    obtain ⟨hc, ho⟩ := h
    obtain rfl := List.mem_singleton.mp hm
    exact Enclosure.splits_parens (c.closed_fragment hc) (other.closed_fragment ho)
  | group c op other =>
    obtain ⟨hc, ho⟩ := h
    have hclosed := other.closed_fragment ho
    have hgroup : (group c op other).fragment = (c.eval.group op other.eval).fragment := rfl
    rw [enclosures] at hm
    rw [hgroup]
    change Closed other.eval.fragment.sql.toList at hclosed
    change m ∈ if other.eval.isEmpty then [] else [⟨_, other.eval.fragment, ""⟩] at hm
    cases hother : other.eval with
    | empty =>
      rw [hother] at hm
      cases hm
    | written f =>
      rw [hother] at hm hclosed
      obtain rfl := List.mem_singleton.mp hm
      exact Enclosure.splits_keyword_parens (c.closed_fragment hc) (closed_joint c.eval op) hclosed
  | guarded c op column maker checker given ihc ihg =>
    obtain ⟨hc, hg, hclause⟩ := h
    have hguarded : (guarded c op column maker checker given).fragment =
        (c.eval.guarded ⟨op, column, maker, given.eval, checker⟩).fragment := rfl
    rw [enclosures] at hm
    rw [hguarded, Condition.guarded]
    split at hm
    · rename_i haccepted
      obtain ⟨n, hn, rfl⟩ := List.mem_map.mp hm
      have hbefore := closed_append (closed_append (c.closed_fragment hc) (closed_joint c.eval op)) hclause
      have hsplit := (ihg hg hn).behind hbefore
      have hgiven := Contract.sql_clause (maker column) (given.eval.map Candidate.toOperand)
      rw [List.map_map] at hgiven
      have hsql : (c.eval.attach op (Condition.Guarded.mk op column maker given.eval checker).piece).fragment.sql =
          c.fragment.sql ++ (c.eval.joint op).sql ++ maker column ++ given.fragment.sql := by
        rw [String.append_assoc, String.append_assoc]
        exact congrArg (fun t => c.fragment.sql ++ ((c.eval.joint op).sql ++ t)) hgiven
      rw [if_pos haccepted, hsql]
      exact hsplit
    · cases hm
  | value c rest ihr =>
    obtain ⟨ho, hr⟩ := h
    have hrest := rest.closed_fragment hr
    have hsql : (value c rest).fragment.sql = c.toOperand.written.sql ++ rest.fragment.sql := by
      show (Fragment.concat (c.toOperand.written :: _)).sql = _
      rw [Fragment.concat_cons]
      rfl
    rw [enclosures] at hm
    rw [hsql]
    rcases List.mem_append.mp hm with hm | hm
    · split at hm
      · rename_i q hq
        obtain rfl := List.mem_singleton.mp hm
        rw [hq] at ho ⊢
        exact ⟨(String.empty_append).symm ▸ rfl, closed_nil, ho, hrest⟩
      · cases hm
    · obtain ⟨n, hn, rfl⟩ := List.mem_map.mp hm
      exact (ihr hr hn).behind (Contract.keeps_closed.operand ho)
  | subquery q converted rest ihq ihr =>
    obtain ⟨hq, hr⟩ := h
    have hwritten : (Candidate.toOperand
        (if converted then .operand (.subquery q.eval) else .query q.eval)).written = q.fragment.parens := by
      cases converted <;> rfl
    have hsql : (subquery q converted rest).fragment.sql = "(" ++ q.fragment.sql ++ ")" ++ rest.fragment.sql := by
      show (Fragment.concat (Operand.written _ :: _)).sql = _
      rw [Fragment.concat_cons, hwritten]
      rfl
    rw [hsql]
    rcases List.mem_cons.mp hm with rfl | hm
    · exact ⟨(String.empty_append).symm ▸ rfl, closed_nil, q.closed_fragment hq, rest.closed_fragment hr⟩
    · obtain ⟨n, hn, rfl⟩ := List.mem_map.mp hm
      exact (ihr hr hn).behind (closed_parens (q.closed_fragment hq))
  | derived q tableAlias =>
    obtain ⟨hq, halias⟩ := h
    obtain rfl := List.mem_singleton.mp hm
    refine ⟨?_, closed_nil, q.closed_fragment hq, closed_append (by decide) halias⟩
    rw [String.empty_append]
    rfl
  | fromQuery s q tableAlias =>
    obtain ⟨hs, hq, ha⟩ := h
    obtain rfl := List.mem_singleton.mp hm
    have halias : Closed (tableAlias.elim "" (" " ++ ·)).toList := by
      cases tableAlias with
      | none => exact closed_nil
      | some a => exact closed_append (by decide) (ha a rfl)
    have hsql : (fromQuery s q tableAlias).fragment.sql =
        s.fragment.sql ++ (" FROM " ++ ("(" ++ q.fragment.sql ++ ")") ++ tableAlias.elim "" (" " ++ ·)) := rfl
    refine ⟨?_, closed_append (s.closed_fragment hs) (by decide), q.closed_fragment hq, halias⟩
    rw [hsql]
    simp only [String.append_assoc]
  | comma s source ihs ihsource =>
    obtain ⟨hs, hsource⟩ := h
    obtain ⟨n, hn, rfl⟩ := List.mem_map.mp hm
    have hsql : (comma s source).fragment.sql = s.fragment.sql ++ "," ++ source.fragment.sql :=
      String.append_assoc.symm
    rw [hsql]
    exact (ihsource hsource hn).behind (closed_append (s.closed_fragment hs) (by decide))
  | join s kind source ihs ihsource =>
    obtain ⟨hs, hsource⟩ := h
    obtain ⟨n, hn, rfl⟩ := List.mem_map.mp hm
    have hsql : (join s kind source).fragment.sql =
        s.fragment.sql ++ (" " ++ kind.keyword ++ " ") ++ source.fragment.sql := String.append_assoc.symm
    rw [hsql]
    exact (ihsource hsource hn).behind (closed_append (s.closed_fragment hs) (closed_join kind))
  | joinOn s kind source c ihs ihsource ihc =>
    obtain ⟨hs, hsource, hc⟩ := h
    have hjoin : (joinOn s kind source c).fragment = (s.eval.joinOn kind source.eval c.eval).fragment := rfl
    rw [enclosures] at hm
    rw [hjoin, Select.joinOn]
    split at hm
    · cases hm
    · rename_i hempty
      obtain ⟨n, hn, rfl⟩ := List.mem_map.mp hm
      have hon : Closed (c.eval.predicate "ON").sql.toList :=
        Contract.keeps_closed.predicate (x := []) (c.closed_fragment hc)
      have hsql : ((s.eval.join kind source.eval).on c.eval).fragment.sql =
          s.fragment.sql ++ (" " ++ kind.keyword ++ " ") ++ source.fragment.sql ++ (c.eval.predicate "ON").sql :=
        congrArg (· ++ (c.eval.predicate "ON").sql) String.append_assoc.symm
      rw [if_neg hempty]
      exact hsql ▸ (ihsource hsource hn).within (closed_append (s.closed_fragment hs) (closed_join kind)) hon
  | window s w =>
    obtain ⟨hs, hw, hquote⟩ := h
    rw [enclosures] at hm
    split at hm
    · cases hm
    · rename_i before rest hsplit
      obtain rfl := List.mem_singleton.mp hm
      have hselect : Closed "SELECT * FROM ".toList := by decide
      have hspliced := Select.closed_spliced (s.closed_fragment hs) hw hquote hsplit
      have halias : Closed (" AS " ++ w.tableAlias).toList := closed_append (by decide) hw.tableAlias
      refine ⟨?_, hselect, hspliced, closed_append halias hw.rowFilter⟩
      show (Select.fragment (Program.eval (window s w))).sql = _
      rw [eval_window, Select.window_eq_wrapped hsplit w]
  | _ => cases hm

/-- No text that a program makes on its way leaves a parenthesis or a literal open. What a call puts between
two parentheses is all that stands between the first and the one that closes it. -/
theorem closed_of_mem_produced (e : Program p) (h : e.Meets .closing) :
    (∀ f ∈ e.produced, Closed f.sql.toList) ∧
      ∀ m ∈ e.enclosures,
        e.fragment.sql = m.before ++ ("(" ++ m.inner.sql ++ ")") ++ m.after ∧
          endsQuoted false m.before.toList = false ∧
            untilClosing? false 0 (m.inner.sql ++ ")" ++ m.after).toList =
              some (m.inner.sql.toList, m.after.toList) := by
  constructor
  · exact e.forall_produced (fun e he => e.closed_fragment he) h
  · intro m hm
    have hsplit := splits_of_mem_enclosures e h hm
    exact ⟨hsplit.text_eq, hsplit.matched⟩

/-- A list whose elements hold a quote and parentheses of their own. -/
def smiling : Program .condition :=
  .inList (.text .empty "lower(t.face)") false (Literal.quoteAll [.text "it's :(", .text ")"])

/-- The numbering column is inserted inside a literal. -/
def faces : Program .select :=
  .window (.filter (.fromTable (.elements .start ["'( FROM )'", "t.id"]) "t") (.group smiling .or smiling))
    ⟨.rank, "p", "rn", "lower(t.id)", 0, 10⟩

def unseen : Program .condition :=
  .guarded smiling .and "t.id" (Operator.clause · (.membership true)) Checker.valid
    (.subquery (.ofSelect faces) false .noValues)

theorem closed_of_mem_produced_unseen :
    unseen.Meets .closing ∧ (∀ f ∈ unseen.produced, Closed f.sql.toList) ∧
      ∀ m ∈ unseen.enclosures,
        unseen.fragment.sql = m.before ++ ("(" ++ m.inner.sql ++ ")") ++ m.after ∧
          endsQuoted false m.before.toList = false ∧
            untilClosing? false 0 (m.inner.sql ++ ")" ++ m.after).toList =
              some (m.inner.sql.toList, m.after.toList) := by
  have hquoted : ∀ e ∈ Literal.quoteAll [.text "it's :(", .text ")"], Contract.closing.element e := by
    intro e he
    obtain ⟨i, -, rfl⟩ := List.mem_map.mp he
    exact .inr (.inr ⟨i, rfl⟩)
  have hface : Closed "lower(t.face)".toList := by decide
  have hsmiling : smiling.Meets .closing := ⟨⟨trivial, hface⟩, hquoted⟩
  have hcolumns : ∀ c ∈ ["'( FROM )'", "t.id"], Closed c.toList := by decide
  have htable : Closed "t".toList := by decide
  have hwindow : Window.Closed ⟨.rank, "p", "rn", "lower(t.id)", 0, 10⟩ :=
    ⟨by decide, by decide, by decide⟩
  have hfaces : faces.Meets .closing :=
    ⟨⟨⟨⟨trivial, hcolumns⟩, htable⟩, hsmiling, hsmiling⟩, hwindow, by decide, by decide⟩
  have hclause : Closed (Operator.clause "t.id" (.membership true)).toList := by decide
  have hmeets : unseen.Meets .closing := ⟨hsmiling, ⟨hfaces, trivial⟩, hclause⟩
  exact ⟨hmeets, closed_of_mem_produced unseen hmeets⟩

end Program

end BoundSql

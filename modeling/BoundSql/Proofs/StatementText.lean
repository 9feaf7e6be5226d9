import BoundSql.Proofs.Criteria.Pruning
import BoundSql.Proofs.Splitting

/-!
# The text of a statement

What a document writes, part by part. Every part of a SELECT statement may be missing, and every list is
separated by commas of its own. The numbering column of a window stands before the source.
-/

namespace BoundSql

theorem Fragment.eq_mk {f : Fragment} {s : String} {vs : List Value} (hs : f.sql = s) (hvs : f.values = vs) :
    f = ⟨s, vs⟩ := by
  subst hs hvs
  rfl

theorem Fragment.append_text_append (f : Fragment) (s t : String) :
    f ++ .text s ++ .text t = f ++ .text (s ++ t) := Fragment.append_assoc f (.text s) (.text t)

/-- The text of a condition behind a keyword. -/
def Condition.predicateText (keyword : String) (c : Condition) : String :=
  if c.isEmpty then "" else " " ++ keyword ++ " " ++ c.sql

theorem Condition.predicate_eq (keyword : String) (c : Condition) :
    c.predicate keyword = ⟨c.predicateText keyword, c.values⟩ := by
  cases c with
  | empty => rfl
  | written f => exact Fragment.eq_mk rfl (List.nil_append _)

theorem Criterion.predicateText_condition {criteria : List Criterion} {c : Condition}
    (h : condition criteria = .ok c) (keyword : String) :
    c.predicateText keyword =
      if (prune criteria).isEmpty then "" else " " ++ keyword ++ " " ++ renderAll (prune criteria) := by
  obtain ⟨rfl, -⟩ := addAll_eq_ok criteria h
  rw [Condition.predicateText, isEmpty_attachAll_empty, Condition.sql, fragment_attachAll_empty]

namespace Select

/-- Elements behind an element. -/
theorem elements_open (f : Fragment) (column : String) (columns : List String) :
    elements ⟨f, true⟩ (column :: columns) =
      ⟨f ++ .text ("," ++ ",".intercalate (column :: columns)), true⟩ := by
  induction columns generalizing f column with
  | nil =>
    rw [String.intercalate_singleton]
    rfl
  | cons next columns ih =>
    have hstep : elements ⟨f, true⟩ (column :: next :: columns) =
        elements ⟨f ++ .text ("," ++ column), true⟩ (next :: columns) := rfl
    rw [hstep, ih, Fragment.append_text_append, String.intercalate_cons_cons, String.append_assoc,
      String.append_assoc]

theorem elements_closed (f : Fragment) (column : String) (columns : List String) :
    elements ⟨f, false⟩ (column :: columns) =
      ⟨f ++ .text (",".intercalate (column :: columns)), true⟩ := by
  have hstep : elements ⟨f, false⟩ (column :: columns) = elements ⟨f ++ .text column, true⟩ columns := rfl
  cases columns with
  | nil =>
    rw [hstep, String.intercalate_singleton]
    rfl
  | cons next columns =>
    rw [hstep, elements_open, Fragment.append_text_append, String.intercalate_cons_cons, String.append_assoc]

theorem fragment_filter (s : Select) (c : Condition) :
    (s.filter c).fragment = s.fragment ++ ⟨c.predicateText "WHERE", c.values⟩ :=
  congrArg (s.fragment ++ ·) (c.predicate_eq "WHERE")

theorem fragment_having (s : Select) (c : Condition) :
    (s.having c).fragment = s.fragment ++ ⟨c.predicateText "HAVING", c.values⟩ :=
  congrArg (s.fragment ++ ·) (c.predicate_eq "HAVING")

/-- What is written behind an element belongs to it. -/
theorem push_text_element (s : Select) (column t : String) :
    (s.element column).push (.text t) = s.element (column ++ t) := by
  unfold element push
  rw [Fragment.append_text_append]
  cases s.listOpen with
  | false => rfl
  | true =>
    rw [if_pos rfl, if_pos rfl, String.append_assoc]

end Select

namespace Window

/-- The rows between the given bounds. -/
def rowFilter (w : Window) : String :=
  (if 0 ≤ w.min then " WHERE " ++ w.rowAlias ++ " >= ?" else "") ++
    if 0 ≤ w.max then (if 0 ≤ w.min then " AND " else " WHERE ") ++ w.rowAlias ++ " < ?" else ""

def limits (w : Window) : List Value :=
  (if 0 ≤ w.min then [.int w.min] else []) ++ if 0 ≤ w.max then [.int w.max] else []

theorem predicate_eq (w : Window) : w.predicate = ⟨w.rowFilter, w.limits⟩ := by
  unfold predicate bounds rowFilter limits
  apply Fragment.eq_mk
  · by_cases hmin : 0 ≤ w.min <;> by_cases hmax : 0 ≤ w.max <;>
      simp [hmin, hmax, Fragment.concat, String.append_assoc]
  · by_cases hmin : 0 ≤ w.min <;> by_cases hmax : 0 ≤ w.max <;> simp [hmin, hmax, Fragment.concat]

/-- A statement that was cut into `a` and `b`, with the numbering column between the pieces. -/
def wrap (w : Window) (a b : String) : String :=
  "SELECT * FROM (" ++ a ++ w.column ++ b ++ ") AS " ++ w.tableAlias ++ w.rowFilter

theorem wrapped_eq_mk (w : Window) (a b : String) (vs : List Value) :
    .text "SELECT * FROM (" ++ ⟨a ++ w.column ++ b, vs⟩ ++ .text (") AS " ++ w.tableAlias) ++ w.predicate =
      Fragment.mk (w.wrap a b) (vs ++ w.limits) := by
  rw [w.predicate_eq]
  apply Fragment.eq_mk
  · unfold wrap
    simp [String.append_assoc]
  · simp

end Window

theorem Select.window_of_splitFrom? {s : Select} {a b : String} (h : s.splitFrom? = some (a, b)) (w : Window) :
    s.window w = .ok ⟨⟨w.wrap a b, s.fragment.values ++ w.limits⟩, false⟩ := by
  unfold window
  simp only [h]
  rw [w.wrapped_eq_mk]

namespace SelectDocument

/-- A list behind a keyword, or nothing. -/
def listText (keyword : String) : List String → String
  | [] => ""
  | columns => " " ++ keyword ++ " " ++ ",".intercalate columns

theorem fragment_elements_close (s : Select) (keyword column : String) (columns : List String) :
    ((s.close (.text (" " ++ keyword ++ " "))).elements (column :: columns)).fragment =
      s.fragment ++ .text (listText keyword (column :: columns)) := by
  have hclose : s.close (.text (" " ++ keyword ++ " ")) = ⟨s.fragment ++ .text (" " ++ keyword ++ " "), false⟩ := rfl
  rw [hclose, Select.elements_closed, Fragment.append_text_append]
  rfl

/-- All that stands before the source. -/
def head (d : SelectDocument) : String :=
  "SELECT " ++ (if d.distinct then "DISTINCT " else "") ++
    if d.fields.isEmpty then "*" else ",".intercalate d.fields

def orderText (o : Order) : String := o.column ++ if o.descending then " DESC" else " ASC"

def pagination (d : SelectDocument) : String :=
  match d.limit with
  | some rows =>
    " LIMIT " ++ rows.toNat.repr ++ d.offset.elim "" fun skipped => " OFFSET " ++ skipped.toNat.repr
  | none =>
    (d.offset.elim "" fun skipped => " OFFSET " ++ skipped.toNat.repr ++ " ROWS") ++
      d.fetch.elim "" fun rows => " FETCH FIRST " ++ rows.toNat.repr ++ " ROWS ONLY"

/-- The source and all that follows it, with the two conditions. -/
def tail (d : SelectDocument) (w h : Condition) : String :=
  " FROM " ++ d.table ++ w.predicateText "WHERE" ++ listText "GROUP BY" d.groupBy ++
    h.predicateText "HAVING" ++ listText "ORDER BY" (d.orderBy.map orderText) ++ d.pagination

variable (d : SelectDocument) (s : Select)

theorem fragment_source : d.source.fragment = .text (d.head ++ " FROM " ++ d.table) := by
  have hstart : (if d.distinct then Select.distinct {} else {} : Select) =
      ⟨.text ("SELECT " ++ if d.distinct then "DISTINCT " else ""), false⟩ := by
    cases d.distinct <;> rfl
  have helements : (Select.elements (if d.distinct then Select.distinct {} else {})
      (if d.fields.isEmpty then ["*"] else d.fields)).fragment = .text d.head := by
    rw [hstart, head]
    cases d.fields with
    | nil => rfl
    | cons field fields => exact congrArg Select.fragment (Select.elements_closed _ field fields)
  have hfrom : d.source.fragment = (Select.elements (if d.distinct then Select.distinct {} else {})
      (if d.fields.isEmpty then ["*"] else d.fields)).fragment ++ .text (" FROM " ++ d.table) := rfl
  rw [hfrom, helements, String.append_assoc]
  rfl

theorem fragment_grouped :
    (d.grouped s).fragment = s.fragment ++ .text (listText "GROUP BY" d.groupBy) := by
  unfold grouped
  cases d.groupBy with
  | nil => exact (Fragment.append_empty s.fragment).symm
  | cons column columns => exact fragment_elements_close s "GROUP BY" column columns

theorem direction_element (o : Order) : direction (s.element o.column) o = s.element (orderText o) := by
  unfold direction orderText
  split
  · exact s.push_text_element o.column " DESC"
  · exact s.push_text_element o.column " ASC"

theorem foldl_direction_element (os : List Order) :
    os.foldl (fun s o => direction (s.element o.column) o) s = s.elements (os.map orderText) := by
  rw [Select.elements, List.foldl_map]
  congr 1
  funext s o
  exact direction_element s o

theorem fragment_ordered :
    (d.ordered s).fragment = s.fragment ++ .text (listText "ORDER BY" (d.orderBy.map orderText)) := by
  unfold ordered
  cases d.orderBy with
  | nil => exact (Fragment.append_empty s.fragment).symm
  | cons o os =>
    have hfirst : direction (s.orderBy o.column) o = (s.close (.text " ORDER BY ")).element (orderText o) :=
      direction_element _ o
    dsimp only
    rw [foldl_direction_element, hfirst]
    exact fragment_elements_close s "ORDER BY" (orderText o) (os.map orderText)

theorem fragment_paginated : (d.paginated s).fragment = s.fragment ++ .text d.pagination := by
  unfold paginated pagination
  cases d.limit with
  | some rows =>
    cases d.offset with
    | none => simp [Select.limit]
    | some skipped => exact Fragment.append_text_append _ _ _
  | none =>
    cases d.offset with
    | none =>
      cases d.fetch with
      | none => exact (Fragment.append_empty s.fragment).symm
      | some rows => simp [Select.fetch]
    | some skipped =>
      cases d.fetch with
      | none => simp [Select.offset]
      | some rows => exact Fragment.append_text_append _ _ _

/-- The statement before it is paginated by a window. -/
def base (w h : Condition) : Select :=
  d.paginated (d.ordered ((d.grouped (d.source.filter w)).having h))

theorem fragment_base (w h : Condition) :
    (d.base w h).fragment = ⟨d.head ++ d.tail w h, w.values ++ h.values⟩ := by
  rw [base, fragment_paginated, fragment_ordered, Select.fragment_having, fragment_grouped,
    Select.fragment_filter, fragment_source]
  apply Fragment.eq_mk
  · simp [tail, String.append_assoc]
  · simp

theorem tail_eq (w h : Condition) : ∃ rest, d.tail w h = " FROM" ++ rest := by
  have hfrom : " FROM " = " FROM" ++ " " := by decide
  simp only [tail, hfrom, String.append_assoc]
  exact ⟨_, rfl⟩

variable {d : SelectDocument} {w h : Condition}

theorem select_eq (hw : Criterion.condition d.filters = .ok w) (hh : Criterion.condition d.having = .ok h) :
    d.select = match d.window with
      | none => .ok (d.base w h)
      | some v => DocumentError.lift ((d.base w h).window v) := by
  unfold select
  rw [hw, hh]
  rfl

theorem statement_of_window_eq_none (hw : Criterion.condition d.filters = .ok w)
    (hh : Criterion.condition d.having = .ok h) (hnone : d.window = none) :
    (Document.select d).statement = .ok ⟨d.head ++ d.tail w h, w.values ++ h.values⟩ := by
  have hselect := select_eq hw hh
  rw [hnone] at hselect
  rw [Document.statement, hselect, ← fragment_base]
  rfl

theorem statement_of_window_eq_some (hw : Criterion.condition d.filters = .ok w)
    (hh : Criterion.condition d.having = .ok h) {v : Window} (hwindow : d.window = some v) {a b : String}
    (hsplit : (d.base w h).splitFrom? = some (a, b)) :
    (Document.select d).statement = .ok
      ⟨"SELECT * FROM (" ++ a ++ v.column ++ b ++ ") AS " ++ v.tableAlias ++ v.rowFilter,
        w.values ++ h.values ++ v.limits⟩ := by
  have hselect := select_eq hw hh
  rw [hwindow] at hselect
  dsimp only at hselect
  rw [Document.statement, hselect, Select.window_of_splitFrom? hsplit, fragment_base]
  rfl

/-- The text and the values of a SELECT document, from its two conditions. -/
theorem statement_eq_of_conditions (hw : Criterion.condition d.filters = .ok w)
    (hh : Criterion.condition d.having = .ok h) :
    (d.window = none →
      (Document.select d).statement = .ok ⟨d.head ++ d.tail w h, w.values ++ h.values⟩) ∧
    ∀ v, d.window = some v → ¬ " FROM".toList <:+: d.head.toList →
      (Document.select d).statement = .ok
        ⟨"SELECT * FROM (" ++ d.head ++ ("," ++ v.numbering.call ++ " OVER(ORDER BY " ++ v.orderBy ++ ") AS " ++
            v.rowAlias) ++ d.tail w h ++ ") AS " ++ v.tableAlias ++ v.rowFilter,
          w.values ++ h.values ++ v.limits⟩ := by
  constructor
  · exact statement_of_window_eq_none hw hh
  · intro v hwindow hhead
    obtain ⟨rest, htail⟩ := d.tail_eq w h
    have hsplit : (d.base w h).splitFrom? = some (d.head, d.tail w h) := by
      have hsql := congrArg Fragment.sql (d.fragment_base w h)
      rw [htail] at hsql ⊢
      exact Select.splitFrom?_eq hsql hhead
    exact statement_of_window_eq_some hw hh hwindow hsplit

/-- All parts at once. An operand has a ` FROM` too, behind that of the document. -/
def report : SelectDocument where
  table := "hero"
  distinct := true
  fields := ["city", "max(age)"]
  filters := [
    .filter ⟨"city", "in", some (.list [.text "FAR FROM"]), none, .and⟩,
    .filter ⟨"age", "between", none, some [.int 3, .int 9], .or⟩]
  groupBy := ["city", "team"]
  having := [.filter ⟨"max(age)", ">", some (.scalar (.int 1)), none, .and⟩]
  orderBy := [⟨"city", false⟩, ⟨"team", true⟩]
  offset := some 5
  fetch := some 10
  window := some { tableAlias := "p", rowAlias := "n", orderBy := "city", min := 0, max := 20 }

theorem statement_eq_of_conditions_report :
    Criterion.condition report.filters = .ok (.written
        ⟨"city IN ('FAR FROM') OR age BETWEEN ? AND ?", [.int 3, .int 9]⟩) ∧
      Criterion.condition report.having = .ok (.written ⟨"max(age) > ?", [.int 1]⟩) ∧
      ¬ " FROM".toList <:+: report.head.toList ∧
      (Document.select report).statement = .ok
        ⟨"SELECT * FROM (SELECT DISTINCT city,max(age),row_number() OVER(ORDER BY city) AS n FROM hero" ++
            " WHERE city IN ('FAR FROM') OR age BETWEEN ? AND ? GROUP BY city,team HAVING max(age) > ?" ++
            " ORDER BY city ASC,team DESC OFFSET 5 ROWS FETCH FIRST 10 ROWS ONLY) AS p WHERE n >= ? AND n < ?",
          [.int 3, .int 9, .int 1, .int 0, .int 20]⟩ := by
  have hw : Criterion.condition report.filters = .ok (.written
      ⟨"city IN ('FAR FROM') OR age BETWEEN ? AND ?", [.int 3, .int 9]⟩) := rfl
  have hh : Criterion.condition report.having = .ok (.written ⟨"max(age) > ?", [.int 1]⟩) := rfl
  have hhead : ¬ " FROM".toList <:+: report.head.toList := by decide +kernel
  have hstatement := (statement_eq_of_conditions hw hh).2 _ rfl hhead
  refine ⟨hw, hh, hhead, ?_⟩
  rw [hstatement]
  apply congrArg Except.ok
  exact Fragment.eq_mk (by decide +kernel) rfl

end SelectDocument

namespace Assignment

def text (a : Assignment) : String := a.column ++ " = ?"

def texts (as : List Assignment) : String := ", ".intercalate (as.map text)

theorem texts_singleton (a : Assignment) : texts [a] = a.text := String.intercalate_singleton

theorem texts_cons_cons (a b : Assignment) (as : List Assignment) :
    texts (a :: b :: as) = a.text ++ ", " ++ texts (b :: as) := String.intercalate_cons_cons

end Assignment

namespace UpdateDocument

/-- Assignments behind an assignment. -/
theorem foldl_assign_open (f : Fragment) (n : Nat) (a : Assignment) (as : List Assignment) :
    ((a :: as).foldl (fun (u : Update) a => u.assign a.column a.value) ⟨f, n + 1⟩).fragment =
      f ++ ⟨", " ++ Assignment.texts (a :: as), (a :: as).map Assignment.value⟩ := by
  have hassign (f : Fragment) (n : Nat) (a : Assignment) :
      Update.assign ⟨f, n + 1⟩ a.column a.value = ⟨f ++ ⟨", " ++ a.text, [a.value]⟩, n + 2⟩ := by
    unfold Update.assign
    dsimp only
    rw [if_pos (Nat.succ_pos n), Fragment.append_text_append, Fragment.append_assoc]
    exact congrArg (fun piece => Update.mk (f ++ piece) (n + 2)) (Fragment.text_append_mk _ [a.value])
  induction as generalizing f n a with
  | nil =>
    rw [List.foldl_cons, hassign, Assignment.texts_singleton]
    rfl
  | cons b bs ih =>
    rw [List.foldl_cons, hassign, ih, Fragment.append_assoc, Assignment.texts_cons_cons]
    apply congrArg (f ++ ·)
    apply Fragment.eq_mk
    · simp [String.append_assoc]
    · simp

/-- All that stands before the condition. -/
def head (d : UpdateDocument) : String :=
  "UPDATE " ++ d.table ++ " SET " ++ Assignment.texts d.assignments

theorem fragment_foldl_assign (d : UpdateDocument) :
    (d.assignments.foldl (fun u a => u.assign a.column a.value) (Update.ofTable d.table)).fragment =
      ⟨d.head, d.assignments.map Assignment.value⟩ := by
  have hassign (a : Assignment) : (Update.ofTable d.table).assign a.column a.value =
      ⟨⟨"UPDATE " ++ d.table ++ " SET " ++ a.text, [a.value]⟩, 1⟩ := by
    unfold Update.assign Update.ofTable
    apply congrArg (Update.mk · 1)
    apply Fragment.eq_mk
    · simp [Assignment.text, String.append_assoc]
    · simp
  unfold head
  cases d.assignments with
  | nil => simp [Update.ofTable, Fragment.text, Assignment.texts]
  | cons a as =>
    rw [List.foldl_cons, hassign]
    cases as with
    | nil =>
      rw [Assignment.texts_singleton]
      rfl
    | cons b bs =>
      rw [foldl_assign_open, Assignment.texts_cons_cons]
      apply Fragment.eq_mk
      · simp [String.append_assoc]
      · simp

end UpdateDocument

namespace Document

variable {w : Condition}

theorem statement_update {d : UpdateDocument} (hw : Criterion.condition d.filters = .ok w) :
    (Document.update d).statement =
      .ok ⟨d.head ++ w.predicateText "WHERE", d.assignments.map Assignment.value ++ w.values⟩ := by
  have hfilter (u : Update) : (u.filter w).fragment = u.fragment ++ ⟨w.predicateText "WHERE", w.values⟩ :=
    congrArg (u.fragment ++ ·) (w.predicate_eq "WHERE")
  rw [statement, UpdateDocument.update, hw]
  apply congrArg Except.ok
  rw [hfilter, UpdateDocument.fragment_foldl_assign]
  rfl

theorem statement_delete {d : DeleteDocument} (hw : Criterion.condition d.filters = .ok w) :
    (Document.delete d).statement = .ok ⟨"DELETE FROM " ++ d.table ++ w.predicateText "WHERE", w.values⟩ := by
  rw [statement, DeleteDocument.delete, hw]
  apply congrArg Except.ok
  rw [Delete.fragment_filter, w.predicate_eq]
  rfl

end Document

end BoundSql

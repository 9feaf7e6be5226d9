import BoundSql.Proofs.StatementText

/-!
# SELECT statements as syntax trees

The sources and the branches of a statement may be statements themselves. The calls that write such a tree
part by part give its text, and its values in the order in which the text binds them.
-/

namespace BoundSql

namespace SelectTree

structure Column where
  expression : String
  columnAlias : Option String := none

inductive Direction where
  | ascending
  | descending

structure Key where
  expression : String
  direction : Option Direction := none

/-- The parts of a statement that hold no other statement. -/
structure Frame where
  distinct : Bool := false
  column : Column
  columns : List Column := []
  filter : Condition := .empty
  having : Condition := .empty
  /-- `HAVING` stands before `GROUP BY`, not behind it. -/
  havingFirst : Bool := false
  groupBy : List String := []
  orderBy : List Key := []
  offset : Option UInt64 := none
  fetch : Option UInt64 := none

end SelectTree

mutual

inductive SelectTree where
  | mk (frame : SelectTree.Frame) (origin : SelectTree.Origin) (links : List SelectTree.Link)
      (branches : List SelectTree.Branch)

/-- The first source. -/
inductive SelectTree.Origin where
  | table (name : String)
  | tree (t : SelectTree) (tableAlias : Option String)

/-- What is joined. -/
inductive SelectTree.Place where
  | table (name : String)
  | tree (t : SelectTree) (tableAlias : String)

/-- A further source. -/
inductive SelectTree.Link where
  | comma (place : SelectTree.Place)
  | join (kind : JoinKind) (place : SelectTree.Place)
  | joinOn (kind : JoinKind) (place : SelectTree.Place) (c : Condition)

/-- A statement behind `UNION` or `UNION ALL`. -/
inductive SelectTree.Branch where
  | mk (all : Bool) (t : SelectTree)

end

namespace SelectTree

/-! ## The calls that write a tree -/

def Column.calls (c : Column) : List Select.Call :=
  .elements [c.expression] :: (c.columnAlias.map Select.Call.columnAlias).toList

def Direction.call : Direction → Select.Call
  | ascending => .ascending
  | descending => .descending

def Key.directionCalls (k : Key) : List Select.Call := (k.direction.map Direction.call).toList

def Key.calls (k : Key) : List Select.Call := .elements [k.expression] :: k.directionCalls

namespace Frame

def headCalls (f : Frame) : List Select.Call :=
  (if f.distinct then [.distinct] else []) ++ (f.column :: f.columns).flatMap Column.calls

def groupCalls (f : Frame) : List Select.Call :=
  match f.groupBy with
  | [] => []
  | column :: columns => .groupBy column :: columns.map fun column => .elements [column]

def filterCalls (f : Frame) : List Select.Call :=
  .filter f.filter ::
    if f.havingFirst then .having f.having :: f.groupCalls else f.groupCalls ++ [.having f.having]

def orderCalls (f : Frame) : List Select.Call :=
  match f.orderBy with
  | [] => []
  | k :: ks => .orderBy k.expression :: (k.directionCalls ++ ks.flatMap Key.calls)

def lastCalls (f : Frame) : List Select.Call :=
  f.orderCalls ++ (f.offset.map Select.Call.offset).toList ++ (f.fetch.map Select.Call.fetch).toList

end Frame

mutual

def calls : SelectTree → List Select.Call
  | mk frame origin links branches =>
    frame.headCalls ++ [origin.call] ++ linkCalls links ++ frame.filterCalls ++ branchCalls branches ++
      frame.lastCalls

def Origin.call : Origin → Select.Call
  | .table name => .fromTable name
  | .tree t tableAlias => .fromQuery (({} : Select).run t.calls).fragment tableAlias

def Place.source : Place → Source
  | .table name => .table name
  | .tree t tableAlias => .query (({} : Select).run t.calls).fragment tableAlias

def Link.call : Link → Select.Call
  | .comma place => .comma place.source
  | .join kind place => .join kind place.source
  | .joinOn kind place c => .joinOn kind place.source c

def linkCalls : List Link → List Select.Call
  | [] => []
  | l :: ls => l.call :: linkCalls ls

def Branch.call : Branch → Select.Call
  | .mk all t => .union all (({} : Select).run t.calls)

def branchCalls : List Branch → List Select.Call
  | [] => []
  | b :: bs => b.call :: branchCalls bs

end

/-! ## Its text -/

def Column.text (c : Column) : String := c.expression ++ c.columnAlias.elim "" (" AS " ++ ·)

def Direction.text : Direction → String
  | ascending => " ASC"
  | descending => " DESC"

def Key.text (k : Key) : String := k.expression ++ k.direction.elim "" Direction.text

namespace Frame

def head (f : Frame) : String :=
  "SELECT " ++ (if f.distinct then "DISTINCT " else "") ++
    ",".intercalate ((f.column :: f.columns).map Column.text)

def filterText (f : Frame) : String :=
  f.filter.predicateText "WHERE" ++
    if f.havingFirst then
      f.having.predicateText "HAVING" ++ SelectDocument.listText "GROUP BY" f.groupBy
    else
      SelectDocument.listText "GROUP BY" f.groupBy ++ f.having.predicateText "HAVING"

def last (f : Frame) : String :=
  SelectDocument.listText "ORDER BY" (f.orderBy.map Key.text) ++
    f.offset.elim "" (fun rows => " OFFSET " ++ rows.toNat.repr ++ " ROWS") ++
    f.fetch.elim "" fun rows => " FETCH FIRST " ++ rows.toNat.repr ++ " ROWS ONLY"

end Frame

mutual

def text : SelectTree → String
  | mk frame origin links branches =>
    frame.head ++ " FROM " ++ origin.text ++ linkTexts links ++ frame.filterText ++ branchTexts branches ++
      frame.last

def Origin.text : Origin → String
  | .table name => name
  | .tree t tableAlias => "(" ++ t.text ++ ")" ++ tableAlias.elim "" (" " ++ ·)

def Place.text : Place → String
  | .table name => name
  | .tree t tableAlias => "(" ++ t.text ++ ")" ++ " " ++ tableAlias

def Link.text : Link → String
  | .comma place => "," ++ place.text
  | .join kind place => " " ++ kind.keyword ++ " " ++ place.text
  | .joinOn kind place c =>
    if c.isEmpty then "" else " " ++ kind.keyword ++ " " ++ place.text ++ " ON " ++ c.sql

def linkTexts : List Link → String
  | [] => ""
  | l :: ls => l.text ++ linkTexts ls

def Branch.text : Branch → String
  | .mk all t => (if all then " UNION ALL " else " UNION ") ++ t.text

def branchTexts : List Branch → String
  | [] => ""
  | b :: bs => b.text ++ branchTexts bs

end

/-! ## Its values -/

mutual

def values : SelectTree → List Value
  | mk frame origin links branches =>
    origin.values ++ linkValues links ++ frame.filter.values ++ frame.having.values ++ branchValues branches

def Origin.values : Origin → List Value
  | .table _ => []
  | .tree t _ => t.values

def Place.values : Place → List Value
  | .table _ => []
  | .tree t _ => t.values

def Link.values : Link → List Value
  | .comma place => place.values
  | .join _ place => place.values
  | .joinOn _ place c => if c.isEmpty then [] else place.values ++ c.values

def linkValues : List Link → List Value
  | [] => []
  | l :: ls => l.values ++ linkValues ls

def Branch.values : Branch → List Value
  | .mk _ t => t.values

def branchValues : List Branch → List Value
  | [] => []
  | b :: bs => b.values ++ branchValues bs

end

/-! ## The parts without statements -/

theorem run_column (s : Select) (c : Column) : s.run c.calls = s.element c.text := by
  rcases c with ⟨expression, columnAlias⟩
  cases columnAlias with
  | none => exact congrArg s.element (String.append_empty).symm
  | some name => exact s.push_text_element expression (" AS " ++ name)

theorem run_directionCalls (s : Select) (k : Key) :
    (s.element k.expression).run k.directionCalls = s.element k.text := by
  rcases k with ⟨expression, direction⟩
  cases direction with
  | none => exact congrArg s.element (String.append_empty).symm
  | some d => cases d <;> exact s.push_text_element expression _

theorem run_key (s : Select) (k : Key) : s.run k.calls = s.element k.text := run_directionCalls s k

/-- Elements that are written one by one make up a list. -/
theorem run_flatMap {α : Type} {itemCalls : α → List Select.Call} {itemText : α → String}
    (h : ∀ (s : Select) (a : α), s.run (itemCalls a) = s.element (itemText a)) (s : Select) (as : List α) :
    s.run (as.flatMap itemCalls) = s.elements (as.map itemText) := by
  induction as generalizing s with
  | nil => rfl
  | cons a as ih =>
    rw [List.flatMap_cons, Select.run_append, h, ih]
    rfl

namespace Frame

variable (f : Frame) (s : Select)

theorem fragment_run_headCalls : (({} : Select).run f.headCalls).fragment = .text f.head := by
  have hstart : ({} : Select).run (if f.distinct then [.distinct] else []) =
      ⟨.text ("SELECT " ++ if f.distinct then "DISTINCT " else ""), false⟩ := by
    cases f.distinct <;> rfl
  rw [headCalls, Select.run_append, hstart, run_flatMap run_column, List.map_cons, Select.elements_closed]
  rfl

theorem fragment_run_groupCalls :
    (s.run f.groupCalls).fragment = s.fragment ++ .text (SelectDocument.listText "GROUP BY" f.groupBy) := by
  have helements (s : Select) (columns : List String) :
      s.run (columns.map fun column => .elements [column]) = s.elements columns := List.foldl_map
  unfold groupCalls
  cases f.groupBy with
  | nil => exact (Fragment.append_empty s.fragment).symm
  | cons column columns =>
    dsimp only
    rw [Select.run_cons, helements]
    exact SelectDocument.fragment_elements_close s "GROUP BY" column columns

theorem fragment_run_filterCalls :
    (s.run f.filterCalls).fragment = s.fragment ++ ⟨f.filterText, f.filter.values ++ f.having.values⟩ := by
  unfold filterCalls filterText
  cases f.havingFirst with
  | true =>
    simp only [if_true, Select.run_cons, Select.apply]
    rw [fragment_run_groupCalls, Select.fragment_having, Select.fragment_filter]
    apply Fragment.eq_mk
    · simp [String.append_assoc]
    · simp
  | false =>
    simp only [Bool.false_eq_true, if_false, Select.run_cons, Select.run_append, Select.run_nil, Select.apply]
    rw [Select.fragment_having, fragment_run_groupCalls, Select.fragment_filter]
    apply Fragment.eq_mk
    · simp [String.append_assoc]
    · simp

theorem fragment_run_orderCalls : (s.run f.orderCalls).fragment =
    s.fragment ++ .text (SelectDocument.listText "ORDER BY" (f.orderBy.map Key.text)) := by
  unfold orderCalls
  cases f.orderBy with
  | nil => exact (Fragment.append_empty s.fragment).symm
  | cons k ks =>
    have hfirst : (s.orderBy k.expression).run k.directionCalls =
        (s.close (.text " ORDER BY ")).element k.text := run_directionCalls _ k
    dsimp only
    rw [Select.run_cons, Select.apply, Select.run_append, hfirst, run_flatMap run_key]
    exact SelectDocument.fragment_elements_close s "ORDER BY" k.text (ks.map Key.text)

theorem fragment_run_lastCalls : (s.run f.lastCalls).fragment = s.fragment ++ .text f.last := by
  have hoffset (s : Select) : (s.run (f.offset.map Select.Call.offset).toList).fragment =
      s.fragment ++ .text (f.offset.elim "" fun rows => " OFFSET " ++ rows.toNat.repr ++ " ROWS") := by
    cases f.offset with
    | none => exact (Fragment.append_empty s.fragment).symm
    | some rows => rfl
  have hfetch (s : Select) : (s.run (f.fetch.map Select.Call.fetch).toList).fragment =
      s.fragment ++ .text (f.fetch.elim "" fun rows => " FETCH FIRST " ++ rows.toNat.repr ++ " ROWS ONLY") := by
    cases f.fetch with
    | none => exact (Fragment.append_empty s.fragment).symm
    | some rows => rfl
  rw [lastCalls, Select.run_append, Select.run_append, hfetch, hoffset, fragment_run_orderCalls,
    Fragment.append_text_append, Fragment.append_text_append, last, String.append_assoc]

end Frame

/-! ## Whole trees

The induction is on the tree: a part that holds a statement writes what is known of that statement. Only the
head depends on the comma flag, and it starts where no list is open, so every other part is about any state.
-/

mutual

theorem fragment_run (t : SelectTree) : (({} : Select).run t.calls).fragment = ⟨t.text, t.values⟩ := by
  rcases t with ⟨frame, origin, links, branches⟩
  rw [calls]
  simp only [Select.run_append]
  rw [frame.fragment_run_lastCalls, fragment_branches branches, frame.fragment_run_filterCalls,
    fragment_links links, Select.run_cons, Select.run_nil, fragment_origin origin, frame.fragment_run_headCalls]
  apply Fragment.eq_mk
  · simp [text, String.append_assoc]
  · simp [values]

theorem fragment_origin (o : Origin) (s : Select) :
    (s.apply o.call).fragment = s.fragment ++ ⟨" FROM " ++ o.text, o.values⟩ := by
  cases o with
  | table name =>
    rw [Origin.call, Origin.text, Origin.values]
    rfl
  | tree t tableAlias =>
    rw [Origin.call, fragment_run t, Origin.text, Origin.values]
    apply Fragment.eq_mk
    · simp [Select.apply, Select.fromQuery, Fragment.parens, String.append_assoc]
    · simp [Select.apply, Select.fromQuery]

theorem fragment_place (p : Place) : p.source.fragment = ⟨p.text, p.values⟩ := by
  cases p with
  | table name =>
    rw [Place.source, Place.text, Place.values]
    rfl
  | tree t tableAlias =>
    rw [Place.source, fragment_run t, Place.text, Place.values, Source.fragment, Fragment.parens_mk]
    apply Fragment.eq_mk
    · simp only [Fragment.sql_append, Fragment.sql_text, String.append_assoc]
    · simp

theorem fragment_link (l : Link) (s : Select) :
    (s.apply l.call).fragment = s.fragment ++ ⟨l.text, l.values⟩ := by
  cases l with
  | comma place =>
    rw [Link.call, Link.text, Link.values, Select.apply, Select.comma, fragment_place place]
    rfl
  | join kind place =>
    rw [Link.call, Link.text, Link.values, Select.apply, Select.join, fragment_place place]
    rfl
  | joinOn kind place c =>
    rw [Link.call, Link.text, Link.values, Select.apply, Select.joinOn]
    cases c with
    | empty => exact (Fragment.append_empty s.fragment).symm
    | written f =>
      have hpredicate := Condition.predicate_eq "ON" (.written f)
      simp only [Condition.isEmpty, Bool.false_eq_true, if_false]
      rw [Select.on, Select.fragment_push, Select.join, Select.fragment_close, fragment_place place, hpredicate]
      apply Fragment.eq_mk
      · simp [Condition.predicateText, Condition.isEmpty, String.append_assoc]
      · simp

theorem fragment_links (ls : List Link) (s : Select) :
    (s.run (linkCalls ls)).fragment = s.fragment ++ ⟨linkTexts ls, linkValues ls⟩ := by
  cases ls with
  | nil =>
    rw [linkCalls, linkTexts, linkValues]
    exact (Fragment.append_empty s.fragment).symm
  | cons l ls =>
    rw [linkCalls, linkTexts, linkValues, Select.run_cons, fragment_links ls, fragment_link l, Fragment.append_assoc]
    rfl

theorem fragment_branch (b : Branch) (s : Select) :
    (s.apply b.call).fragment = s.fragment ++ ⟨b.text, b.values⟩ := by
  rcases b with ⟨all, t⟩
  rw [Branch.call, Branch.text, Branch.values, Select.apply, Select.union, fragment_run t]
  rfl

theorem fragment_branches (bs : List Branch) (s : Select) :
    (s.run (branchCalls bs)).fragment = s.fragment ++ ⟨branchTexts bs, branchValues bs⟩ := by
  cases bs with
  | nil =>
    rw [branchCalls, branchTexts, branchValues]
    exact (Fragment.append_empty s.fragment).symm
  | cons b bs =>
    rw [branchCalls, branchTexts, branchValues, Select.run_cons, fragment_branches bs, fragment_branch b,
      Fragment.append_assoc]
    rfl

end

/-- A tree is written as its text, and binds its values in the order of that text. -/
theorem statement_eq_text_values (t : SelectTree) :
    (({} : Select).run t.calls).fragment.sql = t.text ∧ (({} : Select).run t.calls).fragment.values = t.values := by
  rw [fragment_run]
  exact ⟨rfl, rfl⟩

example : (mk { column := ⟨"a", some "b"⟩, columns := [⟨"c", none⟩] }
    (.tree (mk { column := ⟨"*", none⟩, filter := .written ⟨"x = ?", [.int 1]⟩ } (.table "t") [] []) (some "s"))
    [.comma (.table "u"), .joinOn .left (.table "v") .empty] []).text =
      "SELECT a AS b,c FROM (SELECT * FROM t WHERE x = ?) s,u" := by
  decide +kernel

end SelectTree

end BoundSql

import BoundSql.Proofs.Program.Inline

/-!
# Contracts and what programs keep

A contract says what the pieces must be like that a program is given: its texts, list elements, clauses,
outside queries and windows. A relation between fragments and texts that concatenation keeps, and that holds
of every piece the contract admits, holds of whatever the program makes.
-/

namespace BoundSql

open Text

structure Contract where
  text : String → Prop
  element : String → Prop
  /-- The text that the maker of a guarded clause gives, and what is bound to it. -/
  clause : String → List Operand → Prop
  outside : Fragment → Prop
  window : Select → Window → Prop

def Contract.operand (k : Contract) : Operand → Prop
  | .list elements => ∀ e ∈ elements, k.element e
  | .subquery q => k.outside q
  | _ => True

/-- Every piece that the program is given is admitted. -/
def Program.Meets (k : Contract) {p : Product} : Program p → Prop
  | .empty | .noValues | .start => True
  | .text c s => c.Meets k ∧ k.text s
  | .symbol c _ | .noGroup c _ | .ofCondition c => c.Meets k
  | .inList c _ es => c.Meets k ∧ ∀ e ∈ es, k.element e
  | .inQuery c _ q | .existence c _ q => c.Meets k ∧ q.Meets k
  | .negate c other | .compound c other | .group c _ other => c.Meets k ∧ other.Meets k
  | .guarded c _ column maker _ given =>
    c.Meets k ∧ given.Meets k ∧ k.clause (maker column) (given.eval.map Candidate.toOperand)
  | .value c rest => k.operand c.toOperand ∧ rest.Meets k
  | .subquery q _ rest => q.Meets k ∧ rest.Meets k
  | .outside q => k.outside q
  | .ofSelect s | .distinct s | .ascending s | .descending s | .offset s _ | .fetch s _ | .limit s _
  | .plainOffset s _ => s.Meets k
  | .ofUpdate u => u.Meets k
  | .ofDelete d => d.Meets k
  | .table name => k.text name
  | .derived q tableAlias => q.Meets k ∧ k.text tableAlias
  | .elements s columns => s.Meets k ∧ ∀ c ∈ columns, k.text c
  | .columnAlias s t | .groupBy s t | .orderBy s t | .fromTable s t => s.Meets k ∧ k.text t
  | .fromQuery s q tableAlias => s.Meets k ∧ q.Meets k ∧ ∀ t ∈ tableAlias, k.text t
  | .comma s source | .join s _ source => s.Meets k ∧ source.Meets k
  | .joinOn s _ source c => s.Meets k ∧ source.Meets k ∧ c.Meets k
  | .on s c | .filter s c | .having s c => s.Meets k ∧ c.Meets k
  | .union s _ other => s.Meets k ∧ other.Meets k
  | .window s w => s.Meets k ∧ k.window s.eval w
  | .ofTable t => k.text t
  | .assign u column _ => u.Meets k ∧ k.text column
  | .filterUpdate u c => u.Meets k ∧ c.Meets k
  | .deleteFrom t => k.text t
  | .filterDelete d c => d.Meets k ∧ c.Meets k

/-- What holds of the product of every program within a contract holds of all that such a program makes on the
way. -/
theorem Program.forall_produced {k : Contract} {P : Fragment → Prop}
    (hP : ∀ {p : Product} (e : Program p), e.Meets k → P e.fragment) {p : Product} (e : Program p)
    (h : e.Meets k) : ∀ f ∈ e.produced, P f := by
  have hmade {p : Product} (e : Program p) (he : e.Meets k) (hearlier : ∀ f ∈ e.earlier, P f) :
      ∀ f ∈ e.fragment :: e.earlier, P f := List.forall_mem_cons.mpr ⟨hP e he, hearlier⟩
  refine hmade e h ?_
  induction e with
  | empty | noValues | outside | table | start | ofTable | deleteFrom => exact fun f hf => nomatch hf
  | text c _ ih | inList c _ _ ih | elements c _ ih | columnAlias c _ ih | groupBy c _ ih | orderBy c _ ih
  | fromTable c _ ih | window c _ ih | assign c _ _ ih | derived c _ ih =>
    obtain ⟨hc, -⟩ := h
    exact hmade c hc (ih hc)
  | symbol c _ ih | noGroup c _ ih | ofCondition c ih | ofSelect c ih | ofUpdate c ih | ofDelete c ih
  | distinct c ih | ascending c ih | descending c ih | offset c _ ih | fetch c _ ih | limit c _ ih
  | plainOffset c _ ih => exact hmade c h (ih h)
  | value c rest ih =>
    obtain ⟨-, hrest⟩ := h
    exact hmade rest hrest (ih hrest)
  | inQuery a _ b iha ihb | existence a _ b iha ihb | negate a b iha ihb | compound a b iha ihb
  | group a _ b iha ihb | subquery a _ b iha ihb | comma a b iha ihb | join a _ b iha ihb
  | on a b iha ihb | filter a b iha ihb | having a b iha ihb | union a _ b iha ihb
  | filterUpdate a b iha ihb | filterDelete a b iha ihb =>
    obtain ⟨ha, hb⟩ := h
    exact List.forall_mem_append.mpr ⟨hmade a ha (iha ha), hmade b hb (ihb hb)⟩
  | guarded a _ _ _ _ b iha ihb | fromQuery a b _ iha ihb =>
    obtain ⟨ha, hb, -⟩ := h
    exact List.forall_mem_append.mpr ⟨hmade a ha (iha ha), hmade b hb (ihb hb)⟩
  | joinOn s _ source c ihs ihsource ihc =>
    obtain ⟨hs, hsource, hc⟩ := h
    have hjoin := List.forall_mem_append.mpr ⟨hmade s hs (ihs hs), hmade source hsource (ihsource hsource)⟩
    exact List.forall_mem_append.mpr ⟨hjoin, hmade c hc (ihc hc)⟩

structure Contract.Keeps (k : Contract) (R : Fragment → List Char → Prop) : Prop where
  bare : ∀ {s}, Bare s.toList → R (.text s) s.toList
  text : ∀ {s}, k.text s → R (.text s) s.toList
  list : ∀ {es}, (∀ e ∈ es, k.element e) → R (.text (Literal.list es)) (Literal.list es).toList
  append : ∀ {a b x y}, R a x → R b y → R (a ++ b) (x ++ y)
  parens : ∀ {f x}, R f x → R f.parens (Program.enclosed x)
  clause : ∀ {s os x}, k.clause s os → R (.concat (os.map Operand.written)) x →
    R (.text s ++ .concat (os.map Operand.fragment)) (fill false s.toList (os.flatMap Operand.bound) ++ x)
  assignment : ∀ {column v}, k.text column →
    R (.text (column ++ " = ?") ++ .bound v) (fill false (column ++ " = ?").toList [v])
  outside : ∀ {q}, k.outside q → R q q.filled
  window : ∀ {s t w x}, k.window s w → R s.fragment x → s.window w = .ok t → R t.fragment x

namespace Contract.Keeps

variable {k : Contract} {R : Fragment → List Char → Prop} (hk : k.Keeps R)
include hk

theorem word {s : String} (h : Bare s.toList := by decide) : R (.text s) s.toList := hk.bare h

theorem nothing : R {} [] := hk.word (s := "")

theorem text_append {a b : String} (ha : R (.text a) a.toList) (hb : R (.text b) b.toList) :
    R (.text (a ++ b)) (a ++ b).toList := by
  rw [String.toList_append]
  exact hk.append ha hb

theorem operand {o : Operand} (h : k.operand o) : R o.written (Program.written o) := by
  cases o with
  | plain v => exact hk.nothing
  | optional v => exact hk.nothing
  | list es => exact hk.list h
  | subquery q => exact hk.parens (hk.outside h)

theorem joint (c : Condition) (op : Connective) : R (c.joint op) (c.joint op).sql.toList := by
  cases c with
  | empty => exact hk.nothing
  | written f => cases op <;> exact hk.word

theorem attach {c : Condition} {piece : Fragment} {x y : List Char} (hc : R c.fragment x)
    (hpiece : R piece y) (op : Connective) :
    R (c.attach op piece).fragment (x ++ ((c.joint op).sql.toList ++ y)) :=
  hk.append hc (hk.append (hk.joint c op) hpiece)

theorem predicate {c : Condition} {x : List Char} (h : R c.fragment x) {keyword : String}
    (hkeyword : Bare (" " ++ keyword ++ " ").toList := by decide) :
    R (c.predicate keyword) (Program.led keyword c x) := by
  cases c with
  | empty => exact hk.nothing
  | written f => exact hk.append (hk.bare hkeyword) h

theorem element {s : Select} {x : List Char} (hs : R s.fragment x) {column : String}
    (h : k.text column) :
    R (s.element column).fragment (x ++ (if s.listOpen then "," ++ column else column).toList) := by
  apply hk.append hs
  split
  · exact hk.text_append hk.word (hk.text h)
  · exact hk.text h

theorem elements {s : Select} {x : List Char} (hs : R s.fragment x) {columns : List String}
    (h : ∀ c ∈ columns, k.text c) :
    R (s.elements columns).fragment (x ++ Program.listed s.listOpen columns) := by
  induction columns generalizing s x with
  | nil =>
    rw [Program.listed, List.append_nil]
    exact hs
  | cons column columns ih =>
    have hcolumn := hk.element hs (h column List.mem_cons_self)
    have hrest := ih hcolumn fun c hc => h c (List.mem_cons_of_mem column hc)
    rw [Program.listed, ← List.append_assoc]
    exact hrest

theorem join_keyword (kind : JoinKind) :
    R (.text (" " ++ kind.keyword ++ " ")) (" " ++ kind.keyword ++ " ").toList := by
  cases kind <;> exact hk.word

theorem membership_keyword (negated : Bool) :
    R (.text (if negated then " NOT IN " else " IN ")) (if negated then " NOT IN " else " IN ").toList := by
  cases negated <;> exact hk.word

/-- The relation holds of whatever a program makes, one case for each call. -/
theorem holds {p : Product} (e : Program p) (h : e.Meets k) : R e.fragment e.inline := by
  induction e with
  | empty => exact hk.nothing
  | text c s ihc =>
    obtain ⟨hc, hs⟩ := h
    exact hk.append (ihc hc) (hk.text hs)
  | symbol c s ihc =>
    have hs : R (.text s.text) s.text.toList := by
      cases s <;> exact hk.word
    exact hk.append (ihc h) hs
  | inList c n es ihc =>
    obtain ⟨hc, hes⟩ := h
    exact hk.append (ihc hc) (hk.append (hk.membership_keyword n) (hk.list hes))
  | inQuery c n q ihc ihq =>
    obtain ⟨hc, hq⟩ := h
    exact hk.append (ihc hc) (hk.append (hk.membership_keyword n) (hk.parens (ihq hq)))
  | existence c n q ihc ihq =>
    obtain ⟨hc, hq⟩ := h
    have hkeyword : R (.text (if n then "NOT EXISTS" else "EXISTS"))
        (if n then "NOT EXISTS" else "EXISTS").toList := by
      cases n <;> exact hk.word
    exact hk.append (ihc hc) (hk.append hkeyword (hk.parens (ihq hq)))
  | negate c other ihc iho =>
    obtain ⟨hc, ho⟩ := h
    exact hk.append (ihc hc) (hk.append hk.word (hk.parens (iho ho)))
  | compound c other ihc iho =>
    obtain ⟨hc, ho⟩ := h
    exact hk.append (ihc hc) (hk.parens (iho ho))
  | guarded c op column maker checker given ihc ihg =>
    obtain ⟨hc, hg, hclause⟩ := h
    have hpiece := hk.clause hclause (ihg hg)
    rw [List.map_map] at hpiece
    show R (Condition.guarded _ _).fragment (Program.inline _)
    rw [Program.inline_guarded, Condition.guarded]
    split
    · exact hk.attach (ihc hc) hpiece op
    · exact ihc hc
  | group c op other ihc iho =>
    obtain ⟨hc, ho⟩ := h
    have hother := iho ho
    show R (Condition.group _ op other.eval).fragment (Program.inline _)
    rw [Program.inline_group]
    change R other.eval.fragment other.inline at hother
    cases heq : other.eval with
    | empty => exact ihc hc
    | written f =>
      rw [heq] at hother
      exact hk.attach (ihc hc) (hk.parens hother) op
  | noGroup c op ihc => exact ihc h
  | noValues => exact hk.nothing
  | value c rest ihr =>
    obtain ⟨ho, hr⟩ := h
    show R (Fragment.concat (c.toOperand.written :: _)) _
    rw [Fragment.concat_cons]
    exact hk.append (hk.operand ho) (ihr hr)
  | subquery q converted rest ihq ihr =>
    obtain ⟨hq, hr⟩ := h
    have hwritten : (Candidate.toOperand
        (if converted then .operand (.subquery q.eval) else .query q.eval)).written = q.fragment.parens := by
      cases converted <;> rfl
    show R (Fragment.concat (Operand.written _ :: _)) _
    rw [Fragment.concat_cons, hwritten]
    exact hk.append (hk.parens (ihq hq)) (ihr hr)
  | outside q => exact hk.outside h
  | ofCondition c ihc => exact ihc h
  | ofSelect s ihs => exact ihs h
  | ofUpdate u ihu => exact ihu h
  | ofDelete d ihd => exact ihd h
  | table name => exact hk.text h
  | derived q tableAlias ihq =>
    obtain ⟨hq, ha⟩ := h
    exact hk.append (hk.parens (ihq hq)) (hk.text_append hk.word (hk.text ha))
  | start => exact hk.word
  | distinct s ihs => exact hk.append (ihs h) hk.word
  | elements s columns ihs =>
    obtain ⟨hs, hcolumns⟩ := h
    exact hk.elements (ihs hs) hcolumns
  | columnAlias s name ihs =>
    obtain ⟨hs, hname⟩ := h
    exact hk.append (ihs hs) (hk.text_append hk.word (hk.text hname))
  | ascending s ihs => exact hk.append (ihs h) hk.word
  | descending s ihs => exact hk.append (ihs h) hk.word
  | groupBy s column ihs =>
    obtain ⟨hs, hcolumn⟩ := h
    exact hk.append (hk.append (ihs hs) hk.word) (hk.text hcolumn)
  | orderBy s column ihs =>
    obtain ⟨hs, hcolumn⟩ := h
    exact hk.append (hk.append (ihs hs) hk.word) (hk.text hcolumn)
  | fromTable s name ihs =>
    obtain ⟨hs, hname⟩ := h
    exact hk.append (ihs hs) (hk.text_append hk.word (hk.text hname))
  | fromQuery s q tableAlias ihs ihq =>
    obtain ⟨hs, hq, ha⟩ := h
    have halias : R (.text (tableAlias.elim "" (" " ++ ·))) (tableAlias.elim "" (" " ++ ·)).toList := by
      cases tableAlias with
      | none => exact hk.nothing
      | some a => exact hk.text_append hk.word (hk.text (ha a rfl))
    exact hk.append (ihs hs) (hk.append (hk.append hk.word (hk.parens (ihq hq))) halias)
  | comma s source ihs ihsource =>
    obtain ⟨hs, hsource⟩ := h
    exact hk.append (ihs hs) (hk.append hk.word (ihsource hsource))
  | join s kind source ihs ihsource =>
    obtain ⟨hs, hsource⟩ := h
    exact hk.append (ihs hs) (hk.append (hk.join_keyword kind) (ihsource hsource))
  | joinOn s kind source c ihs ihsource ihc =>
    obtain ⟨hs, hsource, hc⟩ := h
    show R (Select.joinOn _ _ _ _).fragment (Program.inline _)
    rw [Program.inline_joinOn, Select.joinOn]
    split
    · exact ihs hs
    · have hjoin := hk.append (ihs hs) (hk.append (hk.join_keyword kind) (ihsource hsource))
      exact hk.append hjoin (hk.predicate (ihc hc))
  | on s c ihs ihc =>
    obtain ⟨hs, hc⟩ := h
    exact hk.append (ihs hs) (hk.predicate (ihc hc))
  | filter s c ihs ihc =>
    obtain ⟨hs, hc⟩ := h
    exact hk.append (ihs hs) (hk.predicate (ihc hc))
  | having s c ihs ihc =>
    obtain ⟨hs, hc⟩ := h
    exact hk.append (ihs hs) (hk.predicate (ihc hc))
  | union s all other ihs iho =>
    obtain ⟨hs, ho⟩ := h
    have hkeyword : R (.text (if all then " UNION ALL " else " UNION "))
        (if all then " UNION ALL " else " UNION ").toList := by
      cases all <;> exact hk.word
    exact hk.append (ihs hs) (hk.append hkeyword (iho ho))
  | offset s rows ihs =>
    have hrows := hk.bare (bare_repr rows.toNat)
    exact hk.append (ihs h) (hk.text_append (hk.text_append hk.word hrows) hk.word)
  | fetch s rows ihs =>
    have hrows := hk.bare (bare_repr rows.toNat)
    exact hk.append (ihs h) (hk.text_append (hk.text_append hk.word hrows) hk.word)
  | limit s rows ihs =>
    exact hk.append (ihs h) (hk.text_append hk.word (hk.bare (bare_repr rows.toNat)))
  | plainOffset s rows ihs =>
    exact hk.append (ihs h) (hk.text_append hk.word (hk.bare (bare_repr rows.toNat)))
  | window s w ihs =>
    obtain ⟨hs, hw⟩ := h
    show R (Select.fragment (Program.eval (.window s w))) s.inline
    rw [Program.eval_window]
    split
    · rename_i t ht
      exact hk.window hw (ihs hs) ht
    · exact ihs hs
  | ofTable name =>
    exact hk.text_append (hk.text_append hk.word (hk.text h)) hk.word
  | assign u column v ihu =>
    obtain ⟨hu, hcolumn⟩ := h
    have hcomma : R (.text (if 0 < u.eval.assignments then ", " else ""))
        (if 0 < u.eval.assignments then ", " else "").toList := by
      split <;> exact hk.word
    have hpiece := hk.append (hk.append (ihu hu) hcomma) (hk.assignment hcolumn (v := v.toValue))
    rwa [← Fragment.append_assoc] at hpiece
  | filterUpdate u c ihu ihc =>
    obtain ⟨hu, hc⟩ := h
    exact hk.append (ihu hu) (hk.predicate (ihc hc))
  | deleteFrom name => exact hk.text_append hk.word (hk.text h)
  | filterDelete d c ihd ihc =>
    obtain ⟨hd, hc⟩ := h
    exact hk.append (ihd hd) (hk.predicate (ihc hc))

end Contract.Keeps

end BoundSql

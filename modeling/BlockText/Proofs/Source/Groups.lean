import BlockText.Proofs.Source.Levels
import BlockText.Proofs.Source.Operators

/-!
# Groups in the grammar

What the rules take between brackets: an expression in parentheses of its own, tuples, lists, the
arguments of a call and an index.  An item of a group is an expression that is no assignment and
has a comma or the end of the group behind it.
-/

namespace BlockText.Source.Grammar

open Syntax Rule

variable {g : Grammar} {s : TokenStream} {i j k : ℕ} {e a : Expr} {as es : List Expr}
  {t u v w : Token} {m : Mark}

/-! ## Items -/

/-- An expression that stands as an item between two positions. -/
structure Item (g : Grammar) (s : TokenStream) (i : ℕ) (e : Expr) (j : ℕ) : Prop where
  takes : g.expression.Takes s i e j
  moves : i < j
  unstarred : ∀ v r, e ≠ .starred v r
  first : ∃ t, s.tokens[i]? = some t ∧ t.Leads 0
  second : ∃ t, s.tokens[i + 1]? = some t ∧ t.isOp "=" = false ∧ t.isOp ":=" = false
  ends : ∃ t, s.tokens[j]? = some t ∧ t.EndsItem

/-- Items, each with a comma in front of it. -/
inductive Items (g : Grammar) (s : TokenStream) : ℕ → List Expr → ℕ → Prop
  | nil (i : ℕ) : Items g s i [] i
  | cons {i j k : ℕ} {e : Expr} {es : List Expr}
    (comma : ∃ t, s.tokens[i]? = some t ∧ t.isOp "," = true) (item : Item g s (i + 1) e j)
    (rest : Items g s j es k) : Items g s i (e :: es) k

/-- A name with this operator behind it does not stand here. -/
lemma takes_atNameThen_false {o : String} (ht : s.tokens[i]? = some t)
    (hu : s.tokens[i + 1]? = some u) (ho : u.isOp o = false) :
    (atNameThen o).Takes s i false i := by
  refine Misses.ahead ?_
  by_cases hname : t.isIdentifier = true
  · have hidentifier : identifier.Takes s i { t with text := Text.normalForm t.text } (i + 1) :=
      (takes_take ht hname).bind takes_pure
    exact hidentifier.discard.bind_misses (misses_take hu ho)
  · exact (misses_take ht (by simpa using hname)).bind.discard.bind

/-- An item is taken as a named expression. -/
lemma Item.namedExpression (h : Item g s i e j) : (namedExpression g).Takes s i e j := by
  obtain ⟨t, ht, -⟩ := h.first
  obtain ⟨v, hv, -, hwalrus⟩ := h.second
  obtain ⟨u, hu, hend⟩ := h.ends
  refine (takes_atNameThen_false ht hv hwalrus).bind ?_
  refine (takes_start ht).bind (h.takes.bind (takes_diagnosing.bind ?_))
  refine (takes_atOp hu ":=").bind ?_
  rw [hend.isOp_eq_false (by decide)]
  exact takes_pure

/-- An item is taken where a starred one may stand. -/
lemma Item.starNamedExpression (h : Item g s i e j) :
    (starNamedExpression g).Takes s i e j := by
  obtain ⟨t, ht, hlead⟩ := h.first
  refine (takes_start ht).bind ?_
  refine (takes_tryOp_false ht (hlead.isOp_eq_false (by decide))).bind ?_
  exact h.namedExpression

/-- An item is taken where starred expressions may stand. -/
lemma Item.starExpression (h : Item g s i e j) : (starExpression g).Takes s i e j := by
  obtain ⟨t, ht, hlead⟩ := h.first
  exact takes_starExpression h.takes ht hlead

/-- No item begins at the end of a group. -/
lemma misses_namedExpression (hmiss : g.expression.Misses s i) (ht : s.tokens[i]? = some t)
    (hclose : t.Closes) : (namedExpression g).Misses s i := by
  have hname : t.isIdentifier = false := by
    simp [Token.isIdentifier, hclose.kind_ne.1]
  have hnone : (atNameThen ":=").Takes s i false i :=
    ((misses_take ht hname).bind.discard.bind).ahead
  exact hnone.bind_misses ((takes_start ht).bind_misses hmiss.bind)

/-- No starred item is taken at a closing token. -/
lemma misses_starNamedExpression (hmiss : g.expression.Misses s i) (ht : s.tokens[i]? = some t)
    (hclose : t.Closes) : (starNamedExpression g).Misses s i := by
  refine (takes_start ht).bind_misses ?_
  refine (takes_tryOp_false ht (hclose.isOp_eq_false (by decide))).bind_misses ?_
  exact misses_namedExpression hmiss ht hclose

/-- Items are elements up to the end of the group. -/
lemma Items.commaElements {element : Rule Expr}
    (helement : ∀ {i e j}, Item g s i e j → element.Takes s i e j) (h : Items g s i es j)
    (hu : s.tokens[j]? = some u) (hclose : u.Closes) :
    (commaElements element).Takes s i es j := by
  refine takes_commaElements ?_ hu (hclose.isOp_eq_false (by decide))
  clear hu
  induction h with
  | nil => exact .nil _
  | cons hcomma item _ ih =>
    obtain ⟨t, ht, hcomma⟩ := hcomma
    have hmoves := item.moves
    exact .cons (takes_commaThen ht hcomma (helement item)) (by omega) ih

/-! ## Parentheses -/

/-- Parentheses around one expression are none of its parts. -/
lemma takes_parenthesized_one (ht : s.tokens[i]? = some t) (hopen : t.isOp "(" = true)
    (h : Item g s (i + 1) a j) (hu : s.tokens[j]? = some u) (hlast : u.isOp ")" = true) :
    (parenthesized g).Takes s i a (j + 1) := by
  obtain ⟨v, hv, hlead⟩ := h.first
  have hcomma : u.isOp "," = false := by
    rw [Token.isOp_iff] at hlast
    simp [Token.isOp, hlast.2]
  refine (takes_start ht).bind ((takes_take ht hopen).discard_bind ?_)
  refine (takes_tryOp_false hv (hlead.isOp_eq_false (by decide))).bind ?_
  refine (takes_atWord hv "yield").bind ?_
  rw [hlead.isWord_eq_false (by decide)]
  refine takes_diagnosing.bind (h.starNamedExpression.bind ((takes_atOp hu ",").bind ?_))
  rw [hcomma]
  refine (takes_atOp hu ")").bind ?_
  rw [hlast]
  cases a with
  | starred v r => exact absurd rfl (h.unstarred v r)
  | _ => exact takes_advance.bind takes_pure

/-- Items between parentheses are a tuple. -/
lemma takes_parenthesized_tuple (ht : s.tokens[i]? = some t) (hopen : t.isOp "(" = true)
    (h : Item g s (i + 1) a j) (hu : s.tokens[j]? = some u) (hcomma : u.isOp "," = true)
    (hes : (commaElements (starNamedExpression g)).Takes s j es k)
    (hw : s.tokens[k]? = some w) (hlast : w.isOp ")" = true) :
    ∃ r, (parenthesized g).Takes s i (.tuple (a :: es) r) (k + 1) := by
  obtain ⟨v, hv, hlead⟩ := h.first
  refine ⟨s.rangeTo t.start (k + 1),
    (takes_start ht).bind ((takes_take ht hopen).discard_bind ?_)⟩
  refine (takes_tryOp_false hv (hlead.isOp_eq_false (by decide))).bind ?_
  refine (takes_atWord hv "yield").bind ?_
  rw [hlead.isWord_eq_false (by decide)]
  refine takes_diagnosing.bind (h.starNamedExpression.bind ((takes_atOp hu ",").bind ?_))
  rw [hcomma]
  exact hes.bind ((takes_take hw hlast).discard_bind (takes_rangeFrom.bind takes_pure))

/-- Parentheses around nothing are a tuple. -/
lemma takes_parenthesized_nil (ht : s.tokens[i]? = some t) (hopen : t.isOp "(" = true)
    (hv : s.tokens[i + 1]? = some v) (hclose : v.isOp ")" = true) :
    ∃ r, (parenthesized g).Takes s i (.tuple [] r) (i + 2) := by
  refine ⟨s.rangeTo t.start (i + 2),
    (takes_start ht).bind ((takes_take ht hopen).discard_bind ?_)⟩
  exact (takes_tryOp hv hclose).bind (takes_rangeFrom.bind takes_pure)

/-- An atom that starts with a parenthesis. -/
lemma takes_atom_parenthesized (ht : s.tokens[i]? = some t) (hopen : t.isOp "(" = true)
    (h : (parenthesized g).Takes s i e j) : (atom g).Takes s i e j := by
  obtain ⟨hkind, htext⟩ := Token.isOp_iff.mp hopen
  refine (takes_peek ht).bind ?_
  rw [hkind, htext]
  exact h

/-! ## Lists -/

/-- What ends an item starts no clause. -/
lemma takes_atClause_false (hu : s.tokens[j]? = some u) (hend : u.EndsItem) :
    atClause.Takes s j false j := by
  refine (takes_peek hu).bind ?_
  rw [hend.isWord_eq_false, hend.isWord_eq_false]
  exact takes_pure

/-- Items between square brackets are a list. -/
lemma takes_listDisplay (ht : s.tokens[i]? = some t) (hopen : t.isOp "[" = true)
    (h : Item g s (i + 1) a j) (hes : Items g s j es k) (hw : s.tokens[k]? = some w)
    (hlast : w.isOp "]" = true) :
    ∃ r, (listDisplay g).Takes s i (.list (a :: es) r) (k + 1) := by
  obtain ⟨v, hv, hlead⟩ := h.first
  obtain ⟨u, hu, hend⟩ := h.ends
  have hrest : (commaElements (starNamedExpression g)).Takes s j es k :=
    hes.commaElements Item.starNamedExpression hw (.inr (.inr hlast))
  refine ⟨s.rangeTo t.start (k + 1),
    (takes_start ht).bind ((takes_take ht hopen).discard_bind ?_)⟩
  refine (takes_tryOp_false hv (hlead.isOp_eq_false (by decide))).bind ?_
  refine h.starNamedExpression.bind (takes_diagnosing.bind ((takes_atClause_false hu hend).bind ?_))
  exact hrest.bind ((takes_take hw hlast).discard_bind (takes_rangeFrom.bind takes_pure))

/-- Square brackets around nothing are a list. -/
lemma takes_listDisplay_nil (ht : s.tokens[i]? = some t) (hopen : t.isOp "[" = true)
    (hv : s.tokens[i + 1]? = some v) (hclose : v.isOp "]" = true) :
    ∃ r, (listDisplay g).Takes s i (.list [] r) (i + 2) := by
  refine ⟨s.rangeTo t.start (i + 2),
    (takes_start ht).bind ((takes_take ht hopen).discard_bind ?_)⟩
  exact (takes_tryOp hv hclose).bind (takes_rangeFrom.bind takes_pure)

/-- An atom that starts with a square bracket. -/
lemma takes_atom_list (ht : s.tokens[i]? = some t) (hopen : t.isOp "[" = true)
    (h : (listDisplay g).Takes s i e j) : (atom g).Takes s i e j := by
  obtain ⟨hkind, htext⟩ := Token.isOp_iff.mp hopen
  refine (takes_peek ht).bind ?_
  rw [hkind, htext]
  exact h

/-! ## Calls -/

/-- Positional arguments. -/
def positionalArgs (es : List Expr) : CallArgs := { positional := es }

/-- An item is an argument. -/
lemma Item.argument (h : Item g s i e j) :
    (argument g (positionalArgs as)).Takes s i (positionalArgs (as ++ [e])) j := by
  obtain ⟨t, ht, hlead⟩ := h.first
  obtain ⟨v, hv, hequal, hwalrus⟩ := h.second
  obtain ⟨u, hu, hend⟩ := h.ends
  refine (takes_start ht).bind ((takes_atOp ht "*").bind ?_)
  rw [hlead.isOp_eq_false (by decide)]
  refine (takes_tryOp_false ht (hlead.isOp_eq_false (by decide))).bind ?_
  refine (takes_atNameThen_false ht hv hequal).bind ?_
  refine (takes_atNameThen_false ht hv hwalrus).bind ?_
  refine h.takes.bind ((takes_atOps hu _).bind ?_)
  have hnone : (["=", ":="].any u.isOp) = false := by
    simp [hend.isOp_eq_false (o := "=") (by decide), hend.isOp_eq_false (o := ":=") (by decide)]
  rw [hnone]
  exact takes_pure

/-- Items after the first argument are arguments. -/
lemma Items.laterArguments (h : Items g s j es k) (line : ℕ) (hu : s.tokens[k]? = some u)
    (hclose : u.isOp ")" = true) :
    (laterArguments g line (positionalArgs as)).Takes s j (positionalArgs (as ++ es)) k := by
  have hk : k ≤ s.tokens.size := Nat.le_of_lt (Array.getElem?_eq_some_iff.mp hu).1
  have hsteps : ∀ {step : CallArgs → Rule CallArgs} {first : CallArgs} {i : ℕ},
      Continues step s i first j (positionalArgs as) →
      (∀ {as i e j}, (∃ t, s.tokens[i]? = some t ∧ t.isOp "," = true) → Item g s (i + 1) e j →
        (step (positionalArgs as)).Takes s i (positionalArgs (as ++ [e])) j) →
      Continues step s i first k (positionalArgs (as ++ es)) := by
    intro step first i hbefore hstep
    clear hu hk
    induction h generalizing as with
    | nil => simpa using hbefore
    | @cons j k _ e es hcomma item _ ih =>
      have hmoves := item.moves
      have hmore := ih (hbefore.tail (hstep hcomma item) (by omega))
      rwa [List.append_assoc, List.singleton_append] at hmore
  refine (hsteps .refl ?_).extend ?_ hk
  · rintro as i e j ⟨t, ht, hcomma⟩ item
    refine (takes_take ht hcomma).discard_bind (item.argument.or.bind ?_)
    have hlast : (positionalArgs (as ++ [e])).positional.getLast? = some e := by
      simp [positionalArgs]
    rw [hlast]
    dsimp only
    split
    · exact takes_diagnosing.bind takes_pure
    · exact takes_pure.bind takes_pure
  · have hcomma : u.isOp "," = false := by
      rw [Token.isOp_iff] at hclose
      simp [Token.isOp, hclose.2]
    exact (misses_take hu hcomma).discard.bind

/-- A call is a trailer. -/
lemma takes_trailer_call (ht : s.tokens[j]? = some t) (hopen : t.isOp "(" = true)
    (hargs : (callArguments g t.start false).Takes s (j + 1) (positionalArgs es) k) :
    ∃ r, (trailer g m a).Takes s j (.call a es [] r) k := by
  have hpoint : t.isOp "." = false := by
    rw [Token.isOp_iff] at hopen
    simp [Token.isOp, hopen.2]
  refine ⟨s.rangeTo m k, (takes_peek ht).bind ?_⟩
  rw [hpoint, hopen]
  exact takes_advance.bind (hargs.bind (takes_rangeFrom.bind takes_pure))

/-- A closing parenthesis takes no arguments. -/
lemma takes_callArguments_nil (ht : s.tokens[i]? = some t) (hclose : t.isOp ")" = true) :
    (callArguments g m false).Takes s i (positionalArgs []) (i + 1) :=
  (takes_tryOp ht hclose).bind takes_pure

/-- Items up to the closing parenthesis are taken as positional arguments. -/
lemma takes_callArguments (h : Item g s i a j) (hes : Items g s j es k)
    (hw : s.tokens[k]? = some w) (hlast : w.isOp ")" = true) :
    (callArguments g m false).Takes s i (positionalArgs (a :: es)) (k + 1) := by
  obtain ⟨t, ht, hlead⟩ := h.first
  obtain ⟨u, hu, hend⟩ := h.ends
  have hcomma : w.isOp "," = false := by
    rw [Token.isOp_iff] at hlast
    simp [Token.isOp, hlast.2]
  refine (takes_tryOp_false ht (hlead.isOp_eq_false (by decide))).bind ?_
  have hfirst : (argument g (positionalArgs [])).Takes s i (positionalArgs [a]) j := h.argument
  refine (takes_start ht).bind (hfirst.bind ?_)
  refine (takes_atClause_false hu hend).bind ?_
  refine (hes.laterArguments _ hw hlast).bind ((takes_tryOp_false hw hcomma).discard_bind ?_)
  exact (takes_take hw hlast).discard_bind takes_pure

/-! ## Attributes and subscripts -/

/-- An attribute is a trailer. -/
lemma takes_trailer_attribute (ht : s.tokens[j]? = some t) (hpoint : t.isOp "." = true)
    (hu : s.tokens[j + 1]? = some u) (hkind : u.kind = .name) (hname : u.text ∉ keywords) :
    ∃ r, (trailer g m a).Takes s j (.attribute a (Text.normalForm u.text) r) (j + 2) := by
  refine ⟨s.rangeTo m (j + 2), (takes_peek ht).bind ?_⟩
  rw [hpoint]
  exact takes_advance.bind ((takes_identifier hu hkind hname).bind
    (takes_rangeFrom.bind takes_pure))

/-- One index that is starred. -/
def starredIndex (g : Grammar) : Rule Expr := do
  let s ← start
  discard (op "*")
  let e ← g.expression
  return .starred e (← rangeFrom s)

/-- One index. -/
def index (g : Grammar) : Rule Expr := starredIndex g <|> slice g

/-- An item is taken as a slice. -/
lemma Item.slice (h : Item g s i e j) : (slice g).Takes s i e j := by
  obtain ⟨t, ht, hlead⟩ := h.first
  obtain ⟨u, hu, hend⟩ := h.ends
  refine (takes_start ht).bind ((takes_atOp ht ":").bind ?_)
  rw [hlead.isOp_eq_false (by decide)]
  refine (h.namedExpression.map some).bind ((takes_atOp hu ":").bind ?_)
  rw [hend.isOp_eq_false (by decide), Bool.and_false]
  exact takes_pure

/-- An item is taken as an index. -/
lemma Item.index (h : Item g s i e j) : (index g).Takes s i e j := by
  obtain ⟨t, ht, hlead⟩ := h.first
  refine Misses.or_takes ?_ h.slice
  exact (takes_start ht).bind_misses
    (misses_take ht (hlead.isOp_eq_false (by decide))).discard.bind

/-- No index is taken at a closing token. -/
lemma misses_index (hmiss : g.expression.Misses s i) (ht : s.tokens[i]? = some t)
    (hclose : t.Closes) : (index g).Misses s i := by
  refine Misses.or ?_ ?_
  · exact (takes_start ht).bind_misses
      (misses_take ht (hclose.isOp_eq_false (by decide))).discard.bind
  · refine (takes_start ht).bind_misses ((takes_atOp ht ":").bind_misses ?_)
    rw [hclose.isOp_eq_false (by decide)]
    exact (misses_namedExpression hmiss ht hclose).map some |>.bind

/-- One index is no tuple. -/
lemma Item.slices (h : Item g s i e j) (hu : s.tokens[j]? = some u)
    (hcomma : u.isOp "," = false) : (slices g).Takes s i e j := by
  obtain ⟨t, ht, -⟩ := h.first
  refine (takes_start ht).bind (h.index.bind ?_)
  cases e with
  | starred v r => exact absurd rfl (h.unstarred v r)
  | _ =>
    refine (takes_atOp hu ",").bind ?_
    rw [hcomma]
    exact takes_pure

/-- Indices with commas are a tuple. -/
lemma takes_slices_tuple (h : Item g s i a j) (hu : s.tokens[j]? = some u)
    (hcomma : u.isOp "," = true) (hes : (commaElements (index g)).Takes s j es k) :
    ∃ r, (slices g).Takes s i (.tuple (a :: es) r) k := by
  obtain ⟨t, ht, -⟩ := h.first
  refine ⟨s.rangeTo t.start k, (takes_start ht).bind (h.index.bind ?_)⟩
  cases a with
  | starred v r => exact absurd rfl (h.unstarred v r)
  | _ =>
    refine (takes_atOp hu ",").bind ?_
    rw [hcomma]
    exact hes.bind (takes_rangeFrom.bind takes_pure)

/-- A subscript is a trailer. -/
lemma takes_trailer_subscript (ht : s.tokens[j]? = some t) (hopen : t.isOp "[" = true)
    (h : (slices g).Takes s (j + 1) e k) (hw : s.tokens[k]? = some w)
    (hlast : w.isOp "]" = true) :
    ∃ r, (trailer g m a).Takes s j (.subscript a e r) (k + 1) := by
  have hne : ∀ o ∈ [".", "("], t.isOp o = false := by
    rw [Token.isOp_iff] at hopen
    simp [Token.isOp, hopen.2]
  refine ⟨s.rangeTo m (k + 1), (takes_peek ht).bind ?_⟩
  rw [hne "." (by decide), hne "(" (by decide), hopen]
  refine takes_advance.bind (h.bind ((takes_take hw hlast).discard_bind ?_))
  exact takes_rangeFrom.bind takes_pure

end BlockText.Source.Grammar

import BlockText.Proofs.Source.Standing.Basic

/-!
# Atoms among tokens

If the rules that a grammar uses inside its brackets give expressions that stand where they were
read, then so do the rules for names, targets, displays, strings and other atoms.
-/

namespace BlockText.Source

open Rule

/-- The rules inside others give expressions that stand where they were read. -/
structure Grammar.Nests (g : Grammar) : Prop where
  expression : ∀ {T : Array Token} {i : ℕ}, InOrder T →
    g.expression.Gives T i fun e => e.Stands T i
  disjunction : ∀ {T : Array Token} {i : ℕ}, InOrder T →
    g.disjunction.Gives T i fun e => e.Stands T i
  bitOr : ∀ {T : Array Token} {i : ℕ}, InOrder T → g.bitOr.Gives T i fun e => e.Stands T i
  factor : ∀ {T : Array Token} {i : ℕ}, InOrder T → g.factor.Gives T i fun e => e.Stands T i
  primary : ∀ {T : Array Token} {i : ℕ}, InOrder T → g.primary.Gives T i fun e => e.Stands T i

namespace Grammar

variable {α : Type} {g : Grammar} {T : Array Token} {i j k : ℕ} {e : Expr} {es : List Expr}
  {Q : α → ℕ → Prop} {element : Rule Expr}

/-! ## Names and targets -/

/-- A name takes one token of code and has its range. -/
lemma gives_identifier : identifier.Gives T i fun t j =>
    j = i + 1 ∧ IsCode T i ∧ (⟨t.start, t.stop⟩ : Range) = tokenRange T i (i + 1) := by
  refine gives_take.bind ?_
  rintro t _ ⟨rfl, ht, hname⟩
  have hlayout : t.isLayout = false := by
    have hkind : t.kind = .name := by simp_all [Token.isIdentifier]
    simp [Token.isLayout, hkind]
  refine gives_pure ⟨rfl, ⟨t, ht, hlayout⟩, ?_⟩
  rw [tokenRange, startAt_eq ht, stopBefore_succ ht hlayout]

/-- After a name the rest is shown from the next token on. -/
lemma gives_identifier_bind {f : Token → Rule α}
    (h : ∀ t : Token, IsCode T i → (⟨t.start, t.stop⟩ : Range) = tokenRange T i (i + 1) →
      (f t).Gives T (i + 1) Q) : (identifier >>= f).Gives T i Q := by
  refine gives_identifier.bind ?_
  rintro t _ ⟨rfl, hi, hrange⟩
  exact h t hi hrange

/-- An expression of one token. -/
lemma stands_token (hT : InOrder T) (hi : IsCode T i) (hrange : e.range = tokenRange T i (i + 1))
    (hoperands : e.operands = []) (hparts : e.parts = []) : e.Stands T i (i + 1) :=
  Expr.stands_of_operands hT hrange hi (Nat.lt_succ_self i) (by simp [hoperands]) hparts

/-- An expression around one expression. -/
lemma stands_of_single (hT : InOrder T) {c : Expr} (hi : IsCode T i) (hik : i ≤ k)
    (hc : c.Stands T k j) (hrange : e.range = tokenRange T i j) (hoperands : e.operands = [c])
    (hparts : e.parts = []) : e.Stands T i j := by
  refine Expr.stands_of_operands hT hrange hi (hik.trans_lt hc.spans.lt) ?_ hparts
  rw [hoperands]
  exact List.forall_mem_singleton.mpr (hc.among.mono hik le_rfl)

/-! ## Expressions in a list -/

/-- Elements after commas are among the tokens from which they were read. -/
lemma gives_commaElements (h : ∀ i, element.Gives T i fun e => e.Stands T i) :
    (commaElements element).Gives T i fun es j => i ≤ j ∧ ∀ e ∈ es, e.Among T i j := by
  have hmany : (many (do discard (op ","); element)).Gives T i
      (Series (fun i e j => e.Among T i j) i) := by
    refine gives_many fun i => gives_op_bind fun _ => (h (i + 1)).mono fun e j he => ?_
    exact he.among.mono (Nat.le_succ i) le_rfl
  refine hmany.bind fun es j hes => gives_tryOp_discard_bind fun k hjk => gives_pure ?_
  obtain ⟨hij, hes⟩ := hes.mem fun _ _ _ he => he.lt.le
  refine ⟨hij.trans hjk, fun e he => ?_⟩
  obtain ⟨k', l, hk, hl, he⟩ := hes e he
  exact he.mono hk (hl.trans hjk)

/-- A first expression and more of them, from one token to another. -/
lemma stands_of_cons (hT : InOrder T) {first : Expr} (hfirst : first.Stands T i j) (hjk : j ≤ k)
    (hes : ∀ e ∈ es, e.Among T j k) (hrange : e.range = tokenRange T i k)
    (hoperands : e.operands = first :: es) (hparts : e.parts = []) : e.Stands T i k := by
  have hij := hfirst.spans.lt
  refine Expr.stands_of_operands hT hrange hfirst.spans.isCode (hij.trans_le hjk) ?_ hparts
  rw [hoperands]
  exact List.forall_mem_cons.mpr ⟨hfirst.among.mono le_rfl hjk,
    fun e he => (hes e he).mono hij.le le_rfl⟩

/-- One element or several stand where they were read. -/
lemma gives_tupleOf (hT : InOrder T) (h : ∀ i, element.Gives T i fun e => e.Stands T i) :
    (tupleOf element).Gives T i fun e => e.Stands T i := by
  refine gives_start_bind ((h i).bind fun first j hfirst => gives_if_atOp ?_ (gives_pure hfirst))
  refine (gives_commaElements h).bind fun es k hes => gives_rangeFrom_bind (gives_pure ?_)
  exact stands_of_cons hT hfirst hes.1 hes.2 rfl rfl rfl

section

variable (hg : g.Nests) (hT : InOrder T)

include hg hT

/-- A starred or plain expression stands where it was read. -/
lemma gives_starExpression (i : ℕ) : (starExpression g).Gives T i fun e => e.Stands T i := by
  refine gives_start_bind (gives_if_tryOp (fun hi => ?_) (hg.expression hT))
  refine (hg.bitOr hT).bind fun e j he => gives_rangeFrom_bind (gives_pure ?_)
  exact stands_of_single hT hi (Nat.le_succ i) he rfl rfl rfl

/-- Starred or plain expressions stand where they were read. -/
lemma gives_starExpressions (i : ℕ) : (starExpressions g).Gives T i fun e => e.Stands T i :=
  gives_tupleOf hT (gives_starExpression hg hT)

/-- An assignment inside an expression stands where it was read. -/
lemma gives_walrus (i : ℕ) : (walrus g).Gives T i fun e => e.Stands T i := by
  refine gives_start_bind (gives_identifier_bind fun t hi _ => gives_op_bind fun _ => ?_)
  refine (hg.expression hT).bind fun e j he => gives_rangeFrom_bind (gives_pure ?_)
  exact stands_of_single hT hi (by omega) he rfl rfl rfl

/-- An expression that may be an assignment stands where it was read. -/
lemma gives_namedExpression (i : ℕ) : (namedExpression g).Gives T i fun e => e.Stands T i := by
  refine gives_if_ahead (gives_walrus hg hT i) (gives_start_bind ?_)
  refine (hg.expression hT).bind fun e j he => gives_diagnosing_bind ?_
  exact gives_if_atOp gives_fail (gives_pure he)

/-- An element of a display stands where it was read. -/
lemma gives_starNamedExpression (i : ℕ) :
    (starNamedExpression g).Gives T i fun e => e.Stands T i := by
  refine gives_start_bind (gives_if_tryOp (fun hi => ?_) (gives_namedExpression hg hT i))
  refine (hg.bitOr hT).bind fun e j he => gives_rangeFrom_bind (gives_pure ?_)
  exact stands_of_single hT hi (Nat.le_succ i) he rfl rfl rfl

/-- A yielded value stands where it was read. -/
lemma gives_yieldExpr (i : ℕ) : (yieldExpr g).Gives T i fun e => e.Stands T i := by
  refine gives_start_bind (gives_word_bind fun hi => gives_if_tryWord (fun _ => ?_) ?_)
  · refine (hg.expression hT).bind fun e j he => gives_rangeFrom_bind (gives_pure ?_)
    exact stands_of_single hT hi (by omega) he rfl rfl rfl
  · refine (gives_starExpressions hg hT _).optional.bind fun o j ho =>
      gives_rangeFrom_bind (gives_pure ?_)
    rcases ho with ⟨e, rfl, he⟩ | ⟨rfl, rfl⟩
    · exact stands_of_single hT hi (Nat.le_succ i) he rfl rfl rfl
    · exact stands_token hT hi rfl rfl rfl

/-- The right side of an assignment stands where it was read. -/
lemma gives_assigned (i : ℕ) : (assigned g).Gives T i fun e => e.Stands T i :=
  gives_if_atWord (gives_yieldExpr hg hT i) (gives_starExpressions hg hT i)

/-! ## Targets of loops -/

/-- A target of a loop stands where it was read. -/
lemma gives_loopTarget (i : ℕ) : (loopTarget g).Gives T i fun e => e.Stands T i := by
  refine gives_start_bind (gives_tryOp_bind (fun hi => ?_) ?_)
  · refine (hg.primary hT).bind fun e j he => gives_ite (fun _ => ?_) fun _ =>
      gives_diagnosing_bind gives_fail
    refine gives_rangeFrom_bind (gives_pure ?_)
    exact stands_of_single hT hi (Nat.le_succ i) he rfl rfl rfl
  · refine (hg.primary hT).bind fun e j he => gives_ite (fun _ => gives_pure he) fun _ =>
      gives_diagnosing_bind gives_fail

/-- The targets of a loop stand where they were read. -/
lemma gives_loopTargets (i : ℕ) : (loopTargets g).Gives T i fun e => e.Stands T i :=
  gives_tupleOf hT (gives_loopTarget hg hT)

omit hg hT in
/-- A production that the start of a comprehension clause decides. -/
lemma gives_if_atClause {p q : Rule α} (hp : p.Gives T i Q) (hq : q.Gives T i Q) :
    (atClause >>= fun b => if b = true then p else q).Gives T i Q := by
  have hat : atClause.Gives T i fun _ j => j = i := gives_peek_bind fun _ _ => gives_pure rfl
  refine hat.bind ?_
  rintro b _ rfl
  exact gives_ite (fun _ => hp) fun _ => hq

/-- A comprehension clause is among the tokens from which it was read. -/
lemma gives_forClause (i : ℕ) : (forClause g).Gives T i fun c j => c.part.Among T i j := by
  have hifs : ∀ i, (many (do discard (word "if"); g.disjunction)).Gives T i
      (Series (fun i e j => e.Among T i j) i) := fun i =>
    gives_many fun i => gives_word_bind fun _ => (hg.disjunction hT).mono fun e j he =>
      he.among.mono (Nat.le_succ i) le_rfl
  refine gives_tryWord.bind fun isAsync i₁ hi₁ => gives_word_bind fun _ => ?_
  refine (gives_loopTargets hg hT _).bind fun target i₂ htarget => gives_word_bind fun _ => ?_
  refine (hg.disjunction hT).bind fun iter i₃ hiter => (hifs i₃).bind fun ifs i₄ hifs =>
    gives_pure ?_
  have hseries : Series (fun i e j => e.Among T i j) i (target :: iter :: ifs) i₄ :=
    .cons (htarget.among.mono (by omega) le_rfl) (.cons (hiter.among.mono (Nat.le_succ i₂) le_rfl)
      hifs)
  have hlast : (ifs.getLast?.map Expr.range).getD iter.range =
      ((target :: iter :: ifs).getLast (List.cons_ne_nil _ _)).range := by
    rcases ifs with - | ⟨e, es⟩
    · rfl
    · simp [List.getLast?_eq_some_getLast]
  have hpart := hseries.part_among hT
  rwa [← hlast] at hpart

/-- Comprehension clauses are among the tokens from which they were read. -/
lemma gives_forClauses (i : ℕ) :
    (forClauses g).Gives T i fun cs j => i ≤ j ∧ ∀ p ∈ cs.map ForClause.part, p.Among T i j := by
  refine (gives_many1 (gives_forClause hg hT)).mono fun cs j hcs => ?_
  obtain ⟨hij, hmem⟩ := hcs.2.mem fun _ _ _ hc => hc.lt.le
  refine ⟨hij, List.forall_mem_map.mpr fun c hc => ?_⟩
  obtain ⟨k, l, hk, hl, hc⟩ := hmem c hc
  exact hc.mono hk hl

/-! ## Displays -/

omit hg in
/-- What a display holds and its clauses make a comprehension. -/
lemma stands_comprehension {kind : Syntax.ComprehensionKind} {key : Option Expr}
    {cs : List (ForClause Expr)} {l : ℕ} (hi : IsCode T i) (hkey : ∀ e ∈ key, e.Among T i k)
    (he : e.Among T i k) (hkj : k ≤ j)
    (hcs : ∀ p ∈ cs.map ForClause.part, p.Among T k j) (hjl : j ≤ l) :
    (Expr.comprehension kind key e cs (tokenRange T i l)).Stands T i l := by
  have hlt := he.lt
  refine Expr.stands_of_parts hT rfl hi (by omega) ?_ fun p hp => (hcs p hp).mono (by omega) hjl
  intro c hc
  rcases List.mem_append.mp hc with hc | hc
  · exact (hkey c (Option.mem_toList.mp hc)).mono le_rfl (by omega)
  · obtain rfl := List.mem_singleton.mp hc
    exact he.mono le_rfl (by omega)

omit hg in
/-- Expressions between brackets. -/
lemma stands_enclosed {first : Expr} {l : ℕ} (hi : IsCode T i) (hfirst : first.Stands T (i + 1) j)
    (hjk : j ≤ k) (hes : ∀ e ∈ es, e.Among T j k) (hkl : k ≤ l)
    (hrange : e.range = tokenRange T i l)
    (hoperands : e.operands = first :: es) (hparts : e.parts = []) : e.Stands T i l := by
  have hlt := hfirst.spans.lt
  refine Expr.stands_of_operands hT hrange hi (by omega) ?_ hparts
  rw [hoperands]
  exact List.forall_mem_cons.mpr ⟨hfirst.among.mono (Nat.le_succ i) (hjk.trans hkl),
    fun e he => (hes e he).mono (by omega) hkl⟩

omit hg in
/-- Nothing between brackets. -/
lemma stands_empty (hi : IsCode T i) (hij : i < j) (hrange : e.range = tokenRange T i j)
    (hoperands : e.operands = []) (hparts : e.parts = []) : e.Stands T i j :=
  Expr.stands_of_operands hT hrange hi hij (by simp [hoperands]) hparts

/-- What stands between parentheses stands where it was read, with them or without. -/
lemma gives_parenthesized (i : ℕ) : (parenthesized g).Gives T i fun e => e.Stands T i := by
  refine gives_start_bind (gives_take.discard_bind ?_)
  rintro t _ ⟨rfl, ht, hop⟩
  have hi : IsCode T i := ⟨t, ht, isLayout_of_isOp hop⟩
  refine gives_if_tryOp (fun _ => ?_) (gives_if_atWord ?_ ?_)
  · exact gives_rangeFrom_bind (gives_pure (stands_empty hT hi (by omega) rfl rfl rfl))
  · refine (gives_yieldExpr hg hT _).bind fun e j he => gives_op_bind fun _ => gives_pure ?_
    exact he.parenthesize hT ht hop (Nat.le_succ j)
  · refine gives_diagnosing_bind ((gives_starNamedExpression hg hT _).bind fun first j hfirst => ?_)
    refine gives_if_atOp ?_ (gives_if_atOp ?_ ?_)
    · refine (gives_commaElements (gives_starNamedExpression hg hT)).bind fun es k hes =>
        gives_op_bind fun _ => gives_rangeFrom_bind (gives_pure ?_)
      exact stands_enclosed hT hi hfirst hes.1 hes.2 (Nat.le_succ k) rfl rfl rfl
    · refine gives_ite (fun _ => gives_diagnosing_bind gives_fail) fun _ => ?_
      exact gives_advance_bind (gives_pure (hfirst.parenthesize hT ht hop (Nat.le_succ j)))
    · refine gives_if_atClause (gives_ite (fun _ => gives_diagnosing_bind gives_fail) fun _ => ?_)
        gives_fail
      refine (gives_forClauses hg hT _).bind fun cs k hcs => gives_op_bind fun _ =>
        gives_rangeFrom_bind (gives_pure ?_)
      exact stands_comprehension hT hi nofun (hfirst.among.mono (Nat.le_succ i) le_rfl) hcs.1 hcs.2
        (Nat.le_succ k)

/-- A list stands where it was read. -/
lemma gives_listDisplay (i : ℕ) : (listDisplay g).Gives T i fun e => e.Stands T i := by
  refine gives_start_bind (gives_op_bind fun hi => gives_if_tryOp (fun _ => ?_) ?_)
  · exact gives_rangeFrom_bind (gives_pure (stands_empty hT hi (by omega) rfl rfl rfl))
  · refine (gives_starNamedExpression hg hT _).bind fun first j hfirst =>
      gives_diagnosing_bind (gives_if_atClause ?_ ?_)
    · split
      · exact gives_fail
      · refine (gives_forClauses hg hT _).bind fun cs k hcs => gives_op_bind fun _ =>
          gives_rangeFrom_bind (gives_pure ?_)
        exact stands_comprehension hT hi nofun (hfirst.among.mono (Nat.le_succ i) le_rfl) hcs.1
          hcs.2
          (Nat.le_succ k)
    · refine (gives_commaElements (gives_starNamedExpression hg hT)).bind fun es k hes =>
        gives_op_bind fun _ => gives_rangeFrom_bind (gives_pure ?_)
      exact stands_enclosed hT hi hfirst hes.1 hes.2 (Nat.le_succ k) rfl rfl rfl

omit hg in
/-- An entry without a key is where its value is. -/
lemma among_entry_value {e : Expr} (he : e.Among T i j) :
    (⟨none, e⟩ : Entry Expr).part.Among T i j :=
  (Series.cons he .nil).part_among hT

omit hg in
/-- An entry goes from its key to its value. -/
lemma among_entry_key {k : ℕ} {key value : Expr} (hkey : key.Among T i j)
    (hvalue : value.Among T j k) : (⟨some key, value⟩ : Entry Expr).part.Among T i k :=
  (Series.cons hkey (.cons hvalue .nil)).part_among hT

/-- An entry of a dictionary is among the tokens from which it was read. -/
lemma gives_dictEntry (i : ℕ) : (dictEntry g).Gives T i fun e j => e.part.Among T i j := by
  refine gives_if_tryOp (fun _ => ?_) ?_
  · refine (hg.bitOr hT).bind fun e j he => gives_pure (among_entry_value hT ?_)
    exact he.among.mono (Nat.le_succ i) le_rfl
  · refine (hg.expression hT).bind fun key j hkey => gives_atOp_bind fun b _ => gives_ite
      (fun _ => gives_diagnosing_bind gives_fail) fun _ => gives_advance_bind ?_
    refine gives_diagnosing_bind ((hg.expression hT).bind fun value k hvalue => gives_pure ?_)
    exact among_entry_key hT hkey.among (hvalue.among.mono (Nat.le_succ j) le_rfl)

/-- A dictionary stands from its brace on once its first entry was read. -/
lemma gives_dictRest {first : Entry Expr} (hi : IsCode T i) (hfirst : first.part.Among T i j) :
    (dictRest g (startAt T i) first).Gives T j fun e => e.Stands T i := by
  have hmany : (many (do
      discard (op ",")
      if ← atOp "\x7d" then fail else dictEntry g)).Gives T j
      (Series (fun i e j => e.part.Among T i j) j) := by
    refine gives_many fun i => gives_op_bind fun _ => gives_if_atOp gives_fail ?_
    exact (gives_dictEntry hg hT _).mono fun e j he => he.mono (Nat.le_succ i) le_rfl
  refine hmany.bind fun es k hes => gives_tryOp_discard_bind fun l hkl => gives_op_bind fun _ =>
    gives_rangeFrom_bind (gives_pure ?_)
  obtain ⟨hjk, hmem⟩ := hes.mem fun _ _ _ he => he.lt.le
  have hlt := hfirst.lt
  refine Expr.stands_of_parts hT rfl hi (by omega) nofun (List.forall_mem_map.mpr ?_)
  refine List.forall_mem_cons.mpr ⟨hfirst.mono le_rfl (by omega), fun e he => ?_⟩
  obtain ⟨k', l', hk, hl, he⟩ := hmem e he
  exact he.mono (by omega) (by omega)

/-- A dictionary or a set stands where it was read. -/
lemma gives_braceDisplay (i : ℕ) : (braceDisplay g).Gives T i fun e => e.Stands T i := by
  refine gives_start_bind (gives_op_bind fun hi => gives_if_tryOp (fun _ => ?_)
    (gives_if_atOp ?_ ?_))
  · exact gives_rangeFrom_bind (gives_pure (stands_empty hT hi (by omega) rfl rfl rfl))
  · refine gives_start_bind (gives_advance_bind ((hg.bitOr hT).bind fun e j he => ?_))
    refine gives_diagnosing_bind (gives_dictRest hg hT hi (among_entry_value hT ?_))
    exact he.among.mono (by omega) le_rfl
  · refine gives_start_bind ((gives_starNamedExpression hg hT _).bind fun first j hfirst => ?_)
    have hkey := hfirst.among.mono (Nat.le_succ i) le_rfl
    refine gives_atOp_bind fun b _ => gives_ite (fun _ => ?_) fun _ => ?_
    · refine gives_advance_bind (gives_diagnosing_bind
        ((hg.expression hT).bind fun value k hvalue => ?_))
      have hvalue' := hvalue.among.mono (Nat.le_succ j) le_rfl
      refine gives_if_atClause ?_ (gives_dictRest hg hT hi (among_entry_key hT hkey hvalue'))
      refine (gives_forClauses hg hT _).bind fun cs l hcs => gives_op_bind fun _ =>
        gives_rangeFrom_bind (gives_pure ?_)
      refine stands_comprehension hT hi ?_ (hvalue'.mono hkey.lt.le le_rfl) hcs.1 hcs.2
        (Nat.le_succ l)
      rintro _ ⟨⟩
      exact hkey.mono le_rfl hvalue'.lt.le
    · refine gives_diagnosing_bind (gives_if_atClause ?_ ?_)
      · split
        · exact gives_fail
        · refine (gives_forClauses hg hT _).bind fun cs k hcs => gives_op_bind fun _ =>
            gives_rangeFrom_bind (gives_pure ?_)
          exact stands_comprehension hT hi nofun hkey hcs.1 hcs.2 (Nat.le_succ k)
      · refine (gives_commaElements (gives_starNamedExpression hg hT)).bind fun es k hes =>
          gives_op_bind fun _ => gives_rangeFrom_bind (gives_pure ?_)
        exact stands_enclosed hT hi hfirst hes.1 hes.2 (Nat.le_succ k) rfl rfl rfl

/-! ## Strings -/

/-- The expressions of the pieces are nested. -/
def PiecesNested (ps : List (Piece Expr)) : Prop := ∀ p ∈ ps, ∀ e ∈ p.value, e.IsNested

omit hT in
/-- The expression of a replacement field is nested, and nothing is taken for it. -/
lemma gives_embedded (source : List Char) (brace : Mark) :
    (embedded g source brace).Gives T i fun e j => j = i ∧ e.IsNested := by
  refine gives_input_bind fun input => ?_
  dsimp only
  generalize hstream : lexFrom brace (['('] ++ source ++ [')', '\n']) = stream
  cases hrun : (starExpressions g).run input.names stream with
  | ok e =>
    have hstands := gives_starExpressions hg (hstream ▸ (placed_lexFrom brace _).toInOrder) 0
    obtain ⟨_, he⟩ := Gives.of_run hstands hrun
    exact gives_pure ⟨rfl, he.nested⟩
  | error line => exact gives_complain line

seal embedded in
omit hT in
/-- The expressions in a format are read without moving. -/
lemma gives_readSpec (pieces : List RawPiece) :
    (readSpec g pieces).Gives T i fun _ j => j = i := by
  induction pieces with
  | nil => exact gives_pure rfl
  | cons piece rest ih =>
    cases piece with
    | text cs => exact ih
    | field source brace shown conversion spec =>
      refine (gives_embedded hg source brace).discard_bind ?_
      rintro e _ ⟨rfl, -⟩
      exact ih

omit hg hT in
/-- A piece of text has no parts. -/
lemma piecesNested_textPiece (ps : List CodePoint) : PiecesNested (textPiece ps) := by
  unfold textPiece
  split
  · exact nofun
  · exact List.forall_mem_singleton.mpr nofun

seal embedded in
omit hT in
/-- The pieces of a literal are nested, and reading them does not move. -/
lemma gives_readPieces (pieces : List RawPiece) :
    (readPieces g pieces).Gives T i fun ps j => j = i ∧ PiecesNested ps := by
  induction pieces with
  | nil => exact gives_pure ⟨rfl, nofun⟩
  | cons piece rest ih =>
    cases piece with
    | text cs =>
      refine ih.bind ?_
      rintro ps _ ⟨rfl, hps⟩
      exact gives_pure ⟨rfl, List.forall_mem_append.mpr ⟨piecesNested_textPiece cs, hps⟩⟩
    | field source brace shown conversion spec =>
      refine (gives_embedded hg source brace).bind ?_
      rintro e _ ⟨rfl, he⟩
      refine (gives_readSpec hg _).bind ?_
      rintro _ _ rfl
      refine ih.bind ?_
      rintro ps _ ⟨rfl, hps⟩
      refine gives_pure ⟨rfl, List.forall_mem_append.mpr ⟨piecesNested_textPiece _, ?_⟩⟩
      refine List.forall_mem_cons.mpr ⟨?_, hps⟩
      rintro _ ⟨⟩
      exact he

omit hg hT in
/-- Pieces stay nested when neighbouring texts are joined. -/
lemma piecesNested_mergePieces {ps : List (Piece Expr)} (h : PiecesNested ps) :
    PiecesNested (mergePieces ps) := by
  induction ps with
  | nil => exact nofun
  | cons p rest ih =>
    obtain ⟨hp, hrest⟩ := List.forall_mem_cons.mp h
    have ih := ih hrest
    rw [mergePieces]
    split
    · next q more hvalue hmerged =>
      rw [hmerged] at ih
      obtain ⟨hq, hmore⟩ := List.forall_mem_cons.mp ih
      split
      · exact List.forall_mem_cons.mpr ⟨hp, hmore⟩
      · exact List.forall_mem_cons.mpr ⟨hp, List.forall_mem_cons.mpr ⟨hq, hmore⟩⟩
    · exact List.forall_mem_cons.mpr ⟨hp, ih⟩

omit hg hT in
/-- A complaint about the last token gives everything, for no value comes with it. -/
lemma gives_complainLast : (complainLast : Rule α).Gives T i Q := by
  refine gives_furthest_bind fun far => gives_input_bind fun x => ?_
  split
  · exact gives_complain _
  · exact gives_input_bind fun _ => gives_complain _

omit hT in
/-- The pieces of one literal are nested. -/
lemma gives_literalPieces (t : Token) :
    (literalPieces g t).Gives T i fun ps j => j = i ∧ PiecesNested ps := by
  refine gives_input_bind fun input => ?_
  refine gives_ite (fun _ => ?_) fun _ => gives_ite (fun _ => ?_) fun _ => ?_
  · refine (gives_readPieces hg _).bind ?_
    rintro ps _ ⟨rfl, hps⟩
    exact gives_ite (fun _ => gives_complainLast) fun _ => gives_pure ⟨rfl, hps⟩
  · refine gives_ite (fun _ => gives_complain _) fun _ => ?_
    exact gives_ite (fun _ => gives_complainLast) fun _ => gives_pure ⟨rfl, nofun⟩
  · split
    · exact gives_pure ⟨rfl, piecesNested_textPiece _⟩
    · exact gives_complainLast

omit hT in
/-- The pieces of adjacent literals are nested. -/
lemma gives_literalsPieces (isBytes : Bool) (ts : List Token) :
    (literalsPieces g isBytes ts).Gives T i fun ps j => j = i ∧ PiecesNested ps := by
  induction ts with
  | nil => exact gives_pure ⟨rfl, nofun⟩
  | cons t rest ih =>
    refine (gives_literalPieces hg t).bind ?_
    rintro ps _ ⟨rfl, hps⟩
    refine gives_ite (fun _ => gives_complainLast) fun _ => ih.bind ?_
    rintro ps' _ ⟨rfl, hps'⟩
    exact gives_pure ⟨rfl, List.forall_mem_append.mpr ⟨hps, hps'⟩⟩

/-- Adjacent literals stand where they were read. -/
lemma gives_strings (i : ℕ) : (strings g).Gives T i fun e => e.Stands T i := by
  have hone : ∀ i, (kind .string).Gives T i fun t j => j = i + 1 ∧ IsCode T i := by
    refine fun i => gives_take.mono ?_
    rintro t _ ⟨rfl, ht, hkind⟩
    exact ⟨rfl, t, ht, by simp_all [Token.isLayout]⟩
  refine gives_start_bind ((gives_many1 hone).bind fun ts j hts => ?_)
  obtain ⟨hi, hij⟩ : IsCode T i ∧ i < j := by
    obtain ⟨hne, hseries⟩ := hts
    cases hseries with
    | nil => exact absurd rfl hne
    | cons first rest =>
      obtain ⟨rfl, hi⟩ := first
      exact ⟨hi, (rest.mem fun _ _ _ h => h.1.symm ▸ Nat.le_succ _).1⟩
  refine (gives_literalsPieces hg _ ts).bind ?_
  rintro ps _ ⟨rfl, hps⟩
  refine gives_rangeFrom_bind (gives_ite (fun _ => gives_pure (stands_empty hT hi hij rfl rfl rfl))
    fun _ => gives_ite (fun _ => gives_pure ?_) fun _ =>
      gives_pure (stands_empty hT hi hij rfl rfl rfl))
  have hmerged := piecesNested_mergePieces hps
  refine ⟨hT.spans hi hij, .intro (fun hinside => ⟨List.forall_mem_nil _, ?_⟩) ?_, begins_startAt hi⟩
  · refine List.forall_mem_map.mpr fun p hp => ⟨.self (hT.spans hi hij).forward.le, fun c hc => ?_⟩
    exact hinside c (List.mem_flatMap.mpr ⟨p, hp, hc⟩)
  · intro c hc
    obtain ⟨_, hpart, hc⟩ := List.mem_flatMap.mp hc
    obtain ⟨p, hp, rfl⟩ := List.mem_map.mp hpart
    exact hmerged p hp c (Option.mem_toList.mp hc)

/-! ## Atoms and what follows them -/

omit hg in
/-- An expression that is the current token. -/
lemma gives_token {t : Token} {i : ℕ} (ht : T[i]? = some t) (hlayout : t.isLayout = false)
    (hrange : e.range = ⟨t.start, t.stop⟩) (hoperands : e.operands = []) (hparts : e.parts = []) :
    (do advance; return e : Rule Expr).Gives T i fun e => e.Stands T i := by
  refine gives_advance_bind (gives_pure (stands_token hT ⟨t, ht, hlayout⟩ ?_ hoperands hparts))
  rw [hrange, tokenRange, startAt_eq ht, stopBefore_succ ht hlayout]

omit hg hT in
/-- A number takes one token. -/
lemma gives_number : number.Gives T i fun t j => j = i + 1 ∧ T[i]? = some t := by
  refine gives_take.bind ?_
  rintro t _ ⟨rfl, ht, -⟩
  exact gives_ite (fun _ => gives_complain _) fun _ => gives_pure ⟨rfl, ht⟩

/-- An atom stands where it was read. -/
lemma gives_atom (i : ℕ) : (atom g).Gives T i fun e => e.Stands T i := by
  refine gives_peek_bind fun t ht => ?_
  dsimp only
  split
  · next hkind =>
    have hlayout : t.isLayout = false := by simp [Token.isLayout, hkind]
    refine gives_ite (fun _ => gives_token hT ht hlayout rfl rfl rfl) fun _ => gives_ite
      (fun _ => gives_token hT ht hlayout rfl rfl rfl) fun _ => gives_ite
      (fun _ => gives_token hT ht hlayout rfl rfl rfl) fun _ => gives_identifier_bind
        fun u hi hrange => gives_pure (stands_token hT hi hrange rfl rfl)
  · next hkind =>
    have hlayout : t.isLayout = false := by simp [Token.isLayout, hkind]
    refine gives_number.discard_bind ?_
    rintro _ _ ⟨rfl, -⟩
    refine gives_pure (stands_token hT ⟨t, ht, hlayout⟩ ?_ rfl rfl)
    rw [tokenRange, startAt_eq ht, stopBefore_succ ht hlayout]
    rfl
  · exact gives_strings hg hT i
  · next hkind =>
    have hlayout : t.isLayout = false := by simp [Token.isLayout, hkind]
    exact gives_ite (fun _ => gives_parenthesized hg hT i) fun _ => gives_ite
      (fun _ => gives_listDisplay hg hT i) fun _ => gives_ite
      (fun _ => gives_braceDisplay hg hT i) fun _ => gives_ite
      (fun _ => gives_token hT ht hlayout rfl rfl rfl) fun _ => gives_fail
  · exact gives_fail

end

/-- The arguments stand somewhere between two positions. -/
structure CallArgs.Among (T : Array Token) (i : ℕ) (args : CallArgs) (j : ℕ) : Prop where
  positional : ∀ e ∈ args.positional, e.Among T i j
  keywords : ∀ k ∈ args.keywords, k.part.Among T i j

/-- Arguments up to an inner position are up to an outer one. -/
lemma CallArgs.Among.mono {args : CallArgs} (h : args.Among T i j) (hjk : j ≤ k) :
    args.Among T i k :=
  ⟨fun e he => (h.positional e he).mono le_rfl hjk, fun a ha => (h.keywords a ha).mono le_rfl hjk⟩

/-- Arguments from an inner position on are from an outer one on. -/
lemma CallArgs.Among.mono_left {args : CallArgs} {m : ℕ} (h : args.Among T i j) (hmi : m ≤ i) :
    args.Among T m j :=
  ⟨fun e he => (h.positional e he).mono hmi le_rfl, fun a ha => (h.keywords a ha).mono hmi le_rfl⟩

/-- No arguments are everywhere. -/
lemma CallArgs.among_empty : ({} : CallArgs).Among T i j := ⟨nofun, nofun⟩

section

variable (hg : g.Nests) (hT : InOrder T)

include hg hT

omit hg in
/-- A keyword argument from one token to another. -/
lemma among_keyword {name : Option String} {value : Expr} {m : ℕ} (hi : IsCode T i) (hmi : m ≤ i)
    (hik : i ≤ k) (hvalue : value.Stands T k j) :
    (⟨name, value, tokenRange T i j⟩ : KeywordArg Expr).part.Among T m j := by
  have hlt := hvalue.spans.lt
  refine ⟨i, j, hmi, le_rfl, hT.spans hi (by omega), List.forall_mem_singleton.mpr ?_⟩
  exact ⟨hvalue.spans.holds hT hi hik le_rfl, hvalue.nested⟩

/-- An argument joins those that were read before it. -/
lemma gives_argument {done : CallArgs} {m : ℕ} (hmi : m ≤ i) (hdone : done.Among T m i) :
    (argument g done).Gives T i fun args j => i < j ∧ args.Among T m j := by
  have hpositional : ∀ {e : Expr} {j}, e.Stands T i j → i < j ∧
      ({ done with positional := done.positional ++ [e] } : CallArgs).Among T m j := by
    intro e j he
    refine ⟨he.spans.lt, fun c hc => ?_, (hdone.mono he.spans.lt.le).keywords⟩
    rcases List.mem_append.mp hc with hc | hc
    · exact (hdone.positional c hc).mono le_rfl he.spans.lt.le
    · obtain rfl := List.mem_singleton.mp hc
      exact he.among.mono hmi le_rfl
  have hkeyword : ∀ {name : Option String} {value : Expr} {k j : ℕ} {b b' : Bool}, IsCode T i →
      i ≤ k → value.Stands T k j → i < j ∧ ({ done with
        keywords := done.keywords ++ [⟨name, value, tokenRange T i j⟩], isNamed := b,
        isMapped := b' } : CallArgs).Among T m j := by
    intro name value k j b b' hi hik hvalue
    have hlt := hvalue.spans.lt
    refine ⟨by omega, (hdone.mono (by omega)).positional, fun a ha => ?_⟩
    rcases List.mem_append.mp ha with ha | ha
    · exact (hdone.keywords a ha).mono le_rfl (by omega)
    · obtain rfl := List.mem_singleton.mp ha
      exact among_keyword hT hi hmi hik hvalue
  refine gives_start_bind (gives_atOp_bind fun b hi => gives_ite (fun hb => gives_ite
    (fun _ => gives_fail) fun _ => gives_advance_bind ?_) fun _ => gives_if_tryOp (fun hi => ?_)
    (gives_if_ahead ?_ (gives_ahead_bind fun b => ?_)))
  · refine (hg.expression hT).bind fun e j he => gives_rangeFrom_bind (gives_pure ?_)
    exact hpositional (stands_of_single hT (hi hb) (Nat.le_succ i) he rfl rfl rfl)
  · refine (hg.expression hT).bind fun e j he => gives_rangeFrom_bind (gives_pure ?_)
    exact hkeyword hi (Nat.le_succ i) he
  · refine gives_identifier_bind fun t hi hrange => gives_op_bind fun _ => ?_
    refine (hg.expression hT).bind fun e j he => gives_diagnosing_bind (gives_rangeFrom_bind
      (gives_pure ?_))
    exact hkeyword hi (by omega) he
  · extract_lets rest
    have hrest : ∀ e j, e.Stands T i j →
        (rest e).Gives T j fun args j => i < j ∧ args.Among T m j := fun e j he =>
      gives_if_atOps (gives_diagnosing_bind gives_fail) (gives_ite (fun _ => gives_fail) fun _ =>
        gives_pure (hpositional he))
    exact gives_ite (fun _ => (gives_walrus hg hT i).bind hrest) fun _ =>
      (hg.expression hT).bind hrest

/-- Arguments after commas join those that were read before them. -/
lemma gives_laterArguments {line m : ℕ} {first : CallArgs} (hmi : m ≤ i)
    (hfirst : first.Among T m i) :
    (laterArguments g line first).Gives T i fun args j => i ≤ j ∧ args.Among T m j := by
  refine gives_extend ⟨le_rfl, hfirst⟩ fun args j hargs => gives_op_bind fun _ => ?_
  have hmore := gives_argument hg hT (i := j + 1) (by omega) (hargs.2.mono (Nat.le_succ j))
  refine (hmore.orElse (gives_any.bind fun _ _ _ => gives_fail)).bind fun more k hmore => ?_
  extract_lets rest
  have hrest : (rest ()).Gives T k fun args j => i ≤ j ∧ args.Among T m j :=
    gives_pure ⟨by omega, hmore.2⟩
  split
  · exact gives_ite (fun _ => gives_diagnosing_bind hrest) fun _ => hrest
  · exact hrest

/-- The arguments of a call are among the tokens from which they were read. -/
lemma gives_callArguments {isClass : Bool} {m : ℕ} (hm : IsCode T m) (hmi : m < i) :
    (callArguments g (startAt T m) isClass).Gives T i fun args j =>
      i ≤ j ∧ args.Among T m j := by
  refine gives_if_tryOp (fun _ => gives_pure ⟨Nat.le_succ i, CallArgs.among_empty⟩) ?_
  refine gives_start_bind ?_
  refine (gives_argument hg hT hmi.le CallArgs.among_empty).bind fun first j hfirst => ?_
  have hat : atClause.Gives T j fun _ k => k = j := gives_peek_bind fun _ _ => gives_pure rfl
  refine hat.bind fun b k hk => ?_
  subst hk
  refine gives_ite (fun _ => ?_) fun _ => ?_
  · split
    · exact gives_diagnosing_bind gives_fail
    · next e _ hpositional =>
      refine gives_ite (fun _ => gives_diagnosing_bind gives_fail) fun _ => ?_
      refine (gives_forClauses hg hT _).bind fun cs l hcs => gives_if_tryOp (fun _ => ?_)
        (gives_diagnosing_bind gives_fail)
      refine gives_rangeFrom_bind (gives_pure ⟨by omega, ?_, nofun⟩)
      refine List.forall_mem_singleton.mpr ?_
      have he : e.Among T m k := hfirst.2.positional e (by simp [hpositional])
      refine Expr.Stands.among ?_
      exact stands_comprehension hT hm nofun he hcs.1 hcs.2 (Nat.le_succ l)
    · exact gives_fail
  · refine (gives_laterArguments hg hT (by omega) hfirst.2).bind fun all l hall =>
      gives_tryOp_discard_bind fun n hln => gives_op_bind fun _ => gives_pure ⟨by omega, ?_⟩
    exact hall.2.mono (by omega)

end

end Grammar

end BlockText.Source

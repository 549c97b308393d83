import BlockText.Proofs.Source.Levels
import BlockText.Proofs.Source.Sentences
import BlockText.Proofs.Source.Formulas

/-!
# Operators in the grammar

What the rules take where operators, conditions and anonymous functions stand.  At some levels an
expression can go on after it has been read in full: the operands of a chain come one after the
other, and so do negations.  An expression is opened at its level if it has been read up to the
place where its level may go on, and it is taken if no token of its level follows.
-/

namespace BlockText.Source

open Syntax

/-! ## What tokens say -/

/-- A token that says the word. -/
def Word.token (w : Word) : Token := ⟨w.kind, w.text, default, default, 0⟩

namespace Token

variable {t : Token} {w : Word} {o n : String}

/-- A token that says an operator is this operator. -/
lemma Says.isOp (h : t.Says (.op o)) (o' : String) : t.isOp o' = (o == o') := by
  simp [Token.isOp, h.1, h.2]

/-- A token that says a name is no operator. -/
lemma Says.isOp_name (h : t.Says (.name n)) (o' : String) : t.isOp o' = false := by
  simp [Token.isOp, h.1]

/-- A token that says a name is this word. -/
lemma Says.isWord (h : t.Says (.name n)) (w : String) : t.isWord w = (n == w) := by
  simp [Token.isWord, h.1, h.2]

/-- A token joins at the level of the word it says. -/
lemma Says.joins (h : t.Says w) : t.joins = w.token.joins := by
  simp [Token.joins, Word.token, h.1, h.2]

/-- A token leads at the level of the word it says. -/
lemma Says.leads (h : t.Says w) : t.leads = w.token.leads := by
  simp [Token.leads, Word.token, h.1, h.2]

/-- The token stands behind an item of a list. -/
def EndsItem (t : Token) : Prop := t.isOp "," = true ∨ t.Closes

/-- What ends an item is no other operator. -/
lemma EndsItem.isOp_eq_false (h : t.EndsItem) (ho : o ∉ [",", ")", "]"]) : t.isOp o = false := by
  rcases h with h | h
  · rw [Bool.eq_false_iff]
    intro hop
    refine ho ?_
    rw [← (isOp_iff.mp hop).2, (isOp_iff.mp h).2]
    decide
  · exact h.isOp_eq_false fun hmem => ho (List.mem_cons_of_mem _ hmem)

/-- What ends an item is no word. -/
lemma EndsItem.isWord_eq_false (h : t.EndsItem) (w : String) : t.isWord w = false := by
  rcases h with h | h
  · simp [Token.isWord, (isOp_iff.mp h).1]
  · exact h.isWord_eq_false

/-- What ends an item joins at no level. -/
lemma EndsItem.joins_eq (h : t.EndsItem) : t.joins = 0 := by
  rcases h with h | h | h | h
  · rw [Token.joins, (isOp_iff.mp h).1, (isOp_iff.mp h).2]
    decide
  · unfold Token.isLayout at h
    unfold Token.joins
    cases hkind : t.kind <;> simp_all
  · rw [Token.joins, (isOp_iff.mp h).1, (isOp_iff.mp h).2]
    decide
  · rw [Token.joins, (isOp_iff.mp h).1, (isOp_iff.mp h).2]
    decide

/-- No token continues an expression at these levels. -/
lemma joins_ne (t : Token) : t.joins ∉ [4, 12, 14, 16] := by
  have hoperators : ∀ p ∈ operatorLevels, p.2 ∉ [4, 12, 14, 16] := by decide
  have hwords : ∀ p ∈ wordLevels, p.2 ∉ [4, 12, 14, 16] := by decide
  have hfound : ∀ levels : List (String × ℕ), (∀ p ∈ levels, p.2 ∉ [4, 12, 14, 16]) →
      ((levels.find? (·.1 == t.text)).map (·.2)).getD 0 ∉ [4, 12, 14, 16] := by
    intro levels hlevels
    cases hfind : levels.find? (·.1 == t.text) with
    | none => decide
    | some p => exact hlevels p (List.mem_of_find?_eq_some hfind)
  unfold joins
  split
  · exact hfound _ hoperators
  · exact hfound _ hwords
  · decide

end Token

namespace Grammar

open Rule

variable {g : Grammar} {s : TokenStream} {i j k l : ℕ} {e a b : Expr} {t u : Token} {m : Mark}

/-! ## Levels that go on -/

/-- The levels at which operands follow one after the other. -/
def chainLevels : List ℕ := [6, 7, 8, 9, 10, 11, 15]

/-- What goes on with an expression at a level. -/
def stepAt (g : Grammar) (m : Mark) : ℕ → Expr → Rule Expr
  | 6 => chainStep [("|", .bitOr)] (ruleAt g 7) m
  | 7 => chainStep [("^", .bitXor)] (ruleAt g 8) m
  | 8 => chainStep [("&", .bitAnd)] (ruleAt g 9) m
  | 9 => chainStep [("<<", .shiftLeft), (">>", .shiftRight)] (ruleAt g 10) m
  | 10 => chainStep [("+", .add), ("-", .sub)] (ruleAt g 11) m
  | 11 =>
    chainStep [("*", .mul), ("/", .div), ("//", .floorDiv), ("%", .mod), ("@", .matMul)]
      (ruleAt g 12) m
  | 15 => trailer g m
  | _ => fun _ => fail

/-- A negation, up to its operand. -/
def negation : Rule Mark := do return (← word "not").start

/-- An operand with negations in front of it. -/
def negated (marks : List Mark) (stop : Mark) (e : Expr) : Expr :=
  marks.foldr (fun m e => .unary .not e ⟨m, stop⟩) e

/-- An expression has been read up to the place where its level may go on. -/
inductive Opened (g : Grammar) (s : TokenStream) (i : ℕ) : ℕ → Expr → ℕ → Prop
  | chain {l j k : ℕ} {t : Token} {a e : Expr} (isChain : l ∈ chainLevels)
    (first : s.tokens[i]? = some t) (head : (ruleAt g (l + 1)).Takes s i a k)
    (steps : Continues (stepAt g t.start l) s k a j e) : Opened g s i l e j
  | negations {j k : ℕ} {marks : List Mark} {t : Token} {e : Expr}
    (marked : Repeats negation s i marks k) (first : s.tokens[k]? = some t)
    (last : t.isWord "not" = false) (operand : (comparison g).Takes s k e j) :
    Opened g s i 4 (negated marks (s.rangeTo default j).stop e) j
  | whole {l j : ℕ} {e : Expr} (notChain : l ∉ 4 :: chainLevels)
    (takes : (ruleAt g l).Takes s i e j) : Opened g s i l e j

/-- The chained levels are among those from bitwise operators to trailers. -/
lemma bounds_of_mem_chainLevels (hl : l ∈ chainLevels) : 6 ≤ l ∧ l ≤ 15 := by
  revert l
  decide

/-- A chain takes no step over an operator of another level. -/
lemma misses_step (hu : s.tokens[j]? = some u) (h : u.joins ≠ l) :
    (stepAt g m l e).Misses s j := by
  have hchain : ∀ (operators : List (String × BinaryOp)) (operand : Rule Expr),
      (∀ o ∈ operators, (o.1, l) ∈ operatorLevels) →
      (chainStep operators operand m e).Misses s j := fun operators operand hlevels =>
    misses_chainStep hu fun o ho => Token.isOp_eq_false_of_joins (hlevels o ho) h
  unfold stepAt
  split
  · exact hchain _ _ (by decide)
  · exact hchain _ _ (by decide)
  · exact hchain _ _ (by decide)
  · exact hchain _ _ (by decide)
  · exact hchain _ _ (by decide)
  · exact hchain _ _ (by decide)
  · exact misses_trailer hu h
  · exact misses_fail

/-- A chain is taken if nothing of its level follows. -/
lemma takes_chain (hl : l ∈ chainLevels) (ht : s.tokens[i]? = some t)
    (head : (ruleAt g (l + 1)).Takes s i a k) (steps : Continues (stepAt g t.start l) s k a j e)
    (hu : s.tokens[j]? = some u) (hjoins : u.joins ≠ l) : (ruleAt g l).Takes s i e j := by
  have hj : j ≤ s.tokens.size := Nat.le_of_lt (Array.getElem?_eq_some_iff.mp hu).1
  have hend := steps.extend (misses_step hu hjoins) hj
  simp only [chainLevels, List.mem_cons, List.not_mem_nil, or_false] at hl
  rcases hl with rfl | rfl | rfl | rfl | rfl | rfl | rfl <;>
    exact (takes_start ht).bind (head.bind hend)

/-- What has been opened is taken if nothing follows that continues it. -/
lemma Opened.takes (h : Opened g s i l e j) (hu : s.tokens[j]? = some u)
    (hjoins : u.joins < max 1 l) : (ruleAt g l).Takes s i e j := by
  cases h with
  | chain hl ht head steps =>
    have hle := bounds_of_mem_chainLevels hl
    exact takes_chain hl ht head steps hu (by omega)
  | @negations _ k marks t e hmarked ht hlast operand =>
    have hk : k ≤ s.tokens.size := Nat.le_of_lt (Array.getElem?_eq_some_iff.mp ht).1
    have hmiss : negation.Misses s k := (misses_take ht hlast).bind
    refine (hmarked.many hmiss hk).bind (operand.bind (takes_rangeFrom.bind ?_))
    exact takes_pure
  | whole _ htakes => exact htakes

/-- A lower level opens with what a higher level has opened. -/
lemma Opened.chain_of_le {m : ℕ} (h : Opened g s i m e j) (hl : l ∈ chainLevels) (hlm : l ≤ m)
    (ht : s.tokens[i]? = some t) (hu : s.tokens[j]? = some u) (hlead : t.Leads m)
    (hjoins : u.joins ≤ l) : Opened g s i l e j := by
  rcases Nat.lt_or_eq_of_le hlm with hlt | rfl
  · have hle := bounds_of_mem_chainLevels hl
    have htakes := h.takes hu (by omega)
    exact .chain hl ht (takes_ruleAt_of_le hlt htakes ht hu hlead (by omega)) .refl
  · exact h

/-! ## Operators between operands -/

/-- A chain goes on with an operator of its level and an operand. -/
lemma Opened.binary {op : BinaryOp} (hop : op ≠ .pow)
    (hleft : Opened g s i (Render.binaryStrength op).toNat a j) (ht : s.tokens[j]? = some t)
    (hsaid : t.Says (.op (Choice.spelling op)))
    (hright : (ruleAt g ((Render.binaryStrength op).toNat + 1)).Takes s (j + 1) b k) (hk : j < k) :
    ∃ r, Opened g s i (Render.binaryStrength op).toNat (.binary a op b r) k := by
  have hstep : ∀ m, (stepAt g m (Render.binaryStrength op).toNat a).Takes s j
      (.binary a op b (s.rangeTo m k)) k := by
    intro m
    have htail : ∀ operand : Rule Expr, operand.Takes s (j + 1) b k → ∀ operators,
        (operators.find? fun o => t.isOp o.1) = some (Choice.spelling op, op) →
        (chainStep operators operand m a).Takes s j (.binary a op b (s.rangeTo m k)) k := by
      intro operand hoperand operators hfind
      refine (takes_peek ht).bind ?_
      rw [hfind]
      exact takes_advance.bind (hoperand.bind (takes_rangeFrom.bind takes_pure))
    have hisOp : (fun o : String × BinaryOp => t.isOp o.1) =
        fun o => Choice.spelling op == o.1 := funext fun o => hsaid.isOp o.1
    cases op with
    | pow => exact absurd rfl hop
    | _ => exact htail _ hright _ (by rw [hisOp]; rfl)
  generalize hlevel : (Render.binaryStrength op).toNat = l at hleft hright hstep ⊢
  cases hleft with
  | chain hl hfirst head steps => exact ⟨_, .chain hl hfirst head (steps.tail (hstep _) hk)⟩
  | negations => cases op <;> cases hlevel
  | whole hnot =>
    refine absurd ?_ hnot
    cases op with
    | pow => exact absurd rfl hop
    | _ => subst hlevel; decide

/-- A power. -/
lemma takes_power_of (hbase : (awaited g).Takes s i a j) (hfirst : s.tokens[i]? = some u)
    (ht : s.tokens[j]? = some t) (hsaid : t.Says (.op "**"))
    (hexponent : g.factor.Takes s (j + 1) b k) :
    ∃ r, (power g).Takes s i (.binary a .pow b r) k := by
  refine ⟨s.rangeTo u.start k,
    (takes_start hfirst).bind (hbase.bind ((takes_tryOp ht ?_).bind ?_))⟩
  · exact (hsaid.isOp "**").trans (by decide)
  · exact hexponent.bind (takes_rangeFrom.bind takes_pure)

/-- A sign and its operand. -/
lemma takes_signed {op : UnaryOp} (hop : op ≠ .not) (ht : s.tokens[i]? = some t)
    (hsaid : t.Says (.op (Choice.spelling op))) (hoperand : g.factor.Takes s (i + 1) e j) :
    ∃ r, (factorRule g).Takes s i (.unary op e r) j := by
  have hsign : signOf? t = some op := by
    unfold signOf?
    rw [hsaid.isOp, hsaid.isOp, hsaid.isOp]
    cases op with
    | not => exact absurd rfl hop
    | _ => rfl
  refine ⟨s.rangeTo t.start j, (takes_peek ht).bind ?_⟩
  rw [hsign]
  exact takes_advance.bind (hoperand.bind (takes_rangeFrom.bind takes_pure))

/-- A negation of what has been opened at the level of negations. -/
lemma Opened.not (h : Opened g s (i + 1) 4 e j) (ht : s.tokens[i]? = some t)
    (hsaid : t.Says (.name "not")) : ∃ r, Opened g s i 4 (.unary .not e r) j := by
  have hone : Grammar.negation.Takes s i t.start (i + 1) :=
    (takes_take ht ((hsaid.isWord "not").trans (by decide))).bind takes_pure
  cases h with
  | chain hl => exact absurd hl (by decide)
  | @negations _ _ marks _ e hmarked hfirst hlast operand =>
    have hall : Repeats Grammar.negation s i (t.start :: marks) _ :=
      .cons hone (Nat.lt_succ_self i) hmarked
    exact ⟨_, .negations hall hfirst hlast operand⟩
  | whole hnot => exact absurd (by decide) hnot

/-- What no negation begins is opened at the level of negations. -/
lemma Opened.of_comparison (h : (comparison g).Takes s i e j) (ht : s.tokens[i]? = some t)
    (hlast : t.isWord "not" = false) : Opened g s i 4 e j :=
  .negations (.nil i) ht hlast h

/-- Operands with a short-circuit operator between neighbours. -/
lemma takes_boolChain_of {operator : BoolOp} {operand : Rule Expr} {es : List Expr}
    (hfirst : operand.Takes s i e j) (ht : s.tokens[i]? = some t)
    (hrest : Repeats (do discard (word (Choice.spelling operator)); operand) s j es k)
    (hes : es ≠ []) (hu : s.tokens[k]? = some u)
    (hword : u.isWord (Choice.spelling operator) = false) :
    ∃ r, (boolChain operator operand).Takes s i (.boolOp operator (e :: es) r) k := by
  have hk : k ≤ s.tokens.size := Nat.le_of_lt (Array.getElem?_eq_some_iff.mp hu).1
  have hmiss : ((do discard (word (Choice.spelling operator)); operand) : Rule Expr).Misses s k :=
    (misses_take hu hword).discard.bind
  refine ⟨s.rangeTo t.start k,
    (takes_start ht).bind (hfirst.bind ((hrest.many hmiss hk).bind ?_))⟩
  have hempty : es.isEmpty = false := by simpa using hes
  rw [hempty]
  exact takes_rangeFrom.bind takes_pure

/-- A comparison operator; no negation follows `is`. -/
lemma takes_compareOp {op : CompareOp} (hshows : s.Shows i (compareWords op))
    (hu : s.tokens[i + (compareWords op).length]? = some u) (hnot : u.isWord "not" = false) :
    compareOp.Takes s i op (i + (compareWords op).length) := by
  have hsign : ∀ o, (∀ t : Token, t.Says (.op o) →
      compareOperators.find? (fun p => t.isOp p.1) = some (o, op)) →
      s.Shows i [.op o] → compareOp.Takes s i op (i + 1) := by
    rintro o hfind ⟨⟨t, ht, hsaid⟩, -⟩
    refine (takes_peek ht).bind ?_
    rw [hfind t hsaid]
    exact takes_advance.bind takes_pure
  have hfind : ∀ o r, compareOperators.find? (fun p => o == p.1) = r →
      ∀ t : Token, t.Says (.op o) → compareOperators.find? (fun p => t.isOp p.1) = r := by
    intro o r hr t hsaid
    rw [← hr]
    exact congrArg (compareOperators.find? ·) (funext fun p => hsaid.isOp p.1)
  have hword : ∀ (t : Token) n, t.Says (.name n) →
      compareOperators.find? (fun p => t.isOp p.1) = none := by
    intro t n hsaid
    rw [List.find?_eq_none]
    intro p _
    rw [hsaid.isOp_name]
    exact Bool.false_ne_true
  cases op with
  | is =>
    obtain ⟨⟨t, ht, hsaid⟩, -⟩ := hshows
    refine (takes_peek ht).bind ?_
    rw [hword t _ hsaid]
    dsimp only
    rw [hsaid.isWord, hsaid.isWord, hsaid.isWord]
    refine takes_advance.bind ((takes_tryWord_false hu hnot).bind ?_)
    exact takes_pure
  | isNot =>
    obtain ⟨⟨t, ht, hsaid⟩, ⟨t', ht', hsaid'⟩, -⟩ := hshows
    refine (takes_peek ht).bind ?_
    rw [hword t _ hsaid]
    dsimp only
    rw [hsaid.isWord, hsaid.isWord, hsaid.isWord]
    refine takes_advance.bind ((takes_tryWord ht' ((hsaid'.isWord _).trans (by decide))).bind ?_)
    exact takes_pure
  | isIn =>
    obtain ⟨⟨t, ht, hsaid⟩, -⟩ := hshows
    refine (takes_peek ht).bind ?_
    rw [hword t _ hsaid]
    dsimp only
    rw [hsaid.isWord, hsaid.isWord]
    exact takes_advance.bind takes_pure
  | notIn =>
    obtain ⟨⟨t, ht, hsaid⟩, ⟨t', ht', hsaid'⟩, -⟩ := hshows
    refine (takes_peek ht).bind ?_
    rw [hword t _ hsaid]
    dsimp only
    rw [hsaid.isWord]
    refine takes_advance.bind ?_
    refine (takes_take ht' ((hsaid'.isWord _).trans (by decide))).discard_bind ?_
    exact takes_pure
  | _ => exact hsign _ (hfind _ _ rfl) hshows

/-- Operands with comparison operators between neighbours. -/
lemma takes_comparison_of {pairs : List (CompareOp × Expr)} (hfirst : (bitOrRule g).Takes s i e j)
    (ht : s.tokens[i]? = some t) (hrest : Repeats (comparePair g) s j pairs k) (hpairs : pairs ≠ [])
    (hu : s.tokens[k]? = some u) (hjoins : u.joins ≠ 5) :
    ∃ r, (comparison g).Takes s i (.compare e (pairs.map (·.1)) (pairs.map (·.2)) r) k := by
  have hk : k ≤ s.tokens.size := Nat.le_of_lt (Array.getElem?_eq_some_iff.mp hu).1
  have hmiss : (comparePair g).Misses s k := (misses_compareOp hu hjoins).bind
  refine ⟨s.rangeTo t.start k,
    (takes_start ht).bind (hfirst.bind ((hrest.many hmiss hk).bind ?_))⟩
  have hempty : pairs.isEmpty = false := by simpa using hpairs
  rw [hempty]
  exact takes_rangeFrom.bind takes_pure

/-! ## Conditions -/

/-- A conditional expression. -/
lemma takes_conditional {c : Expr} {k' k'' : ℕ} {t' t'' : Token}
    (hbody : (disjunctionRule g).Takes s i a j)
    (hfirst : s.tokens[i]? = some u) (hlambda : u.isWord "lambda" = false)
    (ht : s.tokens[j]? = some t') (hsaid : t'.Says (.name "if"))
    (htest : g.disjunction.Takes s (j + 1) b k') (ht' : s.tokens[k']? = some t'')
    (hsaid' : t''.Says (.name "else")) (horelse : g.expression.Takes s (k' + 1) c k'') :
    ∃ r, (expressionRule g).Takes s i (.conditional b a c r) k'' := by
  refine ⟨s.rangeTo u.start k'',
    (takes_start hfirst).bind ((takes_atWord hfirst "lambda").bind ?_)⟩
  rw [hlambda]
  refine takes_input_bind fun _ => takes_pure.bind (hbody.bind ?_)
  refine (takes_diagnosing.bind takes_diagnosing).bind ?_
  refine Takes.or ?_
  refine (takes_take ht ((hsaid.isWord _).trans (by decide))).discard_bind (htest.bind ?_)
  refine (takes_take ht' ((hsaid'.isWord _).trans (by decide))).discard_bind (horelse.bind ?_)
  exact takes_rangeFrom.bind takes_pure

/-! ## Anonymous functions -/

/-- The place of the parameters of an anonymous function. -/
abbrev lambdaPlace : ParamPlace := ⟨false, ":"⟩

/-- The parameter is this name only, in its normal form. -/
def IsBareArg (n : String) (p : ArgDefault Expr) : Prop :=
  p.arg.name = Text.normalForm n ∧ p.arg.hint = none ∧ p.preset = none

/-- A name up to a comma or a colon is a parameter. -/
lemma takes_argDefault {n : String} (hn : n ∉ keywords) (ht : s.tokens[i]? = some t)
    (hsaid : t.Says (.name n)) (hu : s.tokens[i + 1]? = some u) {o : String}
    (husaid : u.Says (.op o)) (ho : o = "," ∧ j = i + 2 ∨ o = ":" ∧ j = i + 1) :
    ∃ p, (argDefault g lambdaPlace).Takes s i p j ∧ IsBareArg n p := by
  have hname : t.text ∉ keywords := by rwa [hsaid.2]
  have harg : (arg g lambdaPlace false).Takes s i
      ⟨Text.normalForm t.text, none, s.rangeTo t.start (i + 1)⟩ (i + 1) := by
    refine (takes_identifier ht hsaid.1 hname).bind ((takes_atOp hu ":").bind ?_)
    exact takes_pure.bind (takes_rangeFrom.bind takes_pure)
  have hequal : u.isOp "=" = false := by
    rw [husaid.isOp]
    rcases ho with ⟨rfl, -⟩ | ⟨rfl, -⟩ <;> decide
  refine ⟨⟨⟨Text.normalForm t.text, none, s.rangeTo t.start (i + 1)⟩, none⟩, ?_,
    congrArg Text.normalForm hsaid.2, rfl, rfl⟩
  refine harg.bind ((takes_peek hu).bind ?_)
  rw [hequal]
  refine takes_pure.bind ?_
  rcases ho with ⟨rfl, rfl⟩ | ⟨rfl, rfl⟩
  · have hcomma : u.isOp "," = true := (husaid.isOp _).trans (by decide)
    have hend : (paramEnd lambdaPlace).Takes s (i + 1) () (i + 2) :=
      (takes_tryOp hu hcomma).bind takes_pure
    exact hend.bind takes_pure
  · have hend : (paramEnd lambdaPlace).Takes s (i + 1) () (i + 1) := by
      refine (takes_tryOp_false hu ((husaid.isOp _).trans (by decide))).bind ?_
      refine (takes_atOp hu ":").bind ?_
      rw [husaid.isOp]
      exact takes_pure
    exact hend.bind takes_pure

/-- Names with commas between them are parameters, up to a colon. -/
lemma repeats_argDefault {ns : List String} (hns : ∀ n ∈ ns, n ∉ keywords)
    (hshows : s.Shows i (joinWords (.op ",") (ns.map fun n => [.name n])))
    (hu : s.tokens[i + (joinWords (.op ",") (ns.map fun n => [Word.name n])).length]? = some u)
    (husaid : u.Says (.op ":")) :
    ∃ ps, Repeats (argDefault g lambdaPlace) s i ps
        (i + (joinWords (.op ",") (ns.map fun n => [Word.name n])).length) ∧
      List.Forall₂ IsBareArg ns ps := by
  induction ns generalizing i with
  | nil => exact ⟨[], .nil _, .nil⟩
  | cons n ns ih =>
    have hn := hns n List.mem_cons_self
    cases ns with
    | nil =>
      obtain ⟨⟨t, ht, hsaid⟩, -⟩ := hshows
      obtain ⟨p, hp, hbare⟩ := takes_argDefault (j := i + 1) hn ht hsaid hu husaid (.inr ⟨rfl, rfl⟩)
      exact ⟨[p], .cons hp (Nat.lt_succ_self i) (.nil _), .cons hbare .nil⟩
    | cons n' ns =>
      have hwords : joinWords (.op ",") ((n :: n' :: ns).map fun n => [Word.name n]) =
          .name n :: .op "," :: joinWords (.op ",") ((n' :: ns).map fun n => [Word.name n]) := by
        simp [joinWords]
      rw [hwords] at hshows hu ⊢
      obtain ⟨⟨t, ht, hsaid⟩, ⟨v, hv, hvsaid⟩, hrest⟩ := hshows
      have hlength : ∀ ws : List Word,
          i + (Word.name n :: .op "," :: ws).length = i + 2 + ws.length := by
        intro ws
        simp only [List.length_cons]
        omega
      rw [hlength] at hu ⊢
      obtain ⟨p, hp, hbare⟩ :=
        takes_argDefault (g := g) (j := i + 2) hn ht hsaid hv hvsaid (.inl ⟨rfl, rfl⟩)
      obtain ⟨ps, hps, hbares⟩ := ih (fun m hm => hns m (List.mem_cons_of_mem _ hm)) hrest hu
      exact ⟨p :: ps, .cons hp (by omega) hps, .cons hbare hbares⟩

/-- Bare parameters miss no default. -/
lemma missingDefault?_eq_none {ns : List String} {ps : List (ArgDefault Expr)}
    (h : List.Forall₂ IsBareArg ns ps) : missingDefault? ps = none := by
  induction h with
  | nil => rfl
  | @cons n p ns ps hp hrest ih =>
    cases hrest with
    | nil => rfl
    | cons => simpa [missingDefault?, hp.2.2] using ih

/-- Parameters that are names only. -/
lemma takes_arguments {ns : List String} {ps : List (ArgDefault Expr)}
    (h : Repeats (argDefault g lambdaPlace) s i ps j) (hps : List.Forall₂ IsBareArg ns ps)
    (hu : s.tokens[j]? = some u) (husaid : u.Says (.op ":")) :
    (arguments g lambdaPlace).Takes s i { plain := ps } j := by
  have hj : j ≤ s.tokens.size := Nat.le_of_lt (Array.getElem?_eq_some_iff.mp hu).1
  have hop : ∀ o, o ≠ ":" → u.isOp o = false := by
    intro o ho
    simpa [husaid.isOp] using Ne.symm ho
  have hmiss : (argDefault g lambdaPlace).Misses s j := by
    have hname : u.isIdentifier = false := by simp [Token.isIdentifier, husaid.1]
    exact (misses_take hu hname).bind.bind.bind
  refine (h.many hmiss hj).bind ?_
  refine Takes.bind (a := none) (j := j) (Misses.optional ?_) ?_
  · cases ps with
    | nil => exact misses_fail.bind
    | cons => exact takes_pure.bind_misses (misses_take hu (hop "/" (by decide))).discard.bind
  · have hnone : missingDefault? ({ plain := ps } : Arguments Expr).plain = none :=
      missingDefault?_eq_none hps
    dsimp only [List.nil_append]
    rw [hnone]
    refine Takes.bind (a := none) (j := j) (Misses.optional (Misses.or ?_ ?_)) takes_pure
    · exact (misses_take hu (hop "*" (by decide))).bind
    · exact (misses_take hu (hop "**" (by decide))).discard.bind

/-- An anonymous function. -/
lemma takes_lambda {args : Arguments Expr} (ht : s.tokens[i]? = some t)
    (hsaid : t.Says (.name "lambda")) (hargs : (arguments g lambdaPlace).Takes s (i + 1) args j)
    (hu : s.tokens[j]? = some u) (husaid : u.Says (.op ":"))
    (hbody : g.expression.Takes s (j + 1) e k) :
    ∃ r, (expressionRule g).Takes s i (.lambda args e r) k := by
  have hword : t.isWord "lambda" = true := (hsaid.isWord _).trans (by decide)
  refine ⟨s.rangeTo t.start k, (takes_start ht).bind ((takes_atWord ht "lambda").bind ?_)⟩
  rw [hword]
  refine (takes_start ht).bind ((takes_take ht hword).discard_bind (hargs.bind ?_))
  refine (takes_require hu ((husaid.isOp _).trans (by decide))).discard_bind (hbody.bind ?_)
  exact takes_rangeFrom.bind takes_pure

/-! ## Awaited expressions -/

/-- An awaited expression. -/
lemma takes_await (ht : s.tokens[i]? = some t) (hsaid : t.Says (.name "await"))
    (h : (primaryRule g).Takes s (i + 1) e j) : ∃ r, (awaited g).Takes s i (.await e r) j := by
  refine ⟨s.rangeTo t.start j, (takes_start ht).bind ((takes_tryWord ht ?_).bind ?_)⟩
  · exact (hsaid.isWord _).trans (by decide)
  · exact h.bind (takes_rangeFrom.bind takes_pure)

end Grammar

end BlockText.Source

import BlockText.Proofs.Source.Levels

/-!
# Texts of one statement

The rules above expressions, for a text that is one line of code with one simple statement: an
expression, a tuple without parentheses or an assignment.  The first token of an expression is none
of the words that begin other statements.
-/

namespace BlockText.Source.Grammar

open Rule

variable {g : Grammar} {s : TokenStream} {i j k : ℕ} {e : Expr} {t u : Token}

/-! ## Expressions in a list -/

lemma takes_starExpression (h : g.expression.Takes s i e j) (ht : s.tokens[i]? = some t)
    (hlead : t.Leads 0) : (starExpression g).Takes s i e j := by
  refine (takes_start ht).bind ?_
  refine (takes_tryOp_false ht (hlead.isOp_eq_false (by decide))).bind ?_
  exact h

/-- Without a star an element is an expression. -/
lemma starExpression_beginsWith (ht : s.tokens[i]? = some t) (hstar : t.isOp "*" = false) :
    (starExpression g).BeginsWith g.expression s i := by
  refine (takes_start ht).bind_beginsWith ?_
  exact (takes_tryOp_false ht hstar).bind_beginsWith (BeginsWith.refl _ s i)

lemma misses_starExpression (hmiss : g.expression.Misses s i) (ht : s.tokens[i]? = some t)
    (hstar : t.isOp "*" = false) : (starExpression g).Misses s i :=
  (starExpression_beginsWith ht hstar).misses hmiss

/-- A comma and an element. -/
def commaThen (element : Rule Expr) : Rule Expr := do discard (op ","); element

lemma takes_commaThen {element : Rule Expr} (ht : s.tokens[i]? = some t)
    (hcomma : t.isOp "," = true) (h : element.Takes s (i + 1) e j) :
    (commaThen element).Takes s i e j :=
  (takes_take ht hcomma).discard_bind h

lemma misses_commaThen {element : Rule Expr} (ht : s.tokens[i]? = some t)
    (hcomma : t.isOp "," = false) : (commaThen element).Misses s i :=
  (misses_take ht hcomma).discard.bind

/-- Elements up to a token that is no comma. -/
lemma takes_commaElements {element : Rule Expr} {es : List Expr}
    (h : Repeats (commaThen element) s i es j) (hu : s.tokens[j]? = some u)
    (hcomma : u.isOp "," = false) : (commaElements element).Takes s i es j := by
  have hj : j < s.tokens.size := (Array.getElem?_eq_some_iff.mp hu).1
  refine (h.many (misses_commaThen hu hcomma) (Nat.le_of_lt hj)).bind ?_
  refine (takes_tryOp_false hu hcomma).discard_bind ?_
  exact takes_pure

/-- A comma that no element follows. -/
lemma takes_commaElements_nil {element : Rule Expr} (ht : s.tokens[i]? = some t)
    (hcomma : t.isOp "," = true) (hmiss : element.Misses s (i + 1)) :
    (commaElements element).Takes s i [] (i + 1) := by
  have hnone : (commaThen element).Misses s i := (takes_take ht hcomma).discard.bind_misses hmiss
  refine hnone.many.bind ?_
  refine (takes_tryOp ht hcomma).discard_bind ?_
  exact takes_pure

/-- One element is no tuple. -/
lemma takes_tupleOf_one {element : Rule Expr} (h : element.Takes s i e j)
    (ht : s.tokens[i]? = some t) (hu : s.tokens[j]? = some u) (hcomma : u.isOp "," = false) :
    (tupleOf element).Takes s i e j := by
  refine (takes_start ht).bind (h.bind ((takes_atOp hu ",").bind ?_))
  rw [hcomma]
  exact takes_pure

/-- An element and further elements after a comma are a tuple. -/
lemma takes_tupleOf {element : Rule Expr} {es : List Expr} (h : element.Takes s i e j)
    (ht : s.tokens[i]? = some t) (hu : s.tokens[j]? = some u) (hcomma : u.isOp "," = true)
    (hrest : (commaElements element).Takes s j es k) :
    (tupleOf element).Takes s i (.tuple (e :: es) (s.rangeTo t.start k)) k := by
  refine (takes_start ht).bind (h.bind ((takes_atOp hu ",").bind ?_))
  rw [hcomma]
  exact hrest.bind (takes_rangeFrom.bind takes_pure)

/-- An expression that no comma follows is no tuple. -/
lemma takes_starExpressions {n : ℕ} (h : (ruleAt (ofDepth n) 1).Takes s i e j)
    (ht : s.tokens[i]? = some t) (hlead : t.Leads 0) (hu : s.tokens[j]? = some u)
    (hcomma : u.isOp "," = false) : (starExpressions (ofDepth (n + 1))).Takes s i e j :=
  takes_tupleOf_one (takes_starExpression h ht hlead) ht hu hcomma

/-- An atom that nothing continues is an expression. -/
lemma takes_starExpressions_atom {n : ℕ} (h : (atom (ofDepth n)).Takes s i e j)
    (ht : s.tokens[i]? = some t) (hlead : t.Leads 16) (hu : s.tokens[j]? = some u)
    (hjoins : u.joins = 0) (hcomma : u.isOp "," = false) :
    (starExpressions (ofDepth (n + 1))).Takes s i e j := by
  have hone : u.joins < max 1 1 := by rw [hjoins]; decide
  exact takes_starExpressions (takes_ruleAt_of_le (m := 16) (by decide) h ht hu hlead hone) ht
    (hlead.mono (by decide)) hu hcomma

/-! ## Statements -/

/-- The token ends a line of code. -/
def EndsLine (s : TokenStream) (j : ℕ) : Prop := ∃ u, s.tokens[j]? = some u ∧ u.kind = .newline

lemma EndsLine.exists_token (h : EndsLine s j) :
    ∃ u, s.tokens[j]? = some u ∧ (∀ o, u.isOp o = false) ∧ (∀ w, u.isWord w = false) ∧
      u.joins = 0 ∧ u.Closes := by
  obtain ⟨u, hu, hkind⟩ := h
  refine ⟨u, hu, fun o => ?_, fun w => ?_, ?_, .inl ?_⟩
  · simp [Token.isOp, hkind]
  · simp [Token.isWord, hkind]
  · simp [Token.joins, hkind]
  · simp [Token.isLayout, hkind]

/-- An expression alone on a line is a statement. -/
lemma takes_expressionStmt (h : (starExpressions g).Takes s i e j)
    (ht : s.tokens[i]? = some t) (hend : EndsLine s j) :
    (expressionStmt g).Takes s i (.exprStmt e (s.rangeTo t.start j)) j := by
  obtain ⟨u, hu, hop, -⟩ := hend.exists_token
  refine (takes_start ht).bind (h.bind ((takes_peek hu).bind ?_))
  have hfind : augmentedOperators.find? (fun o => u.isOp o.1) = none := by
    simp [hop]
  rw [hop, hop, hfind]
  exact takes_diagnosing.bind (takes_rangeFrom.bind takes_pure)

/-- An expression, `=` and another expression are an assignment. -/
lemma takes_expressionStmt_assign {x v : Expr} (hx : (starExpressions g).Takes s i x j)
    (hv : (starExpressions g).Takes s (j + 1) v k) (htarget : isTarget x = true)
    (ht : s.tokens[i]? = some t) (hu : s.tokens[j]? = some u) (hequal : u.isOp "=" = true)
    {w : Token} (hw : s.tokens[j + 1]? = some w) (hlead : w.Leads 0) (hend : EndsLine s k) :
    (expressionStmt g).Takes s i (.assign [x] v (s.rangeTo t.start k)) k := by
  obtain ⟨n, hn, hop, -⟩ := hend.exists_token
  have hcolon : u.isOp ":" = false := by
    rw [Token.isOp_iff] at hequal
    simp [Token.isOp, hequal.2]
  refine (takes_start ht).bind (hx.bind ((takes_peek hu).bind ?_))
  rw [hcolon, hequal, htarget]
  refine takes_tokensLeft.bind ?_
  have hj : j < s.tokens.size := (Array.getElem?_eq_some_iff.mp hu).1
  obtain ⟨fuel, hfuel⟩ : ∃ fuel, s.tokens.size + 1 - j = fuel + 1 := ⟨s.tokens.size - j, by omega⟩
  rw [hfuel, assignRest]
  have hassigned : (assigned g).Takes s (j + 1) v k := by
    refine (takes_atWord hw "yield").bind ?_
    rw [hlead.isWord_eq_false (by decide)]
    exact hv
  refine Takes.bind (a := ([x], v)) ?_ (takes_rangeFrom.bind takes_pure)
  refine (takes_take hu hequal).discard_bind (hassigned.bind ((takes_atOp hn "=").bind ?_))
  rw [hop]
  exact takes_pure

/-- A token that begins an expression begins no other simple statement. -/
lemma takes_simpleStmt {r : Stmt} (h : (expressionStmt g).Takes s i r j)
    (ht : s.tokens[i]? = some t) (hlead : t.Leads 0) : (simpleStmt g).Takes s i r j := by
  refine (takes_peek ht).bind ?_
  by_cases hkind : t.kind = .name
  · have hword : ∀ w, (∀ n ∈ wordLead w, n < 0) → (t.text == w) = false := by
      intro w hw
      have hisWord := hlead.isWord_eq_false hw
      simpa [Token.isWord, hkind] using hisWord
    rw [hword "return" (by decide), hword "import" (by decide), hword "from" (by decide),
      hword "raise" (by decide), hword "pass" (by decide), hword "del" (by decide),
      hword "yield" (by decide), hword "assert" (by decide), hword "break" (by decide),
      hword "continue" (by decide), hword "global" (by decide), hword "nonlocal" (by decide),
      hkind]
    exact h
  · rw [if_pos (by simpa using hkind)]
    exact h

/-- A simple statement alone on a line. -/
lemma takes_statement {r : Stmt} (h : (simpleStmt g).Takes s i r j)
    (ht : s.tokens[i]? = some t) (hlead : t.Leads 0) (hend : EndsLine s j) :
    (statement g).Takes s i [r] (j + 1) := by
  obtain ⟨u, hu, hop, -⟩ := hend.exists_token
  obtain ⟨u', hu', hkind'⟩ := hend
  have hline : (simpleStmts g).Takes s i [r] (j + 1) := by
    refine h.bind ?_
    refine ((misses_take hu (hop ";")).discard.bind.many).bind ?_
    refine (takes_tryOp_false hu (hop ";")).discard_bind ?_
    refine (takes_take hu' (by rw [hkind']; decide)).discard_bind ?_
    exact takes_pure
  refine (takes_peek ht).bind ?_
  rw [hlead.isOp_eq_false (o := "@") (by decide)]
  by_cases hkind : t.kind = .name
  · have hword : ∀ w, (∀ n ∈ wordLead w, n < 0) → (t.text == w) = false := by
      intro w hw
      have hisWord := hlead.isWord_eq_false hw
      simpa [Token.isWord, hkind] using hisWord
    rw [hword "def" (by decide), hword "async" (by decide), hword "if" (by decide),
      hword "class" (by decide), hword "with" (by decide), hword "for" (by decide),
      hword "try" (by decide), hword "while" (by decide), hword "match" (by decide), hkind]
    exact hline
  · rw [if_neg Bool.false_ne_true, if_pos (by simpa using hkind)]
    exact hline

/-- A statement that begins with neither a word nor an operator begins with an expression. -/
lemma statement_beginsWith (ht : s.tokens[i]? = some t) (hname : t.kind ≠ .name)
    (hop : ∀ o, t.isOp o = false) : (statement g).BeginsWith g.expression s i := by
  have hexpression : (expressionStmt g).BeginsWith g.expression s i := by
    refine (takes_start ht).bind_beginsWith (BeginsWith.bind ?_)
    refine (takes_start ht).bind_beginsWith (BeginsWith.bind ?_)
    exact starExpression_beginsWith ht (hop "*")
  have hsimple : (simpleStmt g).BeginsWith g.expression s i := by
    refine (takes_peek ht).bind_beginsWith ?_
    rw [if_pos (by simpa using hname)]
    exact hexpression
  refine (takes_peek ht).bind_beginsWith ?_
  rw [hop, if_neg Bool.false_ne_true, if_pos (by simpa using hname)]
  exact hsimple.bind

/-- No statement begins at the end of the text. -/
lemma misses_statement (n : ℕ) (ht : s.tokens[i]? = some t) (hkind : t.kind = .endMarker) :
    (statement (ofDepth n)).Misses s i := by
  have hbegins : (statement (ofDepth n)).BeginsWith (ofDepth n).expression s i :=
    statement_beginsWith ht (by simp [hkind]) (by simp [Token.isOp, hkind])
  exact hbegins.misses
    (misses_ofDepth_expression n ht (.inl (by simp [Token.isLayout, hkind])))

/-- No text begins with a number that has too many digits. -/
lemma run_fileRule_ne_ok {names : Text.CharacterNames} {n : ℕ} (ht : s.tokens[0]? = some t)
    (hkind : t.kind = .number) (hlong : isOverlong t.text.toList = true) (statements : List Stmt) :
    (fileRule (ofDepth (n + 1))).run names s ≠ .ok statements := by
  have hexpression : (ofDepth (n + 1)).expression.Refuses s 0 :=
    (expressionRule_beginsWith ht (isNoPrefix_of_number hkind)).refuses
      (refuses_number ht hkind hlong)
  have hstatement : (statement (ofDepth (n + 1))).Refuses s 0 :=
    (statement_beginsWith ht (by simp [hkind]) (by simp [Token.isOp, hkind])).refuses hexpression
  have hfile : (fileRule (ofDepth (n + 1))).Refuses s 0 :=
    hstatement.many_bind (misses_take ht (by simp [hkind])).discard.bind.refuses
  intro hrun
  unfold Rule.run at hrun
  split at hrun
  · next hdone => exact hfile names 0 _ _ _ hdone
  · cases hrun
  · split at hrun <;> cases hrun

/-- A text of one simple statement. -/
theorem run_fileRule (names : Text.CharacterNames) {n : ℕ} {r : Stmt}
    (h : (simpleStmt (ofDepth n)).Takes s 0 r j)
    (ht : s.tokens[0]? = some t) (hlead : t.Leads 0) (hend : EndsLine s j)
    (hu : s.tokens[j + 1]? = some u) (hkind : u.kind = .endMarker) :
    (fileRule (ofDepth n)).run names s = .ok [r] := by
  have hfile : (fileRule (ofDepth n)).Takes s 0 [r] (j + 1 + 1) := by
    have hj : j + 1 < s.tokens.size := (Array.getElem?_eq_some_iff.mp hu).1
    have hone : Repeats (statement (ofDepth n)) s 0 [[r]] (j + 1) :=
      .cons (takes_statement h ht hlead hend) (by omega) (.nil _)
    refine (hone.many (misses_statement n hu hkind) (Nat.le_of_lt hj)).bind ?_
    refine (takes_take hu (by rw [hkind]; decide)).discard_bind ?_
    exact takes_pure
  obtain ⟨far, hdone⟩ := hfile names 0
  rw [Rule.run, hdone]

end BlockText.Source.Grammar

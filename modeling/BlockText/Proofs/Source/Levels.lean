import BlockText.Proofs.Source.Taking
import BlockText.Source.Grammar.Stmt

/-!
# The levels of the expression grammar

The rules for expressions form a ladder: each reads operands with the rule of the next level and
continues as long as an operator of its own level follows.  What a rule takes is therefore taken by
every rule below it, provided that the first token belongs to no prefix of a level between them and
that the token after it continues none of these levels.
-/

namespace BlockText.Source

open Syntax

/-! ## Tokens and levels -/

/-- The levels at which operators continue an expression. -/
def operatorLevels : List (String × ℕ) :=
  [("==", 5), ("!=", 5), ("<=", 5), ("<", 5), (">=", 5), (">", 5), ("|", 6), ("^", 7), ("&", 8),
   ("<<", 9), (">>", 9), ("+", 10), ("-", 10), ("*", 11), ("/", 11), ("//", 11), ("%", 11),
   ("@", 11), ("**", 13), (".", 15), ("(", 15), ("[", 15)]

/-- The levels at which words continue an expression. -/
def wordLevels : List (String × ℕ) :=
  [("if", 1), ("or", 2), ("and", 3), ("not", 5), ("in", 5), ("is", 5)]

/-- The highest level at which a word begins an expression.  Words that are reserved in some places
begin statements of their own. -/
def wordLead (w : String) : Option ℕ :=
  if w == "lambda" then some 0
  else if w == "not" then some 4
  else if w == "await" then some 14
  else if (keywords ++ Grammar.softKeywords).contains w then none
  else some 16

/-- The highest level at which an operator begins an expression. -/
def operatorLead (o : String) : Option ℕ :=
  if ["-", "+", "~"].contains o then some 12
  else if ["(", "["].contains o then some 16
  else none

namespace Token

variable {t : Token}

/-- The level at which a token continues an expression; zero if it continues none. -/
def joins (t : Token) : ℕ :=
  match t.kind with
  | .operator => ((operatorLevels.find? (·.1 == t.text)).map (·.2)).getD 0
  | .name => ((wordLevels.find? (·.1 == t.text)).map (·.2)).getD 0
  | _ => 0

/-- The highest level at which a token begins an expression. -/
def leads (t : Token) : Option ℕ :=
  match t.kind with
  | .name => wordLead t.text
  | .number | .string => some 16
  | .operator => operatorLead t.text
  | _ => none

/-- The token begins expressions of a level. -/
def Leads (t : Token) (level : ℕ) : Prop := ∃ l ∈ t.leads, level ≤ l

/-- The token ends a line or a group, and begins no expression. -/
def Closes (t : Token) : Prop := t.isLayout = true ∨ t.isOp ")" = true ∨ t.isOp "]" = true

/-- A token is an operator if it is one by kind and has its text. -/
lemma isOp_iff {o : String} : t.isOp o = true ↔ t.kind = .operator ∧ t.text = o := by
  simp [isOp]

/-- A token is a word if it is a name by kind and has its text. -/
lemma isWord_iff {w : String} : t.isWord w = true ↔ t.kind = .name ∧ t.text = w := by
  simp [isWord]

/-- A token that does not join at the level of an operator is not that operator. -/
lemma isOp_eq_false_of_joins {o : String} {l : ℕ} (h : (o, l) ∈ operatorLevels)
    (ht : t.joins ≠ l) : t.isOp o = false := by
  rw [Bool.eq_false_iff]
  intro ho
  obtain ⟨hkind, rfl⟩ := isOp_iff.mp ho
  have hlevel : ∀ p ∈ operatorLevels,
      ((operatorLevels.find? (·.1 == p.1)).map (·.2)).getD 0 = p.2 := by decide
  exact ht (by rw [joins, hkind]; exact hlevel _ h)

/-- A token that does not join at the level of a word is not that word. -/
lemma isWord_eq_false_of_joins {w : String} {l : ℕ} (h : (w, l) ∈ wordLevels)
    (ht : t.joins ≠ l) : t.isWord w = false := by
  rw [Bool.eq_false_iff]
  intro hw
  obtain ⟨hkind, rfl⟩ := isWord_iff.mp hw
  have hlevel : ∀ p ∈ wordLevels,
      ((wordLevels.find? (·.1 == p.1)).map (·.2)).getD 0 = p.2 := by decide
  exact ht (by rw [joins, hkind]; exact hlevel _ h)

/-- A token that begins a level begins every level below it. -/
lemma Leads.mono {l m : ℕ} (h : t.Leads m) (hl : l ≤ m) : t.Leads l := by
  obtain ⟨n, hn, hle⟩ := h
  exact ⟨n, hn, Nat.le_trans hl hle⟩

/-- A token that begins a level is no operator that begins only lower ones. -/
lemma Leads.isOp_eq_false {o : String} {l : ℕ} (h : t.Leads l)
    (ho : ∀ n ∈ operatorLead o, n < l) : t.isOp o = false := by
  rw [Bool.eq_false_iff]
  intro hop
  obtain ⟨hkind, rfl⟩ := isOp_iff.mp hop
  obtain ⟨n, hn, hle⟩ := h
  rw [leads, hkind] at hn
  exact absurd (ho n hn) (by omega)

/-- A token that begins a level is no word that begins only lower ones. -/
lemma Leads.isWord_eq_false {w : String} {l : ℕ} (h : t.Leads l)
    (hw : ∀ n ∈ wordLead w, n < l) : t.isWord w = false := by
  rw [Bool.eq_false_iff]
  intro hword
  obtain ⟨hkind, rfl⟩ := isWord_iff.mp hword
  obtain ⟨n, hn, hle⟩ := h
  rw [leads, hkind] at hn
  exact absurd (hw n hn) (by omega)

/-- A token that closes a group is no other operator. -/
lemma Closes.isOp_eq_false {o : String} (h : t.Closes) (ho : o ∉ [")", "]"]) :
    t.isOp o = false := by
  rw [Bool.eq_false_iff]
  intro hop
  obtain ⟨hkind, rfl⟩ := isOp_iff.mp hop
  simp only [List.mem_cons, List.not_mem_nil, or_false, not_or] at ho
  rcases h with h | h | h
  · simp [isLayout, hkind] at h
  · exact ho.1 (isOp_iff.mp h).2
  · exact ho.2 (isOp_iff.mp h).2

/-- A token that closes a group is no atom. -/
lemma Closes.kind_ne (h : t.Closes) : t.kind ≠ .name ∧ t.kind ≠ .number ∧ t.kind ≠ .string := by
  rcases h with h | h | h
  · unfold Token.isLayout at h
    cases hkind : t.kind <;> simp_all
  all_goals rw [(isOp_iff.mp h).1]; decide

/-- A token that closes a group is no word. -/
lemma Closes.isWord_eq_false {w : String} (h : t.Closes) : t.isWord w = false := by
  rw [Bool.eq_false_iff]
  intro hw
  exact h.kind_ne.1 (isWord_iff.mp hw).1

end Token

namespace Grammar

open Rule

variable {g : Grammar} {s : TokenStream} {i j : ℕ} {e : Expr} {t u : Token}

/-! ## The ladder -/

/-- The rule of a level. -/
def ruleAt (g : Grammar) : ℕ → Rule Expr
  | 0 | 1 => expressionRule g
  | 2 => disjunctionRule g
  | 3 => boolChain .and (inversion g)
  | 4 => inversion g
  | 5 => comparison g
  | 6 => bitOrRule g
  | 7 => leftChain [("^", .bitXor)] (leftChain [("&", .bitAnd)] (shift g))
  | 8 => leftChain [("&", .bitAnd)] (shift g)
  | 9 => shift g
  | 10 => sum g
  | 11 => term g
  | 12 => factorRule g
  | 13 => power g
  | 14 => awaited g
  | 15 => primaryRule g
  | _ => atom g

/-- The step of a chain of operators. -/
def chainStep (operators : List (String × BinaryOp)) (operand : Rule Expr) (start : Mark)
    (left : Expr) : Rule Expr := do
  let t ← peek
  match operators.find? fun o => t.isOp o.1 with
  | some (_, operator) =>
    advance
    let right ← operand
    return .binary left operator right (← rangeFrom start)
  | none => fail

/-- The operand and operator of a comparison. -/
def comparePair (g : Grammar) : Rule (CompareOp × Expr) := do
  let operator ← compareOp
  return (operator, ← bitOrRule g)

/-- A chain is not continued by a token that is none of its operators. -/
lemma misses_chainStep {operators : List (String × BinaryOp)} {operand : Rule Expr} {m : Mark}
    (hu : s.tokens[j]? = some u) (h : ∀ o ∈ operators, u.isOp o.1 = false) :
    (chainStep operators operand m e).Misses s j := by
  have hnone : operators.find? (fun o => u.isOp o.1) = none := by
    rw [List.find?_eq_none]
    intro o ho
    rw [h o ho]
    exact Bool.false_ne_true
  refine (takes_peek hu).bind_misses ?_
  rw [hnone]
  exact misses_fail

/-- A chain takes what its first operand takes if none of its operators follows. -/
lemma takes_leftChain {operators : List (String × BinaryOp)} {operand : Rule Expr}
    (h : operand.Takes s i e j) (ht : s.tokens[i]? = some t) (hu : s.tokens[j]? = some u)
    (hops : ∀ o ∈ operators, u.isOp o.1 = false) :
    (leftChain operators operand).Takes s i e j := by
  refine (takes_start ht).bind (h.bind ?_)
  exact Misses.extend (misses_chainStep hu hops)

/-- A chain of words takes what its first operand takes if its word does not follow. -/
lemma takes_boolChain {operator : BoolOp} {operand : Rule Expr} (h : operand.Takes s i e j)
    (ht : s.tokens[i]? = some t) (hu : s.tokens[j]? = some u)
    (hword : u.isWord (Choice.spelling operator) = false) :
    (boolChain operator operand).Takes s i e j := by
  have hmiss : ((do discard (word (Choice.spelling operator)); operand) : Rule Expr).Misses s j :=
    (misses_take hu hword).discard.bind
  refine (takes_start ht).bind (h.bind (hmiss.many.bind ?_))
  exact takes_pure

/-- A comparison is not continued by a token that joins elsewhere. -/
lemma misses_compareOp (hu : s.tokens[j]? = some u) (h : u.joins ≠ 5) :
    compareOp.Misses s j := by
  have hnone : compareOperators.find? (fun o => u.isOp o.1) = none := by
    rw [List.find?_eq_none]
    intro o ho
    have hmem : (o.1, 5) ∈ operatorLevels := by
      revert o
      decide
    rw [Token.isOp_eq_false_of_joins hmem h]
    exact Bool.false_ne_true
  refine (takes_peek hu).bind_misses ?_
  rw [hnone]
  dsimp only
  rw [Token.isWord_eq_false_of_joins (w := "not") (by decide) h,
    Token.isWord_eq_false_of_joins (w := "in") (by decide) h,
    Token.isWord_eq_false_of_joins (w := "is") (by decide) h]
  exact misses_fail

/-- A token that begins a level above the signs is no sign. -/
lemma signOf?_eq_none (h : t.Leads 13) : signOf? t = none := by
  unfold signOf?
  rw [h.isOp_eq_false (o := "-") (by decide), h.isOp_eq_false (o := "+") (by decide),
    h.isOp_eq_false (o := "~") (by decide)]
  rfl

/-- An atom is not continued by a token that joins elsewhere. -/
lemma misses_trailer {m : Mark} (hu : s.tokens[j]? = some u) (h : u.joins ≠ 15) :
    (trailer g m e).Misses s j := by
  refine (takes_peek hu).bind_misses ?_
  rw [Token.isOp_eq_false_of_joins (o := ".") (by decide) h,
    Token.isOp_eq_false_of_joins (o := "(") (by decide) h,
    Token.isOp_eq_false_of_joins (o := "[") (by decide) h]
  exact misses_fail

/-- A primary expression is an atom and all the trailers after it. -/
lemma takes_primary {a : Expr} {k : ℕ} (h : (atom g).Takes s i a k)
    (ht : s.tokens[i]? = some t) (hsteps : Continues (trailer g t.start) s k a j e)
    (hu : s.tokens[j]? = some u) (hjoins : u.joins ≠ 15) : (primaryRule g).Takes s i e j := by
  have hj : j < s.tokens.size := (Array.getElem?_eq_some_iff.mp hu).1
  refine (takes_start ht).bind (h.bind ?_)
  exact hsteps.extend (misses_trailer hu hjoins) (Nat.le_of_lt hj)

/-- What is not awaited is a primary expression. -/
lemma takes_awaited (h : (primaryRule g).Takes s i e j) (ht : s.tokens[i]? = some t)
    (hword : t.isWord "await" = false) : (awaited g).Takes s i e j := by
  refine (takes_start ht).bind ((takes_tryWord_false ht hword).bind ?_)
  exact h

/-- What no power follows is an awaited expression. -/
lemma takes_power (h : (awaited g).Takes s i e j) (ht : s.tokens[i]? = some t)
    (hu : s.tokens[j]? = some u) (hop : u.isOp "**" = false) : (power g).Takes s i e j := by
  refine (takes_start ht).bind (h.bind ((takes_tryOp_false hu hop).bind ?_))
  exact takes_pure

/-- What has no sign is a power. -/
lemma takes_factor (h : (power g).Takes s i e j) (ht : s.tokens[i]? = some t)
    (hlead : t.Leads 13) : (factorRule g).Takes s i e j := by
  refine (takes_peek ht).bind ?_
  rw [signOf?_eq_none hlead]
  exact h

/-- What no comparison follows is a chain of bitwise operators. -/
lemma takes_comparison (h : (bitOrRule g).Takes s i e j) (ht : s.tokens[i]? = some t)
    (hu : s.tokens[j]? = some u) (hjoins : u.joins ≠ 5) : (comparison g).Takes s i e j := by
  have hmiss : (comparePair g).Misses s j := (misses_compareOp hu hjoins).bind
  refine (takes_start ht).bind (h.bind (hmiss.many.bind ?_))
  exact takes_pure

/-- What is not negated is a comparison. -/
lemma takes_inversion (h : (comparison g).Takes s i e j) (ht : s.tokens[i]? = some t)
    (hword : t.isWord "not" = false) : (inversion g).Takes s i e j := by
  have hmiss : ((do return (← word "not").start) : Rule Mark).Misses s i :=
    (misses_take ht hword).bind
  refine hmiss.many.bind (h.bind (takes_rangeFrom.bind ?_))
  exact takes_pure

/-- What is neither conditional nor an anonymous function is a disjunction. -/
lemma takes_expression (h : (disjunctionRule g).Takes s i e j) (ht : s.tokens[i]? = some t)
    (hu : s.tokens[j]? = some u) (hlambda : t.isWord "lambda" = false)
    (hif : u.isWord "if" = false) : (expressionRule g).Takes s i e j := by
  refine (takes_start ht).bind ((takes_atWord ht "lambda").bind ?_)
  rw [hlambda]
  refine takes_input_bind fun _ => ?_
  refine takes_pure.bind (h.bind ?_)
  refine (takes_diagnosing.bind takes_diagnosing).bind ?_
  exact (misses_take hu hif).discard.bind.or_takes takes_pure

/-- A level takes what the next level takes if neither its prefix nor its operator is there. -/
lemma takes_ruleAt_of_succ {l : ℕ} (h : (ruleAt g (l + 1)).Takes s i e j)
    (ht : s.tokens[i]? = some t) (hu : s.tokens[j]? = some u) (hlead : t.Leads (l + 1))
    (hjoins : u.joins ≠ l) : (ruleAt g l).Takes s i e j := by
  match l with
  | 0 => exact h
  | 1 =>
    exact takes_expression h ht hu (hlead.isWord_eq_false (by decide))
      (Token.isWord_eq_false_of_joins (by decide) hjoins)
  | 2 => exact takes_boolChain h ht hu (Token.isWord_eq_false_of_joins (by decide) hjoins)
  | 3 => exact takes_boolChain h ht hu (Token.isWord_eq_false_of_joins (by decide) hjoins)
  | 4 => exact takes_inversion h ht (hlead.isWord_eq_false (by decide))
  | 5 => exact takes_comparison h ht hu hjoins
  | 6 | 7 | 8 | 9 | 10 | 11 =>
    refine takes_leftChain h ht hu fun o ho => Token.isOp_eq_false_of_joins ?_ hjoins
    revert o
    decide
  | 12 => exact takes_factor h ht hlead
  | 13 => exact takes_power h ht hu (Token.isOp_eq_false_of_joins (by decide) hjoins)
  | 14 => exact takes_awaited h ht (hlead.isWord_eq_false (by decide))
  | 15 => exact takes_primary h ht .refl hu hjoins
  | _ + 16 => exact h

/-- What a level takes is taken by every level below it, if the token after it continues none of
them. -/
theorem takes_ruleAt_of_le {l m : ℕ} (hlm : l ≤ m) (h : (ruleAt g m).Takes s i e j)
    (ht : s.tokens[i]? = some t) (hu : s.tokens[j]? = some u) (hlead : t.Leads m)
    (hjoins : u.joins < max 1 l) : (ruleAt g l).Takes s i e j := by
  induction hlm using Nat.decreasingInduction with
  | self => exact h
  | of_succ k hk ih =>
    by_cases hzero : k = 0
    · subst hzero
      exact ih (by omega)
    · exact takes_ruleAt_of_succ (ih (by omega)) ht hu (hlead.mono (by omega)) (by omega)

/-! ## Down to the atoms -/

/-- The token stands in front of no operand: it is neither a sign nor a prefix word. -/
structure IsNoPrefix (t : Token) : Prop where
  sign : signOf? t = none
  word : ∀ w ∈ ["await", "not", "lambda"], t.isWord w = false

/-- A chain of operators begins with what its first operand begins with. -/
lemma beginsWith_leftChain {β : Type} {r : Rule β} {operators : List (String × BinaryOp)}
    {operand : Rule Expr} (h : operand.BeginsWith r s i) (ht : s.tokens[i]? = some t) :
    (leftChain operators operand).BeginsWith r s i := (takes_start ht).bind_beginsWith h.bind

/-- A chain of a short-circuit operator begins with what its first operand begins with. -/
lemma beginsWith_boolChain {β : Type} {r : Rule β} {operator : BoolOp} {operand : Rule Expr}
    (h : operand.BeginsWith r s i) (ht : s.tokens[i]? = some t) :
    (boolChain operator operand).BeginsWith r s i := (takes_start ht).bind_beginsWith h.bind

/-- An operand without a prefix begins with an atom. -/
lemma factorRule_beginsWith (ht : s.tokens[i]? = some t) (h : IsNoPrefix t) :
    (factorRule g).BeginsWith (atom g) s i := by
  have hprimary : (primaryRule g).BeginsWith (atom g) s i :=
    (takes_start ht).bind_beginsWith (BeginsWith.refl (atom g) s i).bind
  have hawaited : (awaited g).BeginsWith (atom g) s i := by
    refine (takes_start ht).bind_beginsWith ?_
    exact (takes_tryWord_false ht (h.word "await" (by decide))).bind_beginsWith hprimary
  refine (takes_peek ht).bind_beginsWith ?_
  rw [h.sign]
  exact (takes_start ht).bind_beginsWith hawaited.bind

/-- An expression without a prefix begins with an atom. -/
lemma expressionRule_beginsWith (ht : s.tokens[i]? = some t) (h : IsNoPrefix t) :
    (expressionRule g).BeginsWith (atom g) s i := by
  have hbits : (bitOrRule g).BeginsWith (atom g) s i := by
    unfold bitOrRule shift sum term
    repeat apply beginsWith_leftChain _ ht
    exact factorRule_beginsWith ht h
  have hcomparison : (comparison g).BeginsWith (atom g) s i :=
    (takes_start ht).bind_beginsWith hbits.bind
  have hnot : ((do return (← word "not").start) : Rule Mark).Misses s i :=
    (misses_take ht (h.word "not" (by decide))).bind
  have hinversion : (inversion g).BeginsWith (atom g) s i :=
    hnot.many.bind_beginsWith hcomparison.bind
  refine (takes_start ht).bind_beginsWith ((takes_atWord ht "lambda").bind_beginsWith ?_)
  rw [h.word "lambda" (by decide)]
  refine beginsWith_input_bind (fun _ => rfl) ?_ (p := do
    let e ← disjunctionRule g
    diagnoseExpression g false e
    conditionalFrom g t.start e)
  exact (beginsWith_boolChain (beginsWith_boolChain hinversion ht) ht).bind

/-! ## Where no expression begins -/

/-- No atom begins at a token that closes a group. -/
lemma misses_atom (ht : s.tokens[i]? = some t) (h : t.Closes) : (atom g).Misses s i := by
  refine (takes_peek ht).bind_misses ?_
  obtain ⟨hname, hnumber, hstring⟩ := h.kind_ne
  cases hkind : t.kind with
  | name => exact absurd hkind hname
  | number => exact absurd hkind hnumber
  | string => exact absurd hkind hstring
  | operator =>
    have hne : ∀ o ∉ [")", "]"], (t.text == o) = false := by
      intro o ho
      have hop := h.isOp_eq_false ho
      simpa [Token.isOp, hkind] using hop
    dsimp only
    rw [hne "(" (by decide), hne "[" (by decide), hne "\x7b" (by decide), hne "..." (by decide)]
    exact misses_fail
  | newline | indent | dedent | endMarker => exact misses_fail

/-- A token that closes a group stands in front of no operand. -/
lemma isNoPrefix_of_closes (h : t.Closes) : IsNoPrefix t where
  sign := by
    unfold signOf?
    rw [h.isOp_eq_false (o := "-") (by decide), h.isOp_eq_false (o := "+") (by decide),
      h.isOp_eq_false (o := "~") (by decide)]
    rfl
  word _ _ := h.isWord_eq_false

/-- No expression begins at a token that closes a group. -/
lemma misses_expression (ht : s.tokens[i]? = some t) (h : t.Closes) :
    (expressionRule g).Misses s i :=
  (expressionRule_beginsWith ht (isNoPrefix_of_closes h)).misses (misses_atom ht h)

/-- At no depth of nesting an expression begins at a token that closes a group. -/
lemma misses_ofDepth_expression (n : ℕ) (ht : s.tokens[i]? = some t) (h : t.Closes) :
    (ofDepth n).expression.Misses s i := by
  cases n with
  | zero => exact misses_fail
  | succ n => exact misses_expression ht h

end Grammar

end BlockText.Source

/-!
## Atoms

Names, numbers and string literals as the grammar takes them.  A name is taken in its normal form,
and a literal that no other literal follows denotes what is between its delimiters.
-/

namespace BlockText.Source.Grammar

open Rule

variable {g : Grammar} {s : TokenStream} {i : ℕ} {t u : Token}

/-- A name that is not reserved is taken in its normal form. -/
lemma takes_identifier (ht : s.tokens[i]? = some t) (hkind : t.kind = .name)
    (hname : t.text ∉ keywords) :
    identifier.Takes s i { t with text := Text.normalForm t.text } (i + 1) := by
  have hidentifier : t.isIdentifier = true := by
    simpa [Token.isIdentifier, hkind] using hname
  exact (takes_take ht hidentifier).bind takes_pure

/-- A name that is not reserved is an atom. -/
lemma takes_name (ht : s.tokens[i]? = some t) (hkind : t.kind = .name)
    (hname : t.text ∉ keywords) :
    (atom g).Takes s i (.name (Text.normalForm t.text) ⟨t.start, t.stop⟩) (i + 1) := by
  have hne : ∀ w ∈ keywords, (t.text == w) = false := by
    intro w hw
    simpa using fun heq : t.text = w => hname (heq ▸ hw)
  refine (takes_peek ht).bind ?_
  rw [hkind]
  dsimp only
  rw [hne "True" (by decide), hne "False" (by decide), hne "None" (by decide)]
  exact (takes_identifier ht hkind hname).bind takes_pure

/-- A number that is not too long is an atom. -/
lemma takes_number (ht : s.tokens[i]? = some t) (hkind : t.kind = .number)
    (hshort : isOverlong t.text.toList = false) :
    (atom g).Takes s i (.constant .number ⟨t.start, t.stop⟩) (i + 1) := by
  have hnumber : number.Takes s i t (i + 1) := by
    refine (takes_take ht (by rw [hkind]; rfl)).bind ?_
    rw [hshort]
    exact takes_pure
  refine (takes_peek ht).bind ?_
  rw [hkind]
  exact hnumber.discard_bind takes_pure

/-- A number with too many digits gives no value. -/
lemma refuses_number (ht : s.tokens[i]? = some t) (hkind : t.kind = .number)
    (hlong : isOverlong t.text.toList = true) : (atom g).Refuses s i := by
  have hnumber : number.Refuses s i := by
    refine (takes_take ht (by rw [hkind]; rfl)).bind_refuses ?_
    rw [hlong]
    exact refuses_complain _
  refine (takes_peek ht).bind_refuses ?_
  rw [hkind]
  exact hnumber.discard.bind

/-- A number stands in front of no operand. -/
lemma isNoPrefix_of_number (hkind : t.kind = .number) : IsNoPrefix t where
  sign := by simp [signOf?, Token.isOp, hkind]
  word _ _ := by simp [Token.isWord, hkind]

/-- A literal that is neither formatted nor made of bytes, with well-formed escapes that denote
these code points whichever characters have names. -/
structure Denotes (l : StringLiteral) (ps : List CodePoint) : Prop where
  not_formatted : l.isFormatted = false
  not_bytes : l.isBytes = false
  text : ∀ names, literalText names l.isRaw l.body = some ps

/-- A literal on its own denotes its text. -/
lemma takes_string {ps : List CodePoint} (ht : s.tokens[i]? = some t) (hkind : t.kind = .string)
    (hu : s.tokens[i + 1]? = some u) (hnext : u.kind ≠ .string)
    (hl : Denotes (StringLiteral.ofChars t.text.toList) ps) :
    (atom g).Takes s i (.constant (.string ps) (s.rangeTo t.start (i + 1))) (i + 1) := by
  have hone : (many1 (kind .string)).Takes s i [t] (i + 1) := by
    refine (takes_take ht (by rw [hkind]; rfl)).bind ?_
    have hmiss : (kind .string).Misses s (i + 1) := misses_take hu (by simpa using hnext)
    exact hmiss.many.bind takes_pure
  have hpieces : (literalPieces g t).Takes s (i + 1) (textPiece ps) (i + 1) := by
    refine takes_input_bind fun names => ?_
    simp only [hl.not_formatted, hl.not_bytes, hl.text names]
    exact takes_pure
  have hall : (literalsPieces g false [t]).Takes s (i + 1) (textPiece ps) (i + 1) := by
    have hbytes : ((StringLiteral.ofChars t.text.toList).isBytes != false) = false := by
      rw [hl.not_bytes]
      rfl
    refine hpieces.bind ?_
    rw [hbytes]
    refine takes_pure.bind ?_
    rw [List.append_nil]
    exact takes_pure
  have hjoin : (textPiece ps).flatMap (·.text) = ps := by
    cases ps with
    | nil => rfl
    | cons p ps => simp [textPiece]
  have hstrings : (strings g).Takes s i
      (.constant (.string ps) (s.rangeTo t.start (i + 1))) (i + 1) := by
    refine (takes_start ht).bind (hone.bind ?_)
    simp only [List.map_cons, List.map_nil, List.head?_cons, Option.map_some, Option.getD_some,
      hl.not_bytes, List.any_cons, hl.not_formatted, List.any_nil, Bool.or_false]
    refine hall.bind (takes_rangeFrom.bind ?_)
    rw [hjoin]
    exact takes_pure
  refine (takes_peek ht).bind ?_
  rw [hkind]
  exact hstrings

end BlockText.Source.Grammar

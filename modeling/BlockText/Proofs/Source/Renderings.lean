import BlockText.Proofs.Source.Formulas

/-!
# Texts of formulas

The text of a formula falls into the words of the formula, in front of everything that may follow a
formula there.  Texts are put together from pieces: an operand, a separator that leads to the next
operand, brackets.  What a piece needs of the text behind it is only its first character.
-/

namespace BlockText.Source

open Syntax Render

variable {e l r f : Syntax.Expr} {es : List Syntax.Expr} {i : Info}
  {c d : Char} {o s t : String} {cs next : List Char} {p q : Prop} {us vs ws : List Word}

/-! ## Operators in front of operands -/

/-- The character begins an operand. -/
def beginsOperand (c : Char) : Bool :=
  startsName c || c.isDigit || ['(', '[', '+', '-', '~'].contains c

/-- A name begins like an operand, and with no digit. -/
lemma beginsOperand_of_isName {n : String} (h : isName n.toList = true) :
    ∃ c more, n.toList = c :: more ∧ beginsOperand c = true ∧ c.isDigit = false := by
  cases hn : n.toList with
  | nil =>
    rw [hn] at h
    cases h
  | cons c more =>
    rw [hn, isName, Bool.and_eq_true] at h
    have hstarts := startsName_of_isIdentifierStart h.1
    refine ⟨c, more, rfl, by simp [beginsOperand, hstarts], ?_⟩
    rw [Bool.eq_false_iff]
    intro hdigit
    have hletter := isPlainLetter_eq_false_of_isDigit hdigit
    simp only [startsName, hletter, Bool.false_or, Bool.or_eq_true, beq_iff_eq,
      decide_eq_true_eq] at hstarts
    rcases hstarts with rfl | hlarge
    · exact absurd hdigit (by decide)
    · simp only [Char.isDigit, Bool.and_eq_true, decide_eq_true_eq, UInt32.le_iff_toNat_le] at hdigit
      have h9 : ('9' : Char).val.toNat = 57 := rfl
      have hval : c.toNat = c.val.toNat := rfl
      omega

/-- Brackets and commas are operators of their own in front of every text. -/
lemma fits_alone (ho : o ∈ [",", "(", ")", "[", "]"]) (next : List Char) :
    (Word.op o).Fits next := by
  simp only [List.mem_cons, List.not_mem_nil, or_false] at ho
  rcases ho with rfl | rfl | rfl | rfl | rfl <;>
    exact fits_operator _ [] rfl (by decide) (fun h => absurd h (by decide)) rfl

/-- A character that begins no longer operator is an operator by itself. -/
lemma scanOperator_single (h : ∀ op ∈ longOperators, op.isPrefixOf (c :: next) = false) :
    scanOperator (c :: next) = ([c], next) := by
  have hnone : longOperators.find? (·.isPrefixOf (c :: next)) = none :=
    List.find?_eq_none.mpr fun op hop => by simp [h op hop]
  rw [scanOperator, hnone]
  rfl

/-- A sign stands directly in front of its operand. -/
lemma fits_sign {op : UnaryOp} (hop : op ≠ .not) (hd : beginsOperand d = true) (rest : List Char) :
    (Word.op (Choice.spelling op)).Fits (d :: rest) := by
  have hequal : ('=' == d) = false := by
    rw [beq_eq_false_iff_ne]
    rintro rfl
    exact absurd hd (by decide)
  have hgreater : ('>' == d) = false := by
    rw [beq_eq_false_iff_ne]
    rintro rfl
    exact absurd hd (by decide)
  have hscan : ∀ c ∈ ['+', '-', '~'], scanOperator (c :: d :: rest) = ([c], d :: rest) := by
    intro c hc
    refine scanOperator_single ?_
    simp only [List.mem_cons, List.not_mem_nil, or_false] at hc
    rcases hc with rfl | rfl | rfl <;> simp [longOperators, List.isPrefixOf, hequal, hgreater]
  cases op with
  | not => exact absurd rfl hop
  | _ =>
    exact fits_operator _ [] rfl (by decide) (fun h => absurd h (by decide)) (hscan _ (by decide))

/-- The point of an attribute stands in front of a name. -/
lemma fits_point (hd : beginsOperand d = true) (hdigit : d.isDigit = false) (rest : List Char) :
    (Word.op ".").Fits (d :: rest) := by
  have hpoint : ('.' == d) = false := by
    rw [beq_eq_false_iff_ne]
    rintro rfl
    exact absurd hd (by decide)
  have hscan : scanOperator ('.' :: d :: rest) = (['.'], d :: rest) :=
    scanOperator_single (by simp [longOperators, List.isPrefixOf, hpoint])
  refine fits_operator '.' [] rfl (by decide) ?_ hscan
  rintro - _ ⟨⟩
  exact hdigit

/-! ## Pieces of texts -/

/-- What may follow a formula: a point only behind some. -/
def MayFollow (pointed : Prop) (next : List Char) : Prop :=
  ∀ c ∈ next.head?, c ∈ [' ', ',', ')', ']', ':', '(', '[', '\n'] ∨ c = '.' ∧ pointed

/-- What may follow where less is known may follow where more is. -/
lemma MayFollow.mono (h : MayFollow p next) (hpq : p → q) : MayFollow q next := fun c hc =>
  (h c hc).imp_right fun hpoint => ⟨hpoint.1, hpq hpoint.2⟩

/-- A space, a separator, a bracket or the end of the line may follow everything. -/
lemma mayFollow_cons (hc : c ∈ [' ', ',', ')', ']', ':', '(', '[', '\n']) :
    MayFollow p (c :: cs) := by
  rintro _ ⟨⟩
  exact .inl hc

/-- What may follow an operand ends a name. -/
lemma MayFollow.ends_name (h : MayFollow p next) :
    ∀ c ∈ next.head?, continuesName c = false ∧ isQuote c = false := by
  intro c hc
  rcases h c hc with hmem | ⟨rfl, -⟩
  · revert c
    intro c _ hmem
    simp only [List.mem_cons, List.not_mem_nil, or_false] at hmem
    rcases hmem with rfl | rfl | rfl | rfl | rfl | rfl | rfl | rfl <;> decide
  · decide

/-- The text falls into words in front of everything that may follow. -/
def Falls (pointed : Prop) (text : String) (ws : List Word) : Prop :=
  ∀ ⦃next⦄, MayFollow pointed next → Lexes next text.toList ws

/-- The text of an operand in its words. -/
structure Prints (pointed : Prop) (text : String) (ws : List Word) : Prop where
  falls : Falls pointed text ws
  begins : ∃ c more, text.toList = c :: more ∧ beginsOperand c = true

/-- In front of an operand the text falls into words. -/
def LeadsIn (text : String) (vs : List Word) : Prop :=
  ∀ ⦃next cs ws⦄, (∃ c more, cs = c :: more ∧ beginsOperand c = true) → Lexes next cs ws →
    Lexes next (text.toList ++ cs) (vs ++ ws)

/-- The empty text falls into no words. -/
lemma falls_empty : Falls p "" [] := fun _ _ => .nil

/-- A text that falls into words in front of more falls into them in front of less. -/
lemma Falls.mono (h : Falls p t ws) (hqp : q → p) : Falls q t ws := fun _ hnext =>
  h (hnext.mono hqp)

/-- A text that prints words in front of more prints them in front of less. -/
lemma Prints.mono (h : Prints p t ws) (hqp : q → p) : Prints q t ws :=
  ⟨h.falls.mono hqp, h.begins⟩

/-- A text with one behind it. -/
lemma Falls.append (hs : Falls p s us) (ht : Falls q t vs)
    (hfollow : ∀ ⦃next⦄, MayFollow q next → MayFollow p (t.toList ++ next)) :
    Falls q (s ++ t) (us ++ vs) := by
  intro next hnext
  rw [String.toList_append]
  exact (hs (hfollow hnext)).append (ht hnext)

/-- An operand with text behind it prints the words of both. -/
lemma Prints.append (hs : Prints p s us) (ht : Falls q t vs)
    (hfollow : ∀ ⦃next⦄, MayFollow q next → MayFollow p (t.toList ++ next)) :
    Prints q (s ++ t) (us ++ vs) := by
  obtain ⟨c, more, hchars, hc⟩ := hs.begins
  exact ⟨hs.falls.append ht hfollow, c, more ++ t.toList, by simp [hchars], hc⟩

/-- An operand behind what leads to it. -/
lemma Prints.after (ht : Prints q t ws) (hs : LeadsIn s vs) : Falls q (s ++ t) (vs ++ ws) := by
  intro next hnext
  rw [String.toList_append]
  exact hs ht.begins (ht.falls hnext)

/-- What leads to an operand may itself begin one. -/
lemma Prints.led (ht : Prints q t ws) (hs : LeadsIn s vs)
    (hbegins : ∃ c more, s.toList = c :: more ∧ beginsOperand c = true) :
    Prints q (s ++ t) (vs ++ ws) := by
  obtain ⟨c, more, hchars, hc⟩ := hbegins
  exact ⟨ht.after hs, c, more ++ t.toList, by simp [hchars], hc⟩

/-- Two operands with a separator between them. -/
lemma Prints.between (hs : Prints p s us) (ho : LeadsIn o vs) (ht : Prints q t ws)
    (hfollow : ∀ cs, MayFollow p (o.toList ++ cs)) : Prints q (s ++ o ++ t) (us ++ vs ++ ws) := by
  rw [String.append_assoc, List.append_assoc]
  refine hs.append (ht.after ho) fun next _ => ?_
  rw [String.toList_append, List.append_assoc]
  exact hfollow _

/-- Text between brackets. -/
lemma falls_enclosed {a b : String} (ha : a ∈ [",", "(", ")", "[", "]"])
    (hb : b ∈ [",", "(", ")", "[", "]"]) (ht : Falls False t ws) :
    Falls p (a ++ t ++ b) (.op a :: ws ++ [.op b]) := by
  intro next _
  rw [String.append_assoc, String.toList_append, String.toList_append, List.cons_append]
  refine .word (fits_alone ha _) ((ht ?_).append (Lexes.single (fits_alone hb next)))
  simp only [List.mem_cons, List.not_mem_nil, or_false] at hb
  rcases hb with rfl | rfl | rfl | rfl | rfl <;> exact mayFollow_cons (by decide)

/-- An operand in parentheses is an operand. -/
lemma Prints.parenthesized (h : Prints p t ws) :
    Prints True ("(" ++ t ++ ")") (.op "(" :: ws ++ [.op ")"]) :=
  ⟨falls_enclosed (by decide) (by decide) (h.falls.mono False.elim), '(', t.toList ++ [')'],
    by simp, by decide⟩

/-! ## Words between operands -/

/-- An operator in front of a text is its first word. -/
lemma Lexes.op (ho : (Word.op o).Fits (cs ++ next)) (h : Lexes next cs ws) :
    Lexes next (o.toList ++ cs) (.op o :: ws) := .word ho h

/-- A name in front of a text that does not continue it is its first word. -/
lemma Lexes.name {n : String} (hn : isName n.toList = true) (hnext : MayFollow False (cs ++ next))
    (h : Lexes next cs ws) : Lexes next (n.toList ++ cs) (.name n :: ws) :=
  .word (fits_name hn hnext.ends_name) h

/-- A comma and a space stand in front of an operand. -/
lemma leadsIn_comma : LeadsIn ", " [.op ","] := by
  intro next cs ws _ h
  have hcomma : (Word.op ",").Fits (' ' :: cs ++ next) := fits_alone (by decide) _
  exact .op hcomma (.space h)

/-- A word between spaces. -/
lemma leadsIn_word {n : String} (hn : isName n.toList = true) :
    LeadsIn (" " ++ n ++ " ") [.name n] := by
  intro next cs ws _ h
  have hspaced : Lexes next (' ' :: (n.toList ++ ' ' :: cs)) (.name n :: ws) :=
    .space (.name hn (mayFollow_cons (by decide)) (.space h))
  simpa using hspaced

/-- A word in front of its operand. -/
lemma leadsIn_keyword {n : String} (hn : isName n.toList = true) :
    LeadsIn (n ++ " ") [.name n] := by
  intro next cs ws _ h
  have hspaced : Lexes next (n.toList ++ ' ' :: cs) (.name n :: ws) :=
    .name hn (mayFollow_cons (by decide)) (.space h)
  simpa using hspaced

/-- An operator between spaces. -/
lemma leadsIn_operator (ho : ∀ rest, (Word.op o).Fits (' ' :: rest)) :
    LeadsIn (" " ++ o ++ " ") [.op o] := by
  intro next cs ws _ h
  have hspaced : Lexes next (' ' :: (o.toList ++ ' ' :: cs)) (.op o :: ws) :=
    .space (.op (ho (cs ++ next)) (.space h))
  simpa using hspaced

/-- A binary operator stands between spaces in front of an operand. -/
lemma leadsIn_binary (op : BinaryOp) :
    LeadsIn (" " ++ Choice.spelling op ++ " ") [.op (Choice.spelling op)] := by
  refine leadsIn_operator fun rest => ?_
  cases op <;> exact fits_operator _ _ rfl (by decide) (fun h => absurd h (by decide)) rfl

/-- A comparison operator stands between spaces in front of an operand. -/
lemma leadsIn_compare (op : CompareOp) :
    LeadsIn (" " ++ Choice.spelling op ++ " ") (compareWords op) := by
  cases op with
  | is => exact leadsIn_word (n := "is") (by decide)
  | isIn => exact leadsIn_word (n := "in") (by decide)
  | isNot =>
    intro next cs ws hcs h
    exact leadsIn_word (n := "is") (by decide) ⟨'n', _, rfl, by decide⟩
      (leadsIn_keyword (n := "not") (by decide) hcs h)
  | notIn =>
    intro next cs ws hcs h
    exact leadsIn_word (n := "not") (by decide) ⟨'i', _, rfl, by decide⟩
      (leadsIn_keyword (n := "in") (by decide) hcs h)
  | _ =>
    refine leadsIn_operator fun rest => ?_
    exact fits_operator _ _ rfl (by decide) (fun h => absurd h (by decide)) rfl

/-- A sign or a negation in front of its operand. -/
lemma leadsIn_unary (op : UnaryOp) :
    LeadsIn (if op = .not then "not " else Choice.spelling op) [unaryWord op] := by
  intro next cs ws hcs h
  by_cases hop : op = .not
  · subst hop
    exact leadsIn_keyword (n := "not") (by decide) hcs h
  · have hword : unaryWord op = .op (Choice.spelling op) := by
      cases op <;> first | rfl | exact absurd rfl hop
    obtain ⟨c, more, rfl, hc⟩ := hcs
    rw [if_neg hop, hword]
    exact .op (fits_sign hop hc (more ++ next)) h

/-- A colon and a space stand in front of an operand. -/
lemma leadsIn_colon : LeadsIn ": " [.op ":"] := by
  intro next cs ws _ h
  have hcolon : (Word.op ":").Fits (' ' :: cs ++ next) :=
    fits_operator ':' [] rfl (by decide) (fun h => absurd h (by decide)) rfl
  exact .op hcolon (.space h)

/-- An operator between spaces may follow everything. -/
lemma mayFollow_spaced (o : String) (cs : List Char) :
    MayFollow p ((" " ++ o ++ " ").toList ++ cs) := by
  rw [String.append_assoc, String.toList_append, List.append_assoc]
  exact mayFollow_cons (by decide)

/-! ## Lists -/

/-- Operands with a separator between neighbours. -/
lemma prints_join {sep : String} {w : Word} {ts : List String} {wss : List (List Word)}
    (h : List.Forall₂ (Prints False) ts wss) (hts : ts ≠ []) (hlead : LeadsIn sep [w])
    (hfollow : ∀ cs, MayFollow False (sep.toList ++ cs)) :
    Prints False (Text.join sep ts) (joinWords w wss) := by
  induction h with
  | nil => exact absurd rfl hts
  | @cons t ws ts wss ht hrest ih =>
    cases hrest with
    | nil => simpa [Text.join, joinWords] using ht
    | @cons t' ws' ts wss ht' hrest =>
      have hlater := ht.between hlead (ih (List.cons_ne_nil _ _)) hfollow
      rw [Text.join, String.intercalate_cons_of_ne_nil (List.cons_ne_nil _ _)]
      simpa [Text.join, joinWords] using hlater

/-- A comma may follow everything. -/
lemma mayFollow_comma (cs : List Char) :
    MayFollow p (", ".toList ++ cs) := mayFollow_cons (by decide)

/-- Items with commas between them. -/
lemma falls_join {ts : List String} {wss : List (List Word)}
    (h : List.Forall₂ (Prints False) ts wss) :
    Falls False (Text.join ", " ts) (joinWords (.op ",") wss) := by
  cases h with
  | nil => exact falls_empty
  | cons ht hrest =>
    exact (prints_join (.cons ht hrest) (List.cons_ne_nil _ _) leadsIn_comma mayFollow_comma).falls

/-! ## Formulas as texts -/

/-- The formula is rendered as a text that falls into its words. -/
def Renders (e : Syntax.Expr) : Prop :=
  ∃ t, core e = .ok (.text t) ∧ Prints (15 ≤ level e ∧ ¬ e.IsNumber) t (words e)

/-- An operand in its place. -/
lemma Renders.placed (h : Renders e) (he : e.IsFormula) (required : ℕ) :
    ∃ d t, core e = .ok d ∧ enclose e required d = .text t ∧
      Prints (15 ≤ required ∧ ¬ e.IsNumber) t (placed e required (words e)) := by
  obtain ⟨t, hcore, hprints⟩ := h
  have hiff := strength_lt_iff he required
  by_cases hlevel : level e < required
  · refine ⟨_, "(" ++ t ++ ")", hcore, by rw [enclose, if_pos (hiff.mpr hlevel)]; rfl, ?_⟩
    rw [placed_of_lt hlevel]
    exact hprints.parenthesized.mono fun _ => trivial
  · refine ⟨_, t, hcore, by rw [enclose, if_neg (fun hlt => hlevel (hiff.mp hlt))], ?_⟩
    rw [placed_of_le (by omega)]
    exact hprints.mono fun h => ⟨h.1.trans (Nat.le_of_not_lt hlevel), h.2⟩

/-- An operand in a place behind which no point may stand. -/
lemma Renders.operand (h : Renders e) (he : e.IsFormula) (required : ℕ) :
    ∃ d t, core e = .ok d ∧ enclose e required d = .text t ∧
      Prints False t (BlockText.Source.placed e required (words e)) := by
  obtain ⟨d, t, hcore, hplace, hprints⟩ := h.placed he required
  exact ⟨d, t, hcore, hplace, hprints.mono False.elim⟩

/-- Texts are joined as texts. -/
lemma joined_texts (sep : String) (ts : List String) :
    joined sep (ts.map .text) = .ok (Text.join sep ts) := by
  have hgo : ∀ index, joined.go index (ts.map .text) = .ok ts := by
    induction ts with
    | nil => intro index; rfl
    | cons t ts ih =>
      intro index
      rw [List.map_cons, joined.go, ih]
      rfl
  rw [joined, hgo]
  rfl

/-- Formulas are rendered as operands, each in its words. -/
lemma exists_operands (hes : ∀ e ∈ es, e.IsFormula) (h : ∀ e ∈ es, Renders e)
    (required : ℕ) :
    ∃ ts : List String, operands required es = .ok (ts.map .text) ∧
      List.Forall₂ (Prints False) ts (wordsEach required es) := by
  induction es with
  | nil => exact ⟨[], rfl, .nil⟩
  | cons e es ih =>
    obtain ⟨d, t, hcore, hplace, hprints⟩ :=
      (h e List.mem_cons_self).operand (hes e List.mem_cons_self) required
    obtain ⟨ts, hrest, hts⟩ := ih (fun e' he' => hes e' (List.mem_cons_of_mem _ he'))
      fun e' he' => h e' (List.mem_cons_of_mem _ he')
    refine ⟨t :: ts, ?_, .cons hprints hts⟩
    rw [operands, hcore]
    dsimp only [bind, Except.bind]
    rw [hrest, hplace]
    rfl

/-- The elements of a tuple without parentheses. -/
lemma exists_tupleItems (hes : ∀ e ∈ es, e.IsFormula) (h : ∀ e ∈ es, Renders e)
    (hne : es ≠ []) :
    ∃ ds t, operands lambdaStrength es = .ok ds ∧ tupleItems ds = .ok t ∧
      Prints False t (tupleWords (wordsEach 0 es)) := by
  obtain ⟨ts, hoperands, hts⟩ := exists_operands hes h 0
  have hnonempty : ts ≠ [] := by
    rintro rfl
    cases es with
    | nil => exact hne rfl
    | cons e es =>
      rw [wordsEach] at hts
      cases hts
  generalize wordsEach 0 es = wss at hts ⊢
  refine ⟨ts.map .text, ?_⟩
  cases hts with
  | nil => exact absurd rfl hnonempty
  | @cons t ws ts wss ht hrest =>
    cases hrest with
    | nil =>
      have hcomma : Falls False "," [.op ","] := fun next _ =>
        Lexes.single (fits_alone (by decide) next)
      exact ⟨t ++ ",", hoperands, rfl, ht.append hcomma fun _ _ => mayFollow_cons (by decide)⟩
    | @cons t' ws' ts wss ht' hrest =>
      exact ⟨_, hoperands, joined_texts ", " (t :: t' :: ts),
        prints_join (.cons ht (.cons ht' hrest)) hnonempty leadsIn_comma mayFollow_comma⟩

/-! ### Names and numbers -/

/-- A name falls into itself. -/
lemma falls_name {n : String} (hn : isName n.toList = true) : Falls p n [.name n] := fun _ hnext =>
  Lexes.single (fits_name hn hnext.ends_name)

/-- A name prints itself. -/
lemma prints_name {n : String} (hn : isName n.toList = true) : Prints p n [.name n] := by
  obtain ⟨c, more, hchars, hc, -⟩ := beginsOperand_of_isName hn
  exact ⟨falls_name hn, c, more, hchars, hc⟩

/-- A name is rendered in its word. -/
lemma renders_identifier {n : String} (hn : isName n.toList = true) :
    Renders (.identifier (.text n) i) := by
  refine ⟨n, by rw [core], ?_⟩
  rw [words]
  exact prints_name hn

/-- A decimal number is rendered in its word. -/
lemma renders_number {n : String} (hn : isDecimal n.toList = true) :
    Renders (.literal .number (.text n) .null i) := by
  obtain ⟨c, more, hchars, hc⟩ :=
    exists_cons_of_isDigits (Bool.and_eq_true _ _ ▸ hn : isDigits n.toList = true ∧ _).1
  have hne : n ≠ "" := by
    rintro rfl
    cases hchars
  refine ⟨n, ?_, fun next hnext => ?_, c, more, hchars, by simp [beginsOperand, hc]⟩
  · simp [core, literal, Datum.isTruthy, Datum.isFalsy, hne]
  · rw [words]
    refine Lexes.single (fits_number hn fun c hc => ?_)
    obtain ⟨hname, hquote⟩ := hnext.ends_name c hc
    refine ⟨hname, ?_, hquote⟩
    rintro rfl
    rcases hnext '.' hc with hmem | ⟨-, -, hnumber⟩
    · exact absurd hmem (by decide)
    · exact hnumber trivial

/-! ### Operators -/

/-- A binary operation is rendered in its words if its operands are. -/
lemma renders_binary (hl : l.IsFormula) (hr : r.IsFormula) (ihl : Renders l)
    (ihr : Renders r) (op : BinaryOp) : Renders (.binary l op r i) := by
  obtain ⟨dl, tl, hcl, hpl, hprintsl⟩ := ihl.operand hl (sideLevels op).1
  obtain ⟨dr, tr, hcr, hpr, hprintsr⟩ := ihr.operand hr (sideLevels op).2
  have hlow : ¬ 15 ≤ binaryLevel op := by cases op <;> decide
  refine ⟨tl ++ " " ++ Choice.spelling op ++ " " ++ tr, ?_, ?_⟩
  · have hleft : (enclose l (sideLevels op).1 dl).display = tl := by rw [hpl]; rfl
    have hright : (enclose r (sideLevels op).2 dr).display = tr := by rw [hpr]; rfl
    rw [← hleft, ← hright]
    cases op <;> simp only [core, hcl, hcr] <;> rfl
  · rw [words]
    have hprints := hprintsl.between (leadsIn_binary op) hprintsr (mayFollow_spaced _)
    simpa [String.append_assoc] using hprints.mono fun h => hlow h.1

/-- A unary operation is rendered in its words if its operand is. -/
lemma renders_unary (he : e.IsFormula) (ih : Renders e) (op : UnaryOp) :
    Renders (.unary op e i) := by
  obtain ⟨d, t, hcore, hplace, hprints⟩ := ih.operand he (unaryLevel op)
  have hlow : ¬ 15 ≤ unaryLevel op := by cases op <;> decide
  have hshown : (enclose e (unaryLevel op) d).display = t := by rw [hplace]; rfl
  refine ⟨(if op = .not then "not " else Choice.spelling op) ++ t, ?_, ?_⟩
  · rw [← hshown]
    cases op <;> simp only [core, hcore] <;> rfl
  · rw [words]
    refine (hprints.led (leadsIn_unary op) ?_).mono fun h => hlow h.1
    cases op <;> exact ⟨_, _, rfl, by decide⟩

/-- An awaited formula is rendered in its words if the formula is. -/
lemma renders_await (he : e.IsFormula) (ih : Renders e) : Renders (.await e i) := by
  obtain ⟨d, t, hcore, hplace, hprints⟩ := ih.operand he 15
  have hshown : (enclose e postfixStrength d).display = t := by
    rw [show postfixStrength = ((15 : ℕ) : ℤ) from rfl, hplace]; rfl
  refine ⟨"await " ++ t, by rw [core, hcore, ← hshown]; rfl, ?_⟩
  rw [words]
  refine (hprints.led (leadsIn_keyword (n := "await") (by decide)) ⟨'a', _, rfl, by decide⟩).mono ?_
  simp

/-- A chain of a short-circuit operator is rendered in its words if its values are. -/
lemma renders_boolOp (hes : ∀ e ∈ es, e.IsFormula) (ih : ∀ e ∈ es, Renders e)
    (hseveral : 2 ≤ es.length) (op : BoolOp) : Renders (.boolOp op es i) := by
  obtain ⟨ts, hoperands, hts⟩ := exists_operands hes ih (boolLevel op + 1)
  have hlow : ¬ 15 ≤ boolLevel op := by cases op <;> decide
  have hne : ts ≠ [] := by
    have hlength := hts.length_eq
    rw [wordsEach_eq_map, List.length_map] at hlength
    rw [← List.length_pos_iff]
    omega
  have hname : isName (Choice.spelling op).toList = true := by cases op <;> decide
  have hoperands' : operands (boolStrength op + 1) es = .ok (ts.map .text) := by
    rw [← hoperands]
    cases op <;> rfl
  refine ⟨Text.join (" " ++ Choice.spelling op ++ " ") ts, ?_, ?_⟩
  · rw [core, hoperands']
    dsimp only [bind, Except.bind]
    rw [joined_texts]
    rfl
  · rw [words]
    exact (prints_join hts hne (leadsIn_word hname) (mayFollow_spaced _)).mono fun h => hlow h.1

/-- The operators of a comparison with the operands behind them. -/
lemma exists_comparisons (hes : ∀ e ∈ es, e.IsFormula) (ih : ∀ e ∈ es, Renders e)
    {ops : List CompareOp} (heach : ops.length = es.length) :
    ∃ tail, comparisons ops es = .ok tail ∧ tail.length = es.length ∧
      Falls False (String.join tail) (comparedWords ops es) ∧
      ∀ ⦃next⦄, MayFollow False next → MayFollow False ((String.join tail).toList ++ next) := by
  induction es generalizing ops with
  | nil =>
    cases ops with
    | nil => exact ⟨[], rfl, rfl, falls_empty, fun next hnext => by simpa using hnext⟩
    | cons => cases heach
  | cons e es ihes =>
    cases ops with
    | nil => cases heach
    | cons op ops =>
      obtain ⟨d, t, hcore, hplace, hprints⟩ :=
        (ih e List.mem_cons_self).operand (hes e List.mem_cons_self) 6
      obtain ⟨tail, htail, hlength, hfalls, hfollow⟩ :=
        ihes (fun e' he' => hes e' (List.mem_cons_of_mem _ he'))
          (fun e' he' => ih e' (List.mem_cons_of_mem _ he')) (Nat.succ.inj heach)
      have hplace' : enclose e (compareStrength + 1) d = .text t := hplace
      have hjoin : String.join ((" " ++ Choice.spelling op ++ " " ++ t) :: tail) =
          " " ++ Choice.spelling op ++ " " ++ t ++ String.join tail := by
        simp [String.join_cons]
      refine ⟨(" " ++ Choice.spelling op ++ " " ++ t) :: tail, ?_, by simp [hlength], ?_, ?_⟩
      · rw [comparisons, hcore]
        dsimp only [bind, Except.bind]
        rw [htail, hplace']
        rfl
      · rw [hjoin, comparedWords]
        exact (hprints.after (leadsIn_compare op)).append hfalls hfollow
      · intro next _
        rw [hjoin, String.append_assoc, String.toList_append, List.append_assoc]
        exact mayFollow_spaced _ _

/-- A comparison is rendered in its words if its operands are. -/
lemma renders_compare (hl : l.IsFormula) (hes : ∀ e ∈ es, e.IsFormula)
    (ihl : Renders l) (ih : ∀ e ∈ es, Renders e) {ops : List CompareOp} (hops : ops ≠ [])
    (heach : ops.length = es.length) : Renders (.compare l ops es i) := by
  obtain ⟨d, t, hcore, hplace, hprints⟩ := ihl.operand hl 6
  obtain ⟨tail, htail, hlength, hfalls, hfollow⟩ := exists_comparisons hes ih heach
  have hplace' : enclose l (compareStrength + 1) d = .text t := hplace
  have hne : tail ≠ [] := by
    rintro rfl
    rw [List.length_nil, ← heach] at hlength
    exact hops (List.length_eq_zero_iff.mp hlength.symm)
  refine ⟨t ++ String.join tail, ?_, ?_⟩
  · rw [core, hcore, htail]
    cases tail with
    | nil => exact absurd rfl hne
    | cons =>
      dsimp only [bind, Except.bind]
      rw [hplace']
      rfl
  · rw [words]
    exact (hprints.append hfalls hfollow).mono (by simp)

/-- A conditional expression is rendered in its words if its parts are. -/
lemma renders_conditional {b : Syntax.Expr} (he : e.IsFormula) (hb : b.IsFormula)
    (hf : f.IsFormula) (ihe : Renders e) (ihb : Renders b) (ihf : Renders f) :
    Renders (.conditional e b f i) := by
  obtain ⟨db, tb, hcb, hpb, hprintsb⟩ := ihb.operand hb 2
  obtain ⟨de, te, hce, hpe, hprintse⟩ := ihe.operand he 2
  obtain ⟨df, tf, hcf, hpf, hprintsf⟩ := ihf.operand hf 1
  have hbody : (enclose b (conditionalStrength + 1) db).display = tb :=
    congrArg Datum.display hpb
  have htest : (enclose e (conditionalStrength + 1) de).display = te :=
    congrArg Datum.display hpe
  have horelse : (enclose f conditionalStrength df).display = tf := congrArg Datum.display hpf
  refine ⟨tb ++ " if " ++ te ++ " else " ++ tf, ?_, ?_⟩
  · rw [core, hcb, hce, hcf]
    dsimp only [bind, Except.bind]
    rw [hbody, htest, horelse]
    rfl
  · have hif : LeadsIn " if " [.name "if"] := leadsIn_word (n := "if") (by decide)
    have helse : LeadsIn " else " [.name "else"] := leadsIn_word (n := "else") (by decide)
    have hprints := (hprintsb.between hif hprintse fun cs => mayFollow_spaced "if" cs).between helse
      hprintsf fun cs => mayFollow_spaced "else" cs
    rw [words]
    refine Prints.mono ?_ (by simp : (15 ≤ level (.conditional e b f i) ∧ _) → False)
    simpa using hprints

/-! ### Anonymous functions -/

/-- Parameters that are names only are rendered in their words. -/
lemma exists_params {ps : List (Param Syntax.Expr)} (hps : ∀ p ∈ ps, p.IsBareName) :
    ∃ ns, params false ps = .ok ns ∧ List.Forall₂ (Prints False) ns (ps.map paramWords) := by
  induction ps with
  | nil => exact ⟨[], rfl, .nil⟩
  | cons p ps ih =>
    obtain ⟨ns, hrest, hns⟩ := ih fun q hq => hps q (List.mem_cons_of_mem _ hq)
    obtain ⟨⟨n, hname, hn⟩, hhint, hpreset, hkind⟩ := hps p List.mem_cons_self
    obtain ⟨name, hint, preset, kind, info⟩ := p
    dsimp only at hname hhint hpreset hkind
    subst hname hhint hpreset hkind
    refine ⟨n :: ns, ?_, .cons (prints_name hn.isName) hns⟩
    have happend : append (paramMarker .normal) (.text n) = .ok n := by
      rw [append, paramMarker, String.empty_append]
    rw [params, happend]
    dsimp only [bind, Except.bind]
    rw [hrest]
    rfl

/-- An anonymous function is rendered in its words if its body is. -/
lemma renders_lambda {ps : List (Param Syntax.Expr)} (hps : ∀ p ∈ ps, p.IsBareName)
    (he : e.IsFormula) (ih : Renders e) : Renders (.lambda ps e i) := by
  obtain ⟨ns, hparams, hns⟩ := exists_params hps
  obtain ⟨d, t, hcore, hplace, hprints⟩ := ih.operand he 0
  have hshown : (enclose e lambdaStrength d).display = t := congrArg Datum.display hplace
  rw [placed_zero] at hprints
  have hcolon : Falls False (": " ++ t) (.op ":" :: words e) := hprints.after leadsIn_colon
  have hfollow : ∀ ⦃next⦄, MayFollow False next →
      MayFollow False ((": " ++ t).toList ++ next) := by
    intro next _
    rw [String.toList_append, List.append_assoc]
    exact mayFollow_cons (by decide)
  have hname : isName "lambda".toList = true := by decide
  refine ⟨(if (Text.join ", " ns).isEmpty then "lambda" else "lambda " ++ Text.join ", " ns) ++
    ": " ++ t, ?_, ?_⟩
  · rw [core, hparams, hcore, ← hshown]
    rfl
  · rw [words]
    refine Prints.mono ?_ (by simp : (15 ≤ level (.lambda ps e i) ∧ _) → False)
    generalize ps.map paramWords = wss at hns ⊢
    cases hns with
    | nil => exact (prints_name hname).append hcolon hfollow
    | @cons n ws ns wss hn hrest =>
      have hjoin := prints_join (.cons hn hrest) (List.cons_ne_nil _ _) leadsIn_comma mayFollow_comma
      have hne : (Text.join ", " (n :: ns)).isEmpty = false := by
        obtain ⟨c, more, hchars, -⟩ := hjoin.begins
        rw [Bool.eq_false_iff, Ne, String.isEmpty_iff]
        intro hempty
        rw [hempty] at hchars
        cases hchars
      have hhead := (hjoin.led (leadsIn_keyword (n := "lambda") hname) ⟨'l', _, rfl, by decide⟩).append
        hcolon hfollow
      rw [hne, if_neg Bool.false_ne_true, String.append_assoc]
      simpa using hhead

/-! ### Groups -/

/-- A tuple is rendered in its words if its elements are. -/
lemma renders_tuple (hes : ∀ e ∈ es, e.IsFormula) (ih : ∀ e ∈ es, Renders e) :
    Renders (.tuple es i) := by
  cases es with
  | nil =>
    refine ⟨"()", rfl, fun next _ => ?_, '(', _, rfl, by decide⟩
    have hopen : (Word.op "(").Fits (')' :: next) := fits_alone (by decide) _
    have hclose : (Word.op ")").Fits next := fits_alone (by decide) next
    exact .op hopen (Lexes.single hclose)
  | cons e es =>
    obtain ⟨ds, t, hoperands, hitems, hprints⟩ := exists_tupleItems hes ih (List.cons_ne_nil e es)
    refine ⟨"(" ++ t ++ ")", ?_, ?_⟩
    · rw [core, hoperands]
      · dsimp only [bind, Except.bind]
        rw [hitems]
        rfl
      · exact List.cons_ne_nil e es
    · rw [words]
      exact hprints.parenthesized.mono fun _ => trivial

/-- A list is rendered in its words if its elements are. -/
lemma renders_list (hes : ∀ e ∈ es, e.IsFormula) (ih : ∀ e ∈ es, Renders e) :
    Renders (.list es i) := by
  obtain ⟨ts, hoperands, hts⟩ := exists_operands hes ih 0
  have hoperands' : operands lambdaStrength es = .ok (ts.map .text) := hoperands
  refine ⟨"[" ++ Text.join ", " ts ++ "]", ?_, ?_, ?_⟩
  · rw [core, hoperands']
    dsimp only [bind, Except.bind]
    rw [joined_texts]
    rfl
  · rw [words]
    exact falls_enclosed (by decide) (by decide) (falls_join hts)
  · exact ⟨'[', (Text.join ", " ts).toList ++ [']'], by simp, by decide⟩

/-- Brackets with text between them, behind what they belong to. -/
lemma Renders.trailed (h : Renders f) (hf : f.IsFormula) {a b : String}
    (ha : a ∈ ["(", "["]) (hb : b ∈ [")", "]"]) (ht : Falls False t ws) :
    ∃ d s, core f = .ok d ∧ (enclose f postfixStrength d).display = s ∧
      Prints p (s ++ a ++ t ++ b) (BlockText.Source.placed f 15 (words f) ++ .op a :: ws ++ [.op b]) := by
  obtain ⟨d, s, hcore, hplace, hprints⟩ := h.operand hf 15
  refine ⟨d, s, hcore, congrArg Datum.display hplace, ?_⟩
  have hmem : a ∈ [",", "(", ")", "[", "]"] ∧ b ∈ [",", "(", ")", "[", "]"] := by
    simp only [List.mem_cons, List.not_mem_nil, or_false] at ha hb ⊢
    tauto
  have hprints' := hprints.append (falls_enclosed (p := p) hmem.1 hmem.2 ht) fun next _ => by
    rw [String.append_assoc, String.toList_append, List.append_assoc]
    simp only [List.mem_cons, List.not_mem_nil, or_false] at ha
    rcases ha with rfl | rfl <;> exact mayFollow_cons (by decide)
  simpa [String.append_assoc] using hprints'

/-- A call is rendered in its words if the function and the arguments are. -/
lemma renders_call (hf : f.IsFormula) (hes : ∀ e ∈ es, e.IsFormula) (ihf : Renders f)
    (ih : ∀ e ∈ es, Renders e) : Renders (.call f es [] i) := by
  obtain ⟨ts, hoperands, hts⟩ := exists_operands hes ih 0
  have hoperands' : operands lambdaStrength es = .ok (ts.map .text) := hoperands
  obtain ⟨d, s, hcore, hshown, hprints⟩ :=
    ihf.trailed hf (a := "(") (b := ")") (by decide) (by decide) (falls_join hts)
  refine ⟨s ++ "(" ++ Text.join ", " ts ++ ")", ?_, ?_⟩
  · rw [core, hoperands', Render.keywords, hcore]
    dsimp only [bind, Except.bind]
    rw [List.append_nil, joined_texts, hshown]
    rfl
  · rw [words]
    exact hprints

/-- An attribute of anything but a number is rendered in its words if the value is. -/
lemma renders_attribute {n : String} (hnumber : ¬ e.IsNumber) (he : e.IsFormula)
    (ih : Renders e) (hn : isName n.toList = true) : Renders (.attribute e (.text n) i) := by
  obtain ⟨d, t, hcore, hplace, hprints⟩ := ih.placed he 15
  have hshown : (enclose e postfixStrength d).display = t := congrArg Datum.display hplace
  obtain ⟨c, more, hchars, hc, hdigit⟩ := beginsOperand_of_isName hn
  refine ⟨t ++ "." ++ n, by rw [core, hcore, ← hshown]; rfl, ?_⟩
  rw [words, String.append_assoc]
  refine hprints.append ?_ fun next _ => ?_
  · intro next hnext
    have hpoint : (Word.op ".").Fits (n.toList ++ next) := by
      rw [hchars]
      exact fits_point hc hdigit (more ++ next)
    rw [String.toList_append]
    exact .op hpoint (falls_name hn hnext)
  · rintro c hc
    rw [String.toList_append, List.append_assoc] at hc
    obtain rfl : '.' = c := Option.some.inj hc
    exact .inr ⟨rfl, Nat.le_refl 15, hnumber⟩

/-! ### Lines -/

/-- The elements of a tuple are rendered on their own. -/
def PartsRender (f : Syntax.Expr) : Prop :=
  ∀ es d, f = .tuple es d → ∀ e ∈ es, e.IsFormula ∧ Renders e

/-- In the place of a statement a formula is rendered as a text that falls into the words of a
line. -/
lemma Renders.exists_statementPlace (hf : f.IsFormula) (h : Renders f)
    (hparts : PartsRender f) :
    ∃ t, statementPlace f = .ok (.text t) ∧ Prints False t (lineWords f) := by
  by_cases htuple : IsFilledTuple f
  · obtain ⟨e, es, d, rfl⟩ := htuple
    have heach := hparts _ _ rfl
    obtain ⟨ds, t, hoperands, hitems, hprints⟩ := exists_tupleItems (fun e he => (heach e he).1)
      (fun e he => (heach e he).2) (List.cons_ne_nil e es)
    refine ⟨t, ?_, hprints⟩
    rw [statementPlace, hoperands]
    dsimp only [bind, Except.bind]
    rw [hitems]
    rfl
  · obtain ⟨t, hcore, hprints⟩ := h
    have hstrong : ¬ strength f < anyStrength := by
      have hpos := strength_nonneg hf
      unfold anyStrength
      omega
    refine ⟨t, ?_, ?_⟩
    · rw [statementPlace_of_not htuple, hcore]
      dsimp only [bind, Except.bind]
      rw [enclose, if_neg hstrong]
      rfl
    · rw [lineWords_of_not htuple]
      exact hprints.mono False.elim

/-- An index is rendered as a line. -/
lemma renders_subscript (he : e.IsFormula) (hf : f.IsFormula) (ih : Renders e)
    (ihf : Renders f) (hparts : PartsRender f) : Renders (.subscript e f i) := by
  rw [Renders, words_subscript]
  by_cases htuple : IsFilledTuple f
  · obtain ⟨x, xs, d', rfl⟩ := htuple
    have heach := hparts _ _ rfl
    obtain ⟨ds, t, hoperands, hitems, hprints⟩ := exists_tupleItems (fun e he => (heach e he).1)
      (fun e he => (heach e he).2) (List.cons_ne_nil x xs)
    obtain ⟨d, s, hcore, hshown, hprints'⟩ :=
      ih.trailed he (a := "[") (b := "]") (by decide) (by decide) hprints.falls
    refine ⟨s ++ "[" ++ t ++ "]", ?_, hprints'⟩
    rw [core, hoperands]
    dsimp only [bind, Except.bind]
    rw [hitems, hcore]
    dsimp only
    rw [hshown]
    rfl
  · obtain ⟨d', t, hcoref, hplace, hprints⟩ := ihf.operand hf 0
    have hshownf : (enclose f lambdaStrength d').display = t := congrArg Datum.display hplace
    obtain ⟨d, s, hcore, hshown, hprints'⟩ :=
      ih.trailed he (a := "[") (b := "]") (by decide) (by decide) hprints.falls
    rw [placed_zero] at hprints'
    refine ⟨s ++ "[" ++ t ++ "]", ?_, ?_⟩
    · rw [core_subscript_of_not htuple, hcoref, hcore]
      dsimp only [bind, Except.bind]
      rw [hshown, hshownf]
      rfl
    · rw [lineWords_of_not htuple]
      exact hprints'

/-- A formula is rendered as a text that falls into its words. -/
theorem renders (he : e.IsFormula) :
    Renders e ∧ PartsRender e := by
  induction he with
  | identifier hn => exact ⟨renders_identifier hn.isName, by rintro _ _ ⟨⟩⟩
  | number hn _ => exact ⟨renders_number hn, by rintro _ _ ⟨⟩⟩
  | binary hl hr ihl ihr => exact ⟨renders_binary hl hr ihl.1 ihr.1 _, by rintro _ _ ⟨⟩⟩
  | unary he ih => exact ⟨renders_unary he ih.1 _, by rintro _ _ ⟨⟩⟩
  | boolOp hseveral hes ih =>
    exact ⟨renders_boolOp hes (fun e he => (ih e he).1) hseveral _, by rintro _ _ ⟨⟩⟩
  | compare hops heach hl hes ihl ih =>
    exact ⟨renders_compare hl hes ihl.1 (fun e he => (ih e he).1) hops heach, by rintro _ _ ⟨⟩⟩
  | conditional ht hb he iht ihb ihe =>
    exact ⟨renders_conditional ht hb he iht.1 ihb.1 ihe.1, by rintro _ _ ⟨⟩⟩
  | lambda hps he ih => exact ⟨renders_lambda hps he ih.1, by rintro _ _ ⟨⟩⟩
  | await he ih => exact ⟨renders_await he ih.1, by rintro _ _ ⟨⟩⟩
  | tuple hes ih =>
    refine ⟨renders_tuple hes fun e he => (ih e he).1, ?_⟩
    rintro _ _ ⟨⟩ e he
    exact ⟨hes e he, (ih e he).1⟩
  | list hes ih => exact ⟨renders_list hes fun e he => (ih e he).1, by rintro _ _ ⟨⟩⟩
  | call hf hes ihf ih =>
    exact ⟨renders_call hf hes ihf.1 fun e he => (ih e he).1, by rintro _ _ ⟨⟩⟩
  | attributed hnumber he hn ih =>
    exact ⟨renders_attribute hnumber he ih.1 hn.isName, by rintro _ _ ⟨⟩⟩
  | subscript he hf ihe ihf => exact ⟨renders_subscript he hf ihe.1 ihf.1 ihf.2, by rintro _ _ ⟨⟩⟩

/-- In the place of a statement a formula is rendered as a text that falls into the words of a
line. -/
theorem exists_statementPlace (he : e.IsFormula) :
    ∃ t, statementPlace e = .ok (.text t) ∧ Prints False t (lineWords e) :=
  have h := renders he
  h.1.exists_statementPlace he h.2

end BlockText.Source

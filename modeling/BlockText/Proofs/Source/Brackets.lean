import BlockText.Proofs.Source.Formulas

/-!
# Brackets of formulas

Every bracket in the words of a formula is closed by one that matches it, and a text has as many
brackets open at once as the words that it falls into.
-/

namespace BlockText.Source

open Syntax

variable {e : Syntax.Expr} {es : List Syntax.Expr} {w : Word}
  {ws : List Word} {wss : List (List Word)} {o : String} {c : Char} {cs as next : List Char} {n : ℕ}

/-! ## Characters -/

/-- The character is a bracket. -/
def isBracket (c : Char) : Bool := (closerOf? c).isSome || isCloser c

/-- The number of open brackets after a character. -/
def openAfter (n : ℕ) (c : Char) : ℕ :=
  if (closerOf? c).isSome then n + 1 else if isCloser c then n - 1 else n

/-- The most brackets of a text that are open at once, with some open in front of it. -/
def mostOpen (n : ℕ) : List Char → ℕ
  | [] => n
  | c :: cs => max n (mostOpen (openAfter n c) cs)

/-- How a character changes the nesting of brackets. -/
def turn (c : Char) : ℤ := if (closerOf? c).isSome then 1 else if isCloser c then -1 else 0

/-- How a text changes the nesting of brackets. -/
def net (cs : List Char) : ℤ := (cs.map turn).sum

/-- What is no bracket neither opens nor closes. -/
lemma isBracket_eq_false (h : isBracket c = false) :
    (closerOf? c).isSome = false ∧ isCloser c = false :=
  Bool.or_eq_false_iff.mp h

/-- At least the brackets that are open at the front are open at once. -/
lemma le_mostOpen (n : ℕ) (cs : List Char) : n ≤ mostOpen n cs := by
  cases cs with
  | nil => exact Nat.le_refl n
  | cons c cs => exact Nat.le_max_left n _

/-- Characters that are no brackets open none. -/
lemma mostOpen_append (h : ∀ c ∈ as, isBracket c = false) (n : ℕ) (cs : List Char) :
    mostOpen n (as ++ cs) = mostOpen n cs := by
  induction as with
  | nil => rfl
  | cons c as ih =>
    obtain ⟨hopen, hclose⟩ := isBracket_eq_false (h c List.mem_cons_self)
    have hafter : openAfter n c = n := by simp [openAfter, hopen, hclose]
    rw [List.cons_append, mostOpen, hafter, ih fun d hd => h d (List.mem_cons_of_mem _ hd)]
    exact Nat.max_eq_right (le_mostOpen n cs)

/-- The balance of a text is that of its parts. -/
lemma net_append (as cs : List Char) : net (as ++ cs) = net as + net cs := by
  simp [net]

/-- The balance of a text is that of its first character and of the rest. -/
lemma net_cons (c : Char) (cs : List Char) : net (c :: cs) = turn c + net cs := by
  simp [net]

/-- A character that is no bracket leaves the balance. -/
lemma turn_eq_zero (h : isBracket c = false) : turn c = 0 := by
  obtain ⟨hopen, hclose⟩ := isBracket_eq_false h
  simp [turn, hopen, hclose]

/-- A text without brackets is balanced. -/
lemma net_eq_zero (h : ∀ c ∈ cs, isBracket c = false) : net cs = 0 := by
  induction cs with
  | nil => rfl
  | cons c cs ih =>
    rw [net_cons, turn_eq_zero (h c List.mem_cons_self),
      ih fun d hd => h d (List.mem_cons_of_mem _ hd), Int.add_zero]

/-! ## Words -/

/-- What holds of no bracket holds of characters that are none. -/
lemma isBracket_of_forall {p : Char → Bool} (hp : "()[]\x7b\x7d".toList.any p = false)
    (h : p c = true) : isBracket c = false := by
  rw [Bool.eq_false_iff]
  intro hbracket
  have hmem : c ∈ "()[]\x7b\x7d".toList := by
    simp only [isBracket, isCloser, Bool.or_eq_true, beq_iff_eq] at hbracket
    rcases hbracket with hopen | (rfl | rfl) | rfl
    · unfold closerOf? at hopen
      split at hopen <;> first | decide | cases hopen
    all_goals decide
  exact absurd h (by simpa using List.any_eq_false.mp hp c hmem)

/-- No bracket stands in a name. -/
lemma isBracket_of_continuesName (h : continuesName c = true) : isBracket c = false :=
  isBracket_of_forall (by decide) h

/-- The characters of names and numbers continue names. -/
lemma Word.Spoken.continuesName (h : w.Spoken) (hkind : w.kind ≠ .operator) :
    ∀ c ∈ w.chars, Source.continuesName c = true := by
  rcases h with ⟨-, hname⟩ | ⟨-, hdecimal⟩ | ⟨hop, -⟩
  · intro c hc
    unfold Word.chars at hc
    cases hchars : w.text.toList with
    | nil =>
      rw [hchars] at hc
      cases hc
    | cons d more =>
      rw [hchars] at hc hname
      rw [isName, Bool.and_eq_true, List.all_eq_true] at hname
      rcases List.mem_cons.mp hc with rfl | hc
      · rw [Source.continuesName, startsName_of_isIdentifierStart hname.1, Bool.true_or]
      · exact continuesName_of_isIdentifierPart (hname.2 c hc)
  · intro c hc
    rw [isDecimal, Bool.and_eq_true] at hdecimal
    rcases isDigit_or_of_isDigits hdecimal.1 c hc with hdigit | rfl
    · exact continuesName_of_isDigit hdigit
    · rfl
  · exact absurd hop hkind

/-- A spoken operator is one of formulas. -/
lemma Word.Spoken.mem_formulaOperators (h : w.Spoken) (hkind : w.kind = .operator) :
    w.text ∈ formulaOperators := by
  rcases h with ⟨hname, -⟩ | ⟨hnumber, -⟩ | ⟨-, hmem⟩
  · rw [hkind] at hname
    cases hname
  · rw [hkind] at hnumber
    cases hnumber
  · exact hmem

/-- A word has no brackets in it, or it is an operator of one character. -/
lemma Word.Spoken.plain_or_single (h : w.Spoken) :
    (∀ c ∈ w.chars, isBracket c = false) ∨ w.kind = .operator ∧ ∃ c, w.chars = [c] := by
  by_cases hkind : w.kind = .operator
  · have hoperators : ∀ o ∈ formulaOperators,
        o.toList.any isBracket = false ∨ o.toList.length = 1 := by decide
    exact (hoperators w.text (h.mem_formulaOperators hkind)).imp (by simp [Word.chars]) fun hlength =>
      ⟨hkind, List.length_eq_one_iff.mp hlength⟩
  · exact .inl fun c hc => isBracket_of_continuesName (h.continuesName hkind c hc)

/-- A word without brackets is plain. -/
lemma Word.isPlain_of_chars (h : ∀ c ∈ w.chars, isBracket c = false) : w.IsPlain := by
  intro c _ hchars
  obtain ⟨hopen, hclose⟩ := isBracket_eq_false (h c (by simp [hchars]))
  exact ⟨by simpa using hopen, hclose⟩

/-- A text in front of another has as many brackets open at once as its words. -/
lemma Lexes.mostOpen_eq (h : Lexes next cs ws) (hspoken : ∀ w ∈ ws, w.Spoken) (n : ℕ) :
    mostOpen n cs = Word.peak n ws := by
  induction h generalizing n with
  | nil => rfl
  | @space cs ws _ ih =>
    have hspace : openAfter n ' ' = n := rfl
    rw [mostOpen, hspace, ih hspoken]
    exact Nat.max_eq_right (Word.le_peak n ws)
  | @word w cs ws fits _ ih =>
    have hrest := ih fun v hv => hspoken v (List.mem_cons_of_mem _ hv)
    rw [Word.peak]
    rcases (hspoken w List.mem_cons_self).plain_or_single with hplain | ⟨hkind, c, hchars⟩
    · rw [mostOpen_append hplain, (Word.isPlain_of_chars hplain).levelAfter, hrest]
      exact (Nat.max_eq_right (Word.le_peak n ws)).symm
    · have hlevel : w.levelAfter n = openAfter n c := by
        rw [Word.levelAfter, hkind, hchars]
        rfl
      rw [hchars, List.singleton_append, mostOpen, hlevel, hrest]

/-- How a word changes the nesting of brackets. -/
lemma Lexes.net_eq (h : Lexes next cs ws) : net cs = (ws.map fun w => net w.chars).sum := by
  induction h with
  | nil => rfl
  | space _ ih =>
    rw [net_cons, ih]
    exact Int.zero_add _
  | word _ _ ih => rw [net_append, List.map_cons, List.sum_cons, ih]

/-- Brackets that match cancel. -/
lemma Word.Balanced.net_eq_zero (h : Balanced ws) (hspoken : ∀ w ∈ ws, w.Spoken) :
    (ws.map fun w => net w.chars).sum = 0 := by
  induction h with
  | nil => rfl
  | @plain w ws isPlain _ ih =>
    have hword : net w.chars = 0 := by
      rcases (hspoken w List.mem_cons_self).plain_or_single with hplain | ⟨hkind, c, hchars⟩
      · exact Source.net_eq_zero hplain
      · obtain ⟨hopen, hclose⟩ := isPlain c hkind hchars
        rw [hchars]
        exact Source.net_eq_zero (by simp [isBracket, hopen, hclose])
    rw [List.map_cons, List.sum_cons, hword, ih fun v hv => hspoken v (List.mem_cons_of_mem _ hv),
      Int.add_zero]
  | @group o c inner ws closes _ _ ihInside ih =>
    have hinner := ihInside fun v hv => hspoken v (by simp [hv])
    have hrest := ih fun v hv => hspoken v (by simp [hv])
    obtain ⟨hopen, hclose⟩ := closerOf?_eq_some closes
    have hopens : net (op (String.singleton o)).chars = 1 := by
      simp [Word.chars, net, turn, closes]
    have hcloses : net (op (String.singleton c)).chars = -1 := by
      simp [Word.chars, net, turn, hopen, hclose]
    simp only [List.map_append, List.map_cons, List.sum_append, List.sum_cons, hinner, hrest, hopens,
      hcloses]
    decide

/-! ## Formulas -/

open Word

/-- A name is plain. -/
lemma isPlain_name (n : String) : (Word.name n).IsPlain := fun _ hkind => by cases hkind

/-- A word in which no bracket is found is plain. -/
lemma isPlain_of_any (h : w.chars.any isBracket = false) : w.IsPlain :=
  isPlain_of_chars (by simpa using h)

/-- Plain words are balanced. -/
lemma balanced_of_plain (h : ∀ w ∈ ws, w.IsPlain) : Balanced ws := by
  induction ws with
  | nil => exact .nil
  | cons w ws ih =>
    exact .plain (h w List.mem_cons_self) (ih fun v hv => h v (List.mem_cons_of_mem _ hv))

/-- Balanced words stay so in parentheses. -/
lemma Word.Balanced.parenthesized (h : Balanced ws) : Balanced (.op "(" :: ws ++ [.op ")"]) :=
  .group (o := '(') (c := ')') rfl h .nil

/-- Balanced words stay so in brackets. -/
lemma Word.Balanced.bracketed (h : Balanced ws) : Balanced (.op "[" :: ws ++ [.op "]"]) :=
  .group (o := '[') (c := ']') rfl h .nil

/-- Balanced words stay so in their place. -/
lemma Word.Balanced.placed (h : Balanced ws) (e : Syntax.Expr) (required : ℕ) :
    Balanced (placed e required ws) := by
  unfold Source.placed
  split
  · exact h.parenthesized
  · exact h

/-- Balanced words stay so with a plain word between them. -/
lemma balanced_joinWords (hw : w.IsPlain) (h : ∀ ws ∈ wss, Balanced ws) :
    Balanced (joinWords w wss) := by
  cases wss with
  | nil => exact .nil
  | cons ws rest =>
    refine (h ws List.mem_cons_self).append ?_
    have hrest : ∀ vs ∈ rest, Balanced vs := fun vs hvs => h vs (List.mem_cons_of_mem _ hvs)
    clear h
    induction rest with
    | nil => exact .nil
    | cons vs rest ih =>
      rw [List.flatMap_cons]
      exact (Balanced.plain hw (hrest vs List.mem_cons_self)).append
        (ih fun us hus => hrest us (List.mem_cons_of_mem _ hus))

/-- A comma is plain. -/
lemma isPlain_comma : (Word.op ",").IsPlain := isPlain_of_any (by decide)

/-- The words of a tuple are balanced if those of its elements are. -/
lemma balanced_tupleWords (h : ∀ ws ∈ wss, Balanced ws) : Balanced (tupleWords wss) := by
  unfold tupleWords
  split
  · exact (h _ List.mem_cons_self).append (.plain isPlain_comma .nil)
  · exact balanced_joinWords isPlain_comma h

/-- The words of operands are balanced in their places. -/
lemma balanced_wordsEach (h : ∀ e ∈ es, Balanced (words e)) (required : ℕ) :
    ∀ ws ∈ wordsEach required es, Balanced ws := by
  rw [wordsEach_eq_map]
  intro ws hws
  obtain ⟨e, he, rfl⟩ := List.mem_map.mp hws
  exact (h e he).placed e required

/-- Comparison operators are plain. -/
lemma isPlain_compareWords (op : CompareOp) : ∀ w ∈ compareWords op, w.IsPlain := by
  have hchars : (compareWords op).all (fun w => !w.chars.any isBracket) = true := by
    cases op <;> decide
  intro w hw
  have hword := List.all_eq_true.mp hchars w hw
  exact isPlain_of_any (by simpa using hword)

/-- The words behind a first operand are balanced if those of the other operands are. -/
lemma balanced_comparedWords (h : ∀ e ∈ es, Balanced (words e)) (ops : List CompareOp) :
    Balanced (comparedWords ops es) := by
  induction es generalizing ops with
  | nil => cases ops <;> simp only [comparedWords] <;> exact .nil
  | cons e es ih =>
    cases ops with
    | nil => exact .nil
    | cons op ops =>
      rw [comparedWords]
      exact ((balanced_of_plain (isPlain_compareWords op)).append
        ((h e List.mem_cons_self).placed e 6)).append
        (ih (fun e' he' => h e' (List.mem_cons_of_mem _ he')) ops)

/-- The brackets of a formula match, with the parentheses of a tuple and without. -/
theorem balanced_words (he : e.IsFormula) :
    Balanced (words e) ∧ Balanced (lineWords e) := by
  -- only a tuple has other words on a line
  have hsame : ∀ {e : Syntax.Expr}, ¬ Render.IsFilledTuple e → Balanced (words e) →
      Balanced (words e) ∧ Balanced (lineWords e) := fun htuple h =>
    ⟨h, by rwa [lineWords_of_not htuple]⟩
  have hword : ∀ n, Balanced [.name n] := fun n => .plain (isPlain_name n) .nil
  induction he with
  | identifier =>
    refine hsame (by simp [Render.IsFilledTuple]) ?_
    rw [words]
    exact hword _
  | number =>
    refine hsame (by simp [Render.IsFilledTuple]) ?_
    rw [words]
    exact .plain (fun _ hkind => by cases hkind) .nil
  | @binary l r op _ _ _ ihl ihr =>
    refine hsame (by simp [Render.IsFilledTuple]) ?_
    have hsign : (Word.op (Choice.spelling op)).IsPlain :=
      isPlain_of_any (by cases op <;> decide)
    rw [words]
    exact (ihl.1.placed l _).append (.plain hsign (ihr.1.placed r _))
  | @unary e op _ _ ih =>
    refine hsame (by simp [Render.IsFilledTuple]) ?_
    have hsign : (unaryWord op).IsPlain := isPlain_of_any (by cases op <;> decide)
    rw [words]
    exact .plain hsign (ih.1.placed e _)
  | @boolOp op es _ _ _ ih =>
    refine hsame (by simp [Render.IsFilledTuple]) ?_
    rw [words]
    exact balanced_joinWords (isPlain_name _) (balanced_wordsEach (fun e he => (ih e he).1) _)
  | @compare l ops es _ _ _ _ _ ihl ih =>
    refine hsame (by simp [Render.IsFilledTuple]) ?_
    rw [words]
    exact (ihl.1.placed l 6).append (balanced_comparedWords (fun e he => (ih e he).1) ops)
  | @conditional t b e _ _ _ _ iht ihb ihe =>
    refine hsame (by simp [Render.IsFilledTuple]) ?_
    rw [words]
    exact ((ihb.1.placed b 2).append (.plain (isPlain_name _) (iht.1.placed t 2))).append
      (.plain (isPlain_name _) (ihe.1.placed e 1))
  | @lambda ps e _ _ _ ih =>
    refine hsame (by simp [Render.IsFilledTuple]) ?_
    have hparams : ∀ ws ∈ ps.map paramWords, Balanced ws := by
      intro ws hws
      obtain ⟨p, -, rfl⟩ := List.mem_map.mp hws
      unfold paramWords
      split
      · exact hword _
      · exact .nil
    rw [words]
    exact (Balanced.plain (isPlain_name _) (balanced_joinWords isPlain_comma hparams)).append
      (.plain (isPlain_of_any (by decide)) ih.1)
  | @await e _ _ ih =>
    refine hsame (by simp [Render.IsFilledTuple]) ?_
    rw [words]
    exact .plain (isPlain_name _) (ih.1.placed e 15)
  | @tuple es _ _ ih =>
    have hitems := balanced_tupleWords (balanced_wordsEach (fun e he => (ih e he).1) 0)
    constructor
    · rw [words]
      exact hitems.parenthesized
    · unfold lineWords
      cases es with
      | nil => exact Balanced.parenthesized .nil
      | cons => exact hitems
  | list _ ih =>
    refine hsame (by simp [Render.IsFilledTuple]) ?_
    rw [words]
    exact (balanced_joinWords isPlain_comma
      (balanced_wordsEach (fun e he => (ih e he).1) 0)).bracketed
  | @call f es _ _ _ ihf ih =>
    refine hsame (by simp [Render.IsFilledTuple]) ?_
    rw [words, List.append_assoc]
    exact (ihf.1.placed f 15).append (balanced_joinWords isPlain_comma
      (balanced_wordsEach (fun e he => (ih e he).1) 0)).parenthesized
  | @attributed e n _ _ _ _ ih =>
    refine hsame (by simp [Render.IsFilledTuple]) ?_
    rw [words]
    exact (ih.1.placed e 15).append (.plain (isPlain_of_any (by decide)) (hword n))
  | @subscript e index _ _ _ ihe ih =>
    refine hsame (by simp [Render.IsFilledTuple]) ?_
    rw [words_subscript, List.append_assoc]
    exact (ihe.1.placed e 15).append ih.2.bracketed

end BlockText.Source

import BlockText.Proofs.Source.Taking
import BlockText.Source.Lexer

/-!
# Words

A word is what a token says, wherever it stands.  A text falls into words if each of them is the
first lexeme of the text from its start on and only spaces stand between them; then the lexer makes
a token of every word, as long as no more brackets are open at once than it allows.
-/

namespace BlockText.Source

/-- What a token says. -/
structure Word where
  kind : TokenKind
  text : String

namespace Word

/-- An operator. -/
abbrev op (o : String) : Word := ⟨.operator, o⟩

/-- A name. -/
abbrev name (n : String) : Word := ⟨.name, n⟩

/-- A number. -/
abbrev number (n : String) : Word := ⟨.number, n⟩

/-- The characters of a word. -/
def chars (w : Word) : List Char := w.text.toList

/-- The word is the first lexeme in front of a text, and none of its blanks or comments. -/
structure Fits (w : Word) (next : List Char) : Prop where
  lexeme_eq : lexeme (w.chars ++ next) = some (w.kind, w.chars, next)
  begins : ∃ c rest, w.chars = c :: rest ∧ isSpacing c = false ∧ c ∉ ['\n', '\\', '#']

/-- The open brackets after a word, innermost first; `none` if a bracket matches none or is one too
many. -/
def nest (stack : List Char) (w : Word) : Option (List Char) :=
  match w.kind, w.chars with
  | .operator, [c] =>
    if (closerOf? c).isSome then
      if stack.length ≥ maxBrackets then none else some (c :: stack)
    else if isCloser c then
      match stack with
      | o :: outer => if closerOf? o == some c then some outer else none
      | [] => none
    else some stack
  | _, _ => some stack

/-- The number of open brackets after a word. -/
def levelAfter (w : Word) (n : ℕ) : ℕ :=
  match w.kind, w.chars with
  | .operator, [c] => if (closerOf? c).isSome then n + 1 else if isCloser c then n - 1 else n
  | _, _ => n

/-- The most brackets that are open at once. -/
def peak : ℕ → List Word → ℕ
  | n, [] => n
  | n, w :: ws => max n (peak (w.levelAfter n) ws)

/-- The word is no bracket. -/
def IsPlain (w : Word) : Prop :=
  ∀ c, w.kind = .operator → w.chars = [c] → closerOf? c = none ∧ isCloser c = false

/-- Every bracket is closed by one that matches it. -/
inductive Balanced : List Word → Prop
  | nil : Balanced []
  | plain {w : Word} {ws : List Word} (isPlain : w.IsPlain) (rest : Balanced ws) :
    Balanced (w :: ws)
  | group {o c : Char} {inner ws : List Word} (closes : closerOf? o = some c)
    (inside : Balanced inner) (rest : Balanced ws) :
    Balanced (op (String.singleton o) :: inner ++ op (String.singleton c) :: ws)

/-- Balanced words one after the other are balanced. -/
lemma Balanced.append {us vs : List Word} (h : Balanced us) (h' : Balanced vs) :
    Balanced (us ++ vs) := by
  induction h with
  | nil => exact h'
  | plain isPlain _ ih => exact .plain isPlain ih
  | group closes inside _ _ ih => simpa using Balanced.group closes inside ih

/-- A plain word opens and closes no bracket. -/
lemma IsPlain.nest {w : Word} (h : w.IsPlain) (stack : List Char) : w.nest stack = some stack := by
  unfold Word.nest
  split
  · next c hkind hchars =>
    obtain ⟨hopen, hclose⟩ := h c hkind hchars
    simp [hopen, hclose]
  · rfl

/-- A plain word leaves the level as it is. -/
lemma IsPlain.levelAfter {w : Word} (h : w.IsPlain) (n : ℕ) : w.levelAfter n = n := by
  unfold Word.levelAfter
  split
  · next c hkind hchars =>
    obtain ⟨hopen, hclose⟩ := h c hkind hchars
    simp [hopen, hclose]
  · rfl

/-- An opening bracket and the one that closes it are no others. -/
lemma closerOf?_eq_some {o c : Char} (h : closerOf? o = some c) :
    closerOf? c = none ∧ isCloser c = true := by
  unfold closerOf? at h
  split at h <;> cases h <;> decide

/-- The peak is no lower than the level at the start. -/
lemma le_peak (n : ℕ) (ws : List Word) : n ≤ peak n ws := by
  cases ws with
  | nil => exact Nat.le_refl n
  | cons w ws => exact Nat.le_max_left n _

lemma peak_le_peak_append (n : ℕ) (us vs : List Word) : peak n us ≤ peak n (us ++ vs) := by
  induction us generalizing n with
  | nil => exact le_peak n vs
  | cons u us ih => exact max_le_max (Nat.le_refl n) (ih (u.levelAfter n))

/-- Words whose brackets match leave the open brackets as they were. -/
lemma Balanced.foldlM_nest {ws : List Word} (h : Balanced ws) (stack : List Char)
    (rest : List Word) (hpeak : peak stack.length (ws ++ rest) ≤ maxBrackets) :
    (ws ++ rest).foldlM nest stack = rest.foldlM nest stack ∧
      peak stack.length rest ≤ maxBrackets := by
  induction h generalizing stack rest with
  | nil => exact ⟨rfl, hpeak⟩
  | plain isPlain _ ih =>
    rw [List.cons_append, peak, isPlain.levelAfter] at hpeak
    rw [List.cons_append, List.foldlM_cons, isPlain.nest]
    exact ih stack rest (Nat.le_trans (Nat.le_max_right _ _) hpeak)
  | @group o c inner ws closes inside _ ihInside ih =>
    obtain ⟨hopens, hcloser⟩ := closerOf?_eq_some closes
    have hlevel : (op (String.singleton o)).levelAfter stack.length = (o :: stack).length := by
      simp [levelAfter, chars, closes]
    rw [List.append_assoc, List.cons_append, peak, hlevel] at hpeak
    have hinner := Nat.le_trans (Nat.le_max_right _ _) hpeak
    have hlt : stack.length < maxBrackets :=
      Nat.lt_of_succ_le (Nat.le_trans (le_peak _ _) hinner)
    have hnest : (op (String.singleton o)).nest stack = some (o :: stack) := by
      simp [nest, chars, closes, hlt]
    have hback : (op (String.singleton c)).nest (o :: stack) = some stack := by
      simp [nest, chars, hopens, hcloser, closes]
    obtain ⟨hfold, hpeak'⟩ := ihInside (o :: stack) _ hinner
    rw [List.cons_append, peak] at hpeak'
    have hclosed : (op (String.singleton c)).levelAfter (o :: stack).length = stack.length := by
      simp [levelAfter, chars, hopens, hcloser]
    rw [hclosed] at hpeak'
    obtain ⟨hrest, hpeakRest⟩ := ih stack rest (Nat.le_trans (Nat.le_max_right _ _) hpeak')
    refine ⟨?_, hpeakRest⟩
    rw [List.append_assoc, List.cons_append, List.foldlM_cons, hnest]
    refine hfold.trans ?_
    rw [List.cons_append, List.foldlM_cons, hback]
    exact hrest

end Word

/-! ## Texts in words -/

/-- A text in front of another falls into words with spaces between them. -/
inductive Lexes (next : List Char) : List Char → List Word → Prop
  | nil : Lexes next [] []
  | space {cs : List Char} {ws : List Word} (rest : Lexes next cs ws) : Lexes next (' ' :: cs) ws
  | word {w : Word} {cs : List Char} {ws : List Word} (fits : w.Fits (cs ++ next))
    (rest : Lexes next cs ws) : Lexes next (w.chars ++ cs) (w :: ws)

/-- Texts that lex one before the other lex together. -/
lemma Lexes.append {next as bs : List Char} {us vs : List Word} (h : Lexes (bs ++ next) as us)
    (h' : Lexes next bs vs) : Lexes next (as ++ bs) (us ++ vs) := by
  induction h with
  | nil => exact h'
  | space _ ih => exact .space ih
  | @word w cs ws fits _ ih =>
    rw [List.append_assoc]
    refine .word ?_ ih
    rwa [List.append_assoc]

/-- The characters of a word lex as this word where it fits. -/
lemma Lexes.single {next : List Char} {w : Word} (h : w.Fits next) :
    Lexes next w.chars [w] := by
  have hword : Lexes next (w.chars ++ []) [w] := .word h .nil
  rwa [List.append_nil] at hword

/-! ## Tokens in streams -/

/-- The token says the word. -/
def Token.Says (t : Token) (w : Word) : Prop := t.kind = w.kind ∧ t.text = w.text

/-- The words stand in a stream from a position on. -/
def TokenStream.Shows (s : TokenStream) : ℕ → List Word → Prop
  | _, [] => True
  | i, w :: ws => (∃ t, s.tokens[i]? = some t ∧ t.Says w) ∧ s.Shows (i + 1) ws

namespace TokenStream

variable {s : TokenStream} {i : ℕ} {us vs : List Word} {w : Word}

@[simp] lemma shows_nil : s.Shows i [] := trivial

lemma shows_cons : s.Shows i (w :: vs) ↔
    (∃ t, s.tokens[i]? = some t ∧ t.Says w) ∧ s.Shows (i + 1) vs := .rfl

/-- A stream shows two lists of words when it shows the first and, after it, the second. -/
lemma shows_append : s.Shows i (us ++ vs) ↔ s.Shows i us ∧ s.Shows (i + us.length) vs := by
  induction us generalizing i with
  | nil => simp
  | cons u us ih =>
    rw [List.cons_append, shows_cons, shows_cons, ih, List.length_cons, and_assoc,
      Nat.add_comm us.length 1, Nat.add_assoc]

end TokenStream

/-- The token stands in a text at its marks. -/
def Token.StandsIn (t : Token) (start : Mark) (cs : List Char) : Prop :=
  ∃ before after, cs = before ++ t.text.toList ++ after ∧ t.start = start.advance before ∧
    t.stop = start.advance (before ++ t.text.toList)

/-! ## The lexer on words -/

/-- A mark advances over two texts one after the other. -/
lemma Mark.advance_append (m : Mark) (as bs : List Char) :
    m.advance (as ++ bs) = (m.advance as).advance bs := List.foldl_append

/-- A space between tokens is skipped. -/
lemma lexLoop_space {fuel : ℕ} {st : LexState} {rest : List Char} (h : st.rest = ' ' :: rest) :
    lexLoop (fuel + 1) false st = lexLoop (fuel + 1) false (st.skip [' '] rest) := by
  have hblank : isSpacing ' ' = true := rfl
  simp only [lexLoop, LexState.skip, h, List.takeWhile_cons_of_pos hblank, List.length_cons,
    List.drop_succ_cons]
  rfl

/-- The state after a word. -/
def LexState.after (st : LexState) (w : Word) (rest : List Char) (brackets : List (Char × ℕ)) :
    LexState :=
  { st with
    rest, brackets
    mark := st.mark.advance w.chars
    tokens := st.tokens.push
      ⟨w.kind, w.text, st.mark, st.mark.advance w.chars, brackets.length⟩ }

/-- The lexer takes a word at which the brackets match. -/
lemma exists_addToken {st : LexState} {w : Word} {stack : List Char} (rest : List Char)
    (h : w.nest (st.brackets.map (·.1)) = some stack) :
    ∃ brackets, addToken st w.kind w.chars rest = some (st.after w rest brackets) ∧
      brackets.map (·.1) = stack := by
  have htext : String.ofList w.chars = w.text := String.ofList_toList
  unfold Word.nest at h
  unfold addToken LexState.after
  rw [htext]
  generalize w.kind = kind at h ⊢
  generalize w.chars = cs at h ⊢
  cases kind with
  | operator =>
    rcases cs with _ | ⟨c, _ | ⟨d, more⟩⟩
    · exact ⟨_, rfl, Option.some.inj h⟩
    · dsimp only at h ⊢
      by_cases hopen : (closerOf? c).isSome = true
      · rw [if_pos hopen] at h ⊢
        rw [List.length_map] at h
        by_cases hdeep : st.brackets.length ≥ maxBrackets
        · rw [if_pos hdeep] at h
          cases h
        · rw [if_neg hdeep] at h ⊢
          exact ⟨_, rfl, Option.some.inj h⟩
      · rw [if_neg hopen] at h ⊢
        by_cases hclose : isCloser c = true
        · rw [if_pos hclose] at h ⊢
          cases hbrackets : st.brackets with
          | nil =>
            rw [hbrackets] at h
            cases h
          | cons o outer =>
            rw [hbrackets, List.map_cons] at h
            dsimp only at h ⊢
            by_cases hmatch : (closerOf? o.1 == some c) = true
            · rw [if_pos hmatch] at h ⊢
              exact ⟨_, rfl, Option.some.inj h⟩
            · rw [if_neg hmatch] at h
              cases h
        · rw [if_neg hclose] at h ⊢
          exact ⟨_, rfl, Option.some.inj h⟩
    · exact ⟨_, rfl, Option.some.inj h⟩
  | _ => exact ⟨_, rfl, Option.some.inj h⟩

/-- At a word the lexer goes on behind it, or fails at a bracket. -/
lemma lexLoop_word {fuel : ℕ} {st : LexState} {w : Word} {rest : List Char}
    (h : st.rest = w.chars ++ rest) (hw : w.Fits rest) :
    lexLoop (fuel + 1) false st =
      (addToken st w.kind w.chars rest).elim (st.fail st.mark.line true) (lexLoop fuel false) := by
  obtain ⟨c, more, hchars, hspace, hc⟩ := hw.begins
  have hlexeme := hw.lexeme_eq
  rw [hchars] at h hlexeme ⊢
  rw [List.cons_append] at h hlexeme
  simp only [List.mem_cons, List.not_mem_nil, or_false, not_or] at hc
  obtain ⟨hfeed, hslash, hhash⟩ := hc
  have hblanks : (c :: (more ++ rest)).takeWhile isSpacing = [] :=
    List.takeWhile_cons_of_neg (by simp [hspace])
  have hself : st.skip [] (c :: (more ++ rest)) = st := by
    rw [← h]
    rfl
  have hcomment : ((c :: (more ++ rest)).head? == some '#') = false := by simpa using hhash
  rw [lexLoop]
  simp only [h, hblanks, List.length_nil, List.drop_zero, hself, hcomment, Bool.false_eq_true,
    if_false]
  split
  · next heq => cases heq
  · next heq => exact absurd (List.cons.inj heq).1 hfeed
  · next heq => exact absurd (List.cons.inj heq).1 hslash
  · next heq => exact absurd (List.cons.inj heq).1 hslash
  · rw [hlexeme]
    dsimp only
    cases addToken st w.kind (c :: more) rest <;> rfl

/-- The lexer makes a token of every word. -/
lemma exists_lexLoop {next cs : List Char} {ws : List Word} (h : Lexes next cs ws)
    {stack : List Char} (fuel : ℕ) (st : LexState) (hrest : st.rest = cs ++ next)
    (hnest : ws.foldlM Word.nest (st.brackets.map (·.1)) = some stack) :
    ∃ st' ts, lexLoop (fuel + 1 + ws.length) false st = lexLoop (fuel + 1) false st' ∧
      st'.rest = next ∧ st'.indents = st.indents ∧ st'.brackets.map (·.1) = stack ∧
      st'.tokens.toList = st.tokens.toList ++ ts ∧ List.Forall₂ Token.Says ts ws ∧
      (∀ t ∈ ts, t.StandsIn st.mark cs) ∧
      (cs.head? ≠ some ' ' → ∀ t ∈ ts.head?, t.start = st.mark) := by
  induction h generalizing st with
  | nil =>
    exact ⟨st, [], rfl, hrest, rfl, Option.some.inj hnest, by simp, .nil, by simp, by simp⟩
  | @space cs ws _ ih =>
    obtain ⟨st', ts, hrun, hrest', hindents, hstack, htokens, hsays, hstands, -⟩ :=
      ih (st.skip [' '] (cs ++ next)) rfl hnest
    refine ⟨st', ts, ?_, hrest', hindents, hstack, htokens, hsays, fun t ht => ?_, by simp⟩
    · rw [← hrun, Nat.add_right_comm]
      exact lexLoop_space hrest
    · obtain ⟨before, after, rfl, hstart, hstop⟩ := hstands t ht
      exact ⟨' ' :: before, after, rfl, hstart, hstop⟩
  | @word w cs ws fits _ ih =>
    rw [List.append_assoc] at hrest
    rw [List.foldlM_cons] at hnest
    obtain ⟨inner, hinner, hnest⟩ := Option.bind_eq_some_iff.mp hnest
    obtain ⟨brackets, hadd, rfl⟩ := exists_addToken (cs ++ next) hinner
    obtain ⟨st', ts, hrun, hrest', hindents, hstack, htokens, hsays, hstands, -⟩ :=
      ih (st.after w (cs ++ next) brackets) rfl hnest
    refine ⟨st', ⟨w.kind, w.text, st.mark, st.mark.advance w.chars, brackets.length⟩ :: ts, ?_,
      hrest', hindents, hstack, ?_, .cons ⟨rfl, rfl⟩ hsays, fun t ht => ?_, by simp⟩
    · rw [← hrun, List.length_cons, ← Nat.add_assoc]
      rw [lexLoop_word hrest fits, hadd, Option.elim_some]
    · rw [htokens]
      simp [LexState.after]
    · rcases List.mem_cons.mp ht with rfl | ht
      · exact ⟨[], cs, rfl, rfl, rfl⟩
      · obtain ⟨before, after, rfl, hstart, hstop⟩ := hstands t ht
        refine ⟨w.chars ++ before, after, by simp, ?_, ?_⟩
        · rw [Mark.advance_append]
          exact hstart
        · rw [List.append_assoc, Mark.advance_append]
          exact hstop

/-- A text has at least as many characters as words. -/
lemma Lexes.length_le {next cs : List Char} {ws : List Word} (h : Lexes next cs ws) :
    ws.length ≤ cs.length := by
  induction h with
  | nil => exact Nat.le_refl 0
  | space _ ih => exact Nat.le_succ_of_le ih
  | @word w cs ws fits _ ih =>
    obtain ⟨c, more, hchars, -⟩ := fits.begins
    rw [hchars, List.length_cons, List.length_append, List.length_cons]
    omega

/-- A line that starts with code has no indentation. -/
lemma measure_of_code {c : Char} (rest : List Char) (hspace : isSpacing c = false)
    (hslash : c ≠ '\\') : measure 0 0 0 (c :: rest) = ⟨0, 0, [], c :: rest, false⟩ := by
  simp only [isSpacing, Bool.or_eq_false_iff, beq_eq_false_iff_ne, ne_eq] at hspace
  obtain ⟨⟨hblank, htab⟩, hfeed⟩ := hspace
  unfold measure
  split
  · next heq => exact absurd (List.cons.inj heq).1 hblank
  · next heq => exact absurd (List.cons.inj heq).1 htab
  · next heq => exact absurd (List.cons.inj heq).1 hfeed
  · next heq => exact absurd (List.cons.inj heq).1 hslash
  · next heq => exact absurd (List.cons.inj heq).1 hslash
  · rfl

/-- Code at the front of a text is read without indentation. -/
lemma lexLoop_code {fuel : ℕ} {st : LexState} {c : Char} {rest : List Char}
    (h : st.rest = c :: rest) (hspace : isSpacing c = false) (hc : c ∉ ['\n', '\\', '#'])
    (hindents : st.indents = []) (hbrackets : st.brackets = []) :
    lexLoop (fuel + 1) true st = lexLoop fuel false st := by
  simp only [List.mem_cons, List.not_mem_nil, or_false, not_or] at hc
  obtain ⟨hfeed, hslash, hhash⟩ := hc
  have hself : st.skip [] (c :: rest) = st := by
    rw [← h]
    rfl
  have hindent : indentTokens 0 0 st = some st := by simp [indentTokens, hindents]
  rw [lexLoop, h, measure_of_code rest hspace hslash]
  simp [hself, hfeed, hhash, hbrackets, hindent]

/-- The end of the last line. -/
lemma lexLoop_end (fuel : ℕ) {st : LexState} (h : st.rest = ['\n']) (hindents : st.indents = [])
    (hbrackets : st.brackets = []) :
    ∃ u v, (lexLoop (fuel + 2) false st).tokens = (st.tokens.push u).push v ∧
      u.kind = .newline ∧ v.kind = .endMarker := by
  have hblanks : ['\n'].takeWhile isSpacing = [] := rfl
  have hself : st.skip [] ['\n'] = st := by
    rw [← h]
    rfl
  rw [lexLoop]
  simp only [h, hblanks, List.length_nil, List.drop_zero, hself]
  rw [if_neg (by decide)]
  simp only [List.length_nil, List.drop_zero, hself, h, hbrackets]
  simp only [addToken, lexLoop, measure, lexEnd, LexState.skip, LexState.layout, hindents, hbrackets]
  exact ⟨_, _, rfl, rfl, rfl⟩

/-- The stream of a line of code: its words, the end of the line and the end of the text. -/
structure TokenStream.IsLine (s : TokenStream) (cs : List Char) (ws : List Word) : Prop where
  shows : s.Shows 0 ws
  ends : ∃ u, s.tokens[ws.length]? = some u ∧ u.kind = .newline
  stops : ∃ u, s.tokens[ws.length + 1]? = some u ∧ u.kind = .endMarker
  size_eq : s.tokens.size = ws.length + 2
  stands : ∀ i < ws.length, ∀ t, s.tokens[i]? = some t → t.StandsIn ⟨1, 0⟩ cs
  first : ws ≠ [] → ∀ t, s.tokens[0]? = some t → t.start = ⟨1, 0⟩

/-- A stream whose tokens say the words shows them. -/
lemma TokenStream.shows_of_forall₂ {s : TokenStream} (before : List Token)
    {ts after : List Token} {ws : List Word} (h : List.Forall₂ Token.Says ts ws)
    (htokens : s.tokens.toList = before ++ ts ++ after) : s.Shows before.length ws := by
  induction h generalizing before with
  | nil => exact shows_nil
  | @cons t w ts ws hsays _ ih =>
    refine shows_cons.mpr ⟨⟨t, ?_, hsays⟩, ?_⟩
    · rw [← Array.getElem?_toList, htokens]
      simp
    · have hlater := ih (before ++ [t]) (by rw [htokens]; simp)
      rwa [List.length_append, List.length_singleton] at hlater

/-- A line of code whose brackets match is the words that it falls into. -/
theorem isLine_lex {source cs : List Char} {ws : List Word} (hsource : readable source = cs ++ ['\n'])
    (h : Lexes ['\n'] cs ws) (hnest : ws.foldlM Word.nest [] = some [])
    (hbegins : ∃ c rest, cs = c :: rest ∧ isSpacing c = false ∧ c ∉ ['\n', '\\', '#']) :
    (lex source).IsLine cs ws := by
  obtain ⟨c, rest, hcs, hspace, hc⟩ := hbegins
  have hhead : cs.head? ≠ some ' ' := by
    rw [hcs]
    rintro ⟨⟩
    cases hspace
  have hle := h.length_le
  let st : LexState := { rest := cs ++ ['\n'], mark := ⟨1, 0⟩ }
  obtain ⟨fuel, hfuel⟩ : ∃ fuel, 2 * (cs ++ ['\n']).length + 2 = fuel + 1 + 1 + ws.length + 1 :=
    ⟨2 * cs.length + 1 - ws.length, by rw [List.length_append, List.length_singleton]; omega⟩
  obtain ⟨st', ts, hrun, hrest, hindents, hstack, htokens, hsays, hstands, hfirst⟩ :=
    exists_lexLoop h (fuel + 1) st rfl hnest
  obtain ⟨u, v, htokens', hu, hv⟩ :=
    lexLoop_end fuel hrest hindents (List.map_eq_nil_iff.mp hstack)
  have hlex : lex source = lexLoop (fuel + 2) false st' := by
    rw [lex, lexFrom, hsource, hfuel, lexLoop_code (by rw [hcs]; rfl) hspace hc rfl rfl]
    exact hrun
  have hlist : (lex source).tokens.toList = ts ++ [u, v] := by
    rw [hlex, htokens']
    simp [htokens, st]
  have hlength := hsays.length_eq
  have hat : ∀ i : ℕ, (lex source).tokens[i]? = (ts ++ [u, v])[i]? := by
    intro i
    rw [← hlist, Array.getElem?_toList]
  refine ⟨TokenStream.shows_of_forall₂ [] hsays (by simpa using hlist),
    ⟨u, by simp [hat, ← hlength], hu⟩, ⟨v, by simp [hat, ← hlength], hv⟩, ?_, ?_, ?_⟩
  · rw [← Array.length_toList, hlist, List.length_append, hlength]
    rfl
  · intro i hi t ht
    rw [hat, List.getElem?_append_left (by omega)] at ht
    exact hstands t (List.mem_of_getElem? ht)
  · intro hne t ht
    cases ts with
    | nil => exact absurd (List.length_eq_zero_iff.mp hlength.symm) hne
    | cons t' ts =>
      rw [hat] at ht
      exact hfirst hhead t ht

end BlockText.Source

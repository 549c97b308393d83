import BlockText.Proofs.Source.Words
import BlockText.Source.Literal
import BlockText.Text.Literal

/-!
# Texts between quotation marks

What is written between two delimiters ends at the second of them and nowhere before, and the
escapes in it denote the text again.  Between triple marks line breaks stand for themselves, so the
text that is read has them unified.
-/

namespace BlockText.Text

open Source

variable {q : Delimiter} {v as bs rest : List Char} {c : Char}

/-! ## Marks and escapes -/

/-- The mark of a delimiter is a quote. -/
lemma Delimiter.isQuote_mark (q : Delimiter) : isQuote q.mark = true := by
  cases q <;> decide

/-- A character that stands for itself between delimiters. -/
def Delimiter.Shows (q : Delimiter) (c : Char) : Prop :=
  c ≠ '\\' ∧ c ≠ q.mark ∧ (q.isTriple = false → c ∉ ['\n', '\r', '\t'])

/-- The letter that stands for a character after a backslash. -/
def Delimiter.Escapes (q : Delimiter) (c letter : Char) : Prop :=
  simpleEscape? letter = some c ∧ letter ≠ '\n' ∧ (c = letter ∨ q.isTriple = false)

/-- A character between delimiters stands for itself or is escaped. -/
lemma escapedChar_cases (q : Delimiter) (c : Char) :
    (escapedChar q c = [c] ∧ q.Shows c) ∨
      ∃ letter, escapedChar q c = ['\\', letter] ∧ q.Escapes c letter := by
  by_cases hslash : c = '\\'
  · subst hslash
    exact .inr ⟨'\\', by simp [escapedChar], rfl, by decide, .inl rfl⟩
  by_cases hmark : c = q.mark
  · subst hmark
    refine .inr ⟨q.mark, by simp [escapedChar], ?_, ?_, .inl rfl⟩ <;> cases q <;> decide
  cases htriple : q.isTriple with
  | true => exact .inl ⟨by simp [escapedChar, hslash, hmark, htriple], hslash, hmark, by simp [htriple]⟩
  | false =>
    by_cases hfeed : c = '\n'
    · subst hfeed
      exact .inr ⟨'n', by simp [escapedChar, hmark, htriple], rfl, by decide, .inr htriple⟩
    by_cases hreturn : c = '\r'
    · subst hreturn
      exact .inr ⟨'r', by simp [escapedChar, hmark, htriple], rfl, by decide, .inr htriple⟩
    by_cases htab : c = '\t'
    · subst htab
      exact .inr ⟨'t', by simp [escapedChar, hmark, htriple], rfl, by decide, .inr htriple⟩
    exact .inl ⟨by simp [escapedChar, hslash, hmark, htriple, hfeed, hreturn, htab], hslash, hmark,
      by simp [hfeed, hreturn, htab]⟩

lemma escaped_nil : escaped q [] = [] := rfl

lemma escaped_cons : escaped q (c :: v) = escapedChar q c ++ escaped q v := rfl

lemma escaped_append : escaped q (as ++ bs) = escaped q as ++ escaped q bs := List.flatMap_append

/-- The mark is not the first character between delimiters. -/
lemma head?_escaped_ne (q : Delimiter) (v : List Char) : (escaped q v).head? ≠ some q.mark := by
  cases v with
  | nil => simp [escaped_nil]
  | cons c v =>
    rcases escapedChar_cases q c with ⟨heq, -, hmark, -⟩ | ⟨letter, heq, -⟩
    · simpa [escaped_cons, heq] using hmark
    · cases q <;> simp [escaped_cons, heq, Delimiter.mark]

/-- A line feed between delimiters was one before. -/
lemma mem_escaped_of_lineFeed (h : '\n' ∈ escaped q v) : '\n' ∈ v ∧ q.isTriple = true := by
  obtain ⟨c, hc, hmem⟩ := List.mem_flatMap.mp h
  rcases escapedChar_cases q c with ⟨heq, -, -, hshow⟩ | ⟨letter, heq, -, hletter, -⟩
  · rw [heq, List.mem_singleton] at hmem
    subst hmem
    exact ⟨hc, by by_contra htriple; exact hshow (by simpa using htriple) (by decide)⟩
  · rw [heq] at hmem
    simp [hletter.symm] at hmem

/-- What is written for characters denotes them, whichever characters have names. -/
theorem unescape_escaped (names : CharacterNames) (q : Delimiter) (v : List Char) :
    unescape names (escaped q v) = some (v.map .char) := by
  induction v with
  | nil => rfl
  | cons c v ih =>
    rw [escaped_cons]
    rcases escapedChar_cases q c with ⟨heq, hslash, -⟩ | ⟨letter, heq, hescape, hfeed, -⟩
    · rw [heq, List.singleton_append, unescape, ih, Option.map_some]
      all_goals
        intros
        simp_all
    · have hletter : letter ∉ ['x', 'u', 'U', 'N'] := by
        intro hmem
        simp only [List.mem_cons, List.not_mem_nil, or_false] at hmem
        rcases hmem with rfl | rfl | rfl | rfl <;> cases hescape
      simp only [List.mem_cons, List.not_mem_nil, or_false, not_or] at hletter
      rw [heq, List.cons_append, List.singleton_append, unescape, hescape]
      · simp [ih]
      all_goals
        intros
        simp_all

/-! ## Where a string ends -/

/-- Nothing between delimiters closes a string between single marks. -/
lemma closeSingle_escaped (hq : q.isTriple = false) (v rest : List Char) :
    closeSingle q.mark (escaped q v ++ rest) =
      (closeSingle q.mark rest).map fun (s, rest) => (escaped q v ++ s, rest) := by
  induction v with
  | nil => simp [escaped_nil]
  | cons c v ih =>
    rw [escaped_cons, List.append_assoc]
    rcases escapedChar_cases q c with ⟨heq, hslash, hmark, hshow⟩ | ⟨letter, heq, -⟩
    · have hfeed : c ≠ '\n' := fun h => hshow hq (by simp [h])
      rw [heq, List.singleton_append, closeSingle, if_neg (by simpa using hmark),
        if_neg (by simpa using hfeed), ih, Option.map_map]
      · rfl
      · intros
        simp_all
    · rw [heq, List.cons_append, List.singleton_append, closeSingle, ih, Option.map_map]
      rfl

/-- Nothing between delimiters closes a string between triple marks. -/
lemma closeTriple_escaped (q : Delimiter) (v rest : List Char) :
    closeTriple q.mark (escaped q v ++ rest) =
      (closeTriple q.mark rest).map fun (s, rest) => (escaped q v ++ s, rest) := by
  induction v with
  | nil => simp [escaped_nil]
  | cons c v ih =>
    rw [escaped_cons, List.append_assoc]
    rcases escapedChar_cases q c with ⟨heq, hslash, hmark, -⟩ | ⟨letter, heq, -⟩
    · rw [heq, List.singleton_append, closeTriple, if_neg (by simp [hmark]), ih, Option.map_map]
      · rfl
      · intros
        simp_all
    · rw [heq, List.cons_append, List.singleton_append, closeTriple, ih, Option.map_map]
      rfl

/-! ## Literals as lexemes -/

/-- A text as the characters of a literal. -/
def literalChars (q : Delimiter) (v : List Char) : List Char := q.chars ++ escaped q v ++ q.chars

/-- The spelling of a value is its literal, character by character. -/
lemma toList_spell (value : String) (q : Delimiter) :
    (spell value q).toList = literalChars q value.toList := by
  simp [spell, literalChars]

/-- A single delimiter is its mark. -/
lemma chars_of_single (hq : q.isTriple = false) : q.chars = [q.mark] := by
  simp [Delimiter.chars, hq]

/-- A triple delimiter is its mark three times. -/
lemma chars_of_triple (hq : q.isTriple = true) : q.chars = [q.mark, q.mark, q.mark] := by
  simp [Delimiter.chars, hq, List.replicate]

/-- After a single mark the string does not go on with two marks. -/
lemma not_isPrefixOf_escaped (q : Delimiter) (v rest : List Char) (h : rest.head? ≠ some q.mark) :
    [q.mark, q.mark].isPrefixOf (escaped q v ++ q.mark :: rest) = false := by
  have hhead := head?_escaped_ne q v
  cases hv : escaped q v with
  | nil =>
    cases rest with
    | nil => simp
    | cons d rest =>
      have hne : d ≠ q.mark := by simpa using h
      simp [List.isPrefixOf, hne.symm]
  | cons c cs =>
    rw [hv] at hhead
    have hne : c ≠ q.mark := by simpa using hhead
    simp [List.isPrefixOf, hne.symm]

/-- A literal ends with its closing delimiter. -/
theorem scanQuoted_literal (q : Delimiter) (v : List Char) (h : rest.head? ≠ some q.mark) :
    scanQuoted (literalChars q v ++ rest) = some (literalChars q v, rest) := by
  cases hq : q.isTriple with
  | true =>
    have hclose : closeTriple q.mark (q.mark :: q.mark :: q.mark :: rest) =
        some ([q.mark, q.mark, q.mark], rest) := by
      cases q <;> simp [closeTriple, Delimiter.mark]
    simp [literalChars, chars_of_triple hq, scanQuoted, closeTriple_escaped, hclose]
  | false =>
    have hclose : closeSingle q.mark (q.mark :: rest) = some ([q.mark], rest) := by
      cases q <;> simp [closeSingle, Delimiter.mark]
    simp [literalChars, chars_of_single hq, scanQuoted, closeSingle_escaped hq, hclose,
      not_isPrefixOf_escaped q v rest h]

/-- A literal starts with the mark of its delimiter. -/
lemma literalChars_eq_cons (q : Delimiter) (v : List Char) :
    ∃ more, literalChars q v = q.mark :: more := by
  cases hq : q.isTriple with
  | true => exact ⟨_, by rw [literalChars, chars_of_triple hq]; rfl⟩
  | false => exact ⟨_, by rw [literalChars, chars_of_single hq]; rfl⟩

/-- A string starts at a quotation mark. -/
lemma stringStart?_quote (hc : isQuote c = true) (rest : List Char) :
    stringStart? (c :: rest) = some ([], c :: rest) := by
  have hletter : isPlainLetter c = false := by
    simp only [isQuote, Bool.or_eq_true, beq_iff_eq] at hc
    rcases hc with rfl | rfl <;> decide
  have hletters : ((c :: rest).take 3).takeWhile isPlainLetter = [] := by
    rw [List.take_succ_cons, List.takeWhile_cons_of_neg (by simp [hletter])]
  have hhead : (c :: rest).head?.any isQuote = true := hc
  have hplain : stringPrefixes.contains [] = true := by decide
  simp only [stringStart?, hletters, List.length_nil, List.drop_zero, hhead, List.map_nil, hplain,
    Bool.and_self, if_true]

/-- A literal is one lexeme. -/
theorem fits_literal (q : Delimiter) (v : List Char) (h : rest.head? ≠ some q.mark) :
    Word.Fits ⟨.string, String.ofList (literalChars q v)⟩ rest := by
  obtain ⟨more, hmore⟩ := literalChars_eq_cons q v
  have hchars : Word.chars ⟨.string, String.ofList (literalChars q v)⟩ = literalChars q v :=
    String.toList_ofList
  refine ⟨?_, q.mark, more, hchars.trans hmore, by cases q <;> decide, by cases q <;> decide⟩
  have hstart : stringStart? (literalChars q v ++ rest) = some ([], literalChars q v ++ rest) := by
    rw [hmore, List.cons_append]
    exact stringStart?_quote q.isQuote_mark _
  rw [hchars, lexeme.eq_def, hstart]
  dsimp only
  rw [scanQuoted_literal q v h]
  rfl

/-- The body of a literal without prefix letters. -/
theorem ofChars_literal (q : Delimiter) (v : List Char) :
    StringLiteral.ofChars (literalChars q v) =
      { isRaw := false, isBytes := false, isFormatted := false, opening := q.chars,
        body := escaped q v } := by
  obtain ⟨more, hmore⟩ := literalChars_eq_cons q v
  have hletters : (literalChars q v).takeWhile (!isQuote ·) = [] := by
    rw [hmore, List.takeWhile_cons_of_neg (by simp [Delimiter.isQuote_mark])]
  unfold StringLiteral.ofChars
  simp only [hletters, List.length_nil, List.drop_zero, List.map_nil, List.nil_append]
  cases hq : q.isTriple with
  | true => simp [literalChars, chars_of_triple hq]
  | false =>
    have hsingle := not_isPrefixOf_escaped q v [] (by simp)
    simp [literalChars, chars_of_single hq, hsingle]

/-- The delimiter of a literal is the one that it is spelled with. -/
theorem delimiterOf_spell (value : String) (q : Delimiter) : delimiterOf (spell value q) = q := by
  obtain ⟨more, hmore⟩ := literalChars_eq_cons q value.toList
  have hletter : isLetter q.mark = false := by cases q <;> decide
  rw [delimiterOf, toList_spell, hmore, List.dropWhile_cons_of_neg (by simp [hletter]), ← hmore]
  have hsingle := not_isPrefixOf_escaped q value.toList [] (by simp)
  unfold Delimiter.atStart Delimiter.all
  cases q with
  | tripleDouble | tripleSingle => rfl
  | double =>
    have htriple : Delimiter.tripleDouble.chars.isPrefixOf (literalChars .double value.toList) =
      false := hsingle
    rw [List.find?_cons_of_neg (by simp [htriple]), List.find?_cons_of_neg Bool.false_ne_true]
    rfl
  | single =>
    have htriple : Delimiter.tripleSingle.chars.isPrefixOf (literalChars .single value.toList) =
      false := hsingle
    rw [List.find?_cons_of_neg Bool.false_ne_true, List.find?_cons_of_neg (by simp [htriple])]
    rfl

/-! ## Line breaks -/

/-- A character that is no carriage return stays. -/
lemma unifyBreaks_cons_of_ne (hc : c ≠ '\r') (v : List Char) :
    unifyBreaks (c :: v) = c :: unifyBreaks v := by
  rw [unifyBreaks, if_neg (by simpa using hc)]
  intro rest heq
  exact absurd heq hc

/-- A text without carriage returns stays. -/
lemma unifyBreaks_append_of_not_mem (h : '\r' ∉ as) (bs : List Char) :
    unifyBreaks (as ++ bs) = as ++ unifyBreaks bs := by
  induction as with
  | nil => rfl
  | cons c as ih =>
    rw [List.mem_cons, not_or] at h
    rw [List.cons_append, unifyBreaks_cons_of_ne (Ne.symm h.1), ih h.2, List.cons_append]

/-- Line breaks are unified part by part, if no pair of characters is cut. -/
lemma unifyBreaks_append (h : bs.head? ≠ some '\n') :
    unifyBreaks (as ++ bs) = unifyBreaks as ++ unifyBreaks bs := by
  induction as using unifyBreaks.induct with
  | case1 => rfl
  | case2 rest ih =>
    rw [List.cons_append, List.cons_append, unifyBreaks, unifyBreaks, ih, List.cons_append]
  | case3 c rest hpair ih =>
    rw [List.cons_append, unifyBreaks, unifyBreaks, ih, List.cons_append]
    · exact hpair
    · intro rest' hc heq
      cases rest with
      | nil =>
        rw [List.nil_append] at heq
        exact h (by rw [heq]; rfl)
      | cons d rest =>
        obtain ⟨rfl, -⟩ := List.cons.inj heq
        exact hpair rest hc rfl

/-- A line feed comes first between delimiters only if it did before. -/
lemma head?_escaped_lineFeed (h : (escaped q v).head? = some '\n') : v.head? = some '\n' := by
  cases v with
  | nil => cases h
  | cons c v =>
    rcases escapedChar_cases q c with ⟨heq, -⟩ | ⟨letter, heq, -⟩
    · simpa [escaped_cons, heq] using h
    · simp [escaped_cons, heq] at h

/-- Between triple marks only line breaks are unified. -/
lemma unifyBreaks_escaped (hq : q.isTriple = true) (v : List Char) :
    unifyBreaks (escaped q v) = escaped q (unifyBreaks v) := by
  have hfeed : escapedChar q '\n' = ['\n'] := by cases q <;> first | rfl | cases hq
  have hreturn : escapedChar q '\r' = ['\r'] := by cases q <;> first | rfl | cases hq
  induction v using unifyBreaks.induct with
  | case1 => rfl
  | case2 rest ih =>
    rw [unifyBreaks, escaped_cons, escaped_cons, escaped_cons, hfeed, hreturn, ← ih]
    rfl
  | case3 c rest hpair ih =>
    have hunify : unifyBreaks (c :: rest) = (if c == '\r' then '\n' else c) :: unifyBreaks rest := by
      rw [unifyBreaks]
      exact hpair
    rw [hunify, escaped_cons]
    by_cases hc : c = '\r'
    · subst hc
      have hhead : (escaped q rest).head? ≠ some '\n' := by
        intro h
        obtain ⟨more, hmore⟩ := List.head?_eq_some_iff.mp (head?_escaped_lineFeed h)
        exact hpair more rfl hmore
      rw [hreturn, unifyBreaks_append hhead, ih, if_pos (beq_self_eq_true _), escaped_cons, hfeed]
      rfl
    · have hplain : '\r' ∉ escapedChar q c := by
        rcases escapedChar_cases q c with ⟨heq, -⟩ | ⟨letter, heq, -, -, rfl | hsingle⟩
        · simpa [heq] using Ne.symm hc
        · simpa [heq] using Ne.symm hc
        · rw [hq] at hsingle
          cases hsingle
      rw [unifyBreaks_append_of_not_mem hplain, ih, if_neg (by simpa using hc), escaped_cons]

/-- The text that a literal denotes once line breaks are unified. -/
def denoted (q : Delimiter) (v : List Char) : List Char := if q.isTriple then unifyBreaks v else v

/-- A literal with its line breaks unified is the literal of the denoted value. -/
lemma unifyBreaks_literalChars (q : Delimiter) (v : List Char) :
    unifyBreaks (literalChars q v) = literalChars q (denoted q v) := by
  have hmark : '\r' ∉ q.chars := by cases q <;> decide
  have hhead : q.chars.head? ≠ some '\n' := by cases q <;> decide
  have hchars : unifyBreaks q.chars = q.chars := by cases q <;> rfl
  rw [literalChars, List.append_assoc, unifyBreaks_append_of_not_mem hmark,
    unifyBreaks_append hhead, hchars, literalChars, denoted]
  cases hq : q.isTriple with
  | true => rw [unifyBreaks_escaped hq, if_pos rfl, List.append_assoc]
  | false =>
    have hbreak : '\r' ∉ escaped q v := by
      intro h
      obtain ⟨c, hc, hmem⟩ := List.mem_flatMap.mp h
      rcases escapedChar_cases q c with ⟨heq, -, -, hshow⟩ | ⟨letter, heq, hescape, -⟩
      · rw [heq, List.mem_singleton] at hmem
        subst hmem
        exact hshow hq (by decide)
      · obtain rfl : '\r' = letter := by simpa [heq] using hmem
        cases hescape
    have hsame := unifyBreaks_append_of_not_mem hbreak []
    rw [List.append_nil] at hsame
    rw [hsame, if_neg Bool.false_ne_true, unifyBreaks, List.append_nil, List.append_assoc]

end BlockText.Text

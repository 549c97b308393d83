import BlockText.Proofs.Source.Depth
import BlockText.Proofs.Source.Grouping
import BlockText.Proofs.Source.Outlining
import BlockText.Proofs.Source.Renderings
import BlockText.Text.NormalForm
import Mathlib

/-!
# Formulas read back

A formula that is rendered in the place of a statement is read back as itself: its parentheses are
where the grammar needs them.
-/

/-!
## Characters without parts

The tables of the compatible normal form name no character in front of their rows.
-/

namespace BlockText.Text

variable {c : Char} {rows : Rows}

/-- Rows that begin behind a character have no entry for it. -/
lemma find?_entries_eq_none (hc : c ≠ Char.ofNat 0)
    (h : rows.all (fun row => c.toNat < row.1) = true) : rows.entries.find? (·.1 == c) = none := by
  refine List.find?_eq_none.mpr fun entry hentry => ?_
  obtain ⟨row, hrow, hentry⟩ := List.mem_flatMap.mp hentry
  obtain ⟨⟨word, i⟩, -, rfl⟩ := List.mem_map.mp hentry
  have hlt : c.toNat < row.1 := by simpa using List.all_eq_true.mp h row hrow
  rw [beq_iff_eq]
  dsimp only
  rintro rfl
  by_cases hvalid : (row.1 + i).isValidChar
  · rw [Char.toNat_ofNat, if_pos hvalid] at hlt
    omega
  · exact hc (by rw [Char.ofNat, dif_neg hvalid]; rfl)

/-- A character in front of both tables has no parts. -/
lemma parts?_eq_none (hc : c ≠ Char.ofNat 0)
    (h : (variantRows ++ compositeRows).all (fun row => c.toNat < row.1) = true)
    (hsyllable : syllableLetters? c = none) : parts? c = none := by
  rw [List.all_append, Bool.and_eq_true] at h
  rw [parts?, hsyllable, List.find?_append, variants, composites, find?_entries_eq_none hc h.1,
    find?_entries_eq_none hc h.2]
  rfl

/-- The normal form of the ordinal indicator is the letter. -/
lemma normalForm_ordinal : normalForm "ª" = "a" := by
  have hvariant : parts? 'ª' = some ['a'] := by decide +kernel
  have hplain : parts? 'a' = none := parts?_eq_none (by decide) (by decide +kernel) rfl
  have hparts : "ª".toList.flatMap (decompose compositeDepth) = ['a'] := by
    have hchars : "ª".toList = ['ª'] := rfl
    simp [hchars, compositeDepth, decompose, hvariant, hplain]
  unfold normalForm
  rw [if_neg (by decide), hparts]
  rfl

end BlockText.Text

namespace BlockText.Source

open Syntax Text

variable {e : Syntax.Expr} {w : Word} {ws : List Word} {c : Char}
  {cs as bs next : List Char} {s : TokenStream} {m : Manuscript}

/-! ## Characters of formulas -/

/-- The characters of names are plain code. -/
lemma isPlainCode_of_continuesName (h : continuesName c = true) :
    isPlainCode c = true ∧ c ≠ Char.ofNat 0 := by
  have hnot : ∀ d, continuesName d = false → c ≠ d := by
    rintro d hd rfl
    exact absurd h (by simp [hd])
  have hmem : c ∉ ['\n', '\r', '\\', '#', '"', '\''] := by
    intro hmem
    simp only [List.mem_cons, List.not_mem_nil, or_false] at hmem
    rcases hmem with rfl | rfl | rfl | rfl | rfl | rfl <;> exact absurd h (by decide)
  exact ⟨by simpa [isPlainCode] using hmem, hnot _ (by decide)⟩

/-- The characters of spoken words are plain code. -/
lemma Word.Spoken.isPlainCode (h : w.Spoken) :
    ∀ c ∈ w.chars, Source.isPlainCode c = true ∧ c ≠ Char.ofNat 0 := by
  by_cases hkind : w.kind = .operator
  · have hoperators : ∀ o ∈ formulaOperators,
        o.toList.all (fun c => Source.isPlainCode c && c != Char.ofNat 0) = true := by decide
    intro c hc
    simpa using List.all_eq_true.mp (hoperators w.text (h.mem_formulaOperators hkind)) c hc
  · exact fun c hc => isPlainCode_of_continuesName (h.continuesName hkind c hc)

/-- What holds of spaces and of the characters of the words holds of a text. -/
lemma Lexes.forall_mem {P : Char → Prop} (h : Lexes next cs ws) (hspace : P ' ')
    (hws : ∀ w ∈ ws, ∀ c ∈ w.chars, P c) : ∀ c ∈ cs, P c := by
  induction h with
  | nil => simp
  | space _ ih =>
    intro c hc
    rcases List.mem_cons.mp hc with rfl | hc
    · exact hspace
    · exact ih hws c hc
  | word _ _ ih =>
    intro c hc
    rcases List.mem_append.mp hc with hc | hc
    · exact hws _ List.mem_cons_self c hc
    · exact ih (fun w hw => hws w (List.mem_cons_of_mem _ hw)) c hc

/-! ## Places on a line -/

/-- The number of bytes of a text. -/
def byteCount (cs : List Char) : ℕ := (cs.map Char.utf8Size).sum

/-- On a line a mark moves on by the bytes of the text. -/
lemma Mark.advance_eq (h : '\n' ∉ as) (m : Mark) :
    m.advance as = ⟨m.line, m.column + byteCount as⟩ := by
  induction as generalizing m with
  | nil => rfl
  | cons c as ih =>
    rw [List.mem_cons, not_or] at h
    have hc : (c == '\n') = false := by simpa using Ne.symm h.1
    have hnext : m.next c = ⟨m.line, m.column + c.utf8Size⟩ := by
      rw [Mark.next, hc, if_neg Bool.false_ne_true]
    have hstep : m.advance (c :: as) = (m.next c).advance as := rfl
    rw [hstep, hnext, ih h.2]
    simp [byteCount, Nat.add_assoc]

/-- In the bytes of a front part are its characters. -/
lemma charsIn_append (as bs : List Char) :
    SourceText.charsIn (byteCount as) (as ++ bs) = as.length := by
  induction as with
  | nil =>
    cases bs with
    | nil => rfl
    | cons c bs =>
      have hpos := c.utf8Size_pos
      have hzero : byteCount [] = 0 := rfl
      rw [List.nil_append, SourceText.charsIn, if_neg (by omega)]
      rfl
  | cons c as ih =>
    have hcount : byteCount (c :: as) = c.utf8Size + byteCount as := by simp [byteCount]
    rw [List.cons_append, SourceText.charsIn, hcount, if_pos (by omega), Nat.add_sub_cancel_left, ih]
    rfl

/-- A text without line breaks is one line. -/
lemma physicalLines_single (hne : cs ≠ []) (hfeed : '\n' ∉ cs) (hreturn : '\r' ∉ cs) :
    physicalLines cs = [cs] := by
  have hgo : ∀ as acc, '\n' ∉ as → '\r' ∉ as → physicalLines.go as acc = [acc.reverse ++ as] := by
    intro as
    induction as with
    | nil => intro acc _ _; simp [physicalLines.go]
    | cons c as ih =>
      intro acc hfeed hreturn
      rw [List.mem_cons, not_or] at hfeed hreturn
      rw [physicalLines.go]
      · rw [if_neg (by simp [Ne.symm hfeed.1, Ne.symm hreturn.1]), ih _ hfeed.2 hreturn.2]
        simp
      · rintro _ rfl
        exact absurd rfl hreturn.1
  rw [physicalLines, hgo cs [] hfeed hreturn]
  simp [hne]

/-- A token of a line is spelled as it stands in the text. -/
lemma Token.StandsIn.segment {t : Token} (h : t.StandsIn ⟨1, 0⟩ cs) (hfeed : '\n' ∉ cs) :
    Source.segment [cs] ⟨t.start, t.stop⟩ = t.text.toList := by
  obtain ⟨before, after, rfl, hstart, hstop⟩ := h
  simp only [List.mem_append, not_or] at hfeed
  rw [Mark.advance_eq hfeed.1.1, Nat.zero_add] at hstart
  rw [Mark.advance_eq (by simp [hfeed.1]), Nat.zero_add] at hstop
  unfold Source.segment
  simp only [hstart, hstop, if_true]
  have hline : ([before ++ t.text.toList ++ after][1 - 1]?).getD [] =
      before ++ t.text.toList ++ after := rfl
  rw [hline, charsIn_append, List.take_left, charsIn_append, List.drop_left]

/-- On a line numbers are spelled as in the text. -/
lemma TokenStream.IsLine.spellsNumbers (h : s.IsLine cs ws) (hne : cs ≠ []) (hfeed : '\n' ∉ cs)
    (hreturn : '\r' ∉ cs) (hphysical : m.physical = physicalLines cs) : SpellsNumbers m s := by
  intro i t ht hkind
  have hi : i < ws.length := by
    have hsize := h.size_eq
    have hlt : i < s.tokens.size := (Array.getElem?_eq_some_iff.mp ht).1
    by_contra hle
    rcases Nat.lt_or_eq_of_le (show i ≤ ws.length + 1 by omega) with hlt | rfl
    · obtain rfl : i = ws.length := by omega
      obtain ⟨u, hu, hukind⟩ := h.ends
      rw [hu] at ht
      obtain rfl := Option.some.inj ht
      rw [hkind] at hukind
      cases hukind
    · obtain ⟨u, hu, hukind⟩ := h.stops
      rw [hu] at ht
      obtain rfl := Option.some.inj ht
      rw [hkind] at hukind
      cases hukind
  rw [Manuscript.spelling, hphysical, physicalLines_single hne hfeed hreturn,
    (h.stands i hi t ht).segment hfeed, String.ofList_toList]

/-! ## Formulas alone on a line -/

/-- What begins an operand is code. -/
lemma beginsOperand_code (h : beginsOperand c = true) :
    isSpacing c = false ∧ isOutlineBlank c = false ∧ c ∉ ['\n', '\\', '#'] := by
  have hnot : ∀ d, beginsOperand d = false → c ≠ d := by
    rintro d hd rfl
    exact absurd h (by simp [hd])
  have hspace := hnot ' ' (by decide)
  have htab := hnot '\t' (by decide)
  have hfeed := hnot '\x0c' (by decide)
  refine ⟨by simp [isSpacing, hspace, htab, hfeed], by simp [isOutlineBlank, hspace, htab, hfeed], ?_⟩
  simp [hnot '\n' (by decide), hnot '\\' (by decide), hnot '#' (by decide)]

/-- A text without line breaks is read with one at its end. -/
lemma readable_of_plain (hreturn : '\r' ∉ cs) (hfeed : '\n' ∉ cs) : readable cs = cs ++ ['\n'] := by
  have hunify : unifyBreaks cs = cs := by
    have happend := unifyBreaks_append_of_not_mem hreturn []
    rwa [List.append_nil, unifyBreaks, List.append_nil] at happend
  have hlast : cs.getLast? ≠ some '\n' := fun h => hfeed (List.mem_of_getLast? h)
  unfold readable
  simp only [hunify]
  rw [if_pos (by simp [hlast])]

/-- A statement that is an expression like this one. -/
def IsExprStmt (e : Syntax.Expr) (s : Syntax.Stmt) : Prop :=
  ∃ e' info, s = .exprStmt e' info ∧ e'.Alike e.normalized

/-- An expression that is read as a formula is read as its statement. -/
lemma Manuscript.succeeds_exprStmt (h : m.text.outline.comments = []) {x : Expr}
    (hx : ReadsAs m x e) (r : Range) :
    Reading.Succeeds (m.stmt 0 (.exprStmt x r)) (IsExprStmt e) := by
  have hsimple : Manuscript.IsSimple (.exprStmt x r) := trivial
  rw [Manuscript.stmt]
  refine (m.succeeds_stmtInfo h hsimple).bind fun info _ => hx.bind fun e' he' => ?_
  exact Reading.succeeds_pure ⟨e', info, rfl, he'⟩

open Grammar in
/-- The words of a formula on a line are parsed as a tree that is read as the formula. -/
lemma exists_parse (names : CharacterNames) (he : e.IsFormula)
    (hline : (lex cs).IsLine cs (lineWords e))
    (hne : lineWords e ≠ []) (hlen : (lineWords e).length ≤ cs.length)
    (hnumbers : SpellsNumbers m (lex cs)) :
    ∃ x r, parse names cs = .ok [.exprStmt x r] ∧ ReadsAs m x e ∧ r.start.line ≤ 1 := by
  have hend : EndsLine (lex cs) (0 + (lineWords e).length) := by
    rw [Nat.zero_add]
    exact hline.ends
  obtain ⟨x, t, hx, hreads, ht, hlead⟩ := exists_takes_starExpressions (n := cs.length + 1) hnumbers he
    (Nat.le_succ_of_le hlen) hline.shows hend
  obtain ⟨u, hu, hkind⟩ := hline.stops
  rw [Nat.zero_add] at hx hend
  refine ⟨x, _, run_fileRule names (takes_simpleStmt (takes_expressionStmt hx ht hend) ht hlead) ht
    hlead hend hu hkind, hreads, ?_⟩
  rw [TokenStream.rangeTo, hline.first hne t ht]

/-- The text is that of a formula on a line of its own. -/
structure IsLineOf (e : Syntax.Expr) (text : String) : Prop where
  falls : Lexes ['\n'] text.toList (lineWords e)
  begins : ∃ c more, text.toList = c :: more ∧ beginsOperand c = true
  plain : ∀ c ∈ text.toList, isPlainCode c = true ∧ c ≠ Char.ofNat 0

/-- The words of a formula on a line are spoken. -/
lemma spoken_lineWords (he : e.IsFormula) : ∀ w ∈ lineWords e, w.Spoken := fun w hw =>
  spoken_words he w (mem_words_of_mem_lineWords hw)

/-- A formula is rendered, in the place of a statement, as a text on a line of its own. -/
lemma exists_isLineOf (he : e.IsFormula) :
    ∃ text, Render.statementPlace e = .ok (.text text) ∧ IsLineOf e text := by
  obtain ⟨text, hrender, hprints⟩ := exists_statementPlace he
  have hlexes : Lexes ['\n'] text.toList (lineWords e) :=
    hprints.falls (mayFollow_cons (by decide))
  exact ⟨text, hrender, hlexes, hprints.begins, hlexes.forall_mem (by decide) fun w hw =>
    (spoken_lineWords he w hw).isPlainCode⟩

namespace IsLineOf

variable {text : String}

/-- A formula on a line has no line feed. -/
lemma not_mem_feed (h : IsLineOf e text) : '\n' ∉ text.toList := fun hmem =>
  absurd (h.plain _ hmem).1 (by decide)

/-- A formula on a line has no carriage return. -/
lemma not_mem_return (h : IsLineOf e text) : '\r' ∉ text.toList := fun hmem =>
  absurd (h.plain _ hmem).1 (by decide)

/-- A formula on a line is read with the end of the line. -/
lemma readable_eq (h : IsLineOf e text) : readable text.toList = text.toList ++ ['\n'] :=
  readable_of_plain h.not_mem_return h.not_mem_feed

/-- A formula on a line begins with code. -/
lemma begins_code (h : IsLineOf e text) :
    ∃ c rest, text.toList = c :: rest ∧ isSpacing c = false ∧ c ∉ ['\n', '\\', '#'] := by
  obtain ⟨c, rest, hchars, hc⟩ := h.begins
  exact ⟨c, rest, hchars, (beginsOperand_code hc).1, (beginsOperand_code hc).2.2⟩

/-- As many brackets are open at once in the words as in the text. -/
lemma peak_eq (h : IsLineOf e text) (he : e.IsFormula) :
    Word.peak 0 (lineWords e) = mostOpen 0 text.toList :=
  (h.falls.mostOpen_eq (spoken_lineWords he) 0).symm

/-- A formula on a line has words. -/
lemma lineWords_ne_nil (h : IsLineOf e text) : lineWords e ≠ [] := by
  obtain ⟨c, more, hchars, hc⟩ := h.begins
  have hlexes := h.falls
  intro hnil
  rw [hnil] at hlexes
  generalize text.toList = cs at hlexes hchars
  cases hlexes with
  | nil => cases hchars
  | space =>
    obtain ⟨rfl, -⟩ := List.cons.inj hchars
    exact absurd hc (by decide)

/-- The outline of the line has no comments and ends with it. -/
lemma exists_outline (h : IsLineOf e text) (he : e.IsFormula) :
    ∃ outline, Outline.ofLines (linesKeepingFeeds text.toList) = .ok outline ∧
      outline.comments = [] ∧ outline.lastLine = (linesKeepingFeeds text.toList).length := by
  obtain ⟨c, more, hchars, hc⟩ := h.begins
  have hnet : net text.toList = 0 :=
    h.falls.net_eq.trans ((balanced_words he).2.net_eq_zero (spoken_lineWords he))
  have hcode : ∀ d ∈ text.toList, isPlainCode d = true := fun d hd => (h.plain d hd).1
  rw [linesKeepingFeeds_single h.not_mem_feed (by simp [hchars])]
  rw [hchars] at hnet hcode ⊢
  exact exists_outline_line hcode (beginsOperand_code hc).2.1 hnet

/-- The line is read back as the formula if no more brackets are open at once than the grammar
allows. -/
lemma exists_ofSource (h : IsLineOf e text) (he : e.IsFormula)
    (hdepth : mostOpen 0 text.toList ≤ maxBrackets) (width : ℤ) (names : CharacterNames) :
    ∃ p e' info, Program.ofSource text width names = .ok p ∧ p.body.statements = [.exprStmt e' info] ∧
      e'.Alike e.normalized := by
  have hnest : (lineWords e).foldlM Word.nest [] = some [] := by
    rw [← h.peak_eq he] at hdepth
    have hfold := ((balanced_words he).2.foldlM_nest [] [] (by simpa using hdepth)).1
    simpa using hfold
  have hline : (lex text.toList).IsLine text.toList (lineWords e) :=
    isLine_lex h.readable_eq h.falls hnest h.begins_code
  obtain ⟨outline, houtline, hcomments, hlast⟩ := h.exists_outline he
  let m : Manuscript :=
    ⟨⟨text, linesKeepingFeeds text.toList, outline⟩, physicalLines text.toList⟩
  obtain ⟨c, more, hchars, -⟩ := h.begins
  have hnumbers : SpellsNumbers m (lex text.toList) :=
    hline.spellsNumbers (by simp [hchars]) h.not_mem_feed h.not_mem_return rfl
  obtain ⟨x, r, hparse, hreads, hstart⟩ :=
    exists_parse names he hline h.lineWords_ne_nil h.falls.length_le hnumbers
  have hstmt : Reading.Succeeds (m.stmt 0 (.exprStmt x r)) (IsExprStmt e) :=
    Manuscript.succeeds_exprStmt hcomments hreads r
  have hsimple : Manuscript.IsSimple (.exprStmt x r) := trivial
  obtain ⟨p, hp, s', hs, e', info, rfl, halike⟩ :=
    Program.exists_ofSource (fun hmem => (h.plain _ hmem).2 rfl) hparse houtline
      (Manuscript.succeeds_program width (m := m) hlast.ge hsimple hstart hstmt)
  exact ⟨p, e', info, hp, hs, halike⟩

/-- The line is no program if more brackets are open at once. -/
lemma ofSource_ne_ok (h : IsLineOf e text) (he : e.IsFormula)
    (hdeep : maxBrackets < mostOpen 0 text.toList) (width : ℤ) (names : CharacterNames)
    (p : Program) : Program.ofSource text width names ≠ .ok p := by
  refine Program.ofSource_ne_ok (parse_ne_ok h.readable_eq h.falls (fun w hw => ?_)
    (by rwa [h.peak_eq he]) h.begins_code names) width p
  rcases spoken_lineWords he w hw with ⟨hkind, -⟩ | ⟨hkind, -⟩ | ⟨hkind, -⟩ <;> simp [hkind]

end IsLineOf

/-! ## Formulas past the limits of the grammar -/

/-- A name in lists in one another. -/
def nestedLists : ℕ → Syntax.Expr
  | 0 => .identifier "a" {}
  | n + 1 => .list [nestedLists n] {}

/-- Lists in one another are formulas. -/
lemma isFormula_nestedLists (n : ℕ) : (nestedLists n).IsFormula := by
  induction n with
  | zero => exact .identifier ⟨by decide, by decide, by decide⟩
  | succ n ih => exact .list (by simpa using ih)

/-- Each of the lists opens a bracket inside those of the lists around it. -/
lemma le_peak_nestedLists (n k : ℕ) : k + n ≤ Word.peak k (words (nestedLists n)) := by
  induction n generalizing k with
  | zero => exact Word.le_peak _ _
  | succ n ih =>
    have hwords : words (nestedLists (n + 1)) =
        .op "[" :: (words (nestedLists n) ++ [.op "]"]) := by
      rw [nestedLists, words, wordsEach_eq_map]
      simp [joinWords]
    have hopens : (Word.op "[").levelAfter k = k + 1 := rfl
    rw [hwords, Word.peak, hopens]
    have hinner := ih (k + 1)
    have hmore := Word.peak_le_peak_append (k + 1) (words (nestedLists n)) [.op "]"]
    omega

/-- A number alone on a line is no program if it has too many digits. -/
lemma ofSource_ne_ok_of_isOverlong {n : String} (hn : isDecimal n.toList = true)
    (hlong : Grammar.isOverlong n.toList = true) (width : ℤ) (names : CharacterNames)
    (p : Program) : Program.ofSource n width names ≠ .ok p := by
  have hspoken : ∀ w ∈ [Word.number n], w.Spoken :=
    List.forall_mem_singleton.mpr (.inr (.inl ⟨rfl, hn⟩))
  have hfalls : Lexes ['\n'] n.toList [.number n] := Lexes.single (fits_number hn (by simp; decide))
  have hplain : ∀ c ∈ n.toList, isPlainCode c = true ∧ c ≠ Char.ofNat 0 :=
    hfalls.forall_mem (by decide) fun w hw => (hspoken w hw).isPlainCode
  have hnot : ∀ d, isPlainCode d = false → d ∉ n.toList := by
    intro d hd hmem
    rw [(hplain d hmem).1] at hd
    cases hd
  obtain ⟨c, more, hchars, hc⟩ := exists_cons_of_isDigits (Bool.and_eq_true _ _ ▸ hn : _ ∧ _).1
  have hcode := beginsOperand_code (c := c) (by simp [beginsOperand, hc])
  have hline : (lex n.toList).IsLine n.toList [.number n] :=
    isLine_lex (readable_of_plain (hnot _ (by decide)) (hnot _ (by decide))) hfalls rfl
      ⟨c, more, hchars, hcode.1, hcode.2.2⟩
  obtain ⟨⟨t, ht, hkind, htext⟩, -⟩ := TokenStream.shows_cons.mp hline.shows
  refine Program.ofSource_ne_ok (fun statements => ?_) width p
  exact Grammar.run_fileRule_ne_ok ht hkind (by rw [htext]; exact hlong) statements

/-- The number of so many ones. -/
def ones (n : ℕ) : String := String.ofList (List.replicate n '1')

/-- A number of ones is decimal. -/
lemma isDecimal_ones {n : ℕ} (h : 0 < n) : isDecimal (ones n).toList = true := by
  obtain ⟨n, rfl⟩ := Nat.exists_eq_succ_of_ne_zero h.ne'
  rw [ones, String.toList_ofList, isDecimal]
  have hdigits : isDigits (List.replicate (n + 1) '1') = true := by
    induction n with
    | zero => rfl
    | succ n ih =>
      rw [List.replicate_succ, isDigits]
      · rw [ih (Nat.succ_pos n)]
        rfl
      · simp
      · rintro rest ⟨⟩
  rw [hdigits]
  rfl

/-- More ones than the grammar allows are too many digits. -/
lemma isOverlong_ones {n : ℕ} (h : Grammar.maxDigits < n) :
    Grammar.isOverlong (ones n).toList = true := by
  obtain ⟨n, rfl⟩ := Nat.exists_eq_succ_of_ne_zero (Nat.ne_zero_of_lt h)
  rw [ones, String.toList_ofList, Grammar.isOverlong, List.countP_replicate]
  simp [h, List.replicate_succ]

end BlockText.Source

namespace BlockText.Text

open Source Syntax

/-- A formula is rendered, in the place of a statement, as a text that is read back as the formula
with its names in normal form, if no more brackets are open at once than the grammar allows.  With
more the text is no program. -/
theorem ofSource_statementPlace {e : Syntax.Expr} (he : e.IsFormula) (width : ℤ)
    (names : CharacterNames) :
    ∃ text, Render.statementPlace e = .ok (.text text) ∧
      (mostOpen 0 text.toList ≤ maxBrackets →
        ∃ p e' info, Program.ofSource text width names = .ok p ∧
          p.body.statements = [.exprStmt e' info] ∧ e'.Alike e.normalized) ∧
      (maxBrackets < mostOpen 0 text.toList → ∀ p, Program.ofSource text width names ≠ .ok p) := by
  obtain ⟨text, hrender, hline⟩ := exists_isLineOf he
  exact ⟨text, hrender, fun hdepth => hline.exists_ofSource he hdepth width names,
    fun hdeep p => hline.ofSource_ne_ok he hdeep width names p⟩

/-- A sum under a sign and a power, with a sign in its exponent. -/
def signedPower : Syntax.Expr :=
  .unary .neg
    (.binary (.binary (.identifier "a" {}) .add (.literal .number "1" .null {}) {}) .pow
      (.unary .neg (.identifier "b" {}) {}) {}) {}

/-- The parentheses around a base are kept, and no others are needed. -/
theorem ofSource_signedPower : signedPower.IsFormula ∧
    Render.statementPlace signedPower = .ok "-(a + 1) ** -b" ∧
    ∃ p e' info, Program.ofSource "-(a + 1) ** -b" 4 = .ok p ∧
      p.body.statements = [.exprStmt e' info] ∧ e'.Alike signedPower := by
  have hname : ∀ n ∈ ["a", "b"], IsFreeName n := by
    simp only [List.mem_cons, List.not_mem_nil, or_false, forall_eq_or_imp, forall_eq]
    exact ⟨⟨by decide, by decide, by decide⟩, ⟨by decide, by decide, by decide⟩⟩
  have he : signedPower.IsFormula :=
    .unary (.binary (.binary (.identifier (hname "a" (by decide))) (.number (by decide) (by decide)))
      (.unary (.identifier (hname "b" (by decide)))))
  have hrender : Render.statementPlace signedPower = .ok (.text "-(a + 1) ** -b") := rfl
  obtain ⟨text, htext, hread, -⟩ := ofSource_statementPlace he 4 named?
  obtain rfl : text = "-(a + 1) ** -b" :=
    Datum.text.inj (Except.ok.inj (htext.symm.trans hrender))
  exact ⟨he, hrender, hread (by decide)⟩

/-- The ordinal indicator is read back as the letter that it is a variant of. -/
theorem ofSource_ordinal :
    ((.identifier "ª" {} : Syntax.Expr).IsFormula ∧
      Render.statementPlace (.identifier "ª" {}) = .ok "ª") ∧
    (∃ p e' info, Program.ofSource "ª" 4 = .ok p ∧ p.body.statements = [.exprStmt e' info] ∧
      ¬ e'.Alike (.identifier "ª" {})) := by
  have he : (.identifier "ª" {} : Syntax.Expr).IsFormula :=
    .identifier ⟨by decide +kernel, by decide, by decide⟩
  have hrender : Render.statementPlace (.identifier "ª" {}) = .ok (.text "ª") := rfl
  obtain ⟨text, htext, hline⟩ := exists_isLineOf he
  obtain rfl : text = "ª" := Datum.text.inj (Except.ok.inj (htext.symm.trans hrender))
  obtain ⟨p, e', info, hp, hs, halike⟩ := hline.exists_ofSource he (by decide) 4 named?
  refine ⟨⟨he, hrender⟩, p, e', info, hp, hs, fun hsame => ?_⟩
  have hnormal : (Syntax.Expr.identifier "a" {}).Alike (.identifier "ª" {}) := by
    rw [Expr.normalized, normalizedName, normalForm_ordinal] at halike
    exact halike.symm.trans hsame
  simp [Syntax.Alike, Datum.core_record, Tag.fields] at hnormal

/-- Lists in one another are rendered as a text that is no program if they are more than the
brackets that the grammar allows. -/
theorem ofSource_nestedLists {n : ℕ} (h : maxBrackets < n) (width : ℤ) (names : CharacterNames) :
    (nestedLists n).IsFormula ∧
      ∃ text, Render.statementPlace (nestedLists n) = .ok (.text text) ∧
        ∀ p, Program.ofSource text width names ≠ .ok p := by
  have he := isFormula_nestedLists n
  obtain ⟨text, hrender, hline⟩ := exists_isLineOf he
  have hwords : lineWords (nestedLists n) = words (nestedLists n) :=
    lineWords_of_not (by cases n <;> simp [nestedLists, Render.IsFilledTuple])
  have hdeep : maxBrackets < mostOpen 0 text.toList := by
    rw [← hline.peak_eq he, hwords]
    exact Nat.lt_of_lt_of_le h (by simpa using le_peak_nestedLists n 0)
  exact ⟨he, text, hrender, hline.ofSource_ne_ok he hdeep width names⟩

/-- A list more than the 200 brackets of the grammar is too many. -/
theorem ofSource_nestedLists_201 : (nestedLists 201).IsFormula ∧
    ∃ text, Render.statementPlace (nestedLists 201) = .ok (.text text) ∧
      ∀ p, Program.ofSource text 4 ≠ .ok p :=
  ofSource_nestedLists (by decide) 4 named?

/-- A decimal number is rendered as itself, which is no program if it has more digits than the
grammar allows. -/
theorem ofSource_overlong {n : String} (decimal : Source.isDecimal n.toList = true)
    (long : Grammar.isOverlong n.toList = true) (width : ℤ) (names : CharacterNames) :
    Render.statementPlace (.literal .number (.text n) .null {}) = .ok (.text n) ∧
      ∀ p, Program.ofSource n width names ≠ .ok p := by
  refine ⟨?_, ofSource_ne_ok_of_isOverlong decimal long width names⟩
  have hne : n ≠ "" := by
    rintro rfl
    cases decimal
  rw [Render.statementPlace_of_not (by simp [Render.IsFilledTuple])]
  simp [Render.core, Render.literal, Datum.isTruthy, Datum.isFalsy, hne]
  rfl

/-- A digit more than the 4300 of the grammar is too many. -/
theorem ofSource_ones_4301 :
    Render.statementPlace (.literal .number (.text (ones 4301)) .null {}) =
        .ok (.text (ones 4301)) ∧
      ∀ p, Program.ofSource (ones 4301) 4 ≠ .ok p :=
  ofSource_overlong (isDecimal_ones (by decide)) (isOverlong_ones (by decide)) 4 named?

end BlockText.Text

import BlockText.Proofs.Source.Words

/-!
# Names, numbers and operators as lexemes

When a name, a decimal number or an operator is the first lexeme of a text: a name goes on as long
as characters can continue it, a number ends before a character that can stand in none, and an
operator must not be the beginning of a longer one.
-/

namespace BlockText.Source

variable {c : Char} {cs next : List Char}

/-! ## Names -/

lemma isPlainLetter_iff : isPlainLetter c = c.isAlpha := by
  rw [Bool.eq_iff_iff]
  simp [isPlainLetter, Char.isAlpha, Char.isUpper, Char.isLower, Char.le_def, or_comm]

lemma continuesName_of_isIdentifierPart (h : Text.isIdentifierPart c = true) :
    continuesName c = true := by
  unfold Text.isIdentifierPart at h
  unfold continuesName startsName
  rw [isPlainLetter_iff]
  split at h
  · simp only [Char.isAlphanum, Bool.or_eq_true] at h ⊢
    tauto
  · next hlarge => simp [Nat.le_of_not_lt hlarge]

lemma startsName_of_isIdentifierStart (h : Text.isIdentifierStart c = true) :
    startsName c = true := by
  unfold Text.isIdentifierStart at h
  unfold startsName
  rw [isPlainLetter_iff]
  split at h
  · simp only [Bool.or_eq_true] at h ⊢
    tauto
  · next hlarge => simp [Nat.le_of_not_lt hlarge]

lemma isQuote_eq_false_of_continuesName (h : continuesName c = true) : isQuote c = false := by
  rw [Bool.eq_false_iff]
  intro hquote
  simp only [isQuote, Bool.or_eq_true, beq_iff_eq] at hquote
  rcases hquote with rfl | rfl <;> exact absurd h (by decide)

lemma takeWhile_append_of_all {p : Char → Bool} (h : ∀ c ∈ cs, p c = true)
    (hnext : ∀ c ∈ next.head?, p c = false) : (cs ++ next).takeWhile p = cs := by
  rw [List.takeWhile_append_of_pos h]
  cases next with
  | nil => simp
  | cons d next => simp [hnext d rfl]

/-- No string starts at characters without a quotation mark that neither a letter nor a quotation
mark follows. -/
lemma stringStart?_eq_none (hcs : ∀ c ∈ cs, isQuote c = false)
    (hnext : ∀ c ∈ next.head?, isQuote c = false ∧ isPlainLetter c = false) :
    stringStart? (cs ++ next) = none := by
  have hletters : (((cs ++ next).take 3).takeWhile isPlainLetter).length ≤ cs.length := by
    by_contra hlt
    rw [Nat.not_le] at hlt
    obtain ⟨c, hc⟩ : ∃ c, (((cs ++ next).take 3).takeWhile isPlainLetter)[cs.length]? = some c :=
      ⟨_, List.getElem?_eq_getElem hlt⟩
    have hmem := List.mem_of_getElem? hc
    obtain ⟨more, hmore⟩ := (List.takeWhile_prefix isPlainLetter).trans
      (List.take_prefix 3 (cs ++ next))
    have hhead : next.head? = some c := by
      have hat : (cs ++ next)[cs.length]? = some c := by
        rw [← hmore, List.getElem?_append_left hlt, hc]
      rwa [List.getElem?_append_right (Nat.le_refl _), Nat.sub_self, ← List.head?_eq_getElem?] at hat
    exact absurd (List.mem_takeWhile_imp hmem) (by simp [(hnext c hhead).2])
  have hrest : ((cs ++ next).drop
      (((cs ++ next).take 3).takeWhile isPlainLetter).length).head?.any isQuote = false := by
    rw [List.head?_drop]
    generalize (((cs ++ next).take 3).takeWhile isPlainLetter).length = n at hletters
    rcases Nat.lt_or_eq_of_le hletters with hlt | rfl
    · rw [List.getElem?_append_left hlt, List.getElem?_eq_getElem hlt]
      exact hcs _ (List.getElem_mem hlt)
    · rw [List.getElem?_append_right (Nat.le_refl _), Nat.sub_self, ← List.head?_eq_getElem?]
      cases hhead : next.head? with
      | none => rfl
      | some d => exact (hnext d hhead).1
  unfold stringStart?
  simp only [hrest, Bool.false_and, Bool.false_eq_true, if_false]

/-- A name is a lexeme in front of a text that does not continue it and starts with no quotation
mark. -/
theorem fits_name {n : String} (hn : isName n.toList = true)
    (hnext : ∀ c ∈ next.head?, continuesName c = false ∧ isQuote c = false) :
    (Word.name n).Fits next := by
  obtain ⟨c, more, hchars⟩ : ∃ c more, n.toList = c :: more := by
    cases h : n.toList with
    | nil =>
      rw [h] at hn
      cases hn
    | cons c more => exact ⟨c, more, rfl⟩
  have hparts := hn
  rw [hchars, isName, Bool.and_eq_true, List.all_eq_true] at hparts
  have hstarts := startsName_of_isIdentifierStart hparts.1
  have hcontinues : ∀ d ∈ n.toList, continuesName d = true := by
    intro d hd
    rw [hchars, List.mem_cons] at hd
    rcases hd with rfl | hd
    · rw [continuesName, hstarts, Bool.true_or]
    · exact continuesName_of_isIdentifierPart (hparts.2 d hd)
  have hstart : stringStart? (n.toList ++ next) = none := by
    apply stringStart?_eq_none
    · exact fun d hd => isQuote_eq_false_of_continuesName (hcontinues d hd)
    · intro d hd
      obtain ⟨hcontinue, hquote⟩ := hnext d hd
      refine ⟨hquote, ?_⟩
      simp only [continuesName, startsName, Bool.or_eq_false_iff] at hcontinue
      exact hcontinue.1.1.1
  have hname : (n.toList ++ next).takeWhile continuesName = n.toList :=
    takeWhile_append_of_all hcontinues fun d hd => (hnext d hd).1
  refine ⟨?_, c, more, hchars, ?_, ?_⟩
  · rw [Word.chars, lexeme.eq_def, hstart]
    dsimp only
    rw [hname, hchars]
    dsimp only [List.cons_append]
    rw [if_pos hstarts, ← hchars, if_pos hn]
    simp [hchars]
  · rw [Bool.eq_false_iff]
    intro hspace
    simp only [isSpacing, Bool.or_eq_true, beq_iff_eq] at hspace
    rcases hspace with (rfl | rfl) | rfl <;> exact absurd hstarts (by decide)
  · intro hmem
    simp only [List.mem_cons, List.not_mem_nil, or_false] at hmem
    rcases hmem with rfl | rfl | rfl <;> exact absurd hstarts (by decide)

/-! ## Operators -/

/-- The character begins nothing but operators. -/
def beginsOperator (c : Char) : Bool :=
  !startsName c && !isQuote c && !c.isDigit && Text.isPrinting c && !isSpacing c &&
    !(['\n', '\\', '#'].contains c)

/-- An operator is a lexeme in front of a text with which it forms no longer one. -/
theorem fits_operator {o : String} (c : Char) (more : List Char) (ho : o.toList = c :: more)
    (hc : beginsOperator c = true) (hpoint : c = '.' → ∀ d ∈ (more ++ next).head?, d.isDigit = false)
    (hscan : scanOperator (o.toList ++ next) = (o.toList, next)) : (Word.op o).Fits next := by
  simp only [beginsOperator, Bool.and_eq_true, Bool.not_eq_true'] at hc
  obtain ⟨⟨⟨⟨⟨hstarts, hquote⟩, hdigit⟩, hprint⟩, hspace⟩, hcode⟩ := hc
  have hletter : isPlainLetter c = false := by
    simp only [startsName, Bool.or_eq_false_iff] at hstarts
    exact hstarts.1.1
  have hstart : stringStart? ([] ++ c :: (more ++ next)) = none := by
    apply stringStart?_eq_none
    · simp
    · simp [hquote, hletter]
  rw [List.nil_append] at hstart
  have hnumber : (c.isDigit || (c == '.' && (more ++ next).head?.any Char.isDigit)) = false := by
    by_cases hdot : c = '.'
    · cases hhead : (more ++ next).head? with
      | none => simp [hdigit]
      | some d => simp [hdigit, hpoint hdot d hhead]
    · simp [hdigit, hdot]
  refine ⟨?_, c, more, ho, hspace, by simpa using hcode⟩
  rw [Word.chars, ho, List.cons_append] at *
  rw [lexeme.eq_def, hstart]
  dsimp only
  rw [if_neg (by simp [hstarts]), if_neg (by rw [hnumber]; exact Bool.false_ne_true),
    if_pos hprint, hscan]

/-! ## Numbers -/

/-- Digits with single underscores between them. -/
def isDigits : List Char → Bool
  | [] => false
  | [c] => c.isDigit
  | c :: '_' :: rest => c.isDigit && isDigits rest
  | c :: rest => c.isDigit && isDigits rest

/-- A decimal number: only zeros stand after a leading zero. -/
def isDecimal (cs : List Char) : Bool :=
  isDigits cs && (cs.head? != some '0' || cs.all fun c => c == '0' || c == '_')

lemma exists_cons_of_isDigits (h : isDigits cs = true) :
    ∃ c rest, cs = c :: rest ∧ c.isDigit = true := by
  induction cs using isDigits.induct with
  | case1 => cases h
  | case2 c => exact ⟨c, [], rfl, h⟩
  | case3 c rest _ =>
    rw [isDigits, Bool.and_eq_true] at h
    exact ⟨c, _, rfl, h.1⟩
  | case4 c rest hne hline _ =>
    rw [isDigits, Bool.and_eq_true] at h
    · exact ⟨c, _, rfl, h.1⟩
    · exact hne
    · exact hline

lemma isDigit_or_of_isDigits (h : isDigits cs = true) : ∀ d ∈ cs, d.isDigit = true ∨ d = '_' := by
  induction cs using isDigits.induct with
  | case1 => cases h
  | case2 c =>
    rw [isDigits] at h
    simp [h]
  | case3 c rest ih =>
    rw [isDigits, Bool.and_eq_true] at h
    simpa [h.1] using ih h.2
  | case4 c rest hne hline ih =>
    rw [isDigits, Bool.and_eq_true] at h
    · simpa [h.1] using ih h.2
    · exact hne
    · exact hline

/-- A run of digits ends before a character that is neither a digit nor an underscore. -/
lemma digitRun_of_isDigits (h : isDigits cs = true)
    (hnext : ∀ c ∈ next.head?, c.isDigit = false ∧ c ≠ '_') :
    digitRun Char.isDigit (cs ++ next) = some (cs, next) := by
  induction cs using isDigits.induct with
  | case1 => cases h
  | case2 c =>
    have hend : digitRun Char.isDigit next = some ([], next) := by
      cases next with
      | nil => rfl
      | cons d next =>
        obtain ⟨hdigit, hline⟩ := hnext d rfl
        rw [digitRun.eq_def]
        simp [hdigit, hline]
    rw [isDigits] at h
    rw [List.cons_append, List.nil_append, digitRun.eq_def]
    simp [h, hend]
  | case3 c rest ih =>
    rw [isDigits, Bool.and_eq_true] at h
    have hrest := ih h.2
    obtain ⟨d, more, rfl, hd⟩ := exists_cons_of_isDigits h.2
    rw [List.cons_append] at hrest
    have hline : digitRun Char.isDigit ('_' :: d :: (more ++ next)) =
        some ('_' :: d :: more, next) := by
      rw [digitRun.eq_def]
      simp [hd, hrest]
    rw [List.cons_append, List.cons_append, List.cons_append, digitRun.eq_def]
    simp [h.1, hline]
  | case4 c rest hne hline ih =>
    rw [isDigits, Bool.and_eq_true] at h
    · rw [List.cons_append, digitRun.eq_def]
      simp [h.1, ih h.2]
    · exact hne
    · exact hline

lemma continuesName_of_isDigit (h : c.isDigit = true) : continuesName c = true := by
  rw [continuesName, h, Bool.or_true]

lemma isPlainLetter_eq_false_of_isDigit (h : c.isDigit = true) : isPlainLetter c = false := by
  rw [Bool.eq_false_iff]
  intro hletter
  simp only [Char.isDigit, isPlainLetter, Char.le_def, Bool.and_eq_true, Bool.or_eq_true,
    decide_eq_true_eq, ge_iff_le, UInt32.le_iff_toNat_le] at h hletter
  have h9 : ('9' : Char).val.toNat = 57 := rfl
  have hA : ('A' : Char).val.toNat = 65 := rfl
  have ha : ('a' : Char).val.toNat = 97 := rfl
  omega

/-- Digits that no further part of a number follows are a number. -/
lemma exponentPart_eq (hnext : ∀ c ∈ next.head?, continuesName c = false) (taken : List Char) :
    exponentPart taken next = some (taken, next) := by
  cases next with
  | nil => rfl
  | cons d next =>
    have hd := hnext d rfl
    have hne : d ∉ ['e', 'E', 'j', 'J'] := by
      intro hmem
      simp only [List.mem_cons, List.not_mem_nil, or_false] at hmem
      rcases hmem with rfl | rfl | rfl | rfl <;> exact absurd hd (by decide)
    simp only [List.mem_cons, List.not_mem_nil, or_false, not_or] at hne
    simp [exponentPart, imaginaryPart, endNumber, numberEndsAt, hne, hd]

/-- A decimal number ends before a text that does not continue it. -/
lemma scanNumber_of_isDecimal (h : isDecimal cs = true)
    (hnext : ∀ c ∈ next.head?, continuesName c = false ∧ c ≠ '.') :
    scanNumber (cs ++ next) = some (cs, next) := by
  rw [isDecimal, Bool.and_eq_true] at h
  obtain ⟨hdigits, hzero⟩ := h
  obtain ⟨c, more, hcs, hc⟩ := exists_cons_of_isDigits hdigits
  have hplain : scanNumber.plain (cs ++ next) = some (cs, next) := by
    have hrun : digitRun Char.isDigit (cs ++ next) = some (cs, next) := by
      apply digitRun_of_isDigits hdigits
      intro d hd
      have hd' := (hnext d hd).1
      simp only [continuesName, startsName, Bool.or_eq_false_iff, beq_eq_false_iff_ne] at hd'
      exact ⟨hd'.2, hd'.1.1.2⟩
    have hexponent := exponentPart_eq (fun d hd => (hnext d hd).1) cs
    have hzeros : (cs.head? == some '0' && !(cs.all fun c => c == '0' || c == '_')) = false := by
      rw [Bool.or_eq_true] at hzero
      rcases hzero with hhead | hall
      · have hne : (cs.head? == some '0') = false := by simpa using hhead
        rw [hne, Bool.false_and]
      · rw [hall, Bool.not_true, Bool.and_false]
    unfold scanNumber.plain
    rw [hrun]
    dsimp only [bind, Option.bind]
    split
    · next rest => exact absurd rfl (hnext '.' rfl).2
    · rw [hexponent]
      simp [hzeros]
  have hmarker : ∀ x ∈ (more ++ next).head?, x ∉ ['x', 'X', 'o', 'O', 'b', 'B'] := by
    intro x hx hmem
    obtain ⟨hdigit, hline, hcontinues⟩ :
        x.isDigit = false ∧ x ≠ '_' ∧ continuesName x = true := by
      simp only [List.mem_cons, List.not_mem_nil, or_false] at hmem
      rcases hmem with rfl | rfl | rfl | rfl | rfl | rfl <;> decide
    cases more with
    | nil => exact absurd (hnext x hx).1 (by simp [hcontinues])
    | cons d more =>
      obtain rfl : d = x := Option.some.inj hx
      rcases isDigit_or_of_isDigits hdigits d (by simp [hcs]) with hd | hd
      · exact absurd hd (by simp [hdigit])
      · exact hline hd
  have hpoint : c ≠ '.' := by
    rintro rfl
    exact absurd hc (by decide)
  rw [hcs, List.cons_append] at hplain ⊢
  unfold scanNumber
  split
  · next rest x more' heq =>
    have hx := hmarker x (by rw [(List.cons.inj heq).2]; rfl)
    simp only [List.mem_cons, List.not_mem_nil, or_false, not_or] at hx
    simp [hx, hplain]
  · next rest more' heq => exact absurd (List.cons.inj heq).1 hpoint
  · exact hplain

/-- A decimal number is a lexeme in front of a text that does not continue it. -/
theorem fits_number {n : String} (hn : isDecimal n.toList = true)
    (hnext : ∀ c ∈ next.head?, continuesName c = false ∧ c ≠ '.' ∧ isQuote c = false) :
    (Word.number n).Fits next := by
  have hdigits : isDigits n.toList = true := (Bool.and_eq_true _ _ ▸ hn).1
  obtain ⟨c, more, hchars, hc⟩ := exists_cons_of_isDigits hdigits
  have hstart : stringStart? (n.toList ++ next) = none := by
    apply stringStart?_eq_none
    · intro d hd
      apply isQuote_eq_false_of_continuesName
      rcases isDigit_or_of_isDigits hdigits d hd with hd | rfl
      · exact continuesName_of_isDigit hd
      · rfl
    · intro d hd
      obtain ⟨hcontinues, -, hquote⟩ := hnext d hd
      simp only [continuesName, startsName, Bool.or_eq_false_iff] at hcontinues
      exact ⟨hquote, hcontinues.1.1.1⟩
  have hstarts : startsName c = false := by
    have hletter := isPlainLetter_eq_false_of_isDigit hc
    have hline : c ≠ '_' := by
      rintro rfl
      exact absurd hc (by decide)
    have hsmall : c.toNat < 128 := by
      simp only [Char.isDigit, Bool.and_eq_true, decide_eq_true_eq, UInt32.le_iff_toNat_le] at hc
      have h9 : ('9' : Char).val.toNat = 57 := rfl
      have hval : c.toNat = c.val.toNat := rfl
      omega
    simp [startsName, hletter, hline, hsmall]
  have hscan := scanNumber_of_isDecimal hn fun d hd => ⟨(hnext d hd).1, (hnext d hd).2.1⟩
  have hspace : isSpacing c = false ∧ c ∉ ['\n', '\\', '#'] := by
    refine ⟨?_, ?_⟩
    · rw [Bool.eq_false_iff]
      intro h
      simp only [isSpacing, Bool.or_eq_true, beq_iff_eq] at h
      rcases h with (rfl | rfl) | rfl <;> exact absurd hc (by decide)
    · intro hmem
      simp only [List.mem_cons, List.not_mem_nil, or_false] at hmem
      rcases hmem with rfl | rfl | rfl <;> exact absurd hc (by decide)
  refine ⟨?_, c, more, hchars, hspace⟩
  rw [Word.chars]
  rw [hchars, List.cons_append] at hstart hscan ⊢
  rw [lexeme.eq_def, hstart]
  dsimp only
  rw [if_neg (by simp [hstarts]), if_pos (by simp [hc]), hscan]
  rfl

end BlockText.Source

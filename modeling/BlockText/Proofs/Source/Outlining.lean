import BlockText.Proofs.Source.Brackets
import BlockText.Proofs.Source.Spelling

/-!
# The outline of a line of code

The outline of a line without quotation marks, comments and backslashes: every item of it is a
token, no bracket hides in a number or a name, and in the end as many brackets are open as the
characters of the line say.
-/

namespace BlockText.Source

open Syntax

variable {c : Char} {cs rest taken : List Char} {r : Option (List Char × List Char)} {line : ℕ}

/-! ## Numbers -/

/-- A character that may stand in a number. -/
def isNumberPart (c : Char) : Bool := continuesName c || c == '.' || c == '+' || c == '-'

/-- No bracket stands in a number. -/
lemma isBracket_of_isNumberPart (h : isNumberPart c = true) : isBracket c = false :=
  isBracket_of_forall (by decide) h

/-- What stands in names may stand in numbers. -/
lemma isNumberPart_of_continuesName (h : continuesName c = true) : isNumberPart c = true := by
  simp [isNumberPart, h]

/-- Digits stand in numbers. -/
lemma isNumberPart_of_isDigit (h : c.isDigit = true) : isNumberPart c = true :=
  isNumberPart_of_continuesName (continuesName_of_isDigit h)

/-- What is taken off the front of a text, behind what has been taken before, may stand in a
number. -/
def TakesPlain (taken cs : List Char) (r : Option (List Char × List Char)) : Prop :=
  ∀ s rest, r = some (s, rest) →
    ∃ more, s = taken ++ more ∧ cs = more ++ rest ∧ ∀ c ∈ more, isNumberPart c = true

/-- What takes nothing takes no brackets. -/
lemma takesPlain_none : TakesPlain taken cs none := fun _ _ h => by cases h

/-- What stays where it is takes no brackets. -/
lemma takesPlain_some : TakesPlain taken cs (some (taken, cs)) := by
  rintro _ _ ⟨⟩
  exact ⟨[], by simp, rfl, by simp⟩

/-- A character of a number may be taken before the rest. -/
lemma TakesPlain.cons (hc : isNumberPart c = true) (h : TakesPlain (taken ++ [c]) cs r) :
    TakesPlain taken (c :: cs) r := by
  intro s rest hr
  obtain ⟨more, rfl, rfl, hmore⟩ := h s rest hr
  exact ⟨c :: more, by simp, rfl, by simpa [hc] using hmore⟩

/-- Parts of numbers are taken one after another. -/
lemma TakesPlain.bind {f : List Char × List Char → Option (List Char × List Char)}
    (h : TakesPlain [] cs r) (hf : ∀ ds rest, TakesPlain (taken ++ ds) rest (f (ds, rest))) :
    TakesPlain taken cs (r >>= f) := by
  intro s rest hr
  obtain ⟨⟨ds, after⟩, hds, hs⟩ := Option.bind_eq_some_iff.mp hr
  obtain ⟨_, rfl, rfl, hmore⟩ := h ds after hds
  obtain ⟨more, rfl, rfl, hmore'⟩ := hf _ after s rest hs
  refine ⟨ds ++ more, by simp, by simp, fun c hc => ?_⟩
  exact (List.mem_append.mp hc).elim (hmore c) (hmore' c)

/-- A character of a number may be put in front of the rest. -/
lemma TakesPlain.map_cons (hc : isNumberPart c = true) (h : TakesPlain [] cs r) :
    TakesPlain [] (c :: cs) (r.map fun p => (c :: p.1, p.2)) := by
  intro s rest hr
  obtain ⟨⟨ds, after⟩, hds, heq⟩ := Option.map_eq_some_iff.mp hr
  cases heq
  obtain ⟨_, rfl, rfl, hmore⟩ := h ds after hds
  exact ⟨c :: ds, rfl, rfl, by simpa [hc] using hmore⟩

/-- A run of digits takes no brackets. -/
lemma takesPlain_digitRun {p : Char → Bool} (hp : ∀ c, p c = true → isNumberPart c = true)
    (cs : List Char) : TakesPlain [] cs (digitRun p cs) := by
  induction cs with
  | nil => exact takesPlain_some
  | cons c cs ih =>
    rw [digitRun.eq_def]
    dsimp only
    split
    · next hc => exact ih.map_cons (hp c hc)
    · split
      · next hline =>
        obtain rfl : c = '_' := by simpa using hline
        split
        · split
          · exact ih.map_cons rfl
          · exact takesPlain_none
        · exact takesPlain_none
      · exact takesPlain_some

/-- The end of a number takes no brackets. -/
lemma takesPlain_endNumber (taken cs : List Char) : TakesPlain taken cs (endNumber taken cs) := by
  unfold endNumber
  split
  · exact takesPlain_some
  · exact takesPlain_none

/-- An imaginary unit is no bracket. -/
lemma takesPlain_imaginaryPart (taken cs : List Char) :
    TakesPlain taken cs (imaginaryPart taken cs) := by
  cases cs with
  | nil => exact takesPlain_endNumber taken []
  | cons c cs =>
    rw [imaginaryPart]
    split
    · next hc =>
      have hplain : isNumberPart c = true := by
        simp only [Bool.or_eq_true, beq_iff_eq] at hc
        rcases hc with rfl | rfl <;> rfl
      exact (takesPlain_endNumber _ cs).cons hplain
    · exact takesPlain_endNumber taken (c :: cs)

/-- An exponent takes no brackets. -/
lemma takesPlain_exponentPart (taken cs : List Char) :
    TakesPlain taken cs (exponentPart taken cs) := by
  have hrun := takesPlain_digitRun (p := Char.isDigit) fun c => isNumberPart_of_isDigit
  cases cs with
  | nil => exact takesPlain_some
  | cons c cs =>
    rw [exponentPart.eq_def]
    dsimp only
    split
    · next hc =>
      have hplain : isNumberPart c = true := by
        simp only [Bool.or_eq_true, beq_iff_eq] at hc
        rcases hc with rfl | rfl <;> rfl
      cases cs with
      | nil => exact takesPlain_endNumber taken [c]
      | cons s more =>
        dsimp only
        split
        · next hs =>
          have hsign : isNumberPart s = true := by
            simp only [Bool.or_eq_true, beq_iff_eq] at hs
            rcases hs with rfl | rfl <;> rfl
          split
          · refine TakesPlain.cons hplain (TakesPlain.cons hsign ((hrun more).bind fun ds rest => ?_))
            simpa using takesPlain_imaginaryPart (taken ++ [c, s] ++ ds) rest
          · exact takesPlain_none
        · split
          · refine TakesPlain.cons hplain ((hrun (s :: more)).bind fun ds rest => ?_)
            exact takesPlain_imaginaryPart (taken ++ [c] ++ ds) rest
          · exact takesPlain_endNumber taken (c :: s :: more)
    · exact takesPlain_imaginaryPart taken (c :: cs)

/-- A fraction takes no brackets. -/
lemma takesPlain_fractionPart (taken cs : List Char) :
    TakesPlain taken cs (fractionPart taken cs) := by
  unfold fractionPart
  split
  · exact (takesPlain_digitRun (fun c => isNumberPart_of_isDigit) cs).bind fun ds rest =>
      takesPlain_exponentPart (taken ++ ds) rest
  · exact takesPlain_exponentPart taken cs

/-- A number with a base takes no brackets. -/
lemma takesPlain_basedNumber {p : Char → Bool} (hp : ∀ c, p c = true → isNumberPart c = true)
    (marker cs : List Char) : TakesPlain marker cs (basedNumber marker p cs) := by
  unfold basedNumber
  refine iteInduction (fun _ => ?_) fun _ => takesPlain_none
  refine (takesPlain_digitRun hp cs).bind fun ds rest => ?_
  dsimp only
  split
  · exact takesPlain_none
  · exact takesPlain_endNumber (marker ++ ds) rest

/-- What follows a run of digits goes on with it. -/
lemma TakesPlain.bind_from {f : List Char × List Char → Option (List Char × List Char)}
    (h : TakesPlain taken cs r) (hf : ∀ ds rest, TakesPlain ds rest (f (ds, rest))) :
    TakesPlain taken cs (r >>= f) := by
  intro s rest hr
  obtain ⟨⟨ds, after⟩, hds, hs⟩ := Option.bind_eq_some_iff.mp hr
  obtain ⟨more, rfl, rfl, hmore⟩ := h ds after hds
  obtain ⟨more', rfl, rfl, hmore'⟩ := hf _ after s rest hs
  refine ⟨more ++ more', by simp, by simp, fun c hc => ?_⟩
  exact (List.mem_append.mp hc).elim (hmore c) (hmore' c)

/-- A plain number takes no brackets. -/
lemma takesPlain_plain (hc : c.isDigit = true) (cs : List Char) :
    TakesPlain [c] cs (scanNumber.plain (c :: cs)) := by
  have hrun : TakesPlain [c] cs (digitRun Char.isDigit (c :: cs)) := by
    rw [digitRun.eq_def]
    dsimp only
    rw [if_pos hc]
    intro s rest hr
    obtain ⟨⟨ds, after⟩, hds, heq⟩ := Option.map_eq_some_iff.mp hr
    cases heq
    obtain ⟨_, rfl, hsplit, hmore⟩ :=
      takesPlain_digitRun (fun c => isNumberPart_of_isDigit) cs ds after hds
    exact ⟨ds, rfl, hsplit, hmore⟩
  refine hrun.bind_from fun ds rest => ?_
  dsimp only
  split
  · next more => exact TakesPlain.cons rfl (takesPlain_fractionPart (ds ++ ['.']) more)
  · intro s after hr
    obtain ⟨⟨s', after'⟩, hexponent, hr⟩ := Option.bind_eq_some_iff.mp hr
    dsimp only at hr
    split at hr
    · cases hr
    · cases hr
      exact takesPlain_exponentPart ds rest s after hexponent

/-- Digits of every base continue names. -/
lemma continuesName_of_isHexDigit (h : isHexDigit c = true) : continuesName c = true := by
  simp only [isHexDigit, Bool.or_eq_true, Bool.and_eq_true, decide_eq_true_eq] at h
  rcases h with (hdigit | ⟨hlow, hhigh⟩) | ⟨hlow, hhigh⟩
  · exact continuesName_of_isDigit hdigit
  · have hz : c ≤ 'z' := Char.le_trans hhigh (by decide)
    simp [continuesName, startsName, isPlainLetter, hlow, hz]
  · have hz : c ≤ 'Z' := Char.le_trans hhigh (by decide)
    simp [continuesName, startsName, isPlainLetter, hlow, hz]

/-- Octal digits are digits. -/
lemma isDigit_of_octal (h : ('0' ≤ c && c ≤ '7') = true) : c.isDigit = true := by
  simp only [Bool.and_eq_true, decide_eq_true_eq, Char.le_def, UInt32.le_iff_toNat_le] at h
  simp only [Char.isDigit, Bool.and_eq_true, decide_eq_true_eq, ge_iff_le, UInt32.le_iff_toNat_le]
  have h0 : ('0' : Char).val.toNat = 48 := rfl
  have h7 : ('7' : Char).val.toNat = 55 := rfl
  have h9 : ('9' : Char).val.toNat = 57 := rfl
  omega

/-- Behind its first character a number goes on with characters of numbers. -/
lemma takesPlain_scanNumber (hc : c.isDigit = true ∨ c = '.') (cs : List Char) :
    TakesPlain [c] cs (scanNumber (c :: cs)) := by
  unfold scanNumber
  split
  · next x rest heq =>
    obtain ⟨rfl, rfl⟩ := List.cons.inj heq
    have hmarked : ∀ {p : Char → Bool}, (∀ c, p c = true → continuesName c = true) →
        continuesName x = true → TakesPlain ['0'] (x :: rest) (basedNumber ['0', x] p rest) :=
      fun hp hx => TakesPlain.cons (isNumberPart_of_continuesName hx)
        (takesPlain_basedNumber (fun c hc => isNumberPart_of_continuesName (hp c hc)) _ rest)
    have hmarker : ∀ {a b : Char}, (x == a || x == b) = true → continuesName a = true →
        continuesName b = true → continuesName x = true := by
      intro a b hx ha hb
      simp only [Bool.or_eq_true, beq_iff_eq] at hx
      rcases hx with rfl | rfl
      · exact ha
      · exact hb
    refine iteInduction (fun hx => ?_) fun _ => iteInduction (fun ho => ?_) fun _ =>
      iteInduction (fun hb => ?_) fun _ => takesPlain_plain (by decide) _
    · exact hmarked (fun c => continuesName_of_isHexDigit) (hmarker hx (by decide) (by decide))
    · exact hmarked (fun c hc => continuesName_of_isDigit (isDigit_of_octal hc))
        (hmarker ho (by decide) (by decide))
    · refine hmarked (fun c hc => ?_) (hmarker hb (by decide) (by decide))
      simp only [Bool.or_eq_true, beq_iff_eq] at hc
      rcases hc with rfl | rfl <;> rfl
  · next rest heq =>
    obtain ⟨rfl, rfl⟩ := List.cons.inj heq
    exact takesPlain_fractionPart ['.'] cs
  · next hpoint =>
    refine takesPlain_plain (hc.resolve_right ?_) cs
    rintro rfl
    exact hpoint cs rfl

/-! ## Items of a line -/

/-- The character begins nothing but tokens of code on one line. -/
def isPlainCode (c : Char) : Bool := !(['\n', '\r', '\\', '#', '"', '\''].contains c)

/-- A character that may stand in front of code. -/
def isOutlineBlank (c : Char) : Bool := c == ' ' || c == '\t' || c == '\x0c'

/-- No bracket stands in a word. -/
lemma isBracket_of_isWordPart (h : Text.isWordPart c = true) : isBracket c = false :=
  isBracket_of_forall (by decide) h

/-- The first item of a line of code is a token that changes the nesting of brackets as its
characters do, or none, and then the line starts with no bracket. -/
lemma outlineItem_cases (hcode : ∀ d ∈ c :: cs, isPlainCode d = true) :
    (∃ chunk after, c :: cs = chunk ++ after ∧ chunk ≠ [] ∧
      outlineItem (c :: cs) = .token chunk.length after (net chunk)) ∨
      outlineItem (c :: cs) = .none ∧ isBracket c = false := by
  have hc := hcode c List.mem_cons_self
  simp only [isPlainCode, List.contains_cons, List.contains_nil, Bool.not_eq_true',
    Bool.or_eq_false_iff, beq_eq_false_iff_ne] at hc
  obtain ⟨hfeed, hreturn, hslash, hhash, -⟩ := hc
  unfold outlineItem
  dsimp only
  rw [if_neg (by simp [hfeed, hreturn]), if_neg (by simp [hslash]), if_neg (by simpa using hhash)]
  split
  · next hdigit =>
    have hdigit' : c.isDigit = true ∨ c = '.' := by
      simp only [Bool.or_eq_true, Bool.and_eq_true, beq_iff_eq] at hdigit
      exact hdigit.imp_right And.left
    have hplain : isBracket c = false := by
      rcases hdigit' with hdigit' | rfl
      · exact isBracket_of_continuesName (continuesName_of_isDigit hdigit')
      · rfl
    left
    split
    · next s rest hscan =>
      obtain ⟨more, rfl, rfl, hmore⟩ := takesPlain_scanNumber hdigit' cs s rest hscan
      refine ⟨c :: more, rest, rfl, List.cons_ne_nil _ _, ?_⟩
      have hmore := fun d hd => isBracket_of_isNumberPart (hmore d hd)
      rw [net_eq_zero (by simpa [hplain] using hmore)]
      rfl
    · refine ⟨[c], cs, rfl, List.cons_ne_nil _ _, ?_⟩
      rw [net_eq_zero (by simpa using hplain)]
      rfl
  · cases hfind : outlineOperators.find? (·.isPrefixOf (c :: cs)) with
    | some operator =>
      left
      have hmem := List.mem_of_find?_eq_some hfind
      have hprefix : operator.isPrefixOf (c :: cs) = true :=
        List.find?_some (p := fun o : List Char => o.isPrefixOf (c :: cs)) hfind
      obtain ⟨after, hafter⟩ := List.isPrefixOf_iff_prefix.mp hprefix
      have hoperators : ∀ o ∈ outlineOperators, o ≠ [] ∧ o.tail.any isBracket = false := by decide
      obtain ⟨hne, htail⟩ := hoperators operator hmem
      refine ⟨operator, after, hafter.symm, hne, ?_⟩
      cases operator with
      | nil => exact absurd rfl hne
      | cons d tail =>
        obtain ⟨rfl, rfl⟩ := List.cons.inj hafter
        have hnet : net (d :: tail) = turn d := by
          rw [net_cons, net_eq_zero (by simpa using htail), Int.add_zero]
        rw [hnet]
        simp [turn]
    | none =>
      have hstart : stringStart? (c :: cs) = none := by
        have hquotes : ∀ d ∈ c :: cs, isQuote d = false := by
          intro d hd
          have hplain := hcode d hd
          rw [Bool.eq_false_iff]
          intro hquote
          simp only [isQuote, Bool.or_eq_true, beq_iff_eq] at hquote
          rcases hquote with rfl | rfl <;> exact absurd hplain (by decide)
        have hempty : stringStart? (c :: cs ++ []) = none := stringStart?_eq_none hquotes (by simp)
        rwa [List.append_nil] at hempty
      rw [hstart]
      dsimp only
      by_cases hname : (c :: cs).takeWhile Text.isWordPart = []
      · right
        rw [hname]
        refine ⟨rfl, ?_⟩
        refine isBracket_of_forall (p := fun b => !outlineOperators.contains [b]) (by decide) ?_
        rw [Bool.not_eq_true', Bool.eq_false_iff, Ne, List.contains_iff_mem]
        intro hmem
        exact List.find?_eq_none.mp hfind [c] hmem (by simp)
      · left
        have hplain : ∀ d ∈ (c :: cs).takeWhile Text.isWordPart, isBracket d = false := fun d hd =>
          isBracket_of_isWordPart (List.mem_takeWhile_imp hd)
        have hsplit := List.prefix_iff_eq_append.mp
          (List.takeWhile_prefix (l := c :: cs) Text.isWordPart)
        refine ⟨_, _, hsplit.symm, hname, ?_⟩
        rw [net_eq_zero hplain, if_neg (by simpa using hname)]

/-! ## Lines -/

/-- What reading code on a line leads to. -/
structure OutlineState.Reads (s s' : OutlineState) (line : ℕ) (cs : List Char) : Prop where
  depth_eq : s'.depth = s.depth + net cs
  isContinued_eq : s'.isContinued = s.isContinued
  opened_eq : s'.opened = s.opened
  comments_eq : s'.comments = s.comments
  stops : s'.stopLines.head? = some line ∨
    s'.stopLines = s.stopLines ∧ ∀ c ∈ cs, isOutlineBlank c = true

/-- No bracket is blank. -/
lemma isBracket_of_isOutlineBlank (h : isOutlineBlank c = true) : isBracket c = false :=
  isBracket_of_forall (by decide) h

/-- Reading goes on behind a token. -/
lemma OutlineState.Reads.after_token {s s' : OutlineState} {before : List Char} {place : ℕ × ℕ}
    {nesting : ℤ} (hnesting : nesting = net before)
    (h : ({ s with depth := s.depth + nesting }.token place line).Reads s' line rest) :
    s.Reads s' line (before ++ rest) where
  depth_eq := by
    rw [h.depth_eq, net_append, hnesting]
    exact Int.add_assoc _ _ _
  isContinued_eq := h.isContinued_eq
  opened_eq := h.opened_eq
  comments_eq := h.comments_eq
  stops := .inl (h.stops.elim id fun hsame => by rw [hsame.1]; rfl)

/-- Code on a line is read to its end. -/
lemma reads_outlineCode (hcode : ∀ c ∈ cs, isPlainCode c = true) {fuel : ℕ} (hfuel : cs.length < fuel)
    (column : ℕ) (s : OutlineState) : s.Reads (outlineCode line fuel column cs s) line cs := by
  induction fuel generalizing cs column s with
  | zero => exact absurd hfuel (Nat.not_lt_zero _)
  | succ fuel ih =>
    obtain ⟨rest, hsplit⟩ := List.takeWhile_prefix (l := cs) isOutlineBlank
    have hblank : ∀ c ∈ cs.takeWhile isOutlineBlank, isOutlineBlank c = true := fun c hc =>
      List.mem_takeWhile_imp hc
    have hblanks : (cs.takeWhile fun c => c == ' ' || c == '\t' || c == '\x0c') =
        cs.takeWhile isOutlineBlank := rfl
    rw [outlineCode.eq_def]
    dsimp only
    rw [hblanks]
    generalize cs.takeWhile isOutlineBlank = blanks at hsplit hblank ⊢
    subst hsplit
    rw [List.drop_left]
    have hnet : net blanks = 0 := net_eq_zero fun c hc => isBracket_of_isOutlineBlank (hblank c hc)
    cases rest with
    | nil =>
      have hitem : outlineItem [] = .lineEnd := rfl
      rw [hitem]
      exact ⟨by simp [hnet], rfl, rfl, rfl, .inr ⟨rfl, by simpa using hblank⟩⟩
    | cons c rest =>
      rw [List.length_append, List.length_cons] at hfuel
      rcases outlineItem_cases fun d hd => hcode d (List.mem_append_right _ hd) with
        ⟨chunk, after, hchunk, hne, hitem⟩ | ⟨hitem, hc⟩
      · rw [hitem]
        dsimp only
        have hpos := List.length_pos_iff.mpr hne
        have hlength := congrArg List.length hchunk
        rw [List.length_append, List.length_cons] at hlength
        have hafter : ∀ d ∈ after, isPlainCode d = true := fun d hd =>
          hcode d (by simp [hchunk, hd])
        have hrest := ih hafter (by omega)
          (column + blanks.length + chunk.length)
          ({ s with depth := s.depth + net chunk }.token (line, column + blanks.length) line)
        have hbefore : net chunk = net (blanks ++ chunk) := by
          rw [net_append, hnet, Int.zero_add]
        rw [hchunk, ← List.append_assoc]
        exact hrest.after_token hbefore
      · obtain ⟨d, cs, hcons, hd⟩ : ∃ d cs, blanks ++ c :: rest = d :: cs ∧ isBracket d = false := by
          cases blanks with
          | nil => exact ⟨c, rest, rfl, hc⟩
          | cons b bs =>
            exact ⟨b, bs ++ c :: rest, rfl,
              isBracket_of_isOutlineBlank (hblank b List.mem_cons_self)⟩
        have hlength := congrArg List.length hcons
        rw [List.length_append, List.length_cons, List.length_cons] at hlength
        rw [hitem, hcons]
        dsimp only
        have hself : { s with depth := s.depth + 0 } = s := by rw [Int.add_zero]
        have hrest : ({ s with depth := s.depth + 0 }.token (line, column) line).Reads
            (outlineCode line fuel (column + 1) cs (s.token (line, column) line)) line cs := by
          rw [hself]
          exact ih (fun x hx => hcode x (by rw [hcons]; exact List.mem_cons_of_mem _ hx)) (by omega)
            _ _
        have hsingle : net [d] = 0 := net_eq_zero (by simpa using hd)
        exact hrest.after_token hsingle.symm

/-- A line of code whose brackets cancel is done where it ends. -/
theorem exists_outline_line (hcode : ∀ d ∈ c :: cs, isPlainCode d = true)
    (hblank : isOutlineBlank c = false) (hnet : net (c :: cs) = 0) :
    ∃ outline, Outline.ofLines [c :: cs] = .ok outline ∧ outline.comments = [] ∧
      outline.lastLine = 1 := by
  have hc := hcode c List.mem_cons_self
  simp only [isPlainCode, List.contains_cons, List.contains_nil, Bool.not_eq_true',
    Bool.or_eq_false_iff, beq_eq_false_iff_ne] at hc
  obtain ⟨hfeed, hreturn, -, hhash, -⟩ := hc
  have hreads : OutlineState.Reads {} (outlineCode 1 ((c :: cs).length + 1) 0 (c :: cs) {}) 1
      (c :: cs) := reads_outlineCode hcode (Nat.lt_succ_self _) 0 {}
  have hline : outlineLine 1 (c :: cs) {} =
      .ok (outlineCode 1 ((c :: cs).length + 1) 0 (c :: cs) {}) := by
    have hblanks : (c :: cs).takeWhile (fun c => c == ' ' || c == '\t' || c == '\x0c') = [] :=
      List.takeWhile_cons_of_neg (by simpa [isOutlineBlank] using hblank)
    unfold outlineLine
    simp only [hblanks]
    simp [hfeed, hreturn, hhash, outlineColumn, closeOutlineIndents]
  have hdone : (outlineCode 1 ((c :: cs).length + 1) 0 (c :: cs) {}).IsDone 1 := by
    refine ⟨hreads.depth_eq.trans (by rw [hnet]; rfl), hreads.isContinued_eq, hreads.opened_eq,
      hreads.comments_eq, hreads.stops.resolve_right fun hsame => ?_⟩
    rw [hsame.2 c List.mem_cons_self] at hblank
    cases hblank
  refine hdone.exists_outline ?_
  rw [outlineLines, hline]
  exact hdone.outlineLines_nil 2

end BlockText.Source

import BlockText.Proofs.Source.OutlineOrder
import BlockText.Proofs.Source.Standing.Simple

/-!
# Rows of a text and lines of code

The grammar reads a text with unified line breaks.  Where carriage returns are paired, each of its
lines is the front of a line of the text, so a mark stands on a line of the text, between the same
characters.

Where the grammar begins a line of code, the outline has a token: one that starts no later than the
first character of the line that is not blank, and ends on the line or below it.  So the last line
with code before a later place is no earlier line.
-/

namespace BlockText.Source

open Rule Syntax Text

variable {cs as bs before after front on rest tail : List Char} {c : Char} {m : Mark}

/-! ## Unified line breaks -/

/-- The characters of a line in front of its break stay as they are. -/
lemma exists_unifyBreaks_line (hpaired : returnsPaired (as ++ '\n' :: bs) = true)
    (hfeed : '\n' ∉ as) : returnsPaired bs = true ∧ ∃ text more, as = text ++ more ∧
      unifyBreaks (as ++ '\n' :: bs) = text ++ '\n' :: unifyBreaks bs := by
  induction as with
  | nil =>
    have hbs : returnsPaired bs = true := by simpa [returnsPaired] using hpaired
    exact ⟨hbs, [], [], rfl, by simp [unifyBreaks]⟩
  | cons c as ih =>
    rw [List.mem_cons, not_or] at hfeed
    rw [List.cons_append, returnsPaired, Bool.and_eq_true] at hpaired
    obtain ⟨hbs, text, more, has, hunify⟩ := ih hpaired.2 hfeed.2
    by_cases hreturn : c = '\r'
    · subst hreturn
      have hnil : as = [] := by
        have hhead : (as ++ '\n' :: bs).head? = some '\n' := by simpa using hpaired.1
        cases as with
        | nil => rfl
        | cons d as =>
          obtain rfl : d = '\n' := by simpa using hhead
          exact absurd List.mem_cons_self hfeed.2
      subst hnil
      exact ⟨hbs, [], ['\r'], rfl, by simp [unifyBreaks]⟩
    · refine ⟨hbs, c :: text, more, by rw [has, List.cons_append], ?_⟩
      rw [List.cons_append, unifyBreaks, hunify]
      · simp [hreturn]
      · rintro rest rfl
        exact absurd rfl hreturn

/-- A text without line feeds has no breaks at all. -/
lemma unifyBreaks_of_not_mem (hpaired : returnsPaired cs = true) (hfeed : '\n' ∉ cs) :
    unifyBreaks cs = cs := by
  have hreturn : '\r' ∉ cs := by
    induction cs with
    | nil => exact List.not_mem_nil
    | cons c cs ih =>
      rw [List.mem_cons, not_or] at hfeed
      rw [returnsPaired, Bool.and_eq_true] at hpaired
      rw [List.mem_cons, not_or]
      refine ⟨?_, ih hpaired.2 hfeed.2⟩
      rintro rfl
      have hhead : cs.head? = some '\n' := by simpa using hpaired.1
      exact hfeed.2 (List.mem_of_head? hhead)
  have happend := unifyBreaks_append_of_not_mem hreturn []
  rwa [List.append_nil, unifyBreaks, List.append_nil] at happend

/-! ## Rows -/

/-- The text before a character splits into whole lines and the characters on its line, and the
line goes on with the character. -/
structure IsRow (cs before : List Char) (c : Char) (front on rest : List Char) : Prop where
  split : before = front ++ on
  front_last : ∀ d ∈ front.getLast?, d = '\n'
  on_feed : '\n' ∉ on
  line : (linesKeepingFeeds cs)[front.count '\n']? = some (on ++ c :: rest)

/-- A character of the unified text stands in a row of the text itself. -/
lemma exists_isRow (hpaired : returnsPaired cs = true) (htail : ∀ d ∈ tail, d = '\n')
    (hsplit : unifyBreaks cs ++ tail = before ++ c :: after) (hc : c ≠ '\n') :
    ∃ front on rest, IsRow cs before c front on rest := by
  induction cs using lines_induction generalizing before with
  | last cs hfeed =>
    rw [unifyBreaks_of_not_mem hpaired hfeed] at hsplit
    rcases List.append_eq_append_iff.mp hsplit with ⟨more, hbefore, htail'⟩ | ⟨more, rfl, hafter⟩
    · have hmem : c ∈ tail := by simp [htail']
      exact absurd (htail c hmem) hc
    · rcases more with - | ⟨d, more⟩
      · have hmem : c ∈ tail := by
          rw [List.nil_append] at hafter
          simp [← hafter]
        exact absurd (htail c hmem) hc
      · obtain ⟨rfl, -⟩ := List.cons.inj hafter
        refine ⟨[], before, more, rfl, nofun, fun hmem => hfeed (by simp [hmem]), ?_⟩
        rw [linesKeepingFeeds_single hfeed (by simp)]
        rfl
  | line as bs has ih =>
    obtain ⟨hbs, text, breaks, rfl, hunify⟩ := exists_unifyBreaks_line hpaired has
    have htext : '\n' ∉ text := fun hmem => has (List.mem_append_left _ hmem)
    rw [hunify, List.append_assoc, List.cons_append] at hsplit
    rcases List.append_eq_append_iff.mp hsplit with ⟨more, rfl, hrest⟩ | ⟨more, rfl, hafter⟩
    · rcases more with - | ⟨d, more⟩
      · obtain ⟨rfl, -⟩ := List.cons.inj hrest
        exact absurd rfl hc
      · obtain ⟨rfl, hmore⟩ := List.cons.inj hrest
        obtain ⟨front, on, rest, hrow⟩ := ih hbs hmore
        have hcount : (text ++ '\n' :: front).count '\n' = front.count '\n' + 1 := by
          rw [List.count_append, List.count_eq_zero.mpr htext, List.count_cons_self, Nat.zero_add]
        refine ⟨text ++ '\n' :: front, on, rest, by rw [hrow.split]; simp, fun d hd => ?_,
          hrow.on_feed, ?_⟩
        · rcases front.eq_nil_or_concat with rfl | ⟨initial, last, rfl⟩
          · simpa using hd.symm
          · rw [List.concat_eq_append] at hrow
            refine hrow.front_last d ?_
            rw [List.concat_eq_append, ← List.cons_append, ← List.append_assoc,
              List.getLast?_concat] at hd
            rwa [List.getLast?_concat]
        · rw [hcount, linesKeepingFeeds_cons has, List.getElem?_cons_succ]
          exact hrow.line
    · rcases more with - | ⟨d, more⟩
      · obtain ⟨rfl, -⟩ := List.cons.inj hafter
        exact absurd rfl hc
      · obtain ⟨rfl, -⟩ := List.cons.inj hafter
        refine ⟨[], before, more ++ breaks ++ ['\n'], rfl, nofun,
          fun hmem => htext (by simp [hmem]), ?_⟩
        rw [linesKeepingFeeds_cons has]
        simp

/-- What the grammar reads is the text with unified line breaks, but for a last line feed. -/
lemma exists_readable (cs : List Char) :
    ∃ tail, readable cs = unifyBreaks cs ++ tail ∧ ∀ d ∈ tail, d = '\n' := by
  unfold readable
  dsimp only
  split
  · exact ⟨['\n'], rfl, by simp⟩
  · exact ⟨[], (List.append_nil _).symm, nofun⟩

/-- A character that the lexer reads stands in a row of the text itself. -/
lemma exists_isRow_readable (hpaired : returnsPaired cs = true)
    (hsplit : readable cs = before ++ c :: after) (hc : c ≠ '\n') :
    ∃ front on rest, IsRow cs before c front on rest := by
  obtain ⟨tail, hreadable, htail⟩ := exists_readable cs
  exact exists_isRow hpaired htail (hreadable.symm.trans hsplit) hc

/-- A mark moves on by as many lines as there are line feeds. -/
lemma Mark.advance_line (m : Mark) (cs : List Char) :
    (m.advance cs).line = m.line + cs.count '\n' := by
  induction cs generalizing m with
  | nil => rfl
  | cons c cs ih =>
    have hstep : m.advance (c :: cs) = (m.next c).advance cs := rfl
    rw [hstep, ih, Mark.next, List.count_cons]
    split <;> dsimp only <;> omega

/-- Behind whole lines there is nothing on the line. -/
lemma Mark.advance_column (h : ∀ d ∈ front.getLast?, d = '\n') (line : ℕ) :
    ((⟨line, 0⟩ : Mark).advance front).column = 0 := by
  rcases front.eq_nil_or_concat with rfl | ⟨initial, last, rfl⟩
  · rfl
  · obtain rfl := h last (by simp)
    rw [List.concat_eq_append, Mark.advance_append]
    rfl

/-- The mark of a place counts the lines before it and the bytes before it on its line. -/
lemma IsRow.advance_eq (h : IsRow cs before c front on rest) :
    (⟨1, 0⟩ : Mark).advance before = ⟨front.count '\n' + 1, byteCount on⟩ := by
  rw [h.split, Mark.advance_append, Mark.advance_eq h.on_feed, Mark.advance_line,
    Mark.advance_column h.front_last, Nat.zero_add, Nat.add_comm]

/-! ## Marks on lines -/

namespace SourceText

variable {t : SourceText} {T : Array Token} {m m' : Mark} {on' rest' : List Char} {i j : ℕ}

/-- A mark divides the line that it is on. -/
def Divides (t : SourceText) (m : Mark) (on rest : List Char) : Prop :=
  ∃ n, t.lines[n]? = some (on ++ rest) ∧ m = ⟨n + 1, byteCount on⟩

/-- A mark divides its line. -/
lemma Divides.line_eq (h : t.Divides m on rest) : t.line m.line = on ++ rest := by
  obtain ⟨n, hline, rfl⟩ := h
  exact line_of_getElem? hline

/-- A mark that divides a line is on a line of the text. -/
lemma Divides.line_le (h : t.Divides m on rest) : 1 ≤ m.line ∧ m.line ≤ t.lines.length := by
  obtain ⟨n, hline, rfl⟩ := h
  exact ⟨Nat.le_add_left 1 n, (List.getElem?_eq_some_iff.mp hline).1⟩

/-- A mark that divides a line is at the column of what is before it. -/
lemma Divides.positionAt_eq (h : t.Divides m on rest) :
    (t.positionAt m).place = toLex (m.line, on.length) := by
  obtain ⟨n, hline, rfl⟩ := h
  rw [positionAt_of_getElem? hline]
  rfl

/-- Marks that divide lines have positions in their own order. -/
lemma Divides.place_lt (h : t.Divides m on rest) (h' : t.Divides m' on' rest')
    (hlt : m.place < m'.place) : (t.positionAt m).place < (t.positionAt m').place := by
  rw [h.positionAt_eq, h'.positionAt_eq, Prod.Lex.toLex_lt_toLex]
  refine (Mark.place_lt_iff.mp hlt).imp_right ?_
  rintro ⟨hsame, hless⟩
  refine ⟨hsame, ?_⟩
  have hline : on ++ rest = on' ++ rest' := by rw [← h.line_eq, ← h'.line_eq, hsame]
  have hcolumn : byteCount on < byteCount on' := by
    obtain ⟨n, -, hm⟩ := h
    obtain ⟨n', -, hm'⟩ := h'
    rwa [hm, hm'] at hless
  by_contra hge
  have hprefix : on' <+: on := List.prefix_of_prefix_length_le (List.prefix_append on' rest')
    (hline ▸ List.prefix_append on rest) (Nat.le_of_not_lt hge)
  obtain ⟨more, rfl⟩ := hprefix
  rw [byteCount_append] at hcolumn
  exact absurd hcolumn (Nat.not_lt.mpr (Nat.le_add_right _ _))

/-- The tokens and the outline are those of the text. -/
structure Shows (t : SourceText) (T : Array Token) : Prop where
  lines_eq : t.lines = linesKeepingFeeds t.source.toList
  paired : returnsPaired t.source.toList = true
  placed : Placed ⟨1, 0⟩ (readable t.source.toList) T
  outline : Outline.ofLines t.lines = .ok t.outline

/-- The mark of a character divides the line in which it stands. -/
lemma divides_of_isRow (h : IsRow t.source.toList before c front on rest)
    (hlines : t.lines = linesKeepingFeeds t.source.toList) :
    t.Divides ((⟨1, 0⟩ : Mark).advance before) on (c :: rest) :=
  ⟨front.count '\n', by rw [hlines]; exact h.line, h.advance_eq⟩

namespace Shows

variable (h : t.Shows T)

include h

/-- What is before a token of code ends on the line that goes on with its first character. -/
lemma exists_isRow {u : Token}
    (hu : u.Placed ⟨1, 0⟩ (readable t.source.toList) T i before after) :
    ∃ front on c rest, IsRow t.source.toList before c front on rest ∧ opensLexeme c = true := by
  obtain ⟨c, hhead, hc⟩ := hu.first
  obtain ⟨more, htext⟩ := List.head?_eq_some_iff.mp hhead
  have hsplit : readable t.source.toList = before ++ c :: (more ++ after) := by
    rw [hu.split, htext]
    simp
  have hfeed : c ≠ '\n' := by
    rintro rfl
    exact absurd hc (by decide)
  obtain ⟨front, on, rest, hrow⟩ := exists_isRow_readable h.paired hsplit hfeed
  exact ⟨front, on, c, rest, hrow, hc⟩

/-- A token of code starts with its first character on a line. -/
lemma exists_divides_startAt (hi : IsCode T i) :
    ∃ on c rest, t.Divides (startAt T i) on (c :: rest) ∧ opensLexeme c = true := by
  obtain ⟨u, hu, hlayout⟩ := hi
  obtain ⟨before, after, hu'⟩ := h.placed.code i u hu hlayout
  obtain ⟨front, on, c, rest, hrow, hc⟩ := h.exists_isRow hu'
  refine ⟨on, c, rest, ?_, hc⟩
  rw [startAt_eq hu, hu'.start_eq]
  exact divides_of_isRow hrow h.lines_eq

/-- A token of code stops behind a character on a line. -/
lemma exists_divides_stop {u : Token} (hu : T[i]? = some u) (hlayout : u.isLayout = false) :
    ∃ on rest, t.Divides u.stop on rest := by
  obtain ⟨before, after, hu'⟩ := h.placed.code i u hu hlayout
  obtain ⟨c, hhead, -⟩ := hu'.first
  obtain ⟨first, last, htext⟩ : ∃ first last, u.text.toList = first ++ [last] := by
    rcases u.text.toList.eq_nil_or_concat with hnil | ⟨first, last, hconcat⟩
    · rw [hnil] at hhead
      cases hhead
    · exact ⟨first, last, by simpa using hconcat⟩
  have hfeed : last ≠ '\n' := by
    rintro rfl
    exact hu'.last (by rw [htext]; simp)
  have hsplit : readable t.source.toList = (before ++ first) ++ last :: after := by
    rw [hu'.split, htext]
    simp
  obtain ⟨front, on, rest, hrow⟩ := exists_isRow_readable h.paired hsplit hfeed
  have hstop : u.stop = ⟨front.count '\n' + 1, byteCount (on ++ [last])⟩ := by
    have hnext : ∀ m : Mark, m.advance [last] = ⟨m.line, m.column + last.utf8Size⟩ := by
      intro m
      rw [Mark.advance_eq (by simpa using Ne.symm hfeed)]
      simp [byteCount]
    rw [hu'.stop_eq, hu'.start_eq, ← Mark.advance_append, htext, ← List.append_assoc,
      Mark.advance_append, hrow.advance_eq, hnext, byteCount_append]
    simp [byteCount]
  refine ⟨on ++ [last], rest, front.count '\n', ?_, hstop⟩
  rw [h.lines_eq, hrow.line]
  simp

/-- The last code before a place stops on a line of the text, if there is any. -/
lemma exists_divides_stopBefore (hm : m.place < (stopBefore T j).place) :
    ∃ on rest, t.Divides (stopBefore T j) on rest := by
  rcases stopBefore_cases T j with ⟨hdefault, -⟩ | ⟨l, u, -, hu, hlayout, hstop, -⟩
  · rw [hdefault] at hm
    exact absurd hm (not_lt.mpr (default_place_le m))
  · rw [hstop]
    exact h.exists_divides_stop hu hlayout

end Shows

end SourceText

end BlockText.Source

namespace BlockText.Source

open Rule Syntax Text

variable {cs blanks rest : List Char} {c : Char} {line column n : ℕ} {place : ℕ × ℕ}
  {s s' s'' : OutlineState}

/-- Blanks stand at the front of the line, and code behind them. -/
def IsCodeLine (cs blanks : List Char) : Prop :=
  (∀ b ∈ blanks, isSpacing b = true) ∧
    ∃ c rest, cs = blanks ++ c :: rest ∧ opensLexeme c = true

/-- What the lexer skips is blank. -/
lemma isBlank_of_isSpacing (h : isSpacing c = true) : isBlank c = true := by
  simp only [isSpacing, Bool.or_eq_true, beq_iff_eq] at h
  rcases h with (rfl | rfl) | rfl <;> decide

/-- What opens a lexeme is not blank. -/
lemma isBlank_of_opensLexeme (h : opensLexeme c = true) : isBlank c = false := by
  simp only [opensLexeme, Bool.and_eq_true, Bool.not_eq_true'] at h
  exact h.1.1

/-- What opens a lexeme is not skipped. -/
lemma isSpacing_of_opensLexeme (h : opensLexeme c = true) : isSpacing c = false := by
  rw [Bool.eq_false_iff]
  intro hspacing
  have hblank := isBlank_of_opensLexeme h
  rw [isBlank_of_isSpacing hspacing] at hblank
  cases hblank

/-! ## Code in the outline -/

namespace OutlineState

/-- Everything that is recorded stays. -/
def Grows (s s' : OutlineState) : Prop :=
  ∀ p ∈ s.starts.zip s.stopLines, p ∈ s'.starts.zip s'.stopLines

/-- An outline has grown from itself. -/
lemma Grows.refl (s : OutlineState) : s.Grows s := fun _ hp => hp

/-- An outline that grows twice has grown. -/
lemma Grows.trans (h : s.Grows s') (h' : s'.Grows s'') : s.Grows s'' := fun p hp => h' p (h p hp)

/-- A token makes the outline grow. -/
lemma grows_token (start : ℕ × ℕ) (stop : ℕ) : s.Grows (s.token start stop) :=
  fun _ hp => List.mem_cons_of_mem _ hp

/-- A token is noted with its start and the line on which it ends. -/
lemma mem_token (start : ℕ × ℕ) (stop : ℕ) :
    (start, stop) ∈ (s.token start stop).starts.zip (s.token start stop).stopLines :=
  List.mem_cons_self

/-- The outline of code grows. -/
lemma grows_outlineCode (fuel : ℕ) (cs : List Char) :
    s.Grows (outlineCode line fuel column cs s) := by
  induction fuel generalizing column cs s with
  | zero => exact .refl s
  | succ fuel ih =>
    rw [outlineCode.eq_def]
    dsimp only
    generalize (cs.takeWhile fun c => c == ' ' || c == '\t' || c == '\x0c').length = blanks
    split
    · exact .refl s
    · exact .refl s
    · next text rest _ => exact ih (s := s.comment line (column + blanks) text) rest
    · next rest nesting _ =>
      have hnested : s.Grows { s with depth := s.depth + nesting } := .refl s
      exact (hnested.trans (grows_token _ _)).trans (ih rest)
    · exact .refl s
    · split
      · exact .refl s
      · exact (grows_token _ _).trans (ih _)

/-- What starts no later than a place is recorded to end on a line or below it, or is open. -/
def Reaches (s : OutlineState) (place : ℕ × ℕ) (n : ℕ) : Prop :=
  (∃ p ∈ s.starts.zip s.stopLines, toLex p.1 ≤ toLex place ∧ n ≤ p.2) ∨
    ∃ o, s.opened = some o ∧ toLex (o.line, o.column) ≤ toLex place

/-- An outline with a token reaches the places behind its start. -/
lemma reaches_of_token {start : ℕ × ℕ} (h : (s.token start n).Grows s')
    (hstart : toLex start ≤ toLex place) : s'.Reaches place n :=
  .inl ⟨_, h _ (mem_token start n), hstart, le_rfl⟩

/-- What an outline reaches it reaches after a further line, too. -/
lemma Reaches.outlineLine (h : s.Reaches place n) (hn : n ≤ line)
    (hrun : Source.outlineLine line cs s = .ok s') : s'.Reaches place n := by
  have hgrows : s.Grows s' → (s.opened = none ∨ s'.opened = s.opened) → s'.Reaches place n := by
    intro hgrows hopened
    rcases h with ⟨p, hp, hmore⟩ | ⟨o, ho, hplace⟩
    · exact .inl ⟨p, hgrows p hp, hmore⟩
    · rcases hopened with hnone | hsame
      · rw [hnone] at ho
        cases ho
      · exact .inr ⟨o, hsame.trans ho, hplace⟩
  unfold Source.outlineLine at hrun
  split at hrun
  · next o ho =>
    dsimp only at hrun
    generalize (if o.isTriple = true then closeTriple o.quote cs else closeSingle o.quote cs) =
      closed at hrun
    rcases closed with - | ⟨taken, rest⟩
    · cases hrun
      exact hgrows (.refl s) (.inr rfl)
    · cases hrun
      have hlast : ({ s with opened := none }.token (o.line, o.column) line).Grows
          (outlineCode line (cs.length + 1) taken.length rest
            ({ s with opened := none }.token (o.line, o.column) line)) := grows_outlineCode _ _
      rcases h with ⟨p, hp, hmore⟩ | ⟨o', ho', hplace⟩
      · exact .inl ⟨p, hlast p (grows_token (s := { s with opened := none }) _ _ p hp), hmore⟩
      · obtain rfl := Option.some.inj (ho.symm.trans ho')
        exact .inl ⟨_, hlast _ (mem_token _ _), hplace, hn⟩
  · next hopened =>
    have hindents : ∀ indents {fuel column rest},
        s.Grows (outlineCode line fuel column rest { s with indents }) := fun indents _ _ _ =>
      grows_outlineCode (s := { s with indents }) _ _
    refine hgrows ?_ (.inl hopened)
    dsimp only at hrun
    split at hrun
    · split at hrun
      · cases hrun
        exact .refl s
      · split at hrun
        · cases hrun
          exact .refl s
        · split at hrun
          · cases hrun
            exact .refl s
          · split at hrun
            · cases hrun
              exact hindents _
            · split at hrun
              · cases hrun
                exact hindents _
              · cases hrun
    · cases hrun
      exact grows_outlineCode (s := { s with isContinued := false }) _ _

/-- In the end nothing is open. -/
lemma Reaches.outlineLines {lines : List (List Char)} (h : s.Reaches place n) (hn : n ≤ line)
    (hrun : Source.outlineLines line lines s = .ok s') :
    ∃ p ∈ s'.starts.zip s'.stopLines, toLex p.1 ≤ toLex place ∧ n ≤ p.2 := by
  induction lines generalizing line s with
  | nil =>
    unfold Source.outlineLines at hrun
    split at hrun
    · cases hrun
    · next hopened =>
      split at hrun
      · cases hrun
        refine h.resolve_right ?_
        rintro ⟨o, ho, -⟩
        rw [hopened] at ho
        cases ho
      · cases hrun
  | cons cs lines ih =>
    unfold Source.outlineLines at hrun
    cases hline : Source.outlineLine line cs s with
    | error e =>
      rw [hline] at hrun
      cases hrun
    | ok s₁ =>
      rw [hline] at hrun
      exact ih (h.outlineLine hn hline) (Nat.le_succ_of_le hn) hrun

end OutlineState

open OutlineState

/-- The item is a token, a string that is open, or unknown. -/
def OutlineItem.isCode : OutlineItem → Bool
  | .token .. | .openString .. | .none => true
  | _ => false

/-- A string is code. -/
lemma isCode_outlineString (before : ℕ) (cs : List Char) :
    (outlineString before cs).isCode = true := by
  unfold outlineString
  split
  · rfl
  · split
    · split <;> rfl
    · split
      · rfl
      · split <;> rfl

/-- What opens a lexeme is no end, no continuation and no comment. -/
lemma isCode_outlineItem (hc : opensLexeme c = true) (rest : List Char) :
    (outlineItem (c :: rest)).isCode = true := by
  have hnot : ∀ d, opensLexeme d = false → c ≠ d := by
    rintro d hd rfl
    rw [hc] at hd
    cases hd
  unfold outlineItem
  dsimp only
  rw [if_neg (by simp [hnot '\n' (by decide), hnot '\r' (by decide)]),
    if_neg (by simp [hnot '\\' (by decide)]), if_neg (by simpa using hnot '#' (by decide))]
  split
  · split <;> rfl
  · split
    · rfl
    · split
      · split
        · split <;> rfl
        · exact isCode_outlineString _ _
      · split <;> rfl

/-- The blanks in front of code are all that is in front of it. -/
lemma takeWhile_blanks (hblanks : ∀ b ∈ blanks, isSpacing b = true) (hc : opensLexeme c = true)
    (rest : List Char) : (blanks ++ c :: rest).takeWhile
      (fun c => c == ' ' || c == '\t' || c == '\x0c') = blanks := by
  have hspacing : (blanks ++ c :: rest).takeWhile isSpacing = blanks := by
    rw [List.takeWhile_append_of_pos hblanks,
      List.takeWhile_cons_of_neg (by simp [isSpacing_of_opensLexeme hc]), List.append_nil]
  exact hspacing

/-- Code behind blanks is recorded on its line, or opens a string. -/
lemma reaches_outlineCode (hblanks : ∀ b ∈ blanks, isSpacing b = true) (hc : opensLexeme c = true)
    (fuel : ℕ) : (outlineCode line (fuel + 1) column (blanks ++ c :: rest) s).Reaches
      (line, column + blanks.length) line := by
  rw [outlineCode.eq_def]
  dsimp only
  rw [takeWhile_blanks hblanks hc, List.drop_left]
  have hcode := isCode_outlineItem hc rest
  split
  · next hitem => simp [hitem, OutlineItem.isCode] at hcode
  · next hitem => simp [hitem, OutlineItem.isCode] at hcode
  · next hitem => simp [hitem, OutlineItem.isCode] at hcode
  · exact reaches_of_token (grows_outlineCode _ _) le_rfl
  · exact .inr ⟨_, rfl, le_rfl⟩
  · split
    · next hnil => simp at hnil
    · refine reaches_of_token (grows_outlineCode _ _) ?_
      exact Prod.Lex.toLex_le_toLex.mpr (.inr ⟨rfl, Nat.le_add_right _ _⟩)

/-- The outline of a line of code reaches the start of its code. -/
lemma reaches_outlineLine (h : s.Precedes line 0) (hline : IsCodeLine cs blanks)
    (hrun : outlineLine line cs s = .ok s') : s'.Reaches (line, blanks.length) line := by
  cases hopened : s.opened with
  | some o =>
    have hreaches : s.Reaches (line, blanks.length) line := by
      refine .inr ⟨o, hopened, (h.opened_le o hopened).1.trans ?_⟩
      exact Prod.Lex.toLex_le_toLex.mpr (.inr ⟨rfl, Nat.zero_le _⟩)
    exact hreaches.outlineLine le_rfl hrun
  | none =>
    obtain ⟨hblanks, c, rest, rfl, hc⟩ := hline
    have hcode : ∀ (s : OutlineState) (fuel : ℕ),
        (outlineCode line (fuel + 1) blanks.length (c :: rest) s).Reaches
          (line, blanks.length) line := fun s fuel =>
      reaches_outlineCode (List.forall_mem_nil _) hc fuel
    unfold outlineLine at hrun
    rw [hopened] at hrun
    dsimp only at hrun
    rw [takeWhile_blanks hblanks hc, List.drop_left] at hrun
    dsimp only at hrun
    split at hrun
    · split at hrun
      · next hhash =>
        obtain rfl : c = '#' := by simpa using hhash
        exact absurd hc (by decide)
      · split at hrun
        · next hbreak =>
          simp only [Bool.or_eq_true, beq_iff_eq] at hbreak
          rcases hbreak with rfl | rfl <;> exact absurd hc (by decide)
        · split at hrun
          · cases hrun
            exact hcode _ _
          · split at hrun
            · cases hrun
              exact hcode _ _
            · cases hrun
    · cases hrun
      have hreaches : ∀ (s : OutlineState) (fuel : ℕ),
          (outlineCode line (fuel + 1) 0 (blanks ++ c :: rest) s).Reaches
            (line, blanks.length) line := by
        intro s fuel
        have hreaches : (outlineCode line (fuel + 1) 0 (blanks ++ c :: rest) s).Reaches
            (line, 0 + blanks.length) line := reaches_outlineCode hblanks hc fuel
        rwa [Nat.zero_add] at hreaches
      exact hreaches _ _

/-- The outline records what is on a line of code. -/
lemma exists_recorded {lines : List (List Char)} (h : s.Precedes line 0)
    (hline : lines[n]? = some cs) (hcode : IsCodeLine cs blanks)
    (hrun : outlineLines line lines s = .ok s') :
    ∃ p ∈ s'.starts.zip s'.stopLines,
      toLex p.1 ≤ toLex (line + n, blanks.length) ∧ line + n ≤ p.2 := by
  induction lines generalizing line n s with
  | nil => cases hline
  | cons first lines ih =>
    unfold outlineLines at hrun
    cases hfirst : outlineLine line first s with
    | error e =>
      rw [hfirst] at hrun
      cases hrun
    | ok s₁ =>
      rw [hfirst] at hrun
      cases n with
      | zero =>
        obtain rfl := Option.some.inj hline
        exact (reaches_outlineLine h hcode hfirst).outlineLines (Nat.le_succ line) hrun
      | succ n =>
        have hrest := ih (h.outlineLine hfirst) hline hrun
        rwa [Nat.add_assoc, Nat.add_comm 1 n] at hrest

namespace Outline

variable {o : Outline} {lines : List (List Char)}

/-- Before a place behind the start of a token, the last code ends no earlier than the token. -/
lemma stop_le_lastCodeLine (h : o.IsOrdered) {i stop line column : ℕ} {start : ℕ × ℕ}
    (hstart : o.starts[i]? = some start) (hstop : o.stopLines[i]? = some stop)
    (hlt : toLex start < toLex (line, column)) : stop ≤ o.lastCodeLine line column := by
  have hi := (lt_countBefore_iff h).mpr ⟨start, hstart, hlt⟩
  unfold lastCodeLine
  cases hcount : o.countBefore line column with
  | zero => omega
  | succ k =>
    obtain ⟨_, hk, -⟩ := (lt_countBefore_iff h).mp (show k < o.countBefore line column by omega)
    have hk' : k < o.stopLines.length := by
      rw [← h.starts_stop.length_eq]
      exact (List.getElem?_eq_some_iff.mp hk).1
    obtain ⟨hi', rfl⟩ := List.getElem?_eq_some_iff.mp hstop
    dsimp only
    rw [List.getElem?_eq_getElem hk', Option.getD_some]
    rcases Nat.eq_or_lt_of_le (show i ≤ k by omega) with rfl | hik
    · exact le_rfl
    · exact List.pairwise_iff_getElem.mp h.stops i k hi' hk' hik

/-- Before a place behind the first code of a line, the last code ends on the line or below it. -/
lemma le_lastCodeLine (h : ofLines lines = .ok o) (hline : lines[n]? = some cs)
    (hcode : IsCodeLine cs blanks) {line column : ℕ}
    (hlt : toLex (n + 1, blanks.length) < toLex (line, column)) :
    n + 1 ≤ o.lastCodeLine line column := by
  have horder := isOrdered_ofLines h
  cases hrun : outlineLines 1 lines {} with
  | error e =>
    rw [ofLines, hrun] at h
    cases h
  | ok s =>
    rw [ofLines, hrun] at h
    cases h
    have hempty : ({} : OutlineState).Precedes 1 0 := by
      constructor <;> simp
    obtain ⟨p, hp, hstart, hstop⟩ := exists_recorded hempty hline hcode hrun
    have hlength : s.starts.length = s.stopLines.length := by
      simpa using horder.starts_stop.length_eq
    have hmem : p ∈ s.starts.reverse.zip s.stopLines.reverse := by
      have hreverse := List.reverse_zipWith (f := Prod.mk) hlength
      rw [List.zip, ← hreverse]
      exact List.mem_reverse.mpr hp
    obtain ⟨i, hi⟩ := List.getElem?_of_mem hmem
    obtain ⟨hi, hi'⟩ := List.getElem?_zip_eq_some.mp hi
    rw [Nat.add_comm 1 n] at hstart hstop
    exact hstop.trans (stop_le_lastCodeLine horder hi hi' (hstart.trans_lt hlt))

end Outline

/-! ## Code in the grammar -/

/-- At the front of a line there are only blanks before a character. -/
lemma IsRow.isSpacing {before front on : List Char} (h : IsRow cs before c front on rest)
    (hfront : AtLineFront before) : ∀ b ∈ on, Source.isSpacing b = true := by
  obtain ⟨lead, blanks, hsplit, hblanks, hlead⟩ := hfront
  have hfeed : '\n' ∉ blanks := fun hmem => absurd (hblanks _ hmem) (by decide)
  have hempty : ∀ as bs : List Char, (∀ d ∈ (as ++ bs).getLast?, d = '\n') → '\n' ∉ bs →
      bs = [] := by
    intro as bs hlast hbs
    rcases bs.eq_nil_or_concat with rfl | ⟨initial, last, rfl⟩
    · rfl
    · obtain rfl := hlast last (by simp)
      exact absurd (by simp) hbs
  rcases List.append_eq_append_iff.mp (h.split.symm.trans hsplit) with
    ⟨more, rfl, rfl⟩ | ⟨more, rfl, rfl⟩
  · obtain rfl := hempty front more hlead fun hmem => h.on_feed (List.mem_append_left _ hmem)
    exact hblanks
  · exact fun b hb => hblanks b (List.mem_append_right _ hb)

/-- The first code of a line stands no later than a character of code on the line. -/
lemma SourceText.Divides.length_le {t : SourceText} {m : Mark} {on : List Char}
    (hdivides : t.Divides m on (c :: rest)) (hc : opensLexeme c = true)
    (hline : IsCodeLine (t.line m.line) blanks) : blanks.length ≤ on.length := by
  obtain ⟨hblanks, d, more, hsplit, hd⟩ := hline
  rw [hdivides.line_eq] at hsplit
  rcases List.append_eq_append_iff.mp hsplit with ⟨between, rfl, hbetween⟩ | ⟨between, rfl, -⟩
  · cases between with
    | nil => simp
    | cons b between =>
      obtain ⟨rfl, -⟩ := List.cons.inj hbetween
      have hspacing := hblanks c (by simp)
      rw [isSpacing_of_opensLexeme hc] at hspacing
      cases hspacing
  · simp

namespace SourceText.Shows

variable {t : SourceText} {T : Array Token} {m : Mark} {i k : ℕ} (h : t.Shows T)

include h

/-- A token at the front of its line makes it a line of code. -/
lemma exists_isCodeLine_of_front {u : Token} {before after : List Char}
    (hu : u.Placed ⟨1, 0⟩ (readable t.source.toList) T i before after)
    (hfront : AtLineFront before) : ∃ blanks, IsCodeLine (t.line u.start.line) blanks := by
  obtain ⟨front, on, c, rest, hrow, hc⟩ := h.exists_isRow hu
  have hdivides := divides_of_isRow hrow h.lines_eq
  rw [← hu.start_eq] at hdivides
  exact ⟨on, hrow.isSpacing hfront, c, rest, hdivides.line_eq, hc⟩

/-- From where a line of code begins, tokens without line ends stay on the line. -/
lemma exists_isCodeLine (hopens : OpensLine T i) (hik : i ≤ k) (hk : IsCode T k)
    (hbetween : ∀ l, i ≤ l → l < k → ∃ u, T[l]? = some u ∧ u.isLayout = false ∧
      '\n' ∉ u.text.toList) : ∃ blanks, IsCodeLine (t.line (startAt T k).line) blanks := by
  induction hik with
  | refl =>
    obtain ⟨u, hu, hlayout⟩ := hk
    obtain ⟨before, after, hu'⟩ := h.placed.code i u hu hlayout
    rw [startAt_eq hu]
    refine h.exists_isCodeLine_of_front hu' (hu'.edge.resolve_right ?_)
    rintro ⟨k, v, rfl, hv, hcode, -⟩
    rcases hopens with hzero | ⟨k', w, hk', hw, hlayout'⟩
    · cases hzero
    · obtain rfl := Nat.succ.inj hk'
      obtain rfl := Option.some.inj (hv.symm.trans hw)
      rw [hcode] at hlayout'
      cases hlayout'
  | @step k hik ih =>
    obtain ⟨v, hv, hlayout, hfeed⟩ := hbetween k hik (Nat.lt_succ_self k)
    obtain ⟨u, hu, hlayout'⟩ := hk
    obtain ⟨before, after, hu'⟩ := h.placed.code (k + 1) u hu hlayout'
    rw [startAt_eq hu]
    rcases hu'.edge with hfront | ⟨k', v', hk', hv', -, hline⟩
    · exact h.exists_isCodeLine_of_front hu' hfront
    · obtain rfl := Nat.succ.inj hk'
      obtain rfl := Option.some.inj (hv.symm.trans hv')
      obtain ⟨_, _, hplaced⟩ := h.placed.code k v hv hlayout
      have hsame : v.stop.line = v.start.line := by
        rw [hplaced.stop_eq, Mark.advance_line, List.count_eq_zero.mpr hfeed, Nat.add_zero]
      rw [← hline, hsame, ← startAt_eq hv]
      exact ih ⟨v, hv, hlayout⟩ fun l hl hlk => hbetween l hl (Nat.lt_succ_of_lt hlk)

/-- Before what stands behind the start of a line of code, the last code is no earlier. -/
lemma le_lastCodeLine (hleads : Leads T m) {line column : ℕ}
    (hlt : (t.positionAt m).place < toLex (line, column)) :
    m.line ≤ t.outline.lastCodeLine line column := by
  obtain ⟨i, k, hik, hopens, hcode, rfl, hbetween⟩ := hleads
  obtain ⟨blanks, hline⟩ := h.exists_isCodeLine hopens hik hcode hbetween
  obtain ⟨on, c, rest, hdivides, hc⟩ := h.exists_divides_startAt hcode
  have hle := hdivides.length_le hc hline
  rw [hdivides.positionAt_eq] at hlt
  obtain ⟨n, hn, hm⟩ := id hdivides
  rw [hm] at hline hlt ⊢
  rw [line_of_getElem? hn] at hline
  refine Outline.le_lastCodeLine h.outline hn hline (lt_of_le_of_lt ?_ hlt)
  exact Prod.Lex.toLex_le_toLex.mpr (.inr ⟨rfl, hle⟩)

/-- The first character of a line that is not blank stands no later than a character of code. -/
lemma firstOnLine_le (hi : IsCode T i) :
    (t.firstOnLine (startAt T i).line).place ≤ (t.positionAt (startAt T i)).place := by
  obtain ⟨on, c, rest, hdivides, hc⟩ := h.exists_divides_startAt hi
  have hlength :
      (on ++ c :: rest).length - (trimStartChars (on ++ c :: rest)).length ≤ on.length := by
    have hdrop : (c :: rest).length ≤ ((on ++ c :: rest).dropWhile isBlank).length := by
      rw [List.dropWhile_append]
      split
      · rw [List.dropWhile_cons_of_neg (by simp [isBlank_of_opensLexeme hc])]
      · simp
    rw [trimStartChars, List.length_append]
    omega
  rw [hdivides.positionAt_eq, firstOnLine, hdivides.line_eq]
  have hplace : ∀ n column, (t.position n column).place = toLex (n, column) := by
    intro n column
    unfold position
    split <;> rfl
  rw [hplace]
  exact Prod.Lex.toLex_le_toLex.mpr (.inr ⟨rfl, hlength⟩)

end SourceText.Shows

end BlockText.Source

import BlockText.Proofs.Source.Places

/-!
# The order of the outline

The outline lists the tokens in the order of their places, whatever the text: a line is read from
left to right, and a string that goes on for several lines holds back every later token.  So the
tokens before a place are a first part of the list, and the tokens inside a span are those from the
first that starts in it to the last.
-/

namespace BlockText.Source

open Syntax Text

variable {s s' : OutlineState} {line column line' column' : ℕ} {cs : List Char}

/-- The tokens and what is open stand in order, none behind a place. -/
structure OutlineState.Precedes (s : OutlineState) (line column : ℕ) : Prop where
  ordered : s.starts.Pairwise fun a b => toLex b ≤ toLex a
  starts_le : ∀ a ∈ s.starts, toLex a ≤ toLex (line, column)
  stops_ordered : s.stopLines.Pairwise fun a b => b ≤ a
  stops_le : ∀ n ∈ s.stopLines, n ≤ line
  starts_stop : List.Forall₂ (fun a n => a.1 ≤ n) s.starts s.stopLines
  opened_le : ∀ o, s.opened = some o → toLex (o.line, o.column) ≤ toLex (line, column) ∧
    ∀ a ∈ s.starts, toLex a ≤ toLex (o.line, o.column)

namespace OutlineState.Precedes

lemma mono (h : s.Precedes line column) (hplace : toLex (line, column) ≤ toLex (line', column')) :
    s.Precedes line' column' := by
  have hline : line ≤ line' := by
    rcases Prod.Lex.toLex_le_toLex.mp hplace with hlt | ⟨heq, -⟩
    · exact hlt.le
    · exact heq.le
  exact ⟨h.ordered, fun a ha => (h.starts_le a ha).trans hplace, h.stops_ordered,
    fun n hn => (h.stops_le n hn).trans hline, h.starts_stop,
    fun o ho => (h.opened_le o ho).imp_left fun hle => hle.trans hplace⟩

/-- Only the tokens and what is open matter. -/
lemma congr (h : s.Precedes line column) (hstarts : s'.starts = s.starts)
    (hstops : s'.stopLines = s.stopLines) (hopened : s'.opened = s.opened) :
    s'.Precedes line column := by
  obtain ⟨h₁, h₂, h₃, h₄, h₅, h₆⟩ := h
  constructor <;> simp only [hstarts, hstops, hopened] <;> assumption

lemma along (h : s.Precedes line column) (hcolumn : column ≤ column') :
    s.Precedes line column' :=
  h.mono (Prod.Lex.toLex_le_toLex.mpr (.inr ⟨rfl, hcolumn⟩))

/-- A token that starts behind all others and ends on the line. -/
lemma token {start : ℕ × ℕ} (h : s.Precedes line column) (hopened : s.opened = none)
    (hbefore : ∀ a ∈ s.starts, toLex a ≤ toLex start)
    (hstart : toLex start ≤ toLex (line, column)) :
    (s.token start line).Precedes line column where
  ordered := List.pairwise_cons.mpr ⟨hbefore, h.ordered⟩
  starts_le := List.forall_mem_cons.mpr ⟨hstart, h.starts_le⟩
  stops_ordered := List.pairwise_cons.mpr ⟨h.stops_le, h.stops_ordered⟩
  stops_le := List.forall_mem_cons.mpr ⟨le_rfl, h.stops_le⟩
  starts_stop := by
    refine .cons ?_ h.starts_stop
    rcases Prod.Lex.toLex_le_toLex.mp hstart with hlt | ⟨heq, -⟩
    · exact hlt.le
    · exact heq.le
  opened_le := fun o ho => by
    have hnone : (s.token start line).opened = none := hopened
    rw [hnone] at ho
    cases ho

lemma outlineCode (fuel : ℕ) (h : s.Precedes line column) (hopened : s.opened = none) :
    (Source.outlineCode line fuel column cs s).Precedes (line + 1) 0 := by
  have hnext : ∀ {column}, toLex (line, column) ≤ toLex (line + 1, 0) := fun {column} =>
    Prod.Lex.toLex_le_toLex.mpr (.inl (Nat.lt_succ_self line))
  induction fuel generalizing column cs s with
  | zero => exact h.mono hnext
  | succ fuel ih =>
    rw [Source.outlineCode.eq_def]
    dsimp only
    generalize (cs.takeWhile fun c => c == ' ' || c == '\t' || c == '\x0c').length = blanks
    have hhere := h.along (Nat.le_add_right column blanks)
    split
    · exact h.mono hnext
    · exact (h.mono hnext).congr rfl rfl rfl
    · exact ih ((hhere.along (Nat.le_add_right _ _)).congr rfl rfl rfl) hopened
    · next nesting _ =>
      have hdeeper : ({ s with depth := s.depth + nesting } : OutlineState).Precedes line
          (column + blanks) := hhere.congr rfl rfl rfl
      exact ih ((hdeeper.token hopened hhere.starts_le le_rfl).along (Nat.le_add_right _ _)) hopened
    · refine ⟨h.ordered, (h.mono hnext).starts_le, h.stops_ordered, (h.mono hnext).stops_le,
        h.starts_stop, ?_⟩
      rintro o ⟨⟩
      exact ⟨hnext, hhere.starts_le⟩
    · split
      · exact h.mono hnext
      · exact ih ((h.token hopened h.starts_le le_rfl).along (Nat.le_succ column)) hopened

lemma outlineLine (h : s.Precedes line 0) (hrun : Source.outlineLine line cs s = .ok s') :
    s'.Precedes (line + 1) 0 := by
  have hnext : toLex (line, 0) ≤ toLex (line + 1, 0) :=
    Prod.Lex.toLex_le_toLex.mpr (.inl (Nat.lt_succ_self line))
  unfold Source.outlineLine at hrun
  split at hrun
  · next o ho =>
    obtain ⟨hplace, hbefore⟩ := h.opened_le o ho
    dsimp only at hrun
    generalize (if o.isTriple = true then closeTriple o.quote cs else closeSingle o.quote cs) =
      closed at hrun
    rcases closed with - | ⟨taken, rest⟩
    · cases hrun
      exact h.mono hnext
    · cases hrun
      have hclosed : ({ s with opened := none } : OutlineState).Precedes line 0 :=
        ⟨h.ordered, h.starts_le, h.stops_ordered, h.stops_le, h.starts_stop, nofun⟩
      exact ((hclosed.token rfl hbefore hplace).along (Nat.zero_le _)).outlineCode _ rfl
  · next hopened =>
    dsimp only at hrun
    generalize (cs.takeWhile fun c => c == ' ' || c == '\t' || c == '\x0c').length = blanks at hrun
    have hcode : ∀ indents, ({ s with indents } : OutlineState).Precedes line blanks := fun _ =>
      (h.along (Nat.zero_le blanks)).congr rfl rfl rfl
    split at hrun
    · split at hrun
      · cases hrun
        exact h.mono hnext
      · split at hrun
        · cases hrun
          exact (h.mono hnext).congr rfl rfl rfl
        · split at hrun
          · cases hrun
            exact h.mono hnext
          · split at hrun
            · cases hrun
              exact (hcode _).outlineCode _ hopened
            · split at hrun
              · cases hrun
                exact (hcode _).outlineCode _ hopened
              · cases hrun
    · cases hrun
      have hgoing : ({ s with isContinued := false } : OutlineState).Precedes line 0 :=
        h.congr rfl rfl rfl
      exact hgoing.outlineCode _ hopened

lemma outlineLines {lines : List (List Char)} (h : s.Precedes line 0)
    (hrun : Source.outlineLines line lines s = .ok s') : s'.Precedes (line + lines.length) 0 := by
  induction lines generalizing line s with
  | nil =>
    unfold Source.outlineLines at hrun
    split at hrun
    · cases hrun
    · split at hrun
      · cases hrun
        exact h
      · cases hrun
  | cons cs lines ih =>
    unfold Source.outlineLines at hrun
    cases hline : Source.outlineLine line cs s with
    | error e =>
      rw [hline] at hrun
      cases hrun
    | ok s₁ =>
      rw [hline] at hrun
      have hstep := ih (h.outlineLine hline) hrun
      rwa [List.length_cons, Nat.add_comm lines.length, ← Nat.add_assoc]

end OutlineState.Precedes

namespace Outline

variable {o : Outline} {lines : List (List Char)}

/-- Tokens stand in order, and each ends no earlier than it starts. -/
structure IsOrdered (o : Outline) : Prop where
  starts : o.starts.Pairwise fun a b => toLex a ≤ toLex b
  stops : o.stopLines.Pairwise (· ≤ ·)
  starts_stop : List.Forall₂ (fun a n => a.1 ≤ n) o.starts o.stopLines

theorem isOrdered_ofLines (h : ofLines lines = .ok o) : o.IsOrdered := by
  cases hrun : outlineLines 1 lines {} with
  | error e =>
    rw [ofLines, hrun] at h
    cases h
  | ok s =>
    rw [ofLines, hrun] at h
    cases h
    have hempty : ({} : OutlineState).Precedes 1 0 := by
      constructor <;> simp
    have hs := hempty.outlineLines hrun
    exact ⟨List.pairwise_reverse.mpr hs.ordered, List.pairwise_reverse.mpr hs.stops_ordered,
      List.forall₂_reverse_iff.mpr hs.starts_stop⟩

lemma isBefore_iff {start : ℕ × ℕ} {line column : ℕ} :
    isBefore start line column = true ↔ toLex start < toLex (line, column) := by
  rw [Prod.Lex.toLex_lt_toLex]
  simp [isBefore]

/-- The tokens before a place are the first ones. -/
lemma lt_countBefore_iff (h : o.IsOrdered) {i line column : ℕ} :
    i < o.countBefore line column ↔
      ∃ start, o.starts[i]? = some start ∧ toLex start < toLex (line, column) := by
  have hstarts := h.starts
  rw [countBefore]
  generalize o.starts = starts at hstarts
  induction starts generalizing i with
  | nil => simp
  | cons a starts ih =>
    obtain ⟨hall, hstarts⟩ := List.pairwise_cons.mp hstarts
    by_cases ha : toLex a < toLex (line, column)
    · rw [List.takeWhile_cons, if_pos (isBefore_iff.mpr ha), List.length_cons]
      rcases i with - | i
      · simp [ha]
      · rw [Nat.add_lt_add_iff_right, List.getElem?_cons_succ]
        exact ih hstarts
    · rw [List.takeWhile_cons, if_neg (fun h => ha (isBefore_iff.mp h))]
      refine iff_of_false (Nat.not_lt_zero i) ?_
      rintro ⟨start, hstart, hlt⟩
      rcases i with - | i
      · cases hstart
        exact ha hlt
      · exact ha ((hall start (List.mem_of_getElem? hstart)).trans_lt hlt)

end Outline

/-- The tokens of a span are those that start in it. -/
lemma SourceText.mem_tokensIn_iff {t : SourceText} (h : t.outline.IsOrdered) (span : Span) (i : ℕ) :
    ((t.tokensIn span).start ≤ i ∧ i < (t.tokensIn span).stop) ↔
      ∃ start, t.outline.starts[i]? = some start ∧
        span.start.place ≤ toLex start ∧ toLex start < span.stop.place := by
  have hrange : ((t.tokensIn span).start ≤ i ∧ i < (t.tokensIn span).stop) ↔
      ¬ i < t.outline.countBefore span.start.line span.start.column ∧
        i < t.outline.countBefore span.stop.line span.stop.column := by
    simp only [tokensIn]
    omega
  rw [hrange, Outline.lt_countBefore_iff h, Outline.lt_countBefore_iff h]
  constructor
  · rintro ⟨hnot, start, hstart, hlt⟩
    exact ⟨start, hstart, not_lt.mp fun hbefore => hnot ⟨start, hstart, hbefore⟩, hlt⟩
  · rintro ⟨start, hstart, hle, hlt⟩
    refine ⟨?_, start, hstart, hlt⟩
    rintro ⟨start', hstart', hbefore⟩
    obtain rfl := Option.some.inj (hstart.symm.trans hstart')
    exact absurd hbefore (not_lt.mpr hle)

/-! ## Exactness -/

/-- Where carriage returns stand before line feeds, the position of every boundary between the
characters of a line counts the characters before it on the line and in the text; offsets follow the
order of places, strictly so inside lines; and the tokens of a span are exactly those that start in
it. -/
theorem SourceText.positions_exact (t : SourceText)
    (hlines : t.lines = linesKeepingFeeds t.source.toList)
    (hpaired : returnsPaired t.source.toList = true) :
    (∀ n on rest, (physicalLines t.source.toList)[n]? = some (on ++ rest) →
      ∃ before after, before = ((physicalLines t.source.toList).take n).flatten ∧
        t.source.toList = before ++ (on ++ rest) ++ after ∧
        before.count '\n' = n ∧ (before = [] ∨ before.getLast? = some '\n') ∧
        t.positionAt ⟨n + 1, byteCount on⟩ = ⟨n + 1, on.length, (before ++ on).length⟩) ∧
      (∀ n column, (physicalLines t.source.toList).length < n →
        t.positionAt ⟨n, column⟩ = ⟨n, 0, t.source.length⟩) ∧
      (∀ m m' : Mark, 1 ≤ m.line → m.place ≤ m'.place →
        (t.positionAt m).offset ≤ (t.positionAt m').offset) ∧
      (∀ n n' on on' rest rest', (physicalLines t.source.toList)[n]? = some (on ++ rest) →
        rest ≠ [] → (physicalLines t.source.toList)[n']? = some (on' ++ rest') →
        (⟨n + 1, byteCount on⟩ : Mark).place < (⟨n' + 1, byteCount on'⟩ : Mark).place →
        (t.positionAt ⟨n + 1, byteCount on⟩).offset <
          (t.positionAt ⟨n' + 1, byteCount on'⟩).offset) ∧
      (Outline.ofLines t.lines = .ok t.outline → ∀ span i,
        ((t.tokensIn span).start ≤ i ∧ i < (t.tokensIn span).stop) ↔ ∃ start,
          t.outline.starts[i]? = some start ∧
            span.start.place ≤ toLex start ∧ toLex start < span.stop.place) := by
  rw [physicalLines_eq hpaired, ← hlines]
  refine ⟨fun n on rest h => ?_, fun n column hn => ?_, fun m m' => offsetAt_mono hlines,
    fun n n' on on' rest rest' h hrest h' => offsetAt_lt h hrest h',
    fun houtline => mem_tokensIn_iff (Outline.isOrdered_ofLines houtline)⟩
  · obtain ⟨hn, heq⟩ := List.getElem?_eq_some_iff.mp h
    refine ⟨_, (t.lines.drop (n + 1)).flatten, rfl, ?_, ?_, ?_, positionAt_of_getElem? h⟩
    · calc t.source.toList = t.lines.flatten := by rw [hlines, flatten_linesKeepingFeeds]
        _ = (t.lines.take n ++ (on ++ rest) :: t.lines.drop (n + 1)).flatten := by
          rw [← heq, ← List.drop_eq_getElem_cons hn, List.take_append_drop]
        _ = _ := by simp
    · rw [hlines] at h ⊢
      exact count_take_linesKeepingFeeds h
    · rw [hlines] at h ⊢
      exact flatten_take_linesKeepingFeeds h
  · have hline : t.line n = [] := by
      rw [line, if_neg (by omega), List.getElem?_eq_none (by omega)]
      rfl
    rw [positionAt, columnAt, hline, position, if_neg (by simp; omega)]
    rfl

/-- A text of three lines, with a character of four bytes and no last line feed. -/
def wideText : SourceText where
  source := "é = \"𝄞\"\r\n\nb"
  lines := ["é = \"𝄞\"\r\n".toList, ['\n'], ['b']]
  outline := ⟨[], [(1, 0), (1, 2), (1, 4), (3, 0)], [1, 1, 1, 3]⟩

theorem positions_exact_wideText :
    wideText.lines = linesKeepingFeeds wideText.source.toList ∧
      returnsPaired wideText.source.toList = true ∧
      Outline.ofLines wideText.lines = .ok wideText.outline ∧
      wideText.positionAt ⟨1, 10⟩ = ⟨1, 6, 6⟩ ∧
      (wideText.positionAt ⟨1, 10⟩).offset < (wideText.positionAt ⟨3, 1⟩).offset ∧
      wideText.tokensIn ⟨⟨1, 4, 4⟩, ⟨3, 1, 11⟩⟩ = ⟨2, 4⟩ := by
  have hlines : wideText.lines = linesKeepingFeeds wideText.source.toList := by decide +kernel
  have hpaired : returnsPaired wideText.source.toList = true := by decide +kernel
  have houtline : Outline.ofLines wideText.lines = .ok wideText.outline := by rfl
  obtain ⟨-, -, -, hlt, -⟩ := wideText.positions_exact hlines hpaired
  refine ⟨hlines, hpaired, houtline, by rfl, ?_, by rfl⟩
  exact hlt 0 2 "é = \"𝄞".toList ['b'] "\"\r\n".toList [] (by decide +kernel) (by decide)
    (by decide +kernel) (by decide +kernel)

end BlockText.Source

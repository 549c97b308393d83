import BlockText.Proofs.Datum.Texts
import BlockText.Proofs.Source.Levels
import BlockText.Proofs.Source.Lexemes
import BlockText.Proofs.Source.Literals
import BlockText.Proofs.Source.Sentences
import BlockText.Source.Reading
import Mathlib

/-!
# Literals read back

A text spelled as a literal is read as that text: the literal is one token, the grammar takes it as
one constant, and the outline closes it on the last line, however many lines lie between its marks.
-/

/-!
## Reading that succeeds

A step of reading succeeds if it gives a value from every state.  Nodes always get their
information, and a text without comments in which code goes on to the last line has no lines
between statements: a program of one statement is then read as that statement.
-/

namespace BlockText.Source

open Syntax

namespace Reading

variable {α β : Type} {r : Reading α} {P : α → Prop} {Q : β → Prop}

/-- From every state the step gives a value of which something holds. -/
def Succeeds (r : Reading α) (P : α → Prop) : Prop :=
  ∀ st, ∃ a st', r.run st = .ok (a, st') ∧ P a

lemma succeeds_pure {a : α} (h : P a) : Succeeds (pure a) P := fun st => ⟨a, st, rfl, h⟩

lemma Succeeds.bind {f : α → Reading β} (hr : Succeeds r P) (hf : ∀ a, P a → Succeeds (f a) Q) :
    Succeeds (r >>= f) Q := by
  intro st
  obtain ⟨a, st₁, hrun, ha⟩ := hr st
  obtain ⟨b, st₂, hrun', hb⟩ := hf a ha st₁
  refine ⟨b, st₂, ?_, hb⟩
  rw [StateT.run_bind, hrun]
  exact hrun'

lemma Succeeds.map {f : α → β} (hr : Succeeds r P) (h : ∀ a, P a → Q (f a)) :
    Succeeds (f <$> r) Q := by
  rw [map_eq_pure_bind]
  exact hr.bind fun a ha => succeeds_pure (h a ha)

lemma succeeds_get : Succeeds (get : Reading ReadState) fun _ => True :=
  fun st => ⟨st, st, rfl, trivial⟩

lemma succeeds_set (st : ReadState) : Succeeds (set st : Reading PUnit) fun _ => True :=
  fun _ => ⟨⟨⟩, st, rfl, trivial⟩

end Reading

namespace Manuscript

open Reading

variable {m : Manuscript} {s : Stmt}

/-- Information for a node is always given. -/
lemma succeeds_infoFor (span : Option Span) : Succeeds (m.infoFor span) fun _ => True :=
  succeeds_get.bind fun _ _ => (succeeds_set _).bind fun _ _ => succeeds_pure trivial

/-- Information for a range is always given. -/
lemma succeeds_infoAt (r : Range) : Succeeds (m.infoAt r) fun _ => True := succeeds_infoFor _

/-- Without comments none is claimed. -/
lemma succeeds_claimComment (h : m.text.outline.comments = []) (info : Info) (line : ℕ)
    (after : Option ℕ) : Succeeds (m.claimComment info line after) fun _ => True := by
  refine succeeds_get.bind fun st _ => ?_
  have hnone : m.text.outline.commentOn? line = none := by
    rw [Outline.commentOn?, h]
    rfl
  rw [hnone]
  exact succeeds_pure trivial

/-- The statement is one that has no body. -/
def IsSimple : Stmt → Prop
  | .assign .. | .exprStmt .. => True
  | _ => False

/-- The information of a simple statement. -/
lemma succeeds_stmtInfo (h : m.text.outline.comments = []) (hs : IsSimple s) :
    Succeeds (m.stmtInfo s) fun _ => True := by
  refine (succeeds_infoFor _).bind fun info _ => ?_
  cases s with
  | assign | exprStmt => exact succeeds_claimComment h _ _ _
  | _ => exact hs.elim

/-- Between lines that touch there are no empty statements. -/
lemma gaps_eq_pure {first stop : ℕ} (h : stop ≤ first) : m.gaps first stop = pure [] := by
  rw [gaps, Nat.sub_eq_zero_of_le h]
  rfl

/-- A statement that starts on the first line has nothing in front of it. -/
lemma gapsBefore_eq_pure (hs : IsSimple s) (hline : s.range.start.line ≤ 1) :
    m.gapsBefore s = pure [] := by
  have hstart : (m.startOf s).line = s.range.start.line := by
    cases s with
    | assign | exprStmt =>
      unfold startOf decoratorsOf SourceText.positionAt SourceText.position
      dsimp only
      split <;> rfl
    | _ => exact hs.elim
  apply gaps_eq_pure
  rw [hstart]
  omega

/-- A program of one simple statement. -/
theorem succeeds_program {P : Syntax.Stmt → Prop} (width : ℤ)
    (hlast : m.text.lines.length ≤ m.text.outline.lastLine) (hs : IsSimple s)
    (hline : s.range.start.line ≤ 1) (hread : Succeeds (m.stmt 0 s) P) :
    Succeeds (m.program width [s]) fun p => ∃ s', p.body.statements = [s'] ∧ P s' := by
  refine (succeeds_infoFor _).bind fun info _ => ?_
  have hsuite : Succeeds (m.suite 0 [s]) fun ss => ∃ s', ss = [s'] ∧ P s' := by
    rw [suite, gapsBefore_eq_pure hs hline, pure_bind]
    refine hread.bind fun s' hs' => ?_
    rw [suite, pure_bind]
    exact succeeds_pure ⟨s', rfl, hs'⟩
  refine hsuite.bind fun ss hss => ?_
  obtain ⟨s', rfl, hs'⟩ := hss
  rw [gaps_eq_pure (by omega), pure_bind]
  exact succeeds_pure ⟨s', rfl, hs'⟩

end Manuscript

end BlockText.Source

namespace BlockText.Syntax

open Source

/-- A text is read where it breaks no rule, has an outline and holds nothing that no program can. -/
lemma Program.exists_ofSource {source : String} {width : ℤ} {names : Text.CharacterNames}
    {P : Program → Prop}
    {statements : List Source.Stmt} {outline : Outline}
    (hnul : Char.ofNat 0 ∉ source.toList)
    (hparse : Source.parse names source.toList = .ok statements)
    (houtline : Outline.ofLines (Text.linesKeepingFeeds source.toList) = .ok outline)
    (hread : Reading.Succeeds
      (Manuscript.program ⟨⟨source, Text.linesKeepingFeeds source.toList, outline⟩,
        physicalLines source.toList⟩ width statements) P) :
    ∃ p, Program.ofSource source width names = .ok p ∧ P p := by
  obtain ⟨p, st, hrun, hp⟩ := hread {}
  refine ⟨p, ?_, hp⟩
  have hcontains : source.toList.contains (Char.ofNat 0) = false := by simpa using hnul
  unfold Program.ofSource
  simp only [hcontains, hparse, houtline, Bool.false_eq_true, if_false]
  dsimp only [Except.mapError, bind, Except.bind, pure, Except.pure]
  rw [hrun]

end BlockText.Syntax

/-! ## Spelling literals -/

namespace BlockText.Text

variable {as cs : List Char}

/-- Characters in front of the end of a line belong to it. -/
lemma linesKeepingFeeds_go (h : '\n' ∉ as) (bs acc : List Char) :
    linesKeepingFeeds.go (as ++ bs) acc = linesKeepingFeeds.go bs (as.reverse ++ acc) := by
  induction as generalizing acc with
  | nil => rfl
  | cons c as ih =>
    rw [List.mem_cons, not_or] at h
    have hc : (c == '\n') = false := by simpa using Ne.symm h.1
    rw [List.cons_append, linesKeepingFeeds.go, hc, if_neg Bool.false_ne_true, ih h.2,
      List.reverse_cons, List.append_assoc, List.singleton_append]

/-- A text without line feeds is one line. -/
lemma linesKeepingFeeds_single (h : '\n' ∉ cs) (hne : cs ≠ []) : linesKeepingFeeds cs = [cs] := by
  have hgo := linesKeepingFeeds_go h [] []
  rw [List.append_nil, List.append_nil, linesKeepingFeeds.go, List.reverse_reverse] at hgo
  simp [linesKeepingFeeds, hgo, hne]

/-- A line ends with the first line feed. -/
lemma linesKeepingFeeds_cons (h : '\n' ∉ as) (bs : List Char) :
    linesKeepingFeeds (as ++ '\n' :: bs) = (as ++ ['\n']) :: linesKeepingFeeds bs := by
  have hgo := linesKeepingFeeds_go h ('\n' :: bs) []
  rw [linesKeepingFeeds.go, if_pos (beq_self_eq_true _)] at hgo
  simp [linesKeepingFeeds, hgo]

end BlockText.Text

namespace BlockText.Source

open Text

variable {q : Delimiter} {v rest : List Char} {c : Char} {line : ℕ}

/-! ## The outline of a literal -/

/-- A string that the lexer finds is one token of the outline. -/
lemma outlineString_of_scanQuoted {cs s : List Char} (before : ℕ)
    (h : scanQuoted cs = some (s, rest)) :
    outlineString before cs = .token (before + s.length) rest 0 := by
  unfold scanQuoted at h
  unfold outlineString
  cases cs with
  | nil => cases h
  | cons c cs =>
    dsimp only at h ⊢
    split at h
    · next hprefix =>
      obtain ⟨⟨s', rest'⟩, hclose, heq⟩ := Option.map_eq_some_iff.mp h
      cases heq
      rw [if_pos hprefix, hclose]
      simp only [List.length_cons, OutlineItem.token.injEq, and_true]
      omega
    · next hprefix =>
      obtain ⟨⟨s', rest'⟩, hclose, heq⟩ := Option.map_eq_some_iff.mp h
      cases heq
      rw [if_neg hprefix, hclose]
      simp only [List.length_cons, OutlineItem.token.injEq, and_true]
      omega

/-- At a quotation mark the item is what the string is. -/
lemma outlineItem_quote (hc : isQuote c = true) (rest : List Char)
    (h : outlineString 0 (c :: rest) ≠ .none) :
    outlineItem (c :: rest) = outlineString 0 (c :: rest) := by
  have hoperator : outlineOperators.find? (·.isPrefixOf (c :: rest)) = none := by
    simp only [isQuote, Bool.or_eq_true, beq_iff_eq] at hc
    rcases hc with rfl | rfl <;> rfl
  have hcode : c ∉ ['\n', '\r', '\\', '#', '.'] ∧ c.isDigit = false := by
    simp only [isQuote, Bool.or_eq_true, beq_iff_eq] at hc
    rcases hc with rfl | rfl <;> decide
  obtain ⟨hcode, hdigit⟩ := hcode
  simp only [List.mem_cons, List.not_mem_nil, or_false, not_or] at hcode
  obtain ⟨hfeed, hreturn, hslash, hhash, hpoint⟩ := hcode
  unfold outlineItem
  simp only [hoperator, stringStart?_quote hc, List.length_nil, hdigit]
  simp [hfeed, hreturn, hslash, hhash, hpoint]

/-- A string literal is one token of the outline. -/
lemma outlineItem_literal (q : Delimiter) (v rest : List Char) (h : rest.head? ≠ some q.mark) :
    outlineItem (literalChars q v ++ rest) = .token (literalChars q v).length rest 0 := by
  have hstring := outlineString_of_scanQuoted 0 (scanQuoted_literal q v h)
  rw [Nat.zero_add] at hstring
  obtain ⟨more, hmore⟩ := literalChars_eq_cons q v
  rw [hmore, List.cons_append] at hstring ⊢
  rw [outlineItem_quote q.isQuote_mark _ (by rw [hstring]; nofun), hstring]

/-- A literal with a line feed in it is not closed on its first line. -/
lemma outlineItem_open (hq : q.isTriple = true) (v : List Char) :
    outlineItem (q.chars ++ escaped q v ++ ['\n']) = .openString q.mark true := by
  have hclose : closeTriple q.mark (escaped q v ++ ['\n']) = none := by
    rw [closeTriple_escaped]
    cases q <;> rfl
  have hstring : outlineString 0 (q.chars ++ escaped q v ++ ['\n']) = .openString q.mark true := by
    simp [chars_of_triple hq, outlineString, hclose]
  rw [chars_of_triple hq] at hstring ⊢
  rw [List.cons_append, List.cons_append] at hstring ⊢
  rw [outlineItem_quote q.isQuote_mark _ (by rw [hstring]; nofun), hstring]

/-- The target of the assignment is one token of the outline. -/
lemma outlineItem_name (rest : List Char) :
    outlineItem ('x' :: ' ' :: rest) = .token 1 (' ' :: rest) 0 := by
  have hoperator : outlineOperators.find? (·.isPrefixOf ('x' :: ' ' :: rest)) = none := by rfl
  have hname : ('x' :: ' ' :: rest).takeWhile isWordPart = ['x'] := by
    rw [List.takeWhile_cons_of_pos (by decide), List.takeWhile_cons_of_neg (by decide)]
  have hstart : stringStart? ('x' :: ' ' :: rest) = none := by
    simp [stringStart?, isPlainLetter, isQuote]
  unfold outlineItem
  simp only [hoperator, hname, hstart]
  rfl

/-- The sign of the assignment is one token of the outline. -/
lemma outlineItem_equal (rest : List Char) :
    outlineItem ('=' :: ' ' :: rest) = .token 1 (' ' :: rest) 0 := by rfl

/-- A line that assigns to `x`, up to its value. -/
lemma outlineLine_assign (code : List Char) :
    outlineLine 1 ("x = ".toList ++ code) {} =
      .ok (outlineCode 1 (code.length + 3) 3 (' ' :: code)
        { starts := [(1, 2), (1, 0)], stopLines := [1, 1] }) := by
  have hfirst : outlineCode 1 (code.length + 5) 0 ('x' :: ' ' :: '=' :: ' ' :: code) {} =
      outlineCode 1 (code.length + 4) 1 (' ' :: '=' :: ' ' :: code)
        { starts := [(1, 0)], stopLines := [1] } := by
    rw [outlineCode, List.takeWhile_cons_of_neg (by decide), List.length_nil, List.drop_zero,
      outlineItem_name]
    rfl
  have hsecond : outlineCode 1 (code.length + 4) 1 (' ' :: '=' :: ' ' :: code)
        { starts := [(1, 0)], stopLines := [1] } =
      outlineCode 1 (code.length + 3) 3 (' ' :: code)
        { starts := [(1, 2), (1, 0)], stopLines := [1, 1] } := by
    rw [outlineCode, List.takeWhile_cons_of_pos (by decide),
      List.takeWhile_cons_of_neg (by decide), List.length_singleton, List.drop_succ_cons,
      List.drop_zero, outlineItem_equal]
    rfl
  rw [← hsecond, ← hfirst]
  rfl

/-- Nothing is open, no comment has been seen, and the last token ends on a line. -/
structure OutlineState.IsDone (s : OutlineState) (line : ℕ) : Prop where
  depth_eq : s.depth = 0
  isContinued_eq : s.isContinued = false
  opened_eq : s.opened = none
  comments_eq : s.comments = []
  stops : s.stopLines.head? = some line

/-- An outline that is done stays as it is. -/
lemma OutlineState.IsDone.outlineLines_nil {s : OutlineState} {n : ℕ} (h : s.IsDone n) (line : ℕ) :
    outlineLines line [] s = .ok s := by
  rw [outlineLines, h.opened_eq, h.depth_eq, h.isContinued_eq]
  rfl

/-- At the end of a line the outline stays as it is. -/
lemma outlineCode_nil (line fuel column : ℕ) (s : OutlineState) :
    outlineCode line fuel column [] s = s := by
  cases fuel <;> rfl

/-- A literal at the end of a line. -/
lemma outlineCode_literal (q : Delimiter) (v : List Char) (line fuel column : ℕ)
    (s : OutlineState) : outlineCode line (fuel + 1) column (' ' :: literalChars q v) s =
      { s with depth := s.depth + 0 }.token (line, column + 1) line := by
  have hitem := outlineItem_literal q v [] (by simp)
  obtain ⟨more, hmore⟩ := literalChars_eq_cons q v
  have hblank : ¬ (q.mark == ' ' || q.mark == '\t' || q.mark == '\x0c') = true := by
    cases q <;> decide
  rw [List.append_nil] at hitem
  rw [outlineCode, hmore, List.takeWhile_cons_of_pos (by decide),
    List.takeWhile_cons_of_neg (by exact hblank), List.length_singleton,
    List.drop_succ_cons, List.drop_zero, ← hmore, hitem]
  exact outlineCode_nil _ _ _ _

/-- A literal that goes on in the next line. -/
lemma outlineCode_open (hq : q.isTriple = true) (v : List Char) (line fuel column : ℕ)
    (s : OutlineState) :
    outlineCode line (fuel + 1) column (' ' :: (q.chars ++ escaped q v ++ ['\n'])) s =
      { s with opened := some ⟨line, column + 1, q.mark, true⟩ } := by
  have hitem := outlineItem_open hq v
  have hblank : ¬ (q.mark == ' ' || q.mark == '\t' || q.mark == '\x0c') = true := by
    cases q <;> decide
  rw [chars_of_triple hq, List.cons_append, List.cons_append] at hitem ⊢
  rw [outlineCode, List.takeWhile_cons_of_pos (by decide),
    List.takeWhile_cons_of_neg (by exact hblank), List.length_singleton,
    List.drop_succ_cons, List.drop_zero, hitem]

/-- The rest of a literal on the lines after its first one. -/
lemma exists_outlineLines_inside (hq : q.isTriple = true) (v : List Char) {s : OutlineState}
    {o : OpenString} (ho : s.opened = some o) (hquote : o.quote = q.mark)
    (htriple : o.isTriple = true) (hdepth : s.depth = 0) (hcontinued : s.isContinued = false)
    (hcomments : s.comments = []) (n : ℕ) :
    ∃ s', outlineLines (n + 1) (linesKeepingFeeds (escaped q v ++ q.chars)) s = .ok s' ∧
      s'.IsDone (n + (linesKeepingFeeds (escaped q v ++ q.chars)).length) := by
  have hchars : '\n' ∉ q.chars := by cases q <;> decide
  by_cases hfeed : '\n' ∈ v
  · obtain ⟨as, bs, rfl, has⟩ := List.eq_append_cons_of_mem hfeed
    have hshow : escapedChar q '\n' = ['\n'] := by cases q <;> first | rfl | cases hq
    have hnot : '\n' ∉ escaped q as := fun h => has (mem_escaped_of_lineFeed h).1
    have hlines : linesKeepingFeeds (escaped q (as ++ '\n' :: bs) ++ q.chars) =
        (escaped q as ++ ['\n']) :: linesKeepingFeeds (escaped q bs ++ q.chars) := by
      rw [← linesKeepingFeeds_cons hnot, escaped_append, escaped_cons, hshow]
      simp
    have hclose : closeTriple q.mark (escaped q as ++ ['\n']) = none := by
      rw [closeTriple_escaped]
      cases q <;> rfl
    have hline : outlineLine (n + 1) (escaped q as ++ ['\n']) s = .ok s := by
      unfold outlineLine
      simp only [ho, htriple, hquote, hclose, if_true]
    obtain ⟨s', hrun, hdone⟩ := exists_outlineLines_inside hq bs ho hquote htriple hdepth hcontinued
      hcomments (n + 1)
    refine ⟨s', ?_, ?_⟩
    · rw [hlines, outlineLines, hline]
      exact hrun
    · rw [hlines, List.length_cons]
      rwa [Nat.add_right_comm, Nat.add_assoc] at hdone
  · have hnot : '\n' ∉ escaped q v ++ q.chars := by
      rw [List.mem_append, not_or]
      exact ⟨fun h => hfeed (mem_escaped_of_lineFeed h).1, hchars⟩
    have hne : escaped q v ++ q.chars ≠ [] := by simp [chars_of_triple hq]
    have hclose : closeTriple q.mark (escaped q v ++ q.chars) = some (escaped q v ++ q.chars, []) := by
      rw [closeTriple_escaped, chars_of_triple hq]
      cases q <;> simp [closeTriple, Delimiter.mark]
    rw [linesKeepingFeeds_single hnot hne, outlineLines]
    unfold outlineLine
    simp only [ho, htriple, hquote, hclose, if_true]
    rw [outlineCode_nil]
    have hdone : OutlineState.IsDone (({ s with opened := none }).token (o.line, o.column) (n + 1))
        (n + 1) := ⟨hdepth, hcontinued, rfl, hcomments, rfl⟩
    exact ⟨_, hdone.outlineLines_nil _, hdone⟩
termination_by v.length

/-- An outline that is done has no comments, and code up to the line. -/
lemma OutlineState.IsDone.exists_outline {s : OutlineState} {lines : List (List Char)}
    (h : s.IsDone lines.length) (hrun : outlineLines 1 lines {} = .ok s) :
    ∃ outline, Outline.ofLines lines = .ok outline ∧ outline.comments = [] ∧
      outline.lastLine = lines.length := by
  refine ⟨⟨s.comments, s.starts.reverse, s.stopLines.reverse⟩, ?_, h.comments_eq, ?_⟩
  · rw [Outline.ofLines, hrun]
    rfl
  · rw [Outline.lastLine, List.getLast?_reverse, h.stops]
    rfl

/-- The outline of an assignment of a literal. -/
theorem exists_outline_literal (q : Delimiter) (v : List Char) :
    ∃ outline, Outline.ofLines (linesKeepingFeeds ("x = ".toList ++ literalChars q v)) = .ok outline ∧
      outline.comments = [] ∧
      outline.lastLine = (linesKeepingFeeds ("x = ".toList ++ literalChars q v)).length := by
  have hname : '\n' ∉ "x = ".toList := by decide
  by_cases hfeed : '\n' ∈ escaped q v
  · obtain ⟨hmem, hq⟩ := mem_escaped_of_lineFeed hfeed
    obtain ⟨as, bs, rfl, has⟩ := List.eq_append_cons_of_mem hmem
    have hshow : escapedChar q '\n' = ['\n'] := by cases q <;> first | rfl | cases hq
    have hnot : '\n' ∉ "x = ".toList ++ (q.chars ++ escaped q as) := by
      have hchars : '\n' ∉ q.chars := by cases q <;> decide
      simp only [List.mem_append, not_or]
      exact ⟨hname, hchars, fun h => has (mem_escaped_of_lineFeed h).1⟩
    have hlines : linesKeepingFeeds ("x = ".toList ++ literalChars q (as ++ '\n' :: bs)) =
        ("x = ".toList ++ (q.chars ++ escaped q as ++ ['\n'])) ::
          linesKeepingFeeds (escaped q bs ++ q.chars) := by
      have hcut := linesKeepingFeeds_cons hnot (escaped q bs ++ q.chars)
      simpa only [literalChars, escaped_append, escaped_cons, hshow, List.append_assoc,
        List.cons_append, List.nil_append] using hcut
    obtain ⟨s', hrun, hdone⟩ := exists_outlineLines_inside hq bs
      (s := { starts := [(1, 2), (1, 0)], stopLines := [1, 1], opened := some ⟨1, 4, q.mark, true⟩ })
      rfl rfl rfl rfl rfl rfl 1
    refine OutlineState.IsDone.exists_outline (s := s') ?_ ?_
    · rw [hlines, List.length_cons, Nat.add_comm]
      exact hdone
    · rw [hlines, outlineLines, outlineLine_assign, outlineCode_open hq]
      exact hrun
  · have hnot : '\n' ∉ "x = ".toList ++ literalChars q v := by
      have hchars : '\n' ∉ q.chars := by cases q <;> decide
      simp only [literalChars, List.mem_append, not_or]
      exact ⟨hname, ⟨hchars, hfeed⟩, hchars⟩
    have hlines := linesKeepingFeeds_single hnot (by simp)
    have hdone : OutlineState.IsDone (OutlineState.token
        { starts := [(1, 2), (1, 0)], stopLines := [1, 1] } (1, 4) 1) 1 :=
      ⟨rfl, rfl, rfl, rfl, rfl⟩
    refine OutlineState.IsDone.exists_outline (by rw [hlines]; exact hdone) ?_
    rw [hlines, outlineLines, outlineLine_assign, outlineCode_literal]
    exact hdone.outlineLines_nil 2

/-! ## The tokens of an assignment -/

/-- The words of an assignment of a literal to `x`. -/
def assignmentWords (q : Delimiter) (v : List Char) : List Word :=
  [.name "x", .op "=", ⟨.string, String.ofList (literalChars q v)⟩]

/-- What is read of the assignment is what it denotes, and the end of the line. -/
lemma readable_assignment (q : Delimiter) (v : List Char) :
    readable ("x = ".toList ++ literalChars q v) =
      ("x = ".toList ++ literalChars q (denoted q v)) ++ ['\n'] := by
  have hunify : unifyBreaks ("x = ".toList ++ literalChars q v) =
      "x = ".toList ++ literalChars q (denoted q v) := by
    rw [unifyBreaks_append_of_not_mem (by decide), unifyBreaks_literalChars]
  have hlast : ("x = ".toList ++ literalChars q (denoted q v)).getLast? = some q.mark := by
    rw [literalChars, List.getLast?_append, List.getLast?_append]
    cases q <;> rfl
  have hne : q.mark ≠ '\n' := by cases q <;> decide
  unfold readable
  simp only [hunify, hlast]
  rw [if_pos (by simp [hne])]

/-- The assignment falls into its three words. -/
lemma lexes_assignment (q : Delimiter) (v : List Char) :
    Lexes ['\n'] ("x = ".toList ++ literalChars q v) (assignmentWords q v) := by
  have hmark : (['\n'] : List Char).head? ≠ some q.mark := by cases q <;> decide
  have hliteral : Lexes ['\n'] (literalChars q v)
      [⟨.string, String.ofList (literalChars q v)⟩] := by
    have hsingle := Lexes.single (fits_literal q v hmark)
    rwa [Word.chars, String.toList_ofList] at hsingle
  have hequal : (Word.op "=").Fits (' ' :: literalChars q v ++ ['\n']) :=
    fits_operator '=' [] rfl (by decide) (fun h => absurd h (by decide)) rfl
  have hname : (Word.name "x").Fits (' ' :: '=' :: ' ' :: literalChars q v ++ ['\n']) := by
    apply fits_name (by decide)
    rintro c ⟨⟩
    decide
  exact .word hname (.space (.word hequal (.space hliteral)))

/-- The tokens of the assignment are a line of its three words. -/
lemma isLine_assignment (q : Delimiter) (v : List Char) :
    (lex ("x = ".toList ++ literalChars q v)).IsLine
      ("x = ".toList ++ literalChars q (denoted q v)) (assignmentWords q (denoted q v)) := by
  apply isLine_lex (readable_assignment q v) (lexes_assignment q (denoted q v))
  · have hstring : ∀ stack,
        Word.nest stack ⟨.string, String.ofList (literalChars q (denoted q v))⟩ = some stack := by
      intro stack
      rfl
    simp only [assignmentWords, List.foldlM_cons, List.foldlM_nil, hstring]
    rfl
  · exact ⟨'x', _, rfl, by decide, by decide⟩

open Grammar in
/-- An assignment of a literal, as the grammar takes it. -/
theorem parse_assignment (names : CharacterNames) (q : Delimiter) (v : List Char) :
    ∃ x r r', parse names ("x = ".toList ++ literalChars q v) =
      .ok [.assign [.name "x" x] (.constant (.string ((denoted q v).map .char)) r) r'] ∧
      r'.start.line ≤ 1 := by
  have hline := isLine_assignment q v
  obtain ⟨⟨t, ht, hsays⟩, ⟨u, hu, husays⟩, ⟨w, hw, hwsays⟩, -⟩ := hline.shows
  obtain ⟨hkind, htext⟩ := hsays
  obtain ⟨hukind, hutext⟩ := husays
  obtain ⟨hwkind, hwtext⟩ := hwsays
  obtain ⟨n, hn, hnkind⟩ := hline.ends
  obtain ⟨z, hz, hzkind⟩ := hline.stops
  dsimp only at hkind htext hukind hutext hwkind hwtext
  have htlead : t.Leads 16 := ⟨16, by simp [Token.leads, hkind, htext]; decide, Nat.le_refl _⟩
  have hwlead : w.Leads 16 := ⟨16, by simp [Token.leads, hwkind], Nat.le_refl _⟩
  have hujoins : u.joins = 0 := by
    rw [Token.joins, hukind, hutext]
    decide
  have hnjoins : n.joins = 0 := by simp [Token.joins, hnkind]
  have hname : t.text ∉ keywords := by
    rw [htext]
    decide
  have hliteral : Denotes (StringLiteral.ofChars w.text.toList) ((denoted q v).map .char) := by
    rw [hwtext, String.toList_ofList, ofChars_literal]
    exact ⟨rfl, rfl, fun names => unescape_escaped names q (denoted q v)⟩
  let stream := lex ("x = ".toList ++ literalChars q v)
  have hend : EndsLine stream 3 := ⟨n, hn, hnkind⟩
  have hx : ∀ k, (starExpressions (ofDepth (k + 1))).Takes stream 0
      (.name (normalForm t.text) ⟨t.start, t.stop⟩) 1 := fun k =>
    takes_starExpressions_atom (takes_name ht hkind hname) ht htlead hu hujoins
      (by simp [Token.isOp, hukind, hutext])
  have hv : ∀ k, (starExpressions (ofDepth (k + 1))).Takes stream 2
      (.constant (.string ((denoted q v).map .char)) (stream.rangeTo w.start 3)) 3 := fun k =>
    takes_starExpressions_atom (takes_string hw hwkind hn (by rw [hnkind]; decide) hliteral) hw
      hwlead hn hnjoins (by simp [Token.isOp, hnkind])
  have hnormal : normalForm "x" = "x" := rfl
  rw [htext, hnormal] at hx
  have hassign : ∀ k, (simpleStmt (ofDepth (k + 1))).Takes stream 0
      (.assign [.name "x" ⟨t.start, t.stop⟩] (.constant (.string ((denoted q v).map .char))
        (stream.rangeTo w.start 3)) (stream.rangeTo t.start 3)) 3 := fun k =>
    takes_simpleStmt (takes_expressionStmt_assign (hx k) (hv k) rfl ht hu
      (by simp [Token.isOp, hukind, hutext]) hw (hwlead.mono (by decide)) hend) ht
      (htlead.mono (by decide))
  refine ⟨_, _, _, run_fileRule names (hassign _) ht (htlead.mono (by decide)) hend hz hzkind, ?_⟩
  rw [TokenStream.rangeTo, hline.first (List.cons_ne_nil _ _) t ht]

/-- An assignment of a literal as a statement of a program. -/
def IsAssignment (value : List CodePoint) (s : Syntax.Stmt) : Prop :=
  ∃ x raw info info',
    s = .assign [.identifier "x" x] (.literal .string raw (.ofPoints value) info) info'

/-- The assignment of a constant text is read as that of a literal that denotes it. -/
lemma Manuscript.succeeds_assignment {m : Manuscript} (h : m.text.outline.comments = [])
    (value : List CodePoint) (x r r' : Range) :
    Reading.Succeeds (m.stmt 0 (.assign [.name "x" x] (.constant (.string value) r) r'))
      (IsAssignment value) := by
  have hname : Reading.Succeeds (m.expr (.name "x" x)) fun e => ∃ i, e = .identifier "x" i := by
    rw [Manuscript.expr]
    exact (m.succeeds_infoAt x).map fun info _ => ⟨info, rfl⟩
  have hvalue : Reading.Succeeds (m.expr (.constant (.string value) r)) fun e =>
      ∃ raw info, e = .literal .string raw (.ofPoints value) info := by
    rw [Manuscript.expr]
    refine (m.succeeds_infoAt r).bind fun info _ => ?_
    exact Reading.succeeds_pure ⟨_, info, rfl⟩
  have hsimple : Manuscript.IsSimple (.assign [.name "x" x] (.constant (.string value) r) r') :=
    trivial
  rw [Manuscript.stmt]
  refine (m.succeeds_stmtInfo h hsimple).bind fun info _ => ?_
  have htargets : Reading.Succeeds (m.exprs [.name "x" x]) fun es =>
      ∃ i, es = [.identifier "x" i] := by
    rw [Manuscript.exprs]
    refine hname.bind fun e he => ?_
    obtain ⟨i, rfl⟩ := he
    rw [Manuscript.exprs, pure_bind]
    exact Reading.succeeds_pure ⟨i, rfl⟩
  refine htargets.bind fun es hes => ?_
  obtain ⟨i, rfl⟩ := hes
  refine hvalue.bind fun e he => ?_
  obtain ⟨raw, info', rfl⟩ := he
  exact Reading.succeeds_pure ⟨i, raw, info', info, rfl⟩

end BlockText.Source

namespace BlockText.Text

open Source Syntax

/-- A text without null characters that is spelled as a literal is read back: an assignment of the
literal is one statement, whose value is the text with the line breaks that stand between triple
marks unified, and the delimiter of the literal is the one that it was spelled with. -/
theorem ofSource_spell (value : String) (q : Delimiter) (width : ℤ) (names : CharacterNames)
    (hvalue : Char.ofNat 0 ∉ value.toList) :
    (∃ p x raw info info', Program.ofSource ("x = " ++ spell value q) width names = .ok p ∧
      p.body.statements = [.assign [.identifier "x" x] (.literal .string raw
        (String.ofList (if q.isTriple then unifyBreaks value.toList else value.toList)) info) info']) ∧
      delimiterOf (spell value q) = q := by
  refine ⟨?_, delimiterOf_spell value q⟩
  have hsource : ("x = " ++ spell value q).toList = "x = ".toList ++ literalChars q value.toList := by
    rw [String.toList_append, toList_spell]
  have hnul : Char.ofNat 0 ∉ ("x = " ++ spell value q).toList := by
    have hname : Char.ofNat 0 ∉ "x = ".toList := by decide
    have hchars : Char.ofNat 0 ∉ q.chars := by cases q <;> decide
    have hescaped : Char.ofNat 0 ∉ escaped q value.toList := by
      intro h
      obtain ⟨c, hc, hmem⟩ := List.mem_flatMap.mp h
      rcases escapedChar_cases q c with ⟨heq, -⟩ | ⟨letter, heq, hescape, -⟩
      · rw [heq, List.mem_singleton] at hmem
        exact hvalue (hmem ▸ hc)
      · obtain rfl : Char.ofNat 0 = letter := by simpa [heq] using hmem
        cases hescape
    rw [hsource, literalChars]
    simp only [List.mem_append, not_or]
    exact ⟨hname, ⟨hchars, hescaped⟩, hchars⟩
  obtain ⟨outline, houtline, hcomments, hlast⟩ := exists_outline_literal q value.toList
  obtain ⟨x, r, r', hparse, hline⟩ := parse_assignment names q value.toList
  rw [← hsource] at houtline hparse hlast
  let source := "x = " ++ spell value q
  let m : Manuscript :=
    ⟨⟨source, linesKeepingFeeds source.toList, outline⟩, physicalLines source.toList⟩
  let s : Source.Stmt :=
    .assign [.name "x" x] (.constant (.string ((denoted q value.toList).map .char)) r) r'
  have hstmt : Reading.Succeeds (m.stmt 0 s) (IsAssignment ((denoted q value.toList).map .char)) :=
    Manuscript.succeeds_assignment hcomments _ x r r'
  have hsimple : Manuscript.IsSimple s := trivial
  obtain ⟨p, hp, s', hs, i, raw, info, info', rfl⟩ := Program.exists_ofSource hnul hparse houtline
    (Manuscript.succeeds_program width (m := m) hlast.ge hsimple hline hstmt)
  have htext : Datum.ofPoints ((denoted q value.toList).map .char) =
      .text (String.ofList (denoted q value.toList)) := by
    rw [← Datum.ofPoints_points, points, String.toList_ofList]
  rw [htext] at hs
  exact ⟨p, i, raw, info, info', hp, hs⟩

/-- Between triple marks a line break of two characters is read as one line feed. -/
theorem ofSource_spell_breaks : Char.ofNat 0 ∉ "\\it's\r\n\"so\"".toList ∧
    (∃ p x raw info info',
      Program.ofSource ("x = " ++ spell "\\it's\r\n\"so\"" .tripleDouble) 4 = .ok p ∧
      p.body.statements =
        [.assign [.identifier "x" x] (.literal .string raw "\\it's\n\"so\"" info) info']) ∧
      delimiterOf (spell "\\it's\r\n\"so\"" .tripleDouble) = .tripleDouble := by
  have hvalue : Char.ofNat 0 ∉ "\\it's\r\n\"so\"".toList := by decide
  exact ⟨hvalue, ofSource_spell "\\it's\r\n\"so\"" .tripleDouble 4 named? hvalue⟩

end BlockText.Text

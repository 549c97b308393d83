import BlockText.Proofs.Source.Rows
import BlockText.Proofs.Source.Standing.Compound
import BlockText.Proofs.Source.Spans.Expr

/-!
# Statements in spans

The span of a statement begins at its first decorator's line, and that of a case at the line of its
pattern.  A statement lies in a span if its own span does and the lines without code before it begin
in it; then its operands, its bodies and its cases lie in spans of their own in the same way.
-/

namespace BlockText.Source

open Datum Reading Rule Syntax Text

variable {t : SourceText} {T : Array Token} {o o' s₀ : Span} {r : Range} {p : Pattern} {s : Stmt}
  {b : Branch} {m : Manuscript}

/-! ## Fields of formatted strings -/

/-- In all expressions of a statement the replacement fields of formatted strings lie in them. -/
inductive Stmt.FieldsInside : Stmt → Prop
  | intro {s : Stmt} (operands : ∀ c ∈ s.operands, c.Everywhere Expr.FieldsInside)
    (parts : ∀ p ∈ s.parts, ∀ c ∈ p.operands, c.Everywhere Expr.FieldsInside)
    (cases : ∀ c ∈ s.cases, ∀ e r, c.pattern = .literal e r → e.Everywhere Expr.FieldsInside)
    (inside : ∀ b ∈ s.branches, ∀ c ∈ b.body, Stmt.FieldsInside c) : Stmt.FieldsInside s

/-- A computable form, down to a depth. -/
def Stmt.fieldsInsideTo : ℕ → Stmt → Bool
  | 0, _ => false
  | depth + 1, s =>
    s.operands.all (Expr.holdsTo Expr.FieldsInside depth) &&
      s.parts.all (fun p => p.operands.all (Expr.holdsTo Expr.FieldsInside depth)) &&
      s.cases.all (fun c =>
        match c.pattern with
        | .literal e _ => e.holdsTo Expr.FieldsInside depth
        | _ => true) &&
      s.branches.all fun b => b.body.all (fieldsInsideTo depth)

lemma Stmt.fieldsInside_of_fieldsInsideTo {depth : ℕ} (h : s.fieldsInsideTo depth = true) :
    s.FieldsInside := by
  induction depth generalizing s with
  | zero => cases h
  | succ depth ih =>
    simp only [fieldsInsideTo, Bool.and_eq_true, List.all_eq_true] at h
    obtain ⟨⟨⟨hoperands, hparts⟩, hcases⟩, hbranches⟩ := h
    refine .intro (fun c hc => Expr.everywhere_of_holdsTo (hoperands c hc))
      (fun p hp c hc => Expr.everywhere_of_holdsTo (hparts p hp c hc)) (fun c hc e r he => ?_)
      fun b hb c hc => ih (hbranches b hb c hc)
    have hliteral := hcases c hc
    rw [he] at hliteral
    exact Expr.everywhere_of_holdsTo hliteral

namespace Manuscript

variable (m) {α : Type} {P : α → Prop}

/-- The span of a statement. -/
def stmtSpan (s : Stmt) : Span := ⟨m.startOf s, m.text.positionAt s.range.stop⟩

/-- The span of a case. -/
def caseSpan (c : Case Stmt) : Span :=
  ⟨m.text.firstOnLine c.pattern.range.start.line, m.text.positionAt c.range.stop⟩

lemma startOf_of_nil (hds : decoratorsOf s = []) : m.startOf s = m.text.positionAt s.head := by
  rw [startOf, hds, Stmt.head, hds]
  rfl

lemma startOf_of_cons {d : Expr} {ds : List Expr} (hds : decoratorsOf s = d :: ds) :
    m.startOf s = m.text.firstOnLine s.head.line := by
  rw [startOf, hds, Stmt.head, hds]
  rfl

lemma startOf_line (s : Stmt) : (m.startOf s).line = s.head.line := by
  cases hds : decoratorsOf s with
  | nil => rw [m.startOf_of_nil hds, m.text.positionAt_line]
  | cons d ds =>
    rw [m.startOf_of_cons hds, SourceText.firstOnLine, SourceText.position]
    split <;> rfl

lemma lies_startOf (hs : 1 ≤ s.head.line) : m.text.Lies (m.startOf s) := by
  cases hds : decoratorsOf s with
  | nil =>
    rw [m.startOf_of_nil hds]
    exact SourceText.lies_positionAt hs
  | cons d ds =>
    rw [m.startOf_of_cons hds]
    exact SourceText.lies_firstOnLine hs

end Manuscript

/-- A statement lies in a span with the lines without code in front of it, and all in it lies where
it belongs. -/
structure Stmt.LiesIn (m : Manuscript) (T : Array Token) (o : Span) (s : Stmt) : Prop where
  within : m.text.Within o (m.stmtSpan s)
  gaps : ∀ line, m.text.outline.lastCodeLine (m.startOf s).line (m.startOf s).column < line →
    line < (m.startOf s).line → o.start.place ≤ toLex (line, 0)
  nested : s.IsNested T
  fields : s.FieldsInside

/-- A body lies in a span. -/
structure Branch.IsIn (t : SourceText) (o : Span) (b : Branch) : Prop where
  start_le : o.start.place ≤ (t.positionAt b.head).place
  le_stop : (t.positionAt b.stop).place ≤ o.stop.place

/-- A case lies in a span, and its pattern and its body inside it. -/
structure Case.LiesIn (m : Manuscript) (T : Array Token) (o : Span) (c : Case Stmt) : Prop where
  within : m.text.Within o (m.caseSpan c)
  pattern : m.text.Within (m.caseSpan c) (m.text.spanOf c.pattern.range)
  literal : ∀ e r, c.pattern = .literal e r → r = e.range ∧ e.Everywhere Expr.Fits
  body : ∀ s ∈ c.body, s.LiesIn m T (m.caseSpan c)

namespace SourceText.Shows

variable (h : m.text.Shows T)

include h

/-- A statement starts no later than its first decorator. -/
lemma startOf_le (hs : s.IsNested T) : (m.startOf s).place ≤ (m.text.positionAt s.head).place := by
  cases hds : Manuscript.decoratorsOf s with
  | nil =>
    rw [m.startOf_of_nil hds]
  | cons d ds =>
    have hbranch : ∃ b ∈ s.branches, b.head = s.head := by
      cases s with
      | functionDef | classDef => exact ⟨_, List.mem_singleton_self _, rfl⟩
      | _ => cases hds
    obtain ⟨b, hb, hhead⟩ := hbranch
    obtain ⟨i, k, -, -, hcode, hk, -⟩ := (hs.fits.branches b hb).leads
    rw [m.startOf_of_cons hds, ← hhead, hk]
    exact h.firstOnLine_le hcode

/-- A body stands behind where its header starts. -/
lemma start_lt (hb : b.Fits T) (hs : s ∈ b.body) :
    (m.text.positionAt b.head).place < (m.startOf s).place := by
  obtain ⟨i, k, -, -, hcode, hhead, -⟩ := hb.leads
  obtain ⟨j, hlt, hle⟩ := hb.head_lt s hs
  cases hds : Manuscript.decoratorsOf s with
  | nil =>
    obtain ⟨on, c, rest, hdivides, -⟩ := h.exists_divides_startAt hcode
    obtain ⟨on', rest', hstop⟩ := h.exists_divides_stopBefore hlt
    rw [← hhead] at hdivides
    rw [m.startOf_of_nil hds]
    exact (hdivides.place_lt hstop hlt).trans_le (m.text.positionAt_place_mono hle)
  | cons d ds =>
    have hbelow := hb.below s hs (by simp [hds])
    rw [m.startOf_of_cons hds, SourceText.firstOnLine, SourceText.position_place]
    refine Prod.Lex.toLex_lt_toLex.mpr (.inl ?_)
    rwa [m.text.positionAt_line]

lemma line_pos_of_leads {mark : Mark} (hleads : Leads T mark) : 1 ≤ mark.line := by
  obtain ⟨i, k, -, -, hcode, rfl, -⟩ := hleads
  obtain ⟨on, c, rest, hdivides, -⟩ := h.exists_divides_startAt hcode
  exact hdivides.line_le.1

end SourceText.Shows

namespace Stmt.LiesIn

section

variable (hs : s.LiesIn m T o)

include hs

lemma line_pos : 1 ≤ s.head.line := m.startOf_line s ▸ hs.within.lies_start.line_pos

variable (h : m.text.Shows T)

include h

/-- What lies in the place of a statement with its decorators lies in its span. -/
lemma within_outer (hr : s.outer.Holds r) : m.text.Within (m.stmtSpan s) (m.text.spanOf r) := by
  have hstart := h.startOf_le hs.nested
  have hin := m.text.within_spanOf hr hs.line_pos
  exact ⟨hstart.trans hin.start_le, hin.forward, hin.le_stop, hin.lies_start, hin.lies_stop⟩

lemma operands : ∀ c ∈ s.operands, c.LiesIn m.text (m.stmtSpan s) := by
  intro c hc
  obtain ⟨hholds, hnested⟩ := hs.nested.fits.operands c hc
  cases hs.fields with
  | intro operands => exact ⟨hs.within_outer h hholds, hnested.mp (operands c hc)⟩

lemma parts : ∀ p ∈ s.parts, p.LiesIn m.text (m.stmtSpan s) := by
  intro p hp
  obtain ⟨hholds, hoperands⟩ := hs.nested.fits.parts p hp
  have hwithin := hs.within_outer h hholds
  refine ⟨hwithin, fun c hc => ?_⟩
  obtain ⟨hinside, hnested⟩ := hoperands c hc
  cases hs.fields with
  | intro _ parts => exact ⟨hwithin.inside hinside, hnested.mp (parts p hp c hc)⟩

/-- The statements of a body lie in every span that the body is in. -/
lemma body (hb : b ∈ s.branches) (hin : b.IsIn m.text o') : ∀ c ∈ b.body, c.LiesIn m T o' := by
  intro c hc
  have hfits := hs.nested.fits.branches b hb
  have hnested : c.IsNested T := by
    cases hs.nested with
    | intro _ inside => exact inside b hb c hc
  have hfields : c.FieldsInside := by
    cases hs.fields with
    | intro _ _ _ inside => exact inside b hb c hc
  have hlt := h.start_lt hfits hc
  have hstart := h.startOf_le hnested
  have hc' := hnested.fits
  have hline : 1 ≤ c.head.line := by
    have hle := Position.line_le_of_place_le hlt.le
    rw [m.text.positionAt_line, m.startOf_line] at hle
    exact (h.line_pos_of_leads hfits.leads).trans hle
  have hforward := hc'.head_le.trans hc'.forward
  refine ⟨⟨hin.start_le.trans hlt.le, hstart.trans (m.text.positionAt_place_mono hforward),
    (m.text.positionAt_place_mono (hfits.stop_le c hc)).trans hin.le_stop, m.lies_startOf hline,
    SourceText.lies_positionAt (hline.trans (line_le_of_place_le hforward))⟩,
    fun line hlast _ => ?_, hnested, hfields⟩
  have hle : o'.start.line ≤ b.head.line :=
    m.text.positionAt_line b.head ▸ Position.line_le_of_place_le hin.start_le
  have hcode := h.le_lastCodeLine hfits.leads hlt
  exact (Prod.Lex.toLex_lt_toLex.mpr (.inl (hle.trans_lt (hcode.trans_lt hlast)))).le

/-- The statements of a body that starts and ends with its statement lie in its span. -/
lemma inside {ss : List Stmt} (hb : (⟨s.head, s.range.stop, ss⟩ : Branch) ∈ s.branches) :
    ∀ c ∈ ss, c.LiesIn m T (m.stmtSpan s) := hs.body h hb ⟨h.startOf_le hs.nested, le_rfl⟩

/-- A case with a pattern that can be shown lies in the span of its statement. -/
lemma case {c : Case Stmt} (hc : c ∈ s.cases) (hshown : c.pattern.IsShown) :
    c.LiesIn m T (m.stmtSpan s) := by
  have hfits := hs.nested.fits.cases c hc hshown
  have hb : (⟨c.range.start, c.range.stop, c.body⟩ : Branch) ∈ s.branches := by
    cases s with
    | matchStmt e cs r =>
      refine List.mem_flatMap.mpr ⟨c, hc, ?_⟩
      unfold Case.branches
      split
      · next form r' hother => exact absurd hother (hshown form r')
      · exact List.mem_singleton_self _
    | _ => cases hc
  have hleads := (hs.nested.fits.branches _ hb).leads
  have hfirst : (m.text.firstOnLine c.pattern.range.start.line).place ≤
      (m.text.positionAt c.pattern.range.start).place := by
    obtain ⟨i, k, -, -, hcode, hhead, -⟩ := hleads
    have hstart : c.pattern.range.start = startAt T k := hhead
    rw [hstart]
    exact h.firstOnLine_le hcode
  have hline : 1 ≤ c.pattern.range.start.line := h.line_pos_of_leads hleads
  have hpattern := m.text.positionAt_place_mono hfits.forward
  have hstop := m.text.positionAt_place_mono hfits.pattern_le
  have hlies : m.text.Lies (m.text.positionAt c.pattern.range.stop) :=
    SourceText.lies_positionAt (hline.trans (line_le_of_place_le hfits.forward))
  have hwithin : m.text.Within (m.stmtSpan s) (m.caseSpan c) := by
    refine ⟨?_, hfirst.trans (hpattern.trans hstop), m.text.positionAt_place_mono hfits.stop_le,
      SourceText.lies_firstOnLine hline, SourceText.lies_positionAt (hline.trans
        (line_le_of_place_le (hfits.forward.trans hfits.pattern_le)))⟩
    have hbelow : (m.startOf s).line < c.pattern.range.start.line :=
      m.startOf_line s ▸ hfits.below
    rw [Manuscript.caseSpan, SourceText.firstOnLine, SourceText.position_place]
    exact (Prod.Lex.toLex_lt_toLex.mpr (.inl hbelow)).le
  refine ⟨hwithin, ⟨hfirst, hpattern, hstop, SourceText.lies_positionAt hline, hlies⟩,
    fun e r he => ?_, hs.body h hb ⟨hfirst, le_rfl⟩⟩
  obtain ⟨hr, hnested⟩ := hfits.literal e r he
  cases hs.fields with
  | intro _ _ cases => exact ⟨hr, hnested.mp (cases c hc e r he)⟩

end

end Stmt.LiesIn

end BlockText.Source

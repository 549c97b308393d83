import BlockText.Proofs.Source.Lines
import BlockText.Source.Reading

/-!
# Places in a text

A mark counts lines from one and bytes within its line; a position counts characters.  Where every
carriage return stands before a line feed, the lines of the outline are the lines of the text, so
the position of a mark says how many characters stand before it on its line and in the text.  Later
marks have later positions.

A range holds another one if it starts no later and ends no earlier.  The nodes of a program are put
together from operands and from stretches of source that have no range of their own: parameters,
arguments, entries and clauses.  An expression fits if each of these lies in its range, and the
operands of a stretch lie in the stretch; with formatted strings this can be said only where their
fields lie in them.
-/

namespace BlockText.Text

variable {cs line : List Char} {n : ℕ}

/-! ## Lines -/

/-- A text is a last line, or a line before a text. -/
lemma lines_induction {motive : List Char → Prop} (last : ∀ cs, '\n' ∉ cs → motive cs)
    (line : ∀ as bs, '\n' ∉ as → motive bs → motive (as ++ '\n' :: bs)) (cs : List Char) :
    motive cs := by
  induction hlength : cs.length using Nat.strong_induction_on generalizing cs with
  | _ length ih =>
    by_cases hfeed : '\n' ∈ cs
    · obtain ⟨as, bs, rfl, has⟩ := List.eq_append_cons_of_mem hfeed
      exact line as bs has (ih bs.length (by simp [← hlength]; omega) bs rfl)
    · exact last cs hfeed

/-- The lines of a text with their feeds are the text. -/
lemma flatten_linesKeepingFeeds (cs : List Char) : (linesKeepingFeeds cs).flatten = cs := by
  induction cs using lines_induction with
  | last cs hfeed =>
    rcases cs with - | ⟨c, cs⟩
    · rfl
    · rw [linesKeepingFeeds_single hfeed (by simp), List.flatten_singleton]
  | line as bs has ih => simp [linesKeepingFeeds_cons has, ih]

/-- The lines before a line are whole lines. -/
lemma flatten_take_linesKeepingFeeds (h : (linesKeepingFeeds cs)[n]? = some line) :
    ((linesKeepingFeeds cs).take n).flatten = [] ∨
      ((linesKeepingFeeds cs).take n).flatten.getLast? = some '\n' := by
  induction cs using lines_induction generalizing n with
  | last cs hfeed =>
    rcases cs with - | ⟨c, cs⟩
    · cases h
    · rw [linesKeepingFeeds_single hfeed (by simp)] at h ⊢
      rcases n with - | n
      · exact .inl rfl
      · cases h
  | line as bs has ih =>
    rw [linesKeepingFeeds_cons has] at h ⊢
    rcases n with - | n
    · exact .inl rfl
    · refine .inr ?_
      rw [List.take_succ_cons, List.flatten_cons, List.getLast?_append]
      rcases ih h with hnil | hlast
      · simp [hnil]
      · simp [hlast]

/-- Before a line there are as many line feeds as lines. -/
lemma count_take_linesKeepingFeeds (h : (linesKeepingFeeds cs)[n]? = some line) :
    ((linesKeepingFeeds cs).take n).flatten.count '\n' = n := by
  induction cs using lines_induction generalizing n with
  | last cs hfeed =>
    rcases cs with - | ⟨c, cs⟩
    · cases h
    · rw [linesKeepingFeeds_single hfeed (by simp)] at h ⊢
      rcases n with - | n
      · rfl
      · cases h
  | line as bs has ih =>
    rw [linesKeepingFeeds_cons has] at h ⊢
    rcases n with - | n
    · rfl
    · rw [List.take_succ_cons, List.flatten_cons, List.count_append, ih h, List.count_append,
        List.count_eq_zero.mpr has]
      simp [Nat.add_comm]

end BlockText.Text

namespace BlockText.Source

open Text

variable {t : SourceText} {m m' : Mark} {cs on on' rest rest' : List Char} {n n' k k' : ℕ}

/-- Every carriage return stands before a line feed. -/
def returnsPaired : List Char → Bool
  | [] => true
  | c :: rest => (c != '\r' || rest.head? == some '\n') && returnsPaired rest

/-- Where carriage returns are paired, only line feeds end lines. -/
lemma physicalLines_eq (h : returnsPaired cs = true) : physicalLines cs = linesKeepingFeeds cs := by
  have hgo : ∀ acc, physicalLines.go cs acc = linesKeepingFeeds.go cs acc := by
    intro acc
    fun_induction physicalLines.go cs acc with
    | case1 acc => rfl
    | case2 rest acc ih =>
      have hpaired : returnsPaired rest = true := by simpa [returnsPaired] using h
      simp [linesKeepingFeeds.go, ih hpaired]
    | case3 c rest acc hpair hbreak ih =>
      rw [returnsPaired, Bool.and_eq_true] at h
      have hfeed : c = '\n' := by
        by_contra hne
        have hreturn : c = '\r' := by simpa [hne] using hbreak
        have hhead : rest.head? = some '\n' := by simpa [hreturn] using h.1
        obtain ⟨more, rfl⟩ := List.head?_eq_some_iff.mp hhead
        exact hpair more hreturn rfl
      simp [linesKeepingFeeds.go, hfeed, ih h.2]
    | case4 c rest acc hpair hbreak ih =>
      rw [returnsPaired, Bool.and_eq_true] at h
      have hfeed : (c == '\n') = false := by
        simp only [Bool.or_eq_true, not_or, Bool.not_eq_true] at hbreak
        exact hbreak.2
      simp [linesKeepingFeeds.go, hfeed, ih h.2]
  rw [physicalLines, linesKeepingFeeds, hgo]

/-! ## Characters in bytes -/

/-- No more characters are in some bytes of a text than in the text. -/
lemma charsIn_le (k : ℕ) (cs : List Char) : SourceText.charsIn k cs ≤ cs.length := by
  induction cs generalizing k with
  | nil => simp [SourceText.charsIn]
  | cons c cs ih =>
    rw [SourceText.charsIn, List.length_cons]
    split
    · exact Nat.add_le_add_right (ih _) 1
    · exact Nat.zero_le _

/-- More bytes hold no fewer characters. -/
lemma charsIn_mono (h : k ≤ k') (cs : List Char) :
    SourceText.charsIn k cs ≤ SourceText.charsIn k' cs := by
  induction cs generalizing k k' with
  | nil => simp [SourceText.charsIn]
  | cons c cs ih =>
    rw [SourceText.charsIn, SourceText.charsIn]
    by_cases hfits : c.utf8Size ≤ k
    · rw [if_pos hfits, if_pos (hfits.trans h)]
      exact Nat.add_le_add_right (ih (by omega)) 1
    · rw [if_neg hfits]
      exact Nat.zero_le _

/-- The bytes of a text are those of its parts. -/
lemma byteCount_append (as bs : List Char) :
    byteCount (as ++ bs) = byteCount as + byteCount bs := by
  simp [byteCount]

/-! ## The order of places -/

/-- Places by their line, on a line by their column. -/
def Mark.place (m : Mark) : ℕ ×ₗ ℕ := toLex (m.line, m.column)

/-- Marks are in the order of lines, and on one line in that of columns. -/
lemma Mark.place_lt_iff : m.place < m'.place ↔
    m.line < m'.line ∨ m.line = m'.line ∧ m.column < m'.column := Prod.Lex.toLex_lt_toLex

/-- Marks are in the order of lines, and on one line in that of columns, or the same. -/
lemma Mark.place_le_iff : m.place ≤ m'.place ↔
    m.line < m'.line ∨ m.line = m'.line ∧ m.column ≤ m'.column := Prod.Lex.toLex_le_toLex

end BlockText.Source

namespace BlockText.Syntax

/-- Positions by their line, on a line by their column. -/
def Position.place (p : Position) : ℕ ×ₗ ℕ := toLex (p.line, p.column)

/-- Positions are in the order of lines, and on one line in that of columns, or the same. -/
lemma Position.place_le_iff {p q : Position} : p.place ≤ q.place ↔
    p.line < q.line ∨ p.line = q.line ∧ p.column ≤ q.column := Prod.Lex.toLex_le_toLex

end BlockText.Syntax

namespace BlockText.Source.SourceText

open Syntax Text

variable {t : SourceText} {m m' : Mark} {on on' rest rest' : List Char} {n n' : ℕ}

/-! ## Positions -/

/-- Lines are counted from one on. -/
lemma line_of_getElem? (h : t.lines[n]? = some on) : t.line (n + 1) = on := by
  simp [line, h]

/-- A line starts behind the line before it. -/
lemma lineStart_succ (hn : 1 ≤ n) : t.lineStart (n + 1) = t.lineStart n + (t.line n).length := by
  obtain ⟨n, rfl⟩ := Nat.exists_eq_add_of_le' hn
  simp only [lineStart, line, Nat.add_sub_cancel, List.take_add_one, List.flatten_append,
    List.length_append, Nat.add_eq_zero_iff, one_ne_zero, and_false, if_false]
  cases t.lines[n]? <;> simp

/-- Later lines do not start earlier. -/
lemma lineStart_mono (h : n ≤ n') : t.lineStart n ≤ t.lineStart n' := by
  rw [lineStart, lineStart]
  exact ((List.take_prefix_take_left (by omega)).flatten).length_le

/-- A column is within its line. -/
lemma columnAt_le : t.columnAt m ≤ (t.line m.line).length := charsIn_le _ _

/-- On one line later marks have no smaller columns. -/
lemma columnAt_mono (hline : m.line = m'.line) (h : m.column ≤ m'.column) :
    t.columnAt m ≤ t.columnAt m' := by
  rw [columnAt, columnAt, hline]
  exact charsIn_mono h _

/-- Later marks have no earlier positions. -/
lemma positionAt_place_mono (h : m.place ≤ m'.place) :
    (t.positionAt m).place ≤ (t.positionAt m').place := by
  have hplace : ∀ m : Mark,
      (t.positionAt m).line = m.line ∧ (t.positionAt m).column = t.columnAt m := by
    intro m
    unfold positionAt position
    split <;> exact ⟨rfl, rfl⟩
  rw [Position.place_le_iff, (hplace m).1, (hplace m).2, (hplace m').1, (hplace m').2]
  exact (Mark.place_le_iff.mp h).imp_right fun h => ⟨h.1, columnAt_mono h.1 h.2⟩

/-- The column counts the characters before a place on its line, the offset those of the text. -/
lemma positionAt_of_getElem? (h : t.lines[n]? = some (on ++ rest)) :
    t.positionAt ⟨n + 1, byteCount on⟩ =
      ⟨n + 1, on.length, ((t.lines.take n).flatten ++ on).length⟩ := by
  have hn : n + 1 ≤ t.lines.length := (List.getElem?_eq_some_iff.mp h).1
  have hcolumn : t.columnAt ⟨n + 1, byteCount on⟩ = on.length := by
    rw [columnAt, line_of_getElem? h, charsIn_append]
  rw [positionAt, position, if_pos ⟨Nat.le_add_left 1 n, hn⟩, hcolumn, lineStart,
    List.length_append]
  rfl

/-- The offset of a mark. -/
def offsetAt (t : SourceText) (m : Mark) : ℕ := (t.positionAt m).offset

/-- The offset of a mark on a line of the text is where the line starts and its column. -/
lemma offsetAt_of_le (hm : 1 ≤ m.line) (h : m.line ≤ t.lines.length) :
    t.offsetAt m = t.lineStart m.line + t.columnAt m := by
  rw [offsetAt, positionAt, position, if_pos ⟨hm, h⟩]

/-- The offset of a mark behind the last line is the size of the text. -/
lemma offsetAt_of_lt (h : t.lines.length < m.line) : t.offsetAt m = t.size := by
  rw [offsetAt, positionAt, position, if_neg (by omega)]

/-- Lines start within the text. -/
lemma lineStart_le_size (hlines : t.lines = linesKeepingFeeds t.source.toList) (n : ℕ) :
    t.lineStart n ≤ t.size := by
  rw [lineStart, size, ← String.length_toList, ← flatten_linesKeepingFeeds t.source.toList,
    ← hlines]
  exact (List.take_prefix _ _).flatten.length_le

/-- No place on a line lies behind the start of the next line. -/
lemma offsetAt_le_lineStart (hm : 1 ≤ m.line) (h : m.line ≤ t.lines.length) :
    t.offsetAt m ≤ t.lineStart (m.line + 1) := by
  rw [offsetAt_of_le hm h, lineStart_succ hm]
  exact Nat.add_le_add_left columnAt_le _

/-- A later mark has no smaller offset. -/
lemma offsetAt_mono (hlines : t.lines = linesKeepingFeeds t.source.toList) (hm : 1 ≤ m.line)
    (h : m.place ≤ m'.place) : t.offsetAt m ≤ t.offsetAt m' := by
  have hle : m.line ≤ m'.line := by
    rcases Mark.place_le_iff.mp h with hlt | ⟨heq, -⟩
    · exact hlt.le
    · exact heq.le
  rcases Nat.lt_or_ge t.lines.length m.line with hbeyond | hm'
  · rw [offsetAt_of_lt hbeyond, offsetAt_of_lt (hbeyond.trans_le hle)]
  · rcases Nat.lt_or_ge t.lines.length m'.line with hbeyond | hin
    · rw [offsetAt_of_lt hbeyond]
      exact (offsetAt_le_lineStart hm hm').trans (lineStart_le_size hlines _)
    · rcases Mark.place_le_iff.mp h with hlt | ⟨heq, hcolumn⟩
      · calc t.offsetAt m ≤ t.lineStart (m.line + 1) := offsetAt_le_lineStart hm hm'
          _ ≤ t.lineStart m'.line := lineStart_mono hlt
          _ ≤ t.offsetAt m' := by
            rw [offsetAt_of_le (hm.trans hle) hin]
            exact Nat.le_add_right _ _
      · rw [offsetAt_of_le hm hm', offsetAt_of_le (hm.trans hle) hin, heq]
        exact Nat.add_le_add_left (columnAt_mono heq hcolumn) _

/-- Inside lines a later boundary between characters has a greater offset. -/
lemma offsetAt_lt (h : t.lines[n]? = some (on ++ rest)) (hrest : rest ≠ [])
    (h' : t.lines[n']? = some (on' ++ rest'))
    (hlt : (⟨n + 1, byteCount on⟩ : Mark).place < (⟨n' + 1, byteCount on'⟩ : Mark).place) :
    t.offsetAt ⟨n + 1, byteCount on⟩ < t.offsetAt ⟨n' + 1, byteCount on'⟩ := by
  simp only [offsetAt, positionAt_of_getElem? h, positionAt_of_getElem? h', List.length_append]
  rcases Mark.place_lt_iff.mp hlt with hline | ⟨heq, hcolumn⟩
  · have hpos : 0 < rest.length := List.length_pos_iff.mpr hrest
    have hnext : t.lineStart (n + 1 + 1) = t.lineStart (n + 1) + (on ++ rest).length := by
      rw [lineStart_succ (Nat.le_add_left 1 n), line_of_getElem? h]
    have hle : t.lineStart (n + 1 + 1) ≤ t.lineStart (n' + 1) := lineStart_mono hline
    rw [List.length_append] at hnext
    simp only [lineStart, Nat.add_sub_cancel] at hnext hle
    omega
  · obtain rfl : n = n' := Nat.succ.inj heq
    have hlength : on.length < on'.length := by
      rw [h] at h'
      by_contra hge
      have hprefix : on' <+: on :=
        List.prefix_of_prefix_length_le (List.prefix_append on' rest')
          (Option.some.inj h' ▸ List.prefix_append on rest) (Nat.le_of_not_lt hge)
      obtain ⟨more, rfl⟩ := hprefix
      rw [byteCount_append] at hcolumn
      exact absurd hcolumn (Nat.not_lt.mpr (Nat.le_add_right _ _))
    omega

end BlockText.Source.SourceText

namespace BlockText.Source

/-! ## Ranges -/

/-- Later marks are on no earlier line. -/
lemma line_le_of_place_le {m m' : Mark} (h : m.place ≤ m'.place) : m.line ≤ m'.line := by
  rcases Mark.place_le_iff.mp h with hlt | ⟨heq, -⟩
  · exact hlt.le
  · exact heq.le

/-- A range lies inside another, and does not end before it starts. -/
structure Range.Holds (outer inner : Range) : Prop where
  start_le : outer.start.place ≤ inner.start.place
  forward : inner.start.place ≤ inner.stop.place
  le_stop : inner.stop.place ≤ outer.stop.place

instance (outer inner : Range) : Decidable (outer.Holds inner) :=
  decidable_of_iff (outer.start.place ≤ inner.start.place ∧ inner.start.place ≤ inner.stop.place ∧
    inner.stop.place ≤ outer.stop.place)
    ⟨fun h => ⟨h.1, h.2.1, h.2.2⟩, fun h => ⟨h.start_le, h.forward, h.le_stop⟩⟩

/-- What a range holds holds in turn what that holds. -/
lemma Range.Holds.trans {r r' r'' : Range} (h : r.Holds r') (h' : r'.Holds r'') : r.Holds r'' :=
  ⟨h.start_le.trans h'.start_le, h'.forward, h'.le_stop.trans h.le_stop⟩

/-- A stretch of a construct with expressions in it: a parameter, an argument or an entry. -/
structure Part where
  range : Range
  operands : List Expr

/-- A parameter with its default value. -/
def ArgDefault.part (a : ArgDefault Expr) : Part :=
  ⟨Manuscript.between a.arg.range ((a.preset.map Expr.range).getD a.arg.range),
    a.arg.hint.toList ++ a.preset.toList⟩

/-- A parameter. -/
def Arg.part (a : Arg Expr) : Part := ⟨a.range, a.hint.toList⟩

/-- The parameters of a function. -/
def Arguments.parts (a : Arguments Expr) : List Part :=
  (a.positionalOnly ++ a.plain).map ArgDefault.part ++ a.variadic.toList.map Arg.part ++
    a.keywordOnly.map ArgDefault.part ++ a.mapping.toList.map Arg.part

/-- A keyword argument. -/
def KeywordArg.part (k : KeywordArg Expr) : Part := ⟨k.range, [k.value]⟩

/-- An entry of a dictionary. -/
def Entry.part (e : Entry Expr) : Part :=
  ⟨Manuscript.between ((e.key.map Expr.range).getD e.value.range) e.value.range,
    e.key.toList ++ [e.value]⟩

/-- A clause of a comprehension. -/
def ForClause.part (c : ForClause Expr) : Part :=
  ⟨Manuscript.between c.target.range ((c.ifs.getLast?.map Expr.range).getD c.iter.range),
    c.target :: c.iter :: c.ifs⟩

namespace Expr

/-- The expressions right inside an expression. -/
def operands : Expr → List Expr
  | .name .. | .constant .. | .formatted .. | .dict .. => []
  | .binary l _ r _ => [l, r]
  | .boolOp _ es _ | .tuple es _ | .list es _ | .set es _ => es
  | .compare l _ es _ => l :: es
  | .conditional t b e _ => [t, b, e]
  | .call f es _ _ => f :: es
  | .subscript e i _ => [e, i]
  | .slice l u s _ => l.toList ++ u.toList ++ s.toList
  | .comprehension _ k e _ _ => k.toList ++ [e]
  | .yield e _ => e.toList
  | .unary _ e _ | .lambda _ e _ | .attribute e _ _ | .walrus _ e _ | .yieldFrom e _ | .await e _
  | .starred e _ => [e]

/-- The parts of an expression. -/
def parts : Expr → List Part
  | .lambda a _ _ => a.parts
  | .call _ _ ks _ => ks.map KeywordArg.part
  | .dict es _ => es.map Entry.part
  | .comprehension _ _ _ cs _ => cs.map ForClause.part
  | .formatted ps r => ps.map fun p => ⟨r, p.value.toList⟩
  | _ => []

/-- The nearest expressions inside an expression. -/
def children (e : Expr) : List Expr := e.operands ++ e.parts.flatMap Part.operands

/-- Something holds of an expression and of all expressions in it. -/
inductive Everywhere (P : Expr → Prop) : Expr → Prop
  | intro {e : Expr} (here : P e) (inside : ∀ c ∈ e.children, Everywhere P c) : Everywhere P e

/-- The operands and the parts lie inside the expression, and the expressions of a part inside the
part. -/
structure Fits (e : Expr) : Prop where
  operands : ∀ c ∈ e.operands, e.range.Holds c.range
  parts : ∀ p ∈ e.parts, e.range.Holds p.range ∧ ∀ c ∈ p.operands, p.range.Holds c.range

/-- The expressions in the replacement fields of a formatted string. -/
def fields : Expr → List Expr
  | .formatted ps _ => ps.flatMap fun p => p.value.toList
  | _ => []

/-- The expressions in the replacement fields of a formatted string lie inside the string. -/
def FieldsInside (e : Expr) : Prop := ∀ c ∈ e.fields, e.range.Holds c.range

instance (e : Expr) : Decidable e.FieldsInside :=
  inferInstanceAs (Decidable (∀ c ∈ e.fields, e.range.Holds c.range))

/-- What follows everywhere from what holds everywhere holds everywhere. -/
lemma Everywhere.mp {P Q : Expr → Prop} {e : Expr} (h : e.Everywhere fun e => P e → Q e)
    (hP : e.Everywhere P) : e.Everywhere Q := by
  induction h with
  | intro here _ ih =>
    cases hP with
    | intro hereP insideP => exact .intro (here hereP) fun c hc => ih c hc (insideP c hc)

/-- Something holds of an expression and of all expressions in it, and none is deeper than this. -/
def holdsTo (P : Expr → Prop) [DecidablePred P] : ℕ → Expr → Bool
  | 0, _ => false
  | depth + 1, e => decide (P e) && e.children.all (holdsTo P depth)

/-- What is found to hold down to the depth of an expression holds everywhere in it. -/
lemma everywhere_of_holdsTo {P : Expr → Prop} [DecidablePred P] {depth : ℕ} {e : Expr}
    (h : e.holdsTo P depth = true) : e.Everywhere P := by
  induction depth generalizing e with
  | zero => cases h
  | succ depth ih =>
    rw [holdsTo, Bool.and_eq_true, List.all_eq_true] at h
    exact .intro (of_decide_eq_true h.1) fun c hc => ih (h.2 c hc)

end Expr

end BlockText.Source

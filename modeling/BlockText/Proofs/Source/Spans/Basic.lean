import BlockText.Proofs.Datum.Identities
import BlockText.Proofs.Source.OutlineOrder

/-!
# Spans inside spans

Positions in a text are in order by their lines and columns, and so are their offsets and the tokens
before them.  A datum is nested in a span if the span of every node in it lies inside that of the
node to which it belongs; then a walk finds no violation, and the tokens of a node lie among those
of the node to which it belongs.
-/

namespace BlockText

open Syntax Text

/-- Places are ordered by their lines first. -/
lemma Syntax.Position.line_le_of_place_le {p q : Position} (h : p.place ≤ q.place) :
    p.line ≤ q.line := by
  rcases Position.place_le_iff.mp h with hlt | ⟨heq, -⟩
  · exact hlt.le
  · exact heq.le

/-! ## Spans of a text -/

namespace Source.SourceText

variable {t : SourceText} {p q : Position} {outer inner s : Span} {m m' : Mark} {n : ℕ}

/-- The position is one of the text. -/
structure Lies (t : SourceText) (p : Position) : Prop where
  line_pos : 1 ≤ p.line
  column_le : p.column ≤ (t.line p.line).length
  eq_position : p = t.position p.line p.column

/-- The place of a position is its line and its column. -/
lemma position_place (t : SourceText) (n column : ℕ) :
    (t.position n column).place = toLex (n, column) := by
  unfold position
  split <;> rfl

/-- A position lies in the text when its line and its column do. -/
lemma lies_position {column : ℕ} (hn : 1 ≤ n) (hcolumn : column ≤ (t.line n).length) :
    t.Lies (t.position n column) := by
  have hplace : (t.position n column).line = n ∧ (t.position n column).column = column := by
    unfold position
    split <;> exact ⟨rfl, rfl⟩
  refine ⟨?_, ?_, ?_⟩
  · rwa [hplace.1]
  · rwa [hplace.1, hplace.2]
  · rw [hplace.1, hplace.2]

/-- The position of a mark lies in the text from the first line on. -/
lemma lies_positionAt (hm : 1 ≤ m.line) : t.Lies (t.positionAt m) := lies_position hm columnAt_le

/-- The first column of a line lies in the text. -/
lemma lies_firstOnLine (hn : 1 ≤ n) : t.Lies (t.firstOnLine n) :=
  lies_position hn (Nat.sub_le _ _)

/-- A later position of the text has no smaller offset. -/
lemma Lies.offset_mono (hp : t.Lies p) (hq : t.Lies q)
    (hlines : t.lines = linesKeepingFeeds t.source.toList) (h : p.place ≤ q.place) :
    p.offset ≤ q.offset := by
  have hoffset : ∀ r : Position, t.Lies r → r.line ≤ t.lines.length →
      r.offset = t.lineStart r.line + r.column ∧ r.offset ≤ t.lineStart (r.line + 1) := by
    intro r hr hle
    have heq : r.offset = t.lineStart r.line + r.column := by
      conv_lhs => rw [hr.eq_position, position, if_pos ⟨hr.line_pos, hle⟩]
    refine ⟨heq, ?_⟩
    rw [heq, lineStart_succ hr.line_pos]
    exact Nat.add_le_add_left hr.column_le _
  have hbeyond : ∀ r : Position, t.Lies r → t.lines.length < r.line → r.offset = t.size := by
    intro r hr hlt
    rw [hr.eq_position, position, if_neg (by omega)]
  rcases Nat.lt_or_ge t.lines.length q.line with hlt | hle'
  · rw [hbeyond q hq hlt]
    rcases Nat.lt_or_ge t.lines.length p.line with hlt' | hle
    · rw [hbeyond p hp hlt']
    · exact (hoffset p hp hle).2.trans (lineStart_le_size hlines _)
  · rcases Position.place_le_iff.mp h with hline | ⟨heq, hcolumn⟩
    · calc p.offset ≤ t.lineStart (p.line + 1) := (hoffset p hp (hline.le.trans hle')).2
        _ ≤ t.lineStart q.line := lineStart_mono hline
        _ ≤ q.offset := by
          rw [(hoffset q hq hle').1]
          exact Nat.le_add_right _ _
    · rw [(hoffset p hp (heq.le.trans hle')).1, (hoffset q hq hle').1, heq]
      exact Nat.add_le_add_left hcolumn _

/-- A span of the text lies inside another. -/
structure Within (t : SourceText) (outer inner : Span) : Prop where
  start_le : outer.start.place ≤ inner.start.place
  forward : inner.start.place ≤ inner.stop.place
  le_stop : inner.stop.place ≤ outer.stop.place
  lies_start : t.Lies inner.start
  lies_stop : t.Lies inner.stop

/-- Lying within a span is transitive. -/
lemma Within.trans (h : t.Within outer inner) (h' : t.Within inner s) : t.Within outer s :=
  ⟨h.start_le.trans h'.start_le, h'.forward, h'.le_stop.trans h.le_stop, h'.lies_start,
    h'.lies_stop⟩

/-- A span within another is within itself. -/
lemma Within.self (h : t.Within outer inner) : t.Within inner inner :=
  ⟨le_rfl, h.forward, le_rfl, h.lies_start, h.lies_stop⟩

/-! ## The whole text -/

/-- The whole text starts at its first line and column. -/
lemma wholeSpan_start (t : SourceText) : t.wholeSpan.start = ⟨1, 0, 0⟩ := by
  unfold wholeSpan
  split <;> rfl

/-- No place on a line lies behind the end of the text. -/
lemma le_wholeSpan_stop {column : ℕ} (hn : 1 ≤ n) (hlast : n ≤ t.lines.length)
    (hcolumn : column ≤ (t.line n).length) : toLex (n, column) ≤ t.wholeSpan.stop.place := by
  have hne : t.lines ≠ [] := List.ne_nil_of_length_pos (by omega)
  have hstop : t.wholeSpan.stop.place = toLex (t.lines.length, (t.lines.getLast hne).length) := by
    unfold wholeSpan
    rw [List.getLast?_eq_getLast_of_ne_nil hne]
    rfl
  rw [hstop]
  rcases Nat.eq_or_lt_of_le hlast with rfl | hlt
  · have hline : t.line t.lines.length = t.lines.getLast hne := by
      rw [line, if_neg (by omega), List.getLast_eq_getElem, List.getElem?_eq_getElem (by omega)]
      rfl
    exact Prod.Lex.toLex_le_toLex.mpr (.inr ⟨rfl, hline ▸ hcolumn⟩)
  · exact Prod.Lex.toLex_le_toLex.mpr (.inl hlt)

/-- The whole span of a text is within itself. -/
lemma within_wholeSpan (hlines : t.lines = linesKeepingFeeds t.source.toList) :
    t.Within t.wholeSpan t.wholeSpan := by
  have hsize : t.size = t.lines.flatten.length := by
    rw [size, hlines, flatten_linesKeepingFeeds, String.length_toList]
  have hwhole : ∃ n column, 1 ≤ n ∧ column ≤ (t.line n).length ∧
      t.wholeSpan = ⟨t.position 1 0, t.position n column⟩ := by
    cases hlast : t.lines.getLast? with
    | none =>
      have hnil := List.getLast?_eq_none_iff.mp hlast
      refine ⟨1, 0, le_rfl, Nat.zero_le _, ?_⟩
      rw [hnil] at hsize
      simp [wholeSpan, hnil, position, hsize]
    | some last =>
      obtain ⟨initial, hlines⟩ := List.getLast?_eq_some_iff.mp hlast
      have hlength : t.lines.length = initial.length + 1 := by rw [hlines, List.length_append]; rfl
      have hline : t.line t.lines.length = last := by
        rw [line, if_neg (by omega), hlength, hlines]
        simp
      have hstart : t.lineStart t.lines.length + last.length = t.size := by
        rw [hsize, lineStart, hlength, hlines]
        simp
      refine ⟨t.lines.length, last.length, by omega, by rw [hline], ?_⟩
      have hone : 1 ≤ t.lines.length := by omega
      rw [wholeSpan, hlast, position, position, if_pos ⟨le_rfl, hone⟩, if_pos ⟨hone, le_rfl⟩,
        hstart]
      rfl
  obtain ⟨n, column, hn, hcolumn, hwhole⟩ := hwhole
  rw [hwhole]
  refine ⟨le_rfl, ?_, le_rfl, lies_position le_rfl (Nat.zero_le _), lies_position hn hcolumn⟩
  rw [position_place, position_place]
  rcases Nat.eq_or_lt_of_le hn with rfl | hlt
  · exact Prod.Lex.toLex_le_toLex.mpr (.inr ⟨rfl, Nat.zero_le _⟩)
  · exact Prod.Lex.toLex_le_toLex.mpr (.inl hlt)

/-! ## Tokens of spans -/

/-- A later place has no fewer tokens before it. -/
lemma countBefore_mono (o : Outline) (h : p.place ≤ q.place) :
    o.countBefore p.line p.column ≤ o.countBefore q.line q.column := by
  unfold Outline.countBefore
  induction o.starts with
  | nil => exact le_rfl
  | cons a starts ih =>
    by_cases ha : Outline.isBefore a p.line p.column = true
    · have ha' : Outline.isBefore a q.line q.column = true :=
        Outline.isBefore_iff.mpr ((Outline.isBefore_iff.mp ha).trans_le h)
      rw [List.takeWhile_cons, List.takeWhile_cons, if_pos ha, if_pos ha']
      exact Nat.succ_le_succ ih
    · rw [List.takeWhile_cons, if_neg ha]
      exact Nat.zero_le _

/-- The tokens of a span lie among those of the span around it. -/
lemma Within.tokensIn (h : t.Within outer inner) :
    (t.tokensIn outer).start ≤ (t.tokensIn inner).start ∧
      (t.tokensIn inner).stop ≤ (t.tokensIn outer).stop :=
  ⟨countBefore_mono _ h.start_le, max_le
    ((countBefore_mono _ (h.forward.trans h.le_stop)).trans (le_max_right _ _))
    ((countBefore_mono _ h.le_stop).trans (le_max_right _ _))⟩

end Source.SourceText

namespace Datum

open Source

/-! ## Walks -/

/-- The nodes in a list are those in its members. -/
lemma mem_nodesInAll_iff {d : Datum} {ds : List Datum} :
    d ∈ nodesInAll ds ↔ ∃ e ∈ ds, d ∈ nodesIn e := by
  induction ds with
  | nil => simp [nodesInAll]
  | cons e rest ih => simp [nodesInAll, ih]

/-- The nodes visited from a list are those visited from its members. -/
lemma mem_visit_nodesInAll_iff {d : Datum} {ds : List Datum} :
    d ∈ visit (nodesInAll ds) ↔ ∃ e ∈ ds, d ∈ visit (nodesIn e) := by
  induction ds with
  | nil => simp [nodesInAll, visit]
  | cons e rest ih => simp [nodesInAll, visit_append, ih]

/-- The token range of a node. -/
def tokenRange? (d : Datum) : Option (Int × Int) :=
  match d.info? with
  | some (_ :: _ :: record .tokenRange [int start, int stop] :: _) => some (start, stop)
  | _ => none

/-! ## Nested data -/

/-- The information is that of a span. -/
structure IsAt (t : SourceText) (i : Info) (s : Span) : Prop where
  span : i.span = some s
  tokens : i.tokens = some (t.tokensIn s)

/-- The span of every node in a datum lies inside that of the node to which it belongs, the
outermost inside a span; a node without a span has no nodes in it. -/
inductive Nested (t : SourceText) : Span → Datum → Prop
  | blank {outer : Span} {d : Datum} (h : nodesIn d = []) : Nested t outer d
  | list {outer : Span} {ds : List Datum} (h : ∀ d ∈ ds, Nested t outer d) :
    Nested t outer (.list ds)
  | suite {outer : Span} {ds : List Datum} {level : ℤ} (h : ∀ d ∈ ds, Nested t outer d) :
    Nested t outer (.record .suite [.list ds, .int level])
  | node {outer s : Span} {tag : Tag} {fields : List Datum} {i : Info} (htag : tag.bearsInfo = true)
    (hi : fields.getLast? = some i.toDatum) (hs : IsAt t i s) (hwithin : t.Within outer s)
    (h : ∀ d ∈ fields.dropLast, Nested t s d) : Nested t outer (.record tag fields)
  | bare {outer : Span} {tag : Tag} {fields : List Datum} {i : Info} (htag : tag.bearsInfo = true)
    (hi : fields.getLast? = some i.toDatum) (hs : i.span = none)
    (h : ∀ d ∈ fields.dropLast, nodesIn d = []) : Nested t outer (.record tag fields)

variable {t : SourceText} {outer inner s : Span} {d : Datum} {ds : List Datum}

/-- A node that is nested in a span: it lies inside the span and what is in it inside its own, or it
has no span and no nodes in it. -/
inductive Stands (t : SourceText) (outer : Span) : Datum → Prop
  | node {s : Span} {tag : Tag} {fields : List Datum} {i : Info} (htag : tag.bearsInfo = true)
    (hi : fields.getLast? = some i.toDatum) (hs : IsAt t i s) (hwithin : t.Within outer s)
    (h : ∀ d ∈ fields.dropLast, Nested t s d) : Stands t outer (.record tag fields)
  | bare {tag : Tag} {fields : List Datum} {i : Info} (htag : tag.bearsInfo = true)
    (hi : fields.getLast? = some i.toDatum) (hs : i.span = none)
    (h : ∀ d ∈ fields.dropLast, nodesIn d = []) : Stands t outer (.record tag fields)

/-- Where a document nests, each node in it stands. -/
lemma Nested.stands (h : Nested t outer d) : ∀ c ∈ nodesIn d, Stands t outer c := by
  induction h with
  | blank h =>
    rw [h]
    exact nofun
  | list h ih | suite h ih =>
    rw [nodesIn]
    intro c hc
    obtain ⟨e, he, hc⟩ := mem_nodesInAll_iff.mp hc
    exact ih e he c hc
  | node htag hi hs hwithin h _ =>
    rw [nodesIn_record htag hi]
    exact List.forall_mem_singleton.mpr (.node htag hi hs hwithin h)
  | bare htag hi hs h =>
    rw [nodesIn_record htag hi]
    exact List.forall_mem_singleton.mpr (.bare htag hi hs h)

/-- Every node that a walk meets stands in some span. -/
lemma Nested.exists_stands (h : Nested t outer d) :
    ∀ n ∈ visit (nodesIn d), ∃ around, Stands t around n := by
  induction h with
  | blank h =>
    rw [h, visit]
    exact List.forall_mem_nil _
  | list h ih | suite h ih =>
    rw [nodesIn]
    intro n hn
    obtain ⟨e, he, hn⟩ := mem_visit_nodesInAll_iff.mp hn
    exact ih e he n hn
  | @node outer _ _ _ _ htag hi hs hwithin h ih =>
    rw [nodesIn_record htag hi, visit_record htag]
    refine List.forall_mem_cons.mpr ⟨⟨outer, .node htag hi hs hwithin h⟩, fun n hn => ?_⟩
    obtain ⟨e, he, hn⟩ := mem_visit_nodesInAll_iff.mp hn
    exact ih e he n hn
  | @bare outer _ _ _ htag hi hs h =>
    rw [nodesIn_record htag hi, visit_record htag]
    refine List.forall_mem_cons.mpr ⟨⟨outer, .bare htag hi hs h⟩, fun n hn => ?_⟩
    obtain ⟨e, he, hn⟩ := mem_visit_nodesInAll_iff.mp hn
    rw [h e he, visit] at hn
    cases hn

/-- The children of a record with metadata are the nodes in its other fields. -/
lemma children_record {tag : Tag} {fields : List Datum} (htag : tag.bearsInfo = true) :
    (record tag fields).children = nodesInAll fields.dropLast := by
  rw [children, content, Tag.any_meta, if_pos htag]

/-- A record at a span shows the offsets and the tokens of this span. -/
lemma spanOffsets?_of_isAt {tag : Tag} {fields : List Datum} {i : Info}
    (htag : tag.bearsInfo = true) (hi : fields.getLast? = some i.toDatum) (hs : IsAt t i s) :
    (record tag fields).spanOffsets? = some (↑s.start.offset, ↑s.stop.offset) ∧
      (record tag fields).tokenRange? = some (↑(t.tokensIn s).start, ↑(t.tokensIn s).stop) := by
  have hinfo := info?_record htag hi
  unfold spanOffsets? tokenRange?
  rw [hinfo, hs.span, hs.tokens]
  exact ⟨rfl, rfl⟩

/-- A record without a span shows no offsets. -/
lemma spanOffsets?_of_none {tag : Tag} {fields : List Datum} {i : Info}
    (htag : tag.bearsInfo = true) (hi : fields.getLast? = some i.toDatum) (hs : i.span = none) :
    (record tag fields).spanOffsets? = none := by
  have hinfo := info?_record htag hi
  unfold spanOffsets?
  rw [hinfo, hs]
  rfl

/-- The children of a node lie inside it: their offsets in its offsets, their tokens among its
tokens, where both have a span. -/
structure HoldsChildren (parent : Datum) : Prop where
  offsets : ∀ child ∈ parent.children, ∀ outer inner, parent.spanOffsets? = some outer →
    child.spanOffsets? = some inner → outer.1 ≤ inner.1 ∧ inner.2 ≤ outer.2
  tokens : ∀ child ∈ parent.children, parent.spanOffsets?.isSome = true →
    child.spanOffsets?.isSome = true → ∃ outer inner, parent.tokenRange? = some outer ∧
      child.tokenRange? = some inner ∧ outer.1 ≤ inner.1 ∧ inner.2 ≤ outer.2

/-- A document that stands in a text holds its children. -/
lemma Stands.holdsChildren (h : Stands t outer d)
    (hlines : t.lines = linesKeepingFeeds t.source.toList) : d.HoldsChildren := by
  cases h with
  | bare htag hi hs h =>
    have hnone := spanOffsets?_of_none htag hi hs
    exact ⟨fun _ _ _ _ hsome => absurd (hnone.symm.trans hsome) nofun,
      fun _ _ hsome => absurd hsome (by simp [hnone])⟩
  | @node s tag fields i htag hi hs hwithin h =>
    obtain ⟨hoffsets, htokens⟩ := spanOffsets?_of_isAt htag hi hs
    have hchild : ∀ c ∈ (record tag fields).children, Stands t s c := by
      rw [children_record htag]
      intro c hc
      obtain ⟨e, he, hc⟩ := mem_nodesInAll_iff.mp hc
      exact (h e he).stands c hc
    refine ⟨fun c hc outer inner houter hinner => ?_, fun c hc _ hsome => ?_⟩
    · obtain rfl := Option.some.inj (hoffsets.symm.trans houter)
      cases hchild c hc with
      | bare htag' hi' hs' _ =>
        exact absurd ((spanOffsets?_of_none htag' hi' hs').symm.trans hinner) nofun
      | node htag' hi' hs' hinside _ =>
        obtain rfl := Option.some.inj ((spanOffsets?_of_isAt htag' hi' hs').1.symm.trans hinner)
        exact ⟨Int.ofNat_le.mpr
            (hwithin.lies_start.offset_mono hinside.lies_start hlines hinside.start_le),
          Int.ofNat_le.mpr
            (hinside.lies_stop.offset_mono hwithin.lies_stop hlines hinside.le_stop)⟩
    · cases hchild c hc with
      | bare htag' hi' hs' _ =>
        rw [spanOffsets?_of_none htag' hi' hs'] at hsome
        cases hsome
      | node htag' hi' hs' hinside _ =>
        obtain ⟨hlead, htrail⟩ := hinside.tokensIn
        exact ⟨_, _, htokens, (spanOffsets?_of_isAt htag' hi' hs').2, Int.ofNat_le.mpr hlead,
          Int.ofNat_le.mpr htrail⟩

/-- If every node holds its children, no span leaves that of the node to which it belongs. -/
lemma spanViolations_eq_nil (h : ∀ n ∈ d.nodes, ∀ child ∈ n.children, ∀ outer inner,
    n.spanOffsets? = some outer → child.spanOffsets? = some inner →
      outer.1 ≤ inner.1 ∧ inner.2 ≤ outer.2) : d.spanViolations = [] := by
  refine List.flatMap_eq_nil_iff.mpr fun parent hparent => ?_
  cases houter : parent.spanOffsets? with
  | none => rfl
  | some outer =>
    refine List.filterMap_eq_nil_iff.mpr fun child hchild => ?_
    cases hinner : child.spanOffsets? with
    | none => rfl
    | some inner =>
      obtain ⟨hstart, hstop⟩ := h parent hparent child hchild outer inner houter hinner
      simp [hstart, hstop]

end Datum

end BlockText

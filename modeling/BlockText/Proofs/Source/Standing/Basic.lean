import BlockText.Proofs.Source.Giving
import BlockText.Proofs.Source.Lexing
import BlockText.Proofs.Source.Places

/-!
# Expressions among tokens

An expression that is read from one position to another starts with a token at or behind the first
and ends with the last token in front of the second.  Tokens are in order, so what stands between
inner positions lies in the range of what stands between outer ones; only parentheses belong to no
range.
-/

namespace BlockText.Source

open Rule

variable {T : Array Token} {i i' j j' k : ℕ} {r r' : Range} {e : Expr}

/-! ## Tokens in order -/

/-- The last token of code before a position, if there is one. -/
lemma stopBefore_cases (T : Array Token) (j : ℕ) :
    (stopBefore T j = default ∧ ∀ l < j, ¬ IsCode T l) ∨
      ∃ l t, l < j ∧ T[l]? = some t ∧ t.isLayout = false ∧ stopBefore T j = t.stop ∧
        ∀ k, l < k → k < j → ¬ IsCode T k := by
  induction j with
  | zero => exact .inl ⟨rfl, fun l hl => absurd hl (Nat.not_lt_zero l)⟩
  | succ j ih =>
    by_cases hcode : IsCode T j
    · obtain ⟨t, ht, hlayout⟩ := hcode
      exact .inr ⟨j, t, Nat.lt_succ_self j, ht, hlayout, stopBefore_succ ht hlayout,
        fun k hk hk' => by omega⟩
    · have hsucc : stopBefore T (j + 1) = stopBefore T j := by
        rw [stopBefore]
        split
        · next t ht => rw [if_pos (by_contra fun h => hcode ⟨t, ht, by simpa using h⟩)]
        · rfl
      have hlast : ∀ l, l < j + 1 → IsCode T l → l < j := fun l hl h =>
        lt_of_le_of_ne (Nat.le_of_lt_succ hl) fun heq => hcode (heq ▸ h)
      rw [hsucc]
      rcases ih with ⟨hdefault, hnone⟩ | ⟨l, t, hl, ht, hlayout, hstop, hnone⟩
      · exact .inl ⟨hdefault, fun l hl h => hnone l (hlast l hl h) h⟩
      · exact .inr ⟨l, t, hl.trans (Nat.lt_succ_self j), ht, hlayout, hstop,
          fun k hk hk' h => hnone k hk (hlast k hk' h) h⟩

/-- The mark in front of all text is before every other. -/
lemma default_place_le (m : Mark) : (default : Mark).place ≤ m.place :=
  Mark.place_le_iff.mpr (by
    rcases Nat.eq_zero_or_pos m.line with h | h
    · exact .inr ⟨h.symm, Nat.zero_le _⟩
    · exact .inl h)

namespace InOrder

variable (hT : InOrder T)

include hT

/-- A token of code does not end before it starts. -/
lemma code_forward {t : Token} (ht : T[i]? = some t) (h : t.isLayout = false) :
    t.start.place ≤ t.stop.place := (hT.forward i t ht (Token.isSolid_of_isLayout h)).le

/-- Of two tokens of code the one with the lower index ends first. -/
lemma code_ordered {t u : Token} (ht : T[i]? = some t) (hu : T[j]? = some u)
    (h : t.isLayout = false) (h' : u.isLayout = false) (hij : i < j) :
    t.stop.place ≤ u.start.place :=
  hT.ordered i j t u ht hu (Token.isSolid_of_isLayout h) (Token.isSolid_of_isLayout h') hij

/-- Code that was read ends behind the start of its first token. -/
lemma startAt_lt_stopBefore (hcode : IsCode T i) (hij : i < j) :
    (startAt T i).place < (stopBefore T j).place := by
  obtain ⟨t, ht, hlayout⟩ := hcode
  have hforward := hT.forward i t ht (Token.isSolid_of_isLayout hlayout)
  rw [startAt_eq ht]
  rcases stopBefore_cases T j with ⟨-, hnone⟩ | ⟨l, u, -, hu, hu', hstop, hnone⟩
  · exact absurd ⟨t, ht, hlayout⟩ (hnone i hij)
  · rw [hstop]
    rcases lt_trichotomy i l with hil | rfl | hli
    · exact hforward.trans_le
        ((hT.code_ordered ht hu hlayout hu' hil).trans (hT.code_forward hu hu'))
    · obtain rfl := Option.some.inj (ht.symm.trans hu)
      exact hforward
    · exact absurd ⟨t, ht, hlayout⟩ (hnone i hli hij)

/-- Code that was read does not end before its first token starts. -/
lemma startAt_le_stopBefore (hcode : IsCode T i) (hij : i < j) :
    (startAt T i).place ≤ (stopBefore T j).place := (hT.startAt_lt_stopBefore hcode hij).le

/-- What was read before a token of code ends before that token starts. -/
lemma stopBefore_le_startAt (hcode : IsCode T k) (hjk : j ≤ k) :
    (stopBefore T j).place ≤ (startAt T k).place := by
  obtain ⟨t, ht, hlayout⟩ := hcode
  rw [startAt_eq ht]
  rcases stopBefore_cases T j with ⟨hdefault, -⟩ | ⟨l, u, hl, hu, hu', hstop, -⟩
  · rw [hdefault]
    exact default_place_le _
  · rw [hstop]
    exact hT.code_ordered hu ht hu' hlayout (hl.trans_le hjk)

/-- Of two tokens of code the one with the lower index starts first. -/
lemma startAt_mono (hi : IsCode T i) (hj : IsCode T j) (hij : i ≤ j) :
    (startAt T i).place ≤ (startAt T j).place := by
  rcases Nat.eq_or_lt_of_le hij with rfl | hlt
  · exact le_rfl
  · exact (hT.startAt_le_stopBefore hi hlt).trans (hT.stopBefore_le_startAt hj le_rfl)

/-- What follows the end of a line is on a later line. -/
lemma line_lt {n : ℕ} {t : Token} (hn : T[n]? = some t) (hkind : t.kind = .newline) (hjn : j ≤ n)
    (hnk : n < k) (hk : IsCode T k) : (stopBefore T j).line < (startAt T k).line := by
  obtain ⟨u, hu, hlayout⟩ := hk
  have hsolid : t.isSolid = true := by simp [Token.isSolid, hkind]
  have hnewline := hT.newline n t hn hkind
  have hnext := hT.ordered n k t u hn hu hsolid (Token.isSolid_of_isLayout hlayout) hnk
  have hle := line_le_of_place_le hnext
  have hbefore : (stopBefore T j).line ≤ t.start.line := by
    rcases stopBefore_cases T j with ⟨hdefault, -⟩ | ⟨l, v, hl, hv, hv', hstop, -⟩
    · rw [hdefault]
      exact Nat.zero_le _
    · rw [hstop]
      exact line_le_of_place_le (hT.ordered l n v t hv hn (Token.isSolid_of_isLayout hv') hsolid
        (hl.trans_le hjn))
  rw [startAt_eq hu]
  omega

/-- What is read up to a later position does not end earlier. -/
lemma stopBefore_mono (hjk : j ≤ k) : (stopBefore T j).place ≤ (stopBefore T k).place := by
  rcases stopBefore_cases T j with ⟨hdefault, -⟩ | ⟨l, u, hl, hu, hu', hstop, -⟩
  · rw [hdefault]
    exact default_place_le _
  · rcases stopBefore_cases T k with ⟨-, hnone⟩ | ⟨l', u', -, hv, hv', hstop', hnone⟩
    · exact absurd ⟨u, hu, hu'⟩ (hnone l (hl.trans_le hjk))
    · rw [hstop, hstop']
      rcases lt_trichotomy l l' with hlt | rfl | hgt
      · exact (hT.code_ordered hu hv hu' hv' hlt).trans (hT.code_forward hv hv')
      · obtain rfl := Option.some.inj (hu.symm.trans hv)
        exact le_rfl
      · exact absurd ⟨u, hu, hu'⟩ (hnone l hgt (hl.trans_le hjk))

end InOrder

/-! ## Ranges among tokens -/

/-- A range lies among the tokens from a position up to another, which is not included. -/
structure Spans (T : Array Token) (i j : ℕ) (r : Range) : Prop where
  lt : i < j
  isCode : IsCode T i
  start_le : (startAt T i).place ≤ r.start.place
  forward : r.start.place < r.stop.place
  le_stop : r.stop.place ≤ (stopBefore T j).place

/-- From one token to another. -/
def tokenRange (T : Array Token) (i j : ℕ) : Range := ⟨startAt T i, stopBefore T j⟩

/-- The tokens between two positions span their own range. -/
lemma InOrder.spans (hT : InOrder T) (hi : IsCode T i) (hij : i < j) :
    Spans T i j (tokenRange T i j) :=
  ⟨hij, hi, le_rfl, hT.startAt_lt_stopBefore hi hij, le_rfl⟩

/-- A range between inner positions is one between outer ones, if code stands at the outer start. -/
lemma Spans.widen (h : Spans T i j r) (hT : InOrder T) (hi : IsCode T i') (hii : i' ≤ i)
    (hjj : j ≤ j') : Spans T i' j' r :=
  ⟨by have := h.lt; omega, hi, (hT.startAt_mono hi h.isCode hii).trans h.start_le, h.forward,
    h.le_stop.trans (hT.stopBefore_mono hjj)⟩

/-- What lies among fewer tokens lies inside. -/
lemma Spans.holds (h : Spans T i j r) (hT : InOrder T) (hi : IsCode T i') (hii : i' ≤ i)
    (hjj : j ≤ j') : (tokenRange T i' j').Holds r :=
  have hwide := h.widen hT hi hii hjj
  ⟨hwide.start_le, hwide.forward.le, hwide.le_stop⟩

/-- Ranges between positions that follow one another follow one another. -/
lemma Spans.before (h : Spans T i j r) (h' : Spans T i' j' r') (hT : InOrder T) (hji : j ≤ i') :
    r.stop.place ≤ r'.start.place :=
  h.le_stop.trans ((hT.stopBefore_le_startAt h'.isCode hji).trans h'.start_le)

/-- From the start of one range to the end of a later one. -/
lemma Spans.between (h : Spans T i j r) (h' : Spans T i' j' r') (hT : InOrder T) (hji : j ≤ i') :
    Spans T i j' (Manuscript.between r r') :=
  ⟨by have := h.lt; have := h'.lt; omega, h.isCode, h.start_le,
    h.forward.trans_le ((h.before h' hT hji).trans h'.forward.le), h'.le_stop⟩

/-- What starts at a mark is the token at a position, or nothing but parentheses stand before it. -/
def Begins (T : Array Token) (i : ℕ) (m : Mark) : Prop :=
  ∃ k, i ≤ k ∧ IsCode T k ∧ m = startAt T k ∧
    ∀ l, i ≤ l → l < k → ∃ t, T[l]? = some t ∧ t.isOp "(" = true

/-- A token of code begins where it starts. -/
lemma begins_startAt (hi : IsCode T i) : Begins T i (startAt T i) :=
  ⟨i, le_rfl, hi, rfl, fun _ _ _ => by omega⟩

/-- What begins behind an opening parenthesis begins at the parenthesis, too. -/
lemma Begins.parenthesize {m : Mark} {t : Token} (h : Begins T (i + 1) m) (ht : T[i]? = some t)
    (hop : t.isOp "(" = true) : Begins T i m := by
  obtain ⟨k, hk, hcode, hm, hbetween⟩ := h
  refine ⟨k, by omega, hcode, hm, fun l hl hlk => ?_⟩
  rcases Nat.eq_or_lt_of_le hl with rfl | hlt
  · exact ⟨t, ht, hop⟩
  · exact hbetween l hlt hlk

/-! ## Expressions among tokens -/

namespace Expr

/-- The expression and all in it fit if the replacement fields in it do. -/
def IsNested (e : Expr) : Prop := e.Everywhere fun e => e.FieldsInside → e.Fits

/-- A nested expression lies among tokens, with nothing but parentheses before it. -/
structure Stands (T : Array Token) (i : ℕ) (e : Expr) (j : ℕ) : Prop where
  spans : Spans T i j e.range
  nested : e.IsNested
  begins : Begins T i e.range.start

/-- A nested expression stands somewhere between two positions. -/
def Among (T : Array Token) (i : ℕ) (e : Expr) (j : ℕ) : Prop :=
  ∃ k l, i ≤ k ∧ l ≤ j ∧ e.Stands T k l

/-- An expression that stands between two positions is somewhere between them. -/
lemma Stands.among (h : e.Stands T i j) : e.Among T i j := ⟨i, j, le_rfl, le_rfl, h⟩

/-- What is somewhere between inner positions is between outer ones. -/
lemma Among.mono (h : e.Among T i j) (hi : i' ≤ i) (hj : j ≤ j') : e.Among T i' j' := by
  obtain ⟨k, l, hk, hl, he⟩ := h
  exact ⟨k, l, hi.trans hk, hl.trans hj, he⟩

/-- An expression stands between its parentheses and also with them. -/
lemma Stands.parenthesize {t : Token} (h : e.Stands T (i + 1) j) (hT : InOrder T)
    (ht : T[i]? = some t) (hop : t.isOp "(" = true) (hj : j ≤ j') : e.Stands T i j' where
  spans := h.spans.widen hT ⟨t, ht, isLayout_of_isOp hop⟩ (Nat.le_succ i) hj
  nested := h.nested
  begins := h.begins.parenthesize ht hop

/-- An expression takes at least one token. -/
lemma Among.lt (h : e.Among T i j) : i < j := by
  obtain ⟨k, l, hk, hl, he⟩ := h
  exact hk.trans_lt (he.spans.lt.trans_le hl)

end Expr

/-- A part lies among tokens, and its expressions lie in it. -/
structure Part.Stands (T : Array Token) (i : ℕ) (p : Part) (j : ℕ) : Prop where
  spans : Spans T i j p.range
  operands : ∀ c ∈ p.operands, p.range.Holds c.range ∧ c.IsNested

/-- A part stands somewhere between two positions. -/
def Part.Among (T : Array Token) (i : ℕ) (p : Part) (j : ℕ) : Prop :=
  ∃ k l, i ≤ k ∧ l ≤ j ∧ p.Stands T k l

/-- A part that stands between two positions is somewhere between them. -/
lemma Part.Stands.among {p : Part} (h : p.Stands T i j) : p.Among T i j :=
  ⟨i, j, le_rfl, le_rfl, h⟩

/-- A part that is somewhere between inner positions is between outer ones. -/
lemma Part.Among.mono {p : Part} (h : p.Among T i j) (hi : i' ≤ i) (hj : j ≤ j') :
    p.Among T i' j' := by
  obtain ⟨k, l, hk, hl, hp⟩ := h
  exact ⟨k, l, hi.trans hk, hl.trans hj, hp⟩

/-- A range that does not run backwards holds itself. -/
lemma Range.Holds.self (h : r.start.place ≤ r.stop.place) : r.Holds r := ⟨le_rfl, h, le_rfl⟩

/-- Expressions one after another lie between the start of the first and the end of the last. -/
lemma Rule.Series.part_among (hT : InOrder T) {es : List Expr}
    (h : Series (fun i e j => e.Among T i j) i (e :: es) j) :
    (⟨Manuscript.between e.range ((e :: es).getLast (List.cons_ne_nil e es)).range, e :: es⟩ :
      Part).Among T i j := by
  induction es generalizing i e with
  | nil =>
    cases h with
    | cons first rest =>
    cases rest
    obtain ⟨k, l, hk, hl, he⟩ := first
    refine ⟨k, l, hk, hl, he.spans, ?_⟩
    rintro c hc
    obtain rfl := List.mem_singleton.mp hc
    exact ⟨.self he.spans.forward.le, he.nested⟩
  | cons e' es ih =>
    cases h with
    | cons first rest =>
    obtain ⟨k, l, hk, hl, he⟩ := first
    obtain ⟨k', l', hk', hl', hpart⟩ := ih rest
    have hbefore := he.spans.before hpart.spans hT (hl.trans hk')
    have hspans : Spans T k l' (Manuscript.between e.range (Manuscript.between e'.range
        ((e' :: es).getLast (List.cons_ne_nil e' es)).range)) :=
      he.spans.between hpart.spans hT (hl.trans hk')
    refine ⟨k, l', hk, hl', hspans, ?_⟩
    refine List.forall_mem_cons.mpr ⟨⟨⟨le_rfl, he.spans.forward.le, ?_⟩, he.nested⟩, fun c hc => ?_⟩
    · exact hbefore.trans hpart.spans.forward.le
    · obtain ⟨hholds, hnested⟩ := hpart.operands c hc
      exact ⟨⟨(he.spans.forward.le.trans hbefore).trans hholds.start_le, hholds.forward,
        hholds.le_stop⟩, hnested⟩

/-- A part takes at least one token. -/
lemma Part.Among.lt {p : Part} (h : p.Among T i j) : i < j := by
  obtain ⟨k, l, hk, hl, hp⟩ := h
  exact hk.trans_lt (hp.spans.lt.trans_le hl)

namespace Expr

/-- An expression from one token to another stands there if all in it stands between them. -/
lemma stands_of_parts (hT : InOrder T) (hrange : e.range = tokenRange T i j) (hi : IsCode T i)
    (hij : i < j) (hoperands : ∀ c ∈ e.operands, c.Among T i j)
    (hparts : ∀ p ∈ e.parts, p.Among T i j) : e.Stands T i j where
  spans := hrange ▸ hT.spans hi hij
  begins := by
    rw [hrange]
    exact begins_startAt hi
  nested := by
    refine .intro (fun _ => ⟨fun c hc => ?_, fun p hp => ?_⟩) fun c hc => ?_
    · obtain ⟨k, l, hk, hl, hc⟩ := hoperands c hc
      rw [hrange]
      exact hc.spans.holds hT hi hk hl
    · obtain ⟨k, l, hk, hl, hp⟩ := hparts p hp
      rw [hrange]
      exact ⟨hp.spans.holds hT hi hk hl, fun c hc => (hp.operands c hc).1⟩
    · rcases List.mem_append.mp hc with hc | hc
      · obtain ⟨k, l, -, -, hc⟩ := hoperands c hc
        exact hc.nested
      · obtain ⟨p, hp, hc⟩ := List.mem_flatMap.mp hc
        obtain ⟨k, l, -, -, hp⟩ := hparts p hp
        exact (hp.operands c hc).2

/-- An expression that was read from its first token to its last one stands there if its operands
are among these tokens. -/
lemma stands_of_operands (hT : InOrder T) (hrange : e.range = tokenRange T i j) (hi : IsCode T i)
    (hij : i < j) (hoperands : ∀ c ∈ e.operands, c.Among T i j) (hparts : e.parts = []) :
    e.Stands T i j :=
  stands_of_parts hT hrange hi hij hoperands (by simp [hparts])

end Expr

end BlockText.Source

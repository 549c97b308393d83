import BlockText.Proofs.Source.Standing.Operators
import BlockText.Source.Grammar.Pattern

/-!
# Patterns among tokens

Most patterns cannot be shown by a block; of those it is enough that they take tokens.  A pattern
that can be shown has the range of its tokens, with nothing but parentheses around them.
-/

namespace BlockText.Source

open Rule Syntax

variable {T : Array Token} {i i' j j' k l : ℕ}

namespace Pattern

/-- Some block can show the pattern. -/
def IsShown (p : Pattern) : Prop := ∀ form r, p ≠ .other form r

/-- A pattern takes tokens; one that can be shown lies among them, with nothing but parentheses
before it, and a literal has the place of its value. -/
structure Stands (T : Array Token) (i : ℕ) (p : Pattern) (j : ℕ) : Prop where
  lt : i < j
  spans : p.IsShown → Spans T i j p.range
  begins : p.IsShown → Begins T i p.range.start
  literal : ∀ e r, p = .literal e r → r = e.range ∧ e.IsNested

/-- A pattern of which only the form is kept stands wherever it was read. -/
lemma stands_other {form : PatternForm} {r : Range} (h : i < j) :
    (Pattern.other form r).Stands T i j :=
  ⟨h, fun hshown => absurd rfl (hshown form r), fun hshown => absurd rfl (hshown form r), nofun⟩

/-- A pattern that is an expression stands where the expression does. -/
lemma stands_literal {e : Expr} (h : e.Stands T i j) :
    (Pattern.literal e e.range).Stands T i j where
  lt := h.spans.lt
  spans _ := h.spans
  begins _ := h.begins
  literal := by
    rintro _ _ ⟨⟩
    exact ⟨rfl, h.nested⟩

/-- A pattern that is one token. -/
lemma stands_token {p : Pattern} (hT : InOrder T) (hi : IsCode T i)
    (hrange : p.range = tokenRange T i (i + 1)) (hliteral : ∀ e r, p ≠ .literal e r) :
    p.Stands T i (i + 1) where
  lt := Nat.lt_succ_self i
  spans _ := hrange ▸ hT.spans hi (Nat.lt_succ_self i)
  begins _ := by
    rw [hrange]
    exact begins_startAt hi
  literal e r h := absurd h (hliteral e r)

/-- A pattern stands between its parentheses and also with them. -/
lemma Stands.parenthesize {p : Pattern} {t : Token} (h : p.Stands T (i + 1) j) (hT : InOrder T)
    (ht : T[i]? = some t) (hop : t.isOp "(" = true) (hj : j ≤ j') : p.Stands T i j' where
  lt := by
    have := h.lt
    omega
  spans hshown := (h.spans hshown).widen hT ⟨t, ht, isLayout_of_isOp hop⟩ (Nat.le_succ i) hj
  begins hshown := (h.begins hshown).parenthesize ht hop
  literal := h.literal

end Pattern

namespace Grammar

variable {α : Type} {g : Grammar} {Q : α → ℕ → Prop} {p : Pattern}

/-! ## Rules that only take tokens -/

/-- After a name that is bound the rest is shown from the next token on. -/
lemma gives_captureTarget_bind {f : Token → Rule α}
    (h : ∀ t : Token, IsCode T i → (⟨t.start, t.stop⟩ : Range) = tokenRange T i (i + 1) →
      (f t).Gives T (i + 1) Q) : (captureTarget >>= f).Gives T i Q := by
  have hcapture : captureTarget.Gives T i fun t j =>
      j = i + 1 ∧ IsCode T i ∧ (⟨t.start, t.stop⟩ : Range) = tokenRange T i (i + 1) := by
    refine gives_atWord_bind fun b => ?_
    extract_lets rest
    have hrest : ∀ u, (rest u).Gives T i fun t j =>
        j = i + 1 ∧ IsCode T i ∧ (⟨t.start, t.stop⟩ : Range) = tokenRange T i (i + 1) :=
      fun _ => gives_identifier_bind fun t hi hrange => gives_if_atOps gives_fail
        (gives_pure ⟨rfl, hi, hrange⟩)
    exact gives_ite (fun _ => gives_fail_bind) fun _ => hrest ()
  refine hcapture.bind ?_
  rintro t _ ⟨rfl, hi, hrange⟩
  exact h t hi hrange

/-- After a number the rest is shown from the next token on. -/
lemma gives_number_bind {f : Token → Rule α}
    (h : ∀ t : Token, IsCode T i → (⟨t.start, t.stop⟩ : Range) = tokenRange T i (i + 1) →
      (f t).Gives T (i + 1) Q) : (number >>= f).Gives T i Q := by
  have hnumber : number.Gives T i fun t j =>
      j = i + 1 ∧ IsCode T i ∧ (⟨t.start, t.stop⟩ : Range) = tokenRange T i (i + 1) := by
    refine gives_take.bind ?_
    rintro t _ ⟨rfl, ht, hkind⟩
    have hlayout : t.isLayout = false := by simp_all [Token.isLayout]
    refine gives_ite (fun _ => gives_complain _) fun _ => gives_pure ⟨rfl, ⟨t, ht, hlayout⟩, ?_⟩
    rw [tokenRange, startAt_eq ht, stopBefore_succ ht hlayout]
  refine hnumber.bind ?_
  rintro t _ ⟨rfl, hi, hrange⟩
  exact h t hi hrange

/-- What is repeated moves on. -/
lemma gives_many_le {p : Rule α} (h : ∀ i, p.Gives T i fun _ j => i ≤ j) :
    (many p).Gives T i fun _ j => i ≤ j :=
  (gives_many h).mono fun _ _ has => (has.mem fun _ _ _ h => h).1

/-- Values with an operator between them move on if each does. -/
lemma gives_separated {p : Rule α} {o : String} (h : ∀ i, p.Gives T i fun _ j => i ≤ j) :
    (separated p o).Gives T i fun _ j => i ≤ j := by
  have hmore : ∀ i, (many (do discard (op o); p)).Gives T i fun _ j => i ≤ j := fun i =>
    gives_many_le fun i => gives_op_bind fun _ => (h (i + 1)).mono fun _ j hj => by omega
  exact (h i).bind fun _ j hj => (hmore j).bind fun _ _ hk => gives_pure (hj.trans hk)

/-- After a name with dots the rest is shown from wherever that led. -/
lemma gives_dottedName_bind {f : ℕ → Rule α} (h : ∀ n j, i < j → (f n).Gives T j Q) :
    (dottedName >>= f).Gives T i Q := by
  have hdotted : dottedName.Gives T i fun _ j => i < j := by
    refine gives_discard_bind (gives_identifier_bind fun _ _ _ => ?_)
    refine (gives_many_le fun i => gives_op_bind fun _ => ?_).bind fun _ j hj =>
      gives_pure (Nat.lt_of_succ_le hj)
    exact gives_identifier.mono fun _ _ hj => by omega
  exact hdotted.bind h

/-- A number with its sign stands where it was read; a complex number has no value of its own. -/
lemma gives_signedNumber (hT : InOrder T) :
    signedNumber.Gives T i fun o j => i < j ∧ ∀ e ∈ o, e.Stands T i j := by
  have hcomplex : ∀ {k : ℕ} {t : Token}, i < k → (do
      advance
      if isImaginary t then complain t.start.line
      let second ← number
      if isImaginary second then return none else complain second.start.line :
        Rule (Option Expr)).Gives T k fun o j => i < j ∧ ∀ e ∈ o, e.Stands T i j := by
    intro k t hik
    refine gives_advance_bind ?_
    extract_lets rest
    have hrest : ∀ u, (rest u).Gives T (k + 1) fun o j => i < j ∧ ∀ e ∈ o, e.Stands T i j :=
      fun _ => gives_number_bind fun _ _ _ => gives_ite
        (fun _ => gives_pure ⟨by omega, nofun⟩) fun _ => gives_complain _
    exact gives_ite (fun _ => gives_complain_bind) fun _ => hrest ()
  refine gives_start_bind (gives_tryOp_bind (fun hi => ?_) ?_)
  · refine gives_number_bind fun t hi' hrange => gives_if_atOps (hcomplex (by omega)) ?_
    refine gives_ite (fun _ => gives_rangeFrom_bind (gives_pure ⟨by omega, ?_⟩))
      fun h => absurd rfl h
    rintro _ ⟨⟩
    have he : (Expr.constant .number ⟨t.start, t.stop⟩).Stands T (i + 1) (i + 1 + 1) :=
      stands_token hT hi' hrange rfl rfl
    exact stands_of_single hT hi (Nat.le_succ i) he rfl rfl rfl
  · refine gives_number_bind fun t hi hrange => gives_if_atOps (hcomplex (by omega)) ?_
    refine gives_ite (fun h => absurd h Bool.false_ne_true) fun _ => gives_pure ⟨by omega, ?_⟩
    rintro _ ⟨⟩
    exact stands_token hT hi hrange rfl rfl

section

variable (hg : g.Nests) (hT : InOrder T)
  (hpattern : ∀ i, g.pattern.Gives T i fun p => p.Stands T i)

include hg hT hpattern

omit hpattern in
/-- A key of a mapping moves on. -/
lemma gives_literalKey : (literalKey g).Gives T i fun _ j => i ≤ j := by
  refine gives_peek_bind fun t _ => gives_ite (fun _ => ?_) fun _ =>
    gives_ite (fun _ => ?_) fun _ => ?_
  · exact ((gives_strings hg hT i).mono fun _ _ h => h.spans.lt.le).discard
  · exact gives_advance_bind (gives_pure (Nat.le_succ i))
  · exact ((gives_signedNumber hT).mono fun _ _ h => h.1.le).discard

omit hpattern in
/-- A literal stands as a pattern where it was read. -/
lemma gives_literalPattern : (literalPattern g).Gives T i fun p => p.Stands T i := by
  refine gives_peek_bind fun t ht => ?_
  have hsingleton : ∀ b, t.isLayout = false → (do
      advance
      return .singleton b ⟨t.start, t.stop⟩ : Rule Pattern).Gives T i fun p => p.Stands T i := by
    intro b hlayout
    refine gives_advance_bind (gives_pure (Pattern.stands_token hT ⟨t, ht, hlayout⟩ ?_ (by simp)))
    rw [tokenRange, startAt_eq ht, stopBefore_succ ht hlayout]
    rfl
  dsimp only
  refine gives_ite (fun _ => ?_) fun _ => gives_ite (fun hword => ?_) fun _ => gives_ite
    (fun hword => ?_) fun _ => gives_ite (fun hword => ?_) fun _ => ?_
  · refine (gives_strings hg hT i).bind fun e j he => ?_
    split
    · exact gives_pure (Pattern.stands_other he.spans.lt)
    · exact gives_pure (Pattern.stands_literal he)
  · exact hsingleton none (isLayout_of_isWord hword)
  · exact hsingleton (some true) (isLayout_of_isWord hword)
  · exact hsingleton (some false) (isLayout_of_isWord hword)
  · refine (gives_signedNumber hT).bind fun o j ho => ?_
    cases o with
    | none => exact gives_rangeFrom_bind (gives_pure (Pattern.stands_other ho.1))
    | some e => exact gives_pure (Pattern.stands_literal (ho.2 e rfl))

omit hg hT in
/-- A pattern that may be starred stands where it was read. -/
lemma gives_maybeStarPattern (i : ℕ) : (maybeStarPattern g).Gives T i fun p => p.Stands T i := by
  refine gives_start_bind (gives_if_tryOp (fun _ => ?_) (hpattern i))
  refine gives_discard_bind (gives_identifier_bind fun _ _ _ => gives_if_atOps gives_fail ?_)
  exact gives_rangeFrom_bind (gives_pure (Pattern.stands_other (by omega)))

omit hg hT in
/-- More patterns after a comma. -/
lemma gives_morePatterns (i : ℕ) :
    (many (do discard (op ","); maybeStarPattern g)).Gives T i fun _ j => i ≤ j :=
  gives_many_le fun i => gives_op_bind fun _ => (gives_maybeStarPattern hpattern (i + 1)).mono
    fun _ _ h => (Nat.lt_of_succ_lt h.lt).le

omit hg in
/-- A pattern in parentheses stands where it was read. -/
lemma gives_groupPattern : (groupPattern g).Gives T i fun p => p.Stands T i := by
  refine gives_start_bind (gives_take.discard_bind ?_)
  rintro t _ ⟨rfl, ht, hop⟩
  refine gives_if_tryOp (fun _ => ?_) ?_
  · exact gives_rangeFrom_bind (gives_pure (Pattern.stands_other (by omega)))
  · refine (gives_maybeStarPattern hpattern _).bind fun first j hfirst => ?_
    have hlt := hfirst.lt
    refine gives_if_atOp ?_ ?_
    · refine (gives_morePatterns hpattern j).discard_bind fun _ k hk => ?_
      refine gives_tryOp_discard_bind fun l hl => gives_op_bind fun _ => ?_
      exact gives_rangeFrom_bind (gives_pure (Pattern.stands_other (by omega)))
    · split
      · exact gives_fail
      · exact gives_op_bind fun _ => gives_pure (hfirst.parenthesize hT ht hop (Nat.le_succ j))

omit hg hT in
/-- A sequence in brackets stands where it was read. -/
lemma gives_listPattern : (listPattern g).Gives T i fun p => p.Stands T i := by
  have hlist : ∀ i, (patternList g).Gives T i fun _ j => i ≤ j := fun i =>
    (gives_maybeStarPattern hpattern i).bind fun _ j hfirst => (gives_morePatterns hpattern j).bind
      fun _ k hk => gives_tryOp_discard_bind fun l hl => gives_pure (by have := hfirst.lt; omega)
  refine gives_start_bind (gives_op_bind fun _ => (hlist _).optional.discard_bind fun _ j hj => ?_)
  have hle : i + 1 ≤ j := by
    rcases hj with ⟨_, -, hj⟩ | ⟨-, rfl⟩
    · exact hj
    · exact le_rfl
  exact gives_op_bind fun _ => gives_rangeFrom_bind
    (gives_pure (Pattern.stands_other (by omega)))

/-- An item of a mapping moves on. -/
lemma gives_mappingItem (i : ℕ) : (mappingItem g).Gives T i fun _ j => i ≤ j := by
  have hname : (do if (← dottedName) == 0 then fail else return () : Rule Unit).Gives T i
      fun _ j => i ≤ j :=
    gives_dottedName_bind fun _ _ hj => gives_ite (fun _ => gives_fail) fun _ => gives_pure hj.le
  refine gives_if_tryOp (fun _ => ?_) ?_
  · exact gives_discard_bind (gives_captureTarget_bind fun _ _ _ => gives_pure (by omega))
  · refine ((gives_literalKey hg hT).orElse hname).bind fun _ j hj => gives_op_bind fun _ => ?_
    refine (hpattern (j + 1)).discard_bind fun _ k hk => gives_pure ?_
    have := hk.lt
    omega

/-- A mapping stands where it was read. -/
lemma gives_mappingPattern : (mappingPattern g).Gives T i fun p => p.Stands T i := by
  refine gives_start_bind (gives_op_bind fun _ => gives_atOp_bind fun b _ => ?_)
  extract_lets rest
  have hrest : ∀ u j, i < j → (rest u).Gives T j fun p => p.Stands T i := fun _ j hj =>
    gives_op_bind fun _ => gives_rangeFrom_bind (gives_pure (Pattern.stands_other (by omega)))
  refine gives_ite (fun _ => hrest () _ (Nat.lt_succ_self i)) fun _ => ?_
  refine (gives_separated (gives_mappingItem hg hT hpattern)).bind fun items j hj =>
    gives_tryOp_discard_bind fun k hk => ?_
  exact gives_ite (fun _ => gives_fail_bind) fun _ => hrest () _ (by omega)

omit hg hT in
/-- An argument of a class pattern moves on. -/
lemma gives_classItem (i : ℕ) : (classItem g).Gives T i fun _ j => i ≤ j := by
  refine gives_if_ahead ?_ ?_
  · refine gives_discard_bind (gives_identifier_bind fun _ _ _ => gives_op_bind fun _ => ?_)
    refine (hpattern (i + 1 + 1)).discard_bind fun _ j hj => gives_pure ?_
    have := hj.lt
    omega
  · exact (hpattern i).discard_bind fun _ j hj => gives_pure hj.lt.le

omit hg hT in
/-- A name, a value or a class pattern stands where it was read. -/
lemma gives_namedPattern : (namedPattern g).Gives T i fun p => p.Stands T i := by
  refine gives_start_bind (gives_dottedName_bind fun dots j hj => gives_if_tryOp (fun _ => ?_) ?_)
  · refine gives_atOp_bind fun b _ => ?_
    extract_lets rest
    have hrest : ∀ u k, i < k → (rest u).Gives T k fun p => p.Stands T i := fun _ k hk =>
      gives_op_bind fun _ => gives_rangeFrom_bind (gives_pure (Pattern.stands_other (by omega)))
    refine gives_ite (fun _ => hrest () _ (by omega)) fun _ => ?_
    refine (gives_separated (gives_classItem hpattern)).bind fun items k hk =>
      gives_tryOp_discard_bind fun l hl => ?_
    exact gives_ite (fun _ => gives_fail_bind) fun _ => hrest () _ (by omega)
  · refine gives_atOp_bind fun b _ => gives_ite (fun _ => gives_fail) fun _ => ?_
    exact gives_rangeFrom_bind (gives_pure (Pattern.stands_other hj))

/-- A pattern without alternatives stands where it was read. -/
lemma gives_closedPattern (i : ℕ) : (closedPattern g).Gives T i fun p => p.Stands T i := by
  refine gives_peek_bind fun t ht => gives_ite (fun _ => gives_groupPattern hT hpattern) fun _ =>
    gives_ite (fun _ => gives_listPattern hpattern) fun _ =>
    gives_ite (fun _ => gives_mappingPattern hg hT hpattern) fun _ =>
    gives_ite (fun hword => ?_) fun _ => ?_
  · have hlayout := isLayout_of_isWord hword
    refine gives_advance_bind (gives_pure (Pattern.stands_token hT ⟨t, ht, hlayout⟩ ?_ (by simp)))
    rw [tokenRange, startAt_eq ht, stopBefore_succ ht hlayout]
    rfl
  · refine (gives_literalPattern hg hT).orElse (Gives.orElse ?_ (gives_namedPattern hpattern))
    exact gives_captureTarget_bind fun t hi hrange =>
      gives_pure (Pattern.stands_token hT hi hrange (by simp))

/-- A pattern stands where it was read. -/
lemma gives_patternRule (i : ℕ) : (patternRule g).Gives T i fun p => p.Stands T i := by
  have hmore : ∀ i, (many (do discard (op "|"); closedPattern g)).Gives T i
      (Series (fun i _ j => i < j) i) := fun i => gives_many fun i => gives_op_bind fun _ =>
    (gives_closedPattern hg hT hpattern (i + 1)).mono fun _ _ h => Nat.lt_of_succ_lt h.lt
  have hall : (separated (closedPattern g) "|").Gives T i fun ps j =>
      i < j ∧ ∀ p, ps = [p] → p.Stands T i j := by
    refine (gives_closedPattern hg hT hpattern i).bind fun first j hfirst => (hmore j).bind
      fun rest k hrest => gives_pure ⟨?_, ?_⟩
    · exact hfirst.lt.trans_le (hrest.mem fun _ _ _ h => h.le).1
    · rintro p ⟨⟩
      cases hrest
      exact hfirst
  refine gives_start_bind (hall.bind fun ps j hps => ?_)
  extract_lets rest
  have hrest : ∀ p, p.Stands T i j → (rest p).Gives T j fun p => p.Stands T i := by
    intro p hp
    refine gives_if_tryWord (fun _ => gives_discard_bind (gives_captureTarget_bind fun _ _ _ => ?_))
      (gives_pure hp)
    have := hp.lt
    exact gives_rangeFrom_bind (gives_pure (Pattern.stands_other (by omega)))
  split
  · exact hrest _ (hps.2 _ rfl)
  · exact gives_rangeFrom_bind (hrest _ (Pattern.stands_other hps.1))

omit hg hT in
/-- The pattern of a case stands where it was read. -/
lemma gives_casePattern (i : ℕ) : (casePattern g).Gives T i fun p => p.Stands T i := by
  refine gives_start_bind ((gives_maybeStarPattern hpattern i).bind fun first j hfirst => ?_)
  have hlt := hfirst.lt
  refine gives_if_atOp ?_ ?_
  · refine (gives_morePatterns hpattern j).discard_bind fun _ k hk => ?_
    refine gives_tryOp_discard_bind fun l hl => ?_
    exact gives_rangeFrom_bind (gives_pure (Pattern.stands_other (by omega)))
  · split
    · exact gives_fail
    · exact gives_pure hfirst

end

end Grammar

end BlockText.Source

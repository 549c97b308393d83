import BlockText.Proofs.Source.Standing.Expr

/-!
# Operators and parameters among tokens

An operator stands between its operands, and a call, a subscript or an attribute behind the
expression to which it belongs, so each step of the ladder of operators gives expressions that stand
where they were read.  A parameter takes the tokens of its name and of what follows it, and the
parameters of a function stand between its brackets.  With them the ladder is complete.
-/

namespace BlockText.Source

open Rule Syntax

namespace Grammar

variable {α : Type} {g : Grammar} {T : Array Token} {i j k l : ℕ} {e : Expr} {es : List Expr}
  {Q : α → ℕ → Prop} {element : Rule Expr}

/-! ## What follows an atom -/

/-- An expression that may be left out. -/
lemma gives_optional_among {p : Rule Expr} (h : p.Gives T i fun e => e.Stands T i) :
    (optional p).Gives T i fun o j => i ≤ j ∧ ∀ e ∈ o, e.Among T i j := by
  refine h.optional.mono ?_
  rintro o j (⟨e, rfl, he⟩ | ⟨rfl, rfl⟩)
  · exact ⟨he.spans.lt.le, fun _ h => Option.some.inj h ▸ he.among⟩
  · exact ⟨le_rfl, nofun⟩

/-- A slice from one token to another. -/
lemma stands_slice (hT : InOrder T) {lower upper step : Option Expr} (hi : IsCode T i)
    (hij : i < j) (hlower : ∀ e ∈ lower, e.Among T i j) (hupper : ∀ e ∈ upper, e.Among T i j)
    (hstep : ∀ e ∈ step, e.Among T i j) :
    (Expr.slice lower upper step (tokenRange T i j)).Stands T i j := by
  refine Expr.stands_of_operands hT rfl hi hij (fun c hc => ?_) rfl
  simp only [Expr.operands, List.mem_append, Option.mem_toList] at hc
  rcases hc with (hc | hc) | hc
  · exact hlower c hc
  · exact hupper c hc
  · exact hstep c hc

section

variable (hg : g.Nests) (hT : InOrder T)

include hg hT

/-- A slice from its first colon on. -/
lemma gives_sliceRest {lower : Option Expr} (hij : i ≤ j) (hlower : ∀ e ∈ lower, e.Among T i j)
    (hi : IsCode T i) :
    (do
      advance
      let upper ← optional g.expression
      if ← tryOp ":" then
        let step ← optional g.expression
        return .slice lower upper step (← rangeFrom (startAt T i))
      else return .slice lower upper none (← rangeFrom (startAt T i)) : Rule Expr).Gives T j
        fun e => e.Stands T i := by
  refine gives_advance_bind ((gives_optional_among (hg.expression hT)).bind
    fun upper k hupper => ?_)
  refine gives_if_tryOp (fun _ => ?_) (gives_rangeFrom_bind (gives_pure ?_))
  · refine (gives_optional_among (hg.expression hT)).bind fun step l hstep =>
      gives_rangeFrom_bind (gives_pure (stands_slice hT hi (by omega) ?_ ?_ ?_))
    · exact fun e he => (hlower e he).mono le_rfl (by omega)
    · exact fun e he => (hupper.2 e he).mono (by omega) (by omega)
    · exact fun e he => (hstep.2 e he).mono (by omega) le_rfl
  · refine stands_slice hT hi (by omega) (fun e he => (hlower e he).mono le_rfl (by omega)) ?_ nofun
    exact fun e he => (hupper.2 e he).mono (by omega) le_rfl

/-- An index or a slice stands where it was read. -/
lemma gives_slice (i : ℕ) : (slice g).Gives T i fun e => e.Stands T i := by
  refine gives_start_bind (gives_atOp_bind fun b hb => ?_)
  refine gives_ite (fun _ => gives_atOp_bind fun c hc => gives_ite (fun hcolon => ?_)
    fun _ => gives_fail) fun _ => ?_
  · exact gives_sliceRest hg hT le_rfl nofun (hc (by simp_all))
  · refine (gives_namedExpression hg hT i).map_bind fun e j he => gives_atOp_bind fun c _ =>
      gives_ite (fun _ => ?_) fun _ => gives_pure he
    refine gives_sliceRest hg hT he.spans.lt.le (fun _ h => ?_) he.spans.isCode
    exact Option.some.inj h ▸ he.among

/-- Several indices stand where they were read, as a tuple. -/
lemma gives_slices (i : ℕ) : (slices g).Gives T i fun e => e.Stands T i := by
  refine gives_start_bind ?_
  extract_lets starredIndex element
  have hstarred : ∀ i, starredIndex.Gives T i fun e => e.Stands T i := fun i =>
    gives_start_bind (gives_op_bind fun hi => (hg.expression hT).bind fun e j he =>
      gives_rangeFrom_bind (gives_pure (stands_of_single hT hi (Nat.le_succ i) he rfl rfl rfl)))
  have helement : ∀ i, element.Gives T i fun e => e.Stands T i := fun i =>
    (hstarred i).orElse (gives_slice hg hT i)
  refine (helement i).bind fun first j hfirst => gives_atOp_bind fun b _ => gives_ite
    (fun _ => ?_) fun _ => gives_pure hfirst
  refine (gives_commaElements helement).bind fun es k hes => gives_rangeFrom_bind (gives_pure ?_)
  exact stands_of_cons hT hfirst hes.1 hes.2 rfl rfl rfl

/-- A step that continues an expression keeps where it starts. -/
lemma gives_trailer (he : e.Stands T i j) :
    (trailer g (startAt T i) e).Gives T j fun e => e.Stands T i := by
  have hi := he.spans.isCode
  have hij := he.spans.lt
  refine gives_peek_bind fun t ht => gives_ite (fun _ => ?_) fun _ => gives_ite (fun hop => ?_)
    fun _ => gives_ite (fun _ => ?_) fun _ => gives_fail
  · refine gives_advance_bind (gives_identifier_bind fun _ _ _ => gives_rangeFrom_bind
      (gives_pure ?_))
    refine Expr.stands_of_operands hT rfl hi (by omega) (List.forall_mem_singleton.mpr ?_) rfl
    exact he.among.mono le_rfl (by omega)
  · rw [← startAt_eq ht]
    refine gives_advance_bind ((gives_callArguments hg hT ⟨t, ht, isLayout_of_isOp hop⟩
      (Nat.lt_succ_self j)).bind fun args k hargs => gives_rangeFrom_bind (gives_pure ?_))
    refine Expr.stands_of_parts hT rfl hi (by omega) (List.forall_mem_cons.mpr ⟨?_, ?_⟩) ?_
    · exact he.among.mono le_rfl (by omega)
    · exact fun e he => (hargs.2.positional e he).mono (by omega) le_rfl
    · exact List.forall_mem_map.mpr fun a ha => (hargs.2.keywords a ha).mono (by omega) le_rfl
  · refine gives_advance_bind ((gives_slices hg hT (j + 1)).bind fun index k hindex =>
      gives_op_bind fun _ => gives_rangeFrom_bind (gives_pure ?_))
    have hlt := hindex.spans.lt
    refine Expr.stands_of_operands hT rfl hi (by omega) (List.forall_mem_cons.mpr
      ⟨he.among.mono le_rfl (by omega), List.forall_mem_singleton.mpr ?_⟩) rfl
    exact hindex.among.mono (by omega) (Nat.le_succ k)

/-- An atom with its trailers stands where it was read. -/
lemma gives_primaryRule (i : ℕ) : (primaryRule g).Gives T i fun e => e.Stands T i :=
  gives_start_bind ((gives_atom hg hT i).bind fun _ _ he => gives_extend he
    fun _ _ => gives_trailer hg hT)

/-- An awaited expression stands where it was read. -/
lemma gives_awaited (i : ℕ) : (awaited g).Gives T i fun e => e.Stands T i := by
  refine gives_start_bind (gives_if_tryWord (fun hi => ?_) (gives_primaryRule hg hT i))
  refine (gives_primaryRule hg hT _).bind fun e j he => gives_rangeFrom_bind (gives_pure ?_)
  exact stands_of_single hT hi (Nat.le_succ i) he rfl rfl rfl

/-! ## Operators -/

omit hg in
/-- Two operands, from one token to another. -/
lemma stands_of_pair {c d : Expr} {m : ℕ} (hc : c.Stands T i j) (hjk : j ≤ k)
    (hd : d.Stands T k m) (hrange : e.range = tokenRange T i m) (hoperands : e.operands = [c, d])
    (hparts : e.parts = []) : e.Stands T i m := by
  have hlt := hd.spans.lt
  refine stands_of_cons hT hc (hjk.trans hlt.le) ?_ hrange hoperands hparts
  exact List.forall_mem_singleton.mpr (hd.among.mono hjk le_rfl)

/-- A power stands where it was read. -/
lemma gives_power (i : ℕ) : (power g).Gives T i fun e => e.Stands T i := by
  refine gives_start_bind ((gives_awaited hg hT i).bind fun e j he => gives_if_tryOp (fun _ => ?_)
    (gives_pure he))
  refine (hg.factor hT).bind fun e' k he' => gives_rangeFrom_bind (gives_pure ?_)
  exact stands_of_pair hT he (Nat.le_succ j) he' rfl rfl rfl

/-- An operand with its signs stands where it was read. -/
lemma gives_factorRule (i : ℕ) : (factorRule g).Gives T i fun e => e.Stands T i := by
  refine gives_peek_bind fun t ht => ?_
  cases hsign : signOf? t with
  | none => exact gives_power hg hT i
  | some sign =>
    have hlayout : t.isLayout = false := by
      unfold signOf? at hsign
      split at hsign
      · exact isLayout_of_isOp ‹_›
      · split at hsign
        · exact isLayout_of_isOp ‹_›
        · split at hsign
          · exact isLayout_of_isOp ‹_›
          · cases hsign
    rw [← startAt_eq ht]
    refine gives_advance_bind ((hg.factor hT).bind fun e j he => gives_rangeFrom_bind
      (gives_pure ?_))
    exact stands_of_single hT ⟨t, ht, hlayout⟩ (Nat.le_succ i) he rfl rfl rfl

omit hg in
/-- A chain of operators stands where it was read if its operands do. -/
lemma gives_leftChain {operators : List (String × BinaryOp)} {operand : Rule Expr}
    (h : ∀ i, operand.Gives T i fun e => e.Stands T i) (i : ℕ) :
    (leftChain operators operand).Gives T i fun e => e.Stands T i := by
  refine gives_start_bind ((h i).bind fun first j hfirst => gives_extend hfirst
    fun left k hleft => gives_peek_bind fun t ht => ?_)
  split
  · refine gives_advance_bind ((h (k + 1)).bind fun right l hright => gives_rangeFrom_bind
      (gives_pure ?_))
    exact stands_of_pair hT hleft (Nat.le_succ k) hright rfl rfl rfl
  · exact gives_fail

/-- A chain of shifts stands where it was read. -/
lemma gives_shift (i : ℕ) : (shift g).Gives T i fun e => e.Stands T i :=
  gives_leftChain hT (gives_leftChain hT (gives_leftChain hT (gives_factorRule hg hT))) i

/-- A chain of bitwise alternatives stands where it was read. -/
lemma gives_bitOrRule (i : ℕ) : (bitOrRule g).Gives T i fun e => e.Stands T i :=
  gives_leftChain hT (gives_leftChain hT (gives_leftChain hT (gives_shift hg hT))) i

omit hg hT in
/-- A comparison operator moves on. -/
lemma gives_compareOp (i : ℕ) : compareOp.Gives T i fun _ j => i ≤ j := by
  refine gives_peek_bind fun t _ => ?_
  split
  · exact gives_advance_bind (gives_pure (Nat.le_succ i))
  · refine gives_ite (fun _ => ?_) fun _ => gives_ite (fun _ => ?_) fun _ => gives_ite
      (fun _ => ?_) fun _ => gives_fail
    · exact gives_advance_bind (gives_word_bind fun _ => gives_pure (by omega))
    · exact gives_advance_bind (gives_pure (Nat.le_succ i))
    · exact gives_advance_bind (gives_if_tryWord (fun _ => gives_pure (by omega))
        (gives_pure (Nat.le_succ i)))

/-- A comparison stands where it was read. -/
lemma gives_comparison (i : ℕ) : (comparison g).Gives T i fun e => e.Stands T i := by
  have hmany : ∀ i, (many (do
      let operator ← compareOp
      return (operator, ← bitOrRule g))).Gives T i
      (Series (fun i p j => p.2.Among T i j) i) := fun i => gives_many fun i =>
    (gives_compareOp i).bind fun operator j hij => (gives_bitOrRule hg hT j).bind fun e k he =>
      gives_pure (he.among.mono hij le_rfl)
  refine gives_start_bind ((gives_bitOrRule hg hT i).bind fun left j hleft => (hmany j).bind
    fun pairs k hpairs => gives_ite (fun hempty => ?_) fun _ => ?_)
  · obtain rfl := List.isEmpty_iff.mp hempty
    cases hpairs
    exact gives_pure hleft
  · obtain ⟨hjk, hmem⟩ := hpairs.mem fun _ _ _ h => h.lt.le
    refine gives_rangeFrom_bind (gives_pure (stands_of_cons hT hleft hjk ?_ rfl rfl rfl))
    refine List.forall_mem_map.mpr fun p hp => ?_
    obtain ⟨k', l, hk, hl, he⟩ := hmem p hp
    exact he.mono hk hl

omit hg in
/-- Negations in front of an expression, each from its own word on. -/
lemma stands_negations {marks : List Mark}
    (hmarks : Series (fun i m j => j = i + 1 ∧ IsCode T i ∧ m = startAt T i) i marks j)
    (he : e.Stands T j k) :
    (marks.foldr (fun m e => Expr.unary .not e ⟨m, stopBefore T k⟩) e).Stands T i k := by
  induction hmarks with
  | nil => exact he
  | @cons i j l m ms first rest ih =>
    obtain ⟨rfl, hi, rfl⟩ := first
    exact stands_of_single hT hi (Nat.le_succ i) (ih he) rfl rfl rfl

/-- A negation stands where it was read. -/
lemma gives_inversion (i : ℕ) : (inversion g).Gives T i fun e => e.Stands T i := by
  have hmark : ∀ i, (do return (← word "not").start : Rule Mark).Gives T i
      fun m j => j = i + 1 ∧ IsCode T i ∧ m = startAt T i := by
    refine fun i => gives_take.bind ?_
    rintro t _ ⟨rfl, ht, hword⟩
    exact gives_pure ⟨rfl, ⟨t, ht, isLayout_of_isWord hword⟩, (startAt_eq ht).symm⟩
  refine (gives_many hmark).bind fun marks j hmarks => (gives_comparison hg hT j).bind
    fun e k he => gives_rangeFrom_bind (gives_pure ?_)
  exact stands_negations hT hmarks he

omit hg in
/-- A chain of a short-circuit operator stands where it was read if its operands do. -/
lemma gives_boolChain {operator : BoolOp} {operand : Rule Expr}
    (h : ∀ i, operand.Gives T i fun e => e.Stands T i) (i : ℕ) :
    (boolChain operator operand).Gives T i fun e => e.Stands T i := by
  have hmany : ∀ i, (many (do discard (word (Choice.spelling operator)); operand)).Gives T i
      (Series (fun i e j => e.Among T i j) i) := fun i => gives_many fun i =>
    gives_word_bind fun _ => (h (i + 1)).mono fun e j he => he.among.mono (Nat.le_succ i) le_rfl
  refine gives_start_bind ((h i).bind fun first j hfirst => (hmany j).bind fun rest k hrest =>
    gives_ite (fun hempty => ?_) fun _ => ?_)
  · obtain rfl := List.isEmpty_iff.mp hempty
    cases hrest
    exact gives_pure hfirst
  · obtain ⟨hjk, hmem⟩ := hrest.mem fun _ _ _ h => h.lt.le
    refine gives_rangeFrom_bind (gives_pure (stands_of_cons hT hfirst hjk ?_ rfl rfl rfl))
    intro e he
    obtain ⟨k', l, hk, hl, he⟩ := hmem e he
    exact he.mono hk hl

/-- A disjunction stands where it was read. -/
lemma gives_disjunctionRule (i : ℕ) : (disjunctionRule g).Gives T i fun e => e.Stands T i :=
  gives_boolChain hT (gives_boolChain hT (gives_inversion hg hT)) i

end

end Grammar

end BlockText.Source

namespace BlockText.Source

open Rule Syntax

variable {T : Array Token} {i i' j j' k l : ℕ} {e : Expr} {es : List Expr}

/-- Every parameter stands somewhere between two positions. -/
structure Arguments.Among (T : Array Token) (i : ℕ) (a : Arguments Expr) (j : ℕ) : Prop where
  positionalOnly : ∀ p ∈ a.positionalOnly, p.part.Among T i j
  plain : ∀ p ∈ a.plain, p.part.Among T i j
  variadic : ∀ p ∈ a.variadic, p.part.Among T i j
  keywordOnly : ∀ p ∈ a.keywordOnly, p.part.Among T i j
  mapping : ∀ p ∈ a.mapping, p.part.Among T i j

namespace Arguments.Among

variable {a : Arguments Expr}

/-- Parameters between inner positions are between outer ones. -/
lemma mono (h : a.Among T i j) (hi : i' ≤ i) (hj : j ≤ j') : a.Among T i' j' where
  positionalOnly p hp := (h.positionalOnly p hp).mono hi hj
  plain p hp := (h.plain p hp).mono hi hj
  variadic p hp := (h.variadic p hp).mono hi hj
  keywordOnly p hp := (h.keywordOnly p hp).mono hi hj
  mapping p hp := (h.mapping p hp).mono hi hj

/-- All parts of the parameters are between their positions. -/
lemma parts (h : a.Among T i j) : ∀ p ∈ a.parts, p.Among T i j := by
  simp only [Arguments.parts, List.forall_mem_append, List.forall_mem_map, Option.mem_toList]
  exact ⟨⟨⟨⟨h.positionalOnly, h.plain⟩, h.variadic⟩, h.keywordOnly⟩, h.mapping⟩

end Arguments.Among

namespace Grammar

variable {α : Type} {g : Grammar} {Q : α → ℕ → Prop} {element : Rule Expr} {place : ParamPlace}

/-! ## Parameters -/

/-- After the end of a parameter the rest is shown from wherever that led. -/
lemma gives_paramEnd_bind {f : Unit → Rule α} (h : ∀ j, i ≤ j → (f ()).Gives T j Q) :
    (paramEnd place >>= f).Gives T i Q := by
  have hend : (paramEnd place).Gives T i fun _ j => i ≤ j := gives_if_tryOp
    (fun _ => gives_pure (Nat.le_succ i)) (gives_if_atOp (gives_pure le_rfl) gives_fail)
  exact hend.bind fun _ j hj => h j hj

section

variable (hg : g.Nests) (hT : InOrder T)

include hg hT

/-- A parameter begins with its name, and its type stands behind that. -/
lemma gives_arg (isVariadic : Bool) (i : ℕ) :
    (arg g place isVariadic).Gives T i fun a j => a.part.Stands T i j := by
  refine gives_identifier_bind fun t hi hrange => gives_atOp_bind fun b _ => ?_
  have hstart : t.start = startAt T i := congrArg Range.start hrange
  rw [hstart]
  extract_lets rest
  have hrest : ∀ (hint : Option Expr) j, i < j → (∀ e ∈ hint, e.Among T i j) →
      (rest hint).Gives T j fun a j => a.part.Stands T i j := by
    refine fun hint j hij hhint => gives_rangeFrom_bind (gives_pure ⟨hT.spans hi hij, ?_⟩)
    intro c hc
    obtain ⟨k, l, hk, hl, hc⟩ := hhint c (Option.mem_toList.mp hc)
    exact ⟨hc.spans.holds hT hi hk hl, hc.nested⟩
  have hsome : ∀ e j, e.Stands T (i + 1 + 1) j →
      (rest (some e)).Gives T j fun a j => a.part.Stands T i j := by
    intro e j he
    have hlt := he.spans.lt
    refine hrest _ j (by omega) fun _ h => ?_
    exact Option.some.inj h ▸ he.among.mono (by omega) le_rfl
  refine gives_ite (fun _ => gives_advance_bind (gives_atOp_bind fun c _ => gives_ite
    (fun _ => ?_) fun _ => ?_)) fun _ => hrest none _ (Nat.lt_succ_self i) nofun
  · exact (gives_starExpression hg hT _).map_bind hsome
  · exact (hg.expression hT).map_bind hsome

omit hg in
/-- A parameter and the default value behind it. -/
lemma stands_argDefault {a : Arg Expr} {preset : Expr} (harg : a.part.Stands T i j) (hjk : j ≤ k)
    (hpreset : preset.Stands T k l) :
    (⟨a, some preset⟩ : ArgDefault Expr).part.Stands T i l := by
  have hbefore := harg.spans.before hpreset.spans hT hjk
  refine ⟨harg.spans.between hpreset.spans hT hjk, fun c hc => ?_⟩
  rcases List.mem_append.mp hc with hc | hc
  · obtain ⟨hholds, hnested⟩ := harg.operands c hc
    refine ⟨⟨hholds.start_le, hholds.forward, ?_⟩, hnested⟩
    exact hholds.le_stop.trans (hbefore.trans hpreset.spans.forward.le)
  · obtain rfl := List.mem_singleton.mp hc
    exact ⟨⟨harg.spans.forward.le.trans hbefore, hpreset.spans.forward.le, le_rfl⟩, hpreset.nested⟩

/-- A parameter is among the tokens from which it was read. -/
lemma gives_argDefault (i : ℕ) :
    (argDefault g place).Gives T i fun a j => a.part.Among T i j := by
  refine (gives_arg hg hT false i).bind fun a j harg => gives_peek_bind fun t _ => ?_
  extract_lets rest
  refine gives_ite (fun _ => gives_advance_bind (gives_diagnosing_bind
    ((hg.expression hT).map_bind fun preset k hpreset => ?_))) fun _ => ?_
  · refine gives_paramEnd_bind fun l hkl => gives_pure ?_
    have hstands := stands_argDefault hT harg (Nat.le_succ j) hpreset
    exact hstands.among.mono le_rfl hkl
  · refine gives_paramEnd_bind fun k hjk => gives_pure ⟨i, j, le_rfl, hjk, harg.spans, ?_⟩
    exact fun c hc => harg.operands c (by simpa [ArgDefault.part, Arg.part] using hc)

omit hg hT in
/-- Parameters that were read one after another are among all their tokens. -/
lemma among_of_series {as : List (ArgDefault Expr)}
    (h : Series (fun i (a : ArgDefault Expr) j => a.part.Among T i j) i as j) :
    i ≤ j ∧ ∀ a ∈ as, a.part.Among T i j := by
  obtain ⟨hij, hmem⟩ := h.mem fun _ _ _ ha => ha.lt.le
  refine ⟨hij, fun a ha => ?_⟩
  obtain ⟨k, l, hk, hl, ha⟩ := hmem a ha
  exact ha.mono hk hl

/-- Parameters in a row are among the tokens from which they were read. -/
lemma gives_argDefaults (i : ℕ) :
    (many (argDefault g place)).Gives T i fun as j => i ≤ j ∧ ∀ a ∈ as, a.part.Among T i j :=
  (gives_many (gives_argDefault hg hT)).mono fun _ _ has => among_of_series has

variable {done : Arguments Expr} {m : ℕ}

/-- A parameter for further keywords joins those that were read before it. -/
lemma gives_mappingArg (hmi : m ≤ i) (hdone : done.Among T m i) :
    (mappingArg g place done).Gives T i fun a j => i ≤ j ∧ a.Among T m j := by
  refine gives_op_bind fun _ => (gives_arg hg hT false _).bind fun a j harg =>
    gives_paramEnd_bind fun k hjk => ?_
  have hlt := harg.spans.lt
  refine gives_pure ⟨by omega, { hdone.mono le_rfl (by omega) with mapping := ?_ }⟩
  rintro _ ⟨⟩
  exact harg.among.mono (by omega) hjk

omit hg hT in
/-- The parameters so far, with what a rule adds to them. -/
lemma gives_optional_arguments {p : Rule (Arguments Expr)} (hdone : done.Among T m i)
    (h : p.Gives T i fun a j => i ≤ j ∧ a.Among T m j) :
    (do return (← optional p).getD done : Rule (Arguments Expr)).Gives T i fun a j =>
      i ≤ j ∧ a.Among T m j := by
  refine h.optional.bind fun o j ho => gives_pure ?_
  rcases ho with ⟨a, rfl, ha⟩ | ⟨rfl, rfl⟩
  · exact ha
  · exact ⟨le_rfl, hdone⟩

/-- The parameters behind a star join those that were read before them. -/
lemma gives_starArgs (hmi : m ≤ i) (hdone : done.Among T m i) :
    (starArgs g place done).Gives T i fun a j => i ≤ j ∧ a.Among T m j := by
  refine gives_take.bind ?_
  rintro star _ ⟨rfl, -, -⟩
  refine gives_diagnosing_bind ?_
  extract_lets withMapping
  have hmapping : ∀ (named : List (ArgDefault Expr)) (done : Arguments Expr) j, i ≤ j →
      done.Among T m j → (∀ p ∈ named, p.part.Among T m j) →
      (withMapping named done).Gives T j fun a j => i ≤ j ∧ a.Among T m j := by
    intro named done j hij hdone hnamed
    have hdone : ({ done with keywordOnly := named } : Arguments Expr).Among T m j :=
      { hdone with keywordOnly := hnamed }
    refine (gives_optional_arguments hdone (gives_mappingArg hg hT (by omega) hdone)).mono ?_
    exact fun a k ha => ⟨hij.trans ha.1, ha.2⟩
  refine gives_if_tryOp (fun _ => ?_) ((gives_arg hg hT true _).bind fun a j harg =>
    gives_paramEnd_bind fun k hjk => ?_)
  · refine (gives_many1 (gives_argDefault hg hT)).bind fun named j hnamed => ?_
    obtain ⟨hij, hnamed⟩ := among_of_series hnamed.2
    exact hmapping _ _ j (by omega) (hdone.mono le_rfl (by omega))
      fun p hp => (hnamed p hp).mono (by omega) le_rfl
  · have hlt := harg.spans.lt
    refine (gives_argDefaults hg hT k).bind fun named l hnamed => ?_
    obtain ⟨hkl, hnamed⟩ := hnamed
    refine hmapping _ _ l (by omega) { hdone.mono le_rfl (by omega) with variadic := ?_ }
      fun p hp => (hnamed p hp).mono (by omega) le_rfl
    rintro _ ⟨⟩
    exact harg.among.mono (by omega) (by omega)

/-- The parameters of a function are among the tokens from which they were read. -/
lemma gives_arguments (i : ℕ) :
    (arguments g place).Gives T i fun a j => i ≤ j ∧ a.Among T i j := by
  refine (gives_argDefaults hg hT i).bind fun first j hfirst => ?_
  obtain ⟨hij, hfirst⟩ := hfirst
  extract_lets _ afterSlash
  have hafter : afterSlash.Gives T j fun as k => j ≤ k ∧ ∀ a ∈ as, a.part.Among T j k := by
    refine gives_ite (fun _ => gives_fail) fun _ => ?_
    refine gives_op_bind fun _ => gives_paramEnd_bind fun k hjk => ?_
    refine (gives_argDefaults hg hT k).mono fun as l has => ⟨by omega, fun a ha => ?_⟩
    exact (has.2 a ha).mono (by omega) le_rfl
  refine hafter.optional.bind fun o k ho => ?_
  extract_lets done
  obtain ⟨hjk, hdone⟩ : j ≤ k ∧ done.Among T i k := by
    rcases ho with ⟨plain, rfl, hjk, hplain⟩ | ⟨rfl, rfl⟩
    · exact ⟨hjk, fun p hp => (hfirst p hp).mono le_rfl hjk,
        fun p hp => (hplain p hp).mono hij le_rfl, nofun, nofun, nofun⟩
    · exact ⟨le_rfl, nofun, hfirst, nofun, nofun, nofun⟩
  split
  · exact gives_ite (fun _ => gives_diagnosing_bind gives_fail) fun _ => gives_complain _
  · refine Gives.mono (gives_optional_arguments hdone (Gives.orElse ?_ ?_))
      fun a l ha => ⟨by omega, ha.2⟩
    · exact gives_starArgs hg hT (by omega) hdone
    · exact gives_mappingArg hg hT (by omega) hdone

/-! ## Expressions -/

/-- An anonymous function stands where it was read. -/
lemma gives_lambda (i : ℕ) : (lambda g).Gives T i fun e => e.Stands T i := by
  refine gives_start_bind (gives_word_bind fun hi => (gives_arguments hg hT _).bind
    fun args j hargs => gives_require_bind fun _ => (hg.expression hT).bind fun body k hbody =>
      gives_rangeFrom_bind (gives_pure ?_))
  have hlt := hbody.spans.lt
  refine Expr.stands_of_parts hT rfl hi (by omega) (List.forall_mem_singleton.mpr ?_)
    (hargs.2.mono (Nat.le_succ i) (by omega)).parts
  exact hbody.among.mono (by omega) le_rfl

/-- An expression stands where it was read, be it the first part of a conditional one or all of
it. -/
lemma gives_conditionalFrom (he : e.Stands T i j) :
    (conditionalFrom g (startAt T i) e).Gives T j fun e => e.Stands T i := by
  refine Gives.orElse ?_ (gives_pure he)
  refine gives_word_bind fun _ => (hg.disjunction hT).bind fun test k htest => gives_word_bind
    fun _ => (hg.expression hT).bind fun orelse l horelse => gives_rangeFrom_bind (gives_pure ?_)
  have hij := he.spans.lt
  have hjk := htest.spans.lt
  have hkl := horelse.spans.lt
  refine Expr.stands_of_operands hT rfl he.spans.isCode (by omega) ?_ rfl
  refine List.forall_mem_cons.mpr ⟨htest.among.mono (by omega) (by omega), ?_⟩
  refine List.forall_mem_cons.mpr ⟨he.among.mono le_rfl (by omega), ?_⟩
  exact List.forall_mem_singleton.mpr (horelse.among.mono (by omega) le_rfl)

omit hg hT in
/-- The search for mistakes behind an expression may be left aside. -/
lemma gives_diagnoseExpression_bind {isAmbiguous : Bool} {f : Unit → Rule α}
    (h : (f ()).Gives T i Q) : (diagnoseExpression g isAmbiguous e >>= f).Gives T i Q := by
  have hdiagnose : (diagnoseExpression g isAmbiguous e).Gives T i fun _ j => j = i :=
    gives_diagnosing_bind gives_diagnosing
  refine hdiagnose.bind ?_
  rintro _ _ rfl
  exact h

/-- An expression stands where it was read. -/
lemma gives_expressionRule (i : ℕ) : (expressionRule g).Gives T i fun e => e.Stands T i := by
  refine gives_start_bind (gives_if_atWord (gives_lambda hg hT i) (gives_input_bind fun x => ?_))
  extract_lets rest
  have hrest : ∀ b, (rest b).Gives T i fun e => e.Stands T i := fun b =>
    (gives_disjunctionRule hg hT i).bind fun e j he =>
      gives_diagnoseExpression_bind (gives_conditionalFrom hg hT he)
  exact gives_ite (fun _ => gives_ahead_bind hrest) fun _ => hrest false

end

end Grammar

end BlockText.Source

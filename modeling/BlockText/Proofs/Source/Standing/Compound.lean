import BlockText.Proofs.Source.Standing.Simple

/-!
# Compound statements among tokens

A body follows its header on the same line or stands on lines of its own, and every header of a
compound statement begins a line of code.  So the bodies of a statement lie in it, each from its
header on, and the statements of a body stand one after another.  The decorators of a definition
stand above it and lie outside its range: its place goes from the first decorator to its end.

With definitions and cases every statement of the grammar stands where it was read, and by induction
on the depth the statements of a program are laid in order from the first token on.
-/

namespace BlockText.Source

open Rule Syntax

variable {T : Array Token} {i i' j j' k l : ℕ} {s : Stmt} {ss : List Stmt} {e : Expr}

/-- The rules inside others give expressions, patterns and bodies that stand where they were
read. -/
structure Grammar.Lays (g : Grammar) : Prop extends Grammar.Nests g where
  pattern : ∀ {T : Array Token} (i : ℕ), InOrder T → g.pattern.Gives T i fun p => p.Stands T i
  block : ∀ {T : Array Token} (i : ℕ), InOrder T → g.block.Gives T i fun ss => IsBody T i ss

/-- The first token of a line leads it. -/
lemma leads_startAt (hopens : OpensLine T i) (hi : IsCode T i) : Leads T (startAt T i) :=
  ⟨i, i, le_rfl, hopens, hi, rfl, fun _ _ _ => by omega⟩

/-- What starts behind a token without line ends, but for parentheses, is on a line of code. -/
lemma Begins.leads {m : Mark} {t : Token} (h : Begins T (i + 1) m) (hopens : OpensLine T i)
    (ht : T[i]? = some t) (hcode : t.isLayout = false) (hfeed : '\n' ∉ t.text.toList) :
    Leads T m := by
  obtain ⟨k, hk, hcode', hm, hbetween⟩ := h
  refine ⟨i, k, by omega, hopens, hcode', hm, fun l hl hlk => ?_⟩
  rcases Nat.eq_or_lt_of_le hl with rfl | hlt
  · exact ⟨t, ht, hcode, hfeed⟩
  · obtain ⟨u, hu, hop⟩ := hbetween l hlt hlk
    refine ⟨u, hu, isLayout_of_isOp hop, ?_⟩
    have htext : u.text = "(" := by simp_all [Token.isOp]
    rw [htext]
    decide

/-- What begins a line each time it is repeated, since it ends where one begins. -/
lemma series_of_lines {α : Type} {one : ℕ → α → ℕ → Prop} {as : List α}
    (h : Series (fun i a j => OpensLine T i → one i a j) i as j)
    (hone : ∀ i a j, one i a j → OpensLine T j) (hopens : OpensLine T i) :
    Series one i as j ∧ OpensLine T j := by
  induction h with
  | nil => exact ⟨.nil, hopens⟩
  | cons first _ ih =>
    have hfirst := first hopens
    obtain ⟨hrest, hend⟩ := ih (hone _ _ _ hfirst)
    exact ⟨.cons hfirst hrest, hend⟩

/-- Whole lines one after another form a series that ends at the start of a line. -/
lemma gives_many_lines {α : Type} {p : Rule α} {one : ℕ → α → ℕ → Prop}
    (h : ∀ i, OpensLine T i → p.Gives T i (one i)) (hone : ∀ i a j, one i a j → OpensLine T j)
    (hopens : OpensLine T i) :
    (many p).Gives T i fun as j => Series one i as j ∧ OpensLine T j :=
  (gives_many fun i input hT far a j far' hrun hopens => h i hopens input hT far a j far' hrun).mono
    fun _ _ has => series_of_lines has hone hopens

/-- At least one whole line, and further ones, form a series that ends at the start of a line. -/
lemma gives_many1_lines {α : Type} {p : Rule α} {one : ℕ → α → ℕ → Prop}
    (h : ∀ i, OpensLine T i → p.Gives T i (one i)) (hone : ∀ i a j, one i a j → OpensLine T j)
    (hopens : OpensLine T i) :
    (many1 p).Gives T i fun as j => as ≠ [] ∧ Series one i as j ∧ OpensLine T j :=
  (h i hopens).bind fun a _ ha => (gives_many_lines h hone (hone _ _ _ ha)).bind fun as _ has =>
    gives_pure ⟨List.cons_ne_nil a as, .cons ha has.1, has.2⟩

/-- A compound statement, behind which a line begins. -/
def IsCompound (T : Array Token) (i : ℕ) (s : Stmt) (j : ℕ) : Prop := s.Stands T i j ∧ OpensLine T j

/-- A compound statement is laid out on lines of its own. -/
lemma IsCompound.laid (h : IsCompound T i s j) : Laid T i [s] j where
  le := h.1.lt.le
  among := List.forall_mem_singleton.mpr ⟨i, j, le_rfl, le_rfl, h.1⟩
  ordered := List.pairwise_singleton _ _
  opens := h.2

/-- A compound statement alone is a body, if it is not decorated. -/
lemma IsCompound.isBody (h : IsCompound T i s j) (hplain : Manuscript.decoratorsOf s = []) :
    IsBody T i [s] j :=
  ⟨h.laid, List.forall_mem_singleton.mpr fun hdecorated => absurd hplain hdecorated⟩

namespace Grammar

variable {α : Type} {g : Grammar} {Q : α → ℕ → Prop}

section

variable (hg : g.Lays) (hT : InOrder T)

include hg hT

/-! ## Bodies -/

/-- The body after a colon is laid out behind it. -/
lemma gives_body (i : ℕ) : (body g).Gives T i fun ss j => i < j ∧ IsBody T i ss j :=
  gives_op_bind fun _ => (hg.block _ hT).mono fun _ _ h => ⟨h.le, h.widen hT (Nat.le_succ i)⟩

/-- The body after a colon that must stand there is laid out behind it. -/
lemma gives_bodyAtOnce (i : ℕ) : (bodyAtOnce g).Gives T i fun ss j => i < j ∧ IsBody T i ss j :=
  gives_require_bind fun _ => (hg.block _ hT).mono fun _ _ h =>
    ⟨h.le, h.widen hT (Nat.le_succ i)⟩

/-- The body of a further word is laid out behind it, and without the word there is none. -/
lemma gives_bodyAfter {w : String} (hopens : OpensLine T i) :
    (bodyAfter g w).Gives T i fun ss => IsBody T i ss := by
  refine gives_if_tryWord (fun _ => ?_) (gives_pure ⟨laid_nil hopens, nofun⟩)
  exact (gives_bodyAtOnce hg hT _).mono fun _ _ h => h.2.widen hT (Nat.le_succ i)

/-! ## Conditions and loops -/

/-- The conditions after the first one belong to the statement that began before. -/
lemma gives_ifRest (fuel : ℕ) {h : ℕ} (hhi : h < i) (hh : IsCode T h) (hopens : OpensLine T h) :
    (ifRest g fuel (startAt T h)).Gives T i fun s j =>
      IsCompound T h s j ∧ Manuscript.decoratorsOf s = [] := by
  induction fuel generalizing i h with
  | zero => exact gives_fail
  | succ fuel ih =>
    refine (gives_namedExpression hg.toNests hT i).bind fun test j htest =>
      (gives_body hg hT j).bind fun first k hfirst => gives_peek_bind fun t ht => ?_
    have hij := htest.spans.lt
    obtain ⟨hjk, hfirst⟩ := hfirst
    have hleads := leads_startAt hopens hh
    extract_lets rest
    have hrest : ∀ orelse l, IsBody T k orelse l → (rest orelse).Gives T l fun s j =>
        IsCompound T h s j ∧ Manuscript.decoratorsOf s = [] := by
      intro orelse l horelse
      have hkl := horelse.le
      refine gives_rangeFrom_bind (gives_pure ⟨⟨?_, horelse.opens⟩, rfl⟩)
      refine Stmt.stands_of_parts hT rfl rfl hh (by omega) ?_ nofun ?_ nofun
      · exact List.forall_mem_singleton.mpr (htest.among.mono hhi.le (by omega))
      · refine List.forall_mem_cons.mpr ⟨?_, List.forall_mem_singleton.mpr ?_⟩
        · exact hfirst.branch hT hleads (hT.startAt_lt_stopBefore hh (by omega))
            (hT.stopBefore_mono hkl)
        · exact horelse.branch hT hleads (hT.startAt_lt_stopBefore hh (by omega)) le_rfl
    refine gives_ite (fun hword => ?_) fun _ => (gives_bodyAfter hg hT hfirst.opens).bind hrest
    have hk : IsCode T k := ⟨t, ht, isLayout_of_isWord hword⟩
    rw [← startAt_eq ht]
    refine gives_advance_bind ((ih (Nat.lt_succ_self k) hk hfirst.opens).bind fun s l hs => ?_)
    exact hrest [s] l (hs.1.isBody hs.2)

/-- A conditional statement is laid out on its lines. -/
lemma gives_ifStmt (hopens : OpensLine T i) : (ifStmt g).Gives T i (IsCompound T i) :=
  gives_start_bind (gives_word_bind fun hi => gives_tokensLeft_bind fun n =>
    (gives_ifRest hg hT n (Nat.lt_succ_self i) hi hopens).mono fun _ _ h => h.1)

/-- A loop with a condition is laid out on its lines. -/
lemma gives_whileStmt (hopens : OpensLine T i) : (whileStmt g).Gives T i (IsCompound T i) := by
  refine gives_start_bind (gives_word_bind fun hi => (gives_namedExpression hg.toNests hT _).bind
    fun test j htest => (gives_body hg hT j).bind fun first k hfirst =>
      (gives_bodyAfter hg hT hfirst.2.opens).bind fun orelse l horelse =>
        gives_rangeFrom_bind (gives_pure ⟨?_, horelse.opens⟩))
  have hij := htest.spans.lt
  have hjk := hfirst.1
  have hkl := horelse.le
  have hleads := leads_startAt hopens hi
  refine Stmt.stands_of_parts hT rfl rfl hi (by omega) ?_ nofun ?_ nofun
  · exact List.forall_mem_singleton.mpr (htest.among.mono (by omega) (by omega))
  · refine List.forall_mem_cons.mpr ⟨?_, List.forall_mem_singleton.mpr ?_⟩
    · exact hfirst.2.branch hT hleads (hT.startAt_lt_stopBefore hi (by omega))
        (hT.stopBefore_mono hkl)
    · exact horelse.branch hT hleads (hT.startAt_lt_stopBefore hi (by omega)) le_rfl

variable {h : ℕ} {isAsync : Bool}

/-- A loop over items is laid out on its lines, from its first word on. -/
lemma gives_forStmt (hhi : h ≤ i) (hh : IsCode T h) (hopens : OpensLine T h) :
    (forStmt g (startAt T h) isAsync).Gives T i (IsCompound T h) := by
  refine gives_word_bind fun _ => (gives_loopTargets hg.toNests hT _).bind fun target j htarget =>
    gives_word_bind fun _ => (gives_starExpressions hg.toNests hT _).bind fun iter k hiter =>
    (gives_body hg hT k).bind fun first l hfirst =>
    (gives_bodyAfter hg hT hfirst.2.opens).bind fun orelse m horelse =>
    gives_rangeFrom_bind (gives_pure ⟨?_, horelse.opens⟩)
  have hij := htarget.spans.lt
  have hjk := hiter.spans.lt
  have hkl := hfirst.1
  have hlm := horelse.le
  have hleads := leads_startAt hopens hh
  refine Stmt.stands_of_parts hT rfl rfl hh (by omega) ?_ nofun ?_ nofun
  · refine List.forall_mem_cons.mpr ⟨htarget.among.mono (by omega) (by omega), ?_⟩
    exact List.forall_mem_singleton.mpr (hiter.among.mono (by omega) (by omega))
  · refine List.forall_mem_cons.mpr ⟨?_, List.forall_mem_singleton.mpr ?_⟩
    · exact hfirst.2.branch hT hleads (hT.startAt_lt_stopBefore hh (by omega))
        (hT.stopBefore_mono hlm)
    · exact horelse.branch hT hleads (hT.startAt_lt_stopBefore hh (by omega)) le_rfl

/-! ## Contexts -/

/-- A context with its target is among the tokens from which it was read. -/
lemma gives_context (i : ℕ) : (context g).Gives T i fun c j => c.part.Among T i j := by
  refine (hg.expression hT).bind fun e j he => ?_
  have hvalue : ∀ c ∈ [e], e.range.Holds c.range ∧ c.IsNested :=
    List.forall_mem_singleton.mpr ⟨.self he.spans.forward.le, he.nested⟩
  refine Gives.orElse ?_ (gives_diagnosing_bind (gives_pure ?_))
  · refine gives_word_bind fun _ => (gives_loopTarget hg.toNests hT _).bind fun target k htarget =>
      gives_if_atOps (gives_pure ?_) gives_fail
    have hspans := he.spans.between htarget.spans hT (Nat.le_succ j)
    refine ⟨i, k, le_rfl, le_rfl, hspans, List.forall_mem_singleton.mpr ⟨?_, he.nested⟩⟩
    exact ⟨le_rfl, he.spans.forward.le,
      (he.spans.before htarget.spans hT (Nat.le_succ j)).trans htarget.spans.forward.le⟩
  · exact ⟨i, j, le_rfl, le_rfl, he.spans, hvalue⟩

/-- Contexts after commas are among the tokens from which they were read. -/
lemma gives_contextList (i : ℕ) : (separated (context g) ",").Gives T i fun cs j =>
    i < j ∧ ∀ c ∈ cs, c.part.Among T i j := by
  have hmore : ∀ i, (many (do discard (op ","); context g)).Gives T i
      (Series (fun i (c : Context) j => c.part.Among T i j) i) := fun i => gives_many fun i =>
    gives_op_bind fun _ => (gives_context hg hT (i + 1)).mono fun c j hc =>
      hc.mono (Nat.le_succ i) le_rfl
  refine (gives_context hg hT i).bind fun first j hfirst => (hmore j).bind fun rest k hrest =>
    gives_pure ?_
  obtain ⟨hjk, hmem⟩ := hrest.mem fun _ _ _ hc => hc.lt.le
  refine ⟨hfirst.lt.trans_le hjk, List.forall_mem_cons.mpr ⟨hfirst.mono le_rfl hjk, ?_⟩⟩
  intro c hc
  obtain ⟨k', l, hk, hl, hc⟩ := hmem c hc
  exact hc.mono (hfirst.lt.le.trans hk) hl

/-- The contexts of a statement are among the tokens from which they were read, in parentheses or
not. -/
lemma gives_contexts (i : ℕ) : (contexts g).Gives T i fun cs j =>
    i < j ∧ ∀ c ∈ cs, c.part.Among T i j := by
  refine Gives.orElse ?_ ?_
  · refine gives_op_bind fun _ => (gives_contextList hg hT _).bind fun items j hitems =>
      gives_tryOp_discard_bind fun k hk => gives_op_bind fun _ => gives_op_bind fun _ =>
      gives_pure ⟨by omega, fun c hc => (hitems.2 c hc).mono (by omega) (by omega)⟩
  · refine (gives_contextList hg hT _).bind fun items j hitems => gives_op_bind fun _ =>
      gives_pure ⟨by omega, fun c hc => (hitems.2 c hc).mono le_rfl (by omega)⟩

/-- A statement with contexts is laid out on its lines, from its first word on. -/
lemma gives_withStmt (hhi : h ≤ i) (hh : IsCode T h) (hopens : OpensLine T h) :
    (withStmt g (startAt T h) isAsync).Gives T i (IsCompound T h) := by
  refine gives_word_bind fun _ => (gives_contexts hg hT _).bind fun items j hitems =>
    (hg.block j hT).bind fun first k hfirst => gives_rangeFrom_bind
      (gives_pure ⟨?_, hfirst.opens⟩)
  have hij := hitems.1
  have hjk := hfirst.le
  refine Stmt.stands_of_parts hT rfl rfl hh (by omega) nofun ?_ ?_ nofun
  · exact List.forall_mem_map.mpr fun c hc => (hitems.2 c hc).mono (by omega) (by omega)
  · exact List.forall_mem_singleton.mpr (hfirst.branch hT (leads_startAt hopens hh)
      (hT.startAt_lt_stopBefore hh (by omega)) le_rfl)

/-! ## Handlers -/

omit hg hT in
/-- A handler stands between two positions, with its body; behind it a line begins. -/
structure CatchStands (T : Array Token) (i : ℕ) (c : Catch Stmt) (j : ℕ) : Prop where
  part : c.part.Among T i j
  branch : (⟨c.range.start, c.range.stop, c.body⟩ : Branch).Stands T
  opens : OpensLine T j

/-- A handler is laid out on its lines. -/
lemma gives_handler {isStar : Bool} (hopens : OpensLine T i) :
    (handler g isStar).Gives T i (CatchStands T i) := by
  refine gives_start_bind (gives_word_bind fun hi => ?_)
  have hleads := leads_startAt hopens hi
  have hcatch : ∀ (type : Option Expr) (name : Option String) (b : List Stmt) (j k : ℕ), i < j →
      (∀ e ∈ type, e.Among T i j) → IsBody T j b k →
      CatchStands T i ⟨type, name, b, tokenRange T i k⟩ k := by
    intro type name b j k hij htype hb
    have hjk := hb.le
    refine ⟨⟨i, k, le_rfl, le_rfl, hT.spans hi (by omega), fun c hc => ?_⟩, ?_, hb.opens⟩
    · obtain ⟨k', l, hk, hl, hc⟩ := htype c (Option.mem_toList.mp hc)
      exact ⟨hc.spans.holds hT hi hk (hl.trans hjk), hc.nested⟩
    · exact hb.branch hT hleads (hT.startAt_lt_stopBefore hi hij) le_rfl
  have hhandler : ∀ k, i < k → (do
      if !isStar && (← atOp ":") then
        let b ← body g
        return ⟨none, none, b, ← rangeFrom (startAt T i)⟩
      else
        let type ← g.expression
        let name ← asName
        let b ← body g
        return ⟨some type, name, b, ← rangeFrom (startAt T i)⟩ : Rule (Catch Stmt)).Gives T k
          (CatchStands T i) := by
    refine fun k hk => gives_atOp_bind fun _ _ => gives_ite (fun _ => ?_) fun _ => ?_
    · exact (gives_body hg hT k).bind fun b j hb => gives_rangeFrom_bind
        (gives_pure (hcatch none none b k j hk nofun hb.2))
    · refine (hg.expression hT).bind fun type j htype => (gives_asName j).bind fun name l hl =>
        (gives_body hg hT l).bind fun b m hb => gives_rangeFrom_bind (gives_pure ?_)
      have hlt := htype.spans.lt
      refine hcatch (some type) name b l m (by omega) (fun _ h => ?_) hb.2
      exact Option.some.inj h ▸ htype.among.mono hk.le hl
  exact gives_ite (fun _ => gives_op_bind fun _ => hhandler _ (by omega)) fun _ =>
    hhandler _ (Nat.lt_succ_self i)

variable {first : List Stmt} {isStar : Bool}

/-- A body and the handlers behind it. -/
lemma gives_handled (hh : IsCode T h) (hopens : OpensLine T h) (hhi : h < i)
    (hfirst : IsBody T i first j) :
    (handled g (startAt T h) first isStar).Gives T j (IsCompound T h) := by
  have hleads := leads_startAt hopens hh
  have hij := hfirst.le
  refine (gives_many1_lines (fun i hi => gives_handler hg hT hi) (fun _ _ _ h => h.opens)
    hfirst.opens).bind fun hs k hs' => gives_diagnosing_bind ?_
  obtain ⟨-, hseries, hopens'⟩ := hs'
  obtain ⟨hjk, hmem⟩ := hseries.mem fun _ _ _ h => h.part.lt.le
  refine (gives_bodyAfter hg hT hopens').bind fun orelse l horelse =>
    (gives_bodyAfter hg hT horelse.opens).bind fun final m hfinal => gives_rangeFrom_bind
      (gives_pure ⟨?_, hfinal.opens⟩)
  have hkl := horelse.le
  have hlm := hfinal.le
  refine Stmt.stands_of_parts hT rfl rfl hh (by omega) nofun ?_ ?_ nofun
  · refine List.forall_mem_map.mpr fun c hc => ?_
    obtain ⟨k', l', hk, hl, hc⟩ := hmem c hc
    exact hc.part.mono (by omega) (by omega)
  · refine List.forall_mem_append.mpr ⟨?_, List.forall_mem_map.mpr fun c hc => ?_⟩
    · refine List.forall_mem_cons.mpr ⟨?_, List.forall_mem_cons.mpr
        ⟨?_, List.forall_mem_singleton.mpr ?_⟩⟩
      · exact hfirst.branch hT hleads (hT.startAt_lt_stopBefore hh hhi)
          (hT.stopBefore_mono (by omega))
      · exact horelse.branch hT hleads (hT.startAt_lt_stopBefore hh (by omega))
          (hT.stopBefore_mono (by omega))
      · exact hfinal.branch hT hleads (hT.startAt_lt_stopBefore hh (by omega)) le_rfl
    · obtain ⟨k', l', -, -, hc⟩ := hmem c hc
      exact hc.branch

/-- A statement with handlers is laid out on its lines. -/
lemma gives_tryStmt (hopens : OpensLine T i) : (tryStmt g).Gives T i (IsCompound T i) := by
  refine gives_start_bind (gives_word_bind fun hi => (gives_bodyAtOnce hg hT _).bind
    fun first j hfirst => gives_if_tryWord (fun _ => ?_) (Gives.orElse ?_ ?_))
  · refine (gives_bodyAtOnce hg hT _).bind fun final k hfinal => gives_rangeFrom_bind
      (gives_pure ⟨?_, hfinal.2.opens⟩)
    have hleads := leads_startAt hopens hi
    have hij := hfirst.1
    have hjk := hfinal.1
    have hnone := (⟨laid_nil hfinal.2.opens, nofun⟩ : IsBody T k [] k).branch hT hleads
      (hT.startAt_lt_stopBefore hi (by omega)) le_rfl
    refine Stmt.stands_of_parts hT rfl rfl hi (by omega) nofun nofun ?_ nofun
    refine List.forall_mem_append.mpr ⟨?_, nofun⟩
    refine List.forall_mem_cons.mpr ⟨?_, List.forall_mem_cons.mpr
      ⟨hnone, List.forall_mem_singleton.mpr ?_⟩⟩
    · exact hfirst.2.branch hT hleads (hT.startAt_lt_stopBefore hi (by omega))
        (hT.stopBefore_mono (by omega))
    · exact hfinal.2.branch hT hleads (hT.startAt_lt_stopBefore hi (by omega)) le_rfl
  · exact gives_handled hg hT hi hopens (Nat.lt_succ_self i) hfirst.2
  · exact gives_handled hg hT hi hopens (Nat.lt_succ_self i) hfirst.2

/-! ## Definitions -/

omit hg hT in
/-- Decorators stand from a position on, before a definition at another. -/
structure Decorates (T : Array Token) (i : ℕ) (ds : List Expr) (k : ℕ) : Prop where
  le : i ≤ k
  isCode : IsCode T i
  leads : Leads T (headOf ds (startAt T k))
  le_head : (startAt T i).place ≤ (headOf ds (startAt T k)).place
  head_le : (headOf ds (startAt T k)).place ≤ (startAt T k).place
  holds : ∀ d ∈ ds, (⟨headOf ds (startAt T k), startAt T k⟩ : Range).Holds d.range ∧ d.IsNested

omit hg hT in
/-- No decorators stand in front of a definition that begins its line. -/
lemma decorates_nil (hopens : OpensLine T i) (hi : IsCode T i) : Decorates T i [] i :=
  ⟨le_rfl, hi, leads_startAt hopens hi, le_rfl, le_rfl, nofun⟩

omit hg in
/-- A definition stands with its decorators if all in it stands behind them. -/
lemma stands_definition {ds : List Expr} (hd : Decorates T i ds k)
    (hdecorators : Manuscript.decoratorsOf s = ds) (hrange : s.range = tokenRange T k j)
    (hk : IsCode T k) (hkj : k < j) (hoperands : ∀ c ∈ s.operands, c ∈ ds ∨ c.Among T k j)
    (hparts : ∀ p ∈ s.parts, p.Among T k j) (hbranches : ∀ b ∈ s.branches, b.Stands T)
    (hcases : s.cases = []) : s.Stands T i j := by
  have hhead : s.head = headOf ds (startAt T k) := by
    rw [Stmt.head, hdecorators, hrange]
    rfl
  have hforward := hT.startAt_le_stopBefore hk hkj
  have houter : s.outer.Holds (tokenRange T k j) := by
    rw [Stmt.outer, hhead, hrange]
    exact ⟨hd.head_le, hforward, le_rfl⟩
  have hle := hd.le
  refine ⟨by omega, hd.isCode, hhead ▸ hd.le_head, hrange ▸ le_rfl,
    .intro ⟨?_, ?_, ?_, ?_, ?_, ?_⟩ ?_⟩
  · rw [hhead, hrange]
    exact hd.head_le
  · rw [hrange]
    exact hforward
  · intro c hc
    rcases hoperands c hc with hc | hc
    · obtain ⟨hholds, hnested⟩ := hd.holds c hc
      refine ⟨⟨?_, hholds.forward, ?_⟩, hnested⟩
      · rw [Stmt.outer, hhead]
        exact hholds.start_le
      · rw [Stmt.outer, hrange]
        exact hholds.le_stop.trans hforward
    · obtain ⟨k', l, hk', hl, hc⟩ := hc
      exact ⟨houter.trans (hc.spans.holds hT hk hk' hl), hc.nested⟩
  · intro p hp
    obtain ⟨k', l, hk', hl, hp⟩ := hparts p hp
    exact ⟨houter.trans (hp.spans.holds hT hk hk' hl), hp.operands⟩
  · exact fun b hb => (hbranches b hb).fits
  · simp [hcases]
  · exact fun b hb => (hbranches b hb).nested

variable {ds : List Expr}

/-- A function with its decorators is laid out on its lines. -/
lemma gives_functionDef (hd : Decorates T i ds k) (hk : IsCode T k) (hkl : k ≤ l) :
    (functionDef g ds (startAt T k) isAsync).Gives T l (IsCompound T i) := by
  refine gives_word_bind fun _ => gives_identifier_bind fun name _ _ => gives_require_bind fun _ =>
    (gives_arguments hg.toNests hT _).bind fun args m hargs => gives_op_bind fun _ => ?_
  obtain ⟨hlm, hargs⟩ := hargs
  extract_lets rest
  have hrest : ∀ returns n, m ≤ n → (∀ e ∈ returns, e.Among T m n) →
      (rest returns).Gives T n (IsCompound T i) := by
    intro returns n hmn hreturns
    refine (gives_bodyAtOnce hg hT n).bind fun b p hb => gives_rangeFrom_bind
      (gives_pure ⟨?_, hb.2.opens⟩)
    have hnp := hb.1
    refine stands_definition hT hd rfl rfl hk (by omega) ?_ ?_ ?_ rfl
    · refine List.forall_mem_append.mpr ⟨fun c hc => .inl hc, fun c hc => .inr ?_⟩
      exact (hreturns c (Option.mem_toList.mp hc)).mono (by omega) hnp.le
    · exact (hargs.mono (by omega) (by omega)).parts
    · refine List.forall_mem_singleton.mpr (hb.2.branch hT hd.leads ?_ le_rfl)
      exact hd.head_le.trans_lt (hT.startAt_lt_stopBefore hk (by omega))
  refine gives_if_tryOp (fun _ => ?_) (hrest none _ (Nat.le_succ m) nofun)
  refine (hg.expression hT).map_bind fun returns n hreturns => ?_
  have hlt := hreturns.spans.lt
  refine hrest _ n (by omega) fun _ h => ?_
  exact Option.some.inj h ▸ hreturns.among.mono (by omega) le_rfl

/-- A class with its decorators is laid out on its lines. -/
lemma gives_classDef (hd : Decorates T i ds k) : (classDef g ds).Gives T k (IsCompound T i) := by
  refine gives_start_bind (gives_word_bind fun hk => gives_identifier_bind fun name _ _ =>
    gives_start_bind ?_)
  extract_lets rest
  have hrest : ∀ (args : CallArgs) m, k < m → args.Among T k m →
      (rest args).Gives T m (IsCompound T i) := by
    intro args m hkm hargs
    refine (gives_body hg hT m).bind fun b n hb => gives_rangeFrom_bind
      (gives_pure ⟨?_, hb.2.opens⟩)
    have hmn := hb.1
    refine stands_definition hT hd rfl rfl hk (by omega) ?_ nofun ?_ rfl
    · refine List.forall_mem_append.mpr ⟨fun c hc => .inl hc, fun c hc => .inr ?_⟩
      exact (hargs.positional c hc).mono le_rfl hmn.le
    · refine List.forall_mem_singleton.mpr (hb.2.branch hT hd.leads ?_ le_rfl)
      exact hd.head_le.trans_lt (hT.startAt_lt_stopBefore hk (by omega))
  refine gives_if_tryOp (fun hopening => ?_) (hrest {} _ (by omega) CallArgs.among_empty)
  refine (gives_callArguments hg.toNests hT hopening (Nat.lt_succ_self _)).bind
    fun args m hargs => ?_
  exact hrest args m (by omega) (hargs.2.mono_left (by omega))

omit hg hT in
/-- A decorator stands on a line of its own. -/
structure IsDecorator (T : Array Token) (i : ℕ) (d : Expr) (j : ℕ) : Prop where
  isCode : IsCode T i
  leads : Leads T d.range.start
  among : d.Among T i j
  opens : OpensLine T j

/-- A decorator is laid out on its line. -/
lemma gives_decorator (hopens : OpensLine T i) : (decorator g).Gives T i (IsDecorator T i) := by
  refine gives_take.discard_bind ?_
  rintro t _ ⟨rfl, ht, hop⟩
  have hlayout := isLayout_of_isOp hop
  have htext : t.text = "@" := by simp_all [Token.isOp]
  refine (gives_namedExpression hg.toNests hT _).bind fun d j hd => gives_kind_bind
    fun u hu hkind => gives_pure ⟨⟨t, ht, hlayout⟩, ?_, ?_, ?_⟩
  · exact hd.begins.leads hopens ht hlayout (by rw [htext]; decide)
  · exact hd.among.mono (Nat.le_succ i) (Nat.le_succ j)
  · exact opensLine_succ hu (by simp [Token.isLayout, hkind])

omit hg in
/-- Decorators on lines one after another stand in front of what follows them. -/
lemma decorates_of_series {d : Expr} (h : Series (IsDecorator T) i (d :: ds) k)
    (hk : IsCode T k) : Decorates T i (d :: ds) k := by
  cases h with
  | @cons _ j _ _ _ first rest =>
  obtain ⟨hjk, hmem⟩ := rest.mem fun _ _ _ h => h.among.lt.le
  obtain ⟨k', l, hk', hl, hd⟩ := first.among
  have hbefore : d.range.stop.place ≤ (startAt T k).place :=
    hd.spans.le_stop.trans (hT.stopBefore_le_startAt hk (hl.trans hjk))
  refine ⟨first.among.lt.le.trans hjk, first.isCode, first.leads, ?_,
    hd.spans.forward.le.trans hbefore, ?_⟩
  · exact (hT.startAt_mono first.isCode hd.spans.isCode hk').trans hd.spans.start_le
  · refine List.forall_mem_cons.mpr ⟨⟨⟨le_rfl, hd.spans.forward.le, hbefore⟩, hd.nested⟩, ?_⟩
    intro e he
    obtain ⟨m, n, hm, hn, he⟩ := hmem e he
    obtain ⟨m', n', hm', hn', he⟩ := he.among
    refine ⟨⟨?_, he.spans.forward.le, ?_⟩, he.nested⟩
    · exact hd.spans.forward.le.trans (hd.spans.before he.spans hT ((hl.trans hm).trans hm'))
    · exact he.spans.le_stop.trans (hT.stopBefore_le_startAt hk (hn'.trans hn))

/-- A statement that starts with `async` is laid out on its lines. -/
lemma gives_asyncStmt (hd : Decorates T i ds k) (hplain : ds = [] → OpensLine T i ∧ i = k) :
    (asyncStmt g ds).Gives T k (IsCompound T i) := by
  refine gives_start_bind (gives_word_bind fun hk => gives_peek_bind fun t _ => gives_ite
    (fun _ => gives_functionDef hg hT hd hk (Nat.le_succ k)) fun _ => gives_ite
    (fun _ => gives_fail) fun hempty => ?_)
  obtain ⟨hopens, rfl⟩ := hplain (by simpa using hempty)
  exact gives_ite (fun _ => gives_forStmt hg hT (Nat.le_succ i) hk hopens) fun _ => gives_ite
    (fun _ => gives_withStmt hg hT (Nat.le_succ i) hk hopens) fun _ => gives_fail

/-- A decorated definition is laid out on its lines. -/
lemma gives_decorated (hopens : OpensLine T i) : (decorated g).Gives T i (IsCompound T i) := by
  refine (gives_many1_lines (fun i hi => gives_decorator hg hT hi) (fun _ _ _ h => h.opens)
    hopens).bind fun ds k hds => gives_peek_bind fun t ht => ?_
  obtain ⟨hne, hseries, hend⟩ := hds
  obtain ⟨d, rest, rfl⟩ := List.exists_cons_of_ne_nil hne
  have hd : ∀ {w : String}, t.isWord w = true → Decorates T i (d :: rest) k := fun hword =>
    decorates_of_series hT hseries ⟨t, ht, isLayout_of_isWord hword⟩
  refine gives_ite (fun hword => ?_) fun _ => gives_ite
    (fun hword => gives_classDef hg hT (hd hword)) fun _ => gives_ite
    (fun hword => gives_asyncStmt hg hT (hd hword) nofun) fun _ => gives_fail
  rw [← startAt_eq ht]
  exact gives_functionDef hg hT (hd hword) ⟨t, ht, isLayout_of_isWord hword⟩ le_rfl

/-! ## Cases -/

/-- What is matched stands where it was read. -/
lemma gives_subject (i : ℕ) : (subject g).Gives T i fun e => e.Stands T i := by
  refine gives_start_bind ((gives_starNamedExpression hg.toNests hT i).bind fun first j hfirst =>
    gives_if_atOp ?_ ?_)
  · refine (gives_commaElements (gives_starNamedExpression hg.toNests hT)).bind fun es k hes =>
      gives_rangeFrom_bind (gives_pure ?_)
    exact stands_of_cons hT hfirst hes.1 hes.2 rfl rfl rfl
  · split
    · exact gives_fail
    · exact gives_pure hfirst

omit hg hT in
/-- A case stands from a position on, if its pattern can be shown, and its body fits; behind it a
line begins. -/
structure CaseStands (T : Array Token) (i : ℕ) (c : Case Stmt) (j : ℕ) : Prop where
  lt : i < j
  isCode : IsCode T i
  opens : OpensLine T j
  spans : c.pattern.IsShown → Spans T i j c.range
  holds : c.pattern.IsShown → c.range.Holds c.pattern.range
  literal : ∀ e r, c.pattern = .literal e r → r = e.range ∧ e.IsNested
  branches : ∀ b ∈ c.branches, b.Stands T

omit hg in
/-- A case ends where its body ends, or its pattern. -/
lemma caseStands {c : Case Stmt} {t : Token} (hopens : OpensLine T i) (ht : T[i]? = some t)
    (hword : t.isWord "case" = true) (hpattern : c.pattern.Stands T (i + 1) j)
    (hjk : j ≤ k) (hbody : IsBody T k c.body l) : CaseStands T i c l := by
  have hi : IsCode T i := ⟨t, ht, isLayout_of_isWord hword⟩
  have hij := hpattern.lt
  have hkl := hbody.le
  have hstop : c.pattern.IsShown → c.pattern.range.stop.place ≤ c.range.stop.place ∧
      c.range.stop.place ≤ (stopBefore T l).place := by
    intro hshown
    have hle := (hpattern.spans hshown).le_stop.trans (hT.stopBefore_mono hjk)
    unfold Case.range
    cases hlast : c.body.getLast? with
    | none => exact ⟨le_rfl, hle.trans (hT.stopBefore_mono hkl)⟩
    | some s =>
      have hs := hbody.among s (List.mem_of_getLast? hlast)
      exact ⟨hle.trans (hs.stopBefore_le hT), hs.le_stopBefore hT⟩
  refine ⟨by omega, hi, hbody.opens, fun hshown => ?_, fun hshown => ?_, hpattern.literal, ?_⟩
  · have hspans := hpattern.spans hshown
    exact ⟨by omega, hi, (hT.startAt_mono hi hspans.isCode (Nat.le_succ i)).trans hspans.start_le,
      hspans.forward.trans_le (hstop hshown).1, (hstop hshown).2⟩
  · exact ⟨le_rfl, (hpattern.spans hshown).forward.le, (hstop hshown).1⟩
  · have htext : t.text = "case" := by simp_all [Token.isWord]
    have hbranch : c.pattern.IsShown →
        (⟨c.range.start, c.range.stop, c.body⟩ : Branch).Stands T := by
      intro hshown
      have hspans := hpattern.spans hshown
      refine hbody.branch_of_le hT ((hpattern.begins hshown).leads hopens ht
        (isLayout_of_isWord hword) (by rw [htext]; decide)) ?_ fun s hs => ?_
      · exact hspans.forward.trans_le (hspans.le_stop.trans (hT.stopBefore_mono hjk))
      · obtain ⟨last, hlast⟩ : ∃ last, c.body.getLast? = some last :=
          Option.isSome_iff_exists.mp (by rw [List.getLast?_isSome]; exact List.ne_nil_of_mem hs)
        simpa [Case.range, hlast] using hbody.le_getLast hlast s hs
    unfold Case.branches
    split
    · exact List.forall_mem_nil _
    · next hother => exact List.forall_mem_singleton.mpr (hbranch hother)

/-- A case is laid out on its lines. -/
lemma gives_caseBlock (hopens : OpensLine T i) : (caseBlock g).Gives T i (CaseStands T i) := by
  refine gives_take.discard_bind ?_
  rintro t _ ⟨rfl, ht, hword⟩
  refine (gives_casePattern (fun i => hg.pattern i hT) _).bind fun p j hp => ?_
  extract_lets rest
  have hrest : ∀ guard k, j ≤ k → (rest guard).Gives T k (CaseStands T i) := by
    refine fun guard k hjk => (gives_body hg hT k).bind fun b l hb => gives_pure ?_
    exact caseStands hT hopens ht hword hp hjk hb.2
  refine gives_if_tryWord (fun _ => ?_) (hrest none j le_rfl)
  refine (gives_namedExpression hg.toNests hT _).map_bind fun e k he => ?_
  have hlt := he.spans.lt
  exact hrest _ k (by omega)

/-- A statement with cases is laid out on its lines. -/
lemma gives_matchStmt (i : ℕ) : (matchStmt g).Gives T i (IsCompound T i) := by
  refine gives_start_bind (gives_word_bind fun hi => (gives_subject hg hT _).bind fun e j he =>
    gives_op_bind fun _ => gives_kind_bind fun newline hn hkind => gives_kind_bind fun u hu hu' =>
    (gives_many1_lines (fun i hi => gives_caseBlock hg hT hi) (fun _ _ _ h => h.opens)
      (opensLine_succ hu (by simp [Token.isLayout, hu']))).bind fun cs k hcs =>
    gives_kind_bind fun v hv hv' => gives_rangeFrom_bind (gives_pure
      ⟨?_, opensLine_succ hv (by simp [Token.isLayout, hv'])⟩))
  have hij := he.spans.lt
  obtain ⟨-, hseries, -⟩ := hcs
  obtain ⟨hjk, hmem⟩ := hseries.mem fun _ _ _ h => h.lt.le
  refine Stmt.stands_of_parts hT rfl rfl hi (by omega) ?_ (List.forall_mem_nil _) ?_ ?_
  · exact List.forall_mem_singleton.mpr (he.among.mono (by omega) (by omega))
  · refine fun b hb => ?_
    obtain ⟨c, hc, hb⟩ := List.mem_flatMap.mp hb
    obtain ⟨k', l, -, -, hc⟩ := hmem c hc
    exact hc.branches b hb
  · intro c hc hshown
    obtain ⟨k', l, hk, hl, hc⟩ := hmem c hc
    have hspans := hc.spans hshown
    have hholds := hc.holds hshown
    refine ⟨?_, hholds.forward, hholds.le_stop, ?_, hc.literal⟩
    · have hline := hT.line_lt hn hkind le_rfl (by omega) hc.isCode
      have hstart := line_le_of_place_le (hT.startAt_le_stopBefore hi (j := j + 1) (by omega))
      exact hstart.trans_lt (hline.trans_le (line_le_of_place_le hspans.start_le))
    · exact hspans.le_stop.trans (hT.stopBefore_mono (by omega))

/-! ## Statements -/

/-- A statement, or several on a line, are laid out. -/
lemma gives_statement (hopens : OpensLine T i) : (statement g).Gives T i (Laid T i) := by
  refine gives_peek_bind fun t ht => ?_
  extract_lets single
  have hsingle : ∀ {r : Rule Stmt}, r.Gives T i (IsCompound T i) →
      (single r).Gives T i (Laid T i) := fun h => h.bind fun s j hs => gives_pure hs.laid
  have hsimple : (simpleStmts g).Gives T i (Laid T i) :=
    (gives_simpleStmts hg.toNests hT i).mono fun _ _ h => h.1
  refine gives_ite (fun _ => hsingle (gives_decorated hg hT hopens)) fun _ =>
    gives_ite (fun _ => hsimple) fun hname => ?_
  have hcode : IsCode T i := ⟨t, ht, by
    have hkind : t.kind = .name := by simpa using hname
    simp [Token.isLayout, hkind]⟩
  have hd := decorates_nil hopens hcode
  rw [← startAt_eq ht]
  exact gives_ite (fun _ => hsingle (gives_functionDef hg hT hd hcode le_rfl)) fun _ =>
    gives_ite (fun _ => hsingle (gives_asyncStmt hg hT hd fun _ => ⟨hopens, rfl⟩)) fun _ =>
    gives_ite (fun _ => hsingle (gives_ifStmt hg hT hopens)) fun _ =>
    gives_ite (fun _ => hsingle (gives_classDef hg hT hd)) fun _ =>
    gives_ite (fun _ => hsingle (gives_withStmt hg hT le_rfl hcode hopens)) fun _ =>
    gives_ite (fun _ => hsingle (gives_forStmt hg hT le_rfl hcode hopens)) fun _ =>
    gives_ite (fun _ => hsingle (gives_tryStmt hg hT hopens)) fun _ =>
    gives_ite (fun _ => hsingle (gives_whileStmt hg hT hopens)) fun _ =>
    gives_ite (fun _ => (hsingle (gives_matchStmt hg hT i)).orElse hsimple) fun _ => hsimple

omit hg hT in
/-- Behind whole lines a line starts. -/
lemma opensLine_of_laid : ∀ (i : ℕ) (ss : List Stmt) (j : ℕ), Laid T i ss j → OpensLine T j :=
  fun _ _ _ h => h.opens

omit hg in
/-- Statements after statements. -/
lemma laid_flatten {sss : List (List Stmt)} (h : Series (Laid T) i sss j) (hopens : OpensLine T i) :
    Laid T i sss.flatten j := by
  induction h with
  | nil => exact laid_nil hopens
  | cons first _ ih => exact first.append (ih first.opens) hT

/-- A body stands behind what leads to it, and what is decorated in it on a later line. -/
lemma gives_blockRule (i : ℕ) : (blockRule g).Gives T i fun ss => IsBody T i ss := by
  refine gives_atKind_bind fun b hb => gives_ite (fun htrue => ?_) fun _ => ?_
  · obtain ⟨newline, hn, hkind⟩ := hb htrue
    refine gives_advance_bind (gives_kind_bind fun u hu hu' => (gives_many1_lines
      (fun i hi => gives_statement hg hT hi) opensLine_of_laid
      (opensLine_succ hu (by simp [Token.isLayout, hu']))).bind fun sss j hsss =>
        gives_kind_bind fun v hv hv' => gives_pure ?_)
    obtain ⟨-, hseries, hopens⟩ := hsss
    have hlaid := laid_flatten hT hseries (opensLine_succ hu (by simp [Token.isLayout, hu']))
    have hle := hlaid.le
    refine ⟨⟨by omega, fun s hs => (hlaid.among s hs).mono (by omega) (Nat.le_succ j),
      hlaid.ordered, opensLine_succ hv (by simp [Token.isLayout, hv'])⟩, fun s hs _ => ?_⟩
    obtain ⟨k, l, hk, -, hs⟩ := hlaid.among s hs
    exact (hT.line_lt hn hkind le_rfl (by omega) hs.isCode).trans_le
      (line_le_of_place_le hs.head_le)
  · exact (gives_simpleStmts hg.toNests hT i).mono fun ss j hss =>
      ⟨hss.1, fun s hs hdecorated => absurd (hss.2 s hs) hdecorated⟩

/-- The statements of a text are laid out from its first token on. -/
lemma gives_fileRule : (fileRule g).Gives T 0 fun ss _ => ∃ j, Laid T 0 ss j := by
  have hopens : OpensLine T 0 := .inl rfl
  refine (gives_many_lines (fun i hi => gives_statement hg hT hi) opensLine_of_laid hopens).bind
    fun sss j hsss => gives_kind_bind fun _ _ _ => gives_pure ⟨j, laid_flatten hT hsss.1 hopens⟩

end

/-! ## All depths -/

/-- The grammar that accepts nothing lays out everything that it reads. -/
lemma lays_empty : Grammar.empty.Lays where
  expression _ := gives_fail
  disjunction _ := gives_fail
  bitOr _ := gives_fail
  factor _ := gives_fail
  primary _ := gives_fail
  pattern _ _ := gives_fail
  block _ _ := gives_fail

/-- Statements of every depth of nesting are laid out. -/
lemma lays_ofDepth (n : ℕ) : (ofDepth n).Lays := by
  induction n with
  | zero => exact lays_empty
  | succ n ih =>
    exact {
      expression := fun hT => gives_expressionRule ih.toNests hT _
      disjunction := fun hT => gives_disjunctionRule ih.toNests hT _
      bitOr := fun hT => gives_bitOrRule ih.toNests hT _
      factor := fun hT => gives_factorRule ih.toNests hT _
      primary := fun hT => gives_primaryRule ih.toNests hT _
      pattern := fun i hT => gives_patternRule ih.toNests hT (fun i => ih.pattern i hT) i
      block := fun i hT => gives_blockRule ih hT i }

end Grammar

/-- The statements of a text stand one after another among its tokens, and all in them lies where
it belongs. -/
theorem laid_parse {names : Text.CharacterNames} {cs : List Char} (h : parse names cs = .ok ss) :
    ∃ j, Laid (lex cs).tokens 0 ss j := by
  have hT := (placed_lexFrom ⟨1, 0⟩ (readable cs)).toInOrder
  obtain ⟨_, hlaid⟩ := (Grammar.gives_fileRule (Grammar.lays_ofDepth _) hT).of_run h
  exact hlaid

end BlockText.Source

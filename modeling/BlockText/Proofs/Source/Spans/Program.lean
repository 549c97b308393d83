import BlockText.Proofs.Source.Spans.Placing

/-!
# Spans of a program

A statement starts no later than its first decorator and no earlier than the line of code on which
its header begins; the lines without code before it are shown in front of it, and begin behind the
last line with code.  So each part that is read lies in the span of what it belongs to, down to the
whole program: spans lie in spans, and the tokens of a node among those of its parent.
-/

namespace BlockText.Source

open Datum Reading Rule Syntax Text

variable {t : SourceText} {T : Array Token} {o o' s₀ : Span} {r : Range} {p : Pattern} {s : Stmt}
  {b : Branch} {m : Manuscript}

namespace Manuscript

variable (m) {α : Type} {P : α → Prop}

/-! ## Patterns -/

/-- A pattern is nested in a span around its own. -/
lemma nested_pattern (p : Pattern) (hwithin : m.text.Within o (m.text.spanOf p.range))
    (hliteral : ∀ e r, p = .literal e r → r = e.range ∧ e.Everywhere Expr.Fits) :
    Yields (m.pattern p) fun p' => p.IsShown ∧ Nested m.text o p'.toDatum := by
  have hnode : ∀ {info : Info} {e : Syntax.Expr}, IsAt m.text info (m.text.spanOf p.range) →
      Nested m.text (m.text.spanOf p.range) e.toDatum →
      Nested m.text o (Syntax.Pattern.literal e info).toDatum := by
    intro info e hi he
    rw [Pattern.toDatum]
    exact .node rfl rfl hi hwithin (NestedAll.cons he .nil)
  unfold pattern
  refine m.yields_infoAt_bind fun info hi => ?_
  split
  · refine yields_pure ⟨nofun, ?_⟩
    rw [Pattern.toDatum]
    exact .node rfl rfl hi hwithin NestedAll.nil
  · refine yields_pure ⟨nofun, ?_⟩
    rw [Pattern.toDatum]
    exact .node rfl rfl hi hwithin (NestedAll.cons (.blank rfl) .nil)
  · refine m.yields_infoAt_bind fun inner hinner => ?_
    split
    · exact yields_pure ⟨nofun, hnode hi (nested_literal rfl rfl hinner hwithin.self)⟩
    · refine yields_pure ⟨nofun, hnode hi (nested_literal ?_ rfl hinner hwithin.self)⟩
      split <;> rfl
  · next op e r r' =>
    obtain ⟨hr, -⟩ := hliteral _ _ rfl
    obtain rfl : r' = r := hr
    refine m.yields_infoAt_bind fun inner hinner => ?_
    exact yields_pure ⟨nofun, hnode hi (nested_literal rfl rfl hinner hwithin.self)⟩
  · next e r _ =>
    obtain ⟨rfl, he⟩ := hliteral _ _ rfl
    exact (m.nested_expr e ⟨hwithin.self, he⟩).bind fun e' he' =>
      yields_pure ⟨nofun, hnode hi he'⟩
  · exact m.yields_unsupported

/-! ## Lines without code -/

/-- A comment changes no span. -/
lemma yields_claimComment {info : Info} {s₀ : Span} (hi : IsAt m.text info s₀) (line : ℕ)
    (after : Option ℕ) :
    Yields (m.claimComment info line after) fun info' => IsAt m.text info' s₀ := by
  unfold claimComment
  have hany : ∀ {β : Type} {x : Reading β}, Yields x fun _ => True := fun _ _ _ _ => trivial
  refine hany.bind fun s _ => ?_
  split
  · exact yields_pure hi
  · extract_lets cs isApart
    split
    · exact yields_pure hi
    · exact hany.bind fun _ _ => yields_pure ⟨hi.span, hi.tokens⟩

/-- What follows is shown for every information with the span of the statement. -/
lemma yields_stmtInfo_bind {f : Info → Reading α}
    (hf : ∀ info, IsAt m.text info (m.stmtSpan s) → Yields (f info) P) :
    Yields (m.stmtInfo s >>= f) P := by
  have hinfo : Yields (m.stmtInfo s) fun info => IsAt m.text info (m.stmtSpan s) := by
    unfold stmtInfo
    refine m.yields_infoFor_bind fun info hi => ?_
    split
    · dsimp only
      split
      · exact m.yields_claimComment hi _ _
      · exact yields_pure hi
    · split
      · exact m.yields_claimComment hi _ _
      · exact m.yields_claimComment hi _ _
  exact hinfo.bind hf

/-- A line without code lies in a span that starts no later and stops no earlier. -/
lemma nested_gap {line : ℕ} (hline : 1 ≤ line) (hstart : o.start.place ≤ toLex (line, 0))
    (hstop : ∀ column ≤ (m.text.line line).length, toLex (line, column) ≤ o.stop.place) :
    Yields (m.gap line) fun s' => Nested m.text o s'.toDatum := by
  have hlength : (withoutBreaks (m.text.line line)).length ≤ (m.text.line line).length := by
    rw [withoutBreaks, List.length_reverse, ← @List.length_reverse _ (m.text.line line)]
    exact List.length_dropWhile_le _ _
  have hwithin : m.text.Within o ⟨m.text.position line 0,
      m.text.position line (withoutBreaks (m.text.line line)).length⟩ := by
    refine ⟨?_, ?_, ?_, SourceText.lies_position hline (Nat.zero_le _),
      SourceText.lies_position hline hlength⟩
    · rwa [SourceText.position_place]
    · rw [SourceText.position_place, SourceText.position_place]
      exact Prod.Lex.toLex_le_toLex.mpr (.inr ⟨rfl, Nat.zero_le _⟩)
    · rw [SourceText.position_place]
      exact hstop _ hlength
  have hempty : ∀ {info : Info} {s₀ : Span}, IsAt m.text info s₀ → m.text.Within o s₀ →
      Nested m.text o (Syntax.Stmt.empty .source info).toDatum := by
    intro info s₀ hi hs₀
    rw [Stmt.toDatum]
    exact .node rfl rfl hi hs₀ (NestedAll.cons (.blank rfl) .nil)
  unfold gap
  extract_lets text
  refine m.yields_infoFor_bind fun info hi => ?_
  split
  · exact yields_pure (hempty hi hwithin)
  · have hany : ∀ {β : Type} {x : Reading β}, Yields x fun _ => True := fun _ _ _ _ => trivial
    exact hany.bind fun _ _ => yields_pure (hempty (IsAt.mk hi.span hi.tokens) hwithin)

/-- The empty statements between two lines are nested in a span around these lines. -/
lemma nested_gaps {first stop : ℕ} (hgaps : ∀ line, first ≤ line → line < stop → 1 ≤ line ∧
      o.start.place ≤ toLex (line, 0) ∧
      ∀ column ≤ (m.text.line line).length, toLex (line, column) ≤ o.stop.place) :
    Yields (m.gaps first stop) fun ss => NestedAll m.text o (stmtData ss) := by
  have hall : Yields (m.gaps first stop) fun ss => ∀ s ∈ ss, Nested m.text o s.toDatum := by
    refine .mapM fun line hline => ?_
    obtain ⟨hfirst, hlast⟩ := List.mem_range'_1.mp hline
    obtain ⟨hpos, hstart, hstop⟩ := hgaps line hfirst (by omega)
    exact m.nested_gap hpos hstart hstop
  refine hall.mono fun ss hss => ?_
  rw [stmtData_eq_map]
  exact List.forall_mem_map.mpr hss

/-- The empty statements in front of a statement are nested in the span in which it lies. -/
lemma nested_gapsBefore (hs : s.LiesIn m T o) :
    Yields (m.gapsBefore s) fun ss => NestedAll m.text o (stmtData ss) := by
  refine m.nested_gaps fun line hfirst hlast => ⟨by omega, hs.gaps line hfirst hlast, ?_⟩
  intro column _
  have hbefore : toLex (line, column) ≤ (m.startOf s).place :=
    (Prod.Lex.toLex_lt_toLex.mpr (.inl hlast)).le
  exact hbefore.trans (hs.within.forward.trans hs.within.le_stop)

/-! ## Statements -/

/-- No statements are nested in every span. -/
lemma nestedAll_stmtData_nil : NestedAll m.text o (stmtData []) := by
  rw [stmtData]
  exact .nil

/-- A statement in front of others is nested with them. -/
lemma nestedAll_stmtData_cons {s' : Syntax.Stmt} {ss : List Syntax.Stmt}
    (h : Nested m.text o s'.toDatum) (h' : NestedAll m.text o (stmtData ss)) :
    NestedAll m.text o (stmtData (s' :: ss)) := by
  rw [stmtData]
  exact .cons h h'

/-- Statements behind others are nested with them. -/
lemma nestedAll_stmtData_append {ss ss' : List Syntax.Stmt}
    (h : NestedAll m.text o (stmtData ss)) (h' : NestedAll m.text o (stmtData ss')) :
    NestedAll m.text o (stmtData (ss ++ ss')) := by
  rw [stmtData_eq_map] at h h' ⊢
  rw [List.map_append]
  exact h.append h'

/-- A body is nested where its statements are. -/
lemma nested_suiteDatum {ss : List Syntax.Stmt} {level : ℤ}
    (h : NestedAll m.text o (stmtData ss)) : Nested m.text o (suiteDatum ss level) := by
  rw [suiteDatum]
  exact .suite h

/-- A body that is there is nested where its statements are. -/
lemma nested_optionalSuite {ss : List Syntax.Stmt} {level : ℤ}
    (h : NestedAll m.text o (stmtData ss)) :
    Nested m.text o (optionalSuite (some ⟨ss, level⟩)) := by
  rw [optionalSuite]
  exact m.nested_suiteDatum h

/-- A body that is not there is nested in every span. -/
lemma nested_optionalSuite_none : Nested m.text o (optionalSuite none) := by
  rw [optionalSuite]
  exact .blank rfl

/-- Imported names are nested in the span in which they lie. -/
lemma nested_aliases (names : List Alias) (h : ∀ a ∈ names, a.part.LiesIn m.text o) :
    Yields (m.aliases names) fun ns => NestedAll m.text o (ns.map ImportName.toDatum) := by
  induction names with
  | nil =>
    rw [aliases]
    exact yields_pure .nil
  | cons a rest ih =>
    obtain ⟨ha, hrest⟩ := List.forall_mem_cons.mp h
    rw [aliases]
    split
    · exact yields_throw
    · refine m.yields_infoAt_bind fun info hi => (ih hrest).bind fun others hothers =>
        yields_pure ?_
      have hname : (Datum.ofText? a.asName).nodesIn = [] := by cases a.asName <;> rfl
      exact .cons (.node rfl rfl hi ha.within (NestedAll.cons (.blank rfl) (.cons (.blank hname)
        .nil))) hothers

/-- The contexts of a statement are nested in the span in which they lie. -/
lemma nested_contexts (items : List Context) (h : ∀ c ∈ items, c.part.LiesIn m.text o) :
    Yields (m.contexts items) fun ws => NestedAll m.text o (ws.map WithItem.toDatum) := by
  induction items with
  | nil =>
    rw [contexts]
    exact yields_pure .nil
  | cons item rest ih =>
    obtain ⟨hitem, hrest⟩ := List.forall_mem_cons.mp h
    have hcons : ∀ (r : Range) (e : Expr) (name : Datum), m.text.Within o (m.text.spanOf r) →
        e.LiesIn m.text (m.text.spanOf r) → name.nodesIn = [] → Yields (do
          let info ← m.infoAt r
          let value ← m.expr e
          return (⟨value, name, info⟩ : WithItem) :: (← m.contexts rest)) fun ws =>
          NestedAll m.text o (ws.map WithItem.toDatum) := by
      intro r e name hwithin he hname
      refine m.yields_infoAt_bind fun info hi => (m.nested_expr e he).bind
        fun value hvalue => (ih hrest).bind fun others hothers => yields_pure ?_
      exact .cons (.node rfl rfl hi hwithin (NestedAll.cons hvalue (.cons (.blank hname) .nil)))
        hothers
    have hvalue := hitem.operands item.value (by simp [Context.part])
    rw [contexts.eq_def]
    split
    · exact yields_pure .nil
    · rename_i heq
      cases heq
      exact hcons _ _ _ hitem.within hvalue rfl
    · rename_i heq
      cases heq
      exact hcons _ _ _ hitem.within hvalue rfl
    · exact m.yields_unsupported

variable {m}

mutual

/-- What is read of a statement is nested in every span in which the statement lies. -/
theorem nested_stmt (h : m.text.Shows T) (depth : ℤ) : (s : Stmt) → {o : Span} → s.LiesIn m T o →
    Yields (m.stmt depth s) fun s' => Nested m.text o s'.toDatum
  | .ifStmt t b e r, o, hs => by
    rw [stmt]
    have htest := hs.operands h t (by simp [Stmt.operands])
    have hfirst := hs.inside h List.mem_cons_self
    have hrest := hs.inside h (List.mem_cons_of_mem _ List.mem_cons_self)
    refine m.yields_stmtInfo_bind fun info hi => (m.nested_expr t htest).bind fun test htest =>
      (nested_suite h _ b hfirst).bind fun body hbody => (nested_elseParts h depth e hrest).bind
      fun others hothers => yields_pure ?_
    rw [Stmt.toDatum]
    exact .node rfl rfl hi hs.within (NestedAll.cons htest (.cons (m.nested_suiteDatum hbody)
      (.cons (.list hothers.1) (.cons hothers.2 .nil))))
  | .whileStmt t b e r, o, hs => by
    rw [stmt]
    have htest := hs.operands h t (by simp [Stmt.operands])
    have hfirst := hs.inside h List.mem_cons_self
    have hrest := hs.inside h (List.mem_cons_of_mem _ List.mem_cons_self)
    refine m.yields_stmtInfo_bind fun info hi => (m.nested_expr t htest).bind fun test htest =>
      (nested_suite h _ b hfirst).bind fun body hbody => (nested_maybeSuite h _ e hrest).bind
      fun orelse horelse => yields_pure ?_
    rw [Stmt.toDatum]
    exact .node rfl rfl hi hs.within (NestedAll.cons htest (.cons (m.nested_suiteDatum hbody)
      (.cons horelse .nil)))
  | .forStmt t i b e isAsync r, o, hs => by
    rw [stmt]
    have htarget := hs.operands h t (by simp [Stmt.operands])
    have hiter := hs.operands h i (by simp [Stmt.operands])
    have hfirst := hs.inside h List.mem_cons_self
    have hrest := hs.inside h (List.mem_cons_of_mem _ List.mem_cons_self)
    refine m.yields_stmtInfo_bind fun info hi => (m.nested_expr t htarget).bind
      fun target htarget => (m.nested_expr i hiter).bind fun iter hiter =>
      (nested_suite h _ b hfirst).bind fun body hbody => (nested_maybeSuite h _ e hrest).bind
      fun orelse horelse => yields_pure ?_
    rw [Stmt.toDatum]
    exact .node rfl rfl hi hs.within (NestedAll.cons htarget (.cons hiter
      (.cons (m.nested_suiteDatum hbody) (.cons horelse (.cons (.blank rfl) .nil)))))
  | .withStmt items b isAsync r, o, hs => by
    rw [stmt]
    have hitems := hs.parts h
    simp only [Stmt.parts, List.forall_mem_map] at hitems
    have hfirst := hs.inside h List.mem_cons_self
    refine m.yields_stmtInfo_bind fun info hi => (m.nested_contexts items hitems).bind
      fun list hlist => (nested_suite h _ b hfirst).bind fun body hbody => yields_pure ?_
    rw [Stmt.toDatum]
    exact .node rfl rfl hi hs.within (NestedAll.cons (.list hlist)
      (.cons (m.nested_suiteDatum hbody) (.cons (.blank rfl) .nil)))
  | .matchStmt e cs r, o, hs => by
    rw [stmt]
    have hvalue := hs.operands h e (by simp [Stmt.operands])
    have hcases : ∀ c ∈ cs, c.pattern.IsShown → c.LiesIn m T (m.stmtSpan (.matchStmt e cs r)) :=
      fun c hc hshown => hs.case h hc hshown
    refine m.yields_stmtInfo_bind fun info hi => (m.nested_expr e hvalue).bind
      fun value hvalue => (nested_cases h depth cs hcases).bind fun list hlist => yields_pure ?_
    rw [Stmt.toDatum]
    exact .node rfl rfl hi hs.within (NestedAll.cons hvalue (.cons (.list hlist) .nil))
  | .functionDef name a b ds ret isAsync r, o, hs => by
    rw [stmt]
    have hoperands := hs.operands h
    have hparts := hs.parts h
    have hfirst := hs.inside h List.mem_cons_self
    simp only [Stmt.operands, List.forall_mem_append] at hoperands
    refine m.yields_stmtInfo_bind fun info hi => (m.nested_exprs ds hoperands.1).bind
      fun decorators hds => (m.nested_params hparts).bind fun ps hps =>
      (m.nested_maybe ret hoperands.2).bind fun returns hreturns =>
      (nested_suite h _ b hfirst).bind fun body hbody => yields_pure ?_
    rw [Stmt.toDatum]
    exact .node rfl rfl hi hs.within (NestedAll.cons (.blank rfl) (.cons (.list hps)
      (.cons (m.nested_suiteDatum hbody) (.cons (.list hds) (.cons hreturns (.cons (.blank rfl)
        .nil))))))
  | .classDef name bs ks b ds r, o, hs => by
    rw [stmt]
    have hoperands := hs.operands h
    have hfirst := hs.inside h List.mem_cons_self
    simp only [Stmt.operands, List.forall_mem_append] at hoperands
    refine m.yields_stmtInfo_bind fun info hi => ?_
    cases ks with
    | cons k rest => exact m.yields_unsupported
    | nil =>
      refine (m.nested_exprs ds hoperands.1).bind fun decorators hds =>
        (m.nested_exprs bs hoperands.2).bind fun bases hbases =>
        (nested_suite h _ b hfirst).bind fun body hbody => yields_pure ?_
      rw [Stmt.toDatum]
      exact .node rfl rfl hi hs.within (NestedAll.cons (.blank rfl) (.cons (.list hbases)
        (.cons (m.nested_suiteDatum hbody) (.cons (.list hds) .nil))))
  | .tryStmt b hs' e f isStar r, o, hs => by
    rw [stmt]
    have hparts := hs.parts h
    simp only [Stmt.parts, List.forall_mem_map] at hparts
    have hhandlers : ∀ c ∈ hs', c.part.LiesIn m.text (m.stmtSpan (.tryStmt b hs' e f isStar r)) ∧
        ∀ s ∈ c.body, s.LiesIn m T (m.text.spanOf c.range) := fun c hc =>
      ⟨hparts c hc, hs.body h (b := ⟨c.range.start, c.range.stop, c.body⟩)
        (List.mem_append_right _ (List.mem_map_of_mem hc)) ⟨le_rfl, le_rfl⟩⟩
    have hfirst := hs.inside h List.mem_cons_self
    have hrest := hs.inside h (List.mem_cons_of_mem _ List.mem_cons_self)
    have hlast := hs.inside h
      (List.mem_cons_of_mem _ (List.mem_cons_of_mem _ List.mem_cons_self))
    split
    · exact m.yields_unsupported
    · refine m.yields_stmtInfo_bind fun info hi => (nested_suite h _ b hfirst).bind
        fun body hbody => (nested_handlers h depth hs' hhandlers).bind fun list hlist =>
        (nested_maybeSuite h _ e hrest).bind fun orelse horelse =>
        (nested_maybeSuite h _ f hlast).bind fun final hfinal => yields_pure ?_
      rw [Stmt.toDatum]
      exact .node rfl rfl hi hs.within (NestedAll.cons (m.nested_suiteDatum hbody)
        (.cons (.list hlist) (.cons horelse (.cons hfinal .nil))))
  | .assign ts e r, o, hs => by
    rw [stmt]
    have hoperands := hs.operands h
    simp only [Stmt.operands, List.forall_mem_append, List.forall_mem_singleton] at hoperands
    refine m.yields_stmtInfo_bind fun info hi => (m.nested_exprs ts hoperands.1).bind
      fun targets htargets => (m.nested_expr e hoperands.2).bind fun value hvalue =>
      yields_pure ?_
    rw [Stmt.toDatum]
    exact .node rfl rfl hi hs.within (NestedAll.cons (.list htargets) (.cons hvalue .nil))
  | .annAssign t a e r, o, hs => by
    rw [stmt]
    obtain ⟨ht, hmore⟩ := List.forall_mem_cons.mp (hs.operands h)
    obtain ⟨ha, he⟩ := List.forall_mem_cons.mp hmore
    refine m.yields_stmtInfo_bind fun info hi => (m.nested_expr t ht).bind fun target htarget =>
      (m.nested_expr a ha).bind fun hint hhint => (m.nested_maybe e he).bind
      fun value hvalue => yields_pure ?_
    rw [Stmt.toDatum]
    exact .node rfl rfl hi hs.within (NestedAll.cons htarget (.cons hhint (.cons hvalue .nil)))
  | .augAssign t op e r, o, hs => by
    rw [stmt]
    have ht := hs.operands h t (by simp [Stmt.operands])
    have he := hs.operands h e (by simp [Stmt.operands])
    refine m.yields_stmtInfo_bind fun info hi => (m.nested_expr t ht).bind fun target htarget =>
      (m.nested_expr e he).bind fun value hvalue => yields_pure ?_
    rw [Stmt.toDatum]
    exact .node rfl rfl hi hs.within (NestedAll.cons htarget (.cons (.blank rfl) (.cons hvalue
      .nil)))
  | .exprStmt e r, o, hs => by
    rw [stmt]
    have he := hs.operands h e (by simp [Stmt.operands])
    refine m.yields_stmtInfo_bind fun info hi => (m.nested_expr e he).bind fun value hvalue =>
      yields_pure ?_
    rw [Stmt.toDatum]
    exact .node rfl rfl hi hs.within (NestedAll.cons hvalue .nil)
  | .passStmt r, o, hs | .breakStmt r, o, hs | .continueStmt r, o, hs => by
    rw [stmt]
    refine m.yields_stmtInfo_bind fun info hi => yields_pure ?_
    rw [Stmt.toDatum]
    exact .node rfl rfl hi hs.within NestedAll.nil
  | .returnStmt e r, o, hs => by
    rw [stmt]
    refine m.yields_stmtInfo_bind fun info hi => (m.nested_maybe e (hs.operands h)).bind
      fun value hvalue => yields_pure ?_
    rw [Stmt.toDatum]
    exact .node rfl rfl hi hs.within (NestedAll.cons hvalue .nil)
  | .importStmt names r, o, hs | .fromStmt module names r, o, hs => by
    rw [stmt]
    have hnames := hs.parts h
    simp only [Stmt.parts, List.forall_mem_map] at hnames
    refine m.yields_stmtInfo_bind fun info hi => (m.nested_aliases names hnames).bind
      fun list hlist => yields_pure ?_
    rw [Stmt.toDatum]
    exact .node rfl rfl hi hs.within (NestedAll.cons (.blank rfl) (.cons (.list hlist)
      (.cons (.blank rfl) .nil)))
  | .assertStmt t e r, o, hs => by
    rw [stmt]
    obtain ⟨ht, he⟩ := List.forall_mem_cons.mp (hs.operands h)
    refine m.yields_stmtInfo_bind fun info hi => (m.nested_expr t ht).bind fun test htest =>
      (m.nested_maybe e he).bind fun msg hmsg => yields_pure ?_
    rw [Stmt.toDatum]
    exact .node rfl rfl hi hs.within (NestedAll.cons htest (.cons hmsg .nil))
  | .raiseStmt e c r, o, hs => by
    rw [stmt]
    have hoperands := hs.operands h
    simp only [Stmt.operands, List.forall_mem_append] at hoperands
    refine m.yields_stmtInfo_bind fun info hi => (m.nested_maybe e hoperands.1).bind
      fun exception hexception => (m.nested_maybe c hoperands.2).bind fun cause hcause =>
      yields_pure ?_
    rw [Stmt.toDatum]
    exact .node rfl rfl hi hs.within (NestedAll.cons hexception (.cons hcause .nil))
  | .deleteStmt ts r, o, hs => by
    rw [stmt]
    refine m.yields_stmtInfo_bind fun info hi => (m.nested_exprs ts (hs.operands h)).bind
      fun targets htargets => yields_pure ?_
    rw [Stmt.toDatum]
    exact .node rfl rfl hi hs.within (NestedAll.cons (.list htargets) .nil)
  | .globalStmt names r, o, hs | .nonlocalStmt names r, o, hs => by
    rw [stmt]
    refine m.yields_stmtInfo_bind fun info hi => yields_pure ?_
    have hnames : NestedAll m.text (m.stmtSpan (.globalStmt names r)) (names.map Datum.text) := by
      intro d hd
      obtain ⟨name, -, rfl⟩ := List.mem_map.mp hd
      exact .blank rfl
    rw [Stmt.toDatum]
    exact .node rfl rfl hi hs.within (NestedAll.cons (.list hnames) .nil)

/-- The statements of a body are nested in the span in which they lie. -/
theorem nested_suite (h : m.text.Shows T) (depth : ℤ) : (ss : List Stmt) → {o : Span} →
    (∀ s ∈ ss, s.LiesIn m T o) →
      Yields (m.suite depth ss) fun ss' => NestedAll m.text o (stmtData ss')
  | [], o, _ => by
    rw [suite]
    exact yields_pure m.nestedAll_stmtData_nil
  | s :: rest, o, hss => by
    rw [suite]
    obtain ⟨hs, hrest⟩ := List.forall_mem_cons.mp hss
    refine (m.nested_gapsBefore hs).bind fun before hbefore => (nested_stmt h depth s hs).bind
      fun first hfirst => (nested_suite h depth rest hrest).bind fun others hothers =>
      yields_pure ?_
    exact m.nestedAll_stmtData_append hbefore (m.nestedAll_stmtData_cons hfirst hothers)

/-- A body that may be there is nested in the span in which it lies. -/
theorem nested_maybeSuite (h : m.text.Shows T) (depth : ℤ) : (ss : List Stmt) → {o : Span} →
    (∀ s ∈ ss, s.LiesIn m T o) →
    Yields (m.maybeSuite depth ss) fun body => Nested m.text o (optionalSuite body)
  | [], o, _ => by
    rw [maybeSuite]
    exact yields_pure m.nested_optionalSuite_none
  | s :: rest, o, hss => by
    rw [maybeSuite]
    obtain ⟨hs, hrest⟩ := List.forall_mem_cons.mp hss
    refine (m.nested_gapsBefore hs).bind fun before hbefore => (nested_stmt h depth s hs).bind
      fun first hfirst => (nested_suite h depth rest hrest).bind fun others hothers =>
      yields_pure ?_
    exact m.nested_optionalSuite (m.nestedAll_stmtData_append hbefore
      (m.nestedAll_stmtData_cons hfirst hothers))

/-- Further conditions and a last body are nested in the span in which they lie. -/
theorem nested_elseParts (h : m.text.Shows T) (depth : ℤ) : (ss : List Stmt) → {o : Span} →
    (∀ s ∈ ss, s.LiesIn m T o) → Yields (m.elseParts depth ss) fun parts =>
      NestedAll m.text o (elifData parts.1) ∧ Nested m.text o (optionalSuite parts.2)
  | [], o, _ => by
    rw [elseParts]
    refine yields_pure ⟨?_, m.nested_optionalSuite_none⟩
    rw [elifData]
    exact .nil
  | s :: rest, o, hss => by
    obtain ⟨hs, hrest⟩ := List.forall_mem_cons.mp hss
    have hnone : NestedAll m.text o (elifData []) := by
      rw [elifData]
      exact .nil
    have hbody : Yields (do
        let before ← m.gapsBefore s
        let first ← m.stmt (depth + 1) s
        let others ← m.suite (depth + 1) rest
        return (([], some ⟨before ++ first :: others, depth + 1⟩) :
          List (ElifClause Syntax.Stmt) × Option (Suite Syntax.Stmt)))
        fun parts => NestedAll m.text o (elifData parts.1) ∧
          Nested m.text o (optionalSuite parts.2) := by
      refine (m.nested_gapsBefore hs).bind fun before hbefore => (nested_stmt h _ s hs).bind
        fun first hfirst => (nested_suite h _ rest hrest).bind fun others hothers =>
        yields_pure ⟨hnone, ?_⟩
      exact m.nested_optionalSuite (m.nestedAll_stmtData_append hbefore
        (m.nestedAll_stmtData_cons hfirst hothers))
    cases rest with
    | cons s' rest' =>
      rw [elseParts]
      · exact hbody
      · exact nofun
    | nil =>
      cases s with
      | ifStmt t b e r =>
        have htest := hs.operands h t (by simp [Stmt.operands])
        have hfirst := hs.inside h List.mem_cons_self
        rw [elseParts]
        split
        · have hmore : ∀ c ∈ e, c.LiesIn m T o := hs.body h (b := ⟨r.start, r.stop, e⟩)
            (by simp [Stmt.branches]) ⟨hs.within.start_le, hs.within.le_stop⟩
          refine m.yields_infoAt_bind fun info hi => (m.nested_expr t htest).bind
            fun test htest => (nested_suite h _ b hfirst).bind fun body hbody =>
            (nested_elseParts h depth e hmore).bind fun others hothers =>
            yields_pure ⟨?_, hothers.2⟩
          rw [elifData]
          exact .cons (.node rfl rfl hi hs.within (NestedAll.cons htest
            (.cons (m.nested_suiteDatum hbody) .nil))) hothers.1
        · have hmore := hs.inside h (List.mem_cons_of_mem _ List.mem_cons_self)
          refine (m.nested_gapsBefore hs).bind fun before hbefore =>
            m.yields_stmtInfo_bind fun info hi => (m.nested_expr t htest).bind
            fun test htest => (nested_suite h _ b hfirst).bind fun body hbody =>
            (nested_elseParts h _ e hmore).bind fun others hothers => yields_pure ⟨hnone, ?_⟩
          have hinner : Nested m.text o
              (Syntax.Stmt.ifStmt test ⟨body, depth + 2⟩ others.1 others.2 info).toDatum := by
            rw [Stmt.toDatum]
            exact .node rfl rfl hi hs.within (NestedAll.cons htest
              (.cons (m.nested_suiteDatum hbody) (.cons (.list hothers.1) (.cons hothers.2 .nil))))
          exact m.nested_optionalSuite (m.nestedAll_stmtData_append hbefore
            (m.nestedAll_stmtData_cons hinner m.nestedAll_stmtData_nil))
      | _ =>
        rw [elseParts]
        · exact hbody
        · exact nofun

/-- Cases are nested in the span in which they lie. -/
theorem nested_cases (h : m.text.Shows T) (depth : ℤ) : (cs : List (Case Stmt)) → {o : Span} →
    (∀ c ∈ cs, c.pattern.IsShown → c.LiesIn m T o) →
    Yields (m.cases depth cs) fun cs' => NestedAll m.text o (caseData cs')
  | [], o, _ => by
    rw [cases]
    refine yields_pure ?_
    rw [caseData]
    exact .nil
  | ⟨p, some e, b⟩ :: rest, o, _ => by
    rw [cases]
    exact m.yields_unsupported
  | ⟨p, none, b⟩ :: rest, o, hcs => by
    rw [cases]
    obtain ⟨hc, hrest⟩ := List.forall_mem_cons.mp hcs
    by_cases hshown : p.IsShown
    · have hc := hc hshown
      refine m.yields_infoFor_bind fun info hi => (m.nested_pattern p hc.pattern hc.literal).bind
        fun shape hshape => (nested_suite h _ b hc.body).bind fun body hbody =>
        (nested_cases h depth rest hrest).bind fun others hothers => yields_pure ?_
      rw [caseData]
      exact .cons (.node rfl rfl hi hc.within (NestedAll.cons hshape.2
        (.cons (m.nested_suiteDatum hbody) .nil))) hothers
    · obtain ⟨form, r, rfl⟩ : ∃ form r, p = .other form r := by
        unfold Pattern.IsShown at hshown
        push Not at hshown
        exact hshown
      have hother : Yields (m.pattern (.other form r)) fun _ => False := by
        unfold pattern
        exact m.yields_infoAt_bind fun _ _ => m.yields_unsupported
      exact m.yields_infoFor_bind fun _ _ => hother.bind fun _ hfalse => hfalse.elim

/-- Handlers are nested in the span in which they lie. -/
theorem nested_handlers (h : m.text.Shows T) (depth : ℤ) : (hs : List (Catch Stmt)) → {o : Span} →
    (∀ c ∈ hs, c.part.LiesIn m.text o ∧ ∀ s ∈ c.body, s.LiesIn m T (m.text.spanOf c.range)) →
    Yields (m.handlers depth hs) fun hs' => NestedAll m.text o (handlerData hs')
  | [], o, _ => by
    rw [handlers]
    refine yields_pure ?_
    rw [handlerData]
    exact .nil
  | ⟨t, name, b, r⟩ :: rest, o, hhs => by
    rw [handlers]
    obtain ⟨⟨hpart, hbody⟩, hrest⟩ := List.forall_mem_cons.mp hhs
    refine m.yields_infoAt_bind fun info hi => (m.nested_maybe t hpart.operands).bind
      fun type htype => (nested_suite h _ b hbody).bind fun body hbody =>
      (nested_handlers h depth rest hrest).bind fun others hothers => yields_pure ?_
    have hname : (Datum.ofText? name).nodesIn = [] := by cases name <;> rfl
    rw [handlerData]
    exact .cons (.node rfl rfl hi hpart.within (NestedAll.cons htype (.cons (.blank hname)
      (.cons (m.nested_suiteDatum hbody) .nil)))) hothers

end

/-! ## Programs -/

/-- A statement on the top level lies in the whole text. -/
lemma liesIn_wholeSpan (h : m.text.Shows T) {i j : ℕ} (hs : s.Among T i j) (hf : s.FieldsInside) :
    s.LiesIn m T m.text.wholeSpan := by
  obtain ⟨k, l, -, -, hs⟩ := hs
  have hfits := hs.nested.fits
  have hforward := hfits.head_le.trans hfits.forward
  have hstart : 1 ≤ s.head.line := by
    obtain ⟨on, c, rest, hdivides, -⟩ := h.exists_divides_startAt hs.isCode
    exact hdivides.line_le.1.trans (line_le_of_place_le hs.head_le)
  have hstop : s.range.stop.line ≤ m.text.lines.length := by
    obtain ⟨on, rest, hdivides⟩ :=
      h.exists_divides_stopBefore (h.placed.toInOrder.startAt_lt_stopBefore hs.isCode hs.lt)
    exact (line_le_of_place_le hs.stop_le).trans hdivides.line_le.2
  have hpos : 1 ≤ s.range.stop.line := hstart.trans (line_le_of_place_le hforward)
  have hfirst : ∀ line column, 1 ≤ line → m.text.wholeSpan.start.place ≤ toLex (line, column) := by
    intro line column hline
    rw [m.text.wholeSpan_start]
    rcases Nat.eq_or_lt_of_le hline with rfl | hlt
    · exact Prod.Lex.toLex_le_toLex.mpr (.inr ⟨rfl, Nat.zero_le _⟩)
    · exact Prod.Lex.toLex_le_toLex.mpr (.inl hlt)
  have hlast : (m.text.positionAt s.range.stop).place ≤ m.text.wholeSpan.stop.place := by
    rw [SourceText.positionAt, SourceText.position_place]
    exact SourceText.le_wholeSpan_stop hpos hstop SourceText.columnAt_le
  refine ⟨⟨hfirst _ _ (m.startOf_line s ▸ hstart), ?_, hlast, m.lies_startOf hstart,
    SourceText.lies_positionAt hpos⟩, fun line hcode _ => hfirst line 0 (by omega), hs.nested, hf⟩
  exact (h.startOf_le hs.nested).trans (m.text.positionAt_place_mono hforward)

/-- A program is nested in the span of the whole text. -/
lemma nested_program (h : m.text.Shows T) (indentWidth : ℤ) {ss : List Stmt}
    (hss : ∀ s ∈ ss, s.LiesIn m T m.text.wholeSpan) :
    Yields (m.program indentWidth ss) fun p =>
      Nested m.text m.text.wholeSpan p.toDatum ∧ p.toDatum.nodesIn = [p.toDatum] := by
  have hwhole := SourceText.within_wholeSpan h.lines_eq
  unfold program
  refine m.yields_infoFor_bind fun info hi => (nested_suite h 0 ss hss).bind fun body hbody => ?_
  have hgaps : Yields (m.gaps (m.text.outline.lastLine + 1) (m.text.lines.length + 1)) fun ss =>
      NestedAll m.text m.text.wholeSpan (stmtData ss) := by
    refine m.nested_gaps fun line hfirst hlast => ⟨by omega, ?_, fun column hcolumn =>
      SourceText.le_wholeSpan_stop (by omega) (by omega) hcolumn⟩
    rw [m.text.wholeSpan_start]
    rcases Nat.eq_or_lt_of_le (show 1 ≤ line by omega) with rfl | hlt
    · exact le_rfl
    · exact Prod.Lex.toLex_le_toLex.mpr (.inl hlt)
  refine hgaps.bind fun after hafter => yields_pure ⟨?_, ?_⟩
  · have hsuite : Nested m.text m.text.wholeSpan (Suite.toDatum ⟨body ++ after, 0⟩) := by
      rw [Suite.toDatum]
      exact m.nested_suiteDatum (m.nestedAll_stmtData_append hbody hafter)
    rw [Program.toDatum]
    exact .node rfl rfl hi hwhole (NestedAll.cons hsuite (.cons (.blank rfl) (.cons (.blank rfl)
      (.cons (.blank rfl) .nil))))
  · rw [Program.toDatum]
    exact nodesIn_record rfl rfl

end Manuscript

end BlockText.Source

namespace BlockText.Syntax

open Datum Source

/-- Whichever characters have names, where carriage returns are paired and the fields of formatted
strings lie in them, the span of every node of a program that is read lies inside that of the node
to which it belongs, and so do its tokens. -/
theorem spans_nest_ofSource {source : String} {indentWidth : ℤ} {names : Text.CharacterNames}
    {p : Program}
    (hpaired : returnsPaired source.toList = true)
    (hfields : ∀ ss, parse names source.toList = .ok ss → ∀ s ∈ ss, s.FieldsInside)
    (h : Program.ofSource source indentWidth names = .ok p) :
    p.toDatum.spanViolations = [] ∧ ∀ parent ∈ p.toDatum.nodes, ∀ child ∈ parent.children,
      parent.spanOffsets?.isSome = true → child.spanOffsets?.isSome = true →
        ∃ outer inner, parent.tokenRange? = some outer ∧ child.tokenRange? = some inner ∧
          outer.1 ≤ inner.1 ∧ inner.2 ≤ outer.2 := by
  obtain ⟨ss, outline, s', hparse, houtline, hrun⟩ := exists_run_of_ofSource h
  obtain ⟨j, hlaid⟩ := laid_parse hparse
  let m : Manuscript := ⟨⟨source, Text.linesKeepingFeeds source.toList, outline⟩,
    physicalLines source.toList⟩
  have hshows : m.text.Shows (lex source.toList).tokens :=
    ⟨rfl, hpaired, placed_lexFrom ⟨1, 0⟩ (readable source.toList), houtline⟩
  have hss : ∀ s ∈ ss, s.LiesIn m (lex source.toList).tokens m.text.wholeSpan := fun s hs =>
    Manuscript.liesIn_wholeSpan hshows (hlaid.among s hs) (hfields ss hparse s hs)
  obtain ⟨hnested, hroot⟩ := Manuscript.nested_program hshows indentWidth hss {} p s' hrun
  have hholds : ∀ n ∈ p.toDatum.nodes, n.HoldsChildren := by
    intro n hn
    rw [nodes, ← hroot] at hn
    obtain ⟨around, hstands⟩ := hnested.exists_stands n hn
    exact hstands.holdsChildren hshows.lines_eq
  refine ⟨spanViolations_eq_nil fun n hn => (hholds n hn).offsets, ?_⟩
  exact fun n hn => (hholds n hn).tokens

/-- A decorated function with a bare star among its parameters and a comment above its body, in
which a case returns a formatted string with a character that is escaped by its name. -/
def nestingSource : String :=
  "@d\ndef f(a, *, b=2):\n    # c\n    match a:\n" ++
    "        case 1:\n            return f'\x7ba\x7d\\N\x7bBULLET\x7d'\n"

/-- The spans of a decorated function with a body of several statements nest. -/
theorem spans_nest_nestingSource :
    ∃ p, Program.ofSource nestingSource 4 bulletName = .ok p ∧
      returnsPaired nestingSource.toList = true ∧
      (∀ ss, parse bulletName nestingSource.toList = .ok ss → ∀ s ∈ ss, s.FieldsInside) ∧
      p.toDatum.spanViolations = [] ∧ ∀ parent ∈ p.toDatum.nodes, ∀ child ∈ parent.children,
        parent.spanOffsets?.isSome = true → child.spanOffsets?.isSome = true →
          ∃ outer inner, parent.tokenRange? = some outer ∧ child.tokenRange? = some inner ∧
            outer.1 ≤ inner.1 ∧ inner.2 ≤ outer.2 := by
  have hpaired : returnsPaired nestingSource.toList = true := by decide +kernel
  have hcomputed : ((parse bulletName nestingSource.toList).toOption.all fun ss =>
      ss.all (Stmt.fieldsInsideTo 9)) = true := by decide +kernel
  have hfields : ∀ ss, parse bulletName nestingSource.toList = .ok ss →
      ∀ s ∈ ss, s.FieldsInside := by
    intro ss hss s hs
    rw [hss] at hcomputed
    exact Stmt.fieldsInside_of_fieldsInsideTo (List.all_eq_true.mp hcomputed s hs)
  have hread : (Program.ofSource nestingSource 4 bulletName).toOption.isSome = true := by
    decide +kernel
  cases hp : Program.ofSource nestingSource 4 bulletName with
  | error e =>
    rw [hp] at hread
    cases hread
  | ok p => exact ⟨p, rfl, hpaired, hfields, spans_nest_ofSource hpaired hfields hp⟩

end BlockText.Syntax

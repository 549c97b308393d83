import BlockText.Proofs.Source.Identities
import BlockText.Proofs.Source.Spans.Basic
import BlockText.Proofs.Source.Places

/-!
# Spans of expressions that are read

The span of an expression is that of its range, and the stretches that are put together by hand lie
between the ranges of their first and their last part.  So where ranges lie in ranges, what is read
is nested: spans lie in spans, and a node without a span has no nodes in it.
-/

namespace BlockText.Source

open Datum Syntax

/-! ## Results of reading -/

namespace Reading

variable {α β : Type} {x : Reading α} {P : α → Prop}

/-- If reading succeeds, the result has a property. -/
def Yields (x : Reading α) (P : α → Prop) : Prop := ∀ s a s', x.run s = .ok (a, s') → P a

/-- A value that is there already is yielded. -/
lemma yields_pure {a : α} (h : P a) : Yields (pure a) P := by
  rintro s _ _ ⟨⟩
  exact h

/-- An error yields everything, for no value comes with it. -/
lemma yields_throw {e : ParseError} : Yields (throw e : Reading α) P := nofun

/-- What the second of two readings yields follows from what the first one does. -/
lemma Yields.bind {Q : β → Prop} {y : Reading β} {f : β → Reading α} (h : Yields y Q)
    (hf : ∀ b, Q b → Yields (f b) P) : Yields (y >>= f) P := by
  intro s a s' hrun
  obtain ⟨b, s₁, hy, hrest⟩ := exists_run_of_bind hrun
  exact hf b (h s b s₁ hy) s₁ a s' hrest

/-- What is yielded may be weakened. -/
lemma Yields.mono {Q : α → Prop} (h : Yields x P) (himp : ∀ a, P a → Q a) : Yields x Q :=
  fun s a s' hrun => himp a (h s a s' hrun)

/-- The results for the members of a list are what each of them yields. -/
lemma Yields.mapM {f : β → Reading α} {bs : List β} (h : ∀ b ∈ bs, Yields (f b) P) :
    Yields (bs.mapM f) fun as => ∀ a ∈ as, P a := by
  induction bs with
  | nil => exact yields_pure nofun
  | cons b rest ih =>
    obtain ⟨hb, hrest⟩ := List.forall_mem_cons.mp h
    rw [List.mapM_cons]
    exact hb.bind fun a ha => (ih hrest).bind fun as has =>
      yields_pure (List.forall_mem_cons.mpr ⟨ha, has⟩)

end Reading

end BlockText.Source

namespace BlockText.Datum

open Source Syntax

variable {t : SourceText} {o s : Span} {d : Datum} {ds ds' : List Datum}

/-! ## Rules of nested data -/

/-- All data are nested in a span. -/
def NestedAll (t : SourceText) (o : Span) (ds : List Datum) : Prop := ∀ d ∈ ds, Nested t o d

/-- No data are nested in every span. -/
lemma NestedAll.nil : NestedAll t o [] := nofun

/-- One datum and others are nested if both are. -/
lemma NestedAll.cons (h : Nested t o d) (h' : NestedAll t o ds) : NestedAll t o (d :: ds) :=
  List.forall_mem_cons.mpr ⟨h, h'⟩

/-- Data behind others are nested if both are. -/
lemma NestedAll.append (h : NestedAll t o ds) (h' : NestedAll t o ds') :
    NestedAll t o (ds ++ ds') :=
  List.forall_mem_append.mpr ⟨h, h'⟩

/-- A name is nested in a span around its own. -/
lemma nested_identifier {name : Datum} {i : Info} (hname : name.nodesIn = []) (hi : IsAt t i s)
    (hs : t.Within o s) : Nested t o (Expr.identifier name i).toDatum := by
  rw [Expr.toDatum]
  exact .node rfl rfl hi hs (NestedAll.cons (.blank hname) .nil)

/-- A literal is nested in a span around its own. -/
lemma nested_literal {kind : LiteralKind} {raw value : Datum} {i : Info} (hraw : raw.nodesIn = [])
    (hvalue : value.nodesIn = []) (hi : IsAt t i s) (hs : t.Within o s) :
    Nested t o (Expr.literal kind raw value i).toDatum := by
  rw [Expr.toDatum]
  exact .node rfl rfl hi hs (NestedAll.cons (.blank rfl) (.cons (.blank hraw) (.cons (.blank hvalue)
    .nil)))

end BlockText.Datum

namespace BlockText.Source

open Datum Reading Syntax

/-! ## Ranges in spans -/

variable {t : SourceText} {o : Span} {r r' : Range} {e : Expr} {p : Part}

/-- Ranges inside ranges have spans inside spans. -/
lemma SourceText.within_spanOf (h : r.Holds r') (hr : 1 ≤ r.start.line) :
    t.Within (t.spanOf r) (t.spanOf r') := by
  have hstart := hr.trans (line_le_of_place_le h.start_le)
  exact ⟨t.positionAt_place_mono h.start_le, t.positionAt_place_mono h.forward,
    t.positionAt_place_mono h.le_stop, t.lies_positionAt hstart,
    t.lies_positionAt (hstart.trans (line_le_of_place_le h.forward))⟩

/-- A position is on the line of its mark. -/
lemma SourceText.positionAt_line (t : SourceText) (m : Mark) : (t.positionAt m).line = m.line := by
  unfold positionAt position
  split <;> rfl

/-- A range inside another has its span inside the span of the other. -/
lemma SourceText.Within.inside (h : t.Within o (t.spanOf r)) (hr : r.Holds r') :
    t.Within (t.spanOf r) (t.spanOf r') :=
  within_spanOf hr (t.positionAt_line r.start ▸ h.lies_start.line_pos)

/-- The span of the expression lies inside a span, and everything in the expression inside it. -/
structure Expr.LiesIn (t : SourceText) (o : Span) (e : Expr) : Prop where
  within : t.Within o (t.spanOf e.range)
  fits : e.Everywhere Expr.Fits

/-- The span of the part lies inside a span, and its expressions inside it. -/
structure Part.LiesIn (t : SourceText) (o : Span) (p : Part) : Prop where
  within : t.Within o (t.spanOf p.range)
  operands : ∀ c ∈ p.operands, c.LiesIn t (t.spanOf p.range)

namespace Expr.LiesIn

/-- What is below an expression that lies in a span fits everywhere. -/
lemma children (h : e.LiesIn t o) : ∀ c ∈ e.children, c.Everywhere Expr.Fits := by
  cases h.fits with
  | intro _ inside => exact inside

/-- An expression that lies in a span fits at its root. -/
lemma here (h : e.LiesIn t o) : e.Fits := by
  cases h.fits with
  | intro here _ => exact here

/-- The operands of an expression that lies in a span lie in its own span. -/
lemma operands (h : e.LiesIn t o) : ∀ c ∈ e.operands, c.LiesIn t (t.spanOf e.range) := fun c hc =>
  ⟨h.within.inside (h.here.operands c hc), h.children c (List.mem_append_left _ hc)⟩

/-- The parts of an expression that lies in a span lie in its own span. -/
lemma parts (h : e.LiesIn t o) : ∀ p ∈ e.parts, p.LiesIn t (t.spanOf e.range) := by
  intro p hp
  obtain ⟨hrange, hoperands⟩ := h.here.parts p hp
  have hwithin := h.within.inside hrange
  refine ⟨hwithin, fun c hc => ⟨hwithin.inside (hoperands c hc), h.children c ?_⟩⟩
  exact List.mem_append_right _ (List.mem_flatMap.mpr ⟨p, hp, hc⟩)

end Expr.LiesIn

namespace Manuscript

variable (m : Manuscript) {α : Type} {P : α → Prop}

/-- What follows is shown for every information with the span. -/
lemma yields_infoFor_bind {s : Span} {f : Info → Reading α}
    (hf : ∀ info, IsAt m.text info s → Yields (f info) P) :
    Yields (m.infoFor (some s) >>= f) P := by
  have hinfo : Yields (m.infoFor (some s)) fun info => IsAt m.text info s := by
    rintro _ _ _ ⟨⟩
    exact ⟨rfl, rfl⟩
  exact hinfo.bind hf

/-- What follows is shown for every information with the span of the range. -/
lemma yields_infoAt_bind {f : Info → Reading α}
    (hf : ∀ info, IsAt m.text info (m.text.spanOf r) → Yields (f info) P) :
    Yields (m.infoAt r >>= f) P := m.yields_infoFor_bind hf

/-- A construct without blocks yields everything, for it is an error. -/
lemma yields_unsupported {what : String} : Yields (m.unsupported r what : Reading α) P :=
  yields_throw

/-! ## Expressions -/

/-- A constant is nested in a span around its own. -/
lemma nested_constant (c : Constant) {info : Info} {s : Span} (hi : IsAt m.text info s)
    (hs : m.text.Within o s) :
    Yields (m.constant c r info) fun e => Nested m.text o e.toDatum := by
  have hliteral : ∀ (kind : LiteralKind) (raw value : Datum), raw.nodesIn = [] →
      value.nodesIn = [] → Yields (pure (Syntax.Expr.literal kind raw value info)) fun e =>
        Nested m.text o e.toDatum := fun kind raw value hraw hvalue =>
    yields_pure (nested_literal hraw hvalue hi hs)
  unfold constant
  extract_lets raw
  cases c with
  | none => exact hliteral _ _ _ rfl rfl
  | bool b => exact hliteral _ _ _ rfl rfl
  | number => exact hliteral _ _ _ rfl rfl
  | string value =>
    refine hliteral _ _ _ ?_ (nodesIn_ofPoints value)
    split
    · exact nodesIn_ofPoints _
    · rfl
  | bytes => exact hliteral _ _ _ rfl rfl
  | ellipsis => exact m.yields_unsupported

/-- A parameter is nested if its annotation and its default are nested in its own span. -/
lemma nested_param {p : Param Syntax.Expr} {s : Span} (hname : p.name.nodesIn = [])
    (hi : IsAt m.text p.info s) (hs : m.text.Within o s)
    (hhint : Nested m.text s (optionalDatum p.hint))
    (hpreset : Nested m.text s (optionalDatum p.preset)) : Nested m.text o p.toDatum :=
  .node rfl rfl hi hs (NestedAll.cons (.blank hname) (.cons hhint (.cons hpreset (.cons (.blank rfl)
    .nil))))

/-- A parameter in front of others is nested with them. -/
lemma nestedAll_paramData_cons {p : Param Syntax.Expr} {ps : List (Param Syntax.Expr)}
    (h : Nested m.text o p.toDatum) (h' : NestedAll m.text o (paramData ps)) :
    NestedAll m.text o (paramData (p :: ps)) := by
  rw [paramData_eq_map] at h' ⊢
  exact .cons h h'

/-- No parameters are nested in every span. -/
lemma nestedAll_paramData_nil : NestedAll m.text o (paramData []) := by
  rw [paramData]
  exact .nil

/-- Parameters behind others are nested with them. -/
lemma nestedAll_paramData_append {ps ps' : List (Param Syntax.Expr)}
    (h : NestedAll m.text o (paramData ps)) (h' : NestedAll m.text o (paramData ps')) :
    NestedAll m.text o (paramData (ps ++ ps')) := by
  rw [paramData_eq_map] at h h' ⊢
  rw [List.map_append]
  exact h.append h'

mutual

/-- Where ranges lie in ranges, what is read of an expression is nested. -/
theorem nested_expr : (e : Expr) → {o : Span} → e.LiesIn m.text o →
    Yields (m.expr e) fun e' => Nested m.text o e'.toDatum
  | .name id r, o, h => by
    rw [expr]
    exact m.yields_infoAt_bind fun info hi => yields_pure (nested_identifier rfl hi h.within)
  | .constant c r, o, h => by
    rw [expr]
    exact m.yields_infoAt_bind fun info hi => m.nested_constant c hi h.within
  | .binary l op e r, o, h => by
    rw [expr]
    have hoperands := h.operands
    refine m.yields_infoAt_bind fun info hi =>
      (nested_expr l (hoperands l (by simp [Expr.operands]))).bind fun left hl =>
      (nested_expr e (hoperands e (by simp [Expr.operands]))).bind fun right hr => yields_pure ?_
    rw [Expr.toDatum]
    exact .node rfl rfl hi h.within (NestedAll.cons hl (.cons (.blank rfl) (.cons hr .nil)))
  | .unary op e r, o, h => by
    rw [expr]
    refine m.yields_infoAt_bind fun info hi =>
      (nested_expr e (h.operands e (by simp [Expr.operands]))).bind fun operand ho => yields_pure ?_
    rw [Expr.toDatum]
    exact .node rfl rfl hi h.within (NestedAll.cons (.blank rfl) (.cons ho .nil))
  | .boolOp op es r, o, h => by
    rw [expr]
    refine m.yields_infoAt_bind fun info hi =>
      (nested_exprs es h.operands).bind fun values hvalues => yields_pure ?_
    rw [Expr.toDatum]
    exact .node rfl rfl hi h.within (NestedAll.cons (.blank rfl) (.cons (.list hvalues) .nil))
  | .compare l ops es r, o, h => by
    rw [expr]
    obtain ⟨hl, hes⟩ := List.forall_mem_cons.mp h.operands
    refine m.yields_infoAt_bind fun info hi => (nested_expr l hl).bind fun left hl =>
      (nested_exprs es hes).bind fun others hothers => yields_pure ?_
    have hops : NestedAll m.text (m.text.spanOf r) (ops.map spelled) := by
      intro d hd
      obtain ⟨op, -, rfl⟩ := List.mem_map.mp hd
      exact .blank rfl
    rw [Expr.toDatum]
    exact .node rfl rfl hi h.within (NestedAll.cons hl (.cons (.list hops) (.cons (.list hothers)
      .nil)))
  | .lambda ⟨positional, plain, variadic, named, mapping⟩ e r, o, h => by
    rw [expr]
    have hbody := h.operands e (by simp [Expr.operands])
    refine m.yields_infoAt_bind fun info hi => ?_
    cases positional with
    | cons a rest => exact m.yields_unsupported
    | nil =>
      have hparts := h.parts
      simp only [Expr.parts, Arguments.parts, List.nil_append, List.forall_mem_append,
        List.forall_mem_map] at hparts
      obtain ⟨⟨⟨hplain, hvariadic⟩, hnamed⟩, hmapping⟩ := hparts
      refine (nested_presets plain hplain).bind fun first hfirst =>
        (nested_starParam variadic _ hvariadic).bind fun second hsecond =>
        (nested_presets named hnamed).bind fun third hthird =>
        (nested_mappingParam mapping hmapping).bind fun fourth hfourth =>
        (nested_expr e hbody).bind fun body hbody => yields_pure ?_
      have hparams := m.nestedAll_paramData_append (m.nestedAll_paramData_append
        (m.nestedAll_paramData_append hfirst hsecond) hthird) hfourth
      rw [Expr.toDatum]
      exact .node rfl rfl hi h.within (NestedAll.cons (.list hparams) (.cons hbody .nil))
  | .conditional t b e r, o, h => by
    rw [expr]
    have hoperands := h.operands
    refine m.yields_infoAt_bind fun info hi =>
      (nested_expr t (hoperands t (by simp [Expr.operands]))).bind fun test htest =>
      (nested_expr b (hoperands b (by simp [Expr.operands]))).bind fun body hbody =>
      (nested_expr e (hoperands e (by simp [Expr.operands]))).bind fun orelse horelse =>
      yields_pure ?_
    rw [Expr.toDatum]
    exact .node rfl rfl hi h.within (NestedAll.cons htest (.cons hbody (.cons horelse .nil)))
  | .call f args ks r, o, h => by
    rw [expr]
    obtain ⟨hf, hargs⟩ := List.forall_mem_cons.mp h.operands
    have hks := h.parts
    simp only [Expr.parts, List.forall_mem_map] at hks
    refine m.yields_infoAt_bind fun info hi => (nested_expr f hf).bind fun func hfunc =>
      (nested_callArgs args hargs).bind fun list hlist => (nested_keywordArgs ks hks).bind
      fun keywords hkeywords => yields_pure ?_
    rw [Expr.toDatum]
    exact .node rfl rfl hi h.within (NestedAll.cons hfunc (.cons (.list hlist)
      (.cons (.list hkeywords) .nil)))
  | .tuple es r, o, h | .list es r, o, h | .set es r, o, h => by
    rw [expr]
    refine m.yields_infoAt_bind fun info hi =>
      (nested_exprs es h.operands).bind fun items hitems => yields_pure ?_
    rw [Expr.toDatum]
    exact .node rfl rfl hi h.within (NestedAll.cons (.list hitems) .nil)
  | .dict es r, o, h => by
    rw [expr]
    have hes := h.parts
    simp only [Expr.parts, List.forall_mem_map] at hes
    refine m.yields_infoAt_bind fun info hi => (nested_entries es hes).bind fun items hitems =>
      yields_pure ?_
    rw [Expr.toDatum]
    exact .node rfl rfl hi h.within (NestedAll.cons (.list hitems) .nil)
  | .attribute e attr r, o, h => by
    rw [expr]
    refine m.yields_infoAt_bind fun info hi =>
      (nested_expr e (h.operands e (by simp [Expr.operands]))).bind fun value hvalue =>
      yields_pure ?_
    rw [Expr.toDatum]
    exact .node rfl rfl hi h.within (NestedAll.cons hvalue (.cons (.blank rfl) .nil))
  | .subscript e i r, o, h => by
    rw [expr]
    have hoperands := h.operands
    refine m.yields_infoAt_bind fun info hi =>
      (nested_expr e (hoperands e (by simp [Expr.operands]))).bind fun value hvalue =>
      (nested_expr i (hoperands i (by simp [Expr.operands]))).bind fun index hindex =>
      yields_pure ?_
    rw [Expr.toDatum]
    exact .node rfl rfl hi h.within (NestedAll.cons hvalue (.cons hindex .nil))
  | .slice l u s r, o, h => by
    rw [expr]
    have hoperands := h.operands
    simp only [Expr.operands, List.forall_mem_append] at hoperands
    obtain ⟨⟨hl, hu⟩, hs⟩ := hoperands
    refine m.yields_infoAt_bind fun info hi => (nested_maybe l hl).bind fun lower hlower =>
      (nested_maybe u hu).bind fun upper hupper => (nested_maybe s hs).bind fun step hstep =>
      yields_pure ?_
    rw [Expr.toDatum]
    exact .node rfl rfl hi h.within (NestedAll.cons hlower (.cons hupper (.cons hstep .nil)))
  | .comprehension kind k e cs r, o, h => by
    rw [expr]
    have hoperands := h.operands
    have hparts := h.parts
    simp only [Expr.operands, List.forall_mem_append, List.forall_mem_singleton] at hoperands
    simp only [Expr.parts, List.forall_mem_map] at hparts
    refine m.yields_infoAt_bind fun info hi => (nested_maybe k hoperands.1).bind fun key hkey =>
      (nested_expr e hoperands.2).bind fun element helement => (nested_clauses cs hparts).bind
      fun list hlist => yields_pure ?_
    rw [Expr.toDatum]
    exact .node rfl rfl hi h.within (NestedAll.cons (.blank rfl) (.cons helement
      (.cons (.list hlist) (.cons hkey .nil))))
  | .formatted ps r, o, h => by
    rw [expr]
    have hps := h.parts
    simp only [Expr.parts, List.forall_mem_map] at hps
    refine m.yields_infoAt_bind fun info hi => (nested_pieces r ps hps).bind fun parts hparts =>
      yields_pure ?_
    rw [Expr.toDatum]
    exact .node rfl rfl hi h.within (NestedAll.cons (.list hparts) (.cons (.blank rfl) .nil))
  | .walrus target e r, o, h => by
    rw [expr]
    refine m.yields_infoAt_bind fun info hi =>
      (nested_expr e (h.operands e (by simp [Expr.operands]))).bind fun value hvalue =>
      yields_pure ?_
    rw [Expr.toDatum]
    exact .node rfl rfl hi h.within (NestedAll.cons (.blank rfl) (.cons hvalue .nil))
  | .yield e r, o, h => by
    rw [expr]
    refine m.yields_infoAt_bind fun info hi => (nested_maybe e h.operands).bind
      fun value hvalue => yields_pure ?_
    rw [Expr.toDatum]
    exact .node rfl rfl hi h.within (NestedAll.cons hvalue .nil)
  | .yieldFrom e r, o, h | .await e r, o, h => by
    rw [expr]
    refine m.yields_infoAt_bind fun info hi =>
      (nested_expr e (h.operands e (by simp [Expr.operands]))).bind fun value hvalue =>
      yields_pure ?_
    rw [Expr.toDatum]
    exact .node rfl rfl hi h.within (NestedAll.cons hvalue .nil)
  | .starred e r, o, h => by
    rw [expr]
    exact m.yields_unsupported

/-- An expression that may be there is nested in the span in which it lies. -/
theorem nested_maybe : (e : Option Expr) → {o : Span} → (∀ c ∈ e.toList, c.LiesIn m.text o) →
    Yields (m.maybe e) fun e' => Nested m.text o (optionalDatum e')
  | none, o, _ => by
    rw [maybe]
    exact yields_pure (.blank rfl)
  | some e, o, h => by
    rw [maybe]
    refine (nested_expr e (h e (by simp))).bind fun e' he => yields_pure ?_
    rwa [optionalDatum]

/-- Expressions are nested in the span in which they lie. -/
theorem nested_exprs : (es : List Expr) → {o : Span} → (∀ c ∈ es, c.LiesIn m.text o) →
    Yields (m.exprs es) fun es' => NestedAll m.text o (exprData es')
  | [], o, _ => by
    rw [exprs]
    exact yields_pure .nil
  | e :: rest, o, h => by
    rw [exprs]
    obtain ⟨he, hrest⟩ := List.forall_mem_cons.mp h
    refine (nested_expr e he).bind fun first hfirst => (nested_exprs rest hrest).bind
      fun others hothers => yields_pure ?_
    rw [exprData]
    exact .cons hfirst hothers

/-- Arguments are nested in the span in which they lie. -/
theorem nested_callArgs : (es : List Expr) → {o : Span} → (∀ c ∈ es, c.LiesIn m.text o) →
    Yields (m.callArgs es) fun es' => NestedAll m.text o (exprData es')
  | [], o, _ => by
    rw [callArgs]
    exact yields_pure .nil
  | e :: rest, o, h => by
    obtain ⟨he, hrest⟩ := List.forall_mem_cons.mp h
    have hcons : Yields (do return (← m.expr e) :: (← m.callArgs rest)) fun es' =>
        NestedAll m.text o (exprData es') := by
      refine (nested_expr e he).bind fun first hfirst => (nested_callArgs rest hrest).bind
        fun others hothers => yields_pure ?_
      rw [exprData]
      exact .cons hfirst hothers
    cases e with
    | starred e r =>
      rw [callArgs]
      exact m.yields_unsupported
    | _ =>
      rw [callArgs]
      · exact hcons
      · exact nofun

/-- Keyword arguments are nested in the span in which they lie. -/
theorem nested_keywordArgs : (ks : List (KeywordArg Expr)) → {o : Span} →
    (∀ k ∈ ks, k.part.LiesIn m.text o) →
    Yields (m.keywordArgs ks) fun ks' => NestedAll m.text o (keywordData ks')
  | [], o, _ => by
    rw [keywordArgs]
    exact yields_pure .nil
  | ⟨name, e, r⟩ :: rest, o, h => by
    rw [keywordArgs]
    obtain ⟨hk, hrest⟩ := List.forall_mem_cons.mp h
    refine m.yields_infoAt_bind fun info hi =>
      (nested_expr e (hk.operands e (by simp [KeywordArg.part]))).bind fun value hvalue =>
      (nested_keywordArgs rest hrest).bind fun others hothers => yields_pure ?_
    have hname : (Datum.ofText? name).nodesIn = [] := by cases name <;> rfl
    rw [keywordData]
    exact .cons (.node rfl rfl hi hk.within (NestedAll.cons (.blank hname) (.cons hvalue .nil)))
      hothers

/-- Entries of a dictionary are nested in the span in which they lie. -/
theorem nested_entries : (es : List (Entry Expr)) → {o : Span} →
    (∀ e ∈ es, e.part.LiesIn m.text o) →
    Yields (m.entries es) fun es' => NestedAll m.text o (entryData es')
  | [], o, _ => by
    rw [entries]
    exact yields_pure .nil
  | ⟨k, e⟩ :: rest, o, h => by
    rw [entries]
    obtain ⟨hentry, hrest⟩ := List.forall_mem_cons.mp h
    have hoperands := hentry.operands
    simp only [Entry.part, List.forall_mem_append, List.forall_mem_singleton] at hoperands
    refine m.yields_infoAt_bind fun info hi => (nested_maybe k hoperands.1).bind fun key hkey =>
      (nested_expr e hoperands.2).bind fun value hvalue => (nested_entries rest hrest).bind
      fun others hothers => yields_pure ?_
    rw [entryData]
    exact .cons (.node rfl rfl hi hentry.within (NestedAll.cons hkey (.cons hvalue .nil))) hothers

/-- Comprehension clauses are nested in the span in which they lie. -/
theorem nested_clauses : (cs : List (ForClause Expr)) → {o : Span} →
    (∀ c ∈ cs, c.part.LiesIn m.text o) →
    Yields (m.clauses cs) fun cs' => NestedAll m.text o (clauseData cs')
  | [], o, _ => by
    rw [clauses]
    exact yields_pure .nil
  | ⟨t, i, cs, isAsync⟩ :: rest, o, h => by
    rw [clauses]
    obtain ⟨hclause, hrest⟩ := List.forall_mem_cons.mp h
    obtain ⟨ht, hmore⟩ := List.forall_mem_cons.mp hclause.operands
    obtain ⟨hi, hcs⟩ := List.forall_mem_cons.mp hmore
    refine m.yields_infoAt_bind fun info hinfo => (nested_expr t ht).bind fun target htarget =>
      (nested_expr i hi).bind fun iter hiter => (nested_exprs cs hcs).bind fun ifs hifs =>
      (nested_clauses rest hrest).bind fun others hothers => yields_pure ?_
    rw [clauseData]
    exact .cons (.node rfl rfl hinfo hclause.within (NestedAll.cons htarget (.cons hiter
      (.cons (.list hifs) (.cons (.blank rfl) .nil))))) hothers

/-- The parts of a formatted string are nested in the span in which they lie. -/
theorem nested_pieces (r : Range) : (ps : List (Piece Expr)) → {o : Span} →
    (∀ p ∈ ps, (⟨r, p.value.toList⟩ : Part).LiesIn m.text o) →
    Yields (m.pieces r ps) fun ps' => NestedAll m.text o (partData ps')
  | [], o, _ => by
    rw [pieces]
    exact yields_pure .nil
  | ⟨text, none, conversion, spec⟩ :: rest, o, h => by
    rw [pieces]
    obtain ⟨hpiece, hrest⟩ := List.forall_mem_cons.mp h
    refine m.yields_infoAt_bind fun info hi => (nested_pieces r rest hrest).bind
      fun others hothers => yields_pure ?_
    rw [partData]
    exact .cons (.node rfl rfl hi hpiece.within (NestedAll.cons (.blank rfl)
      (.cons (.blank (nodesIn_ofPoints text)) (.cons (.blank rfl) (.cons (.blank rfl)
      (.cons (.blank rfl) .nil)))))) hothers
  | ⟨text, some e, conversion, spec⟩ :: rest, o, h => by
    rw [pieces]
    obtain ⟨hpiece, hrest⟩ := List.forall_mem_cons.mp h
    refine m.yields_infoAt_bind fun info hi =>
      (nested_expr e (hpiece.operands e (by simp))).bind fun value hvalue => ?_
    cases spec with
    | nested => exact m.yields_unsupported
    | plain spec =>
      refine (nested_pieces r rest hrest).bind fun others hothers => yields_pure ?_
      rw [partData]
      exact .cons (.node rfl rfl hi hpiece.within (NestedAll.cons (.blank rfl) (.cons (.blank rfl)
        (.cons hvalue (.cons (.blank rfl) (.cons (.blank (nodesIn_ofPoints spec)) .nil)))))) hothers

/-- Parameters with defaults are nested in the span in which they lie. -/
theorem nested_presets : (ps : List (ArgDefault Expr)) → {o : Span} →
    (∀ p ∈ ps, p.part.LiesIn m.text o) →
    Yields (m.presets ps) fun ps' => NestedAll m.text o (paramData ps')
  | [], o, _ => by
    rw [presets]
    exact yields_pure .nil
  | ⟨⟨name, hint, r⟩, p⟩ :: rest, o, h => by
    rw [presets]
    obtain ⟨hparam, hrest⟩ := List.forall_mem_cons.mp h
    have hoperands := hparam.operands
    simp only [ArgDefault.part, List.forall_mem_append] at hoperands
    refine m.yields_infoAt_bind fun info hi => (nested_maybe hint hoperands.1).bind
      fun hint' hhint => (nested_maybe p hoperands.2).bind fun preset hpreset =>
      (nested_presets rest hrest).bind fun others hothers => yields_pure ?_
    exact m.nestedAll_paramData_cons (m.nested_param rfl hi hparam.within hhint hpreset) hothers

/-- The parameter behind a star is nested in the span in which it lies. -/
theorem nested_starParam : (a : Option (Arg Expr)) → (isLast : Bool) → {o : Span} →
    (∀ c ∈ a.toList, c.part.LiesIn m.text o) →
    Yields (m.starParam a isLast) fun ps => NestedAll m.text o (paramData ps)
  | some ⟨name, hint, r⟩, isLast, o, h => by
    rw [starParam]
    have harg := h ⟨name, hint, r⟩ (by simp)
    refine m.yields_infoAt_bind fun info hi => (nested_maybe hint harg.operands).bind
      fun hint' hhint => yields_pure ?_
    exact m.nestedAll_paramData_cons (m.nested_param rfl hi harg.within hhint (.blank rfl))
      m.nestedAll_paramData_nil
  | none, true, o, _ => by
    rw [starParam]
    exact yields_pure m.nestedAll_paramData_nil
  | none, false, o, _ => by
    rw [starParam]
    have hinfo : Yields (m.infoFor none) fun info => info.span = none := by
      rintro _ _ _ ⟨⟩
      rfl
    refine hinfo.bind fun info hi => yields_pure ?_
    have hfields : ∀ d ∈ [Datum.text "", .null, .null, spelled ParamKind.star], d.nodesIn = [] := by
      simp only [List.forall_mem_cons]
      exact ⟨rfl, rfl, rfl, rfl, nofun⟩
    exact m.nestedAll_paramData_cons (.bare rfl rfl hi hfields) m.nestedAll_paramData_nil

/-- The parameter for further keywords is nested in the span in which it lies. -/
theorem nested_mappingParam : (a : Option (Arg Expr)) → {o : Span} →
    (∀ c ∈ a.toList, c.part.LiesIn m.text o) →
    Yields (m.mappingParam a) fun ps => NestedAll m.text o (paramData ps)
  | none, o, _ => by
    rw [mappingParam]
    exact yields_pure m.nestedAll_paramData_nil
  | some ⟨name, hint, r⟩, o, h => by
    rw [mappingParam]
    have harg := h ⟨name, hint, r⟩ (by simp)
    refine m.yields_infoAt_bind fun info hi => (nested_maybe hint harg.operands).bind
      fun hint' hhint => yields_pure ?_
    exact m.nestedAll_paramData_cons (m.nested_param rfl hi harg.within hhint (.blank rfl))
      m.nestedAll_paramData_nil

end

/-- The parameters of a function are nested in the span in which they lie. -/
lemma nested_params {a : Arguments Expr} (h : ∀ p ∈ a.parts, p.LiesIn m.text o) :
    Yields (m.params a) fun ps => NestedAll m.text o (paramData ps) := by
  unfold params
  split
  · exact m.yields_unsupported
  · next hpositional =>
    simp only [Arguments.parts, hpositional, List.nil_append, List.forall_mem_append,
      List.forall_mem_map] at h
    obtain ⟨⟨⟨hplain, hvariadic⟩, hnamed⟩, hmapping⟩ := h
    refine (m.nested_presets _ hplain).bind fun first hfirst =>
      (m.nested_starParam _ _ hvariadic).bind fun second hsecond =>
      (m.nested_presets _ hnamed).bind fun third hthird =>
      (m.nested_mappingParam _ hmapping).bind fun fourth hfourth => yields_pure ?_
    exact m.nestedAll_paramData_append (m.nestedAll_paramData_append
      (m.nestedAll_paramData_append hfirst hsecond) hthird) hfourth

end Manuscript

end BlockText.Source

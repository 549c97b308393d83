import BlockText.Proofs.Datum.Codec
import BlockText.Proofs.Syntax.Likeness
import BlockText.Proofs.Syntax.WellFormed

/-!
# Documents of well-formed programs

The data in a well-formed tree are texts, truth values and nothing.  So its document is structured
and structurally equal to every document with the same core, and two well-formed programs are alike
if their bodies are written as one JSON text and hold no pairs of surrogates.
-/

namespace BlockText.Syntax

open Datum

/-! ## Leaves -/

/-- Documents are structured if each of them is. -/
lemma structuredList_map {α : Type} {document : α → Datum} {as : List α}
    (h : ∀ a ∈ as, (document a).Structured) : StructuredList (as.map document) := by
  rw [structuredList_iff]
  intro d hd
  obtain ⟨a, ha, rfl⟩ := List.mem_map.mp hd
  exact h a ha

/-- A text is structured. -/
lemma IsText.structured {d : Datum} (h : IsText d) : d.Structured := by
  obtain ⟨ps, rfl⟩ := h
  exact structured_ofPoints ps

/-- A name is structured. -/
lemma IsName.structured {d : Datum} (h : IsName d) : d.Structured := by
  obtain ⟨ps, -, rfl⟩ := h
  exact structured_ofPoints ps

/-- An optional name is structured. -/
lemma IsOptionalName.structured {d : Datum} (h : IsOptionalName d) : d.Structured := by
  rcases h with rfl | h
  · exact trivial
  · exact h.structured

/-- A declared name is structured. -/
lemma IsDeclaredName.structured {d : Datum} (h : IsDeclaredName d) : d.Structured := by
  obtain ⟨ps, -, -, -, rfl⟩ := h
  exact structured_ofPoints ps

/-- The text and the value of a literal are structured. -/
lemma IsLiteral.structured {kind : LiteralKind} {raw value : Datum} (h : IsLiteral kind raw value) :
    raw.Structured ∧ value.Structured := by
  cases kind with
  | number =>
    obtain ⟨⟨ps, -, -, rfl⟩, rfl⟩ := h
    exact ⟨structured_ofPoints ps, trivial⟩
  | string => exact ⟨h.1.structured, h.2.structured⟩
  | bool =>
    obtain ⟨v, rfl, rfl⟩ := h
    exact ⟨trivial, trivial⟩
  | none =>
    obtain ⟨rfl, rfl⟩ := h
    exact ⟨trivial, trivial⟩

/-- The spelling of a choice is structured. -/
@[simp] lemma structured_spelled {α : Type} [Choice α] (a : α) : (spelled a).Structured := trivial

/-! ## Trees -/

section Trees

attribute [local simp] Structured StructuredList Tag.fields

/-- Metadata are structured. -/
@[simp] lemma structured_info (i : Info) : i.toDatum.Structured := by
  have htrivia : ∀ ts : List Trivia, StructuredList (ts.map Trivia.toDatum) := fun ts =>
    structuredList_map fun t _ => by simp [Trivia.toDatum]
  have hspan : (optionally Span.toDatum i.span).Structured := by
    cases i.span <;> simp [optionally, Span.toDatum, Position.toDatum]
  have htokens : (optionally TokenRange.toDatum i.tokens).Structured := by
    cases i.tokens <;> simp [optionally, TokenRange.toDatum]
  simp [Info.toDatum, hspan, htokens, htrivia]

/-- An optional expression is structured when the expression is. -/
private lemma structured_optional {o : Option Expr} (h : ∀ e, o = some e → e.toDatum.Structured) :
    (optionalDatum o).Structured := by
  cases o with
  | none => simp [optionalDatum]
  | some e => exact h e rfl

/-- A list of expressions is structured when each of them is. -/
private lemma structured_exprData {es : List Expr} (h : ∀ e ∈ es, e.toDatum.Structured) :
    StructuredList (exprData es) := by
  rw [exprData_eq_map]
  exact structuredList_map h

/-- A parameter is structured when its hint and its preset are. -/
private lemma structured_param {p : Param Expr} (hname : IsText p.name)
    (h : ∀ e ∈ p.hint.toList ++ p.preset.toList, e.toDatum.Structured) : p.toDatum.Structured := by
  have hhint : (optionalDatum p.hint).Structured :=
    structured_optional fun e he => h e (by simp [he])
  have hpreset : (optionalDatum p.preset).Structured :=
    structured_optional fun e he => h e (by simp [he])
  simp [Param.toDatum, hname.structured, hhint, hpreset]

/-- Parameters are structured when their hints and presets are. -/
private lemma structured_params {ps : List (Param Expr)} (hnames : ∀ p ∈ ps, IsText p.name)
    (h : ∀ e ∈ ps.flatMap fun p => p.hint.toList ++ p.preset.toList, e.toDatum.Structured) :
    StructuredList (paramData ps) := by
  rw [paramData_eq_map]
  exact structuredList_map fun p hp =>
    structured_param (hnames p hp) fun e he => h e (List.mem_flatMap.mpr ⟨p, hp, he⟩)

/-- The document of a well-formed expression is structured. -/
theorem Expr.WellFormed.structured {e : Expr} (h : e.WellFormed) : e.toDatum.Structured := by
  induction h with
  | @intro e sane _ ih =>
    cases e with
    | identifier name i => simp [IsName.structured sane]
    | literal kind raw value i => simp [(IsLiteral.structured sane).1, (IsLiteral.structured sane).2]
    | binary l op r i => simp [ih l (by simp [Expr.parts]), ih r (by simp [Expr.parts])]
    | unary op e i => simp [ih e (by simp [Expr.parts])]
    | boolOp op es i =>
      have hes : StructuredList (exprData es) := structured_exprData ih
      simp [hes]
    | compare l ops es i =>
      have hops : StructuredList (ops.map spelled) :=
          structuredList_map fun op _ => structured_spelled op
      have hes := structured_exprData fun e (he : e ∈ es) => ih e (by simp [Expr.parts, he])
      simp [ih l (by simp [Expr.parts]), hops, hes]
    | lambda ps body i =>
      have hps : StructuredList (paramData ps) := structured_params (fun p hp => (sane p hp).1)
        fun e he => ih e (List.mem_cons_of_mem _ he)
      simp [ih body (by simp [Expr.parts]), hps]
    | conditional t b e i =>
      simp [ih t (by simp [Expr.parts]), ih b (by simp [Expr.parts]), ih e (by simp [Expr.parts])]
    | call f args ks i =>
      have hargs := structured_exprData fun e (he : e ∈ args) => ih e (by simp [Expr.parts, he])
      have hks : StructuredList (keywordData ks) := by
        rw [keywordData_eq_map]
        refine structuredList_map fun k hk => ?_
        have hvalue : k.value.toDatum.Structured :=
          ih k.value (List.mem_append_right _ (List.mem_map_of_mem hk))
        simp [Keyword.toDatum, (sane k hk).structured, hvalue]
      simp [ih f (by simp [Expr.parts]), hargs, hks]
    | tuple es i | list es i | set es i =>
      have hes : StructuredList (exprData es) := structured_exprData ih
      simp [hes]
    | dict ds i =>
      have hds : StructuredList (entryData ds) := by
        rw [entryData_eq_map]
        refine structuredList_map fun d hd => ?_
        have hparts : ∀ e ∈ d.key.toList ++ [d.value], e.toDatum.Structured := fun e he =>
          ih e (List.mem_flatMap.mpr ⟨d, hd, he⟩)
        have hkey : (optionalDatum d.key).Structured :=
          structured_optional fun e he => hparts e (by simp [he])
        simp [DictEntry.toDatum, hkey, hparts d.value (by simp)]
      simp [hds]
    | «attribute» e attr i => simp [ih e (by simp [Expr.parts]), IsName.structured sane]
    | subscript e index i => simp [ih e (by simp [Expr.parts]), ih index (by simp [Expr.parts])]
    | slice lower upper step i =>
      have hlower : (optionalDatum lower).Structured :=
        structured_optional fun e he => ih e (by simp [Expr.parts, he])
      have hupper : (optionalDatum upper).Structured :=
        structured_optional fun e he => ih e (by simp [Expr.parts, he])
      have hstep : (optionalDatum step).Structured :=
        structured_optional fun e he => ih e (by simp [Expr.parts, he])
      simp [hlower, hupper, hstep]
    | comprehension kind e cs key i =>
      have hkey : (optionalDatum key).Structured :=
        structured_optional fun e he => ih e (by simp [Expr.parts, he])
      have hcs : StructuredList (clauseData cs) := by
        rw [clauseData_eq_map]
        refine structuredList_map fun c hc => ?_
        have hparts : ∀ part ∈ c.target :: c.iter :: c.ifs, part.toDatum.Structured := fun part hpart =>
          ih part (List.mem_append_right _ (List.mem_flatMap.mpr ⟨c, hc, hpart⟩))
        have hifs := structured_exprData fun e (he : e ∈ c.ifs) => hparts e (by simp [he])
        simp [Clause.toDatum, hparts c.target (by simp), hparts c.iter (by simp), hifs]
      simp [ih e (by simp [Expr.parts]), hkey, hcs]
    | grouped e i => simp [ih e (by simp [Expr.parts])]
    | fstring ps quote i =>
      have hps : StructuredList (partData ps) := by
        rw [partData_eq_map]
        refine structuredList_map fun p hp => ?_
        obtain ⟨htext, hconversion, hspec, -⟩ := sane.2 p hp
        have hexpr : (optionalDatum p.expr).Structured := structured_optional fun e he =>
          ih e (List.mem_flatMap.mpr ⟨p, hp, by simp [he]⟩)
        simp [FormatPart.toDatum, htext.structured, hconversion.structured, hspec.structured, hexpr]
      simp [hps, sane.1.structured]
    | walrus target e i => simp [ih e (by simp [Expr.parts]), IsName.structured sane]
    | yield e i =>
      simp [structured_optional fun e' he' => ih e' (by simpa [Expr.parts] using he')]
    | yieldFrom e i => simp [ih e (by simp [Expr.parts])]
    | await e i => simp [ih e (by simp [Expr.parts])]
    | stray d => exact sane.elim

/-- A sane pattern is structured. -/
private lemma Pattern.Sane.structured {p : Pattern} (h : p.Sane) : p.toDatum.Structured := by
  cases p with
  | wildcard i => simp
  | capture name i => simp [h.1.structured]
  | literal e i =>
    cases e with
    | literal kind raw value i' => simp [(IsLiteral.structured h).1, (IsLiteral.structured h).2]
    | _ => exact h.elim
  | stray d => exact h.elim

/-- The document of a well-formed statement is structured. -/
theorem Stmt.WellFormed.structured {depth : ℤ} {s : Stmt} (h : s.WellFormed depth) :
    s.toDatum.Structured := by
  induction h with
  | @intro depth s sane exprs _ _ ih =>
    have hexprs : ∀ e ∈ s.exprs, e.toDatum.Structured := fun e he => (exprs e he).structured
    have hbody : ∀ k (body : Suite Stmt), (k, body) ∈ s.suites →
        (suiteDatum body.statements body.level).Structured := by
      intro k body hmem
      have hss : StructuredList (stmtData body.statements) := by
        rw [stmtData_eq_map]
        exact structuredList_map (ih _ hmem)
      simp [suiteDatum, hss]
    have hoptional : ∀ k (o : Option (Suite Stmt)), (∀ body ∈ o, (k, body) ∈ s.suites) →
        (optionalSuite o).Structured := by
      intro k o ho
      cases o with
      | none => simp [optionalSuite]
      | some body =>
        rw [optionalSuite]
        exact hbody k body (ho body rfl)
    cases s with
    | ifStmt t body elifs orelse i =>
      obtain ⟨body, level⟩ := body
      have helifs : StructuredList (elifData elifs) := by
        rw [elifData_eq_map]
        refine structuredList_map fun c hc => ?_
        have htest : c.test.toDatum.Structured :=
          hexprs _ (by simpa [Stmt.exprs] using .inr ⟨c, hc, rfl⟩)
        have hsuite := hbody 1 c.body (by simpa [Stmt.suites] using .inr (.inl ⟨c, hc, rfl⟩))
        simp [ElifClause.toDatum, Suite.toDatum, htest, hsuite]
      have helse := hoptional 1 orelse fun body h => by simp [Stmt.suites, Option.mem_def.mp h]
      simp [hexprs t (by simp [Stmt.exprs]), hbody 1 ⟨body, level⟩ (by simp [Stmt.suites]), helifs,
        helse]
    | whileStmt t body orelse i =>
      obtain ⟨body, level⟩ := body
      have helse := hoptional 1 orelse fun body h => by simp [Stmt.suites, Option.mem_def.mp h]
      simp [hexprs t (by simp [Stmt.exprs]), hbody 1 ⟨body, level⟩ (by simp [Stmt.suites]), helse]
    | forStmt target iter body orelse isAsync i =>
      obtain ⟨body, level⟩ := body
      have helse := hoptional 1 orelse fun body h => by simp [Stmt.suites, Option.mem_def.mp h]
      simp [hexprs target (by simp [Stmt.exprs]), hexprs iter (by simp [Stmt.exprs]),
        hbody 1 ⟨body, level⟩ (by simp [Stmt.suites]), helse]
    | matchStmt subject cases i =>
      have hcases : StructuredList (caseData cases) := by
        rw [caseData_eq_map]
        refine structuredList_map fun c hc => ?_
        have hsuite := hbody 2 c.body (by simpa [Stmt.suites] using ⟨c, hc, rfl⟩)
        simp only [MatchCase.toDatum, Suite.toDatum, Structured, StructuredList, structured_info,
          and_true]
        exact ⟨rfl, (sane.2 c hc).structured, hsuite⟩
      simp [hexprs subject (by simp [Stmt.exprs]), hcases]
    | functionDef name ps body decorators returns isAsync i =>
      obtain ⟨body, level⟩ := body
      have hps : StructuredList (paramData ps) := structured_params sane.2 fun e he =>
        hexprs e (List.mem_append_left _ (List.mem_append_left _ he))
      have hds := structured_exprData fun e (he : e ∈ decorators) =>
        hexprs e (List.mem_append_left _ (List.mem_append_right _ he))
      have hreturns : (optionalDatum returns).Structured := structured_optional fun e he =>
        hexprs e (List.mem_append_right _ (by simpa using he))
      simp [sane.1.structured, hps, hds, hreturns, hbody 1 ⟨body, level⟩ (by simp [Stmt.suites])]
    | classDef name bases body decorators i =>
      obtain ⟨body, level⟩ := body
      have hbases := structured_exprData fun e (he : e ∈ bases) =>
        hexprs e (List.mem_append_left _ he)
      have hds := structured_exprData fun e (he : e ∈ decorators) =>
        hexprs e (List.mem_append_right _ he)
      simp [IsName.structured sane, hbases, hds, hbody 1 ⟨body, level⟩ (by simp [Stmt.suites])]
    | assign targets value i =>
      have htargets := structured_exprData fun e (he : e ∈ targets) =>
        hexprs e (List.mem_cons_of_mem _ he)
      simp [hexprs value (by simp [Stmt.exprs]), htargets]
    | annAssign target hint value i =>
      have hvalue : (optionalDatum value).Structured :=
        structured_optional fun e he => hexprs e (by simp [Stmt.exprs, he])
      simp [hexprs target (by simp [Stmt.exprs]), hexprs hint (by simp [Stmt.exprs]), hvalue]
    | augAssign target op value i =>
      simp [hexprs target (by simp [Stmt.exprs]), hexprs value (by simp [Stmt.exprs])]
    | exprStmt e i => simp [hexprs e (by simp [Stmt.exprs])]
    | returnStmt value i =>
      simp [structured_optional fun e he => hexprs e (by simpa [Stmt.exprs] using he)]
    | importStmt module names isFrom i =>
      have hnames : StructuredList (names.map ImportName.toDatum) := structuredList_map fun n hn => by
        simp [ImportName.toDatum, (sane.2 n hn).1.structured, (sane.2 n hn).2.structured]
      simp [sane.1.structured, hnames]
    | tryStmt body handlers orelse final i =>
      obtain ⟨body, level⟩ := body
      have hhandlers : StructuredList (handlerData handlers) := by
        rw [handlerData_eq_map]
        refine structuredList_map fun h hh => ?_
        have htype : (optionalDatum h.type).Structured := structured_optional fun e he =>
          hexprs e (List.mem_flatMap.mpr ⟨h, hh, by simpa using he⟩)
        have hsuite := hbody 1 h.body (by simpa [Stmt.suites] using .inr (.inl ⟨h, hh, rfl⟩))
        simp [Handler.toDatum, Suite.toDatum, (sane h hh).structured, htype, hsuite]
      have helse := hoptional 1 orelse fun body h => by simp [Stmt.suites, Option.mem_def.mp h]
      have hfinal := hoptional 1 final fun body h => by simp [Stmt.suites, Option.mem_def.mp h]
      simp [hbody 1 ⟨body, level⟩ (by simp [Stmt.suites]), hhandlers, helse, hfinal]
    | withStmt items body isAsync i =>
      obtain ⟨body, level⟩ := body
      have hitems : StructuredList (items.map WithItem.toDatum) := structuredList_map fun w hw => by
        have hcontext : w.context.toDatum.Structured :=
          hexprs _ (List.mem_map_of_mem (f := WithItem.context) hw)
        simp [WithItem.toDatum, (sane w hw).structured, hcontext]
      simp [hitems, hbody 1 ⟨body, level⟩ (by simp [Stmt.suites])]
    | assertStmt t msg i =>
      have hmsg : (optionalDatum msg).Structured :=
        structured_optional fun e he => hexprs e (by simp [Stmt.exprs, he])
      simp [hexprs t (by simp [Stmt.exprs]), hmsg]
    | raiseStmt exception cause i =>
      have hexception : (optionalDatum exception).Structured :=
        structured_optional fun e he => hexprs e (by simp [Stmt.exprs, he])
      have hcause : (optionalDatum cause).Structured :=
        structured_optional fun e he => hexprs e (by simp [Stmt.exprs, he])
      simp [hexception, hcause]
    | deleteStmt targets i =>
      have htargets : StructuredList (exprData targets) := structured_exprData hexprs
      simp [htargets]
    | globalStmt names i => simp [structuredList_iff.mpr fun d hd => (sane d hd).structured]
    | nonlocalStmt names i => simp [structuredList_iff.mpr fun d hd => (sane d hd).structured]
    | passStmt i | breakStmt i | continueStmt i => simp
    | empty origin i => simp
    | stray d => exact sane.elim

end Trees

/-! ## Programs -/

/-- The document of the body of a well-formed program is structured. -/
theorem Program.WellFormed.structured_body {p : Program} (hp : p.WellFormed) :
    p.body.toDatum.Structured := by
  have hss : StructuredList (stmtData p.body.statements) := by
    rw [stmtData_eq_map]
    exact structuredList_map fun s hs => (hp.statements s hs).structured
  simp [Suite.toDatum, suiteDatum, Structured, StructuredList, hss, Tag.fields]

/-- No text of the program holds a pair of surrogates, so that its document tells it apart. -/
def Program.Unpaired (p : Program) : Prop := p.body.toDatum.Unpaired

/-- A well-formed program is structurally equal to every program whose body is alike. -/
theorem structurallyEqual_of_alike {p q : Program} (hp : p.WellFormed)
    (h : Suite.Alike p.body q.body) : structurallyEqual p.toDatum q.toDatum = true := by
  have hshape : q.toDatum.shape = p.toDatum.shape := by
    rw [shape_toDatum, shape_toDatum, show p.body.toDatum.core = q.body.toDatum.core from h]
  have hkeyed : p.toDatum.shape.Keyed := by
    have hbody : p.body.toDatum.Keyed := Structured.keyed _ hp.structured_body
    have hcore : p.body.toDatum.core.Keyed := keyed_strip _ (keyed_plain _ hbody)
    rw [shape_toDatum]
    simp [Keyed, KeyedEntries, hcore, tagKey]
  rw [structurallyEqual, hshape]
  exact equiv_self _ hkeyed

/-- Well-formed programs without pairs of surrogates whose bodies have one JSON text have alike
bodies. -/
theorem Program.WellFormed.alike_of_toJson_eq {p q : Program} (hp : p.WellFormed)
    (hq : q.WellFormed) (hppairs : p.Unpaired) (hqpairs : q.Unpaired)
    (h : p.body.toDatum.toJson = q.body.toDatum.toJson) : Suite.Alike p.body q.body :=
  congrArg core (hp.structured_body.eq_of_toJson_eq hq.structured_body hppairs hqpairs h)

end BlockText.Syntax

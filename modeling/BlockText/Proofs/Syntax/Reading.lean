import BlockText.Proofs.Syntax.Documents
import BlockText.Syntax.Reading

/-!
# Documents are read back

A well-formed tree is read off its own document.  So the document of a program says everything about
it, the places in the text included, and two well-formed programs without pairs of surrogates whose
bodies are written as one JSON text have the same body.
-/

namespace BlockText.Syntax

open Datum

/-! ## Leaves -/

/-- Every value of the vocabulary is found by its spelling. -/
class LawfulChoice (α : Type) [Choice α] : Prop where
  ofSpelling?_spelling : ∀ a : α, Choice.ofSpelling? α (Choice.spelling a) = some a

instance : LawfulChoice TriviaKind := ⟨fun a => by cases a <;> rfl⟩
instance : LawfulChoice BinaryOp := ⟨fun a => by cases a <;> rfl⟩
instance : LawfulChoice UnaryOp := ⟨fun a => by cases a <;> rfl⟩
instance : LawfulChoice BoolOp := ⟨fun a => by cases a <;> rfl⟩
instance : LawfulChoice CompareOp := ⟨fun a => by cases a <;> rfl⟩
instance : LawfulChoice LiteralKind := ⟨fun a => by cases a <;> rfl⟩
instance : LawfulChoice ParamKind := ⟨fun a => by cases a <;> rfl⟩
instance : LawfulChoice ComprehensionKind := ⟨fun a => by cases a <;> rfl⟩
instance : LawfulChoice PartKind := ⟨fun a => by cases a <;> rfl⟩
instance : LawfulChoice EmptySource := ⟨fun a => by cases a <;> rfl⟩

/-- A choice is read back from its own spelling. -/
@[simp] lemma choice?_spelled {α : Type} [Choice α] [LawfulChoice α] (a : α) :
    choice? α (spelled a) = some a := LawfulChoice.ofSpelling?_spelling a

@[simp] lemma truth?_bool (b : Bool) : truth? (.bool b) = some b := rfl

/-- A list is read back if each of its items is. -/
lemma mapM_map_eq_some {α : Type} {document : α → Datum} {read : Datum → Option α} {as : List α}
    (h : ∀ a ∈ as, read (document a) = some a) : (as.map document).mapM read = some as := by
  induction as with
  | nil => rfl
  | cons a rest ih =>
    rw [List.map_cons, List.mapM_cons, h a List.mem_cons_self,
      ih fun b hb => h b (List.mem_cons_of_mem a hb)]
    rfl

/-- A list of choices is read back from its spellings. -/
lemma mapM_choice?_spelled {α : Type} [Choice α] [LawfulChoice α] (as : List α) :
    (as.map spelled).mapM (choice? α) = some as :=
  mapM_map_eq_some fun a _ => choice?_spelled a

/-- A position is read back from its record. -/
@[simp] lemma Position.ofDatum?_toDatum (p : Position) : Position.ofDatum? p.toDatum = some p := rfl

/-- A span is read back from its record. -/
@[simp] lemma Span.ofDatum?_toDatum (s : Span) : Span.ofDatum? s.toDatum = some s := rfl

/-- Metadata are read back from their record. -/
@[simp] lemma Info.ofDatum?_toDatum (i : Info) : Info.ofDatum? i.toDatum = some i := by
  have htrivia : ∀ ts : List Trivia,
      listed? Trivia.ofDatum? (.list (ts.map Trivia.toDatum)) = some ts := fun ts =>
    mapM_map_eq_some fun t _ => by simp [Trivia.toDatum, Trivia.ofDatum?]
  have hspan : nullable? Span.ofDatum? (optionally Span.toDatum i.span) = some i.span := by
    cases i.span <;> rfl
  have htokens : nullable? TokenRange.ofDatum? (optionally TokenRange.toDatum i.tokens) =
      some i.tokens := by
    cases i.tokens <;> rfl
  simp [Info.toDatum, Info.ofDatum?, hspan, htokens, htrivia]

/-! ## Expressions -/

/-- The expression is read off its document. -/
def Expr.IsRead (e : Expr) : Prop := Expr.ofDatum e.toDatum = e ∧ e.toDatum ≠ .null

section Expressions

attribute [local simp] Expr.ofDatum Expr.toDatum orStray

/-- An optional expression is read back when the expression is. -/
private lemma optionOf_optionalDatum {o : Option Expr} (h : ∀ e ∈ o.toList, e.IsRead) :
    optionOf (optionalDatum o) = o := by
  cases o with
  | none => rw [optionalDatum, optionOf]
  | some e =>
    obtain ⟨hread, hne⟩ := h e (by simp)
    rw [optionalDatum, optionOf, hread]
    exact hne

/-- A list of expressions is read back when each of them is. -/
private lemma exprsOf_exprData {es : List Expr} (h : ∀ e ∈ es, e.IsRead) :
    exprsOf (exprData es) = es := by
  induction es with
  | nil => rw [exprData, exprsOf]
  | cons e rest ih =>
    rw [exprData, exprsOf, (h e List.mem_cons_self).1,
      ih fun e' he' => h e' (List.mem_cons_of_mem e he')]

/-- Parameters are read back when their hints and presets are. -/
private lemma paramsOf_paramData {ps : List (Param Expr)}
    (h : ∀ e ∈ ps.flatMap fun p => p.hint.toList ++ p.preset.toList, e.IsRead) :
    paramsOf (paramData ps) = some ps := by
  induction ps with
  | nil => rw [paramData, paramsOf]
  | cons p rest ih =>
    simp only [List.flatMap_cons, List.mem_append] at h
    have hhint := optionOf_optionalDatum fun e he => h e (.inl (.inl he))
    have hpreset := optionOf_optionalDatum fun e he => h e (.inl (.inr he))
    have hrest := ih fun e he => h e (.inr (by simpa using he))
    simp [paramData, paramsOf, hhint, hpreset, hrest]

/-- Keyword arguments are read back when their values are. -/
private lemma keywordsOf_keywordData {ks : List (Keyword Expr)}
    (h : ∀ e ∈ ks.map (·.value), e.IsRead) : keywordsOf (keywordData ks) = some ks := by
  induction ks with
  | nil => rw [keywordData, keywordsOf]
  | cons k rest ih =>
    rw [List.map_cons, List.forall_mem_cons] at h
    simp [keywordData, keywordsOf, h.1.1, ih h.2]

/-- The entries of a dictionary are read back when their keys and values are. -/
private lemma entriesOf_entryData {ds : List (DictEntry Expr)}
    (h : ∀ e ∈ ds.flatMap fun d => d.key.toList ++ [d.value], e.IsRead) :
    entriesOf (entryData ds) = some ds := by
  induction ds with
  | nil => rw [entryData, entriesOf]
  | cons d rest ih =>
    simp only [List.flatMap_cons, List.mem_append] at h
    have hkey := optionOf_optionalDatum fun e he => h e (.inl (.inl he))
    have hvalue := (h d.value (.inl (.inr (List.mem_singleton_self _)))).1
    have hrest := ih fun e he => h e (.inr (by simpa using he))
    simp [entryData, entriesOf, hkey, hvalue, hrest]

/-- The clauses of a comprehension are read back when their expressions are. -/
private lemma clausesOf_clauseData {cs : List (Clause Expr)}
    (h : ∀ e ∈ cs.flatMap fun c => c.target :: c.iter :: c.ifs, e.IsRead) :
    clausesOf (clauseData cs) = some cs := by
  induction cs with
  | nil => rw [clauseData, clausesOf]
  | cons c rest ih =>
    simp only [List.flatMap_cons, List.mem_append, List.mem_cons] at h
    have htarget := (h c.target (.inl (.inl rfl))).1
    have hiter := (h c.iter (.inl (.inr (.inl rfl)))).1
    have hifs := exprsOf_exprData fun e he => h e (.inl (.inr (.inr he)))
    have hrest := ih fun e he => h e (.inr (by simpa using he))
    simp [clauseData, clausesOf, htarget, hiter, hifs, hrest]

/-- The parts of a formatted text are read back when their expressions are. -/
private lemma partsOf_partData {ps : List (FormatPart Expr)}
    (h : ∀ e ∈ ps.flatMap fun p => p.expr.toList, e.IsRead) : partsOf (partData ps) = some ps := by
  induction ps with
  | nil => rw [partData, partsOf]
  | cons p rest ih =>
    simp only [List.flatMap_cons, List.mem_append] at h
    have hexpr := optionOf_optionalDatum fun e he => h e (.inl he)
    have hrest := ih fun e he => h e (.inr (by simpa using he))
    simp [partData, partsOf, hexpr, hrest]

/-- An expression is read off its document if its parts are, unless it is a stray one. -/
lemma Expr.isRead_of_parts {e : Expr} (hstray : ∀ d, e ≠ .stray d)
    (ih : ∀ part ∈ e.parts, part.IsRead) : e.IsRead := by
  cases e with
  | stray d => exact absurd rfl (hstray d)
  | identifier name i => exact ⟨by simp, by simp⟩
  | literal kind raw value i => exact ⟨by simp, by simp⟩
  | binary l op r i =>
    simp only [Expr.parts, List.forall_mem_cons] at ih
    exact ⟨by simp [ih.1.1, ih.2.1.1], by simp⟩
  | unary op e i | «attribute» e attr i | grouped e i | walrus target e i | yieldFrom e i
      | await e i =>
    have he := (ih e (List.mem_singleton_self e)).1
    exact ⟨by simp [he], by simp⟩
  | boolOp op es i | tuple es i | list es i | set es i =>
    have hes : exprsOf (exprData es) = es := exprsOf_exprData ih
    exact ⟨by simp [hes], by simp⟩
  | compare l ops es i =>
    simp only [Expr.parts, List.forall_mem_cons] at ih
    have hes := exprsOf_exprData ih.2
    exact ⟨by simp [-List.mapM_map, ih.1.1, hes, mapM_choice?_spelled], by simp⟩
  | lambda ps body i =>
    simp only [Expr.parts, List.forall_mem_cons] at ih
    have hps := paramsOf_paramData ih.2
    exact ⟨by simp [ih.1.1, hps], by simp⟩
  | conditional t b e i =>
    simp only [Expr.parts, List.forall_mem_cons] at ih
    exact ⟨by simp [ih.1.1, ih.2.1.1, ih.2.2.1.1], by simp⟩
  | call f args ks i =>
    simp only [Expr.parts, List.cons_append, List.forall_mem_cons, List.forall_mem_append] at ih
    have hargs := exprsOf_exprData ih.2.1
    have hks := keywordsOf_keywordData ih.2.2
    exact ⟨by simp [ih.1.1, hargs, hks], by simp⟩
  | dict ds i =>
    have hds := entriesOf_entryData ih
    exact ⟨by simp [hds], by simp⟩
  | subscript e index i =>
    simp only [Expr.parts, List.forall_mem_cons] at ih
    exact ⟨by simp [ih.1.1, ih.2.1.1], by simp⟩
  | slice lower upper step i =>
    simp only [Expr.parts, List.forall_mem_append] at ih
    have hlower := optionOf_optionalDatum ih.1.1
    have hupper := optionOf_optionalDatum ih.1.2
    have hstep := optionOf_optionalDatum ih.2
    exact ⟨by simp [hlower, hupper, hstep], by simp⟩
  | comprehension kind e cs key i =>
    simp only [Expr.parts, List.cons_append, List.forall_mem_cons, List.forall_mem_append] at ih
    have hkey := optionOf_optionalDatum ih.2.1
    have hcs := clausesOf_clauseData ih.2.2
    exact ⟨by simp [ih.1.1, hkey, hcs], by simp⟩
  | fstring ps quote i =>
    have hps := partsOf_partData ih
    exact ⟨by simp [hps], by simp⟩
  | yield e i =>
    have he := optionOf_optionalDatum ih
    exact ⟨by simp [he], by simp⟩

/-- A well-formed expression is read off its document. -/
theorem Expr.WellFormed.isRead {e : Expr} (h : e.WellFormed) : e.IsRead := by
  induction h with
  | intro sane _ ih => exact Expr.isRead_of_parts (by rintro d rfl; exact sane) ih

end Expressions

/-! ## Statements -/

/-- The pattern is read off its document. -/
def Pattern.IsRead (p : Pattern) : Prop := Pattern.ofDatum p.toDatum = p

/-- A pattern of a literal is read off its document. -/
lemma Pattern.isRead_literal (kind : LiteralKind) (raw value : Datum) (i' i : Info) :
    (Pattern.literal (.literal kind raw value i') i).IsRead := by
  have hread := (Expr.isRead_of_parts (e := .literal kind raw value i') (by simp)
    (List.forall_mem_nil _)).1
  simp [Pattern.IsRead, Pattern.toDatum, Pattern.ofDatum, -Expr.toDatum, hread]

/-- A well-formed pattern is read off its document. -/
lemma Pattern.Sane.isRead {p : Pattern} (h : p.Sane) : p.IsRead := by
  cases p with
  | wildcard i => simp [IsRead, Pattern.toDatum, Pattern.ofDatum]
  | capture name i => simp [IsRead, Pattern.toDatum, Pattern.ofDatum]
  | literal e i =>
    cases e with
    | literal kind raw value i' => exact isRead_literal kind raw value i' i
    | _ => exact h.elim
  | stray d => exact h.elim

/-- The statement is read off its document. -/
def Stmt.IsRead (s : Stmt) : Prop := Stmt.ofDatum s.toDatum = s

/-- The statements of the suite are read off their documents. -/
def Suite.IsRead (body : Suite Stmt) : Prop := ∀ s ∈ body.statements, s.IsRead

section Statements

attribute [local simp] Stmt.ofDatum Stmt.toDatum Stmt.IsRead orStrayStmt

/-- A list of statements is read back when each of them is. -/
private lemma stmtsOf_stmtData {ss : List Stmt} (h : ∀ s ∈ ss, s.IsRead) :
    stmtsOf (stmtData ss) = ss := by
  induction ss with
  | nil => rw [stmtData, stmtsOf]
  | cons s rest ih =>
    rw [stmtData, stmtsOf, h s List.mem_cons_self,
      ih fun s' hs' => h s' (List.mem_cons_of_mem s hs')]

/-- A suite is read off its document. -/
lemma Suite.IsRead.suiteOf_toDatum {body : Suite Stmt} (h : body.IsRead) :
    suiteOf (suiteDatum body.statements body.level) = some body := by
  rw [suiteDatum, suiteOf, stmtsOf_stmtData h]

/-- An optional suite is read back when the suite is. -/
private lemma optionalSuiteOf_optionalSuite {o : Option (Suite Stmt)}
    (h : ∀ body ∈ o.toList, body.IsRead) : optionalSuiteOf (optionalSuite o) = some o := by
  cases o with
  | none => rw [optionalSuite, optionalSuiteOf]
  | some body =>
    rw [optionalSuite, suiteDatum, optionalSuiteOf, stmtsOf_stmtData (h body (by simp))]

/-- The `elif` clauses are read back when their tests and bodies are. -/
private lemma elifsOf_elifData {elifs : List (ElifClause Stmt)}
    (htests : ∀ c ∈ elifs, c.test.IsRead) (hbodies : ∀ c ∈ elifs, c.body.IsRead) :
    elifsOf (elifData elifs) = some elifs := by
  induction elifs with
  | nil => rw [elifData, elifsOf]
  | cons c rest ih =>
    rw [List.forall_mem_cons] at htests hbodies
    obtain ⟨t, ⟨body, level⟩, i⟩ := c
    simp [elifData, elifsOf, htests.1.1, hbodies.1.suiteOf_toDatum, ih htests.2 hbodies.2]

/-- The cases of a match are read back when their patterns and bodies are. -/
private lemma casesOf_caseData {cases : List (MatchCase Stmt)}
    (hpatterns : ∀ c ∈ cases, c.pattern.IsRead) (hbodies : ∀ c ∈ cases, c.body.IsRead) :
    casesOf (caseData cases) = some cases := by
  induction cases with
  | nil => rw [caseData, casesOf]
  | cons c rest ih =>
    rw [List.forall_mem_cons] at hpatterns hbodies
    have hpattern : Pattern.ofDatum c.pattern.toDatum = c.pattern := hpatterns.1
    rw [caseData_eq_map, List.map_cons, ← caseData_eq_map, MatchCase.toDatum, casesOf, hpattern,
      Suite.toDatum, hbodies.1.suiteOf_toDatum, Info.ofDatum?_toDatum, ih hpatterns.2 hbodies.2]
    rfl

/-- The handlers of a `try` are read back when their types and bodies are. -/
private lemma handlersOf_handlerData {handlers : List (Handler Stmt)}
    (htypes : ∀ h ∈ handlers, ∀ e ∈ h.type.toList, e.IsRead)
    (hbodies : ∀ h ∈ handlers, h.body.IsRead) :
    handlersOf (handlerData handlers) = some handlers := by
  induction handlers with
  | nil => rw [handlerData, handlersOf]
  | cons h rest ih =>
    rw [List.forall_mem_cons] at htypes hbodies
    obtain ⟨type, name, ⟨body, level⟩, i⟩ := h
    simp [handlerData, handlersOf, optionOf_optionalDatum htypes.1, hbodies.1.suiteOf_toDatum,
      ih htypes.2 hbodies.2]

/-- The names of an import are read back. -/
private lemma mapM_importName (names : List ImportName) :
    (names.map ImportName.toDatum).mapM ImportName.ofDatum? = some names :=
  mapM_map_eq_some fun n _ => by simp [ImportName.toDatum, ImportName.ofDatum?]

/-- The items of a `with` are read back when their contexts are. -/
private lemma mapM_withItem {items : List WithItem} (h : ∀ e ∈ items.map (·.context), e.IsRead) :
    (items.map WithItem.toDatum).mapM WithItem.ofDatum? = some items := by
  refine mapM_map_eq_some fun w hw => ?_
  have hcontext := (h w.context (List.mem_map_of_mem hw)).1
  simp [WithItem.toDatum, WithItem.ofDatum?, hcontext]

/-- A statement is read off its document if its parts are, unless it is a stray one. -/
lemma Stmt.isRead_of_parts {s : Stmt} (hstray : ∀ d, s ≠ .stray d)
    (hpatterns : ∀ subject cases i, s = .matchStmt subject cases i →
      ∀ c ∈ cases, c.pattern.IsRead)
    (hexprs : ∀ e ∈ s.exprs, e.IsRead) (hsuites : ∀ body ∈ s.suites, body.2.IsRead) :
    s.IsRead := by
  cases s with
  | ifStmt t body elifs orelse i =>
    obtain ⟨body, level⟩ := body
    simp only [Stmt.exprs, List.forall_mem_cons, List.forall_mem_map] at hexprs
    simp only [Stmt.suites, List.cons_append, List.forall_mem_cons, List.forall_mem_append,
      List.forall_mem_map] at hsuites
    have helifs := elifsOf_elifData hexprs.2 hsuites.2.1
    have helse := optionalSuiteOf_optionalSuite hsuites.2.2
    simp [hexprs.1.1, hsuites.1.suiteOf_toDatum, helifs, helse]
  | whileStmt t body orelse i =>
    obtain ⟨body, level⟩ := body
    simp only [Stmt.exprs, List.forall_mem_cons] at hexprs
    simp only [Stmt.suites, List.forall_mem_cons, List.forall_mem_map] at hsuites
    have helse := optionalSuiteOf_optionalSuite hsuites.2
    simp [hexprs.1.1, hsuites.1.suiteOf_toDatum, helse]
  | forStmt target iter body orelse isAsync i =>
    obtain ⟨body, level⟩ := body
    simp only [Stmt.exprs, List.forall_mem_cons] at hexprs
    simp only [Stmt.suites, List.forall_mem_cons, List.forall_mem_map] at hsuites
    have helse := optionalSuiteOf_optionalSuite hsuites.2
    simp [hexprs.1.1, hexprs.2.1.1, hsuites.1.suiteOf_toDatum, helse]
  | matchStmt subject cases i =>
    simp only [Stmt.suites, List.forall_mem_map] at hsuites
    have hcases := casesOf_caseData (hpatterns subject cases i rfl) hsuites
    simp [(hexprs subject (List.mem_singleton_self _)).1, hcases]
  | functionDef name ps body decorators returns isAsync i =>
    obtain ⟨body, level⟩ := body
    simp only [Stmt.exprs, List.forall_mem_append] at hexprs
    simp only [Stmt.suites, List.forall_mem_singleton] at hsuites
    have hps := paramsOf_paramData hexprs.1.1
    have hds := exprsOf_exprData hexprs.1.2
    have hreturns := optionOf_optionalDatum hexprs.2
    simp [hps, hds, hreturns, hsuites.suiteOf_toDatum]
  | classDef name bases body decorators i =>
    obtain ⟨body, level⟩ := body
    simp only [Stmt.exprs, List.forall_mem_append] at hexprs
    simp only [Stmt.suites, List.forall_mem_singleton] at hsuites
    have hbases := exprsOf_exprData hexprs.1
    have hds := exprsOf_exprData hexprs.2
    simp [hbases, hds, hsuites.suiteOf_toDatum]
  | assign targets value i =>
    simp only [Stmt.exprs, List.forall_mem_cons] at hexprs
    have htargets := exprsOf_exprData hexprs.2
    simp [hexprs.1.1, htargets]
  | annAssign target hint value i =>
    simp only [Stmt.exprs, List.forall_mem_cons] at hexprs
    have hvalue := optionOf_optionalDatum hexprs.2.2
    simp [hexprs.1.1, hexprs.2.1.1, hvalue]
  | augAssign target op value i =>
    simp only [Stmt.exprs, List.forall_mem_cons] at hexprs
    simp [hexprs.1.1, hexprs.2.1.1]
  | exprStmt e i => simp [(hexprs e (List.mem_singleton_self _)).1]
  | returnStmt value i =>
    have hvalue := optionOf_optionalDatum hexprs
    simp [hvalue]
  | importStmt module names isFrom i => simp [-List.mapM_map, mapM_importName]
  | tryStmt body handlers orelse final i =>
    obtain ⟨body, level⟩ := body
    simp only [Stmt.exprs, List.forall_mem_flatMap] at hexprs
    simp only [Stmt.suites, List.cons_append, List.forall_mem_cons, List.forall_mem_append,
      List.forall_mem_map] at hsuites
    have hhandlers := handlersOf_handlerData hexprs hsuites.2.1.1
    have helse := optionalSuiteOf_optionalSuite hsuites.2.1.2
    have hfinal := optionalSuiteOf_optionalSuite hsuites.2.2
    simp [hsuites.1.suiteOf_toDatum, hhandlers, helse, hfinal]
  | withStmt items body isAsync i =>
    obtain ⟨body, level⟩ := body
    simp only [Stmt.suites, List.forall_mem_singleton] at hsuites
    have hitems := mapM_withItem hexprs
    simp [-List.mapM_map, hitems, hsuites.suiteOf_toDatum]
  | assertStmt t msg i =>
    simp only [Stmt.exprs, List.forall_mem_cons] at hexprs
    have hmsg := optionOf_optionalDatum hexprs.2
    simp [hexprs.1.1, hmsg]
  | raiseStmt exception cause i =>
    simp only [Stmt.exprs, List.forall_mem_append] at hexprs
    have hexception := optionOf_optionalDatum hexprs.1
    have hcause := optionOf_optionalDatum hexprs.2
    simp [hexception, hcause]
  | deleteStmt targets i =>
    have htargets : exprsOf (exprData targets) = targets := exprsOf_exprData hexprs
    simp [htargets]
  | globalStmt names i | nonlocalStmt names i => simp
  | passStmt i | breakStmt i | continueStmt i => simp
  | empty origin i => simp
  | stray d => exact absurd rfl (hstray d)

/-- A well-formed statement is read off its document. -/
theorem Stmt.WellFormed.isRead {depth : ℤ} {s : Stmt} (h : s.WellFormed depth) : s.IsRead := by
  induction h with
  | intro sane exprs _ _ ih =>
    refine Stmt.isRead_of_parts (by rintro d rfl; exact sane) ?_ (fun e he => (exprs e he).isRead) ih
    rintro subject cases i rfl c hc
    exact (sane.2 c hc).isRead

end Statements

/-! ## Programs -/

/-- Well-formed programs without pairs of surrogates whose bodies are written as one JSON text have
the same body. -/
theorem Program.WellFormed.body_eq_of_toJson_eq {p q : Program} (hp : p.WellFormed)
    (hq : q.WellFormed) (hppairs : p.Unpaired) (hqpairs : q.Unpaired)
    (h : p.body.toDatum.toJson = q.body.toDatum.toJson) : p.body = q.body := by
  have hread : ∀ {p : Program}, p.WellFormed → suiteOf p.body.toDatum = some p.body := fun hp =>
    Suite.IsRead.suiteOf_toDatum fun s hs => (hp.statements s hs).isRead
  have hdocument := hp.structured_body.eq_of_toJson_eq hq.structured_body hppairs hqpairs h
  exact Option.some.inj (by rw [← hread hp, ← hread hq, hdocument])

end BlockText.Syntax

import BlockText.Proofs.Datum.Core
import BlockText.Syntax.Document

/-!
# Trees that differ in information only

Two trees are alike if their documents have one core: they differ in information, and where
statements stand, in statements without code.  Parts that are alike make wholes that are alike.
-/

namespace BlockText.Syntax

open Datum

attribute [simp] Expr.toDatum Stmt.toDatum Pattern.toDatum

/-! ## Names of fields -/

@[simp] lemma Field.name_required (name : String) : (Field.required name).name = name := rfl

@[simp] lemma Field.name_optional (name : String) : (Field.optional name).name = name := rfl

@[simp] lemma Field.name_listing (name : String) : (Field.listing name).name = name := rfl

@[simp] lemma Field.name_preset (name : String) (d : Datum) :
    (Field.preset name d).name = name := rfl

@[simp] lemma Field.name_chosen (name : String) (α : Type) [Choice α] (d : Option Datum) :
    (Field.chosen name α d).name = name := rfl

@[simp] lemma Field.name_chosenList (name : String) (α : Type) [Choice α] :
    (Field.chosenList name α).name = name := rfl

/-- The field for information has its name. -/
@[simp] lemma Tag.name_infoField : Tag.infoField.name = "meta" := rfl

/-! ## Parts as documents -/

/-- A parameter as a record. -/
def Param.toDatum (p : Param Expr) : Datum :=
  .record .param
    [p.name, optionalDatum p.hint, optionalDatum p.preset, spelled p.kind, p.info.toDatum]

/-- A keyword argument as a record. -/
def Keyword.toDatum (k : Keyword Expr) : Datum :=
  .record .keyword [k.name, k.value.toDatum, k.info.toDatum]

/-- An entry of a dictionary as a record. -/
def DictEntry.toDatum (d : DictEntry Expr) : Datum :=
  .record .dictEntry [optionalDatum d.key, d.value.toDatum, d.info.toDatum]

/-- A clause of a comprehension as a record. -/
def Clause.toDatum (c : Clause Expr) : Datum :=
  .record .comprehensionClause
    [c.target.toDatum, c.iter.toDatum, .list (exprData c.ifs), .bool c.isAsync, c.info.toDatum]

/-- A part of a formatted string as a record. -/
def FormatPart.toDatum (p : FormatPart Expr) : Datum :=
  .record .fstringPart
    [spelled p.kind, p.text, optionalDatum p.expr, p.conversion, p.formatSpec, p.info.toDatum]

/-- A further condition as a record. -/
def ElifClause.toDatum (c : ElifClause Stmt) : Datum :=
  .record .elifClause [c.test.toDatum, c.body.toDatum, c.info.toDatum]

/-- A case as a record. -/
def MatchCase.toDatum (c : MatchCase Stmt) : Datum :=
  .record .matchCase [c.pattern.toDatum, c.body.toDatum, c.info.toDatum]

/-- A handler as a record. -/
def Handler.toDatum (h : Handler Stmt) : Datum :=
  .record .exceptHandler [optionalDatum h.type, h.name, h.body.toDatum, h.info.toDatum]

/-- Expressions are written one by one. -/
lemma exprData_eq_map (es : List Expr) : exprData es = es.map Expr.toDatum := by
  induction es with
  | nil => rw [exprData, List.map_nil]
  | cons e rest ih => rw [exprData, List.map_cons, ih]

/-- Parameters are written one by one. -/
lemma paramData_eq_map (ps : List (Param Expr)) : paramData ps = ps.map Param.toDatum := by
  induction ps with
  | nil => rw [paramData, List.map_nil]
  | cons p rest ih =>
    obtain ⟨name, hint, preset, kind, info⟩ := p
    rw [paramData, List.map_cons, ih, Param.toDatum]

/-- Keyword arguments are written one by one. -/
lemma keywordData_eq_map (ks : List (Keyword Expr)) : keywordData ks = ks.map Keyword.toDatum := by
  induction ks with
  | nil => rw [keywordData, List.map_nil]
  | cons k rest ih =>
    obtain ⟨name, value, info⟩ := k
    rw [keywordData, List.map_cons, ih, Keyword.toDatum]

/-- Entries of a dictionary are written one by one. -/
lemma entryData_eq_map (ds : List (DictEntry Expr)) : entryData ds = ds.map DictEntry.toDatum := by
  induction ds with
  | nil => rw [entryData, List.map_nil]
  | cons d rest ih =>
    obtain ⟨key, value, info⟩ := d
    rw [entryData, List.map_cons, ih, DictEntry.toDatum]

/-- Comprehension clauses are written one by one. -/
lemma clauseData_eq_map (cs : List (Clause Expr)) : clauseData cs = cs.map Clause.toDatum := by
  induction cs with
  | nil => rw [clauseData, List.map_nil]
  | cons c rest ih =>
    obtain ⟨target, iter, ifs, isAsync, info⟩ := c
    rw [clauseData, List.map_cons, ih, Clause.toDatum]

/-- Parts of a formatted string are written one by one. -/
lemma partData_eq_map (ps : List (FormatPart Expr)) : partData ps = ps.map FormatPart.toDatum := by
  induction ps with
  | nil => rw [partData, List.map_nil]
  | cons p rest ih =>
    obtain ⟨kind, text, expr, conversion, spec, info⟩ := p
    rw [partData, List.map_cons, ih, FormatPart.toDatum]

/-- Statements are written one by one. -/
lemma stmtData_eq_map (ss : List Stmt) : stmtData ss = ss.map Stmt.toDatum := by
  induction ss with
  | nil => rw [stmtData, List.map_nil]
  | cons s rest ih => rw [stmtData, List.map_cons, ih]

/-- Further conditions are written one by one. -/
lemma elifData_eq_map (cs : List (ElifClause Stmt)) : elifData cs = cs.map ElifClause.toDatum := by
  induction cs with
  | nil => rw [elifData, List.map_nil]
  | cons c rest ih =>
    obtain ⟨test, ⟨body, level⟩, info⟩ := c
    rw [elifData, List.map_cons, ih, ElifClause.toDatum, Suite.toDatum]

/-- Cases are written one by one. -/
lemma caseData_eq_map (cs : List (MatchCase Stmt)) : caseData cs = cs.map MatchCase.toDatum := by
  induction cs with
  | nil => rw [caseData, List.map_nil]
  | cons c rest ih =>
    obtain ⟨pattern, ⟨body, level⟩, info⟩ := c
    rw [caseData, List.map_cons, ih, MatchCase.toDatum, Suite.toDatum]

/-- Handlers are written one by one. -/
lemma handlerData_eq_map (hs : List (Handler Stmt)) : handlerData hs = hs.map Handler.toDatum := by
  induction hs with
  | nil => rw [handlerData, List.map_nil]
  | cons h rest ih =>
    obtain ⟨type, name, ⟨body, level⟩, info⟩ := h
    rw [handlerData, List.map_cons, ih, Handler.toDatum, Suite.toDatum]

/-! ## Likeness -/

/-- Two things whose documents have one core. -/
def Alike {α : Type} (document : α → Datum) (a b : α) :
    Prop := (document a).core = (document b).core

/-- Lists of things that are alike one by one. -/
lemma coreList_map_congr {α : Type} {document : α → Datum} {as bs : List α}
    (h : List.Forall₂ (Alike document) as bs) :
    coreList (as.map document) = coreList (bs.map document) := by
  refine coreList_congr ?_
  rw [List.forall₂_map_left_iff, List.forall₂_map_right_iff]
  exact h

/-- Expressions that differ in information only. -/
abbrev Expr.Alike : Expr → Expr → Prop := Syntax.Alike Expr.toDatum

/-- Optional expressions that differ in information only. -/
abbrev OptionAlike : Option Expr → Option Expr → Prop := Syntax.Alike optionalDatum

/-- Statements that differ in information and in statements without code only. -/
abbrev Stmt.Alike : Stmt → Stmt → Prop := Syntax.Alike Stmt.toDatum

/-- Lists of statements that differ in information and in statements without code only. -/
def StmtsAlike (ss ss' : List Stmt) : Prop := coreList (stmtData ss) = coreList (stmtData ss')

/-- Suites that differ in information and in statements without code only. -/
abbrev Suite.Alike : Suite Stmt → Suite Stmt → Prop := Syntax.Alike Suite.toDatum

/-- Bodies of like statements are alike. -/
lemma Suite.alike_of_statements {ss ss' : List Stmt} (h : StmtsAlike ss ss') (level : ℤ) :
    Suite.Alike ⟨ss, level⟩ ⟨ss', level⟩ := by
  simp [Syntax.Alike, Suite.toDatum, suiteDatum, core_record, Tag.fields,
    show coreList (stmtData ss) = coreList (stmtData ss') from h]

/-- Statements are like themselves. -/
@[refl] lemma StmtsAlike.refl (ss : List Stmt) : StmtsAlike ss ss := rfl

/-- Statements that are like the same statements are alike. -/
lemma StmtsAlike.trans {ss ss' ss'' : List Stmt} (h : StmtsAlike ss ss') (h' : StmtsAlike ss' ss'') :
    StmtsAlike ss ss'' := Eq.trans h h'

/-- A like statement in front of like statements. -/
lemma StmtsAlike.cons {s s' : Stmt} {ss ss' : List Stmt} (h : s.Alike s')
    (hrest : StmtsAlike ss ss') : StmtsAlike (s :: ss) (s' :: ss') := by
  unfold StmtsAlike
  rw [stmtData, stmtData]
  exact coreList_cons_congr h hrest

/-- Like statements behind like statements. -/
lemma StmtsAlike.append {as bs ss ss' : List Stmt} (h : StmtsAlike as bs)
    (h' : StmtsAlike ss ss') : StmtsAlike (as ++ ss) (bs ++ ss') := by
  unfold StmtsAlike at h h' ⊢
  simp only [stmtData_eq_map, List.map_append, coreList_append] at h h' ⊢
  rw [h, h']

/-- A statement without code does not count. -/
lemma stmtsAlike_empty {origin : EmptySource} {i : Info} {ss ss' : List Stmt}
    (h : StmtsAlike ss ss') : StmtsAlike ss (.empty origin i :: ss') := by
  have hblank : (Stmt.toDatum (.empty origin i)).isBlank = true := by
    simp [isBlank, plain, Tag.name, isEmptyStatement, entryAt?_cons]
  unfold StmtsAlike at h ⊢
  rw [h, stmtData, coreList_cons, hblank, if_pos rfl]

/-- Suites of statements that are alike. -/
lemma core_suiteDatum {ss ss' : List Stmt} (h : StmtsAlike ss ss') (level : ℤ) :
    (suiteDatum ss level).core = (suiteDatum ss' level).core :=
  Suite.alike_of_statements h level

/-- Optional suites of statements that are alike. -/
lemma optionalSuite_alike_some {ss ss' : List Stmt} (h : StmtsAlike ss ss') (level : ℤ) :
    Alike optionalSuite (some ⟨ss, level⟩) (some ⟨ss', level⟩) := by
  rw [Alike, optionalSuite, optionalSuite, core_suiteDatum h]

/-- Expressions that are alike are so where they may be missing. -/
lemma optionAlike_some {e e' : Expr} (h : e.Alike e') : OptionAlike (some e) (some e') := by
  simpa [Syntax.Alike, optionalDatum] using h

/-- A missing expression is like a missing one. -/
lemma optionAlike_none : OptionAlike none none := rfl

/-! ## Programs -/

/-- What a program looks like without information and what only rendering looks at. -/
lemma shape_toDatum (p : Program) :
    p.toDatum.shape = .object [(tagKey, .text "Program"), ("body", p.body.toDatum.core)] := by
  simp [Program.toDatum, Datum.shape, plain, plainFields, Tag.fields, renderingKeys, tagKey,
    Tag.name, strip, stripEntries, core]

end BlockText.Syntax

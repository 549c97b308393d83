import BlockText.Datum.Schema
import BlockText.Syntax.Stmt

/-!
# Programs as documents

`toDatum` turns trees into records, with the fields of each class in its order.
-/

namespace BlockText.Syntax

/-- A position as a record. -/
def Position.toDatum (p : Position) : Datum :=
  .record .position [.int p.line, .int p.column, .int p.offset]

/-- A span as a record. -/
def Span.toDatum (s : Span) : Datum :=
  .record .span [s.start.toDatum, s.stop.toDatum]

/-- A token range as a record. -/
def TokenRange.toDatum (r : TokenRange) : Datum :=
  .record .tokenRange [.int r.start, .int r.stop]

/-- A value of a vocabulary as its spelling. -/
def spelled {α : Type} [Choice α] (a : α) : Datum := .text (Choice.spelling a)

/-- Trivia as a record. -/
def Trivia.toDatum (t : Trivia) : Datum :=
  .record .trivia [spelled t.kind, .text t.text]

/-- Something optional as a datum. -/
def optionally {α : Type} (f : α → Datum) : Option α → Datum
  | some a => f a
  | none => .null

/-- What is known about a node as a record. -/
def Info.toDatum (i : Info) : Datum :=
  .record .info [.int i.id, optionally Span.toDatum i.span, optionally TokenRange.toDatum i.tokens,
    .list (i.leading.map Trivia.toDatum), .list (i.trailing.map Trivia.toDatum)]

mutual

/-- An expression as a record. -/
def Expr.toDatum : Expr → Datum
  | .identifier name i => .record .identifier [name, i.toDatum]
  | .literal kind raw value i => .record .literal [spelled kind, raw, value, i.toDatum]
  | .binary l op r i => .record .binary [l.toDatum, spelled op, r.toDatum, i.toDatum]
  | .unary op e i => .record .unary [spelled op, e.toDatum, i.toDatum]
  | .boolOp op es i => .record .boolOp [spelled op, .list (exprData es), i.toDatum]
  | .compare l ops es i =>
    .record .compare [l.toDatum, .list (ops.map spelled), .list (exprData es), i.toDatum]
  | .lambda ps body i => .record .lambda [.list (paramData ps), body.toDatum, i.toDatum]
  | .conditional t b e i => .record .ifExpr [t.toDatum, b.toDatum, e.toDatum, i.toDatum]
  | .call f args ks i =>
    .record .call [f.toDatum, .list (exprData args), .list (keywordData ks), i.toDatum]
  | .tuple es i => .record .tupleExpr [.list (exprData es), i.toDatum]
  | .list es i => .record .listExpr [.list (exprData es), i.toDatum]
  | .set es i => .record .setExpr [.list (exprData es), i.toDatum]
  | .dict entries i => .record .dictExpr [.list (entryData entries), i.toDatum]
  | .attribute e attr i => .record .attributeExpr [e.toDatum, attr, i.toDatum]
  | .subscript e index i => .record .subscript [e.toDatum, index.toDatum, i.toDatum]
  | .slice lower upper step i =>
    .record .slice [optionalDatum lower, optionalDatum upper, optionalDatum step, i.toDatum]
  | .comprehension kind e cs key i =>
    .record .comprehension
      [spelled kind, e.toDatum, .list (clauseData cs), optionalDatum key, i.toDatum]
  | .grouped e i => .record .grouped [e.toDatum, i.toDatum]
  | .fstring parts quote i => .record .fstring [.list (partData parts), quote, i.toDatum]
  | .walrus target e i => .record .namedExpr [target, e.toDatum, i.toDatum]
  | .yield e i => .record .yield [optionalDatum e, i.toDatum]
  | .yieldFrom e i => .record .yieldFrom [e.toDatum, i.toDatum]
  | .await e i => .record .await [e.toDatum, i.toDatum]
  | .stray d => d

/-- An optional expression. -/
def optionalDatum : Option Expr → Datum
  | some e => e.toDatum
  | none => .null

/-- Several expressions. -/
def exprData : List Expr → List Datum
  | [] => []
  | e :: rest => e.toDatum :: exprData rest

/-- Parameters. -/
def paramData : List (Param Expr) → List Datum
  | [] => []
  | ⟨name, hint, preset, kind, i⟩ :: rest =>
    .record .param [name, optionalDatum hint, optionalDatum preset, spelled kind, i.toDatum] ::
      paramData rest

/-- Keyword arguments. -/
def keywordData : List (Keyword Expr) → List Datum
  | [] => []
  | ⟨name, e, i⟩ :: rest => .record .keyword [name, e.toDatum, i.toDatum] :: keywordData rest

/-- Dictionary entries. -/
def entryData : List (DictEntry Expr) → List Datum
  | [] => []
  | ⟨key, e, i⟩ :: rest =>
    .record .dictEntry [optionalDatum key, e.toDatum, i.toDatum] :: entryData rest

/-- Comprehension clauses. -/
def clauseData : List (Clause Expr) → List Datum
  | [] => []
  | ⟨target, iter, ifs, isAsync, i⟩ :: rest =>
    .record .comprehensionClause
      [target.toDatum, iter.toDatum, .list (exprData ifs), .bool isAsync, i.toDatum] ::
      clauseData rest

/-- Parts of a formatted string. -/
def partData : List (FormatPart Expr) → List Datum
  | [] => []
  | ⟨kind, text, e, conversion, spec, i⟩ :: rest =>
    .record .fstringPart [spelled kind, text, optionalDatum e, conversion, spec, i.toDatum] ::
      partData rest

end

/-- A pattern as a record. -/
def Pattern.toDatum : Pattern → Datum
  | .wildcard i => .record .wildcardPattern [i.toDatum]
  | .capture name i => .record .capturePattern [name, i.toDatum]
  | .literal e i => .record .literalPattern [e.toDatum, i.toDatum]
  | .stray d => d

/-- A context as a record. -/
def WithItem.toDatum (w : WithItem) : Datum :=
  .record .withItem [w.context.toDatum, w.name, w.info.toDatum]

/-- An imported name as a record. -/
def ImportName.toDatum (n : ImportName) : Datum :=
  .record .importName [n.name, n.asName, n.info.toDatum]

mutual

/-- A statement as a record. -/
def Stmt.toDatum : Stmt → Datum
  | .ifStmt t ⟨body, n⟩ elifs orelse i =>
    .record .ifStmt
      [t.toDatum, suiteDatum body n, .list (elifData elifs), optionalSuite orelse, i.toDatum]
  | .whileStmt t ⟨body, n⟩ orelse i =>
    .record .whileStmt [t.toDatum, suiteDatum body n, optionalSuite orelse, i.toDatum]
  | .forStmt target iter ⟨body, n⟩ orelse isAsync i =>
    .record .forStmt
      [target.toDatum, iter.toDatum, suiteDatum body n, optionalSuite orelse, .bool isAsync,
        i.toDatum]
  | .matchStmt e cases i => .record .matchStmt [e.toDatum, .list (caseData cases), i.toDatum]
  | .functionDef name ps ⟨body, n⟩ ds returns isAsync i =>
    .record .functionDef
      [name, .list (paramData ps), suiteDatum body n, .list (exprData ds), optionalDatum returns,
        .bool isAsync, i.toDatum]
  | .classDef name bases ⟨body, n⟩ ds i =>
    .record .classDef
      [name, .list (exprData bases), suiteDatum body n, .list (exprData ds), i.toDatum]
  | .assign targets e i => .record .assign [.list (exprData targets), e.toDatum, i.toDatum]
  | .annAssign target hint e i =>
    .record .annAssign [target.toDatum, hint.toDatum, optionalDatum e, i.toDatum]
  | .augAssign target op e i =>
    .record .augAssign [target.toDatum, spelled op, e.toDatum, i.toDatum]
  | .exprStmt e i => .record .exprStmt [e.toDatum, i.toDatum]
  | .passStmt i => .record .passStmt [i.toDatum]
  | .returnStmt e i => .record .returnStmt [optionalDatum e, i.toDatum]
  | .breakStmt i => .record .breakStmt [i.toDatum]
  | .continueStmt i => .record .continueStmt [i.toDatum]
  | .importStmt module names isFrom i =>
    .record .importStmt
      [module, .list (names.map ImportName.toDatum), .bool isFrom, i.toDatum]
  | .tryStmt ⟨body, n⟩ handlers orelse final i =>
    .record .tryStmt
      [suiteDatum body n, .list (handlerData handlers), optionalSuite orelse, optionalSuite final,
        i.toDatum]
  | .withStmt items ⟨body, n⟩ isAsync i =>
    .record .withStmt
      [.list (items.map WithItem.toDatum), suiteDatum body n, .bool isAsync, i.toDatum]
  | .assertStmt t msg i => .record .assertStmt [t.toDatum, optionalDatum msg, i.toDatum]
  | .raiseStmt e cause i =>
    .record .raiseStmt [optionalDatum e, optionalDatum cause, i.toDatum]
  | .deleteStmt targets i => .record .deleteStmt [.list (exprData targets), i.toDatum]
  | .globalStmt names i => .record .globalStmt [.list names, i.toDatum]
  | .nonlocalStmt names i => .record .nonlocalStmt [.list names, i.toDatum]
  | .empty origin i => .record .empty [spelled origin, i.toDatum]
  | .stray d => d
termination_by s => 2 * sizeOf s
decreasing_by all_goals simp +arith

/-- A suite of statements at a depth. -/
def suiteDatum (body : List Stmt) (level : Int) : Datum :=
  .record .suite [.list (stmtData body), .int level]
termination_by 2 * sizeOf body + 1
decreasing_by all_goals simp +arith

/-- Several statements. -/
def stmtData : List Stmt → List Datum
  | [] => []
  | s :: rest => s.toDatum :: stmtData rest
termination_by ss => 2 * sizeOf ss
decreasing_by all_goals simp +arith

/-- An optional suite. -/
def optionalSuite : Option (Suite Stmt) → Datum
  | some ⟨body, n⟩ => suiteDatum body n
  | none => .null
termination_by o => 2 * sizeOf o
decreasing_by all_goals simp +arith

/-- Further conditions. -/
def elifData : List (ElifClause Stmt) → List Datum
  | [] => []
  | ⟨t, ⟨body, n⟩, i⟩ :: rest =>
    .record .elifClause [t.toDatum, suiteDatum body n, i.toDatum] :: elifData rest
termination_by cs => 2 * sizeOf cs
decreasing_by all_goals simp +arith

/-- Cases. -/
def caseData : List (MatchCase Stmt) → List Datum
  | [] => []
  | ⟨p, ⟨body, n⟩, i⟩ :: rest =>
    .record .matchCase [p.toDatum, suiteDatum body n, i.toDatum] :: caseData rest
termination_by cs => 2 * sizeOf cs
decreasing_by all_goals simp +arith

/-- Handlers. -/
def handlerData : List (Handler Stmt) → List Datum
  | [] => []
  | ⟨type, name, ⟨body, n⟩, i⟩ :: rest =>
    .record .exceptHandler [optionalDatum type, name, suiteDatum body n, i.toDatum] ::
      handlerData rest
termination_by hs => 2 * sizeOf hs
decreasing_by all_goals simp +arith

end

/-- A suite as a record. -/
def Suite.toDatum (s : Suite Stmt) : Datum := suiteDatum s.statements s.level

/-- A program as a record. -/
def Program.toDatum (p : Program) : Datum :=
  .record .program
    [p.body.toDatum, .int p.indentWidth, .bool p.dirty, .ofText? p.source, p.info.toDatum]

end BlockText.Syntax

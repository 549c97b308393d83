import BlockText.Syntax.Stmt
import Mathlib.Tactic.Lemma

/-!
# Programs without identities

The nodes of a program have identities, which are drawn from a counter.  The bare form of a tree has
none of them, so that two trees with one bare form differ in their identities only.  Spans, tokens
and trivia stay.
-/

namespace BlockText.Syntax

/-- What is known about a node, without its identity. -/
def Info.bare (i : Info) : Info := { i with id := 0 }

/-! ## Expressions -/

mutual

/-- The expression without identities. -/
def Expr.bare : Expr → Expr
  | .identifier name i => .identifier name i.bare
  | .literal kind raw value i => .literal kind raw value i.bare
  | .binary l op r i => .binary l.bare op r.bare i.bare
  | .unary op e i => .unary op e.bare i.bare
  | .boolOp op es i => .boolOp op (bareExprs es) i.bare
  | .compare l ops es i => .compare l.bare ops (bareExprs es) i.bare
  | .lambda ps body i => .lambda (bareParams ps) body.bare i.bare
  | .conditional t b e i => .conditional t.bare b.bare e.bare i.bare
  | .call f args ks i => .call f.bare (bareExprs args) (bareKeywords ks) i.bare
  | .tuple es i => .tuple (bareExprs es) i.bare
  | .list es i => .list (bareExprs es) i.bare
  | .set es i => .set (bareExprs es) i.bare
  | .dict entries i => .dict (bareEntries entries) i.bare
  | .attribute e attr i => .attribute e.bare attr i.bare
  | .subscript e index i => .subscript e.bare index.bare i.bare
  | .slice lower upper step i =>
    .slice (bareOption lower) (bareOption upper) (bareOption step) i.bare
  | .comprehension kind e cs key i =>
    .comprehension kind e.bare (bareClauses cs) (bareOption key) i.bare
  | .grouped e i => .grouped e.bare i.bare
  | .fstring parts quote i => .fstring (bareParts parts) quote i.bare
  | .walrus target e i => .walrus target e.bare i.bare
  | .yield e i => .yield (bareOption e) i.bare
  | .yieldFrom e i => .yieldFrom e.bare i.bare
  | .await e i => .await e.bare i.bare
  | .stray d => .stray d

/-- An optional expression without identities. -/
def bareOption : Option Expr → Option Expr
  | some e => some e.bare
  | none => none

/-- Several expressions without identities. -/
def bareExprs : List Expr → List Expr
  | [] => []
  | e :: rest => e.bare :: bareExprs rest

/-- Parameters without identities. -/
def bareParams : List (Param Expr) → List (Param Expr)
  | [] => []
  | ⟨name, hint, preset, kind, i⟩ :: rest =>
    ⟨name, bareOption hint, bareOption preset, kind, i.bare⟩ :: bareParams rest

/-- Keyword arguments without identities. -/
def bareKeywords : List (Keyword Expr) → List (Keyword Expr)
  | [] => []
  | ⟨name, e, i⟩ :: rest => ⟨name, e.bare, i.bare⟩ :: bareKeywords rest

/-- Dictionary entries without identities. -/
def bareEntries : List (DictEntry Expr) → List (DictEntry Expr)
  | [] => []
  | ⟨key, e, i⟩ :: rest => ⟨bareOption key, e.bare, i.bare⟩ :: bareEntries rest

/-- Comprehension clauses without identities. -/
def bareClauses : List (Clause Expr) → List (Clause Expr)
  | [] => []
  | ⟨target, iter, ifs, isAsync, i⟩ :: rest =>
    ⟨target.bare, iter.bare, bareExprs ifs, isAsync, i.bare⟩ :: bareClauses rest

/-- Parts of a formatted string without identities. -/
def bareParts : List (FormatPart Expr) → List (FormatPart Expr)
  | [] => []
  | ⟨kind, text, e, conversion, spec, i⟩ :: rest =>
    ⟨kind, text, bareOption e, conversion, spec, i.bare⟩ :: bareParts rest

end

/-- The parameter without identities. -/
def Param.bare (p : Param Expr) : Param Expr :=
  ⟨p.name, p.hint.map Expr.bare, p.preset.map Expr.bare, p.kind, p.info.bare⟩

/-- The keyword argument without identities. -/
def Keyword.bare (k : Keyword Expr) : Keyword Expr := ⟨k.name, k.value.bare, k.info.bare⟩

/-- The entry of a dictionary without identities. -/
def DictEntry.bare (d : DictEntry Expr) : DictEntry Expr :=
  ⟨d.key.map Expr.bare, d.value.bare, d.info.bare⟩

/-- The clause of a comprehension without identities. -/
def Clause.bare (c : Clause Expr) : Clause Expr :=
  ⟨c.target.bare, c.iter.bare, c.ifs.map Expr.bare, c.isAsync, c.info.bare⟩

/-- The part of a formatted string without identities. -/
def FormatPart.bare (p : FormatPart Expr) : FormatPart Expr :=
  ⟨p.kind, p.text, p.expr.map Expr.bare, p.conversion, p.formatSpec, p.info.bare⟩

/-- The pattern without identities. -/
def Pattern.bare : Pattern → Pattern
  | .wildcard i => .wildcard i.bare
  | .capture name i => .capture name i.bare
  | .literal e i => .literal e.bare i.bare
  | .stray d => .stray d

/-! ## Statements -/

/-- The context of a `with` statement without identities. -/
def WithItem.bare (w : WithItem) : WithItem := ⟨w.context.bare, w.name, w.info.bare⟩

/-- The imported name without its identity. -/
def ImportName.bare (n : ImportName) : ImportName := ⟨n.name, n.asName, n.info.bare⟩

mutual

/-- The statement without identities. -/
def Stmt.bare : Stmt → Stmt
  | .ifStmt t ⟨body, n⟩ elifs orelse i =>
    .ifStmt t.bare ⟨bareStmts body, n⟩ (bareElifs elifs) (bareSuite orelse) i.bare
  | .whileStmt t ⟨body, n⟩ orelse i =>
    .whileStmt t.bare ⟨bareStmts body, n⟩ (bareSuite orelse) i.bare
  | .forStmt target iter ⟨body, n⟩ orelse isAsync i =>
    .forStmt target.bare iter.bare ⟨bareStmts body, n⟩ (bareSuite orelse) isAsync i.bare
  | .matchStmt e cases i => .matchStmt e.bare (bareCases cases) i.bare
  | .functionDef name ps ⟨body, n⟩ ds returns isAsync i =>
    .functionDef name (bareParams ps) ⟨bareStmts body, n⟩ (bareExprs ds) (bareOption returns)
      isAsync i.bare
  | .classDef name bases ⟨body, n⟩ ds i =>
    .classDef name (bareExprs bases) ⟨bareStmts body, n⟩ (bareExprs ds) i.bare
  | .assign targets e i => .assign (bareExprs targets) e.bare i.bare
  | .annAssign target hint e i => .annAssign target.bare hint.bare (bareOption e) i.bare
  | .augAssign target op e i => .augAssign target.bare op e.bare i.bare
  | .exprStmt e i => .exprStmt e.bare i.bare
  | .passStmt i => .passStmt i.bare
  | .returnStmt e i => .returnStmt (bareOption e) i.bare
  | .breakStmt i => .breakStmt i.bare
  | .continueStmt i => .continueStmt i.bare
  | .importStmt module names isFrom i =>
    .importStmt module (names.map ImportName.bare) isFrom i.bare
  | .tryStmt ⟨body, n⟩ handlers orelse final i =>
    .tryStmt ⟨bareStmts body, n⟩ (bareHandlers handlers) (bareSuite orelse) (bareSuite final) i.bare
  | .withStmt items ⟨body, n⟩ isAsync i =>
    .withStmt (items.map WithItem.bare) ⟨bareStmts body, n⟩ isAsync i.bare
  | .assertStmt t msg i => .assertStmt t.bare (bareOption msg) i.bare
  | .raiseStmt e cause i => .raiseStmt (bareOption e) (bareOption cause) i.bare
  | .deleteStmt targets i => .deleteStmt (bareExprs targets) i.bare
  | .globalStmt names i => .globalStmt names i.bare
  | .nonlocalStmt names i => .nonlocalStmt names i.bare
  | .empty origin i => .empty origin i.bare
  | .stray d => .stray d

/-- Several statements without identities. -/
def bareStmts : List Stmt → List Stmt
  | [] => []
  | s :: rest => s.bare :: bareStmts rest

/-- An optional suite without identities. -/
def bareSuite : Option (Suite Stmt) → Option (Suite Stmt)
  | some ⟨body, n⟩ => some ⟨bareStmts body, n⟩
  | none => none

/-- Further conditions without identities. -/
def bareElifs : List (ElifClause Stmt) → List (ElifClause Stmt)
  | [] => []
  | ⟨t, ⟨body, n⟩, i⟩ :: rest => ⟨t.bare, ⟨bareStmts body, n⟩, i.bare⟩ :: bareElifs rest

/-- Cases without identities. -/
def bareCases : List (MatchCase Stmt) → List (MatchCase Stmt)
  | [] => []
  | ⟨p, ⟨body, n⟩, i⟩ :: rest => ⟨p.bare, ⟨bareStmts body, n⟩, i.bare⟩ :: bareCases rest

/-- Handlers without identities. -/
def bareHandlers : List (Handler Stmt) → List (Handler Stmt)
  | [] => []
  | ⟨type, name, ⟨body, n⟩, i⟩ :: rest =>
    ⟨bareOption type, name, ⟨bareStmts body, n⟩, i.bare⟩ :: bareHandlers rest

end

/-- The suite without identities. -/
def Suite.bare (s : Suite Stmt) : Suite Stmt := ⟨s.statements.map Stmt.bare, s.level⟩

/-- The further condition without identities. -/
def ElifClause.bare (c : ElifClause Stmt) : ElifClause Stmt :=
  ⟨c.test.bare, c.body.bare, c.info.bare⟩

/-- The case without identities. -/
def MatchCase.bare (c : MatchCase Stmt) : MatchCase Stmt :=
  ⟨c.pattern.bare, c.body.bare, c.info.bare⟩

/-- The handler without identities. -/
def Handler.bare (h : Handler Stmt) : Handler Stmt :=
  ⟨h.type.map Expr.bare, h.name, h.body.bare, h.info.bare⟩

/-- The program without identities. -/
def Program.bare (p : Program) : Program := { p with body := p.body.bare, info := p.info.bare }

/-! ## Parts by number -/

@[simp] lemma bareOption_eq_map (o : Option Expr) : bareOption o = o.map Expr.bare := by
  cases o <;> simp [bareOption]

@[simp] lemma bareExprs_eq_map (es : List Expr) : bareExprs es = es.map Expr.bare := by
  induction es with
  | nil => rw [bareExprs, List.map_nil]
  | cons e rest ih => rw [bareExprs, List.map_cons, ih]

@[simp] lemma bareParams_eq_map (ps : List (Param Expr)) : bareParams ps = ps.map Param.bare := by
  induction ps with
  | nil => rw [bareParams, List.map_nil]
  | cons p rest ih => simp [bareParams, Param.bare, ih]

@[simp] lemma bareKeywords_eq_map (ks : List (Keyword Expr)) :
    bareKeywords ks = ks.map Keyword.bare := by
  induction ks with
  | nil => rw [bareKeywords, List.map_nil]
  | cons k rest ih => simp [bareKeywords, Keyword.bare, ih]

@[simp] lemma bareEntries_eq_map (ds : List (DictEntry Expr)) :
    bareEntries ds = ds.map DictEntry.bare := by
  induction ds with
  | nil => rw [bareEntries, List.map_nil]
  | cons d rest ih => simp [bareEntries, DictEntry.bare, ih]

@[simp] lemma bareClauses_eq_map (cs : List (Clause Expr)) :
    bareClauses cs = cs.map Clause.bare := by
  induction cs with
  | nil => rw [bareClauses, List.map_nil]
  | cons c rest ih => simp [bareClauses, Clause.bare, ih]

@[simp] lemma bareParts_eq_map (ps : List (FormatPart Expr)) :
    bareParts ps = ps.map FormatPart.bare := by
  induction ps with
  | nil => rw [bareParts, List.map_nil]
  | cons p rest ih => simp [bareParts, FormatPart.bare, ih]

@[simp] lemma bareStmts_eq_map (ss : List Stmt) : bareStmts ss = ss.map Stmt.bare := by
  induction ss with
  | nil => rw [bareStmts, List.map_nil]
  | cons s rest ih => rw [bareStmts, List.map_cons, ih]

@[simp] lemma bareSuite_eq_map (o : Option (Suite Stmt)) : bareSuite o = o.map Suite.bare := by
  cases o <;> simp [bareSuite, Suite.bare]

@[simp] lemma bareElifs_eq_map (cs : List (ElifClause Stmt)) :
    bareElifs cs = cs.map ElifClause.bare := by
  induction cs with
  | nil => rw [bareElifs, List.map_nil]
  | cons c rest ih => simp [bareElifs, ElifClause.bare, Suite.bare, ih]

@[simp] lemma bareCases_eq_map (cs : List (MatchCase Stmt)) :
    bareCases cs = cs.map MatchCase.bare := by
  induction cs with
  | nil => rw [bareCases, List.map_nil]
  | cons c rest ih => simp [bareCases, MatchCase.bare, Suite.bare, ih]

@[simp] lemma bareHandlers_eq_map (hs : List (Handler Stmt)) :
    bareHandlers hs = hs.map Handler.bare := by
  induction hs with
  | nil => rw [bareHandlers, List.map_nil]
  | cons h rest ih => simp [bareHandlers, Handler.bare, Suite.bare, ih]

end BlockText.Syntax

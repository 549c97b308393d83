import BlockText.Proofs.Syntax.Bare
import BlockText.Render.Program

/-!
# Identities do not show

The text of a program has nothing to do with the identities of its nodes: a tree and its bare form
are rendered alike.  Comments and blank lines do show, and the bare form has them.
-/

namespace BlockText

open Syntax

namespace Render

-- Nearly every lemma below computes with these, so their equations are derived here, once.
attribute [local simp] core stmtLines Expr.bare Stmt.bare

/-- The strength of an expression does not depend on its identities. -/
@[simp] lemma strength_bare (e : Expr) : strength e.bare = strength e := by
  cases e <;> rfl

/-- Parentheses do not depend on identities. -/
@[simp] lemma enclose_bare (e : Expr) (required : Int) (d : Datum) :
    enclose e.bare required d = enclose e required d := by
  rw [enclose, enclose, strength_bare]

/-! ## Places where a tuple needs no parentheses

A tuple is rendered in another way there, but what stands between its parentheses can be read off
what is rendered elsewhere. -/

/-- The expression is a tuple with items. -/
def IsFilledTuple (e : Expr) : Prop := ∃ x xs i, e = .tuple (x :: xs) i

/-- A tuple with elements is one with bare elements. -/
private lemma isFilledTuple_bare {e : Expr} : IsFilledTuple e.bare ↔ IsFilledTuple e := by
  cases e with
  | tuple es i => cases es <;> simp [IsFilledTuple, Expr.bare]
  | _ => simp [IsFilledTuple, Expr.bare]

/-- What stands between the parentheses of a tuple. -/
private lemma items_bare {α : Type} {x : Expr} {xs : List Expr} {i : Info}
    (h : core (Expr.tuple (x :: xs) i).bare = core (.tuple (x :: xs) i))
    (f : String → Result α) :
    (do f (← tupleItems (← operands lambdaStrength (x.bare :: bareExprs xs)))) =
      (do f (← tupleItems (← operands lambdaStrength (x :: xs)))) := by
  have hcore : ∀ y ys j, core (.tuple (y :: ys) j) =
      (fun s => Datum.text ("(" ++ s ++ ")")) <$>
        (operands lambdaStrength (y :: ys) >>= tupleItems) := fun y ys j => by
    simp only [core, map_eq_pure_bind, bind_assoc]
  have hinj : ∀ {a b : Result String}, (fun s => Datum.text ("(" ++ s ++ ")")) <$> a =
      (fun s => Datum.text ("(" ++ s ++ ")")) <$> b → a = b := by
    intro a b h
    cases a <;> cases b <;> simp [Functor.map, Except.map] at h ⊢ <;> exact h
  simp only [Expr.bare, bareExprs, hcore] at h
  rw [← bind_assoc, hinj h, bind_assoc]

/-- In the place of a statement anything but a filled tuple is rendered as usual. -/
lemma statementPlace_of_not {e : Expr} (h : ¬ IsFilledTuple e) :
    statementPlace e = (do return enclose e anyStrength (← core e)) := by
  rw [statementPlace]
  exact fun x xs i he => h ⟨x, xs, i, he⟩

/-- An index that is no filled tuple is rendered as an operand. -/
lemma core_subscript_of_not {e index : Expr} {i : Info} (h : ¬ IsFilledTuple index) :
    core (.subscript e index i) = (do
      let inner ← core index
      let value ← core e
      return .text ((enclose e postfixStrength value).display ++ "[" ++
        (enclose index lambdaStrength inner).display ++ "]")) := by
  rw [core]
  exact fun x xs j he => h ⟨x, xs, j, he⟩

/-- If the text of an expression does not depend on identities, nor does it in the place of a
statement. -/
private lemma statementPlace_bare_of {e : Expr} (h : core e.bare = core e) :
    statementPlace e.bare = statementPlace e := by
  by_cases htuple : IsFilledTuple e
  · obtain ⟨x, xs, i, rfl⟩ := htuple
    simp only [Expr.bare, bareExprs, statementPlace, map_eq_pure_bind, items_bare h]
  · rw [statementPlace_of_not htuple, statementPlace_of_not (mt isFilledTuple_bare.mp htuple), h]
    simp only [enclose_bare]

/-- The text of a subscript does not depend on identities if those of its parts do not. -/
private lemma core_subscript_bare {e index : Expr} (i : Info) (he : core e.bare = core e)
    (hindex : core index.bare = core index) :
    core (Expr.subscript e index i).bare = core (.subscript e index i) := by
  by_cases htuple : IsFilledTuple index
  · obtain ⟨x, xs, j, rfl⟩ := htuple
    simp only [Expr.bare, bareExprs, core, he, enclose_bare, items_bare hindex]
  · rw [Expr.bare, core_subscript_of_not htuple,
      core_subscript_of_not (mt isFilledTuple_bare.mp htuple), he, hindex]
    simp only [enclose_bare]

/-- A yielded value is rendered as in the place of a statement. -/
private lemma core_yield_some (e : Expr) (i : Info) : core (.yield (some e) i) = (do
    return .text ("yield " ++ (← statementPlace e).display)) := by
  by_cases htuple : IsFilledTuple e
  · obtain ⟨x, xs, j, rfl⟩ := htuple
    simp only [core, statementPlace, map_eq_pure_bind, bind_assoc, pure_bind, Datum.display]
  · rw [statementPlace_of_not htuple, core]
    · simp only [bind_assoc, pure_bind]
    · exact fun x xs j he => htuple ⟨x, xs, j, he⟩

/-- The text of comprehension clauses begins with that of the first. -/
private lemma clauses_cons (c : Clause Expr) (rest : List (Clause Expr)) :
    clauses (c :: rest) = (do
      let bound ← statementPlace c.target
      let source ← core c.iter
      let conditions ← operands orStrength c.ifs
      let first := (if c.isAsync then "async for " else "for ") ++ bound.display ++ " in " ++
        (enclose c.iter orStrength source).display ++
        String.join (conditions.map fun d => " if " ++ d.display)
      return first :: (← clauses rest)) := by
  by_cases htuple : IsFilledTuple c.target
  · obtain ⟨x, xs, j, hx⟩ := htuple
    obtain ⟨target, iter, ifs, isAsync, i⟩ := c
    obtain rfl : target = .tuple (x :: xs) j := hx
    simp only [clauses, statementPlace, bind_assoc]
  · rw [statementPlace_of_not htuple, clauses]
    · simp only [bind_assoc]
    · exact fun x xs j he => htuple ⟨x, xs, j, he⟩

/-! ## Expressions -/

mutual

/-- Identities do not show in an expression. -/
theorem core_bare : (e : Expr) → core e.bare = core e
  | .identifier _ _ | .literal _ _ _ _ | .stray _ => by simp only [Expr.bare, core]
  | .binary l _ r _ => by simp only [Expr.bare, core, core_bare l, core_bare r, enclose_bare]
  | .unary op e _ => by cases op <;> simp only [Expr.bare, core, core_bare e, enclose_bare]
  | .boolOp _ es _ | .list es _ | .set es _ => by
    simp only [Expr.bare, core, operands_bare _ es]
  | .compare l ops es _ => by
    simp only [Expr.bare, core, core_bare l, comparisons_bare ops es, enclose_bare]
  | .lambda ps body _ => by
    simp only [Expr.bare, core, params_bare _ ps, core_bare body, enclose_bare]
  | .conditional t b e _ => by
    simp only [Expr.bare, core, core_bare t, core_bare b, core_bare e, enclose_bare]
  | .call f args ks _ => by
    simp only [Expr.bare, core, core_bare f, operands_bare _ args, keywords_bare ks, enclose_bare]
  | .tuple [] _ => by simp only [Expr.bare, bareExprs, core]
  | .tuple (e :: es) _ => by
    have h := operands_bare lambdaStrength (e :: es)
    simp only [Expr.bare, bareExprs] at h ⊢
    simp only [core, h]
  | .dict entries _ => by simp only [Expr.bare, core, entries_bare entries]
  | .attribute e _ _ | .grouped e _ | .walrus _ e _ | .yieldFrom e _ | .await e _ => by
    simp only [Expr.bare, core, core_bare e, enclose_bare]
  | .subscript e index i => core_subscript_bare i (core_bare e) (core_bare index)
  | .slice lower upper none _ => by
    simp only [Expr.bare, bareOption, core, optional_bare lower, optional_bare upper]
  | .slice lower upper (some e) _ => by
    simp only [Expr.bare, bareOption, core, optional_bare lower, optional_bare upper, core_bare e,
      enclose_bare]
  | .comprehension kind e cs none _ => by
    cases kind <;>
      simp only [Expr.bare, bareOption, core, core_bare e, clauses_bare cs, enclose_bare]
  | .comprehension kind e cs (some k) _ => by
    cases kind <;>
      simp only [Expr.bare, bareOption, core, core_bare e, core_bare k, clauses_bare cs,
        enclose_bare]
  | .fstring ps _ _ => by simp only [Expr.bare, core, parts_bare _ ps]
  | .yield none _ => by simp only [Expr.bare, bareOption, core]
  | .yield (some e) _ => by
    simp only [Expr.bare, bareOption, core_yield_some, statementPlace_bare_of (core_bare e)]

/-- Identities do not show in an optional expression. -/
theorem optional_bare : (o : Option Expr) → optional (bareOption o) = optional o
  | none => by simp only [bareOption, optional]
  | some e => by simp only [bareOption, optional, core_bare e, enclose_bare]

/-- Identities do not show in several expressions. -/
theorem operands_bare (required : Int) : (es : List Expr) →
    operands required (bareExprs es) = operands required es
  | [] => by simp only [bareExprs, operands]
  | e :: rest => by
    simp only [bareExprs, operands, core_bare e, operands_bare required rest, enclose_bare]

/-- Identities do not show in comparisons. -/
theorem comparisons_bare : (ops : List CompareOp) → (es : List Expr) →
    comparisons ops (bareExprs es) = comparisons ops es
  | [], es => by cases es <;> simp only [bareExprs, comparisons]
  | _ :: _, [] => by simp only [bareExprs, comparisons]
  | op :: ops, e :: es => by
    simp only [bareExprs, comparisons, core_bare e, comparisons_bare ops es, enclose_bare]

/-- Identities do not show in keyword arguments. -/
theorem keywords_bare : (ks : List (Keyword Expr)) → keywords (bareKeywords ks) = keywords ks
  | [] => by simp only [bareKeywords, keywords]
  | ⟨_, e, _⟩ :: rest => by
    simp only [bareKeywords, keywords, core_bare e, keywords_bare rest, enclose_bare]

/-- Identities do not show in entries of a dictionary. -/
theorem entries_bare : (ds : List (DictEntry Expr)) → entries (bareEntries ds) = entries ds
  | [] => by simp only [bareEntries, entries]
  | ⟨none, e, _⟩ :: rest => by
    simp only [bareEntries, bareOption, entries, core_bare e, entries_bare rest, enclose_bare]
  | ⟨some k, e, _⟩ :: rest => by
    simp only [bareEntries, bareOption, entries, core_bare k, core_bare e, entries_bare rest,
      enclose_bare]

/-- Identities do not show in clauses of a comprehension. -/
theorem clauses_bare : (cs : List (Clause Expr)) → clauses (bareClauses cs) = clauses cs
  | [] => by simp only [bareClauses, clauses]
  | ⟨target, iter, ifs, _, _⟩ :: rest => by
    simp only [bareClauses, clauses_cons, statementPlace_bare_of (core_bare target), core_bare iter,
      operands_bare _ ifs, clauses_bare rest, enclose_bare]

/-- Identities do not show in parts of a formatted string. -/
theorem parts_bare (quote : Datum) : (ps : List (FormatPart Expr)) →
    parts quote (bareParts ps) = parts quote ps
  | [] => by simp only [bareParts, parts]
  | ⟨.literal, _, _, _, _, _⟩ :: rest => by simp only [bareParts, parts, parts_bare quote rest]
  | ⟨.expr, _, none, _, _, _⟩ :: rest => by
    simp only [bareParts, bareOption, parts, parts_bare quote rest]
  | ⟨.expr, _, some e, _, _, _⟩ :: rest => by
    simp only [bareParts, bareOption, parts, core_bare e, parts_bare quote rest, enclose_bare]

/-- Identities do not show in parameters. -/
theorem params_bare (hints : Bool) : (ps : List (Param Expr)) →
    params hints (bareParams ps) = params hints ps
  | [] => by simp only [bareParams, params]
  | ⟨_, none, none, _, _⟩ :: rest => by
    cases hints <;> simp only [bareParams, bareOption, params, params_bare _ rest]
  | ⟨_, some h, none, _, _⟩ :: rest => by
    cases hints <;>
      simp only [bareParams, bareOption, params, core_bare h, params_bare _ rest, enclose_bare]
  | ⟨_, none, some e, _, _⟩ :: rest => by
    cases hints <;>
      simp only [bareParams, bareOption, params, core_bare e, params_bare _ rest, enclose_bare]
  | ⟨_, some h, some e, _, _⟩ :: rest => by
    cases hints <;>
      simp only [bareParams, bareOption, params, core_bare h, core_bare e, params_bare _ rest,
        enclose_bare]

end

/-- The text in the place of a statement does not depend on identities. -/
@[simp] lemma statementPlace_bare (e : Expr) : statementPlace e.bare = statementPlace e :=
  statementPlace_bare_of (core_bare e)

/-- The text of an operand does not depend on identities. -/
@[simp] lemma operand_bare (e : Expr) (required : Int) :
    operand e.bare required = operand e required := by
  simp only [operand, core_bare, enclose_bare]

/-- Running text does not depend on identities. -/
@[simp] lemma shown_bare (e : Expr) : shown e.bare = shown e := by
  rw [shown, shown, operand_bare]

/-- Running text in the place of a statement does not depend on identities. -/
@[simp] lemma shownTop_bare (e : Expr) : shownTop e.bare = shownTop e := by
  rw [shownTop, shownTop, statementPlace_bare]

/-! ## Statements -/

/-- The text of a pattern does not depend on identities. -/
@[simp] lemma pattern_bare (p : Pattern) : pattern p.bare = pattern p := by
  cases p <;> simp only [Pattern.bare, pattern, shown_bare]

/-- The text of a context does not depend on identities. -/
@[simp] lemma withItem_bare (w : WithItem) : withItem w.bare = withItem w := by
  rw [withItem, withItem, WithItem.bare, operand_bare]

/-- Items are rendered one by one. -/
private lemma mapM_bare {α β : Type} {f : α → Result β} {bare : α → α} (h : ∀ a, f (bare a) = f a)
    (as : List α) : (as.map bare).mapM f = as.mapM f := by
  rw [List.mapM_map]
  exact congrArg (List.mapM · as) (funext h)

/-- The texts of operands do not depend on identities. -/
private lemma mapM_operand_bare (es : List Expr) :
    (es.map Expr.bare).mapM (operand ·) = es.mapM (operand ·) :=
  mapM_bare (fun e => operand_bare e lambdaStrength) es

/-- The text of a simple statement does not depend on identities. -/
@[simp] lemma simple_bare (s : Stmt) : simple s.bare = simple s := by
  cases s with
  | assign targets e i =>
    simp only [Stmt.bare, simple, bareExprs_eq_map, mapM_bare statementPlace_bare,
      statementPlace_bare]
  | annAssign target hint e i => cases e <;> simp [Stmt.bare, simple]
  | returnStmt e i => cases e <;> simp [Stmt.bare, simple]
  | assertStmt test msg i => cases msg <;> simp [Stmt.bare, simple]
  | raiseStmt e cause i => cases e <;> cases cause <;> simp [Stmt.bare, simple]
  | importStmt module names isFrom i =>
    simp only [Stmt.bare, simple, List.map_map]
    rfl
  | deleteStmt targets i =>
    simp only [Stmt.bare, simple, bareExprs_eq_map, mapM_operand_bare]
  | _ => simp [Stmt.bare, simple]

/-- The lines of decorators do not depend on identities. -/
@[simp] lemma decoratorLines_bare (pad : String) (ds : List Expr) :
    decoratorLines pad (ds.map Expr.bare) = decoratorLines pad ds :=
  mapM_bare (fun d => by rw [operand_bare]) ds

/-- The header of a function does not depend on identities. -/
@[simp] lemma functionHeader_bare (name : Datum) (ps : List (Param Expr)) (returns : Option Expr)
    (isAsync : Bool) : functionHeader name (bareParams ps) (returns.map Expr.bare) isAsync =
      functionHeader name ps returns isAsync := by
  cases returns <;> simp only [functionHeader, params_bare, Option.map, shown_bare]

/-- The header of a class does not depend on identities. -/
@[simp] lemma classHeader_bare (name : Datum) (bases : List Expr) :
    classHeader name (bases.map Expr.bare) = classHeader name bases := by
  cases bases with
  | nil => rfl
  | cons e es =>
    have hmap := mapM_operand_bare (e :: es)
    simp only [List.map_cons] at hmap ⊢
    simp only [classHeader, hmap]

/-- The header of a handler does not depend on identities. -/
@[simp] lemma handlerHeader_bare (type : Option Expr) (name : Datum) :
    handlerHeader (type.map Expr.bare) name = handlerHeader type name := by
  cases type <;> simp only [handlerHeader, Option.map, shown_bare]

/-- The lines of a simple statement depend on its comments only. -/
@[simp] lemma simpleLines_bare (pad : String) (s : Stmt) (i : Info) :
    simpleLines pad s.bare i.bare = simpleLines pad s i := by
  rw [simpleLines, simpleLines, simple_bare, Info.bare]

/-- Comments stand around lines whatever the identities are. -/
@[simp] lemma around_bare (pad : String) (i : Info) (header : Nat) (lines : List String) :
    around pad i.bare header lines = around pad i header lines := rfl

/-- Whether a statement is empty does not depend on identities. -/
@[simp] lemma isEmptyStmt_bare (s : Stmt) : isEmptyStmt s.bare = isEmptyStmt s := by
  cases s <;> rfl

mutual

/-- Identities do not show in a statement. -/
theorem stmtLines_bare (width : Int) (depth : Nat) : (s : Stmt) →
    stmtLines width depth s.bare = stmtLines width depth s
  | .ifStmt _ ⟨body, _⟩ elifs orelse _ => by
    simp only [Stmt.bare, stmtLines, shown_bare, clause_bare _ _ _ body, elifLines_bare _ _ elifs,
      optionalClause_bare _ _ _ orelse, around_bare]
  | .whileStmt _ ⟨body, _⟩ orelse _ => by
    simp only [Stmt.bare, stmtLines, shown_bare, clause_bare _ _ _ body,
      optionalClause_bare _ _ _ orelse, around_bare]
  | .forStmt _ _ ⟨body, _⟩ orelse _ _ => by
    simp only [Stmt.bare, stmtLines, shownTop_bare, clause_bare _ _ _ body,
      optionalClause_bare _ _ _ orelse, around_bare]
  | .matchStmt _ cases _ => by
    simp only [Stmt.bare, stmtLines, shownTop_bare, caseLines_bare _ _ cases, around_bare]
  | .functionDef _ _ ⟨body, _⟩ _ _ _ _ => by
    simp only [Stmt.bare, stmtLines, bareExprs_eq_map, bareOption_eq_map, functionHeader_bare,
      decoratorLines_bare, clause_bare _ _ _ body, List.length_map, around_bare]
  | .classDef _ _ ⟨body, _⟩ _ _ => by
    simp only [Stmt.bare, stmtLines, bareExprs_eq_map, classHeader_bare, decoratorLines_bare,
      clause_bare _ _ _ body, List.length_map, around_bare]
  | .tryStmt ⟨body, _⟩ handlers orelse final _ => by
    simp only [Stmt.bare, stmtLines, clause_bare _ _ _ body, handlerLines_bare _ _ handlers,
      optionalClause_bare _ _ _ orelse, optionalClause_bare _ _ _ final, around_bare]
  | .withStmt items ⟨body, _⟩ _ _ => by
    simp only [Stmt.bare, stmtLines, mapM_bare withItem_bare items, clause_bare _ _ _ body,
      around_bare]
  | .empty _ _ => by
    simp only [Stmt.bare, stmtLines]
    rfl
  | .stray _ => by simp only [Stmt.bare]
  | .assign targets e i => simpleLines_bare _ (.assign targets e i) i
  | .annAssign target hint e i => simpleLines_bare _ (.annAssign target hint e i) i
  | .augAssign target op e i => simpleLines_bare _ (.augAssign target op e i) i
  | .exprStmt e i => simpleLines_bare _ (.exprStmt e i) i
  | .passStmt i => simpleLines_bare _ (.passStmt i) i
  | .returnStmt e i => simpleLines_bare _ (.returnStmt e i) i
  | .breakStmt i => simpleLines_bare _ (.breakStmt i) i
  | .continueStmt i => simpleLines_bare _ (.continueStmt i) i
  | .importStmt module names isFrom i => simpleLines_bare _ (.importStmt module names isFrom i) i
  | .assertStmt test msg i => simpleLines_bare _ (.assertStmt test msg i) i
  | .raiseStmt e cause i => simpleLines_bare _ (.raiseStmt e cause i) i
  | .deleteStmt targets i => simpleLines_bare _ (.deleteStmt targets i) i
  | .globalStmt names i => simpleLines_bare _ (.globalStmt names i) i
  | .nonlocalStmt names i => simpleLines_bare _ (.nonlocalStmt names i) i

/-- Identities do not show in statements. -/
theorem stmtsLines_bare (width : Int) (depth : Nat) : (ss : List Stmt) →
    stmtsLines width depth (bareStmts ss) = stmtsLines width depth ss
  | [] => by simp only [bareStmts, stmtsLines]
  | s :: rest => by
    simp only [bareStmts, stmtsLines, stmtLines_bare _ _ s, stmtsLines_bare _ _ rest]

/-- Identities do not show in a body. -/
theorem clause_bare (width : Int) (depth : Nat) (header : String) : (ss : List Stmt) →
    clause width depth header (bareStmts ss) = clause width depth header ss
  | [] => by simp only [bareStmts, clause]
  | s :: rest => by
    have hempty : (s.bare :: bareStmts rest).all isEmptyStmt = (s :: rest).all isEmptyStmt := by
      simp [List.all_map, Function.comp_def]
    simp only [bareStmts, clause, stmtLines_bare _ _ s, stmtsLines_bare _ _ rest, hempty]

/-- Identities do not show in a body that may be left out. -/
theorem optionalClause_bare (width : Int) (depth : Nat) (header : String) :
    (o : Option (Suite Stmt)) →
    optionalClause width depth header (bareSuite o) = optionalClause width depth header o
  | none => by simp only [bareSuite, optionalClause]
  | some ⟨body, _⟩ => by simp only [bareSuite, optionalClause, clause_bare _ _ _ body]

/-- Identities do not show in further conditions. -/
theorem elifLines_bare (width : Int) (depth : Nat) : (cs : List (ElifClause Stmt)) →
    elifLines width depth (bareElifs cs) = elifLines width depth cs
  | [] => by simp only [bareElifs, elifLines]
  | ⟨_, ⟨body, _⟩, _⟩ :: rest => by
    simp only [bareElifs, elifLines, shown_bare, clause_bare _ _ _ body, elifLines_bare _ _ rest]

/-- Identities do not show in cases. -/
theorem caseLines_bare (width : Int) (depth : Nat) : (cs : List (MatchCase Stmt)) →
    caseLines width depth (bareCases cs) = caseLines width depth cs
  | [] => by simp only [bareCases, caseLines]
  | ⟨_, ⟨body, _⟩, _⟩ :: rest => by
    simp only [bareCases, caseLines, pattern_bare, clause_bare _ _ _ body, caseLines_bare _ _ rest]

/-- Identities do not show in handlers. -/
theorem handlerLines_bare (width : Int) (depth : Nat) : (hs : List (Handler Stmt)) →
    handlerLines width depth (bareHandlers hs) = handlerLines width depth hs
  | [] => by simp only [bareHandlers, handlerLines]
  | ⟨_, _, ⟨body, _⟩, _⟩ :: rest => by
    simp only [bareHandlers, handlerLines, bareOption_eq_map, handlerHeader_bare,
      clause_bare _ _ _ body, handlerLines_bare _ _ rest]

end

end Render

open Render

namespace Syntax.Program

/-- Identities do not show in the text of a program. -/
theorem render_bare (p : Program) (mode : Mode) : p.bare.render mode = p.render mode := by
  have hpretty : p.bare.pretty = p.pretty := by
    simp only [pretty, Program.bare, Suite.bare, ← bareStmts_eq_map, stmtsLines_bare]
  unfold render
  rw [hpretty]
  rfl

end Syntax.Program

end BlockText

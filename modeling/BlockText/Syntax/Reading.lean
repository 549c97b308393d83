import BlockText.Syntax.Document

/-!
# Reading programs from documents

`ofDatum` reads the tree that a record describes.  Reading never fails: a record that does not
have the form of an expression, pattern or statement becomes a stray one, so nothing of a
document is lost.
-/

namespace BlockText.Syntax

/-- A value of a vocabulary from its spelling. -/
def choice? (α : Type) [Choice α] : Datum → Option α
  | .text s => Choice.ofSpelling? α s
  | _ => none

/-- A natural number. -/
def natural? : Datum → Option Nat
  | .int (.ofNat n) => some n
  | _ => none

/-- A truth value. -/
def truth? : Datum → Option Bool
  | .bool b => some b
  | _ => none

/-- A position. -/
def Position.ofDatum? : Datum → Option Position
  | .record .position [line, column, offset] => do
    return ⟨← natural? line, ← natural? column, ← natural? offset⟩
  | _ => none

/-- A span. -/
def Span.ofDatum? : Datum → Option Span
  | .record .span [start, stop] => do
    return ⟨← Position.ofDatum? start, ← Position.ofDatum? stop⟩
  | _ => none

/-- A token range. -/
def TokenRange.ofDatum? : Datum → Option TokenRange
  | .record .tokenRange [start, stop] => do return ⟨← natural? start, ← natural? stop⟩
  | _ => none

/-- Trivia. -/
def Trivia.ofDatum? : Datum → Option Trivia
  | .record .trivia [kind, .text s] => do return ⟨← choice? TriviaKind kind, s⟩
  | _ => none

/-- Something that may be left out. -/
def nullable? {α : Type} (f : Datum → Option α) : Datum → Option (Option α)
  | .null => some none
  | d => (f d).map some

/-- A list of things. -/
def listed? {α : Type} (f : Datum → Option α) : Datum → Option (List α)
  | .list items => items.mapM f
  | _ => none

/-- What is known about a node. -/
def Info.ofDatum? : Datum → Option Info
  | .record .info [.int id, span, tokens, leading, trailing] => do
    return {
      id
      span := ← nullable? Span.ofDatum? span
      tokens := ← nullable? TokenRange.ofDatum? tokens
      leading := ← listed? Trivia.ofDatum? leading
      trailing := ← listed? Trivia.ofDatum? trailing }
  | _ => none

/-- The expression that was read, or the datum as a stray. -/
def orStray (d : Datum) (e : Option Expr) : Expr := e.getD (.stray d)

mutual

/-- The expression that a datum describes. -/
def Expr.ofDatum : Datum → Expr
  | .record tag fields =>
    match tag, fields with
    | .identifier, [name, i] =>
      orStray (.record tag fields) do
        return .identifier name (← Info.ofDatum? i)
    | .literal, [kind, raw, value, i] =>
      orStray (.record tag fields) do
        return .literal (← choice? LiteralKind kind) raw value (← Info.ofDatum? i)
    | .binary, [l, op, r, i] =>
      orStray (.record tag fields) do
        return .binary (.ofDatum l) (← choice? BinaryOp op) (.ofDatum r) (← Info.ofDatum? i)
    | .unary, [op, e, i] =>
      orStray (.record tag fields) do
        return .unary (← choice? UnaryOp op) (.ofDatum e) (← Info.ofDatum? i)
    | .boolOp, [op, .list es, i] =>
      orStray (.record tag fields) do
        return .boolOp (← choice? BoolOp op) (exprsOf es) (← Info.ofDatum? i)
    | .compare, [l, .list ops, .list es, i] =>
      orStray (.record tag fields) do
        return .compare (.ofDatum l) (← ops.mapM (choice? CompareOp)) (exprsOf es)
          (← Info.ofDatum? i)
    | .lambda, [.list ps, e, i] =>
      orStray (.record tag fields) do
        return .lambda (← paramsOf ps) (.ofDatum e) (← Info.ofDatum? i)
    | .ifExpr, [t, b, e, i] =>
      orStray (.record tag fields) do
        return .conditional (.ofDatum t) (.ofDatum b) (.ofDatum e) (← Info.ofDatum? i)
    | .call, [f, .list args, .list ks, i] =>
      orStray (.record tag fields) do
        return .call (.ofDatum f) (exprsOf args) (← keywordsOf ks) (← Info.ofDatum? i)
    | .tupleExpr, [.list es, i] =>
      orStray (.record tag fields) do
        return .tuple (exprsOf es) (← Info.ofDatum? i)
    | .listExpr, [.list es, i] =>
      orStray (.record tag fields) do
        return .list (exprsOf es) (← Info.ofDatum? i)
    | .setExpr, [.list es, i] =>
      orStray (.record tag fields) do
        return .set (exprsOf es) (← Info.ofDatum? i)
    | .dictExpr, [.list es, i] =>
      orStray (.record tag fields) do
        return .dict (← entriesOf es) (← Info.ofDatum? i)
    | .attributeExpr, [e, attr, i] =>
      orStray (.record tag fields) do
        return .attribute (.ofDatum e) attr (← Info.ofDatum? i)
    | .subscript, [e, index, i] =>
      orStray (.record tag fields) do
        return .subscript (.ofDatum e) (.ofDatum index) (← Info.ofDatum? i)
    | .slice, [a, b, c, i] =>
      orStray (.record tag fields) do
        return .slice (optionOf a) (optionOf b) (optionOf c) (← Info.ofDatum? i)
    | .comprehension, [kind, e, .list cs, key, i] =>
      orStray (.record tag fields) do
        return .comprehension (← choice? ComprehensionKind kind) (.ofDatum e) (← clausesOf cs)
          (optionOf key) (← Info.ofDatum? i)
    | .grouped, [e, i] =>
      orStray (.record tag fields) do
        return .grouped (.ofDatum e) (← Info.ofDatum? i)
    | .fstring, [.list ps, quote, i] =>
      orStray (.record tag fields) do
        return .fstring (← partsOf ps) quote (← Info.ofDatum? i)
    | .namedExpr, [target, e, i] =>
      orStray (.record tag fields) do
        return .walrus target (.ofDatum e) (← Info.ofDatum? i)
    | .yield, [e, i] =>
      orStray (.record tag fields) do
        return .yield (optionOf e) (← Info.ofDatum? i)
    | .yieldFrom, [e, i] =>
      orStray (.record tag fields) do
        return .yieldFrom (.ofDatum e) (← Info.ofDatum? i)
    | .await, [e, i] =>
      orStray (.record tag fields) do
        return .await (.ofDatum e) (← Info.ofDatum? i)
    | _, _ => .stray (.record tag fields)
  | d => .stray d
termination_by d => 2 * sizeOf d
decreasing_by all_goals simp +arith

/-- An expression that may be left out. -/
def optionOf : Datum → Option Expr
  | .null => none
  | d => some (Expr.ofDatum d)
termination_by d => 2 * sizeOf d + 1
decreasing_by all_goals simp +arith

/-- Several expressions. -/
def exprsOf : List Datum → List Expr
  | [] => []
  | d :: rest => Expr.ofDatum d :: exprsOf rest
termination_by ds => 2 * sizeOf ds
decreasing_by all_goals simp +arith

/-- Parameters. -/
def paramsOf : List Datum → Option (List (Param Expr))
  | [] => some []
  | .record .param [name, hint, preset, kind, i] :: rest => do
    let p : Param Expr :=
      ⟨name, optionOf hint, optionOf preset, ← choice? ParamKind kind, ← Info.ofDatum? i⟩
    return p :: (← paramsOf rest)
  | _ => none
termination_by ds => 2 * sizeOf ds
decreasing_by all_goals simp +arith

/-- Keyword arguments. -/
def keywordsOf : List Datum → Option (List (Keyword Expr))
  | [] => some []
  | .record .keyword [name, e, i] :: rest => do
    let k : Keyword Expr := ⟨name, Expr.ofDatum e, ← Info.ofDatum? i⟩
    return k :: (← keywordsOf rest)
  | _ => none
termination_by ds => 2 * sizeOf ds
decreasing_by all_goals simp +arith

/-- Dictionary entries. -/
def entriesOf : List Datum → Option (List (DictEntry Expr))
  | [] => some []
  | .record .dictEntry [key, e, i] :: rest => do
    let entry : DictEntry Expr := ⟨optionOf key, Expr.ofDatum e, ← Info.ofDatum? i⟩
    return entry :: (← entriesOf rest)
  | _ => none
termination_by ds => 2 * sizeOf ds
decreasing_by all_goals simp +arith

/-- Comprehension clauses. -/
def clausesOf : List Datum → Option (List (Clause Expr))
  | [] => some []
  | .record .comprehensionClause [target, iter, .list ifs, isAsync, i] :: rest => do
    let c : Clause Expr :=
      ⟨Expr.ofDatum target, Expr.ofDatum iter, exprsOf ifs, ← truth? isAsync, ← Info.ofDatum? i⟩
    return c :: (← clausesOf rest)
  | _ => none
termination_by ds => 2 * sizeOf ds
decreasing_by all_goals simp +arith

/-- Parts of a formatted string. -/
def partsOf : List Datum → Option (List (FormatPart Expr))
  | [] => some []
  | .record .fstringPart [kind, text, e, conversion, spec, i] :: rest => do
    let p : FormatPart Expr :=
      ⟨← choice? PartKind kind, text, optionOf e, conversion, spec, ← Info.ofDatum? i⟩
    return p :: (← partsOf rest)
  | _ => none
termination_by ds => 2 * sizeOf ds
decreasing_by all_goals simp +arith

end

/-- The pattern that a datum describes. -/
def Pattern.ofDatum (d : Datum) : Pattern :=
  let read : Option Pattern :=
    match d with
    | .record .wildcardPattern [i] => do return .wildcard (← Info.ofDatum? i)
    | .record .capturePattern [name, i] => do return .capture name (← Info.ofDatum? i)
    | .record .literalPattern [e, i] => do return .literal (.ofDatum e) (← Info.ofDatum? i)
    | _ => none
  read.getD (.stray d)

/-- A context. -/
def WithItem.ofDatum? : Datum → Option WithItem
  | .record .withItem [e, name, i] => do return ⟨.ofDatum e, name, ← Info.ofDatum? i⟩
  | _ => none

/-- An imported name. -/
def ImportName.ofDatum? : Datum → Option ImportName
  | .record .importName [name, asName, i] => do return ⟨name, asName, ← Info.ofDatum? i⟩
  | _ => none

/-- The statement that was read, or the datum as a stray. -/
def orStrayStmt (d : Datum) (s : Option Stmt) : Stmt := s.getD (.stray d)

mutual

/-- The statement that a datum describes. -/
def Stmt.ofDatum : Datum → Stmt
  | .record tag fields =>
    match tag, fields with
    | .ifStmt, [t, body, .list elifs, orelse, i] =>
      orStrayStmt (.record tag fields) do
        return .ifStmt (.ofDatum t) (← suiteOf body) (← elifsOf elifs) (← optionalSuiteOf orelse)
          (← Info.ofDatum? i)
    | .whileStmt, [t, body, orelse, i] =>
      orStrayStmt (.record tag fields) do
        return .whileStmt (.ofDatum t) (← suiteOf body) (← optionalSuiteOf orelse)
          (← Info.ofDatum? i)
    | .forStmt, [target, iter, body, orelse, isAsync, i] =>
      orStrayStmt (.record tag fields) do
        return .forStmt (.ofDatum target) (.ofDatum iter) (← suiteOf body)
          (← optionalSuiteOf orelse) (← truth? isAsync) (← Info.ofDatum? i)
    | .matchStmt, [e, .list cases, i] =>
      orStrayStmt (.record tag fields) do
        return .matchStmt (.ofDatum e) (← casesOf cases) (← Info.ofDatum? i)
    | .functionDef, [name, .list ps, body, .list ds, returns, isAsync, i] =>
      orStrayStmt (.record tag fields) do
        return .functionDef name (← paramsOf ps) (← suiteOf body) (exprsOf ds) (optionOf returns)
          (← truth? isAsync) (← Info.ofDatum? i)
    | .classDef, [name, .list bases, body, .list ds, i] =>
      orStrayStmt (.record tag fields) do
        return .classDef name (exprsOf bases) (← suiteOf body) (exprsOf ds) (← Info.ofDatum? i)
    | .assign, [.list targets, e, i] =>
      orStrayStmt (.record tag fields) do
        return .assign (exprsOf targets) (.ofDatum e) (← Info.ofDatum? i)
    | .annAssign, [target, hint, e, i] =>
      orStrayStmt (.record tag fields) do
        return .annAssign (.ofDatum target) (.ofDatum hint) (optionOf e) (← Info.ofDatum? i)
    | .augAssign, [target, op, e, i] =>
      orStrayStmt (.record tag fields) do
        return .augAssign (.ofDatum target) (← choice? BinaryOp op) (.ofDatum e)
          (← Info.ofDatum? i)
    | .exprStmt, [e, i] =>
      orStrayStmt (.record tag fields) do
        return .exprStmt (.ofDatum e) (← Info.ofDatum? i)
    | .passStmt, [i] =>
      orStrayStmt (.record tag fields) do
        return .passStmt (← Info.ofDatum? i)
    | .returnStmt, [e, i] =>
      orStrayStmt (.record tag fields) do
        return .returnStmt (optionOf e) (← Info.ofDatum? i)
    | .breakStmt, [i] =>
      orStrayStmt (.record tag fields) do
        return .breakStmt (← Info.ofDatum? i)
    | .continueStmt, [i] =>
      orStrayStmt (.record tag fields) do
        return .continueStmt (← Info.ofDatum? i)
    | .importStmt, [module, .list names, isFrom, i] =>
      orStrayStmt (.record tag fields) do
        return .importStmt module (← names.mapM ImportName.ofDatum?) (← truth? isFrom)
          (← Info.ofDatum? i)
    | .tryStmt, [body, .list handlers, orelse, final, i] =>
      orStrayStmt (.record tag fields) do
        return .tryStmt (← suiteOf body) (← handlersOf handlers) (← optionalSuiteOf orelse)
          (← optionalSuiteOf final) (← Info.ofDatum? i)
    | .withStmt, [.list items, body, isAsync, i] =>
      orStrayStmt (.record tag fields) do
        return .withStmt (← items.mapM WithItem.ofDatum?) (← suiteOf body) (← truth? isAsync)
          (← Info.ofDatum? i)
    | .assertStmt, [t, msg, i] =>
      orStrayStmt (.record tag fields) do
        return .assertStmt (.ofDatum t) (optionOf msg) (← Info.ofDatum? i)
    | .raiseStmt, [e, cause, i] =>
      orStrayStmt (.record tag fields) do
        return .raiseStmt (optionOf e) (optionOf cause) (← Info.ofDatum? i)
    | .deleteStmt, [.list targets, i] =>
      orStrayStmt (.record tag fields) do
        return .deleteStmt (exprsOf targets) (← Info.ofDatum? i)
    | .globalStmt, [.list names, i] =>
      orStrayStmt (.record tag fields) do
        return .globalStmt names (← Info.ofDatum? i)
    | .nonlocalStmt, [.list names, i] =>
      orStrayStmt (.record tag fields) do
        return .nonlocalStmt names (← Info.ofDatum? i)
    | .empty, [origin, i] =>
      orStrayStmt (.record tag fields) do
        return .empty (← choice? EmptySource origin) (← Info.ofDatum? i)
    | _, _ => .stray (.record tag fields)
  | d => .stray d

/-- A suite. -/
def suiteOf : Datum → Option (Suite Stmt)
  | .record .suite [.list body, .int level] => some ⟨stmtsOf body, level⟩
  | _ => none

/-- Several statements. -/
def stmtsOf : List Datum → List Stmt
  | [] => []
  | d :: rest => Stmt.ofDatum d :: stmtsOf rest

/-- A suite that may be left out. -/
def optionalSuiteOf : Datum → Option (Option (Suite Stmt))
  | .null => some none
  | .record .suite [.list body, .int level] => some (some ⟨stmtsOf body, level⟩)
  | _ => none

/-- Further conditions. -/
def elifsOf : List Datum → Option (List (ElifClause Stmt))
  | [] => some []
  | .record .elifClause [t, body, i] :: rest => do
    let c : ElifClause Stmt := ⟨.ofDatum t, ← suiteOf body, ← Info.ofDatum? i⟩
    return c :: (← elifsOf rest)
  | _ => none

/-- Cases. -/
def casesOf : List Datum → Option (List (MatchCase Stmt))
  | [] => some []
  | .record .matchCase [p, body, i] :: rest => do
    let c : MatchCase Stmt := ⟨.ofDatum p, ← suiteOf body, ← Info.ofDatum? i⟩
    return c :: (← casesOf rest)
  | _ => none

/-- Handlers. -/
def handlersOf : List Datum → Option (List (Handler Stmt))
  | [] => some []
  | .record .exceptHandler [type, name, body, i] :: rest => do
    let h : Handler Stmt := ⟨optionOf type, name, ← suiteOf body, ← Info.ofDatum? i⟩
    return h :: (← handlersOf rest)
  | _ => none

end

/-- The program that a datum describes. -/
def Program.ofDatum? : Datum → Option Program
  | .record .program [body, .int indentWidth, dirty, source, i] => do
    let source ←
      match source with
      | .null => some none
      | .text s => some (some s)
      | _ => none
    return {
      body := ← suiteOf body
      indentWidth
      dirty := dirty.isTruthy
      source
      info := ← Info.ofDatum? i }
  | _ => none

end BlockText.Syntax

import BlockText.Source.Grammar.Pattern

/-!
# Rules for statements
-/

namespace BlockText.Source.Grammar

open Rule Syntax

variable (g : Grammar)

/-! ## Simple statements -/

/-- Operators that assign the result of an operation. -/
def augmentedOperators : List (String × BinaryOp) :=
  [("+=", .add), ("-=", .sub), ("*=", .mul), ("@=", .matMul), ("/=", .div), ("%=", .mod),
   ("&=", .bitAnd), ("|=", .bitOr), ("^=", .bitXor), ("<<=", .shiftLeft), (">>=", .shiftRight),
   ("**=", .pow), ("//=", .floorDiv)]

/-- More targets of an assignment and at last its value. -/
def assignRest : Nat → List Expr → Rule (List Expr × Expr)
  | 0, _ => fail
  | fuel + 1, targets => do
    discard (op "=")
    let e ← assigned g
    if ← atOp "=" then
      match invalidTarget? false e with
      | none => assignRest fuel (targets ++ [e])
      | some bad =>
        diagnosing (complain bad.range.start.line)
        fail
    else return (targets, e)

/-- Looks for an expression to which nothing can be assigned before an assignment. -/
def diagnoseTarget (e : Expr) : Rule Unit := diagnosing do
  let t ← peek
  if t.isOp ":" then
    advance
    discard g.expression
    complain e.range.start.line
  else if t.isOp "=" then
    match invalidTarget? false e with
    | some bad => complain bad.range.start.line
    | none => pure ()
  else if augmentedOperators.any fun o => t.isOp o.1 then
    advance
    discard (assigned g)
    complain e.range.start.line

/-- An expression statement or an assignment. -/
def expressionStmt : Rule Stmt := do
  let s ← start
  let e ← starExpressions g
  let t ← peek
  if t.isOp ":" && isSingleTarget e then
    advance
    let hint ← g.expression
    let value ← if ← tryOp "=" then some <$> assigned g else pure none
    return .annAssign e hint value (← rangeFrom s)
  else if t.isOp "=" && isTarget e then
    let (targets, value) ← assignRest g (← tokensLeft) [e]
    return .assign targets value (← rangeFrom s)
  else
    match augmentedOperators.find? fun o => t.isOp o.1, isSingleTarget e with
    | some (_, operator), true =>
      advance
      let value ← assigned g
      return .augAssign e operator value (← rangeFrom s)
    | _, _ =>
      diagnoseTarget g e
      return .exprStmt e (← rangeFrom s)

/-- The exception and the cause of a `raise`. -/
def raiseStmt : Rule Stmt := do
  let s ← start
  discard (word "raise")
  match ← optional g.expression with
  | none => return .raiseStmt none none (← rangeFrom s)
  | some e =>
    let cause ← if ← tryWord "from" then some <$> g.expression else pure none
    return .raiseStmt (some e) cause (← rangeFrom s)

/-- A condition and a message. -/
def assertStmt : Rule Stmt := do
  let s ← start
  discard (word "assert")
  let test ← g.expression
  let msg ← if ← tryOp "," then some <$> g.expression else pure none
  return .assertStmt test msg (← rangeFrom s)

/-- Targets to delete. -/
def deleteStmt : Rule Stmt := do
  let s ← start
  discard (word "del")
  let target : Rule Expr := do
    let e ← g.primary
    if isDeletable e then return e
    else
      diagnosing (match invalidTarget? true e with
        | some bad => complain bad.range.start.line
        | none => fail)
      fail
  let first ← target
  let rest ← commaElements target
  if (← atOp ";") || (← atKind .newline) then
    return .deleteStmt (first :: rest) (← rangeFrom s)
  else fail

/-- Names after `global` or `nonlocal`. -/
def namesAfter (w : String) : Rule (List String × Range) := do
  let s ← start
  discard (word w)
  let names ← separated identifier ","
  return (names.map (·.text), ← rangeFrom s)

/-- A name with dots in it. -/
def moduleName : Rule String := do
  let parts ← separated identifier "."
  return String.intercalate "." (parts.map (·.text))

/-- The other name of an import. -/
def asName : Rule (Option String) := do
  if ← tryWord "as" then return some (← identifier).text else return none

/-- An import of modules. -/
def importStmt : Rule Stmt := do
  let s ← start
  discard (word "import")
  let names ← separated (do
    let s ← start
    let name ← moduleName
    let other ← asName
    return (⟨name, other, ← rangeFrom s⟩ : Alias)) ","
  return .importStmt names (← rangeFrom s)

/-- A name imported from a module. -/
def importedName : Rule Alias := do
  let t ← identifier
  let other ← asName
  return ⟨t.text, other, ← rangeFrom t.start⟩

/-- The names imported from a module. -/
def importedNames : Rule (List Alias) := do
  let t ← peek
  if t.isOp "(" then
    advance
    let names ← separated importedName ","
    discard (tryOp ",")
    discard (op ")")
    return names
  else if t.isOp "*" then
    advance
    return [⟨"*", none, ⟨t.start, t.stop⟩⟩]
  else
    let names ← separated importedName ","
    if ← atOp "," then fail else return names

/-- Leading dots of a module name, as text. -/
def leadingDots : Rule String := do
  let dots ← many (take fun t => t.isOp "." || t.isOp "...")
  return String.join (dots.map (·.text))

/-- An import from a module. -/
def fromStmt : Rule Stmt := do
  let s ← start
  discard (word "from")
  let dots ← leadingDots
  let module ←
    if !dots.isEmpty && (← atWord "import") then pure ""
    else moduleName
  discard (word "import")
  let names ← importedNames
  return .fromStmt (dots ++ module) names (← rangeFrom s)

/-- A statement on a line. -/
def simpleStmt : Rule Stmt := do
  let t ← peek
  let range : Range := ⟨t.start, t.stop⟩
  if t.kind != .name then expressionStmt g
  else if t.text == "return" then
    advance
    let value ← optional (starExpressions g)
    return .returnStmt value (← rangeFrom t.start)
  else if t.text == "import" then importStmt
  else if t.text == "from" then fromStmt
  else if t.text == "raise" then raiseStmt g
  else if t.text == "pass" then
    advance
    return .passStmt range
  else if t.text == "del" then deleteStmt g
  else if t.text == "yield" then
    let e ← yieldExpr g
    diagnosing (do if ← atOp "=" then complain e.range.start.line)
    return .exprStmt e (← rangeFrom t.start)
  else if t.text == "assert" then assertStmt g
  else if t.text == "break" then
    advance
    return .breakStmt range
  else if t.text == "continue" then
    advance
    return .continueStmt range
  else if t.text == "global" then
    let (names, range) ← namesAfter "global"
    return .globalStmt names range
  else if t.text == "nonlocal" then
    let (names, range) ← namesAfter "nonlocal"
    return .nonlocalStmt names range
  else expressionStmt g

/-- Statements on one line. -/
def simpleStmts : Rule (List Stmt) := do
  let first ← simpleStmt g
  let rest ← many (do
    discard (op ";")
    if ← atKind .newline then fail else simpleStmt g)
  discard (tryOp ";")
  discard (kind .newline)
  return first :: rest

/-! ## Compound statements -/

/-- The body after a colon. -/
def body : Rule (List Stmt) := do
  discard (op ":")
  g.block

/-- The body after a word that only a colon can follow. -/
def bodyAtOnce : Rule (List Stmt) := do
  discard (require ":")
  g.block

/-- The body of a further word, if it is there. -/
def bodyAfter (w : String) : Rule (List Stmt) := do
  if ← tryWord w then bodyAtOnce g else return []

/-- Conditions after the first one. -/
def ifRest : Nat → Mark → Rule Stmt
  | 0, _ => fail
  | fuel + 1, s => do
    let test ← namedExpression g
    let first ← body g
    let t ← peek
    let orelse ←
      if t.isWord "elif" then do
        advance
        pure [← ifRest fuel t.start]
      else bodyAfter g "else"
    return .ifStmt test first orelse (← rangeFrom s)

/-- A conditional statement. -/
def ifStmt : Rule Stmt := do
  let s ← start
  discard (word "if")
  ifRest g (← tokensLeft) s

/-- A loop with a condition. -/
def whileStmt : Rule Stmt := do
  let s ← start
  discard (word "while")
  let test ← namedExpression g
  let first ← body g
  let orelse ← bodyAfter g "else"
  return .whileStmt test first orelse (← rangeFrom s)

/-- A loop over items; it may start with `async`. -/
def forStmt (s : Mark) (isAsync : Bool) : Rule Stmt := do
  discard (word "for")
  let target ← loopTargets g
  discard (word "in")
  let iter ← starExpressions g
  let first ← body g
  let orelse ← bodyAfter g "else"
  return .forStmt target iter first orelse isAsync (← rangeFrom s)

/-- A context and its target. -/
def context : Rule Context := do
  let e ← g.expression
  let withTarget : Rule Context := do
    discard (word "as")
    let target ← loopTarget g
    if ← atOps [",", ")", ":"] then return ⟨e, some target⟩ else fail
  withTarget <|> (do
    diagnosing (do
      discard (word "as")
      let target ← g.expression
      if ← atOps [",", ")", ":"] then
        match invalidTarget? false target with
        | some bad => complain bad.range.start.line
        | none => fail)
    return ⟨e, none⟩)

/-- The contexts of a `with` statement, in parentheses or not, and the colon after them. -/
def contexts : Rule (List Context) :=
  (do
    discard (op "(")
    let items ← separated (context g) ","
    discard (tryOp ",")
    discard (op ")")
    discard (op ":")
    return items) <|>
  (do
    let items ← separated (context g) ","
    discard (op ":")
    return items)

/-- A statement with contexts; it may start with `async`. -/
def withStmt (s : Mark) (isAsync : Bool) : Rule Stmt := do
  discard (word "with")
  let items ← contexts g
  let first ← g.block
  return .withStmt items first isAsync (← rangeFrom s)

/-- A handler of errors or, with a star, of groups of errors. -/
def handler (isStar : Bool) : Rule (Catch Stmt) := do
  let s ← start
  discard (word "except")
  if isStar then discard (op "*")
  if !isStar && (← atOp ":") then
    let b ← body g
    return ⟨none, none, b, ← rangeFrom s⟩
  else
    let type ← g.expression
    let name ← asName
    let b ← body g
    return ⟨some type, name, b, ← rangeFrom s⟩

/-- Handlers of one kind and what may follow them; handlers of both kinds do not mix. -/
def handled (s : Mark) (first : List Stmt) (isStar : Bool) : Rule Stmt := do
  let handlers ← many1 (handler g isStar)
  diagnosing (do
    discard (handler g !isStar)
    discard (many g.block)
    complainLast)
  let orelse ← bodyAfter g "else"
  let final ← bodyAfter g "finally"
  return .tryStmt first handlers orelse final isStar (← rangeFrom s)

/-- A statement with handlers or with statements that run in any case. -/
def tryStmt : Rule Stmt := do
  let s ← start
  discard (word "try")
  let first ← bodyAtOnce g
  if ← tryWord "finally" then
    let final ← bodyAtOnce g
    return .tryStmt first [] [] final false (← rangeFrom s)
  else handled g s first false <|> handled g s first true

/-- A function after its decorators. -/
def functionDef (decorators : List Expr) (s : Mark) (isAsync : Bool) : Rule Stmt := do
  discard (word "def")
  let name ← identifier
  discard (require "(")
  let args ← arguments g ⟨true, ")"⟩
  discard (op ")")
  let returns ← if ← tryOp "->" then some <$> g.expression else pure none
  let b ← bodyAtOnce g
  return .functionDef name.text args b decorators returns isAsync (← rangeFrom s)

/-- A class after its decorators. -/
def classDef (decorators : List Expr) : Rule Stmt := do
  let s ← start
  discard (word "class")
  let name ← identifier
  let opening ← start
  let args ← if ← tryOp "(" then callArguments g opening true else pure {}
  let b ← body g
  return .classDef name.text args.positional args.keywords b decorators (← rangeFrom s)

/-- A decorator on its line. -/
def decorator : Rule Expr := do
  discard (op "@")
  let e ← namedExpression g
  discard (kind .newline)
  return e

/-- A statement that starts with `async`. -/
def asyncStmt (decorators : List Expr) : Rule Stmt := do
  let s ← start
  discard (word "async")
  let t ← peek
  if t.isWord "def" then functionDef g decorators s true
  else if !decorators.isEmpty then fail
  else if t.isWord "for" then forStmt g s true
  else if t.isWord "with" then withStmt g s true
  else fail

/-- A decorated definition. -/
def decorated : Rule Stmt := do
  let decorators ← many1 (decorator g)
  let t ← peek
  if t.isWord "def" then functionDef g decorators t.start false
  else if t.isWord "class" then classDef g decorators
  else if t.isWord "async" then asyncStmt g decorators
  else fail

/-- What a `match` statement matches. -/
def subject : Rule Expr := do
  let s ← start
  let first ← starNamedExpression g
  if ← atOp "," then
    let rest ← commaElements (starNamedExpression g)
    return .tuple (first :: rest) (← rangeFrom s)
  else
    match first with
    | .starred .. => fail
    | _ => return first

/-- A case of a `match` statement. -/
def caseBlock : Rule (Case Stmt) := do
  discard (word "case")
  let p ← casePattern g
  let guard ← if ← tryWord "if" then some <$> namedExpression g else pure none
  let b ← body g
  return ⟨p, guard, b⟩

/-- A `match` statement. -/
def matchStmt : Rule Stmt := do
  let s ← start
  discard (word "match")
  let e ← subject g
  discard (op ":")
  discard (kind .newline)
  discard (kind .indent)
  let cases ← many1 (caseBlock g)
  discard (kind .dedent)
  return .matchStmt e cases (← rangeFrom s)

/-- A statement or several on one line. -/
def statement : Rule (List Stmt) := do
  let t ← peek
  let single (r : Rule Stmt) : Rule (List Stmt) := do return [← r]
  if t.isOp "@" then single (decorated g)
  else if t.kind != .name then simpleStmts g
  else if t.text == "def" then single (functionDef g [] t.start false)
  else if t.text == "async" then single (asyncStmt g [])
  else if t.text == "if" then single (ifStmt g)
  else if t.text == "class" then single (classDef g [])
  else if t.text == "with" then single (withStmt g t.start false)
  else if t.text == "for" then single (forStmt g t.start false)
  else if t.text == "try" then single (tryStmt g)
  else if t.text == "while" then single (whileStmt g)
  else if t.text == "match" then single (matchStmt g) <|> simpleStmts g
  else simpleStmts g

/-- An indented body, or statements on the same line. -/
def blockRule : Rule (List Stmt) := do
  if ← atKind .newline then
    advance
    discard (kind .indent)
    let statements ← many1 (statement g)
    discard (kind .dedent)
    return statements.flatten
  else simpleStmts g

/-- The whole text. -/
def fileRule : Rule (List Stmt) := do
  let statements ← many (statement g)
  discard (kind .endMarker)
  return statements.flatten

/-- The rules for texts of limited nesting. -/
def ofDepth : Nat → Grammar
  | 0 => .empty
  | n + 1 =>
    let g := ofDepth n
    { expression := expressionRule g
      disjunction := disjunctionRule g
      bitOr := bitOrRule g
      factor := factorRule g
      primary := primaryRule g
      pattern := patternRule g
      block := blockRule g }

end BlockText.Source.Grammar

namespace BlockText.Source

/-- The statements of a text, or the line of the error in it. -/
def parse (names : Text.CharacterNames) (cs : List Char) : Except Nat (List Stmt) :=
  (Grammar.ofDepth (cs.length + 2)).fileRule.run names (lex cs)

end BlockText.Source

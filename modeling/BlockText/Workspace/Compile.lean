import BlockText.Block.Builtin
import BlockText.Identity
import BlockText.Render.Expr
import BlockText.Syntax.Reading
import BlockText.Workspace.Tree

/-!
# The program of a workspace

Reads a program off the blocks: from the start block if there is one, and otherwise from all
chains of statements that nothing holds, from top to bottom.  Every node gets a fresh identity.
Blocks that do not form a legal program are a structural error, and so are fields that hold data
of the wrong kind, except where a text operation meets data that are no text.
-/

namespace BlockText

open Syntax

/-- In which way blocks do not form a program. -/
inductive StructuralErrorKind
  | multipleEntry
  | strayTopLevel
  | continuationWithoutIf
  | caseOutsideMatch
  | emptyMatch
  | nonCaseInMatch
  | invalidPattern
  | syncErrorBlock
  | unsupportedBlock
  deriving DecidableEq

/-- The wording of a kind of error. -/
def StructuralErrorKind.message : StructuralErrorKind → String
  | multipleEntry => "multiple entry"
  | strayTopLevel => "stray top-level statement"
  | continuationWithoutIf => "continuation without if"
  | caseOutsideMatch => "case outside match"
  | emptyMatch => "empty match"
  | nonCaseInMatch => "non-case block in match"
  | invalidPattern => "invalid pattern"
  | syncErrorBlock => "sync error placeholder"
  | unsupportedBlock => "unsupported block"

/-- Why blocks do not form a program, and at which block this shows. -/
structure StructuralError where
  kind : StructuralErrorKind
  detail : String
  block : BlockId
  deriving DecidableEq

/-- The wording of an error. -/
def StructuralError.message (e : StructuralError) : String :=
  e.kind.message ++ ": " ++ e.detail

/-- Why there is no program. -/
inductive CompileError
  | structural (error : StructuralError)
  | fault (fault : Fault)

/-- The wording of an error. -/
def CompileError.message : CompileError → String
  | structural e => e.message
  | fault f => f.message

/-- Reading a program, with a counter of identities that moves on also if there is none. -/
abbrev Compile := ExceptT CompileError (StateM IdCounter)

namespace Compile

/-! ## Steps -/

/-- A fresh identity. -/
def freshInfo : Compile Info := do
  let (info, counter) := (← get).freshInfo
  set counter
  return info

/-- Reports a structural error. -/
def reject {α : Type} (kind : StructuralErrorKind) (detail : String) (block : BlockId) :
    Compile α :=
  throw (.structural ⟨kind, detail, block⟩)

/-- An operation on data. -/
def ofFault {α : Type} (x : Except Fault α) : Compile α :=
  match x with
  | .ok a => pure a
  | .error f => throw (.fault f)

/-- Reports faults of the fields of a block as structural errors; only operations that data do not
have stay faults. -/
def checked {α : Type} (id : BlockId) (b : Block) (x : Compile α) : Compile α :=
  tryCatch x fun e =>
    match e with
    | .fault f =>
      if f.category == .attribute then throw e
      else
        reject .unsupportedBlock
          ("'" ++ b.type.name ++ "' block has invalid fields (" ++ f.message ++ ")") id
    | .structural _ => throw e

/-- A value of a vocabulary. -/
def chosen (α : Type) [Choice α] (id : BlockId) (d : Datum) : Compile α :=
  match choice? α d with
  | some a => pure a
  | none =>
    reject .unsupportedBlock s!"'{d.display}' is not a valid {Choice.vocabulary α}" id

/-- The number in a count field. -/
def countIn (b : Block) (name : String) : Compile Nat := do
  return (← ofFault ((b.field? name).getD (.int 0)).toInteger).toNat

/-- The name that stands for something missing. -/
def missingName : Datum := "_"

/-- The name in a field. -/
def nameIn (b : Block) (field : String) : Datum := (b.field field).orElse missingName

/-- The datum in a field, or nothing if it counts as false. -/
def optionIn (b : Block) (field : String) : Datum := (b.field field).orElse .null

/-- An expression where one is missing. -/
def placeholder : Compile Expr := return .identifier missingName (← freshInfo)

/-- The contents of the slots of a block. -/
abbrev Slots := String → Compile (Option Expr)

/-- What a slot holds, or a placeholder. -/
def required (slots : Slots) (slot : String) : Compile Expr := do
  match ← slots slot with
  | some e => return e
  | none => placeholder

/-- What slots with an index hold. -/
def requiredAll (slots : Slots) (stem : String) (n : Nat) : Compile (List Expr) :=
  (indexed stem n).mapM (required slots)

/-! ## Expressions -/

/-- The type of a parameter, if `hints` is set. -/
def hintAt (slots : Slots) (hints : Bool) (i : Nat) : Compile (Option Expr) :=
  if hints then slots s!"ANNOTATION{i}" else pure none

/-- The parameters of a block, with their types if `hints` is set. -/
def params (id : BlockId) (b : Block) (slots : Slots) (hints : Bool) :
    Compile (List (Param Expr)) := do
  (List.range (← countIn b "item_count")).mapM fun i => do
    let info ← freshInfo
    let hint ← hintAt slots hints i
    let preset ← slots s!"DEFAULT{i}"
    let kind ← chosen ParamKind id ((b.field? s!"PARAM_KIND{i}").getD "normal")
    return ⟨(b.field? s!"PARAM{i}").getD "", hint, preset, kind, info⟩

/-- The keyword arguments of a call block. -/
def keywords (b : Block) (slots : Slots) : Compile (List (Keyword Expr)) := do
  (List.range (← countIn b "keyword_count")).mapM fun i => do
    let info ← freshInfo
    return ⟨optionIn b s!"KWARG_NAME{i}", ← required slots s!"KWARG{i}", info⟩

/-- The entries of a dictionary block. -/
def entries (b : Block) (slots : Slots) : Compile (List (DictEntry Expr)) := do
  (List.range (← countIn b "item_count")).mapM fun i => do
    let info ← freshInfo
    let key ← slots s!"KEY{i}"
    return ⟨key, ← required slots s!"VALUE{i}", info⟩

/-- The clauses of a comprehension block. -/
def clauses (b : Block) (slots : Slots) : Compile (List (Clause Expr)) := do
  (List.range (← countIn b "item_count")).mapM fun i => do
    let info ← freshInfo
    let ifs ← requiredAll slots s!"IF{i}_" (← countIn b s!"IF_COUNT{i}")
    let target ← required slots s!"TARGET{i}"
    let iter ← required slots s!"ITER{i}"
    return ⟨target, iter, ifs, (b.field s!"IS_ASYNC{i}").isTruthy, info⟩

/-- The key of a comprehension block, if it builds a dictionary. -/
def keyOf (slots : Slots) (kind : ComprehensionKind) : Compile (Option Expr) :=
  if kind == .dict then some <$> required slots "KEY" else pure none

/-- The parts of a block for a formatted string. -/
def parts (id : BlockId) (b : Block) (slots : Slots) : Compile (List (FormatPart Expr)) := do
  (List.range (← countIn b "item_count")).mapM fun i => do
    let info ← freshInfo
    let kind ← chosen PartKind id (b.field s!"PART_KIND{i}")
    match kind with
    | .literal => return ⟨kind, (b.field? s!"PART_TEXT{i}").getD "", none, "", "", info⟩
    | .expr =>
      let e ← required slots s!"PART{i}"
      return ⟨kind, "", some e, (b.field? s!"CONVERSION{i}").getD "",
        (b.field? s!"FORMAT_SPEC{i}").getD "", info⟩

/-- The name that a dedicated block calls, given what its field for the name holds. -/
def callee (builtin : BuiltinCall) (field : Datum) (id : BlockId) : Compile String :=
  match builtin.calleeOf? field with
  | some name => pure name
  | none =>
    reject .unsupportedBlock
      ("'" ++ field.display ++ "' is not one of " ++ Text.join ", " builtin.callees) id

/-- The number of arguments of a dedicated block: its count, or what its filled slots are enough
for. -/
def argumentCount (builtin : BuiltinCall) (b : Block) (filled : String → Bool) : Compile Nat :=
  if builtin.stem.isSome then countIn b "item_count"
  else ofFault (builtin.arityFor (b.values.filter filled))

/-- The call that a dedicated block stands for. -/
def builtinCall (builtin : BuiltinCall) (id : BlockId) (b : Block) (filled : String → Bool)
    (slots : Slots) : Compile Expr := do
  let info ← freshInfo
  let name ← callee builtin ((builtin.calleeField.map b.field).getD .null) id
  let func := Expr.identifier name (← freshInfo)
  let arity ← argumentCount builtin b filled
  let args ← ((builtin.slotsFor? arity).getD []).mapM (required slots)
  return .call func args [] info

/-- The spelling of a text block: the one it was read with, or a new one. -/
def textLiteral (b : Block) : Compile Datum := do
  let raw := b.field "raw"
  if raw.isTruthy then return raw
  match Render.spelled ((b.field? "value").getD "") ((b.field? "quote").getD "\"") with
  | .ok spelling => return spelling
  | .error (.fault f) => throw (.fault f)
  | .error (.unsupported _ type) => throw (.fault (.noOperation type "replace"))

/-- The spelling of a number block. -/
def numberLiteral (b : Block) : Datum :=
  let spelling := Text.trimPoints ((b.field? "value").getD "0").displayed
  if spelling.isEmpty then "0" else .ofPoints spelling

/-- The expression of a block, given what its slots hold. -/
def exprOf (id : BlockId) (b : Block) (filled : String → Bool) (slots : Slots) : Compile Expr :=
  match b.type with
  | .identifier => return .identifier (nameIn b "name") (← freshInfo)
  | .number => return .literal .number (numberLiteral b) .null (← freshInfo)
  | .string => do
    let raw ← textLiteral b
    return .literal .string raw ((b.field? "value").getD "") (← freshInfo)
  | .bool =>
    let value := (b.field "value").isTruthy
    return .literal .bool (if value then "True" else "False") (.bool value) (← freshInfo)
  | .none => return .literal .none "None" .null (← freshInfo)
  | .binary => do
    let info ← freshInfo
    let left ← required slots "LEFT"
    let op ← chosen BinaryOp id (b.field "op")
    return .binary left op (← required slots "RIGHT") info
  | .unary => do
    let info ← freshInfo
    let op ← chosen UnaryOp id (b.field "op")
    return .unary op (← required slots "OPERAND") info
  | .boolOp => do
    let info ← freshInfo
    let values ← requiredAll slots "ITEM" (← countIn b "item_count")
    return .boolOp (← chosen BoolOp id (b.field "op")) values info
  | .compare => do
    let info ← freshInfo
    let left ← required slots "LEFT"
    let n ← countIn b "item_count"
    let ops ← (indexed "OP" n).mapM fun name => chosen CompareOp id (b.field name)
    return .compare left ops (← requiredAll slots "CMP" n) info
  | .conditional => do
    let info ← freshInfo
    let test ← required slots "COND"
    let body ← required slots "THEN"
    return .conditional test body (← required slots "ELSE") info
  | .lambda => do
    let info ← freshInfo
    let ps ← params id b slots false
    return .lambda ps (← required slots "EXPR") info
  | .call => do
    let info ← freshInfo
    let func ← required slots "CALLEE"
    let args ← requiredAll slots "ARG" (← countIn b "item_count")
    return .call func args (← keywords b slots) info
  | .tuple => do
    let items ← requiredAll slots "ITEM" (← countIn b "item_count")
    return .tuple items (← freshInfo)
  | .list => do
    let items ← requiredAll slots "ITEM" (← countIn b "item_count")
    return .list items (← freshInfo)
  | .set => do
    let items ← requiredAll slots "ITEM" (← countIn b "item_count")
    return .set items (← freshInfo)
  | .dict => do
    let info ← freshInfo
    return .dict (← entries b slots) info
  | .member => do
    let info ← freshInfo
    return .attribute (← required slots "VALUE") (nameIn b "attr") info
  | .subscript => do
    let info ← freshInfo
    let value ← required slots "VALUE"
    return .subscript value (← required slots "INDEX") info
  | .slice => do
    let info ← freshInfo
    let lower ← slots "LOWER"
    let upper ← slots "UPPER"
    return .slice lower upper (← slots "STEP") info
  | .grouped => do
    let inner ← required slots "EXPR"
    return .grouped inner (← freshInfo)
  | .comprehension => do
    let info ← freshInfo
    let kind ← chosen ComprehensionKind id (b.field "kind")
    let element ← required slots "ELEMENT"
    let key ← keyOf slots kind
    return .comprehension kind element (← clauses b slots) key info
  | .fstring => do
    let info ← freshInfo
    let ps ← parts id b slots
    return .fstring ps ((b.field? "quote").getD "\"") info
  | .walrus => do
    let info ← freshInfo
    return .walrus (nameIn b "name") (← required slots "VALUE") info
  | .yield => do
    let value ← slots "VALUE"
    return .yield value (← freshInfo)
  | .yieldFrom => do
    let value ← required slots "VALUE"
    return .yieldFrom value (← freshInfo)
  | .await => do
    let value ← required slots "VALUE"
    return .await value (← freshInfo)
  | type =>
    match BuiltinCall.ofType? type with
    | some builtin => builtinCall builtin id b filled slots
    | none => reject .unsupportedBlock s!"'{type.name}' cannot be used as a value" id

/-- The expression of a block with what its slots hold; a placeholder where nothing is. -/
def expr : BlockTree → Compile Expr
  | .nothing => placeholder
  | .node id b slot _ =>
    checked id b
      (exprOf id b (fun s => (slot s).isPresent) fun s =>
        if (slot s).isPresent then some <$> expr (slot s) else pure none)

/-- What a place for an expression holds. -/
def optional (t : BlockTree) : Compile (Option Expr) :=
  if t.isPresent then some <$> expr t else pure none

/-! ## Statements -/

/-- The statements in a slot of a block, at a depth. -/
abbrev Bodies := String → Int → Compile (Suite Stmt)

/-- The pattern in the slot of a case block. -/
def pattern (t : BlockTree) : Compile Pattern :=
  match t with
  | .nothing => return .wildcard (← freshInfo)
  | .node id b _ _ =>
    match b.type with
    | .identifier => do
      let name := nameIn b "name"
      if name.equiv missingName then return .wildcard (← freshInfo)
      else return .capture name (← freshInfo)
    | .number | .string | .bool | .none => do
      let info ← freshInfo
      return .literal (← expr t) info
    | type => reject .invalidPattern s!"'{type.name}' cannot be matched against" id

/-- The statements of a body that is there if its flag is set or something is in its slot. -/
def optionalBody (filled : String → Bool) (bodies : Bodies) (depth : Int) (b : Block)
    (flag slot : String) : Compile (Option (Suite Stmt)) :=
  if (b.field flag).isFalsy && !filled slot then pure none
  else some <$> bodies slot (depth + 1)

/-- The handlers of a `try` block. -/
def handlers (slots : Slots) (bodies : Bodies) (depth : Int) (b : Block) :
    Compile (List (Handler Stmt)) := do
  (List.range (← countIn b "handler_count")).mapM fun i => do
    let info ← freshInfo
    let type ← slots s!"EXCEPT_TYPE{i}"
    let body ← bodies s!"EXCEPT_BODY{i}" (depth + 1)
    return ⟨type, optionIn b s!"EXCEPT_NAME{i}", body, info⟩

/-- The contexts of a `with` block. -/
def contexts (slots : Slots) (b : Block) : Compile (List WithItem) := do
  (List.range (← countIn b "item_count")).mapM fun i => do
    let info ← freshInfo
    return ⟨← required slots s!"CONTEXT{i}", optionIn b s!"NAME{i}", info⟩

/-- The names of an import block. -/
def importedNames (b : Block) : Compile (List ImportName) := do
  (List.range (← countIn b "item_count")).mapM fun i => do
    return ⟨(b.field? s!"NAME{i}").getD "", optionIn b s!"ALIAS{i}", ← freshInfo⟩

/-- The names in the text of a declaration block, which commas separate. -/
def declaredNames (b : Block) : Compile (List Datum) := do
  let names ← ofFault (((b.field? "names").getD "").textFor "split")
  return ((Text.splitAt (.char ',') names).map Text.trimPoints).filterMap fun name =>
    if name.isEmpty then none else some (.ofPoints name)

/-- The statement of a block at a depth, given what its slots hold; conditionals and cases are read
off several blocks. -/
def stmtOf (id : BlockId) (b : Block) (filled : String → Bool) (slots : Slots) (bodies : Bodies)
    (cases : Int → Compile (List (MatchCase Stmt))) (depth : Int) : Compile Stmt :=
  match b.type with
  | .whileStmt => do
    let info ← freshInfo
    let test ← required slots "COND"
    let body ← bodies "BODY" (depth + 1)
    return .whileStmt test body (← optionalBody filled bodies depth b "has_else" "ELSE_BODY") info
  | .forStmt => do
    let info ← freshInfo
    let target ← required slots "TARGET"
    let iter ← required slots "ITER"
    let body ← bodies "BODY" (depth + 1)
    let orelse ← optionalBody filled bodies depth b "has_else" "ELSE_BODY"
    return .forStmt target iter body orelse (b.field "is_async").isTruthy info
  | .matchStmt => do
    let info ← freshInfo
    let subject ← required slots "SUBJECT"
    if !filled "CASES" then reject .emptyMatch "add at least one case" id
    return .matchStmt subject (← cases depth) info
  | .functionDef => do
    let info ← freshInfo
    let ps ← params id b slots true
    let body ← bodies "BODY" (depth + 1)
    let decorators ← requiredAll slots "DECORATOR" (← countIn b "decorator_count")
    let returns ← slots "RETURN_TYPE"
    return .functionDef (nameIn b "name") ps body decorators returns (b.field "is_async").isTruthy
      info
  | .classDef => do
    let info ← freshInfo
    let bases ← requiredAll slots "BASE" (← countIn b "item_count")
    let body ← bodies "BODY" (depth + 1)
    let decorators ← requiredAll slots "DECORATOR" (← countIn b "decorator_count")
    return .classDef (nameIn b "name") bases body decorators info
  | .varSet => do
    let info ← freshInfo
    let target := Expr.identifier (nameIn b "name") (← freshInfo)
    return .assign [target] (← required slots "VALUE") info
  | .assign => do
    let info ← freshInfo
    let targets ← requiredAll slots "TARGET" (← countIn b "item_count")
    return .assign targets (← required slots "VALUE") info
  | .annAssign => do
    let info ← freshInfo
    let target ← required slots "TARGET"
    let hint ← required slots "ANNOTATION"
    return .annAssign target hint (← slots "VALUE") info
  | .augAssign => do
    let info ← freshInfo
    let target ← required slots "TARGET"
    let op ← chosen BinaryOp id (b.field "op")
    return .augAssign target op (← required slots "VALUE") info
  | .exprStmt => do
    let e ← required slots "EXPR"
    return .exprStmt e (← freshInfo)
  | .passStmt => return .passStmt (← freshInfo)
  | .breakStmt => return .breakStmt (← freshInfo)
  | .continueStmt => return .continueStmt (← freshInfo)
  | .returnStmt => do
    let value ← slots "VALUE"
    return .returnStmt value (← freshInfo)
  | .importStmt => do
    let info ← freshInfo
    let names ← importedNames b
    return .importStmt ((b.field? "module").getD "") names (b.field "is_from").isTruthy info
  | .tryStmt => do
    let info ← freshInfo
    let body ← bodies "BODY" (depth + 1)
    let hs ← handlers slots bodies depth b
    let orelse ← optionalBody filled bodies depth b "has_else" "ELSE_BODY"
    let final ← optionalBody filled bodies depth b "has_finally" "FINALLY_BODY"
    return .tryStmt body hs orelse final info
  | .withStmt => do
    let info ← freshInfo
    let items ← contexts slots b
    return .withStmt items (← bodies "BODY" (depth + 1)) (b.field "is_async").isTruthy info
  | .assertStmt => do
    let info ← freshInfo
    let test ← required slots "CONDITION"
    return .assertStmt test (← slots "MESSAGE") info
  | .raiseStmt => do
    let info ← freshInfo
    let exception ← slots "EXCEPTION"
    return .raiseStmt exception (← slots "CAUSE") info
  | .deleteStmt => do
    let info ← freshInfo
    return .deleteStmt (← requiredAll slots "TARGET" (← countIn b "item_count")) info
  | .globalStmt => do
    let names ← declaredNames b
    return .globalStmt names (← freshInfo)
  | .nonlocalStmt => do
    let names ← declaredNames b
    return .nonlocalStmt names (← freshInfo)
  | .printStmt | .waitStmt => do
    let info ← freshInfo
    match BuiltinCall.ofType? b.type with
    | some builtin =>
      return .exprStmt (← builtinCall builtin id b filled slots) info
    | none => return .passStmt info
  | type => reject .unsupportedBlock s!"'{type.name}' cannot appear in a statement chain" id

/-- A conditional whose further alternatives are still to come. -/
structure OpenIf where
  test : Expr
  body : Suite Stmt
  elifs : List (ElifClause Stmt)
  info : Info

/-- The conditional with its last alternative. -/
def OpenIf.close (o : OpenIf) (orelse : Option (Suite Stmt)) : Stmt :=
  .ifStmt o.test o.body o.elifs orelse o.info

/-- The conditional that is still open, if any, as a statement. -/
def closing (current : Option OpenIf) : List Stmt :=
  match current with
  | some o => [o.close none]
  | none => []

mutual

/-- The statements of a chain at a depth.  The blocks of the alternatives of a conditional come
right after it and become part of it. -/
def statements : BlockTree → Int → Option OpenIf → Compile (List Stmt)
  | .nothing, _, current => return closing current
  | .node id b slot next, depth, current =>
    let slots : Slots := fun s => optional (slot s)
    let bodies : Bodies := fun s level => return ⟨← statements (slot s) level none, level⟩
    match b.type, current with
    | .ifStmt, _ => do
      let info ← freshInfo
      let test ← required slots "COND"
      let body ← bodies "BODY" (depth + 1)
      return closing current ++ (← statements next depth (some ⟨test, body, [], info⟩))
    | .elifStmt, some o => do
      let info ← freshInfo
      let test ← required slots "COND"
      let body ← bodies "BODY" (depth + 1)
      statements next depth (some { o with elifs := o.elifs ++ [⟨test, body, info⟩] })
    | .elseStmt, some o => do
      let body ← bodies "BODY" (depth + 1)
      return o.close (some body) :: (← statements next depth none)
    | .elifStmt, none | .elseStmt, none =>
      reject .continuationWithoutIf s!"'{b.type.name}' must follow an if block" id
    | .caseStmt, _ => reject .caseOutsideMatch "case blocks belong in a match" id
    | _, _ => do
      let s ← checked id b
        (stmtOf id b (fun s => (slot s).isPresent) slots bodies (cases (slot "CASES")) depth)
      return closing current ++ s :: (← statements next depth none)

/-- The cases in the slot of a `match` block that stands at a depth. -/
def cases : BlockTree → Int → Compile (List (MatchCase Stmt))
  | .nothing, _ => return []
  | .node id b slot next, depth => do
    if b.type != .caseStmt then reject .nonCaseInMatch s!"'{b.type.name}' inside match cases" id
    let info ← freshInfo
    let p ← pattern (slot "PATTERN")
    let body ← statements (slot "BODY") (depth + 2) none
    return ⟨p, ⟨body, depth + 2⟩, info⟩ :: (← cases next depth)

end

/-! ## Programs -/

/-- The statement defines a function or a class. -/
def isDefinition : Stmt → Bool
  | .functionDef .. | .classDef .. => true
  | _ => false

/-- An empty line. -/
def emptyLine : Compile Stmt := return .empty .generated (← freshInfo)

/-- Two empty lines between a definition and its neighbours; `afterDefinition` tells what the
statement before was, if there was one. -/
def spaced (afterDefinition : Option Bool) : List Stmt → Compile (List Stmt)
  | [] => return []
  | s :: rest => do
    let gap ←
      match afterDefinition with
      | none => pure []
      | some before =>
        if before || isDefinition s then
          let first ← emptyLine
          let second ← emptyLine
          pure [first, second]
        else pure []
    return gap ++ s :: (← spaced (some (isDefinition s)) rest)

/-- The blocks that nothing holds and that are statements, from top to bottom. -/
def looseStatements (ws : Workspace) : List (BlockId × Block) :=
  ws.orderedTops.filterMap fun id =>
    match ws.block? id with
    | some b => if b.isStatement then some (id, b) else none
    | none => none

/-- The statements of the program. -/
def topStatements (ws : Workspace) : Compile (List Stmt) := do
  if let id :: _ := ws.ofType .syncError then
    reject .syncErrorBlock "fix the text error first" id
  match ws.ofType .start with
  | _ :: second :: rest =>
    reject .multipleEntry s!"{rest.length + 2} entry blocks" second
  | [entry] =>
    if let (id, b) :: _ := looseStatements ws then
      reject .strayTopLevel s!"'{b.type.name}' is not attached to the program" id
    statements (ws.tree (ws.held? entry "BODY")) 0 none
  | [] =>
    let chains ← (looseStatements ws).mapM fun (id, _) => statements (ws.tree (some id)) 0 none
    return chains.flatten

/-- The program of a workspace. -/
def program (ws : Workspace) (indentWidth : Int) : Compile Program := do
  let body ← spaced none (← topStatements ws)
  return {
    body := ⟨body, 0⟩
    indentWidth
    dirty := true
    source := none
    info := ← freshInfo }

end Compile

/-- The program of a workspace and the counter of identities afterwards. -/
def Workspace.compile (ws : Workspace) (counter : IdCounter) (indentWidth : Int := 4) :
    Except CompileError Program × IdCounter :=
  (Compile.program ws indentWidth).run counter

end BlockText

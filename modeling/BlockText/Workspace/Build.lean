import BlockText.Block.Builtin
import BlockText.Datum.Json
import BlockText.Syntax.Document
import BlockText.Text.Literal
import BlockText.Workspace.Edit

/-!
# Blocks of a program

Replaces the content of a workspace by the blocks of a program: one block for each expression,
and for each statement one block, or several in a row for the parts of a conditional.  Counts are
set first, so that the slots are there when their contents are plugged in.  A program whose
document is installed already is left alone.
-/

namespace BlockText.Edit

open Syntax

/-- A new block with some of its fields set, in order. -/
def newBlock (type : BlockType) (fields : List (String × Datum) := []) : Edit BlockId := do
  let id ← create type
  fields.forM fun (name, value) => setField id name value
  return id

/-- Plugs in a value that may be missing. -/
def plug (parent : BlockId) (slot : String) (child : Option BlockId) : Edit Unit :=
  match child with
  | some child => discard (connectValue parent slot child)
  | none => pure ()

/-- Puts statements that may be missing into a slot. -/
def fill (parent : BlockId) (slot : String) (first : Option BlockId) : Edit Unit :=
  match first with
  | some first => discard (connectStatement parent slot first)
  | none => pure ()

/-- Remembers from which text a block came. -/
def recordSpan (id : BlockId) (info : Info) : Edit Unit :=
  match info.span with
  | some span => modify fun ws => { ws with spans := putEntry ws.spans id span }
  | none => pure ()

/-- A number in a count field. -/
def count (n : Nat) : Datum := .int n

/-! ## Expressions -/

/-- The block of a literal. -/
def literalBlock (kind : LiteralKind) (raw value : Datum) : Edit BlockId :=
  match kind with
  | .number => newBlock .number [("value", raw)]
  | .string =>
    match raw.points? with
    | some ps =>
      newBlock .string
        [("value", if value.isNull then "" else value),
         ("quote", (Text.delimiterOfPoints ps).toText), ("raw", raw)]
    | none => throw (.fault (.noLength raw.typeWord))
  | .bool => newBlock .bool [("value", .bool value.isTruthy)]
  | .none => newBlock .none

/-- A datum where an expression should be. -/
def strayExpr (d : Datum) : Edit (Option BlockId) :=
  if d.isNull then pure none else throw (.noBlock "expression" d.typeWord)

/-- The dedicated block of a call, before its arguments are plugged in. -/
def builtinBlock (b : BuiltinCall) (f : Expr) (arity : Nat) : Edit BlockId := do
  let id ← newBlock b.type
  if let (some field, .identifier name _) := (b.calleeField, f) then setField id field name
  if b.stem.isSome then setField id "item_count" (count arity)
  return id

mutual

/-- The block of an expression; nothing where nothing stands. -/
def exprBlock : Expr → Edit (Option BlockId)
  | .identifier name _ => some <$> newBlock .identifier [("name", name)]
  | .literal kind raw value _ => some <$> literalBlock kind raw value
  | .binary l op r _ => do
    let id ← newBlock .binary [("op", spelled op)]
    plug id "LEFT" (← exprBlock l)
    plug id "RIGHT" (← exprBlock r)
    return some id
  | .unary op e _ => do
    let id ← newBlock .unary [("op", spelled op)]
    plug id "OPERAND" (← exprBlock e)
    return some id
  | .boolOp op es _ => do
    let id ← newBlock .boolOp [("op", spelled op), ("item_count", count es.length)]
    plugAll id "ITEM" 0 es
    return some id
  | .compare l ops es _ => do
    let id ← newBlock .compare [("item_count", count ops.length)]
    plug id "LEFT" (← exprBlock l)
    plugComparisons id 0 ops es
    return some id
  | .lambda ps body _ => do
    let id ← newBlock .lambda [("item_count", count ps.length)]
    plugParams id false 0 ps
    plug id "EXPR" (← exprBlock body)
    return some id
  | .conditional t b e _ => do
    let id ← newBlock .conditional
    plug id "COND" (← exprBlock t)
    plug id "THEN" (← exprBlock b)
    plug id "ELSE" (← exprBlock e)
    return some id
  | .call f args ks _ =>
    match BuiltinCall.match? f args.length (!ks.isEmpty) false with
    | some b => do
      let id ← builtinBlock b f args.length
      plugInto id ((b.slotsFor? args.length).getD []) args
      return some id
    | none => do
      let id ← newBlock .call
        [("item_count", count args.length), ("keyword_count", count ks.length)]
      plug id "CALLEE" (← exprBlock f)
      plugAll id "ARG" 0 args
      plugKeywords id 0 ks
      return some id
  | .tuple es _ => do
    let id ← newBlock .tuple [("item_count", count es.length)]
    plugAll id "ITEM" 0 es
    return some id
  | .list es _ => do
    let id ← newBlock .list [("item_count", count es.length)]
    plugAll id "ITEM" 0 es
    return some id
  | .set es _ => do
    let id ← newBlock .set [("item_count", count es.length)]
    plugAll id "ITEM" 0 es
    return some id
  | .dict entries _ => do
    let id ← newBlock .dict [("item_count", count entries.length)]
    plugEntries id 0 entries
    return some id
  | .attribute e attr _ => do
    let id ← newBlock .member [("attr", attr)]
    plug id "VALUE" (← exprBlock e)
    return some id
  | .subscript e index _ => do
    let id ← newBlock .subscript
    plug id "VALUE" (← exprBlock e)
    plug id "INDEX" (← exprBlock index)
    return some id
  | .slice lower upper step _ => do
    let id ← newBlock .slice
    plug id "LOWER" (← optionBlock lower)
    plug id "UPPER" (← optionBlock upper)
    plug id "STEP" (← optionBlock step)
    return some id
  | .comprehension kind e cs key _ => do
    let id ← newBlock .comprehension [("kind", spelled kind), ("item_count", count cs.length)]
    plug id "ELEMENT" (← exprBlock e)
    plug id "KEY" (← optionBlock key)
    plugClauses id 0 cs
    return some id
  | .grouped e _ => do
    let id ← newBlock .grouped
    plug id "EXPR" (← exprBlock e)
    return some id
  | .fstring parts quote _ => do
    let id ← newBlock .fstring [("quote", quote), ("item_count", count parts.length)]
    plugParts id 0 parts
    return some id
  | .walrus target e _ => do
    let id ← newBlock .walrus [("name", target)]
    plug id "VALUE" (← exprBlock e)
    return some id
  | .yield e _ => do
    let id ← newBlock .yield
    plug id "VALUE" (← optionBlock e)
    return some id
  | .yieldFrom e _ => do
    let id ← newBlock .yieldFrom
    plug id "VALUE" (← exprBlock e)
    return some id
  | .await e _ => do
    let id ← newBlock .await
    plug id "VALUE" (← exprBlock e)
    return some id
  | .stray d => strayExpr d

/-- The block of an optional expression. -/
def optionBlock : Option Expr → Edit (Option BlockId)
  | some e => exprBlock e
  | none => pure none

/-- Plugs expressions into slots with an index. -/
def plugAll (id : BlockId) (stem : String) (index : Nat) : List Expr → Edit Unit
  | [] => pure ()
  | e :: rest => do
    plug id s!"{stem}{index}" (← exprBlock e)
    plugAll id stem (index + 1) rest

/-- Plugs expressions into the given slots. -/
def plugInto (id : BlockId) : List String → List Expr → Edit Unit
  | slot :: slots, e :: rest => do
    plug id slot (← exprBlock e)
    plugInto id slots rest
  | _, _ => pure ()

/-- The operators and right sides of comparisons. -/
def plugComparisons (id : BlockId) (index : Nat) : List CompareOp → List Expr → Edit Unit
  | op :: ops, e :: rest => do
    setField id s!"OP{index}" (spelled op)
    plug id s!"CMP{index}" (← exprBlock e)
    plugComparisons id (index + 1) ops rest
  | _, _ => pure ()

/-- Parameters, with their types if `hints` is set. -/
def plugParams (id : BlockId) (hints : Bool) (index : Nat) : List (Param Expr) → Edit Unit
  | [] => pure ()
  | ⟨name, hint, preset, kind, _⟩ :: rest => do
    setField id s!"PARAM{index}" name
    setField id s!"PARAM_KIND{index}" (spelled kind)
    if hints then plug id s!"ANNOTATION{index}" (← optionBlock hint)
    plug id s!"DEFAULT{index}" (← optionBlock preset)
    plugParams id hints (index + 1) rest

/-- Keyword arguments. -/
def plugKeywords (id : BlockId) (index : Nat) : List (Keyword Expr) → Edit Unit
  | [] => pure ()
  | ⟨name, value, _⟩ :: rest => do
    setField id s!"KWARG_NAME{index}" (name.orElse "")
    plug id s!"KWARG{index}" (← exprBlock value)
    plugKeywords id (index + 1) rest

/-- Entries of a dictionary. -/
def plugEntries (id : BlockId) (index : Nat) : List (DictEntry Expr) → Edit Unit
  | [] => pure ()
  | ⟨key, value, _⟩ :: rest => do
    plug id s!"KEY{index}" (← optionBlock key)
    plug id s!"VALUE{index}" (← exprBlock value)
    plugEntries id (index + 1) rest

/-- Clauses of a comprehension. -/
def plugClauses (id : BlockId) (index : Nat) : List (Clause Expr) → Edit Unit
  | [] => pure ()
  | ⟨target, iter, ifs, isAsync, _⟩ :: rest => do
    setField id s!"IS_ASYNC{index}" (.bool isAsync)
    setField id s!"IF_COUNT{index}" (count ifs.length)
    plug id s!"TARGET{index}" (← exprBlock target)
    plug id s!"ITER{index}" (← exprBlock iter)
    plugAll id s!"IF{index}_" 0 ifs
    plugClauses id (index + 1) rest

/-- Parts of a formatted string. -/
def plugParts (id : BlockId) (index : Nat) : List (FormatPart Expr) → Edit Unit
  | [] => pure ()
  | ⟨kind, text, e, conversion, spec, _⟩ :: rest => do
    setField id s!"PART_KIND{index}" (spelled kind)
    setField id s!"PART_TEXT{index}" text
    setField id s!"CONVERSION{index}" conversion
    setField id s!"FORMAT_SPEC{index}" spec
    plug id s!"PART{index}" (← optionBlock e)
    plugParts id (index + 1) rest

end

/-! ## Patterns -/

/-- The block of a pattern. -/
def patternBlock : Pattern → Edit BlockId
  | .wildcard _ => newBlock .identifier [("name", "_")]
  | .capture name _ => newBlock .identifier [("name", name)]
  | .literal (.literal kind raw value _) _ => literalBlock kind raw value
  | .literal e _ => throw (.fault (.noOperation e.toDatum.typeWord "kind"))
  | .stray d => throw (.noBlock "pattern" d.typeWord)

/-! ## Statements -/

/-- The block of an import. -/
def importBlock (module : Datum) (names : List ImportName) (isFrom : Bool) : Edit BlockId := do
  let id ← newBlock .importStmt
    [("module", module), ("is_from", .bool isFrom), ("item_count", count names.length)]
  names.zipIdx.forM fun (n, i) => do
    setField id s!"NAME{i}" n.name
    setField id s!"ALIAS{i}" (n.asName.orElse "")
  return id

/-- The names of a declaration as one text. -/
def namesText (names : List Datum) : Edit Datum := do
  let parts ← names.zipIdx.mapM fun (d, i) =>
    match d.points? with
    | some ps => pure ps
    | none => throw (.fault (.notJoinable i d.typeWord))
  return .ofPoints (Text.joinPoints ", " parts)

/-- The block of an assignment before its value is plugged in. -/
def targetsBlock (targets : List Expr) : Edit BlockId :=
  match targets with
  | [.identifier name _] => newBlock .varSet [("name", name)]
  | _ => do
    let id ← newBlock .assign [("item_count", count targets.length)]
    plugAll id "TARGET" 0 targets
    return id

/-- The block of an expression as a statement. -/
def exprStmtBlock (e : Expr) : Edit BlockId := do
  let dedicated :=
    match e with
    | .call f args ks _ =>
      (BuiltinCall.match? f args.length (!ks.isEmpty) true).map fun b => (b, args)
    | _ => none
  match dedicated with
  | some (b, args) =>
    let id ← newBlock b.type
    plugInto id ((b.slotsFor? args.length).getD []) args
    return id
  | none =>
    let id ← newBlock .exprStmt
    plug id "EXPR" (← exprBlock e)
    return id

/-- A statement without parts. -/
def plainBlock (type : BlockType) (info : Info) : Edit (List BlockId) := do
  let id ← newBlock type
  recordSpan id info
  return [id]

/-- Puts blocks at the end of a chain. -/
def appendBlocks (first tail : Option BlockId) :
    List BlockId → Edit (Option BlockId × Option BlockId)
  | [] => return (first, tail)
  | id :: rest => do
    match tail with
    | some before =>
      let _ ← connectNext before id
      appendBlocks first (some id) rest
    | none => appendBlocks (some id) (some id) rest

mutual

/-- The blocks of a statement, in the order in which they follow each other. -/
def stmtBlocks : Stmt → Edit (List BlockId)
  | .ifStmt t ⟨body, _⟩ elifs orelse info => do
    let id ← newBlock .ifStmt
    plug id "COND" (← exprBlock t)
    fill id "BODY" (← suiteBlocks none none body)
    let others ← elifBlocks elifs
    let final ← elseBlock orelse
    recordSpan id info
    return id :: others ++ final
  | .whileStmt t ⟨body, _⟩ orelse info => do
    let id ← newBlock .whileStmt [("has_else", .bool orelse.isSome)]
    plug id "COND" (← exprBlock t)
    fill id "BODY" (← suiteBlocks none none body)
    fill id "ELSE_BODY" (← optionalSuite orelse)
    recordSpan id info
    return [id]
  | .forStmt target iter ⟨body, _⟩ orelse isAsync info => do
    let id ← newBlock .forStmt [("is_async", .bool isAsync), ("has_else", .bool orelse.isSome)]
    plug id "TARGET" (← exprBlock target)
    plug id "ITER" (← exprBlock iter)
    fill id "BODY" (← suiteBlocks none none body)
    fill id "ELSE_BODY" (← optionalSuite orelse)
    recordSpan id info
    return [id]
  | .matchStmt subject cases info => do
    let id ← newBlock .matchStmt
    plug id "SUBJECT" (← exprBlock subject)
    caseBlocks id none cases
    recordSpan id info
    return [id]
  | .functionDef name ps ⟨body, _⟩ decorators returns isAsync info => do
    let id ← newBlock .functionDef
      [("name", name), ("is_async", .bool isAsync), ("item_count", count ps.length),
       ("decorator_count", count decorators.length)]
    plugParams id true 0 ps
    plugAll id "DECORATOR" 0 decorators
    plug id "RETURN_TYPE" (← optionBlock returns)
    fill id "BODY" (← suiteBlocks none none body)
    recordSpan id info
    return [id]
  | .classDef name bases ⟨body, _⟩ decorators info => do
    let id ← newBlock .classDef
      [("name", name), ("item_count", count bases.length),
       ("decorator_count", count decorators.length)]
    plugAll id "BASE" 0 bases
    plugAll id "DECORATOR" 0 decorators
    fill id "BODY" (← suiteBlocks none none body)
    recordSpan id info
    return [id]
  | .assign targets value info => do
    let id ← targetsBlock targets
    plug id "VALUE" (← exprBlock value)
    recordSpan id info
    return [id]
  | .annAssign target hint value info => do
    let id ← newBlock .annAssign
    plug id "TARGET" (← exprBlock target)
    plug id "ANNOTATION" (← exprBlock hint)
    plug id "VALUE" (← optionBlock value)
    recordSpan id info
    return [id]
  | .augAssign target op value info => do
    let id ← newBlock .augAssign [("op", spelled op)]
    plug id "TARGET" (← exprBlock target)
    plug id "VALUE" (← exprBlock value)
    recordSpan id info
    return [id]
  | .exprStmt e info => do
    let id ← exprStmtBlock e
    recordSpan id info
    return [id]
  | .passStmt info => plainBlock .passStmt info
  | .breakStmt info => plainBlock .breakStmt info
  | .continueStmt info => plainBlock .continueStmt info
  | .returnStmt value info => do
    let id ← newBlock .returnStmt
    plug id "VALUE" (← optionBlock value)
    recordSpan id info
    return [id]
  | .importStmt module names isFrom info => do
    let id ← importBlock module names isFrom
    recordSpan id info
    return [id]
  | .tryStmt ⟨body, _⟩ handlers orelse final info => do
    let id ← newBlock .tryStmt
      [("handler_count", count handlers.length), ("has_else", .bool orelse.isSome),
       ("has_finally", .bool final.isSome)]
    fill id "BODY" (← suiteBlocks none none body)
    handlerBlocks id 0 handlers
    fill id "ELSE_BODY" (← optionalSuite orelse)
    fill id "FINALLY_BODY" (← optionalSuite final)
    recordSpan id info
    return [id]
  | .withStmt items ⟨body, _⟩ isAsync info => do
    let id ← newBlock .withStmt [("is_async", .bool isAsync), ("item_count", count items.length)]
    items.zipIdx.forM fun (item, i) => do
      plug id s!"CONTEXT{i}" (← exprBlock item.context)
      setField id s!"NAME{i}" (item.name.orElse "")
    fill id "BODY" (← suiteBlocks none none body)
    recordSpan id info
    return [id]
  | .assertStmt t msg info => do
    let id ← newBlock .assertStmt
    plug id "CONDITION" (← exprBlock t)
    plug id "MESSAGE" (← optionBlock msg)
    recordSpan id info
    return [id]
  | .raiseStmt exception cause info => do
    let id ← newBlock .raiseStmt
    plug id "EXCEPTION" (← optionBlock exception)
    plug id "CAUSE" (← optionBlock cause)
    recordSpan id info
    return [id]
  | .deleteStmt targets info => do
    let id ← newBlock .deleteStmt [("item_count", count targets.length)]
    plugAll id "TARGET" 0 targets
    recordSpan id info
    return [id]
  | .globalStmt names info => do
    let id ← newBlock .globalStmt [("names", ← namesText names)]
    recordSpan id info
    return [id]
  | .nonlocalStmt names info => do
    let id ← newBlock .nonlocalStmt [("names", ← namesText names)]
    recordSpan id info
    return [id]
  | .empty _ _ => return []
  | .stray d => throw (.noBlock "statement" d.typeWord)

/-- Chains the blocks of statements.  `first` is the first block of the chain so far and `tail` its
last one; the result is the first block. -/
def suiteBlocks (first tail : Option BlockId) : List Stmt → Edit (Option BlockId)
  | [] => pure first
  | s :: rest => do
    let (first, tail) ← appendBlocks first tail (← stmtBlocks s)
    suiteBlocks first tail rest

/-- The statements of a suite that may be missing. -/
def optionalSuite : Option (Suite Stmt) → Edit (Option BlockId)
  | some ⟨body, _⟩ => suiteBlocks none none body
  | none => pure none

/-- The blocks of further conditions. -/
def elifBlocks : List (ElifClause Stmt) → Edit (List BlockId)
  | [] => return []
  | ⟨t, ⟨body, _⟩, info⟩ :: rest => do
    let id ← newBlock .elifStmt
    plug id "COND" (← exprBlock t)
    fill id "BODY" (← suiteBlocks none none body)
    recordSpan id info
    return id :: (← elifBlocks rest)

/-- The block of a last alternative. -/
def elseBlock : Option (Suite Stmt) → Edit (List BlockId)
  | some ⟨body, _⟩ => do
    let id ← newBlock .elseStmt
    fill id "BODY" (← suiteBlocks none none body)
    return [id]
  | none => return []

/-- The blocks of cases, chained in the slot of their `match` block. -/
def caseBlocks (parent : BlockId) (tail : Option BlockId) : List (MatchCase Stmt) → Edit Unit
  | [] => return ()
  | ⟨p, ⟨body, _⟩, info⟩ :: rest => do
    let id ← newBlock .caseStmt
    let _ ← connectValue id "PATTERN" (← patternBlock p)
    fill id "BODY" (← suiteBlocks none none body)
    recordSpan id info
    match tail with
    | some before => let _ ← connectNext before id
    | none => let _ ← connectStatement parent "CASES" id
    caseBlocks parent (some id) rest

/-- The handlers of a `try` block. -/
def handlerBlocks (id : BlockId) (index : Nat) : List (Handler Stmt) → Edit Unit
  | [] => return ()
  | ⟨type, name, ⟨body, _⟩, _⟩ :: rest => do
    plug id s!"EXCEPT_TYPE{index}" (← optionBlock type)
    setField id s!"EXCEPT_NAME{index}" (name.orElse "")
    fill id s!"EXCEPT_BODY{index}" (← suiteBlocks none none body)
    handlerBlocks id (index + 1) rest

end

/-! ## Programs -/

/-- Where the start of a program lies. -/
def entrySpot : Point := ⟨24, 24⟩

/-- Removes everything, with what was known about the text. -/
def wipe : Edit Unit := do
  clear
  modify fun ws => { ws with spans := [] }

/-- Replaces everything by the blocks of a program, keeping the view. -/
def install (p : Program) : Edit Unit := do
  let viewport := (← get).viewport
  wipe
  let entry ← create .start
  fill entry "BODY" (← suiteBlocks none none p.body.statements)
  moveBy entry entrySpot
  cleanUp entrySpot
  setViewport viewport

/-- Shows a program.  Returns whether the blocks had to be replaced. -/
def build (p : Program) : Edit Bool := do
  let document := p.body.toDatum.toJson
  if (← get).installed == some document then return false
  quietly (install p)
  refreshDeclared
  modify fun ws => { ws with installed := some document, rebuilds := ws.rebuilds + 1 }
  return true

/-- Replaces everything by a block that shows an error, keeping the view. -/
def showError (message : String) : Edit Unit := do
  quietly do
    let viewport := (← get).viewport
    wipe
    let id ← create .syncError entrySpot
    setField id "message" message
    setViewport viewport
  refreshDeclared
  modify fun ws => { ws with installed := none }

/-- Forgets which document is shown, so that the next program replaces the blocks. -/
def invalidate : Edit Unit := modify fun ws => { ws with installed := none }

end BlockText.Edit

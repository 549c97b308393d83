import BlockText.Block.Type
import BlockText.Fault

/-!
# Blocks

A block has slots for values, slots for statements and fields.  Some fields count things, and the
slots and fields with an index follow those counts.
-/

namespace BlockText

/-- What the counts of a block add to the slots and fields that its type always has. -/
structure BlockShape where
  values : List String := []
  statements : List String := []
  fields : List (String × Datum) := []

/-- Names with an index. -/
def indexed (stem : String) (count : Nat) : List String :=
  (List.range count).map fun i => s!"{stem}{i}"

/-- The number that a count field denotes; anything empty counts as zero. -/
def countOf (fields : List (String × Datum)) (name : String) : Except Fault Nat := do
  let d := (entryAt? fields name).getD (.int 0)
  return (← (d.orElse (.int 0)).toInteger).toNat

/-- Fields for parameters. -/
def paramFields (count : Nat) : List (String × Datum) :=
  (List.range count).flatMap fun i => [(s!"PARAM{i}", "" ), (s!"PARAM_KIND{i}", "normal")]

namespace BlockType

/-- The value slots that every block of a type has. -/
def valueSlots : BlockType → List String
  | ifStmt | elifStmt | whileStmt => ["COND"]
  | forStmt => ["TARGET", "ITER"]
  | matchStmt => ["SUBJECT"]
  | caseStmt => ["PATTERN"]
  | functionDef => ["RETURN_TYPE"]
  | varSet | assign | returnStmt | printStmt | waitStmt | walrus | yield | yieldFrom | await
  | member | round | typeConvert | mathFunc => ["VALUE"]
  | annAssign => ["TARGET", "ANNOTATION", "VALUE"]
  | augAssign => ["TARGET", "VALUE"]
  | exprStmt | lambda | grouped => ["EXPR"]
  | assertStmt => ["CONDITION", "MESSAGE"]
  | raiseStmt => ["EXCEPTION", "CAUSE"]
  | binary => ["LEFT", "RIGHT"]
  | unary => ["OPERAND"]
  | compare => ["LEFT"]
  | conditional => ["COND", "THEN", "ELSE"]
  | call => ["CALLEE"]
  | subscript => ["VALUE", "INDEX"]
  | slice => ["LOWER", "UPPER", "STEP"]
  | comprehension => ["ELEMENT", "KEY"]
  | range => ["START", "STOP", "STEP"]
  | len | typeCheck => ["OBJ"]
  | input => ["PROMPT"]
  | enumerate => ["ITERABLE", "START"]
  | sorted | reversed => ["ITERABLE"]
  | isInstance => ["OBJ", "TYPE"]
  | _ => []

/-- The statement slots that every block of a type has. -/
def statementSlots : BlockType → List String
  | start | ifStmt | elifStmt | elseStmt | caseStmt | withStmt | functionDef | classDef => ["BODY"]
  | whileStmt | forStmt => ["BODY", "ELSE_BODY"]
  | matchStmt => ["CASES"]
  | tryStmt => ["BODY", "ELSE_BODY", "FINALLY_BODY"]
  | _ => []

/-- The fields that every block of a type has, with the values they start with. -/
def fields : BlockType → List (String × Datum)
  | syncError => [("message", "")]
  | whileStmt => [("has_else", .bool false)]
  | forStmt => [("is_async", .bool false), ("has_else", .bool false)]
  | tryStmt => [("handler_count", .int 0), ("has_else", .bool false), ("has_finally", .bool false)]
  | withStmt => [("is_async", .bool false), ("item_count", .int 1)]
  | functionDef =>
    [("name", ""), ("is_async", .bool false), ("item_count", .int 0), ("decorator_count", .int 0)]
  | classDef => [("name", ""), ("item_count", .int 0), ("decorator_count", .int 0)]
  | varSet | identifier | walrus => [("name", "")]
  | assign | deleteStmt | compare => [("item_count", .int 1)]
  | augAssign | binary => [("op", "+")]
  | importStmt => [("module", ""), ("is_from", .bool false), ("item_count", .int 1)]
  | globalStmt | nonlocalStmt => [("names", "")]
  | number => [("value", "0")]
  | string => [("value", ""), ("quote", "\""), ("raw", "")]
  | bool => [("value", .bool false)]
  | unary => [("op", "-")]
  | boolOp => [("op", "and"), ("item_count", .int 2)]
  | lambda | tuple | list | set | dict => [("item_count", .int 0)]
  | call => [("item_count", .int 0), ("keyword_count", .int 0)]
  | member => [("attr", "")]
  | comprehension => [("kind", "list"), ("item_count", .int 1)]
  | fstring => [("quote", "\""), ("item_count", .int 0)]
  | typeConvert => [("type", "int")]
  | zip => [("item_count", .int 2)]
  | mathFunc => [("func", "abs")]
  | _ => []

/-- The fields that count things, apart from those with an index. -/
def countFields : BlockType → List String
  | tryStmt => ["handler_count"]
  | functionDef | classDef => ["item_count", "decorator_count"]
  | call => ["item_count", "keyword_count"]
  | withStmt | assign | importStmt | deleteStmt | boolOp | compare | lambda | tuple | list | set
  | dict | comprehension | fstring | zip => ["item_count"]
  | _ => []

/-- The field counts something. -/
def isCount (t : BlockType) (name : String) : Bool :=
  t.countFields.contains name ||
    (t == comprehension && Text.startsWith name "IF_COUNT".toList)

/-- What the clauses of a comprehension add. -/
def clauseShape (fields : List (String × Datum)) : Nat → Except Fault BlockShape
  | 0 => .ok {}
  | i + 1 => do
    let before ← clauseShape fields i
    let n ← countOf fields s!"IF_COUNT{i}"
    return {
      values := before.values ++ [s!"TARGET{i}", s!"ITER{i}"] ++ indexed s!"IF{i}_" n
      fields := before.fields ++ [(s!"IF_COUNT{i}", .int 0), (s!"IS_ASYNC{i}", .bool false)] }

/-- What the counts of a block of a type add. -/
def shapeFor (t : BlockType) (fields : List (String × Datum)) : Except Fault BlockShape := do
  let count := countOf fields
  match t with
  | tryStmt =>
    let n ← count "handler_count"
    return {
      values := indexed "EXCEPT_TYPE" n
      statements := indexed "EXCEPT_BODY" n
      fields := (indexed "EXCEPT_NAME" n).map (·, "") }
  | withStmt =>
    let n ← count "item_count"
    return { values := indexed "CONTEXT" n, fields := (indexed "NAME" n).map (·, "") }
  | functionDef =>
    let n ← count "item_count"
    let k ← count "decorator_count"
    return {
      values := indexed "ANNOTATION" n ++ indexed "DEFAULT" n ++ indexed "DECORATOR" k
      fields := paramFields n }
  | classDef =>
    let n ← count "item_count"
    let k ← count "decorator_count"
    return { values := indexed "BASE" n ++ indexed "DECORATOR" k }
  | assign | deleteStmt => return { values := indexed "TARGET" (← count "item_count") }
  | importStmt =>
    let n ← count "item_count"
    return {
      fields := (List.range n).flatMap fun i => [(s!"NAME{i}", ""), (s!"ALIAS{i}", "")] }
  | boolOp | tuple | list | set => return { values := indexed "ITEM" (← count "item_count") }
  | compare =>
    let n ← count "item_count"
    return { values := indexed "CMP" n, fields := (indexed "OP" n).map (·, "==") }
  | lambda =>
    let n ← count "item_count"
    return { values := indexed "DEFAULT" n, fields := paramFields n }
  | call =>
    let k ← count "keyword_count"
    let n ← count "item_count"
    return {
      values := indexed "ARG" n ++ indexed "KWARG" k
      fields := (indexed "KWARG_NAME" k).map (·, "") }
  | dict =>
    let n ← count "item_count"
    return { values := indexed "KEY" n ++ indexed "VALUE" n }
  | comprehension => clauseShape fields (← count "item_count")
  | fstring =>
    let n ← count "item_count"
    return {
      values := indexed "PART" n
      fields := (List.range n).flatMap fun i =>
        [(s!"PART_KIND{i}", "literal"), (s!"PART_TEXT{i}", ""), (s!"CONVERSION{i}", ""),
         (s!"FORMAT_SPEC{i}", "")] }
  | zip => return { values := indexed "ITER" (← count "item_count") }
  | _ => return {}

end BlockType

/-- A block: its type, its slots in the order in which they came, and its fields. -/
structure Block where
  type : BlockType
  values : List String
  statements : List String
  fields : List (String × Datum)

namespace Block

/-- The names that are wanted, in order: those that are there already come first. -/
def settle (present wanted : List String) : List String :=
  let kept := present.filter wanted.contains
  kept ++ (wanted.filter fun name => !kept.contains name)

/-- The block with the slots and fields that its counts ask for.  Slots and fields that are there
already stay where they are. -/
def reshape (b : Block) : Except Fault Block := do
  let shape ← b.type.shapeFor b.fields
  let kept := b.fields.filter fun f =>
    b.type.fields.any (·.1 == f.1) || shape.fields.any (·.1 == f.1)
  let added := shape.fields.filter fun f => !kept.any (·.1 == f.1)
  return { b with
    values := settle b.values (b.type.valueSlots ++ shape.values)
    statements := settle b.statements (b.type.statementSlots ++ shape.statements)
    fields := kept ++ added }

/-- A new block of a type. -/
def ofType (t : BlockType) : Block :=
  let bare : Block := ⟨t, t.valueSlots, t.statementSlots, t.fields⟩
  match bare.reshape with
  | .ok b => b
  | .error _ => bare

/-- How the block can be connected. -/
def kind (b : Block) : BlockKind := b.type.kind

/-- The block stands in a chain of statements. -/
def isStatement (b : Block) : Bool := b.kind == .statement

/-- The block is plugged into a slot. -/
def isExpression (b : Block) : Bool := b.kind == .expression

/-- The value of a field. -/
def field? (b : Block) (name : String) : Option Datum := entryAt? b.fields name

/-- The value of a field, or nothing. -/
def field (b : Block) (name : String) : Datum := (b.field? name).getD .null

/-- The number of items. -/
def itemCount (b : Block) : Except Fault Int := ((b.field? "item_count").getD (.int 0)).toInteger

/-- The ports at which something arrives. -/
def inputs (b : Block) : List String :=
  (if b.isStatement then ["previous"] else []) ++ b.values

/-- The ports from which something leaves. -/
def outputs (b : Block) : List String :=
  (match b.kind with
    | .statement => ["next"]
    | .expression => ["output"]
    | .entry => []) ++ b.statements

/-- The block has a slot for a value. -/
def hasValueSlot (b : Block) (slot : String) : Bool := b.values.contains slot

/-- The block has a slot for statements; what follows it counts as one. -/
def hasStatementSlot (b : Block) (slot : String) : Bool :=
  b.statements.contains slot || (b.isStatement && slot == "next")

/-- Writes a field and nothing else. -/
def writeField (b : Block) (name : String) (value : Datum) : Block :=
  { b with fields := putEntry b.fields name value }

end Block

end BlockText

import BlockText.Fault
import BlockText.Render.Precedence

/-!
# Expressions as text

`core` renders an expression without outer parentheses and `operand` with those that its place
needs.  A leaf is a datum, and one that is no text stays what it is until it becomes part of a
text: inside running text it is displayed, and joining or appending it is a fault.
-/

namespace BlockText

open Syntax

/-- Why a tree cannot be rendered. -/
inductive RenderError
  /-- Something stands where a construct of this sort should. -/
  | unsupported (sort type : String)
  /-- A leaf holds data that cannot become text. -/
  | fault (fault : Fault)

namespace RenderError

/-- The wording of an error. -/
def message : RenderError → String
  | unsupported sort type => s!"cannot render {sort} {type}"
  | fault f => f.message

end RenderError

namespace Render

/-- The result of rendering. -/
abbrev Result (α : Type) := Except RenderError α

/-- Raises a fault. -/
def fail {α : Type} (f : Fault) : Result α := .error (.fault f)

/-- The texts with a separator between neighbours. -/
def joined (sep : String) (parts : List Datum) : Result String :=
  Text.join sep <$> go 0 parts
where
  /-- The texts, from item `index` on. -/
  go (index : Nat) : List Datum → Result (List String)
    | [] => .ok []
    | .text s :: rest => (s :: ·) <$> go (index + 1) rest
    | .surrogates t :: rest => (Text.shownPoints t.points :: ·) <$> go (index + 1) rest
    | d :: _ => fail (.notJoinable index d.typeWord)

/-- A text with a datum after it. -/
def append (s : String) : Datum → Result String
  | .text t => .ok (s ++ t)
  | .surrogates t => .ok (s ++ Text.shownPoints t.points)
  | d => fail (.notAppendable d.typeWord)

/-- A datum with a text after it. -/
def extend (d : Datum) (t : String) : Result String :=
  match d with
  | .text s => .ok (s ++ t)
  | .surrogates s => .ok (Text.shownPoints s.points ++ t)
  | d => fail (.notExtendable d.typeWord)

/-- The number of characters, items or entries. -/
def lengthOf : Datum → Result Nat
  | .text s => .ok s.length
  | .surrogates t => .ok t.points.length
  | .list items => .ok items.length
  | .object entries => .ok entries.length
  | d => fail (.noLength d.typeWord)

/-- The delimiter that a datum is; any other than the four counts as a double mark. -/
def delimiter (quote : Datum) : Text.Delimiter :=
  match quote with
  | .text s => (Text.Delimiter.ofText? s).getD .double
  | _ => .double

/-- A text as a string literal. -/
def spelled (value quote : Datum) : Result Datum :=
  match value with
  | .text s => .ok (.text (Text.spell s (delimiter quote)))
  | .surrogates t => .ok (.ofPoints (Text.spellPoints t.points (delimiter quote)))
  | d => fail (.noOperation d.typeWord "replace")

/-- A text as a string literal in running text. -/
def spellDatum (value quote : Datum) : Result String := Datum.display <$> spelled value quote

/-- The spelling of a literal. -/
def literal (kind : LiteralKind) (raw value : Datum) : Result Datum :=
  if raw.isTruthy then .ok raw
  else
    match kind with
    | .string => spelled (value.orElse "") "\""
    | .bool => .ok (if value.isTruthy then "True" else "False")
    | .none => .ok "None"
    | .number => .ok (.text value.display)

/-- A rendered expression in a place that requires a strength. -/
def enclose (e : Expr) (required : Int) (d : Datum) : Datum :=
  if strength e < required then .text ("(" ++ d.display ++ ")") else d

/-- The items of a tuple without parentheses; a single one keeps its comma. -/
def tupleItems : List Datum → Result String
  | [d] => extend d ","
  | items => joined ", " items

/-- The literal text of a formatted string: braces are doubled, then it is escaped as in a string
literal whose delimiters, as many characters as `quote` has, are cut off. -/
def formattedText (text quote : Datum) : Result String := do
  let ps ←
    match text.points? with
    | some ps => pure ps
    | none => fail (.noOperation text.typeWord "replace")
  let doubled := ps.flatMap fun p =>
    if p == .char '\x7b' || p == .char '\x7d' then [p, p] else [p]
  let spelled := Text.spellPoints doubled (delimiter quote)
  let n ← lengthOf quote
  return Text.shownPoints (if n = 0 then [] else (spelled.take (spelled.length - n)).drop n)

/-- The expression part of a formatted string, between braces. -/
def formattedValue (inner conversion spec : Datum) : Result String := do
  let s ←
    match inner with
    | .text s => pure s
    | .surrogates t => pure (Text.shownPoints t.points)
    | d => fail (.noOperation d.typeWord "startswith")
  let s := if s.toList.head? == some '\x7b' then " " ++ s else s
  let s ← if conversion.isTruthy then append (s ++ "!") conversion else pure s
  let s ← if spec.isTruthy then append (s ++ ":") spec else pure s
  return "\x7b" ++ s ++ "\x7d"

/-- The brackets of a comprehension. -/
def brackets : ComprehensionKind → String × String
  | .list => ("[", "]")
  | .set | .dict => ("\x7b", "\x7d")
  | .generator => ("(", ")")

/-- The marker of a parameter kind. -/
def paramMarker : ParamKind → String
  | .normal => ""
  | .star => "*"
  | .doubleStar => "**"

/-- What is rendered where an expression is missing. -/
def noExpression {α : Type} : Result α := .error (.unsupported "expression" "NoneType")

mutual

/-- An expression without outer parentheses. -/
def core : Expr → Result Datum
  | .identifier name _ => .ok name
  | .literal kind raw value _ => literal kind raw value
  | .binary l op r _ => do
    let left ← core l
    let right ← core r
    let (a, b) :=
      match op with
      | .pow => (awaitStrength, unaryStrength)
      | _ => (binaryStrength op, binaryStrength op + 1)
    return .text ((enclose l a left).display ++ " " ++ Choice.spelling op ++ " " ++
      (enclose r b right).display)
  | .unary .not e _ => do
    return .text ("not " ++ (enclose e notStrength (← core e)).display)
  | .unary op e _ => do
    return .text (Choice.spelling op ++ (enclose e unaryStrength (← core e)).display)
  | .boolOp op es _ => do
    .text <$> joined (" " ++ Choice.spelling op ++ " ") (← operands (boolStrength op + 1) es)
  | .compare l ops es _ => do
    let left ← core l
    let tail ← comparisons ops es
    match tail with
    | [] => return enclose l (compareStrength + 1) left
    | _ => .text <$> extend (enclose l (compareStrength + 1) left) (String.join tail)
  | .conditional t b e _ => do
    let body ← core b
    let test ← core t
    let orelse ← core e
    return .text ((enclose b (conditionalStrength + 1) body).display ++ " if " ++
      (enclose t (conditionalStrength + 1) test).display ++ " else " ++
      (enclose e conditionalStrength orelse).display)
  | .lambda ps body _ => do
    let list := Text.join ", " (← params false ps)
    let inner ← core body
    let head := if list.isEmpty then "lambda" else "lambda " ++ list
    return .text (head ++ ": " ++ (enclose body lambdaStrength inner).display)
  | .call f args ks _ => do
    let positional ← operands lambdaStrength args
    let named ← keywords ks
    let callee ← core f
    let list ← joined ", " (positional ++ named)
    return .text ((enclose f postfixStrength callee).display ++ "(" ++ list ++ ")")
  | .tuple [] _ => .ok "()"
  | .tuple es _ => do
    return .text ("(" ++ (← tupleItems (← operands lambdaStrength es)) ++ ")")
  | .list es _ => do
    return .text ("[" ++ (← joined ", " (← operands lambdaStrength es)) ++ "]")
  | .set es _ => do
    return .text ("\x7b" ++ (← joined ", " (← operands lambdaStrength es)) ++ "\x7d")
  | .dict es _ => do
    return .text ("\x7b" ++ Text.join ", " (← entries es) ++ "\x7d")
  | .attribute e attr _ => do
    let value ← core e
    return .text ((enclose e postfixStrength value).display ++ "." ++ attr.display)
  | .subscript e (.tuple (x :: xs) _) _ => do
    let index ← tupleItems (← operands lambdaStrength (x :: xs))
    let value ← core e
    return .text ((enclose e postfixStrength value).display ++ "[" ++ index ++ "]")
  | .subscript e index _ => do
    let inner ← core index
    let value ← core e
    return .text ((enclose e postfixStrength value).display ++ "[" ++
      (enclose index lambdaStrength inner).display ++ "]")
  | .slice lower upper step _ => do
    let a ← extend (← optional lower) ":"
    let s ← append a (← optional upper)
    match step with
    | none => return .text s
    | some e => .text <$> append (s ++ ":") (enclose e lambdaStrength (← core e))
  | .comprehension kind e cs key _ => do
    let head ←
      match kind, key with
      | .dict, none => noExpression
      | .dict, some k => do
        let left ← core k
        let right ← core e
        pure (.text ((enclose k lambdaStrength left).display ++ ": " ++
          (enclose e lambdaStrength right).display))
      | _, _ => do pure (enclose e lambdaStrength (← core e))
    let list ← clauses cs
    let inner ← joined " " (head :: list.map .text)
    let (opening, closing) := brackets kind
    return .text (opening ++ inner ++ closing)
  | .grouped e _ => do return .text ("(" ++ (enclose e anyStrength (← core e)).display ++ ")")
  | .fstring ps quote _ => do
    let list ← parts quote ps
    return .text ("f" ++ quote.display ++ String.join list ++ quote.display)
  | .walrus target e _ => do
    let value ← core e
    return .text ("(" ++ target.display ++ " := " ++ (enclose e lambdaStrength value).display ++
      ")")
  | .yield none _ => .ok "yield"
  | .yield (some (.tuple (x :: xs) _)) _ => do
    return .text ("yield " ++ (← tupleItems (← operands lambdaStrength (x :: xs))))
  | .yield (some e) _ => do
    return .text ("yield " ++ (enclose e anyStrength (← core e)).display)
  | .yieldFrom e _ => do
    return .text ("yield from " ++ (enclose e lambdaStrength (← core e)).display)
  | .await e _ => do
    return .text ("await " ++ (enclose e postfixStrength (← core e)).display)
  | .stray d => .error (.unsupported "expression" d.typeWord)

/-- An expression that may be left out. -/
def optional : Option Expr → Result Datum
  | none => .ok ""
  | some e => do return enclose e lambdaStrength (← core e)

/-- Expressions in places that require a strength. -/
def operands (required : Int) : List Expr → Result (List Datum)
  | [] => .ok []
  | e :: rest => do
    let first ← core e
    return enclose e required first :: (← operands required rest)

/-- Operators of a comparison with the operands after them. -/
def comparisons : List CompareOp → List Expr → Result (List String)
  | op :: ops, e :: es => do
    let right ← core e
    let first := " " ++ Choice.spelling op ++ " " ++ (enclose e (compareStrength + 1) right).display
    return first :: (← comparisons ops es)
  | _, _ => .ok []

/-- Keyword arguments. -/
def keywords : List (Keyword Expr) → Result (List Datum)
  | [] => .ok []
  | ⟨name, e, _⟩ :: rest => do
    let value := (enclose e lambdaStrength (← core e)).display
    let first := if name.isNull then "**" ++ value else name.display ++ "=" ++ value
    return .text first :: (← keywords rest)

/-- Entries of a dictionary. -/
def entries : List (DictEntry Expr) → Result (List String)
  | [] => .ok []
  | ⟨none, e, _⟩ :: rest => do
    let value ← core e
    return ("**" ++ (enclose e bitOrStrength value).display) :: (← entries rest)
  | ⟨some k, e, _⟩ :: rest => do
    let key ← core k
    let value ← core e
    return ((enclose k lambdaStrength key).display ++ ": " ++
      (enclose e lambdaStrength value).display) :: (← entries rest)

/-- Clauses of a comprehension. -/
def clauses : List (Clause Expr) → Result (List String)
  | [] => .ok []
  | ⟨target, iter, ifs, isAsync, _⟩ :: rest => do
    let bound ←
      match target with
      | .tuple (x :: xs) _ => do .text <$> tupleItems (← operands lambdaStrength (x :: xs))
      | e => do pure (enclose e anyStrength (← core e))
    let source ← core iter
    let conditions ← operands orStrength ifs
    let first := (if isAsync then "async for " else "for ") ++ bound.display ++ " in " ++
      (enclose iter orStrength source).display ++
      String.join (conditions.map fun d => " if " ++ d.display)
    return first :: (← clauses rest)

/-- Parts of a formatted string. -/
def parts (quote : Datum) : List (FormatPart Expr) → Result (List String)
  | [] => .ok []
  | ⟨.literal, text, _, _, _, _⟩ :: rest => do
    let first ← formattedText text quote
    return first :: (← parts quote rest)
  | ⟨.expr, _, none, conversion, spec, _⟩ :: rest => do
    let first ← formattedValue "" conversion spec
    return first :: (← parts quote rest)
  | ⟨.expr, _, some e, conversion, spec, _⟩ :: rest => do
    let inner ← core e
    let first ← formattedValue (enclose e conditionalStrength inner) conversion spec
    return first :: (← parts quote rest)

/-- Parameters; a lambda shows no types. -/
def params (hints : Bool) : List (Param Expr) → Result (List String)
  | [] => .ok []
  | ⟨name, hint, preset, kind, _⟩ :: rest => do
    let named ← append (paramMarker kind) name
    let hinted ←
      match hints, hint with
      | true, some h => do pure (named ++ ": " ++ (enclose h lambdaStrength (← core h)).display, true)
      | _, _ => pure (named, false)
    let first ←
      match preset with
      | none => pure hinted.1
      | some e => do
        append (hinted.1 ++ if hinted.2 then " = " else "=") (enclose e lambdaStrength (← core e))
    return first :: (← params hints rest)

end

/-- An expression in statement position, where a tuple needs no parentheses. -/
def statementPlace : Expr → Result Datum
  | .tuple (x :: xs) _ => do .text <$> tupleItems (← operands lambdaStrength (x :: xs))
  | e => do return enclose e anyStrength (← core e)

/-- An expression in a place that requires a strength. -/
def operand (e : Expr) (required : Int := lambdaStrength) : Result Datum := do
  return enclose e required (← core e)

/-- An operand as part of running text. -/
def shown (e : Expr) : Result String := do return (← operand e).display

end Render

end BlockText

import BlockText.Source.Grammar.Rule
import BlockText.Source.Lexer
import BlockText.Source.Literal
import BlockText.Source.Tree
import BlockText.Text.NormalForm

/-!
# Rules for expressions

The rules refer to each other through a `Grammar`, which holds the rules that occur inside
others.  A rule made from a grammar reads one level of nesting more than the grammar does.
-/

namespace BlockText.Source

open Syntax

/-- The rules that other rules use at places of deeper nesting. -/
structure Grammar where
  expression : Rule Expr
  disjunction : Rule Expr
  bitOr : Rule Expr
  factor : Rule Expr
  primary : Rule Expr
  pattern : Rule Pattern
  block : Rule (List Stmt)

/-- A grammar that accepts nothing. -/
def Grammar.empty : Grammar := ⟨.fail, .fail, .fail, .fail, .fail, .fail, .fail⟩

namespace Grammar

open Rule

/-! ## Names and targets -/

/-- A name that is not reserved, in normal form. -/
def identifier : Rule Token := do
  let t ← take (·.isIdentifier)
  return { t with text := Text.normalForm t.text }

/-- A name as an expression. -/
def nameExpr : Rule Expr := do
  let t ← identifier
  return .name t.text ⟨t.start, t.stop⟩

/-- The expression is not enclosed in parentheses of its own: it starts where its first token
does. -/
def isBare (e : Expr) (start : Mark) : Bool := e.range.start == start

/-- An expression to which one value can be assigned. -/
def isSingleTarget : Expr → Bool
  | .name .. | .attribute .. | .subscript .. => true
  | _ => false

mutual

/-- The first part of an expression that keeps it from being assigned to. -/
def invalidTarget? (deleting : Bool) : Expr → Option Expr
  | .name .. | .attribute .. | .subscript .. => none
  | .tuple es _ | .list es _ => invalidTargetIn? deleting es
  | .starred e r => if deleting then some (.starred e r) else invalidTarget? deleting e
  | e => some e

/-- The first such part in several expressions. -/
def invalidTargetIn? (deleting : Bool) : List Expr → Option Expr
  | [] => none
  | e :: rest =>
    match invalidTarget? deleting e with
    | some bad => some bad
    | none => invalidTargetIn? deleting rest

end

/-- An expression to which values can be assigned. -/
def isTarget (e : Expr) : Bool := (invalidTarget? false e).isNone

/-- An expression that can be deleted. -/
def isDeletable (e : Expr) : Bool := (invalidTarget? true e).isNone

variable (g : Grammar)

/-! ## Expressions in a list -/

/-- A starred or plain expression. -/
def starExpression : Rule Expr := do
  let s ← start
  if ← tryOp "*" then
    let e ← g.bitOr
    return .starred e (← rangeFrom s)
  else g.expression

/-- Elements after the first one, up to a comma at the end. -/
def commaElements (element : Rule Expr) : Rule (List Expr) := do
  let rest ← many (do discard (op ","); element)
  discard (tryOp ",")
  return rest

/-- One expression, or several as a tuple. -/
def tupleOf (element : Rule Expr) : Rule Expr := do
  let s ← start
  let first ← element
  if ← atOp "," then
    let rest ← commaElements element
    return .tuple (first :: rest) (← rangeFrom s)
  else return first

/-- Starred or plain expressions. -/
def starExpressions : Rule Expr := tupleOf (starExpression g)

/-- An assignment inside an expression. -/
def walrus : Rule Expr := do
  let s ← start
  let t ← identifier
  discard (op ":=")
  let e ← g.expression
  return .walrus t.text e (← rangeFrom s)

/-- The current tokens are a name and this operator. -/
def atNameThen (s : String) : Rule Bool := ahead (do discard identifier; op s)

/-- An expression that starts at a mark can be an operand of a bitwise operator without further
parentheses. -/
def isOperand (e : Expr) (start : Mark) : Bool :=
  !isBare e start ||
    match e with
    | .compare .. | .boolOp .. | .unary .not _ _ | .conditional .. | .lambda .. => false
    | _ => true

/-- Looks for an assignment where an expression is expected; the expression read so far starts at
a mark. -/
def diagnoseNamed (s : Mark) (a : Expr) : Rule Unit := diagnosing do
  if ← tryOp ":=" then
    discard g.expression
    complain a.range.start.line
  else if ← tryOp "=" then
    let isPlain := match a with
      | .list .. | .tuple .. | .comprehension .generator _ _ _ _ | .constant (.bool _) _
      | .constant .none _ => false
      | _ => true
    if isPlain && isOperand a s then
      discard g.bitOr
      unless ← atOps ["=", ":="] do complain a.range.start.line

/-- An expression, possibly an assignment. -/
def namedExpression : Rule Expr := do
  if ← atNameThen ":=" then walrus g
  else
    let s ← start
    let e ← g.expression
    diagnoseNamed g s e
    if ← atOp ":=" then fail else return e

/-- A starred expression, or a plain one that may be an assignment. -/
def starNamedExpression : Rule Expr := do
  let s ← start
  if ← tryOp "*" then
    let e ← g.bitOr
    return .starred e (← rangeFrom s)
  else namedExpression g

/-- The value of a `yield`. -/
def yieldExpr : Rule Expr := do
  let s ← start
  discard (word "yield")
  if ← tryWord "from" then
    let e ← g.expression
    return .yieldFrom e (← rangeFrom s)
  else
    let e ← optional (starExpressions g)
    return .yield e (← rangeFrom s)

/-- The right side of an assignment. -/
def assigned : Rule Expr := do
  if ← atWord "yield" then yieldExpr g else starExpressions g

/-! ## Targets of loops -/

/-- One target of a loop. -/
def loopTarget : Rule Expr := do
  let s ← start
  let isStar ← tryOp "*"
  let e ← g.primary
  if isTarget e then
    if isStar then return .starred e (← rangeFrom s) else return e
  else
    diagnosing (match invalidTarget? false e with
      | some bad => do
        if ← atOps ["=", ",", ")", ":"] then fail else complain bad.range.start.line
      | none => fail)
    fail

/-- The targets of a loop. -/
def loopTargets : Rule Expr := tupleOf (loopTarget g)

/-- A clause of a comprehension. -/
def forClause : Rule (ForClause Expr) := do
  let isAsync ← tryWord "async"
  discard (word "for")
  let target ← loopTargets g
  discard (word "in")
  let iter ← g.disjunction
  let ifs ← many (do discard (word "if"); g.disjunction)
  return ⟨target, iter, ifs, isAsync⟩

/-- The clauses of a comprehension. -/
def forClauses : Rule (List (ForClause Expr)) := many1 (forClause g)

/-- A comprehension clause starts here. -/
def atClause : Rule Bool := do
  let t ← peek
  return t.isWord "for" || t.isWord "async"

/-! ## Displays -/

/-- What stands between parentheses: a tuple, a generator or a single expression. -/
def parenthesized : Rule Expr := do
  let s ← start
  discard (op "(")
  if ← tryOp ")" then return .tuple [] (← rangeFrom s)
  else if ← atWord "yield" then
    let e ← yieldExpr g
    discard (op ")")
    return e
  else
    diagnosing (do
      let stars ← op "**"
      discard g.expression
      discard (op ")")
      complain stars.start.line)
    let first ← starNamedExpression g
    let isStar := match first with
      | .starred .. => true
      | _ => false
    if ← atOp "," then
      let rest ← commaElements (starNamedExpression g)
      discard (op ")")
      return .tuple (first :: rest) (← rangeFrom s)
    else if ← atOp ")" then
      if isStar then
        diagnosing (complain first.range.start.line)
        fail
      else
        advance
        return first
    else if ← atClause then
      if isStar then
        diagnosing (do discard (forClauses g); complain first.range.start.line)
        fail
      else
        let clauses ← forClauses g
        discard (op ")")
        return .comprehension .generator none first clauses (← rangeFrom s)
    else fail

/-- Looks for a comprehension over something that is no single element. -/
def diagnoseElements (first : Expr) : Rule Unit := diagnosing do
  match first with
  | .starred _ r =>
    discard (forClauses g)
    complain r.start.line
  | _ =>
    discard (op ",")
    discard (commaElements (starNamedExpression g))
    discard (forClauses g)
    complain first.range.start.line

/-- A list or a list comprehension. -/
def listDisplay : Rule Expr := do
  let s ← start
  discard (op "[")
  if ← tryOp "]" then return .list [] (← rangeFrom s)
  else
    let first ← starNamedExpression g
    diagnoseElements g first
    if ← atClause then
      match first with
      | .starred .. => fail
      | _ =>
        let clauses ← forClauses g
        discard (op "]")
        return .comprehension .list none first clauses (← rangeFrom s)
    else
      let rest ← commaElements (starNamedExpression g)
      discard (op "]")
      return .list (first :: rest) (← rangeFrom s)

/-- Looks for a value that is missing or starred after a key of a dictionary. -/
def diagnoseValue : Rule Unit := diagnosing do
  let t ← peek
  if t.isOp "*" then
    advance
    discard g.bitOr
    complain t.start.line
  else if t.isOp "\x7d" || t.isOp "," then
    match (← input).stream.tokens[(← position) - 1]? with
    | some colon => complain colon.start.line
    | none => fail

/-- An entry of a dictionary. -/
def dictEntry : Rule (Entry Expr) := do
  if ← tryOp "**" then return ⟨none, ← g.bitOr⟩
  else
    let key ← g.expression
    if !(← atOp ":") then
      diagnosing (complain key.range.start.line)
      fail
    else
      advance
      diagnoseValue g
      return ⟨some key, ← g.expression⟩

/-- The entries of a dictionary after the first, and the closing brace. -/
def dictRest (s : Mark) (first : Entry Expr) : Rule Expr := do
  let rest ← many (do
    discard (op ",")
    if ← atOp "\x7d" then fail else dictEntry g)
  discard (tryOp ",")
  discard (op "\x7d")
  return .dict (first :: rest) (← rangeFrom s)

/-- A dictionary, a set, or a comprehension of one of them. -/
def braceDisplay : Rule Expr := do
  let s ← start
  discard (op "\x7b")
  if ← tryOp "\x7d" then return .dict [] (← rangeFrom s)
  else if ← atOp "**" then
    let stars ← start
    advance
    let value ← g.bitOr
    diagnosing (do
      discard (forClauses g)
      discard (op "\x7d")
      complain stars.line)
    dictRest g s ⟨none, value⟩
  else
    let inner ← start
    let first ← starNamedExpression g
    let isPlain := match first with
      | .starred .. => false
      | .walrus .. => !isBare first inner
      | _ => true
    if isPlain && (← atOp ":") then
      advance
      diagnoseValue g
      let value ← g.expression
      if ← atClause then
        let clauses ← forClauses g
        discard (op "\x7d")
        return .comprehension .dict (some first) value clauses (← rangeFrom s)
      else dictRest g s ⟨some first, value⟩
    else
      diagnoseElements g first
      if ← atClause then
        match first with
        | .starred .. => fail
        | _ =>
          let clauses ← forClauses g
          discard (op "\x7d")
          return .comprehension .set none first clauses (← rangeFrom s)
      else
        let rest ← commaElements (starNamedExpression g)
        discard (op "\x7d")
        return .set (first :: rest) (← rangeFrom s)

/-! ## Strings -/

/-- The line to blame for a bad string literal: that of the token looked at last. -/
def complainLast {α : Type} : Rule α := do
  let far ← furthest
  match (← input).stream.tokens[far]? with
  | some t => complain t.start.line
  | none => complain (((← input).stream.failure.map (·.line)).getD 1)

/-- Reads the expression of a replacement field, in parentheses at the place of its brace. -/
def embedded (source : List Char) (brace : Mark) : Rule Expr := do
  let names := (← input).names
  match (starExpressions g).run names (lexFrom brace (['('] ++ source ++ [')', '\n'])) with
  | .ok e => return e
  | .error line => complain line

/-- Reads the expressions in a format. -/
def readSpec : List RawPiece → Rule Unit
  | [] => pure ()
  | .text _ :: rest => readSpec rest
  | .field source brace _ _ _ :: rest => do
    discard (embedded g source brace)
    readSpec rest

/-- The text of a format without fields. -/
def specOf (pieces : List RawPiece) : FormatSpec :=
  let texts := pieces.map fun
    | .text ps => some ps
    | .field .. => none
  match texts.mapM id with
  | some parts => .plain parts.flatten
  | none => .nested

/-- A piece that is text. -/
def textPiece (ps : List CodePoint) : List (Piece Expr) :=
  if ps.isEmpty then [] else [⟨ps, none, "", .plain []⟩]

/-- Reads the expressions of a formatted string. -/
def readPieces : List RawPiece → Rule (List (Piece Expr))
  | [] => pure []
  | .text ps :: rest => do return textPiece ps ++ (← readPieces rest)
  | .field source brace shown conversion spec :: rest => do
    let e ← embedded g source brace
    let spec := spec.getD []
    readSpec g spec
    return textPiece (shown.map .char) ++ ⟨[], some e, conversion, specOf spec⟩ ::
      (← readPieces rest)

/-- Joins neighbouring texts. -/
def mergePieces : List (Piece Expr) → List (Piece Expr)
  | [] => []
  | p :: rest =>
    match p.value, mergePieces rest with
    | none, q :: more =>
      match q.value with
      | none => { p with text := p.text ++ q.text } :: more
      | some _ => p :: q :: more
    | _, rest => p :: rest

/-- The pieces of one string literal. -/
def literalPieces (t : Token) : Rule (List (Piece Expr)) := do
  let names := (← input).names
  let l := StringLiteral.ofChars t.text.toList
  if l.isFormatted then
    let scan := l.pieces names t.start
    let pieces ← readPieces g scan.pieces
    if scan.isBad then complainLast else return pieces
  else if l.isBytes then
    if l.body.any (·.toNat ≥ 128) then complain t.start.line
    else if !l.isRaw && !validBytes l.body then complainLast
    else return []
  else
    match literalText names l.isRaw l.body with
    | some ps => return textPiece ps
    | none => complainLast

/-- Reads string literals one by one; byte strings and other strings do not mix. -/
def literalsPieces (isBytes : Bool) : List Token → Rule (List (Piece Expr))
  | [] => pure []
  | t :: rest => do
    let pieces ← literalPieces g t
    if (StringLiteral.ofChars t.text.toList).isBytes != isBytes then complainLast
    else return pieces ++ (← literalsPieces isBytes rest)

/-- Neighbouring string literals are one string. -/
def strings : Rule Expr := do
  let s ← start
  let tokens ← many1 (kind .string)
  let literals := tokens.map fun t => StringLiteral.ofChars t.text.toList
  let isBytes := (literals.head?.map (·.isBytes)).getD false
  let pieces ← literalsPieces g isBytes tokens
  let range ← rangeFrom s
  if isBytes then return .constant .bytes range
  else if literals.any (·.isFormatted) then return .formatted (mergePieces pieces) range
  else return .constant (.string (pieces.flatMap (·.text))) range

/-! ## Atoms and what follows them -/

/-- The most digits of a decimal integer. -/
def maxDigits : Nat := 4300

/-- The number is a decimal integer with too many digits; only zeros stand after a leading zero,
and any number of them. -/
def isOverlong (cs : List Char) : Bool :=
  cs.head? != some '0' && (cs.all fun c => c.isDigit || c == '_') &&
    decide (maxDigits < cs.countP Char.isDigit)

/-- A number. -/
def number : Rule Token := do
  let t ← kind .number
  if isOverlong t.text.toList then complain t.start.line else return t

/-- An atom. -/
def atom : Rule Expr := do
  let t ← peek
  let range : Range := ⟨t.start, t.stop⟩
  let constant (c : Constant) : Rule Expr := do
    advance
    return .constant c range
  match t.kind with
  | .name =>
    if t.text == "True" then constant (.bool true)
    else if t.text == "False" then constant (.bool false)
    else if t.text == "None" then constant .none
    else nameExpr
  | .number => do
    discard number
    return .constant .number range
  | .string => strings g
  | .operator =>
    if t.text == "(" then parenthesized g
    else if t.text == "[" then listDisplay g
    else if t.text == "\x7b" then braceDisplay g
    else if t.text == "..." then constant .ellipsis
    else fail
  | _ => fail

/-- Arguments of a call. -/
structure CallArgs where
  positional : List Expr := []
  keywords : List (KeywordArg Expr) := []
  /-- A keyword argument has been seen, so positional ones no longer count. -/
  isNamed : Bool := false
  /-- A mapping has been passed, so iterables no longer count. -/
  isMapped : Bool := false

/-- Looks for a generator without parentheses of its own whose element has been read. -/
def diagnoseGenerator (element : Expr) : Rule Unit := diagnosing do
  discard (forClauses g)
  complain element.range.start.line

/-- One more argument. -/
def argument (done : CallArgs) : Rule CallArgs := do
  let s ← start
  if ← atOp "*" then
    if done.isMapped then fail
    else
      advance
      let e ← g.expression
      return { done with positional := done.positional ++ [.starred e (← rangeFrom s)] }
  else if ← tryOp "**" then
    let e ← g.expression
    let k : KeywordArg Expr := ⟨none, e, ← rangeFrom s⟩
    return { done with keywords := done.keywords ++ [k], isNamed := true, isMapped := true }
  else if ← atNameThen "=" then
    let t ← identifier
    discard (op "=")
    let e ← g.expression
    diagnosing (do discard (forClauses g); complain t.start.line)
    let k : KeywordArg Expr := ⟨some t.text, e, ← rangeFrom s⟩
    return { done with keywords := done.keywords ++ [k], isNamed := true }
  else
    let e ←
      if ← atNameThen ":=" then walrus g
      else g.expression
    if ← atOps ["=", ":="] then
      diagnosing (do if ← atOp "=" then complain e.range.start.line)
      fail
    else if done.isNamed then fail
    else return { done with positional := done.positional ++ [e] }

/-- Looks for an argument that must not stand after those before it; the first one stands on a
line. -/
def diagnoseOrder (first : Nat) : Rule Unit := do
  diagnosing (do if ← atOp "*" then complain first)
  diagnosing (do
    let e ← g.expression
    diagnoseGenerator g e)
  diagnosing (do
    let more ← argument g {}
    discard (extend (fun done => do discard (op ","); argument g done) more)
    complainLast)

/-- Arguments after the first one. -/
def laterArguments (line : Nat) (first : CallArgs) : Rule CallArgs :=
  extend (fun done => do
    discard (op ",")
    let more ← argument g done <|> (do diagnoseOrder g line; fail)
    match more.positional.getLast? with
    | some e => if more.positional.length > 1 then diagnoseGenerator g e
    | none => pure ()
    return more) first

/-- The arguments of a call after its opening parenthesis, and the closing one.  A generator that
is alone needs no parentheses of its own, unless it is the base of a class. -/
def callArguments (opening : Mark) (isClass : Bool) : Rule CallArgs := do
  if ← tryOp ")" then return {}
  else
    let line := (← start).line
    let first ← argument g {}
    if (← atClause) && !first.positional.isEmpty then
      match first.positional with
      | [.starred e r] =>
        diagnoseGenerator g (.starred e r)
        fail
      | [e] =>
        if isClass then
          diagnosing (do discard (forClauses g); discard (op ","); complain e.range.start.line)
          fail
        else
          let clauses ← forClauses g
          if ← tryOp ")" then
            let range ← rangeFrom opening
            return { positional := [.comprehension .generator none e clauses range] }
          else
            diagnosing (do discard (op ","); complain e.range.start.line)
            fail
      | _ => fail
    else
      let all ← laterArguments g line first
      discard (tryOp ",")
      discard (op ")")
      return all

/-- One index: an expression or a slice. -/
def slice : Rule Expr := do
  let s ← start
  let lower ← if ← atOp ":" then pure none else some <$> namedExpression g
  let isPlain := match lower with
    | some (.walrus t e r) => !isBare (.walrus t e r) s
    | _ => true
  if isPlain && (← atOp ":") then
    advance
    let upper ← optional g.expression
    if ← tryOp ":" then
      let step ← optional g.expression
      return .slice lower upper step (← rangeFrom s)
    else return .slice lower upper none (← rangeFrom s)
  else
    match lower with
    | some e => return e
    | none => fail

/-- What stands between the brackets of a subscript. -/
def slices : Rule Expr := do
  let s ← start
  let starredIndex : Rule Expr := do
    let s ← start
    discard (op "*")
    let e ← g.expression
    return .starred e (← rangeFrom s)
  let element := starredIndex <|> slice g
  let first ← element
  let isStar := match first with
    | .starred .. => true
    | _ => false
  if isStar || (← atOp ",") then
    let rest ← commaElements element
    return .tuple (first :: rest) (← rangeFrom s)
  else return first

/-- One more attribute, call or subscript. -/
def trailer (s : Mark) (e : Expr) : Rule Expr := do
  let t ← peek
  if t.isOp "." then
    advance
    let attr ← identifier
    return .attribute e attr.text (← rangeFrom s)
  else if t.isOp "(" then
    advance
    let args ← callArguments g t.start false
    return .call e args.positional args.keywords (← rangeFrom s)
  else if t.isOp "[" then
    advance
    let index ← slices g
    discard (op "]")
    return .subscript e index (← rangeFrom s)
  else fail

/-- An atom with attributes, calls and subscripts. -/
def primaryRule : Rule Expr := do
  let s ← start
  let e ← atom g
  extend (trailer g s) e

/-- An awaited or plain primary expression. -/
def awaited : Rule Expr := do
  let s ← start
  if ← tryWord "await" then
    let e ← primaryRule g
    return .await e (← rangeFrom s)
  else primaryRule g

/-! ## Operators -/

/-- A power. -/
def power : Rule Expr := do
  let s ← start
  let e ← awaited g
  if ← tryOp "**" then
    let exponent ← g.factor
    return .binary e .pow exponent (← rangeFrom s)
  else return e

/-- Signs. -/
def signOf? (t : Token) : Option UnaryOp :=
  if t.isOp "-" then some .neg
  else if t.isOp "+" then some .pos
  else if t.isOp "~" then some .invert
  else none

/-- A signed operand or a power. -/
def factorRule : Rule Expr := do
  let t ← peek
  match signOf? t with
  | some sign =>
    advance
    let e ← g.factor
    return .unary sign e (← rangeFrom t.start)
  | none => power g

/-- Operands joined by operators that bind to the left. -/
def leftChain (operators : List (String × BinaryOp)) (operand : Rule Expr) : Rule Expr := do
  let s ← start
  let first ← operand
  extend (fun left => do
    let t ← peek
    match operators.find? fun o => t.isOp o.1 with
    | some (_, operator) =>
      advance
      let right ← operand
      return .binary left operator right (← rangeFrom s)
    | none => fail) first

/-- A product. -/
def term : Rule Expr :=
  leftChain [("*", .mul), ("/", .div), ("//", .floorDiv), ("%", .mod), ("@", .matMul)]
    (factorRule g)

/-- A sum. -/
def sum : Rule Expr := leftChain [("+", .add), ("-", .sub)] (term g)

/-- A shift. -/
def shift : Rule Expr := leftChain [("<<", .shiftLeft), (">>", .shiftRight)] (sum g)

/-- A bitwise expression. -/
def bitOrRule : Rule Expr :=
  leftChain [("|", .bitOr)] (leftChain [("^", .bitXor)] (leftChain [("&", .bitAnd)] (shift g)))

/-- Comparison operators that are one token. -/
def compareOperators : List (String × CompareOp) :=
  [("==", .eq), ("!=", .ne), ("<=", .le), ("<", .lt), (">=", .ge), (">", .gt)]

/-- A comparison operator. -/
def compareOp : Rule CompareOp := do
  let t ← peek
  match compareOperators.find? fun o => t.isOp o.1 with
  | some (_, operator) =>
    advance
    return operator
  | none =>
    if t.isWord "not" then
      advance
      discard (word "in")
      return .notIn
    else if t.isWord "in" then
      advance
      return .isIn
    else if t.isWord "is" then
      advance
      if ← tryWord "not" then return .isNot else return .is
    else fail

/-- A comparison. -/
def comparison : Rule Expr := do
  let s ← start
  let left ← bitOrRule g
  let pairs ← many (do
    let operator ← compareOp
    return (operator, ← bitOrRule g))
  if pairs.isEmpty then return left
  else return .compare left (pairs.map (·.1)) (pairs.map (·.2)) (← rangeFrom s)

/-- A comparison with negations in front of it. -/
def inversion : Rule Expr := do
  let marks ← many (do return (← word "not").start)
  let e ← comparison g
  let stop := (← rangeFrom default).stop
  return marks.foldr (fun m e => .unary .not e ⟨m, stop⟩) e

/-- Operands joined by a short-circuit operator. -/
def boolChain (operator : BoolOp) (operand : Rule Expr) : Rule Expr := do
  let s ← start
  let first ← operand
  let rest ← many (do discard (word (Choice.spelling operator)); operand)
  if rest.isEmpty then return first
  else return .boolOp operator (first :: rest) (← rangeFrom s)

/-- A disjunction of conjunctions. -/
def disjunctionRule : Rule Expr := boolChain .or (boolChain .and (inversion g))

/-! ## Functions -/

/-- What surrounds the parameters of a function. -/
structure ParamPlace where
  /-- Parameters can have types. -/
  isTyped : Bool
  /-- The operator after the parameters. -/
  closing : String

/-- The end of a parameter: a comma, or the end of the list ahead. -/
def paramEnd (place : ParamPlace) : Rule Unit := do
  if ← tryOp "," then return ()
  else if ← atOp place.closing then return ()
  else fail

/-- A parameter with its type. -/
def arg (place : ParamPlace) (isVariadic : Bool) : Rule (Arg Expr) := do
  let t ← identifier
  let hint ←
    if place.isTyped && (← atOp ":") then do
      advance
      if isVariadic && (← atOp "*") then some <$> starExpression g else some <$> g.expression
    else pure none
  return ⟨t.text, hint, ← rangeFrom t.start⟩

/-- A parameter with its default value, and the end of it. -/
def argDefault (place : ParamPlace) : Rule (ArgDefault Expr) := do
  let a ← arg g place false
  let sign ← peek
  let preset ←
    if sign.isOp "=" then do
      advance
      diagnosing (do if ← atOps [")", ","] then complain sign.start.line)
      some <$> g.expression
    else pure none
  paramEnd place
  return ⟨a, preset⟩

/-- A parameter that takes a mapping. -/
def mappingArg (place : ParamPlace) (done : Arguments Expr) : Rule (Arguments Expr) := do
  discard (op "**")
  let a ← arg g place false
  paramEnd place
  return { done with mapping := some a }

/-- Parameters from a star on. -/
def starArgs (place : ParamPlace) (done : Arguments Expr) : Rule (Arguments Expr) := do
  let star ← op "*"
  diagnosing (do
    discard (tryOp ",")
    if place.isTyped && (← atOps [")", "**"]) then complain star.start.line)
  let withMapping (named : List (ArgDefault Expr)) (done : Arguments Expr) := do
    let done := { done with keywordOnly := named }
    return (← optional (mappingArg g place done)).getD done
  if ← tryOp "," then withMapping (← many1 (argDefault g place)) done
  else
    let a ← arg g place true
    paramEnd place
    withMapping (← many (argDefault g place)) { done with variadic := some a }

/-- The first parameter without a default value right after one that has one. -/
def missingDefault? : List (ArgDefault Expr) → Option (Arg Expr)
  | a :: b :: rest =>
    if a.preset.isSome && b.preset.isNone then some b.arg else missingDefault? (b :: rest)
  | _ => none

/-- The parameters of a function. -/
def arguments (place : ParamPlace) : Rule (Arguments Expr) := do
  let first ← many (argDefault g place)
  let afterSlash : Rule (List (ArgDefault Expr)) := do
    if first.isEmpty then fail
    discard (op "/")
    paramEnd place
    many (argDefault g place)
  let done : Arguments Expr :=
    match ← optional afterSlash with
    | some plain => { positionalOnly := first, plain }
    | none => { plain := first }
  match missingDefault? (done.positionalOnly ++ done.plain) with
  | some a =>
    if place.isTyped then
      diagnosing (complain a.range.start.line)
      fail
    else complain a.range.start.line
  | none => return (← optional (starArgs g place done <|> mappingArg g place done)).getD done

/-- An anonymous function. -/
def lambda : Rule Expr := do
  let s ← start
  discard (word "lambda")
  let args ← arguments g ⟨false, ":"⟩
  discard (require ":")
  let body ← g.expression
  return .lambda args body (← rangeFrom s)

/-- Words that are reserved only in some places. -/
def softKeywords : List String := ["match", "case", "_"]

/-- A name right before a string, or a word that is reserved in some places, starts here. -/
def atAmbiguousName : Rule Bool := ahead do
  let t ← take (·.kind == .name)
  if softKeywords.contains t.text then return ()
  else if t.isIdentifier then discard (kind .string)
  else fail

/-- The rest of a conditional expression. -/
def conditionalRest (s : Mark) (body : Expr) : Rule Expr := do
  discard (word "if")
  let test ← g.disjunction
  discard (word "else")
  let orelse ← g.expression
  return .conditional test body orelse (← rangeFrom s)

/-- An expression that is no anonymous function, given its first disjunction. -/
def conditionalFrom (s : Mark) (e : Expr) : Rule Expr :=
  conditionalRest g s e <|> pure e

/-- Looks for a missing comma or a missing `else` after a disjunction; `isAmbiguous` if the
disjunction may be the start of another construct. -/
def diagnoseExpression (isAmbiguous : Bool) (a : Expr) : Rule Unit := do
  diagnosing do
    if isAmbiguous then fail
    else
      discard (undiagnosed (do
        let s ← start
        if ← atWord "lambda" then lambda g
        else conditionalFrom g s (← disjunctionRule g)))
      match (← input).stream.tokens[(← position) - 1]? with
      | some t => if t.level == 0 then fail else complain a.range.start.line
      | none => fail
  diagnosing do
    discard (word "if")
    discard g.disjunction
    let t ← peek
    if t.isWord "else" || t.isOp ":" then fail else complain a.range.start.line

/-- An expression. -/
def expressionRule : Rule Expr := do
  let s ← start
  if ← atWord "lambda" then lambda g
  else
    let isAmbiguous ← do if (← input).diagnose then atAmbiguousName else pure false
    let e ← disjunctionRule g
    diagnoseExpression g isAmbiguous e
    conditionalFrom g s e

end Grammar

end BlockText.Source

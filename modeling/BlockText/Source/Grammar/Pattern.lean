import BlockText.Source.Grammar.Expr

/-!
# Rules for patterns

Only literals, names and the wildcard have blocks.  The other forms are read to tell a program
from a text that is none, and are then known by their form only.
-/

namespace BlockText.Source.Grammar

open Rule

/-- A name that binds what it matches. -/
def captureTarget : Rule Token := do
  if ← atWord "_" then fail
  let t ← identifier
  if ← atOps [".", "(", "="] then fail else return t

/-- A name with attributes: how many, and where it starts. -/
def dottedName : Rule Nat := do
  discard identifier
  return (← many (do discard (op "."); identifier)).length

/-- The number is imaginary. -/
def isImaginary (t : Token) : Bool := t.text.endsWith "j" || t.text.endsWith "J"

/-- A number with an optional sign, as an expression.  A sign after it makes it the real part of a
complex number: then there is no value of its own. -/
def signedNumber : Rule (Option Expr) := do
  let s ← start
  let isNegative ← tryOp "-"
  let t ← number
  if ← atOps ["+", "-"] then
    advance
    if isImaginary t then complain t.start.line
    let second ← number
    if isImaginary second then return none else complain second.start.line
  else
    let e := Expr.constant .number ⟨t.start, t.stop⟩
    if isNegative then return some (.unary .neg e (← rangeFrom s)) else return some e

variable (g : Grammar)

/-- The keys of mapping patterns that are literals. -/
def literalKey : Rule Unit := do
  let t ← peek
  if t.kind == .string then discard (strings g)
  else if t.isWord "None" || t.isWord "True" || t.isWord "False" then advance
  else discard signedNumber

/-- A pattern that consists of a literal. -/
def literalPattern : Rule Pattern := do
  let t ← peek
  let singleton (b : Option Bool) : Rule Pattern := do
    advance
    return .singleton b ⟨t.start, t.stop⟩
  if t.kind == .string then
    let e ← strings g
    match e with
    | .formatted _ r => return .other .value r
    | _ => return .literal e e.range
  else if t.isWord "None" then singleton none
  else if t.isWord "True" then singleton (some true)
  else if t.isWord "False" then singleton (some false)
  else
    match ← signedNumber with
    | none => return .other .value (← rangeFrom t.start)
    | some e => return .literal e e.range

/-- A starred or plain pattern in a sequence. -/
def maybeStarPattern : Rule Pattern := do
  let s ← start
  if ← tryOp "*" then
    discard identifier
    if ← atOps [".", "(", "="] then fail
    else return .other .star (← rangeFrom s)
  else g.pattern

/-- Patterns up to a comma at the end. -/
def patternList : Rule (List Pattern) := do
  let first ← maybeStarPattern g
  let rest ← many (do discard (op ","); maybeStarPattern g)
  discard (tryOp ",")
  return first :: rest

/-- A pattern in parentheses, or a sequence. -/
def groupPattern : Rule Pattern := do
  let s ← start
  discard (op "(")
  if ← tryOp ")" then return .other .sequence (← rangeFrom s)
  else
    let first ← maybeStarPattern g
    if ← atOp "," then
      discard (many (do discard (op ","); maybeStarPattern g))
      discard (tryOp ",")
      discard (op ")")
      return .other .sequence (← rangeFrom s)
    else
      match first with
      | .other .star _ => fail
      | _ =>
        discard (op ")")
        return first

/-- A sequence in brackets. -/
def listPattern : Rule Pattern := do
  let s ← start
  discard (op "[")
  discard (optional (patternList g))
  discard (op "]")
  return .other .sequence (← rangeFrom s)

/-- An entry of a mapping pattern; true for the rest of the mapping. -/
def mappingItem : Rule Bool := do
  if ← tryOp "**" then
    discard captureTarget
    return true
  else
    literalKey g <|> (do if (← dottedName) == 0 then fail else return ())
    discard (op ":")
    discard g.pattern
    return false

/-- A mapping pattern: what takes the rest of the mapping stands last. -/
def mappingPattern : Rule Pattern := do
  let s ← start
  discard (op "\x7b")
  unless ← atOp "\x7d" do
    let items ← separated (mappingItem g) ","
    discard (tryOp ",")
    if items.dropLast.any id then fail
  discard (op "\x7d")
  return .other .mapping (← rangeFrom s)

/-- An argument of a class pattern; true for a keyword. -/
def classItem : Rule Bool := do
  if ← atNameThen "=" then
    discard identifier
    discard (op "=")
    discard g.pattern
    return true
  else
    discard g.pattern
    return false

/-- Keywords stand after positional arguments. -/
def keywordsLast : List Bool → Bool
  | a :: b :: rest => !(a && !b) && keywordsLast (b :: rest)
  | _ => true

/-- A value or class pattern: it starts with a name. -/
def namedPattern : Rule Pattern := do
  let s ← start
  let dots ← dottedName
  if ← tryOp "(" then
    unless ← atOp ")" do
      let items ← separated (classItem g) ","
      discard (tryOp ",")
      if !keywordsLast items then fail
    discard (op ")")
    return .other .classShape (← rangeFrom s)
  else if dots == 0 || (← atOp "=") then fail
  else return .other .value (← rangeFrom s)

/-- A pattern without alternatives. -/
def closedPattern : Rule Pattern := do
  let t ← peek
  if t.isOp "(" then groupPattern g
  else if t.isOp "[" then listPattern g
  else if t.isOp "\x7b" then mappingPattern g
  else if t.isWord "_" then
    advance
    return .capture none ⟨t.start, t.stop⟩
  else
    literalPattern g <|>
    (do
      let t ← captureTarget
      return .capture (some t.text) ⟨t.start, t.stop⟩) <|>
    namedPattern g

/-- A pattern. -/
def patternRule : Rule Pattern := do
  let s ← start
  let alternatives ← separated (closedPattern g) "|"
  let p ← do
    match alternatives with
    | [p] => pure p
    | _ => pure (.other .alternatives (← rangeFrom s))
  if ← tryWord "as" then
    discard captureTarget
    return .other .binding (← rangeFrom s)
  else return p

/-- The pattern of a case; several make a sequence. -/
def casePattern : Rule Pattern := do
  let s ← start
  let first ← maybeStarPattern g
  if ← atOp "," then
    discard (many (do discard (op ","); maybeStarPattern g))
    discard (tryOp ",")
    return .other .sequence (← rangeFrom s)
  else
    match first with
    | .other .star _ => fail
    | _ => return first

end BlockText.Source.Grammar

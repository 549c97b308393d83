import BlockText.Datum.Walk
import BlockText.Render.Expr
import BlockText.Syntax.Stmt

/-!
# Programs as text

One statement stands on one line, and a body is indented one level deeper than its header.  A
body without statements shows `pass`.  Comments and blank lines that belong to a statement stand
above it or at the end of its first line after the decorators.
-/

namespace BlockText

open Syntax

namespace Render

/-- Which text is wanted for a program. -/
inductive Mode
  /-- The text that was read, as long as the program still is what was read. -/
  | lossless
  /-- The canonical text. -/
  | pretty
  deriving DecidableEq

instance : Choice Mode where
  vocabulary := "RenderMode"
  values := [.lossless, .pretty]
  spelling
    | .lossless => "lossless"
    | .pretty => "pretty"

/-- The spaces in front of a line at a depth. -/
def padding (width : Int) (depth : Nat) : String :=
  Text.repeated ' ' (width * depth)

/-- An expression in running text, in statement position. -/
def shownTop (e : Expr) : Result String := do return (← statementPlace e).display

/-- What a leading comment or blank line shows above its statement. -/
def leadingLines (pad : String) (trivia : List Trivia) : List String :=
  trivia.filterMap fun t =>
    match t.kind with
    | .comment => some (pad ++ t.text)
    | .blank => some ""
    | .rawWhitespace => none

/-- The comments and the white space after a statement, as they stand. -/
def trailingText (trivia : List Trivia) : String :=
  String.join ((trivia.filter fun t => t.kind != .blank).map (·.text))

/-- The end of the line of a statement: two spaces go before a comment that has none. -/
def lineEnd (trivia : List Trivia) : String :=
  let text := trailingText trivia
  match text.toList with
  | [] => ""
  | c :: _ => if Text.isBlank c then text else "  " ++ text

/-- The line of a statement without code. -/
def emptyLine (pad : String) (trivia : List Trivia) : String :=
  let comment := Text.trim (trailingText trivia)
  if comment.isEmpty then "" else pad ++ comment

/-- An imported name. -/
def importedName (n : ImportName) : Datum :=
  if n.asName.isTruthy then .text (n.name.display ++ " as " ++ n.asName.display) else n.name

/-- A context of a `with` statement. -/
def withItem (item : WithItem) : Result Datum := do
  let context ← operand item.context
  if item.name.isTruthy then .text <$> extend context (" as " ++ item.name.display)
  else return context

/-- The pattern of a case. -/
def pattern : Pattern → Result String
  | .wildcard _ => .ok "_"
  | .capture name _ => .ok name.display
  | .literal e _ => shown e
  | .stray d => .error (.unsupported "pattern" d.typeWord)

/-- A statement that has no body. -/
def simple : Stmt → Result Datum
  | .assign targets value _ => do
    let places ← targets.mapM statementPlace
    .text <$> joined " = " (places ++ [← statementPlace value])
  | .annAssign target hint value _ => do
    let head := (← shown target) ++ ": " ++ (← shown hint)
    match value with
    | none => return .text head
    | some e => return .text (head ++ " = " ++ (← shownTop e))
  | .augAssign target op value _ => do
    return .text ((← shown target) ++ " " ++ Choice.spelling op ++ "= " ++ (← shownTop value))
  | .exprStmt value _ => statementPlace value
  | .passStmt _ => .ok "pass"
  | .breakStmt _ => .ok "break"
  | .continueStmt _ => .ok "continue"
  | .returnStmt none _ => .ok "return"
  | .returnStmt (some e) _ => do return .text ("return " ++ (← shownTop e))
  | .importStmt module names isFrom _ => do
    let list ← joined ", " (names.map importedName)
    return .text (if isFrom then "from " ++ module.display ++ " import " ++ list
      else "import " ++ list)
  | .assertStmt test msg _ => do
    let head := "assert " ++ (← shown test)
    match msg with
    | none => return .text head
    | some e => return .text (head ++ ", " ++ (← shown e))
  | .raiseStmt none _ _ => .ok "raise"
  | .raiseStmt (some e) none _ => do return .text ("raise " ++ (← shown e))
  | .raiseStmt (some e) (some cause) _ => do
    return .text ("raise " ++ (← shown e) ++ " from " ++ (← shown cause))
  | .deleteStmt targets _ => do
    return .text ("del " ++ (← joined ", " (← targets.mapM (operand ·))))
  | .globalStmt names _ => do return .text ("global " ++ (← joined ", " names))
  | .nonlocalStmt names _ => do return .text ("nonlocal " ++ (← joined ", " names))
  | .stray d => .error (.unsupported "statement" d.typeWord)
  | _ => .error (.unsupported "statement" "")

/-- Decorators, each on a line. -/
def decoratorLines (pad : String) (decorators : List Expr) : Result (List String) :=
  decorators.mapM fun d => do append (pad ++ "@") (← operand d)

/-- The header of a function. -/
def functionHeader (name : Datum) (ps : List (Param Expr)) (returns : Option Expr)
    (isAsync : Bool) : Result String := do
  let list := Text.join ", " (← params true ps)
  let head := (if isAsync then "async def " else "def ") ++ name.display ++ "(" ++ list ++ ")"
  match returns with
  | none => return head ++ ":"
  | some e => return head ++ " -> " ++ (← shown e) ++ ":"

/-- The header of a class. -/
def classHeader (name : Datum) (bases : List Expr) : Result String := do
  match bases with
  | [] => return "class " ++ name.display ++ ":"
  | _ =>
    let list ← joined ", " (← bases.mapM (operand ·))
    return "class " ++ name.display ++ "(" ++ list ++ "):"

/-- The header of a handler; only one with a type can have a name. -/
def handlerHeader (type : Option Expr) (name : Datum) : Result String := do
  match type with
  | none => return "except:"
  | some e =>
    let head := "except " ++ (← shown e)
    return if name.isTruthy then head ++ " as " ++ name.display ++ ":" else head ++ ":"

/-- Appends to the line with the given index. -/
def appendToLine (lines : List String) (index : Nat) (text : String) : List String :=
  lines.modify index (· ++ text)

/-- The statement is a line without code. -/
def isEmptyStmt : Stmt → Bool
  | .empty .. => true
  | _ => false

/-- The lines of a statement that has no body, with what surrounds it. -/
def simpleLines (pad : String) (s : Stmt) (info : Info) : Result (List String) := do
  let line ← append pad (← simple s)
  return leadingLines pad info.leading ++ [line ++ lineEnd info.trailing]

/-- The lines of a statement with bodies, with what surrounds it; its header stands on line
`header`. -/
def around (pad : String) (info : Info) (header : Nat) (lines : List String) : List String :=
  leadingLines pad info.leading ++ appendToLine lines header (lineEnd info.trailing)

mutual

/-- The lines of a statement at a depth. -/
def stmtLines (width : Int) (depth : Nat) : Stmt → Result (List String)
  | .empty _ info =>
    .ok (leadingLines (padding width depth) info.leading ++
      [emptyLine (padding width depth) info.trailing])
  | .ifStmt test ⟨body, _⟩ elifs orelse info => do
    let head ← shown test
    let first ← clause width depth ("if " ++ head ++ ":") body
    let more ← elifLines width depth elifs
    let last ← optionalClause width depth "else:" orelse
    return around (padding width depth) info 0 (first ++ more ++ last)
  | .whileStmt test ⟨body, _⟩ orelse info => do
    let head ← shown test
    let first ← clause width depth ("while " ++ head ++ ":") body
    let last ← optionalClause width depth "else:" orelse
    return around (padding width depth) info 0 (first ++ last)
  | .forStmt target iter ⟨body, _⟩ orelse isAsync info => do
    let bound ← shownTop target
    let source ← shownTop iter
    let head := (if isAsync then "async for " else "for ") ++ bound ++ " in " ++ source ++ ":"
    let first ← clause width depth head body
    let last ← optionalClause width depth "else:" orelse
    return around (padding width depth) info 0 (first ++ last)
  | .matchStmt subject cases info => do
    let head ← shownTop subject
    let list ← caseLines width (depth + 1) cases
    return around (padding width depth) info 0
      ((padding width depth ++ "match " ++ head ++ ":") :: list)
  | .functionDef name ps ⟨body, _⟩ decorators returns isAsync info => do
    let head ← functionHeader name ps returns isAsync
    let above ← decoratorLines (padding width depth) decorators
    let lines ← clause width depth head body
    return around (padding width depth) info decorators.length (above ++ lines)
  | .classDef name bases ⟨body, _⟩ decorators info => do
    let head ← classHeader name bases
    let above ← decoratorLines (padding width depth) decorators
    let lines ← clause width depth head body
    return around (padding width depth) info decorators.length (above ++ lines)
  | .tryStmt ⟨body, _⟩ handlers orelse final info => do
    let first ← clause width depth "try:" body
    let more ← handlerLines width depth handlers
    let other ← optionalClause width depth "else:" orelse
    let last ← optionalClause width depth "finally:" final
    return around (padding width depth) info 0 (first ++ more ++ other ++ last)
  | .withStmt items ⟨body, _⟩ isAsync info => do
    let list ← joined ", " (← items.mapM withItem)
    let head := (if isAsync then "async with " else "with ") ++ list ++ ":"
    let lines ← clause width depth head body
    return around (padding width depth) info 0 lines
  | .stray d =>
    if d.isNode then .error (.unsupported "statement" d.typeWord)
    else fail (.noOperation d.typeWord "meta")
  | s@(.assign _ _ info) | s@(.annAssign _ _ _ info) | s@(.augAssign _ _ _ info)
  | s@(.exprStmt _ info) | s@(.passStmt info) | s@(.returnStmt _ info) | s@(.breakStmt info)
  | s@(.continueStmt info) | s@(.importStmt _ _ _ info) | s@(.assertStmt _ _ info)
  | s@(.raiseStmt _ _ info) | s@(.deleteStmt _ info) | s@(.globalStmt _ info)
  | s@(.nonlocalStmt _ info) => simpleLines (padding width depth) s info

/-- The lines of statements at a depth. -/
def stmtsLines (width : Int) (depth : Nat) : List Stmt → Result (List String)
  | [] => .ok []
  | s :: rest => do
    let lines ← stmtLines width depth s
    return lines ++ (← stmtsLines width depth rest)

/-- A header and its body; a body without statements shows `pass` first. -/
def clause (width : Int) (depth : Nat) (header : String) : List Stmt → Result (List String)
  | [] => .ok [padding width depth ++ header, padding width (depth + 1) ++ "pass"]
  | s :: rest => do
    let first ← stmtLines width (depth + 1) s
    let lines := first ++ (← stmtsLines width (depth + 1) rest)
    let head := padding width depth ++ header
    return if (s :: rest).all isEmptyStmt then head :: (padding width (depth + 1) ++ "pass") :: lines
      else head :: lines

/-- A header and its body that may be left out. -/
def optionalClause (width : Int) (depth : Nat) (header : String) :
    Option (Suite Stmt) → Result (List String)
  | none => .ok []
  | some ⟨body, _⟩ => clause width depth header body

/-- Further conditions. -/
def elifLines (width : Int) (depth : Nat) : List (ElifClause Stmt) → Result (List String)
  | [] => .ok []
  | ⟨test, ⟨body, _⟩, _⟩ :: rest => do
    let head ← shown test
    let lines ← clause width depth ("elif " ++ head ++ ":") body
    return lines ++ (← elifLines width depth rest)

/-- Cases of a `match` statement. -/
def caseLines (width : Int) (depth : Nat) : List (MatchCase Stmt) → Result (List String)
  | [] => .ok []
  | ⟨p, ⟨body, _⟩, _⟩ :: rest => do
    let head ← pattern p
    let lines ← clause width depth ("case " ++ head ++ ":") body
    return lines ++ (← caseLines width depth rest)

/-- Handlers of a `try` statement. -/
def handlerLines (width : Int) (depth : Nat) : List (Handler Stmt) → Result (List String)
  | [] => .ok []
  | ⟨type, name, ⟨body, _⟩, _⟩ :: rest => do
    let head ← handlerHeader type name
    let lines ← clause width depth head body
    return lines ++ (← handlerLines width depth rest)

end

end Render

namespace Syntax.Program

/-- The canonical text of a program. -/
def pretty (p : Program) : Render.Result String := do
  match ← Render.stmtsLines p.indentWidth 0 p.body.statements with
  | [] => return ""
  | lines => return Text.join "\n" lines ++ "\n"

/-- The text of a program: what it was read from if it is unchanged and that is wanted. -/
def render (p : Program) (mode : Render.Mode := .lossless) : Render.Result String :=
  match mode, p.dirty, p.source with
  | .lossless, false, some source => .ok source
  | _, _, _ => p.pretty

end Syntax.Program

end BlockText

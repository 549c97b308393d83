import BlockText.Source.Grammar.Stmt
import BlockText.Source.Text
import BlockText.Syntax.Error
import BlockText.Syntax.Stmt
import BlockText.Text.Literal

/-!
# From trees of the grammar to programs

Every node gets an identity, counted from 1 in the order in which nodes are reached, its span and
the tokens in it.  Lines without code between statements become empty statements, and a comment
after code belongs to the statement that ends there.  What has no block is an error.
-/

namespace BlockText.Source

open Syntax

/-- What is known while a program is read. -/
structure ReadState where
  /-- The identity given out last. -/
  last : Int := 0
  /-- Lines whose comments belong to a statement already. -/
  claimed : List Nat := []

/-- A step of reading. -/
abbrev Reading (α : Type) := StateT ReadState (Except ParseError) α

/-- A text being read. -/
structure Manuscript where
  text : SourceText
  /-- Its lines, where a carriage return ends a line too. -/
  physical : List (List Char)

namespace Manuscript

variable (m : Manuscript)

/-- Information for the next node. -/
def infoFor (span : Option Span) : Reading Info := do
  let s ← get
  set { s with last := s.last + 1 }
  return { id := s.last + 1, span, tokens := span.map m.text.tokensIn }

/-- Information for a node at a range. -/
def infoAt (r : Range) : Reading Info := m.infoFor (some (m.text.spanOf r))

/-- Fails because of something that no program can hold. -/
def unsupported {α : Type} (r : Range) (what : String) : Reading α :=
  throw {
    message := "unsupported syntax: " ++ what
    line := some r.start.line
    column := some (m.text.columnAt r.start) }

/-- The text of a range. -/
def spelling (r : Range) : String := String.ofList (segment m.physical r)

/-- From the start of one range to the end of another. -/
def between (first last : Range) : Range := ⟨first.start, last.stop⟩

/-! ## Expressions -/

/-- A constant. -/
def constant (c : Constant) (r : Range) (info : Info) : Reading Syntax.Expr := do
  let raw := m.spelling r
  match c with
  | .none => return .literal .none "None" .null info
  | .bool b =>
    let spelled := if raw.isEmpty then (if b then "True" else "False") else raw
    return .literal .bool spelled (.bool b) info
  | .number => return .literal .number raw .null info
  | .string points =>
    let isJoined := match info.tokens with
      | some t => t.stop > t.start + 1
      | none => false
    -- literals joined across lines need brackets, which the new place may not have
    let spelled : Datum :=
      if raw.isEmpty || (isJoined && raw.toList.contains '\n') then
        .ofPoints (Text.spellPoints points (Text.delimiterOf raw))
      else raw
    return .literal .string spelled (.ofPoints points) info
  | .bytes => return .literal .string raw raw info
  | .ellipsis => m.unsupported r "ellipsis"

mutual

/-- An expression. -/
def expr : Expr → Reading Syntax.Expr
  | .name id r => do return .identifier id (← m.infoAt r)
  | .constant c r => do m.constant c r (← m.infoAt r)
  | .binary l op e r => do
    let info ← m.infoAt r
    let left ← expr l
    return .binary left op (← expr e) info
  | .unary op e r => do
    let info ← m.infoAt r
    return .unary op (← expr e) info
  | .boolOp op es r => do
    let info ← m.infoAt r
    return .boolOp op (← exprs es) info
  | .compare l ops es r => do
    let info ← m.infoAt r
    let left ← expr l
    return .compare left ops (← exprs es) info
  | .lambda ⟨positional, plain, variadic, named, mapping⟩ e r => do
    let info ← m.infoAt r
    match positional with
    | a :: _ => m.unsupported a.arg.range "positional-only parameter"
    | [] =>
      let first ← presets plain
      let second ← starParam variadic named.isEmpty
      let third ← presets named
      let fourth ← mappingParam mapping
      return .lambda (first ++ second ++ third ++ fourth) (← expr e) info
  | .conditional t b e r => do
    let info ← m.infoAt r
    let test ← expr t
    let body ← expr b
    return .conditional test body (← expr e) info
  | .call f args ks r => do
    let info ← m.infoAt r
    let func ← expr f
    let list ← callArgs args
    return .call func list (← keywordArgs ks) info
  | .tuple es r => do
    let info ← m.infoAt r
    return .tuple (← exprs es) info
  | .list es r => do
    let info ← m.infoAt r
    return .list (← exprs es) info
  | .set es r => do
    let info ← m.infoAt r
    return .set (← exprs es) info
  | .dict es r => do
    let info ← m.infoAt r
    return .dict (← entries es) info
  | .attribute e attr r => do
    let info ← m.infoAt r
    return .attribute (← expr e) attr info
  | .subscript e i r => do
    let info ← m.infoAt r
    let value ← expr e
    return .subscript value (← expr i) info
  | .slice l u s r => do
    let info ← m.infoAt r
    let lower ← maybe l
    let upper ← maybe u
    return .slice lower upper (← maybe s) info
  | .comprehension kind k e cs r => do
    let info ← m.infoAt r
    let key ← maybe k
    let element ← expr e
    return .comprehension kind element (← clauses cs) key info
  | .formatted ps r => do
    let info ← m.infoAt r
    let parts ← pieces r ps
    return .fstring parts (Text.delimiterOf (m.spelling r)).toText info
  | .walrus target e r => do
    let info ← m.infoAt r
    return .walrus target (← expr e) info
  | .yield e r => do
    let info ← m.infoAt r
    return .yield (← maybe e) info
  | .yieldFrom e r => do
    let info ← m.infoAt r
    return .yieldFrom (← expr e) info
  | .await e r => do
    let info ← m.infoAt r
    return .await (← expr e) info
  | .starred _ r => m.unsupported r "Starred"

/-- An expression that may be left out. -/
def maybe : Option Expr → Reading (Option Syntax.Expr)
  | none => return none
  | some e => do return some (← expr e)

/-- Expressions one after the other. -/
def exprs : List Expr → Reading (List Syntax.Expr)
  | [] => return []
  | e :: rest => do
    let first ← expr e
    return first :: (← exprs rest)

/-- Positional arguments. -/
def callArgs : List Expr → Reading (List Syntax.Expr)
  | [] => return []
  | .starred _ r :: _ => m.unsupported r "starred argument"
  | e :: rest => do
    let first ← expr e
    return first :: (← callArgs rest)

/-- Keyword arguments. -/
def keywordArgs : List (KeywordArg Expr) → Reading (List (Keyword Syntax.Expr))
  | [] => return []
  | ⟨name, e, r⟩ :: rest => do
    let info ← m.infoAt r
    let value ← expr e
    return ⟨Datum.ofText? name, value, info⟩ :: (← keywordArgs rest)

/-- Entries of a dictionary. -/
def entries : List (Entry Expr) → Reading (List (DictEntry Syntax.Expr))
  | [] => return []
  | ⟨k, e⟩ :: rest => do
    let info ← m.infoAt (between ((k.map Expr.range).getD e.range) e.range)
    let key ← maybe k
    let value ← expr e
    return ⟨key, value, info⟩ :: (← entries rest)

/-- Clauses of a comprehension. -/
def clauses : List (ForClause Expr) → Reading (List (Clause Syntax.Expr))
  | [] => return []
  | ⟨t, i, cs, isAsync⟩ :: rest => do
    let last := (cs.getLast?.map Expr.range).getD i.range
    let info ← m.infoAt (between t.range last)
    let target ← expr t
    let iter ← expr i
    let ifs ← exprs cs
    return ⟨target, iter, ifs, isAsync, info⟩ :: (← clauses rest)

/-- Pieces of a formatted string, which all have its place. -/
def pieces (r : Range) : List (Piece Expr) → Reading (List (FormatPart Syntax.Expr))
  | [] => return []
  | ⟨text, none, _, _⟩ :: rest => do
    let info ← m.infoAt r
    return ⟨.literal, .ofPoints text, none, "", "", info⟩ :: (← pieces r rest)
  | ⟨_, some e, conversion, spec⟩ :: rest => do
    let info ← m.infoAt r
    let value ← expr e
    match spec with
    | .nested => m.unsupported r "nested format specification"
    | .plain text =>
      return ⟨.expr, "", some value, conversion, .ofPoints text, info⟩ :: (← pieces r rest)

/-- Parameters with default values. -/
def presets : List (ArgDefault Expr) → Reading (List (Param Syntax.Expr))
  | [] => return []
  | ⟨⟨name, h, r⟩, p⟩ :: rest => do
    let info ← m.infoAt (between r ((p.map Expr.range).getD r))
    let hint ← maybe h
    let preset ← maybe p
    return ⟨name, hint, preset, .normal, info⟩ :: (← presets rest)

/-- The parameter that takes further arguments.  Without a name it only divides the parameters,
and stands for nothing in the text. -/
def starParam : Option (Arg Expr) → Bool → Reading (List (Param Syntax.Expr))
  | some ⟨name, h, r⟩, _ => do
    let info ← m.infoAt r
    let hint ← maybe h
    return [⟨name, hint, none, .star, info⟩]
  | none, true => return []
  | none, false => do
    let info ← m.infoFor none
    return [⟨"", none, none, .star, info⟩]

/-- The parameter that takes further keyword arguments. -/
def mappingParam : Option (Arg Expr) → Reading (List (Param Syntax.Expr))
  | none => return []
  | some ⟨name, h, r⟩ => do
    let info ← m.infoAt r
    let hint ← maybe h
    return [⟨name, hint, none, .doubleStar, info⟩]

end

/-- The parameters of a function. -/
def params (a : Arguments Expr) : Reading (List (Param Syntax.Expr)) := do
  match a.positionalOnly with
  | p :: _ => m.unsupported p.arg.range "positional-only parameter"
  | [] =>
    let first ← m.presets a.plain
    let second ← m.starParam a.variadic a.keywordOnly.isEmpty
    let third ← m.presets a.keywordOnly
    return first ++ second ++ third ++ (← m.mappingParam a.mapping)

/-! ## Patterns -/

/-- A pattern. -/
def pattern (p : Pattern) : Reading Syntax.Pattern := do
  let info ← m.infoAt p.range
  match p with
  | .capture none _ => return .wildcard info
  | .capture (some name) _ => return .capture name info
  | .singleton value r =>
    let inner ← m.infoAt r
    match value with
    | none => return .literal (.literal .none "None" .null inner) info
    | some b => return .literal (.literal .bool (if b then "True" else "False") (.bool b) inner) info
  | .literal (.unary _ _ r) _ =>
    let inner ← m.infoAt r
    return .literal (.literal .number (m.spelling r) .null inner) info
  | .literal e _ => return .literal (← m.expr e) info
  | .other form r => m.unsupported r ("pattern " ++ form.label)

/-! ## Statements -/

/-- The decorators of a definition. -/
def decoratorsOf : Stmt → List Expr
  | .functionDef _ _ _ ds _ _ _ | .classDef _ _ _ _ ds _ => ds
  | _ => []

/-- Where a statement starts: with its first decorator, if it has any. -/
def startOf (s : Stmt) : Position :=
  match decoratorsOf s with
  | d :: _ => m.text.firstOnLine d.range.start.line
  | [] => m.text.positionAt s.range.start

/-- The first statement of the body of a compound statement. -/
def firstInside? : Stmt → Option Stmt
  | .ifStmt _ b _ _ | .whileStmt _ b _ _ | .forStmt _ _ b _ _ _ | .withStmt _ b _ _
  | .functionDef _ _ b _ _ _ _ | .classDef _ _ _ b _ _ | .tryStmt b _ _ _ _ _ => b.head?
  | _ => none

/-- Claims the comment that ends a line, if nothing but blanks stands between it and a column. -/
def claimComment (info : Info) (line : Nat) (after : Option Nat := none) : Reading Info := do
  let s ← get
  match m.text.outline.commentOn? line with
  | none => return info
  | some c =>
    let cs := m.text.line line
    let isApart := match after with
      | none => true
      | some column =>
        column ≤ c.column && ((cs.take c.column).drop column).all Text.isBlank
    if s.claimed.contains line || !isApart then return info
    else
      set { s with claimed := line :: s.claimed }
      let gap := (cs.take c.column).drop (Text.trimEndChars (cs.take c.column)).length
      return { info with
        trailing := info.trailing ++
          [⟨.rawWhitespace, String.ofList gap⟩, ⟨.comment, c.text⟩] }

/-- A line without code. -/
def gap (line : Nat) : Reading Syntax.Stmt := do
  let text := withoutBreaks (m.text.line line)
  let info ← m.infoFor (some ⟨m.text.position line 0, m.text.position line text.length⟩)
  match m.text.outline.commentOn? line with
  | none => return .empty .source info
  | some c =>
    modify fun s => { s with claimed := line :: s.claimed }
    return .empty .source { info with trailing := [⟨.comment, c.text⟩] }

/-- The lines from one up to another, which is not included. -/
def gaps (first stop : Nat) : Reading (List Syntax.Stmt) :=
  (List.range' first (stop - first)).mapM m.gap

/-- The lines without code in front of a statement. -/
def gapsBefore (s : Stmt) : Reading (List Syntax.Stmt) :=
  let start := m.startOf s
  m.gaps (m.text.outline.lastCodeLine start.line start.column + 1) start.line

/-- Information for a statement, with the comment that belongs to it. -/
def stmtInfo (s : Stmt) : Reading Info := do
  let span : Span := ⟨m.startOf s, m.text.positionAt s.range.stop⟩
  let info ← m.infoFor (some span)
  match firstInside? s with
  | some inner =>
    let start := m.startOf inner
    let line := m.text.outline.lastCodeLine start.line start.column
    if line < inner.range.start.line then m.claimComment info line else return info
  | none =>
    match s with
    | .matchStmt e _ _ => m.claimComment info e.range.stop.line
    | _ => m.claimComment info span.stop.line (some span.stop.column)

/-- Imported names. -/
def aliases : List Alias → Reading (List ImportName)
  | [] => return []
  | a :: rest => do
    if a.name == "*" then
      throw {
        message := "unsupported syntax: star import"
        line := some a.range.start.line
        column := some a.range.start.column }
    let info ← m.infoAt a.range
    return ⟨a.name, Datum.ofText? a.asName, info⟩ :: (← aliases rest)

/-- Contexts of a `with` statement. -/
def contexts : List Context → Reading (List WithItem)
  | [] => return []
  | ⟨e, none⟩ :: rest => do
    let info ← m.infoAt e.range
    let value ← m.expr e
    return ⟨value, .null, info⟩ :: (← contexts rest)
  | ⟨e, some (.name id r)⟩ :: rest => do
    let info ← m.infoAt (between e.range r)
    let value ← m.expr e
    return ⟨value, id, info⟩ :: (← contexts rest)
  | ⟨_, some target⟩ :: _ => m.unsupported target.range "with-item target other than a name"

/-- The statement is a further condition of the statement before it. -/
def isElif (r : Range) : Bool :=
  "elif".toList.isPrefixOf ((m.text.line r.start.line).drop (m.text.columnAt r.start))

mutual

/-- A statement at a depth. -/
def stmt (depth : Int) : Stmt → Reading Syntax.Stmt
  | .ifStmt t b e r => do
    let info ← m.stmtInfo (.ifStmt t b e r)
    let test ← m.expr t
    let body ← suite (depth + 1) b
    let (elifs, orelse) ← elseParts depth e
    return .ifStmt test ⟨body, depth + 1⟩ elifs orelse info
  | .whileStmt t b e r => do
    let info ← m.stmtInfo (.whileStmt t b e r)
    let test ← m.expr t
    let body ← suite (depth + 1) b
    let orelse ← maybeSuite (depth + 1) e
    return .whileStmt test ⟨body, depth + 1⟩ orelse info
  | .forStmt t i b e isAsync r => do
    let info ← m.stmtInfo (.forStmt t i b e isAsync r)
    let target ← m.expr t
    let iter ← m.expr i
    let body ← suite (depth + 1) b
    let orelse ← maybeSuite (depth + 1) e
    return .forStmt target iter ⟨body, depth + 1⟩ orelse isAsync info
  | .withStmt items b isAsync r => do
    let info ← m.stmtInfo (.withStmt items b isAsync r)
    let list ← m.contexts items
    let body ← suite (depth + 1) b
    return .withStmt list ⟨body, depth + 1⟩ isAsync info
  | .matchStmt e cs r => do
    let info ← m.stmtInfo (.matchStmt e cs r)
    let value ← m.expr e
    let list ← cases depth cs
    return .matchStmt value list info
  | .functionDef name a b ds ret isAsync r => do
    let info ← m.stmtInfo (.functionDef name a b ds ret isAsync r)
    let decorators ← m.exprs ds
    let ps ← m.params a
    let returns ← m.maybe ret
    let body ← suite (depth + 1) b
    return .functionDef name ps ⟨body, depth + 1⟩ decorators returns isAsync info
  | .classDef name bs ks b ds r => do
    let info ← m.stmtInfo (.classDef name bs ks b ds r)
    match ks with
    | k :: _ => m.unsupported k.range "class keyword argument"
    | [] =>
      let decorators ← m.exprs ds
      let bases ← m.exprs bs
      let body ← suite (depth + 1) b
      return .classDef name bases ⟨body, depth + 1⟩ decorators info
  | .tryStmt b hs e f isStar r => do
    if isStar then m.unsupported r "TryStar"
    else
      let info ← m.stmtInfo (.tryStmt b hs e f isStar r)
      let body ← suite (depth + 1) b
      let list ← handlers depth hs
      let orelse ← maybeSuite (depth + 1) e
      let final ← maybeSuite (depth + 1) f
      return .tryStmt ⟨body, depth + 1⟩ list orelse final info
  | .assign ts e r => do
    let info ← m.stmtInfo (.assign ts e r)
    let targets ← m.exprs ts
    return .assign targets (← m.expr e) info
  | .annAssign t h e r => do
    let info ← m.stmtInfo (.annAssign t h e r)
    let target ← m.expr t
    let hint ← m.expr h
    return .annAssign target hint (← m.maybe e) info
  | .augAssign t op e r => do
    let info ← m.stmtInfo (.augAssign t op e r)
    let target ← m.expr t
    return .augAssign target op (← m.expr e) info
  | .exprStmt e r => do
    let info ← m.stmtInfo (.exprStmt e r)
    return .exprStmt (← m.expr e) info
  | .passStmt r => do return .passStmt (← m.stmtInfo (.passStmt r))
  | .breakStmt r => do return .breakStmt (← m.stmtInfo (.breakStmt r))
  | .continueStmt r => do return .continueStmt (← m.stmtInfo (.continueStmt r))
  | .returnStmt e r => do
    let info ← m.stmtInfo (.returnStmt e r)
    return .returnStmt (← m.maybe e) info
  | .importStmt names r => do
    let info ← m.stmtInfo (.importStmt names r)
    return .importStmt "" (← m.aliases names) false info
  | .fromStmt module names r => do
    let info ← m.stmtInfo (.fromStmt module names r)
    return .importStmt module (← m.aliases names) true info
  | .assertStmt t e r => do
    let info ← m.stmtInfo (.assertStmt t e r)
    let test ← m.expr t
    return .assertStmt test (← m.maybe e) info
  | .raiseStmt e c r => do
    let info ← m.stmtInfo (.raiseStmt e c r)
    let exception ← m.maybe e
    return .raiseStmt exception (← m.maybe c) info
  | .deleteStmt ts r => do
    let info ← m.stmtInfo (.deleteStmt ts r)
    return .deleteStmt (← m.exprs ts) info
  | .globalStmt names r => do
    return .globalStmt (names.map .text) (← m.stmtInfo (.globalStmt names r))
  | .nonlocalStmt names r => do
    return .nonlocalStmt (names.map .text) (← m.stmtInfo (.nonlocalStmt names r))

/-- The statements of a body, each with the lines without code in front of it. -/
def suite (depth : Int) : List Stmt → Reading (List Syntax.Stmt)
  | [] => return []
  | s :: rest => do
    let before ← m.gapsBefore s
    let first ← stmt depth s
    return before ++ first :: (← suite depth rest)

/-- A body that may be left out. -/
def maybeSuite (depth : Int) : List Stmt → Reading (Option (Suite Syntax.Stmt))
  | [] => return none
  | s :: rest => do
    let before ← m.gapsBefore s
    let first ← stmt depth s
    let others ← suite depth rest
    return some ⟨before ++ first :: others, depth⟩

/-- What follows the body of a conditional statement: further conditions and the last body. -/
def elseParts (depth : Int) :
    List Stmt → Reading (List (ElifClause Syntax.Stmt) × Option (Suite Syntax.Stmt))
  | [] => return ([], none)
  | [.ifStmt t b e r] => do
    if m.isElif r then
      let info ← m.infoAt r
      let test ← m.expr t
      let body ← suite (depth + 1) b
      let (elifs, orelse) ← elseParts depth e
      return (⟨test, ⟨body, depth + 1⟩, info⟩ :: elifs, orelse)
    else
      let before ← m.gapsBefore (.ifStmt t b e r)
      let info ← m.stmtInfo (.ifStmt t b e r)
      let test ← m.expr t
      let body ← suite (depth + 2) b
      let (elifs, orelse) ← elseParts (depth + 1) e
      let s := Syntax.Stmt.ifStmt test ⟨body, depth + 2⟩ elifs orelse info
      return ([], some ⟨before ++ [s], depth + 1⟩)
  | s :: rest => do
    let before ← m.gapsBefore s
    let first ← stmt (depth + 1) s
    let others ← suite (depth + 1) rest
    return ([], some ⟨before ++ first :: others, depth + 1⟩)

/-- Cases, whose bodies are two levels deeper than the statement. -/
def cases (depth : Int) : List (Case Stmt) → Reading (List (MatchCase Syntax.Stmt))
  | [] => return []
  | ⟨p, guard, b⟩ :: rest => do
    match guard with
    | some e => m.unsupported e.range "case guard"
    | none =>
      let stop := (b.getLast?.map fun s => s.range.stop).getD p.range.stop
      let span : Span := ⟨m.text.firstOnLine p.range.start.line, m.text.positionAt stop⟩
      let info ← m.infoFor (some span)
      let shape ← m.pattern p
      let body ← suite (depth + 2) b
      return ⟨shape, ⟨body, depth + 2⟩, info⟩ :: (← cases depth rest)

/-- Handlers. -/
def handlers (depth : Int) : List (Catch Stmt) → Reading (List (Handler Syntax.Stmt))
  | [] => return []
  | ⟨t, name, b, r⟩ :: rest => do
    let info ← m.infoAt r
    let type ← m.maybe t
    let body ← suite (depth + 1) b
    return ⟨type, Datum.ofText? name, ⟨body, depth + 1⟩, info⟩ :: (← handlers depth rest)

end

/-- The program of a text whose statements are known. -/
def program (indentWidth : Int) (statements : List Stmt) : Reading Program := do
  let info ← m.infoFor (some m.text.wholeSpan)
  let body ← m.suite 0 statements
  let after ← m.gaps (m.text.outline.lastLine + 1) (m.text.lines.length + 1)
  return {
    body := ⟨body ++ after, 0⟩
    indentWidth
    source := some m.text.source
    info }

end Manuscript

end BlockText.Source

namespace BlockText.Syntax

/-- The error for a text with a null character. -/
def ParseError.nullCharacter : ParseError :=
  { message := "source code string cannot contain null bytes", kind := .nullCharacter }

/-- The error for a text that breaks the grammar. -/
def ParseError.grammar (line : Nat) : ParseError :=
  { message := "syntax error", line := some line, column := some 0, kind := .grammar }

/-- The program that a text denotes. -/
def Program.ofSource (source : String) (indentWidth : Int := 4)
    (names : Text.CharacterNames := Text.named?) : Except ParseError Program := do
  let cs := source.toList
  if cs.contains (Char.ofNat 0) then throw .nullCharacter
  let statements ← (Source.parse names cs).mapError .grammar
  let lines := Text.linesKeepingFeeds cs
  let outline ← (Source.Outline.ofLines lines).mapError fun e =>
    { message := "tokenize failed: " ++ e.message }
  let m : Source.Manuscript := ⟨⟨source, lines, outline⟩, Source.physicalLines cs⟩
  let (p, _) ← (m.program indentWidth statements).run {}
  return p

end BlockText.Syntax

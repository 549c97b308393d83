import BlockText.Source.Scan
import BlockText.Source.Token

/-!
# From characters to tokens

Indentation is measured twice, with tabs to multiples of eight and with tabs as single columns,
and both measures must order lines the same way.  Lines without code do not count.  Inside
brackets neither line breaks nor indentation count.
-/

namespace BlockText.Source

/-- The deepest indentation. -/
def maxIndents : Nat := 100

/-- The deepest nesting of brackets. -/
def maxBrackets : Nat := 200

/-- The first lexeme of a text that does not start with blanks; `none` if it is malformed. -/
def lexeme (cs : List Char) : Option (TokenKind × List Char × List Char) :=
  match stringStart? cs with
  | some (letters, rest) => (scanQuoted rest).map fun (s, rest) => (.string, letters ++ s, rest)
  | none =>
    match cs with
    | [] => none
    | c :: more =>
      if startsName c then
        let name := cs.takeWhile continuesName
        if isName name then some (.name, name, cs.drop name.length) else none
      else if c.isDigit || (c == '.' && more.head?.any Char.isDigit) then
        (scanNumber cs).map fun (s, rest) => (.number, s, rest)
      else if Text.isPrinting c then
        let (s, rest) := scanOperator cs
        some (.operator, s, rest)
      else none

/-- Where the lexer stands. -/
structure LexState where
  rest : List Char
  mark : Mark
  /-- The open indentations in both measures, innermost first. -/
  indents : List (Nat × Nat) := []
  /-- The open brackets and their lines, innermost first. -/
  brackets : List (Char × Nat) := []
  tokens : Array Token := #[]

namespace LexState

/-- Adds a token without text. -/
def layout (s : LexState) (kind : TokenKind) : LexState :=
  { s with tokens := s.tokens.push ⟨kind, "", s.mark, s.mark, s.brackets.length⟩ }

/-- Ends the stream with a failure. -/
def fail (s : LexState) (line : Nat) (isOwnError : Bool) : TokenStream :=
  ⟨s.tokens, some ⟨line, isOwnError, s.brackets.head?.map (·.2)⟩⟩

/-- Ends the stream where the text ends too early: inside brackets, the fault is on the line of
the innermost one. -/
def failAtEnd (s : LexState) : TokenStream :=
  s.fail ((s.brackets.head?.map (·.2)).getD s.mark.line) false

/-- Moves over characters. -/
def skip (s : LexState) (cs rest : List Char) : LexState :=
  { s with rest, mark := s.mark.advance cs }

end LexState

/-- The indentation at the front of a line in both measures, and whether a line continuation in
it is broken.  A continued line counts with the indentation before the first continuation. -/
structure Indentation where
  column : Nat
  alternate : Nat
  taken : List Char
  rest : List Char
  isBroken : Bool := false

/-- Measures the indentation at the front of a text. -/
def measure (column alternate kept : Nat) : List Char → Indentation
  | ' ' :: rest => add ' ' (measure (column + 1) (alternate + 1) kept rest)
  | '\t' :: rest => add '\t' (measure ((column / 8 + 1) * 8) (alternate + 1) kept rest)
  | '\x0c' :: rest => add '\x0c' (measure 0 0 kept rest)
  | '\\' :: '\n' :: rest =>
    if rest.isEmpty then ⟨column, alternate, [], '\\' :: '\n' :: rest, true⟩
    else
      add '\\' (add '\n' (measure column alternate (if kept == 0 then column else kept) rest))
  | '\\' :: rest => ⟨column, alternate, [], '\\' :: rest, true⟩
  | rest =>
    if kept == 0 then ⟨column, alternate, [], rest, false⟩ else ⟨kept, kept, [], rest, false⟩
where
  /-- Adds a character to what was taken. -/
  add (c : Char) (i : Indentation) : Indentation := { i with taken := c :: i.taken }

/-- Closes indentations down to a column; `none` if no line has that indentation. -/
def closeIndents (column alternate : Nat) (s : LexState) :
    List (Nat × Nat) → Option LexState
  | [] =>
    if column == 0 && alternate == 0 then some { s with indents := [] } else none
  | (c, a) :: outer =>
    if column < c then closeIndents column alternate (s.layout .dedent) outer
    else if column == c && alternate == a then some { s with indents := (c, a) :: outer }
    else none

/-- The tokens for the indentation of a line with code; `none` if it is inconsistent. -/
def indentTokens (column alternate : Nat) (s : LexState) : Option LexState :=
  let (c, a) := s.indents.head?.getD (0, 0)
  if column == c then if alternate == a then some s else none
  else if column > c then
    if s.indents.length + 2 > maxIndents || alternate ≤ a then none
    else some { s.layout .indent with indents := (column, alternate) :: s.indents }
  else closeIndents column alternate s s.indents

/-- The end of the text: an error inside brackets, otherwise all indentations close. -/
def lexEnd (s : LexState) : TokenStream :=
  let s := { s with mark := ⟨max 1 (s.mark.line - 1), s.mark.column⟩ }
  match s.brackets with
  | (_, line) :: _ => s.fail line false
  | [] =>
    let s := s.indents.foldl (fun s _ => s.layout .dedent) s
    ⟨(s.layout .endMarker).tokens, none⟩

/-- A blank between tokens. -/
def isSpacing (c : Char) : Bool := c == ' ' || c == '\t' || c == '\x0c'

/-- Adds a token and keeps the brackets in balance; `none` for an unmatched bracket or too deep a
nesting. -/
def addToken (s : LexState) (kind : TokenKind) (cs rest : List Char) : Option LexState := do
  let line := s.mark.line
  let brackets ←
    match kind, cs with
    | .operator, [c] =>
      if (closerOf? c).isSome then
        if s.brackets.length ≥ maxBrackets then none else some ((c, line) :: s.brackets)
      else if isCloser c then
        match s.brackets with
        | (o, _) :: outer => if closerOf? o == some c then some outer else none
        | [] => none
      else some s.brackets
    | _, _ => some s.brackets
  let stop := s.mark.advance cs
  return { s with
    rest, brackets
    mark := stop
    tokens := s.tokens.push ⟨kind, String.ofList cs, s.mark, stop, brackets.length⟩ }

/-- Reads tokens; `fuel` bounds their number together with the number of lines, and
`isLineStart` tells whether a line begins here. -/
def lexLoop : Nat → Bool → LexState → TokenStream
  | 0, _, s => s.fail s.mark.line false
  | fuel + 1, true, s =>
    let i := measure 0 0 0 s.rest
    let s := s.skip i.taken i.rest
    if i.isBroken then
      if i.rest == ['\\', '\n'] then s.failAtEnd else s.fail s.mark.line false
    else
      match i.rest with
      | [] => lexEnd s
      | c :: _ =>
        if c == '\n' || c == '#' then
          let comment := i.rest.takeWhile (· != '\n')
          let rest := i.rest.drop comment.length
          lexLoop fuel true (s.skip (comment ++ rest.take 1) (rest.drop 1))
        else if !s.brackets.isEmpty then lexLoop fuel false s
        else
          match indentTokens i.column i.alternate s with
          | some s => lexLoop fuel false s
          | none => s.fail s.mark.line false
  | fuel + 1, false, s =>
    let blanks := s.rest.takeWhile isSpacing
    let s := s.skip blanks (s.rest.drop blanks.length)
    let comment := if s.rest.head? == some '#' then s.rest.takeWhile (· != '\n') else []
    let s := s.skip comment (s.rest.drop comment.length)
    match s.rest with
    | [] => lexEnd s
    | '\n' :: rest =>
      if s.brackets.isEmpty then
        match addToken s .newline ['\n'] rest with
        | some s => lexLoop fuel true s
        | none => s.fail s.mark.line true
      else lexLoop fuel true (s.skip ['\n'] rest)
    | '\\' :: '\n' :: rest =>
      if rest.isEmpty then s.failAtEnd
      else lexLoop fuel false (s.skip ['\\', '\n'] rest)
    | '\\' :: _ => s.fail s.mark.line false
    | _ =>
      match lexeme s.rest with
      | none => s.fail s.mark.line true
      | some (kind, cs, rest) =>
        match addToken s kind cs rest with
        | some s => lexLoop fuel false s
        | none => s.fail s.mark.line true

/-- The tokens of a readable text that begins at a mark. -/
def lexFrom (start : Mark) (cs : List Char) : TokenStream :=
  lexLoop (2 * cs.length + 2) true { rest := cs, mark := start }

/-- The tokens of a text. -/
def lex (cs : List Char) : TokenStream :=
  lexFrom ⟨1, 0⟩ (readable cs)

end BlockText.Source

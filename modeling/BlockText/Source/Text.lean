import BlockText.Source.Outline
import BlockText.Source.Mark
import BlockText.Syntax.Info

/-!
# A text and its places

The lines of a text, where only a line feed ends a line, with the number of characters before
each of them.  Marks of the grammar count bytes; positions count characters.
-/

namespace BlockText.Source

open Syntax

/-- A text with its lines and its outline. -/
structure SourceText where
  source : String
  lines : List (List Char)
  outline : Outline

namespace SourceText

/-- The number of characters. -/
def size (t : SourceText) : Nat := t.source.length

/-- A line, or nothing beyond the text. -/
def line (t : SourceText) (number : Nat) : List Char :=
  if number = 0 then [] else (t.lines[number - 1]?).getD []

/-- The number of characters before a line. -/
def lineStart (t : SourceText) (number : Nat) : Nat :=
  (t.lines.take (number - 1)).flatten.length

/-- The position at a column of a line; beyond the lines it lies at the end of the text. -/
def position (t : SourceText) (line column : Nat) : Position :=
  if 1 ≤ line ∧ line ≤ t.lines.length then ⟨line, column, t.lineStart line + column⟩
  else ⟨line, column, t.size⟩

/-- How many characters fit in a number of bytes. -/
def charsIn (bytes : Nat) : List Char → Nat
  | [] => 0
  | c :: rest => if c.utf8Size ≤ bytes then charsIn (bytes - c.utf8Size) rest + 1 else 0

/-- The column in characters for a mark. -/
def columnAt (t : SourceText) (m : Mark) : Nat :=
  charsIn m.column (t.line m.line)

/-- The position of a mark. -/
def positionAt (t : SourceText) (m : Mark) : Position :=
  t.position m.line (t.columnAt m)

/-- The span of a range. -/
def spanOf (t : SourceText) (r : Range) : Span :=
  ⟨t.positionAt r.start, t.positionAt r.stop⟩

/-- The span of the whole text. -/
def wholeSpan (t : SourceText) : Span :=
  match t.lines.getLast? with
  | none => ⟨⟨1, 0, 0⟩, ⟨1, 0, 0⟩⟩
  | some last => ⟨⟨1, 0, 0⟩, ⟨t.lines.length, last.length, t.size⟩⟩

/-- The tokens that start inside a span. -/
def tokensIn (t : SourceText) (s : Span) : TokenRange :=
  let start := t.outline.countBefore s.start.line s.start.column
  let stop := t.outline.countBefore s.stop.line s.stop.column
  ⟨start, max start stop⟩

/-- The position of the first character of a line that is not blank. -/
def firstOnLine (t : SourceText) (number : Nat) : Position :=
  let cs := t.line number
  t.position number (cs.length - (Text.trimStartChars cs).length)

end SourceText

/-- Lines with their ends, where a carriage return ends a line too. -/
def physicalLines (cs : List Char) : List (List Char) :=
  (go cs []).filter (!·.isEmpty)
where
  /-- Collects the current line in reverse. -/
  go : List Char → List Char → List (List Char)
    | [], line => [line.reverse]
    | '\r' :: '\n' :: rest, line => ('\n' :: '\r' :: line).reverse :: go rest []
    | c :: rest, line =>
      if c == '\r' || c == '\n' then (c :: line).reverse :: go rest [] else go rest (c :: line)

/-- The text of a range. -/
def segment (lines : List (List Char)) (r : Range) : List Char :=
  let lineAt (n : Nat) := (lines[n - 1]?).getD []
  let cut (cs : List Char) (bytes : Nat) := cs.take (SourceText.charsIn bytes cs)
  let rest (cs : List Char) (bytes : Nat) := cs.drop (SourceText.charsIn bytes cs)
  if r.start.line = r.stop.line then
    let cs := lineAt r.start.line
    rest (cut cs r.stop.column) r.start.column
  else
    let middle := (lines.drop r.start.line).take (r.stop.line - 1 - r.start.line)
    rest (lineAt r.start.line) r.start.column ++ middle.flatten ++ cut (lineAt r.stop.line) r.stop.column

end BlockText.Source

import BlockText.Source.Scan

/-!
# The outline of a text

Where the comments and the tokens of code stand.  The outline is read line by line, where only a
line feed ends a line, and never looks at the grammar: a character that belongs to no token counts
as a token of its own.  Columns count characters.
-/

namespace BlockText.Source

/-- A comment: its line, its column and its text. -/
structure Comment where
  line : Nat
  column : Nat
  text : String

/-- Comments and tokens of code. -/
structure Outline where
  comments : List Comment
  /-- Lines and columns where tokens start, in order. -/
  starts : List (Nat × Nat)
  /-- The line where each token ends. -/
  stopLines : List Nat

/-- Why a text has no outline. -/
inductive OutlineError
  | openString (line column : Nat)
  | openStatement (line : Nat)
  | badDedent (line : Nat)

/-- The wording of an error. -/
def OutlineError.message : OutlineError → String
  | openString line column => s!"('EOF in multi-line string', ({line}, {column}))"
  | openStatement line => s!"('EOF in multi-line statement', ({line}, 0))"
  | badDedent line =>
    s!"unindent does not match any outer indentation level (<tokenize>, line {line})"

/-- A string that goes on in the next line. -/
structure OpenString where
  line : Nat
  column : Nat
  quote : Char
  isTriple : Bool

/-- What is known after some lines; comments and tokens are collected in reverse. -/
structure OutlineState where
  depth : Int := 0
  isContinued : Bool := false
  opened : Option OpenString := none
  indents : List Nat := []
  comments : List Comment := []
  starts : List (Nat × Nat) := []
  stopLines : List Nat := []

namespace OutlineState

/-- Records a token of code. -/
def token (s : OutlineState) (start : Nat × Nat) (stopLine : Nat) : OutlineState :=
  { s with starts := start :: s.starts, stopLines := stopLine :: s.stopLines }

/-- Records a comment. -/
def comment (s : OutlineState) (line column : Nat) (text : List Char) : OutlineState :=
  { s with comments := ⟨line, column, String.ofList text⟩ :: s.comments }

end OutlineState

/-- What the start of a line's rest is. -/
inductive OutlineItem
  /-- The end of the line, with what belongs to it. -/
  | lineEnd
  /-- A backslash that continues the line. -/
  | continuation
  | comment (text rest : List Char)
  /-- A token and how it changes the nesting of brackets. -/
  | token (size : Nat) (rest : List Char) (nesting : Int)
  /-- A string that is not closed on this line. -/
  | openString (quote : Char) (isTriple : Bool)
  /-- No token starts here. -/
  | none

/-- A string from its first quotation mark on; `before` counts its prefix letters. -/
def outlineString (before : Nat) : List Char → OutlineItem
  | [] => .none
  | q :: rest =>
    if [q, q].isPrefixOf rest then
      match closeTriple q (rest.drop 2) with
      | some (s, rest) => .token (before + 3 + s.length) rest 0
      | none => .openString q true
    else
      match closeSingle q rest with
      | some (s, rest) => .token (before + 1 + s.length) rest 0
      | none => if endsContinued rest then .openString q false else .none
where
  /-- The line ends in a backslash before its break. -/
  endsContinued (cs : List Char) : Bool :=
    match cs.reverse with
    | '\n' :: '\\' :: _ => true
    | '\n' :: '\r' :: '\\' :: _ => true
    | _ => false

/-- Operators of the outline, the longer ones first. -/
def outlineOperators : List (List Char) :=
  longOperators.filter (· != ['<', '>']) ++
    ("%&()*+,-./:;<=>@[]^\x7b|\x7d~".toList.map fun c => [c])

/-- The item at the front of a line's rest without leading blanks. -/
def outlineItem (cs : List Char) : OutlineItem :=
  match cs with
  | [] => .lineEnd
  | c :: rest =>
    if c == '\n' || (c == '\r' && rest.head? == some '\n') then .lineEnd
    else if c == '\\' && (rest.head? == some '\n' || ['\r', '\n'].isPrefixOf rest) then
      .continuation
    else if c == '#' then
      let text := cs.takeWhile fun c => c != '\r' && c != '\n'
      .comment text (cs.drop text.length)
    else if c.isDigit || (c == '.' && rest.head?.any Char.isDigit) then
      match scanNumber cs with
      | some (s, rest) => .token s.length rest 0
      | none => .token 1 rest 0
    else
      match outlineOperators.find? (·.isPrefixOf cs) with
      | some operator =>
        let nesting := if (closerOf? c).isSome then 1 else if isCloser c then -1 else 0
        .token operator.length (cs.drop operator.length) nesting
      | none =>
        let name := cs.takeWhile Text.isWordPart
        let word : OutlineItem :=
          if name.isEmpty then .none else .token name.length (cs.drop name.length) 0
        match stringStart? cs with
        | some (letters, rest) =>
          match outlineString letters.length rest with
          | .none => word
          | item => item
        | none => word

/-- Reads code on a line from a column on; `fuel` bounds the number of items. -/
def outlineCode (line : Nat) : Nat → Nat → List Char → OutlineState → OutlineState
  | 0, _, _, s => s
  | fuel + 1, column, cs, s =>
    let blanks := cs.takeWhile fun c => c == ' ' || c == '\t' || c == '\x0c'
    let here := column + blanks.length
    match outlineItem (cs.drop blanks.length) with
    | .lineEnd => s
    | .continuation => { s with isContinued := true }
    | .comment text rest =>
      outlineCode line fuel (here + text.length) rest (s.comment line here text)
    | .token size rest nesting =>
      let s := { s with depth := s.depth + nesting }
      outlineCode line fuel (here + size) rest (s.token (line, here) line)
    | .openString quote isTriple => { s with opened := some ⟨line, here, quote, isTriple⟩ }
    | .none =>
      match cs with
      | [] => s
      | _ :: rest => outlineCode line fuel (column + 1) rest (s.token (line, column) line)

/-- The indentation of a line, with tabs to multiples of eight. -/
def outlineColumn (cs : List Char) : Nat :=
  cs.foldl (fun column c =>
    if c == '\t' then (column / 8 + 1) * 8 else if c == '\x0c' then 0 else column + 1) 0

/-- Closes indentations down to a column; `none` if it is not among them. -/
def closeOutlineIndents (column : Nat) : List Nat → Option (List Nat)
  | [] => if column == 0 then some [] else none
  | i :: outer =>
    if column < i then if outer.contains column || column == 0 then closeOutlineIndents column outer
      else none
    else some (i :: outer)

/-- The characters without line breaks at the end. -/
def withoutBreaks (cs : List Char) : List Char :=
  (cs.reverse.dropWhile fun c => c == '\r' || c == '\n').reverse

/-- Reads a line. -/
def outlineLine (line : Nat) (cs : List Char) (s : OutlineState) :
    Except OutlineError OutlineState :=
  match s.opened with
  | some o =>
    let closed := if o.isTriple then closeTriple o.quote cs else closeSingle o.quote cs
    match closed with
    | some (taken, rest) =>
      let s := { s with opened := none }.token (o.line, o.column) line
      .ok (outlineCode line (cs.length + 1) taken.length rest s)
    | none => .ok s
  | none =>
    if s.depth == 0 && !s.isContinued then
      let blanks := cs.takeWhile fun c => c == ' ' || c == '\t' || c == '\x0c'
      let rest := cs.drop blanks.length
      match rest with
      | [] => .ok s
      | c :: _ =>
        if c == '#' then .ok (s.comment line blanks.length (withoutBreaks rest))
        else if c == '\r' || c == '\n' then .ok s
        else
          let column := outlineColumn blanks
          if column > s.indents.head?.getD 0 then
            .ok (outlineCode line (cs.length + 1) blanks.length rest
              { s with indents := column :: s.indents })
          else
            match closeOutlineIndents column s.indents with
            | some indents =>
              .ok (outlineCode line (cs.length + 1) blanks.length rest { s with indents })
            | none => .error (.badDedent line)
    else .ok (outlineCode line (cs.length + 1) 0 cs { s with isContinued := false })

/-- Reads lines from a number on. -/
def outlineLines (line : Nat) : List (List Char) → OutlineState → Except OutlineError OutlineState
  | [], s =>
    match s.opened with
    | some o => .error (.openString o.line o.column)
    | none => if s.depth == 0 && !s.isContinued then .ok s else .error (.openStatement line)
  | cs :: rest, s => do outlineLines (line + 1) rest (← outlineLine line cs s)

/-- The outline of the lines of a text. -/
def Outline.ofLines (lines : List (List Char)) : Except OutlineError Outline := do
  let s ← outlineLines 1 lines {}
  return ⟨s.comments, s.starts.reverse, s.stopLines.reverse⟩

namespace Outline

/-- The comment on a line; of several, the last. -/
def commentOn? (o : Outline) (line : Nat) : Option Comment :=
  o.comments.find? (·.line == line)

/-- A token starts before a place. -/
def isBefore (start : Nat × Nat) (line column : Nat) : Bool :=
  start.1 < line || (start.1 == line && start.2 < column)

/-- How many tokens start before a place. -/
def countBefore (o : Outline) (line column : Nat) : Nat :=
  (o.starts.takeWhile (isBefore · line column)).length

/-- The last line with code before a place, or zero. -/
def lastCodeLine (o : Outline) (line column : Nat) : Nat :=
  match o.countBefore line column with
  | 0 => 0
  | n + 1 => (o.stopLines[n]?).getD 0

/-- The last line with code, or zero. -/
def lastLine (o : Outline) : Nat := o.stopLines.getLast?.getD 0

end Outline

end BlockText.Source

import BlockText.Source.Escape
import BlockText.Source.Mark

/-!
# String literals and replacement fields

A string literal has prefix letters, delimiters and a body.  The body of a formatted string is
text with replacement fields between braces; a field holds an expression, whose extent is found
without reading it, and may show the expression's text, convert the value and give a format,
which may hold fields itself.
-/

namespace BlockText.Source

/-- A string literal taken apart. -/
structure StringLiteral where
  isRaw : Bool
  isBytes : Bool
  isFormatted : Bool
  /-- Prefix letters and opening delimiter. -/
  opening : List Char
  body : List Char

/-- Takes a string literal apart. -/
def StringLiteral.ofChars (cs : List Char) : StringLiteral :=
  let letters := cs.takeWhile (!isQuote ·)
  let rest := cs.drop letters.length
  let size :=
    match rest with
    | q :: more => if [q, q].isPrefixOf more && rest.length ≥ 6 then 3 else 1
    | [] => 0
  let lowered := letters.map Char.toLower
  { isRaw := lowered.contains 'r'
    isBytes := lowered.contains 'b'
    isFormatted := lowered.contains 'f'
    opening := letters ++ rest.take size
    body := (rest.drop size).take (rest.length - 2 * size) }

/-- The text of a body or of a stretch of it; `none` if an escape is malformed. -/
def literalText (names : Text.CharacterNames) (isRaw : Bool) (cs : List Char) :
    Option (List CodePoint) :=
  if isRaw then some (cs.map .char) else unescape names cs

/-! ## Formatted strings -/

/-- A part of a formatted string whose expressions are not read yet. -/
inductive RawPiece
  | text (points : List CodePoint)
  /-- A replacement field: its expression, the place of its opening brace, the text that it
  shows, the conversion and the format. -/
  | field (source : List Char) (brace : Mark) (shown : List Char) (conversion : String)
      (spec : Option (List RawPiece))

/-- How a stretch of text in a formatted string ends. -/
inductive TextEnd
  /-- At a doubled brace, of which one belongs to the text. -/
  | doubled
  /-- At a single brace or at the end. -/
  | brace
  /-- At a brace that must not stand there. -/
  | bad

/-- A stretch of text: what it takes, how it ends and what comes then. -/
structure TextRun where
  taken : List Char
  ending : TextEnd
  rest : List Char

/-- One more character in front. -/
def TextRun.add (c : Char) (r : TextRun) : TextRun := { r with taken := c :: r.taken }

mutual

/-- The stretch of text in front of a brace.  Only outside of formats are doubled braces text. -/
def textRun (isRaw isTop : Bool) : List Char → TextRun
  | [] => ⟨[], .brace, []⟩
  | c :: rest =>
    if c == '\x7b' || c == '\x7d' then
      if isTop && rest.head? == some c then ⟨[c], .doubled, rest.drop 1⟩
      else if isTop && c == '\x7d' then ⟨[], .bad, c :: rest⟩
      else ⟨[], .brace, c :: rest⟩
    else if c == '\\' && !isRaw then
      if rest.head?.any fun d => d == '\x7b' || d == '\x7d' then (textRun isRaw isTop rest).add c
      else if ['N', '\x7b'].isPrefixOf rest then (nameRun isRaw isTop rest).add c
      else
        match rest with
        | [] => ⟨[c], .brace, []⟩
        | d :: more => ((textRun isRaw isTop more).add d).add c
    else (textRun isRaw isTop rest).add c

/-- The rest of a character name up to its closing brace, and the text after it. -/
def nameRun (isRaw isTop : Bool) : List Char → TextRun
  | [] => ⟨[], .brace, []⟩
  | c :: rest =>
    if c == '\x7d' then (textRun isRaw isTop rest).add c else (nameRun isRaw isTop rest).add c

end

/-- A character at which an expression in a field can end. -/
def endsField (c : Char) : Bool :=
  c == '!' || c == ':' || c == '\x7d' || c == '='

/-- The extent of the expression in a field; `quote` is the open string and `stack` the open
brackets.  `none` for backslashes, comments and unbalanced quotes and brackets. -/
def fieldExtent (quote : Option (Char × Bool)) (stack : List Char) :
    List Char → Option (List Char × List Char)
  | [] => if quote.isSome || !stack.isEmpty then none else some ([], [])
  | c :: rest =>
    if c == '\\' then none
    else
      match quote with
      | some (q, isTriple) =>
        if c == q then
          if isTriple then
            if [q, q].isPrefixOf rest then
              match rest with
              | a :: b :: more =>
                (fieldExtent none stack more).map fun (s, r) => (c :: a :: b :: s, r)
              | _ => none
            else (fieldExtent quote stack rest).map fun (s, r) => (c :: s, r)
          else (fieldExtent none stack rest).map fun (s, r) => (c :: s, r)
        else (fieldExtent quote stack rest).map fun (s, r) => (c :: s, r)
      | none =>
        if isQuote c then
          if [c, c].isPrefixOf rest then
            match rest with
            | a :: b :: more =>
              (fieldExtent (some (c, true)) stack more).map fun (s, r) => (c :: a :: b :: s, r)
            | _ => none
          else (fieldExtent (some (c, false)) stack rest).map fun (s, r) => (c :: s, r)
        else if (closerOf? c).isSome then
          if stack.length ≥ 200 then none
          else (fieldExtent none (c :: stack) rest).map fun (s, r) => (c :: s, r)
        else if c == '#' then none
        else if stack.isEmpty && (endsField c || c == '<' || c == '>') then
          if endsField c && (rest.head? != some '=' || c == ':' || c == '\x7d') then
            some ([], c :: rest)
          else if rest.head? == some '=' then
            match rest with
            | d :: more => (fieldExtent none stack more).map fun (s, r) => (c :: d :: s, r)
            | [] => none
          else (fieldExtent none stack rest).map fun (s, r) => (c :: s, r)
        else if isCloser c then
          match stack with
          | o :: outer =>
            if closerOf? o == some c then
              (fieldExtent none outer rest).map fun (s, r) => (c :: s, r)
            else none
          | [] => none
        else (fieldExtent none stack rest).map fun (s, r) => (c :: s, r)

/-- White space inside a field. -/
def isFieldBlank (c : Char) : Bool :=
  c == ' ' || c == '\t' || c == '\n' || c == '\r' || c.toNat == 11 || c.toNat == 12

/-- Pieces, whether they end in an error, and what comes then. -/
structure PieceScan where
  pieces : List RawPiece
  isBad : Bool
  rest : List Char
  mark : Mark

/-- A piece in front. -/
def PieceScan.add (p : RawPiece) (s : PieceScan) : PieceScan := { s with pieces := p :: s.pieces }

/-- The end of a scan with an error. -/
def badEnd (mark : Mark) : PieceScan := ⟨[], true, [], mark⟩

mutual

/-- Splits a formatted string into pieces; `fuel` bounds their number and `level` tells how many
formats enclose the text. -/
def scanPieces (names : Text.CharacterNames) (isRaw : Bool) (level : Nat) :
    Nat → Mark → List Char → PieceScan
  | 0, mark, _ => badEnd mark
  | fuel + 1, mark, cs =>
    let run := textRun isRaw (level == 0) cs
    match literalText names isRaw run.taken with
    | none => badEnd mark
    | some text =>
      let after := mark.advance run.taken
      let scan :=
        match run.ending with
        | .bad => badEnd after
        | .doubled => scanPieces names isRaw level fuel (after.advance ['\x7b']) run.rest
        | .brace =>
          match run.rest with
          | '\x7b' :: rest => scanField names isRaw level fuel after rest
          | rest => ⟨[], false, rest, after⟩
      if text.isEmpty then scan else scan.add (.text text)

/-- Reads a replacement field after its opening brace, and the pieces after it. -/
def scanField (names : Text.CharacterNames) (isRaw : Bool) (level : Nat) :
    Nat → Mark → List Char → PieceScan
  | 0, mark, _ => badEnd mark
  | fuel + 1, brace, cs =>
    if level ≥ 2 then badEnd brace
    else
      match fieldExtent none [] cs with
      | none | some (_, []) => badEnd brace
      | some (source, rest) =>
        if source.all fun c => c == ' ' || c == '\t' || c == '\n' || c == '\x0c' then badEnd brace
        else
          let mark := brace.advance ('\x7b' :: source)
          let (shown, rest, mark) :=
            match rest with
            | '=' :: more =>
              let blanks := more.takeWhile isFieldBlank
              (source ++ '=' :: blanks, more.drop blanks.length, mark.advance ('=' :: blanks))
            | _ => ([], rest, mark)
          let (conversion, rest, mark) : Option String × List Char × Mark :=
            match rest with
            | '!' :: c :: more =>
              if c == 's' || c == 'r' || c == 'a' then
                (some (String.ofList [c]), more, mark.advance ['!', c])
              else (none, [], mark)
            | '!' :: [] => (none, [], mark)
            | _ => (some "", rest, mark)
          match conversion, rest with
          | some conversion, ':' :: more =>
            let spec := scanPieces names isRaw (level + 1) fuel (mark.advance [':']) more
            let piece := RawPiece.field source brace shown conversion (some spec.pieces)
            match spec.isBad, spec.rest with
            | false, '\x7d' :: rest =>
              (scanPieces names isRaw level fuel (spec.mark.advance ['\x7d']) rest).add piece
            | _, _ => (badEnd mark).add piece
          | some conversion, '\x7d' :: more =>
            let conversion := if !shown.isEmpty && conversion.isEmpty then "r" else conversion
            (scanPieces names isRaw level fuel (mark.advance ['\x7d']) more).add
              (.field source brace shown conversion none)
          | _, _ => (badEnd mark).add (.field source brace shown "" none)

end

/-- The pieces of a formatted string that starts at a mark. -/
def StringLiteral.pieces (l : StringLiteral) (names : Text.CharacterNames) (start : Mark) :
    PieceScan :=
  scanPieces names l.isRaw 0 (2 * l.body.length + 2) (start.advance l.opening) l.body

end BlockText.Source

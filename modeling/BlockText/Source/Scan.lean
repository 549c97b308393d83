import BlockText.Text.Basic

/-!
# Lexemes

Each function splits a lexeme off the front of a text: it gives the characters that belong to it
and the rest.
-/

namespace BlockText.Source

/-- A letter of the plain alphabet. -/
def isPlainLetter (c : Char) : Bool :=
  ('a' ≤ c && c ≤ 'z') || ('A' ≤ c && c ≤ 'Z')

/-- A character that can begin a name; outside ASCII that is decided on the whole name. -/
def startsName (c : Char) : Bool :=
  isPlainLetter c || c == '_' || c.toNat ≥ 128

/-- A character that can continue a name. -/
def continuesName (c : Char) : Bool :=
  startsName c || c.isDigit

/-- The characters form a name. -/
def isName : List Char → Bool
  | [] => false
  | c :: rest => Text.isIdentifierStart c && rest.all Text.isIdentifierPart

/-! ## Numbers -/

/-- Digits with single underscores between them; `none` for an underscore that no digit
follows. -/
def digitRun (isDigit : Char → Bool) : List Char → Option (List Char × List Char)
  | [] => some ([], [])
  | c :: rest =>
    if isDigit c then (digitRun isDigit rest).map fun (ds, rest) => (c :: ds, rest)
    else if c == '_' then
      match rest with
      | d :: _ =>
        if isDigit d then (digitRun isDigit rest).map fun (ds, rest) => (c :: ds, rest) else none
      | [] => none
    else some ([], c :: rest)

/-- Words that may stand right after a number. -/
def wordsAfterNumber : List (List Char) :=
  ["and", "else", "for", "if", "in", "is", "or", "not"].map String.toList

/-- A number may end before this text. -/
def numberEndsAt (rest : List Char) : Bool :=
  wordsAfterNumber.any (·.isPrefixOf rest) || !(rest.head?.any continuesName)

/-- The number, if it may end where it ends. -/
def endNumber (taken rest : List Char) : Option (List Char × List Char) :=
  if numberEndsAt rest then some (taken, rest) else none

/-- The mark of an imaginary number, or the end. -/
def imaginaryPart (taken : List Char) : List Char → Option (List Char × List Char)
  | c :: rest =>
    if c == 'j' || c == 'J' then endNumber (taken ++ [c]) rest else endNumber taken (c :: rest)
  | [] => endNumber taken []

/-- An exponent, or what may follow instead. -/
def exponentPart (taken : List Char) : List Char → Option (List Char × List Char)
  | c :: rest =>
    if c == 'e' || c == 'E' then
      match rest with
      | s :: more =>
        if s == '+' || s == '-' then
          if more.head?.any Char.isDigit then do
            let (ds, rest) ← digitRun Char.isDigit more
            imaginaryPart (taken ++ [c, s] ++ ds) rest
          else none
        else if s.isDigit then do
          let (ds, rest) ← digitRun Char.isDigit rest
          imaginaryPart (taken ++ [c] ++ ds) rest
        else endNumber taken (c :: rest)
      | [] => endNumber taken (c :: rest)
    else imaginaryPart taken (c :: rest)
  | [] => some (taken, [])

/-- Digits after a decimal point, and what may follow them. -/
def fractionPart (taken rest : List Char) : Option (List Char × List Char) :=
  if rest.head?.any Char.isDigit then do
    let (ds, rest) ← digitRun Char.isDigit rest
    exponentPart (taken ++ ds) rest
  else exponentPart taken rest

/-- Digits of a base after its marker. -/
def basedNumber (marker : List Char) (isDigit : Char → Bool) (rest : List Char) :
    Option (List Char × List Char) := do
  let first := match rest with
    | '_' :: more => more
    | _ => rest
  if first.head?.any isDigit then
    let (ds, after) ← digitRun isDigit rest
    if after.head?.any Char.isDigit then none else endNumber (marker ++ ds) after
  else none

/-- A hexadecimal digit. -/
def isHexDigit (c : Char) : Bool :=
  c.isDigit || ('a' ≤ c && c ≤ 'f') || ('A' ≤ c && c ≤ 'F')

/-- A number that starts with a digit or with a point and a digit; `none` if it is malformed.
Leading zeros are allowed only in zero and in fractions. -/
def scanNumber (cs : List Char) : Option (List Char × List Char) :=
  match cs with
  | '0' :: x :: rest =>
    if x == 'x' || x == 'X' then basedNumber ['0', x] isHexDigit rest
    else if x == 'o' || x == 'O' then basedNumber ['0', x] (fun c => '0' ≤ c && c ≤ '7') rest
    else if x == 'b' || x == 'B' then basedNumber ['0', x] (fun c => c == '0' || c == '1') rest
    else plain cs
  | '.' :: rest => fractionPart ['.'] rest
  | _ => plain cs
where
  /-- A decimal number. -/
  plain (cs : List Char) : Option (List Char × List Char) := do
    let (ds, rest) ← digitRun Char.isDigit cs
    let isZero := ds.all fun c => c == '0' || c == '_'
    match rest with
    | '.' :: more => fractionPart (ds ++ ['.']) more
    | _ =>
      let (taken, after) ← exponentPart ds rest
      if taken.length == ds.length && ds.head? == some '0' && !isZero then none
      else some (taken, after)

/-! ## Strings -/

/-- The letters that may stand before the quotes of a string, in lower case. -/
def stringPrefixes : List (List Char) :=
  ["", "r", "u", "b", "f", "br", "rb", "fr", "rf"].map String.toList

/-- A quotation mark. -/
def isQuote (c : Char) : Bool := c == '"' || c == '\''

/-- The prefix letters of a string and the rest from its first quotation mark on. -/
def stringStart? (cs : List Char) : Option (List Char × List Char) :=
  let letters := (cs.take 3).takeWhile isPlainLetter
  let rest := cs.drop letters.length
  if rest.head?.any isQuote && stringPrefixes.contains (letters.map Char.toLower) then
    some (letters, rest)
  else none

/-- The rest of a string between single marks, with the closing one. -/
def closeSingle (quote : Char) : List Char → Option (List Char × List Char)
  | [] => none
  | '\\' :: c :: rest => (closeSingle quote rest).map fun (s, rest) => ('\\' :: c :: s, rest)
  | c :: rest =>
    if c == quote then some ([c], rest)
    else if c == '\n' then none
    else (closeSingle quote rest).map fun (s, rest) => (c :: s, rest)

/-- The rest of a string between triple marks, with the closing ones. -/
def closeTriple (quote : Char) : List Char → Option (List Char × List Char)
  | [] => none
  | '\\' :: c :: rest => (closeTriple quote rest).map fun (s, rest) => ('\\' :: c :: s, rest)
  | c :: rest =>
    if c == quote && [quote, quote].isPrefixOf rest then some ([c, quote, quote], rest.drop 2)
    else (closeTriple quote rest).map fun (s, rest) => (c :: s, rest)

/-- A string from its first quotation mark on; `none` if it is not closed. -/
def scanQuoted : List Char → Option (List Char × List Char)
  | [] => none
  | q :: rest =>
    if [q, q].isPrefixOf rest then
      (closeTriple q (rest.drop 2)).map fun (s, rest) => (q :: q :: q :: s, rest)
    else (closeSingle q rest).map fun (s, rest) => (q :: s, rest)

/-! ## Operators -/

/-- Operators of more than one character, the longer ones first. -/
def longOperators : List (List Char) :=
  ["**=", "//=", ">>=", "<<=", "...", "!=", "%=", "&=", "**", "*=", "+=", "-=", "->", "//", "/=",
   ":=", "<<", "<=", "<>", "==", ">=", ">>", "@=", "^=", "|="].map String.toList

/-- An operator; any other character counts as an operator of its own. -/
def scanOperator (cs : List Char) : List Char × List Char :=
  match longOperators.find? (·.isPrefixOf cs) with
  | some op => (op, cs.drop op.length)
  | none => (cs.take 1, cs.drop 1)

/-- The bracket that closes an opening one. -/
def closerOf? (c : Char) : Option Char :=
  match c with
  | '(' => some ')'
  | '[' => some ']'
  | '\x7b' => some '\x7d'
  | _ => none

/-- A closing bracket. -/
def isCloser (c : Char) : Bool := c == ')' || c == ']' || c == '\x7d'

end BlockText.Source

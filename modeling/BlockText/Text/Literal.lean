import BlockText.Text.Basic

/-!
# String literals and quoted text

Four delimiters, and how a text is spelled between two of them: the backslash and the mark of the
delimiter are escaped, and between single marks also line feed, carriage return and tab.

A message shows a text between quotes on one line: single quotes, or double quotes if the text
holds a single quote and no double one.  The quote itself, the backslash and everything that
would not show are escaped.
-/

namespace BlockText.Text

/-- A delimiter of string literals: one of two marks, written once or three times. -/
inductive Delimiter
  | tripleDouble
  | tripleSingle
  | double
  | single
  deriving DecidableEq

namespace Delimiter

/-- All delimiters, the longer ones first. -/
def all : List Delimiter := [tripleDouble, tripleSingle, double, single]

/-- The mark that a delimiter is made of. -/
def mark : Delimiter → Char
  | tripleDouble | double => '"'
  | tripleSingle | single => '\''

/-- The delimiter is three marks long. -/
def isTriple : Delimiter → Bool
  | tripleDouble | tripleSingle => true
  | double | single => false

/-- The characters of a delimiter. -/
def chars (q : Delimiter) : List Char :=
  List.replicate (if q.isTriple then 3 else 1) q.mark

/-- The delimiter as text. -/
def toText (q : Delimiter) : String := String.ofList q.chars

/-- The delimiter with the given text. -/
def ofText? (s : String) : Option Delimiter :=
  all.find? fun q => q.toText == s

/-- The delimiter at the front of a text; a double mark if there is none. -/
def atStart (cs : List Char) : Delimiter :=
  (all.find? fun q => q.chars.isPrefixOf cs).getD double

end Delimiter

/-- The delimiter of a literal: what follows its prefix letters. -/
def delimiterOf (raw : String) : Delimiter :=
  Delimiter.atStart (raw.toList.dropWhile isLetter)

/-- One character of a text between delimiters. -/
def escapedChar (q : Delimiter) (c : Char) : List Char :=
  if c == '\\' || c == q.mark then ['\\', c]
  else if q.isTriple then [c]
  else if c == '\n' then ['\\', 'n']
  else if c == '\r' then ['\\', 'r']
  else if c == '\t' then ['\\', 't']
  else [c]

/-- The characters of a text between delimiters. -/
def escaped (q : Delimiter) (value : List Char) : List Char :=
  value.flatMap (escapedChar q)

/-- The text as a string literal. -/
def spell (value : String) (q : Delimiter := .double) : String :=
  String.ofList (q.chars ++ escaped q value.toList ++ q.chars)

/-! ## Quoted text in messages -/

/-- The quote that a message puts around the text. -/
def messageQuote (cs : List Char) : Char :=
  if cs.contains '\'' && !cs.contains '"' then '"' else '\''

/-- One character of quoted text. -/
def quotedChar (quote c : Char) : List Char :=
  if c == quote || c == '\\' then ['\\', c]
  else if c == '\n' then ['\\', 'n']
  else if c == '\r' then ['\\', 'r']
  else if c == '\t' then ['\\', 't']
  else if isPrinting c then [c]
  else if c.toNat < 0x100 then '\\' :: 'x' :: (hexDigits 2 c.toNat).toList
  else if c.toNat < 0x10000 then '\\' :: 'u' :: (hexDigits 4 c.toNat).toList
  else '\\' :: 'U' :: (hexDigits 8 c.toNat).toList

/-- The text as a message shows it. -/
def quoted (s : String) : String :=
  let cs := s.toList
  let quote := messageQuote cs
  String.ofList (quote :: cs.flatMap (quotedChar quote) ++ [quote])

end BlockText.Text

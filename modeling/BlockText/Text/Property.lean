import BlockText.Text.Ranges

/-!
# Character properties

Predicates on characters of any script, read off the code point tables.  ASCII is decided without
a look at the tables.
-/

namespace BlockText.Text

/-- White space, also outside ASCII. -/
def isBlank (c : Char) : Bool :=
  blankRanges.contains c.toNat

/-- A letter of any script. -/
def isLetter (c : Char) : Bool :=
  if c.toNat < 128 then c.isAlpha else letterRanges.contains c.toNat

/-- The value of a decimal digit of any script. -/
def decimalValue? (c : Char) : Option Nat :=
  if c.toNat < 128 then
    if c.isDigit then some (c.toNat - '0'.toNat) else none
  else
    (decimalZeros.find? fun z => z ≤ c.toNat && c.toNat ≤ z + 9).map (c.toNat - ·)

/-- A decimal digit of any script. -/
def isDecimal (c : Char) : Bool :=
  (decimalValue? c).isSome

/-- A digit, also one such as a superscript that forms no decimal number. -/
def isDigitLike (c : Char) : Bool :=
  isDecimal c || nonDecimalDigitRanges.contains c.toNat

/-- A letter, a character with a numeric value, or the underscore. -/
def isWordPart (c : Char) : Bool :=
  c == '_' || isLetter c || isDecimal c || (128 ≤ c.toNat && numeralRanges.contains c.toNat)

/-- A character that shows something when it is printed. -/
def isPrinting (c : Char) : Bool :=
  if c.toNat < 128 then 32 ≤ c.toNat && c.toNat < 127 else !nonPrintingRanges.contains c.toNat

/-- A character that may start an identifier. -/
def isIdentifierStart (c : Char) : Bool :=
  if c.toNat < 128 then c.isAlpha || c == '_'
  else
    identifierLetterExtras.contains c.toNat ||
      (isLetter c && !identifierLetterExceptions.contains c.toNat)

/-- A character that may stand in an identifier after its first character. -/
def isIdentifierPart (c : Char) : Bool :=
  if c.toNat < 128 then c.isAlphanum || c == '_'
  else isIdentifierStart c || identifierContinuations.contains c.toNat

end BlockText.Text

import BlockText.Text.Literal

/-!
# Code points and texts with surrogates

A text is a list of code points, and a code point is a character or a surrogate.  What is read from
a file or typed into an editor consists of characters, so a `String` holds it; only an escape in a
string literal or in a document puts a surrogate into a text.  A text in which that has happened is
a `SurrogateText`.  Functions on texts that have to work for both are defined on code points.
-/

namespace BlockText

/-- A code point: a character, or one of the surrogates from `0xD800` on. -/
inductive CodePoint
  | char (c : Char)
  | surrogate (index : Fin 0x800)
  deriving DecidableEq

namespace CodePoint

/-- The number of a code point. -/
def code : CodePoint → Nat
  | char c => c.toNat
  | surrogate i => 0xD800 + i

/-- The code point with a number; beyond the last one it is the null character. -/
def ofCode (n : Nat) : CodePoint :=
  if h : 0xD800 ≤ n ∧ n < 0xE000 then surrogate ⟨n - 0xD800, by omega⟩ else char (Char.ofNat n)

/-- The character that a code point is. -/
def char? : CodePoint → Option Char
  | char c => some c
  | surrogate _ => none

/-- The code point is a character with a property. -/
def satisfies (p : Char → Bool) : CodePoint → Bool
  | char c => p c
  | surrogate _ => false

/-- Code points are in the order of their numbers. -/
instance : LT CodePoint := ⟨fun p q => p.code < q.code⟩

instance : DecidableLT CodePoint := fun p q => inferInstanceAs (Decidable (p.code < q.code))

/-- The escape of a surrogate. -/
def escape (index : Fin 0x800) : List Char :=
  '\\' :: 'u' :: (Text.hexDigits 4 (0xD800 + index)).toList

end CodePoint

namespace Text

/-- The code points of a text. -/
def points (s : String) : List CodePoint := s.toList.map .char

/-- The text with the given code points, if they all are characters. -/
def ofPoints? (ps : List CodePoint) : Option String := (ps.mapM CodePoint.char?).map String.ofList

/-- Code points in running text, which holds characters only: two surrogates that are a pair stand
as its character, and any other surrogate as its escape. -/
def shownChars : List CodePoint → List Char
  | [] => []
  | .char c :: rest => c :: shownChars rest
  | .surrogate i :: .surrogate j :: rest =>
    if i < 0x400 && 0x400 ≤ j then
      Char.ofNat (0x10000 + i * 0x400 + (j - 0x400)) :: shownChars rest
    else CodePoint.escape i ++ shownChars (.surrogate j :: rest)
  | .surrogate i :: rest => CodePoint.escape i ++ shownChars rest

/-- Code points as running text. -/
def shownPoints (ps : List CodePoint) : String := String.ofList (shownChars ps)

/-- Code points as a message shows them between quotes. -/
def quotedPoints (ps : List CodePoint) : String :=
  let quote := messageQuote (ps.filterMap CodePoint.char?)
  let body := ps.flatMap fun
    | .char c => quotedChar quote c
    | .surrogate i => CodePoint.escape i
  String.ofList (quote :: body ++ [quote])

/-- Code points without leading and trailing blanks. -/
def trimPoints (ps : List CodePoint) : List CodePoint :=
  trimBy (CodePoint.satisfies isBlank) ps

/-- Texts with `sep` between neighbours. -/
def joinPoints (sep : String) (parts : List (List CodePoint)) : List CodePoint :=
  (points sep).intercalate parts

/-- The delimiter of a literal; a surrogate is neither a letter nor a part of a delimiter. -/
def delimiterOfPoints (raw : List CodePoint) : Delimiter :=
  delimiterOf (String.ofList ((raw.takeWhile (·.satisfies fun _ => true)).filterMap CodePoint.char?))

/-- One code point of a text between delimiters. -/
def escapedPoint (q : Delimiter) : CodePoint → List CodePoint
  | .char c => (escapedChar q c).map .char
  | p => [p]

/-- A text as a string literal. -/
def spellPoints (value : List CodePoint) (q : Delimiter := .double) : List CodePoint :=
  q.chars.map .char ++ value.flatMap (escapedPoint q) ++ q.chars.map .char

end Text

/-- A text that holds a surrogate. -/
structure SurrogateText where
  points : List CodePoint
  noText : Text.ofPoints? points = none
  deriving DecidableEq

end BlockText

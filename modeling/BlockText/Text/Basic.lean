import BlockText.Text.Property

/-!
# Trimming, splitting and joining text, and reading integers

Everything is defined on lists; the functions on `String` are thin wrappers.  An integer may have
blanks around it, a sign, decimal digits of any script, and single underscores between digits.
-/

namespace BlockText.Text

/-- The characters without leading blanks. -/
def trimStartChars (cs : List Char) : List Char :=
  cs.dropWhile isBlank

/-- The characters without trailing blanks. -/
def trimEndChars (cs : List Char) : List Char :=
  (cs.reverse.dropWhile isBlank).reverse

/-- A list without the items at its ends that satisfy a condition. -/
def trimBy {α : Type} (p : α → Bool) (xs : List α) : List α :=
  ((xs.dropWhile p).reverse.dropWhile p).reverse

/-- The characters without leading and trailing blanks. -/
def trimChars (cs : List Char) : List Char :=
  trimBy isBlank cs

/-- The text without leading and trailing blanks. -/
def trim (s : String) : String :=
  String.ofList (trimChars s.toList)

/-- The text starts with these characters. -/
def startsWith (s : String) (start : List Char) : Bool :=
  start.isPrefixOf s.toList

/-- Splits at every occurrence of `sep`; the pieces joined by `sep` give the list back. -/
def splitAt {α : Type} [BEq α] (sep : α) : List α → List (List α)
  | [] => [[]]
  | c :: rest =>
    match splitAt sep rest with
    | [] => [[c]]
    | piece :: pieces => if c == sep then [] :: piece :: pieces else (c :: piece) :: pieces

/-- The texts with `sep` between neighbours. -/
def join (sep : String) (parts : List String) : String :=
  String.intercalate sep parts

/-- `n` copies of one character; none for a negative count. -/
def repeated (c : Char) (n : Int) : String :=
  String.ofList (List.replicate n.toNat c)

/-- Lower-case hexadecimal digits of `n`, with leading zeros up to `width`. -/
def hexDigits (width n : Nat) : String :=
  let digits := Nat.toDigits 16 n
  String.ofList (List.replicate (width - digits.length) '0' ++ digits)

/-- Lines that keep their line feed; only a line feed ends a line. -/
def linesKeepingFeeds (cs : List Char) : List (List Char) :=
  (go cs []).filter (!·.isEmpty)
where
  /-- Collects the current line in reverse. -/
  go : List Char → List Char → List (List Char)
    | [], line => [line.reverse]
    | c :: rest, line =>
      if c == '\n' then (c :: line).reverse :: go rest [] else go rest (c :: line)

/-! ## Integers -/

/-- Reads digits with single underscores between them, most significant first. -/
def readDigits (acc : Nat) : List Char → Option Nat
  | [] => some acc
  | '_' :: c :: rest => (decimalValue? c).bind fun d => readDigits (10 * acc + d) rest
  | c :: rest => (decimalValue? c).bind fun d => readDigits (10 * acc + d) rest

/-- Reads an unsigned number: a digit, then digits with single underscores between them. -/
def readUnsigned : List Char → Option Nat
  | [] => none
  | c :: rest => (decimalValue? c).bind fun d => readDigits d rest

/-- Reads an integer. -/
def readInteger? (s : String) : Option Int :=
  match trimChars s.toList with
  | '-' :: rest => (readUnsigned rest).map fun n => -(n : Int)
  | '+' :: rest => (readUnsigned rest).map fun n => (n : Int)
  | cs => (readUnsigned cs).map fun n => (n : Int)

/-- A nonempty text of digits only, superscripts and the like included. -/
def isDigits (s : String) : Bool :=
  !s.isEmpty && s.toList.all isDigitLike

end BlockText.Text

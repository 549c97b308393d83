import BlockText.Text.Variants

/-!
# Compatible normal form

Two names are one name if they have the same compatible normal form: variants of a character, such
as ligatures and letters in another style, are replaced by it, marks stand in a fixed order, and a
base and its marks are joined where one character is made of them.
-/

namespace BlockText.Text

/-- The variants and what replaces them. -/
def variants : List (Char × List Char) := variantRows.entries

/-- The characters that are made of a base and a mark. -/
def composites : List (Char × List Char) := compositeRows.entries

/-- The class of a mark; zero for a character that is none. -/
def markClass (c : Char) : Nat :=
  ((markClasses.find? (·.2.contains c.toNat)).map (·.1)).getD 0

/-! ## Syllable blocks

The syllables of Hangul are numbered by a leading consonant, a vowel and a trailing consonant. -/

/-- The first syllable. -/
def firstSyllable : Nat := 0xAC00

/-- The first leading consonant. -/
def firstLead : Nat := 0x1100

/-- The first vowel. -/
def firstVowel : Nat := 0x1161

/-- The place before the first trailing consonant. -/
def noTrail : Nat := 0x11A7

/-- The letters of a syllable. -/
def syllableLetters? (c : Char) : Option (List Char) :=
  let n := c.toNat - firstSyllable
  if firstSyllable ≤ c.toNat && n < 19 * 21 * 28 then
    let lead := Char.ofNat (firstLead + n / (21 * 28))
    let vowel := Char.ofNat (firstVowel + n % (21 * 28) / 28)
    if n % 28 == 0 then some [lead, vowel]
    else some [lead, vowel, Char.ofNat (noTrail + n % 28)]
  else none

/-- The syllable that a letter or syllable forms with the next letter. -/
def syllable? (a b : Char) : Option Char :=
  let lead := a.toNat - firstLead
  let vowel := b.toNat - firstVowel
  let block := a.toNat - firstSyllable
  let trail := b.toNat - noTrail
  if firstLead ≤ a.toNat && lead < 19 && firstVowel ≤ b.toNat && vowel < 21 then
    some (Char.ofNat (firstSyllable + (lead * 21 + vowel) * 28))
  else if firstSyllable ≤ a.toNat && block < 19 * 21 * 28 && block % 28 == 0 &&
      noTrail < b.toNat && trail < 28 then
    some (Char.ofNat (a.toNat + trail))
  else none

/-! ## Taking apart -/

/-- The parts of a character, one step down. -/
def parts? (c : Char) : Option (List Char) :=
  match syllableLetters? c with
  | some letters => some letters
  | none => (((variants ++ composites).find? (·.1 == c)).map (·.2))

/-- The parts of a character that have no parts themselves, at most `depth` steps down. -/
def decompose : Nat → Char → List Char
  | 0, c => [c]
  | depth + 1, c =>
    match parts? c with
    | some parts => parts.flatMap (decompose depth)
    | none => [c]

/-- The deepest that characters are made of others. -/
def compositeDepth : Nat := 8

/-! ## Order of marks -/

/-- Puts a character before a text in order, behind the marks of lower classes at its front. -/
def insertMark (c : Char) : List Char → List Char
  | [] => [c]
  | d :: rest =>
    if markClass d != 0 && markClass d < markClass c then d :: insertMark c rest
    else c :: d :: rest

/-- Orders the marks after each base by their classes. -/
def orderMarks : List Char → List Char
  | [] => []
  | c :: rest => insertMark c (orderMarks rest)

/-! ## Putting together -/

/-- The character that is made of two. -/
def joined? (a b : Char) : Option Char :=
  match syllable? a b with
  | some c => some c
  | none => (composites.find? (·.2 == [a, b])).map (·.1)

/-- A mark can reach its base over the marks that were passed. -/
def reaches (passed : List Char) (c : Char) : Bool :=
  match passed.getLast? with
  | some p => markClass p < markClass c
  | none => true

/-- Joins a base with what follows it; `passed` are the marks between them that do not join. -/
def compose (base : Char) (passed : List Char) : List Char → List Char
  | [] => base :: passed
  | c :: rest =>
    match if reaches passed c then joined? base c else none with
    | some whole => compose whole passed rest
    | none =>
      if markClass c == 0 then base :: passed ++ compose c [] rest
      else compose base (passed ++ [c]) rest

/-- The compatible normal form of a text. -/
def normalForm (s : String) : String :=
  if s.toList.all (·.toNat < 128) then s
  else
    match orderMarks (s.toList.flatMap (decompose compositeDepth)) with
    | [] => ""
    | base :: rest => String.ofList (compose base [] rest)

end BlockText.Text

import BlockText.Datum.Basic
import BlockText.Text.Basic

/-!
# Bodies of requests

The fields of a body are typed: a text is a text, and a number may also be written as a text.
Other fields are ignored.
-/

namespace BlockText

namespace Decimal

/-- Decimal digits as a number. -/
def digitsValue (digits : List Char) : Nat :=
  digits.foldl (fun n c => 10 * n + (c.toNat - '0'.toNat)) 0

/-- An exponent with an optional sign; none is zero. -/
def exponentOf? : List Char → Option Int
  | [] => some 0
  | c :: rest =>
    if c == 'e' || c == 'E' then
      let (negative, digits) :=
        match rest with
        | '-' :: digits => (true, digits)
        | '+' :: digits => (false, digits)
        | digits => (false, digits)
      if !digits.isEmpty && digits.all Char.isDigit then
        some (if negative then -(digitsValue digits : Int) else digitsValue digits)
      else none
    else none

/-- An unsigned number with an optional fraction and exponent. -/
def unsignedOf? (cs : List Char) : Option Decimal :=
  let whole := cs.takeWhile Char.isDigit
  let rest := cs.dropWhile Char.isDigit
  let (fraction, tail) :=
    match rest with
    | '.' :: more => (more.takeWhile Char.isDigit, more.dropWhile Char.isDigit)
    | _ => ([], rest)
  if whole.isEmpty && fraction.isEmpty then none
  else (exponentOf? tail).map fun e =>
    ofScientific (digitsValue (whole ++ fraction)) (e - fraction.length)

/-- The number that a text denotes, with blanks around it and a sign. -/
def ofText? (s : String) : Option Decimal :=
  match Text.trimChars s.toList with
  | '-' :: rest => (unsignedOf? rest).map fun d => ⟨-d.mantissa, d.places⟩
  | '+' :: rest => unsignedOf? rest
  | cs => unsignedOf? cs

end Decimal

namespace Body

/-- A text. -/
def text? (body : Datum) (key : String) : Option String := (body.get? key).bind Datum.text?

/-- A text that may be missing or null. -/
def optionalText? (body : Datum) (key : String) : Option (Option String) :=
  match body.get? key with
  | none | some .null => some none
  | some (.text s) => some (some s)
  | some _ => none

/-- A number, or a text that denotes one. -/
def numberOf? : Datum → Option Decimal
  | .text s => Decimal.ofText? s
  | d => d.number?

/-- A number. -/
def number? (body : Datum) (key : String) : Option Decimal := (body.get? key).bind numberOf?

/-- A table of numbers that may be missing or null. -/
def optionalNumbers? (body : Datum) (key : String) : Option (Option (List (String × Decimal))) :=
  match body.get? key with
  | none | some .null => some none
  | some (.object entries) =>
    some <$> entries.mapM fun (name, d) => (numberOf? d).map (name, ·)
  | some _ => none

/-- An object. -/
def object? (body : Datum) (key : String) : Option Datum :=
  match body.get? key with
  | some (.object entries) => some (.object entries)
  | _ => none

end Body

end BlockText

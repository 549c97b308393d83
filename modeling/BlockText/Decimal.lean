/-!
# Finite decimal numbers

`mantissa / 10 ^ places`, with as few places as possible.  They stand for the fractional numbers
of documents and of block positions, whose sums are exact.
-/

namespace BlockText

/-- The number `mantissa / 10 ^ places`. -/
structure Decimal where
  mantissa : Int
  places : Nat
  deriving DecidableEq, Repr, Inhabited

namespace Decimal

/-- The power of ten with an exponent. -/
def tenTo : Nat → Int
  | 0 => 1
  | n + 1 => tenTo n * 10

/-- Drops decimal places that are zero. -/
def normalize (mantissa : Int) : Nat → Decimal
  | 0 => ⟨mantissa, 0⟩
  | places + 1 =>
    if mantissa % 10 = 0 then normalize (mantissa / 10) places else ⟨mantissa, places + 1⟩

/-- The integer `n`. -/
def ofInt (n : Int) : Decimal := ⟨n, 0⟩

instance (n : Nat) : OfNat Decimal n := ⟨ofInt n⟩

/-- The number `mantissa * 10 ^ exponent`. -/
def ofScientific (mantissa exponent : Int) : Decimal :=
  if 0 ≤ exponent then ⟨mantissa * tenTo exponent.toNat, 0⟩
  else normalize mantissa (-exponent).toNat

/-- The sum of two numbers. -/
def add (a b : Decimal) : Decimal :=
  let places := max a.places b.places
  normalize (a.mantissa * tenTo (places - a.places) + b.mantissa * tenTo (places - b.places)) places

instance : Add Decimal := ⟨add⟩

/-- `a < b` as numbers. -/
def lt (a b : Decimal) : Bool :=
  a.mantissa * tenTo b.places < b.mantissa * tenTo a.places

/-- `a = b` as numbers. -/
def equal (a b : Decimal) : Bool :=
  a.mantissa * tenTo b.places == b.mantissa * tenTo a.places

/-- The integer that the number is, if it is one. -/
def toInt? (a : Decimal) : Option Int :=
  match normalize a.mantissa a.places with
  | ⟨n, 0⟩ => some n
  | _ => none

/-- The integer part, with the fraction cut off toward zero. -/
def truncate (a : Decimal) : Int :=
  a.mantissa.tdiv (tenTo a.places)

/-- The significant digits and the position of the decimal point after them:
`0.d₁d₂… * 10 ^ point`. -/
def significant (a : Decimal) : List Char × Int :=
  let digits := Nat.toDigits 10 a.mantissa.natAbs
  let kept := (digits.reverse.dropWhile (· == '0')).reverse
  (kept, (digits.length : Int) - a.places)

/-- A digit list with the point after `point` digits, at least one digit on either side. -/
def positional (digits : List Char) (point : Int) : List Char :=
  if point ≤ 0 then
    '0' :: '.' :: (List.replicate (-point).toNat '0' ++ digits)
  else
    let whole := digits.take point.toNat
    let fraction := digits.drop point.toNat
    whole ++ List.replicate (point.toNat - whole.length) '0' ++
      '.' :: (if fraction.isEmpty then ['0'] else fraction)

/-- A digit list with one digit before the point and a signed exponent of two digits or more. -/
def exponential (digits : List Char) (point : Int) : List Char :=
  let exponent := point - 1
  let power := Nat.toDigits 10 exponent.natAbs
  digits.take 1 ++ (if digits.length ≤ 1 then [] else '.' :: digits.drop 1) ++
    'e' :: (if exponent < 0 then '-' else '+') ::
      (List.replicate (2 - power.length) '0' ++ power)

/-- The number as text: positional from `10 ^ -4` up to `10 ^ 16`, with at least one decimal
place, and exponential beyond. -/
def display (a : Decimal) : String :=
  let (digits, point) := a.significant
  let body :=
    if digits.isEmpty then ['0', '.', '0']
    else if -4 < point && point ≤ 16 then positional digits point
    else exponential digits point
  String.ofList (if a.mantissa < 0 then '-' :: body else body)

end Decimal

end BlockText

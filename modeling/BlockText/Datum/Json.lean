import BlockText.Datum.Codec

/-!
# JSON text

Writing is deterministic: keys in code point order, no blanks, and everything outside ASCII
escaped, so equal data have equal texts.  Different data may share a text too: a character beyond
`0xFFFF` is written as two surrogates are.  Reading takes any JSON text and makes one character of
such a pair; a surrogate that is no half of a pair stays.  Of an integer, only so many digits are
written and read as a number may have (`dumps?`, `loads?`).
-/

namespace BlockText.Datum

/-- A code unit of an escape. -/
def unicodeEscape (n : Nat) : List Char :=
  '\\' :: 'u' :: (Text.hexDigits 4 n).toList

/-- One character inside a JSON string. -/
def jsonChar (c : Char) : List Char :=
  if c == '"' then ['\\', '"']
  else if c == '\\' then ['\\', '\\']
  else if c == '\n' then ['\\', 'n']
  else if c == '\r' then ['\\', 'r']
  else if c == '\t' then ['\\', 't']
  else if c.toNat == 8 then ['\\', 'b']
  else if c.toNat == 12 then ['\\', 'f']
  else if c.toNat < 32 then unicodeEscape c.toNat
  else if c.toNat < 127 then [c]
  else if c.toNat < 0x10000 then unicodeEscape c.toNat
  else
    let n := c.toNat - 0x10000
    unicodeEscape (0xD800 + n / 0x400) ++ unicodeEscape (0xDC00 + n % 0x400)

/-- One code point inside a JSON string. -/
def jsonPoint : CodePoint → List Char
  | .char c => jsonChar c
  | .surrogate i => unicodeEscape (0xD800 + i)

/-- A JSON string. -/
def jsonString (ps : List CodePoint) : String :=
  String.ofList ('"' :: ps.flatMap jsonPoint ++ ['"'])

/-- An object with its keys in order. -/
def jsonObject (entries : List (String × String)) : String :=
  let sorted := entries.mergeSort fun a b => !(b.1 < a.1)
  "\x7b" ++ Text.join "," (sorted.map fun e => jsonString (Text.points e.1) ++ ":" ++ e.2) ++ "\x7d"

mutual

/-- The data as JSON text. -/
def toJson : Datum → String
  | null => "null"
  | bool b => if b then "true" else "false"
  | int n => toString n
  | float d => d.display
  | text s => jsonString (Text.points s)
  | surrogates t => jsonString t.points
  | list items => "[" ++ Text.join "," (toJsonList items) ++ "]"
  | object entries => jsonObject (toJsonEntries entries)
  | record tag fields =>
    jsonObject ((tagKey, jsonString (Text.points tag.name)) :: toJsonFields (tag.fields.map (·.name)) fields)

/-- The items of a list. -/
def toJsonList : List Datum → List String
  | [] => []
  | d :: rest => toJson d :: toJsonList rest

/-- The entries of an object. -/
def toJsonEntries : List (String × Datum) → List (String × String)
  | [] => []
  | (key, d) :: rest => (key, toJson d) :: toJsonEntries rest

/-- The fields of a record. -/
def toJsonFields : List String → List Datum → List (String × String)
  | name :: names, d :: rest => (name, toJson d) :: toJsonFields names rest
  | _, _ => []

end

/-- How many digits an integer may have when it becomes text or is read from text. -/
def digitLimit : Nat := 4300

mutual

/-- No integer has more than `limit` digits. -/
def fitsDigits (limit : Nat) : Datum → Bool
  | int n => (Nat.toDigits 10 n.natAbs).length ≤ limit
  | list items => fitsDigitsList limit items
  | object entries => fitsDigitsEntries limit entries
  | record _ fields => fitsDigitsList limit fields
  | _ => true

/-- The same for list items. -/
def fitsDigitsList (limit : Nat) : List Datum → Bool
  | [] => true
  | d :: rest => fitsDigits limit d && fitsDigitsList limit rest

/-- The same for the entries of an object. -/
def fitsDigitsEntries (limit : Nat) : List (String × Datum) → Bool
  | [] => true
  | (_, d) :: rest => fitsDigits limit d && fitsDigitsEntries limit rest

end

/-- The JSON text, if no integer has too many digits for one. -/
def dumps? (d : Datum) : Option String :=
  if d.fitsDigits digitLimit then some d.toJson else none

/-! ## Reading -/

/-- Drops JSON white space. -/
def skipSpace (cs : List Char) : List Char :=
  cs.dropWhile fun c => c == ' ' || c == '\n' || c == '\t' || c == '\r'

/-- The value of a hexadecimal digit. -/
def hexValue? (c : Char) : Option Nat :=
  if c.isDigit then some (c.toNat - '0'.toNat)
  else if 'a' ≤ c && c ≤ 'f' then some (c.toNat - 'a'.toNat + 10)
  else if 'A' ≤ c && c ≤ 'F' then some (c.toNat - 'A'.toNat + 10)
  else none

/-- The value of hexadecimal digits. -/
def hexNumber? : List Char → Option Nat
  | cs => cs.foldlM (fun n c => (hexValue? c).map (16 * n + ·)) 0

/-- Reads the rest of a JSON string, after its opening quote. -/
def readJsonString (acc : List CodePoint) : List Char → Option (List CodePoint × List Char)
  | [] => none
  | '"' :: rest => some (acc.reverse, rest)
  | '\\' :: 'u' :: a :: b :: c :: d :: '\\' :: 'u' :: e :: f :: g :: h :: rest =>
    match hexNumber? [a, b, c, d], hexNumber? [e, f, g, h] with
    | some hi, some lo =>
      if 0xD800 ≤ hi && hi < 0xDC00 && 0xDC00 ≤ lo && lo < 0xE000 then
        readJsonString (.ofCode (0x10000 + (hi - 0xD800) * 0x400 + (lo - 0xDC00)) :: acc) rest
      else readJsonString (.ofCode hi :: acc) ('\\' :: 'u' :: e :: f :: g :: h :: rest)
    | some hi, none => readJsonString (.ofCode hi :: acc) ('\\' :: 'u' :: e :: f :: g :: h :: rest)
    | none, _ => none
  | '\\' :: 'u' :: a :: b :: c :: d :: rest =>
    match hexNumber? [a, b, c, d] with
    | some n => readJsonString (.ofCode n :: acc) rest
    | none => none
  | '\\' :: c :: rest =>
    match c with
    | 'n' => readJsonString (.char '\n' :: acc) rest
    | 'r' => readJsonString (.char '\r' :: acc) rest
    | 't' => readJsonString (.char '\t' :: acc) rest
    | 'b' => readJsonString (.char (Char.ofNat 8) :: acc) rest
    | 'f' => readJsonString (.char (Char.ofNat 12) :: acc) rest
    | '"' => readJsonString (.char '"' :: acc) rest
    | '\\' => readJsonString (.char '\\' :: acc) rest
    | '/' => readJsonString (.char '/' :: acc) rest
    | _ => none
  | c :: rest => if c.toNat < 32 then none else readJsonString (.char c :: acc) rest

/-- The value of decimal digits. -/
def decimalNumber (cs : List Char) : Nat :=
  cs.foldl (fun n c => 10 * n + (c.toNat - '0'.toNat)) 0

/-- Reads a JSON number after its sign; an integer may have `limit` digits. -/
def readJsonNumber (limit : Nat) (negative : Bool) (cs : List Char) : Option (Datum × List Char) :=
  let whole := cs.takeWhile Char.isDigit
  let rest := cs.dropWhile Char.isDigit
  if whole.isEmpty then none
  else
    let (fraction, rest, fractional) :=
      match rest with
      | '.' :: more => (more.takeWhile Char.isDigit, more.dropWhile Char.isDigit, true)
      | _ => ([], rest, false)
    let (exponent, rest, scaled) : Int × List Char × Bool :=
      match rest with
      | e :: more =>
        if e == 'e' || e == 'E' then
          match more with
          | '-' :: ds => (-(decimalNumber (ds.takeWhile Char.isDigit) : Int),
              ds.dropWhile Char.isDigit, true)
          | '+' :: ds => (decimalNumber (ds.takeWhile Char.isDigit),
              ds.dropWhile Char.isDigit, true)
          | ds => (decimalNumber (ds.takeWhile Char.isDigit), ds.dropWhile Char.isDigit, true)
        else (0, rest, false)
      | [] => (0, rest, false)
    let magnitude : Int := decimalNumber (whole ++ fraction)
    let mantissa := if negative then -magnitude else magnitude
    if fractional || scaled then
      some (float (.ofScientific mantissa (exponent - fraction.length)), rest)
    else if limit < whole.length then none
    else some (int mantissa, rest)

mutual

/-- Reads a JSON value; `fuel` bounds the number of values and separators. -/
def readJson (limit : Nat) : Nat → List Char → Option (Datum × List Char)
  | 0, _ => none
  | fuel + 1, cs =>
    match skipSpace cs with
    | 'n' :: 'u' :: 'l' :: 'l' :: rest => some (null, rest)
    | 't' :: 'r' :: 'u' :: 'e' :: rest => some (bool true, rest)
    | 'f' :: 'a' :: 'l' :: 's' :: 'e' :: rest => some (bool false, rest)
    | '"' :: rest => (readJsonString [] rest).map fun (ps, rest) => (ofPoints ps, rest)
    | '-' :: rest => readJsonNumber limit true rest
    | '[' :: rest =>
      match skipSpace rest with
      | ']' :: rest => some (list [], rest)
      | rest => (readJsonItems limit fuel rest).map fun (items, rest) => (list items, rest)
    | '\x7b' :: rest =>
      match skipSpace rest with
      | '\x7d' :: rest => some (object [], rest)
      | rest => (readJsonEntries limit fuel [] rest).map fun (entries, rest) => (object entries, rest)
    | rest => readJsonNumber limit false rest

/-- Reads the items of a list up to its closing bracket. -/
def readJsonItems (limit : Nat) : Nat → List Char → Option (List Datum × List Char)
  | 0, _ => none
  | fuel + 1, cs => do
    let (first, rest) ← readJson limit fuel cs
    match skipSpace rest with
    | ',' :: rest => do
      let (others, rest) ← readJsonItems limit fuel rest
      return (first :: others, rest)
    | ']' :: rest => return ([first], rest)
    | _ => none

/-- Reads the entries of an object up to its closing brace; a later entry replaces an earlier one
with the same key, and a key consists of characters. -/
def readJsonEntries (limit fuel : Nat) (done : List (String × Datum)) (cs : List Char) :
    Option (List (String × Datum) × List Char) :=
  match fuel with
  | 0 => none
  | fuel + 1 => do
    match skipSpace cs with
    | '"' :: rest =>
      let (ps, rest) ← readJsonString [] rest
      let key ← Text.ofPoints? ps
      match skipSpace rest with
      | ':' :: rest =>
        let (value, rest) ← readJson limit fuel rest
        let done := putEntry done key value
        match skipSpace rest with
        | ',' :: rest => readJsonEntries limit fuel done rest
        | '\x7d' :: rest => return (done, rest)
        | _ => none
      | _ => none
    | _ => none

end

/-- The datum that a JSON text denotes, with up to `limit` digits in an integer. -/
def ofJson? (s : String) (limit : Nat := digitLimit) : Option Datum :=
  let cs := s.toList
  match readJson limit (cs.length + 1) cs with
  | some (d, rest) => if (skipSpace rest).isEmpty then some d else none
  | none => none

/-- The document that a JSON text denotes. -/
def loads? (s : String) : Option Datum :=
  (ofJson? s).bind fun d => (ofPlain d).toOption

end BlockText.Datum

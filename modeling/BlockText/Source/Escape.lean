import BlockText.Source.Scan
import BlockText.Text.CharacterName

/-!
# Escapes in string literals

What a backslash in a string literal stands for: a code point by its number, a character by its
name, a letter or octal digits, or the end of a line.  A backslash before any other character
stands for itself.
-/

namespace BlockText.Source

/-- The value of a hexadecimal digit. -/
def hexDigit? (c : Char) : Option Nat :=
  if c.isDigit then some (c.toNat - '0'.toNat)
  else if 'a' ≤ c && c ≤ 'f' then some (c.toNat - 'a'.toNat + 10)
  else if 'A' ≤ c && c ≤ 'F' then some (c.toNat - 'A'.toNat + 10)
  else none

/-- The value of hexadecimal digits. -/
def hexValue? (cs : List Char) : Option Nat :=
  cs.foldlM (fun n c => (hexDigit? c).map (16 * n + ·)) 0

/-- The code point with a number; `none` beyond the last one. -/
def codePoint? (n : Nat) : Option CodePoint :=
  if n > 0x10FFFF then none else some (.ofCode n)

/-- The value of an octal digit. -/
def octal? (c : Char) : Option Nat :=
  if '0' ≤ c && c ≤ '7' then some (c.toNat - '0'.toNat) else none

/-- The character that a letter after a backslash stands for. -/
def simpleEscape? (c : Char) : Option Char :=
  match c with
  | '\\' | '\'' | '"' => some c
  | 'a' => some (Char.ofNat 7)
  | 'b' => some (Char.ofNat 8)
  | 't' => some '\t'
  | 'n' => some '\n'
  | 'v' => some (Char.ofNat 11)
  | 'f' => some (Char.ofNat 12)
  | 'r' => some '\r'
  | _ => none

section Names

variable (names : Text.CharacterNames)

mutual

/-- The code points that a string literal denotes; `none` if an escape is malformed. -/
def unescape : List Char → Option (List CodePoint)
  | [] => some []
  | '\\' :: 'x' :: rest =>
    match rest with
    | a :: b :: rest => do
      let c ← (hexValue? [a, b]).bind codePoint?
      return c :: (← unescape rest)
    | _ => none
  | '\\' :: 'u' :: rest =>
    match rest with
    | a :: b :: c :: d :: rest => do
      let c ← (hexValue? [a, b, c, d]).bind codePoint?
      return c :: (← unescape rest)
    | _ => none
  | '\\' :: 'U' :: rest =>
    match rest with
    | a :: b :: c :: d :: e :: f :: g :: h :: rest => do
      let c ← (hexValue? [a, b, c, d, e, f, g, h]).bind codePoint?
      return c :: (← unescape rest)
    | _ => none
  | '\\' :: 'N' :: '\x7b' :: rest => unescapeName [] rest
  | '\\' :: 'N' :: _ => none
  | '\\' :: '\n' :: rest => unescape rest
  | '\\' :: c :: rest =>
    match simpleEscape? c, octal? c with
    | some s, _ => (unescape rest).map (.char s :: ·)
    | none, none => (unescape rest).map fun ps => .char '\\' :: .char c :: ps
    | none, some n =>
      match rest with
      | [] => some [.ofCode n]
      | d :: more =>
        match octal? d with
        | none => (unescape (d :: more)).map (.ofCode n :: ·)
        | some m =>
          match more with
          | [] => some [.ofCode (8 * n + m)]
          | e :: after =>
            match octal? e with
            | none => (unescape (e :: after)).map (.ofCode (8 * n + m) :: ·)
            | some k => (unescape after).map (.ofCode (64 * n + 8 * m + k) :: ·)
  | c :: rest => (unescape rest).map (.char c :: ·)

/-- Goes on inside the name of a character, of which `name` is the part before, in reverse. -/
def unescapeName (name : List Char) : List Char → Option (List CodePoint)
  | [] => none
  | '\x7d' :: rest => do
    let c ← names name.reverse
    return .char c :: (← unescape rest)
  | c :: rest => unescapeName (c :: name) rest

end

end Names

/-- The escapes of a byte string are well formed. -/
def validBytes : List Char → Bool
  | [] => true
  | '\\' :: 'x' :: rest =>
    match rest with
    | a :: b :: rest => isHexDigit a && isHexDigit b && validBytes rest
    | _ => false
  | '\\' :: _ :: rest => validBytes rest
  | _ :: rest => validBytes rest

end BlockText.Source

import BlockText.Text.Basic

/-!
# Errors of reading a text

An error may know its line and column; its text then starts with them, and `errorLine?` finds the
line number again in any message that holds one in that form.
-/

namespace BlockText.Syntax

/-- What is wrong with a text. -/
inductive ParseErrorKind
  /-- It holds something that no program can. -/
  | unsupported
  /-- It breaks the grammar; only the line of the error is meaningful. -/
  | grammar
  /-- It holds a null character. -/
  | nullCharacter
  deriving DecidableEq

/-- Why a text is no program. -/
structure ParseError where
  message : String
  line : Option Int := none
  column : Option Int := none
  kind : ParseErrorKind := .unsupported
  deriving DecidableEq

/-- The text of an error. -/
def ParseError.text (e : ParseError) : String :=
  match e.line with
  | none => e.message
  | some line => s!"line {line}:{e.column.getD 0} {e.message}"

/-- The start of a line reference. -/
def lineMarker : List Char := "line ".toList

/-- The number in a line reference at the front of a text: the marker, digits and a colon. -/
def lineAtStart? (cs : List Char) : Option Int :=
  if lineMarker.isPrefixOf cs then
    let rest := cs.drop lineMarker.length
    let digits := rest.takeWhile Text.isDecimal
    match rest.dropWhile Text.isDecimal with
    | ':' :: _ => Text.readInteger? (String.ofList digits)
    | _ => none
  else none

/-- The number in the first line reference of a text. -/
def firstLine? : List Char → Option Int
  | [] => none
  | c :: rest =>
    match lineAtStart? (c :: rest) with
    | some n => some n
    | none => firstLine? rest

/-- The line number that a message mentions. -/
def errorLine? (message : String) : Option Int :=
  firstLine? message.toList

end BlockText.Syntax

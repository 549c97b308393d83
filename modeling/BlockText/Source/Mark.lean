/-!
# Places in a text

A mark is a line and a column in UTF-8 bytes, as the grammar counts them; a range lies between
two marks.  Every line break is unified to a line feed before a text is read.
-/

namespace BlockText.Source

/-- A place in a text: line from 1, column in UTF-8 bytes from 0. -/
structure Mark where
  line : Nat
  column : Nat
  deriving DecidableEq, Inhabited

/-- What lies between two marks. -/
structure Range where
  start : Mark
  stop : Mark
  deriving DecidableEq, Inhabited

/-- The mark after one character. -/
def Mark.next (m : Mark) (c : Char) : Mark :=
  if c == '\n' then ⟨m.line + 1, 0⟩ else ⟨m.line, m.column + c.utf8Size⟩

/-- The mark after several characters. -/
def Mark.advance (m : Mark) (cs : List Char) : Mark :=
  cs.foldl Mark.next m

/-- Every line break as a line feed. -/
def unifyBreaks : List Char → List Char
  | [] => []
  | '\r' :: '\n' :: rest => '\n' :: unifyBreaks rest
  | c :: rest => (if c == '\r' then '\n' else c) :: unifyBreaks rest

/-- The text ends in a carriage return and a line feed. -/
def endsInPair (cs : List Char) : Bool :=
  match cs.reverse with
  | '\n' :: '\r' :: _ => true
  | _ => false

/-- The text that the grammar reads: unified line breaks, and a line feed at the end.  After a
carriage return and a line feed at the very end another line begins. -/
def readable (cs : List Char) : List Char :=
  let unified := unifyBreaks cs
  if endsInPair cs || unified.getLast? != some '\n' then unified ++ ['\n'] else unified

end BlockText.Source

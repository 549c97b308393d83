import BlockText.Syntax.Choice

/-!
# What is known about a node

Identity, place in the text and surrounding trivia.
-/

namespace BlockText.Syntax

/-- A point of a text: line from 1, column in characters from 0, and characters before it. -/
structure Position where
  line : Nat := 0
  column : Nat := 0
  offset : Nat := 0
  deriving DecidableEq

/-- A stretch of text. -/
structure Span where
  start : Position := {}
  stop : Position := {}
  deriving DecidableEq

/-- A range of significant tokens; `stop` is exclusive. -/
structure TokenRange where
  start : Nat := 0
  stop : Nat := 0
  deriving DecidableEq

/-- A comment, a blank line or white space. -/
structure Trivia where
  kind : TriviaKind
  text : String
  deriving DecidableEq

/-- What is known about a node. -/
structure Info where
  id : Int := 0
  span : Option Span := none
  tokens : Option TokenRange := none
  leading : List Trivia := []
  trailing : List Trivia := []
  deriving DecidableEq

/-- `outer` contains `inner`, by offsets. -/
def Span.contains (outer inner : Span) : Bool :=
  outer.start.offset ≤ inner.start.offset && inner.stop.offset ≤ outer.stop.offset

end BlockText.Syntax

/-!
# Closed vocabularies of a program tree

Operators and kinds.  Each value has one spelling, which is what documents and block fields hold,
and each vocabulary has the name that messages use.
-/

namespace BlockText.Syntax

/-- A closed vocabulary: a name, its values in order, and a spelling for each. -/
class Choice (α : Type) where
  vocabulary : String
  values : List α
  spelling : α → String

/-- The value with the given spelling. -/
def Choice.ofSpelling? (α : Type) [Choice α] (s : String) : Option α :=
  (Choice.values (α := α)).find? fun a => Choice.spelling a == s

/-- The spellings of a vocabulary, in order. -/
def Choice.spellings (α : Type) [Choice α] : List String :=
  (Choice.values (α := α)).map Choice.spelling

/-- What a piece of trivia is. -/
inductive TriviaKind
  | comment
  | blank
  | rawWhitespace
  deriving DecidableEq

instance : Choice TriviaKind where
  vocabulary := "TriviaKind"
  values := [.comment, .blank, .rawWhitespace]
  spelling
    | .comment => "comment"
    | .blank => "blank"
    | .rawWhitespace => "raw_whitespace"

/-- Binary operators. -/
inductive BinaryOp
  | add
  | sub
  | mul
  | div
  | floorDiv
  | mod
  | pow
  | matMul
  | shiftLeft
  | shiftRight
  | bitAnd
  | bitOr
  | bitXor
  deriving DecidableEq

instance : Choice BinaryOp where
  vocabulary := "BinaryOp"
  values := [.add, .sub, .mul, .div, .floorDiv, .mod, .pow, .matMul, .shiftLeft, .shiftRight,
    .bitAnd, .bitOr, .bitXor]
  spelling
    | .add => "+"
    | .sub => "-"
    | .mul => "*"
    | .div => "/"
    | .floorDiv => "//"
    | .mod => "%"
    | .pow => "**"
    | .matMul => "@"
    | .shiftLeft => "<<"
    | .shiftRight => ">>"
    | .bitAnd => "&"
    | .bitOr => "|"
    | .bitXor => "^"

/-- Unary operators. -/
inductive UnaryOp
  | neg
  | pos
  | not
  | invert
  deriving DecidableEq

instance : Choice UnaryOp where
  vocabulary := "UnaryOp"
  values := [.neg, .pos, .not, .invert]
  spelling
    | .neg => "-"
    | .pos => "+"
    | .not => "not"
    | .invert => "~"

/-- Short-circuit operators. -/
inductive BoolOp
  | and
  | or
  deriving DecidableEq

instance : Choice BoolOp where
  vocabulary := "BoolOpKind"
  values := [.and, .or]
  spelling
    | .and => "and"
    | .or => "or"

/-- Comparison operators. -/
inductive CompareOp
  | eq
  | ne
  | lt
  | le
  | gt
  | ge
  | is
  | isNot
  | isIn
  | notIn
  deriving DecidableEq

instance : Choice CompareOp where
  vocabulary := "CompareOp"
  values := [.eq, .ne, .lt, .le, .gt, .ge, .is, .isNot, .isIn, .notIn]
  spelling
    | .eq => "=="
    | .ne => "!="
    | .lt => "<"
    | .le => "<="
    | .gt => ">"
    | .ge => ">="
    | .is => "is"
    | .isNot => "is not"
    | .isIn => "in"
    | .notIn => "not in"

/-- What a literal denotes. -/
inductive LiteralKind
  | number
  | string
  | bool
  | none
  deriving DecidableEq

instance : Choice LiteralKind where
  vocabulary := "LiteralKind"
  values := [.number, .string, .bool, .none]
  spelling
    | .number => "number"
    | .string => "string"
    | .bool => "bool"
    | .none => "none"

/-- What a comprehension builds. -/
inductive ComprehensionKind
  | list
  | set
  | generator
  | dict
  deriving DecidableEq

instance : Choice ComprehensionKind where
  vocabulary := "ComprehensionKind"
  values := [.list, .set, .generator, .dict]
  spelling
    | .list => "list"
    | .set => "set"
    | .generator => "generator"
    | .dict => "dict"

/-- A part of a formatted string is text or an expression. -/
inductive PartKind
  | literal
  | expr
  deriving DecidableEq

instance : Choice PartKind where
  vocabulary := "FStringPartKind"
  values := [.literal, .expr]
  spelling
    | .literal => "literal"
    | .expr => "expr"

/-- A parameter is plain, collects positional arguments (a bare marker if it has no name), or
collects keyword arguments. -/
inductive ParamKind
  | normal
  | star
  | doubleStar
  deriving DecidableEq

instance : Choice ParamKind where
  vocabulary := "ParamKind"
  values := [.normal, .star, .doubleStar]
  spelling
    | .normal => "normal"
    | .star => "star"
    | .doubleStar => "double_star"

/-- A line without code was read from a text or put in as spacing. -/
inductive EmptySource
  | source
  | generated
  deriving DecidableEq

instance : Choice EmptySource where
  vocabulary := "EmptySource"
  values := [.source, .generated]
  spelling
    | .source => "source"
    | .generated => "generated"

end BlockText.Syntax

import BlockText.Datum.Basic
import BlockText.Syntax.Choice

/-!
# Fields of records

For every record class its fields in order: the name of the field in documents, how its value is
read, and the value it has when a document leaves it out.
-/

namespace BlockText

open Syntax

/-- The name and the spellings of a closed vocabulary. -/
structure Vocabulary where
  name : String
  spellings : List String

/-- A vocabulary as data. -/
def vocabularyOf (α : Type) [Choice α] : Vocabulary :=
  ⟨Choice.vocabulary α, Choice.spellings α⟩

/-- How a field of a document is read. -/
inductive FieldRule
  /-- Any datum. -/
  | any
  /-- A value of a vocabulary. -/
  | choice (vocabulary : Vocabulary)
  /-- A list of values of a vocabulary. -/
  | choices (vocabulary : Vocabulary)

/-- A field of a record class. -/
structure Field where
  name : String
  rule : FieldRule
  default? : Option Datum

/-- A field that a document must have. -/
def Field.required (name : String) : Field := ⟨name, .any, none⟩

/-- A field that is nothing when left out. -/
def Field.optional (name : String) : Field := ⟨name, .any, some .null⟩

/-- A field that is the empty list when left out. -/
def Field.listing (name : String) : Field := ⟨name, .any, some (.list [])⟩

/-- A field with another value when left out. -/
def Field.preset (name : String) (value : Datum) : Field := ⟨name, .any, some value⟩

/-- A field that holds a value of a vocabulary. -/
def Field.chosen (name : String) (α : Type) [Choice α] (default? : Option Datum := none) : Field :=
  ⟨name, .choice (vocabularyOf α), default?⟩

/-- A field that holds a list of values of a vocabulary. -/
def Field.chosenList (name : String) (α : Type) [Choice α] : Field :=
  ⟨name, .choices (vocabularyOf α), none⟩

/-- The position at the start of nowhere. -/
def blankPosition : Datum :=
  .record .position [.int 0, .int 0, .int 0]

/-- The information of a node about which nothing is known. -/
def blankInfo : Datum :=
  .record .info [.int 0, .null, .null, .list [], .list []]

namespace Tag

/-- The information field that nearly every class has. -/
def infoField : Field := ⟨"meta", .any, some blankInfo⟩

/-- The fields of a class, in order. -/
def fields : Tag → List Field
  | .trivia => [.chosen "kind" TriviaKind, .preset "text" ""]
  | .position => [.preset "line" (.int 0), .preset "column" (.int 0), .preset "offset" (.int 0)]
  | .span => [.preset "start" blankPosition, .preset "end" blankPosition]
  | .tokenRange => [.preset "start" (.int 0), .preset "end" (.int 0)]
  | .info =>
    [.preset "id" (.int 0), .optional "span", .optional "token_range", .listing "leading_trivia",
     .listing "trailing_trivia"]
  | .identifier => [.required "name", infoField]
  | .literal => [.chosen "kind" LiteralKind, .required "raw", .optional "value", infoField]
  | .binary => [.required "left", .chosen "op" BinaryOp, .required "right", infoField]
  | .unary => [.chosen "op" UnaryOp, .required "operand", infoField]
  | .boolOp => [.chosen "op" BoolOp, .required "values", infoField]
  | .compare =>
    [.required "left", .chosenList "ops" CompareOp, .required "comparators", infoField]
  | .param =>
    [.required "name", .optional "annotation", .optional "default",
     .chosen "kind" ParamKind (some "normal"), infoField]
  | .lambda => [.required "params", .required "body", infoField]
  | .ifExpr => [.required "test", .required "body", .required "orelse", infoField]
  | .keyword => [.required "name", .required "value", infoField]
  | .call => [.required "func", .listing "args", .listing "keywords", infoField]
  | .tupleExpr => [.required "elements", infoField]
  | .listExpr => [.required "elements", infoField]
  | .setExpr => [.required "elements", infoField]
  | .dictEntry => [.required "key", .required "value", infoField]
  | .dictExpr => [.required "entries", infoField]
  | .attributeExpr => [.required "value", .required "attr", infoField]
  | .subscript => [.required "value", .required "index", infoField]
  | .slice => [.optional "lower", .optional "upper", .optional "step", infoField]
  | .comprehensionClause =>
    [.required "target", .required "iter", .listing "ifs", .preset "is_async" (.bool false),
     infoField]
  | .comprehension =>
    [.chosen "kind" ComprehensionKind, .required "element", .required "clauses", .optional "key",
     infoField]
  | .grouped => [.required "expr", infoField]
  | .fstringPart =>
    [.chosen "kind" PartKind, .preset "text" "", .optional "expr", .preset "conversion" "",
     .preset "format_spec" "", infoField]
  | .fstring => [.required "parts", .preset "quote" "\"", infoField]
  | .namedExpr => [.required "target", .required "value", infoField]
  | .yield => [.optional "value", infoField]
  | .yieldFrom => [.required "value", infoField]
  | .await => [.required "value", infoField]
  | .wildcardPattern => [infoField]
  | .capturePattern => [.required "name", infoField]
  | .literalPattern => [.required "literal", infoField]
  | .suite => [.listing "statements", .preset "indent_level" (.int 0)]
  | .elifClause => [.required "test", .required "body", infoField]
  | .ifStmt =>
    [.required "test", .required "body", .listing "elifs", .optional "else_body", infoField]
  | .whileStmt => [.required "test", .required "body", .optional "else_body", infoField]
  | .forStmt =>
    [.required "target", .required "iter", .required "body", .optional "else_body",
     .preset "is_async" (.bool false), infoField]
  | .matchCase => [.required "pattern", .required "body", infoField]
  | .matchStmt => [.required "subject", .required "cases", infoField]
  | .functionDef =>
    [.required "name", .required "params", .required "body", .listing "decorators",
     .optional "return_type", .preset "is_async" (.bool false), infoField]
  | .classDef =>
    [.required "name", .required "bases", .required "body", .listing "decorators", infoField]
  | .assign => [.required "targets", .required "value", infoField]
  | .annAssign => [.required "target", .required "annotation", .optional "value", infoField]
  | .augAssign => [.required "target", .chosen "op" BinaryOp, .required "value", infoField]
  | .exprStmt => [.required "value", infoField]
  | .passStmt => [infoField]
  | .returnStmt => [.optional "value", infoField]
  | .breakStmt => [infoField]
  | .continueStmt => [infoField]
  | .importName => [.required "name", .optional "alias", infoField]
  | .importStmt =>
    [.required "module", .required "names", .preset "is_from" (.bool false), infoField]
  | .exceptHandler => [.required "type", .required "name", .required "body", infoField]
  | .tryStmt =>
    [.required "body", .listing "handlers", .optional "else_body", .optional "finally_body",
     infoField]
  | .withItem => [.required "context", .optional "name", infoField]
  | .withStmt =>
    [.required "items", .required "body", .preset "is_async" (.bool false), infoField]
  | .assertStmt => [.required "test", .optional "msg", infoField]
  | .raiseStmt => [.optional "exception", .optional "cause", infoField]
  | .deleteStmt => [.required "targets", infoField]
  | .globalStmt => [.required "names", infoField]
  | .nonlocalStmt => [.required "names", infoField]
  | .empty => [.chosen "source" EmptySource (some "source"), infoField]
  | .program =>
    [.required "body", .preset "indent_width" (.int 4), .preset "dirty" (.bool false),
     .optional "source", infoField]

end Tag

end BlockText

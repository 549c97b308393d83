/-!
# Record classes

The classes of objects that a program document is made of, and the names they have there.
-/

namespace BlockText

/-- The class of a record. -/
inductive Tag
  | trivia
  | position
  | span
  | tokenRange
  | info
  | identifier
  | literal
  | binary
  | unary
  | boolOp
  | compare
  | param
  | lambda
  | ifExpr
  | keyword
  | call
  | tupleExpr
  | listExpr
  | setExpr
  | dictEntry
  | dictExpr
  | attributeExpr
  | subscript
  | slice
  | comprehensionClause
  | comprehension
  | grouped
  | fstringPart
  | fstring
  | namedExpr
  | yield
  | yieldFrom
  | await
  | wildcardPattern
  | capturePattern
  | literalPattern
  | suite
  | elifClause
  | ifStmt
  | whileStmt
  | forStmt
  | matchCase
  | matchStmt
  | functionDef
  | classDef
  | assign
  | annAssign
  | augAssign
  | exprStmt
  | passStmt
  | returnStmt
  | breakStmt
  | continueStmt
  | importName
  | importStmt
  | exceptHandler
  | tryStmt
  | withItem
  | withStmt
  | assertStmt
  | raiseStmt
  | deleteStmt
  | globalStmt
  | nonlocalStmt
  | empty
  | program
  deriving DecidableEq, Inhabited

namespace Tag

/-- All classes. -/
def all : List Tag :=
  [.trivia, .position, .span, .tokenRange, .info, .identifier, .literal, .binary, .unary, .boolOp,
   .compare, .param, .lambda, .ifExpr, .keyword, .call, .tupleExpr, .listExpr, .setExpr,
   .dictEntry, .dictExpr, .attributeExpr, .subscript, .slice, .comprehensionClause, .comprehension,
   .grouped, .fstringPart, .fstring, .namedExpr, .yield, .yieldFrom, .await, .wildcardPattern,
   .capturePattern, .literalPattern, .suite, .elifClause, .ifStmt, .whileStmt, .forStmt,
   .matchCase, .matchStmt, .functionDef, .classDef, .assign, .annAssign, .augAssign, .exprStmt,
   .passStmt, .returnStmt, .breakStmt, .continueStmt, .importName, .importStmt, .exceptHandler,
   .tryStmt, .withItem, .withStmt, .assertStmt, .raiseStmt, .deleteStmt, .globalStmt,
   .nonlocalStmt, .empty, .program]

/-- The name of a class in documents. -/
def name : Tag → String
  | .trivia => "Trivia"
  | .position => "Position"
  | .span => "Span"
  | .tokenRange => "TokenRange"
  | .info => "NodeMeta"
  | .identifier => "Identifier"
  | .literal => "Literal"
  | .binary => "Binary"
  | .unary => "Unary"
  | .boolOp => "BoolOp"
  | .compare => "Compare"
  | .param => "Param"
  | .lambda => "Lambda"
  | .ifExpr => "IfExpr"
  | .keyword => "Keyword"
  | .call => "Call"
  | .tupleExpr => "TupleExpr"
  | .listExpr => "ListExpr"
  | .setExpr => "SetExpr"
  | .dictEntry => "DictEntry"
  | .dictExpr => "DictExpr"
  | .attributeExpr => "Attribute"
  | .subscript => "Subscript"
  | .slice => "Slice"
  | .comprehensionClause => "ComprehensionClause"
  | .comprehension => "Comprehension"
  | .grouped => "Grouped"
  | .fstringPart => "FStringPart"
  | .fstring => "FString"
  | .namedExpr => "NamedExpr"
  | .yield => "Yield"
  | .yieldFrom => "YieldFrom"
  | .await => "Await"
  | .wildcardPattern => "WildcardPattern"
  | .capturePattern => "CapturePattern"
  | .literalPattern => "LiteralPattern"
  | .suite => "Block"
  | .elifClause => "ElifClause"
  | .ifStmt => "If"
  | .whileStmt => "While"
  | .forStmt => "For"
  | .matchCase => "MatchCase"
  | .matchStmt => "Match"
  | .functionDef => "FunctionDef"
  | .classDef => "ClassDef"
  | .assign => "Assign"
  | .annAssign => "AnnAssign"
  | .augAssign => "AugAssign"
  | .exprStmt => "ExprStmt"
  | .passStmt => "Pass"
  | .returnStmt => "Return"
  | .breakStmt => "Break"
  | .continueStmt => "Continue"
  | .importName => "ImportName"
  | .importStmt => "Import"
  | .exceptHandler => "ExceptHandler"
  | .tryStmt => "Try"
  | .withItem => "WithItem"
  | .withStmt => "With"
  | .assertStmt => "Assert"
  | .raiseStmt => "Raise"
  | .deleteStmt => "Delete"
  | .globalStmt => "Global"
  | .nonlocalStmt => "Nonlocal"
  | .empty => "Empty"
  | .program => "Program"

/-- The class with the given name. -/
def ofName? (s : String) : Option Tag :=
  all.find? fun t => t.name == s

end Tag

end BlockText

import BlockText.Source.Mark
import BlockText.Syntax.Choice
import BlockText.Text.CodePoint

/-!
# Trees of the grammar

What the grammar makes of a text, with the place of every part.  These trees hold more than a
program can: the constructs without a block are sorted out later.
-/

namespace BlockText.Source

open Syntax

/-- A constant.  Numbers and byte strings are known by their spelling only. -/
inductive Constant
  | none
  | bool (b : Bool)
  | number
  | string (value : List CodePoint)
  | bytes
  | ellipsis
  deriving DecidableEq

/-- A parameter with its type. -/
structure Arg (ε : Type) where
  name : String
  hint : Option ε
  range : Range

/-- A parameter and its default value. -/
structure ArgDefault (ε : Type) where
  arg : Arg ε
  preset : Option ε

/-- The parameters of a function in their groups. -/
structure Arguments (ε : Type) where
  positionalOnly : List (ArgDefault ε) := []
  plain : List (ArgDefault ε) := []
  variadic : Option (Arg ε) := none
  keywordOnly : List (ArgDefault ε) := []
  mapping : Option (Arg ε) := none

/-- A keyword argument; without a name it passes a mapping. -/
structure KeywordArg (ε : Type) where
  name : Option String
  value : ε
  range : Range

/-- An entry of a dictionary display; without a key it includes a mapping. -/
structure Entry (ε : Type) where
  key : Option ε
  value : ε

/-- A clause of a comprehension. -/
structure ForClause (ε : Type) where
  target : ε
  iter : ε
  ifs : List ε
  isAsync : Bool

/-- The format specification of a replacement field. -/
inductive FormatSpec
  /-- Text only; empty if there is none. -/
  | plain (text : List CodePoint)
  /-- A specification with replacement fields of its own. -/
  | nested
  deriving DecidableEq

/-- A part of a formatted string: text if there is no value. -/
structure Piece (ε : Type) where
  text : List CodePoint
  value : Option ε
  conversion : String
  spec : FormatSpec

/-- An expression. -/
inductive Expr
  | name (id : String) (range : Range)
  | constant (value : Constant) (range : Range)
  | binary (left : Expr) (op : BinaryOp) (right : Expr) (range : Range)
  | unary (op : UnaryOp) (operand : Expr) (range : Range)
  | boolOp (op : BoolOp) (values : List Expr) (range : Range)
  | compare (left : Expr) (ops : List CompareOp) (others : List Expr) (range : Range)
  | lambda (args : Arguments Expr) (body : Expr) (range : Range)
  | conditional (test body orelse : Expr) (range : Range)
  | call (func : Expr) (args : List Expr) (keywords : List (KeywordArg Expr)) (range : Range)
  | tuple (elements : List Expr) (range : Range)
  | list (elements : List Expr) (range : Range)
  | set (elements : List Expr) (range : Range)
  | dict (entries : List (Entry Expr)) (range : Range)
  | attribute (value : Expr) (attr : String) (range : Range)
  | subscript (value index : Expr) (range : Range)
  | slice (lower upper step : Option Expr) (range : Range)
  | comprehension (kind : ComprehensionKind) (key : Option Expr) (element : Expr)
      (clauses : List (ForClause Expr)) (range : Range)
  | formatted (pieces : List (Piece Expr)) (range : Range)
  | walrus (target : String) (value : Expr) (range : Range)
  | yield (value : Option Expr) (range : Range)
  | yieldFrom (value : Expr) (range : Range)
  | await (value : Expr) (range : Range)
  | starred (value : Expr) (range : Range)

/-- The place of an expression. -/
def Expr.range : Expr → Range
  | .name _ r | .constant _ r | .binary _ _ _ r | .unary _ _ r | .boolOp _ _ r
  | .compare _ _ _ r | .lambda _ _ r | .conditional _ _ _ r | .call _ _ _ r | .tuple _ r
  | .list _ r | .set _ r | .dict _ r | .attribute _ _ r | .subscript _ _ r | .slice _ _ _ r
  | .comprehension _ _ _ _ r | .formatted _ r | .walrus _ _ r | .yield _ r | .yieldFrom _ r
  | .await _ r | .starred _ r => r

/-- Forms of patterns that no block can show. -/
inductive PatternForm
  | value
  | sequence
  | mapping
  | classShape
  | star
  | binding
  | alternatives
  deriving DecidableEq

/-- The name of a form of patterns in messages. -/
def PatternForm.label : PatternForm → String
  | .value => "MatchValue"
  | .sequence => "MatchSequence"
  | .mapping => "MatchMapping"
  | .classShape => "MatchClass"
  | .star => "MatchStar"
  | .binding => "MatchAs"
  | .alternatives => "MatchOr"

/-- A pattern. -/
inductive Pattern
  /-- A literal other than a singleton. -/
  | literal (value : Expr) (range : Range)
  /-- `None`, or a truth value. -/
  | singleton (value : Option Bool) (range : Range)
  /-- A name, or the wildcard if there is none. -/
  | capture (name : Option String) (range : Range)
  /-- A form that no block can show. -/
  | other (form : PatternForm) (range : Range)

/-- The place of a pattern. -/
def Pattern.range : Pattern → Range
  | .literal _ r | .singleton _ r | .capture _ r | .other _ r => r

/-- An imported name. -/
structure Alias where
  name : String
  asName : Option String
  range : Range

/-- A context of a `with` statement. -/
structure Context where
  value : Expr
  target : Option Expr

/-- A handler of a `try` statement. -/
structure Catch (σ : Type) where
  type : Option Expr
  name : Option String
  body : List σ
  range : Range

/-- A case of a `match` statement. -/
structure Case (σ : Type) where
  pattern : Pattern
  guard : Option Expr
  body : List σ

/-- A statement.  A further condition is an `if` statement that is alone in the `else` body and
starts with `elif`. -/
inductive Stmt
  | ifStmt (test : Expr) (body orelse : List Stmt) (range : Range)
  | whileStmt (test : Expr) (body orelse : List Stmt) (range : Range)
  | forStmt (target iter : Expr) (body orelse : List Stmt) (isAsync : Bool) (range : Range)
  | withStmt (items : List Context) (body : List Stmt) (isAsync : Bool) (range : Range)
  | matchStmt (subject : Expr) (cases : List (Case Stmt)) (range : Range)
  | functionDef (name : String) (args : Arguments Expr) (body : List Stmt)
      (decorators : List Expr) (returns : Option Expr) (isAsync : Bool) (range : Range)
  | classDef (name : String) (bases : List Expr) (keywords : List (KeywordArg Expr))
      (body : List Stmt) (decorators : List Expr) (range : Range)
  | tryStmt (body : List Stmt) (handlers : List (Catch Stmt)) (orelse final : List Stmt)
      (isStar : Bool) (range : Range)
  | assign (targets : List Expr) (value : Expr) (range : Range)
  | annAssign (target hint : Expr) (value : Option Expr) (range : Range)
  | augAssign (target : Expr) (op : BinaryOp) (value : Expr) (range : Range)
  | exprStmt (value : Expr) (range : Range)
  | passStmt (range : Range)
  | breakStmt (range : Range)
  | continueStmt (range : Range)
  | returnStmt (value : Option Expr) (range : Range)
  | importStmt (names : List Alias) (range : Range)
  | fromStmt (module : String) (names : List Alias) (range : Range)
  | assertStmt (test : Expr) (msg : Option Expr) (range : Range)
  | raiseStmt (exception cause : Option Expr) (range : Range)
  | deleteStmt (targets : List Expr) (range : Range)
  | globalStmt (names : List String) (range : Range)
  | nonlocalStmt (names : List String) (range : Range)

/-- The place of a statement, without its decorators. -/
def Stmt.range : Stmt → Range
  | .ifStmt _ _ _ r | .whileStmt _ _ _ r | .forStmt _ _ _ _ _ r | .withStmt _ _ _ r
  | .matchStmt _ _ r | .functionDef _ _ _ _ _ _ r | .classDef _ _ _ _ _ r
  | .tryStmt _ _ _ _ _ r | .assign _ _ r | .annAssign _ _ _ r | .augAssign _ _ _ r
  | .exprStmt _ r | .passStmt r | .breakStmt r | .continueStmt r | .returnStmt _ r
  | .importStmt _ r | .fromStmt _ _ r | .assertStmt _ _ r | .raiseStmt _ _ r
  | .deleteStmt _ r | .globalStmt _ r | .nonlocalStmt _ r => r

end BlockText.Source

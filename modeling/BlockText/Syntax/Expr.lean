import BlockText.Datum.Basic
import BlockText.Syntax.Info

/-!
# Expressions and patterns

The expressions of a program, each with what is known about it.  Names, spellings and other
leaves are data: a block field may hold anything, and a compiled tree shows it unchanged.  What
stands where an expression should and is none is kept as `stray`.
-/

namespace BlockText.Syntax

/-- A parameter of a function; `hint` is its type. -/
structure Param (ε : Type) where
  name : Datum
  hint : Option ε
  preset : Option ε
  kind : ParamKind
  info : Info

/-- A keyword argument; without a name it passes a mapping. -/
structure Keyword (ε : Type) where
  name : Datum
  value : ε
  info : Info

/-- An entry of a dictionary display; without a key it includes a mapping. -/
structure DictEntry (ε : Type) where
  key : Option ε
  value : ε
  info : Info

/-- A clause of a comprehension. -/
structure Clause (ε : Type) where
  target : ε
  iter : ε
  ifs : List ε
  isAsync : Bool
  info : Info

/-- A part of a formatted string. -/
structure FormatPart (ε : Type) where
  kind : PartKind
  text : Datum
  expr : Option ε
  conversion : Datum
  formatSpec : Datum
  info : Info

/-- An expression. -/
inductive Expr
  | identifier (name : Datum) (info : Info)
  | literal (kind : LiteralKind) (raw value : Datum) (info : Info)
  | binary (left : Expr) (op : BinaryOp) (right : Expr) (info : Info)
  | unary (op : UnaryOp) (operand : Expr) (info : Info)
  | boolOp (op : BoolOp) (values : List Expr) (info : Info)
  | compare (left : Expr) (ops : List CompareOp) (comparators : List Expr) (info : Info)
  | lambda (params : List (Param Expr)) (body : Expr) (info : Info)
  | conditional (test body orelse : Expr) (info : Info)
  | call (func : Expr) (args : List Expr) (keywords : List (Keyword Expr)) (info : Info)
  | tuple (elements : List Expr) (info : Info)
  | list (elements : List Expr) (info : Info)
  | set (elements : List Expr) (info : Info)
  | dict (entries : List (DictEntry Expr)) (info : Info)
  | attribute (value : Expr) (attr : Datum) (info : Info)
  | subscript (value index : Expr) (info : Info)
  | slice (lower upper step : Option Expr) (info : Info)
  | comprehension (kind : ComprehensionKind) (element : Expr) (clauses : List (Clause Expr))
      (key : Option Expr) (info : Info)
  | grouped (inner : Expr) (info : Info)
  | fstring (parts : List (FormatPart Expr)) (quote : Datum) (info : Info)
  | walrus (target : Datum) (value : Expr) (info : Info)
  | yield (value : Option Expr) (info : Info)
  | yieldFrom (value : Expr) (info : Info)
  | await (value : Expr) (info : Info)
  | stray (datum : Datum)

/-- A pattern of a case. -/
inductive Pattern
  | wildcard (info : Info)
  | capture (name : Datum) (info : Info)
  | literal (literal : Expr) (info : Info)
  | stray (datum : Datum)

end BlockText.Syntax

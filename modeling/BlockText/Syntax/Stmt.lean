import BlockText.Syntax.Expr

/-!
# Statements and programs

Statements stand in suites, which know how deep they are nested.
-/

namespace BlockText.Syntax

/-- The statements of a body and the depth at which they stand. -/
structure Suite (σ : Type) where
  statements : List σ
  level : Int

/-- A further condition of an `if` statement. -/
structure ElifClause (σ : Type) where
  test : Expr
  body : Suite σ
  info : Info

/-- A case of a `match` statement. -/
structure MatchCase (σ : Type) where
  pattern : Pattern
  body : Suite σ
  info : Info

/-- A handler of a `try` statement. -/
structure Handler (σ : Type) where
  type : Option Expr
  name : Datum
  body : Suite σ
  info : Info

/-- A context of a `with` statement. -/
structure WithItem where
  context : Expr
  name : Datum
  info : Info

/-- An imported name. -/
structure ImportName where
  name : Datum
  asName : Datum
  info : Info

/-- A statement.  A line without code counts as the statement `empty`. -/
inductive Stmt
  | ifStmt (test : Expr) (body : Suite Stmt) (elifs : List (ElifClause Stmt))
      (orelse : Option (Suite Stmt)) (info : Info)
  | whileStmt (test : Expr) (body : Suite Stmt) (orelse : Option (Suite Stmt)) (info : Info)
  | forStmt (target iter : Expr) (body : Suite Stmt) (orelse : Option (Suite Stmt))
      (isAsync : Bool) (info : Info)
  | matchStmt (subject : Expr) (cases : List (MatchCase Stmt)) (info : Info)
  | functionDef (name : Datum) (params : List (Param Expr)) (body : Suite Stmt)
      (decorators : List Expr) (returns : Option Expr) (isAsync : Bool) (info : Info)
  | classDef (name : Datum) (bases : List Expr) (body : Suite Stmt) (decorators : List Expr)
      (info : Info)
  | assign (targets : List Expr) (value : Expr) (info : Info)
  | annAssign (target hint : Expr) (value : Option Expr) (info : Info)
  | augAssign (target : Expr) (op : BinaryOp) (value : Expr) (info : Info)
  | exprStmt (value : Expr) (info : Info)
  | passStmt (info : Info)
  | returnStmt (value : Option Expr) (info : Info)
  | breakStmt (info : Info)
  | continueStmt (info : Info)
  | importStmt (module : Datum) (names : List ImportName) (isFrom : Bool) (info : Info)
  | tryStmt (body : Suite Stmt) (handlers : List (Handler Stmt))
      (orelse final : Option (Suite Stmt)) (info : Info)
  | withStmt (items : List WithItem) (body : Suite Stmt) (isAsync : Bool) (info : Info)
  | assertStmt (test : Expr) (msg : Option Expr) (info : Info)
  | raiseStmt (exception cause : Option Expr) (info : Info)
  | deleteStmt (targets : List Expr) (info : Info)
  | globalStmt (names : List Datum) (info : Info)
  | nonlocalStmt (names : List Datum) (info : Info)
  | empty (origin : EmptySource) (info : Info)
  | stray (datum : Datum)

/-- A program.  `source` is the text it was read from; it is `dirty` once that text no longer
shows it. -/
structure Program where
  body : Suite Stmt
  indentWidth : Int := 4
  dirty : Bool := false
  source : Option String := none
  info : Info := {}

end BlockText.Syntax

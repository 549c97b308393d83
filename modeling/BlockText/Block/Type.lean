/-!
# Block types

The fixed vocabulary of blocks: one type for each kind of statement and expression, some for
frequent calls, one for the start of a program and one that shows an error.
-/

namespace BlockText

/-- How a block can be connected. -/
inductive BlockKind
  /-- It starts a program. -/
  | entry
  /-- It stands in a chain of statements. -/
  | statement
  /-- It is plugged into a slot. -/
  | expression
  deriving DecidableEq

/-- The name of a kind in snapshots. -/
def BlockKind.label : BlockKind → String
  | entry => "ENTRY"
  | statement => "STATEMENT"
  | expression => "EXPRESSION"

/-- The types of blocks. -/
inductive BlockType
  | start
  | syncError
  | ifStmt
  | elifStmt
  | elseStmt
  | whileStmt
  | forStmt
  | matchStmt
  | caseStmt
  | functionDef
  | classDef
  | varSet
  | assign
  | annAssign
  | augAssign
  | exprStmt
  | passStmt
  | returnStmt
  | breakStmt
  | continueStmt
  | importStmt
  | tryStmt
  | withStmt
  | assertStmt
  | raiseStmt
  | deleteStmt
  | globalStmt
  | nonlocalStmt
  | printStmt
  | waitStmt
  | identifier
  | number
  | string
  | bool
  | none
  | binary
  | unary
  | boolOp
  | compare
  | conditional
  | lambda
  | call
  | tuple
  | list
  | dict
  | set
  | member
  | subscript
  | slice
  | grouped
  | comprehension
  | fstring
  | walrus
  | yield
  | yieldFrom
  | await
  | random
  | round
  | range
  | len
  | input
  | typeConvert
  | enumerate
  | zip
  | sorted
  | reversed
  | mathFunc
  | isInstance
  | typeCheck
  deriving DecidableEq

namespace BlockType

/-- All types. -/
def all : List BlockType :=
  [.start, .syncError, .ifStmt, .elifStmt, .elseStmt, .whileStmt, .forStmt, .matchStmt, .caseStmt,
   .functionDef, .classDef, .varSet, .assign, .annAssign, .augAssign, .exprStmt, .passStmt,
   .returnStmt, .breakStmt, .continueStmt, .importStmt, .tryStmt, .withStmt, .assertStmt,
   .raiseStmt, .deleteStmt, .globalStmt, .nonlocalStmt, .printStmt, .waitStmt, .identifier,
   .number, .string, .bool, .none, .binary, .unary, .boolOp, .compare, .conditional, .lambda,
   .call, .tuple, .list, .dict, .set, .member, .subscript, .slice, .grouped, .comprehension,
   .fstring, .walrus, .yield, .yieldFrom, .await, .random, .round, .range, .len, .input,
   .typeConvert, .enumerate, .zip, .sorted, .reversed, .mathFunc, .isInstance, .typeCheck]

/-- The name of a type. -/
def name : BlockType → String
  | start => "event_start"
  | syncError => "stmt_sync_error"
  | ifStmt => "stmt_if"
  | elifStmt => "stmt_elif"
  | elseStmt => "stmt_else"
  | whileStmt => "stmt_while"
  | forStmt => "stmt_for"
  | matchStmt => "stmt_match"
  | caseStmt => "stmt_case"
  | functionDef => "stmt_function_def"
  | classDef => "stmt_class_def"
  | varSet => "stmt_var_set"
  | assign => "stmt_assign"
  | annAssign => "stmt_ann_assign"
  | augAssign => "stmt_aug_assign"
  | exprStmt => "stmt_expr"
  | passStmt => "stmt_pass"
  | returnStmt => "stmt_return"
  | breakStmt => "stmt_break"
  | continueStmt => "stmt_continue"
  | importStmt => "stmt_import"
  | tryStmt => "stmt_try"
  | withStmt => "with_block"
  | assertStmt => "assert_stmt"
  | raiseStmt => "raise_stmt"
  | deleteStmt => "del_stmt"
  | globalStmt => "global_stmt"
  | nonlocalStmt => "nonlocal_stmt"
  | printStmt => "stmt_print"
  | waitStmt => "stmt_wait"
  | identifier => "expr_identifier"
  | number => "expr_number"
  | string => "expr_string"
  | bool => "expr_bool"
  | none => "expr_none"
  | binary => "expr_binary"
  | unary => "expr_unary"
  | boolOp => "expr_boolop"
  | compare => "expr_compare"
  | conditional => "expr_ifexpr"
  | lambda => "expr_lambda"
  | call => "expr_call"
  | tuple => "expr_tuple"
  | list => "expr_list"
  | dict => "expr_dict"
  | set => "expr_set"
  | member => "expr_attribute"
  | subscript => "expr_subscript"
  | slice => "expr_slice"
  | grouped => "expr_grouped"
  | comprehension => "expr_comprehension"
  | fstring => "expr_fstring"
  | walrus => "expr_named_expr"
  | yield => "expr_yield"
  | yieldFrom => "expr_yield_from"
  | await => "expr_await"
  | random => "expr_random"
  | round => "expr_round"
  | range => "expr_range"
  | len => "expr_len"
  | input => "expr_input"
  | typeConvert => "expr_type_convert"
  | enumerate => "expr_enumerate"
  | zip => "expr_zip"
  | sorted => "expr_sorted"
  | reversed => "expr_reversed"
  | mathFunc => "expr_math_func"
  | isInstance => "expr_isinstance"
  | typeCheck => "expr_type_check"

/-- The type with a name. -/
def ofName? (s : String) : Option BlockType :=
  all.find? fun t => t.name == s

/-- The names of all types in code point order. -/
def names : List String :=
  (all.map name).mergeSort fun a b => !(b < a)

/-- How blocks of a type are connected. -/
def kind : BlockType → BlockKind
  | start => .entry
  | syncError | ifStmt | elifStmt | elseStmt | whileStmt | forStmt | matchStmt | caseStmt
  | functionDef | classDef | varSet | assign | annAssign | augAssign | exprStmt | passStmt
  | returnStmt | breakStmt | continueStmt | importStmt | tryStmt | withStmt | assertStmt
  | raiseStmt | deleteStmt | globalStmt | nonlocalStmt | printStmt | waitStmt => .statement
  | _ => .expression

end BlockType

end BlockText

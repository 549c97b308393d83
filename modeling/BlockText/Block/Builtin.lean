import BlockText.Block.Basic
import BlockText.Syntax.Expr

/-!
# Calls with a block of their own

A call of certain names without keyword arguments, with as many arguments as the block has a
layout for, is shown as a dedicated block.  The block stands for exactly that call.
-/

namespace BlockText

/-- A call with a block of its own. -/
structure BuiltinCall where
  type : BlockType
  /-- The names that can be called. -/
  callees : List String
  /-- Numbers of arguments and the slots for them. -/
  layouts : List (Nat × List String) := []
  /-- The field that holds the name if there are several. -/
  calleeField : Option String := none
  /-- The stem of the slots if any number of arguments from `least` on will do. -/
  stem : Option String := none
  least : Nat := 0
  /-- The call is a statement. -/
  isStatement : Bool := false

namespace BuiltinCall

/-- The block takes this many arguments. -/
def accepts (b : BuiltinCall) (arity : Int) : Bool :=
  match b.stem with
  | some _ => arity ≥ b.least
  | none => b.layouts.any fun l => (l.1 : Int) == arity

/-- The slots for a number of arguments. -/
def slotsFor? (b : BuiltinCall) (arity : Int) : Option (List String) :=
  match b.stem with
  | some stem => some (indexed stem arity.toNat)
  | none => (b.layouts.find? fun l => (l.1 : Int) == arity).map (·.2)

/-- The largest number of arguments whose slots are all filled, or else the smallest one. -/
def arityFor (b : BuiltinCall) (filled : List String) : Except Fault Nat :=
  match b.layouts.reverse.find? fun l => l.2.all filled.contains, b.layouts with
  | some l, _ => .ok l.1
  | none, least :: _ => .ok least.1
  | none, [] => .error .noLeast

/-- All calls with a block of their own; layouts are in increasing order. -/
def all : List BuiltinCall :=
  [{ type := .printStmt, callees := ["print"], layouts := [(1, ["VALUE"])], isStatement := true },
   { type := .waitStmt, callees := ["sleep"], layouts := [(1, ["VALUE"])], isStatement := true },
   { type := .random, callees := ["random"], layouts := [(0, [])] },
   { type := .round, callees := ["round"], layouts := [(1, ["VALUE"])] },
   { type := .range, callees := ["range"],
     layouts := [(1, ["STOP"]), (2, ["START", "STOP"]), (3, ["START", "STOP", "STEP"])] },
   { type := .len, callees := ["len"], layouts := [(1, ["OBJ"])] },
   { type := .input, callees := ["input"], layouts := [(0, []), (1, ["PROMPT"])] },
   { type := .typeConvert,
     callees := ["int", "float", "str", "bool", "list", "tuple", "dict", "set"],
     layouts := [(1, ["VALUE"])], calleeField := some "type" },
   { type := .enumerate, callees := ["enumerate"],
     layouts := [(1, ["ITERABLE"]), (2, ["ITERABLE", "START"])] },
   { type := .zip, callees := ["zip"], stem := some "ITER", least := 2 },
   { type := .sorted, callees := ["sorted"], layouts := [(1, ["ITERABLE"])] },
   { type := .reversed, callees := ["reversed"], layouts := [(1, ["ITERABLE"])] },
   { type := .mathFunc, callees := ["abs", "min", "max", "sum"], layouts := [(1, ["VALUE"])],
     calleeField := some "func" },
   { type := .isInstance, callees := ["isinstance"], layouts := [(2, ["OBJ", "TYPE"])] },
   { type := .typeCheck, callees := ["type"], layouts := [(1, ["OBJ"])] }]

/-- The call that blocks of a type stand for. -/
def ofType? (t : BlockType) : Option BuiltinCall :=
  all.find? fun b => b.type == t

/-- The dedicated block for a call, as a statement or as an expression. -/
def match? (func : Syntax.Expr) (arity : Nat) (hasKeywords isStatement : Bool) :
    Option BuiltinCall :=
  match func, hasKeywords with
  | .identifier (.text name) _, false =>
    all.find? fun b =>
      b.isStatement == isStatement && b.callees.contains name && b.accepts arity
  | _, _ => none

/-- The name that a block calls; `none` if its field holds no name that it can call. -/
def calleeOf? (b : BuiltinCall) (field : Datum) : Option String :=
  match b.calleeField with
  | none => b.callees.head?
  | some _ => field.text?.filter b.callees.contains

end BuiltinCall

end BlockText

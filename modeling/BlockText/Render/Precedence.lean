import BlockText.Syntax.Expr

/-!
# Binding strength

How strongly the outermost construct of an expression binds, as a number:

* -1 for `yield`, 0 for `lambda`, 1 for a conditional, 2 for `or`, 3 for `and`, 4 for `not`,
* 5 for comparisons, 6 to 11 for `|`, `^`, `&`, shifts, sums and products, 12 for unary signs,
* 13 for powers, 14 for `await`, 15 for calls, attributes and subscripts, 16 for atoms.

An operand that binds less strongly than its place requires is put in parentheses.
-/

namespace BlockText.Render

open Syntax

/-- The strength of an operand that may be any expression. -/
def anyStrength : Int := -1

/-- The strength of an operand that may be any expression but `yield`. -/
def lambdaStrength : Int := 0

/-- The strength of a conditional expression. -/
def conditionalStrength : Int := 1

/-- The strength of a disjunction. -/
def orStrength : Int := 2

/-- The strength of a negation. -/
def notStrength : Int := 4

/-- The strength of a comparison. -/
def compareStrength : Int := 5

/-- The strength of the loosest bitwise operator. -/
def bitOrStrength : Int := 6

/-- The strength of a signed operand. -/
def unaryStrength : Int := 12

/-- The strength of the left operand of a power. -/
def awaitStrength : Int := 14

/-- The strength of something that is called or subscripted. -/
def postfixStrength : Int := 15

/-- The strength of an atom. -/
def atomStrength : Int := 16

/-- The strength of a binary operator. -/
def binaryStrength : BinaryOp → Int
  | .bitOr => 6
  | .bitXor => 7
  | .bitAnd => 8
  | .shiftLeft | .shiftRight => 9
  | .add | .sub => 10
  | .mul | .div | .floorDiv | .mod | .matMul => 11
  | .pow => 13

/-- The strength of a unary operator. -/
def unaryOpStrength : UnaryOp → Int
  | .not => notStrength
  | .neg | .pos | .invert => unaryStrength

/-- The strength of a short-circuit operator. -/
def boolStrength : BoolOp → Int
  | .and => 3
  | .or => orStrength

/-- How strongly the outermost construct of an expression binds. -/
def strength : Expr → Int
  | .binary _ op _ _ => binaryStrength op
  | .unary op _ _ => unaryOpStrength op
  | .compare .. => compareStrength
  | .boolOp op _ _ => boolStrength op
  | .conditional .. => conditionalStrength
  | .lambda .. => lambdaStrength
  | .yield .. | .yieldFrom .. => anyStrength
  | .await .. => awaitStrength
  | .call .. | .attribute .. | .subscript .. => postfixStrength
  | _ => atomStrength

end BlockText.Render

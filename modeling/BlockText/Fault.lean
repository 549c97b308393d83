import BlockText.Datum.Display
import BlockText.Text.Basic

/-!
# Faults

Why an operation does not apply to loosely typed data.  A fault belongs to one of four
categories, which decide who may contain it, and has one wording.
-/

namespace BlockText

/-- What kind of mismatch a fault is. -/
inductive FaultCategory
  /-- The type is right but the value is not. -/
  | value
  /-- The type is wrong. -/
  | type
  /-- The operation does not exist for the type. -/
  | attribute
  /-- A look-up failed. -/
  | key
  deriving DecidableEq

/-- Why an operation does not apply to a datum. -/
inductive Fault
  /-- A text that is no integer. -/
  | notInteger (shown : String)
  /-- A datum of a type that denotes no number. -/
  | notNumber (type : String)
  /-- A datum that is not a value of a vocabulary. -/
  | notChoice (shown : String) (vocabulary : String)
  /-- A datum of a type that cannot be a member of a set or a key. -/
  | notHashable (type : String)
  /-- Data of two types that have no order between them. -/
  | notOrdered (left right : String)
  /-- Something of another type was to be put after a text. -/
  | notAppendable (type : String)
  /-- A text was to be put after something of another type. -/
  | notExtendable (type : String)
  /-- Something of another type stands among texts to be joined. -/
  | notJoinable (index : Nat) (type : String)
  /-- A type without the named operation or part. -/
  | noOperation (type name : String)
  /-- A datum that has no items. -/
  | notIterable (type : String)
  /-- A datum without a length. -/
  | noLength (type : String)
  /-- The least of no numbers. -/
  | noLeast
  /-- A document whose class name is unknown. -/
  | unknownClass (shown : String)
  /-- A document without fields that its class requires. -/
  | missingFields (tag : String) (names : List String)
  /-- A key that is not in a table. -/
  | unknownKey (shown : String)
  deriving DecidableEq

namespace Fault

/-- The category of a fault. -/
def category : Fault → FaultCategory
  | notInteger _ | notChoice _ _ | unknownClass _ | noLeast => .value
  | notNumber _ | notHashable _ | notOrdered _ _ | notAppendable _ | notExtendable _
  | notJoinable _ _ | notIterable _ | noLength _ | missingFields _ _ => .type
  | noOperation _ _ => .attribute
  | unknownKey _ => .key

/-- Quoted names with commas between them and `and` before the last. -/
def enumeration : List String → String
  | [] => ""
  | [a] => s!"'{a}'"
  | [a, b] => s!"'{a}' and '{b}'"
  | names =>
    Text.join ", " (names.dropLast.map fun a => s!"'{a}'") ++ ", and '" ++ names.getLastD "" ++ "'"

/-- The wording of a fault. -/
def message : Fault → String
  | notInteger shown =>
    "invalid literal for int() with base 10: " ++ String.ofList (shown.toList.take 200)
  | notNumber type =>
    "int() argument must be a string, a bytes-like object or a real number, not '" ++ type ++ "'"
  | notChoice shown vocabulary => s!"{shown} is not a valid {vocabulary}"
  | notHashable type => s!"unhashable type: '{type}'"
  | notOrdered left right =>
    s!"'<' not supported between instances of '{left}' and '{right}'"
  | notAppendable type => s!"can only concatenate str (not \"{type}\") to str"
  | notExtendable type =>
    if type == "list" then "can only concatenate list (not \"str\") to list"
    else s!"unsupported operand type(s) for +: '{type}' and 'str'"
  | notJoinable index type => s!"sequence item {index}: expected str instance, {type} found"
  | noOperation type name => s!"'{type}' object has no attribute '{name}'"
  | notIterable type => s!"'{type}' object is not iterable"
  | noLength type => s!"object of type '{type}' has no len()"
  | noLeast => "min() arg is an empty sequence"
  | unknownClass shown => s!"Unknown IR node class '{shown}'"
  | missingFields tag names =>
    let noun := if names.length == 1 then "argument" else "arguments"
    s!"{tag}.__init__() missing {names.length} required positional {noun}: " ++ enumeration names
  | unknownKey shown => shown

end Fault

namespace Datum

/-- The integer that a datum denotes: a number without its fraction, or the reading of a text. -/
def toInteger : Datum → Except Fault Int
  | bool b => .ok (if b then 1 else 0)
  | int n => .ok n
  | float d => .ok d.truncate
  | text s =>
    match Text.readInteger? s with
    | some n => .ok n
    | none => .error (.notInteger (Text.quoted s))
  | surrogates t => .error (.notInteger (Text.quotedPoints t.points))
  | d => .error (.notNumber d.typeWord)

/-- The text that a datum is, for an operation that exists on texts only. -/
def textFor (operation : String) (d : Datum) : Except Fault (List CodePoint) :=
  match d.points? with
  | some ps => .ok ps
  | none => .error (.noOperation d.typeWord operation)

end Datum

end BlockText

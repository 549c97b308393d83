import BlockText.Datum.Tag
import BlockText.Decimal
import BlockText.Text.CodePoint

/-!
# Data of documents and block fields

A datum is JSON data in which objects of the program vocabulary appear as typed records.  Block
fields hold data without records; a program document is a record.  A text is a `String`, or a
`SurrogateText` if an escape put a surrogate into it; `ofPoints` and `points?` treat both alike.

Equality of data (`Datum.equiv`) is that of the values they denote: the truth values count as the
numbers 0 and 1, a number equals the same number written with decimal places, and the order of
the entries of an object does not matter.
-/

namespace BlockText

/-- JSON data with typed records. -/
inductive Datum
  | null
  | bool (b : Bool)
  | int (n : Int)
  | float (d : Decimal)
  | text (s : String)
  | surrogates (t : SurrogateText)
  | list (items : List Datum)
  | object (entries : List (String × Datum))
  | record (tag : Tag) (fields : List Datum)
  deriving Inhabited

namespace Datum

instance : Coe String Datum := ⟨text⟩

/-- The text with the given code points. -/
def ofPoints (ps : List CodePoint) : Datum :=
  match h : Text.ofPoints? ps with
  | some s => text s
  | none => surrogates ⟨ps, h⟩

/-- The code points of a text. -/
def points? : Datum → Option (List CodePoint)
  | text s => some (Text.points s)
  | surrogates t => some t.points
  | _ => none

/-- The number that a datum denotes, if it denotes one. -/
def number? : Datum → Option Decimal
  | bool b => some (.ofInt (if b then 1 else 0))
  | int n => some (.ofInt n)
  | float d => some d
  | _ => none

/-- A datum that counts as false: nothing, false, zero, or something empty. -/
def isFalsy : Datum → Bool
  | null => true
  | bool b => !b
  | int n => n == 0
  | float d => d.mantissa == 0
  | text s => s.isEmpty
  | surrogates _ => false
  | list items => items.isEmpty
  | object entries => entries.isEmpty
  | record _ _ => false

/-- A datum that counts as true. -/
def isTruthy (d : Datum) : Bool := !d.isFalsy

/-- The datum, or another one if it counts as false. -/
def orElse (d other : Datum) : Datum :=
  if d.isFalsy then other else d

/-- The datum is nothing. -/
def isNull : Datum → Bool
  | null => true
  | _ => false

/-- The text that a datum is, if it consists of characters. -/
def text? : Datum → Option String
  | text s => some s
  | _ => none

/-- The entry of an object with the given key. -/
def get? (key : String) : Datum → Option Datum
  | object entries => (entries.find? (·.1 == key)).map (·.2)
  | _ => none

/-- An optional text as a datum. -/
def ofText? : Option String → Datum
  | some s => text s
  | none => null

mutual

/-- Equality of the values that two data denote. -/
def equiv : Datum → Datum → Bool
  | null, null => true
  | text s, text t => s == t
  | surrogates s, surrogates t => s == t
  | list xs, list ys => equivList xs ys
  | object xs, object ys => xs.length == ys.length && equivEntries xs ys
  | record t xs, record u ys => t == u && equivList xs ys
  | x, y =>
    match x.number?, y.number? with
    | some a, some b => a.equal b
    | _, _ => false

/-- Equality item by item. -/
def equivList : List Datum → List Datum → Bool
  | [], [] => true
  | x :: xs, y :: ys => equiv x y && equivList xs ys
  | _, _ => false

/-- Every entry has an equal one under its key. -/
def equivEntries : List (String × Datum) → List (String × Datum) → Bool
  | [], _ => true
  | (k, x) :: xs, ys =>
    (match ys.find? (·.1 == k) with
      | some (_, y) => equiv x y
      | none => false) && equivEntries xs ys

end

end Datum

/-- Writes an entry: an existing key keeps its place, a new one goes to the end. -/
def putEntry {α : Type} (entries : List (String × α)) (key : String) (value : α) :
    List (String × α) :=
  if entries.any (·.1 == key) then entries.map fun e => if e.1 == key then (key, value) else e
  else entries ++ [(key, value)]

/-- The value under a key. -/
def entryAt? {α : Type} (entries : List (String × α)) (key : String) : Option α :=
  (entries.find? (·.1 == key)).map (·.2)

/-- The entries without a key. -/
def dropEntry {α : Type} (entries : List (String × α)) (key : String) : List (String × α) :=
  entries.filter (·.1 != key)

end BlockText

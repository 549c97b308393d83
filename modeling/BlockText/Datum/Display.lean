import BlockText.Datum.Schema

/-!
# Data in messages

How messages show a datum: a text as it is (`display`) or between quotes (`show`), nothing as
`None`, the truth values as `True` and `False`, lists and objects item by item.  A surrogate
stands as its escape in both.
-/

namespace BlockText.Datum

/-- The word that messages use for the type of a datum. -/
def typeWord : Datum → String
  | null => "NoneType"
  | bool _ => "bool"
  | int _ => "int"
  | float _ => "float"
  | text _ | surrogates _ => "str"
  | list _ => "list"
  | object _ => "dict"
  | record tag _ => tag.name

mutual

/-- A datum with its texts between quotes. -/
def inspect : Datum → String
  | null => "None"
  | bool b => if b then "True" else "False"
  | int n => toString n
  | float d => d.display
  | text s => Text.quoted s
  | surrogates t => Text.quotedPoints t.points
  | list items => "[" ++ Text.join ", " (inspectList items) ++ "]"
  | object entries => "\x7b" ++ Text.join ", " (inspectEntries entries) ++ "\x7d"
  | record tag fields =>
    tag.name ++ "(" ++ Text.join ", " (inspectFields (tag.fields.map (·.name)) fields) ++ ")"

/-- The items of a list. -/
def inspectList : List Datum → List String
  | [] => []
  | d :: rest => inspect d :: inspectList rest

/-- The entries of an object. -/
def inspectEntries : List (String × Datum) → List String
  | [] => []
  | (key, d) :: rest => (Text.quoted key ++ ": " ++ inspect d) :: inspectEntries rest

/-- The fields of a record under their names. -/
def inspectFields : List String → List Datum → List String
  | _, [] => []
  | names, d :: rest => (names.headD "" ++ "=" ++ inspect d) :: inspectFields names.tail rest

end

/-- A datum as part of a running text. -/
def display : Datum → String
  | text s => s
  | surrogates t => Text.shownPoints t.points
  | d => d.inspect

/-- A datum as a text of its own. -/
def displayed (d : Datum) : List CodePoint :=
  d.points?.getD (Text.points d.display)

end BlockText.Datum

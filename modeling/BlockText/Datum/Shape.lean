import BlockText.Datum.Codec

/-!
# The shape of a document

What remains of a document without information records and without statements that hold no code:
the structure and the literal content.  Two documents are structurally equal if their shapes
denote equal data.
-/

namespace BlockText.Datum

/-- An object whose class is that of statements without code. -/
def isEmptyStatement : Datum → Bool
  | object entries =>
    match entryAt? entries tagKey with
    | some (text s) => s == Tag.empty.name
    | _ => false
  | _ => false

mutual

/-- Plain data without information entries and without empty statements in lists. -/
def strip : Datum → Datum
  | object entries => object (stripEntries entries)
  | list items => list (stripList items)
  | d => d

/-- The entries of an object, without information. -/
def stripEntries : List (String × Datum) → List (String × Datum)
  | [] => []
  | (key, d) :: rest =>
    if key == "meta" then stripEntries rest else (key, strip d) :: stripEntries rest

/-- The items of a list, without empty statements. -/
def stripList : List Datum → List Datum
  | [] => []
  | d :: rest => if d.isEmptyStatement then stripList rest else strip d :: stripList rest

end

/-- Entries of a program that describe how it is rendered. -/
def renderingKeys : List String := ["dirty", "source", "indent_width"]

/-- The shape of a document; of a program, without what only rendering looks at. -/
def shape (d : Datum) : Datum :=
  match d, d.plain with
  | record .program _, object entries =>
    strip (object (entries.filter fun e => !renderingKeys.contains e.1))
  | _, p => strip p

/-- Equal shapes. -/
def structurallyEqual (a b : Datum) : Bool := a.shape.equiv b.shape

end BlockText.Datum

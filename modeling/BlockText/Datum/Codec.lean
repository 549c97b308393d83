import BlockText.Fault

/-!
# Documents

A program document is plain JSON: every record is an object with its class name under `node` and
all its fields under their names.  Reading checks little: unknown keys are dropped, missing
fields take their defaults, and an object without a class name stays what it is.  Fields are read
in the order of the class, and a fault inside a field comes before a missing field.
-/

namespace BlockText.Datum

/-- The key that holds the class name of a record. -/
def tagKey : String := "node"

mutual

/-- The plain data of a datum. -/
def plain : Datum → Datum
  | null => null
  | bool b => bool b
  | int n => int n
  | float d => float d
  | text s => text s
  | surrogates t => surrogates t
  | list items => list (plainList items)
  | object entries => object entries
  | record tag fields =>
    object ((tagKey, text tag.name) :: plainFields (tag.fields.map (·.name)) fields)

/-- The plain data of list items. -/
def plainList : List Datum → List Datum
  | [] => []
  | d :: rest => plain d :: plainList rest

/-- The plain data of fields, each under its name. -/
def plainFields : List String → List Datum → List (String × Datum)
  | name :: names, d :: rest => (name, plain d) :: plainFields names rest
  | _, _ => []

end

/-- A value of a vocabulary. -/
def checkChoice (vocabulary : Vocabulary) (d : Datum) : Except Fault Datum :=
  match d with
  | text s =>
    if vocabulary.spellings.contains s then .ok d
    else .error (.notChoice d.inspect vocabulary.name)
  | _ => .error (.notChoice d.inspect vocabulary.name)

/-- The class that a document names. -/
def tagOf (entries : List (String × Datum)) : Except Fault Tag :=
  match (entryAt? entries tagKey).getD null with
  | text s =>
    match Tag.ofName? s with
    | some tag => .ok tag
    | none => .error (.unknownClass s)
  | list _ => .error (.notHashable "list")
  | object _ => .error (.notHashable "dict")
  | d => .error (.unknownClass d.display)

/-- The fields of a record: those that were read, and the defaults of the others. -/
def assemble (tag : Tag) (given : List (String × Datum)) : Except Fault Datum :=
  let missing := tag.fields.filter fun f => f.default?.isNone && (entryAt? given f.name).isNone
  if missing.isEmpty then
    .ok (record tag (tag.fields.map fun f =>
      ((entryAt? given f.name).or f.default?).getD null))
  else .error (.missingFields tag.name (missing.map (·.name)))

mutual

/-- Reads the value of a field. -/
def readValue (rule : FieldRule) : Datum → Except Fault Datum
  | null => .ok null
  | list items =>
    match rule with
    | .choices vocabulary => list <$> readItems (.choice vocabulary) items
    | _ => list <$> readItems .any items
  | object entries =>
    if entries.any (·.1 == tagKey) then readEntries entries
    else
      match rule with
      | .choice vocabulary => checkChoice vocabulary (object entries)
      | _ => .ok (object entries)
  | d =>
    match rule with
    | .choice vocabulary => checkChoice vocabulary d
    | _ => .ok d
termination_by d => 2 * sizeOf d
decreasing_by all_goals simp +arith

/-- Reads the items of a list. -/
def readItems (rule : FieldRule) : List Datum → Except Fault (List Datum)
  | [] => .ok []
  | d :: rest => do
    let first ← readValue rule d
    let others ← readItems rule rest
    return first :: others
termination_by ds => 2 * sizeOf ds
decreasing_by all_goals simp +arith

/-- Reads a document from the entries of its object. -/
def readEntries (entries : List (String × Datum)) : Except Fault Datum := do
  let tag ← tagOf entries
  -- every entry is read once, and faults count in the order of the class
  let results := readEach tag entries
  let given ← tag.fields.filterMapM fun f =>
    match results.find? (·.1 == f.name) with
    | some (_, result) => do return some (f.name, ← result)
    | none => .ok none
  assemble tag given
termination_by 2 * sizeOf entries + 1
decreasing_by all_goals simp +arith

/-- Reads every entry by the rule of its field. -/
def readEach (tag : Tag) : List (String × Datum) → List (String × Except Fault Datum)
  | [] => []
  | (key, d) :: rest =>
    let rule := ((tag.fields.find? (·.name == key)).map (·.rule)).getD .any
    (key, readValue rule d) :: readEach tag rest
termination_by es => 2 * sizeOf es
decreasing_by all_goals simp +arith

end

/-- Reads a document: an object that names its class. -/
def ofPlain : Datum → Except Fault Datum
  | object entries => readEntries entries
  | d => .error (.noOperation d.typeWord "get")

end BlockText.Datum

import BlockText.Block.Basic
import BlockText.Syntax.Info

/-!
# Workspaces

A workspace holds blocks, the connections between their ports, where the blocks lie, what is
selected, and which stretch of text each statement block came from.  A connection for a value runs
from the output of a block to a slot, and one for statements from a slot, or from the end of the
statement before, to the top of a block.  All connections are in one list, and those at a port in a
list of their own, which every operation keeps in step with the first.
-/

namespace BlockText

/-- The name of a block in its workspace. -/
abbrev BlockId := String

/-- What a connection carries. -/
inductive EdgeKind
  | value
  | statement
  deriving DecidableEq

/-- The name of a kind of connection in snapshots. -/
def EdgeKind.label : EdgeKind → String
  | value => "value"
  | statement => "statement"

/-- A port of a block. -/
structure Port where
  block : BlockId
  name : String
  deriving DecidableEq

/-- A connection from a port of one block to a port of another. -/
structure Edge where
  source : BlockId
  sourcePort : String
  target : BlockId
  targetPort : String
  kind : EdgeKind
  deriving DecidableEq

namespace Edge

/-- A value plugged into a slot. -/
def ofValue (child parent : BlockId) (slot : String) : Edge :=
  ⟨child, "output", parent, slot, .value⟩

/-- A statement held by a slot, or following another statement. -/
def ofStatement (parent : BlockId) (slot : String) (child : BlockId) : Edge :=
  ⟨parent, slot, child, "previous", .statement⟩

/-- The port from which the connection leaves. -/
def start (e : Edge) : Port := ⟨e.source, e.sourcePort⟩

/-- The port at which the connection arrives. -/
def stop (e : Edge) : Port := ⟨e.target, e.targetPort⟩

/-- The connection has an end at a block. -/
def touches (e : Edge) (id : BlockId) : Bool :=
  e.source == id || e.target == id

/-- The connection as text. -/
def display (e : Edge) : String :=
  s!"Edge({e.source}.{e.sourcePort} -> {e.target}.{e.targetPort})"

end Edge

/-! ## Connections by port -/

/-- The connections that a list by port has for a port. -/
def listedAt : List (Port × List Edge) → Port → List Edge
  | [], _ => []
  | (q, es) :: rest, p => if q = p then es else listedAt rest p

/-- The list by port with another list of connections for one port. -/
def relist (f : List Edge → List Edge) (p : Port) :
    List (Port × List Edge) → List (Port × List Edge)
  | [] => [(p, f [])]
  | (q, es) :: rest => if q = p then (q, f es) :: rest else (q, es) :: relist f p rest

@[simp] theorem listedAt_relist (f : List Edge → List Edge) (p q : Port)
    (index : List (Port × List Edge)) :
    listedAt (relist f p index) q = if p = q then f (listedAt index p) else listedAt index q := by
  induction index with
  | nil => by_cases h : p = q <;> simp [relist, listedAt, h]
  | cons entry rest ih =>
    obtain ⟨r, es⟩ := entry
    by_cases hr : r = p
    · by_cases h : p = q <;> simp [relist, listedAt, hr, h]
    · by_cases h : r = q
      · subst h
        have hpr : p ≠ r := fun he => hr he.symm
        simp [relist, listedAt, hr, hpr]
      · simp [relist, listedAt, hr, h, ih]

/-- What a filter keeps of a list without one connection. -/
theorem filter_erase_edge (keep : Edge → Bool) (e : Edge) (es : List Edge) :
    (es.erase e).filter keep = if keep e then (es.filter keep).erase e else es.filter keep := by
  induction es with
  | nil => simp
  | cons f rest ih =>
    by_cases hf : f = e
    · subst hf
      by_cases hk : keep f <;> simp [hk]
    · by_cases hk : keep e <;> by_cases hkf : keep f <;>
        simp [hk, hkf, hf, ih]

/-- Without connections none arrives at a port. -/
theorem listedAt_arriving_nil (p : Port) :
    listedAt [] p = ([] : List Edge).filter (·.stop = p) := rfl

/-- Without connections none leaves from a port. -/
theorem listedAt_leaving_nil (p : Port) :
    listedAt [] p = ([] : List Edge).filter (·.start = p) := rfl

/-- The connections of a workspace: all of them in the order in which they were made, and those at
each port. -/
structure Links where
  edges : List Edge := []
  /-- The connections that arrive at a port. -/
  arriving : List (Port × List Edge) := []
  /-- The connections that leave from a port. -/
  leaving : List (Port × List Edge) := []
  listedAt_arriving : ∀ p, listedAt arriving p = edges.filter (·.stop = p) := by
    exact listedAt_arriving_nil
  listedAt_leaving : ∀ p, listedAt leaving p = edges.filter (·.start = p) := by
    exact listedAt_leaving_nil

namespace Links

/-- One more connection. -/
def add (l : Links) (e : Edge) : Links where
  edges := l.edges ++ [e]
  arriving := relist (· ++ [e]) e.stop l.arriving
  leaving := relist (· ++ [e]) e.start l.leaving
  listedAt_arriving p := by
    by_cases h : e.stop = p <;> simp [h, l.listedAt_arriving]
  listedAt_leaving p := by
    by_cases h : e.start = p <;> simp [h, l.listedAt_leaving]

/-- One connection less. -/
def remove (l : Links) (e : Edge) : Links where
  edges := l.edges.erase e
  arriving := relist (·.erase e) e.stop l.arriving
  leaving := relist (·.erase e) e.start l.leaving
  listedAt_arriving p := by
    by_cases h : e.stop = p <;> simp [h, filter_erase_edge, l.listedAt_arriving]
  listedAt_leaving p := by
    by_cases h : e.start = p <;> simp [h, filter_erase_edge, l.listedAt_leaving]

/-- Without the given connections. -/
def removeAll (l : Links) (es : List Edge) : Links := es.foldl remove l

end Links

/-- What happened to a workspace. -/
inductive EventType
  | create
  | delete
  | change
  | move
  | ui
  | viewportChange
  | toolboxItemSelect
  | click
  | selected
  deriving DecidableEq

instance : Syntax.Choice EventType where
  vocabulary := "EventType"
  values := [.create, .delete, .change, .move, .ui, .viewportChange, .toolboxItemSelect, .click,
    .selected]
  spelling
    | .create => "create"
    | .delete => "delete"
    | .change => "change"
    | .move => "move"
    | .ui => "ui"
    | .viewportChange => "viewport_change"
    | .toolboxItemSelect => "toolbox_item_select"
    | .click => "click"
    | .selected => "selected"

/-- Events of this type never alter the program. -/
def EventType.isCosmetic : EventType → Bool
  | create | delete | change | move => false
  | ui | viewportChange | toolboxItemSelect | click | selected => true

/-- An event: its type, the block it is about, and details by name. -/
structure Event where
  type : EventType
  block : Option BlockId := none
  details : List (String × Datum) := []

/-- A place on the canvas; `y` grows downward. -/
structure Point where
  x : Decimal := 0
  y : Decimal := 0
  deriving DecidableEq

/-- The sum of two places as vectors. -/
def Point.add (p q : Point) : Point := ⟨p.x + q.x, p.y + q.y⟩

instance : Add Point := ⟨Point.add⟩

/-- One place comes before another from top to bottom, then from left to right. -/
def Point.before (p q : Point) : Bool :=
  p.y.lt q.y || (p.y.equal q.y && p.x.lt q.x)

/-- The visible part of the canvas. -/
structure Viewport where
  scrollX : Decimal := 0
  scrollY : Decimal := 0
  scale : Decimal := 1
  deriving DecidableEq

/-- A workspace. -/
structure Workspace where
  /-- The blocks in the order in which they were created. -/
  blocks : List (BlockId × Block) := []
  links : Links := {}
  positions : List (BlockId × Point) := []
  viewport : Viewport := {}
  selected : Option BlockId := none
  /-- The declared variables as they were last determined. -/
  variableNames : List Datum := []
  /-- The declared functions, with their numbers of parameters, as they were last determined. -/
  functions : List (Datum × Int) := []
  /-- How often events have been switched off and not yet on again. -/
  muted : Nat := 0
  /-- The number in the name that was given last. -/
  serial : Nat := 0
  /-- The text from which statement blocks came. -/
  spans : List (BlockId × Syntax.Span) := []
  /-- The document that the blocks show, if it is known. -/
  installed : Option String := none
  /-- How often the blocks have been replaced by those of a program. -/
  rebuilds : Nat := 0
  /-- Somebody follows the edits: each one updates the declared names and makes the workspace
  forget which document it shows. -/
  watched : Bool := false
  /-- The events that were delivered, in order. -/
  events : List Event := []

/-- The connections in the order in which they were made. -/
def Workspace.edges (ws : Workspace) : List Edge := ws.links.edges

/-- Why an operation on a workspace is refused. -/
inductive WorkspaceError
  | notFound (id : BlockId)
  | unknownType (name : String)
  | duplicate (id : BlockId)
  | noValueSlot (type : BlockType) (slot : String)
  | notPluggable (type : BlockType)
  | noStatementSlot (type : BlockType) (slot : String)
  | notChainable (type : BlockType)
  | cycle (child parent : BlockId)
  | badCount (name : String) (value : Datum)
  /-- A tree holds something of this type where a construct of this sort should be. -/
  | noBlock (sort type : String)
  | fault (fault : Fault)

/-- The wording of an error. -/
def WorkspaceError.message : WorkspaceError → String
  | notFound id => s!"Node '{id}' not found"
  | unknownType name => s!"Unknown node type '{name}'"
  | duplicate id => s!"Node with id '{id}' already exists in the graph"
  | noValueSlot type slot => s!"Node '{type.name}' has no value slot '{slot}'"
  | notPluggable type => s!"Node '{type.name}' cannot be plugged into a value slot"
  | noStatementSlot type slot => s!"Node '{type.name}' has no statement slot '{slot}'"
  | notChainable type => s!"Node '{type.name}' cannot be chained as a statement"
  | cycle child parent => s!"Connecting '{child}' under '{parent}' would create a cycle"
  | badCount name value =>
    s!"Field '{name}' must be a non-negative integer, got {value.inspect}"
  | noBlock sort type => s!"No block for {sort} {type}"
  | fault f => f.message

end BlockText

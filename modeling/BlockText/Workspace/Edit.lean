import BlockText.Workspace.Declared

/-!
# Editing a workspace

An edit changes a workspace and may be refused; what it changed before it was refused stays.
Every edit that alters something delivers an event, unless events are switched off.
-/

namespace BlockText

/-! ## Changes -/

namespace Workspace

/-- Without some connections. -/
def drop (ws : Workspace) (es : List Edge) : Workspace :=
  { ws with links := ws.links.removeAll es }

/-- With one more connection. -/
def connect (ws : Workspace) (e : Edge) : Workspace :=
  { ws with links := ws.links.add e }

/-- With another state of a block. -/
def put (ws : Workspace) (id : BlockId) (b : Block) : Workspace :=
  { ws with blocks := putEntry ws.blocks id b }

/-- With a block at a place. -/
def moved (ws : Workspace) (id : BlockId) (spot : Point) : Workspace :=
  { ws with positions := putEntry ws.positions id spot }

/-- With a new block. -/
def grow (ws : Workspace) (id : BlockId) (b : Block) (spot : Point) : Workspace :=
  { ws with
    blocks := ws.blocks ++ [(id, b)]
    positions := putEntry ws.positions id spot }

/-- Without a block and its connections. -/
def without (ws : Workspace) (id : BlockId) : Workspace :=
  { ws with
    blocks := dropEntry ws.blocks id
    links := ws.links.removeAll (ws.edges.filter (·.touches id))
    positions := dropEntry ws.positions id
    selected := ws.selected.filter (· != id) }

end Workspace

/-! ## Edits -/

/-- An operation on a workspace. -/
abbrev Edit := ExceptT WorkspaceError (StateM Workspace)

namespace Edit

/-- Refuses an edit under a condition. -/
def refuseIf (condition : Bool) (e : WorkspaceError) : Edit Unit :=
  if condition then throw e else pure ()

/-! ## Events -/

/-- An operation on data as part of an edit. -/
def ofFault {α : Type} (x : Except Fault α) : Edit α :=
  match x with
  | .ok a => pure a
  | .error f => throw (.fault f)

/-- Determines the declared names anew. -/
def refreshDeclared : Edit Unit := do
  let variableNames ← ofFault (← get).declaredVariables
  modify fun ws => { ws with variableNames }
  let functions ← ofFault (← get).declaredFunctions
  modify fun ws => { ws with functions }

/-- Delivers an event.  If somebody follows the edits, they take note of it first. -/
def fire (type : EventType) (block : Option BlockId := none)
    (details : List (String × Datum) := []) : Edit Unit := do
  let ws ← get
  if ws.muted == 0 then
    if ws.watched && !type.isCosmetic then
      modify fun ws => { ws with installed := none }
      refreshDeclared
    modify fun ws => { ws with events := ws.events ++ [⟨type, block, details⟩] }

/-- Switches events off. -/
def mute : Edit Unit := modify fun ws => { ws with muted := ws.muted + 1 }

/-- Switches events on again, as often as they were switched off. -/
def unmute : Edit Unit := modify fun ws => { ws with muted := ws.muted - 1 }

/-- Runs an edit without events, also if it is refused. -/
def quietly {α : Type} (x : Edit α) : Edit α :=
  ExceptT.mk do
    modify fun ws => { ws with muted := ws.muted + 1 }
    let r ← x.run
    modify fun ws => { ws with muted := ws.muted - 1 }
    return r

/-! ## Blocks -/

/-- The block with a name. -/
def require (id : BlockId) : Edit Block := do
  match (← get).block? id with
  | some b => return b
  | none => throw (.notFound id)

/-- The workspace has all these blocks. -/
def requireAll (ids : List BlockId) : Edit Unit := ids.forM fun id => discard (require id)

/-- A name that no block has. -/
def freshId : Edit BlockId := do
  let ws ← get
  let candidates := (List.range (ws.blocks.length + 1)).map (ws.serial + 1 + ·)
  let serial := (candidates.find? fun n => !ws.has s!"n{n}").getD (ws.serial + 1)
  set { ws with serial }
  return s!"n{serial}"

/-- Adds a block under a name. -/
def place (id : BlockId) (type : BlockType) (spot : Point) : Edit Unit := do
  let ws ← get
  refuseIf (ws.has id) (.duplicate id)
  set (ws.grow id (Block.ofType type) spot)
  fire .create (some id) [("type", .text type.name)]

/-- Adds a block under a new name. -/
def create (type : BlockType) (spot : Point := {}) : Edit BlockId := do
  let id ← freshId
  place id type spot
  return id

/-- The given name, or else one that no block has. -/
def idOrFresh : Option BlockId → Edit BlockId
  | some id => pure id
  | none => freshId

/-- Adds a block of a type that is given by its name. -/
def placeNamed (id : BlockId) (typeName : String) (spot : Point) : Edit Unit :=
  match BlockType.ofName? typeName with
  | some type => place id type spot
  | none => throw (.unknownType typeName)

/-- Adds a block of a type that is given by its name.  A new name for the block is used up even if
there is no such type. -/
def createNamed (typeName : String) (id : Option BlockId := none) (spot : Point := {}) :
    Edit BlockId := do
  let id ← idOrFresh id
  placeNamed id typeName spot
  return id

/-- Drops some connections. -/
def dropEdges (dropped : Workspace → List Edge) : Edit Unit :=
  modify fun ws => ws.drop (dropped ws)

/-- Makes a connection. -/
def addEdge (e : Edge) : Edit Unit :=
  modify (·.connect e)

/-- Takes a block out, with all its connections. -/
def remove (id : BlockId) : Edit Unit := modify (·.without id)

/-- Deletes a block with everything in its slots.  What follows it takes its place if `heal` is
set and is deleted with it otherwise.  `fuel` bounds the nesting. -/
def deleteWithin : Nat → BlockId → Bool → Edit Unit
  | 0, _, _ => pure ()
  | fuel + 1, id, heal => do
    let b ← require id
    let ws ← get
    let follower := if b.isStatement then ws.next? id else none
    let above := (ws.incoming id "previous").head?
    dropEdges fun ws => if follower.isSome then ws.outgoing id "next" else []
    (if heal then [] else follower.toList).forM fun next => deleteWithin fuel next false
    ((← get).slotChildren id b).forM fun child => deleteWithin fuel child false
    remove id
    fire .delete (some id)
    if let (true, some next, some e) := (heal, follower, above) then
      addEdge (.ofStatement e.source e.sourcePort next)

/-- Deletes a block with everything in its slots. -/
def delete (id : BlockId) (heal : Bool := true) : Edit Unit := do
  deleteWithin ((← get).blocks.length + 1) id heal

/-! ## Connections -/

/-- Refuses to put a block under itself. -/
def refuseCycle (child parent : BlockId) : Edit Unit := do
  refuseIf (((← get).upward parent).contains child) (.cycle child parent)

/-- Plugs a value into a slot; what was in the slot comes loose. -/
def connectValue (parent : BlockId) (slot : String) (child : BlockId) : Edit Edge := do
  let p ← require parent
  let c ← require child
  refuseIf (!p.hasValueSlot slot) (.noValueSlot p.type slot)
  refuseIf (!c.isExpression) (.notPluggable c.type)
  refuseCycle child parent
  let e := Edge.ofValue child parent slot
  dropEdges (·.outgoing child "output")
  dropEdges (·.incoming parent slot)
  addEdge e
  fire .move (some child) [("parent_id", .text parent), ("slot", .text slot)]
  return e

/-- Puts a chain of statements after the last one of another chain. -/
def putAfter (chain first : BlockId) : Edit Unit := do
  addEdge (.ofStatement ((← get).last chain) "next" first)

/-- Puts a chain of statements into a slot, or after a statement if the slot is `next`.  What was
there follows the chain. -/
def connectStatement (parent : BlockId) (slot : String) (child : BlockId) : Edit Edge := do
  let p ← require parent
  let c ← require child
  refuseIf (!p.hasStatementSlot slot) (.noStatementSlot p.type slot)
  refuseIf (!c.isStatement) (.notChainable c.type)
  refuseCycle child parent
  let e := Edge.ofStatement parent slot child
  dropEdges (·.incoming child "previous")
  let displaced := (← get).held? parent slot
  dropEdges (·.outgoing parent slot)
  addEdge e
  displaced.toList.forM (putAfter child)
  fire .move (some child) [("parent_id", .text parent), ("slot", .text slot)]
  return e

/-- Puts a chain of statements after a statement. -/
def connectNext (before after : BlockId) : Edit Edge :=
  connectStatement before "next" after

/-- Takes a block out of what holds it. -/
def unplug (id : BlockId) : Edit Unit := do
  let _ ← require id
  dropEdges (·.incoming id "previous")
  dropEdges (·.outgoing id "output")
  fire .move (some id) [("parent_id", .null)]

/-- Drops all connections at a port. -/
def detach (id : BlockId) (port : String) : Edit Unit := do
  dropEdges (·.incoming id port)
  dropEdges (·.outgoing id port)

/-! ## Fields -/

/-- The count that a value denotes: a natural number, or a text of digits. -/
def countValue (name : String) (value : Datum) : Edit Datum :=
  match value with
  | .text s =>
    let digits := Text.trim s
    if Text.isDigits digits then Datum.int <$> ofFault (Datum.text digits).toInteger
    else throw (.badCount name value)
  | .int n => if n < 0 then throw (.badCount name value) else pure value
  | _ => throw (.badCount name value)

/-- Replaces a block by another state of it. -/
def update (id : BlockId) (b : Block) : Edit Unit :=
  modify (·.put id b)

/-- Brings the slots and fields of a block in line with its counts.  What was in a slot that goes
comes loose. -/
def reshape (id : BlockId) (b : Block) : Edit Unit := do
  let shaped ← ofFault b.reshape
  (b.values.filter fun slot => !shaped.values.contains slot).forM (detach id)
  (b.statements.filter fun slot => !shaped.statements.contains slot).forM (detach id)
  update id shaped

/-- Writes a field without any check or event. -/
def writeField (id : BlockId) (name : String) (value : Datum) : Edit Unit := do
  update id ((← require id).writeField name value)

/-- A text block forgets how its text was spelled when the text or its delimiter changes. -/
def forgetSpelling (id : BlockId) (name : String) (value : Datum) : Edit Unit := do
  let b ← require id
  if b.type == .string && (name == "value" || name == "quote") && !(b.field name).equiv value then
    update id (b.writeField "raw" "")

/-- The value that is written to a field when a value is given: counts are checked. -/
def fieldValue (type : BlockType) (name : String) (value : Datum) : Edit Datum :=
  if type.isCount name then countValue name value else pure value

/-- Replaces a block by one in which a field was written; a count brings its slots with it. -/
def updateShaped (id : BlockId) (b : Block) (name : String) : Edit Unit := do
  update id b
  if b.type.isCount name then reshape id b

/-- Sets a field.  An equal value changes nothing, and a count brings its slots with it. -/
def setField (id : BlockId) (name : String) (value : Datum) : Edit Unit := do
  forgetSpelling id name value
  let b ← require id
  let value ← fieldValue b.type name value
  let old := b.field? name
  if !(old.any (·.equiv value)) then
    updateShaped id (b.writeField name value) name
    fire .change (some id)
      [("name", .text name), ("old_value", old.getD .null), ("new_value", value)]

/-! ## Layout and selection -/

/-- Moves a block to a place. -/
def move (id : BlockId) (spot : Point) : Edit Unit := do
  let _ ← require id
  modify (·.moved id spot)
  fire .move (some id) [("x", .float spot.x), ("y", .float spot.y)]

/-- Moves a block by a distance. -/
def moveBy (id : BlockId) (distance : Point) : Edit Unit := do
  move id ((← get).position id + distance)

/-- Shows another part of the canvas. -/
def setViewport (viewport : Viewport) : Edit Unit := do
  modify fun ws => { ws with viewport }
  fire .viewportChange

/-- The height of one statement on the canvas. -/
def rowHeight : Nat := 40

/-- The gap between two stacks of statements. -/
def stackGap : Nat := 48

/-- The places of stacks below each other, from `y` down. -/
def stackedFrom (ws : Workspace) (x : Decimal) (y : Decimal) : List BlockId → List (BlockId × Point)
  | [] => []
  | id :: rest =>
    (id, ⟨x, y⟩) ::
      stackedFrom ws x (y + Decimal.ofInt (ws.rows id * rowHeight + stackGap : Nat)) rest

/-- Stacks the blocks that nothing holds below each other, in their order. -/
def cleanUp (origin : Point := ⟨24, 24⟩) : Edit Unit :=
  modify fun ws => { ws with
    positions := (stackedFrom ws origin.x origin.y ws.orderedTops).foldl
      (fun positions (id, spot) => putEntry positions id spot) ws.positions }

/-- Removes everything. -/
def clear : Edit Unit := do
  let ids := (← get).ids
  modify fun ws => { ws with blocks := [], links := {}, positions := [], selected := none }
  ids.forM fun id => fire .delete (some id)

/-- Selects a block, or nothing. -/
def select (id : Option BlockId) : Edit Unit := do
  requireAll id.toList
  let old := (← get).selected
  modify fun ws => { ws with selected := id }
  fire .selected id [("old_value", Datum.ofText? old)]

end Edit

end BlockText

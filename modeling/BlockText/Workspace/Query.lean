import BlockText.Workspace.Basic

/-!
# Looking around in a workspace

Which block a slot holds, what follows a statement, what holds a block, and which blocks nothing
holds.  Walks along connections take at most as many steps as there are blocks.
-/

namespace BlockText.Workspace

/-- The block with a name. -/
def block? (ws : Workspace) (id : BlockId) : Option Block := entryAt? ws.blocks id

/-- The workspace has a block with this name. -/
def has (ws : Workspace) (id : BlockId) : Bool := ws.blocks.any (·.1 == id)

/-- The names of all blocks. -/
def ids (ws : Workspace) : List BlockId := ws.blocks.map (·.1)

/-- The blocks of a type. -/
def ofType (ws : Workspace) (type : BlockType) : List BlockId :=
  (ws.blocks.filter fun b => b.2.type == type).map (·.1)

/-- The connections that arrive at a port. -/
def incoming (ws : Workspace) (id : BlockId) (port : String) : List Edge :=
  listedAt ws.links.arriving ⟨id, port⟩

/-- The connections that leave from a port. -/
def outgoing (ws : Workspace) (id : BlockId) (port : String) : List Edge :=
  listedAt ws.links.leaving ⟨id, port⟩

/-- What a slot holds: a value, or the first of its statements. -/
def held? (ws : Workspace) (id : BlockId) (slot : String) : Option BlockId :=
  match (ws.incoming id slot).head? with
  | some e => some e.source
  | none => (ws.outgoing id slot).head?.map (·.target)

/-- The statement after a statement. -/
def next? (ws : Workspace) (id : BlockId) : Option BlockId :=
  (ws.outgoing id "next").head?.map (·.target)

/-- The statement before a statement. -/
def previous? (ws : Workspace) (id : BlockId) : Option BlockId :=
  match (ws.incoming id "previous").head? with
  | some e => if e.sourcePort == "next" then some e.source else none
  | none => none

/-- What holds a block: the statement before it, the block around it or the block it is plugged
into. -/
def parent? (ws : Workspace) (id : BlockId) : Option BlockId :=
  match (ws.incoming id "previous").head? with
  | some e => some e.source
  | none => (ws.outgoing id "output").head?.map (·.target)

/-- The port that holds a block. -/
def parentSlot? (ws : Workspace) (id : BlockId) : Option String :=
  match (ws.incoming id "previous").head? with
  | some e => some e.sourcePort
  | none => (ws.outgoing id "output").head?.map (·.targetPort)

/-- A block and those that a step leads to from it, at most `fuel` altogether. -/
def walk (step : BlockId → Option BlockId) : Nat → BlockId → List BlockId
  | 0, _ => []
  | fuel + 1, id =>
    id :: (match step id with
      | some other => walk step fuel other
      | none => [])

/-- A statement and those after it. -/
def chain (ws : Workspace) (id : BlockId) : List BlockId :=
  if ws.has id then walk ws.next? ws.blocks.length id else []

/-- The last statement of a chain. -/
def last (ws : Workspace) (id : BlockId) : BlockId :=
  (ws.chain id).getLastD id

/-- A block and everything that holds it, from the inside out. -/
def upward (ws : Workspace) (id : BlockId) : List BlockId :=
  if ws.has id then walk ws.parent? ws.blocks.length id else []

/-- The statements in a slot. -/
def suite (ws : Workspace) (id : BlockId) (slot : String) : List BlockId :=
  match ws.held? id slot with
  | some first => ws.chain first
  | none => []

/-- Everything that the slots of a block hold directly: values, then statements. -/
def slotChildren (ws : Workspace) (id : BlockId) (b : Block) : List BlockId :=
  b.values.filterMap (ws.held? id) ++ b.statements.flatMap (ws.suite id)

/-- Where a block lies. -/
def position (ws : Workspace) (id : BlockId) : Point := (entryAt? ws.positions id).getD {}

/-- The blocks that nothing holds. -/
def tops (ws : Workspace) : List BlockId :=
  ws.ids.filter fun id => (ws.parent? id).isNone

/-- The blocks that nothing holds, from top to bottom. -/
def orderedTops (ws : Workspace) : List BlockId :=
  ws.tops.mergeSort fun a b => !(ws.position b).before (ws.position a)

/-- The number of statements in a chain, with those in their slots; `fuel` bounds the nesting. -/
def rowsWithin (ws : Workspace) : Nat → BlockId → Nat
  | 0, _ => 0
  | fuel + 1, id =>
    ((ws.chain id).map fun member =>
      let slots := ((ws.block? member).map (·.statements)).getD []
      1 + (slots.map fun slot =>
        match ws.held? member slot with
        | some first => ws.rowsWithin fuel first
        | none => 0).sum).sum

/-- The number of statements in a chain, with those in their slots. -/
def rows (ws : Workspace) (id : BlockId) : Nat := ws.rowsWithin ws.blocks.length id

/-- The span of the text from which a block came, or else of the nearest block around it that has
one. -/
def spanAround? (ws : Workspace) (id : BlockId) : Option Syntax.Span :=
  (ws.upward id).findSome? (entryAt? ws.spans)

end BlockText.Workspace

import BlockText.Workspace.Query

/-!
# Snapshots

A workspace as plain data for display: every block with its ports and place, every connection,
and the state of the view.
-/

namespace BlockText

/-- A port as text. -/
def Port.label (p : Port) : String := s!"{p.block}:{p.name}"

namespace Workspace

/-- A connection has an end at a port.  Ports are told apart by their texts. -/
def isConnected (ws : Workspace) (id : BlockId) (port : String) : Bool :=
  let label := (Port.mk id port).label
  ws.edges.any fun e => e.stop.label == label || e.start.label == label

/-- A port: what it carries and in which direction, and whether something is connected to it. -/
def portDatum (ws : Workspace) (id : BlockId) (port function direction : String) : Datum :=
  .object
    [("name", .text port), ("function", .text function), ("direction", .text direction),
     ("connected", .bool (ws.isConnected id port))]

/-- What the port of a block carries. -/
def portFunction (b : Block) (port : String) : String :=
  if b.values.contains port || (b.isExpression && port == "output") then "VALUE" else "STATEMENT"

/-- A place as an object. -/
def pointDatum (p : Point) : Datum := .object [("x", .float p.x), ("y", .float p.y)]

/-- A block as an object. -/
def blockDatum (ws : Workspace) (id : BlockId) (b : Block) : Datum :=
  .object
    [("id", .text id), ("type", .text b.type.name), ("kind", .text b.kind.label),
     ("fields", .object b.fields),
     ("inputs", .list (b.inputs.map fun p => ws.portDatum id p (portFunction b p) "INPUT")),
     ("outputs", .list (b.outputs.map fun p => ws.portDatum id p (portFunction b p) "OUTPUT")),
     ("position", pointDatum (ws.position id))]

/-- A connection as an object. -/
def edgeDatum (e : Edge) : Datum :=
  .object
    [("id", .text s!"{e.source}:{e.sourcePort}->{e.target}:{e.targetPort}"),
     ("sourceNodeId", .text e.source), ("sourcePortName", .text e.sourcePort),
     ("targetNodeId", .text e.target), ("targetPortName", .text e.targetPort),
     ("edgeType", .text e.kind.label)]

/-- The visible part of the canvas as an object. -/
def viewportDatum (v : Viewport) : Datum :=
  .object [("scrollX", .float v.scrollX), ("scrollY", .float v.scrollY), ("scale", .float v.scale)]

/-- The workspace as plain data. -/
def snapshot (ws : Workspace) : Datum :=
  .object
    [("nodes", .list (ws.blocks.map fun (id, b) => ws.blockDatum id b)),
     ("edges", .list (ws.edges.map edgeDatum)),
     ("topNodeIds", .list (ws.orderedTops.map .text)),
     ("selectedId", Datum.ofText? ws.selected),
     ("viewport", viewportDatum ws.viewport),
     ("declaredVariables", .list ws.variableNames),
     ("declaredFunctions", .list (ws.functions.map fun (name, count) =>
       .object [("name", name), ("paramCount", .int count)]))]

end Workspace

end BlockText

import BlockText.Workspace.Query

/-!
# Blocks as trees

Read from a place downward, blocks form a tree: a place holds nothing, or a block with what its
slots hold and what follows it.
-/

namespace BlockText

/-- What a place holds: nothing, or a block with what its slots hold and what follows it. -/
inductive BlockTree
  | nothing
  | node (id : BlockId) (block : Block) (slot : String → BlockTree) (next : BlockTree)

/-- The place holds a block. -/
def BlockTree.isPresent : BlockTree → Bool
  | nothing => false
  | node _ _ _ _ => true

/-- The ports by which a block is held and continued; all its other ports are slots. -/
def isOwnPort (port : String) : Bool :=
  port == "previous" || port == "next" || port == "output"

namespace Workspace

/-- What a place holds when it holds the given block; `fuel` bounds the length of a path. -/
def treeWithin (ws : Workspace) : Nat → Option BlockId → BlockTree
  | _, none => .nothing
  | 0, some _ => .nothing
  | fuel + 1, some id =>
    match ws.block? id with
    | none => .nothing
    | some b =>
      .node id b
        (fun slot => if isOwnPort slot then .nothing else ws.treeWithin fuel (ws.held? id slot))
        (ws.treeWithin fuel (ws.next? id))

/-- What a place holds when it holds the given block. -/
def tree (ws : Workspace) (held : Option BlockId) : BlockTree :=
  ws.treeWithin ws.blocks.length held

end Workspace

end BlockText

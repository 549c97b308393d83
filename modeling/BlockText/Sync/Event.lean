import BlockText.Datum.Basic
import BlockText.Sync.Machine

/-!
# What listeners are told

Every job is reported when it starts and when it ends, every request that has to wait or is
dropped is reported, and so is every change of the highlighted lines.
-/

namespace BlockText

/-- An event of a session. -/
inductive SyncEvent
  | started (direction : Direction)
  /-- A job has ended; `discarded` if its result came too late to be used. -/
  | done (direction : Direction) (changed : Bool) (discarded : Bool := false)
  | failed (direction : Direction) (error : String) (line : Option Int := none)
  | coalesced (direction : Direction)
  | dropped (direction : Direction)
  /-- The lines of a block, first and last. -/
  | highlight (block : Option String) (lines : Option (Nat × Nat))
  deriving DecidableEq

namespace SyncEvent

/-- A number that may be missing. -/
def optional (n : Option Int) : Datum :=
  match n with
  | some n => .int n
  | none => .null

/-- What an event is called. -/
def label : SyncEvent → String
  | started _ => "SYNC_START"
  | done _ _ _ => "SYNC_DONE"
  | failed _ _ _ => "SYNC_ERROR"
  | coalesced _ => "SYNC_COALESCED"
  | dropped _ => "SYNC_DROPPED"
  | highlight _ _ => "HIGHLIGHT"

/-- The details of an event. -/
def details : SyncEvent → List (String × Datum)
  | started d | coalesced d | dropped d => [("direction", .text d.label)]
  | done d changed discarded =>
    [("direction", .text d.label), ("changed", .bool changed)] ++
      if discarded then [("discarded", Datum.bool true)] else []
  | failed d error line =>
    [("direction", .text d.label), ("error", .text error), ("line", optional line)]
  | highlight block lines =>
    [("nodeId", Datum.ofText? block),
     ("startLine", optional (lines.map fun l => (l.1 : Int))),
     ("endLine", optional (lines.map fun l => (l.2 : Int)))]

/-- An event as an object. -/
def toDatum (e : SyncEvent) : Datum := .object (("type", .text e.label) :: e.details)

end SyncEvent

end BlockText

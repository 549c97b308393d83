/-!
# One job at a time

Text and blocks are brought in step by jobs in either direction, of which at most one runs.
What is requested in the meantime waits: of texts only the newest, of requests for a text at most
one, and the text goes first.
-/

namespace BlockText

/-- In which direction a job works. -/
inductive Direction
  | textToGraph
  | graphToText
  deriving DecidableEq

/-- The name of a direction. -/
def Direction.label : Direction → String
  | textToGraph => "text_to_graph"
  | graphToText => "graph_to_text"

/-- A job: show a text as blocks, or write the blocks as text. -/
inductive SyncJob
  | text (source : String)
  | graph
  deriving DecidableEq

/-- The direction of a job. -/
def SyncJob.direction : SyncJob → Direction
  | text _ => .textToGraph
  | graph => .graphToText

/-- Whether a job runs, and what waits for it to end. -/
structure SyncMachine where
  busy : Bool := false
  pendingSource : Option String := none
  pendingGraph : Bool := false
  deriving DecidableEq

namespace SyncMachine

/-- Requests that a text is shown: a job to run now, or nothing if it has to wait. -/
def requestText (m : SyncMachine) (source : String) : Option SyncJob × SyncMachine :=
  if m.busy then (none, { m with pendingSource := some source })
  else (some (.text source), { m with busy := true })

/-- Requests that the blocks are written: a job to run now, or nothing if it has to wait.  It waits
only if `coalesce` is set and is dropped otherwise. -/
def requestGraph (m : SyncMachine) (coalesce : Bool := false) : Option SyncJob × SyncMachine :=
  if m.busy then (none, if coalesce then { m with pendingGraph := true } else m)
  else (some .graph, { m with busy := true })

/-- The running job has ended: the next job, or nothing if none waits. -/
def finish (m : SyncMachine) : Option SyncJob × SyncMachine :=
  match m.pendingSource with
  | some source => (some (.text source), { m with pendingSource := none })
  | none =>
    if m.pendingGraph then (some .graph, { m with pendingGraph := false })
    else (none, { m with busy := false })

/-- Nothing runs and nothing waits. -/
def reset (_ : SyncMachine) : SyncMachine := {}

/-- The number of jobs that wait. -/
def load (m : SyncMachine) : Nat :=
  (if m.pendingSource.isSome then 1 else 0) + (if m.pendingGraph then 1 else 0)

end SyncMachine

end BlockText

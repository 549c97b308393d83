import BlockText.Settings
import BlockText.Sync.Debouncer
import BlockText.Sync.Event
import BlockText.Sync.Language
import BlockText.Workspace.Build
import BlockText.Workspace.Compile

/-!
# A session

A session keeps a text and a workspace in step.  A text that the user typed is shown as blocks
once the typing has settled, and an edit of the blocks is written as text.  Requests are queued
and run in order, and a job waits in its middle while its call of the language service is held
back, or while the text that it wrote is being kept.  Whatever the service answers, an error is
shown and does not end the session.

The text wins: a job that wrote a text while the user was typing discards its result.
-/

namespace BlockText

open Syntax

/-- Who changes a text. -/
inductive ChangeOrigin
  | user
  | sync
  deriving DecidableEq

/-- The text and what is marked in it. -/
structure TextBuffer where
  content : String := ""
  highlight : Option (Nat × Nat) := none
  errorLine : Option Int := none
  deriving DecidableEq

/-- A request for synchronization. -/
inductive Request
  | text (source : String)
  | graph
  deriving DecidableEq

/-- A queued request.  Those that the session makes itself are its own. -/
structure Task where
  ticket : Nat
  request : Request
  isOwn : Bool
  deriving DecidableEq

/-- The calls of a job that can be held back: two of the language service, and the one that keeps
a text. -/
inductive Gate
  | parse
  | generate
  | persist
  deriving DecidableEq

/-- What a job calls for.  The job that writes a program remembers the text that it is going to
replace, and has the text that replaced it kept. -/
inductive ServiceCall
  | parse (source : String)
  | generate (program : Program) (before : String)
  | persist (text : String)

/-- Where a call is held back. -/
def ServiceCall.gate : ServiceCall → Gate
  | parse _ => .parse
  | generate _ _ => .generate
  | persist _ => .persist

/-- What a listener finds when an event is told: the workspace, the language service, and the texts
that it was called to read so far. -/
structure Sighting where
  event : SyncEvent
  workspace : Workspace
  language : LanguageService
  parsed : List String

/-- One of the things that happen in a session, in the order in which they happen. -/
inductive Moment
  /-- An event is told, and this is the workspace that a listener finds. -/
  | told (event : SyncEvent) (workspace : Workspace)
  /-- A job makes a call while this is the text. -/
  | called (call : ServiceCall) (content : String)
  /-- A job shows a program or an error in place of the blocks. -/
  | drawn (before after : Workspace)
  /-- A job replaces the text; a text that has settled in the meantime is pending. -/
  | wrote (text replaced : String) (pending : Option String)
  /-- A job ends in an error. -/
  | broken (workspace : Workspace)
  /-- Somebody edits the blocks. -/
  | edited (before after : Workspace)
  /-- Somebody replaces the text. -/
  | typed (text : String)

/-- A session. -/
structure Session where
  settings : Settings := {}
  language : LanguageService
  workspace : Workspace := {}
  counter : IdCounter := {}
  editor : TextBuffer := {}
  /-- The last error message, or nothing. -/
  output : String := ""
  machine : SyncMachine := {}
  textTimer : Debouncer String
  graphTimer : Debouncer Unit
  /-- Changes of the text and the blocks are followed. -/
  isAttached : Bool := false
  now : Nat := 0
  /-- The number of tasks so far. -/
  tickets : Nat := 0
  /-- Tasks that have not been started. -/
  queue : List Task := []
  /-- The task whose call is held back. -/
  waiting : Option (Task × ServiceCall) := none
  /-- Tasks that ended in an error. -/
  failures : List (Nat × WorkspaceError) := []
  /-- Where calls are held back. -/
  held : List Gate := []
  /-- The texts that the language service was called to read, in order. -/
  parsed : List String := []
  generateCalls : Nat := 0
  events : List SyncEvent := []
  /-- What there was to find at each event, in order. -/
  sightings : List Sighting := []
  /-- What has happened so far. -/
  history : List Moment := []
  /-- Texts that a job writes are kept in `persisted`. -/
  isPersistent : Bool := true
  persisted : List String := []
  /-- The program that was last read from the text and shown. -/
  lastProgram : Option Program := none

namespace Session

/-- How often the language service was called to read a text. -/
def parseCalls (s : Session) : Nat := s.parsed.length

/-! ## Events and tasks -/

/-- Notes that something happens. -/
def note (m : Moment) (s : Session) : Session := { s with history := s.history ++ [m] }

/-- Tells the listeners. -/
def emit (e : SyncEvent) (s : Session) : Session :=
  let sighting : Sighting := ⟨e, s.workspace, s.language, s.parsed⟩
  { s with events := s.events ++ [e], sightings := s.sightings ++ [sighting] }.note
    (.told e s.workspace)

/-- Queues a request. -/
def enqueue (request : Request) (isOwn : Bool) (s : Session) : Session :=
  { s with queue := s.queue ++ [⟨s.tickets, request, isOwn⟩], tickets := s.tickets + 1 }

/-- Queues a request of the session's own. -/
def spawn (request : Request) (s : Session) : Session := s.enqueue request true

/-- Runs an edit on the workspace. -/
def runEdit {α : Type} (x : Edit α) (s : Session) : Except WorkspaceError α × Session :=
  let (r, workspace) := x.run s.workspace
  (r, { s with workspace })

/-- Runs an edit as a part of a job. -/
def draw {α : Type} (x : Edit α) (s : Session) : Except WorkspaceError α × Session :=
  let (r, drawn) := s.runEdit x
  (r, drawn.note (.drawn s.workspace drawn.workspace))

/-! ## Jobs -/

/-- The text could not be read: the message is shown in place of the blocks. -/
def textFailed (message : String) (s : Session) : Except WorkspaceError Unit × Session :=
  let line := errorLine? message
  let s := { s with output := message, editor := { s.editor with errorLine := line } }
  match s.draw (Edit.showError message) with
  | (.ok _, s) => (.ok (), s.emit (.failed .textToGraph message line))
  | (.error e, s) => (.error e, s)

/-- The text was read: its program is shown as blocks. -/
def showProgram (p : Program) (s : Session) : Except WorkspaceError Unit × Session :=
  match s.counter.reconcile p.toDatum with
  | .error f => (.error (.fault f), s)
  | .ok counter =>
    match { s with counter }.draw (Edit.build p) with
    | (.error e, s) => (.error e, s)
    | (.ok changed, s) =>
      let editor := { s.editor with errorLine := none }
      let s := { s with lastProgram := some p, editor, output := "" }
      (.ok (), s.emit (.done .textToGraph changed))

/-- The blocks could not be written. -/
def graphFailed (message : String) (s : Session) : Session :=
  { s with output := message }.emit (.failed .graphToText message)

/-- Ends the job that wrote the blocks; `changed` tells whether it replaced the text. -/
def textShown (changed : Bool) (s : Session) : Session :=
  { s with output := "" }.emit (.done .graphToText changed)

/-- The blocks were written: the text replaces the one before, unless that has changed.  The result
is a text that is to be kept before the job ends. -/
def showText (text before : String) (s : Session) : Option String × Session :=
  if s.machine.pendingSource.isSome || s.editor.content != before then
    (none, s.emit (.done .graphToText false true))
  else if text != before then
    let wrote := Moment.wrote text s.editor.content s.machine.pendingSource
    let s := { s with editor := { s.editor with content := text, errorLine := none } }.note wrote
    if s.isPersistent then
      (some text, { s with persisted := s.persisted ++ [text] }.note (.called (.persist text) text))
    else (none, s.textShown true)
  else (none, s.textShown false)

/-- The first part of a job, up to its call of the language service.  A job that cannot write the
blocks ends without one. -/
def beginJob (job : SyncJob) (s : Session) : Option ServiceCall × Session :=
  let s := s.emit (.started job.direction)
  match job with
  | .text source =>
    let s := { s with parsed := s.parsed ++ [source] }
    (some (.parse source), s.note (.called (.parse source) s.editor.content))
  | .graph =>
    let (r, counter) := s.workspace.compile s.counter s.settings.indentWidth
    let s := { s with counter }
    match r with
    | .error e => (none, s.graphFailed e.message)
    | .ok p =>
      let s := { s with generateCalls := s.generateCalls + 1 }
      let call := ServiceCall.generate p s.editor.content
      (some call, s.note (.called call s.editor.content))

/-- The part of a job from the answer to a call on.  The result is a text that is to be kept before
the job ends. -/
def answer (call : ServiceCall) (s : Session) :
    Except WorkspaceError (Option String) × Session :=
  match call with
  | .parse source =>
    let (r, s) :=
      match s.language.parse source with
      | .ok p => s.showProgram p
      | .error e => s.textFailed e.readingMessage
    (r.map fun _ => none, s)
  | .generate p before =>
    match s.language.generate p s.settings.mode with
    | .ok text =>
      let (kept, s) := s.showText text before
      (.ok kept, s)
    | .error e => (.ok none, s.graphFailed e.writingMessage)
  | .persist _ => (.ok none, s.textShown true)

/-- After a job, the next one if one waits. -/
def nextJob (run : SyncJob → Session → Session) (s : Session) : Session :=
  match s.machine.finish with
  | (some job, machine) => run job { s with machine }
  | (none, machine) => { s with machine }

/-- Ends a job and goes on with what waits.  An error ends the task and drops what waits. -/
def complete (t : Task) (call : ServiceCall) (run : SyncJob → Session → Session) (s : Session) :
    Session :=
  match s.answer call with
  | (.ok none, s) => s.nextJob run
  | (.ok (some text), s) =>
    if s.held.contains .persist then { s with waiting := some (t, .persist text) }
    else (s.textShown true).nextJob run
  | (.error e, s) =>
    { s with machine := s.machine.reset, failures := s.failures ++ [(t.ticket, e)] }.note
      (.broken s.workspace)

/-- Runs a job and those that wait, until none is left or a call is held back; `fuel` bounds the
number of jobs. -/
def drain : Nat → Task → SyncJob → Session → Session
  | 0, _, _, s => s
  | fuel + 1, t, job, s =>
    match s.beginJob job with
    | (none, s) => s.nextJob fun job s => drain fuel t job s
    | (some call, s) =>
      if s.held.contains call.gate then { s with waiting := some (t, call) }
      else s.complete t call fun job s => drain fuel t job s

/-- Starts a task: it becomes the running job, waits for it, or is dropped. -/
def start (t : Task) (s : Session) : Session :=
  match t.request with
  | .text source =>
    let (job, machine) := s.machine.requestText source
    let s := { s with machine }
    match job with
    | some job => s.drain (machine.load + 1) t job
    | none => s.emit (.coalesced .textToGraph)
  | .graph =>
    let coalesce := s.settings.coalesceGraph
    let (job, machine) := s.machine.requestGraph coalesce
    let s := { s with machine }
    match job with
    | some job => s.drain (machine.load + 1) t job
    | none => s.emit (if coalesce then .coalesced .graphToText else .dropped .graphToText)

/-- Starts the first queued task. -/
def startNext (s : Session) : Session :=
  match s.queue with
  | t :: rest => { s with queue := rest }.start t
  | [] => s

/-- Starts all queued tasks in order. -/
def settle (s : Session) : Session := s.queue.foldl (fun s _ => s.startNext) s

/-! ## Calls that are held back -/

/-- Holds calls back from now on. -/
def hold (gate : Gate) (s : Session) : Session :=
  if s.held.contains gate then s else { s with held := gate :: s.held }

/-- The call that is held back is answered; the job that waits for it goes on. -/
def resume (s : Session) : Session :=
  match s.waiting with
  | some (t, call) =>
    { s with waiting := none }.complete t call fun job s => s.drain s.machine.load.succ t job
  | none => s

/-- Lets calls through again; the job that waits goes on. -/
def release (gate : Gate) (s : Session) : Session :=
  let s := { s with held := s.held.filter (· != gate) }
  if s.waiting.any (·.2.gate == gate) then s.resume else s

/-! ## Changes -/

/-- The blocks have changed: they are written at once, or when the edits have settled. -/
def graphChanged (s : Session) : Session :=
  if s.graphTimer.delay > 0 then { s with graphTimer := s.graphTimer.call s.now () }
  else s.spawn .graph

/-- Highlights the lines of a block, or none. -/
def highlight (id : Option BlockId) (s : Session) : Session :=
  let span := (id.filter (!·.isEmpty)).bind s.workspace.spanAround?
  let lines := span.map fun span => (span.start.line, span.stop.line)
  { s with editor := { s.editor with highlight := lines } }.emit (.highlight id lines)

/-- Follows an event of the workspace. -/
def follow (s : Session) (e : Event) : Session :=
  if e.type == .selected then s.highlight e.block
  else if e.type.isCosmetic then s
  else s.graphChanged

/-- Edits the blocks. -/
def edit {α : Type} (x : Edit α) (s : Session) : Except WorkspaceError α × Session :=
  let before := s.workspace
  let (r, s) := s.runEdit x
  let events := s.workspace.events
  let workspace := { s.workspace with events := [] }
  let s := { s with workspace }.note (.edited before workspace)
  (r, if s.isAttached then events.foldl follow s else s)

/-- Replaces the text.  What the user types is shown as blocks when it has settled. -/
def setText (text : String) (origin : ChangeOrigin) (s : Session) : Session :=
  if text == s.editor.content then s
  else
    let s := { s with editor := { s.editor with content := text } }.note (.typed text)
    if s.isAttached && origin == .user then
      { s with textTimer := s.textTimer.call s.now text }
    else s

/-- Follows changes from now on. -/
def attach (s : Session) : Session :=
  { s with isAttached := true, workspace := { s.workspace with watched := true } }

/-- No longer follows changes; those that have not settled are forgotten. -/
def detach (s : Session) : Session :=
  if s.isAttached then
    { s with
      isAttached := false
      workspace := { s.workspace with watched := false }
      textTimer := s.textTimer.cancel
      graphTimer := s.graphTimer.cancel }
  else s

/-! ## Time -/

/-- Queues the text that has settled. -/
def textSettled (source : Option String) (s : Session) : Session :=
  match source with
  | some source => s.spawn (.text source)
  | none => s

/-- Queues a job for edits that have settled. -/
def graphSettled (fired : Option Unit) (s : Session) : Session :=
  match fired with
  | some _ => s.spawn .graph
  | none => s

/-- Settles the text if its deadline has come. -/
def expireText (now : Nat) (s : Session) : Session :=
  match s.textTimer.expire now with
  | (some (deadline, source), textTimer) =>
    { s with textTimer, now := deadline }.textSettled (some source) |>.settle
  | (none, _) => s

/-- Settles the edits of the blocks if their deadline has come. -/
def expireGraph (now : Nat) (s : Session) : Session :=
  match s.graphTimer.expire now with
  | (some (deadline, _), graphTimer) =>
    { s with graphTimer, now := deadline }.graphSettled (some ()) |>.settle
  | (none, _) => s

/-- The deadline of the text comes first. -/
def textFirst (s : Session) : Bool :=
  match s.textTimer.armed, s.graphTimer.armed with
  | some (t, _), some (g, _) => t ≤ g
  | _, _ => true

/-- Lets time pass. -/
def advance (ms : Nat) (s : Session) : Session :=
  let now := s.now + ms
  let s := if s.textFirst then (s.expireText now).expireGraph now
    else (s.expireGraph now).expireText now
  { s with now }

/-- Settles everything right away. -/
def flush (s : Session) : Session :=
  let (source, textTimer) := s.textTimer.flush
  let (fired, graphTimer) := s.graphTimer.flush
  { s with textTimer, graphTimer }.textSettled source |>.graphSettled fired |>.settle

/-! ## Sessions -/

/-- A session that follows changes, with an empty workspace. -/
def new (settings : Settings) (language : LanguageService) (text : String := "")
    (isPersistent : Bool := true) : Session :=
  attach {
    settings
    language
    editor := { content := text }
    textTimer := { delay := settings.textDelay.toNat }
    graphTimer := { delay := settings.graphDelay.toNat }
    isPersistent }

/-- The text and what is marked in it, as an object. -/
def textState (s : Session) : Datum :=
  .object
    [("text", .text s.editor.content), ("errorLine", SyncEvent.optional s.editor.errorLine),
     ("output", .text s.output),
     ("highlight", match s.editor.highlight with
       | some (first, last) => .object [("startLine", .int first), ("endLine", .int last)]
       | none => .null)]

end Session

end BlockText

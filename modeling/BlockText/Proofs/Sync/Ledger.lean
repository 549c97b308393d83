import BlockText.Proofs.Sync.Runs
import BlockText.Proofs.Build.Upholding

/-!
# The ledger of a session

What a session does next depends on little of its state.  A `Ledger` holds just that: what the job
that runs is waiting for, which requests wait in which place, and what has been done so far.  `Step`
lists everything that can happen to it, in steps as small as a session takes them, and labels each
step with what others did in it.  A text that is typed goes from its timer to the queue, from there
to the machine or at once to a job, and is read in the end; a request to write the blocks goes the
same way.

A ledger is `Steady` if the machine is busy exactly while a job runs and everything waits for that
job.  All steps keep a ledger steady.
-/

namespace BlockText

open Syntax

/-! ## Phases -/

/-- How far the job that runs has come. -/
inductive Phase
  | idle
  /-- The job is about to begin. -/
  | ready (job : SyncJob)
  /-- The job waits for the answer to a call. -/
  | called (call : ServiceCall)
  /-- The job has ended, and the next one has not been chosen. -/
  | ended

/-- The job that a request asks for. -/
def Request.job : Request → SyncJob
  | text source => .text source
  | graph => .graph

/-- The direction of the job that makes a call. -/
def ServiceCall.direction : ServiceCall → Direction
  | parse _ => .textToGraph
  | generate _ _ => .graphToText
  | persist _ => .graphToText

/-- The event reports the end of a job in the direction. -/
def SyncEvent.Ends (e : SyncEvent) (d : Direction) : Prop :=
  (∃ changed discarded, e = .done d changed discarded) ∨ ∃ error line, e = .failed d error line

/-- The second workspace is what a job can make of the first one, if the service reads programs for
it. -/
inductive Workspace.Redrawn (language : LanguageService) (ws : Workspace) : Workspace → Prop
  | same : Redrawn language ws ws
  | built {source : String} {p : Program} (h : language.parse source = .ok p) :
    Redrawn language ws ((Edit.build p).run ws).2
  | failed (message : String) : Redrawn language ws ((Edit.showError message).run ws).2

/-- The program can be read off the blocks. -/
def Workspace.CompilesTo (ws : Workspace) (p : Program) : Prop :=
  ∃ (counter : IdCounter) (indentWidth : ℤ), (ws.compile counter indentWidth).1 = .ok p

/-- What holds of a workspace before a job and is upheld by showing programs and errors holds after
the job. -/
lemma Workspace.Redrawn.upholds {P Q : Workspace → Prop} (h : Edit.ShowSteps P Q)
    {language : LanguageService} {ws ws' : Workspace} (hws : ws.Redrawn language ws')
    (hP : P ws) : P ws' := by
  cases hws with
  | same => exact hP
  | built _ => exact (h.build _).run hP
  | failed message => exact (h.showError message).run hP

/-! ## Ledgers -/

/-- What decides about the jobs of a session, and what has been done. -/
structure Ledger where
  phase : Phase
  machine : SyncMachine
  /-- The text whose timer is armed. -/
  typing : Option String
  /-- The timer of the blocks is armed. -/
  editing : Bool
  /-- Requests that have not been started. -/
  queue : List Request
  coalesce : Bool
  isAttached : Bool
  language : LanguageService
  workspace : Workspace
  content : String
  isPersistent : Bool
  persisted : List String
  parsed : List String
  events : List SyncEvent
  sightings : List Sighting
  history : List Moment

namespace Ledger

/-- With one more moment. -/
def note (l : Ledger) (m : Moment) : Ledger := { l with history := l.history ++ [m] }

/-- With one more event. -/
def tell (l : Ledger) (e : SyncEvent) : Ledger :=
  { l with
    events := l.events ++ [e]
    sightings := l.sightings ++ [⟨e, l.workspace, l.language, l.parsed⟩]
    history := l.history ++ [.told e l.workspace] }

/-- The text that was written for a call may replace the one that is there: nobody has changed that
one since the call, none is waiting to be read, and the two differ. -/
structure Fresh (l : Ledger) (text before : String) : Prop where
  content : l.content = before
  pendingSource : l.machine.pendingSource = none
  ne : text ≠ before

/-- How a job that reads a text ends: it has drawn its program or its error. -/
structure EndsReading (l : Ledger) (source : String) (e : SyncEvent) (workspace : Workspace)
    (drawn : List Moment) : Prop where
  drawn : drawn = [.drawn l.workspace workspace]
  /-- If it has shown the text, then by the program that the service read. -/
  shown : ∀ changed discarded, e = .done .textToGraph changed discarded →
    ∃ p, l.language.parse source = .ok p ∧ (Edit.build p).run l.workspace = (.ok changed, workspace)
  failed : ∀ message line, e = .failed .textToGraph message line →
    workspace = ((Edit.showError message).run l.workspace).2

/-- How a job that writes the blocks ends: it has drawn nothing. -/
structure EndsWriting (l : Ledger) (call : ServiceCall) (e : SyncEvent) (workspace : Workspace)
    (drawn : List Moment) : Prop where
  drawn : drawn = []
  workspace : workspace = l.workspace
  /-- If its text comes too late, then because of another one. -/
  discarded : ∀ changed, e = .done .graphToText changed true → changed = false ∧
    ∃ p before, call = .generate p before ∧
      (l.machine.pendingSource ≠ none ∨ l.content ≠ before)

/-- One step, and what others do in it. -/
inductive Step (l : Ledger) : List Act → Ledger → Prop
  /-- A job that shows a text has it read. -/
  | parse {source : String} (h : l.phase = .ready (.text source)) :
    Step l [] { (l.tell (.started .textToGraph)).note (.called (.parse source) l.content) with
      phase := .called (.parse source), parsed := l.parsed ++ [source] }
  /-- A job reads a program off the blocks and has it written. -/
  | generate (p : Program) (h : l.phase = .ready .graph) (hp : l.workspace.CompilesTo p) :
    Step l []
      { (l.tell (.started .graphToText)).note (.called (.generate p l.content) l.content) with
        phase := .called (.generate p l.content) }
  /-- There is no program in the blocks. -/
  | refuse (message : String) (h : l.phase = .ready .graph) :
    Step l [] { (l.tell (.started .graphToText)).tell (.failed .graphToText message) with
      phase := .ended }
  /-- A job replaces the text and has the new one kept. -/
  | keep {p : Program} {before : String} (text : String)
    (h : l.phase = .called (.generate p before)) (hfresh : l.Fresh text before)
    (hkept : l.isPersistent = true) :
    Step l [] { (l.note (.wrote text l.content l.machine.pendingSource)).note
        (.called (.persist text) text) with
      phase := .called (.persist text), content := text, persisted := l.persisted ++ [text] }
  /-- A job replaces the text, nobody keeps texts, and the job ends. -/
  | write {p : Program} {before : String} (text : String)
    (h : l.phase = .called (.generate p before)) (hfresh : l.Fresh text before)
    (hkept : l.isPersistent = false) :
    Step l [] { (l.note (.wrote text l.content l.machine.pendingSource)).tell
        (.done .graphToText true) with
      phase := .ended, content := text }
  /-- A job ends. -/
  | finish (drawn : List Moment) {call : ServiceCall} {e : SyncEvent} {workspace : Workspace}
    (h : l.phase = .called call) (he : e.Ends call.direction)
    (hw : l.workspace.Redrawn l.language workspace)
    (hread : ∀ source, call = .parse source → l.EndsReading source e workspace drawn)
    (hwritten : call.direction = .graphToText → l.EndsWriting call e workspace drawn) :
    Step l [] { tell { l with workspace, history := l.history ++ drawn } e with phase := .ended }
  /-- A program cannot be shown: everything that waits is dropped. -/
  | crash (drawn : List Moment) {source : String} {workspace : Workspace}
    (h : l.phase = .called (.parse source)) (hl : ¬ l.language.Buildable)
    (hw : l.workspace.Redrawn l.language workspace)
    (hdrawn : drawn = [] ∨ drawn = [.drawn l.workspace workspace]) :
    Step l [] { l with
      phase := .idle, machine := {}, workspace
      history := l.history ++ drawn ++ [.broken workspace] }
  | nextText {source : String} (h : l.phase = .ended)
    (hsource : l.machine.pendingSource = some source) :
    Step l [] { l with
      phase := .ready (.text source), machine := { l.machine with pendingSource := none } }
  | nextGraph (h : l.phase = .ended) (hsource : l.machine.pendingSource = none)
    (hgraph : l.machine.pendingGraph = true) :
    Step l [] { l with phase := .ready .graph, machine := { l.machine with pendingGraph := false } }
  | rest (h : l.phase = .ended) (hsource : l.machine.pendingSource = none)
    (hgraph : l.machine.pendingGraph = false) : Step l [] { l with phase := .idle, machine := {} }
  | start {r : Request} {rest : List Request} (h : l.phase = .idle) (hq : l.queue = r :: rest) :
    Step l [] { l with
      phase := .ready r.job, machine := { l.machine with busy := true }, queue := rest }
  | waitText {call : ServiceCall} {source : String} {rest : List Request}
    (h : l.phase = .called call) (hq : l.queue = .text source :: rest) :
    Step l [] { l.tell (.coalesced .textToGraph) with
      machine := { l.machine with pendingSource := some source }, queue := rest }
  | waitGraph {call : ServiceCall} {rest : List Request} (h : l.phase = .called call)
    (hq : l.queue = .graph :: rest) (hcoalesce : l.coalesce = true) :
    Step l [] { l.tell (.coalesced .graphToText) with
      machine := { l.machine with pendingGraph := true }, queue := rest }
  | dropGraph {call : ServiceCall} {rest : List Request} (h : l.phase = .called call)
    (hq : l.queue = .graph :: rest) (hcoalesce : l.coalesce = false) :
    Step l [] { l.tell (.dropped .graphToText) with queue := rest }
  | settleText {source : String} (h : l.typing = some source) :
    Step l [] { l with typing := none, queue := l.queue ++ [.text source] }
  | settleGraph (h : l.editing = true) :
    Step l [] { l with editing := false, queue := l.queue ++ [.graph] }
  /-- The user replaces the text. -/
  | typed (text : String) :
    Step l [.typed text] { l.note (.typed text) with typing := some text, content := text }
  /-- Somebody else replaces the text. -/
  | replaced (text : String) : Step l [] { l.note (.typed text) with content := text }
  | edited (x : Edit Unit) :
    Step l [.edited x]
      { l.note (.edited l.workspace { (x.run l.workspace).2 with events := [] }) with
        workspace := { (x.run l.workspace).2 with events := [] } }
  | select (e : Event) (lines : Option (ℕ × ℕ)) (h : e.type = .selected) :
    Step l [.fired e] (l.tell (.highlight e.block lines))
  | ignore (e : Event) (h : e.type.isCosmetic = true) : Step l [.fired e] l
  /-- The blocks have changed, and the edits have to settle. -/
  | change (e : Event) (h : e.type.isCosmetic = false) :
    Step l [.fired e] { l with editing := true }
  /-- The blocks have changed and are to be written at once. -/
  | changeNow (e : Event) (h : e.type.isCosmetic = false) :
    Step l [.fired e] { l with queue := l.queue ++ [.graph] }
  | requested (r : Request) : Step l [.requested r] { l with queue := r :: l.queue }
  | served (language : LanguageService) : Step l [.served language] { l with language }

/-- Some steps, and what others do in them. -/
inductive Steps : List Act → Ledger → Ledger → Prop
  | refl (l : Ledger) : Steps [] l l
  | head {l l' l'' : Ledger} {as bs : List Act} (h : Step l as l') (hs : Steps bs l' l'') :
    Steps (as ++ bs) l l''

variable {l l' l'' : Ledger}

lemma Step.steps {as : List Act} (h : Step l as l') : Steps as l l' := by
  rw [← List.append_nil as]
  exact .head h (.refl l')

lemma Steps.trans {as bs : List Act} (h : Steps as l l') (h' : Steps bs l' l'') :
    Steps (as ++ bs) l l'' := by
  induction h with
  | refl l => exact h'
  | head hstep _ ih =>
    rw [List.append_assoc]
    exact .head hstep (ih h')

/-- A job ends that writes the blocks. -/
lemma Step.finishWriting {call : ServiceCall} {e : SyncEvent} (h : l.phase = .called call)
    (hcall : call.direction = .graphToText) (he : e.Ends .graphToText)
    (hdiscarded : ∀ changed, e = .done .graphToText changed true → changed = false ∧
      ∃ p before, call = .generate p before ∧
        (l.machine.pendingSource ≠ none ∨ l.content ≠ before)) :
    Step l [] { l.tell e with phase := .ended } := by
  have hstep : Step l [] _ := .finish [] h (hcall ▸ he) .same
    (by rintro source rfl; cases hcall) fun _ => ⟨rfl, rfl, hdiscarded⟩
  simpa only [List.append_nil] using hstep

/-- A silent step after some others. -/
lemma Steps.silent {as : List Act} (h : Steps as l l') (h' : Steps [] l' l'') : Steps as l l'' := by
  simpa using h.trans h'

/-! ## Services -/

/-- What holds of the service and of all services among the acts holds of the service afterwards. -/
lemma Step.serves {P : LanguageService → Prop} {as : List Act} (h : Step l as l')
    (hl : P l.language) (has : ∀ language, .served language ∈ as → P language) : P l'.language := by
  cases h with
  | served language => exact has language (List.mem_singleton.mpr rfl)
  | _ => exact hl

/-! ## Steady ledgers -/

/-- The machine is busy exactly while a job runs, and nothing waits for a job that does not.  The
session follows changes, and all events of the workspace have been delivered. -/
structure Steady (l : Ledger) : Prop where
  isAttached : l.isAttached = true
  delivered : l.workspace.events = []
  free : l.phase = .idle → l.machine = {}
  busy : l.phase ≠ .idle → l.machine.busy = true

/-- A job delivers no events of the workspace. -/
lemma delivered_of_redrawn {language : LanguageService} {ws ws' : Workspace}
    (h : ws.Redrawn language ws') (hws : ws.events = []) : ws'.events = [] :=
  (h.upholds Edit.showSteps_silent (⟨rfl, hws⟩ : Edit.Silent ws.muted [] ws)).2

/-- Every step keeps a ledger steady. -/
lemma Step.steady {as : List Act} (h : Step l as l') (hl : l.Steady) : l'.Steady := by
  obtain ⟨hattached, hdelivered, hfree, hbusy⟩ := hl
  cases h with
  | parse h | generate _ h | refuse _ h | keep _ h | write _ h =>
    exact ⟨hattached, hdelivered, by simp, fun _ => hbusy (by simp [h])⟩
  | finish _ h _ hw =>
    exact ⟨hattached, delivered_of_redrawn hw hdelivered, by simp, fun _ => hbusy (by simp [h])⟩
  | crash _ h _ hw => exact ⟨hattached, delivered_of_redrawn hw hdelivered, fun _ => rfl, by simp⟩
  | nextText h | nextGraph h =>
    exact ⟨hattached, hdelivered, by simp, fun _ => hbusy (by simp [h])⟩
  | rest => exact ⟨hattached, hdelivered, fun _ => rfl, by simp⟩
  | start => exact ⟨hattached, hdelivered, by simp, fun _ => rfl⟩
  | waitText h | waitGraph h | dropGraph h =>
    exact ⟨hattached, hdelivered, fun hidle => absurd (hidle.symm.trans h) (by simp),
      fun _ => hbusy (by simp [h])⟩
  | edited x => exact ⟨hattached, rfl, hfree, hbusy⟩
  | _ => exact ⟨hattached, hdelivered, hfree, hbusy⟩

lemma Steps.steady {as : List Act} (h : Steps as l l') (hl : l.Steady) : l'.Steady := by
  induction h with
  | refl l => exact hl
  | head hstep _ ih => exact ih (hstep.steady hl)

end Ledger

end BlockText

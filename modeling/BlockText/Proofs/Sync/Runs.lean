import BlockText.Sync.Session
import Mathlib.Data.List.Basic

/-!
# Runs of a session

A `Move` is one thing that happens to a session: the user types or edits blocks, somebody requests a
job, a timer runs out, a queued task is started, a call is held back, let through or answered, or
the language service changes its mind.  Moves come in any order, so the runs of a session are the
lists of moves.  `Session.acts` lists what others did in a run, in order: the texts that were typed,
the edits with the events that they delivered, the requests, the services.

Nothing is left to do at rest (`Session.AtRest`), and a service is `Buildable` if every program that
it reads can be shown, whatever the workspace looks like.
-/

namespace BlockText

open Syntax

/-! ## Moves -/

/-- One thing that happens to a session. -/
inductive Move
  /-- Somebody replaces the text. -/
  | write (text : String) (origin : ChangeOrigin)
  /-- Somebody edits the blocks, in one operation or several. -/
  | edit (x : Edit Unit)
  /-- Somebody requests a job and does not wait for the queue. -/
  | request (request : Request)
  /-- The language service answers in this way from now on. -/
  | serve (language : LanguageService)
  | hold (gate : Gate)
  | release (gate : Gate)
  /-- The call that waits is answered; later ones are held back as before. -/
  | resume
  /-- The first queued task is started. -/
  | startNext
  /-- The timer of the text runs out. -/
  | textTimer
  /-- The timer of the blocks runs out. -/
  | graphTimer
  | settle
  | flush
  | advance (ms : ℕ)

/-- What others do to a session, as far as it decides about jobs. -/
inductive Act
  /-- The user changes the text into this one. -/
  | typed (text : String)
  | edited (x : Edit Unit)
  /-- The workspace delivers an event. -/
  | fired (event : Event)
  | requested (request : Request)
  | served (language : LanguageService)

namespace Move

/-- The session after a move. -/
def apply (s : Session) : Move → Session
  | write text origin => s.setText text origin
  | edit x => (s.edit x).2
  | request r => { s with tickets := s.tickets + 1 }.start ⟨s.tickets, r, false⟩
  | serve language => { s with language }
  | hold gate => s.hold gate
  | release gate => s.release gate
  | resume => s.resume
  | startNext => s.startNext
  | textTimer => { s with textTimer := s.textTimer.flush.2 }.textSettled s.textTimer.flush.1
  | graphTimer => { s with graphTimer := s.graphTimer.flush.2 }.graphSettled s.graphTimer.flush.1
  | settle => s.settle
  | flush => s.flush
  | advance ms => s.advance ms

/-- What others do in a move.  A text that is there already is not typed. -/
def acts (s : Session) : Move → List Act
  | write text .user => if text = s.editor.content then [] else [.typed text]
  | edit x => .edited x :: (x.run s.workspace).2.events.map .fired
  | request r => [.requested r]
  | serve language => [.served language]
  | _ => []

end Move

namespace Act

/-- The text that was typed. -/
def typedText? : Act → Option String
  | typed text => some text
  | _ => none

/-- The event that was delivered. -/
def event? : Act → Option Event
  | fired e => some e
  | _ => none

end Act

namespace Session

/-- The session after some moves. -/
def run (s : Session) (moves : List Move) : Session := moves.foldl Move.apply s

/-- What others do in some moves, in order. -/
def acts (s : Session) : List Move → List Act
  | [] => []
  | m :: rest => m.acts s ++ (m.apply s).acts rest

/-- The texts into which the user changes the text in some moves. -/
def typed (s : Session) (moves : List Move) : List String := (s.acts moves).filterMap Act.typedText?

/-- The events of the workspace in some moves. -/
def fired (s : Session) (moves : List Move) : List Event := (s.acts moves).filterMap Act.event?

variable (s : Session)

@[simp] lemma run_nil : s.run [] = s := rfl

@[simp] lemma run_cons (m : Move) (rest : List Move) :
    s.run (m :: rest) = (m.apply s).run rest := rfl

@[simp] lemma run_append (moves rest : List Move) :
    s.run (moves ++ rest) = (s.run moves).run rest := List.foldl_append

variable {s} in
/-- What others do in some moves they do in one of them. -/
lemma exists_of_mem_acts {moves : List Move} {a : Act} (h : a ∈ s.acts moves) :
    ∃ m ∈ moves, ∃ s', a ∈ m.acts s' := by
  induction moves generalizing s with
  | nil => cases h
  | cons m rest ih =>
    rcases List.mem_append.mp h with h | h
    · exact ⟨m, List.mem_cons_self, s, h⟩
    · obtain ⟨m', hm', s', ha⟩ := ih h
      exact ⟨m', List.mem_cons_of_mem m hm', s', ha⟩

variable {s} in
/-- Others make just the requests that are among the moves. -/
lemma request_of_mem_acts {moves : List Move} {r : Request} (h : .requested r ∈ s.acts moves) :
    .request r ∈ moves := by
  obtain ⟨m, hm, s', ha⟩ := exists_of_mem_acts h
  cases m with
  | request r' =>
    obtain rfl : r = r' := by simpa [Move.acts] using ha
    exact hm
  | write text origin => cases origin <;> simp [Move.acts] at ha
  | _ => simp [Move.acts] at ha

variable {s} in
/-- The language service changes just as it does among the moves. -/
lemma serve_of_mem_acts {moves : List Move} {language : LanguageService}
    (h : .served language ∈ s.acts moves) : .serve language ∈ moves := by
  obtain ⟨m, hm, s', ha⟩ := exists_of_mem_acts h
  cases m with
  | serve language' =>
    obtain rfl : language = language' := by simpa [Move.acts] using ha
    exact hm
  | write text origin => cases origin <;> simp [Move.acts] at ha
  | _ => simp [Move.acts] at ha

variable {s} in
/-- Others make just the edits that are among the moves. -/
lemma edit_of_mem_acts {moves : List Move} {x : Edit Unit} (h : .edited x ∈ s.acts moves) :
    .edit x ∈ moves := by
  obtain ⟨m, hm, s', ha⟩ := exists_of_mem_acts h
  cases m with
  | edit x' =>
    obtain rfl : x = x' := by simpa [Move.acts] using ha
    exact hm
  | write text origin => cases origin <;> simp [Move.acts] at ha
  | _ => simp [Move.acts] at ha

/-- No timer is armed, no task is queued, and no job runs or waits. -/
structure AtRest (s : Session) : Prop where
  textTimer : s.textTimer.isPending = false
  graphTimer : s.graphTimer.isPending = false
  queue : s.queue = []
  busy : s.machine.busy = false
  pendingSource : s.machine.pendingSource = none
  pendingGraph : s.machine.pendingGraph = false

end Session

/-! ## Programs that can be shown -/

/-- The program can be shown: its identities are numbers, and its blocks can be built, whatever the
workspace looks like. -/
def Syntax.Program.Buildable (p : Program) : Prop :=
  (∃ n, p.toDatum.maxIdentity = .ok n) ∧ ∀ ws, ∃ changed, ((Edit.build p).run ws).1 = .ok changed

/-- All programs that the service reads can be shown. -/
def LanguageService.Buildable (language : LanguageService) : Prop :=
  ∀ source p, language.parse source = .ok p → p.Buildable

end BlockText

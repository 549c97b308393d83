import BlockText.Proofs.Sync.Texts

/-!
# One job at a time

What a session tells about jobs comes in rounds.  A round is the report that a job has started, then
the requests that have met it, and then the report that it has ended, in the same direction.
Between two moves at most one job runs, and only while it waits for an answer; so what was told is
some whole rounds, followed by the beginning of one if a job runs.  Without one the machine is free
and nothing waits.
-/

namespace BlockText

open Syntax

namespace SyncEvent

/-- The event reports on jobs, and not on what is highlighted. -/
def isAboutJobs : SyncEvent → Bool
  | highlight _ _ => false
  | _ => true

/-- The event reports a request that has met a running job. -/
def isAboutWaiting : SyncEvent → Bool
  | coalesced _ | dropped _ => true
  | _ => false

lemma isAboutJobs_of_isAboutWaiting {e : SyncEvent} (h : e.isAboutWaiting = true) :
    e.isAboutJobs = true := by
  cases e with
  | highlight block lines => cases h
  | _ => rfl

lemma Ends.isAboutJobs {e : SyncEvent} {d : Direction} (h : e.Ends d) : e.isAboutJobs = true := by
  obtain ⟨_, _, rfl⟩ | ⟨_, _, rfl⟩ := h <;> rfl

end SyncEvent

/-! ## Rounds -/

/-- What is told about a job that has ended. -/
structure Round where
  direction : Direction
  /-- The requests that met the job. -/
  waits : List SyncEvent
  ending : SyncEvent
  isAboutWaiting : ∀ e ∈ waits, e.isAboutWaiting = true
  ends : ending.Ends direction

/-- What is told about a job, in order. -/
def Round.events (r : Round) : List SyncEvent := .started r.direction :: r.waits ++ [r.ending]

/-- What is told about a job that has not ended. -/
def Opens (d : Direction) (events : List SyncEvent) : Prop :=
  ∃ waits : List SyncEvent, (∀ e ∈ waits, e.isAboutWaiting = true) ∧ events = .started d :: waits

lemma opens_started (d : Direction) : Opens d [.started d] := ⟨[], by simp, rfl⟩

lemma Opens.concat {d : Direction} {events : List SyncEvent} {e : SyncEvent} (h : Opens d events)
    (he : e.isAboutWaiting = true) : Opens d (events ++ [e]) := by
  obtain ⟨waits, hwaits, rfl⟩ := h
  refine ⟨waits ++ [e], fun e' he' => ?_, rfl⟩
  rcases List.mem_append.mp he' with he' | he'
  · exact hwaits e' he'
  · rwa [List.mem_singleton.mp he']

/-- The end of the job makes a round. -/
lemma Opens.exists_round {d : Direction} {events : List SyncEvent} {e : SyncEvent}
    (h : Opens d events) (he : e.Ends d) : ∃ r : Round, r.events = events ++ [e] := by
  obtain ⟨waits, hwaits, rfl⟩ := h
  exact ⟨⟨d, waits, e, hwaits, he⟩, rfl⟩

/-- What is told of the last job: something only while that waits for an answer. -/
def Phase.Tells : Phase → List SyncEvent → Prop
  | called call, last => Opens call.direction last
  | _, last => last = []

namespace Ledger

variable {l l' : Ledger} {as : List Act}

/-- What has been told about jobs is some rounds, and the beginning of one while a job waits. -/
def Rounded (l : Ledger) : Prop :=
  ∃ (rounds : List Round) (last : List SyncEvent),
    l.events.filter SyncEvent.isAboutJobs = rounds.flatMap Round.events ++ last ∧ l.phase.Tells last

/-- A job starts where none runs. -/
private lemma Rounded.starts (h : l.Rounded) (hphase : l.phase.Tells = (· = [])) (d : Direction) :
    ∃ rounds : List Round, (l.tell (.started d)).events.filter SyncEvent.isAboutJobs =
      rounds.flatMap Round.events ++ [.started d] := by
  obtain ⟨rounds, last, hevents, hlast⟩ := h
  rw [hphase] at hlast
  obtain rfl : last = [] := hlast
  exact ⟨rounds, by simp [tell, hevents, SyncEvent.isAboutJobs]⟩

/-- A request meets the job that runs. -/
private lemma Rounded.waits {call : ServiceCall} {e : SyncEvent} (h : l.Rounded)
    (hphase : l.phase = .called call) (he : e.isAboutWaiting = true) : (l.tell e).Rounded := by
  obtain ⟨rounds, last, hevents, hlast⟩ := h
  have hopen : Opens call.direction last := by rwa [hphase] at hlast
  have htells : (l.tell e).phase.Tells (last ++ [e]) := by
    rw [show (l.tell e).phase = .called call from hphase]
    exact hopen.concat he
  have hjobs : e.isAboutJobs = true := SyncEvent.isAboutJobs_of_isAboutWaiting he
  exact ⟨rounds, last ++ [e], by simp [tell, hevents, hjobs], htells⟩

/-- A job ends that runs. -/
private lemma exists_rounds_of_ends {events : List SyncEvent} {rounds : List Round}
    {last : List SyncEvent} {d : Direction} {e : SyncEvent}
    (hevents : events.filter SyncEvent.isAboutJobs = rounds.flatMap Round.events ++ last)
    (hlast : Opens d last) (he : e.Ends d) : ∃ rounds : List Round,
      (events ++ [e]).filter SyncEvent.isAboutJobs = rounds.flatMap Round.events ++ [] := by
  obtain ⟨r, hr⟩ := hlast.exists_round he
  exact ⟨rounds ++ [r], by simp [hevents, hr, he.isAboutJobs]⟩

/-- Where programs can be shown, every step continues the last round or begins a new one. -/
lemma Step.rounded (h : Step l as l') (hl : l.Rounded) (hlanguage : l.language.Buildable) :
    l'.Rounded := by
  have hstarts := hl.starts
  have hwaits : ∀ {call e}, l.phase = .called call → e.isAboutWaiting = true →
      (l.tell e).Rounded := hl.waits
  obtain ⟨rounds, last, hevents, hlast⟩ := hl
  cases h with
  | parse h =>
    obtain ⟨rounds, hrounds⟩ := hstarts (by rw [h]; rfl) .textToGraph
    exact ⟨rounds, _, hrounds, opens_started _⟩
  | generate p h =>
    obtain ⟨rounds, hrounds⟩ := hstarts (by rw [h]; rfl) .graphToText
    exact ⟨rounds, _, hrounds, opens_started _⟩
  | refuse message h =>
    obtain ⟨rounds, hrounds⟩ := hstarts (by rw [h]; rfl) .graphToText
    obtain ⟨rounds, hrounds⟩ := exists_rounds_of_ends hrounds (opens_started .graphToText)
      (.inr ⟨message, none, rfl⟩)
    exact ⟨rounds, [], hrounds, rfl⟩
  | keep text h =>
    rw [h] at hlast
    exact ⟨rounds, last, hevents, hlast⟩
  | write text h =>
    rw [h] at hlast
    obtain ⟨rounds, hrounds⟩ := exists_rounds_of_ends hevents hlast (.inl ⟨true, false, rfl⟩)
    exact ⟨rounds, [], hrounds, rfl⟩
  | finish drawn h he =>
    rw [h] at hlast
    obtain ⟨rounds, hrounds⟩ := exists_rounds_of_ends hevents hlast he
    exact ⟨rounds, [], hrounds, rfl⟩
  | crash drawn h hl => exact absurd hlanguage hl
  | nextText h | nextGraph h | rest h | start h =>
    rw [h] at hlast
    exact ⟨rounds, last, hevents, hlast⟩
  | waitText h hq | waitGraph h hq | dropGraph h hq => exact hwaits h rfl
  | select e lines h =>
    exact ⟨rounds, last, by simpa [tell, SyncEvent.isAboutJobs] using hevents, hlast⟩
  | _ => exact ⟨rounds, last, hevents, hlast⟩

lemma Steps.rounded (h : Steps as l l') (hl : l.Rounded) (hlanguage : l.language.Buildable)
    (has : ServesBuildable as) : l'.Rounded := by
  induction h with
  | refl l => exact hl
  | head hstep _ ih =>
    obtain ⟨hfirst, hlater⟩ := servesBuildable_append.mp has
    exact ih (hstep.rounded hl hlanguage) (hstep.buildable hlanguage hfirst) hlater

end Ledger

namespace Session

/-- One job at a time: in every run of a session whose programs can be shown, what has been told
about jobs is some rounds, each with one start, the requests that met the job, and one end in the
same direction.  Either that is all, no job runs, the machine is free and nothing waits; or another
job has started, waits for an answer, and some requests have met it. -/
theorem jobs_come_in_rounds (settings : Settings) (language : LanguageService) (text : String)
    (isPersistent : Bool) (moves : List Move) (hlanguage : language.Buildable)
    (hserve : ∀ language, .serve language ∈ moves → language.Buildable) :
    ∃ (rounds : List Round) (last : List SyncEvent),
      ((new settings language text isPersistent).run moves).events.filter SyncEvent.isAboutJobs =
        rounds.flatMap Round.events ++ last ∧
      (last = [] ∧ ((new settings language text isPersistent).run moves).waiting = none ∧
          ((new settings language text isPersistent).run moves).machine = {} ∨
        ∃ t call, ((new settings language text isPersistent).run moves).waiting = some (t, call) ∧
          ((new settings language text isPersistent).run moves).machine.busy = true ∧
          Opens call.direction last) := by
  have hnew := steady_new settings language text isPersistent
  have hrounded : (new settings language text isPersistent).view.Rounded := ⟨[], [], rfl, rfl⟩
  set s := new settings language text isPersistent with hs
  have hsteps := steps_run hnew moves
  have hserved : Ledger.ServesBuildable (s.acts moves) := fun language h =>
    hserve language (serve_of_mem_acts h)
  obtain ⟨hattached, hdelivered, hfree, hbusy⟩ := hsteps.steady hnew
  obtain ⟨rounds, last, hevents, hlast⟩ := hsteps.rounded hrounded hlanguage hserved
  refine ⟨rounds, last, hevents, ?_⟩
  rcases hwaiting : (s.run moves).waiting with _ | ⟨t, call⟩
  · have hphase : (s.run moves).phase = .idle := by rw [phase, hwaiting]
    have hnone : (s.run moves).phase.Tells last := hlast
    rw [hphase] at hnone
    exact .inl ⟨hnone, rfl, hfree hphase⟩
  · have hphase : (s.run moves).phase = .called call := by rw [phase, hwaiting]
    have hopen : (s.run moves).phase.Tells last := hlast
    rw [hphase] at hopen
    exact .inr ⟨t, call, rfl, hbusy (by simp [view, ledger, hphase]), hopen⟩

/-- Texts that are typed while another one is being read start no second job, and in the end all
jobs have ended. -/
theorem jobs_come_in_rounds_hasty :
    LanguageService.sample.Buildable ∧
      ((new {} .sample).run hastyMoves).events =
        [.started .textToGraph, .coalesced .textToGraph] ∧
      ∃ rounds : List Round, ((new {} .sample).run (hastyMoves ++ restMoves)).events.filter
        SyncEvent.isAboutJobs = rounds.flatMap Round.events := by
  refine ⟨LanguageService.sample_buildable, rfl, ?_⟩
  have hrest := atRest_run_append {} .sample "" true hastyMoves
  obtain ⟨rounds, last, hevents, ⟨rfl, -⟩ | ⟨t, call, -, hbusy, -⟩⟩ :=
    jobs_come_in_rounds {} .sample "" true (hastyMoves ++ restMoves)
      LanguageService.sample_buildable (by simp [hastyMoves, restMoves])
  · exact ⟨rounds, by rw [hevents, List.append_nil]⟩
  · exact absurd (hrest.busy.symm.trans hbusy) Bool.false_ne_true

end Session

end BlockText

import BlockText.Proofs.Build.Showing
import BlockText.Proofs.Sync.Ledger

/-!
# Sessions take the steps of their ledgers

Every function of a session is a sequence of steps of its ledger, so every run of a session is one,
with the acts of the run as labels.  What holds of the ledgers that steps lead to therefore holds of
sessions, whatever happens to them and in whatever order.
-/

namespace BlockText

open Syntax Ledger

namespace SyncMachine

variable {m : SyncMachine}

/-- A busy machine keeps the text of a request for later. -/
lemma requestText_of_busy (h : m.busy = true) (source : String) :
    m.requestText source = (none, { m with pendingSource := some source }) := if_pos h

/-- A free machine starts a text job at once. -/
lemma requestText_of_free (h : m.busy = false) (source : String) :
    m.requestText source = (some (.text source), { m with busy := true }) := by
  simp [requestText, h]

/-- A busy machine keeps a graph request for later when requests coalesce, and drops it
otherwise. -/
lemma requestGraph_of_busy (h : m.busy = true) (coalesce : Bool) :
    m.requestGraph coalesce = (none, if coalesce then { m with pendingGraph := true } else m) :=
  if_pos h

/-- A free machine starts a graph job at once. -/
lemma requestGraph_of_free (h : m.busy = false) (coalesce : Bool) :
    m.requestGraph coalesce = (some .graph, { m with busy := true }) := by
  simp [requestGraph, h]

end SyncMachine

namespace Session

/-- The ledger of a session whose job is in the given phase. -/
def ledger (s : Session) (phase : Phase) : Ledger where
  phase
  machine := s.machine
  typing := s.textTimer.armed.map (·.2)
  editing := s.graphTimer.armed.isSome
  queue := s.queue.map (·.request)
  coalesce := s.settings.coalesceGraph
  isAttached := s.isAttached
  language := s.language
  workspace := s.workspace
  content := s.editor.content
  isPersistent := s.isPersistent
  persisted := s.persisted
  parsed := s.parsed
  events := s.events
  sightings := s.sightings
  history := s.history

/-- Between two moves a job that runs waits for an answer. -/
def phase (s : Session) : Phase :=
  match s.waiting with
  | some (_, call) => .called call
  | none => .idle

/-- The ledger of a session between two moves. -/
def view (s : Session) : Ledger := s.ledger s.phase

variable {s : Session}

/-- A session that waits for no service shows an idle ledger. -/
lemma view_of_waiting_eq_none (h : s.waiting = none) : s.view = s.ledger .idle := by
  rw [view, phase, h]

/-! ## Jobs -/

/-- The phase after the first part of a job. -/
def afterBegin : Option ServiceCall → Phase
  | some call => .called call
  | none => .ended

/-- The phase after the answer to a call. -/
def afterAnswer : Option String → Phase
  | some text => .called (.persist text)
  | none => .ended

/-- The second session differs from the first one by what a part of a job does: timers, queue, gates
and machine are as before, and so is what waits. -/
structure Worked (s s' : Session) : Prop where
  queue : s'.queue = s.queue
  textTimer : s'.textTimer = s.textTimer
  graphTimer : s'.graphTimer = s.graphTimer
  held : s'.held = s.held
  machine : s'.machine = s.machine
  waiting : s'.waiting = s.waiting

/-- The first part of a job is one step. -/
lemma step_beginJob (job : SyncJob) (s : Session) : Worked s (s.beginJob job).2 ∧
    Step (s.ledger (.ready job)) []
      ((s.beginJob job).2.ledger (afterBegin (s.beginJob job).1)) := by
  cases job with
  | text source => exact ⟨⟨rfl, rfl, rfl, rfl, rfl, rfl⟩, .parse rfl⟩
  | graph =>
    unfold beginJob
    rcases hrun : s.workspace.compile s.counter s.settings.indentWidth with ⟨e | p, counter⟩
    · simp only [emit, note, hrun]
      exact ⟨⟨rfl, rfl, rfl, rfl, rfl, rfl⟩, .refuse _ rfl⟩
    · simp only [emit, note, hrun]
      exact ⟨⟨rfl, rfl, rfl, rfl, rfl, rfl⟩, .generate p rfl ⟨s.counter, s.settings.indentWidth,
        by simp only [ledger, hrun]⟩⟩

/-- What the answer to a call leads to: one step, after which the job has ended, waits for another
answer, or is dropped with everything that waits. -/
structure Answered (s : Session) (call : ServiceCall) (r : Except WorkspaceError (Option String))
    (s' : Session) : Prop where
  worked : Worked s s'
  step : match r with
    | .ok kept => Step (s.ledger (.called call)) [] (s'.ledger (afterAnswer kept))
    | .error _ => Step (s.ledger (.called call)) []
        ({ s' with machine := {}, history := s'.history ++ [Moment.broken s'.workspace] }.ledger
          .idle)

/-- The program that was read is shown, or it is one that cannot be shown. -/
lemma answered_showProgram {source : String} {p : Program}
    (hparse : s.language.parse source = .ok p) :
    Answered s (.parse source) ((s.showProgram p).1.map fun _ => none) (s.showProgram p).2 := by
  unfold showProgram
  cases hcounter : s.counter.reconcile p.toDatum with
  | error f =>
    have hlanguage : ¬ s.language.Buildable := fun hlanguage => by
      obtain ⟨⟨n, hn⟩, -⟩ := hlanguage source p hparse
      simp [IdCounter.reconcile, hn, bind, Except.bind, pure, Except.pure] at hcounter
    have hcrash : Step (s.ledger (.called (.parse source))) [] _ :=
      .crash [] rfl hlanguage .same (.inl rfl)
    rw [List.append_nil] at hcrash
    exact ⟨⟨rfl, rfl, rfl, rfl, rfl, rfl⟩, hcrash⟩
  | ok counter =>
    rcases hbuild : (Edit.build p).run s.workspace with ⟨e | changed, ws⟩
    · have hws : ws = ((Edit.build p).run s.workspace).2 := by rw [hbuild]
      simp only [draw, runEdit, hbuild]
      have hredrawn : s.workspace.Redrawn s.language ws := hws ▸ .built hparse
      refine ⟨⟨rfl, rfl, rfl, rfl, rfl, rfl⟩,
        Step.crash [.drawn s.workspace ws] rfl (fun hlanguage => ?_) hredrawn (.inr rfl)⟩
      obtain ⟨changed, hchanged⟩ := (hlanguage source p hparse).2 s.workspace
      rw [hbuild] at hchanged
      cases hchanged
    · have hws : ws = ((Edit.build p).run s.workspace).2 := by rw [hbuild]
      simp only [draw, runEdit, hbuild]
      refine ⟨⟨rfl, rfl, rfl, rfl, rfl, rfl⟩, .finish [_] rfl (.inl ⟨changed, false, rfl⟩)
        (hws ▸ .built hparse) (fun _ hcall => ?_) nofun⟩
      obtain rfl := ServiceCall.parse.inj hcall
      refine ⟨rfl, fun _ _ he => ?_, nofun⟩
      cases he
      exact ⟨p, hparse, hbuild⟩

/-- The failure to read a text is shown. -/
lemma answered_textFailed {source : String} (message : String) :
    Answered s (.parse source) ((s.textFailed message).1.map fun _ => none)
      (s.textFailed message).2 := by
  obtain ⟨_, ws, hshow, -⟩ := (Edit.yields_showError message s.workspace).exists_run
  have hws : ws = ((Edit.showError message).run s.workspace).2 := by rw [hshow]
  unfold textFailed
  simp only [draw, runEdit, hshow]
  refine ⟨⟨rfl, rfl, rfl, rfl, rfl, rfl⟩, .finish [_] rfl (.inr ⟨message, _, rfl⟩)
    (hws ▸ .failed message) (fun _ _ => ⟨rfl, nofun, fun _ _ he => ?_⟩) nofun⟩
  cases he
  exact hws

/-- A text that was written replaces the one before, or comes too late. -/
lemma answered_showText {p : Program} (text before : String) :
    Answered s (.generate p before) (.ok (s.showText text before).1)
      (s.showText text before).2 := by
  unfold showText
  split
  case isTrue hlate =>
    refine ⟨⟨rfl, rfl, rfl, rfl, rfl, rfl⟩, .finishWriting rfl rfl (.inl ⟨false, true, rfl⟩)
      fun _ he => ?_⟩
    cases he
    refine ⟨rfl, p, before, rfl, ?_⟩
    simpa [ledger, Option.isSome_iff_ne_none] using hlate
  case isFalse hearly =>
    obtain ⟨hpending, hcontent⟩ : s.machine.pendingSource = none ∧ s.editor.content = before := by
      simpa using hearly
    split
    case isTrue hnew =>
      have hfresh : (s.ledger (.called (.generate p before))).Fresh text before :=
        ⟨hcontent, hpending, by simpa using hnew⟩
      dsimp only
      split
      case isTrue hkept =>
        exact ⟨⟨rfl, rfl, rfl, rfl, rfl, rfl⟩, .keep text rfl hfresh hkept⟩
      case isFalse hkept =>
        have hkept : s.isPersistent = false := Bool.eq_false_iff.mpr hkept
        exact ⟨⟨rfl, rfl, rfl, rfl, rfl, rfl⟩, .write text rfl hfresh hkept⟩
    case isFalse =>
      exact ⟨⟨rfl, rfl, rfl, rfl, rfl, rfl⟩,
        .finishWriting rfl rfl (.inl ⟨false, false, rfl⟩) nofun⟩

/-- The answer to a call is one step. -/
lemma answered (call : ServiceCall) (s : Session) :
    Answered s call (s.answer call).1 (s.answer call).2 := by
  cases call with
  | parse source =>
    cases hparse : s.language.parse source with
    | ok p =>
      simp only [answer, hparse]
      exact answered_showProgram hparse
    | error e =>
      simp only [answer, hparse]
      exact answered_textFailed e.readingMessage
  | generate p before =>
    cases hgenerate : s.language.generate p s.settings.mode with
    | ok text =>
      simp only [answer, hgenerate]
      exact answered_showText text before
    | error e =>
      simp only [answer, hgenerate]
      exact ⟨⟨rfl, rfl, rfl, rfl, rfl, rfl⟩, .finishWriting rfl rfl (.inr ⟨_, none, rfl⟩) nofun⟩
  | persist text =>
    exact ⟨⟨rfl, rfl, rfl, rfl, rfl, rfl⟩, .finishWriting rfl rfl (.inl ⟨true, false, rfl⟩) nofun⟩

/-- The result of an answer is what the answer says of it. -/
lemma answered_of_eq {call : ServiceCall} {r : Except WorkspaceError (Option String)} {s' : Session}
    (h : s.answer call = (r, s')) : Answered s call r s' := by
  have hanswered := answered call s
  rwa [h] at hanswered

/-- A job that waits is chosen, and one less waits. -/
lemma step_next {job : SyncJob} {machine : SyncMachine}
    (h : s.machine.finish = (some job, machine)) :
    Step (s.ledger .ended) [] ({ s with machine }.ledger (.ready job)) ∧
      machine.load < s.machine.load := by
  unfold SyncMachine.finish at h
  cases hsource : s.machine.pendingSource with
  | some source =>
    simp only [hsource, Prod.mk.injEq, Option.some.injEq] at h
    obtain ⟨rfl, rfl⟩ := h
    exact ⟨.nextText rfl hsource, by simp [SyncMachine.load, hsource]⟩
  | none =>
    cases hgraph : s.machine.pendingGraph with
    | true =>
      simp only [hsource, hgraph, if_true, Prod.mk.injEq, Option.some.injEq] at h
      obtain ⟨rfl, hmachine⟩ := h
      obtain rfl : machine = { s.machine with pendingGraph := false } := by
        simp [← hmachine, hsource]
      exact ⟨.nextGraph rfl hsource hgraph, by simp [SyncMachine.load, hsource, hgraph]⟩
    | false => simp [hsource, hgraph] at h

/-- Nothing waits, and the machine is free. -/
lemma step_rest {machine : SyncMachine} (h : s.machine.finish = (none, machine)) :
    Step (s.ledger .ended) [] ({ s with machine }.ledger .idle) := by
  unfold SyncMachine.finish at h
  cases hsource : s.machine.pendingSource with
  | some source => simp [hsource] at h
  | none =>
    cases hgraph : s.machine.pendingGraph with
    | true => simp [hsource, hgraph] at h
    | false =>
      simp only [hsource, hgraph, Bool.false_eq_true, if_false, Prod.mk.injEq, true_and] at h
      obtain rfl : machine = {} := by rw [← h, ← hsource, ← hgraph]
      exact .rest rfl hsource hgraph

/-- Runs the jobs that wait: `run` does so from every session that differs in other things than the
machine. -/
def Runs (run : SyncJob → Session → Session) (m : SyncMachine) : Prop :=
  ∀ (s : Session) (job : SyncJob), s.waiting = none → s.machine.load < m.load →
    Steps [] (s.ledger (.ready job)) (run job s).view

/-- After a job, the next one is chosen and runs. -/
lemma steps_nextJob {run : SyncJob → Session → Session} (hrun : Runs run s.machine)
    (hwaiting : s.waiting = none) : Steps [] (s.ledger .ended) (s.nextJob run).view := by
  unfold nextJob
  rcases hfinish : s.machine.finish with ⟨_ | job, machine⟩
  · rw [view_of_waiting_eq_none (by exact hwaiting)]
    exact (step_rest hfinish).steps
  · obtain ⟨hstep, hload⟩ := step_next hfinish
    exact .head hstep (hrun _ job hwaiting hload)

/-- The answer to a call, and the jobs that wait. -/
lemma steps_complete {t : Task} {call : ServiceCall} {run : SyncJob → Session → Session}
    (hrun : Runs run s.machine) (hwaiting : s.waiting = none) :
    Steps [] (s.ledger (.called call)) (s.complete t call run).view := by
  unfold complete
  rcases hanswer : s.answer call with ⟨e | _ | text, s'⟩
  · obtain ⟨hworked, hstep⟩ := answered_of_eq hanswer
    have hidle : s'.waiting = none := hworked.waiting.trans hwaiting
    change Steps [] _ (view { s' with
      machine := {}, failures := s'.failures ++ [(t.ticket, e)],
      history := s'.history ++ [.broken s'.workspace] })
    rw [view_of_waiting_eq_none (by exact hidle)]
    exact hstep.steps
  · obtain ⟨hworked, hstep⟩ := answered_of_eq hanswer
    exact .head hstep (steps_nextJob (by rwa [hworked.machine]) (hworked.waiting.trans hwaiting))
  · obtain ⟨hworked, hstep⟩ := answered_of_eq hanswer
    refine .head hstep ?_
    dsimp only
    split
    · exact .refl _
    · have hkept : Step (s'.ledger (.called (.persist text))) []
          ((s'.textShown true).ledger .ended) :=
        .finishWriting rfl rfl (.inl ⟨true, false, rfl⟩) nofun
      have hruns : Runs run (s'.textShown true).machine := by
        change Runs run s'.machine
        rwa [hworked.machine]
      exact .head hkept (steps_nextJob hruns (hworked.waiting.trans hwaiting))

/-- A job runs with those that wait: there is fuel for all of them. -/
lemma steps_drain (fuel : ℕ) (t : Task) (job : SyncJob) (hwaiting : s.waiting = none)
    (hfuel : s.machine.load < fuel) :
    Steps [] (s.ledger (.ready job)) (drain fuel t job s).view := by
  induction fuel generalizing s job with
  | zero => exact absurd hfuel (Nat.not_lt_zero _)
  | succ fuel ih =>
    obtain ⟨hworked, hstep⟩ := step_beginJob job s
    have hrun : Runs (fun job s => drain fuel t job s) s.machine := by
      intro s' job' hs' hload
      exact ih job' hs' (by omega)
    unfold drain
    rcases hbegin : s.beginJob job with ⟨_ | call, s'⟩
    · rw [hbegin] at hworked hstep
      exact .head hstep (steps_nextJob (by rwa [hworked.machine]) (hworked.waiting.trans hwaiting))
    · rw [hbegin] at hworked hstep
      refine .head hstep ?_
      dsimp only
      split
      · exact .refl _
      · exact steps_complete (by rwa [hworked.machine]) (hworked.waiting.trans hwaiting)

/-! ## Tasks -/

/-- The ledger with a request in front of the queue. -/
def viewBefore (r : Request) (s : Session) : Ledger := { s.view with queue := r :: s.view.queue }

/-- A task that is started while no job runs becomes one. -/
private lemma steps_start_idle (hs : s.view.Steady) (hwaiting : s.waiting = none) (t : Task) :
    Steps [] (s.viewBefore t.request) (s.start t).view := by
  obtain ⟨ticket, request, isOwn⟩ := t
  have hphase : s.phase = .idle := by rw [phase, hwaiting]
  have hfree : s.machine.busy = false := by
    have hmachine : s.machine = {} := hs.free hphase
    rw [hmachine]
  have hstart : Step (s.viewBefore request) []
      ({ s with machine := { s.machine with busy := true } }.ledger (.ready request.job)) :=
    .start hphase rfl
  refine .head hstart ?_
  unfold start
  cases request with
  | text source =>
    simp only [SyncMachine.requestText_of_free hfree]
    exact steps_drain _ _ _ hwaiting (Nat.lt_succ_self _)
  | graph =>
    simp only [SyncMachine.requestGraph_of_free hfree]
    exact steps_drain _ _ _ hwaiting (Nat.lt_succ_self _)

/-- A task that is started while a job runs waits or is dropped. -/
private lemma steps_start_busy (hs : s.view.Steady) (hwaiting : s.waiting ≠ none) (t : Task) :
    Steps [] (s.viewBefore t.request) (s.start t).view := by
  obtain ⟨ticket, request, isOwn⟩ := t
  obtain ⟨⟨t', call⟩, hcall⟩ := Option.ne_none_iff_exists'.mp hwaiting
  have hphase : s.phase = .called call := by rw [phase, hcall]
  have hbusy : s.machine.busy = true := hs.busy (by simp [view, ledger, hphase])
  unfold start
  cases request with
  | text source =>
    simp only [SyncMachine.requestText_of_busy hbusy]
    have hstep : Step (s.viewBefore (.text source)) [] _ := .waitText hphase rfl
    exact hstep.steps
  | graph =>
    cases hcoalesce : s.settings.coalesceGraph with
    | true =>
      simp only [SyncMachine.requestGraph_of_busy hbusy]
      have hstep : Step (s.viewBefore .graph) [] _ := .waitGraph hphase rfl hcoalesce
      exact hstep.steps
    | false =>
      simp only [SyncMachine.requestGraph_of_busy hbusy]
      have hstep : Step (s.viewBefore .graph) [] _ := .dropGraph hphase rfl hcoalesce
      exact hstep.steps

/-- A task is started: its job runs, or it waits, or it is dropped. -/
lemma steps_start (hs : s.view.Steady) (t : Task) :
    Steps [] (s.viewBefore t.request) (s.start t).view := by
  by_cases hwaiting : s.waiting = none
  · exact steps_start_idle hs hwaiting t
  · exact steps_start_busy hs hwaiting t

/-- Starting the next pending job takes the view there in steps without an event. -/
lemma steps_startNext (hs : s.view.Steady) : Steps [] s.view s.startNext.view := by
  unfold startNext
  cases hqueue : s.queue with
  | nil => exact .refl _
  | cons t rest =>
    have hview : s.view = ({ s with queue := rest }).viewBefore t.request := by
      simp [viewBefore, view, ledger, phase, hqueue]
    have hrest : ({ s with queue := rest } : Session).view.Steady :=
      ⟨hs.isAttached, hs.delivered, hs.free, hs.busy⟩
    rw [hview]
    exact steps_start hrest t

/-- Settling takes the view there in steps without an event. -/
lemma steps_settle (hs : s.view.Steady) : Steps [] s.view s.settle.view := by
  have hfold : ∀ (tasks : List Task) (s : Session), s.view.Steady →
      Steps [] s.view (tasks.foldl (fun s _ => s.startNext) s).view := by
    intro tasks
    induction tasks with
    | nil => exact fun s _ => .refl _
    | cons t rest ih =>
      intro s hs
      have hfirst := steps_startNext hs
      exact hfirst.silent (ih s.startNext (hfirst.steady hs))
  exact hfold s.queue s hs

/-! ## Calls that are held back -/

/-- Resuming takes the view there in steps without an event. -/
lemma steps_resume (s : Session) : Steps [] s.view s.resume.view := by
  unfold resume
  rcases hwaiting : s.waiting with _ | ⟨t, call⟩
  · exact .refl _
  · have hview : s.view = { s with waiting := none }.ledger (.called call) := by
      simp [view, ledger, phase, hwaiting]
    rw [hview]
    refine steps_complete (fun s' job hs' _ => ?_) rfl
    exact steps_drain _ t job hs' (Nat.lt_succ_self _)

/-- Releasing a gate takes the view there in steps without an event. -/
lemma steps_release (gate : Gate) (s : Session) : Steps [] s.view (s.release gate).view := by
  unfold release
  dsimp only
  split
  · exact steps_resume { s with held := s.held.filter (· != gate) }
  · exact .refl _

/-! ## Timers -/

/-- Spawning a request puts it at the end of the queue in the view. -/
lemma view_spawn (r : Request) (s : Session) :
    (s.spawn r).view = { s.view with queue := s.view.queue ++ [r] } := by
  simp [view, ledger, spawn, enqueue, phase]

/-- The text whose timer was armed is queued. -/
lemma steps_textSettled (now : ℕ) (s : Session) :
    Steps [] s.view ({ s with textTimer := s.textTimer.cancel, now }.textSettled
      (s.textTimer.armed.map Prod.snd)).view := by
  cases harmed : s.textTimer.armed with
  | none =>
    have hview : ({ s with textTimer := s.textTimer.cancel, now } : Session).view = s.view := by
      simp [view, ledger, phase, harmed, Debouncer.cancel]
    exact hview ▸ .refl _
  | some armed =>
    have htyping : s.view.typing = some armed.2 := by simp [view, ledger, harmed]
    have hstep : Step s.view [] _ := .settleText htyping
    rw [Option.map_some, textSettled, view_spawn]
    exact hstep.steps

/-- The edits whose timer was armed are queued. -/
lemma steps_graphSettled (now : ℕ) (s : Session) :
    Steps [] s.view ({ s with graphTimer := s.graphTimer.cancel, now }.graphSettled
      (s.graphTimer.armed.map Prod.snd)).view := by
  cases harmed : s.graphTimer.armed with
  | none =>
    have hview : ({ s with graphTimer := s.graphTimer.cancel, now } : Session).view = s.view := by
      simp [view, ledger, phase, harmed, Debouncer.cancel]
    exact hview ▸ .refl _
  | some armed =>
    have hstep : Step s.view [] _ := .settleGraph (by simp [view, ledger, harmed])
    rw [Option.map_some, graphSettled, view_spawn]
    exact hstep.steps

/-- Time passes until the text has settled. -/
lemma steps_expireText (hs : s.view.Steady) (now : ℕ) :
    Steps [] s.view (s.expireText now).view := by
  unfold expireText Debouncer.expire
  cases harmed : s.textTimer.armed with
  | none => exact .refl _
  | some armed =>
    by_cases hdue : armed.1 ≤ now
    · have hsettled := steps_textSettled armed.1 s
      rw [harmed] at hsettled
      simp only [hdue, if_true]
      exact hsettled.silent (steps_settle (hsettled.steady hs))
    · simp only [hdue, if_false]
      exact .refl _

/-- Time passes until the edits have settled. -/
lemma steps_expireGraph (hs : s.view.Steady) (now : ℕ) :
    Steps [] s.view (s.expireGraph now).view := by
  unfold expireGraph Debouncer.expire
  cases harmed : s.graphTimer.armed with
  | none => exact .refl _
  | some armed =>
    by_cases hdue : armed.1 ≤ now
    · have hsettled := steps_graphSettled armed.1 s
      rw [harmed] at hsettled
      simp only [hdue, if_true]
      exact hsettled.silent (steps_settle (hsettled.steady hs))
    · simp only [hdue, if_false]
      exact .refl _

/-- Advancing the clock takes the view there in steps without an event. -/
lemma steps_advance (hs : s.view.Steady) (ms : ℕ) : Steps [] s.view (s.advance ms).view := by
  unfold advance
  dsimp only
  split
  · have htext := steps_expireText hs (s.now + ms)
    exact htext.silent (steps_expireGraph (htext.steady hs) (s.now + ms))
  · have hgraph := steps_expireGraph hs (s.now + ms)
    exact hgraph.silent (steps_expireText (hgraph.steady hs) (s.now + ms))

/-- Queueing a text leaves the timer of the blocks alone. -/
private lemma textSettled_graphTimer (source : Option String) (s : Session) (d : Debouncer Unit) :
    { s with graphTimer := d }.textSettled source = { s.textSettled source with graphTimer := d } ∧
      (s.textSettled source).graphTimer = s.graphTimer := by
  cases source <;> exact ⟨rfl, rfl⟩

/-- Flushing takes the view there in steps without an event. -/
lemma steps_flush (hs : s.view.Steady) : Steps [] s.view s.flush.view := by
  have htext := steps_textSettled s.now s
  set s₁ := ({ s with textTimer := s.textTimer.cancel } : Session).textSettled
    (s.textTimer.armed.map Prod.snd) with hs₁
  have hgraph := htext.silent (steps_graphSettled s₁.now s₁)
  have hflush : s.flush = ({ s₁ with graphTimer := s₁.graphTimer.cancel }.graphSettled
      (s₁.graphTimer.armed.map Prod.snd)).settle := by
    obtain ⟨hset, hkept⟩ := textSettled_graphTimer (s.textTimer.armed.map Prod.snd)
      { s with textTimer := s.textTimer.cancel } s.graphTimer.cancel
    rw [hs₁, hkept, ← hset]
    rfl
  rw [hflush]
  exact hgraph.silent (steps_settle (hgraph.steady hs))

/-! ## Changes -/

/-- An event of the workspace is followed. -/
lemma steps_follow (e : Event) (s : Session) : Step s.view [.fired e] (s.follow e).view := by
  unfold follow
  split
  case isTrue h => exact .select e _ (by simpa using h)
  case isFalse =>
    split
    case isTrue h => exact .ignore e h
    case isFalse h =>
      have hchange : e.type.isCosmetic = false := Bool.eq_false_iff.mpr h
      unfold graphChanged
      split
      · exact .change e hchange
      · rw [view_spawn]
        exact .changeNow e hchange

/-- The events of an edit are followed one after another. -/
lemma steps_follows (events : List Event) (s : Session) :
    Steps (events.map .fired) s.view (events.foldl follow s).view := by
  induction events generalizing s with
  | nil => exact .refl _
  | cons e rest ih => exact .head (steps_follow e s) (ih (s.follow e))

/-- The events of an edit are followed after it. -/
lemma edit_eq (h : s.isAttached = true) (x : Edit Unit) :
    (s.edit x).2 = (x.run s.workspace).2.events.foldl follow
      (({ s with workspace := { (x.run s.workspace).2 with events := [] } } : Session).note
        (.edited s.workspace { (x.run s.workspace).2 with events := [] })) := if_pos h

/-- An edit takes the view there in the edit itself and the events it fires. -/
lemma steps_edit (hs : s.view.Steady) (x : Edit Unit) :
    Steps (.edited x :: (x.run s.workspace).2.events.map .fired) s.view (s.edit x).2.view := by
  have hfirst : Step s.view [.edited x]
      (({ s with workspace := { (x.run s.workspace).2 with events := [] } } : Session).note
        (.edited s.workspace { (x.run s.workspace).2 with events := [] })).view := .edited x
  rw [edit_eq hs.isAttached]
  exact .head hfirst (steps_follows _ _)

/-- A text that the user changes starts the timer, and no other text does. -/
lemma steps_setText (hs : s.view.Steady) (text : String) (origin : ChangeOrigin) :
    Steps ((Move.write text origin).acts s) s.view (s.setText text origin).view := by
  have hattached : s.isAttached = true := hs.isAttached
  by_cases htext : text = s.editor.content
  · cases origin <;> simpa [setText, Move.acts, htext] using Steps.refl _
  · cases origin with
    | user =>
      have hset : s.setText text .user = { s with
          editor := { s.editor with content := text }
          textTimer := s.textTimer.call s.now text
          history := s.history ++ [.typed text] } := by
        simp [setText, note, htext, hattached]
      have hstep : Step s.view [.typed text] (s.setText text .user).view := by
        rw [hset]
        exact .typed text
      simpa [Move.acts, htext] using hstep.steps
    | sync =>
      have hset : s.setText text .sync = { s with
          editor := { s.editor with content := text }
          history := s.history ++ [.typed text] } := by
        simp [setText, note, htext]
      rw [hset]
      exact (Step.replaced text).steps

/-! ## Moves and runs -/

/-- A move is a sequence of steps, labelled with what others do in it. -/
lemma steps_apply (hs : s.view.Steady) (m : Move) : Steps (m.acts s) s.view (m.apply s).view := by
  cases m with
  | write text origin => exact steps_setText hs text origin
  | edit x => exact steps_edit hs x
  | request r =>
    have hticket : ({ s with tickets := s.tickets + 1 } : Session).view.Steady := hs
    exact .head (.requested r) (steps_start hticket ⟨s.tickets, r, false⟩)
  | serve language => exact (Step.served language).steps
  | hold gate =>
    change Steps [] s.view (s.hold gate).view
    unfold hold
    split <;> exact .refl _
  | release gate => exact steps_release gate s
  | resume => exact steps_resume s
  | startNext => exact steps_startNext hs
  | textTimer => exact steps_textSettled s.now s
  | graphTimer => exact steps_graphSettled s.now s
  | settle => exact steps_settle hs
  | flush => exact steps_flush hs
  | advance ms => exact steps_advance hs ms

/-- A run is a sequence of steps, labelled with what others do in it. -/
theorem steps_run (hs : s.view.Steady) (moves : List Move) :
    Steps (s.acts moves) s.view (s.run moves).view := by
  induction moves generalizing s with
  | nil => exact .refl _
  | cons m rest ih =>
    have hfirst := steps_apply hs m
    exact hfirst.trans (ih (hfirst.steady hs))

/-- A new session is steady. -/
lemma steady_new (settings : Settings) (language : LanguageService) (text : String)
    (isPersistent : Bool) : (new settings language text isPersistent).view.Steady :=
  ⟨rfl, rfl, fun _ => rfl, fun h => absurd rfl h⟩

end Session

end BlockText

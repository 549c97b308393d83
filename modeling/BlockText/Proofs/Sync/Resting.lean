import BlockText.Proofs.Sync.Simulation

/-!
# Coming to rest

A job leaves the timers, the queue and the gates alone, and it waits only where calls are held back.
So if all gates are opened one after the other and everything is settled, the session is at rest,
whatever has happened to it before.
-/

namespace BlockText

open Syntax

namespace Session

variable {s s' s'' : Session} {t : Task} {run : SyncJob → Session → Session}

/-! ## Where a job waits -/

/-- The second session has the timers, the queue and the gates of the first one, and its job waits
only where calls are held back. -/
structure WorkedOff (s s' : Session) : Prop where
  queue : s'.queue = s.queue
  textTimer : s'.textTimer = s.textTimer
  graphTimer : s'.graphTimer = s.graphTimer
  held : s'.held = s.held
  waits : ∀ w ∈ s'.waiting, w.2.gate ∈ s'.held

/-- A part of a job before the rest. -/
lemma Worked.trans (h : Worked s s') (h' : WorkedOff s' s'') : WorkedOff s s'' :=
  ⟨h'.queue.trans h.queue, h'.textTimer.trans h.textTimer, h'.graphTimer.trans h.graphTimer,
    h'.held.trans h.held, h'.waits⟩

/-- `run` does whole jobs. -/
def DoesJobs (run : SyncJob → Session → Session) : Prop :=
  ∀ (job : SyncJob) (s : Session), s.waiting = none → WorkedOff s (run job s)

lemma Worked.workedOff (h : Worked s s') (hwaiting : s.waiting = none) : WorkedOff s s' := by
  refine ⟨h.queue, h.textTimer, h.graphTimer, h.held, fun w hw => ?_⟩
  rw [h.waiting, hwaiting] at hw
  cases hw

lemma workedOff_nextJob (hrun : DoesJobs run) (hwaiting : s.waiting = none) :
    WorkedOff s (s.nextJob run) := by
  unfold nextJob
  rcases s.machine.finish with ⟨_ | job, machine⟩
  · exact ⟨rfl, rfl, rfl, rfl, by simp [hwaiting]⟩
  · obtain ⟨hqueue, htext, hgraph, hheld, hwaits⟩ := hrun job { s with machine } hwaiting
    exact ⟨hqueue, htext, hgraph, hheld, hwaits⟩

lemma workedOff_complete {call : ServiceCall} (hrun : DoesJobs run) (hwaiting : s.waiting = none) :
    WorkedOff s (s.complete t call run) := by
  unfold complete
  rcases hanswer : s.answer call with ⟨e | _ | text, s'⟩
  · obtain ⟨hqueue, htext, hgraph, hheld, hwaits⟩ :=
      (answered_of_eq hanswer).worked.workedOff hwaiting
    exact ⟨hqueue, htext, hgraph, hheld, hwaits⟩
  · have hworked := (answered_of_eq hanswer).worked
    exact hworked.trans (workedOff_nextJob hrun (hworked.waiting.trans hwaiting))
  · have hworked := (answered_of_eq hanswer).worked
    dsimp only
    split
    case isTrue hgate =>
      refine ⟨hworked.queue, hworked.textTimer, hworked.graphTimer, hworked.held, ?_⟩
      rintro w ⟨⟩
      exact List.contains_iff_mem.mp hgate
    case isFalse =>
      have hshown : Worked s (s'.textShown true) := ⟨hworked.queue, hworked.textTimer,
        hworked.graphTimer, hworked.held, hworked.machine, hworked.waiting⟩
      exact hshown.trans (workedOff_nextJob hrun (hshown.waiting.trans hwaiting))

lemma doesJobs_drain (fuel : ℕ) (t : Task) : DoesJobs (drain fuel t) := by
  induction fuel with
  | zero => exact fun job s hs => ⟨rfl, rfl, rfl, rfl, by simp [drain, hs]⟩
  | succ fuel ih =>
    intro job s hs
    have hworked := (step_beginJob job s).1
    unfold drain
    rcases hbegin : s.beginJob job with ⟨_ | call, s'⟩
    · rw [hbegin] at hworked
      exact hworked.trans (workedOff_nextJob ih (hworked.waiting.trans hs))
    · rw [hbegin] at hworked
      dsimp only
      split
      case isTrue hgate =>
        refine ⟨hworked.queue, hworked.textTimer, hworked.graphTimer, hworked.held, ?_⟩
        rintro w ⟨⟩
        exact List.contains_iff_mem.mp hgate
      case isFalse => exact hworked.trans (workedOff_complete ih (hworked.waiting.trans hs))

/-! ## Settling with open gates -/

lemma workedOff_start (t : Task) (hwaiting : s.waiting = none) : WorkedOff s (s.start t) := by
  have hemit : ∀ machine e, WorkedOff s (({ s with machine } : Session).emit e) := fun machine e =>
    ⟨rfl, rfl, rfl, rfl, by simp [emit, note, hwaiting]⟩
  have hdrain : ∀ machine fuel job, WorkedOff s (drain fuel t job { s with machine }) := by
    intro machine fuel job
    obtain ⟨hqueue, htext, hgraph, hheld, hwaits⟩ :=
      doesJobs_drain fuel t job { s with machine } hwaiting
    exact ⟨hqueue, htext, hgraph, hheld, hwaits⟩
  unfold start
  split
  · rcases s.machine.requestText _ with ⟨_ | job, machine⟩
    · exact hemit machine _
    · exact hdrain machine _ job
  · dsimp only
    rcases s.machine.requestGraph s.settings.coalesceGraph with ⟨_ | job, machine⟩
    · exact hemit machine _
    · exact hdrain machine _ job

/-- No call is held back, and no job waits. -/
structure Open (s : Session) : Prop where
  held : s.held = []
  waiting : s.waiting = none

/-- Where no call is held back, jobs are done in the end. -/
lemma WorkedOff.isOpen (h : WorkedOff s s') (hheld : s.held = []) : s'.Open := by
  have hheld' : s'.held = [] := h.held.trans hheld
  refine ⟨hheld', Option.eq_none_iff_forall_not_mem.mpr fun w hw => ?_⟩
  have hgate := h.waits w hw
  rw [hheld'] at hgate
  cases hgate

/-- While no call is held back, the queue is worked off. -/
lemma settle_of_open (hs : s.Open) : s.settle.Open ∧ s.settle.queue = [] ∧
    s.settle.textTimer = s.textTimer ∧ s.settle.graphTimer = s.graphTimer := by
  have hfold : ∀ (tasks : List Task) (s : Session), s.Open → s.queue = tasks →
      let s' := tasks.foldl (fun s _ => s.startNext) s
      s'.Open ∧ s'.queue = [] ∧ s'.textTimer = s.textTimer ∧ s'.graphTimer = s.graphTimer := by
    intro tasks
    induction tasks with
    | nil => exact fun s hs hqueue => ⟨hs, hqueue, rfl, rfl⟩
    | cons t rest ih =>
      intro s hs hqueue
      have hnext : s.startNext = ({ s with queue := rest } : Session).start t := by
        rw [startNext, hqueue]
      have hworked := workedOff_start (s := { s with queue := rest }) t hs.waiting
      obtain ⟨hopen, hempty, htext, hgraph⟩ := ih s.startNext
        (hnext ▸ hworked.isOpen hs.held) (hnext ▸ hworked.queue)
      rw [List.foldl_cons]
      refine ⟨hopen, hempty, htext.trans ?_, hgraph.trans ?_⟩
      · rw [hnext]
        exact hworked.textTimer
      · rw [hnext]
        exact hworked.graphTimer
  exact hfold s.queue s hs rfl

/-- While no call is held back, settling brings a session to rest. -/
lemma atRest_flush (hs : s.view.Steady) (hopen : s.Open) : s.flush.AtRest := by
  have hsteady := (steps_flush hs).steady hs
  set s₁ := (({ s with
    textTimer := s.textTimer.cancel, graphTimer := s.graphTimer.cancel } : Session).textSettled
      (s.textTimer.armed.map Prod.snd)).graphSettled (s.graphTimer.armed.map Prod.snd) with hs₁
  have hflush : s.flush = s₁.settle := rfl
  have hkept : s₁.Open ∧ s₁.textTimer = s.textTimer.cancel ∧
      s₁.graphTimer = s.graphTimer.cancel := by
    rw [hs₁]
    cases s.textTimer.armed <;> cases s.graphTimer.armed <;>
      exact ⟨⟨hopen.held, hopen.waiting⟩, rfl, rfl⟩
  obtain ⟨hopen₁, htext, hgraph⟩ := hkept
  obtain ⟨hopen', hqueue, htext', hgraph'⟩ := settle_of_open hopen₁
  have hidle : s.flush.phase = .idle := by rw [phase, hflush, hopen'.waiting]
  have hmachine : s.flush.machine = {} := hsteady.free hidle
  refine ⟨?_, ?_, by rw [hflush, hqueue], by rw [hmachine], by rw [hmachine], by rw [hmachine]⟩
  · rw [hflush, htext', htext]
    rfl
  · rw [hflush, hgraph', hgraph]
    rfl

/-! ## Opening the gates -/

/-- Opening a gate lets the job go on that waits there; if it waits again, then somewhere else. -/
lemma release_waits (gate : Gate) (s : Session) :
    (s.release gate).held = s.held.filter (· != gate) ∧
      ∀ w ∈ (s.release gate).waiting, w.2.gate ≠ gate ∧
        (w ∈ s.waiting ∨ w.2.gate ∈ (s.release gate).held) := by
  rcases hwaiting : s.waiting with _ | ⟨t, call⟩
  · have hrelease : s.release gate = { s with held := s.held.filter (· != gate) } := by
      simp [release, hwaiting]
    rw [hrelease]
    exact ⟨rfl, by simp [hwaiting]⟩
  · by_cases hgate : call.gate = gate
    · have hrelease : s.release gate = resume { s with held := s.held.filter (· != gate) } := by
        simp [release, hwaiting, hgate]
      have hworked : WorkedOff { s with held := s.held.filter (· != gate), waiting := none }
          (s.release gate) := by
        rw [hrelease]
        simp only [resume, hwaiting]
        exact workedOff_complete (fun job s hs => doesJobs_drain _ t job s hs) rfl
      refine ⟨hworked.held, fun w hw => ?_⟩
      have hheld := hworked.waits w hw
      refine ⟨fun heq => ?_, .inr hheld⟩
      rw [hworked.held, heq] at hheld
      simp at hheld
    · have hrelease : s.release gate = { s with held := s.held.filter (· != gate) } := by
        simp [release, hwaiting, hgate]
      rw [hrelease]
      refine ⟨rfl, fun w hw => ?_⟩
      obtain rfl : (t, call) = w := Option.some.inj (hwaiting.symm.trans hw)
      exact ⟨hgate, .inl rfl⟩

/-- All gates are opened, and then everything is settled. -/
def restMoves : List Move := [.release .parse, .release .generate, .release .persist, .flush]

/-- Opening all gates and settling brings a session to rest, whatever has happened to it. -/
theorem atRest_run_restMoves (hs : s.view.Steady) : (s.run restMoves).AtRest := by
  set s₁ := s.release .parse with hs₁
  set s₂ := s₁.release .generate with hs₂
  set s₃ := s₂.release .persist with hs₃
  obtain ⟨hheld₁, hwaits₁⟩ := release_waits .parse s
  obtain ⟨hheld₂, hwaits₂⟩ := release_waits .generate s₁
  obtain ⟨hheld₃, hwaits₃⟩ := release_waits .persist s₂
  rw [← hs₁] at hheld₁ hwaits₁
  rw [← hs₂] at hheld₂ hwaits₂
  rw [← hs₃] at hheld₃ hwaits₃
  have hparse : .parse ∉ s₂.held := by simp [hheld₂, hheld₁]
  have hempty : s₃.held = [] := by
    refine List.eq_nil_iff_forall_not_mem.mpr fun gate hgate => ?_
    cases gate <;> simp [hheld₃, hheld₂, hheld₁] at hgate
  have hopen : s₃.Open := by
    refine ⟨hempty, Option.eq_none_iff_forall_not_mem.mpr fun w hw => ?_⟩
    obtain ⟨hpersist, hw₂⟩ := hwaits₃ w hw
    rw [hempty] at hw₂
    obtain ⟨hgenerate, hw₁⟩ := hwaits₂ w (hw₂.resolve_right List.not_mem_nil)
    have hnotParse : w.2.gate ≠ .parse := by
      rcases hw₁ with hw₁ | hw₁
      · exact (hwaits₁ w hw₁).1
      · exact fun heq => hparse (heq ▸ hw₁)
    cases hgate : w.2.gate with
    | parse => exact hnotParse hgate
    | generate => exact hgenerate hgate
    | persist => exact hpersist hgate
  have hsteady : s₃.view.Steady :=
    (steps_run hs [.release .parse, .release .generate, .release .persist]).steady hs
  exact atRest_flush hsteady hopen

/-- Every run of a session can be brought to rest. -/
lemma atRest_run_append (settings : Settings) (language : LanguageService) (text : String)
    (isPersistent : Bool) (moves : List Move) :
    ((new settings language text isPersistent).run (moves ++ restMoves)).AtRest := by
  have hsteady := steady_new settings language text isPersistent
  rw [run_append]
  exact atRest_run_restMoves ((steps_run hsteady moves).steady hsteady)

end Session

/-! ## A service -/

/-- A well-formed program whose identities are numbers can be shown. -/
lemma Syntax.Program.WellFormed.buildable {p : Program} (hp : p.WellFormed) {n : ℤ}
    (hn : p.toDatum.maxIdentity = .ok n) : p.Buildable :=
  ⟨⟨n, hn⟩, Edit.exists_build_ok hp⟩

/-- A service that rejects the empty text and reads all others as one program. -/
def LanguageService.sample : LanguageService where
  parse source :=
    if source.isEmpty then .error (.failed "ValueError" "empty") else .ok Workspace.sampleProgram
  generate _ _ := .ok "print(1)\n"

lemma LanguageService.sample_buildable : LanguageService.sample.Buildable := by
  have hidentity : Workspace.sampleProgram.toDatum.maxIdentity = .ok 0 := by cbv
  intro source p hparse
  have hp : Workspace.sampleProgram = p := by
    simp only [sample] at hparse
    split at hparse
    · cases hparse
    · exact Except.ok.inj hparse
  rw [← hp]
  exact Workspace.sampleProgram_wellFormed.buildable hidentity

end BlockText

import BlockText.Proofs.Sync.Edits

/-!
# No echo

A session reads no text that the user has not typed, and it writes the blocks at most once for every
event that changed them.  For the blocks this is a matter of counting: the jobs that have begun to
write them, together with those that are still to begin, grow in number only where an event changes
the blocks.  Jobs add nothing to either count, since showing a program or an error delivers no
event, and a text that a job writes is not taken for one that was typed.
-/

namespace BlockText

open Syntax

/-! ## What showing delivers -/

namespace Edit

/-- Showing a program delivers no event, also if the program is refused, and events are switched off
as often as before. -/
lemma silent_build (p : Program) (ws : Workspace) :
    Silent ws.muted ws.events ((build p).run ws).2 := (showSteps_silent.build p).run ⟨rfl, rfl⟩

/-- Showing an error delivers no event, and events are switched off as often as before. -/
lemma silent_showError (message : String) (ws : Workspace) :
    Silent ws.muted ws.events ((showError message).run ws).2 :=
  (showSteps_silent.showError message).run ⟨rfl, rfl⟩

end Edit

/-! ## Counting the jobs that write blocks -/

/-- The job that is about to begin, if it writes blocks. -/
def Phase.writes : Phase → ℕ
  | ready .graph => 1
  | _ => 0

namespace Ledger

variable {l l' : Ledger} {as : List Act}

/-- The jobs that have begun to write blocks, and those that are still to begin. -/
def writes (l : Ledger) : ℕ :=
  l.events.count (.started .graphToText) + l.phase.writes + l.machine.pendingGraph.toNat +
    l.queue.count .graph + l.editing.toNat

/-- The number of events that change the blocks. -/
def changes (as : List Act) : ℕ := (as.filterMap Act.event?).countP fun e => !e.type.isCosmetic

lemma changes_append (as bs : List Act) : changes (as ++ bs) = changes as + changes bs := by
  simp [changes]

lemma changes_fired {e : Event} (h : e.type.isCosmetic = false) : changes [.fired e] = 1 := by
  simp [changes, Act.event?, h]

/-- What reports the end of a job reports no start. -/
private lemma count_ends {e : SyncEvent} {d : Direction} (he : e.Ends d) (events : List SyncEvent) :
    (events ++ [e]).count (.started .graphToText) = events.count (.started .graphToText) := by
  obtain ⟨_, _, rfl⟩ | ⟨_, _, rfl⟩ := he <;> simp

/-- If nobody makes a request, the jobs that write blocks grow only by what changes the blocks. -/
lemma Step.writes_le (h : Step l as l') (hdirect : ∀ r, .requested r ∉ as) :
    l'.writes ≤ l.writes + changes as := by
  cases h with
  | parse h => simp [writes, tell, note, Phase.writes, h]
  | generate p h => simp [writes, tell, note, Phase.writes, h]
  | refuse message h => simp [writes, tell, Phase.writes, h]
  | keep text h => simp [writes, note, Phase.writes, h]
  | write text h => simp [writes, tell, note, Phase.writes, h]
  | finish drawn h he => simp [writes, tell, Phase.writes, count_ends he, h]
  | crash drawn h =>
    -- What waits is dropped.
    simp only [writes, Phase.writes, h, Bool.toNat_false]
    omega
  | nextText h hsource => simp [writes, Phase.writes, h]
  | nextGraph h hsource hgraph => simp [writes, Phase.writes, h, hgraph]
  | rest h hsource hgraph => simp [writes, Phase.writes, h, hgraph]
  | @start r rest h hq =>
    cases r with
    | text source => simp [writes, Phase.writes, Request.job, h, hq]
    | graph =>
      simp only [writes, Phase.writes, Request.job, h, hq, List.count_cons_self]
      omega
  | waitText h hq => simp [writes, tell, hq]
  | waitGraph h hq hcoalesce =>
    -- The request moves to the machine, where another one may wait already.
    simp only [writes, tell, hq, List.count_cons_self, Bool.toNat_true]
    simp only [List.count_append, List.count_singleton, reduceCtorEq, beq_iff_eq, if_false]
    omega
  | dropGraph h hq hcoalesce =>
    simp only [writes, tell, hq, List.count_cons_self]
    simp only [List.count_append, List.count_singleton, reduceCtorEq, beq_iff_eq, if_false]
    omega
  | settleText h => simp [writes]
  | settleGraph h =>
    simp only [writes, h, List.count_append, List.count_singleton_self, Bool.toNat_true,
      Bool.toNat_false]
    omega
  | select e lines h => simp [writes, tell]
  | change e h =>
    have hediting : l.editing.toNat ≤ 1 := Bool.toNat_le _
    simp only [writes, changes_fired h, Bool.toNat_true]
    omega
  | changeNow e h =>
    simp only [writes, changes_fired h, List.count_append, List.count_singleton_self]
    omega
  | requested r => exact absurd (List.mem_singleton.mpr rfl) (hdirect r)
  | _ => exact Nat.le_add_right _ _

lemma Steps.writes_le (h : Steps as l l') (hdirect : ∀ r, .requested r ∉ as) :
    l'.writes ≤ l.writes + changes as := by
  induction h with
  | refl l => exact Nat.le_add_right _ _
  | head hstep _ ih =>
    simp only [List.mem_append, not_or] at hdirect
    have hfirst := hstep.writes_le fun r => (hdirect r).1
    have hlater := ih fun r => (hdirect r).2
    rw [changes_append]
    omega

/-- A text is read only where a job begins. -/
lemma Step.parsed_eq (h : Step l as l') (hphase : l.phase.source? = none) :
    l'.parsed = l.parsed := by
  cases h with
  | parse h => simp [Phase.source?, h] at hphase
  | _ => rfl

end Ledger

namespace Session

/-! ## What jobs write -/

/-- From one session to the other no text was read, and no text was added to those that wait. -/
structure ReadsNothing (s s' : Session) : Prop where
  parsed : s'.parsed = s.parsed
  textTimer : s'.textTimer = s.textTimer
  queue : s'.queue = s.queue
  machine : s'.machine = s.machine

/-- A job has no text read but at its beginning, and it makes no requests. -/
lemma readsNothing_answer (call : ServiceCall) (s : Session) :
    ReadsNothing s (s.answer call).2 := by
  rcases hanswer : s.answer call with ⟨e | kept, s'⟩
  · obtain ⟨hworked, hstep⟩ := answered_of_eq hanswer
    exact ⟨hstep.parsed_eq rfl, hworked.textTimer, hworked.queue, hworked.machine⟩
  · obtain ⟨hworked, hstep⟩ := answered_of_eq hanswer
    exact ⟨hstep.parsed_eq rfl, hworked.textTimer, hworked.queue, hworked.machine⟩

/-- A text that is not the user's is not read. -/
lemma readsNothing_setText (text : String) (s : Session) :
    ReadsNothing s (s.setText text .sync) := by
  by_cases htext : text = s.editor.content
  · have hset : s.setText text .sync = s := by simp [setText, htext]
    rw [hset]
    exact ⟨rfl, rfl, rfl, rfl⟩
  · have hset : s.setText text .sync = { s with
        editor := { s.editor with content := text }
        history := s.history ++ [.typed text] } := by
      simp [setText, note, htext]
    rw [hset]
    exact ⟨rfl, rfl, rfl, rfl⟩

/-- No echo: in every run of a session in which nobody requests a job, only texts that were typed
are read, so at most as many, and the blocks are written at most as often as an event has changed
them.  Showing a program, also one that is refused, and showing an error deliver no event and leave
events switched off as often as before.  What a job does with an answer, writing a text among it,
and any text that is not the user's cause no text to be read. -/
theorem jobs_cause_no_jobs (settings : Settings) (language : LanguageService) (text : String)
    (isPersistent : Bool) (moves : List Move) (hdirect : ∀ r, .request r ∉ moves) :
    (((new settings language text isPersistent).run moves).parsed.Sublist
        ((new settings language text isPersistent).typed moves) ∧
      ((new settings language text isPersistent).run moves).parseCalls ≤
        ((new settings language text isPersistent).typed moves).length ∧
      ((new settings language text isPersistent).run moves).events.count (.started .graphToText) ≤
        ((new settings language text isPersistent).fired moves).countP
          fun e => !e.type.isCosmetic) ∧
      (∀ p ws, Edit.Silent ws.muted ws.events ((Edit.build p).run ws).2) ∧
      (∀ message ws, Edit.Silent ws.muted ws.events ((Edit.showError message).run ws).2) ∧
      (∀ (call : ServiceCall) (s : Session), ReadsNothing s (s.answer call).2) ∧
      ∀ (text : String) (s : Session), ReadsNothing s (s.setText text .sync) := by
  have hnew := steady_new settings language text isPersistent
  have hnothing : (new settings language text isPersistent).parsed = [] ∧
      (new settings language text isPersistent).view.awaited = [] ∧
      (new settings language text isPersistent).view.writes = 0 := ⟨rfl, rfl, rfl⟩
  set s := new settings language text isPersistent with hs
  obtain ⟨hparsed, hawaited, hwrites⟩ := hnothing
  have hsteps := steps_run hnew moves
  have hrequested : ∀ r, .requested r ∉ s.acts moves := fun r h =>
    hdirect r (request_of_mem_acts h)
  have htexts : (s.run moves).parsed.Sublist (s.typed moves) := by
    obtain ⟨read, hpasses, -⟩ := hsteps.texts hnew hrequested
    have hread : (s.run moves).parsed = read := by
      have hpassed : (s.run moves).parsed = s.parsed ++ read := hpasses.parsed
      rw [hpassed, hparsed, List.nil_append]
    have hkept := hpasses.kept
    rw [hawaited, List.nil_append] at hkept
    rw [hread]
    exact (List.sublist_append_left _ _).trans hkept
  have hjobs : (s.run moves).events.count (.started .graphToText) ≤
      (s.fired moves).countP fun e => !e.type.isCosmetic := by
    have hle : (s.run moves).view.writes ≤ s.view.writes + Ledger.changes (s.acts moves) :=
      hsteps.writes_le hrequested
    have hcount : (s.run moves).events.count (.started .graphToText) ≤
        (s.run moves).view.writes := by
      simp only [Ledger.writes, view, ledger]
      omega
    rw [hwrites, Nat.zero_add] at hle
    exact hcount.trans hle
  exact ⟨⟨htexts, htexts.length_le, hjobs⟩, Edit.silent_build, Edit.silent_showError,
    readsNothing_answer, readsNothing_setText⟩

/-- Of two texts that are typed at most two are read, and a block that is created is written at most
once. -/
theorem jobs_cause_no_jobs_hasty :
    (∀ r, .request r ∉ hastyMoves ++ createMove :: restMoves) ∧
      ((new {} .sample).run (hastyMoves ++ createMove :: restMoves)).parseCalls ≤ 2 ∧
      ((new {} .sample).run (hastyMoves ++ createMove :: restMoves)).events.count
        (.started .graphToText) ≤ 1 := by
  have hdirect : ∀ r, .request r ∉ hastyMoves ++ createMove :: restMoves := by
    simp [hastyMoves, createMove, restMoves]
  obtain ⟨⟨-, hparse, hwrite⟩, -⟩ := jobs_cause_no_jobs {} .sample "" true _ hdirect
  exact ⟨hdirect, hparse, hwrite⟩

end Session

end BlockText

import BlockText.Proofs.Sync.Resting

/-!
# Where typed texts go

A text that the user has typed waits in one of four places before it is read: at its timer, in the
queue, in the machine, and in a job that is about to begin.  The places are emptied in this order
from the other end, so the texts that wait are in the order in which they were typed.  On the way a
text can be replaced by a newer one, at the timer and in the machine, and nothing else happens to it
unless a program cannot be shown.  So what has been read is a part of what was typed, and the newest
text is among what has been read or still waits.
-/

namespace BlockText

open Syntax

/-- The text that a job is about to have read. -/
def Phase.source? : Phase → Option String
  | ready (.text source) => some source
  | _ => none

/-- The text that is to be shown. -/
def Request.source? : Request → Option String
  | text source => some source
  | graph => none

namespace Ledger

/-- The texts that have not been read yet, oldest first. -/
def awaited (l : Ledger) : List String :=
  l.phase.source?.toList ++ l.machine.pendingSource.toList ++ l.queue.filterMap Request.source? ++
    l.typing.toList

variable {l l' l'' : Ledger} {as bs : List Act} {typed typed' read read' : List String}

/-- Some texts are typed and some are read; those that have not been read wait in order, but for
some that were replaced. -/
structure PassesOn (l : Ledger) (typed read : List String) (l' : Ledger) : Prop where
  parsed : l'.parsed = l.parsed ++ read
  kept : (read ++ l'.awaited).Sublist (l.awaited ++ typed)

/-- The newest text has been read last or waits as the last one. -/
def KeepsNewest (l : Ledger) (typed read : List String) (l' : Ledger) : Prop :=
  (read ++ l'.awaited).getLast? = (l.awaited ++ typed).getLast?

lemma PassesOn.trans (h : PassesOn l typed read l') (h' : PassesOn l' typed' read' l'') :
    PassesOn l (typed ++ typed') (read ++ read') l'' where
  parsed := by rw [h'.parsed, h.parsed, List.append_assoc]
  kept := by
    have hfirst := h.kept.append_right typed'
    have hsecond := h'.kept.append_left read
    simp only [List.append_assoc] at hfirst hsecond ⊢
    exact hsecond.trans hfirst

lemma KeepsNewest.trans (h : KeepsNewest l typed read l') (h' : KeepsNewest l' typed' read' l'') :
    KeepsNewest l (typed ++ typed') (read ++ read') l'' := by
  unfold KeepsNewest at h h' ⊢
  simp only [List.getLast?_append] at h h' ⊢
  rw [← Option.or_assoc, h', Option.or_assoc, h, Option.or_assoc]

/-! ## One step -/

/-- In one step of a session in which nobody makes a request, texts are passed on, and the newest
one is lost only if a program cannot be shown. -/
lemma Step.texts (h : Step l as l') (hl : l.Steady) (hdirect : ∀ r, .requested r ∉ as) :
    ∃ read, PassesOn l (as.filterMap Act.typedText?) read l' ∧
      (l.language.Buildable → KeepsNewest l (as.filterMap Act.typedText?) read l') := by
  -- In most steps the texts that wait stay, or one of them moves to another place.
  have hmoved : ∀ {read : List String}, l'.parsed = l.parsed ++ read →
      read ++ l'.awaited = l.awaited ++ as.filterMap Act.typedText? →
      ∃ read, PassesOn l (as.filterMap Act.typedText?) read l' ∧
        (l.language.Buildable → KeepsNewest l (as.filterMap Act.typedText?) read l') := by
    intro read hparsed heq
    refine ⟨read, ⟨hparsed, by rw [heq]⟩, fun _ => ?_⟩
    unfold KeepsNewest
    rw [heq]
  cases h with
  | parse h => exact hmoved rfl (by simp [awaited, tell, note, Phase.source?, h])
  | generate p h | refuse message h =>
    exact hmoved (List.append_nil _).symm (by simp [awaited, tell, note, Phase.source?, h])
  | keep text h | write text h | finish drawn h =>
    exact hmoved (List.append_nil _).symm (by simp [awaited, tell, note, Phase.source?, h])
  | crash drawn h hbuild =>
    -- What waited in the machine is lost, but only because a program cannot be shown.
    refine ⟨[], ⟨(List.append_nil _).symm, ?_⟩, fun hl => absurd hl hbuild⟩
    simp [awaited, Phase.source?, h]
  | nextText h hsource | nextGraph h hsource | rest h hsource =>
    exact hmoved (List.append_nil _).symm (by simp [awaited, Phase.source?, h, hsource])
  | @start r rest h hq =>
    have hmachine : l.machine = {} := hl.free h
    refine hmoved (List.append_nil _).symm ?_
    cases r <;> simp [awaited, Phase.source?, Request.job, Request.source?, List.filterMap_cons,
      h, hq, hmachine]
  | @waitText _ source rest _ hq =>
    -- The text replaces the one that waited in the machine.
    refine ⟨[], ⟨(List.append_nil _).symm, ?_⟩, fun _ => ?_⟩
    · simp [awaited, tell, Request.source?, hq]
    · simp [KeepsNewest, awaited, tell, Request.source?, List.getLast?_cons, hq]
  | waitGraph h hq | dropGraph h hq =>
    exact hmoved (List.append_nil _).symm (by
      simp [awaited, tell, Request.source?, List.filterMap_cons, hq])
  | settleText h =>
    exact hmoved (List.append_nil _).symm (by simp [awaited, Request.source?, h])
  | settleGraph h =>
    exact hmoved (List.append_nil _).symm (by simp [awaited, Request.source?])
  | typed text =>
    -- The text replaces the one whose timer was armed.
    refine ⟨[], ⟨(List.append_nil _).symm, ?_⟩, fun _ => ?_⟩
    · simp [awaited, note, Act.typedText?]
    · simp [KeepsNewest, awaited, note, Act.typedText?]
  | requested r => exact absurd (List.mem_singleton.mpr rfl) (hdirect r)
  | changeNow e h =>
    exact hmoved (List.append_nil _).symm (by
      simp [awaited, Request.source?, List.filterMap_cons, Act.typedText?])
  | _ => exact hmoved (List.append_nil _).symm (by simp [awaited, tell, note, Act.typedText?])

/-! ## Runs -/

/-- All services among the acts read programs that can be shown. -/
def ServesBuildable (as : List Act) : Prop := ∀ language, .served language ∈ as → language.Buildable

lemma servesBuildable_append :
    ServesBuildable (as ++ bs) ↔ ServesBuildable as ∧ ServesBuildable bs := by
  simp only [ServesBuildable, List.mem_append, or_imp, forall_and]

lemma Step.buildable (h : Step l as l') (hl : l.language.Buildable) (has : ServesBuildable as) :
    l'.language.Buildable :=
  h.serves hl has

lemma Steps.buildable (h : Steps as l l') (hl : l.language.Buildable) (has : ServesBuildable as) :
    l'.language.Buildable := by
  induction h with
  | refl l => exact hl
  | head hstep _ ih =>
    obtain ⟨hfirst, hlater⟩ := servesBuildable_append.mp has
    exact ih (hstep.buildable hl hfirst) hlater

/-- In a run in which nobody makes a request, texts are passed on, and the newest one is lost only
if a program cannot be shown. -/
lemma Steps.texts (h : Steps as l l') (hl : l.Steady) (hdirect : ∀ r, .requested r ∉ as) :
    ∃ read, PassesOn l (as.filterMap Act.typedText?) read l' ∧
      (l.language.Buildable → ServesBuildable as →
        KeepsNewest l (as.filterMap Act.typedText?) read l') := by
  induction h with
  | refl l => exact ⟨[], ⟨by simp, by simp⟩, fun _ _ => by simp [KeepsNewest]⟩
  | head hstep hsteps ih =>
    simp only [List.mem_append, not_or] at hdirect
    obtain ⟨read, hpasses, hnewest⟩ := hstep.texts hl fun r => (hdirect r).1
    obtain ⟨read', hpasses', hnewest'⟩ := ih (hstep.steady hl) fun r => (hdirect r).2
    rw [List.filterMap_append]
    refine ⟨read ++ read', hpasses.trans hpasses', fun hbuild hserves => ?_⟩
    obtain ⟨hfirst, hlater⟩ := servesBuildable_append.mp hserves
    exact (hnewest hbuild).trans (hnewest' (hstep.buildable hbuild hfirst) hlater)

end Ledger

namespace Session

variable {s : Session}

/-- At rest no text waits. -/
lemma AtRest.awaited (h : s.AtRest) : s.view.awaited = [] := by
  have htyping : s.textTimer.armed = none := by simpa [Debouncer.isPending] using h.textTimer
  have hphase : s.phase.source? = none := by
    unfold phase
    split <;> rfl
  simp [Ledger.awaited, view, ledger, hphase, htyping, h.queue, h.pendingSource]

/-- In a run that ends at rest, the last text that is read is the newest one of those that waited
before and those that are typed. -/
lemma exists_read (hs : s.view.Steady) (hlanguage : s.language.Buildable) {moves : List Move}
    (hserve : ∀ language, .serve language ∈ moves → language.Buildable)
    (hdirect : ∀ r, .request r ∉ moves) (hrest : (s.run moves).AtRest) :
    ∃ read, (s.run moves).parsed = s.parsed ++ read ∧
      read.getLast? = (s.view.awaited ++ s.typed moves).getLast? := by
  have hrequested : ∀ r, .requested r ∉ s.acts moves := fun r h =>
    hdirect r (request_of_mem_acts h)
  have hserved : Ledger.ServesBuildable (s.acts moves) := fun language h =>
    hserve language (serve_of_mem_acts h)
  obtain ⟨read, hpasses, hnewest⟩ := (steps_run hs moves).texts hs hrequested
  have hlast := hnewest hlanguage hserved
  rw [Ledger.KeepsNewest, hrest.awaited, List.append_nil] at hlast
  exact ⟨read, hpasses.parsed, hlast⟩

/-- The newest text wins: in every run of a session in which nobody requests a job and all programs
that are read can be shown, if the session is at rest in the end, then the text that was read last
is the one that was typed last.  It was read after it had been typed, and nothing was read after
it. -/
theorem newest_text_read_last (settings : Settings) (language : LanguageService) (text : String)
    (isPersistent : Bool) (moves : List Move) (hlanguage : language.Buildable)
    (hserve : ∀ language, .serve language ∈ moves → language.Buildable)
    (hdirect : ∀ r, .request r ∉ moves)
    (hrest : ((new settings language text isPersistent).run moves).AtRest) :
    ((new settings language text isPersistent).run moves).parsed.getLast? =
        ((new settings language text isPersistent).typed moves).getLast? ∧
      ∀ before typed after, moves = before ++ .write typed .user :: after →
        typed ≠ ((new settings language text isPersistent).run before).editor.content →
        ((new settings language text isPersistent).run (before ++ [.write typed .user])).typed after
          = [] →
        ∃ stale, ((new settings language text isPersistent).run moves).parsed =
          ((new settings language text isPersistent).run before).parsed ++ stale ++ [typed] := by
  have hnew := steady_new settings language text isPersistent
  set s := new settings language text isPersistent with hs
  constructor
  · obtain ⟨read, hparsed, hlast⟩ := exists_read hnew hlanguage hserve hdirect hrest
    have hempty : s.parsed = [] ∧ s.view.awaited = [] := ⟨rfl, rfl⟩
    rw [hparsed, hempty.1, List.nil_append, hlast, hempty.2, List.nil_append]
  · rintro before typed after rfl hchange hafter
    have hsteady : (s.run before).view.Steady := (steps_run hnew before).steady hnew
    have hserved : Ledger.ServesBuildable (s.acts before) := fun language h =>
      hserve language (List.mem_append_left _ (serve_of_mem_acts h))
    have hbuildable : (s.run before).language.Buildable :=
      (steps_run hnew before).buildable hlanguage hserved
    rw [run_append] at hrest ⊢
    obtain ⟨read, hparsed, hlast⟩ := exists_read hsteady hbuildable
      (fun language h => hserve language (List.mem_append_right _ h))
      (fun r h => hdirect r (List.mem_append_right _ h)) hrest
    have htyped : (s.run before).typed (.write typed .user :: after) = [typed] := by
      rw [run_append, run_cons, run_nil] at hafter
      simp only [Session.typed, acts, Move.acts, if_neg hchange] at hafter ⊢
      simpa [Act.typedText?] using hafter
    rw [htyped, List.getLast?_concat] at hlast
    obtain ⟨stale, rfl⟩ := List.getLast?_eq_some_iff.mp hlast
    exact ⟨stale, by rw [hparsed, List.append_assoc]⟩

/-- Two texts are typed while another one is being read. -/
def hastyMoves : List Move :=
  [.hold .parse, .write "a" .user, .textTimer, .startNext, .write "b" .user, .textTimer, .startNext]

/-- Of the texts that are typed while another one is being read, the newer one is read last. -/
theorem newest_text_read_last_hasty :
    LanguageService.sample.Buildable ∧
      ((new {} .sample).run (hastyMoves ++ .write "c" .user :: restMoves)).AtRest ∧
      ∃ stale, ((new {} .sample).run (hastyMoves ++ .write "c" .user :: restMoves)).parsed =
        ((new {} .sample).run hastyMoves).parsed ++ stale ++ ["c"] := by
  have hrest : ((new {} .sample).run (hastyMoves ++ .write "c" .user :: restMoves)).AtRest :=
    atRest_run_append {} .sample "" true (hastyMoves ++ [.write "c" .user])
  refine ⟨LanguageService.sample_buildable, hrest, ?_⟩
  exact (newest_text_read_last {} .sample "" true _ LanguageService.sample_buildable
    (by simp [hastyMoves, restMoves]) (by simp [hastyMoves, restMoves]) hrest).2
    hastyMoves "c" restMoves rfl (by decide) rfl

end Session

end BlockText

import BlockText.Proofs.Sync.History
import BlockText.Proofs.Sync.Resting
import BlockText.Proofs.Workspace.Lasting

/-!
# Texts that cannot be read

When a text cannot be read, the workspace shows the error in place of the blocks, and from then on
no job writes over the text as long as the error is there. A job that writes the blocks reads a
program off them first, and there is none beside an error. No job is past that point when a text
turns out to be unreadable, since the job that read it is the only one that runs.

The error goes away when a text is shown, when somebody takes the block out that shows it, and when
a program that cannot be shown has taken its place.
-/

namespace BlockText

open Syntax

/-! ## Errors in place of blocks -/

namespace Workspace

variable {ws : Workspace}

/-- There is a block that shows an error. -/
def ShowsError (ws : Workspace) : Prop := ∃ id, ws.HasType id .syncError

lemma ShowsOnly.showsError {message : String} {viewport : Viewport}
    (h : ws.ShowsOnly message viewport) : ws.ShowsError := by
  obtain ⟨id, b, hblocks, ht, -⟩ := h.blocks
  refine ⟨id, b, ?_, ht⟩
  rw [block?, hblocks, entryAt?_cons, if_pos rfl]

/-- There is no program beside an error. -/
lemma ShowsError.not_compilesTo (h : ws.ShowsError) (p : Program) : ¬ ws.CompilesTo p := by
  obtain ⟨id, b, hb, ht⟩ := h
  rintro ⟨counter, indentWidth, hp⟩
  have hmem : id ∈ ws.ofType .syncError :=
    List.mem_map.mpr ⟨(id, b), List.mem_filter.mpr ⟨mem_of_entryAt? hb, by simpa using ht⟩, rfl⟩
  have hrejects : Compile.Ends (Compile.program ws indentWidth) (fun _ => False) True := by
    unfold Compile.program
    have htop : Compile.Ends (Compile.topStatements ws) (fun _ => False) True := by
      unfold Compile.topStatements
      cases hsync : ws.ofType .syncError with
      | nil => rw [hsync] at hmem; cases hmem
      | cons first rest => exact (Compile.ends_reject trivial).bind fun _ => False.elim
    exact htop.bind fun _ => False.elim
  exact hrejects.of_run (Prod.ext hp rfl)

end Workspace

/-! ## Moments that matter -/

namespace Moment

/-- A job reports that its text cannot be read. -/
def Fails : Moment → Prop
  | told (.failed .textToGraph _ _) _ => True
  | _ => False

instance : DecidablePred Fails
  | .told (.failed .textToGraph _ _) _ => isTrue trivial
  | .told (.failed .graphToText _ _) _ | .told (.started _) _ | .told (.done _ _ _) _
  | .told (.coalesced _) _ | .told (.dropped _) _ | .told (.highlight _ _) _ | .called _ _
  | .drawn _ _ | .wrote _ _ _ | .broken _ | .edited _ _ | .typed _ => isFalse id

lemma Fails.exists_told {m : Moment} (h : m.Fails) :
    ∃ message line ws, m = .told (.failed .textToGraph message line) ws := by
  unfold Fails at h
  split at h
  · exact ⟨_, _, _, rfl⟩
  · exact h.elim

/-- The error goes away: a text is shown, the block that shows the error is taken out, or a program
that cannot be shown has replaced it. -/
def Lifts : Moment → Prop
  | told (.done .textToGraph _ _) _ => True
  | edited before after => before.ShowsError ∧ ¬ after.ShowsError
  | broken after => ¬ after.ShowsError
  | _ => False

end Moment

/-- A text could not be read, and the error has not gone away since. -/
def Unread (h : List Moment) : Prop :=
  ∃ earlier m later, h = earlier ++ m :: later ∧ m.Fails ∧ ∀ x ∈ later, ¬ x.Lifts

lemma not_unread_nil : ¬ Unread [] := by
  rintro ⟨earlier, m, later, hsplit, -⟩
  simp at hsplit

lemma unread_concat {h : List Moment} {m : Moment} :
    Unread (h ++ [m]) ↔ m.Fails ∨ Unread h ∧ ¬ m.Lifts := by
  constructor
  · rintro ⟨earlier, m', later, hsplit, hfails, hlater⟩
    rcases List.eq_nil_or_concat later with rfl | ⟨later, m'', rfl⟩
    · obtain ⟨rfl, hm⟩ := List.append_inj' hsplit rfl
      exact .inl (List.singleton_inj.mp hm ▸ hfails)
    · rw [List.concat_eq_append, ← List.cons_append, ← List.append_assoc] at hsplit
      obtain ⟨hh, hm⟩ := List.append_inj' hsplit rfl
      obtain rfl := List.singleton_inj.mp hm
      simp only [List.concat_eq_append, List.forall_mem_append, List.forall_mem_singleton] at hlater
      exact .inr ⟨⟨earlier, m', later, hh, hfails, hlater.1⟩, hlater.2⟩
  · rintro (hfails | ⟨⟨earlier, m', later, rfl, hfails, hlater⟩, hm⟩)
    · exact ⟨h, m, [], rfl, hfails, by simp⟩
    · refine ⟨earlier, m', later ++ [m], by simp, hfails, ?_⟩
      simpa only [List.forall_mem_append, List.forall_mem_singleton] using ⟨hlater, hm⟩

/-- A moment is as it should be: nothing is written over a text that cannot be read, and a report of
such a text comes right after its error has been drawn, which is all that the workspace shows then,
in the same view. -/
structure Moment.Respects (earlier : List Moment) (m : Moment) : Prop where
  writes : m.Writes → ¬ Unread earlier
  fails : ∀ message line ws, m = .told (.failed .textToGraph message line) ws →
    ∃ before, [.drawn before ws] <:+ earlier ∧ ws.ShowsOnly message before.viewport

/-- A moment that neither writes nor reports an error is as it should be. -/
lemma Moment.respects_of_quiet {earlier : List Moment} {m : Moment} (hwrites : ¬ m.Writes)
    (hfails : ¬ m.Fails) : m.Respects earlier where
  writes := fun h => absurd h hwrites
  fails := by
    rintro message line ws rfl
    exact absurd trivial hfails

/-- The job waits for a text that it is going to write, or has one kept. -/
def Phase.Writes : Phase → Prop
  | called (.generate _ _) | called (.persist _) => True
  | _ => False

namespace Ledger

/-- Texts that cannot be read are safe: so far everything has been as it should be, the error of
such a text shows, and no job is about to write. -/
structure Guarded (l : Ledger) : Prop where
  respects : Chronicle (fun earlier m => m.Respects earlier) l.history
  showsError : Unread l.history → l.workspace.ShowsError
  writes : l.phase.Writes → ¬ Unread l.history

variable {l l' : Ledger} {as : List Act}

/-- After some moments that neither write nor report an error, texts are still safe if the error
still shows and no job has come to write. -/
lemma Guarded.quiet (hl : l.Guarded) (ms : List Moment) (hhistory : l'.history = l.history ++ ms)
    (hms : ∀ m ∈ ms, ¬ m.Writes ∧ ¬ m.Fails)
    (hshows : l.workspace.ShowsError → (∀ m ∈ ms, ¬ m.Lifts) → l'.workspace.ShowsError)
    (hwrites : l'.phase.Writes → ¬ Unread l.history) : l'.Guarded := by
  have hkept : Chronicle (fun earlier m => m.Respects earlier) (l.history ++ ms) ∧
      (Unread (l.history ++ ms) → Unread l.history ∧ ∀ m ∈ ms, ¬ m.Lifts) := by
    clear hhistory hshows
    induction ms using List.reverseRecOn with
    | nil => simpa using hl.respects
    | append_singleton ms m ih =>
      simp only [List.forall_mem_append, List.forall_mem_singleton] at hms ⊢
      obtain ⟨hrespects, hunread⟩ := ih hms.1
      rw [← List.append_assoc, chronicle_concat, unread_concat]
      refine ⟨⟨hrespects, Moment.respects_of_quiet hms.2.1 hms.2.2⟩, fun h => ?_⟩
      obtain ⟨hbefore, hm⟩ := h.resolve_left hms.2.2
      exact ⟨(hunread hbefore).1, (hunread hbefore).2, hm⟩
  rw [← hhistory] at hkept
  obtain ⟨hrespects, hunread⟩ := hkept
  exact ⟨hrespects, fun h => hshows (hl.showsError (hunread h).1) (hunread h).2,
    fun h hlater => hwrites h (hunread hlater).1⟩

/-- While no text is unread, jobs may write. -/
lemma Guarded.written (hl : l.Guarded) (hsafe : ¬ Unread l.history) (m m' : Moment)
    (hhistory : l'.history = l.history ++ [m] ++ [m']) (hm : ¬ m.Fails) (hm' : ¬ m'.Fails) :
    l'.Guarded := by
  have hfirst : ¬ Unread (l.history ++ [m]) := fun h =>
    hsafe ((unread_concat.mp h).resolve_left hm).1
  have hsecond : ¬ Unread l'.history := by
    rw [hhistory]
    exact fun h => hfirst ((unread_concat.mp h).resolve_left hm').1
  refine ⟨?_, fun h => absurd h hsecond, fun _ => hsecond⟩
  rw [hhistory]
  refine chronicle_concat.mpr ⟨chronicle_concat.mpr ⟨hl.respects, fun _ => hsafe, ?_⟩,
    fun _ => hfirst, ?_⟩
  · rintro message line ws rfl
    exact absurd trivial hm
  · rintro message line ws rfl
    exact absurd trivial hm'

section

attribute [local simp] tell note Moment.Writes Moment.Fails Moment.Lifts Phase.Writes

/-- A job ends, and texts stay safe that cannot be read. -/
private lemma guarded_finish {drawn : List Moment} {call : ServiceCall} {e : SyncEvent}
    {workspace : Workspace} (hl : l.Guarded) (he : e.Ends call.direction)
    (hread : ∀ source, call = .parse source → l.EndsReading source e workspace drawn)
    (hwritten : call.direction = .graphToText → l.EndsWriting call e workspace drawn) :
    Guarded { tell { l with workspace, history := l.history ++ drawn } e with phase := .ended } := by
  have hwrites : call.direction = .graphToText →
      Guarded { tell { l with workspace, history := l.history ++ drawn } e with
        phase := .ended } := by
    intro hcall
    obtain ⟨rfl, rfl, -⟩ := hwritten hcall
    rw [hcall] at he
    refine hl.quiet [.told e l.workspace] (by simp) ?_ (fun h _ => h) (by simp)
    rcases he with ⟨changed, discarded, rfl⟩ | ⟨message, line, rfl⟩ <;> simp
  cases call with
  | generate p before => exact hwrites rfl
  | persist text => exact hwrites rfl
  | parse source =>
    obtain ⟨rfl, hshown, hfailed⟩ := hread source rfl
    have he : e.Ends .textToGraph := he
    rcases he with ⟨changed, discarded, rfl⟩ | ⟨message, line, rfl⟩
    · exact hl.quiet [.drawn l.workspace workspace,
        .told (.done .textToGraph changed discarded) workspace] (by simp) (by simp)
        (fun _ h => by simp at h) (by simp)
    · -- The error has just been drawn.
      obtain ⟨_, ws, hshow, hshows, -⟩ := (Edit.yields_showError message l.workspace).exists_run
      obtain rfl : workspace = ws := by rw [hfailed message line rfl, hshow]
      refine ⟨?_, fun _ => hshows.showsError, by simp⟩
      refine chronicle_concat.mpr ⟨chronicle_concat.mpr ⟨hl.respects, ?_⟩, by simp, ?_⟩
      · exact Moment.respects_of_quiet (by simp) (by simp)
      · rintro message' line' ws' hm
        cases hm
        exact ⟨l.workspace, List.suffix_append _ _, hshows⟩

/-- Every step leaves texts safe that cannot be read. -/
theorem Step.guarded (h : Step l as l') (hl : l.Guarded) : l'.Guarded := by
  cases h with
  | @parse source h =>
    exact hl.quiet [.told (.started .textToGraph) l.workspace, .called (.parse source) l.content]
      (by simp) (by simp) (fun h _ => h) (by simp)
  | generate p h hp =>
    -- There is a program in the blocks, so no error shows.
    exact hl.quiet [.told (.started .graphToText) l.workspace,
        .called (.generate p l.content) l.content]
      (by simp) (by simp) (fun h _ => h)
      fun _ hunread => (hl.showsError hunread).not_compilesTo p hp
  | refuse message h =>
    exact hl.quiet [.told (.started .graphToText) l.workspace,
        .told (.failed .graphToText message) l.workspace]
      (by simp) (by simp) (fun h _ => h) (by simp)
  | keep text h hfresh hkept =>
    exact hl.written (hl.writes (by simp [h])) _ _ rfl (by simp) (by simp)
  | write text h hfresh hkept =>
    exact hl.written (hl.writes (by simp [h])) _ _ rfl (by simp) (by simp)
  | finish drawn h he hw hread hwritten => exact guarded_finish hl he hread hwritten
  | @crash drawn source workspace h _ _ hdrawn =>
    refine hl.quiet (drawn ++ [.broken workspace]) (by simp) ?_ (fun _ hlifts => ?_) (by simp)
    · rcases hdrawn with rfl | rfl <;> simp
    · simpa using hlifts (.broken workspace) (by simp)
  | waitText h hq =>
    exact hl.quiet [.told (.coalesced .textToGraph) l.workspace] rfl (by simp) (fun h _ => h)
      hl.writes
  | waitGraph h hq =>
    exact hl.quiet [.told (.coalesced .graphToText) l.workspace] rfl (by simp) (fun h _ => h)
      hl.writes
  | dropGraph h hq =>
    exact hl.quiet [.told (.dropped .graphToText) l.workspace] rfl (by simp) (fun h _ => h)
      hl.writes
  | typed text => exact hl.quiet [.typed text] rfl (by simp) (fun h _ => h) hl.writes
  | replaced text => exact hl.quiet [.typed text] rfl (by simp) (fun h _ => h) hl.writes
  | edited x =>
    refine hl.quiet [.edited l.workspace { (x.run l.workspace).2 with events := [] }] rfl (by simp)
      (fun hbefore hlifts => ?_) hl.writes
    by_contra hafter
    exact hlifts _ (List.mem_singleton_self _) ⟨hbefore, hafter⟩
  | select e lines h =>
    exact hl.quiet [.told (.highlight e.block lines) l.workspace] rfl (by simp) (fun h _ => h)
      hl.writes
  | @start r rest h hq => cases r <;> exact ⟨hl.respects, hl.showsError, by simp⟩
  | nextText | nextGraph | rest => exact ⟨hl.respects, hl.showsError, by simp⟩
  | _ => exact ⟨hl.respects, hl.showsError, hl.writes⟩

end

lemma Steps.guarded (h : Steps as l l') (hl : l.Guarded) : l'.Guarded := by
  induction h with
  | refl l => exact hl
  | head hstep _ ih => exact ih (hstep.guarded hl)

end Ledger

namespace Session

/-- In every run of a session, a text that cannot be read stays. When the failure is reported, the
workspace holds one block, which shows the message, no spans, and the view that it had before. From
then on no job replaces the text or has one kept until the error goes away: the text is the one that
was typed last, and no more texts are kept. The error goes away only when a text is shown, when an
edit takes out the block that shows the error, which of all operations only deleting and clearing
can do, and when a job breaks off because a service reads programs that cannot be shown. -/
theorem unreadable_text_stays (settings : Settings) (language : LanguageService) (text : String)
    (isPersistent : Bool) (moves : List Move) {earlier later : List Moment} {message : String}
    {line : Option ℤ} {ws : Workspace}
    (h : ((new settings language text isPersistent).run moves).history =
      earlier ++ .told (.failed .textToGraph message line) ws :: later) :
    (∃ before, [.drawn before ws] <:+ earlier ∧ ws.ShowsOnly message before.viewport) ∧
      (∀ meanwhile m rest, later = meanwhile ++ m :: rest → m.Writes → ∃ x ∈ meanwhile, x.Lifts) ∧
      ((∀ x ∈ later, ¬ x.Lifts) →
        ((new settings language text isPersistent).run moves).editor.content =
            (later.filterMap Moment.typed?).getLast?.getD (earlier.foldl Moment.textAfter text) ∧
          ((new settings language text isPersistent).run moves).persisted =
            earlier.filterMap Moment.kept?) ∧
      ∀ x ∈ later, x.Lifts →
        (∃ changed discarded ws', x = .told (.done .textToGraph changed discarded) ws') ∨
        (∃ before edit, .edit edit ∈ moves ∧ before.ShowsError ∧
          ¬ (edit.run before).2.ShowsError ∧
          ∀ op : Operation, edit = op.edit → op.Removes) ∨
        (∃ ws', x = .broken ws') ∧ ∃ language', (language' = language ∨ .serve language' ∈ moves) ∧
          ¬ language'.Buildable := by
  have hsteady := steady_new settings language text isPersistent
  obtain ⟨hadds, hedited, hbroken⟩ := recorded_run settings language text isPersistent moves
  set s := (new settings language text isPersistent).run moves with hs
  have hnew : (new settings language text isPersistent).view.Guarded :=
    ⟨chronicle_nil _, fun h => absurd h not_unread_nil, fun h => h.elim⟩
  have hguarded : s.view.Guarded := (steps_run hsteady moves).guarded hnew
  have hsilent : ∀ meanwhile m rest, later = meanwhile ++ m :: rest → m.Writes →
      ∃ x ∈ meanwhile, x.Lifts := by
    intro meanwhile m rest hlater hm
    by_contra hnone
    have hsplit : s.view.history =
        (earlier ++ .told (.failed .textToGraph message line) ws :: meanwhile) ++ m :: rest := by
      rw [List.append_assoc, List.cons_append, ← hlater]
      exact h
    refine (hguarded.respects _ m rest hsplit).writes hm
      ⟨earlier, _, meanwhile, rfl, trivial, fun x hx hlifts => hnone ⟨x, hx, hlifts⟩⟩
  refine ⟨(hguarded.respects earlier _ later h).fails message line ws rfl, hsilent,
    fun hlifts => ?_, fun x hx hlifts => ?_⟩
  · have hwrites : ∀ m ∈ later, ¬ m.Writes := by
      intro m hm hwrites
      obtain ⟨meanwhile, rest, hlater⟩ := List.append_of_mem hm
      obtain ⟨x, hx, hlift⟩ := hsilent meanwhile m rest hlater hwrites
      exact hlifts x (hlater ▸ List.mem_append_left _ hx) hlift
    have hcontent : s.editor.content = s.history.foldl Moment.textAfter text := hadds.content
    have hpersisted : s.persisted = [] ++ s.history.filterMap Moment.kept? := hadds.persisted
    rw [h, List.foldl_append, List.foldl_cons] at hcontent
    rw [h, List.filterMap_append, List.filterMap_cons] at hpersisted
    obtain ⟨htext, hkept⟩ := Moment.foldl_textAfter_of_not_writes hwrites
      (earlier.foldl Moment.textAfter text)
    exact ⟨hcontent.trans htext, by simpa [Moment.kept?, hkept] using hpersisted⟩
  · have hmem : x ∈ s.history := by
      rw [h]
      exact List.mem_append_right _ (List.mem_cons_of_mem _ hx)
    unfold Moment.Lifts at hlifts
    split at hlifts
    · exact .inl ⟨_, _, _, rfl⟩
    · rename_i before after
      obtain ⟨edit, hedit, rfl⟩ := hedited before after hmem
      refine .inr (.inl ⟨before, edit, hedit, hlifts.1, hlifts.2, ?_⟩)
      rintro op rfl
      by_contra hremoves
      obtain ⟨id, hid⟩ := hlifts.1
      exact hlifts.2 ⟨id, (Edit.hasType_operation hremoves).run hid⟩
    · exact .inr (.inr ⟨⟨_, rfl⟩, hbroken _ hmem⟩)
    · exact hlifts.elim

/-- A text that cannot be read; a block is put beside the error, and the workspace is cleared. -/
def unreadableMoves : List Move :=
  [.write "" .user, .textTimer, .startNext, .edit (Operation.create "stmt_pass" none {}).edit,
    .startNext, .edit Operation.clear.edit, .startNext]

/-- A text that cannot be read is written over after the workspace has been cleared, and the error
has gone away by then. -/
theorem unreadable_text_stays_cleared :
    ∃ earlier message line ws later,
      ((new {} .sample "a").run unreadableMoves).history =
        earlier ++ .told (.failed .textToGraph message line) ws :: later ∧
      (∃ before, [.drawn before ws] <:+ earlier ∧ ws.ShowsOnly message before.viewport) ∧
      ∃ meanwhile m rest, later = meanwhile ++ m :: rest ∧ m.Writes ∧
        ∃ x ∈ meanwhile, x.Lifts := by
  set h := ((new {} .sample "a").run unreadableMoves).history with hh
  obtain ⟨m, hm, hsplit⟩ := exists_first (P := Moment.Fails) (h := h) (by decide +kernel)
  obtain ⟨message, line, ws, rfl⟩ := hm.exists_told
  have hwrites : ∃ m ∈ (h.dropWhile fun m => ¬ m.Fails).tail, m.Writes := by decide +kernel
  obtain ⟨m, hm, hwritten⟩ := hwrites
  obtain ⟨meanwhile, rest, hlater⟩ := List.append_of_mem hm
  obtain ⟨hshows, hsilent, -⟩ := unreadable_text_stays {} .sample "a" true unreadableMoves hsplit
  exact ⟨_, message, line, ws, _, hsplit, hshows, meanwhile, m, rest, hlater, hwritten,
    hsilent meanwhile m rest hlater hwritten⟩

end Session

end BlockText

import BlockText.Proofs.Sync.History
import BlockText.Proofs.Sync.Resting

/-!
# Texts that are replaced

A job that writes the blocks remembers the text that is there when it has read its program, and then
it waits for the service.  In the meantime others do what they like: the user types, a timer runs
out, another text settles.  When the answer comes, the job replaces the text only if it is the one
that it remembers and no other one is pending; otherwise it drops what was written.  So nothing that
was typed while the job waited is replaced, unless the old text was typed again after it.

The history shows this by what comes between the call of the service and the moment at which the job
goes on: only what others do.
-/

namespace BlockText

open Syntax

/-! ## Waiting for the service -/

/-- Somebody else than a job does this. -/
def Moment.ByOthers : Moment → Prop
  | told (.coalesced _) _ | told (.dropped _) _ | told (.highlight _ _) _ | edited _ _ | typed _ =>
    True
  | _ => False

/-- A job has read the program off the blocks and called the service while the text was `before`,
and all that has happened since has been done by others. -/
structure Awaits (h : List Moment) (p : Program) (before : String) (meanwhile : List Moment) :
    Prop where
  called : ∃ earlier ws, ws.CompilesTo p ∧ h =
    earlier ++ [.told (.started .graphToText) ws, .called (.generate p before) before] ++ meanwhile
  byOthers : ∀ m ∈ meanwhile, m.ByOthers

/-- A job reports that it has dropped what was written. -/
def Moment.Discards : Moment → Prop
  | told (.done .graphToText _ true) _ => True
  | _ => False

instance : DecidablePred Moment.Discards
  | .told (.done .graphToText _ true) _ => isTrue trivial
  | .told (.done .graphToText _ false) _ | .told (.done .textToGraph _ _) _ | .told (.started _) _
  | .told (.failed _ _ _) _ | .told (.coalesced _) _ | .told (.dropped _) _
  | .told (.highlight _ _) _ | .called _ _ | .drawn _ _ | .wrote _ _ _ | .broken _ | .edited _ _
  | .typed _ => isFalse id

/-- A moment is as it should be: a job replaces only the text that it remembers, has kept only what
it has just written, and drops what comes too late. -/
structure Moment.Careful (earlier : List Moment) (m : Moment) : Prop where
  /-- No text is pending when one is replaced, and the last one that was typed while the job waited
  is the one that is replaced. -/
  wrote : ∀ text replaced pending, m = .wrote text replaced pending →
    pending = none ∧ text ≠ replaced ∧ ∃ p meanwhile, Awaits earlier p replaced meanwhile ∧
      ∀ typed ∈ (meanwhile.filterMap Moment.typed?).getLast?, typed = replaced
  /-- A text is kept right after it has been written. -/
  kept : ∀ text content, m = .called (.persist text) content →
    ∃ replaced pending, [.wrote text replaced pending] <:+ earlier
  /-- A job that drops what was written has not changed the text and had nothing kept. -/
  discarded : ∀ changed ws, m = .told (.done .graphToText changed true) ws →
    changed = false ∧ ∃ p before meanwhile, Awaits earlier p before meanwhile

section

variable {h : List Moment} {p : Program} {before : String} {meanwhile ms : List Moment} {m : Moment}

lemma Awaits.append (hh : Awaits h p before meanwhile) (hms : ∀ m ∈ ms, m.ByOthers) :
    Awaits (h ++ ms) p before (meanwhile ++ ms) := by
  obtain ⟨⟨earlier, ws, hws, rfl⟩, hothers⟩ := hh
  exact ⟨⟨earlier, ws, hws, by rw [List.append_assoc]⟩, List.forall_mem_append.mpr ⟨hothers, hms⟩⟩

lemma Moment.ByOthers.not_writes (hm : m.ByOthers) : ¬ m.Writes := by
  unfold Moment.ByOthers at hm
  split at hm <;> first | exact id | exact hm.elim

lemma Moment.ByOthers.not_discards (hm : m.ByOthers) : ¬ m.Discards := by
  unfold Moment.ByOthers at hm
  split at hm <;> first | exact id | exact hm.elim

/-- A moment that neither writes nor drops anything is as it should be. -/
lemma Moment.careful_of_plain {earlier : List Moment} (hwrites : ¬ m.Writes)
    (hdiscards : ¬ m.Discards) : m.Careful earlier where
  wrote := by
    rintro text replaced pending rfl
    exact absurd trivial hwrites
  kept := by
    rintro text content rfl
    exact absurd trivial hwrites
  discarded := by
    rintro changed ws rfl
    exact absurd trivial hdiscards

lemma chronicle_append_plain (hh : Chronicle (fun earlier m => m.Careful earlier) h)
    (hms : ∀ m ∈ ms, ¬ m.Writes ∧ ¬ m.Discards) :
    Chronicle (fun earlier m => m.Careful earlier) (h ++ ms) := by
  induction ms using List.reverseRecOn with
  | nil => rwa [List.append_nil]
  | append_singleton ms m ih =>
    simp only [List.forall_mem_append, List.forall_mem_singleton] at hms
    rw [← List.append_assoc]
    exact chronicle_concat.mpr ⟨ih hms.1, Moment.careful_of_plain hms.2.1 hms.2.2⟩

end

/-! ## Steps -/

namespace Ledger

/-- So far everything has been as it should be.  A job that waits for the service remembers the text
that was there when it called, and since then others have typed the one that is there now, or
none. -/
structure Attentive (l : Ledger) : Prop where
  careful : Chronicle (fun earlier m => m.Careful earlier) l.history
  awaits : ∀ p before, l.phase = .called (.generate p before) →
    ∃ meanwhile, Awaits l.history p before meanwhile ∧
      l.content = (meanwhile.filterMap Moment.typed?).getLast?.getD before

variable {l l' : Ledger} {as : List Act}

/-- What others do does not disturb a job that waits. -/
lemma Attentive.others (hl : l.Attentive) (ms : List Moment)
    (hhistory : l'.history = l.history ++ ms) (hms : ∀ m ∈ ms, m.ByOthers)
    (hphase : l'.phase = l.phase) (hcontent : l'.content = ms.foldl Moment.textAfter l.content) :
    l'.Attentive := by
  refine ⟨?_, fun p before hcalled => ?_⟩
  · rw [hhistory]
    exact chronicle_append_plain hl.careful fun m hm =>
      ⟨(hms m hm).not_writes, (hms m hm).not_discards⟩
  · obtain ⟨meanwhile, hawaits, hbefore⟩ := hl.awaits p before (hphase ▸ hcalled)
    refine ⟨meanwhile ++ ms, hhistory ▸ hawaits.append hms, ?_⟩
    rw [hcontent, (Moment.foldl_textAfter_of_not_writes fun m hm => (hms m hm).not_writes) _ |>.1,
      hbefore, List.filterMap_append, List.getLast?_append, Option.getD_or]

/-- After some moments that neither write nor drop anything, no job waits for the service. -/
lemma Attentive.plain (hl : l.Attentive) (ms : List Moment)
    (hhistory : l'.history = l.history ++ ms) (hms : ∀ m ∈ ms, ¬ m.Writes ∧ ¬ m.Discards)
    (hphase : ∀ p before, l'.phase ≠ .called (.generate p before)) : l'.Attentive := by
  refine ⟨?_, fun p before hcalled => absurd hcalled (hphase p before)⟩
  rw [hhistory]
  exact chronicle_append_plain hl.careful hms

/-- A job that waits for the service may replace the text that it remembers. -/
lemma Attentive.careful_wrote (hl : l.Attentive) {p : Program} {text before : String}
    (h : l.phase = .called (.generate p before)) (hfresh : l.Fresh text before) :
    (Moment.wrote text l.content l.machine.pendingSource).Careful l.history where
  wrote := by
    rintro text' replaced pending hm
    cases hm
    obtain ⟨meanwhile, hawaits, hcontent⟩ := hl.awaits p before h
    rw [hfresh.content] at hcontent ⊢
    refine ⟨hfresh.pendingSource, hfresh.ne, p, meanwhile, hawaits, fun typed htyped => ?_⟩
    rw [Option.mem_def.mp htyped] at hcontent
    exact hcontent.symm
  kept := by simp
  discarded := by simp

/-- A job that ends is as it should be. -/
private lemma attentive_finish (hl : l.Attentive) {drawn : List Moment} {call : ServiceCall}
    {e : SyncEvent} {workspace : Workspace} (h : l.phase = .called call)
    (he : e.Ends call.direction)
    (hread : ∀ source, call = .parse source → l.EndsReading source e workspace drawn)
    (hwritten : call.direction = .graphToText → l.EndsWriting call e workspace drawn) :
    Attentive { tell { l with workspace, history := l.history ++ drawn } e with
      phase := .ended } := by
  have hwrites : call.direction = .graphToText →
      Attentive { tell { l with workspace, history := l.history ++ drawn } e with
        phase := .ended } := by
    intro hcall
    obtain ⟨rfl, rfl, hdiscarded⟩ := hwritten hcall
    refine ⟨?_, by simp⟩
    change Chronicle _ (l.history ++ [] ++ [.told e l.workspace])
    rw [List.append_nil]
    refine chronicle_concat.mpr ⟨hl.careful, by simp, by simp, fun changed ws hm => ?_⟩
    cases hm
    obtain ⟨hchanged, p, before, rfl, -⟩ := hdiscarded changed rfl
    obtain ⟨meanwhile, hawaits, -⟩ := hl.awaits p before h
    exact ⟨hchanged, p, before, meanwhile, hawaits⟩
  cases call with
  | generate p before => exact hwrites rfl
  | persist text => exact hwrites rfl
  | parse source =>
    have he : e.Ends .textToGraph := he
    obtain ⟨rfl, -, -⟩ := hread source rfl
    refine hl.plain [.drawn l.workspace workspace, .told e workspace] (by simp [tell]) ?_ (by simp)
    rcases he with ⟨changed, discarded, rfl⟩ | ⟨message, line, rfl⟩ <;>
      simp [Moment.Writes, Moment.Discards]

section

attribute [local simp] tell note Moment.Writes Moment.Discards Moment.ByOthers Moment.textAfter

/-- Every step is as it should be. -/
theorem Step.attentive (h : Step l as l') (hl : l.Attentive) : l'.Attentive := by
  cases h with
  | @parse source h =>
    exact hl.plain [.told (.started .textToGraph) l.workspace, .called (.parse source) l.content]
      (by simp) (by simp) (by simp)
  | generate p h hp =>
    refine ⟨?_, fun p' before hcalled => ?_⟩
    · exact chronicle_concat.mpr ⟨chronicle_concat.mpr ⟨hl.careful,
        Moment.careful_of_plain (by simp) (by simp)⟩, Moment.careful_of_plain (by simp) (by simp)⟩
    · cases hcalled
      exact ⟨[], ⟨⟨l.history, l.workspace, hp, by simp⟩, by simp⟩, rfl⟩
  | refuse message h =>
    exact hl.plain [.told (.started .graphToText) l.workspace,
      .told (.failed .graphToText message) l.workspace] (by simp) (by simp) (by simp)
  | keep text h hfresh hkept =>
    refine ⟨chronicle_concat.mpr ⟨chronicle_concat.mpr ⟨hl.careful,
      hl.careful_wrote h hfresh⟩, by simp, fun text' content hm => ?_, by simp⟩, by simp⟩
    cases hm
    exact ⟨_, _, List.suffix_append _ _⟩
  | write text h hfresh hkept =>
    exact ⟨chronicle_concat.mpr ⟨chronicle_concat.mpr ⟨hl.careful,
      hl.careful_wrote h hfresh⟩, Moment.careful_of_plain (by simp) (by simp)⟩, by simp⟩
  | finish drawn h he hw hread hwritten => exact attentive_finish hl h he hread hwritten
  | @crash drawn source workspace h _ _ hdrawn =>
    refine hl.plain (drawn ++ [.broken workspace]) (by simp) ?_ (by simp)
    rcases hdrawn with rfl | rfl <;> simp
  | waitText h hq =>
    exact hl.others [.told (.coalesced .textToGraph) l.workspace] rfl (by simp) rfl rfl
  | waitGraph h hq =>
    exact hl.others [.told (.coalesced .graphToText) l.workspace] rfl (by simp) rfl rfl
  | dropGraph h hq =>
    exact hl.others [.told (.dropped .graphToText) l.workspace] rfl (by simp) rfl rfl
  | typed text => exact hl.others [.typed text] rfl (by simp) rfl rfl
  | replaced text => exact hl.others [.typed text] rfl (by simp) rfl rfl
  | edited x =>
    exact hl.others [.edited l.workspace { (x.run l.workspace).2 with events := [] }] rfl (by simp)
      rfl rfl
  | select e lines h =>
    exact hl.others [.told (.highlight e.block lines) l.workspace] rfl (by simp) rfl rfl
  | nextText | nextGraph | rest => exact ⟨hl.careful, by simp⟩
  | @start r rest h hq => cases r <;> exact ⟨hl.careful, by simp⟩
  | _ => exact ⟨hl.careful, hl.awaits⟩

end

lemma Steps.attentive (h : Steps as l l') (hl : l.Attentive) : l'.Attentive := by
  induction h with
  | refl l => exact hl
  | head hstep _ ih => exact ih (hstep.attentive hl)

end Ledger

namespace Session

/-- In every run of a session, no job replaces what was typed while it waited for the service,
unless the old text was typed again after it. A job replaces just the text that was there when it
called, and it does so while no text is pending; a job that drops what was written has neither
changed the text nor had one kept. -/
theorem typed_text_wins (settings : Settings) (language : LanguageService) (text : String)
    (isPersistent : Bool) (moves : List Move) {earlier later : List Moment} {m : Moment}
    (h : ((new settings language text isPersistent).run moves).history = earlier ++ m :: later) :
    m.Careful earlier := by
  have hsteady := steady_new settings language text isPersistent
  have hnew : (new settings language text isPersistent).view.Attentive :=
    ⟨chronicle_nil _, fun _ _ h => nomatch h⟩
  exact ((steps_run hsteady moves).attentive hnew).careful earlier m later h

/-- The user types while a text is being written, and nothing while the next one is. -/
def hastyWriting : List Move :=
  [.hold .generate, .request .graph, .write "b" .user, .resume, .request .graph, .resume]

/-- Of two texts that are written, the first one comes too late, and the second one replaces the
text that was typed before its job began. -/
theorem typed_text_wins_hasty :
    ∃ earlier m later, ((new {} .sample "a").run hastyWriting).history = earlier ++ m :: later ∧
      m.Writes ∧ m.Careful earlier ∧ ∃ x ∈ earlier, x.Discards := by
  set h := ((new {} .sample "a").run hastyWriting).history with hh
  obtain ⟨m, hm, hsplit⟩ := exists_first (P := Moment.Writes) (h := h) (by decide +kernel)
  have hdiscards : ∃ x ∈ h.takeWhile fun m => ¬ m.Writes, x.Discards := by decide +kernel
  exact ⟨_, m, _, hsplit, hm, typed_text_wins {} .sample "a" true hastyWriting hsplit, hdiscards⟩

end Session

end BlockText

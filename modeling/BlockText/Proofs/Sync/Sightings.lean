import BlockText.Proofs.Build.Caching
import BlockText.Proofs.Sync.Edits
import BlockText.Proofs.Workspace.Following

/-!
# Blocks show the text that was read

A text is not shown again if its document is installed. That is right at the end of every job, if
the document is forgotten whenever the blocks change, be it between two jobs or while a text is
being read, and if no two programs that are read share a document. The invariant of a session is
that its workspace is `Faithful`: jobs keep the installed document current because all programs that
are read are well-formed and of one kind, and edits do because they are noted. Each event is told
together with what there is to see (`Sighting`), so the invariant speaks about the end of every job
in a run, also where a move runs several jobs.
-/

namespace BlockText

open Syntax Workspace

/-- All programs that the service reads are well-formed. -/
def LanguageService.ReadsWellFormed (language : LanguageService) : Prop :=
  ∀ source p, language.parse source = .ok p → p.WellFormed

/-- All programs that the service reads are of the kind. -/
def LanguageService.Reads (language : LanguageService) (kind : Program → Prop) : Prop :=
  ∀ source p, language.parse source = .ok p → kind p

/-! ## Workspaces that are followed -/

/-- The edit is an operation that reports its changes, or shows another part of the canvas. -/
inductive Edit.Reported : Edit Unit → Prop
  | operation {op : Operation} (h : op.Reporting) : Reported op.edit
  | viewport (viewport : Viewport) : Reported (setViewport viewport)

namespace Edit.Reported

variable {x : Edit Unit}

lemma keepsForest (h : x.Reported) : x.KeepsForest := by
  cases h with
  | operation _ => exact Operation.keepsForest_edit _
  | viewport viewport => exact keepsForest_setViewport viewport

lemma keepsMeasured (h : x.Reported) : x.KeepsMeasured := by
  cases h with
  | operation _ => exact Operation.keepsMeasured_edit _
  | viewport viewport => exact keepsMeasured_setViewport viewport

lemma notes (h : x.Reported) : x.NotesChanges := by
  cases h with
  | operation h => exact Operation.notes_edit h
  | viewport viewport => exact notes_setViewport viewport

end Edit.Reported

namespace Workspace

variable {ws ws' : Workspace} {kind : Program → Prop}

/-- A forest of measured blocks in which events are followed and the installed document is that of a
program of the kind which the blocks show. -/
structure Faithful (ws : Workspace) (kind : Program → Prop) : Prop where
  forest : ws.Forest
  measured : ws.Measured
  followed : ws.Followed
  current : ws.Current kind

/-- A document is installed only if there are blocks that show it. -/
lemma Faithful.attended (h : ws.Faithful kind) : ws.Attended where
  forest := h.forest
  measured := h.measured
  followed := h.followed
  nonempty hinstalled hempty := by
    obtain ⟨document, hdocument⟩ := Option.ne_none_iff_exists'.mp hinstalled
    obtain ⟨p, entry, -, -, -, hdisplays⟩ := h.current document hdocument
    obtain ⟨b, hb, -⟩ := hdisplays.starts
    simp [block?, hempty] at hb

/-- A workspace with the blocks and connections of a faithful one is current. -/
lemma Faithful.current_of_notedSince (h : ws.Faithful kind) (hforest : ws'.Forest)
    (hnoted : ws.NotedSince ws') : ws'.Current kind := by
  rcases hnoted with hnoted | huntouched
  · exact current_of_forgotten hnoted.2
  · intro document hdocument
    rw [huntouched.installed] at hdocument
    obtain ⟨p, entry, hp, hkind, hpdocument, hdisplays⟩ := h.current document hdocument
    exact ⟨p, entry, hp, hkind, hpdocument,
      hdisplays.of_forest hforest huntouched.blocks huntouched.links⟩

/-- An edit that is reported keeps a workspace faithful, and so does the delivery of its events. -/
lemma Faithful.edit (h : ws.Faithful kind) {x : Edit Unit} (hx : x.Reported) :
    ({ (x.run ws).2 with events := [] } : Workspace).Faithful kind := by
  have hforest : (x.run ws).2.Forest := (hx.keepsForest ws h.forest).run
  have hmeasured : (x.run ws).2.Measured := (hx.keepsMeasured ws h.measured).run
  have hnoted : ws.NotedSince (x.run ws).2 := (hx.notes ws h.attended).run
  have hfollowed : (x.run ws).2.Followed := hnoted.elim (·.1) (·.followed)
  have hcurrent := h.current_of_notedSince hforest hnoted
  have hgraph : Edit.SameGraph (x.run ws).2 { (x.run ws).2 with events := [] } :=
    ⟨rfl, rfl, rfl, rfl⟩
  refine ⟨.of_sameGraph hgraph hforest, hmeasured, ⟨hfollowed.muted, hfollowed.watched⟩, ?_⟩
  intro document hdocument
  obtain ⟨p, entry, hp, hkind, hpdocument, hdisplays⟩ := hcurrent document hdocument
  exact ⟨p, entry, hp, hkind, hpdocument, hdisplays.congr hgraph⟩

/-- What a job makes of a faithful workspace is faithful. -/
lemma Faithful.redrawn (h : ws.Faithful kind) {language : LanguageService}
    (hlanguage : language.ReadsWellFormed) (hkind : language.Reads kind)
    (hws : ws.Redrawn language ws') : ws'.Faithful kind where
  forest := hws.upholds Edit.showSteps_forest h.forest
  measured := hws.upholds Edit.showSteps_measured h.measured
  followed := hws.upholds Edit.showSteps_followed h.followed
  current := by
    cases hws with
    | same => exact h.current
    | built hparse => exact 
      (Edit.ends_build_current (hlanguage _ _ hparse) (hkind _ _ hparse) h.current).run
    | failed message => exact (Edit.ends_showError_current message ws).run

end Workspace

/-! ## Steps -/

/-- If a text has just been shown, then the document of the program that the service reads from the
text that it was called to read last is installed, and the blocks show a program of the kind with
this document. -/
def Sighting.Shows (m : Sighting) (kind : Program → Prop) : Prop :=
  ∀ changed discarded, m.event = .done .textToGraph changed discarded → ∃ source p,
    m.parsed.getLast? = some source ∧ m.language.parse source = .ok p ∧ p.WellFormed ∧ kind p ∧
      m.workspace.installed = some p.body.toDatum.toJson ∧ m.workspace.Current kind

namespace Ledger

variable {l l' : Ledger} {as : List Act} {kind : Program → Prop}

/-- The workspace is faithful, a text that is being read is the last one that the service was called
to read, and what was shown was installed. -/
structure Faithful (l : Ledger) (kind : Program → Prop) : Prop where
  workspace : l.workspace.Faithful kind
  reading : ∀ source, l.phase = .called (.parse source) → l.parsed.getLast? = some source
  told : l.events = l.sightings.map (·.event)
  shows : ∀ m ∈ l.sightings, m.Shows kind

/-- An event is told that does not report that a text was shown. -/
private lemma Faithful.tell (h : l.Faithful kind) {e : SyncEvent}
    (he : ∀ changed discarded, e ≠ .done .textToGraph changed discarded) :
    (l.tell e).Faithful kind where
  workspace := h.workspace
  reading := h.reading
  told := by simp [Ledger.tell, h.told]
  shows m hm := by
    rcases List.mem_append.mp hm with hm | hm
    · exact h.shows m hm
    · obtain rfl := List.mem_singleton.mp hm
      exact fun changed discarded hdone => absurd hdone (he changed discarded)

/-- The end of a job is told. -/
private lemma Faithful.finish (h : l.Faithful kind) (hlanguage : l.language.ReadsWellFormed)
    (hkind : l.language.Reads kind) {call : ServiceCall} {e : SyncEvent}
    {workspace : Workspace} {drawn : List Moment}
    (hphase : l.phase = .called call) (he : e.Ends call.direction)
    (hw : l.workspace.Redrawn l.language workspace)
    (hread : ∀ source, call = .parse source → l.EndsReading source e workspace drawn) :
    ({ Ledger.tell { l with workspace, history := l.history ++ drawn } e with
      phase := .ended } : Ledger).Faithful kind where
  workspace := h.workspace.redrawn hlanguage hkind hw
  reading source hsource := by cases hsource
  told := by simp [Ledger.tell, h.told]
  shows m hm := by
    rcases List.mem_append.mp hm with hm | hm
    · exact h.shows m hm
    · obtain rfl := List.mem_singleton.mp hm
      rintro changed discarded rfl
      -- Only a job that reads a text ends in this way.
      have hcall : call.direction = .textToGraph := by
        rcases he with ⟨_, _, he⟩ | ⟨_, _, he⟩
        · exact (SyncEvent.done.inj he).1.symm
        · cases he
      cases call with
      | parse source =>
        obtain ⟨p, hparse, hbuild⟩ := (hread source rfl).shown changed discarded rfl
        have hp := hlanguage source p hparse
        have hpkind := hkind source p hparse
        obtain ⟨_, _, hrun, hcurrent, hinstalled⟩ :=
          (Edit.yields_build_of_current h.workspace.current hp hpkind).exists_run
        obtain ⟨-, rfl⟩ := Prod.mk.inj (hbuild.symm.trans hrun)
        exact ⟨source, p, h.reading source hphase, hparse, hp, hpkind, hinstalled, hcurrent⟩
      | generate p before => cases hcall
      | persist text => cases hcall

/-- Every step keeps a ledger faithful, if all programs that are read are well-formed and of the
kind and all edits are reported. -/
lemma Step.faithful (h : Step l as l') (hl : l.Faithful kind)
    (hlanguage : l.language.ReadsWellFormed) (hkind : l.language.Reads kind)
    (hedits : ∀ x, .edited x ∈ as → x.Reported) : l'.Faithful kind := by
  cases h with
  | @parse source h =>
    obtain ⟨hworkspace, -, htold, hshows⟩ := hl.tell (e := .started .textToGraph) (by simp)
    refine ⟨hworkspace, fun source' hsource => ?_, htold, hshows⟩
    obtain rfl : source = source' := by simpa using hsource
    exact List.getLast?_concat
  | generate p h =>
    obtain ⟨hworkspace, -, htold, hshows⟩ := hl.tell (e := .started .graphToText) (by simp)
    exact ⟨hworkspace, by simp, htold, hshows⟩
  | refuse message h =>
    have hstarted := hl.tell (e := .started .graphToText) (by simp)
    obtain ⟨hworkspace, -, htold, hshows⟩ :=
      hstarted.tell (e := .failed .graphToText message) (by simp)
    exact ⟨hworkspace, by simp, htold, hshows⟩
  | write text h =>
    obtain ⟨hworkspace, -, htold, hshows⟩ := hl.tell (e := .done .graphToText true) (by simp)
    exact ⟨hworkspace, by simp, htold, hshows⟩
  | finish drawn h he hw hread => exact hl.finish hlanguage hkind h he hw hread
  | crash drawn h _ hw =>
    exact ⟨hl.workspace.redrawn hlanguage hkind hw, by simp, hl.told, hl.shows⟩
  | keep | nextText | nextGraph | rest | start =>
    exact ⟨hl.workspace, by simp, hl.told, hl.shows⟩
  | waitText h =>
    obtain ⟨hworkspace, hreading, htold, hshows⟩ :=
      hl.tell (e := .coalesced .textToGraph) (by simp)
    exact ⟨hworkspace, hreading, htold, hshows⟩
  | waitGraph h =>
    obtain ⟨hworkspace, hreading, htold, hshows⟩ :=
      hl.tell (e := .coalesced .graphToText) (by simp)
    exact ⟨hworkspace, hreading, htold, hshows⟩
  | dropGraph h =>
    obtain ⟨hworkspace, hreading, htold, hshows⟩ :=
      hl.tell (e := .dropped .graphToText) (by simp)
    exact ⟨hworkspace, hreading, htold, hshows⟩
  | select e lines h => exact hl.tell (by simp)
  | edited x =>
    exact ⟨hl.workspace.edit (hedits x (List.mem_singleton.mpr rfl)), hl.reading, hl.told, hl.shows⟩
  | _ => exact ⟨hl.workspace, hl.reading, hl.told, hl.shows⟩

/-- A run keeps it so. -/
lemma Steps.faithful (h : Steps as l l') (hl : l.Faithful kind)
    (hlanguage : l.language.ReadsWellFormed) (hkind : l.language.Reads kind)
    (hserved : ∀ language, .served language ∈ as →
      language.ReadsWellFormed ∧ language.Reads kind)
    (hedits : ∀ x, .edited x ∈ as → x.Reported) : l'.Faithful kind := by
  induction h with
  | refl l => exact hl
  | head hstep _ ih =>
    simp only [List.mem_append, or_imp, forall_and] at hserved hedits
    obtain ⟨⟨hwell, hwell'⟩, hkinds, hkinds'⟩ := hserved
    have hkind₁ := hstep.serves (P := fun language => language.Reads kind) hkind hkinds
    exact ih (hstep.faithful hl hlanguage hkind hedits.1) (hstep.serves hlanguage hwell) hkind₁
      (fun language h => ⟨hwell' language h, hkinds' language h⟩) hedits.2

end Ledger

namespace Session

/-- A new session is faithful: there is nothing in its workspace yet. -/
lemma faithful_new (kind : Program → Prop) (settings : Settings) (language : LanguageService)
    (text : String) (isPersistent : Bool) :
    (new settings language text isPersistent).view.Faithful kind where
  workspace := ⟨Edit.forest_of_empty rfl rfl rfl rfl, by simp [Measured, view, ledger, new, attach],
    ⟨rfl, rfl⟩, current_of_forgotten rfl⟩
  reading := by simp [view, ledger, phase, new, attach]
  told := rfl
  shows := by simp [view, ledger, new, attach]

/-- Skipping is sound without surrogate pairs: in every run of a session in which all programs that
are read are well-formed and have no texts with such pairs and all edits are reported, whenever a
job ends that has shown a text, whether the blocks had to be replaced or not, reading the blocks
succeeds and gives a program that is structurally equal to the one that was read. -/
theorem shown_texts_read_back (settings : Settings) (language : LanguageService) (text : String)
    (isPersistent : Bool) (moves : List Move) (hlanguage : language.ReadsWellFormed)
    (hpairs : language.Reads Program.Unpaired)
    (hserve : ∀ language, .serve language ∈ moves →
      language.ReadsWellFormed ∧ language.Reads Program.Unpaired)
    (hedits : ∀ x, .edit x ∈ moves → x.Reported) :
    ((new settings language text isPersistent).run moves).events =
        ((new settings language text isPersistent).run moves).sightings.map (·.event) ∧
      ∀ m ∈ ((new settings language text isPersistent).run moves).sightings,
        ∀ changed discarded, m.event = .done .textToGraph changed discarded →
          ∃ source p, m.parsed.getLast? = some source ∧ m.language.parse source = .ok p ∧
            ∀ (counter : IdCounter) (indentWidth : ℤ), ∃ q counter',
              m.workspace.compile counter indentWidth = (.ok q, counter') ∧
                Datum.structurallyEqual p.toDatum q.toDatum = true := by
  have hsteps := steps_run (steady_new settings language text isPersistent) moves
  have hfaithful := hsteps.faithful
    (faithful_new Program.Unpaired settings language text isPersistent) hlanguage hpairs
    (fun language h => hserve language (serve_of_mem_acts h))
    fun x h => hedits x (edit_of_mem_acts h)
  refine ⟨hfaithful.told, fun m hm changed discarded hdone => ?_⟩
  obtain ⟨source, p, hlast, hparse, hp, hunpaired, hinstalled, hcurrent⟩ :=
    hfaithful.shows m hm changed discarded hdone
  exact ⟨source, p, hlast, hparse, hcurrent.readsAs hp hunpaired hinstalled⟩

/-- A text that is being read is shown when the answer comes, if its program can be shown and
nothing waits for the end of the job. -/
lemma resume_of_buildable {s : Session} {t : Task} {source : String} {p : Program}
    (hwaiting : s.waiting = some (t, .parse source)) (hparse : s.language.parse source = .ok p)
    (hp : p.Buildable) (hfree : s.machine.finish = (none, {})) :
    ∃ changed, s.resume.events = s.events ++ [.done .textToGraph changed] ∧
      s.resume.workspace = ((Edit.build p).run s.workspace).2 ∧ s.resume.waiting = none := by
  obtain ⟨⟨n, hn⟩, hbuild⟩ := hp
  obtain ⟨changed, hchanged⟩ := hbuild s.workspace
  obtain ⟨counter, hcounter⟩ : ∃ counter, s.counter.reconcile p.toDatum = .ok counter := by
    simp [IdCounter.reconcile, hn, bind, Except.bind, pure, Except.pure]
  rcases hrun : (Edit.build p).run s.workspace with ⟨r, ws⟩
  obtain rfl : r = .ok changed := by rw [← hchanged, hrun]
  refine ⟨changed, ?_⟩
  simp only [resume, hwaiting, complete, answer, hparse, showProgram, hcounter, draw, runEdit,
    hrun, Except.map, nextJob, emit, note, hfree, and_self]

/-- A block is created while a text is being read, and then the answer comes. -/
def shownMoves : List Move := readingMoves ++ [createMove, .resume]

/-- The program that was read can be read back, although a block was created meanwhile. -/
theorem shown_texts_read_back_edited :
    LanguageService.sample.ReadsWellFormed ∧ LanguageService.sample.Reads Program.Unpaired ∧
      (∀ x, .edit x ∈ shownMoves → x.Reported) ∧
      ∃ m ∈ ((new {} .sample).run shownMoves).sightings,
        (∃ changed, m.event = .done .textToGraph changed) ∧
        ∃ source p, m.parsed.getLast? = some source ∧ m.language.parse source = .ok p ∧
          ∀ (counter : IdCounter) (indentWidth : ℤ), ∃ q counter',
            m.workspace.compile counter indentWidth = (.ok q, counter') ∧
              Datum.structurallyEqual p.toDatum q.toDatum = true := by
  have hread : ∀ source p, LanguageService.sample.parse source = .ok p → sampleProgram = p := by
    intro source p hparse
    simp only [LanguageService.sample] at hparse
    split at hparse
    · cases hparse
    · exact Except.ok.inj hparse
  have hlanguage : LanguageService.sample.ReadsWellFormed := fun source p hparse =>
    hread source p hparse ▸ sampleProgram_wellFormed
  have hpairs : LanguageService.sample.Reads Program.Unpaired := fun source p hparse =>
    hread source p hparse ▸ sampleProgram_unpaired
  have hedits : ∀ x, .edit x ∈ shownMoves → x.Reported := by
    intro x hx
    obtain rfl : x = (Operation.create "stmt_pass" none {}).edit := by
      simpa [shownMoves, readingMoves, createMove] using hx
    exact .operation trivial
  obtain ⟨htold, hshows⟩ := shown_texts_read_back {} .sample "" true shownMoves hlanguage hpairs
    (by simp [shownMoves, readingMoves, createMove]) hedits
  have hwaiting : ((new {} .sample).run (readingMoves ++ [createMove])).waiting =
      some (⟨0, .text "a", true⟩, .parse "a") := by rfl
  obtain ⟨changed, hevents, -, -⟩ := resume_of_buildable hwaiting rfl
    (LanguageService.sample_buildable "a" _ rfl) rfl
  have hdone : .done .textToGraph changed ∈ ((new {} .sample).run shownMoves).events := by
    have hmoves : shownMoves = readingMoves ++ [createMove] ++ [.resume] := rfl
    rw [hmoves, run_append, run_cons, run_nil, Move.apply, hevents]
    simp
  rw [htold] at hdone
  obtain ⟨m, hm, hevent⟩ := List.mem_map.mp hdone
  exact ⟨hlanguage, hpairs, hedits, m, hm, ⟨changed, hevent⟩, hshows m hm changed false hevent⟩

end Session

end BlockText

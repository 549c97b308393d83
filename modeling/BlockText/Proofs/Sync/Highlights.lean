import BlockText.Proofs.Build.Joining
import BlockText.Proofs.Build.Locating
import BlockText.Proofs.Sync.Resting
import BlockText.Proofs.Sync.Sightings

/-!
# Which lines a block highlights

The texts of blocks are noted when a text is shown, and they are noted for the text that was read.
Whoever follows the edits forgets the installed document when the blocks change, but the notes stay,
and they stay also when a job replaces the text. So as long as a document is installed, the blocks
highlight the lines of the text that was read last. If that is the text that is there, these are the
lines in which their statements stand.

A text whose document is installed already is not shown again. Then the notes are those of another
text, but a document says everything about the places of its program in the text. It says everything
about the program only if there are no pairs of surrogates to confuse with a character.
-/

namespace BlockText

open Syntax Workspace

/-- Every statement, further condition and case of a program that the service reads has a text. -/
def LanguageService.ReadsSpanned (language : LanguageService) : Prop :=
  ∀ source p, language.parse source = .ok p → p.Spanned

namespace Workspace

variable {ws ws' : Workspace} {kind : Program → Prop}

/-- If a document is installed, then the blocks are those of a program with this document, and its
texts are noted. -/
def Annotated (ws : Workspace) : Prop :=
  ∀ document, ws.installed = some document → ∃ p entry, p.WellFormed ∧ p.Spanned ∧
    p.body.toDatum.toJson = document ∧ ws.Displays entry p ∧ Edit.Located p ws

/-- No operation notes a text. -/
lemma heeds_spans (spans : List (BlockId × Span)) : Edit.Heeds fun ws => ws.spans = spans :=
  Edit.heeds_of_congr (fun hsame h => hsame.spans.trans h) (fun _ h => h) fun _ _ h => h

lemma spans_run_of_reported {x : Edit Unit} (h : x.Reported) (ws : Workspace) :
    (x.run ws).2.spans = ws.spans := by
  cases h with
  | operation _ => exact ((heeds_spans ws.spans).edit _ ws rfl).run
  | viewport viewport => exact ((heeds_spans ws.spans).setViewport viewport ws rfl).run

/-- An edit that is reported leaves the notes right, or the document is forgotten. -/
lemma Annotated.edit (h : ws.Annotated) (hws : ws.Faithful kind) {x : Edit Unit} (hx : x.Reported) :
    ({ (x.run ws).2 with events := [] } : Workspace).Annotated := by
  have hforest : ({ (x.run ws).2 with events := [] } : Workspace).Forest := (hws.edit hx).forest
  rcases (hx.notes ws hws.attended).run with hnoted | huntouched
  · intro document hdocument
    cases hnoted.2.symm.trans hdocument
  · intro document hdocument
    obtain ⟨p, entry, hp, hspanned, hdoc, hdisplays, start, L, hL, hlocated⟩ :=
      h document (huntouched.installed.symm.trans hdocument)
    refine ⟨p, entry, hp, hspanned, hdoc,
      hdisplays.of_forest hforest huntouched.blocks huntouched.links, start, L, hL, ?_⟩
    have hedges : ∀ e ∈ (x.run ws).2.edges, e ∈ ws.edges := fun e he => by
      rwa [Workspace.edges, huntouched.links] at he
    exact hlocated.trans (.of_same huntouched.blocks (fun e he _ => hedges e he)
      (spans_run_of_reported hx ws))

/-- Showing a program or an error leaves the notes right. -/
lemma Annotated.redrawn (h : ws.Annotated) {language : LanguageService}
    (hlanguage : language.ReadsWellFormed) (hspanned : language.ReadsSpanned)
    (hws : ws.Redrawn language ws') : ws'.Annotated := by
  cases hws with
  | same => exact h
  | @built source p hparse =>
    have hp := hlanguage _ _ hparse
    by_cases hnew : ws.installed = some p.body.toDatum.toJson
    · rwa [Edit.run_build_of_installed hnew]
    · obtain ⟨ws', entry, hrun, hinstalled, hdisplays, hlocated⟩ := exists_located_of_build hp hnew
      rw [hrun]
      intro document hdocument
      exact ⟨p, entry, hp, hspanned _ _ hparse, Option.some.inj (hinstalled.symm.trans hdocument),
        hdisplays, hlocated⟩
  | failed message =>
    intro document hdocument
    have hnone : ((Edit.showError message).run ws).2.installed = none :=
      Edit.Ends.run (Edit.Ends.mono (Edit.yields_showError message ws) (fun _ _ h => h.2)
        fun _ h => h.elim)
    cases hnone.symm.trans hdocument

end Workspace

/-! ## Steps -/

namespace Ledger

variable {l l' : Ledger} {as : List Act} {kind : Program → Prop}

/-- No text is being read. -/
def NotReading (l : Ledger) : Prop := ∀ source, l.phase ≠ .called (.parse source)

/-- While no text is being read, an installed document is that of the text which the service was
called to read last. -/
structure Sourced (l : Ledger) (kind : Program → Prop) : Prop where
  faithful : l.Faithful kind
  annotated : l.workspace.Annotated
  source : l.NotReading → ∀ document, l.workspace.installed = some document → ∃ source p,
    l.parsed.getLast? = some source ∧ l.language.parse source = .ok p ∧
      p.body.toDatum.toJson = document

/-- Every step keeps the texts of the blocks right. -/
lemma Step.annotated (h : Step l as l') (hl : l.Faithful kind) (hannotated : l.workspace.Annotated)
    (hlanguage : l.language.ReadsWellFormed) (hspanned : l.language.ReadsSpanned)
    (hedits : ∀ x, .edited x ∈ as → x.Reported) : l'.workspace.Annotated := by
  cases h with
  | finish _ _ _ hw | crash _ _ _ hw => exact hannotated.redrawn hlanguage hspanned hw
  | edited x => exact hannotated.edit hl.workspace (hedits x (by simp))
  | _ => exact hannotated

/-- A job that reads a text leaves the document of that text installed, or none. -/
private lemma source_of_endsReading (hworkspace : l.workspace.Faithful kind)
    (hlanguage : l.language.ReadsWellFormed) (hkind : l.language.Reads kind)
    {source : String} {e : SyncEvent}
    {workspace : Workspace} {drawn : List Moment} (hend : e.Ends .textToGraph)
    (h : l.EndsReading source e workspace drawn) {document : String}
    (hdocument : workspace.installed = some document) :
    ∃ p, l.language.parse source = .ok p ∧ p.body.toDatum.toJson = document := by
  rcases hend with ⟨changed, discarded, he⟩ | ⟨message, line, he⟩
  · obtain ⟨p, hparse, hbuild⟩ := h.shown changed discarded he
    obtain ⟨_, _, hrun, -, hinstalled⟩ :=
      (Edit.yields_build_of_current hworkspace.current (hlanguage _ _ hparse)
        (hkind _ _ hparse)).exists_run
    obtain ⟨-, rfl⟩ := Prod.mk.inj (hbuild.symm.trans hrun)
    exact ⟨p, hparse, Option.some.inj (hinstalled.symm.trans hdocument)⟩
  · have hnone : ((Edit.showError message).run l.workspace).2.installed = none :=
      Edit.Ends.run (Edit.Ends.mono (Edit.yields_showError message _) (fun _ _ h => h.2)
        fun _ h => h.elim)
    rw [h.failed message line he] at hdocument
    cases hnone.symm.trans hdocument

/-- Every step of a service that does not change keeps the installed document that of the text
which was read last. -/
lemma Step.sourced (h : Step l as l') (hl : l.Sourced kind)
    (hlanguage : l.language.ReadsWellFormed) (hkind : l.language.Reads kind)
    (hspanned : l.language.ReadsSpanned) (hbuildable : l.language.Buildable)
    (hserved : ∀ language, .served language ∉ as)
    (hedits : ∀ x, .edited x ∈ as → x.Reported) : l'.Sourced kind := by
  refine ⟨h.faithful hl.faithful hlanguage hkind hedits,
    h.annotated hl.faithful hl.annotated hlanguage hspanned hedits, ?_⟩
  have hbefore : l.NotReading → ∀ document, l.workspace.installed = some document → ∃ source p,
      l.parsed.getLast? = some source ∧ l.language.parse source = .ok p ∧
        p.body.toDatum.toJson = document := hl.source
  cases h with
  | @parse source h => exact fun hreading => absurd rfl (hreading source)
  | @finish drawn call e workspace h he hw hread hwritten =>
    intro _ document hdocument
    cases call with
    | parse source =>
      obtain ⟨p, hparse, hp⟩ := source_of_endsReading hl.faithful.workspace hlanguage hkind he
        (hread source rfl) hdocument
      exact ⟨source, p, hl.faithful.reading source h, hparse, hp⟩
    | generate p before =>
      rw [(hwritten rfl).workspace] at hdocument
      exact hbefore (fun source => by simp [h]) document hdocument
    | persist text =>
      rw [(hwritten rfl).workspace] at hdocument
      exact hbefore (fun source => by simp [h]) document hdocument
  | crash drawn h hcrash => exact absurd hbuildable hcrash
  | edited x =>
    intro hreading document hdocument
    have hnotes := (hedits x (by simp)).notes _ hl.faithful.workspace.attended
    rcases hnotes.run with hnoted | huntouched
    · cases hnoted.2.symm.trans hdocument
    · exact hbefore hreading document (huntouched.installed.symm.trans hdocument)
  | generate p h | refuse _ h | keep _ h | write _ h | nextText h | nextGraph h | rest h
      | start h =>
    exact fun _ => hbefore fun source => by simp [h]
  | served language => exact absurd (List.mem_singleton_self _) (hserved language)
  | _ => exact hbefore

/-- A run keeps it so. -/
lemma Steps.sourced (h : Steps as l l') (hl : l.Sourced kind)
    (hlanguage : l.language.ReadsWellFormed) (hkind : l.language.Reads kind)
    (hspanned : l.language.ReadsSpanned) (hbuildable : l.language.Buildable)
    (hserved : ∀ language, .served language ∉ as)
    (hedits : ∀ x, .edited x ∈ as → x.Reported) :
    l'.Sourced kind ∧ l'.language = l.language := by
  induction h with
  | refl l => exact ⟨hl, rfl⟩
  | @head l l₁ l' as bs hstep _ ih =>
    simp only [List.mem_append, not_or, or_imp, forall_and] at hserved hedits
    have hsame : l₁.language = l.language :=
      hstep.serves (P := fun language => language = l.language) rfl
        fun language h => absurd h (hserved.1 language)
    have hfirst := hstep.sourced hl hlanguage hkind hspanned hbuildable hserved.1 hedits.1
    obtain ⟨hsourced, hlast⟩ := ih hfirst
      (hsame ▸ hlanguage) (hsame ▸ hkind) (hsame ▸ hspanned) (hsame ▸ hbuildable) hserved.2 hedits.2
    exact ⟨hsourced, hlast.trans hsame⟩

end Ledger

namespace Session

variable {s : Session}

lemma sourced_new (kind : Program → Prop) (settings : Settings) (language : LanguageService)
    (text : String) (isPersistent : Bool) :
    (new settings language text isPersistent).view.Sourced kind where
  faithful := faithful_new kind settings language text isPersistent
  annotated := by
    intro document hdocument
    cases hdocument
  source := by
    intro _ document hdocument
    cases hdocument

/-- Selecting a block changes the selection and tells of it. -/
private lemma exists_run_select {ws : Workspace} (hfollowed : ws.Followed) {id : BlockId}
    (hid : ws.has id) : ∃ details, (Edit.select (some id)).run ws = (.ok (), { ws with
      selected := some id
      events := ws.events ++ [⟨.selected, some id, details⟩] }) := by
  obtain ⟨b, hb⟩ := has_iff_block?.mp hid
  have hrequire : Edit.Yields (Edit.requireAll (some id).toList) ws fun _ ws' => ws' = ws := by
    change Edit.Ends (discard (Edit.require id) >>= fun _ => pure ()) ws _ _
    rw [Edit.ends_bind]
    refine (Edit.ends_map _ _).mpr (Edit.ends_require (fun _ _ => rfl) fun hnone => ?_)
    cases hb.symm.trans hnone
  have hselect : Edit.Yields (Edit.select (some id)) ws fun _ ws' => ∃ details, ws' = { ws with
      selected := some id
      events := ws.events ++ [⟨.selected, some id, details⟩] } := by
    have hmuted : (ws.muted == 0) = true := by simp [hfollowed.muted]
    unfold Edit.select Edit.Yields
    rw [Edit.ends_bind]
    refine Edit.Ends.mono hrequire ?_ fun _ h => h
    rintro _ ws₁ rfl
    have hquiet : (ws₁.watched && !EventType.selected.isCosmetic) = false := by
      simp [EventType.isCosmetic]
    simp only [Edit.ends_bind, Edit.ends_get, Edit.ends_modify, Edit.fire, hmuted, if_true, hquiet]
    exact ⟨_, rfl⟩
  obtain ⟨_, _, hrun, details, rfl⟩ := hselect.exists_run
  exact ⟨details, hrun⟩

/-- A block that is selected highlights the lines of its text. -/
lemma highlight_select (hs : s.view.Steady) (hfollowed : s.workspace.Followed) {id : BlockId}
    (hid : s.workspace.has id) (hne : id ≠ "") :
    (s.edit (Edit.select (some id))).2.editor.highlight =
      (s.workspace.spanAround? id).map fun span => (span.start.line, span.stop.line) := by
  obtain ⟨details, hrun⟩ := exists_run_select hfollowed hid
  have hdelivered : s.workspace.events = [] := hs.delivered
  have hname : (some id).filter (!·.isEmpty) = some id := by
    simp [Option.filter, hne]
  rw [edit_eq hs.isAttached, hrun]
  simp [hdelivered, follow, highlight, emit, note, hname]
  rfl

/-- Blocks highlight the lines of the text that was read last, as long as they have not been edited
since: in every run of a session in which all edits are reported and all programs that are read are
well-formed and can be shown, if no text is being read and a document is installed, then every block
that is selected, except those of last alternatives, highlights the lines of the statement, further
condition or case of the text that was read last to which it belongs; and the blocks are read as the
program of that text, if no programs that are read have pairs of surrogates in their texts. -/
theorem highlight_shown (settings : Settings) (language : LanguageService) (text : String)
    (isPersistent : Bool) (moves : List Move) (hlanguage : language.ReadsWellFormed)
    (hspanned : language.ReadsSpanned) (hbuildable : language.Buildable)
    (hserve : ∀ language, .serve language ∉ moves) (hedits : ∀ x, .edit x ∈ moves → x.Reported) :
    let s := (new settings language text isPersistent).run moves
    (∀ t source, s.waiting ≠ some (t, .parse source)) → s.workspace.installed ≠ none →
      ∃ source p entry ids, s.parsed.getLast? = some source ∧ language.parse source = .ok p ∧
        (language.Reads Program.Unpaired → s.workspace.ReadsAs p) ∧
        s.workspace.ids = entry :: ids ∧
        List.Forall₂ (fun id o => s.workspace.HasType id o.type ∧
          (o.role ≠ .alternative → ∃ span, o.span = some span ∧
            (s.edit (Edit.select (some id))).2.editor.highlight =
              some (span.start.line, span.stop.line))) ids p.origins := by
  intro s hwaiting hinstalled
  have hnew := steady_new settings language text isPersistent
  have hsteps := steps_run hnew moves
  -- Only reading back needs texts without pairs, so the kind asks for that only if the service does.
  let kind : Program → Prop := fun p => language.Reads Program.Unpaired → p.Unpaired
  have hkind : language.Reads kind := fun source p hparse hpairs => hpairs source p hparse
  obtain ⟨hsourced, hsame⟩ := hsteps.sourced (sourced_new kind settings language text isPersistent)
    hlanguage hkind hspanned hbuildable (fun language h => hserve language (serve_of_mem_acts h))
    fun x h => hedits x (edit_of_mem_acts h)
  have hreading : s.view.NotReading := by
    intro source hphase
    change s.phase = _ at hphase
    unfold phase at hphase
    cases hw : s.waiting with
    | none => simp [hw] at hphase
    | some w =>
      obtain ⟨t, call⟩ := w
      rw [hw] at hphase
      obtain rfl : call = .parse source := by simpa using hphase
      exact hwaiting t source hw
  obtain ⟨document, hdocument⟩ := Option.ne_none_iff_exists'.mp hinstalled
  obtain ⟨source, p, hlast, hparse, hp⟩ := hsourced.source hreading document hdocument
  have hlast_language : s.view.language = language := hsame
  rw [hlast_language] at hparse
  obtain ⟨q, entry, hq, hqspanned, hqdocument, hdisplays, hlocated⟩ :=
    hsourced.annotated document hdocument
  -- The notes may be those of an earlier text, but its program has the same places.
  have horigins : q.origins = p.origins :=
    hq.origins_eq_of_toJson_eq (hlanguage _ _ hparse) (hqdocument.trans hp.symm)
  obtain ⟨ids, hids, hnamed, htexts, -⟩ := exists_texts_of_located hqspanned hdisplays hlocated
  have hreads : language.Reads Program.Unpaired → s.workspace.ReadsAs p := fun hpairs =>
    (hsourced.faithful.workspace.current.mono fun _ h => h hpairs).readsAs (hlanguage _ _ hparse)
      (hpairs _ _ hparse) (hp ▸ hdocument)
  refine ⟨source, p, entry, ids, hlast, hparse, hreads, hids, horigins ▸ ?_⟩
  have hselect : ∀ id ∈ ids, (s.edit (Edit.select (some id))).2.editor.highlight =
      (s.workspace.spanAround? id).map fun span => (span.start.line, span.stop.line) :=
    fun id hid => highlight_select (hsteps.steady hnew) hsourced.faithful.workspace.followed
      (has_iff_mem_ids.mpr (hids ▸ List.mem_cons_of_mem _ hid)) (hnamed id hid)
  refine List.forall₂_iff_zip.mpr ⟨htexts.length_eq, fun {id o} hmem => ?_⟩
  obtain ⟨htype, htext⟩ := List.forall₂_iff_zip.mp htexts |>.2 hmem
  refine ⟨htype, fun hrole => ?_⟩
  obtain ⟨hsome, hspan⟩ : o.span.isSome ∧ s.workspace.spanAround? id = o.span := htext hrole
  obtain ⟨span, hspan'⟩ := Option.isSome_iff_exists.mp hsome
  exact ⟨span, hspan', by rw [hselect id (List.of_mem_zip hmem).1, hspan, hspan']; rfl⟩

/-- A service that reads every text as one program. -/
def twoLines : LanguageService where
  parse _ := .ok spannedProgram
  generate _ _ := .ok "if x: pass\nelif y: break\n"

private lemma spannedProgram_unpaired : spannedProgram.Unpaired := by cbv

/-- A text is read, and then the answer comes. -/
def answeredMoves : List Move := readingMoves ++ [.resume]

/-- The blocks of a conditional in two lines highlight these lines. -/
theorem highlight_shown_twoLines :
    let s := (new {} twoLines).run answeredMoves
    twoLines.ReadsWellFormed ∧ twoLines.ReadsSpanned ∧ twoLines.Buildable ∧ s.waiting = none ∧
      s.workspace.installed ≠ none ∧
      ∃ source p entry ids, s.parsed.getLast? = some source ∧ twoLines.parse source = .ok p ∧
        s.workspace.ReadsAs p ∧ s.workspace.ids = entry :: ids ∧
        List.Forall₂ (fun id o => s.workspace.HasType id o.type ∧
          (o.role ≠ .alternative → ∃ span, o.span = some span ∧
            (s.edit (Edit.select (some id))).2.editor.highlight =
              some (span.start.line, span.stop.line))) ids p.origins := by
  intro s
  have hread : ∀ source p, twoLines.parse source = .ok p → spannedProgram = p :=
    fun source p h => Except.ok.inj h
  have hlanguage : twoLines.ReadsWellFormed := fun source p h =>
    hread source p h ▸ spannedProgram_wellFormed
  have hspanned : twoLines.ReadsSpanned := by
    intro source p h
    rw [← hread source p h]
    unfold Program.Spanned
    decide
  have hidentity : spannedProgram.toDatum.maxIdentity = .ok 0 := by cbv
  have hbuildable : twoLines.Buildable := fun source p h =>
    hread source p h ▸ spannedProgram_wellFormed.buildable hidentity
  have hresume : s = ((new {} twoLines).run readingMoves).resume := rfl
  have hreading : ((new {} twoLines).run readingMoves).waiting =
      some (⟨0, .text "a", true⟩, .parse "a") := by rfl
  obtain ⟨_, -, hworkspace, hwaiting⟩ :=
    resume_of_buildable hreading rfl (hbuildable "a" _ rfl) rfl
  have hnew : ((new {} twoLines).run readingMoves).workspace.installed ≠
      some spannedProgram.body.toDatum.toJson := by
    have hnone : ((new {} twoLines).run readingMoves).workspace.installed = none := by rfl
    simp [hnone]
  obtain ⟨ws', _, hrun, hinstalled, -⟩ := exists_located_of_build spannedProgram_wellFormed hnew
  rw [hrun] at hworkspace
  have hinstalled : s.workspace.installed ≠ none := by
    rw [hresume, hworkspace, hinstalled]
    exact Option.some_ne_none _
  refine ⟨hlanguage, hspanned, hbuildable, hwaiting, hinstalled, ?_⟩
  have hpairs : twoLines.Reads Program.Unpaired := fun source p h =>
    hread source p h ▸ spannedProgram_unpaired
  obtain ⟨source, p, entry, ids, hlast, hparse, hreads, hrest⟩ :=
    highlight_shown {} twoLines "" true answeredMoves hlanguage hspanned hbuildable
      (by simp [answeredMoves, readingMoves]) (by simp [answeredMoves, readingMoves])
      (by simp [show (((new {} twoLines).run answeredMoves).waiting = none) from hwaiting])
      hinstalled
  exact ⟨source, p, entry, ids, hlast, hparse, hreads hpairs, hrest⟩

end Session

end BlockText

import BlockText.Proofs.Build.Showing
import BlockText.Proofs.Build.Upholding

/-!
# When showing is skipped

A program is left alone if its document is installed already.  This is right as long as the document
that is said to be installed is the one that the blocks show (`Workspace.Current`).  Showing a
well-formed program or an error keeps it so, and so does forgetting the document.

A document tells programs apart unless they hold texts with the two halves of a surrogate pair side
by side, which is written like the one character that the pair stands for. So the programs that are
shown are of a kind (`Program.Unpaired` in the end) that rules such texts out.

A program that cannot be shown breaks it: everything is removed before the first block is built, but
the document that was installed before is still said to be.  The next program with that document is
skipped.  It takes an error in place of the program, or a request to forget, to repair this.
-/

namespace BlockText

open Syntax Workspace

namespace Workspace

variable {ws : Workspace} {p : Program}

/-- Reading the blocks succeeds and gives a program that is structurally equal. -/
def ReadsAs (ws : Workspace) (p : Program) : Prop :=
  ∀ (counter : IdCounter) (indentWidth : ℤ), ∃ q counter',
    ws.compile counter indentWidth = (.ok q, counter') ∧
      Datum.structurallyEqual p.toDatum q.toDatum = true

/-- The document that is said to be installed is that of a well-formed program of the given kind
which the blocks show. -/
def Current (ws : Workspace) (kind : Program → Prop) : Prop :=
  ∀ document, ws.installed = some document → ∃ p entry, p.WellFormed ∧ kind p ∧
    p.body.toDatum.toJson = document ∧ ws.Displays entry p

/-- Where nothing is installed, nothing can be wrong. -/
lemma current_of_forgotten {kind : Program → Prop} (h : ws.installed = none) :
    ws.Current kind := by
  intro document hdocument
  rw [h] at hdocument
  cases hdocument

/-- What is current for a kind of programs is current for every wider kind. -/
lemma Current.mono {kind kind' : Program → Prop} (h : ws.Current kind)
    (himp : ∀ p, kind p → kind' p) : ws.Current kind' := by
  intro document hdocument
  obtain ⟨p, entry, hp, hkind, hrest⟩ := h document hdocument
  exact ⟨p, entry, hp, himp p hkind, hrest⟩

/-- The blocks are read as the program whose document is said to be installed. -/
lemma Current.readsAs (h : ws.Current Program.Unpaired) (hp : p.WellFormed) (hpairs : p.Unpaired)
    (hinstalled : ws.installed = some p.body.toDatum.toJson) : ws.ReadsAs p := by
  obtain ⟨p', entry, hp', hpairs', hdocument, hdisplays⟩ := h _ hinstalled
  have halike : Suite.Alike p.body p'.body :=
    hp.alike_of_toJson_eq hp' hpairs hpairs' hdocument.symm
  exact hdisplays.compile_of_alike hp' hp halike

end Workspace

/-! ## One call -/

namespace Edit

variable {ws : Workspace} {kind : Program → Prop}

/-- A program whose document is installed is left alone. -/
lemma run_build_of_installed {p : Program}
    (h : ws.installed = some p.body.toDatum.toJson) : (build p).run ws = (.ok false, ws) := by
  have hskip : Ends (build p) ws (fun changed ws' => changed = false ∧ ws' = ws)
      fun _ => False := by
    unfold build
    rw [ends_bind, ends_get, if_pos (by simpa using h)]
    exact ⟨rfl, rfl⟩
  obtain ⟨_, _, hrun, rfl, rfl⟩ := Yields.exists_run hskip
  exact hrun

/-- A well-formed program is shown or is shown already, and then its document is the one that the
blocks show. -/
lemma yields_build_of_current {p : Program} (hws : ws.Current kind) (hp : p.WellFormed)
    (hkind : kind p) :
    Yields (build p) ws fun _ ws' => ws'.Current kind ∧
      ws'.installed = some p.body.toDatum.toJson := by
  by_cases hnew : ws.installed = some p.body.toDatum.toJson
  · unfold Yields Ends
    rw [run_build_of_installed hnew]
    exact ⟨hws, hnew⟩
  · refine (yields_build hp hnew).mono ?_
    rintro _ ws' ⟨-, hinstalled, entry, hdisplays⟩
    refine ⟨fun document hdocument => ?_, hinstalled⟩
    exact ⟨p, entry, hp, hkind, Option.some.inj (hinstalled.symm.trans hdocument), hdisplays⟩

/-- A well-formed program keeps the installed document current. -/
lemma ends_build_current {p : Program} (hp : p.WellFormed) (hkind : kind p)
    (hws : ws.Current kind) :
    Ends (build p) ws (fun _ ws' => ws'.Current kind) fun ws' => ws'.Current kind :=
  Ends.mono (yields_build_of_current hws hp hkind) (fun _ _ h => h.1) fun _ h => h.elim

/-- After an error has been shown, no document is installed. -/
lemma ends_showError_current (message : String) (ws : Workspace) :
    Ends (showError message) ws (fun _ ws' => ws'.Current kind) fun ws' => ws'.Current kind :=
  Ends.mono (yields_showError message ws) (fun _ _ h => current_of_forgotten h.2) fun _ h => h.elim

/-! ## A program that cannot be shown -/

/-- A program that cannot be shown leaves the document of the one before installed. -/
lemma installed_of_failure {p : Program} {e : WorkspaceError} {ws' : Workspace}
    (h : (build p).run ws = (.error e, ws')) : ws'.installed = ws.installed := by
  have hends : Ends (build p) ws (fun _ _ => True)
      fun ws' => ws'.installed = ws.installed := by
    unfold build
    rw [ends_bind, ends_get]
    split
    · exact trivial
    · -- Nobody forgets the document while events are switched off.
      have hheeds : Heeds fun ws' => ws'.muted = ws.muted + 1 ∧ ws'.installed = ws.installed :=
        heeds_of_muted (fun _ h => by simp [h.1]) fun hsame h =>
          ⟨hsame.muted.trans h.1, hsame.installed.trans h.2⟩
      have hsteps := (hheeds.buildSteps fun _ _ h => h).install p
      have hinstall : Ends (quietly (install p)) ws
          (fun _ ws' => ws'.installed = ws.installed) fun ws' => ws'.installed = ws.installed :=
        ends_quietly ((hsteps { ws with muted := ws.muted + 1 } ⟨rfl, rfl⟩).mono
          (fun _ _ h => h.2) fun _ h => h.2)
      have hdeclare := upholds_refreshDeclared (P := fun ws' => ws'.installed = ws.installed)
        fun hsame h => hsame.installed.trans h
      rw [ends_bind]
      refine hinstall.mono (fun _ ws₁ h => ?_) fun _ h => h
      rw [ends_bind]
      exact (hdeclare ws₁ h).mono (fun _ _ _ => trivial) fun _ h => h
  unfold Ends at hends
  rwa [h] at hends

/-- A program is skipped after another one could not be shown in its place, although its blocks are
gone. -/
theorem run_build_after_failure {p failing : Program} {e : WorkspaceError} {ws' : Workspace}
    (hinstalled : ws.installed = some p.body.toDatum.toJson)
    (hfailure : (build failing).run ws = (.error e, ws')) :
    (build p).run ws' = (.ok false, ws') :=
  run_build_of_installed ((installed_of_failure hfailure).trans hinstalled)

end Edit

/-! ## Many calls -/

/-- What can be asked of the part that shows programs. -/
inductive Showing
  | program (p : Program)
  | error (message : String)
  | forget

namespace Showing

/-- What is asked, as an edit. -/
def edit : Showing → Edit Unit
  | program p => discard (Edit.build p)
  | error message => Edit.showError message
  | forget => Edit.invalidate

/-- The program that is to be shown, if any, is well-formed and has no texts with surrogate
pairs. -/
def Safe : Showing → Prop
  | program p => p.WellFormed ∧ p.Unpaired
  | error _ => True
  | forget => True

/-- No document is installed afterwards. -/
def Forgets : Showing → Prop
  | program _ => False
  | error _ => True
  | forget => True

/-- A program that may fail to be shown, or that its document does not tell from others, is followed
at once by an error or a request to forget. -/
def Repairs (first second : Showing) : Prop := first.Safe ∨ second.Forgets

/-- An error and a request to forget leave no document installed. -/
lemma current_of_forgets {kind : Program → Prop} {call : Showing} (h : call.Forgets)
    (ws : Workspace) : (call.edit.run ws).2.Current kind := by
  cases call with
  | program p => exact h.elim
  | error message => exact (Edit.ends_showError_current message ws).run
  | forget => exact current_of_forgotten rfl

end Showing

namespace Workspace

/-- The workspace after some calls, each of which is carried out or fails. -/
def showAll (ws : Workspace) (calls : List Showing) : Workspace :=
  calls.foldl (fun ws call => (call.edit.run ws).2) ws

/-- If every program that is not safe is followed at once by an error or a request to forget, then
the installed document is current in the end, where another program is about to be shown. -/
lemma current_showAll {p : Program} {calls : List Showing}
    (hcalls : (calls ++ [Showing.program p]).IsChain Showing.Repairs) {ws : Workspace}
    (hws : ws.Current Program.Unpaired ∨ ∀ call ∈ (calls ++ [Showing.program p]).head?, call.Forgets) :
    (ws.showAll calls).Current Program.Unpaired := by
  induction calls generalizing ws with
  | nil => exact hws.resolve_right fun h => h (.program p) rfl
  | cons call rest ih =>
    rw [List.cons_append, List.isChain_cons] at hcalls
    refine ih hcalls.2 ?_
    cases call with
    | program q =>
      have hcurrent := hws.resolve_right fun h => h (.program q) rfl
      by_cases hq : (Showing.program q).Safe
      · have hbuilt := Edit.ends_build_current hq.1 hq.2 hcurrent
        exact .inl (Edit.Ends.run ((Edit.ends_map _ _).mpr hbuilt))
      · exact .inr fun next hnext => (hcalls.1 next hnext).resolve_left hq
    | error message =>
      have hforgets : (Showing.error message).Forgets := trivial
      exact .inl (Showing.current_of_forgets hforgets ws)
    | forget =>
      have hforgets : Showing.forget.Forgets := trivial
      exact .inl (Showing.current_of_forgets hforgets ws)

/-- Skipping is right after every sequence of calls in which each program that may fail to be shown
or has texts with surrogate pairs is followed at once by an error or a request to forget: a
well-formed program without such texts can then be shown, and whether it was skipped or not, the
blocks are read as a structurally equal one. -/
theorem readsAs_build_showAll {ws : Workspace} (hws : ws.installed = none) {calls : List Showing}
    {p : Program} (hp : p.WellFormed) (hpairs : p.Unpaired)
    (hcalls : (calls ++ [Showing.program p]).IsChain Showing.Repairs) :
    ∃ changed ws', (Edit.build p).run (ws.showAll calls) = (.ok changed, ws') ∧
      ws'.ReadsAs p := by
  have hcurrent := current_showAll hcalls (.inl (current_of_forgotten hws))
  obtain ⟨changed, ws', hrun, hws', hinstalled⟩ :=
    (Edit.yields_build_of_current hcurrent hp hpairs).exists_run
  exact ⟨changed, ws', hrun, hws'.readsAs hp hpairs hinstalled⟩

/-- A program with an expression in place of a statement, for which there is no block. -/
def strayProgram : Program where
  body := ⟨[.stray (Expr.identifier "x" {}).toDatum], 0⟩

lemma sampleProgram_unpaired : sampleProgram.Unpaired := by cbv

/-- Another program fails to be shown in place of the sample, and an error is shown. -/
def sampleCalls : List Showing :=
  [.program sampleProgram, .program strayProgram, .error "No block for statement Identifier"]

/-- A program is shown once more after another one failed in its place. -/
theorem readsAs_build_showAll_sample :
    ({} : Workspace).installed = none ∧ sampleProgram.WellFormed ∧ sampleProgram.Unpaired ∧
      (sampleCalls ++ [Showing.program sampleProgram]).IsChain Showing.Repairs ∧
      ∃ changed ws', (Edit.build sampleProgram).run (({} : Workspace).showAll sampleCalls) =
        (.ok changed, ws') ∧ ws'.ReadsAs sampleProgram := by
  have hchain : (sampleCalls ++ [Showing.program sampleProgram]).IsChain Showing.Repairs := by
    simp [sampleCalls, Showing.Repairs, Showing.Safe, Showing.Forgets, sampleProgram_wellFormed,
      sampleProgram_unpaired]
  exact ⟨rfl, sampleProgram_wellFormed, sampleProgram_unpaired, hchain,
    readsAs_build_showAll rfl sampleProgram_wellFormed sampleProgram_unpaired hchain⟩

end Workspace

end BlockText

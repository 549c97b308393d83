import BlockText.Proofs.Build.Programs
import BlockText.Proofs.Compile.Coverage
import BlockText.Proofs.Compile.Programs

/-!
# When showing cannot fail

An error can be shown in every workspace, and a well-formed program too.  Events can be delivered as
long as the fields for texts hold texts: whoever follows the edits determines the declared names
first, and the names of such blocks can be sorted.
-/

namespace BlockText

open Syntax Workspace

/-! ## Delivering events -/

/-- Blocks whose fields for texts hold texts declare texts. -/
lemma Block.Measured.named {b : Block} (h : b.Measured) (hworded : b.Worded) : b.Named where
  name ht := by
    rcases ht with ht | ht | ht
    · exact Compile.exists_word h hworded ht "name" (by decide)
    · exact Compile.exists_word h hworded ht "name" (by decide)
    · exact Compile.exists_word h hworded ht "name" (by decide)
  params ht := by
    have hitems : ("item_count" : String) ∈ b.type.fields.map (·.1) := by
      rw [ht]
      decide
    obtain ⟨d, hd⟩ := Option.isSome_iff_exists.mp (h.counted.complete _ hitems)
    obtain ⟨n, rfl⟩ := h.counted.counts "item_count" (by rw [ht]; decide) d hd
    have hcount : countOf b.fields BlockType.functionDef.fieldCount = .ok n :=
      countOf_of_entry hd
    refine ⟨n, by rw [Block.itemCount, hd]; rfl, fun i hi d hd => ?_⟩
    obtain ⟨s, hs⟩ := Compile.exists_word_indexed h hworded ht hcount "PARAM" (by decide)
      (by simpa using hi)
    rw [hs] at hd
    exact ⟨s, (Option.some.inj hd).symm⟩

/-- The workspace holds one block and nothing else: the block shows the message.  The view is the
given one. -/
structure Workspace.ShowsOnly (message : String) (viewport : Viewport) (ws : Workspace) : Prop where
  blocks : ∃ id b, ws.blocks = [(id, b)] ∧ b.type = .syncError ∧
    b.field? "message" = some (.text message)
  links : ws.links = {}
  spans : ws.spans = []
  viewport : ws.viewport = viewport

namespace Edit

/-- While events are switched off, a field that counts nothing is set in a block that is no text. -/
private lemma yields_setPlain {ws : Workspace} {id : BlockId} {b : Block} {name : String}
    {value : Datum} {done : Unit → Workspace → Prop} (hmuted : ws.muted ≠ 0)
    (hblock : ws.block? id = some b) (hstring : b.type ≠ .string)
    (hcount : b.type.isCount name = false)
    (hsame : (b.field? name).any (·.equiv value) → done () ws)
    (hdone : done () (ws.put id (b.writeField name value))) :
    Yields (setField id name value) ws done := by
  have hforget : Yields (forgetSpelling id name value) ws fun _ ws' => ws' = ws := by
    unfold forgetSpelling
    rw [Yields, ends_bind]
    refine yields_require hblock ?_
    rw [if_neg (by simp [hstring])]
    exact rfl
  unfold setField
  refine Yields.bind hforget ?_
  rintro _ ws₁ rfl
  rw [Yields, ends_bind]
  refine yields_require hblock ?_
  have hvalue : fieldValue b.type name value = pure value := by simp [fieldValue, hcount]
  rw [hvalue, pure_bind]
  dsimp only
  split
  case isTrue =>
    unfold updateShaped update
    have hplain : (b.writeField name value).type.isCount name = false := hcount
    simp only [ends_bind, ends_modify, hplain]
    exact yields_fire hmuted hdone
  case isFalse h => exact hsame (by simpa using h)

/-- While events are switched off, an empty workspace is given a block that shows an error. -/
private lemma yields_errorBlock {ws : Workspace} (hmuted : ws.muted ≠ 0) (hempty : ws.blocks = [])
    (hlinks : ws.links = {}) (hspans : ws.spans = []) (message : String) (viewport : Viewport) :
    Yields (do
      let id ← create .syncError entrySpot
      setField id "message" message
      setViewport viewport) ws
      fun _ ws' => ws'.ShowsOnly message viewport := by
  have hcreate : Yields (create .syncError entrySpot) ws fun id ws' => ws'.muted ≠ 0 ∧
      ws'.blocks = [(id, Block.ofType .syncError)] ∧ ws'.links = {} ∧ ws'.spans = [] := by
    unfold create
    rw [Yields, ends_bind]
    refine yields_freshId fun id n hid => ?_
    unfold place
    simp only [ends_bind, ends_get]
    refine yields_refuseIf (Bool.eq_false_iff.mpr hid) ?_
    simp only [ends_set]
    refine yields_fire hmuted ⟨hmuted, ?_, hlinks, hspans⟩
    simp [grow, hempty]
  refine Yields.bind hcreate ?_
  rintro id ws₁ ⟨hmuted₁, hblocks, hlinks₁, hspans₁⟩
  have hblock : ws₁.block? id = some (Block.ofType .syncError) := by
    rw [block?, hblocks, entryAt?_cons]
    simp
  have ht : (Block.ofType .syncError).type = .syncError := (Block.proper_ofType .syncError).2.1
  have hview : ∀ (ws₂ : Workspace) (b : Block), ws₂.muted ≠ 0 → ws₂.blocks = [(id, b)] →
      b.type = .syncError → b.field? "message" = some (.text message) → ws₂.links = {} →
      ws₂.spans = [] →
      Yields (setViewport viewport) ws₂ fun _ ws' => ws'.ShowsOnly message viewport := by
    intro ws₂ b hmuted₂ hblocks₂ hb hmessage hlinks₂ hspans₂
    unfold setViewport
    simp only [Yields, ends_bind, ends_modify]
    exact yields_fire hmuted₂ ⟨⟨id, b, hblocks₂, hb, hmessage⟩, hlinks₂, hspans₂, rfl⟩
  rw [Yields, ends_bind]
  refine yields_setPlain hmuted₁ hblock (by rw [ht]; decide) (by rw [ht]; decide)
    (fun hsame => ?_) ?_
  · -- The message of a new block is empty.
    have hold : (Block.ofType .syncError).field? "message" = some (.text "") := rfl
    obtain rfl : "" = message := by simpa [hold, Datum.equiv] using hsame
    exact hview ws₁ _ hmuted₁ hblocks ht hold hlinks₁ hspans₁
  · refine hview _ ((Block.ofType .syncError).writeField "message" message) hmuted₁ ?_ ht ?_ hlinks₁
      hspans₁
    · simp [put, hblocks, putEntry]
    · simp [Block.field?, Block.writeField, entryAt?_putEntry]

/-- An error can be shown, whatever the workspace looks like.  It is all that the workspace shows
then, and no document is installed. -/
lemma yields_showError (message : String) (ws : Workspace) :
    Yields (showError message) ws fun _ ws' =>
      ws'.ShowsOnly message ws.viewport ∧ ws'.installed = none := by
  have hinner : Yields (quietly do
      let viewport := (← get).viewport
      wipe
      let id ← create .syncError entrySpot
      setField id "message" message
      setViewport viewport) ws
      fun _ ws' => ws'.ShowsOnly message ws.viewport := by
    refine ends_quietly ?_
    rw [ends_bind, ends_get]
    refine Yields.bind (yields_wipe (Nat.succ_ne_zero _)) ?_
    rintro _ ws₁ ⟨⟨htidy, hempty⟩, hlinks, hspans, -⟩
    exact (yields_errorBlock htidy.muted hempty hlinks hspans message _).mono
      fun _ _ h => ⟨h.blocks, h.links, h.spans, h.viewport⟩
  refine Yields.bind hinner fun _ ws₁ hshows => ?_
  have hnamed : ∀ entry ∈ ws₁.blocks, entry.2.Named := by
    obtain ⟨id, b, hblocks, ht, -⟩ := hshows.blocks
    intro entry hentry
    rw [hblocks] at hentry
    obtain rfl := List.mem_singleton.mp hentry
    exact ⟨by simp [ht], by simp [ht]⟩
  rw [Yields, ends_bind]
  exact yields_refreshDeclared hnamed fun _ _ =>
    ⟨⟨hshows.blocks, hshows.links, hshows.spans, hshows.viewport⟩, rfl⟩

/-- A well-formed program can be shown, whatever the workspace looks like. -/
lemma exists_build_ok {p : Program} (hp : p.WellFormed) (ws : Workspace) :
    ∃ changed, ((build p).run ws).1 = .ok changed := by
  have hbuild : Yields (build p) ws fun _ _ => True := by
    by_cases hnew : ws.installed = some p.body.toDatum.toJson
    · unfold build
      rw [Yields, ends_bind, ends_get, if_pos (by simpa using hnew)]
      exact trivial
    · exact (yields_build hp hnew).mono fun _ _ _ => trivial
  obtain ⟨changed, ws', hrun, -⟩ := hbuild.exists_run
  exact ⟨changed, by rw [hrun]⟩

end Edit

end BlockText

/-!
## Reading, showing and reading again

Blocks can be plugged together in ways in which showing a text never does: with empty slots, empty
names, numbers with blanks around them, lists of names with stray commas.  Reading fills in and
cleans up what is missing or loose, so that the program it gives is well-formed.  Hence showing that
program in a new workspace and reading it again changes nothing.
-/

namespace BlockText.Workspace

open Syntax

variable {ws : Workspace}

/-- What is read off a reachable workspace whose fields for texts hold texts is well-formed. -/
lemma Reachable.wellFormed_compile (hws : ws.Reachable) (hworded : ws.Worded)
    {counter counter' : IdCounter} {indentWidth : ℤ} {p : Program}
    (h : ws.compile counter indentWidth = (.ok p, counter')) : p.WellFormed :=
  ((hws.forest.ends_program hws.measured indentWidth).of_run h).wellFormed hworded

/-- A program that is read off a reachable workspace whose fields for texts hold texts can be shown
in a new workspace, and a structurally equal program is read off that. -/
theorem compile_build_compile (hws : ws.Reachable) (hworded : ws.Worded)
    {counter counter' : IdCounter} {indentWidth : ℤ} {p : Program}
    (h : ws.compile counter indentWidth = (.ok p, counter')) (watched : Bool) (muted : ℕ)
    (counter₁ : IdCounter) (indentWidth₁ : ℤ) :
    ∃ ws', (Edit.build p).run { watched, muted } = (.ok true, ws') ∧
      ∃ q counter₁', ws'.compile counter₁ indentWidth₁ = (.ok q, counter₁') ∧
        Datum.structurallyEqual p.toDatum q.toDatum = true := by
  have hp := hws.wellFormed_compile hworded h
  obtain ⟨ws', entry, hbuild, hdisplays⟩ : ∃ ws' entry,
      (Edit.build p).run { watched, muted } = (.ok true, ws') ∧ ws'.Displays entry p :=
    exists_displays_of_build hp (by simp)
  exact ⟨ws', hbuild, hdisplays.compile hp counter₁ indentWidth₁⟩

/-- The program of the example is shown in a new workspace and read again. -/
theorem compile_build_compile_sample : sampleWorkspace.Reachable ∧ sampleWorkspace.Worded ∧
    ∃ p counter', sampleWorkspace.compile {} 4 = (.ok p, counter') ∧
      ∃ ws', (Edit.build p).run {} = (.ok true, ws') ∧
        ∃ q counter₁', ws'.compile {} 4 = (.ok q, counter₁') ∧
          Datum.structurallyEqual p.toDatum q.toDatum = true := by
  obtain ⟨p, counter', h⟩ := sampleWorkspace_compiles
  exact ⟨sampleWorkspace_reachable, sampleWorkspace_worded, p, counter', h,
    compile_build_compile sampleWorkspace_reachable sampleWorkspace_worded h false 0 {} 4⟩

end BlockText.Workspace

import BlockText.Proofs.Block.Measured
import BlockText.Proofs.Workspace.Effects
import BlockText.Proofs.Workspace.Operations

/-!
# Workspaces of measured blocks

Operations write any data to fields, but a count only if it is a number, and then they bring the
slots of the block in line with it.  So in every workspace that operations lead to from an empty
one, all blocks are measured.
-/

namespace BlockText

namespace Workspace

/-- All blocks have numbers as counts, and the slots and fields that these ask for. -/
def Measured (ws : Workspace) : Prop := ∀ entry ∈ ws.blocks, entry.2.Measured

variable {ws ws' : Workspace}

/-- A block found in a measured workspace is measured. -/
lemma Measured.of_block? (h : ws.Measured) {id : BlockId} {b : Block} (hb : ws.block? id = some b) :
    b.Measured := h (id, b) (mem_of_entryAt? hb)

/-- Another state of a block, if it is measured, keeps all blocks measured. -/
lemma Measured.put (h : ws.Measured) {id : BlockId} {b : Block} (hb : b.Measured) :
    (ws.put id b).Measured := by
  intro entry hentry
  change entry ∈ putEntry ws.blocks id b at hentry
  unfold putEntry at hentry
  split at hentry
  · obtain ⟨old, hold, rfl⟩ := List.mem_map.mp hentry
    split
    · exact hb
    · exact h old hold
  · rcases List.mem_append.mp hentry with hold | hnew
    · exact h entry hold
    · rw [List.mem_singleton.mp hnew]
      exact hb

end Workspace

namespace Edit

open Workspace

variable {α β : Type}

/-- The edit keeps all blocks measured, whether it is carried out or refused. -/
def KeepsMeasured (x : Edit α) : Prop :=
  ∀ ws : Workspace, ws.Measured → Ends x ws (fun _ => Measured) Measured

/-! ## Steps -/

lemma keepsMeasured_pure (a : α) : KeepsMeasured (pure a) := upholds_pure a

lemma keepsMeasured_throw (e : WorkspaceError) : KeepsMeasured (throw e : Edit α) := upholds_throw e

/-- One step after another. -/
lemma KeepsMeasured.bind {x : Edit β} {f : β → Edit α} (hx : KeepsMeasured x)
    (hf : ∀ b, KeepsMeasured (f b)) : KeepsMeasured (x >>= f) := Upholds.bind hx hf

/-- Being measured is decided by the blocks alone. -/
lemma decidedByBlocks_measured : DecidedByBlocks Measured := by
  intro ws ws' hblocks hw
  unfold Measured
  rwa [hblocks]

/-- Firing an event keeps the workspace measured. -/
lemma keepsMeasured_fire (type : EventType) (block : Option BlockId)
    (details : List (String × Datum)) : KeepsMeasured (fire type block details) :=
  decidedByBlocks_measured.fire type block details

/-- Replacing a block by a measured one. -/
lemma keepsMeasured_update (id : BlockId) {b : Block} (hb : b.Measured) :
    KeepsMeasured (update id b) := fun _ hw => hw.put hb

/-! ## Blocks -/

/-- A new block is measured. -/
lemma keepsMeasured_place (id : BlockId) (type : BlockType) (spot : Point) :
    KeepsMeasured (place id type spot) := by
  intro ws hw
  unfold place
  rw [ends_bind, ends_get, ends_bind]
  refine ends_refuseIf (fun _ => ?_) hw
  rw [ends_bind, ends_set]
  refine keepsMeasured_fire _ _ _ _ fun entry hentry => ?_
  rcases List.mem_append.mp hentry with hold | hnew
  · exact hw entry hold
  · rw [List.mem_singleton.mp hnew]
    exact Block.measured_ofType type

/-- Creating a block by the name of its type keeps the workspace measured. -/
lemma keepsMeasured_createNamed (typeName : String) (id : Option BlockId) (spot : Point) :
    KeepsMeasured (createNamed typeName id spot) := by
  refine (decidedByBlocks_measured.idOrFresh id).bind fun id => KeepsMeasured.bind ?_ fun _ =>
    keepsMeasured_pure _
  unfold placeNamed
  split
  · exact keepsMeasured_place _ _ _
  · exact keepsMeasured_throw _

/-- Deleting a block leaves fewer blocks. -/
lemma keepsMeasured_deleteWithin (fuel : ℕ) (id : BlockId) (heal : Bool) :
    KeepsMeasured (deleteWithin fuel id heal) := by
  induction fuel generalizing id heal with
  | zero => exact keepsMeasured_pure ()
  | succ fuel ih =>
    have hremove : KeepsMeasured (remove id) := by
      intro ws hw entry hentry
      exact hw entry (List.mem_filter.mp hentry).1
    unfold deleteWithin
    have hblocks := decidedByBlocks_measured
    refine (upholds_require id).bind fun b => upholds_get.bind fun ws =>
      (hblocks.dropEdges _).bind fun _ => (upholds_forM fun next => ih next false).bind fun _ =>
      upholds_get.bind fun _ => (upholds_forM fun child => ih child false).bind fun _ =>
      Upholds.bind hremove fun _ => (keepsMeasured_fire _ _ _).bind fun _ => ?_
    split
    · exact hblocks.addEdge _
    · exact keepsMeasured_pure ()

/-! ## Connections -/

/-- Plugging a value keeps the workspace measured. -/
lemma keepsMeasured_connectValue (parent : BlockId) (slot : String) (child : BlockId) :
    KeepsMeasured (connectValue parent slot child) :=
  decidedByBlocks_measured.connectValue parent slot child

/-- Connecting a statement keeps the workspace measured. -/
lemma keepsMeasured_connectStatement (parent : BlockId) (slot : String) (child : BlockId) :
    KeepsMeasured (connectStatement parent slot child) :=
  decidedByBlocks_measured.connectStatement parent slot child

/-! ## Fields -/

/-- Texts have no counts, so forgetting a spelling keeps the block measured. -/
private lemma keepsMeasured_forgetSpelling (id : BlockId) (name : String) (value : Datum) :
    KeepsMeasured (forgetSpelling id name value) := by
  intro ws hw
  unfold forgetSpelling
  rw [ends_bind]
  refine ends_require (fun b hb => ?_) fun _ => hw
  split
  case isFalse => exact hw
  case isTrue h =>
    have ht : b.type = .string := by
      simp only [Bool.and_eq_true, beq_iff_eq] at h
      exact h.1.1
    exact keepsMeasured_update id ((hw.of_block? hb).writeField "" (by rw [ht]; decide)) ws hw

/-- Dropping connections leaves the blocks alone and cannot be refused. -/
private lemma ends_detachPorts {ws : Workspace} {id : BlockId} (ports : List String) :
    Ends (ports.forM (detach id)) ws (fun _ ws' => ws'.blocks = ws.blocks) (fun _ => False) := by
  induction ports generalizing ws with
  | nil => exact rfl
  | cons port rest ih =>
    change Ends (detach id port >>= fun _ => rest.forM (detach id)) ws _ _
    simp only [detach, dropEdges, ends_bind, ends_modify]
    exact ih.mono (fun _ _ h => h) fun _ h => h

/-- Bringing a block whose counts are numbers in line with them ends in measured blocks. -/
private lemma ends_reshape_measured {ws : Workspace} (hw : ws.Measured) {id : BlockId}
    (hid : ws.has id) {b shaped : Block} (hb : b.reshape = .ok shaped) (hshaped : shaped.Measured) :
    Ends (reshape id b) (ws.put id b) (fun _ => Measured) Measured := by
  unfold reshape
  rw [hb]
  change Ends (pure shaped >>= _) _ _ _
  rw [pure_bind, ends_bind]
  refine (ends_detachPorts _).mono (fun _ ws₁ h₁ => ?_) fun _ h => h.elim
  rw [ends_bind]
  refine (ends_detachPorts _).mono (fun _ ws₂ h₂ => ?_) fun _ h => h.elim
  have hblocks : (ws₂.put id shaped).blocks = (ws.put id shaped).blocks := by
    change putEntry ws₂.blocks id shaped = putEntry ws.blocks id shaped
    rw [h₂, h₁]
    exact putEntry_putEntry b shaped (has_iff_mem_ids.mp hid)
  rw [update, ends_modify]
  unfold Measured
  rw [hblocks]
  exact hw.put hshaped

/-- A field that counts nothing may hold anything, and a count brings the slots with it. -/
lemma keepsMeasured_setField (id : BlockId) (name : String) (value : Datum) :
    KeepsMeasured (setField id name value) := by
  intro ws hw
  unfold setField
  rw [ends_bind]
  refine (keepsMeasured_forgetSpelling id name value ws hw).mono (fun _ ws₁ hw₁ => ?_) fun _ h => h
  rw [ends_bind]
  refine ends_require (fun b hb => ?_) fun _ => hw₁
  have hb' := hw₁.of_block? hb
  rw [ends_bind]
  refine ends_fieldValue _ _ _ (fun value hvalue => ?_) hw₁
  dsimp only
  split
  case isFalse => exact hw₁
  case isTrue =>
    unfold updateShaped
    rw [ends_bind, ends_bind, update, ends_modify]
    split
    case isFalse hcount =>
      have hplain : b.type.isCount name = false := Bool.eq_false_iff.mpr hcount
      exact keepsMeasured_fire _ _ _ _ (hw₁.put (hb'.writeField value hplain))
    case isTrue hcount =>
      obtain ⟨n, rfl⟩ := hvalue hcount
      obtain ⟨shaped, hshaped, hmeasured⟩ := hb'.reshape_writeField name n
      exact (ends_reshape_measured hw₁ (has_of_block? hb) hshaped hmeasured).mono
        (fun _ ws₂ hw₂ => keepsMeasured_fire _ _ _ ws₂ hw₂) fun _ h => h

/-! ## Layout and selection -/

/-- Moving a block keeps the workspace measured. -/
lemma keepsMeasured_move (id : BlockId) (spot : Point) : KeepsMeasured (move id spot) :=
  decidedByBlocks_measured.move id spot

/-- An edit without its result. -/
private lemma KeepsMeasured.discard {x : Edit α} (hx : KeepsMeasured x) :
    KeepsMeasured (discard x : Edit Unit) := Upholds.discard hx

/-- Setting the viewport keeps the workspace measured. -/
lemma keepsMeasured_setViewport (viewport : Viewport) : KeepsMeasured (setViewport viewport) :=
  decidedByBlocks_measured.setViewport viewport

/-- Clearing keeps the workspace measured. -/
lemma keepsMeasured_clear : KeepsMeasured clear := by
  refine upholds_get.bind fun ws => Upholds.bind (fun ws _ => ?_) fun _ =>
    upholds_forM fun id => keepsMeasured_fire _ _ _
  rw [ends_modify]
  exact fun _ h => absurd h List.not_mem_nil

end Edit

/-! ## Sequences of operations -/

namespace Operation

open Edit

/-- Every operation keeps all blocks measured. -/
lemma keepsMeasured_edit (op : Operation) : op.edit.KeepsMeasured := by
  cases op with
  | create typeName id spot => exact (keepsMeasured_createNamed typeName id spot).discard
  | delete id heal =>
    exact upholds_get.bind fun ws => keepsMeasured_deleteWithin (ws.blocks.length + 1) id heal
  | connectValue parent slot child => exact (keepsMeasured_connectValue parent slot child).discard
  | connectStatement parent slot child =>
    exact (keepsMeasured_connectStatement parent slot child).discard
  | connectNext before after => exact (keepsMeasured_connectStatement before "next" after).discard
  | unplug id => exact decidedByBlocks_measured.unplug id
  | detach id port => exact decidedByBlocks_measured.detach id port
  | setField id name value => exact keepsMeasured_setField id name value
  | move id spot => exact keepsMeasured_move id spot
  | moveBy id distance => exact upholds_get.bind fun _ => keepsMeasured_move id _
  | select id => exact decidedByBlocks_measured.select id
  | cleanUp origin => exact decidedByBlocks_measured.cleanUp origin
  | clear => exact keepsMeasured_clear

/-- Operations leave measured blocks. -/
lemma measured_applyAll {ws : Workspace} (hw : ws.Measured) (ops : List Operation) :
    (applyAll ws ops).Measured :=
  applyAll_induction (fun ws op hw => (op.keepsMeasured_edit ws hw).run) hw ops

end Operation

namespace Workspace

/-- The workspace comes from an empty one by operations, carried out or refused. -/
def Reachable (ws : Workspace) : Prop :=
  ∃ watched muted ops, ws = Operation.applyAll { watched, muted } ops

variable {ws : Workspace}

/-- A reachable workspace is a forest. -/
lemma Reachable.forest (h : ws.Reachable) : ws.Forest := by
  obtain ⟨watched, muted, ops, rfl⟩ := h
  exact Operation.forest_applyAll (Edit.forest_of_empty rfl rfl rfl rfl) ops

/-- A reachable workspace is measured. -/
lemma Reachable.measured (h : ws.Reachable) : ws.Measured := by
  obtain ⟨watched, muted, ops, rfl⟩ := h
  exact Operation.measured_applyAll (by simp [Measured]) ops

/-- A reachable workspace stays reachable. -/
lemma Reachable.applyAll (hws : ws.Reachable) (ops : List Operation) :
    (Operation.applyAll ws ops).Reachable := by
  obtain ⟨watched, muted, ops₀, rfl⟩ := hws
  exact ⟨watched, muted, ops₀ ++ ops, List.foldl_append.symm⟩

end Workspace

end BlockText

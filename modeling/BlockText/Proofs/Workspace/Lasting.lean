import BlockText.Proofs.Workspace.Effects
import BlockText.Proofs.Workspace.Operations

/-!
# Blocks that last

A block is taken out only by deleting it, or what holds it, and by clearing the workspace.  All
other operations leave it there with its type, whatever they do to its fields, slots and
connections, and also if they are refused.
-/

namespace BlockText

/-- There is a block of the type under this name. -/
def Workspace.HasType (id : BlockId) (type : BlockType) (ws : Workspace) : Prop :=
  ∃ b, ws.block? id = some b ∧ b.type = type

/-- The operation takes blocks out. -/
def Operation.Removes : Operation → Prop
  | delete _ _ | clear => True
  | create _ _ _ | connectValue _ _ _ | connectStatement _ _ _ | connectNext _ _ | unplug _
  | detach _ _ | setField _ _ _ | move _ _ | moveBy _ _ | select _ | cleanUp _ => False

/-- Bringing a block in line with its counts keeps its type. -/
lemma Block.type_of_reshape {b shaped : Block} (h : b.reshape = .ok shaped) :
    shaped.type = b.type := by
  obtain ⟨shape, -, h⟩ := bind_eq_ok_iff.mp h
  exact Except.ok.inj h ▸ rfl

namespace Edit

open Workspace

variable {id : BlockId} {type : BlockType}

lemma decidedByBlocks_hasType : DecidedByBlocks (HasType id type) := by
  rintro ws ws' hblocks ⟨b, hb, ht⟩
  exact ⟨b, by rwa [block?, hblocks], ht⟩

/-! ## New blocks -/

/-- A new block takes no name that is taken. -/
lemma hasType_place (other : BlockId) (t : BlockType) (spot : Point) :
    Upholds (HasType id type) (place other t spot) := by
  rintro ws ⟨b, hb, ht⟩
  unfold place
  rw [ends_bind, ends_get, ends_bind]
  refine ends_refuseIf (fun hnew => ?_) ⟨b, hb, ht⟩
  rw [ends_bind, ends_set]
  have hne : id ≠ other := fun h => Bool.eq_false_iff.mp hnew (h ▸ has_of_block? hb)
  refine decidedByBlocks_hasType.fire _ _ _ _ ⟨b, ?_, ht⟩
  rw [block?_grow (Bool.eq_false_iff.mp hnew), if_neg hne, hb]

lemma hasType_createNamed (typeName : String) (other : Option BlockId) (spot : Point) :
    Upholds (HasType id type) (createNamed typeName other spot) := by
  refine (decidedByBlocks_hasType.idOrFresh other).bind fun other => Upholds.bind ?_ fun _ =>
    upholds_pure _
  unfold placeNamed
  split
  · exact hasType_place _ _ _
  · exact upholds_throw _

/-! ## Fields -/

/-- Another state of a block has its type. -/
lemma hasType_update {other : BlockId} {b : Block} (hb : other = id → b.type = type) :
    Upholds (HasType id type) (update other b) := by
  rintro ws ⟨old, hold, ht⟩
  rw [update, ends_modify]
  by_cases h : id = other
  · exact ⟨b, by rw [block?_put, if_pos h], hb h.symm⟩
  · exact ⟨old, by rw [block?_put, if_neg h, hold], ht⟩

/-- While the block is looked up, it has its type. -/
lemma hasType_require {α : Type} {other : BlockId} {f : Block → Edit α}
    (hf : ∀ b, (other = id → b.type = type) → Upholds (HasType id type) (f b)) :
    Upholds (HasType id type) (require other >>= f) := by
  rintro ws ⟨old, hold, ht⟩
  rw [ends_bind]
  refine ends_require (fun b hb => hf b ?_ ws ⟨old, hold, ht⟩) fun _ => ⟨old, hold, ht⟩
  rintro rfl
  exact Option.some.inj (hb.symm.trans hold) ▸ ht

lemma hasType_updateShaped {other : BlockId} {b : Block} (hb : other = id → b.type = type)
    (name : String) : Upholds (HasType id type) (updateShaped other b name) := by
  refine (hasType_update hb).bind fun _ => ?_
  split
  case isFalse => exact upholds_pure _
  case isTrue =>
    unfold reshape
    cases hshaped : b.reshape with
    | error f => exact upholds_throw _
    | ok shaped =>
      have hdetach : ∀ port, Upholds (HasType id type) (detach other port) :=
        decidedByBlocks_hasType.detach other
      change Upholds _ (pure shaped >>= _)
      rw [pure_bind]
      exact (upholds_forM hdetach).bind fun _ => (upholds_forM hdetach).bind fun _ =>
        hasType_update fun h => (Block.type_of_reshape hshaped).trans (hb h)

lemma hasType_setField (other : BlockId) (name : String) (value : Datum) :
    Upholds (HasType id type) (setField other name value) := by
  have hforget : Upholds (HasType id type) (forgetSpelling other name value) := by
    refine hasType_require fun b hb => ?_
    split
    · exact hasType_update hb
    · exact upholds_pure _
  have hvalue : ∀ t, Upholds (HasType id type) (fieldValue t name value) := fun t ws hws =>
    ends_fieldValue t name value (fun _ _ => hws) hws
  refine hforget.bind fun _ => hasType_require fun b hb => (hvalue b.type).bind fun v => ?_
  dsimp only
  split
  · exact (hasType_updateShaped (b := b.writeField name v) hb name).bind fun _ =>
      decidedByBlocks_hasType.fire _ _ _
  · exact upholds_pure _

/-! ## Operations -/

/-- Only deleting blocks and clearing the workspace take a block away. -/
theorem hasType_operation {op : Operation} (h : ¬ op.Removes) :
    Upholds (HasType id type) op.edit := by
  have hblocks := @decidedByBlocks_hasType id type
  cases op with
  | create typeName other spot => exact (hasType_createNamed typeName other spot).discard
  | delete other heal => exact absurd trivial h
  | connectValue parent slot child => exact (hblocks.connectValue parent slot child).discard
  | connectStatement parent slot child => exact (hblocks.connectStatement parent slot child).discard
  | connectNext before after => exact (hblocks.connectStatement before "next" after).discard
  | unplug other => exact hblocks.unplug other
  | detach other port => exact hblocks.detach other port
  | setField other name value => exact hasType_setField other name value
  | move other spot => exact hblocks.move other spot
  | moveBy other distance => exact upholds_get.bind fun _ => hblocks.move other _
  | select other => exact hblocks.select other
  | cleanUp origin => exact hblocks.cleanUp origin
  | clear => exact absurd trivial h

end Edit

end BlockText

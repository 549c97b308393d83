import BlockText.Proofs.Workspace.Deleting

/-!
# Sequences of operations

`Operation` lists the operations that a workspace offers.  Each of them keeps the forest, also when
it is refused midway, so every workspace that operations lead to from an empty one is a forest.
`Workspace.Consistent` says what this means for the lists, look-ups and walks of a workspace.
-/

namespace BlockText

namespace Edit

open Workspace

/-! ## New blocks -/

/-- A new name changes nothing but the number of the next one. -/
private lemma keepsForest_idOrFresh (id : Option BlockId) : KeepsForest (idOrFresh id) := by
  intro ws hw
  cases id with
  | some id => exact hw
  | none =>
    unfold idOrFresh freshId
    simp only [ends_bind, ends_get, ends_set, ends_pure]
    exact .of_sameGraph (show SameGraph ws _ from ⟨rfl, rfl, rfl, rfl⟩) hw

/-- Adding a block under a name keeps the forest. -/
private lemma keepsForest_place (id : BlockId) (type : BlockType) (spot : Point) :
    KeepsForest (place id type spot) := by
  intro ws hw
  unfold place
  rw [ends_bind, ends_get, ends_bind]
  refine ends_refuseIf (fun hid => ?_) hw
  rw [ends_bind, ends_set]
  exact keepsForest_fire _ _ _ _ (hw.grow (by simp [hid]) type spot)

/-- Adding a block under a new name keeps the forest. -/
lemma keepsForest_create (type : BlockType) (spot : Point) : KeepsForest (create type spot) := by
  intro ws hw
  unfold create
  rw [ends_bind]
  refine (keepsForest_idOrFresh none ws hw).mono (fun id ws' hw' => ?_) fun _ h => h
  rw [ends_bind]
  exact keepsForest_place id type spot ws' hw'

/-- Adding a block of a type that is given by its name keeps the forest. -/
lemma keepsForest_createNamed (typeName : String) (id : Option BlockId) (spot : Point) :
    KeepsForest (createNamed typeName id spot) := by
  intro ws hw
  unfold createNamed
  rw [ends_bind]
  refine (keepsForest_idOrFresh id ws hw).mono (fun id ws' hw' => ?_) fun _ h => h
  rw [ends_bind]
  unfold placeNamed
  cases BlockType.ofName? typeName with
  | none => exact hw'
  | some type => exact keepsForest_place id type spot ws' hw'

/-! ## Fields -/

/-- Another state of a block with the same slots keeps the forest. -/
private lemma Forest.put_of_slots {ws : Workspace} (hw : ws.Forest) {id : BlockId} {b b' : Block}
    (hb : ws.block? id = some b) (htype : b'.type = b.type) (hvalues : b'.values = b.values)
    (hstatements : b'.statements = b.statements) : (ws.put id b').Forest := by
  have hsound : b'.Sound := by
    obtain ⟨hv, hs, happart⟩ := hw.sound id b hb
    exact ⟨hvalues ▸ hv, hstatements ▸ hs, hvalues ▸ hstatements ▸ happart⟩
  refine hw.put hb htype hsound (fun e he hk htarget => ?_) fun e he hk hsource => ?_
  · obtain ⟨-, -, -, t, -, ht, -, hslot⟩ := hw.value_cases he hk
    rw [htarget, hb, Option.some.injEq] at ht
    rwa [Block.hasValueSlot, hvalues, ht]
  · obtain ⟨-, -, s, -, hs, -, hslot, -⟩ := hw.statement_cases he hk
    rw [hsource, hb, Option.some.injEq] at hs
    rwa [Block.hasStatementSlot, Block.isStatement, Block.kind, hstatements, htype, hs]

/-- Forgetting a spelling keeps the forest. -/
private lemma keepsForest_forgetSpelling (id : BlockId) (name : String) (value : Datum) :
    KeepsForest (forgetSpelling id name value) := by
  intro ws hw
  unfold forgetSpelling
  rw [ends_bind]
  refine ends_require (fun b hb => ?_) fun _ => hw
  split
  · exact Forest.put_of_slots hw hb rfl rfl rfl
  · exact hw

/-- A text of digits is read as a natural number: it has no sign. -/
lemma exists_natural {s : String} (h : Text.isDigits s = true) {n : ℤ}
    (hn : Text.readInteger? s = some n) : ∃ k : ℕ, n = k := by
  have hdigits : ∀ c ∈ Text.trimChars s.toList, Text.isDigitLike c = true := by
    intro c hc
    simp only [Text.isDigits, Bool.and_eq_true, List.all_eq_true] at h
    refine h.2 c ?_
    have hstart := List.mem_reverse.mp ((List.dropWhile_sublist _).mem (List.mem_reverse.mp hc))
    exact (List.dropWhile_sublist _).mem hstart
  unfold Text.readInteger? at hn
  split at hn
  case h_1 rest hrest =>
    have := hdigits '-' (by rw [hrest]; exact List.mem_cons_self)
    exact absurd this (by decide)
  all_goals
    simp only [Option.map_id', Option.bind_eq_bind, Option.bind_eq_some_iff] at hn
    obtain ⟨k, -, hk⟩ := hn
    exact ⟨k, (Option.some.inj hk).symm⟩

/-- Checking the value of a field leaves the workspace alone, and a count that passes is a natural
number. -/
lemma ends_fieldValue {ws : Workspace} {done : Datum → Workspace → Prop}
    {refused : Workspace → Prop} (type : BlockType) (name : String) (value : Datum)
    (hdone : ∀ value, (type.isCount name → ∃ n : ℕ, value = .int n) → done value ws)
    (hrefused : refused ws) : Ends (fieldValue type name value) ws done refused := by
  unfold fieldValue
  split
  case isFalse hcount => exact hdone value fun h => absurd h hcount
  case isTrue =>
    cases value with
    | text s =>
      unfold countValue
      dsimp only
      split
      case isFalse => exact hrefused
      case isTrue hdigits =>
        generalize hread : (Datum.text (Text.trim s)).toInteger = digits
        rw [ends_map]
        refine ends_ofFault (fun n hn => hdone (.int n) fun _ => ?_) hrefused
        rw [hn, Datum.toInteger] at hread
        split at hread
        case h_2 => cases hread
        case h_1 hsome =>
          cases hread
          obtain ⟨k, rfl⟩ := exists_natural hdigits hsome
          exact ⟨k, rfl⟩
    | int n =>
      unfold countValue
      dsimp only
      split
      case isTrue => exact hrefused
      case isFalse hn =>
        exact hdone (.int n) fun _ => ⟨n.toNat, by rw [Int.toNat_of_nonneg (by omega)]⟩
    | null | bool | float | surrogates | list | object | record => exact hrefused

/-- What is left when the connections at some ports of a block are dropped. -/
private lemma ends_detachEach {ws : Workspace} {id : BlockId} (hw : ws.Forest)
    (ports : List String) :
    Ends (ports.forM (detach id)) ws
      (fun _ ws' => ws'.Forest ∧ ws'.edges ⊆ ws.edges ∧ ws'.blocks = ws.blocks ∧
        ∀ e ∈ ws'.edges, ∀ port ∈ ports, e.stop ≠ ⟨id, port⟩ ∧ e.start ≠ ⟨id, port⟩)
      (fun _ => False) := by
  induction ports generalizing ws with
  | nil => exact ⟨hw, fun _ h => h, rfl, by simp⟩
  | cons port rest ih =>
    change Ends (detach id port >>= fun _ => rest.forM (detach id)) ws _ _
    simp only [detach, dropEdges, ends_bind, ends_modify]
    refine (ih ((hw.drop_incoming id port).drop_outgoing id port)).mono (fun _ ws' h => ?_)
      fun _ h => h
    obtain ⟨hw', hsub, hblocks, hports⟩ := h
    refine ⟨hw', fun e he => ?_, hblocks, fun e he p hp => ?_⟩
    · exact (mem_drop_incoming.mp (mem_drop_outgoing.mp (hsub he)).1).1
    · rcases List.mem_cons.mp hp with rfl | hp
      · exact ⟨(mem_drop_incoming.mp (mem_drop_outgoing.mp (hsub he)).1).2,
          (mem_drop_outgoing.mp (hsub he)).2⟩
      · exact hports e he p hp

/-- Bringing the slots of a block in line with its counts keeps the forest: what loses its slot
comes loose first. -/
private lemma ends_reshape {ws : Workspace} (hw : ws.Forest) {id : BlockId} {b : Block}
    (hb : ws.block? id = some b) :
    Ends (reshape id b) ws (fun _ => Forest) Forest := by
  unfold reshape
  rw [ends_bind]
  refine ends_ofFault (fun shaped hshaped => ?_) hw
  obtain ⟨-, -, htype, -, -⟩ := Block.reshape_eq_ok hshaped
  rw [ends_bind]
  refine (ends_detachEach hw _).mono (fun _ ws₁ h₁ => ?_) fun _ h => h.elim
  obtain ⟨hw₁, -, hblocks₁, hvalues⟩ := h₁
  rw [ends_bind]
  refine (ends_detachEach hw₁ _).mono (fun _ ws₂ h₂ => ?_) fun _ h => h.elim
  obtain ⟨hw₂, hsub, hblocks₂, hstatements⟩ := h₂
  have hb₂ : ws₂.block? id = some b := by rwa [block?, hblocks₂, hblocks₁]
  rw [update, ends_modify]
  refine hw₂.put hb₂ htype (Block.sound_of_reshape hshaped) (fun e he hk htarget => ?_)
    fun e he hk hsource => ?_
  · obtain ⟨-, -, -, t, -, ht, -, hslot⟩ := hw₂.value_cases he hk
    rw [htarget, hb₂, Option.some.injEq] at ht
    subst ht
    by_contra hgone
    have hmem : e.targetPort ∈ b.values.filter fun slot => !shaped.values.contains slot := by
      simp only [Block.hasValueSlot, List.contains_iff_mem] at hslot hgone
      simp [hslot, hgone]
    exact (hvalues e (hsub he) _ hmem).1 (by rw [Edge.stop, htarget])
  · obtain ⟨-, -, s, -, hs, -, hslot, -⟩ := hw₂.statement_cases he hk
    rw [hsource, hb₂, Option.some.injEq] at hs
    subst hs
    by_contra hgone
    have hmem : e.sourcePort ∈ b.statements.filter fun slot => !shaped.statements.contains slot := by
      simp only [Block.hasStatementSlot, Block.isStatement, Block.kind, htype, Bool.or_eq_true,
        List.contains_iff_mem, not_or] at hslot hgone
      simp [hslot.resolve_right hgone.2, hgone.1]
    exact (hstatements e he _ hmem).2 (by rw [Edge.start, hsource])

/-- Setting a field keeps the forest. -/
lemma keepsForest_setField (id : BlockId) (name : String) (value : Datum) :
    KeepsForest (setField id name value) := by
  intro ws hw
  unfold setField
  rw [ends_bind]
  refine (keepsForest_forgetSpelling id name value ws hw).mono (fun _ ws₁ hw₁ => ?_) fun _ h => h
  rw [ends_bind]
  refine ends_require (fun b hb => ?_) fun _ => hw₁
  rw [ends_bind]
  refine ends_fieldValue _ _ _ (fun value _ => ?_) hw₁
  dsimp only
  split
  · rw [ends_bind]
    unfold updateShaped
    rw [ends_bind, update, ends_modify]
    have hw₂ : (ws₁.put id (b.writeField name value)).Forest :=
      Forest.put_of_slots hw₁ hb rfl rfl rfl
    split
    · refine (ends_reshape hw₂ (by simp)).mono (fun _ ws₃ hw₃ => ?_) fun _ h => h
      exact keepsForest_fire _ _ _ _ hw₃
    · exact keepsForest_fire _ _ _ _ hw₂
  · exact hw₁

/-! ## Layout and selection -/

/-- Moving a block keeps the forest. -/
lemma keepsForest_move (id : BlockId) (spot : Point) : KeepsForest (move id spot) := by
  intro ws hw
  unfold move
  rw [ends_bind]
  refine ends_require (fun b hb => ?_) fun _ => hw
  rw [ends_bind, ends_modify]
  exact keepsForest_fire _ _ _ _ (hw.moved (has_of_block? hb) spot)

/-- Moving a block by a distance keeps the forest. -/
lemma keepsForest_moveBy (id : BlockId) (distance : Point) : KeepsForest (moveBy id distance) := by
  intro ws hw
  unfold moveBy
  rw [ends_bind, ends_get]
  exact keepsForest_move id _ ws hw

/-- Showing another part of the canvas keeps the forest. -/
lemma keepsForest_setViewport (viewport : Viewport) : KeepsForest (setViewport viewport) := by
  intro ws hw
  unfold setViewport
  rw [ends_bind, ends_modify]
  refine keepsForest_fire _ _ _ _ (.of_sameGraph ?_ hw)
  exact ⟨rfl, rfl, rfl, rfl⟩

/-- Selecting a block keeps the forest. -/
lemma keepsForest_select (id : Option BlockId) : KeepsForest (select id) := by
  intro ws hw
  unfold select
  rw [ends_bind]
  have hfire : (∀ other, id = some other → ws.has other) →
      Ends (do
        let old := (← get).selected
        modify fun ws => { ws with selected := id }
        fire .selected id [("old_value", Datum.ofText? old)]) ws (fun _ => Forest) Forest := by
    intro hid
    simp only [ends_bind, ends_get, ends_modify]
    exact keepsForest_fire _ _ _ _ { hw with selected_has := hid }
  cases id with
  | none => exact hfire (by simp)
  | some id =>
    change Ends (Functor.mapConst () (require id) >>= fun _ => pure ()) ws _ _
    rw [ends_bind, map_const, Function.comp_apply, ends_map]
    refine ends_require (fun b hb => ?_) fun _ => hw
    exact hfire fun other h => Option.some.inj h ▸ has_of_block? hb

/-- The blocks that are stacked are those of the list. -/
private lemma mem_stackedFrom {ws : Workspace} {x y : Decimal} {tops : List BlockId}
    {entry : BlockId × Point} (h : entry ∈ stackedFrom ws x y tops) : entry.1 ∈ tops := by
  induction tops generalizing y with
  | nil => cases h
  | cons id rest ih =>
    rcases List.mem_cons.mp h with rfl | h
    · exact List.mem_cons_self
    · exact List.mem_cons_of_mem id (ih h)

/-- Stacking the blocks that nothing holds keeps the forest. -/
lemma keepsForest_cleanUp (origin : Point) : KeepsForest (cleanUp origin) := by
  intro ws hw
  unfold cleanUp
  rw [ends_modify]
  have hplaced : ∀ (entries : List (BlockId × Point)) (ws : Workspace), ws.Forest →
      (∀ entry ∈ entries, ws.has entry.1) →
      ({ ws with
        positions := entries.foldl (fun positions entry => putEntry positions entry.1 entry.2)
          ws.positions } : Workspace).Forest := by
    intro entries
    induction entries with
    | nil => exact fun ws hw _ => hw
    | cons entry rest ih =>
      intro ws hw hhas
      exact ih (ws.moved entry.1 entry.2) (hw.moved (hhas entry List.mem_cons_self) entry.2)
        fun other h => hhas other (List.mem_cons_of_mem entry h)
  refine hplaced _ ws hw fun entry h => ?_
  have htop := List.mem_mergeSort.mp (mem_stackedFrom h)
  exact has_iff_mem_ids.mpr (List.mem_of_mem_filter htop)

/-- A workspace without blocks, connections, places and selection is a forest. -/
lemma forest_of_empty {ws : Workspace} (hblocks : ws.blocks = []) (hlinks : ws.edges = [])
    (hpositions : ws.positions = []) (hselected : ws.selected = none) : ws.Forest where
  ids_nodup := by simp [ids, hblocks]
  sound := by simp [block?, hblocks]
  fits := by simp [hlinks]
  arrives_once := by simp [hlinks]
  leaves_once := by simp [hlinks]
  acyclic id h := by
    obtain ⟨b, ⟨e, he, -⟩, -⟩ := Relation.TransGen.head'_iff.mp h
    simp [hlinks] at he
  positions_nodup := by simp [hpositions]
  positions_iff := by simp [hpositions, has, hblocks]
  selected_has := by simp [hselected]

/-- Removing everything keeps the forest. -/
lemma keepsForest_clear : KeepsForest clear := by
  intro ws hw
  unfold clear
  simp only [ends_bind, ends_get, ends_modify]
  refine ends_forM _ (fun id _ ws' hw' => keepsForest_fire _ _ _ ws' hw') ?_
  exact forest_of_empty rfl rfl rfl rfl

end Edit

/-! ## Sequences of operations -/

/-- The operations that a workspace offers. -/
inductive Operation
  | create (typeName : String) (id : Option BlockId) (spot : Point)
  | delete (id : BlockId) (heal : Bool)
  | connectValue (parent : BlockId) (slot : String) (child : BlockId)
  | connectStatement (parent : BlockId) (slot : String) (child : BlockId)
  | connectNext (before after : BlockId)
  | unplug (id : BlockId)
  | detach (id : BlockId) (port : String)
  | setField (id : BlockId) (name : String) (value : Datum)
  | move (id : BlockId) (spot : Point)
  | moveBy (id : BlockId) (distance : Point)
  | select (id : Option BlockId)
  | cleanUp (origin : Point)
  | clear

namespace Operation

/-- The edit that an operation is. -/
def edit : Operation → Edit Unit
  | create typeName id spot => discard (Edit.createNamed typeName id spot)
  | delete id heal => Edit.delete id heal
  | connectValue parent slot child => discard (Edit.connectValue parent slot child)
  | connectStatement parent slot child => discard (Edit.connectStatement parent slot child)
  | connectNext before after => discard (Edit.connectNext before after)
  | unplug id => Edit.unplug id
  | detach id port => Edit.detach id port
  | setField id name value => Edit.setField id name value
  | move id spot => Edit.move id spot
  | moveBy id distance => Edit.moveBy id distance
  | select id => Edit.select id
  | cleanUp origin => Edit.cleanUp origin
  | clear => Edit.clear

/-- The workspace that an operation leaves, whether it is carried out or refused. -/
def apply (ws : Workspace) (op : Operation) : Workspace := (op.edit.run ws).2

/-- The workspace that operations leave, one after another. -/
def applyAll (ws : Workspace) (ops : List Operation) : Workspace := ops.foldl apply ws

/-- Every operation keeps the forest. -/
lemma keepsForest_edit (op : Operation) : op.edit.KeepsForest := by
  have hdiscard : ∀ {α : Type} {x : Edit α}, x.KeepsForest → (discard x : Edit Unit).KeepsForest :=
    fun hx ws hw => (Edit.ends_map _ _).mpr (hx ws hw)
  cases op with
  | create typeName id spot => exact hdiscard (Edit.keepsForest_createNamed typeName id spot)
  | delete id heal => exact Edit.keepsForest_delete id heal
  | connectValue parent slot child =>
    exact hdiscard (Edit.keepsForest_connectValue parent slot child)
  | connectStatement parent slot child =>
    exact hdiscard (Edit.keepsForest_connectStatement parent slot child)
  | connectNext before after =>
    exact hdiscard (Edit.keepsForest_connectStatement before "next" after)
  | unplug id => exact Edit.keepsForest_unplug id
  | detach id port => exact Edit.keepsForest_detach id port
  | setField id name value => exact Edit.keepsForest_setField id name value
  | move id spot => exact Edit.keepsForest_move id spot
  | moveBy id distance => exact Edit.keepsForest_moveBy id distance
  | select id => exact Edit.keepsForest_select id
  | cleanUp origin => exact Edit.keepsForest_cleanUp origin
  | clear => exact Edit.keepsForest_clear

/-- What every operation keeps, all operations together keep. -/
lemma applyAll_induction {P : Workspace → Prop} (hstep : ∀ ws op, P ws → P (apply ws op))
    {ws : Workspace} (hw : P ws) (ops : List Operation) : P (applyAll ws ops) := by
  induction ops generalizing ws with
  | nil => exact hw
  | cons op rest ih => exact ih (hstep ws op hw)

/-- Operations leave a forest. -/
lemma forest_applyAll {ws : Workspace} (hw : ws.Forest) (ops : List Operation) :
    (applyAll ws ops).Forest :=
  applyAll_induction (fun ws op hw => (op.keepsForest_edit ws hw).run) hw ops

end Operation

/-! ## Consistency -/

namespace Workspace

/-- What the lists, look-ups and walks of a workspace can rely on. -/
structure Consistent (ws : Workspace) : Prop where
  /-- The connections that are listed for a port are those of the workspace at that port. -/
  incoming_eq : ∀ id port, ws.incoming id port = ws.edges.filter (·.stop = ⟨id, port⟩)
  outgoing_eq : ∀ id port, ws.outgoing id port = ws.edges.filter (·.start = ⟨id, port⟩)
  /-- Every connection joins ports that exist and fit. -/
  fits : ∀ e ∈ ws.edges, ws.Fits e
  /-- No port has two connections. -/
  port_once : ∀ id port, (ws.incoming id port).length + (ws.outgoing id port).length ≤ 1
  /-- Going up from a block ends, in no more steps than there are blocks. -/
  upward_ends : ∀ id, ws.has id → ∃ k ≤ ws.blocks.length, ∃ top,
    stepped ws.parent? k id = some top ∧ ws.parent? top = none
  /-- The list of what is above a block is complete. -/
  mem_upward : ∀ id, ws.has id → ∀ other,
    other ∈ ws.upward id ↔ ∃ k, stepped ws.parent? k id = some other
  /-- Chains are complete and end. -/
  mem_chain : ∀ id, ws.has id → ∀ other,
    other ∈ ws.chain id ↔ ∃ k, stepped ws.next? k id = some other
  last_ends : ∀ id, ws.has id → ws.next? (ws.last id) = none
  /-- Exactly the blocks have a place, and each has one. -/
  positions_nodup : (ws.positions.map (·.1)).Nodup
  mem_positions : ∀ id, id ∈ ws.positions.map (·.1) ↔ ws.has id
  /-- Nothing is selected, or a block that exists. -/
  selected_has : ∀ id, ws.selected = some id → ws.has id

/-- The ports at which connections arrive are not those from which others leave. -/
private lemma Forest.stop_ne_start {ws : Workspace} (hw : ws.Forest) {e f : Edge}
    (he : e ∈ ws.edges) (hf : f ∈ ws.edges) : e.stop ≠ f.start := by
  intro h
  have hport := (Port.mk.inj h).2
  cases hkf : f.kind with
  | value =>
    rw [(hw.value_cases hf hkf).1] at hport
    cases hke : e.kind with
    | value => exact absurd (hport ▸ (hw.value_cases he hke).2.1) (by decide)
    | statement => exact absurd (hport.symm.trans (hw.statement_cases he hke).1) (by decide)
  | statement =>
    rcases (hw.statement_cases hf hkf).2.1 with hown | hnext
    · exact hw.no_value_at_statement_slot hf he hkf h hown
    · rw [hnext] at hport
      cases hke : e.kind with
      | value => exact absurd (hport ▸ (hw.value_cases he hke).2.1) (by decide)
      | statement => exact absurd (hport.symm.trans (hw.statement_cases he hke).1) (by decide)

/-- A port of a forest has one connection at most. -/
private lemma Forest.port_once {ws : Workspace} (hw : ws.Forest) (id : BlockId) (port : String) :
    (ws.incoming id port).length + (ws.outgoing id port).length ≤ 1 := by
  have hin := hw.arrives_once ⟨id, port⟩
  have hout := hw.leaves_once ⟨id, port⟩
  rw [← Workspace.incoming_eq] at hin
  rw [← Workspace.outgoing_eq] at hout
  cases harrive : ws.incoming id port with
  | nil => simpa using hout
  | cons e _ =>
    cases hleave : ws.outgoing id port with
    | nil => simpa [harrive] using hin
    | cons f _ =>
      obtain ⟨he, hstop⟩ := hw.head?_incoming_iff.mp (by rw [harrive, List.head?_cons])
      obtain ⟨hf, hstart⟩ := hw.head?_outgoing_iff.mp (by rw [hleave, List.head?_cons])
      exact absurd (hstop.trans hstart.symm) (hw.stop_ne_start he hf)

/-- A forest is consistent. -/
lemma Forest.consistent {ws : Workspace} (hw : ws.Forest) : ws.Consistent where
  incoming_eq := ws.incoming_eq
  outgoing_eq := ws.outgoing_eq
  fits := hw.fits
  port_once := hw.port_once
  upward_ends id hid := by
    obtain ⟨k, hk, top, htop, hnone⟩ := hw.exists_top hid
    exact ⟨k, hk.le, top, htop, hnone⟩
  mem_upward id hid other := by
    rw [hw.mem_upward_iff hid, ← hw.parent?_eq_under, reflTransGen_iff_stepped]
  mem_chain id hid other := by rw [hw.mem_chain_iff hid, reflTransGen_iff_stepped]
  last_ends id hid := hw.next?_last hid
  positions_nodup := hw.positions_nodup
  mem_positions := hw.positions_iff
  selected_has := hw.selected_has

/-- Whatever operations are applied to an empty workspace, watched or not, with events switched on
or off, and whether they are carried out or refused: it stays consistent. -/
theorem consistent_applyAll (watched : Bool) (muted : ℕ) (ops : List Operation) :
    (Operation.applyAll { watched, muted } ops).Consistent :=
  (Operation.forest_applyAll (Edit.forest_of_empty rfl rfl rfl rfl) ops).consistent

end Workspace

end BlockText

import BlockText.Proofs.Workspace.Measuring

/-!
# Properties that heed events only

Some properties of workspaces are about events and those who follow them: whether events are
switched on, who has taken note, what was delivered.  Blocks, connections, places and the selection
have no bearing on them.  If the delivery of events upholds such a property, then every operation
does, whether it is carried out or refused.
-/

namespace BlockText

/-- Events are switched on and followed. -/
structure Workspace.Followed (ws : Workspace) : Prop where
  muted : ws.muted = 0
  watched : ws.watched = true

namespace Edit

open Workspace

variable {α β : Type} {P : Workspace → Prop}

/-- Events are switched on as often, followed and delivered as before, the same document is
installed, and the same texts are noted. -/
structure SameFollowing (ws ws' : Workspace) : Prop where
  muted : ws'.muted = ws.muted
  watched : ws'.watched = ws.watched
  installed : ws'.installed = ws.installed
  events : ws'.events = ws.events
  spans : ws'.spans = ws.spans

/-- Who follows a workspace depends on its listeners and on nothing else. -/
lemma followed_congr {ws ws' : Workspace} (h : SameFollowing ws ws') (hws : ws.Followed) :
    ws'.Followed :=
  ⟨h.muted.trans hws.muted, h.watched.trans hws.watched⟩

/-- Determining the declared names upholds what concerns events. -/
lemma upholds_refreshDeclared (h : ∀ {ws ws'}, SameFollowing ws ws' → P ws → P ws') :
    Upholds P refreshDeclared :=
  upholds_get.bind fun _ => (upholds_ofFault _).bind fun _ =>
    (upholds_modify fun _ => h (by exact ⟨rfl, rfl, rfl, rfl, rfl⟩)).bind fun _ =>
    upholds_get.bind fun _ => (upholds_ofFault _).bind fun _ =>
    upholds_modify fun _ => h (by exact ⟨rfl, rfl, rfl, rfl, rfl⟩)

/-- Delivering events upholds the property, and only what concerns events bears on it. -/
structure Heeds (P : Workspace → Prop) : Prop where
  fire : ∀ type block details, Upholds P (fire type block details)
  congr : ∀ {ws ws'}, SameFollowing ws ws' → P ws → P ws'

/-- While events are switched off none is delivered, and nothing but what bears on the property has
to be kept. -/
lemma heeds_of_muted (hmuted : ∀ ws, P ws → ws.muted ≠ 0)
    (hcongr : ∀ {ws ws'}, SameFollowing ws ws' → P ws → P ws') : Heeds P where
  fire type block details ws hw := by
    have hoff : (ws.muted == 0) = false := by simpa using hmuted ws hw
    unfold Edit.fire
    rw [ends_bind, ends_get]
    simp only [hoff]
    exact hw
  congr := hcongr

/-- An event that is delivered makes those who follow the edits forget the document, and is
noted. -/
lemma heeds_of_congr (hcongr : ∀ {ws ws'}, SameFollowing ws ws' → P ws → P ws')
    (hforget : ∀ ws, P ws → P { ws with installed := none })
    (hnote : ∀ ws events, P ws → P { ws with events }) : Heeds P where
  fire type block details := by
    have hlog : Upholds P
        (modify fun ws => { ws with events := ws.events ++ [⟨type, block, details⟩] }) :=
      upholds_modify fun ws => hnote ws _
    refine upholds_get.bind fun ws => ?_
    dsimp only
    split
    · split
      · exact (Upholds.bind (upholds_modify hforget) fun _ => upholds_refreshDeclared hcongr).bind
          fun _ => hlog
      · exact hlog
    · exact upholds_pure _
  congr := hcongr

namespace Heeds

variable (h : Heeds P)

include h

/-- A change of other things. -/
lemma modify {f : Workspace → Workspace} (hf : ∀ ws, SameFollowing ws (f ws)) :
    Upholds P (modify f) :=
  upholds_modify fun ws => h.congr (hf ws)

/-- Dropping connections is heeded. -/
lemma dropEdges (dropped : Workspace → List Edge) : Upholds P (dropEdges dropped) :=
  h.modify fun _ => by exact ⟨rfl, rfl, rfl, rfl, rfl⟩

/-- A new connection is heeded. -/
lemma addEdge (e : Edge) : Upholds P (addEdge e) :=
  h.modify fun _ => by exact ⟨rfl, rfl, rfl, rfl, rfl⟩

/-- A block that is replaced is heeded. -/
lemma update (id : BlockId) (b : Block) : Upholds P (update id b) :=
  h.modify fun _ => by exact ⟨rfl, rfl, rfl, rfl, rfl⟩

/-- Detaching a port is heeded. -/
lemma detach (id : BlockId) (port : String) : Upholds P (detach id port) :=
  (h.dropEdges _).bind fun _ => h.dropEdges _

/-! ## Blocks -/

/-- Finding a new name changes nothing that is heeded. -/
lemma freshId : Upholds P freshId := by
  intro ws hw
  unfold Edit.freshId
  simp only [ends_bind, ends_get, ends_set, ends_pure]
  exact h.congr (by exact ⟨rfl, rfl, rfl, rfl, rfl⟩) hw

/-- A block that is put down is heeded. -/
lemma place (id : BlockId) (type : BlockType) (spot : Point) : Upholds P (place id type spot) := by
  intro ws hw
  unfold Edit.place
  rw [ends_bind, ends_get, ends_bind]
  refine ends_refuseIf (fun _ => ?_) hw
  rw [ends_bind, ends_set]
  exact h.fire _ _ _ _ (h.congr (by exact ⟨rfl, rfl, rfl, rfl, rfl⟩) hw)

/-- Creating a block is heeded. -/
lemma create (type : BlockType) (spot : Point) : Upholds P (create type spot) :=
  h.freshId.bind fun id => (h.place id type spot).bind fun _ => upholds_pure id

/-- Creating a block under a name is heeded. -/
lemma createNamed (typeName : String) (id : Option BlockId) (spot : Point) :
    Upholds P (createNamed typeName id spot) := by
  have hid : Upholds P (idOrFresh id) := by
    cases id with
    | some id => exact upholds_pure id
    | none => exact h.freshId
  refine hid.bind fun id => Upholds.bind ?_ fun _ => upholds_pure _
  unfold placeNamed
  split
  · exact h.place _ _ _
  · exact upholds_throw _

/-- Deleting a block and what hangs on it is heeded. -/
lemma deleteWithin (fuel : ℕ) (id : BlockId) (heal : Bool) :
    Upholds P (deleteWithin fuel id heal) := by
  induction fuel generalizing id heal with
  | zero => exact upholds_pure ()
  | succ fuel ih =>
    have hremove : Upholds P (remove id) := h.modify fun _ => by exact ⟨rfl, rfl, rfl, rfl, rfl⟩
    unfold Edit.deleteWithin
    refine (upholds_require id).bind fun b => upholds_get.bind fun ws =>
      (h.dropEdges _).bind fun _ => (upholds_forM fun next => ih next false).bind fun _ =>
      upholds_get.bind fun _ => (upholds_forM fun child => ih child false).bind fun _ =>
      hremove.bind fun _ => (h.fire _ _ _).bind fun _ => ?_
    split
    · exact h.addEdge _
    · exact upholds_pure ()

/-! ## Connections -/

/-- Plugging a block in is heeded. -/
lemma connectValue (parent : BlockId) (slot : String) (child : BlockId) :
    Upholds P (connectValue parent slot child) :=
  (upholds_require parent).bind fun _ => (upholds_require child).bind fun _ =>
    (upholds_refuseIf _ _).bind fun _ => (upholds_refuseIf _ _).bind fun _ =>
    (upholds_get.bind fun _ => upholds_refuseIf _ _).bind fun _ =>
    (h.dropEdges _).bind fun _ => (h.dropEdges _).bind fun _ => (h.addEdge _).bind fun _ =>
    (h.fire _ _ _).bind fun _ => upholds_pure _

/-- Putting a statement into a body is heeded. -/
lemma connectStatement (parent : BlockId) (slot : String) (child : BlockId) :
    Upholds P (connectStatement parent slot child) :=
  (upholds_require parent).bind fun _ => (upholds_require child).bind fun _ =>
    (upholds_refuseIf _ _).bind fun _ => (upholds_refuseIf _ _).bind fun _ =>
    (upholds_get.bind fun _ => upholds_refuseIf _ _).bind fun _ =>
    (h.dropEdges _).bind fun _ => upholds_get.bind fun _ => (h.dropEdges _).bind fun _ =>
    (h.addEdge _).bind fun _ =>
    (upholds_forM fun _ => upholds_get.bind fun _ => h.addEdge _).bind fun _ =>
    (h.fire _ _ _).bind fun _ => upholds_pure _

/-- Unplugging a block is heeded. -/
lemma unplug (id : BlockId) : Upholds P (unplug id) :=
  (upholds_require id).bind fun _ => (h.dropEdges _).bind fun _ => (h.dropEdges _).bind fun _ =>
    h.fire _ _ _

/-! ## Fields -/

/-- Reshaping a block is heeded. -/
lemma reshape (id : BlockId) (b : Block) : Upholds P (reshape id b) :=
  (upholds_ofFault _).bind fun _ => (upholds_forM fun _ => h.detach id _).bind fun _ =>
    (upholds_forM fun _ => h.detach id _).bind fun _ => h.update id _

/-- A field that decides the shape is heeded. -/
lemma updateShaped (id : BlockId) (b : Block) (name : String) :
    Upholds P (updateShaped id b name) := by
  refine (h.update id b).bind fun _ => ?_
  split
  · exact h.reshape id b
  · exact upholds_pure _

/-- Setting a field is heeded. -/
lemma setField (id : BlockId) (name : String) (value : Datum) :
    Upholds P (setField id name value) := by
  have hforget : Upholds P (forgetSpelling id name value) := by
    refine (upholds_require id).bind fun b => ?_
    split
    · exact h.update id _
    · exact upholds_pure _
  have hvalue : ∀ type, Upholds P (fieldValue type name value) := by
    intro type ws hw
    exact ends_fieldValue _ _ _ (fun _ _ => hw) hw
  refine hforget.bind fun _ => (upholds_require id).bind fun b => (hvalue b.type).bind fun v => ?_
  dsimp only
  split
  · exact (h.updateShaped id _ name).bind fun _ => h.fire _ _ _
  · exact upholds_pure _

/-! ## Layout and selection -/

/-- Moving a block is heeded. -/
lemma move (id : BlockId) (spot : Point) : Upholds P (move id spot) :=
  (upholds_require id).bind fun _ =>
    (h.modify fun _ => by exact ⟨rfl, rfl, rfl, rfl, rfl⟩).bind fun _ => h.fire _ _ _

/-- Tidying up is heeded. -/
lemma cleanUp (origin : Point) : Upholds P (cleanUp origin) :=
  h.modify fun _ => by exact ⟨rfl, rfl, rfl, rfl, rfl⟩

/-- The viewport changes nothing that is heeded. -/
lemma setViewport (viewport : Viewport) : Upholds P (setViewport viewport) :=
  (h.modify fun _ => by exact ⟨rfl, rfl, rfl, rfl, rfl⟩).bind fun _ => h.fire _ _ _

/-- The selection changes nothing that is heeded. -/
lemma select (id : Option BlockId) : Upholds P (select id) :=
  (upholds_forM fun id => (upholds_require id).discard).bind fun _ =>
    upholds_get.bind fun _ => (h.modify fun _ => by exact ⟨rfl, rfl, rfl, rfl, rfl⟩).bind fun _ =>
    h.fire _ _ _

/-- Emptying the workspace is heeded. -/
lemma clear : Upholds P clear :=
  upholds_get.bind fun _ => (h.modify fun _ => by exact ⟨rfl, rfl, rfl, rfl, rfl⟩).bind fun _ =>
    upholds_forM fun _ => h.fire _ _ _

/-- Every operation upholds the property. -/
lemma edit (op : Operation) : Upholds P op.edit := by
  cases op with
  | create typeName id spot => exact (h.createNamed typeName id spot).discard
  | delete id heal =>
    exact upholds_get.bind fun ws => h.deleteWithin (ws.blocks.length + 1) id heal
  | connectValue parent slot child => exact (h.connectValue parent slot child).discard
  | connectStatement parent slot child => exact (h.connectStatement parent slot child).discard
  | connectNext before after => exact (h.connectStatement before "next" after).discard
  | unplug id => exact h.unplug id
  | detach id port => exact h.detach id port
  | setField id name value => exact h.setField id name value
  | move id spot => exact h.move id spot
  | moveBy id distance => exact upholds_get.bind fun _ => h.move id _
  | select id => exact h.select id
  | cleanUp origin => exact h.cleanUp origin
  | clear => exact h.clear

end Heeds

end Edit

end BlockText

/-!
## What edits return

`Edit.Leads` says what holds of the result of an edit together with the workspace that it leaves,
so that a refusal can be told apart by its reason.  Delivering an event can fail only because of
those who follow the edits, and never alters blocks and connections.
-/

namespace BlockText

namespace Edit

variable {α β : Type} {ws : Workspace} {P : Except WorkspaceError α → Workspace → Prop}

/-! ### Rules -/

/-- What holds of the result of an edit and of the workspace that it leaves. -/
def Leads (x : Edit α) (ws : Workspace) (P : Except WorkspaceError α → Workspace → Prop) : Prop :=
  P (x.run ws).1 (x.run ws).2

/-- One step after another: the reason for which the first one is refused stays. -/
lemma leads_bind (x : Edit β) (f : β → Edit α) :
    Leads (x >>= f) ws P ↔ Leads x ws fun r ws' =>
      match r with
      | .ok b => Leads (f b) ws' P
      | .error e => P (.error e) ws' := by
  unfold Leads
  rw [ExceptT.run_bind]
  simp only [bind, StateT.bind]
  rcases x.run ws with ⟨_ | _, _⟩ <;> rfl

/-- Weaker conditions hold as well. -/
lemma Leads.mono {x : Edit α} {Q : Except WorkspaceError α → Workspace → Prop} (h : Leads x ws P)
    (himp : ∀ r ws', P r ws' → Q r ws') : Leads x ws Q := himp _ _ h

/-- What holds of the workspace in the end holds beside what the edit leads to. -/
lemma Leads.and {x : Edit α} {Q : Workspace → Prop} (h : Leads x ws P) (hQ : Q (x.run ws).2) :
    Leads x ws fun r ws' => P r ws' ∧ Q ws' := ⟨h, hQ⟩

/-- A part of an edit that is a change. -/
lemma leads_modify {P : Except WorkspaceError Unit → Workspace → Prop} {f : Workspace → Workspace}
    (h : P (.ok ()) (f ws)) : Leads (modify f) ws P := h

/-- A part of an edit that looks at the workspace. -/
lemma leads_get {P : Except WorkspaceError Workspace → Workspace → Prop} (h : P (.ok ws) ws) :
    Leads get ws P := h

/-- A part of an edit that looks up a block. -/
lemma leads_require {P : Except WorkspaceError Block → Workspace → Prop} {id : BlockId}
    (hsome : ∀ b, ws.block? id = some b → P (.ok b) ws)
    (hnone : ws.block? id = none → P (.error (.notFound id)) ws) : Leads (require id) ws P := by
  unfold require
  rw [leads_bind]
  refine leads_get ?_
  dsimp only
  cases hb : ws.block? id with
  | some b => exact hsome b hb
  | none => exact hnone hb

/-- A part of an edit that refuses it under a condition. -/
lemma leads_refuseIf {P : Except WorkspaceError Unit → Workspace → Prop} {condition : Bool}
    {e : WorkspaceError} (hpass : condition = false → P (.ok ()) ws)
    (hrefuse : condition = true → P (.error e) ws) : Leads (refuseIf condition e) ws P := by
  cases condition with
  | true => exact hrefuse rfl
  | false => exact hpass rfl

/-- A part of an edit that depends on data alone. -/
lemma leads_ofFault {x : Except Fault α} (hok : ∀ a, x = .ok a → P (.ok a) ws)
    (herror : ∀ f, x = .error f → P (.error (.fault f)) ws) : Leads (ofFault x) ws P := by
  cases x with
  | ok a => exact hok a rfl
  | error f => exact herror f rfl

/-! ### Events -/

/-- Two workspaces have the same graph whichever is named first. -/
lemma SameGraph.symm {ws ws' : Workspace} (h : SameGraph ws ws') : SameGraph ws' ws :=
  ⟨h.blocks.symm, h.links.symm, h.positions.symm, h.selected.symm⟩

/-- Determining the declared names fails because of the data in fields alone. -/
private lemma leads_refreshDeclared {P : Except WorkspaceError Unit → Workspace → Prop}
    (hok : ∀ ws', SameGraph ws ws' → P (.ok ()) ws')
    (hfault : ∀ f ws', SameGraph ws ws' → P (.error (.fault f)) ws') :
    Leads refreshDeclared ws P := by
  unfold refreshDeclared
  rw [leads_bind]
  change Leads (ofFault ws.declaredVariables >>= _) ws P
  rw [leads_bind]
  refine leads_ofFault (fun variableNames _ => ?_) fun f _ => hfault f ws (.refl ws)
  change Leads (ofFault (Workspace.declaredFunctions { ws with variableNames }) >>= _)
    { ws with variableNames } P
  rw [leads_bind]
  exact leads_ofFault (fun functions _ => hok _ ⟨rfl, rfl, rfl, rfl⟩)
    fun f _ => hfault f _ ⟨rfl, rfl, rfl, rfl⟩

/-- Delivering an event alters no block and no connection, and fails only if somebody who follows
the edits is told. -/
lemma leads_fire {P : Except WorkspaceError Unit → Workspace → Prop} {type : EventType}
    {block : Option BlockId} {details : List (String × Datum)}
    (hok : ∀ ws', SameGraph ws ws' → P (.ok ()) ws')
    (hfault : ws.Followed → ∀ f ws', SameGraph ws ws' → P (.error (.fault f)) ws') :
    Leads (fire type block details) ws P := by
  unfold fire
  rw [leads_bind]
  change Leads (if ws.muted == 0 then _ else _) ws P
  split
  case isFalse => exact hok ws (.refl ws)
  case isTrue hmuted =>
    split
    case isFalse => exact hok _ ⟨rfl, rfl, rfl, rfl⟩
    case isTrue hwatched =>
      have hfollowed : ws.Followed :=
        ⟨beq_iff_eq.mp hmuted, (Bool.and_eq_true_iff.mp hwatched).1⟩
      rw [leads_bind]
      change Leads (refreshDeclared >>= _) { ws with installed := none } P
      rw [leads_bind]
      refine leads_refreshDeclared (fun ws' h => ?_) fun f ws' h => ?_
      · exact hok _ ⟨h.blocks, h.links, h.positions, h.selected⟩
      · exact hfault hfollowed f ws' ⟨h.blocks, h.links, h.positions, h.selected⟩

end Edit

end BlockText

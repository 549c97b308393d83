import BlockText.Proofs.Workspace.Links
import BlockText.Workspace.Edit

/-!
# How edits end

An edit is carried out or refused, and it leaves a workspace either way.  `Edit.Ends` says what
holds then: one condition for an edit that is carried out, another for one that is refused.  The
rules below reduce it to conditions on the steps of an edit, and the last section is about events:
delivering one changes nothing that has to do with blocks and connections.
-/

namespace BlockText

namespace Edit

variable {α β : Type}

/-- What holds when an edit ends: `done` of its result and the workspace if it is carried out,
`refused` of the workspace if not. -/
def Ends (x : Edit α) (ws : Workspace) (done : α → Workspace → Prop)
    (refused : Workspace → Prop) : Prop :=
  match x.run ws with
  | (.ok a, ws') => done a ws'
  | (.error _, ws') => refused ws'

variable {ws : Workspace} {done : α → Workspace → Prop} {refused : Workspace → Prop}

/-! ## Rules -/

/-- An edit that only gives a value ends where it began. -/
@[simp] lemma ends_pure (a : α) : Ends (pure a) ws done refused ↔ done a ws := Iff.rfl

/-- A refusal ends where it began. -/
@[simp] lemma ends_throw (e : WorkspaceError) :
    Ends (throw e : Edit α) ws done refused ↔ refused ws := Iff.rfl

/-- One step after another. -/
@[simp] lemma ends_bind (x : Edit β) (f : β → Edit α) :
    Ends (x >>= f) ws done refused ↔
      Ends x ws (fun b ws' => Ends (f b) ws' done refused) refused := by
  have hrun : (x >>= f).run ws =
      match x.run ws with
      | (.ok b, ws') => (f b).run ws'
      | (.error e, ws') => (.error e, ws') := by
    rw [ExceptT.run_bind]
    simp only [bind, StateT.bind]
    rcases x.run ws with ⟨_ | _, _⟩ <;> rfl
  unfold Ends
  rw [hrun]
  rcases x.run ws with ⟨_ | _, _⟩ <;> rfl

/-- A result may be brought into another form. -/
@[simp] lemma ends_map (x : Edit β) (f : β → α) :
    Ends (f <$> x) ws done refused ↔ Ends x ws (fun b ws' => done (f b) ws') refused := by
  rw [map_eq_pure_bind, ends_bind]
  simp

/-- Looking at the workspace gives the workspace. -/
@[simp] lemma ends_get {done : Workspace → Workspace → Prop} :
    Ends get ws done refused ↔ done ws ws := Iff.rfl

/-- A change ends in the changed workspace. -/
@[simp] lemma ends_modify {done : Unit → Workspace → Prop} (f : Workspace → Workspace) :
    Ends (modify f) ws done refused ↔ done () (f ws) := Iff.rfl

/-- A replacement ends in the new workspace. -/
@[simp] lemma ends_set {done : PUnit → Workspace → Prop} (ws' : Workspace) :
    Ends (set ws') ws done refused ↔ done ⟨⟩ ws' := Iff.rfl

/-- Weaker conditions hold as well. -/
lemma Ends.mono {x : Edit α} {done' : α → Workspace → Prop} {refused' : Workspace → Prop}
    (h : Ends x ws done refused) (hdone : ∀ a ws', done a ws' → done' a ws')
    (hrefused : ∀ ws', refused ws' → refused' ws') : Ends x ws done' refused' := by
  unfold Ends at h ⊢
  split at h
  · exact hdone _ _ h
  · exact hrefused _ h

/-- What holds in the end in either case holds of the workspace that the edit leaves. -/
lemma Ends.run {P : Workspace → Prop} {x : Edit α} (h : Ends x ws (fun _ => P) P) :
    P (x.run ws).2 := by
  unfold Ends at h
  rcases hrun : x.run ws with ⟨_ | _, ws'⟩ <;> rwa [hrun] at h

/-- A part of an edit that refuses it under a condition. -/
lemma ends_refuseIf {done : Unit → Workspace → Prop} {condition : Bool} {e : WorkspaceError}
    (hdone : condition = false → done () ws) (hrefused : refused ws) :
    Ends (refuseIf condition e) ws done refused := by
  cases condition with
  | true => exact hrefused
  | false => exact hdone rfl

/-- A part of an edit that looks up a block. -/
lemma ends_require {done : Block → Workspace → Prop} {id : BlockId}
    (hdone : ∀ b, ws.block? id = some b → done b ws) (hrefused : ws.block? id = none → refused ws) :
    Ends (require id) ws done refused := by
  unfold require
  rw [ends_bind, ends_get]
  cases hb : ws.block? id with
  | some b => exact hdone b hb
  | none => exact hrefused hb

/-- A part of an edit that depends on data alone. -/
lemma ends_ofFault {x : Except Fault α} (hdone : ∀ a, x = .ok a → done a ws)
    (hrefused : refused ws) : Ends (ofFault x) ws done refused := by
  cases x with
  | ok a => exact hdone a rfl
  | error f => exact hrefused

/-- Nothing is done for an empty list. -/
@[simp] lemma ends_forM_nil {done : PUnit → Workspace → Prop} (f : β → Edit PUnit) :
    Ends (List.forM [] f) ws done refused ↔ done ⟨⟩ ws := Iff.rfl

/-- An edit for each item of a list keeps what the edit for one item keeps. -/
lemma ends_forM {P : Workspace → Prop} (xs : List β) {f : β → Edit Unit}
    (hstep : ∀ x ∈ xs, ∀ ws, P ws → Ends (f x) ws (fun _ => P) P) (hw : P ws) :
    Ends (xs.forM f) ws (fun _ => P) P := by
  induction xs generalizing ws with
  | nil => exact hw
  | cons x rest ih =>
    change Ends (f x >>= fun _ => rest.forM f) ws _ _
    rw [ends_bind]
    refine (hstep x List.mem_cons_self ws hw).mono (fun _ ws' hws' => ?_) fun _ hws' => hws'
    exact ih (fun y hy => hstep y (List.mem_cons_of_mem x hy)) hws'

/-! ## Properties that edits uphold -/

section Upholds

variable {P : Workspace → Prop}

/-- The edit upholds a property of workspaces, whether it is carried out or refused. -/
def Upholds (P : Workspace → Prop) (x : Edit α) : Prop :=
  ∀ ws, P ws → Ends x ws (fun _ => P) P

/-- What an edit upholds holds of the workspace that it leaves. -/
lemma Upholds.run {x : Edit α} (hx : Upholds P x) {ws : Workspace} (h : P ws) : P (x.run ws).2 :=
  (hx ws h).run

/-- An edit that only gives a value upholds everything. -/
lemma upholds_pure (a : α) : Upholds P (pure a) := fun _ h => h

/-- A refusal upholds everything. -/
lemma upholds_throw (e : WorkspaceError) : Upholds P (throw e : Edit α) := fun _ h => h

/-- Looking at the workspace upholds everything. -/
lemma upholds_get : Upholds P get := fun _ h => h

/-- A change upholds what holds of the changed workspace whenever it held before. -/
lemma upholds_modify {f : Workspace → Workspace} (hf : ∀ ws, P ws → P (f ws)) :
    Upholds P (modify f) := hf

/-- One step after another. -/
lemma Upholds.bind {x : Edit β} {f : β → Edit α} (hx : Upholds P x) (hf : ∀ b, Upholds P (f b)) :
    Upholds P (x >>= f) := by
  intro ws h
  rw [ends_bind]
  exact (hx ws h).mono (fun b ws' h' => hf b ws' h') fun _ h => h

/-- A result may be brought into another form. -/
lemma Upholds.map {x : Edit β} (hx : Upholds P x) (f : β → α) : Upholds P (f <$> x) :=
  fun ws h => (ends_map x f).mpr (hx ws h)

/-- A result may be dropped. -/
lemma Upholds.discard {x : Edit β} (hx : Upholds P x) : Upholds P (discard x : Edit Unit) :=
  hx.map _

/-- A step for each item of a list. -/
lemma upholds_forM {xs : List β} {f : β → Edit Unit} (hf : ∀ x, Upholds P (f x)) :
    Upholds P (xs.forM f) :=
  fun _ h => ends_forM xs (fun x _ ws h => hf x ws h) h

/-- Edits for all members of a list uphold what each of them upholds. -/
lemma upholds_mapM {xs : List β} {f : β → Edit α} (hf : ∀ x, Upholds P (f x)) :
    Upholds P (xs.mapM f) := by
  induction xs with
  | nil => exact upholds_pure []
  | cons x rest ih =>
    rw [List.mapM_cons]
    exact (hf x).bind fun y => ih.bind fun ys => upholds_pure (y :: ys)

/-- Asking for a block upholds everything. -/
lemma upholds_require (id : BlockId) : Upholds P (require id) :=
  fun _ h => ends_require (fun _ _ => h) fun _ => h

/-- A refusal on a condition upholds everything. -/
lemma upholds_refuseIf (condition : Bool) (e : WorkspaceError) :
    Upholds P (refuseIf condition e) := fun _ h => ends_refuseIf (fun _ => h) h

/-- A fault that stops an edit upholds everything. -/
lemma upholds_ofFault (x : Except Fault α) : Upholds P (ofFault x) :=
  fun _ h => ends_ofFault (fun _ _ => h) h

end Upholds

/-! ## Events -/

/-- The two workspaces have the same blocks, connections, places and selection. -/
structure SameGraph (ws ws' : Workspace) : Prop where
  blocks : ws'.blocks = ws.blocks
  links : ws'.links = ws.links
  positions : ws'.positions = ws.positions
  selected : ws'.selected = ws.selected

/-- A workspace has the graph of itself. -/
lemma SameGraph.refl (ws : Workspace) : SameGraph ws ws := ⟨rfl, rfl, rfl, rfl⟩

/-- Determining the declared names leaves the blocks as they are. -/
lemma ends_refreshDeclared :
    Ends refreshDeclared ws (fun _ ws' => SameGraph ws ws') (fun ws' => SameGraph ws ws') := by
  unfold refreshDeclared
  simp only [ends_bind, ends_get, ends_modify]
  refine ends_ofFault (fun variableNames _ => ?_) (.refl ws)
  exact ends_ofFault (fun functions _ => ⟨rfl, rfl, rfl, rfl⟩) ⟨rfl, rfl, rfl, rfl⟩

/-- Delivering an event leaves the blocks as they are, also if it ends in a fault. -/
lemma ends_fire (type : EventType) (block : Option BlockId) (details : List (String × Datum)) :
    Ends (fire type block details) ws (fun _ ws' => SameGraph ws ws')
      (fun ws' => SameGraph ws ws') := by
  unfold fire
  simp only [ends_bind, ends_get]
  split
  · split
    · simp only [ends_bind, ends_modify]
      refine ends_refreshDeclared.mono (fun _ ws' h => ?_) fun ws' h => ?_
      · exact ⟨h.blocks, h.links, h.positions, h.selected⟩
      · exact ⟨h.blocks, h.links, h.positions, h.selected⟩
    · exact ⟨rfl, rfl, rfl, rfl⟩
  · exact .refl ws

/-- An edit that ends with an event ensures what it ensures before, if blocks, connections, places
and selection decide it. -/
lemma ends_fire_of {P : Workspace → Prop} {type : EventType} {block : Option BlockId}
    {details : List (String × Datum)} (hP : ∀ {ws ws'}, SameGraph ws ws' → P ws → P ws')
    (hw : P ws) : Ends (fire type block details) ws (fun _ => P) P :=
  (ends_fire type block details).mono (fun _ _ h => hP h hw) fun _ h => hP h hw

/-- An edit without events ends as it does with events switched off, and switches them on. -/
lemma ends_quietly {x : Edit α}
    (h : Ends x { ws with muted := ws.muted + 1 }
      (fun a ws' => done a { ws' with muted := ws'.muted - 1 })
      fun ws' => refused { ws' with muted := ws'.muted - 1 }) :
    Ends (quietly x) ws done refused := by
  have hrun : (quietly x).run ws =
      ((x.run { ws with muted := ws.muted + 1 }).1,
        { (x.run { ws with muted := ws.muted + 1 }).2 with
          muted := (x.run { ws with muted := ws.muted + 1 }).2.muted - 1 }) := rfl
  unfold Ends at h ⊢
  rw [hrun]
  rcases hx : x.run { ws with muted := ws.muted + 1 } with ⟨_ | _, _⟩ <;> simpa only [hx] using h

end Edit

end BlockText

/-!
## What a change of a workspace changes

Each change of a workspace touches some of its tables and leaves the others alone.  The lemmas here
say, for every change, which blocks and which connections there are afterwards.
-/

namespace BlockText.Workspace

variable (ws : Workspace)

/-! ### Connections -/

section Connections

variable (es : List Edge) (e : Edge)

/-- Connections that are dropped are gone, each as often as it is named. -/
@[simp] lemma edges_drop : (ws.drop es).edges = ws.edges.diff es := ws.links.edges_removeAll es

/-- Dropping connections leaves the blocks. -/
@[simp] lemma blocks_drop : (ws.drop es).blocks = ws.blocks := rfl

/-- Dropping connections leaves each block as it was. -/
@[simp] lemma block?_drop (id : BlockId) : (ws.drop es).block? id = ws.block? id := rfl

/-- Dropping connections leaves the same blocks in the workspace. -/
@[simp] lemma has_drop (id : BlockId) : (ws.drop es).has id = ws.has id := rfl

/-- A new connection is the last one. -/
@[simp] lemma edges_connect : (ws.connect e).edges = ws.edges ++ [e] := rfl

/-- A connection leaves the blocks. -/
@[simp] lemma blocks_connect : (ws.connect e).blocks = ws.blocks := rfl

/-- A connection leaves each block as it was. -/
@[simp] lemma block?_connect (id : BlockId) : (ws.connect e).block? id = ws.block? id := rfl

/-- A connection leaves the same blocks in the workspace. -/
@[simp] lemma has_connect (id : BlockId) : (ws.connect e).has id = ws.has id := rfl

end Connections

/-- The connections that are left when those that arrive at a port are dropped. -/
@[simp] lemma mem_drop_incoming {ws : Workspace} {id : BlockId} {port : String} {e : Edge} :
    e ∈ (ws.drop (ws.incoming id port)).edges ↔ e ∈ ws.edges ∧ e.stop ≠ ⟨id, port⟩ := by
  rw [edges, drop, edges_removeAll_incoming, List.mem_filter]
  simp

/-- The connections that are left when those that leave from a port are dropped. -/
@[simp] lemma mem_drop_outgoing {ws : Workspace} {id : BlockId} {port : String} {e : Edge} :
    e ∈ (ws.drop (ws.outgoing id port)).edges ↔ e ∈ ws.edges ∧ e.start ≠ ⟨id, port⟩ := by
  rw [edges, drop, edges_removeAll_outgoing, List.mem_filter]
  simp

/-- Dropping connections leaves a part of them. -/
lemma drop_sublist (es : List Edge) : (ws.drop es).edges.Sublist ws.edges := by
  rw [edges_drop]
  exact List.diff_sublist _ _

/-! ### Blocks -/

section Blocks

variable (id other : BlockId) (b : Block) (spot : Point)

/-- Replacing a block leaves the connections. -/
@[simp] lemma edges_put : (ws.put id b).edges = ws.edges := rfl

/-- A block that is replaced is the new one, and the others are as they were. -/
@[simp] lemma block?_put :
    (ws.put id b).block? other = if other = id then some b else ws.block? other :=
  entryAt?_putEntry ws.blocks id other b

/-- A new block is not connected. -/
@[simp] lemma edges_grow : (ws.grow id b spot).edges = ws.edges := rfl

/-- A new block is the last one. -/
@[simp] lemma ids_grow : (ws.grow id b spot).ids = ws.ids ++ [id] := by
  simp [grow, ids]

/-- A block that is removed is gone, and the others are as they were. -/
@[simp] lemma block?_without :
    (ws.without id).block? other = if other = id then none else ws.block? other :=
  entryAt?_dropEntry ws.blocks id other

/-- With a block its connections are gone. -/
@[simp] lemma edges_without :
    (ws.without id).edges = ws.edges.filter (fun e => !e.touches id) :=
  ws.links.edges_removeAll_filter _

/-- The names that are left are those of the other blocks. -/
@[simp] lemma ids_without : (ws.without id).ids = ws.ids.filter (· != id) :=
  keys_dropEntry ws.blocks id

end Blocks

variable {ws} {id other : BlockId} {b : Block}

/-- Another state of a block takes no name away and adds none. -/
lemma ids_put (h : ws.has id) : (ws.put id b).ids = ws.ids :=
  keys_putEntry_of_mem b (has_iff_mem_ids.mp h)

/-- The blocks after one more was added under a new name. -/
lemma block?_grow (hid : ¬ ws.has id) (spot : Point) :
    (ws.grow id b spot).block? other = if other = id then some b else ws.block? other := by
  rw [block?, grow, entryAt?_append, entryAt?_cons, entryAt?_nil]
  by_cases h : other = id
  · subst h
    have hnone : entryAt? ws.blocks other = none := block?_eq_none hid
    simp [hnone]
  · simp [h, Ne.symm h, block?]

/-- The connections that are left without a block have both ends elsewhere. -/
lemma mem_edges_without {e : Edge} :
    e ∈ (ws.without id).edges ↔ e ∈ ws.edges ∧ e.source ≠ id ∧ e.target ≠ id := by
  simp [Edge.touches]

end BlockText.Workspace

/-!
## Properties that the blocks decide

Connections, places, the selection and the events of a workspace say nothing about its blocks.  So a
property that the blocks alone decide is upheld by every operation that only plugs blocks together,
takes them apart, moves or selects them.
-/

namespace BlockText.Edit

/-- Workspaces with the same blocks have the property alike. -/
def DecidedByBlocks (P : Workspace → Prop) : Prop :=
  ∀ ⦃ws ws' : Workspace⦄, ws'.blocks = ws.blocks → P ws → P ws'

namespace DecidedByBlocks

variable {P : Workspace → Prop} (h : DecidedByBlocks P)

include h

/-! ### Steps -/

/-- A change of other things. -/
lemma modify {f : Workspace → Workspace} (hf : ∀ ws, (f ws).blocks = ws.blocks) :
    Upholds P (modify f) := upholds_modify fun ws => h (hf ws)

/-- An event leaves the blocks. -/
lemma fire (type : EventType) (block : Option BlockId) (details : List (String × Datum)) :
    Upholds P (fire type block details) :=
  fun _ hws => ends_fire_of (fun hgraph => h hgraph.blocks) hws

/-- Dropping connections leaves the blocks. -/
lemma dropEdges (dropped : Workspace → List Edge) : Upholds P (dropEdges dropped) :=
  h.modify fun _ => rfl

/-- A connection leaves the blocks. -/
lemma addEdge (e : Edge) : Upholds P (addEdge e) := h.modify fun _ => rfl

/-- Detaching a port leaves the blocks. -/
lemma detach (id : BlockId) (port : String) : Upholds P (detach id port) :=
  (h.dropEdges _).bind fun _ => h.dropEdges _

/-- Finding a name for a block leaves the blocks. -/
lemma idOrFresh (id : Option BlockId) : Upholds P (idOrFresh id) := by
  cases id with
  | some id => exact upholds_pure id
  | none => exact fun ws hws => @h ws _ rfl hws

/-! ### Connections -/

/-- Plugging a block in leaves the blocks. -/
lemma connectValue (parent : BlockId) (slot : String) (child : BlockId) :
    Upholds P (connectValue parent slot child) :=
  (upholds_require parent).bind fun _ => (upholds_require child).bind fun _ =>
    (upholds_refuseIf _ _).bind fun _ => (upholds_refuseIf _ _).bind fun _ =>
    (upholds_get.bind fun _ => upholds_refuseIf _ _).bind fun _ =>
    (h.dropEdges _).bind fun _ => (h.dropEdges _).bind fun _ => (h.addEdge _).bind fun _ =>
    (h.fire _ _ _).bind fun _ => upholds_pure _

/-- Putting a statement into a body leaves the blocks. -/
lemma connectStatement (parent : BlockId) (slot : String) (child : BlockId) :
    Upholds P (connectStatement parent slot child) :=
  (upholds_require parent).bind fun _ => (upholds_require child).bind fun _ =>
    (upholds_refuseIf _ _).bind fun _ => (upholds_refuseIf _ _).bind fun _ =>
    (upholds_get.bind fun _ => upholds_refuseIf _ _).bind fun _ =>
    (h.dropEdges _).bind fun _ => upholds_get.bind fun _ => (h.dropEdges _).bind fun _ =>
    (h.addEdge _).bind fun _ =>
    (upholds_forM fun _ => upholds_get.bind fun _ => h.addEdge _).bind fun _ =>
    (h.fire _ _ _).bind fun _ => upholds_pure _

/-- Unplugging a block leaves the blocks. -/
lemma unplug (id : BlockId) : Upholds P (unplug id) :=
  (upholds_require id).bind fun _ => (h.dropEdges _).bind fun _ => (h.dropEdges _).bind fun _ =>
    h.fire _ _ _

/-! ### Layout and selection -/

/-- Moving a block leaves the blocks. -/
lemma move (id : BlockId) (spot : Point) : Upholds P (move id spot) :=
  (upholds_require id).bind fun _ => (h.modify fun _ => by rfl).bind fun _ => h.fire _ _ _

/-- Tidying up leaves the blocks. -/
lemma cleanUp (origin : Point) : Upholds P (cleanUp origin) := h.modify fun _ => rfl

/-- The viewport is no block. -/
lemma setViewport (viewport : Viewport) : Upholds P (setViewport viewport) :=
  (h.modify fun _ => by rfl).bind fun _ => h.fire _ _ _

/-- The selection is no block. -/
lemma select (id : Option BlockId) : Upholds P (select id) :=
  (upholds_forM fun id => (upholds_require id).discard).bind fun _ =>
    upholds_get.bind fun _ => (h.modify fun _ => by rfl).bind fun _ => h.fire _ _ _

end DecidedByBlocks

end BlockText.Edit

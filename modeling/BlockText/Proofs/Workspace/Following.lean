import BlockText.Proofs.Workspace.Heeding

/-!
# Operations are noted

Whoever follows the edits forgets which document is installed when an event reports a change, before
anything else can fail.  An operation that changes blocks or connections reports it, and cannot fail
in between.  So after an operation either no document is installed, or blocks and connections are as
before.  There is one exception: the connections at a port can be dropped without an event.
-/

namespace BlockText

namespace Workspace

/-- A change has been noted: no document is installed. -/
def Noted (ws : Workspace) : Prop := ws.Followed ∧ ws.installed = none

/-- The second workspace has the blocks, the connections and the installed document of the first
one. -/
structure Untouched (ws ws' : Workspace) : Prop where
  followed : ws'.Followed
  blocks : ws'.blocks = ws.blocks
  links : ws'.links = ws.links
  installed : ws'.installed = ws.installed

/-- A change since the first workspace has been noted, if there was one. -/
def NotedSince (ws ws' : Workspace) : Prop := ws'.Noted ∨ ws.Untouched ws'

/-- A forest of measured blocks in which events are followed; a document is installed only if there
are blocks. -/
structure Attended (ws : Workspace) : Prop where
  forest : ws.Forest
  measured : ws.Measured
  followed : ws.Followed
  nonempty : ws.installed ≠ none → ws.blocks ≠ []

variable {ws : Workspace}

/-- Nothing has changed in an attended workspace since now. -/
lemma Attended.notedSince (h : ws.Attended) : ws.NotedSince ws := .inr ⟨h.followed, rfl, rfl, rfl⟩

end Workspace

namespace Edit

open Workspace

variable {α β : Type} {ws : Workspace}

/-- What is noted depends on the followed parts of the workspace alone. -/
lemma noted_congr {ws ws' : Workspace} (h : SameFollowing ws ws') (hws : ws.Noted) : ws'.Noted :=
  ⟨followed_congr h hws.1, h.installed.trans hws.2⟩

/-- An event that reports a change is noted, also if it ends in a fault. -/
lemma ends_fire_noted (hws : ws.Followed) {type : EventType} (htype : type.isCosmetic = false)
    (block : Option BlockId) (details : List (String × Datum)) :
    Ends (fire type block details) ws (fun _ => Noted) Noted := by
  have hmuted : (ws.muted == 0) = true := by simp [hws.muted]
  have hwatched : (ws.watched && !type.isCosmetic) = true := by simp [hws.watched, htype]
  unfold fire
  rw [ends_bind, ends_get]
  simp only [hmuted, hwatched, if_true, ends_bind, ends_modify]
  have hnoted : Noted { ws with installed := none } := ⟨⟨hws.muted, hws.watched⟩, rfl⟩
  refine (upholds_refreshDeclared noted_congr _ hnoted).mono (fun _ ws' hws' => ?_) fun _ h => h
  exact ⟨⟨hws'.1.muted, hws'.1.watched⟩, hws'.2⟩

/-- An event that reports no change leaves everything as it is. -/
lemma ends_fire_cosmetic (hws : ws.Followed) {type : EventType} (htype : type.isCosmetic = true)
    (block : Option BlockId) (details : List (String × Datum)) :
    Ends (fire type block details) ws (fun _ => ws.Untouched) ws.Untouched := by
  have hmuted : (ws.muted == 0) = true := by simp [hws.muted]
  have hwatched : (ws.watched && !type.isCosmetic) = false := by simp [htype]
  unfold fire
  rw [ends_bind, ends_get]
  simp only [hmuted, hwatched, if_true]
  exact ⟨⟨hws.muted, hws.watched⟩, rfl, rfl, rfl⟩

/-- What has been noted stays so. -/
lemma heeds_noted : Heeds Noted where
  fire type block details ws hws := by
    cases htype : type.isCosmetic with
    | false => exact ends_fire_noted hws.1 htype block details
    | true =>
      refine (ends_fire_cosmetic hws.1 htype block details).mono (fun _ ws' h => ?_) fun ws' h => ?_
      · exact ⟨h.followed, h.installed.trans hws.2⟩
      · exact ⟨h.followed, h.installed.trans hws.2⟩
  congr := noted_congr

/-! ## Reports -/

/-- The step cannot fail and is not about events. -/
def Passes (x : Edit α) : Prop :=
  ∀ ws : Workspace, ws.Followed → Ends x ws (fun _ => Followed) fun _ => False

/-- The edit reports a change in the end. -/
def Reports (x : Edit α) : Prop :=
  ∀ ws : Workspace, ws.Followed → Ends x ws (fun _ => Noted) Noted

/-- One step after another. -/
lemma Passes.bind {x : Edit β} {f : β → Edit α} (hx : Passes x) (hf : ∀ b, Passes (f b)) :
    Passes (x >>= f) := by
  intro ws hws
  rw [ends_bind]
  exact (hx ws hws).mono (fun b ws' h => hf b ws' h) fun _ h => h

/-- A modification that leaves the followed parts alone passes. -/
lemma passes_modify {f : Workspace → Workspace} (hf : ∀ ws, SameFollowing ws (f ws)) :
    Passes (modify f) := fun ws hws => followed_congr (hf ws) hws

/-- Dropping edges cannot fail and is not about events. -/
lemma passes_dropEdges (dropped : Workspace → List Edge) : Passes (dropEdges dropped) :=
  passes_modify fun _ => ⟨rfl, rfl, rfl, rfl, rfl⟩

/-- Nor can adding an edge fail. -/
lemma passes_addEdge (e : Edge) : Passes (addEdge e) :=
  passes_modify fun _ => ⟨rfl, rfl, rfl, rfl, rfl⟩

/-- A step for each item of a list. -/
lemma passes_forM {xs : List β} {f : β → Edit Unit} (hf : ∀ x, Passes (f x)) :
    Passes (xs.forM f) := by
  induction xs with
  | nil => exact fun _ hws => hws
  | cons x rest ih => exact (hf x).bind fun _ => ih

/-- Firing an event that is not cosmetic reports a change. -/
lemma reports_fire {type : EventType} (htype : type.isCosmetic = false) (block : Option BlockId)
    (details : List (String × Datum)) : Reports (fire type block details) :=
  fun _ hws => ends_fire_noted hws htype block details

/-- A step before the report. -/
lemma Reports.after {x : Edit β} {f : β → Edit α} (hx : Passes x) (hf : ∀ b, Reports (f b)) :
    Reports (x >>= f) := by
  intro ws hws
  rw [ends_bind]
  exact (hx ws hws).mono (fun b ws' h => hf b ws' h) fun _ h => h.elim

/-- A look at the workspace before the report. -/
lemma Reports.look {f : Workspace → Edit α} (hf : ∀ ws, Reports (f ws)) : Reports (get >>= f) :=
  fun ws hws => hf ws ws hws

/-- The result of an edit after the report. -/
lemma Reports.result {x : Edit β} (hx : Reports x) (a : α) : Reports (do let _ ← x; return a) := by
  intro ws hws
  rw [ends_bind]
  exact hx ws hws

/-- The edit notes its changes, whether it is carried out or refused. -/
def NotesChanges (x : Edit α) : Prop :=
  ∀ ws : Workspace, ws.Attended → Ends x ws (fun _ => ws.NotedSince) ws.NotedSince

/-- What reports a change leaves none unnoted. -/
lemma Reports.notes {x : Edit α} (hx : Reports x) : NotesChanges x := fun ws hws =>
  (hx ws hws.followed).mono (fun _ _ h => .inl h) fun _ h => .inl h

/-- Discarding the result leaves what is noted alone. -/
lemma NotesChanges.discard {x : Edit α} (hx : NotesChanges x) :
    NotesChanges (discard x : Edit Unit) := fun ws hws => (ends_map x _).mpr (hx ws hws)

/-- A look at the workspace before the edit. -/
lemma NotesChanges.look {f : Workspace → Edit α} (hf : ∀ ws, NotesChanges (f ws)) :
    NotesChanges (get >>= f) := fun ws hws => hf ws ws hws

/-- A look at a block before the edit. -/
lemma NotesChanges.require {id : BlockId} {f : Block → Edit α} (hf : ∀ b, NotesChanges (f b)) :
    NotesChanges (Edit.require id >>= f) := by
  intro ws hws
  rw [ends_bind]
  exact ends_require (fun b _ => hf b ws hws) fun _ => hws.notedSince

/-- A condition before the edit. -/
lemma NotesChanges.unless {condition : Bool} {e : WorkspaceError} {x : Edit α}
    (hx : NotesChanges x) : NotesChanges (do refuseIf condition e; x) := by
  intro ws hws
  rw [ends_bind]
  exact ends_refuseIf (fun _ => hx ws hws) hws.notedSince

/-! ## Blocks -/

/-- A new block is reported. -/
lemma notes_createNamed (typeName : String) (id : Option BlockId) (spot : Point) :
    NotesChanges (createNamed typeName id spot) := by
  intro ws hws
  have hid : Ends (idOrFresh id) ws (fun _ => ws.Untouched) ws.Untouched := by
    cases id with
    | some id => exact ⟨hws.followed, rfl, rfl, rfl⟩
    | none => exact ⟨⟨hws.followed.muted, hws.followed.watched⟩, rfl, rfl, rfl⟩
  unfold createNamed
  rw [ends_bind]
  refine hid.mono (fun id ws₁ h₁ => ?_) fun _ h => .inr h
  rw [ends_bind]
  unfold placeNamed
  cases BlockType.ofName? typeName with
  | none => exact .inr h₁
  | some type =>
    have hfollowed : (ws₁.grow id (Block.ofType type) spot).Followed :=
      ⟨h₁.followed.muted, h₁.followed.watched⟩
    unfold place
    rw [ends_bind, ends_get, ends_bind]
    refine ends_refuseIf (fun _ => ?_) (.inr h₁)
    rw [ends_bind, ends_set]
    exact (ends_fire_noted hfollowed rfl _ _).mono (fun _ _ h => .inl h) fun _ h => .inl h

/-- Deletions one after another are noted if the first of them is, or nothing has happened. -/
private lemma ends_deleteAll {fuel : ℕ} {ids : List BlockId}
    (hfirst : ∀ id ∈ ids, Ends (deleteWithin fuel id false) ws
      (fun _ ws' => ws'.Noted ∨ ws' = ws) Noted) :
    Ends (ids.forM fun id => deleteWithin fuel id false) ws
      (fun _ ws' => ws'.Noted ∨ ws' = ws) Noted := by
  induction ids with
  | nil => exact .inr rfl
  | cons id rest ih =>
    change Ends (deleteWithin fuel id false >>= fun _ => rest.forM _) ws _ _
    rw [ends_bind]
    refine (hfirst id List.mem_cons_self).mono (fun _ ws' hws' => ?_) fun _ h => h
    rcases hws' with hnoted | rfl
    · have hrest : Upholds Noted (rest.forM fun id => deleteWithin fuel id false) :=
        upholds_forM fun id => heeds_noted.deleteWithin fuel id false
      exact (hrest ws' hnoted).mono (fun _ _ h => .inl h) fun _ h => h
    · exact ih fun id hid => hfirst id (List.mem_cons_of_mem _ hid)

/-- A deletion is noted, or nothing has happened. -/
def DeletesNoted (fuel : ℕ) : Prop :=
  ∀ (ws : Workspace) (id : BlockId), ws.Forest → ws.Followed → ws.has id →
    Ends (deleteWithin fuel id false) ws (fun _ ws' => ws'.Noted ∨ ws' = ws) Noted

/-- What is under a block is a block. -/
private lemma has_of_transGen_under (hforest : ws.Forest) {a b : BlockId}
    (h : Relation.TransGen (Under ws.edges) a b) : ws.has a := by
  obtain ⟨_, ⟨e, he, rfl, -⟩, -⟩ := Relation.TransGen.head'_iff.mp h
  exact hforest.has_child he

/-- The deletion of a block is noted if the deletions inside are. -/
private lemma ends_deleteWithin_succ {fuel : ℕ} (hinside : DeletesNoted fuel) {id : BlockId}
    (heal : Bool) (hforest : ws.Forest) (hws : ws.Followed) (hid : ws.has id) :
    Ends (deleteWithin (fuel + 1) id heal) ws (fun _ => Noted) Noted := by
  obtain ⟨b, hb⟩ := has_iff_block?.mp hid
  unfold deleteWithin
  rw [ends_bind]
  refine ends_require (fun b' hb' => ?_) fun hnone => by simp [hb] at hnone
  obtain rfl : b = b' := Option.some.inj (hb.symm.trans hb')
  simp only [ends_bind, ends_get, dropEdges, ends_modify]
  generalize hfollower : (if b.isStatement then ws.next? id else none) = follower
  generalize hws₁ : ws.drop (if follower.isSome then ws.outgoing id "next" else []) = ws₁
  have hforest₁ : ws₁.Forest := hws₁ ▸ hforest.drop _
  have hfollowed₁ : ws₁.Followed := hws₁ ▸ ⟨hws.muted, hws.watched⟩
  have hnext : ∀ next ∈ (if heal then [] else follower.toList), ws₁.has next := by
    intro next hnext
    have hsome : ws.next? id = some next := by
      subst hfollower
      revert hnext
      cases heal <;> split <;> simp
    have hhas := has_of_transGen_under hforest (.single (hforest.under_of_next? hsome))
    exact hws₁ ▸ hhas
  have hchild : ∀ child ∈ ws₁.slotChildren id b, ws₁.has child := fun child hchild =>
    has_of_transGen_under hforest₁
      (hforest₁.under_of_mem_slotChildren (hforest.sound id b hb) hchild)
  have hdeleteAll : ∀ ids : List BlockId, (∀ id ∈ ids, ws₁.has id) →
      Ends (ids.forM fun id => deleteWithin fuel id false) ws₁
        (fun _ ws' => ws'.Noted ∨ ws' = ws₁) Noted := fun ids hids =>
    ends_deleteAll fun id hid => hinside ws₁ id hforest₁ hfollowed₁ (hids id hid)
  refine (hdeleteAll _ hnext).mono (fun _ ws₂ hws₂ => ?_) fun _ h => h
  have hslots : Ends ((ws₂.slotChildren id b).forM fun child => deleteWithin fuel child false) ws₂
      (fun _ => Followed) Noted := by
    rcases hws₂ with hnoted | rfl
    · have hall : Upholds Noted
          ((ws₂.slotChildren id b).forM fun child => deleteWithin fuel child false) :=
        upholds_forM fun child => heeds_noted.deleteWithin fuel child false
      exact (hall ws₂ hnoted).mono (fun _ _ h => h.1) fun _ h => h
    · refine (hdeleteAll _ hchild).mono (fun _ ws₃ h => ?_) fun _ h => h
      rcases h with hnoted | rfl
      · exact hnoted.1
      · exact hfollowed₁
  refine hslots.mono (fun _ ws₃ hws₃ => ?_) fun _ h => h
  rw [remove, ends_modify]
  have hremoved : (ws₃.without id).Followed := ⟨hws₃.muted, hws₃.watched⟩
  refine (ends_fire_noted hremoved rfl _ _).mono (fun _ ws₄ hws₄ => ?_) fun _ h => h
  split
  · exact heeds_noted.addEdge _ ws₄ hws₄
  · exact hws₄

/-- Deleting with any fuel leaves no change unnoted. -/
private lemma deletesNoted (fuel : ℕ) : DeletesNoted fuel := by
  induction fuel with
  | zero => exact fun ws id _ _ _ => .inr rfl
  | succ fuel ih =>
    intro ws id hforest hws hid
    exact (ends_deleteWithin_succ ih false hforest hws hid).mono (fun _ _ h => .inl h) fun _ h => h

/-- Deleting a block leaves no change unnoted. -/
lemma notes_delete (id : BlockId) (heal : Bool) : NotesChanges (delete id heal) := by
  intro ws hws
  unfold delete
  rw [ends_bind, ends_get]
  by_cases hid : ws.has id
  · have hinside := deletesNoted ws.blocks.length
    exact (ends_deleteWithin_succ hinside heal hws.forest hws.followed hid).mono
      (fun _ _ h => .inl h) fun _ h => .inl h
  · unfold deleteWithin
    rw [ends_bind]
    exact ends_require (fun b hb => absurd (has_of_block? hb) hid) fun _ => hws.notedSince

/-! ## Connections -/

/-- Plugging a value leaves no change unnoted. -/
lemma notes_connectValue (parent : BlockId) (slot : String) (child : BlockId) :
    NotesChanges (connectValue parent slot child) := by
  have hreport : ∀ details (e : Edge), Reports (do
      dropEdges (·.outgoing child "output")
      dropEdges (·.incoming parent slot)
      addEdge e
      fire .move (some child) details
      return e) := fun details e =>
    .after (passes_dropEdges _) fun _ => .after (passes_dropEdges _) fun _ =>
      .after (passes_addEdge _) fun _ => .result (reports_fire rfl _ _) _
  exact .require fun p => .require fun c => .unless <| .unless <| .look fun ws => .unless <|
    (hreport _ _).notes

/-- Connecting a statement leaves no change unnoted. -/
lemma notes_connectStatement (parent : BlockId) (slot : String) (child : BlockId) :
    NotesChanges (connectStatement parent slot child) := by
  have hputAfter : ∀ first, Passes (putAfter child first) := fun first ws hws =>
    passes_addEdge _ ws hws
  have hreport : ∀ details (e : Edge), Reports (do
      dropEdges (·.incoming child "previous")
      let displaced := (← get).held? parent slot
      dropEdges (·.outgoing parent slot)
      addEdge e
      displaced.toList.forM (putAfter child)
      fire .move (some child) details
      return e) := fun details e =>
    .after (passes_dropEdges _) fun _ => .look fun _ => .after (passes_dropEdges _) fun _ =>
      .after (passes_addEdge _) fun _ => .after (passes_forM hputAfter) fun _ =>
      .result (reports_fire rfl _ _) _
  exact .require fun p => .require fun c => .unless <| .unless <| .look fun ws => .unless <|
    (hreport _ _).notes

/-- Unplugging a block leaves no change unnoted. -/
lemma notes_unplug (id : BlockId) : NotesChanges (unplug id) :=
  .require fun _ => Reports.notes <| .after (passes_dropEdges _) fun _ =>
    .after (passes_dropEdges _) fun _ => reports_fire rfl _ _

/-! ## Fields -/

/-- Detaching a block cannot fail; it is left to the caller to report it. -/
lemma passes_detach (id : BlockId) (port : String) : Passes (detach id port) :=
  (passes_dropEdges _).bind fun _ => passes_dropEdges _

/-- Updating a block cannot fail either. -/
lemma passes_update (id : BlockId) (b : Block) : Passes (update id b) :=
  passes_modify fun _ => ⟨rfl, rfl, rfl, rfl, rfl⟩

/-- A block whose counts are numbers can be brought in line with them. -/
lemma passes_reshape {b shaped : Block} (h : b.reshape = .ok shaped) (id : BlockId) :
    Passes (reshape id b) := by
  unfold reshape
  rw [h]
  change Passes (pure shaped >>= _)
  rw [pure_bind]
  exact (passes_forM fun _ => passes_detach id _).bind fun _ =>
    (passes_forM fun _ => passes_detach id _).bind fun _ => passes_update id shaped

/-- A measured block takes any field, and a count if it is a number. -/
lemma passes_updateShaped {b : Block} (hb : b.Measured) (id : BlockId) {name : String}
    {value : Datum} (hvalue : b.type.isCount name → ∃ n : ℕ, value = .int n) :
    Passes (updateShaped id (b.writeField name value) name) := by
  refine (passes_update id _).bind fun _ => ?_
  have htype : (b.writeField name value).type = b.type := rfl
  rw [htype]
  split
  · next hcount =>
    obtain ⟨n, rfl⟩ := hvalue hcount
    obtain ⟨shaped, hshaped, -⟩ := hb.reshape_writeField name n
    exact passes_reshape hshaped id
  · exact fun _ hws => hws

/-- A field that is about to get another value, and counts nothing. -/
structure Changing (ws : Workspace) (id : BlockId) (name : String) (value : Datum) : Prop where
  followed : ws.Followed
  block : ∃ b, ws.block? id = some b ∧ b.Measured ∧ b.type.isCount name = false ∧
    (b.field? name).any (·.equiv value) = false

/-- A spelling is forgotten only if the text changes. -/
private lemma ends_forgetSpelling (hws : ws.Attended) (id : BlockId) (name : String)
    (value : Datum) : Ends (forgetSpelling id name value) ws
      (fun _ ws' => ws' = ws ∨ Changing ws' id name value) fun ws' => ws' = ws := by
  unfold forgetSpelling
  rw [ends_bind]
  refine ends_require (fun b hb => ?_) fun _ => rfl
  split
  · next hforget =>
    simp only [Bool.and_eq_true, beq_iff_eq, Bool.or_eq_true, Bool.not_eq_true'] at hforget
    obtain ⟨⟨ht, hname⟩, hchange⟩ := hforget
    have hcount : b.type.isCount name = false := by
      rw [ht]
      rcases hname with rfl | rfl <;> decide
    have hraw : b.type.isCount "raw" = false := by rw [ht]; decide
    have hold : ((b.writeField "raw" "").field? name).any (·.equiv value) = false := by
      have hne : name ≠ "raw" := by rcases hname with rfl | rfl <;> decide
      rw [Block.field?_writeField, if_neg hne]
      cases hfield : b.field? name with
      | none => rfl
      | some d => simpa [Block.field, hfield] using hchange
    have hblock : (ws.put id (b.writeField "raw" "")).block? id = some (b.writeField "raw" "") := by
      rw [block?_put, if_pos rfl]
    have hmeasured := (hws.measured.of_block? hb).writeField "" hraw
    rw [update, ends_modify]
    exact .inr ⟨⟨hws.followed.muted, hws.followed.watched⟩, _, hblock, hmeasured, hcount, hold⟩
  · exact .inl rfl

/-- A field is set after the checks, and reported. -/
lemma notes_setField (id : BlockId) (name : String) (value : Datum) :
    NotesChanges (setField id name value) := by
  intro ws hws
  unfold setField
  rw [ends_bind]
  refine (ends_forgetSpelling hws id name value).mono (fun _ ws₁ h => ?_) fun _ h => h ▸ hws.notedSince
  rcases h with rfl | ⟨hfollowed, b, hb, hmeasured, hcount, hold⟩
  · rw [ends_bind]
    refine ends_require (fun b hb => ?_) fun _ => hws.notedSince
    rw [ends_bind]
    refine ends_fieldValue _ _ _ (fun v hv => ?_) hws.notedSince
    dsimp only
    split
    · have hshaped := passes_updateShaped (hws.measured.of_block? hb) id hv
      exact (Reports.after hshaped fun _ => reports_fire rfl _ _).notes ws₁ hws
    · exact hws.notedSince
  · rw [ends_bind]
    refine ends_require (fun b' hb' => ?_) fun hnone => by simp [hb] at hnone
    obtain rfl : b = b' := Option.some.inj (hb.symm.trans hb')
    rw [fieldValue, if_neg (by simp [hcount]), pure_bind]
    dsimp only
    rw [hold]
    have hnone : b.type.isCount name → ∃ n : ℕ, value = .int n := fun h => by simp [hcount] at h
    have hshaped := passes_updateShaped hmeasured id hnone
    exact ((Reports.after hshaped fun _ => reports_fire rfl _ _) ws₁ hfollowed).mono
      (fun _ _ h => .inl h) fun _ h => .inl h

/-! ## Layout and selection -/

/-- Moving a block leaves no change unnoted. -/
lemma notes_move (id : BlockId) (spot : Point) : NotesChanges (move id spot) :=
  .require fun _ => Reports.notes <|
    .after (passes_modify fun _ => by exact ⟨rfl, rfl, rfl, rfl, rfl⟩) fun _ => reports_fire rfl _ _

/-- A selection is reported as no change. -/
lemma notes_select (id : Option BlockId) : NotesChanges (select id) := by
  intro ws hws
  have hrequire : Ends (requireAll id.toList) ws (fun _ ws' => ws' = ws) (fun ws' => ws' = ws) :=
    ends_forM _ (fun x _ ws' h => (ends_map _ _).mpr (ends_require (fun _ _ => h) fun _ => h)) rfl
  unfold select
  rw [ends_bind]
  refine hrequire.mono (fun _ ws' h => ?_) fun ws' h => h ▸ hws.notedSince
  subst h
  simp only [ends_bind, ends_get, ends_modify]
  have hselected : Followed { ws' with selected := id } := ⟨hws.followed.muted, hws.followed.watched⟩
  refine (ends_fire_cosmetic hselected rfl _ _).mono (fun _ ws₁ h => ?_) fun ws₁ h => ?_
  · exact .inr ⟨h.followed, h.blocks, h.links, h.installed⟩
  · exact .inr ⟨h.followed, h.blocks, h.links, h.installed⟩

/-- Another view is reported as no change. -/
lemma notes_setViewport (viewport : Viewport) : NotesChanges (setViewport viewport) := by
  intro ws hws
  unfold setViewport
  rw [ends_bind, ends_modify]
  have hviewed : Followed { ws with viewport } := ⟨hws.followed.muted, hws.followed.watched⟩
  refine (ends_fire_cosmetic hviewed rfl _ _).mono (fun _ ws₁ h => ?_) fun ws₁ h => ?_
  · exact .inr ⟨h.followed, h.blocks, h.links, h.installed⟩
  · exact .inr ⟨h.followed, h.blocks, h.links, h.installed⟩

/-- Cleaning up leaves no change unnoted. -/
lemma notes_cleanUp (origin : Point) : NotesChanges (cleanUp origin) := fun _ hws =>
  .inr ⟨⟨hws.followed.muted, hws.followed.watched⟩, rfl, rfl, rfl⟩

/-- The deletion of all blocks is reported if there are any. -/
lemma notes_clear : NotesChanges clear := by
  intro ws hws
  unfold clear
  simp only [ends_bind, ends_get, ends_modify]
  have hfollowed : Followed { ws with blocks := [], links := {}, positions := [], selected := none } :=
    ⟨hws.followed.muted, hws.followed.watched⟩
  cases hids : ws.ids with
  | nil =>
    have hempty : ws.blocks = [] := by simpa [Workspace.ids] using hids
    have hnone : ws.installed = none := by
      by_contra hsome
      exact hws.nonempty hsome hempty
    exact .inl ⟨hfollowed, hnone⟩
  | cons id rest =>
    change Ends (fire .delete (some id) >>= fun _ => rest.forM _) _ _ _
    rw [ends_bind]
    refine (ends_fire_noted hfollowed rfl _ _).mono (fun _ ws₁ h₁ => ?_) fun _ h => .inl h
    have hrest : Upholds Noted (rest.forM fun id => fire .delete (some id)) :=
      upholds_forM fun id => heeds_noted.fire .delete (some id) []
    exact (hrest ws₁ h₁).mono (fun _ _ h => .inl h) fun _ h => .inl h

end Edit

namespace Operation

open Edit

/-- The operation reports what it changes: it does not only drop the connections at a port. -/
def Reporting : Operation → Prop
  | detach _ _ => False
  | _ => True

/-- An operation notes its changes, unless it only drops connections at a port. -/
theorem notes_edit {op : Operation} (h : op.Reporting) : NotesChanges op.edit := by
  cases op with
  | create typeName id spot => exact (notes_createNamed typeName id spot).discard
  | delete id heal => exact notes_delete id heal
  | connectValue parent slot child => exact (notes_connectValue parent slot child).discard
  | connectStatement parent slot child => exact (notes_connectStatement parent slot child).discard
  | connectNext before after => exact (notes_connectStatement before "next" after).discard
  | unplug id => exact notes_unplug id
  | detach id port => exact h.elim
  | setField id name value => exact notes_setField id name value
  | move id spot => exact notes_move id spot
  | moveBy id distance => exact .look fun _ => notes_move id _
  | select id => exact notes_select id
  | cleanUp origin => exact notes_cleanUp origin
  | clear => exact notes_clear

end Operation

end BlockText

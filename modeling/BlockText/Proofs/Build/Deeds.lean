import BlockText.Proofs.Build.Upholding
import BlockText.Proofs.Workspace.Lasting

/-!
# What building does, step by step

Of all that building does to a workspace, three things bear on where the text of a block is looked
up: a block is made, a value is plugged into another block, and the text of a block is noted.  A
`Deed` is one of them, and `Follows` says what deeds make of a workspace: blocks are added in the
order in which they are made and keep their types, values are connected only where they were before
or have been plugged in, and the notes are entered one after another.  Every basic step of building
comes down to one deed, or to none.
-/

namespace BlockText.Edit

open Syntax Workspace

/-- What a step of building does to the blocks and to what is known about their text. -/
inductive Deed
  | made (id : BlockId) (type : BlockType)
  | plugged (child holder : BlockId)
  | noted (id : BlockId) (span : Span)

/-- The block that a deed makes. -/
def Deed.made? : Deed → Option (BlockId × BlockType)
  | made id type => some (id, type)
  | _ => none

/-- The note that a deed enters. -/
def Deed.note? : Deed → Option (BlockId × Span)
  | noted id span => some (id, span)
  | _ => none

/-- The blocks that deeds make, in their order. -/
def made (ds : List Deed) : List (BlockId × BlockType) := ds.filterMap Deed.made?

/-- The notes that deeds enter, in their order. -/
def notes (ds : List Deed) : List (BlockId × Span) := ds.filterMap Deed.note?

/-- Nothing is made without deeds. -/
@[simp] lemma made_nil : made [] = [] := rfl

/-- Nothing is noted without deeds. -/
@[simp] lemma notes_nil : notes [] = [] := rfl

/-- A block that is made first is the first one made. -/
@[simp] lemma made_cons_made (id : BlockId) (type : BlockType) (ds : List Deed) :
    made (.made id type :: ds) = (id, type) :: made ds := rfl

/-- Plugging makes no block. -/
@[simp] lemma made_cons_plugged (child holder : BlockId) (ds : List Deed) :
    made (.plugged child holder :: ds) = made ds := rfl

/-- A note makes no block. -/
@[simp] lemma made_cons_noted (id : BlockId) (span : Span) (ds : List Deed) :
    made (.noted id span :: ds) = made ds := rfl

/-- Making a block notes nothing. -/
@[simp] lemma notes_cons_made (id : BlockId) (type : BlockType) (ds : List Deed) :
    notes (.made id type :: ds) = notes ds := rfl

/-- Plugging notes nothing. -/
@[simp] lemma notes_cons_plugged (child holder : BlockId) (ds : List Deed) :
    notes (.plugged child holder :: ds) = notes ds := rfl

/-- A span that is noted first is the first note. -/
@[simp] lemma notes_cons_noted (id : BlockId) (span : Span) (ds : List Deed) :
    notes (.noted id span :: ds) = (id, span) :: notes ds := rfl

/-- What deeds make one after another is what each of them makes. -/
@[simp] lemma made_append (ds ds' : List Deed) : made (ds ++ ds') = made ds ++ made ds' :=
  List.filterMap_append

/-- What deeds note one after another is what each of them notes. -/
@[simp] lemma notes_append (ds ds' : List Deed) : notes (ds ++ ds') = notes ds ++ notes ds' :=
  List.filterMap_append

/-- What deeds make of a workspace. -/
structure Follows (ws : Workspace) (ds : List Deed) (ws' : Workspace) : Prop where
  ids : ws'.ids = ws.ids ++ (made ds).map (·.1)
  /-- Blocks keep their types. -/
  lasts : ∀ id type, ws.HasType id type → ws'.HasType id type
  types : ∀ m ∈ made ds, ws'.HasType m.1 m.2
  /-- Values are connected only where they were or have been plugged in. -/
  values : ∀ e ∈ ws'.edges, e.kind = .value → e ∈ ws.edges ∨ .plugged e.child e.holder ∈ ds
  spans : ws'.spans = (notes ds).foldl (fun spans n => putEntry spans n.1 n.2) ws.spans
  /-- New blocks have a name that is not empty. -/
  named : ∀ m ∈ made ds, m.1 ≠ ""

section

variable {ws ws₁ ws' : Workspace} {ds ds' : List Deed}

/-- No deeds lead from a workspace to itself. -/
lemma Follows.refl (ws : Workspace) : Follows ws [] ws :=
  ⟨by simp, fun _ _ h => h, by simp, fun _ he _ => .inl he, rfl, by simp⟩

/-- One deed after another. -/
lemma Follows.trans (h : Follows ws ds ws₁) (h' : Follows ws₁ ds' ws') :
    Follows ws (ds ++ ds') ws' where
  ids := by rw [h'.ids, h.ids, made_append, List.map_append, List.append_assoc]
  lasts id type hid := h'.lasts id type (h.lasts id type hid)
  types m hm := by
    rw [made_append, List.mem_append] at hm
    exact hm.elim (fun hm => h'.lasts _ _ (h.types m hm)) (h'.types m)
  values e he hk := by
    simp only [List.mem_append]
    rcases h'.values e he hk with he | hds
    · exact (h.values e he hk).imp_right .inl
    · exact .inr (.inr hds)
  spans := by rw [h'.spans, h.spans, notes_append, List.foldl_append]
  named := by
    rw [made_append, List.forall_mem_append]
    exact ⟨h.named, h'.named⟩

/-- Nothing was done if blocks and notes stay, and connections for values are none but those from
before. -/
lemma Follows.of_same (hblocks : ws'.blocks = ws.blocks)
    (hedges : ∀ e ∈ ws'.edges, e.kind = .value → e ∈ ws.edges) (hspans : ws'.spans = ws.spans) :
    Follows ws [] ws' where
  ids := by simp [Workspace.ids, hblocks]
  lasts _ _ hid := decidedByBlocks_hasType hblocks hid
  types := by simp
  values e he hk := .inl (hedges e he hk)
  spans := hspans
  named := by simp

end

/-! ## Edits as deeds -/

variable {α β : Type}

/-- When the edit is carried out in a workspace, it comes down to good deeds. -/
def TracedAt (good : α → List Deed → Prop) (x : Edit α) (ws : Workspace) : Prop :=
  Ends x ws (fun a ws' => ∃ ds, good a ds ∧ Follows ws ds ws') fun _ => True

/-- When the edit is carried out, it comes down to good deeds. -/
def Traced (good : α → List Deed → Prop) (x : Edit α) : Prop := ∀ ws, TracedAt good x ws

variable {good good' : α → List Deed → Prop} {ws : Workspace}

/-- An edit that only gives a value does nothing. -/
lemma tracedAt_pure {a : α} (h : good a []) : TracedAt good (pure a) ws :=
  ⟨[], h, .refl ws⟩

/-- An edit that only gives a value does nothing in any workspace. -/
lemma traced_pure {a : α} (h : good a []) : Traced good (pure a) := fun _ => tracedAt_pure h

/-- A refusal leaves no deeds to be accounted for. -/
lemma traced_throw (e : WorkspaceError) : Traced good (throw e : Edit α) := fun _ => trivial

/-- What is known of a result and of the deeds may be weakened. -/
lemma Traced.mono {x : Edit α} (h : Traced good x) (himp : ∀ a ds, good a ds → good' a ds) :
    Traced good' x := fun ws =>
  (h ws).mono (fun a _ ⟨ds, hgood, hfollows⟩ => ⟨ds, himp a ds hgood, hfollows⟩) fun _ h => h

/-- One step after another, where the second may rely on what the first has done. -/
lemma TracedAt.bind {mid : β → List Deed → Prop} {x : Edit β} {f : β → Edit α}
    (hx : TracedAt mid x ws)
    (hf : ∀ b ds ws₁, mid b ds → Follows ws ds ws₁ →
      TracedAt (fun a ds' => good a (ds ++ ds')) (f b) ws₁) :
    TracedAt good (x >>= f) ws := by
  unfold TracedAt
  rw [ends_bind]
  refine hx.mono ?_ fun _ h => h
  rintro b ws₁ ⟨ds, hmid, h₁⟩
  refine (hf b ds ws₁ hmid h₁).mono ?_ fun _ h => h
  rintro a ws' ⟨ds', hgood, h'⟩
  exact ⟨ds ++ ds', hgood, h₁.trans h'⟩

/-- One step after another. -/
lemma Traced.bind {mid : β → List Deed → Prop} {x : Edit β} {f : β → Edit α} (hx : Traced mid x)
    (hf : ∀ b ds, mid b ds → Traced (fun a ds' => good a (ds ++ ds')) (f b)) :
    Traced good (x >>= f) := fun ws =>
  (hx ws).bind fun b ds ws₁ hmid _ => hf b ds hmid ws₁

/-- A result may be brought into another form, and the deeds stay the same. -/
lemma Traced.map {mid : β → List Deed → Prop} {x : Edit β} (hx : Traced mid x) (f : β → α)
    (hf : ∀ b ds, mid b ds → good (f b) ds) : Traced good (f <$> x) := fun ws =>
  (ends_map x f).mpr <| (hx ws).mono
    (fun b _ ⟨ds, hmid, hfollows⟩ => ⟨ds, hf b ds hmid, hfollows⟩) fun _ h => h

/-- The edit does none of the deeds in a workspace. -/
abbrev QuietAt (x : Edit α) (ws : Workspace) : Prop := TracedAt (fun _ ds => ds = []) x ws

/-- The edit does none of the deeds. -/
def Quiet (x : Edit α) : Prop := ∀ ws, QuietAt x ws

/-- An edit that only gives a value is quiet. -/
lemma quiet_pure (a : α) : Quiet (pure a) := traced_pure rfl

/-- A refusal is quiet. -/
lemma quiet_throw (e : WorkspaceError) : Quiet (throw e : Edit α) := traced_throw e

/-- After a quiet step blocks have the types that they had. -/
lemma QuietAt.bind {x : Edit β} {f : β → Edit α} (hx : QuietAt x ws)
    (hf : ∀ b ws₁, (∀ id type, ws.HasType id type → ws₁.HasType id type) →
      TracedAt good (f b) ws₁) : TracedAt good (x >>= f) ws := by
  refine TracedAt.bind hx ?_
  rintro b _ ws₁ rfl hfollows
  exact hf b ws₁ hfollows.lasts

/-- A quiet step changes nothing about the deeds. -/
lemma Quiet.bind {x : Edit β} {f : β → Edit α} (hx : Quiet x) (hf : ∀ b, Traced good (f b)) :
    Traced good (x >>= f) := fun ws =>
  QuietAt.bind (hx ws) fun b ws₁ _ => hf b ws₁

/-- A quiet edit is quiet although its result is dropped. -/
lemma Quiet.discard {x : Edit β} (hx : Quiet x) : Quiet (discard x : Edit Unit) :=
  Traced.map hx _ fun _ _ h => h

/-- Quiet edits for all members of a list are quiet together. -/
lemma quiet_forM {xs : List β} {f : β → Edit Unit} (hf : ∀ x, Quiet (f x)) :
    Quiet (xs.forM f) := by
  induction xs with
  | nil => exact quiet_pure ()
  | cons x rest ih => exact (hf x).bind fun _ => ih

/-- Quiet edits that give a result for every member of a list are quiet together. -/
lemma quiet_mapM {xs : List β} {f : β → Edit α} (hf : ∀ x, Quiet (f x)) : Quiet (xs.mapM f) := by
  induction xs with
  | nil => exact quiet_pure []
  | cons x rest ih =>
    rw [List.mapM_cons]
    exact (hf x).bind fun y => ih.bind fun ys => quiet_pure (y :: ys)

/-- A look at the workspace. -/
lemma tracedAt_get {f : Workspace → Edit α} (hf : TracedAt good (f ws) ws) :
    TracedAt good (get >>= f) ws := by
  unfold TracedAt
  rw [ends_bind, ends_get]
  exact hf

/-- Looking at the workspace is no deed. -/
lemma traced_get {f : Workspace → Edit α} (hf : ∀ ws, Traced good (f ws)) :
    Traced good (get >>= f) := fun ws => tracedAt_get (hf ws ws)

/-- A look at a block. -/
lemma tracedAt_require {id : BlockId} {f : Block → Edit α}
    (hf : ∀ b, ws.HasType id b.type → TracedAt good (f b) ws) :
    TracedAt good (require id >>= f) ws := by
  unfold TracedAt
  rw [ends_bind]
  exact ends_require (fun b hb => hf b ⟨b, hb, rfl⟩) fun _ => trivial

/-- Asking for a block is quiet. -/
lemma quiet_require (id : BlockId) : Quiet (require id) := fun ws =>
  ends_require (fun _ _ => ⟨[], rfl, .refl ws⟩) fun _ => trivial

/-- A refusal on a condition is quiet. -/
lemma quiet_refuseIf (condition : Bool) (e : WorkspaceError) : Quiet (refuseIf condition e) :=
  fun ws => ends_refuseIf (fun _ => ⟨[], rfl, .refl ws⟩) trivial

/-- A fault that stops an edit is quiet. -/
lemma quiet_ofFault (x : Except Fault α) : Quiet (ofFault x) := fun ws =>
  ends_ofFault (fun _ _ => ⟨[], rfl, .refl ws⟩) trivial

/-- A change of other things. -/
lemma quiet_modify (f : Workspace → Workspace) (hblocks : ∀ ws, (f ws).blocks = ws.blocks)
    (hedges : ∀ ws, ∀ e ∈ (f ws).edges, e.kind = .value → e ∈ ws.edges)
    (hspans : ∀ ws, (f ws).spans = ws.spans) : Quiet (modify f) := fun ws =>
  ⟨[], rfl, .of_same (hblocks ws) (hedges ws) (hspans ws)⟩

/-- A change of places, views, names and events. -/
lemma quiet_modify_of {f : Workspace → Workspace} (hf : ∀ ws, (f ws).blocks = ws.blocks ∧
    (f ws).links = ws.links ∧ (f ws).spans = ws.spans) : Quiet (modify f) :=
  quiet_modify f (fun ws => (hf ws).1) (fun ws e he _ => by rwa [Workspace.edges, (hf ws).2.1] at he)
    fun ws => (hf ws).2.2

/-! ## Connections -/

/-- Collecting the declared names is quiet. -/
lemma quiet_refreshDeclared : Quiet refreshDeclared := by
  refine traced_get fun _ => (quiet_ofFault _).bind fun variableNames => ?_
  refine Quiet.bind ?_ fun _ => traced_get fun _ => (quiet_ofFault _).bind fun functions => ?_
  · exact quiet_modify_of fun _ => ⟨rfl, rfl, rfl⟩
  · exact quiet_modify_of fun _ => ⟨rfl, rfl, rfl⟩

/-- An event is quiet. -/
lemma quiet_fire (type : EventType) (block : Option BlockId) (details : List (String × Datum)) :
    Quiet (fire type block details) := by
  have hevents : Quiet (modify fun ws : Workspace =>
      { ws with events := ws.events ++ [⟨type, block, details⟩] }) :=
    quiet_modify_of fun _ => ⟨rfl, rfl, rfl⟩
  refine traced_get fun ws => ?_
  split
  · dsimp only
    split
    · refine Quiet.bind ?_ fun _ => quiet_refreshDeclared.bind fun _ => hevents
      exact quiet_modify_of fun _ => ⟨rfl, rfl, rfl⟩
    · exact hevents
  · exact quiet_pure _

/-- Dropping connections is quiet. -/
lemma quiet_dropEdges (dropped : Workspace → List Edge) : Quiet (dropEdges dropped) :=
  quiet_modify _ (fun _ => rfl) (fun ws _ he _ => (ws.drop_sublist _).mem he) fun _ => rfl

/-- Detaching a port is quiet. -/
lemma quiet_detach (id : BlockId) (port : String) : Quiet (detach id port) :=
  (quiet_dropEdges _).bind fun _ => quiet_dropEdges _

/-- A connection for statements. -/
lemma quiet_addStatement (parent : BlockId) (slot : String) (child : BlockId) :
    Quiet (addEdge (.ofStatement parent slot child)) := by
  refine quiet_modify _ (fun _ => rfl) (fun ws e he hk => ?_) fun _ => rfl
  rw [edges_connect, List.mem_append, List.mem_singleton] at he
  refine he.resolve_right ?_
  rintro rfl
  cases hk

/-- A connection for a value. -/
lemma traced_addValue (child parent : BlockId) (slot : String) :
    Traced (fun _ ds => ds = [.plugged child parent]) (addEdge (.ofValue child parent slot)) := by
  intro ws
  refine ⟨_, rfl, by simp [Workspace.ids], fun _ _ h => h, by simp, fun e he hk => ?_, rfl, by simp⟩
  · rw [edges_connect, List.mem_append, List.mem_singleton] at he
    refine he.imp_right ?_
    rintro rfl
    exact List.mem_singleton.mpr rfl

/-- Plugging in a value. -/
lemma traced_connectValue (parent : BlockId) (slot : String) (child : BlockId) :
    Traced (fun _ ds => ds = [.plugged child parent]) (connectValue parent slot child) := by
  refine (quiet_require parent).bind fun _ => (quiet_require child).bind fun _ =>
    (quiet_refuseIf _ _).bind fun _ => (quiet_refuseIf _ _).bind fun _ =>
    Quiet.bind (traced_get fun _ => quiet_refuseIf _ _) fun _ =>
    (quiet_dropEdges _).bind fun _ => (quiet_dropEdges _).bind fun _ =>
    (traced_addValue child parent slot).bind ?_
  rintro _ _ rfl
  exact (quiet_fire _ _ _).bind fun _ => traced_pure rfl

/-- Putting a statement into a body is quiet. -/
lemma quiet_connectStatement (parent : BlockId) (slot : String) (child : BlockId) :
    Quiet (connectStatement parent slot child) :=
  (quiet_require parent).bind fun _ => (quiet_require child).bind fun _ =>
    (quiet_refuseIf _ _).bind fun _ => (quiet_refuseIf _ _).bind fun _ =>
    Quiet.bind (traced_get fun _ => quiet_refuseIf _ _) fun _ =>
    (quiet_dropEdges _).bind fun _ => traced_get fun _ => (quiet_dropEdges _).bind fun _ =>
    (quiet_addStatement parent slot child).bind fun _ =>
    Quiet.bind (quiet_forM fun _ => traced_get fun _ => quiet_addStatement _ _ _) fun _ =>
    (quiet_fire _ _ _).bind fun _ => quiet_pure _

/-! ## Fields -/

/-- Another state of a block with the same type. -/
lemma quietAt_update {id : BlockId} {b : Block} (h : ws.HasType id b.type) :
    QuietAt (update id b) ws := by
  obtain ⟨old, hold, htype⟩ := h
  refine ⟨[], rfl, ?_, fun other type hother => ?_, by simp, fun e he _ => .inl he, rfl, by simp⟩
  · simp [ids_put (has_of_block? hold)]
  · obtain ⟨c, hc, rfl⟩ := hother
    by_cases hne : other = id
    · subst hne
      obtain rfl := Option.some.inj (hc.symm.trans hold)
      exact ⟨b, by rw [block?_put, if_pos rfl], htype.symm⟩
    · exact ⟨c, by rw [block?_put, if_neg hne, hc], rfl⟩

/-- A block that is reshaped keeps its type, so nothing is made. -/
lemma quietAt_reshape {id : BlockId} {b : Block} (h : ws.HasType id b.type) :
    QuietAt (reshape id b) ws := by
  unfold reshape
  cases hshaped : b.reshape with
  | error f => exact quiet_throw _ ws
  | ok shaped =>
    change QuietAt (pure shaped >>= _) ws
    rw [pure_bind]
    have hdetach : ∀ slots : List String, Quiet (slots.forM (detach id)) := fun _ =>
      quiet_forM fun _ => quiet_detach _ _
    refine QuietAt.bind (hdetach _ ws) fun _ ws₁ h₁ => ?_
    refine QuietAt.bind (hdetach _ ws₁) fun _ ws₂ h₂ => quietAt_update ?_
    rw [Block.type_of_reshape hshaped]
    exact h₂ _ _ (h₁ _ _ h)

/-- Forgetting how a literal was spelled is quiet. -/
lemma quiet_forgetSpelling (id : BlockId) (name : String) (value : Datum) :
    Quiet (forgetSpelling id name value) := fun ws =>
  tracedAt_require fun b hb => by
    split
    · exact quietAt_update hb
    · exact quiet_pure _ ws

/-- Setting a field is quiet. -/
lemma quiet_setField (id : BlockId) (name : String) (value : Datum) :
    Quiet (setField id name value) := by
  refine (quiet_forgetSpelling id name value).bind fun _ ws => tracedAt_require fun b hb => ?_
  have hvalue : QuietAt (fieldValue b.type name value) ws :=
    ends_fieldValue _ _ _ (fun _ _ => ⟨[], rfl, .refl ws⟩) trivial
  refine hvalue.bind fun v ws₁ h₁ => ?_
  dsimp only
  split
  case isFalse => exact quiet_pure _ ws₁
  case isTrue =>
    refine QuietAt.bind (x := updateShaped id (b.writeField name v) name) ?_ fun _ ws₂ _ =>
      quiet_fire _ _ _ ws₂
    refine QuietAt.bind (quietAt_update (h₁ _ _ hb)) fun _ ws₂ h₂ => ?_
    split
    · exact quietAt_reshape (h₂ _ _ (h₁ _ _ hb))
    · exact quiet_pure _ ws₂

/-! ## New blocks -/

/-- The edit makes a block of the type, and no other. -/
def Makes (type : BlockType) (x : Edit BlockId) : Prop :=
  Traced (fun id ds => ds = [.made id type]) x

/-- A quiet step for a block that was made. -/
lemma Makes.and {type : BlockType} {x : Edit BlockId} {f : BlockId → Edit Unit}
    (hx : Makes type x) (hf : ∀ id, Quiet (f id)) :
    Makes type (do let id ← x; f id; return id) := by
  refine Traced.bind hx ?_
  rintro id _ rfl
  exact (hf id).bind fun _ => traced_pure rfl

/-- One more block under a new name. -/
lemma follows_grow {id : BlockId} (hid : id ≠ "") (hnew : ¬ ws.has id) (type : BlockType)
    (spot : Point) : Follows ws [.made id type] (ws.grow id (Block.ofType type) spot) := by
  refine ⟨by simp, fun other t hother => ?_, ?_, fun e he _ => .inl he, rfl, by simp [hid]⟩
  · obtain ⟨b, hb, ht⟩ := hother
    have hne : other ≠ id := fun h => hnew (h ▸ has_of_block? hb)
    exact ⟨b, by rw [block?_grow hnew, if_neg hne, hb], ht⟩
  · simp only [made_cons_made, made_nil, List.forall_mem_singleton]
    exact ⟨Block.ofType type, by rw [block?_grow hnew, if_pos rfl], (Block.proper_ofType type).2.1⟩

/-- A new block takes no name that is taken. -/
lemma traced_place {id : BlockId} (hid : id ≠ "") (type : BlockType) (spot : Point) :
    Traced (fun _ ds => ds = [.made id type]) (place id type spot) := by
  intro ws
  refine tracedAt_get ?_
  unfold TracedAt
  rw [ends_bind]
  refine ends_refuseIf (fun hnew => ?_) trivial
  rw [ends_bind, ends_set]
  refine (quiet_fire .create (some id) _ _).mono ?_ fun _ h => h
  rintro _ ws' ⟨_, rfl, h'⟩
  exact ⟨_, rfl, (follows_grow hid (Bool.eq_false_iff.mp hnew) type spot).trans h'⟩

/-- A name with a number is not empty. -/
private lemma numbered_ne_empty (n : ℕ) : s!"n{n}" ≠ "" := fun h => by
  simpa using congrArg String.toList h

/-- Creating a block makes one block of that type and does nothing else. -/
lemma makes_create (type : BlockType) (spot : Point) : Makes type (create type spot) := by
  have hfresh : Traced (fun id ds => id ≠ "" ∧ ds = []) freshId := fun ws =>
    tracedAt_get ⟨[], ⟨numbered_ne_empty _, rfl⟩, .of_same rfl (fun _ he _ => he) rfl⟩
  refine Traced.bind hfresh ?_
  rintro id _ ⟨hid, rfl⟩
  refine Traced.bind (traced_place hid type spot) ?_
  rintro _ _ rfl
  exact traced_pure rfl

/-- A new block with its fields is one block of that type, and nothing else is done. -/
lemma makes_newBlock (type : BlockType) (fields : List (String × Datum)) :
    Makes type (newBlock type fields) :=
  (makes_create type _).and fun id => quiet_forM fun _ => quiet_setField id _ _

/-! ## Slots and notes -/

/-- Plugging in a value that may be missing. -/
lemma traced_plug (id : BlockId) (slot : String) (child : Option BlockId) :
    Traced (fun _ ds => ds = child.toList.map fun c => Deed.plugged c id) (plug id slot child) := by
  cases child with
  | none => exact traced_pure rfl
  | some c => exact (traced_connectValue id slot c).map _ fun _ _ h => h

/-- Filling the body of a block is quiet. -/
lemma quiet_fill (id : BlockId) (slot : String) (first : Option BlockId) :
    Quiet (fill id slot first) := by
  cases first with
  | none => exact quiet_pure ()
  | some first => exact (quiet_connectStatement id slot first).discard

/-- The text of a block is noted, if it is known. -/
lemma traced_recordSpan (id : BlockId) (info : Info) :
    Traced (fun _ ds => ds = info.span.toList.map (Deed.noted id)) (recordSpan id info) := by
  unfold recordSpan
  cases info.span with
  | none => exact traced_pure rfl
  | some span =>
    exact fun ws => ⟨_, rfl, by simp [Workspace.ids], fun _ _ h => h, by simp,
      fun e he _ => .inl he, rfl, by simp⟩

end BlockText.Edit

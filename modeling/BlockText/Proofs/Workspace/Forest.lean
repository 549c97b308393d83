import BlockText.Proofs.Block.Slots
import BlockText.Proofs.Workspace.Links

/-!
# Workspaces as forests

In a workspace that was made by edits, every connection joins two ports that exist and fit, no port
has two connections, and no block is under itself.  `Workspace.Forest` collects these facts.  They
make the two ways to follow a connection inverse to each other: a slot holds a block iff the block
is held by that slot.
-/

/-!
## Walks that end

A walk along a step function visits the blocks that repeated steps lead to.  If no step leads out of
a finite set of blocks and no block comes back to itself, a walk of as many steps as there are
blocks is complete: it ends at a block from which no step leads on.
-/

namespace BlockText

/-- The block that a number of steps leads to. -/
def stepped (step : BlockId → Option BlockId) : ℕ → BlockId → Option BlockId
  | 0, id => some id
  | k + 1, id => (step id).bind (stepped step k)

variable {step : BlockId → Option BlockId}

@[simp] lemma stepped_zero (id : BlockId) : stepped step 0 id = some id := rfl

lemma stepped_succ (k : ℕ) (id : BlockId) :
    stepped step (k + 1) id = (step id).bind (stepped step k) := rfl

/-- Steps can be counted in two parts. -/
lemma stepped_add (i j : ℕ) (id : BlockId) :
    stepped step (i + j) id = (stepped step i id).bind (stepped step j) := by
  induction i generalizing id with
  | zero => simp
  | succ i ih =>
    rw [Nat.succ_add, stepped_succ, stepped_succ, Option.bind_assoc]
    exact Option.bind_congr fun other _ => ih other

/-- The last of several steps. -/
lemma stepped_succ_last (k : ℕ) (id : BlockId) :
    stepped step (k + 1) id = (stepped step k id).bind step := by
  have h1 : stepped step 1 = step := by
    funext other
    cases h : step other <;> simp [stepped, h]
  rw [stepped_add, h1]

/-- The members of a walk are the blocks that fewer steps than its length lead to. -/
lemma getElem?_walk (fuel k : ℕ) (id : BlockId) :
    (Workspace.walk step fuel id)[k]? = if k < fuel then stepped step k id else none := by
  induction fuel generalizing k id with
  | zero => simp [Workspace.walk]
  | succ fuel ih =>
    cases k with
    | zero => simp [Workspace.walk]
    | succ k =>
      rw [Workspace.walk, List.getElem?_cons_succ, stepped_succ]
      cases h : step id with
      | none => simp
      | some other => simpa using ih k other

/-- The blocks that some number of steps leads to are those that the steps relate. -/
lemma reflTransGen_iff_stepped {a b : BlockId} :
    Relation.ReflTransGen (fun x y => step x = some y) a b ↔ ∃ k, stepped step k a = some b := by
  constructor
  · intro h
    induction h with
    | refl => exact ⟨0, rfl⟩
    | tail _ hlast ih =>
      obtain ⟨k, hk⟩ := ih
      exact ⟨k + 1, by rw [stepped_succ_last, hk]; exact hlast⟩
  · rintro ⟨k, hk⟩
    induction k generalizing a with
    | zero => exact Option.some.inj hk ▸ Relation.ReflTransGen.refl
    | succ k ih =>
      obtain ⟨c, hac, hcb⟩ := Option.bind_eq_some_iff.mp hk
      exact Relation.ReflTransGen.head hac (ih hcb)

/-- At least one step relates a block to where it leads. -/
lemma transGen_of_stepped {a b : BlockId} {k : ℕ} (h : stepped step (k + 1) a = some b) :
    Relation.TransGen (fun x y => step x = some y) a b := by
  obtain ⟨c, hac, hcb⟩ := Option.bind_eq_some_iff.mp h
  exact Relation.TransGen.head' hac (reflTransGen_iff_stepped.mpr ⟨k, hcb⟩)

section Complete

variable {ids : List BlockId}
  (hclosed : ∀ a b, step a = some b → b ∈ ids)
  (hacyclic : ∀ a, ¬ Relation.TransGen (fun x y => step x = some y) a a)

include hclosed in
/-- Steps never lead out of the set. -/
private lemma mem_of_stepped {a b : BlockId} (ha : a ∈ ids) {k : ℕ}
    (h : stepped step k a = some b) : b ∈ ids := by
  cases k with
  | zero => exact Option.some.inj h ▸ ha
  | succ k =>
    rw [stepped_succ_last] at h
    obtain ⟨c, -, hcb⟩ := Option.bind_eq_some_iff.mp h
    exact hclosed c b hcb

include hacyclic in
/-- Different numbers of steps lead to different blocks. -/
private lemma stepped_injective {a b : BlockId} {i j : ℕ} (hi : stepped step i a = some b)
    (hj : stepped step j a = some b) : i = j := by
  wlog hij : i ≤ j generalizing i j
  · exact (this hj hi (by omega)).symm
  obtain ⟨d, rfl⟩ := Nat.exists_eq_add_of_le hij
  cases d with
  | zero => rfl
  | succ d =>
    rw [stepped_add, hi] at hj
    exact absurd (transGen_of_stepped hj) (hacyclic b)

include hclosed hacyclic in
/-- Fewer steps than there are blocks lead to one from which no step leads on. -/
lemma exists_last_step {a : BlockId} (ha : a ∈ ids) :
    ∃ k < ids.length, ∃ b, stepped step k a = some b ∧ step b = none := by
  by_contra hnone
  push Not at hnone
  have hsome : ∀ k ≤ ids.length, ∃ b, stepped step k a = some b := by
    intro k
    induction k with
    | zero => exact fun _ => ⟨a, rfl⟩
    | succ k ih =>
      intro hk
      obtain ⟨b, hb⟩ := ih (by omega)
      obtain ⟨c, hc⟩ := Option.ne_none_iff_exists'.mp (hnone k (by omega) b hb)
      exact ⟨c, by rw [stepped_succ_last, hb]; exact hc⟩
  choose! visit hvisit using hsome
  have hmem : ∀ k ∈ List.range (ids.length + 1), visit k ∈ ids := fun k hk =>
    mem_of_stepped hclosed ha (hvisit k (by simpa [Nat.lt_succ_iff] using hk))
  have hnodup : ((List.range (ids.length + 1)).map visit).Nodup := by
    refine List.Nodup.map_on (fun i hi j hj hij => ?_) List.nodup_range
    have hi' := hvisit i (by simpa [Nat.lt_succ_iff] using hi)
    have hj' := hvisit j (by simpa [Nat.lt_succ_iff] using hj)
    exact stepped_injective hacyclic hi' (hij ▸ hj')
  have hsub : (List.range (ids.length + 1)).map visit ⊆ ids := by
    intro b hb
    obtain ⟨k, hk, rfl⟩ := List.mem_map.mp hb
    exact hmem k hk
  have hle := (hnodup.subperm hsub).length_le
  simp at hle

include hclosed hacyclic in
/-- A walk of as many steps as there are blocks visits everything that steps lead to. -/
lemma mem_walk_iff {a b : BlockId} (ha : a ∈ ids) :
    b ∈ Workspace.walk step ids.length a ↔
      Relation.ReflTransGen (fun x y => step x = some y) a b := by
  rw [reflTransGen_iff_stepped, List.mem_iff_getElem?]
  simp only [getElem?_walk]
  constructor
  · rintro ⟨k, hk⟩
    split at hk
    · exact ⟨k, hk⟩
    · simp at hk
  · rintro ⟨k, hk⟩
    obtain ⟨last, hlast, c, hc, hstop⟩ := exists_last_step hclosed hacyclic ha
    have hle : k ≤ last := by
      by_contra hlt
      obtain ⟨d, rfl⟩ := Nat.exists_eq_add_of_lt (not_le.mp hlt)
      rw [Nat.add_assoc, stepped_add, hc] at hk
      simp [stepped_succ, hstop] at hk
    exact ⟨k, by rw [if_pos (by omega)]; exact hk⟩

include hclosed hacyclic in
/-- A walk of as many steps as there are blocks ends where no step leads on. -/
lemma step_getLastD_walk {a : BlockId} (ha : a ∈ ids) :
    step ((Workspace.walk step ids.length a).getLastD a) = none := by
  obtain ⟨last, hlast, c, hc, hstop⟩ := exists_last_step hclosed hacyclic ha
  have hlen : (Workspace.walk step ids.length a).length = last + 1 := by
    refine le_antisymm ?_ ?_
    · rw [← List.getElem?_eq_none_iff, getElem?_walk, stepped_succ_last, hc]
      simp [hstop]
    · have hvisited : (Workspace.walk step ids.length a)[last]? = some c := by
        rw [getElem?_walk, if_pos hlast, hc]
      exact (List.getElem?_eq_some_iff.mp hvisited).1
  have hget : (Workspace.walk step ids.length a).getLast? = some c := by
    rw [List.getLast?_eq_getElem?, hlen, getElem?_walk, Nat.add_sub_cancel, if_pos hlast, hc]
  rw [List.getLastD_eq_getLast?, hget]
  exact hstop

end Complete

end BlockText

namespace BlockText

/-! ## The ends of a connection -/

namespace Edge

/-- The block that a connection puts under another one. -/
def child (e : Edge) : BlockId :=
  match e.kind with
  | .value => e.source
  | .statement => e.target

/-- The block that holds the other one. -/
def holder (e : Edge) : BlockId :=
  match e.kind with
  | .value => e.target
  | .statement => e.source

/-- The port of the holder. -/
def slot (e : Edge) : String :=
  match e.kind with
  | .value => e.targetPort
  | .statement => e.sourcePort

variable (child parent : BlockId) (slot : String)

@[simp] lemma ofValue_start : (ofValue child parent slot).start = ⟨child, "output"⟩ := rfl

@[simp] lemma ofValue_stop : (ofValue child parent slot).stop = ⟨parent, slot⟩ := rfl

@[simp] lemma ofStatement_start : (ofStatement parent slot child).start = ⟨parent, slot⟩ := rfl

@[simp] lemma ofStatement_stop : (ofStatement parent slot child).stop = ⟨child, "previous"⟩ := rfl

end Edge

namespace Workspace

/-- A connection joins ports that exist: the output of an expression and a value slot, or a
statement slot and the top of a statement. -/
def Fits (ws : Workspace) (e : Edge) : Prop :=
  ∃ source target, ws.block? e.source = some source ∧ ws.block? e.target = some target ∧
    match e.kind with
    | .value =>
      e.sourcePort = "output" ∧ source.isExpression ∧ target.hasValueSlot e.targetPort
    | .statement =>
      source.hasStatementSlot e.sourcePort ∧ e.targetPort = "previous" ∧ target.isStatement

/-- Some connection puts `a` under `b`. -/
def Under (edges : List Edge) (a b : BlockId) : Prop :=
  ∃ e ∈ edges, e.child = a ∧ e.holder = b

/-- What every edit of a workspace keeps. -/
structure Forest (ws : Workspace) : Prop where
  /-- No two blocks have one name. -/
  ids_nodup : ws.ids.Nodup
  sound : ∀ id b, ws.block? id = some b → b.Sound
  fits : ∀ e ∈ ws.edges, ws.Fits e
  /-- At most one connection arrives at a port. -/
  arrives_once : ∀ p, (ws.edges.filter (·.stop = p)).length ≤ 1
  /-- At most one connection leaves from a port. -/
  leaves_once : ∀ p, (ws.edges.filter (·.start = p)).length ≤ 1
  /-- No block is under itself. -/
  acyclic : ∀ id, ¬ Relation.TransGen (Under ws.edges) id id
  positions_nodup : (ws.positions.map (·.1)).Nodup
  /-- Exactly the blocks have a position. -/
  positions_iff : ∀ id, id ∈ ws.positions.map (·.1) ↔ ws.has id
  selected_has : ∀ id, ws.selected = some id → ws.has id

/-! ## Connections at one port -/

/-- A list with at most one member that a test selects holds no two different ones. -/
private lemma eq_of_filter_length_le {es : List Edge} {p : Edge → Bool}
    (h : (es.filter p).length ≤ 1) {e f : Edge} (he : e ∈ es) (hf : f ∈ es) (hpe : p e)
    (hpf : p f) : e = f := by
  have hme : e ∈ es.filter p := List.mem_filter.mpr ⟨he, hpe⟩
  have hmf : f ∈ es.filter p := List.mem_filter.mpr ⟨hf, hpf⟩
  match hl : es.filter p, h with
  | [], _ => simp [hl] at hme
  | [g], _ =>
    rw [hl, List.mem_singleton] at hme hmf
    rw [hme, hmf]

/-- What the first member that a test selects is, if at most one is selected. -/
private lemma head?_filter_eq_some_iff {es : List Edge} {p : Edge → Bool}
    (h : (es.filter p).length ≤ 1) {e : Edge} :
    (es.filter p).head? = some e ↔ e ∈ es ∧ p e := by
  constructor
  · intro hhead
    exact List.mem_filter.mp (List.mem_of_mem_head? hhead)
  · intro ⟨he, hpe⟩
    cases hl : es.filter p with
    | nil =>
      have : e ∈ es.filter p := List.mem_filter.mpr ⟨he, hpe⟩
      simp [hl] at this
    | cons f rest =>
      have hf : f ∈ es.filter p := by simp [hl]
      obtain ⟨hfe, hpf⟩ := List.mem_filter.mp hf
      rw [List.head?_cons, eq_of_filter_length_le h hfe he hpf hpe]

/-! ## Lists of blocks -/

/-- The top blocks are the blocks without a parent. -/
lemma mem_tops_iff {ws : Workspace} {id : BlockId} :
    id ∈ ws.tops ↔ ws.has id ∧ ws.parent? id = none := by
  rw [tops, List.mem_filter, has_iff_mem_ids, Option.isNone_iff_eq_none]

namespace Forest

variable {ws : Workspace}

/-- The blocks of a forest are those it finds under their ids. -/
lemma mem_blocks_iff (hw : ws.Forest) {entry : BlockId × Block} :
    entry ∈ ws.blocks ↔ ws.block? entry.1 = some entry.2 :=
  ⟨fun h => entryAt?_of_mem hw.ids_nodup h, fun h => mem_of_entryAt? h⟩

/-- The blocks of a type are those found with this type. -/
lemma mem_ofType_iff (hw : ws.Forest) {t : BlockType} {id : BlockId} :
    id ∈ ws.ofType t ↔ ∃ b, ws.block? id = some b ∧ b.type = t := by
  simp only [ofType, List.mem_map, List.mem_filter, hw.mem_blocks_iff, beq_iff_eq]
  exact ⟨fun ⟨entry, h, hid⟩ => ⟨entry.2, hid ▸ h⟩, fun ⟨b, h⟩ => ⟨(id, b), h, rfl⟩⟩

/-- Two connections that arrive at one port are the same. -/
lemma eq_of_stop (hw : ws.Forest) {e f : Edge} (he : e ∈ ws.edges) (hf : f ∈ ws.edges)
    (h : e.stop = f.stop) : e = f :=
  eq_of_filter_length_le (hw.arrives_once f.stop) he hf (by simp [h]) (by simp)

/-- Two connections that leave from one port are the same. -/
lemma eq_of_start (hw : ws.Forest) {e f : Edge} (he : e ∈ ws.edges) (hf : f ∈ ws.edges)
    (h : e.start = f.start) : e = f :=
  eq_of_filter_length_le (hw.leaves_once f.start) he hf (by simp [h]) (by simp)

/-- The first connection that arrives at a port is the only one. -/
lemma head?_incoming_iff (hw : ws.Forest) {id : BlockId} {port : String} {e : Edge} :
    (ws.incoming id port).head? = some e ↔ e ∈ ws.edges ∧ e.stop = ⟨id, port⟩ := by
  rw [incoming_eq, head?_filter_eq_some_iff (hw.arrives_once _), decide_eq_true_iff]

/-- The first connection that leaves from a port is the only one. -/
lemma head?_outgoing_iff (hw : ws.Forest) {id : BlockId} {port : String} {e : Edge} :
    (ws.outgoing id port).head? = some e ↔ e ∈ ws.edges ∧ e.start = ⟨id, port⟩ := by
  rw [outgoing_eq, head?_filter_eq_some_iff (hw.leaves_once _), decide_eq_true_iff]

/-- The two ends of a connection exist. -/
lemma has_ends (hw : ws.Forest) {e : Edge} (he : e ∈ ws.edges) :
    ws.has e.source ∧ ws.has e.target := by
  obtain ⟨s, t, hs, ht, -⟩ := hw.fits e he
  exact ⟨has_of_block? hs, has_of_block? ht⟩

/-- The child of an edge is a block. -/
lemma has_child (hw : ws.Forest) {e : Edge} (he : e ∈ ws.edges) : ws.has e.child := by
  unfold Edge.child
  split
  · exact (hw.has_ends he).1
  · exact (hw.has_ends he).2

/-- The holder of an edge is a block. -/
lemma has_holder (hw : ws.Forest) {e : Edge} (he : e ∈ ws.edges) : ws.has e.holder := by
  unfold Edge.holder
  split
  · exact (hw.has_ends he).2
  · exact (hw.has_ends he).1

/-! ## Following connections up and down -/

/-- A value runs from the output of an expression to a slot. -/
lemma value_cases (hw : ws.Forest) {e : Edge} (he : e ∈ ws.edges) (hk : e.kind = .value) :
    e.sourcePort = "output" ∧ isOwnPort e.targetPort = false ∧
      ∃ s t, ws.block? e.source = some s ∧ ws.block? e.target = some t ∧ s.isExpression ∧
        t.hasValueSlot e.targetPort := by
  obtain ⟨s, t, hs, ht, hports⟩ := hw.fits e he
  rw [hk] at hports
  obtain ⟨hout, hexpr, hslot⟩ := hports
  have hmem : e.targetPort ∈ t.values := by simpa [Block.hasValueSlot] using hslot
  exact ⟨hout, (hw.sound _ _ ht).own_values _ hmem, s, t, hs, ht, hexpr, hslot⟩

/-- Statements run from a slot or from the end of a statement to the top of one. -/
lemma statement_cases (hw : ws.Forest) {e : Edge} (he : e ∈ ws.edges) (hk : e.kind = .statement) :
    e.targetPort = "previous" ∧ (isOwnPort e.sourcePort = false ∨ e.sourcePort = "next") ∧
      ∃ s t, ws.block? e.source = some s ∧ ws.block? e.target = some t ∧
        s.hasStatementSlot e.sourcePort ∧ t.isStatement := by
  obtain ⟨s, t, hs, ht, hports⟩ := hw.fits e he
  rw [hk] at hports
  obtain ⟨hslot, hprev, hstmt⟩ := hports
  have hcases : e.sourcePort ∈ s.statements ∨ e.sourcePort = "next" := by
    simp only [Block.hasStatementSlot, Bool.or_eq_true, Bool.and_eq_true, beq_iff_eq,
      List.contains_iff_mem] at hslot
    exact hslot.imp id And.right
  exact ⟨hprev, hcases.imp ((hw.sound _ _ hs).own_statements _) id, s, t, hs, ht, hslot, hstmt⟩

/-- Only statements arrive at the top of a block. -/
lemma kind_of_stop_previous (hw : ws.Forest) {e : Edge} (he : e ∈ ws.edges)
    (h : e.targetPort = "previous") : e.kind = .statement := by
  cases hk : e.kind with
  | statement => rfl
  | value =>
    obtain ⟨-, hown, -⟩ := hw.value_cases he hk
    simp [h, isOwnPort] at hown

/-- Only values leave from the output of a block. -/
lemma kind_of_start_output (hw : ws.Forest) {e : Edge} (he : e ∈ ws.edges)
    (h : e.sourcePort = "output") : e.kind = .value := by
  cases hk : e.kind with
  | value => rfl
  | statement =>
    obtain ⟨-, hown, -⟩ := hw.statement_cases he hk
    simp [h, isOwnPort] at hown

/-- A block that is plugged in has no statement before it. -/
lemma incoming_eq_nil_of_value (hw : ws.Forest) {e : Edge} (he : e ∈ ws.edges)
    (hk : e.kind = .value) : (ws.incoming e.source "previous").head? = none := by
  rw [Option.eq_none_iff_forall_ne_some]
  intro f hf
  obtain ⟨hfm, hstop⟩ := hw.head?_incoming_iff.mp hf
  obtain ⟨htarget, hport⟩ := Port.mk.inj hstop
  obtain ⟨-, -, s, -, hs, -, hexpr, -⟩ := hw.value_cases he hk
  obtain ⟨-, -, -, t, -, ht, -, hstmt⟩ :=
    hw.statement_cases hfm (hw.kind_of_stop_previous hfm hport)
  rw [htarget, hs, Option.some.injEq] at ht
  subst ht
  simp only [Block.isExpression, Block.isStatement, beq_iff_eq] at hexpr hstmt
  simp [hexpr] at hstmt

/-- A block is held by another iff a connection puts it under that one. -/
lemma parent?_eq_some_iff (hw : ws.Forest) {a b : BlockId} :
    ws.parent? a = some b ↔ Under ws.edges a b := by
  constructor
  · intro h
    unfold parent? at h
    cases hin : (ws.incoming a "previous").head? with
    | some e =>
      simp only [hin, Option.some.injEq] at h
      obtain ⟨he, hstop⟩ := hw.head?_incoming_iff.mp hin
      obtain ⟨htarget, hport⟩ := Port.mk.inj hstop
      have hk := hw.kind_of_stop_previous he hport
      exact ⟨e, he, by simp [Edge.child, hk, htarget], by simp [Edge.holder, hk, h]⟩
    | none =>
      simp only [hin, Option.map_eq_some_iff] at h
      obtain ⟨e, hout, hb⟩ := h
      obtain ⟨he, hstart⟩ := hw.head?_outgoing_iff.mp hout
      obtain ⟨hsource, hport⟩ := Port.mk.inj hstart
      have hk := hw.kind_of_start_output he hport
      exact ⟨e, he, by simp [Edge.child, hk, hsource], by simp [Edge.holder, hk, hb]⟩
  · rintro ⟨e, he, rfl, rfl⟩
    unfold parent?
    cases hk : e.kind with
    | statement =>
      obtain ⟨hprev, -⟩ := hw.statement_cases he hk
      have hin : (ws.incoming e.target "previous").head? = some e :=
        hw.head?_incoming_iff.mpr ⟨he, by simp [Edge.stop, hprev]⟩
      simp [Edge.child, Edge.holder, hk, hin]
    | value =>
      obtain ⟨hout, -⟩ := hw.value_cases he hk
      have hleave : (ws.outgoing e.source "output").head? = some e :=
        hw.head?_outgoing_iff.mpr ⟨he, by simp [Edge.start, hout]⟩
      simp [Edge.child, Edge.holder, hk, hw.incoming_eq_nil_of_value he hk, hleave]

/-- A block is held once. -/
lemma eq_of_child (hw : ws.Forest) {e f : Edge} (he : e ∈ ws.edges) (hf : f ∈ ws.edges)
    (h : e.child = f.child) : e = f := by
  -- A value is held by its output and a statement by its top, and no block has both.
  have hmixed : ∀ {e f : Edge}, e ∈ ws.edges → f ∈ ws.edges → e.kind = .value →
      f.kind = .statement → e.child ≠ f.child := by
    intro e f he hf hke hkf h
    simp only [Edge.child, hke, hkf] at h
    have hnone := hw.incoming_eq_nil_of_value he hke
    have hsome : (ws.incoming f.target "previous").head? = some f :=
      hw.head?_incoming_iff.mpr ⟨hf, by simp [Edge.stop, (hw.statement_cases hf hkf).1]⟩
    rw [h, hsome] at hnone
    cases hnone
  cases hke : e.kind with
  | value =>
    cases hkf : f.kind with
    | value =>
      simp only [Edge.child, hke, hkf] at h
      exact hw.eq_of_start he hf
        (by simp [Edge.start, h, (hw.value_cases he hke).1, (hw.value_cases hf hkf).1])
    | statement => exact absurd h (hmixed he hf hke hkf)
  | statement =>
    cases hkf : f.kind with
    | value => exact absurd h.symm (hmixed hf he hkf hke)
    | statement =>
      simp only [Edge.child, hke, hkf] at h
      exact hw.eq_of_stop he hf
        (by simp [Edge.stop, h, (hw.statement_cases he hke).1, (hw.statement_cases hf hkf).1])

/-- A block is under one block at most. -/
lemma under_unique (hw : ws.Forest) {a b c : BlockId} (hb : Under ws.edges a b)
    (hc : Under ws.edges a c) : b = c := by
  obtain ⟨e, he, hea, rfl⟩ := hb
  obtain ⟨f, hf, hfa, rfl⟩ := hc
  rw [hw.eq_of_child he hf (hea.trans hfa.symm)]

/-- What follows a statement is a statement that a connection from its end leads to. -/
lemma statement_of_next? (hw : ws.Forest) {a b : BlockId} (h : ws.next? a = some b) :
    ∃ e ∈ ws.edges, e.kind = .statement ∧ e.start = ⟨a, "next"⟩ ∧ e.target = b := by
  obtain ⟨e, hout, hb⟩ := Option.map_eq_some_iff.mp h
  obtain ⟨he, hstart⟩ := hw.head?_outgoing_iff.mp hout
  refine ⟨e, he, ?_, hstart, hb⟩
  cases hk : e.kind with
  | statement => rfl
  | value =>
    have hport := (Port.mk.inj hstart).2
    rw [(hw.value_cases he hk).1] at hport
    exact absurd hport (by decide)

/-- A statement follows another iff a connection from its end says so. -/
lemma next?_eq_some_iff (hw : ws.Forest) {a b : BlockId} :
    ws.next? a = some b ↔ ∃ e ∈ ws.edges, e.child = b ∧ e.holder = a ∧ e.slot = "next" := by
  constructor
  · intro h
    obtain ⟨e, he, hk, hstart, hb⟩ := hw.statement_of_next? h
    obtain ⟨hsource, hport⟩ := Port.mk.inj hstart
    exact ⟨e, he, by simp [Edge.child, hk, hb], by simp [Edge.holder, hk, hsource],
      by simp [Edge.slot, hk, hport]⟩
  · rintro ⟨e, he, rfl, rfl, hslot⟩
    have hk : e.kind = .statement := by
      cases hk : e.kind with
      | statement => rfl
      | value =>
        have hown := (hw.value_cases he hk).2.1
        simp only [Edge.slot, hk] at hslot
        simp [hslot, isOwnPort] at hown
    simp only [Edge.slot, hk] at hslot
    have hout : (ws.outgoing e.source "next").head? = some e :=
      hw.head?_outgoing_iff.mpr ⟨he, by simp [Edge.start, hslot]⟩
    simp [next?, Edge.child, Edge.holder, hk, hout]

/-- A value and statements never share a slot. -/
lemma no_value_at_statement_slot (hw : ws.Forest) {e f : Edge} (he : e ∈ ws.edges)
    (hf : f ∈ ws.edges) (hk : e.kind = .statement) (hstop : f.stop = e.start)
    (hown : isOwnPort e.sourcePort = false) : False := by
  obtain ⟨htarget, hport⟩ := Port.mk.inj hstop
  cases hkf : f.kind with
  | statement =>
    rw [(hw.statement_cases hf hkf).1] at hport
    simp [← hport, isOwnPort] at hown
  | value =>
    obtain ⟨-, -, -, t, -, ht, -, hvalue⟩ := hw.value_cases hf hkf
    obtain ⟨-, -, s, -, hs, -, hslot, -⟩ := hw.statement_cases he hk
    rw [htarget, hs, Option.some.injEq] at ht
    subst ht
    rw [hport] at hvalue
    have hmem : e.sourcePort ∈ s.values := by simpa [Block.hasValueSlot] using hvalue
    have hnot := (hw.sound _ _ hs).apart _ hmem
    simp only [Block.hasStatementSlot, Bool.or_eq_true, Bool.and_eq_true, beq_iff_eq,
      List.contains_iff_mem] at hslot
    rcases hslot with h | ⟨-, h⟩
    · exact hnot h
    · simp [h, isOwnPort] at hown

/-- What a place for statements holds is a statement that a connection puts there. -/
lemma statement_of_held? (hw : ws.Forest) {a c : BlockId} {b : Block} {s : String}
    (hb : ws.block? a = some b) (hs : b.hasStatementSlot s) (h : ws.held? a s = some c) :
    ∃ e ∈ ws.edges, e.kind = .statement ∧ e.start = ⟨a, s⟩ ∧ e.target = c := by
  have hcases : s ∈ b.statements ∨ s = "next" := by
    simp only [Block.hasStatementSlot, Bool.or_eq_true, Bool.and_eq_true, beq_iff_eq,
      List.contains_iff_mem] at hs
    exact hs.imp id And.right
  have hport : s ≠ "previous" ∧ s ≠ "output" := by
    rcases hcases with hmem | rfl
    · have hown := (hw.sound _ _ hb).own_statements s hmem
      constructor <;> rintro rfl <;> simp [isOwnPort] at hown
    · decide
  unfold held? at h
  cases hin : (ws.incoming a s).head? with
  | some f =>
    obtain ⟨hf, hstop⟩ := hw.head?_incoming_iff.mp hin
    obtain ⟨htarget, hfport⟩ := Port.mk.inj hstop
    cases hk : f.kind with
    | statement => exact absurd (hfport.symm.trans (hw.statement_cases hf hk).1) hport.1
    | value =>
      obtain ⟨-, hown, -, t, -, ht, -, hvalue⟩ := hw.value_cases hf hk
      rw [htarget, hb, Option.some.injEq] at ht
      subst ht
      rw [hfport] at hvalue hown
      rcases hcases with hmem | rfl
      · exact absurd hmem ((hw.sound _ _ hb).apart s (by simpa [Block.hasValueSlot] using hvalue))
      · simp [isOwnPort] at hown
  | none =>
    simp only [hin, Option.map_eq_some_iff] at h
    obtain ⟨e, hout, hc⟩ := h
    obtain ⟨he, hstart⟩ := hw.head?_outgoing_iff.mp hout
    refine ⟨e, he, ?_, hstart, hc⟩
    cases hk : e.kind with
    | statement => rfl
    | value =>
      have hsource := (Port.mk.inj hstart).2
      exact absurd (hsource.symm.trans (hw.value_cases he hk).1) hport.2

/-- A slot holds a block iff a connection puts the block into that slot. -/
lemma held?_eq_some_iff (hw : ws.Forest) {a b : BlockId} {s : String} (hs : isOwnPort s = false) :
    ws.held? a s = some b ↔ ∃ e ∈ ws.edges, e.child = b ∧ e.holder = a ∧ e.slot = s := by
  constructor
  · intro h
    unfold held? at h
    cases hin : (ws.incoming a s).head? with
    | some e =>
      simp only [hin, Option.some.injEq] at h
      obtain ⟨he, hstop⟩ := hw.head?_incoming_iff.mp hin
      obtain ⟨htarget, hport⟩ := Port.mk.inj hstop
      have hk : e.kind = .value := by
        cases hk : e.kind with
        | value => rfl
        | statement =>
          rw [(hw.statement_cases he hk).1] at hport
          simp [← hport, isOwnPort] at hs
      exact ⟨e, he, by simp [Edge.child, hk, h], by simp [Edge.holder, hk, htarget],
        by simp [Edge.slot, hk, hport]⟩
    | none =>
      simp only [hin, Option.map_eq_some_iff] at h
      obtain ⟨e, hout, hb⟩ := h
      obtain ⟨he, hstart⟩ := hw.head?_outgoing_iff.mp hout
      obtain ⟨hsource, hport⟩ := Port.mk.inj hstart
      have hk : e.kind = .statement := by
        cases hk : e.kind with
        | statement => rfl
        | value =>
          rw [(hw.value_cases he hk).1] at hport
          simp [← hport, isOwnPort] at hs
      exact ⟨e, he, by simp [Edge.child, hk, hb], by simp [Edge.holder, hk, hsource],
        by simp [Edge.slot, hk, hport]⟩
  · rintro ⟨e, he, rfl, rfl, rfl⟩
    unfold held?
    cases hk : e.kind with
    | value =>
      have hin : (ws.incoming e.target e.targetPort).head? = some e :=
        hw.head?_incoming_iff.mpr ⟨he, rfl⟩
      simp [Edge.child, Edge.holder, Edge.slot, hk, hin]
    | statement =>
      have hout : (ws.outgoing e.source e.sourcePort).head? = some e :=
        hw.head?_outgoing_iff.mpr ⟨he, rfl⟩
      have hin : (ws.incoming e.source e.sourcePort).head? = none := by
        rw [Option.eq_none_iff_forall_ne_some]
        intro f hf
        obtain ⟨hfm, hstop⟩ := hw.head?_incoming_iff.mp hf
        exact hw.no_value_at_statement_slot he hfm hk hstop (by simpa [Edge.slot, hk] using hs)
      simp [Edge.child, Edge.holder, Edge.slot, hk, hin, hout]

end Forest

end Workspace

end BlockText

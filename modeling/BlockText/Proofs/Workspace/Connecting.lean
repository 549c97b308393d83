import BlockText.Proofs.Workspace.Grafts

/-!
# Connecting and detaching blocks

Every edit that makes or drops connections keeps the forest, whether it is carried out or refused.
The check of what is above a block sees everything above it, because in a forest a walk upward is
complete; so it refuses every connection that would close a cycle.  A chain that makes room for
another is put after the last statement of that one, where nothing followed.
-/

namespace BlockText

namespace Workspace

/-- The workspace with a statement taken out of what holds it. -/
def loosened (ws : Workspace) (child : BlockId) : Workspace :=
  ws.drop (ws.incoming child "previous")

/-- The workspace with a statement moved to a place from which everything else was taken away. -/
def placed (ws : Workspace) (parent : BlockId) (slot : String) (child : BlockId) : Workspace :=
  ((ws.loosened child).drop ((ws.loosened child).outgoing parent slot)).connect
    (.ofStatement parent slot child)

namespace Forest

variable {ws : Workspace}

/-! ## Walks in a forest -/

lemma length_ids (ws : Workspace) : ws.ids.length = ws.blocks.length := List.length_map _

/-- Steps upward are those that connections describe. -/
lemma parent?_eq_under (hw : ws.Forest) :
    (fun a b => ws.parent? a = some b) = Under ws.edges := by
  funext a b
  exact propext hw.parent?_eq_some_iff

/-- A step upward leads to a block. -/
private lemma mem_ids_of_parent? (hw : ws.Forest) (a b : BlockId) (h : ws.parent? a = some b) :
    b ∈ ws.ids := by
  obtain ⟨e, he, -, rfl⟩ := hw.parent?_eq_some_iff.mp h
  exact has_iff_mem_ids.mp (hw.has_holder he)

/-- The walk upward from a block visits everything above it. -/
lemma mem_upward_iff (hw : ws.Forest) {a b : BlockId} (ha : ws.has a) :
    b ∈ ws.upward a ↔ Relation.ReflTransGen (Under ws.edges) a b := by
  rw [upward, if_pos ha, ← length_ids, mem_walk_iff hw.mem_ids_of_parent? ?_
    (has_iff_mem_ids.mp ha), hw.parent?_eq_under]
  rw [hw.parent?_eq_under]
  exact hw.acyclic

/-- Fewer steps upward than there are blocks lead to a block that nothing holds. -/
lemma exists_top (hw : ws.Forest) {a : BlockId} (ha : ws.has a) :
    ∃ k < ws.blocks.length, ∃ top, stepped ws.parent? k a = some top ∧ ws.parent? top = none := by
  rw [← length_ids]
  refine exists_last_step hw.mem_ids_of_parent? ?_ (has_iff_mem_ids.mp ha)
  rw [hw.parent?_eq_under]
  exact hw.acyclic

/-- What follows a statement is under it. -/
lemma under_of_next? (hw : ws.Forest) {a b : BlockId} (h : ws.next? a = some b) :
    Under ws.edges b a := by
  obtain ⟨e, he, hchild, hholder, -⟩ := hw.next?_eq_some_iff.mp h
  exact ⟨e, he, hchild, hholder⟩

/-- What follows a statement is a block. -/
lemma mem_ids_of_next? (hw : ws.Forest) (a b : BlockId) (h : ws.next? a = some b) :
    b ∈ ws.ids := by
  obtain ⟨e, he, rfl, -⟩ := hw.under_of_next? h
  exact has_iff_mem_ids.mp (hw.has_child he)

/-- No statement follows itself. -/
lemma acyclic_next? (hw : ws.Forest) (a : BlockId) :
    ¬ Relation.TransGen (fun x y => ws.next? x = some y) a a := by
  intro h
  have hswap := Relation.TransGen.mono (fun x y => hw.under_of_next?) a a h
  exact hw.acyclic a (Relation.transGen_swap.mp hswap)

/-- Following statements leads to blocks that are under the first. -/
lemma under_of_following (hw : ws.Forest) {a b : BlockId}
    (h : Relation.ReflTransGen (fun x y => ws.next? x = some y) a b) :
    Relation.ReflTransGen (Under ws.edges) b a :=
  Relation.reflTransGen_swap.mp (Relation.ReflTransGen.mono (fun _ _ => hw.under_of_next?) a b h)

/-- A chain has the statements that follow its first. -/
lemma mem_chain_iff (hw : ws.Forest) {a b : BlockId} (ha : ws.has a) :
    b ∈ ws.chain a ↔ Relation.ReflTransGen (fun x y => ws.next? x = some y) a b := by
  rw [chain, if_pos ha, ← length_ids, mem_walk_iff hw.mem_ids_of_next? hw.acyclic_next?
    (has_iff_mem_ids.mp ha)]

/-- Nothing follows the last statement of a chain. -/
lemma next?_last (hw : ws.Forest) {a : BlockId} (ha : ws.has a) : ws.next? (ws.last a) = none := by
  rw [last, chain, if_pos ha, ← length_ids]
  exact step_getLastD_walk hw.mem_ids_of_next? hw.acyclic_next? (has_iff_mem_ids.mp ha)

/-- The last statement of a chain follows the first. -/
lemma following_last (hw : ws.Forest) {a : BlockId} (ha : ws.has a) :
    Relation.ReflTransGen (fun x y => ws.next? x = some y) a (ws.last a) := by
  have ha' : a ∈ ws.chain a := (hw.mem_chain_iff ha).mpr .refl
  have hmem : ws.last a ∈ ws.chain a := by
    rw [last, List.getLastD_eq_getLast?, List.getLast?_eq_getLast_of_ne_nil (List.ne_nil_of_mem ha')]
    exact List.getLast_mem _
  exact (hw.mem_chain_iff ha).mp hmem

/-- The last statement of a chain of statements is a statement. -/
lemma isStatement_following (hw : ws.Forest) {a b : BlockId} {c : Block} (hc : ws.block? a = some c)
    (hstmt : c.isStatement) (h : Relation.ReflTransGen (fun x y => ws.next? x = some y) a b) :
    ∃ d, ws.block? b = some d ∧ d.isStatement := by
  induction h with
  | refl => exact ⟨c, hc, hstmt⟩
  | tail _ hlast ih =>
    obtain ⟨e, he, hk, -, rfl⟩ := hw.statement_of_next? hlast
    obtain ⟨-, -, -, t, -, ht, -, hstmt'⟩ := hw.statement_cases he hk
    exact ⟨t, ht, hstmt'⟩

/-- Dropping connections keeps the forest. -/
lemma drop (hw : ws.Forest) (es : List Edge) : (ws.drop es).Forest :=
  hw.of_sublist (ws.drop_sublist es)

lemma drop_incoming (hw : ws.Forest) (id : BlockId) (port : String) :
    (ws.drop (ws.incoming id port)).Forest := hw.drop _

lemma drop_outgoing (hw : ws.Forest) (id : BlockId) (port : String) :
    (ws.drop (ws.outgoing id port)).Forest := hw.drop _

/-- A statement that nothing holds goes to a place that was cleared for it. -/
lemma placed (hw : ws.Forest) {parent child : BlockId} {slot : String} {p c : Block}
    (hp : ws.block? parent = some p) (hslot : p.hasStatementSlot slot)
    (hc : ws.block? child = some c) (hstmt : c.isStatement)
    (hfree : ¬ Relation.ReflTransGen (Under ws.edges) parent child) :
    (ws.placed parent slot child).Forest :=
  ((hw.drop_incoming child "previous").drop_outgoing parent slot).connect
    ⟨p, c, hp, hc, hslot, rfl, hstmt⟩
    (fun _ hf => (mem_drop_incoming.mp (mem_drop_outgoing.mp hf).1).2)
    (fun _ hf => (mem_drop_outgoing.mp hf).2)
    (fun hup => hfree (reflTransGen_mono
      (fun _ hf => (mem_drop_incoming.mp (mem_drop_outgoing.mp hf).1).1) hup))

end Forest

end Workspace

namespace Edit

open Workspace

variable {ws : Workspace} {α : Type}

/-- The edit keeps the forest, whether it is carried out or refused. -/
def KeepsForest (x : Edit α) : Prop :=
  ∀ ws : Workspace, ws.Forest → Ends x ws (fun _ => Forest) Forest

/-- Delivering an event keeps the forest. -/
lemma keepsForest_fire (type : EventType) (block : Option BlockId)
    (details : List (String × Datum)) : KeepsForest (fire type block details) :=
  fun _ hw => ends_fire_of Forest.of_sameGraph hw

/-- The check against cycles passes only if the new holder is not under the child. -/
lemma ends_refuseCycle {done : Unit → Workspace → Prop} {refused : Workspace → Prop}
    (hw : ws.Forest) {child parent : BlockId} (hparent : ws.has parent)
    (hdone : ¬ Relation.ReflTransGen (Under ws.edges) parent child → done () ws)
    (hrefused : refused ws) : Ends (refuseCycle child parent) ws done refused := by
  unfold refuseCycle
  rw [ends_bind, ends_get]
  refine ends_refuseIf (fun h => hdone fun hup => ?_) hrefused
  have hmem := (hw.mem_upward_iff hparent).mpr hup
  simp [hmem] at h

/-- Plugging in a value keeps the forest. -/
lemma keepsForest_connectValue (parent : BlockId) (slot : String) (child : BlockId) :
    KeepsForest (connectValue parent slot child) := by
  intro ws hw
  unfold connectValue
  rw [ends_bind]
  refine ends_require (fun p hp => ?_) fun _ => hw
  rw [ends_bind]
  refine ends_require (fun c hc => ?_) fun _ => hw
  rw [ends_bind]
  refine ends_refuseIf (fun hslot => ?_) hw
  rw [ends_bind]
  refine ends_refuseIf (fun hexpr => ?_) hw
  rw [ends_bind]
  refine ends_refuseCycle hw (has_of_block? hp) (fun hfree => ?_) hw
  simp only [dropEdges, addEdge, ends_bind, ends_modify]
  have hw₂ := (hw.drop_outgoing child "output").drop_incoming parent slot
  refine (keepsForest_fire _ _ _ _ (hw₂.connect ?_ ?_ ?_ ?_)).mono (fun _ _ h => h) fun _ h => h
  · exact ⟨c, p, hc, hp, rfl, by simpa using hexpr, by simpa [Edge.ofValue] using hslot⟩
  · exact fun f hf => (mem_drop_incoming.mp hf).2
  · exact fun f hf => (mem_drop_outgoing.mp (mem_drop_incoming.mp hf).1).2
  · refine fun hup => hfree (reflTransGen_mono (fun f hf => ?_) hup)
    exact (mem_drop_outgoing.mp (mem_drop_incoming.mp hf).1).1

/-- A chain that made room goes after the last statement of the chain that took its place. -/
private lemma forest_after_last {ws : Workspace} (hw : ws.Forest) {parent child first : BlockId}
    {c b : Block} (hc : ws.block? child = some c) (hstmt : c.isStatement)
    (hb : ws.block? first = some b) (hfirst : b.isStatement) (hne : first ≠ child)
    (hchild : Under ws.edges child parent) (hloose : ∀ x, ¬ Under ws.edges first x)
    (hparent : ¬ Relation.ReflTransGen (Under ws.edges) parent first) :
    (ws.connect (.ofStatement (ws.last child) "next" first)).Forest := by
  have hhas : ws.has child := has_of_block? hc
  have hfollow := hw.following_last hhas
  obtain ⟨d, hd, hdstmt⟩ := hw.isStatement_following hc hstmt hfollow
  refine hw.connect ⟨d, b, hd, hb, ?_⟩ (fun f hf hstop => ?_) (fun f hf hstart => ?_) fun hup => ?_
  · exact ⟨by simp [Edge.ofStatement, Block.hasStatementSlot, hdstmt], rfl, hfirst⟩
  · obtain ⟨htarget, hport⟩ := Port.mk.inj hstop
    have hk := hw.kind_of_stop_previous hf hport
    exact hloose f.holder ⟨f, hf, by rw [Edge.child, hk]; exact htarget, rfl⟩
  · rw [Edge.ofStatement_start] at hstart
    have hnext : ws.next? (ws.last child) = some f.target := by
      rw [next?, hw.head?_outgoing_iff.mpr ⟨hf, hstart⟩, Option.map_some]
    rw [hw.next?_last hhas] at hnext
    cases hnext
  · -- The ways up from the last statement to the two firsts are parts of one way.
    have hunique : Relator.RightUnique (Under ws.edges) := fun _ _ _ => hw.under_unique
    rcases Relation.ReflTransGen.total_of_right_unique hunique hup
      (hw.under_of_following hfollow) with h | h
    · rcases Relation.ReflTransGen.cases_head h with h | ⟨x, hx, -⟩
      · exact hne h
      · exact hloose x hx
    · rcases Relation.ReflTransGen.cases_head h with h | ⟨x, hx, hrest⟩
      · exact hne h.symm
      · exact hparent (hw.under_unique hx hchild ▸ hrest)

/-- Putting a chain of statements into a place keeps the forest. -/
lemma keepsForest_connectStatement (parent : BlockId) (slot : String) (child : BlockId) :
    KeepsForest (connectStatement parent slot child) := by
  intro ws hw
  unfold connectStatement
  rw [ends_bind]
  refine ends_require (fun p hp => ?_) fun _ => hw
  rw [ends_bind]
  refine ends_require (fun c hc => ?_) fun _ => hw
  rw [ends_bind]
  refine ends_refuseIf (fun hslot => ?_) hw
  rw [ends_bind]
  refine ends_refuseIf (fun hstmt => ?_) hw
  simp only [Bool.not_eq_false'] at hslot hstmt
  rw [ends_bind]
  refine ends_refuseCycle hw (has_of_block? hp) (fun hfree => ?_) hw
  simp only [dropEdges, addEdge, ends_bind, ends_modify, ends_get]
  have hw₁ := hw.drop_incoming child "previous"
  have hw₃ := hw.placed hp hslot hc hstmt hfree
  cases hheld : (ws.drop (ws.incoming child "previous")).held? parent slot with
  | none => exact keepsForest_fire _ _ _ _ hw₃
  | some first =>
    obtain ⟨e, he, hk, hstart, rfl⟩ := hw₁.statement_of_held? hp hslot hheld
    obtain ⟨hprev, -, -, t, -, ht, -, htstmt⟩ := hw₁.statement_cases he hk
    have hchild : e.child = e.target := by rw [Edge.child, hk]
    have hholder : e.holder = parent := by rw [Edge.holder, hk]; exact (Port.mk.inj hstart).1
    have hne : e.target ≠ child := by
      rintro rfl
      exact (mem_drop_incoming.mp he).2 (by simp [Edge.stop, hprev])
    change Ends (putAfter child e.target) _ _ _
    refine keepsForest_fire _ _ _ _ (forest_after_last hw₃ hc hstmt ht htstmt hne
      ⟨_, List.mem_append_right _ (List.mem_singleton_self _), rfl, rfl⟩ ?_ ?_)
    · rintro x ⟨f, hf, hfchild, -⟩
      rcases List.mem_append.mp hf with hf | hf
      · obtain ⟨hf, hfstart⟩ := mem_drop_outgoing.mp hf
        exact hfstart (hw₁.eq_of_child hf he (hfchild.trans hchild.symm) ▸ hstart)
      · rw [List.mem_singleton.mp hf] at hfchild
        exact hne hfchild.symm
    · intro hup
      rcases reflTransGen_add hup with hold | ⟨hold, -⟩
      · have hup₁ := reflTransGen_mono (fun f hf => (mem_drop_outgoing.mp hf).1) hold
        exact hw₁.acyclic e.target (Relation.TransGen.head' ⟨e, he, hchild, hholder⟩ hup₁)
      · exact hfree (reflTransGen_mono
          (fun f hf => (mem_drop_incoming.mp (mem_drop_outgoing.mp hf).1).1) hold)

/-- Taking a block out of what holds it keeps the forest. -/
lemma keepsForest_unplug (id : BlockId) : KeepsForest (unplug id) := by
  intro ws hw
  unfold unplug
  rw [ends_bind]
  refine ends_require (fun _ _ => ?_) fun _ => hw
  simp only [dropEdges, ends_bind, ends_modify]
  exact keepsForest_fire _ _ _ _ ((hw.drop _).drop _)

/-- Dropping the connections at a port keeps the forest. -/
lemma keepsForest_detach (id : BlockId) (port : String) : KeepsForest (detach id port) :=
  fun _ hw => (hw.drop _).drop _

end Edit

end BlockText

import BlockText.Proofs.Workspace.Connecting

/-!
# Deleting blocks

Deleting a block takes it out with what is under it, and can be refused after a part of that is
gone.  Either way nothing else is touched: `Pruned` says that some connections are gone and only
blocks of a given set.  So when a deleted block leaves a gap in a chain, both sides of the gap are
still there, and closing it keeps the forest.
-/

namespace BlockText

namespace Workspace

/-- Some connections are gone, and of the blocks only some that may be cut. -/
structure Pruned (ws ws' : Workspace) (cut : BlockId → Prop) : Prop where
  edges : ws'.edges.Sublist ws.edges
  blocks : ∀ id, ws'.block? id = ws.block? id ∨ cut id

namespace Pruned

variable {ws ws' ws'' : Workspace} {cut cut' : BlockId → Prop}

lemma refl (ws : Workspace) (cut : BlockId → Prop) : Pruned ws ws cut :=
  ⟨List.Sublist.refl _, fun _ => .inl rfl⟩

/-- One cut after another. -/
lemma trans (h : Pruned ws ws' cut) (h' : Pruned ws' ws'' cut') (hcut : ∀ id, cut' id → cut id) :
    Pruned ws ws'' cut := by
  refine ⟨h'.edges.trans h.edges, fun id => ?_⟩
  rcases h'.blocks id with hid | hid
  · rw [hid]
    exact h.blocks id
  · exact .inr (hcut id hid)

lemma of_drop (ws : Workspace) (es : List Edge) (cut : BlockId → Prop) :
    Pruned ws (ws.drop es) cut :=
  ⟨ws.drop_sublist es, fun _ => .inl rfl⟩

lemma of_without (ws : Workspace) {id : BlockId} (hid : cut id) :
    Pruned ws (ws.without id) cut := by
  refine ⟨?_, fun other => ?_⟩
  · rw [edges_without]
    exact List.filter_sublist
  · by_cases h : other = id
    · exact .inr (h ▸ hid)
    · exact .inl (by rw [block?_without, if_neg h])

lemma of_sameGraph (h : Edit.SameGraph ws ws') (cut : BlockId → Prop) : Pruned ws ws' cut := by
  obtain ⟨hblocks, hlinks, -, -⟩ := h
  refine ⟨?_, fun id => .inl (by rw [block?, hblocks, block?])⟩
  rw [Workspace.edges, hlinks]
  exact List.Sublist.refl _

/-- What is above a block after a cut was above it before. -/
lemma under (h : Pruned ws ws' cut) {a b : BlockId}
    (hab : Relation.ReflTransGen (Under ws'.edges) a b) :
    Relation.ReflTransGen (Under ws.edges) a b :=
  reflTransGen_mono h.edges.subset hab

end Pruned

/-- What the slots of a block hold is under the block. -/
lemma Forest.under_of_mem_slotChildren {ws : Workspace} (hw : ws.Forest) {id child : BlockId}
    {b : Block} (hb : b.Sound) (h : child ∈ ws.slotChildren id b) :
    Relation.TransGen (Under ws.edges) child id := by
  have hunder : ∀ {s c}, isOwnPort s = false → ws.held? id s = some c → Under ws.edges c id := by
    intro s c hs hc
    obtain ⟨e, he, hchild, hholder, -⟩ := (hw.held?_eq_some_iff hs).mp hc
    exact ⟨e, he, hchild, hholder⟩
  rcases List.mem_append.mp h with h | h
  · obtain ⟨s, hs, hheld⟩ := List.mem_filterMap.mp h
    exact .single (hunder (hb.own_values s hs) hheld)
  · obtain ⟨s, hs, hsuite⟩ := List.mem_flatMap.mp h
    unfold suite at hsuite
    cases hheld : ws.held? id s with
    | none => simp [hheld] at hsuite
    | some first =>
      rw [hheld] at hsuite
      have hfirst := hunder (hb.own_statements s hs) hheld
      obtain ⟨e, he, hchild, -⟩ := hfirst
      have hhas : ws.has first := hchild ▸ hw.has_child he
      have hfollow := (hw.mem_chain_iff hhas).mp hsuite
      exact Relation.TransGen.tail' (hw.under_of_following hfollow)
        (hunder (hb.own_statements s hs) hheld)

end Workspace

namespace Edit

open Workspace

/-- What an edit leaves that only cuts blocks off. -/
def CutFrom (ws : Workspace) (cut : BlockId → Prop) (ws' : Workspace) : Prop :=
  ws'.Forest ∧ Pruned ws ws' cut

/-- Blocks and connections decide what is cut off. -/
lemma CutFrom.of_sameGraph {ws ws' ws'' : Workspace} {cut : BlockId → Prop}
    (h : SameGraph ws' ws'') (hcut : CutFrom ws cut ws') : CutFrom ws cut ws'' :=
  ⟨.of_sameGraph h hcut.1, hcut.2.trans (.of_sameGraph h cut) fun _ hid => hid⟩

/-- Deleting blocks one after another cuts off what deleting each of them does. -/
private lemma ends_deleteEach {fuel : ℕ} {ws ws' : Workspace} {cut : BlockId → Prop}
    (hdelete : ∀ (ws : Workspace) (id : BlockId), ws.Forest →
      Ends (deleteWithin fuel id false) ws
        (fun _ => CutFrom ws (Relation.ReflTransGen (Under ws.edges) · id))
        (CutFrom ws (Relation.ReflTransGen (Under ws.edges) · id)))
    (hw : CutFrom ws cut ws') (children : List BlockId)
    (hcut : ∀ child ∈ children, ∀ id, Relation.ReflTransGen (Under ws.edges) id child → cut id) :
    Ends (children.forM fun child => deleteWithin fuel child false) ws'
      (fun _ => CutFrom ws cut) (CutFrom ws cut) := by
  refine ends_forM children (fun child hchild ws₁ h => ?_) hw
  have hstep : ∀ ws₂, CutFrom ws₁ (Relation.ReflTransGen (Under ws₁.edges) · child) ws₂ →
      CutFrom ws cut ws₂ := fun ws₂ h₂ =>
    ⟨h₂.1, h.2.trans h₂.2 fun id hid => hcut child hchild id (h.2.under hid)⟩
  exact (hdelete ws₁ child h.1).mono (fun _ => hstep) hstep

/-- Deleting a block with all that follows cuts off nothing but what is under it. -/
lemma ends_deleteWithin_false (fuel : ℕ) (ws : Workspace) (id : BlockId) (hw : ws.Forest) :
    Ends (deleteWithin fuel id false) ws
      (fun _ => CutFrom ws (Relation.ReflTransGen (Under ws.edges) · id))
      (CutFrom ws (Relation.ReflTransGen (Under ws.edges) · id)) := by
  induction fuel generalizing ws id with
  | zero => exact ⟨hw, .refl ws _⟩
  | succ fuel ih =>
    unfold deleteWithin
    rw [ends_bind]
    refine ends_require (fun b hb => ?_) fun _ => ⟨hw, .refl ws _⟩
    simp only [ends_bind, ends_get, dropEdges, ends_modify, Bool.false_eq_true, if_false]
    have hw₁ : CutFrom ws (Relation.ReflTransGen (Under ws.edges) · id)
        (ws.drop (if (if b.isStatement then ws.next? id else none).isSome
          then ws.outgoing id "next" else [])) := ⟨hw.drop _, .of_drop ws _ _⟩
    refine (ends_deleteEach ih hw₁ _ fun next hnext x hx => ?_).mono (fun _ ws₂ hw₂ => ?_)
      fun _ h => h
    · have hfollow : ws.next? id = some next := by
        rw [Option.mem_toList] at hnext
        split at hnext
        · exact hnext
        · cases hnext
      exact hx.tail (hw.under_of_next? hfollow)
    refine (ends_deleteEach ih hw₂ _ fun child hchild x hx => ?_).mono (fun _ ws₃ hw₃ => ?_)
      fun _ h => h
    · have hunder := hw₂.1.under_of_mem_slotChildren (hw.sound id b hb) hchild
      exact hx.trans (hw₂.2.under hunder.to_reflTransGen)
    have hw₄ : CutFrom ws (Relation.ReflTransGen (Under ws.edges) · id) (ws₃.without id) :=
      ⟨hw₃.1.without id, hw₃.2.trans (.of_without ws₃ rfl) fun x hx => hx ▸ .refl⟩
    rw [remove, ends_modify]
    exact ends_fire_of CutFrom.of_sameGraph hw₄

/-- What follows a deleted block takes its place. -/
private lemma forest_healed {ws ws' : Workspace} (hw : ws.Forest) {id next : BlockId} {e : Edge}
    (hnext : ws.next? id = some next) (habove : (ws.incoming id "previous").head? = some e)
    (hcut : CutFrom (ws.drop (ws.outgoing id "next"))
      (Relation.ReflTransGen (Under (ws.drop (ws.outgoing id "next")).edges) · id) ws')
    (hgone : ∀ f ∈ ws'.edges, f.target ≠ id) :
    (ws'.connect (.ofStatement e.source e.sourcePort next)).Forest := by
  obtain ⟨hw', hpruned⟩ := hcut
  have hsub : ws'.edges ⊆ ws.edges := fun f hf => (mem_drop_outgoing.mp (hpruned.edges.subset hf)).1
  obtain ⟨he, hstop⟩ := hw.head?_incoming_iff.mp habove
  obtain ⟨htarget, hport⟩ := Port.mk.inj hstop
  have hk := hw.kind_of_stop_previous he hport
  have hup : Under ws.edges id e.source :=
    ⟨e, he, by rw [Edge.child, hk]; exact htarget, by rw [Edge.holder, hk]⟩
  obtain ⟨f, hf, hfk, hfstart, hftarget⟩ := hw.statement_of_next? hnext
  have hfchild : f.child = next := by rw [Edge.child, hfk]; exact hftarget
  -- Once the connection to its predecessor is gone, nothing holds the follower.
  have hloose : ∀ x, ¬ Under (ws.drop (ws.outgoing id "next")).edges next x := by
    rintro x ⟨g, hg, hgchild, -⟩
    obtain ⟨hgmem, hgstart⟩ := mem_drop_outgoing.mp hg
    exact hgstart (hw.eq_of_child hgmem hf (hgchild.trans hfchild.symm) ▸ hfstart)
  have hnextUnder : Under ws.edges next id := hw.under_of_next? hnext
  have hsourceFree : ¬ Relation.ReflTransGen (Under ws.edges) e.source id := fun h =>
    hw.acyclic id (Relation.TransGen.head' hup h)
  have hsourceKept : ws'.block? e.source = ws.block? e.source :=
    (hpruned.blocks e.source).resolve_right fun h =>
      hsourceFree (reflTransGen_mono (fun g hg => (mem_drop_outgoing.mp hg).1) h)
  have hnextKept : ws'.block? next = ws.block? next := by
    refine (hpruned.blocks next).resolve_right fun h => ?_
    rcases Relation.ReflTransGen.cases_head h with h | ⟨x, hx, -⟩
    · exact hw.acyclic id (.single (h ▸ hnextUnder))
    · exact hloose x hx
  obtain ⟨-, -, s, -, hs, -, hslot, -⟩ := hw.statement_cases he hk
  obtain ⟨-, -, -, b, -, hb, -, hstmt⟩ := hw.statement_cases hf hfk
  rw [hftarget] at hb
  refine hw'.connect ⟨s, b, hsourceKept.trans hs, hnextKept.trans hb, hslot, rfl, hstmt⟩
    (fun g hg hgstop => ?_) (fun g hg hgstart => ?_) fun h => ?_
  · obtain ⟨hgtarget, hgport⟩ := Port.mk.inj hgstop
    have hgk := hw'.kind_of_stop_previous hg hgport
    exact hloose g.holder ⟨g, hpruned.edges.subset hg, by rw [Edge.child, hgk]; exact hgtarget, rfl⟩
  · have hge : g = e := hw.eq_of_start (hsub hg) he hgstart
    exact hgone g hg (hge ▸ htarget)
  · have hcycle := (reflTransGen_mono hsub h).tail hnextUnder
    exact hsourceFree hcycle

/-- Deleting a block keeps the forest. -/
lemma keepsForest_deleteWithin (fuel : ℕ) (id : BlockId) (heal : Bool) :
    KeepsForest (deleteWithin fuel id heal) := by
  intro ws hw
  cases heal with
  | false => exact (ends_deleteWithin_false fuel ws id hw).mono (fun _ _ h => h.1) fun _ h => h.1
  | true =>
    cases fuel with
    | zero => exact hw
    | succ fuel =>
      unfold deleteWithin
      rw [ends_bind]
      refine ends_require (fun b hb => ?_) fun _ => hw
      simp only [ends_bind, ends_get, dropEdges, ends_modify, if_true, ends_forM_nil]
      generalize hfollower : (if b.isStatement then ws.next? id else none) = follower
      generalize hws₁ : ws.drop (if follower.isSome then ws.outgoing id "next" else []) = ws₁
      have hw₁ : CutFrom ws₁ (Relation.ReflTransGen (Under ws₁.edges) · id) ws₁ :=
        ⟨hws₁ ▸ hw.drop _, .refl ws₁ _⟩
      refine (ends_deleteEach (ends_deleteWithin_false fuel) hw₁ _ fun child hchild x hx => ?_).mono
        (fun _ ws₂ hw₂ => ?_) fun _ h => h.1
      · have hunder := hw₁.1.under_of_mem_slotChildren (hw.sound id b hb) hchild
        exact hx.trans hunder.to_reflTransGen
      have hw₃ : CutFrom ws₁ (Relation.ReflTransGen (Under ws₁.edges) · id) (ws₂.without id) :=
        ⟨hw₂.1.without id, hw₂.2.trans (.of_without ws₂ rfl) fun x hx => hx ▸ .refl⟩
      rw [remove, ends_modify]
      refine (ends_fire _ _ _).mono (fun _ ws₄ hsame => ?_) fun _ h => .of_sameGraph h hw₃.1
      have hw₄ := hw₃.of_sameGraph hsame
      have hgone : ∀ f ∈ ws₄.edges, f.target ≠ id := by
        intro f hf
        rw [Workspace.edges, hsame.links] at hf
        exact (mem_edges_without.mp hf).2.2
      split
      case h_2 => exact hw₄.1
      case h_1 next e hpair =>
        obtain ⟨-, hsome, habove⟩ : True ∧ follower = some next ∧
            (ws.incoming id "previous").head? = some e := by simpa using hpair
        have hnext : ws.next? id = some next := by
          rw [hsome] at hfollower
          split at hfollower
          · exact hfollower
          · cases hfollower
        rw [hsome, Option.isSome_some, if_pos rfl] at hws₁
        subst hws₁
        exact forest_healed hw hnext habove hw₄ hgone

/-- Deleting a block keeps the forest. -/
lemma keepsForest_delete (id : BlockId) (heal : Bool) : KeepsForest (delete id heal) := by
  intro ws hw
  unfold delete
  rw [ends_bind, ends_get]
  exact keepsForest_deleteWithin (ws.blocks.length + 1) id heal ws hw

end Edit

end BlockText

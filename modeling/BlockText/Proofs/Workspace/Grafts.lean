import BlockText.Proofs.Workspace.Effects
import BlockText.Proofs.Workspace.Forest

/-!
# Changing a forest

What one change of a workspace does to the forest of its blocks: dropping connections and blocks
keeps it, a new connection keeps it if both its ports are free and it puts no block under itself,
and a block may take another state if its connections still fit.
-/

namespace BlockText

namespace Workspace

/-! ## Being under a block -/

/-- More connections put more blocks under others. -/
lemma Under.mono {es es' : List Edge} (h : es ⊆ es') {a b : BlockId} (hab : Under es a b) :
    Under es' a b := by
  obtain ⟨e, he, hchild, hholder⟩ := hab
  exact ⟨e, h he, hchild, hholder⟩

/-- More connections lead further up. -/
lemma reflTransGen_mono {es es' : List Edge} (h : es ⊆ es') {a b : BlockId}
    (hab : Relation.ReflTransGen (Under es) a b) : Relation.ReflTransGen (Under es') a b :=
  Relation.ReflTransGen.mono (fun _ _ => Under.mono h) a b hab

/-- A way up that may use one more connection uses it never, or gets to its child and goes on from
its holder. -/
lemma reflTransGen_add {es : List Edge} {e : Edge} {a b : BlockId}
    (h : Relation.ReflTransGen (Under (es ++ [e])) a b) :
    Relation.ReflTransGen (Under es) a b ∨
      (Relation.ReflTransGen (Under es) a e.child ∧
        Relation.ReflTransGen (Under es) e.holder b) := by
  induction h with
  | refl => exact .inl .refl
  | tail _ hlast ih =>
    obtain ⟨f, hf, rfl, rfl⟩ := hlast
    rw [List.mem_append, List.mem_singleton] at hf
    rcases hf with hf | rfl
    · have hstep : Under es f.child f.holder := ⟨f, hf, rfl, rfl⟩
      exact ih.imp (·.tail hstep) fun ⟨hchild, hholder⟩ => ⟨hchild, hholder.tail hstep⟩
    · exact .inr ⟨ih.elim id And.left, .refl⟩

/-- One more connection puts no block under itself if its holder was not under its child. -/
lemma acyclic_add {es : List Edge} {e : Edge}
    (hacyclic : ∀ id, ¬ Relation.TransGen (Under es) id id)
    (h : ¬ Relation.ReflTransGen (Under es) e.holder e.child) (id : BlockId) :
    ¬ Relation.TransGen (Under (es ++ [e])) id id := by
  intro hcycle
  obtain ⟨b, ⟨f, hf, rfl, rfl⟩, hback⟩ := Relation.TransGen.head'_iff.mp hcycle
  rw [List.mem_append, List.mem_singleton] at hf
  rcases hf with hf | rfl
  · have hstep : Under es f.child f.holder := ⟨f, hf, rfl, rfl⟩
    rcases reflTransGen_add hback with hold | ⟨hup, hdown⟩
    · exact hacyclic _ (Relation.TransGen.head' hstep hold)
    · exact h ((hdown.tail hstep).trans hup)
  · rcases reflTransGen_add hback with hold | ⟨hup, -⟩
    · exact h hold
    · exact h hup

/-! ## Blocks that stay -/

/-- A connection fits if it did and the blocks at its ends take the same connections. -/
lemma Fits.of_blocks {ws ws' : Workspace} {e : Edge} (h : ws.Fits e)
    (hsource : ws'.block? e.source = ws.block? e.source)
    (htarget : ws'.block? e.target = ws.block? e.target) : ws'.Fits e := by
  obtain ⟨s, t, hs, ht, hports⟩ := h
  exact ⟨s, t, hsource.trans hs, htarget.trans ht, hports⟩

namespace Forest

variable {ws ws' : Workspace}

/-- Blocks, connections, places and selection decide whether a workspace is a forest. -/
lemma of_sameGraph (h : Edit.SameGraph ws ws') (hw : ws.Forest) : ws'.Forest := by
  obtain ⟨hblocks, hlinks, hpositions, hselected⟩ := h
  have hblock : ∀ id, ws'.block? id = ws.block? id := fun id => by rw [block?, hblocks, block?]
  have hhas : ∀ id, ws'.has id = ws.has id := fun id => by rw [has, hblocks, has]
  have hedges : ws'.edges = ws.edges := by rw [edges, hlinks, edges]
  constructor
  · rw [ids, hblocks]
    exact hw.ids_nodup
  · exact fun id b hb => hw.sound id b ((hblock id).symm.trans hb)
  · exact fun e he => (hw.fits e (hedges ▸ he)).of_blocks (hblock _) (hblock _)
  · exact hedges ▸ hw.arrives_once
  · exact hedges ▸ hw.leaves_once
  · exact hedges ▸ hw.acyclic
  · exact hpositions ▸ hw.positions_nodup
  · exact fun id => by rw [hpositions, hhas, hw.positions_iff]
  · exact fun id h => by rw [hhas]; exact hw.selected_has id (hselected ▸ h)

/-- Dropping connections keeps the forest. -/
lemma of_sublist (hw : ws.Forest) {l : Links} (h : l.edges.Sublist ws.edges) :
    ({ ws with links := l } : Workspace).Forest where
  ids_nodup := hw.ids_nodup
  sound := hw.sound
  fits e he := (hw.fits e (h.subset he)).of_blocks rfl rfl
  arrives_once p := ((h.filter _).length_le).trans (hw.arrives_once p)
  leaves_once p := ((h.filter _).length_le).trans (hw.leaves_once p)
  acyclic id hcycle :=
    hw.acyclic id (Relation.TransGen.mono (fun _ _ => Under.mono h.subset) id id hcycle)
  positions_nodup := hw.positions_nodup
  positions_iff := hw.positions_iff
  selected_has := hw.selected_has

/-- A list in which a test selects nothing selects at most the one member that is added. -/
private lemma filter_add_length_le {es : List Edge} {e : Edge} (keep : Edge → Bool)
    (hes : (es.filter keep).length ≤ 1) (hnone : keep e → es.filter keep = []) :
    ((es ++ [e]).filter keep).length ≤ 1 := by
  rw [List.filter_append]
  by_cases h : keep e
  · simp [hnone h, h]
  · simpa [h] using hes

/-- A connection between free ports that fit keeps the forest, if the holder was not under the
child. -/
lemma connect (hw : ws.Forest) {e : Edge} (hfits : ws.Fits e) (hstop : ∀ f ∈ ws.edges, f.stop ≠ e.stop)
    (hstart : ∀ f ∈ ws.edges, f.start ≠ e.start)
    (hfree : ¬ Relation.ReflTransGen (Under ws.edges) e.holder e.child) :
    (ws.connect e).Forest where
  ids_nodup := hw.ids_nodup
  sound := hw.sound
  fits f hf := by
    rcases List.mem_append.mp hf with hf | hf
    · exact (hw.fits f hf).of_blocks rfl rfl
    · rw [List.mem_singleton.mp hf]
      exact hfits.of_blocks rfl rfl
  arrives_once p := by
    refine filter_add_length_le _ (hw.arrives_once p) fun he => ?_
    rw [List.filter_eq_nil_iff]
    exact fun f hf hp => hstop f hf ((decide_eq_true_iff.mp hp).trans (of_decide_eq_true he).symm)
  leaves_once p := by
    refine filter_add_length_le _ (hw.leaves_once p) fun he => ?_
    rw [List.filter_eq_nil_iff]
    exact fun f hf hp => hstart f hf ((decide_eq_true_iff.mp hp).trans (of_decide_eq_true he).symm)
  acyclic := acyclic_add hw.acyclic hfree
  positions_nodup := hw.positions_nodup
  positions_iff := hw.positions_iff
  selected_has := hw.selected_has

/-- A new block under a new name keeps the forest. -/
lemma grow (hw : ws.Forest) {id : BlockId} (hid : ¬ ws.has id) (t : BlockType) (spot : Point) :
    (ws.grow id (Block.ofType t) spot).Forest := by
  have hold : ∀ other b, ws.block? other = some b →
      (ws.grow id (Block.ofType t) spot).block? other = some b := by
    intro other b hb
    have hne : other ≠ id := by
      rintro rfl
      exact hid (has_of_block? hb)
    rw [block?_grow hid, if_neg hne, hb]
  have hhas : ∀ other, (ws.grow id (Block.ofType t) spot).has other ↔ ws.has other ∨ other = id :=
    fun other => by simp [has_iff_mem_ids]
  constructor
  · rw [ids_grow]
    have hnot : id ∉ ws.ids := fun h => hid (has_iff_mem_ids.mpr h)
    exact List.nodup_append.mpr ⟨hw.ids_nodup, List.nodup_singleton id, by
      rintro a ha b hb rfl
      exact hnot (List.mem_singleton.mp hb ▸ ha)⟩
  · intro other b hb
    rw [block?_grow hid] at hb
    split at hb
    · exact Option.some.inj hb ▸ Block.sound_ofType t
    · exact hw.sound other b hb
  · intro e he
    obtain ⟨s, t', hs, ht, hports⟩ := hw.fits e he
    exact ⟨s, t', hold _ _ hs, hold _ _ ht, hports⟩
  · exact hw.arrives_once
  · exact hw.leaves_once
  · exact hw.acyclic
  · exact nodup_keys_putEntry id spot hw.positions_nodup
  · intro other
    rw [hhas, or_comm, ← hw.positions_iff]
    exact mem_keys_putEntry
  · exact fun other h => (hhas other).mpr (.inl (hw.selected_has other h))

/-- Another state of a block keeps the forest if the connections of the block still fit. -/
lemma put (hw : ws.Forest) {id : BlockId} {b b' : Block} (hb : ws.block? id = some b)
    (htype : b'.type = b.type) (hsound : b'.Sound)
    (hvalue : ∀ e ∈ ws.edges, e.kind = .value → e.target = id → b'.hasValueSlot e.targetPort)
    (hstatement : ∀ e ∈ ws.edges, e.kind = .statement → e.source = id →
      b'.hasStatementSlot e.sourcePort) : (ws.put id b').Forest := by
  have hids : (ws.put id b').ids = ws.ids := ids_put (has_of_block? hb)
  have hhas : ∀ other, (ws.put id b').has other ↔ ws.has other := fun other => by
    rw [has_iff_mem_ids, has_iff_mem_ids, hids]
  -- At each end of a connection there is the old block, or the new one in its place.
  have hkeep : ∀ other c, ws.block? other = some c → ∃ c', (ws.put id b').block? other = some c' ∧
      c'.type = c.type ∧ (other = id ∧ c' = b' ∨ c' = c) := by
    intro other c hc
    rw [block?_put]
    by_cases h : other = id
    · subst h
      rw [hb, Option.some.injEq] at hc
      subst hc
      exact ⟨b', if_pos rfl, htype, .inl ⟨rfl, rfl⟩⟩
    · exact ⟨c, by rw [if_neg h, hc], rfl, .inr rfl⟩
  constructor
  · exact hids ▸ hw.ids_nodup
  · intro other c hc
    rw [block?_put] at hc
    split at hc
    · exact Option.some.inj hc ▸ hsound
    · exact hw.sound other c hc
  · intro e he
    obtain ⟨s, t, hs, ht, hports⟩ := hw.fits e he
    obtain ⟨s', hs', hstype, hscase⟩ := hkeep _ _ hs
    obtain ⟨t', ht', httype, htcase⟩ := hkeep _ _ ht
    refine ⟨s', t', hs', ht', ?_⟩
    cases hk : e.kind with
    | value =>
      rw [hk] at hports
      obtain ⟨hout, hexpr, hslot⟩ := hports
      refine ⟨hout, by rwa [Block.isExpression, Block.kind, hstype], ?_⟩
      rcases htcase with ⟨hid, rfl⟩ | rfl
      · exact hvalue e he hk hid
      · exact hslot
    | statement =>
      rw [hk] at hports
      obtain ⟨hslot, hprev, hstmt⟩ := hports
      refine ⟨?_, hprev, by rwa [Block.isStatement, Block.kind, httype]⟩
      rcases hscase with ⟨hid, rfl⟩ | rfl
      · exact hstatement e he hk hid
      · exact hslot
  · exact hw.arrives_once
  · exact hw.leaves_once
  · exact hw.acyclic
  · exact hw.positions_nodup
  · exact fun other => (hw.positions_iff other).trans (hhas other).symm
  · exact fun other h => (hhas other).mpr (hw.selected_has other h)

/-- Taking a block out with all its connections keeps the forest. -/
lemma without (hw : ws.Forest) (id : BlockId) : (ws.without id).Forest := by
  have hsub : (ws.without id).edges.Sublist ws.edges := by
    rw [edges_without]
    exact List.filter_sublist
  have hcut := hw.of_sublist hsub
  constructor
  · rw [ids_without]
    exact hw.ids_nodup.filter _
  · intro other b hb
    rw [block?_without] at hb
    split at hb
    · cases hb
    · exact hw.sound other b hb
  · intro e he
    obtain ⟨hmem, hsource, htarget⟩ := mem_edges_without.mp he
    exact (hw.fits e hmem).of_blocks (by rw [block?_without, if_neg hsource])
      (by rw [block?_without, if_neg htarget])
  · exact hcut.arrives_once
  · exact hcut.leaves_once
  · exact hcut.acyclic
  · rw [Workspace.without, keys_dropEntry]
    exact hw.positions_nodup.filter _
  · intro other
    rw [has_iff_mem_ids, ids_without, List.mem_filter, ← has_iff_mem_ids, ← hw.positions_iff,
      Workspace.without, keys_dropEntry, List.mem_filter]
  · intro other h
    obtain ⟨hsel, hne⟩ := Option.filter_eq_some_iff.mp h
    rw [has_iff_mem_ids, ids_without]
    exact List.mem_filter.mpr ⟨has_iff_mem_ids.mp (hw.selected_has other hsel), hne⟩

/-- Places for existing blocks keep the forest. -/
lemma moved (hw : ws.Forest) {id : BlockId} (hid : ws.has id) (spot : Point) :
    (ws.moved id spot).Forest :=
  { hw with
    positions_nodup := nodup_keys_putEntry id spot hw.positions_nodup
    positions_iff := fun other => by
      rw [Workspace.moved, mem_keys_putEntry, hw.positions_iff]
      constructor
      · rintro (rfl | h)
        · exact hid
        · exact h
      · exact .inr }

end Forest

end Workspace

end BlockText

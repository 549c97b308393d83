import BlockText.Proofs.Block.Fields
import BlockText.Proofs.Block.Slots
import BlockText.Proofs.Workspace.Trees

/-!
# What building adds

Blocks are built beside what is there.  `Workspace.Grove` says what a part of a build has added to a
workspace: some trees that nothing holds yet, and nothing else.  Every step of a build changes the
trees in one way: a new block is a new tree, a field changes the block at the top of a tree, and a
connection puts one tree into another.
-/

namespace BlockText

namespace Edit

variable {α β : Type} {ws : Workspace}

/-- The edit is carried out. -/
abbrev Yields (x : Edit α) (ws : Workspace) (done : α → Workspace → Prop) : Prop :=
  Ends x ws done fun _ => False

/-- One step after another. -/
lemma Yields.bind {x : Edit β} {f : β → Edit α} {mid : β → Workspace → Prop}
    {done : α → Workspace → Prop} (h : Yields x ws mid)
    (hf : ∀ b ws', mid b ws' → Yields (f b) ws' done) : Yields (x >>= f) ws done := by
  rw [Yields, ends_bind]
  exact h.mono hf fun _ h => h.elim

lemma Yields.mono {x : Edit α} {done done' : α → Workspace → Prop} (h : Yields x ws done)
    (himp : ∀ a ws', done a ws' → done' a ws') : Yields x ws done' :=
  Ends.mono h himp fun _ h => h

/-- An edit that is carried out has a result. -/
lemma Yields.exists_run {x : Edit α} {done : α → Workspace → Prop} (h : Yields x ws done) :
    ∃ a ws', x.run ws = (.ok a, ws') ∧ done a ws' := by
  unfold Yields Ends at h
  rcases hrun : x.run ws with ⟨e | a, ws'⟩
  · rw [hrun] at h
    exact h.elim
  · rw [hrun] at h
    exact ⟨a, ws', rfl, h⟩

/-- Nobody hears of an edit while events are switched off. -/
lemma yields_fire {done : Unit → Workspace → Prop} {type : EventType} {block : Option BlockId}
    {details : List (String × Datum)} (hmuted : ws.muted ≠ 0) (hdone : done () ws) :
    Yields (fire type block details) ws done := by
  unfold fire
  simp only [Yields, ends_bind, ends_get]
  rw [if_neg (by simpa using hmuted)]
  exact hdone

/-- A condition for a refusal that is not met. -/
lemma yields_refuseIf {done : Unit → Workspace → Prop} {condition : Bool} {e : WorkspaceError}
    (h : condition = false) (hdone : done () ws) : Yields (refuseIf condition e) ws done := by
  rw [h]
  exact hdone

/-- A block that is there. -/
lemma yields_require {done : Block → Workspace → Prop} {id : BlockId} {b : Block}
    (hb : ws.block? id = some b) (hdone : done b ws) : Yields (require id) ws done :=
  ends_require (fun c hc => by rwa [← Option.some.inj (hb.symm.trans hc)])
    fun h => by rw [hb] at h; cases h

end Edit

namespace Workspace

/-- A forest of proper blocks in which events are switched off. -/
structure Tidy (ws : Workspace) : Prop where
  forest : ws.Forest
  muted : ws.muted ≠ 0
  proper : ∀ id b, ws.block? id = some b → b.Proper ∧ b.type ≠ .syncError

/-- The names at the tops of trees. -/
abbrev roots (ts : List BlockTree) : List BlockId := ts.filterMap BlockTree.root?

/-- The second workspace has what the first one has, and some trees that nothing holds. -/
structure Grove (ws₀ ws : Workspace) (ts : List BlockTree) : Prop where
  tidy : ws.Tidy
  agree : ∀ id, ws₀.has id → Forest.Agree ws₀ ws id
  parent? : ∀ id, ws₀.has id → ws.parent? id = ws₀.parent? id
  trees : ∀ t ∈ ts, ws.tree t.root? = t
  fresh : ∀ id ∈ roots ts, ¬ ws₀.has id ∧ ws.has id ∧ ws.parent? id = none
  distinct : (roots ts).Nodup
  others : ∀ id, ws.has id → ws₀.has id ∨ id ∈ roots ts ∨ (ws.parent? id).isSome

variable {ws₀ ws₁ ws ws' : Workspace} {ts us : List BlockTree}

namespace Forest

/-- What is below a block is a block. -/
lemma has_of_below (hw : ws.Forest) {y id : BlockId} (hid : ws.has id) (h : ws.Below y id) :
    ws.has y := by
  rcases Relation.ReflTransGen.cases_head h with rfl | ⟨x, ⟨e, he, rfl, -⟩, -⟩
  · exact hid
  · exact hw.has_child he

/-- Agreement with one workspace after another. -/
lemma Agree.trans {id : BlockId} (h : Agree ws₀ ws₁ id) (h' : Agree ws₁ ws id) :
    Agree ws₀ ws id :=
  ⟨h'.block?.trans h.block?, fun s hs => (h'.held? s hs).trans (h.held? s hs),
    h'.next?.trans h.next?⟩

/-- A block that another workspace agrees on is there as well. -/
lemma Agree.has {id : BlockId} (h : Agree ws₀ ws id) (hid : ws₀.has id) : ws.has id := by
  obtain ⟨b, hb⟩ := has_iff_block?.mp hid
  exact has_of_block? (h.block?.trans hb)

end Forest

namespace Grove

/-- Nothing was added yet. -/
lemma refl (h : ws.Tidy) : Grove ws ws [] where
  tidy := h
  agree _ _ := ⟨rfl, fun _ _ => rfl, rfl⟩
  parent? _ _ := rfl
  trees := by simp
  fresh := by simp [roots]
  distinct := by simp [roots]
  others id hid := .inl hid

/-- Only the blocks and their connections matter for the trees. -/
lemma congr (h : Grove ws₀ ws ts) (hblocks : ws'.blocks = ws.blocks) (hlinks : ws'.links = ws.links)
    (hmuted : ws'.muted = ws.muted) (hforest : ws'.Forest) : Grove ws₀ ws' ts := by
  have hblock : ∀ id, ws'.block? id = ws.block? id := fun id => by
    rw [block?, block?, hblocks]
  have hhas : ∀ id, ws'.has id = ws.has id := fun id => by rw [has, has, hblocks]
  have hin : ∀ id s, ws'.incoming id s = ws.incoming id s := fun id s => by
    rw [incoming, incoming, hlinks]
  have hout : ∀ id s, ws'.outgoing id s = ws.outgoing id s := fun id s => by
    rw [outgoing, outgoing, hlinks]
  have hparent : ∀ id, ws'.parent? id = ws.parent? id := fun id => by
    rw [Workspace.parent?, Workspace.parent?, hin, hout]
  have hagree : ∀ id, Forest.Agree ws ws' id := fun id => {
    block? := hblock id
    held? := fun s _ => by rw [held?, held?, hin, hout]
    next? := by rw [next?, next?, hout] }
  refine ⟨⟨hforest, by rw [hmuted]; exact h.tidy.muted, fun id b hb => ?_⟩, fun id hid => ?_,
    fun id hid => ?_, fun t ht => ?_, fun id hid => ?_, h.distinct, fun id hid => ?_⟩
  · exact h.tidy.proper id b (by rwa [← hblock])
  · exact (h.agree id hid).trans (hagree id)
  · rw [hparent, h.parent? id hid]
  · rw [h.tidy.forest.tree_congr hforest fun _ _ y _ => hagree y, h.trees t ht]
  · rw [hhas, hparent]
    exact h.fresh id hid
  · rw [hparent]
    exact h.others id (by rwa [← hhas])

/-- The order of the trees does not matter. -/
lemma perm (h : Grove ws₀ ws ts) (hperm : ts.Perm us) : Grove ws₀ ws us := by
  have hroots : (roots ts).Perm (roots us) := hperm.filterMap _
  exact {
    tidy := h.tidy
    agree := h.agree
    parent? := h.parent?
    trees := fun t ht => h.trees t (hperm.mem_iff.mpr ht)
    fresh := fun id hid => h.fresh id (hroots.mem_iff.mpr hid)
    distinct := hroots.nodup_iff.mp h.distinct
    others := fun id hid => (h.others id hid).imp_right (.imp_left hroots.mem_iff.mp) }

/-- A tree without blocks is no addition. -/
lemma nothing_iff : Grove ws₀ ws (.nothing :: ts) ↔ Grove ws₀ ws ts := by
  have hroots : roots (.nothing :: ts) = roots ts := List.filterMap_cons_none rfl
  constructor
  · intro h
    exact {
      tidy := h.tidy
      agree := h.agree
      parent? := h.parent?
      trees := fun t ht => h.trees t (List.mem_cons_of_mem _ ht)
      fresh := hroots ▸ h.fresh
      distinct := hroots ▸ h.distinct
      others := hroots ▸ h.others }
  · intro h
    exact {
      tidy := h.tidy
      agree := h.agree
      parent? := h.parent?
      trees := fun t ht => by
        rcases List.mem_cons.mp ht with rfl | ht
        · simp
        · exact h.trees t ht
      fresh := hroots ▸ h.fresh
      distinct := hroots ▸ h.distinct
      others := hroots ▸ h.others }

/-- One addition after another. -/
lemma trans (h : Grove ws₀ ws₁ ts) (h' : Grove ws₁ ws us) : Grove ws₀ ws (ts ++ us) := by
  have hroots : roots (ts ++ us) = roots ts ++ roots us := List.filterMap_append
  refine ⟨h'.tidy, fun id hid => ?_, fun id hid => ?_, fun t ht => ?_, fun id hid => ?_, ?_,
    fun id hid => ?_⟩
  · have hagree := h.agree id hid
    exact hagree.trans (h'.agree id (hagree.has hid))
  · rw [h'.parent? id ((h.agree id hid).has hid), h.parent? id hid]
  · rcases List.mem_append.mp ht with ht | ht
    · rw [h.tidy.forest.tree_congr h'.tidy.forest, h.trees t ht]
      intro id hroot y hy
      have hid := (h.fresh id (List.mem_filterMap.mpr ⟨t, ht, hroot⟩)).2.1
      exact h'.agree y (h.tidy.forest.has_of_below hid hy)
    · exact h'.trees t ht
  · rw [hroots] at hid
    rcases List.mem_append.mp hid with hid | hid
    · obtain ⟨hnew, hhas, hloose⟩ := h.fresh id hid
      exact ⟨hnew, (h'.agree id hhas).has hhas, by rw [h'.parent? id hhas, hloose]⟩
    · obtain ⟨hnew, hhas, hloose⟩ := h'.fresh id hid
      exact ⟨fun hold => hnew ((h.agree id hold).has hold), hhas, hloose⟩
  · rw [hroots]
    refine List.nodup_append.mpr ⟨h.distinct, h'.distinct, ?_⟩
    rintro a ha b hb rfl
    exact (h'.fresh a hb).1 (h.fresh a ha).2.1
  · rw [hroots, List.mem_append]
    rcases h'.others id hid with hold | hroot | hheld
    · rcases h.others id hold with h₀ | hroot | hheld
      · exact .inl h₀
      · exact .inr (.inl (.inl hroot))
      · exact .inr (.inr (by rwa [h'.parent? id hold]))
    · exact .inr (.inl (.inr hroot))
    · exact .inr (.inr hheld)

/-! ## Connections -/

/-- What is below a new tree is new. -/
lemma new_of_below (h : Grove ws₀ ws ts) (h₀ : ws₀.Forest) {y id : BlockId} (hid : ¬ ws₀.has id)
    (hy : ws.Below y id) : ¬ ws₀.has y := by
  induction hy using Relation.ReflTransGen.head_induction_on with
  | refl => exact hid
  | head hstep _ ih =>
    intro hold
    have hparent := h.tidy.forest.parent?_eq_some_iff.mpr hstep
    rw [h.parent? _ hold] at hparent
    obtain ⟨e, he, -, rfl⟩ := h₀.parent?_eq_some_iff.mp hparent
    exact ih (h₀.has_holder he)

/-- A connection that fits, of a block that nothing holds to a free place, meets free ports. -/
lemma free_ports (hw : ws.Forest) {e : Edge} (hfits : ws.Fits e) (hloose : ws.parent? e.child = none)
    (hempty : ∀ f ∈ ws.edges, f.holder = e.holder → f.slot ≠ e.slot) :
    (∀ f ∈ ws.edges, f.stop ≠ e.stop) ∧ ∀ f ∈ ws.edges, f.start ≠ e.start := by
  have hnone : ∀ f ∈ ws.edges, f.child ≠ e.child := by
    intro f hf hchild
    have := hw.parent?_eq_some_iff.mpr ⟨f, hf, hchild, rfl⟩
    rw [hloose] at this
    cases this
  obtain ⟨s, t, hs, ht, hports⟩ := hfits
  cases hk : e.kind with
  | value =>
    rw [hk] at hports
    obtain ⟨hout, -, hslot⟩ := hports
    have hown : isOwnPort e.targetPort = false :=
      (hw.sound _ _ ht).own_values _ (by simpa [Block.hasValueSlot] using hslot)
    constructor
    · intro f hf hstop
      obtain ⟨htarget, hport⟩ := Port.mk.inj hstop
      cases hkf : f.kind with
      | value =>
        exact hempty f hf (by simp [Edge.holder, hk, hkf, htarget])
          (by simp [Edge.slot, hk, hkf, hport])
      | statement =>
        rw [← hport, (hw.statement_cases hf hkf).1] at hown
        cases hown
    · intro f hf hstart
      obtain ⟨hsource, hport⟩ := Port.mk.inj hstart
      have hkf := hw.kind_of_start_output hf (hport.trans hout)
      exact hnone f hf (by simp [Edge.child, hk, hkf, hsource])
  | statement =>
    rw [hk] at hports
    obtain ⟨hslot, hprev, -⟩ := hports
    constructor
    · intro f hf hstop
      obtain ⟨htarget, hport⟩ := Port.mk.inj hstop
      have hkf := hw.kind_of_stop_previous hf (hport.trans hprev)
      exact hnone f hf (by simp [Edge.child, hk, hkf, htarget])
    · intro f hf hstart
      obtain ⟨hsource, hport⟩ := Port.mk.inj hstart
      cases hkf : f.kind with
      | statement =>
        exact hempty f hf (by simp [Edge.holder, hk, hkf, hsource])
          (by simp [Edge.slot, hk, hkf, hport])
      | value =>
        -- No slot and no end of a statement is the output of a block.
        rw [← hport, (hw.value_cases hf hkf).1] at hslot
        simp only [Block.hasStatementSlot, Bool.or_eq_true, Bool.and_eq_true, beq_iff_eq,
          List.contains_iff_mem] at hslot
        rcases hslot with hmem | ⟨-, hnext⟩
        · have := (hw.sound _ _ hs).own_statements _ hmem
          cases this
        · exact absurd hnext (by decide)

variable {T t : BlockTree} {r : BlockId} {e : Edge}

/-- A block in one new tree is not in another. -/
lemma not_below (h : Grove ws₀ ws (T :: t :: ts)) (hT : T.root? = some r) {y z : BlockId}
    (ht : t.root? = some y) (hz : ws.Below z r) : ¬ ws.Below z y := by
  have hroots : roots (T :: t :: ts) = r :: y :: roots ts := by
    rw [roots, List.filterMap_cons_some hT, List.filterMap_cons_some ht]
  have hr := (h.fresh r (by rw [hroots]; simp)).2.2
  have hy := (h.fresh y (by rw [hroots]; simp)).2.2
  have hdistinct := h.distinct
  rw [hroots, List.nodup_cons] at hdistinct
  intro hzy
  exact hdistinct.1 (h.tidy.forest.eq_of_below_loose hz hzy hr hy ▸ List.mem_cons_self)

/-- Connecting the root of one new tree to a free place in another leaves the second with the first
in it. -/
lemma connect (h₀ : ws₀.Forest) (h : Grove ws₀ ws (T :: t :: ts)) (hT : T.root? = some r)
    (ht : t.root? = some e.child) (hbelow : ws.Below e.holder r) (hfits : ws.Fits e)
    (hempty : ∀ f ∈ ws.edges, f.holder = e.holder → f.slot ≠ e.slot) :
    ¬ ws.Below e.holder e.child ∧ Grove ws₀ (ws.connect e) ((ws.connect e).tree (some r) :: ts) := by
  have hw := h.tidy.forest
  have hroots : roots (T :: t :: ts) = r :: e.child :: roots ts := by
    rw [roots, List.filterMap_cons_some hT, List.filterMap_cons_some ht]
  have hdistinct := h.distinct
  rw [hroots, List.nodup_cons, List.nodup_cons] at hdistinct
  obtain ⟨hr, he, hts⟩ := hdistinct
  obtain ⟨hrnew, hrhas, hrloose⟩ := h.fresh r (by rw [hroots]; simp)
  obtain ⟨henew, hehas, heloose⟩ := h.fresh e.child (by rw [hroots]; simp)
  have hfree : ¬ ws.Below e.holder e.child := h.not_below hT ht hbelow
  obtain ⟨hstop, hstart⟩ := free_ports hw hfits heloose hempty
  have hw' : (ws.connect e).Forest := hw.connect hfits hstop hstart hfree
  have hholder : ¬ ws₀.has e.holder := h.new_of_below h₀ hrnew hbelow
  have hne : r ≠ e.child := fun h => hr (by rw [h]; exact List.mem_cons_self)
  have hroot : ((ws.connect e).tree (some r)).root? = some r :=
    hw'.root?_tree (by simpa using hrhas)
  have hroots' : roots ((ws.connect e).tree (some r) :: ts) = r :: roots ts := by
    rw [roots, List.filterMap_cons_some hroot]
  have hparent : ∀ id, id ≠ e.child → (ws.connect e).parent? id = ws.parent? id := fun id hid => by
    rw [hw.parent?_connect hw', if_neg (Ne.symm hid)]
  refine ⟨hfree, ⟨hw', h.tidy.muted, h.tidy.proper⟩, fun id hid => ?_, fun id hid => ?_,
    fun u hu => ?_, fun id hid => ?_, ?_, fun id hid => ?_⟩
  · exact (h.agree id hid).trans (hw.agree_connect hw' fun heq => hholder (heq ▸ hid))
  · rw [hparent id fun heq => henew (heq ▸ hid), h.parent? id hid]
  · rcases List.mem_cons.mp hu with rfl | hu
    · rw [hroot]
    · rw [hw.tree_connect_of_not_below hw', h.trees u (by simp [hu])]
      intro id hid hb
      have hmem : id ∈ roots ts := List.mem_filterMap.mpr ⟨u, hu, hid⟩
      have hloose := (h.fresh id (by rw [hroots]; simp [hmem])).2.2
      rw [hw.eq_of_below_loose hb hbelow hloose hrloose] at hmem
      exact hr (List.mem_cons_of_mem _ hmem)
  · rw [hroots'] at hid
    have hmem : id ∈ roots (T :: t :: ts) := by
      rw [hroots]
      rcases List.mem_cons.mp hid with rfl | hid
      · simp
      · simp [hid]
    obtain ⟨hnew, hhas, hloose⟩ := h.fresh id hmem
    refine ⟨hnew, hhas, ?_⟩
    rw [hparent id, hloose]
    rintro rfl
    rcases List.mem_cons.mp hid with hid | hid
    · exact hne hid.symm
    · exact he hid
  · rw [hroots', List.nodup_cons]
    exact ⟨fun hm => hr (List.mem_cons_of_mem _ hm), hts⟩
  · rw [hroots']
    by_cases heq : id = e.child
    · exact .inr (.inr (by rw [hw.parent?_connect hw', if_pos heq.symm]; rfl))
    · rw [hparent id heq]
      rcases h.others id hid with hold | hroot | hheld
      · exact .inl hold
      · rw [hroots] at hroot
        rcases List.mem_cons.mp hroot with rfl | hroot
        · exact .inr (.inl List.mem_cons_self)
        · rcases List.mem_cons.mp hroot with rfl | hroot
          · exact absurd rfl heq
          · exact .inr (.inl (List.mem_cons_of_mem _ hroot))
      · exact .inr (.inr hheld)

/-- The block at the top of a new tree. -/
lemma of_mem_node (h : Grove ws₀ ws ts) {X : BlockId} {b : Block} {slot : String → BlockTree}
    {next : BlockTree} (hmem : .node X b slot next ∈ ts) :
    ws.block? X = some b ∧ (∀ s, isOwnPort s = false → slot s = ws.tree (ws.held? X s)) ∧
      next = ws.tree (ws.next? X) ∧ ¬ ws₀.has X ∧ ws.parent? X = none := by
  obtain ⟨-, hb, hslot, hnext⟩ := h.tidy.forest.of_tree_eq_node (h.trees _ hmem)
  obtain ⟨hnew, -, hloose⟩ := h.fresh X (List.mem_filterMap.mpr ⟨_, hmem, rfl⟩)
  exact ⟨hb, fun s hs => by rw [hslot s, if_neg (by simp [hs])], hnext, hnew, hloose⟩

/-- A slot of a new tree without a tree in it holds no block. -/
lemma held?_eq_none (h : Grove ws₀ ws ts) {X : BlockId} {b : Block} {slot : String → BlockTree}
    {next : BlockTree} (hmem : .node X b slot next ∈ ts) {s : String} (hs : isOwnPort s = false)
    (hempty : slot s = .nothing) : ws.held? X s = none := by
  have hw := h.tidy.forest
  have htree := (h.of_mem_node hmem).2.1 s hs
  rw [hempty] at htree
  cases hheld : ws.held? X s with
  | none => rfl
  | some y =>
    obtain ⟨f, hf, rfl, -⟩ := hw.under_of_held? hs hheld
    have hroot := hw.root?_tree (hw.has_child hf)
    rw [hheld] at htree
    rw [← htree] at hroot
    cases hroot

/-- A tree goes into a slot of another one. -/
lemma fillSlot (h₀ : ws₀.Forest) {b : Block} {slot : String → BlockTree} {next : BlockTree}
    (h : Grove ws₀ ws (.node e.holder b slot next :: t :: ts)) (ht : t.root? = some e.child)
    (hown : isOwnPort e.slot = false) (hempty : slot e.slot = .nothing) (hfits : ws.Fits e) :
    Grove ws₀ (ws.connect e) (.node e.holder b (Function.update slot e.slot t) next :: ts) := by
  have hw := h.tidy.forest
  have hheld := h.held?_eq_none List.mem_cons_self hown hempty
  obtain ⟨hfree, hgrove⟩ := h.connect h₀ rfl ht .refl hfits fun f hf hholder hslot => by
    rw [(hw.held?_eq_some_iff hown).mpr ⟨f, hf, rfl, hholder, hslot⟩] at hheld
    cases hheld
  have htree := hw.tree_connect_slot hgrove.tidy.forest hown hfree (h.trees _ List.mem_cons_self)
  rw [htree, ← ht, h.trees t (by simp)] at hgrove
  exact hgrove

/-- A tree goes after the last block of a chain. -/
lemma appendChain (h₀ : ws₀.Forest) (h : Grove ws₀ ws (T :: t :: ts)) (ht : t.root? = some e.child)
    (hlast : T.last? = some e.holder) (hslot : e.slot = "next") (hfits : ws.Fits e)
    (hnext : ws.next? e.holder = none) : Grove ws₀ (ws.connect e) (T.append t :: ts) := by
  have hw := h.tidy.forest
  obtain ⟨r, hr⟩ : ∃ r, T.root? = some r := by
    rw [← Option.ne_none_iff_exists', Ne, BlockTree.root?_eq_none]
    rintro rfl
    cases hlast
  have hT : ws.tree (some r) = T := by rw [← hr, h.trees T List.mem_cons_self]
  rw [← hT] at hlast
  obtain ⟨hfree, hgrove⟩ := h.connect h₀ hr ht (hw.below_of_last? hlast) hfits
    fun f hf hholder hfslot => by
      rw [hw.next?_eq_some_iff.mpr ⟨f, hf, rfl, hholder, hfslot.trans hslot⟩] at hnext
      cases hnext
  have htree := hw.tree_connect_last hgrove.tidy.forest hslot hfree hlast
  rw [htree, hT, ← ht, h.trees t (by simp)] at hgrove
  exact hgrove

/-- A tree goes after the last block in a slot of another one. -/
lemma appendInSlot (h₀ : ws₀.Forest) {X : BlockId} {b : Block} {slot : String → BlockTree}
    {next : BlockTree} {s : String} (h : Grove ws₀ ws (.node X b slot next :: t :: ts))
    (ht : t.root? = some e.child) (hown : isOwnPort s = false)
    (hlast : (slot s).last? = some e.holder) (hslot : e.slot = "next") (hfits : ws.Fits e)
    (hnext : ws.next? e.holder = none) :
    Grove ws₀ (ws.connect e)
      (.node X b (Function.update slot s ((slot s).append t)) next :: ts) := by
  have hw := h.tidy.forest
  have hslots := (h.of_mem_node List.mem_cons_self).2.1 s hown
  obtain ⟨first, hfirst⟩ : ∃ y, ws.held? X s = some y := by
    rw [← Option.ne_none_iff_exists']
    intro hnone
    rw [hslots, hnone, Forest.tree_none] at hlast
    cases hlast
  have hbelow : ws.Below e.holder X := by
    rw [hslots, hfirst] at hlast
    exact (hw.below_of_last? hlast).tail (hw.under_of_held? hown hfirst)
  obtain ⟨hfree, hgrove⟩ := h.connect h₀ rfl ht hbelow hfits fun f hf hholder hfslot => by
    rw [hw.next?_eq_some_iff.mpr ⟨f, hf, rfl, hholder, hfslot.trans hslot⟩] at hnext
    cases hnext
  have htree := hw.tree_connect_last_in_slot hgrove.tidy.forest hown hslot hfree
    (h.trees _ List.mem_cons_self) hfirst hlast
  rw [htree, ← ht, h.trees t (by simp)] at hgrove
  exact hgrove

/-! ## Blocks -/

/-- The slots of a new tree with something in them are slots of the block. -/
lemma mem_slots (h : Grove ws₀ ws ts) {X : BlockId} {b : Block} {slot : String → BlockTree}
    {next : BlockTree} (hmem : .node X b slot next ∈ ts) {s : String} (hs : slot s ≠ .nothing) :
    isOwnPort s = false ∧ (s ∈ b.values ∨ s ∈ b.statements) := by
  have hw := h.tidy.forest
  obtain ⟨-, hb, hslot, -⟩ := hw.of_tree_eq_node (h.trees _ hmem)
  have hown : isOwnPort s = false := by
    cases hown : isOwnPort s with
    | false => rfl
    | true => exact absurd (by rw [hslot s, hown]; rfl) hs
  refine ⟨hown, ?_⟩
  rw [hslot s, if_neg (by simp [hown])] at hs
  obtain ⟨y, hy⟩ : ∃ y, ws.held? X s = some y := by
    rw [← Option.ne_none_iff_exists']
    intro hnone
    exact hs (by rw [hnone, Forest.tree_none])
  obtain ⟨f, hf, -, hholder, hfs⟩ := (hw.held?_eq_some_iff hown).mp hy
  cases hk : f.kind with
  | value =>
    obtain ⟨-, -, -, c, -, hc, -, hvalue⟩ := hw.value_cases hf hk
    simp only [Edge.holder, Edge.slot, hk] at hholder hfs
    rw [hholder, hb, Option.some.injEq] at hc
    rw [← hc, hfs] at hvalue
    exact .inl (by simpa [Block.hasValueSlot] using hvalue)
  | statement =>
    obtain ⟨-, -, c, -, hc, -, hstmt, -⟩ := hw.statement_cases hf hk
    simp only [Edge.holder, Edge.slot, hk] at hholder hfs
    rw [hholder, hb, Option.some.injEq] at hc
    rw [← hc, hfs] at hstmt
    simp only [Block.hasStatementSlot, Bool.or_eq_true, Bool.and_eq_true, beq_iff_eq,
      List.contains_iff_mem] at hstmt
    rcases hstmt with hmem | ⟨-, rfl⟩
    · exact .inr hmem
    · simp [isOwnPort] at hown

/-- The block at the top of a new tree takes another state that has the slots in use. -/
lemma put {X : BlockId} {b b' : Block} {slot : String → BlockTree} {next : BlockTree}
    (h : Grove ws₀ ws (.node X b slot next :: ts)) (htype : b'.type = b.type) (hproper : b'.Proper)
    (hvalues : ∀ s, slot s ≠ .nothing → s ∈ b.values → s ∈ b'.values)
    (hstatements : ∀ s, slot s ≠ .nothing → s ∈ b.statements → s ∈ b'.statements) :
    Grove ws₀ (ws.put X b') (.node X b' slot next :: ts) := by
  have hw := h.tidy.forest
  obtain ⟨hb, hslot, hnext, hnew, hloose⟩ := h.of_mem_node List.mem_cons_self
  have hused : ∀ f ∈ ws.edges, f.holder = X → isOwnPort f.slot = false → slot f.slot ≠ .nothing := by
    intro f hf hholder hown hempty
    have hnone := h.held?_eq_none List.mem_cons_self hown hempty
    rw [(hw.held?_eq_some_iff hown).mpr ⟨f, hf, rfl, hholder, rfl⟩] at hnone
    cases hnone
  have hw' : (ws.put X b').Forest := by
    refine hw.put hb htype hproper.sound (fun f hf hk htarget => ?_) fun f hf hk hsource => ?_
    · obtain ⟨-, hown, -, c, -, hc, -, hvalue⟩ := hw.value_cases hf hk
      rw [htarget, hb, Option.some.injEq] at hc
      have hne := hused f hf (by simp [Edge.holder, hk, htarget]) (by simpa [Edge.slot, hk] using hown)
      simp only [Edge.slot, hk] at hne
      simpa [Block.hasValueSlot] using
        hvalues _ hne (by simpa [Block.hasValueSlot, ← hc] using hvalue)
    · obtain ⟨-, hown, c, -, hc, -, hstmt, -⟩ := hw.statement_cases hf hk
      rw [hsource, hb, Option.some.injEq] at hc
      subst hc
      simp only [Block.hasStatementSlot, Bool.or_eq_true, Bool.and_eq_true, beq_iff_eq,
        List.contains_iff_mem] at hstmt ⊢
      rcases hstmt with hmem | hnext
      · have hown := (hw.sound _ _ hb).own_statements _ hmem
        have hne := hused f hf (by simp [Edge.holder, hk, hsource])
          (by simpa [Edge.slot, hk] using hown)
        simp only [Edge.slot, hk] at hne
        exact .inl (hstatements _ hne hmem)
      · exact .inr (by rwa [Block.isStatement, Block.kind, htype])
  have hagree : ∀ y, y ≠ X → Forest.Agree ws (ws.put X b') y := fun y hy =>
    ⟨by rw [block?_put, if_neg hy], fun _ _ => rfl, rfl⟩
  have hhas : ∀ id, (ws.put X b').has id ↔ ws.has id := fun id => by
    rw [has_iff_mem_ids, has_iff_mem_ids, ids_put (has_of_block? hb)]
  have hkeep : ∀ o, (∀ id, o = some id → ¬ ws.Below X id) → (ws.put X b').tree o = ws.tree o :=
    fun o ho => hw.tree_congr hw' fun id hid y hy => hagree y fun heq => ho id hid (heq ▸ hy)
  have htree : (ws.put X b').tree (some X) = .node X b' slot next := by
    rw [hw'.tree_some (b := b') (by rw [block?_put, if_pos rfl])]
    congr 1
    · funext s
      cases hs : isOwnPort s with
      | true =>
        refine (by_contra fun hne => ?_ : BlockTree.nothing = slot s)
        have := (h.mem_slots List.mem_cons_self (Ne.symm hne)).1
        rw [hs] at this
        cases this
      | false =>
        rw [if_neg (by simp), hslot s hs]
        exact hkeep _ fun y hy => hw.not_below_of_under (hw.under_of_held? hs hy)
    · rw [hnext]
      exact hkeep _ fun y hy => hw.not_below_of_under (hw.under_of_next? hy)
  refine ⟨⟨hw', h.tidy.muted, fun id c hc => ?_⟩, fun id hid => ?_, h.parent?, fun t ht => ?_,
    fun id hid => ?_, h.distinct, fun id hid => h.others id ((hhas id).mp hid)⟩
  · rw [block?_put] at hc
    split at hc
    · cases hc
      exact ⟨hproper, htype ▸ (h.tidy.proper X b hb).2⟩
    · exact h.tidy.proper id c hc
  · exact (h.agree id hid).trans (hagree id fun heq => hnew (heq ▸ hid))
  · rcases List.mem_cons.mp ht with rfl | ht
    · exact htree
    · rw [hkeep, h.trees t (List.mem_cons_of_mem _ ht)]
      intro id hid hbelow
      have hmem : id ∈ roots ts := List.mem_filterMap.mpr ⟨t, ht, hid⟩
      have hroots : roots (.node X b slot next :: ts) = X :: roots ts :=
        List.filterMap_cons_some rfl
      have hid' := (h.fresh id (by rw [hroots]; exact List.mem_cons_of_mem _ hmem)).2.2
      have hdistinct := h.distinct
      rw [hroots, List.nodup_cons] at hdistinct
      exact hdistinct.1 (hw.eq_of_below_loose hbelow .refl hid' hloose ▸ hmem)
  · obtain ⟨hnew', hhas', hloose'⟩ := h.fresh id hid
    exact ⟨hnew', (hhas id).mpr hhas', hloose'⟩

/-- A new block is a new tree. -/
lemma grow (h : ws.Tidy) {X : BlockId} (hX : ¬ ws.has X) {type : BlockType}
    (htype : type ≠ .syncError) (spot : Point) :
    Grove ws (ws.grow X (Block.ofType type) spot)
      [.node X (Block.ofType type) (fun _ => .nothing) .nothing] := by
  have hw := h.forest
  have hw' := hw.grow hX type spot
  have hblock : ∀ id, id ≠ X → (ws.grow X (Block.ofType type) spot).block? id = ws.block? id :=
    fun id hid => by rw [block?_grow hX, if_neg hid]
  have hX' : (ws.grow X (Block.ofType type) spot).block? X = some (Block.ofType type) := by
    rw [block?_grow hX, if_pos rfl]
  -- No connection has an end at a block that is not there.
  have hheld : ∀ s, isOwnPort s = false → ws.held? X s = none := by
    intro s hs
    rw [Option.eq_none_iff_forall_ne_some]
    rintro y hy
    obtain ⟨e, he, -, rfl⟩ := hw.under_of_held? hs hy
    exact hX (hw.has_holder he)
  have hnext : ws.next? X = none := by
    rw [Option.eq_none_iff_forall_ne_some]
    rintro y hy
    obtain ⟨e, he, -, rfl⟩ := hw.under_of_next? hy
    exact hX (hw.has_holder he)
  have hparent : ws.parent? X = none := by
    rw [Option.eq_none_iff_forall_ne_some]
    rintro y hy
    obtain ⟨e, he, rfl, -⟩ := hw.parent?_eq_some_iff.mp hy
    exact hX (hw.has_child he)
  have hroots : roots [.node X (Block.ofType type) (fun _ => .nothing) .nothing] = [X] := rfl
  refine ⟨⟨hw', h.muted, fun id c hc => ?_⟩, fun id hid => ?_, fun _ _ => rfl, fun t ht => ?_,
    fun id hid => ?_, by simp [hroots], fun id hid => ?_⟩
  · rw [block?_grow hX] at hc
    split at hc
    · cases hc
      obtain ⟨hproper, hofType, -⟩ := Block.proper_ofType type
      exact ⟨hproper, by rw [hofType]; exact htype⟩
    · exact h.proper id c hc
  · exact ⟨hblock id fun heq => hX (heq ▸ hid), fun _ _ => rfl, rfl⟩
  · rw [List.mem_singleton.mp ht, BlockTree.root?_node, hw'.tree_some hX']
    congr 1
    · funext s
      cases hs : isOwnPort s with
      | true => rfl
      | false =>
        rw [if_neg (by simp), show (ws.grow X _ spot).held? X s = none from hheld s hs,
          Forest.tree_none]
    · rw [show (ws.grow X _ spot).next? X = none from hnext, Forest.tree_none]
  · rw [hroots, List.mem_singleton] at hid
    subst hid
    exact ⟨hX, has_of_block? hX', hparent⟩
  · rw [hroots, List.mem_singleton]
    by_cases heq : id = X
    · exact .inr (.inl heq)
    · obtain ⟨c, hc⟩ := has_iff_block?.mp hid
      exact .inl (has_of_block? ((hblock id heq).symm.trans hc))

end Grove

end Workspace

end BlockText

import BlockText.Proofs.Block.Measured
import BlockText.Proofs.Workspace.Deleting
import BlockText.Proofs.Workspace.Passages

/-!
# Subtrees that can be cut out

Deleting blocks one after another, each with everything below it, works only if none is gone when
its turn comes.  What the slots of a block hold is listed with all statements of each body, so a
body of two statements is gone after its first one.  `Severable` says that this does not happen;
then what is left of a workspace is what `Cleared` says.
-/

namespace BlockText

namespace Workspace

variable {ws ws' ws'' : Workspace} {cut cut' : BlockId → Prop} {a b c id x : BlockId}

/-! ## What is gone -/

/-- Some blocks are gone, with the connections that hold them, and the others are as they were. -/
structure Cleared (ws ws' : Workspace) (cut : BlockId → Prop) : Prop where
  gone : ∀ id, cut id → ¬ ws'.has id
  blocks : ∀ id, ¬ cut id → ws'.block? id = ws.block? id
  positions : ∀ id, ¬ cut id → ws'.position id = ws.position id
  selected : ∀ id, ws'.selected = some id ↔ ws.selected = some id ∧ ¬ cut id
  edges : ∀ e, e ∈ ws'.edges ↔ e ∈ ws.edges ∧ ¬ cut e.child

namespace Cleared

/-- After a clearing there is what was there and was not cut. -/
lemma has_iff (h : Cleared ws ws' cut) : ws'.has id ↔ ws.has id ∧ ¬ cut id := by
  by_cases hid : cut id
  · exact iff_of_false (h.gone id hid) fun hhas => hhas.2 hid
  · rw [has_iff_block?, has_iff_block?, h.blocks id hid, and_iff_left hid]

/-- One part goes after another. -/
lemma trans (h : Cleared ws ws' cut) (h' : Cleared ws' ws'' cut') :
    Cleared ws ws'' fun id => cut id ∨ cut' id where
  gone id hid hhas := by
    obtain ⟨hhas, hcut'⟩ := h'.has_iff.mp hhas
    exact hid.elim (fun hcut => h.gone id hcut hhas) hcut'
  blocks id hid := by
    obtain ⟨hcut, hcut'⟩ := not_or.mp hid
    rw [h'.blocks id hcut', h.blocks id hcut]
  positions id hid := by
    obtain ⟨hcut, hcut'⟩ := not_or.mp hid
    rw [h'.positions id hcut', h.positions id hcut]
  selected id := by rw [h'.selected, h.selected, not_or, and_assoc]
  edges e := by rw [h'.edges, h.edges, not_or, and_assoc]

/-- Nothing is gone. -/
lemma of_empty (ws : Workspace) (hcut : ∀ id, ¬ cut id) : Cleared ws ws cut where
  gone id hid := absurd hid (hcut id)
  blocks _ _ := rfl
  positions _ _ := rfl
  selected id := (and_iff_left (hcut id)).symm
  edges e := (and_iff_left (hcut e.child)).symm

/-- A clearing is decided by which blocks are cut. -/
lemma congr (h : Cleared ws ws' cut) (hiff : ∀ id, cut id ↔ cut' id) : Cleared ws ws' cut' := by
  obtain rfl : cut = cut' := funext fun id => propext (hiff id)
  exact h

/-- Blocks, connections, places and selection decide what is gone. -/
lemma of_sameGraph (h : Cleared ws ws' cut) (hsame : Edit.SameGraph ws' ws'') :
    Cleared ws ws'' cut where
  gone id hid := by
    rw [has, hsame.blocks]
    exact h.gone id hid
  blocks id hid := by
    rw [block?, hsame.blocks]
    exact h.blocks id hid
  positions id hid := by
    rw [position, hsame.positions]
    exact h.positions id hid
  selected id := by
    rw [hsame.selected]
    exact h.selected id
  edges e := by
    rw [Workspace.edges, hsame.links]
    exact h.edges e

/-- A block that holds nothing is taken out. -/
lemma of_without (h : ∀ e ∈ ws.edges, e.holder ≠ id) : Cleared ws (ws.without id) (· = id) where
  gone x hx hhas := by
    obtain ⟨b, hb⟩ := has_iff_block?.mp hhas
    rw [block?_without, if_pos hx] at hb
    cases hb
  blocks x hx := by rw [block?_without, if_neg hx]
  positions x hx := by
    change (entryAt? (dropEntry ws.positions id) x).getD {} = _
    rw [entryAt?_dropEntry, if_neg hx, position]
  selected x := by
    change ws.selected.filter (· != id) = some x ↔ _
    rw [Option.filter_eq_some_iff, bne_iff_ne]
  edges e := by
    rw [mem_edges_without]
    refine and_congr_right fun he => ?_
    have hholder := h e he
    unfold Edge.holder at hholder
    unfold Edge.child
    cases hk : e.kind <;> simp only [hk] at hholder ⊢
    · exact and_iff_left hholder
    · exact and_iff_right hholder

/-- A clearing adds no edge. -/
lemma subset (h : Cleared ws ws' cut) : ws'.edges ⊆ ws.edges := fun e he => ((h.edges e).mp he).1

/-- What is under a block afterwards was under it before. -/
lemma below (h : Cleared ws ws' cut) (hab : ws'.Below a b) : ws.Below a b :=
  reflTransGen_mono h.subset hab

/-- What is not gone is under the same blocks as before, if nothing stays under what is gone. -/
lemma below_of_not (h : Cleared ws ws' cut) (hdown : ∀ x y, Under ws.edges x y → cut y → cut x)
    (hab : ws.Below a b) (ha : ¬ cut a) : ws'.Below a b := by
  induction hab using Relation.ReflTransGen.head_induction_on with
  | refl => exact .refl
  | head hstep _ ih =>
    refine .head ?_ (ih fun hc => ha (hdown _ _ hstep hc))
    obtain ⟨e, he, hchild, hholder⟩ := hstep
    exact ⟨e, (h.edges e).mpr ⟨he, by rwa [hchild]⟩, hchild, hholder⟩

end Cleared

/-- Where there are fewer blocks and connections, a block has less below it. -/
lemma Forest.weight_mono (hhas : ∀ x, ws'.has x → ws.has x) (hsub : ws'.edges ⊆ ws.edges)
    (id : BlockId) : Forest.weight ws' id ≤ Forest.weight ws id := by
  classical
  refine Finset.card_le_card fun x hx => ?_
  rw [Finset.mem_filter, List.mem_toFinset, ← has_iff_mem_ids] at hx ⊢
  exact ⟨hhas x hx.1, reflTransGen_mono hsub hx.2⟩

/-- The more is below a block, the more is below what holds it. -/
lemma Forest.weight_lt_of_transGen (hw : ws.Forest)
    (h : Relation.TransGen (Under ws.edges) a b) : Forest.weight ws a < Forest.weight ws b := by
  induction h with
  | single h => exact Forest.weight_lt hw h
  | tail _ h ih => exact ih.trans (Forest.weight_lt hw h)

/-! ## Bodies of one statement -/

/-- Nothing follows what a slot of the block holds, so no body of it has two statements. -/
def Lone (ws : Workspace) (id : BlockId) : Prop :=
  ∀ s first, isOwnPort s = false → ws.held? id s = some first → ws.next? first = none

/-- What holds a block is a slot or the end of a statement. -/
lemma Forest.isOwnPort_slot (hw : ws.Forest) {e : Edge} (he : e ∈ ws.edges) :
    isOwnPort e.slot = false ↔ e.slot ≠ "next" := by
  constructor
  · rintro hown hnext
    rw [hnext] at hown
    cases hown
  · intro hnext
    unfold Edge.slot at hnext ⊢
    cases hk : e.kind with
    | value => exact (hw.value_cases he hk).2.1
    | statement =>
      simp only [hk] at hnext
      exact (hw.statement_cases he hk).2.1.resolve_right hnext

/-- A block is lone when none of its plugged blocks is followed by another. -/
lemma Forest.lone_iff (hw : ws.Forest) : ws.Lone id ↔
    ∀ e ∈ ws.edges, e.holder = id → e.slot ≠ "next" →
      ∀ f ∈ ws.edges, f.holder = e.child → f.slot ≠ "next" := by
  constructor
  · intro h e he hholder hslot f hf hfholder hfslot
    have hown := (hw.isOwnPort_slot he).mpr hslot
    have hnext := h e.slot e.child hown ((hw.held?_eq_some_iff hown).mpr ⟨e, he, rfl, hholder, rfl⟩)
    rw [hw.next?_eq_some_iff.mpr ⟨f, hf, rfl, hfholder, hfslot⟩] at hnext
    cases hnext
  · intro h s first hown hheld
    obtain ⟨e, he, rfl, hholder, rfl⟩ := (hw.held?_eq_some_iff hown).mp hheld
    rw [Option.eq_none_iff_forall_ne_some]
    intro y hy
    obtain ⟨f, hf, -, hfholder, hfslot⟩ := hw.next?_eq_some_iff.mp hy
    exact h e he hholder ((hw.isOwnPort_slot he).mp hown) f hf hfholder hfslot

/-- Fewer connections leave no more statements in a body. -/
lemma Lone.mono (h : ws.Lone id) (hw : ws.Forest) (hw' : ws'.Forest)
    (hsub : ws'.edges ⊆ ws.edges) : ws'.Lone id :=
  hw'.lone_iff.mpr fun e he hholder hslot f hf =>
    hw.lone_iff.mp h e (hsub he) hholder hslot f (hsub hf)

/-- Bodies have one statement if they do without connections from elsewhere. -/
lemma Lone.of_kept (h : ws'.Lone id) (hw : ws.Forest) (hw' : ws'.Forest)
    (hkept : ∀ e ∈ ws.edges, ws.Below e.holder id → (e.holder = id → e.slot ≠ "next") →
      e ∈ ws'.edges) : ws.Lone id := by
  refine hw.lone_iff.mpr fun e he hholder hslot f hf hfholder hfslot => ?_
  have hunder : Under ws.edges e.child id := ⟨e, he, rfl, hholder⟩
  refine hw'.lone_iff.mp h e (hkept e he (hholder ▸ .refl) fun _ => hslot) hholder hslot f
    (hkept f hf (hfholder ▸ .single hunder) fun hself => ?_) hfholder hfslot
  rw [← hfholder, hself] at hunder
  exact absurd (.single hunder) (hw.acyclic id)

/-! ## Blocks that can be deleted one after another -/

/-- A block is below one of some blocks. -/
def Within (ws : Workspace) (ids : List BlockId) (x : BlockId) : Prop := ∃ id ∈ ids, ws.Below x id

/-- Some blocks can be deleted one after another: they exist, none of them is below another one, and
no body below them has two statements. -/
structure Severable (ws : Workspace) (ids : List BlockId) : Prop where
  has : ∀ id ∈ ids, ws.has id
  apart : ∀ a ∈ ids, ∀ b ∈ ids, a ≠ b → ¬ ws.Below a b
  lone : ∀ x, ws.Within ids x → ws.Lone x

@[simp] lemma not_within_nil : ¬ ws.Within [] x := by simp [Within]

/-- Within a list is below its head or within the rest. -/
@[simp] lemma within_cons {ids : List BlockId} :
    ws.Within (a :: ids) x ↔ ws.Below x a ∨ ws.Within ids x := by
  simp [Within]

lemma severable_nil (ws : Workspace) : ws.Severable [] where
  has _ h := absurd h List.not_mem_nil
  apart _ h := absurd h List.not_mem_nil
  lone _ h := absurd h not_within_nil

/-- A single block is severable when all below it are lone. -/
lemma severable_singleton :
    ws.Severable [id] ↔ ws.has id ∧ ∀ x, ws.Below x id → ws.Lone x := by
  constructor
  · exact fun h => ⟨h.has id List.mem_cons_self, fun x hx => h.lone x (by simp [hx])⟩
  · rintro ⟨hid, hlone⟩
    refine ⟨fun a ha => ?_, fun a ha b hb hne => ?_, fun x hx => hlone x (by simpa using hx)⟩
    · rwa [List.mem_singleton.mp ha]
    · exact absurd ((List.mem_singleton.mp ha).trans (List.mem_singleton.mp hb).symm) hne

/-- The head of a severable list is severable. -/
lemma Severable.head {ids : List BlockId} (h : ws.Severable (a :: ids)) : ws.Severable [a] :=
  severable_singleton.mpr
    ⟨h.has a List.mem_cons_self, fun x hx => h.lone x (within_cons.mpr (.inl hx))⟩

section Cons

variable {ids : List BlockId} (hw : ws.Forest) (hw' : ws'.Forest)
  (hcleared : Cleared ws ws' (ws.Below · a)) (horder : ∀ b ∈ ids, ¬ ws.Below a b)

include hcleared in
/-- What is gone with some blocks is gone with the first or below the others. -/
lemma within_of_cleared (hx : ¬ ws.Below x a) : ws'.Within ids x ↔ ws.Within ids x := by
  constructor
  · exact fun ⟨b, hb, hbelow⟩ => ⟨b, hb, hcleared.below hbelow⟩
  · exact fun ⟨b, hb, hbelow⟩ => ⟨b, hb, hcleared.below_of_not (fun _ _ => .head) hbelow hx⟩

include hw hw' hcleared horder in
/-- Bodies below the other blocks have the same statements when the first block is gone. -/
private lemma lone_of_cleared (hx : ¬ ws.Below x a) (hids : ws.Within ids x) (h : ws'.Lone x) :
    ws.Lone x := by
  obtain ⟨b, hb, hxb⟩ := hids
  have hax : ¬ ws.Below a x := fun hax => horder b hb (hax.trans hxb)
  refine h.of_kept hw hw' fun e he hholder _ => (hcleared.edges e).mpr ⟨he, fun hgone => ?_⟩
  rcases Relation.ReflTransGen.cases_head hgone with heq | ⟨y, hy, hya⟩
  · exact hax (heq ▸ .head ⟨e, he, rfl, rfl⟩ hholder)
  · obtain rfl := hw.under_unique hy ⟨e, he, rfl, rfl⟩
    have hunique : Relator.RightUnique (Under ws.edges) := fun _ _ _ => hw.under_unique
    rcases Relation.ReflTransGen.total_of_right_unique hunique hya hholder with h | h
    · exact hax h
    · exact hx h

include hw hw' hcleared horder in
/-- Once the first block is gone, it is the others that matter. -/
lemma severable_cons (ha : ws.Severable [a]) :
    ws'.Severable ids ↔ ws.Severable (a :: ids) := by
  obtain ⟨hhas, hlone⟩ := severable_singleton.mp ha
  constructor
  · intro h
    have hfree : ∀ b ∈ ids, ws.has b ∧ ¬ ws.Below b a := fun b hb =>
      hcleared.has_iff.mp (h.has b hb)
    refine ⟨?_, ?_, fun x hx => ?_⟩
    · exact List.forall_mem_cons.mpr ⟨hhas, fun b hb => (hfree b hb).1⟩
    · intro b hb c hc hne hbc
      rcases List.mem_cons.mp hb with rfl | hb
      · exact horder c ((List.mem_cons.mp hc).resolve_left hne.symm) hbc
      · rcases List.mem_cons.mp hc with heq | hc
        · exact (hfree b hb).2 (heq ▸ hbc)
        · exact h.apart b hb c hc hne (hcleared.below_of_not (fun _ _ => .head) hbc (hfree b hb).2)
    · by_cases hxa : ws.Below x a
      · exact hlone x hxa
      · have hids := (within_cons.mp hx).resolve_left hxa
        exact lone_of_cleared hw hw' hcleared horder hxa hids
          (h.lone x ((within_of_cleared hcleared hxa).mpr hids))
  · intro h
    have hne : ∀ b ∈ ids, b ≠ a := fun b hb heq => horder b hb (heq ▸ .refl)
    refine ⟨fun b hb => ?_, fun b hb c hc hbc hbelow => ?_, fun x hx => ?_⟩
    · exact hcleared.has_iff.mpr ⟨h.has b (List.mem_cons_of_mem a hb),
        h.apart b (List.mem_cons_of_mem a hb) a List.mem_cons_self (hne b hb)⟩
    · exact h.apart b (List.mem_cons_of_mem a hb) c (List.mem_cons_of_mem a hc) hbc
        (hcleared.below hbelow)
    · obtain ⟨b, hb, hxb⟩ := hx
      exact (h.lone x ⟨b, List.mem_cons_of_mem a hb, hcleared.below hxb⟩).mono hw hw'
        hcleared.subset

include hcleared in
/-- The first block goes, and then the others. -/
lemma cleared_cons (h : Cleared ws' ws'' (ws'.Within ids)) :
    Cleared ws ws'' (ws.Within (a :: ids)) := by
  refine (hcleared.trans h).congr fun x => ?_
  rw [within_cons]
  by_cases hx : ws.Below x a
  · simp [hx]
  · rw [within_of_cleared hcleared hx]

end Cons

/-! ## What the slots of a block hold -/

namespace Forest

variable {block : Block} (hw : ws.Forest)
include hw

/-- Only statements are followed. -/
lemma isStatement_of_followed (hb : ws.block? id = some block) (h : ws.next? id = some x) :
    block.isStatement := by
  obtain ⟨f, hf, hfk, hfstart, -⟩ := hw.statement_of_next? h
  obtain ⟨rfl, hport⟩ := Port.mk.inj hfstart
  obtain ⟨-, -, s, -, hs, -, hslot, -⟩ := hw.statement_cases hf hfk
  rw [hb, Option.some.injEq] at hs
  subst hs
  have hown : "next" ∉ block.statements := fun h => by
    cases (hw.sound _ _ hb).own_statements _ h
  simpa [hport, Block.hasStatementSlot, hown] using hslot

/-- Nothing follows a value. -/
lemma next?_of_value {e : Edge} (he : e ∈ ws.edges) (hk : e.kind = .value) :
    ws.next? e.child = none := by
  rw [Option.eq_none_iff_forall_ne_some]
  intro y hy
  obtain ⟨-, -, s, -, hs, -, hexpr, -⟩ := hw.value_cases he hk
  have hstmt := hw.isStatement_of_followed (by simpa only [Edge.child, hk] using hs) hy
  simp only [Block.isExpression, Block.isStatement, beq_iff_eq] at hexpr hstmt
  simp [hexpr] at hstmt

/-- What the slots of a block hold is held by a connection, or follows what is. -/
lemma mem_slotChildren_iff (hb : ws.block? id = some block) :
    c ∈ ws.slotChildren id block ↔ ∃ e ∈ ws.edges, e.holder = id ∧ e.slot ≠ "next" ∧
      Relation.ReflTransGen (fun x y => ws.next? x = some y) e.child c := by
  have hsound := hw.sound id block hb
  constructor
  · intro h
    rcases List.mem_append.mp h with h | h
    · obtain ⟨s, hs, hheld⟩ := List.mem_filterMap.mp h
      have hown := hsound.own_values s hs
      obtain ⟨e, he, rfl, hholder, rfl⟩ := (hw.held?_eq_some_iff hown).mp hheld
      exact ⟨e, he, hholder, (hw.isOwnPort_slot he).mp hown, .refl⟩
    · obtain ⟨s, hs, hsuite⟩ := List.mem_flatMap.mp h
      have hown := hsound.own_statements s hs
      unfold suite at hsuite
      cases hheld : ws.held? id s with
      | none => simp [hheld] at hsuite
      | some first =>
        simp only [hheld] at hsuite
        obtain ⟨e, he, rfl, hholder, rfl⟩ := (hw.held?_eq_some_iff hown).mp hheld
        exact ⟨e, he, hholder, (hw.isOwnPort_slot he).mp hown,
          (hw.mem_chain_iff (hw.has_child he)).mp hsuite⟩
  · rintro ⟨e, he, hholder, hslot, hfollow⟩
    have hown := (hw.isOwnPort_slot he).mpr hslot
    have hheld := (hw.held?_eq_some_iff hown).mpr ⟨e, he, rfl, hholder, rfl⟩
    cases hk : e.kind with
    | value =>
      obtain ⟨-, -, -, t, -, ht, -, hvalue⟩ := hw.value_cases he hk
      simp only [Edge.holder, hk] at hholder
      rw [hholder, hb, Option.some.injEq] at ht
      subst ht
      have hlast : e.child = c := by
        rcases Relation.ReflTransGen.cases_head hfollow with h | ⟨y, hy, -⟩
        · exact h
        · rw [hw.next?_of_value he hk] at hy
          cases hy
      refine List.mem_append_left _ (List.mem_filterMap.mpr ⟨e.slot, ?_, hlast ▸ hheld⟩)
      simpa [Block.hasValueSlot, Edge.slot, hk] using hvalue
    | statement =>
      obtain ⟨-, -, s, -, hs, -, hstmt, -⟩ := hw.statement_cases he hk
      simp only [Edge.holder, Edge.slot, hk] at hholder hslot
      rw [hholder, hb, Option.some.injEq] at hs
      subst hs
      refine List.mem_append_right _ (List.mem_flatMap.mpr ⟨e.slot, ?_, ?_⟩)
      · simpa [Block.hasStatementSlot, Edge.slot, hk, hslot] using hstmt
      · rw [suite, hheld]
        exact (hw.mem_chain_iff (hw.has_child he)).mpr hfollow

/-- What the slots of a block hold comes in an order in which nothing is below what comes later. -/
lemma pairwise_slotChildren (hb : ws.block? id = some block) (hmeasured : block.Measured) :
    (ws.slotChildren id block).Pairwise fun c d => ¬ ws.Below c d := by
  have hsound := hw.sound id block hb
  -- What two slots hold has nothing in common below it.
  have hapart : ∀ {s s' c d}, s ≠ s' → (∃ e ∈ ws.edges, e.holder = id ∧ e.slot = s ∧
      ws.Below c e.child) → (∃ e ∈ ws.edges, e.holder = id ∧ e.slot = s' ∧ ws.Below d e.child) →
      ¬ ws.Below c d := by
    rintro s s' c d hne ⟨e, he, hholder, rfl, hc⟩ ⟨f, hf, hfholder, rfl, hd⟩ hcd
    exact hne (hw.eq_of_below he hf (hholder.trans hfholder.symm) hc (hcd.trans hd) ▸ rfl)
  have hvalue : ∀ {s c}, s ∈ block.values → ws.held? id s = some c →
      ∃ e ∈ ws.edges, e.holder = id ∧ e.slot = s ∧ ws.Below c e.child := by
    intro s c hs hheld
    obtain ⟨e, he, rfl, hholder, hslot⟩ :=
      (hw.held?_eq_some_iff (hsound.own_values s hs)).mp hheld
    exact ⟨e, he, hholder, hslot, .refl⟩
  have hsuite : ∀ {s c}, s ∈ block.statements → c ∈ ws.suite id s →
      ∃ e ∈ ws.edges, e.holder = id ∧ e.slot = s ∧ ws.Below c e.child := by
    intro s c hs hc
    unfold suite at hc
    cases hheld : ws.held? id s with
    | none => simp [hheld] at hc
    | some first =>
      simp only [hheld] at hc
      obtain ⟨e, he, rfl, hholder, hslot⟩ :=
        (hw.held?_eq_some_iff (hsound.own_statements s hs)).mp hheld
      exact ⟨e, he, hholder, hslot,
        hw.under_of_following ((hw.mem_chain_iff (hw.has_child he)).mp hc)⟩
  refine List.pairwise_append.mpr ⟨List.pairwise_filterMap.mpr ?_, List.pairwise_flatMap.mpr
    ⟨fun s hs => ?_, ?_⟩, fun c hc d hd => ?_⟩
  · refine hmeasured.values_nodup.imp_of_mem fun hs hs' hne c hc d hd => ?_
    exact hapart hne (hvalue hs hc) (hvalue hs' hd)
  · unfold suite
    cases hheld : ws.held? id s with
    | none => exact .nil
    | some first =>
      obtain ⟨e, he, rfl, -⟩ :=
        (hw.held?_eq_some_iff (hsound.own_statements s hs)).mp hheld
      exact (hw.pairwise_chain (hw.has_child he)).imp fun hdc hcd =>
        hw.acyclic _ (.trans_right hcd hdc)
  · refine hmeasured.statements_nodup.imp_of_mem fun hs hs' hne c hc d hd => ?_
    exact hapart hne (hsuite hs hc) (hsuite hs' hd)
  · obtain ⟨s, hs, hheld⟩ := List.mem_filterMap.mp hc
    obtain ⟨s', hs', hd⟩ := List.mem_flatMap.mp hd
    exact hapart (fun heq => hsound.apart s hs (by rwa [heq])) (hvalue hs hheld) (hsuite hs' hd)

/-- Below a block that nothing follows there is what its slots hold. -/
lemma below_iff_within (hb : ws.block? id = some block)
    (hend : ∀ e ∈ ws.edges, e.holder = id → e.slot ≠ "next") :
    ws.Below x id ↔ x = id ∨ ws.Within (ws.slotChildren id block) x := by
  constructor
  · intro h
    rcases Relation.ReflTransGen.cases_tail h with heq | ⟨y, hy, e, he, rfl, hholder⟩
    · exact .inl heq.symm
    · exact .inr ⟨e.child,
        (hw.mem_slotChildren_iff hb).mpr ⟨e, he, hholder, hend e he hholder, .refl⟩, hy⟩
  · rintro (rfl | ⟨c, hc, hx⟩)
    · exact .refl
    · exact hx.trans (hw.under_of_mem_slotChildren (hw.sound id block hb) hc).to_reflTransGen

/-- What the slots of a block hold can be deleted one after another exactly if its bodies, and
those below it, have one statement each. -/
lemma severable_slotChildren (hb : ws.block? id = some block)
    (hend : ∀ e ∈ ws.edges, e.holder = id → e.slot ≠ "next") :
    ws.Severable (ws.slotChildren id block) ↔ ws.Severable [id] := by
  rw [severable_singleton]
  constructor
  · intro h
    refine ⟨has_of_block? hb, fun x hx => ?_⟩
    rcases (hw.below_iff_within hb hend).mp hx with rfl | hx
    · refine hw.lone_iff.mpr fun e he hholder hslot f hf hfholder hfslot => ?_
      have hnext := hw.next?_eq_some_iff.mpr ⟨f, hf, rfl, hfholder, hfslot⟩
      have hunder := hw.under_of_next? hnext
      refine h.apart f.child ?_ e.child ?_ (fun heq => ?_) (.single hunder)
      · exact (hw.mem_slotChildren_iff hb).mpr ⟨e, he, hholder, hslot, .single hnext⟩
      · exact (hw.mem_slotChildren_iff hb).mpr ⟨e, he, hholder, hslot, .refl⟩
      · exact hw.acyclic _ (.single (heq ▸ hunder))
    · exact h.lone x hx
  · rintro ⟨-, hlone⟩
    -- With one statement in each body, everything in the slots is held by a connection.
    have hdirect : ∀ {c}, c ∈ ws.slotChildren id block →
        ∃ e ∈ ws.edges, e.holder = id ∧ e.child = c := by
      intro c hc
      obtain ⟨e, he, hholder, hslot, hfollow⟩ := (hw.mem_slotChildren_iff hb).mp hc
      refine ⟨e, he, hholder, ?_⟩
      rcases Relation.ReflTransGen.cases_head hfollow with heq | ⟨y, hy, -⟩
      · exact heq
      · obtain ⟨f, hf, -, hfholder, hfslot⟩ := hw.next?_eq_some_iff.mp hy
        exact absurd hfslot (hw.lone_iff.mp (hlone id .refl) e he hholder hslot f hf hfholder)
    refine ⟨fun c hc => ?_, fun c hc d hd hne hcd => ?_, fun x hx => ?_⟩
    · obtain ⟨e, he, -, rfl⟩ := hdirect hc
      exact hw.has_child he
    · obtain ⟨e, he, hholder, rfl⟩ := hdirect hc
      obtain ⟨f, hf, hfholder, rfl⟩ := hdirect hd
      exact hne (congrArg Edge.child
        (hw.eq_of_below he hf (hholder.trans hfholder.symm) .refl hcd))
    · exact hlone x ((hw.below_iff_within hb hend).mpr (.inr hx))

end Forest

/-! ## Cutting off what follows -/

/-- The workspace without the connection to what follows a block. -/
def parted (ws : Workspace) (id : BlockId) : Workspace := ws.drop (ws.outgoing id "next")

section Parted

variable (hw : ws.Forest)
include hw

/-- Parting a block from its next one leaves a forest. -/
lemma Forest.parted (id : BlockId) : (ws.parted id).Forest := hw.drop_outgoing id "next"

/-- The connection to what follows a block leaves from its end. -/
lemma Forest.start_eq_next_iff {e : Edge} (he : e ∈ ws.edges) :
    e.start = ⟨id, "next"⟩ ↔ e.holder = id ∧ e.slot = "next" := by
  cases hk : e.kind with
  | statement => simp [Edge.start, Edge.holder, Edge.slot, hk]
  | value =>
    obtain ⟨hout, hown, -⟩ := hw.value_cases he hk
    have hslot : e.targetPort ≠ "next" := by
      rintro hnext
      rw [hnext] at hown
      cases hown
    simp [Edge.start, Edge.holder, Edge.slot, hk, hout, hslot]

/-- Parting drops the edge to the next block and no other. -/
lemma Forest.mem_parted_iff {e : Edge} : e ∈ (ws.parted id).edges ↔
    e ∈ ws.edges ∧ (e.holder = id → e.slot ≠ "next") := by
  rw [Workspace.parted, mem_drop_outgoing]
  refine and_congr_right fun he => ?_
  rw [Ne, hw.start_eq_next_iff he, not_and]

/-- What is below a block is below it or below what follows it when that is cut off. -/
lemma Forest.below_iff_parted : ws.Below x id ↔
    (ws.parted id).Within ((ws.next? id).toList ++ [id]) x := by
  constructor
  · intro h
    induction h using Relation.ReflTransGen.head_induction_on with
    | refl => exact ⟨id, by simp, .refl⟩
    | @head x y hstep _ ih =>
      obtain ⟨e, he, rfl, rfl⟩ := hstep
      by_cases hnext : e.holder = id ∧ e.slot = "next"
      · have hfollow := hw.next?_eq_some_iff.mpr ⟨e, he, rfl, hnext⟩
        exact ⟨e.child, by simp [hfollow], .refl⟩
      · obtain ⟨c, hc, hbelow⟩ := ih
        exact ⟨c, hc, .head ⟨e, hw.mem_parted_iff.mpr ⟨he, not_and.mp hnext⟩, rfl, rfl⟩ hbelow⟩
  · rintro ⟨c, hc, hbelow⟩
    have hbelow : ws.Below x c := reflTransGen_mono (drop_sublist ws _).subset hbelow
    rcases List.mem_append.mp hc with hc | hc
    · exact hbelow.tail (hw.under_of_next? (Option.mem_toList.mp hc))
    · rwa [← List.mem_singleton.mp hc]

/-- Bodies below a block have the same statements whether or not something follows the block. -/
lemma Forest.lone_parted_iff (hx : ws.Below x id) : (ws.parted id).Lone x ↔ ws.Lone x := by
  constructor
  · intro h
    refine h.of_kept hw (hw.parted id) fun e he hbelow hslot =>
      hw.mem_parted_iff.mpr ⟨he, fun hholder => ?_⟩
    rcases Relation.ReflTransGen.cases_head hx with rfl | ⟨y, hy, hyid⟩
    · exact hslot hholder
    · exact absurd (hyid.trans (hholder ▸ hbelow)) (hw.not_below_of_under hy)
  · exact fun h => h.mono hw (hw.parted id) (drop_sublist ws _).subset

/-- Nothing holds what followed a block. -/
lemma Forest.not_under_parted {next : BlockId} (hnext : ws.next? id = some next) :
    ¬ Under (ws.parted id).edges next x := by
  rintro ⟨e, he, hchild, -⟩
  obtain ⟨he, hslot⟩ := hw.mem_parted_iff.mp he
  obtain ⟨f, hf, hfchild, hholder, hfslot⟩ := hw.next?_eq_some_iff.mp hnext
  obtain rfl := hw.eq_of_child he hf (hchild.trans hfchild.symm)
  exact hslot hholder hfslot

/-- What followed a block is not below it when it is cut off. -/
lemma Forest.not_below_parted {next : BlockId} (hnext : ws.next? id = some next) :
    ¬ (ws.parted id).Below next id := by
  intro h
  rcases Relation.ReflTransGen.cases_head h with rfl | ⟨y, hy, -⟩
  · exact hw.acyclic _ (.single (hw.under_of_next? hnext))
  · exact hw.not_under_parted hnext hy

/-- What follows a block and the block can be deleted one after the other if the block can. -/
lemma Forest.severable_parted (hid : ws.has id) :
    (ws.parted id).Severable ((ws.next? id).toList ++ [id]) ↔ ws.Severable [id] := by
  rw [severable_singleton]
  have hnextMem : ∀ {c}, c ∈ (ws.next? id).toList ↔ ws.next? id = some c := Option.mem_toList
  constructor
  · exact fun h => ⟨hid, fun x hx =>
      (hw.lone_parted_iff hx).mp (h.lone x (hw.below_iff_parted.mp hx))⟩
  · rintro ⟨-, hlone⟩
    have hfree : ∀ {n}, ws.next? id = some n → ¬ (ws.parted id).Below id n := fun hn h =>
      hw.not_below_of_under (hw.under_of_next? hn) (reflTransGen_mono (drop_sublist ws _).subset h)
    refine ⟨fun c hc => ?_, fun c hc d hd hne => ?_, fun x hx => ?_⟩
    · change ws.has c
      rcases List.mem_append.mp hc with hc | hc
      · obtain ⟨e, he, rfl, -⟩ := hw.next?_eq_some_iff.mp (hnextMem.mp hc)
        exact hw.has_child he
      · rwa [List.mem_singleton.mp hc]
    · rcases List.mem_append.mp hc with hc | hc <;> rcases List.mem_append.mp hd with hd | hd
      · have heq := (hnextMem.mp hc).symm.trans (hnextMem.mp hd)
        exact absurd (Option.some.inj heq) hne
      · rw [List.mem_singleton.mp hd]
        exact hw.not_below_parted (hnextMem.mp hc)
      · rw [List.mem_singleton.mp hc]
        exact hfree (hnextMem.mp hd)
      · exact absurd ((List.mem_singleton.mp hc).trans (List.mem_singleton.mp hd).symm) hne
    · have hbelow := hw.below_iff_parted.mpr hx
      exact (hw.lone_parted_iff hbelow).mpr (hlone x hbelow)

/-- What goes with a block from a workspace where nothing follows it, goes with what follows. -/
lemma Cleared.of_parted (h : Cleared (ws.parted id) ws' (ws.Below · id)) :
    Cleared ws ws' (ws.Below · id) where
  gone := h.gone
  blocks := h.blocks
  positions := h.positions
  selected := h.selected
  edges e := by
    rw [h.edges, hw.mem_parted_iff, and_assoc]
    refine and_congr_right fun he => and_iff_right_of_imp fun hstays hholder _ => ?_
    exact hstays (.single ⟨e, he, rfl, hholder⟩)

end Parted

end Workspace

end BlockText

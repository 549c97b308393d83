import BlockText.Proofs.Workspace.Connecting

/-!
# The trees of a forest

In a forest, reading the blocks from a place downward never runs out of fuel, because fewer and
fewer blocks are below as one goes down.  So the tree of a block is the block with the trees of
what its slots hold and the tree of what follows it.  The tree depends only on what is below the
block, and one more connection changes it at one place.
-/

namespace BlockText

/-! ## Chains -/

namespace BlockTree

/-- The block at the top of a tree. -/
def root? : BlockTree → Option BlockId
  | nothing => none
  | node id _ _ _ => some id

/-- The last block of a chain. -/
def last? : BlockTree → Option BlockId
  | nothing => none
  | node id _ _ next => some (next.last?.getD id)

/-- A chain with another one after its last block. -/
def append : BlockTree → BlockTree → BlockTree
  | nothing, t => t
  | node id b slot next, t => node id b slot (next.append t)

/-- All blocks of a chain are statements. -/
def IsChain : BlockTree → Prop
  | nothing => True
  | node _ b _ next => b.isStatement ∧ next.IsChain

@[simp] lemma root?_nothing : nothing.root? = none := rfl

@[simp] lemma root?_node (id : BlockId) (b : Block) (slot : String → BlockTree) (next : BlockTree) :
    (node id b slot next).root? = some id := rfl

/-- Only the empty tree has no root. -/
@[simp] lemma root?_eq_none {t : BlockTree} : t.root? = none ↔ t = nothing := by
  cases t <;> simp

@[simp] lemma last?_nothing : nothing.last? = none := rfl

/-- Only the empty tree has no last block. -/
@[simp] lemma last?_eq_none {t : BlockTree} : t.last? = none ↔ t = nothing := by
  cases t <;> simp [last?]

/-- A chain of several blocks ends where its rest ends. -/
lemma last?_node_of_ne {next : BlockTree} (h : next ≠ nothing) (id : BlockId) (b : Block)
    (slot : String → BlockTree) : (node id b slot next).last? = next.last? := by
  obtain ⟨last, hlast⟩ := Option.ne_none_iff_exists'.mp fun hn => h (last?_eq_none.mp hn)
  rw [last?, hlast, Option.getD_some]

@[simp] lemma last?_single (id : BlockId) (b : Block) (slot : String → BlockTree) :
    (node id b slot nothing).last? = some id := rfl

@[simp] lemma nothing_append (t : BlockTree) : nothing.append t = t := rfl

@[simp] lemma append_nothing (t : BlockTree) : t.append nothing = t := by
  induction t with
  | nothing => rfl
  | node id b slot next _ ih => rw [append, ih]

/-- Chaining trees is associative. -/
lemma append_assoc (t u v : BlockTree) : (t.append u).append v = t.append (u.append v) := by
  induction t with
  | nothing => rfl
  | node id b slot next _ ih => rw [append, append, append, ih]

/-- Chains one after the other are a chain. -/
lemma IsChain.append {t u : BlockTree} (ht : t.IsChain) (hu : u.IsChain) :
    (t.append u).IsChain := by
  induction t with
  | nothing => exact hu
  | node id b slot next _ ih => exact ⟨ht.1, ih ht.2⟩

end BlockTree

namespace Workspace

/-- A block is under another one, or is that block. -/
abbrev Below (ws : Workspace) (a b : BlockId) : Prop := Relation.ReflTransGen (Under ws.edges) a b

namespace Forest

variable {ws ws' : Workspace}

/-! ## What is below a block -/

/-- What a slot holds is under the block. -/
lemma under_of_held? (hw : ws.Forest) {a b : BlockId} {s : String} (hs : isOwnPort s = false)
    (h : ws.held? a s = some b) : Under ws.edges b a := by
  obtain ⟨e, he, hchild, hholder, -⟩ := (hw.held?_eq_some_iff hs).mp h
  exact ⟨e, he, hchild, hholder⟩

/-- Nothing under a block has the block below it. -/
lemma not_below_of_under (hw : ws.Forest) {a b : BlockId} (h : Under ws.edges a b) :
    ¬ ws.Below b a :=
  fun hbelow => hw.acyclic a (Relation.TransGen.head' h hbelow)

/-- Two connections to one holder with a common block below their children are the same. -/
lemma eq_of_below (hw : ws.Forest) {e f : Edge} (he : e ∈ ws.edges) (hf : f ∈ ws.edges)
    (hholder : e.holder = f.holder) {y : BlockId} (hye : ws.Below y e.child)
    (hyf : ws.Below y f.child) : e = f := by
  -- The ways up from the common block are parts of one way, and none leads through the holder.
  have hsame : ∀ {e f : Edge}, e ∈ ws.edges → f ∈ ws.edges → e.holder = f.holder →
      ws.Below e.child f.child → e.child = f.child := by
    intro e f he hf hholder hbelow
    rcases Relation.ReflTransGen.cases_head hbelow with h | ⟨x, hx, hrest⟩
    · exact h
    · have hxe : x = f.holder := (hw.under_unique hx ⟨e, he, rfl, rfl⟩).trans hholder
      exact absurd (hxe ▸ hrest) (hw.not_below_of_under ⟨f, hf, rfl, rfl⟩)
  have hunique : Relator.RightUnique (Under ws.edges) := fun _ _ _ => hw.under_unique
  rcases Relation.ReflTransGen.total_of_right_unique hunique hye hyf with h | h
  · exact hw.eq_of_child he hf (hsame he hf hholder h)
  · exact hw.eq_of_child he hf (hsame hf he hholder.symm h).symm

/-- A block is below one block at most that nothing holds. -/
lemma eq_of_below_loose (hw : ws.Forest) {y a b : BlockId} (ha : ws.Below y a) (hb : ws.Below y b)
    (hla : ws.parent? a = none) (hlb : ws.parent? b = none) : a = b := by
  have htop : ∀ {x z : BlockId}, ws.parent? x = none → ws.Below x z → x = z := by
    intro x z hx hxz
    rcases Relation.ReflTransGen.cases_head hxz with h | ⟨w, hw', -⟩
    · exact h
    · rw [hw.parent?_eq_some_iff.mpr hw'] at hx
      cases hx
  have hunique : Relator.RightUnique (Under ws.edges) := fun _ _ _ => hw.under_unique
  rcases Relation.ReflTransGen.total_of_right_unique hunique ha hb with h | h
  · exact htop hla h
  · exact (htop hlb h).symm

open Classical in
/-- The number of blocks that are below a block. -/
noncomputable def weight (ws : Workspace) (id : BlockId) : ℕ :=
  (ws.ids.toFinset.filter fun y => ws.Below y id).card

/-- There are at most all blocks below a block. -/
lemma weight_le (ws : Workspace) (id : BlockId) : weight ws id ≤ ws.blocks.length := by
  classical
  calc weight ws id ≤ ws.ids.toFinset.card := Finset.card_filter_le _ _
    _ ≤ ws.ids.length := List.toFinset_card_le _
    _ = ws.blocks.length := length_ids ws

/-- A block has something below it. -/
lemma weight_pos {id : BlockId} (h : ws.has id) : 0 < weight ws id := by
  classical
  refine Finset.card_pos.mpr ⟨id, ?_⟩
  simpa [has_iff_mem_ids] using ⟨has_iff_mem_ids.mp h, Relation.ReflTransGen.refl⟩

/-- Fewer blocks are below a block than below the one that holds it. -/
lemma weight_lt (hw : ws.Forest) {a b : BlockId} (h : Under ws.edges a b) :
    weight ws a < weight ws b := by
  classical
  refine Finset.card_lt_card (Finset.ssubset_iff_of_subset ?_ |>.mpr ⟨b, ?_, ?_⟩)
  · intro y hy
    rw [Finset.mem_filter] at hy ⊢
    exact ⟨hy.1, hy.2.tail h⟩
  · obtain ⟨e, he, -, rfl⟩ := h
    rw [Finset.mem_filter, List.mem_toFinset]
    exact ⟨has_iff_mem_ids.mp (hw.has_holder he), .refl⟩
  · rw [Finset.mem_filter]
    exact fun hb => hw.not_below_of_under h hb.2

/-! ## Unfolding -/

/-- Fuel for all blocks below a place is enough. -/
private lemma treeWithin_eq (hw : ws.Forest) (n m : ℕ) (o : Option BlockId)
    (hn : ∀ id, o = some id → weight ws id ≤ n) (hm : ∀ id, o = some id → weight ws id ≤ m) :
    ws.treeWithin n o = ws.treeWithin m o := by
  induction n generalizing m o with
  | zero =>
    cases o with
    | none => cases m <;> rfl
    | some id =>
      have hnone : ws.block? id = none := by
        refine block?_eq_none fun h => ?_
        have := weight_pos h
        have := hn id rfl
        omega
      cases m with
      | zero => rfl
      | succ m => simp [treeWithin, hnone]
  | succ n ih =>
    cases o with
    | none => cases m <;> rfl
    | some id =>
      cases hb : ws.block? id with
      | none => cases m <;> simp [treeWithin, hb]
      | some b =>
        have hpos := weight_pos (has_of_block? hb)
        have hn' := hn id rfl
        have hm' := hm id rfl
        obtain ⟨m, rfl⟩ : ∃ k, m = k + 1 := ⟨m - 1, by omega⟩
        have hchild : ∀ o, (∀ y, o = some y → Under ws.edges y id) →
            ws.treeWithin n o = ws.treeWithin m o := fun o ho =>
          ih m o (fun y hy => by have := hw.weight_lt (ho y hy); omega)
            (fun y hy => by have := hw.weight_lt (ho y hy); omega)
        have hslots : ∀ s, isOwnPort s = false →
            ws.treeWithin n (ws.held? id s) = ws.treeWithin m (ws.held? id s) :=
          fun s hs => hchild _ fun y hy => hw.under_of_held? hs hy
        have hnext : ws.treeWithin n (ws.next? id) = ws.treeWithin m (ws.next? id) :=
          hchild _ fun y hy => hw.under_of_next? hy
        simp only [treeWithin, hb, hnext, BlockTree.node.injEq, true_and, and_true]
        funext s
        cases hs : isOwnPort s with
        | true => rfl
        | false => exact hslots s hs

/-- Nothing stands at an empty place. -/
@[simp] lemma tree_none (ws : Workspace) : ws.tree none = .nothing := by
  rw [tree]
  cases ws.blocks.length <;> rfl

/-- The tree of a block: what its slots hold and what follows it. -/
lemma tree_some (hw : ws.Forest) {id : BlockId} {b : Block} (hb : ws.block? id = some b) :
    ws.tree (some id) =
      .node id b (fun s => if isOwnPort s then .nothing else ws.tree (ws.held? id s))
        (ws.tree (ws.next? id)) := by
  have hle := weight_le ws
  have hunfold : ws.treeWithin (ws.blocks.length + 1) (some id) =
      .node id b (fun s => if isOwnPort s then .nothing else ws.tree (ws.held? id s))
        (ws.tree (ws.next? id)) := by
    simp [treeWithin, hb, tree]
  rw [← hunfold]
  exact hw.treeWithin_eq _ _ _ (fun y _ => hle y) fun y _ => (hle y).trans (Nat.le_succ _)

/-- A name that no block has stands for nothing. -/
lemma tree_of_not_has {id : BlockId} (h : ¬ ws.has id) : ws.tree (some id) = .nothing := by
  rw [tree]
  cases ws.blocks.length <;> simp [treeWithin, block?_eq_none h]

/-- The tree of a block has the block at its top. -/
lemma root?_tree (hw : ws.Forest) {id : BlockId} (h : ws.has id) :
    (ws.tree (some id)).root? = some id := by
  obtain ⟨b, hb⟩ := has_iff_block?.mp h
  rw [hw.tree_some hb, BlockTree.root?_node]

/-- Something stands where a block follows another. -/
lemma tree_ne_nothing_of_next? (hw : ws.Forest) {a b : BlockId} (h : ws.next? a = some b) :
    ws.tree (some b) ≠ .nothing := by
  obtain ⟨e, he, rfl, -⟩ := hw.under_of_next? h
  intro ht
  have hroot := hw.root?_tree (hw.has_child he)
  rw [ht] at hroot
  cases hroot

/-- The parts of the tree of a block. -/
lemma of_tree_eq_node (hw : ws.Forest) {o : Option BlockId} {id : BlockId} {b : Block}
    {slot : String → BlockTree} {next : BlockTree} (h : ws.tree o = .node id b slot next) :
    o = some id ∧ ws.block? id = some b ∧
      (∀ s, slot s = if isOwnPort s then .nothing else ws.tree (ws.held? id s)) ∧
      next = ws.tree (ws.next? id) := by
  cases o with
  | none => simp at h
  | some x =>
    by_cases hx : ws.has x
    · obtain ⟨c, hc⟩ := has_iff_block?.mp hx
      rw [hw.tree_some hc] at h
      injection h with hid hblock hslot hnext
      subst hid hblock
      exact ⟨rfl, hc, fun s => by rw [← hslot], hnext.symm⟩
    · rw [tree_of_not_has hx] at h
      cases h

/-- The two workspaces have the same block under a name, with the same things in its slots and
after it. -/
structure Agree (ws ws' : Workspace) (id : BlockId) : Prop where
  block? : ws'.block? id = ws.block? id
  held? : ∀ s, isOwnPort s = false → ws'.held? id s = ws.held? id s
  next? : ws'.next? id = ws.next? id

/-- Workspaces that agree on everything below a block have the same tree of it. -/
lemma tree_congr (hw : ws.Forest) (hw' : ws'.Forest) {o : Option BlockId}
    (h : ∀ id, o = some id → ∀ y, ws.Below y id → Agree ws ws' y) : ws'.tree o = ws.tree o := by
  cases o with
  | none => simp
  | some id =>
    have hbelow := h id rfl
    clear h
    induction hweight : weight ws id using Nat.strong_induction_on generalizing id with
    | _ n ih =>
      have hid := hbelow id .refl
      cases hb : ws.block? id with
      | none =>
        have hnot : ∀ {ws : Workspace}, ws.block? id = none → ¬ ws.has id := fun hb h => by
          obtain ⟨b, hb'⟩ := has_iff_block?.mp h
          rw [hb] at hb'
          cases hb'
        rw [tree_of_not_has (hnot hb), tree_of_not_has (hnot (hid.block?.trans hb))]
      | some b =>
        have hchild : ∀ o, (∀ y, o = some y → Under ws.edges y id) → ws'.tree o = ws.tree o := by
          intro o ho
          cases o with
          | none => simp
          | some y =>
            have hy := ho y rfl
            exact ih _ (hweight ▸ hw.weight_lt hy) y (fun z hz => hbelow z (hz.tail hy)) rfl
        rw [hw.tree_some hb, hw'.tree_some (hid.block?.trans hb), hid.next?,
          hchild _ fun y hy => hw.under_of_next? hy]
        congr 1
        funext s
        cases hs : isOwnPort s with
        | true => rfl
        | false => simp [hid.held? s hs, hchild _ fun y hy => hw.under_of_held? hs hy]

/-- The last block of a chain is the first, or the last of those that follow it. -/
lemma last?_tree_cases (hw : ws.Forest) {id last : BlockId}
    (h : (ws.tree (some id)).last? = some last) :
    (ws.next? id = none ∧ last = id) ∨
      ∃ y, ws.next? id = some y ∧ (ws.tree (some y)).last? = some last := by
  cases ht : ws.tree (some id) with
  | nothing => simp [ht] at h
  | node x b slot next =>
    obtain ⟨hx, -, -, hnext⟩ := hw.of_tree_eq_node ht
    obtain rfl := Option.some.inj hx
    rw [ht] at h
    cases hn : ws.next? id with
    | none =>
      rw [hnext, hn, tree_none, BlockTree.last?_single, Option.some.injEq] at h
      exact .inl ⟨rfl, h.symm⟩
    | some y =>
      rw [hn] at hnext
      rw [hnext, BlockTree.last?_node_of_ne (hw.tree_ne_nothing_of_next? hn)] at h
      exact .inr ⟨y, rfl, h⟩

/-- The last block of a chain is below the first. -/
lemma below_of_last? (hw : ws.Forest) {id last : BlockId}
    (h : (ws.tree (some id)).last? = some last) : ws.Below last id := by
  induction hweight : weight ws id using Nat.strong_induction_on generalizing id with
  | _ n ih =>
    rcases hw.last?_tree_cases h with ⟨-, rfl⟩ | ⟨y, hy, hlast⟩
    · exact .refl
    · have hunder := hw.under_of_next? hy
      exact (ih _ (hweight ▸ hw.weight_lt hunder) hlast rfl).tail hunder

/-- The last block of a chain is a statement that nothing follows. -/
lemma last_of_isChain (hw : ws.Forest) {id last : BlockId} (hchain : (ws.tree (some id)).IsChain)
    (h : (ws.tree (some id)).last? = some last) :
    ∃ b, ws.block? last = some b ∧ b.isStatement ∧ ws.next? last = none := by
  induction ht : ws.tree (some id) generalizing id with
  | nothing => simp [ht] at h
  | node x b slot next _ ih =>
    obtain ⟨hx, hb, -, hnext⟩ := hw.of_tree_eq_node ht
    obtain rfl := Option.some.inj hx
    rw [ht] at hchain
    rcases hw.last?_tree_cases h with ⟨hnone, rfl⟩ | ⟨y, hy, hlast⟩
    · exact ⟨b, hb, hchain.1, hnone⟩
    · rw [hy] at hnext
      exact ih (hnext ▸ hchain.2) hlast hnext.symm

/-- The last block of a chain is in no slot of the first. -/
lemma not_below_slot_of_last? (hw : ws.Forest) {id last y : BlockId} {s : String}
    (h : (ws.tree (some id)).last? = some last) (hs : isOwnPort s = false)
    (hy : ws.held? id s = some y) : ¬ ws.Below last y := by
  intro hbelow
  obtain ⟨f, hf, rfl, hfid, hfs⟩ := (hw.held?_eq_some_iff hs).mp hy
  rcases hw.last?_tree_cases h with ⟨-, rfl⟩ | ⟨z, hz, hlast⟩
  · exact hw.not_below_of_under ⟨f, hf, rfl, hfid⟩ hbelow
  · obtain ⟨g, hg, rfl, hgid, hgs⟩ := hw.next?_eq_some_iff.mp hz
    have hfg := hw.eq_of_below hf hg (hfid.trans hgid.symm) hbelow (hw.below_of_last? hlast)
    rw [← hfs, hfg, hgs] at hs
    simp [isOwnPort] at hs

/-! ## One more connection -/

section Connect

variable {e : Edge} (hw : ws.Forest) (hw' : (ws.connect e).Forest)

include hw hw'

/-- What a slot holds after a connection was made. -/
lemma held?_connect {a : BlockId} {s : String} (hs : isOwnPort s = false) :
    (ws.connect e).held? a s =
      if e.holder = a ∧ e.slot = s then some e.child else ws.held? a s := by
  split
  case isTrue h => exact (hw'.held?_eq_some_iff hs).mpr ⟨e, by simp, rfl, h⟩
  case isFalse h =>
    ext b
    rw [hw'.held?_eq_some_iff hs, hw.held?_eq_some_iff hs]
    simp only [edges_connect, List.mem_append, List.mem_singleton]
    constructor
    · rintro ⟨f, hf | rfl, hchild, hat⟩
      · exact ⟨f, hf, hchild, hat⟩
      · exact absurd hat h
    · rintro ⟨f, hf, hat⟩
      exact ⟨f, .inl hf, hat⟩

/-- What follows a statement after a connection was made. -/
lemma next?_connect {a : BlockId} :
    (ws.connect e).next? a =
      if e.holder = a ∧ e.slot = "next" then some e.child else ws.next? a := by
  split
  case isTrue h => exact hw'.next?_eq_some_iff.mpr ⟨e, by simp, rfl, h⟩
  case isFalse h =>
    ext b
    rw [hw'.next?_eq_some_iff, hw.next?_eq_some_iff]
    simp only [edges_connect, List.mem_append, List.mem_singleton]
    constructor
    · rintro ⟨f, hf | rfl, hchild, hat⟩
      · exact ⟨f, hf, hchild, hat⟩
      · exact absurd hat h
    · rintro ⟨f, hf, hat⟩
      exact ⟨f, .inl hf, hat⟩

/-- What holds a block after a connection was made. -/
lemma parent?_connect {a : BlockId} :
    (ws.connect e).parent? a = if e.child = a then some e.holder else ws.parent? a := by
  split
  case isTrue h => exact hw'.parent?_eq_some_iff.mpr ⟨e, by simp, h, rfl⟩
  case isFalse h =>
    ext b
    rw [hw'.parent?_eq_some_iff, hw.parent?_eq_some_iff]
    constructor
    · rintro ⟨f, hf, hchild, hholder⟩
      rcases List.mem_append.mp hf with hf | hf
      · exact ⟨f, hf, hchild, hholder⟩
      · rw [List.mem_singleton.mp hf] at hchild
        exact absurd hchild h
    · exact Under.mono (List.subset_append_left _ _)

/-- A connection changes nothing at blocks other than its holder. -/
lemma agree_connect {y : BlockId} (hy : y ≠ e.holder) : Agree ws (ws.connect e) y where
  block? := block?_connect ws e y
  held? s hs := by rw [hw.held?_connect hw' hs, if_neg fun h => hy h.1.symm]
  next? := by rw [hw.next?_connect hw', if_neg fun h => hy h.1.symm]

/-- A connection changes no tree that its holder is not in. -/
lemma tree_connect_of_not_below {o : Option BlockId}
    (h : ∀ id, o = some id → ¬ ws.Below e.holder id) : (ws.connect e).tree o = ws.tree o :=
  hw.tree_congr hw' fun id ho _ hy => hw.agree_connect hw' fun he => h id ho (he ▸ hy)

/-- A connection to a slot fills the slot. -/
lemma tree_connect_slot {b : Block} {slot : String → BlockTree} {next : BlockTree}
    (hs : isOwnPort e.slot = false) (hfree : ¬ ws.Below e.holder e.child)
    (ht : ws.tree (some e.holder) = .node e.holder b slot next) :
    (ws.connect e).tree (some e.holder) =
      .node e.holder b (Function.update slot e.slot (ws.tree (some e.child))) next := by
  obtain ⟨-, hb, hslot, hnext⟩ := hw.of_tree_eq_node ht
  have hkeep : ∀ o, (∀ y, o = some y → Under ws.edges y e.holder) →
      (ws.connect e).tree o = ws.tree o := fun _ ho =>
    hw.tree_connect_of_not_below hw' fun y hy => hw.not_below_of_under (ho y hy)
  have hnot : e.slot ≠ "next" := by
    intro h
    simp [h, isOwnPort] at hs
  rw [hw'.tree_some ((block?_connect ws e e.holder).trans hb), hw.next?_connect hw',
    if_neg (fun h => hnot h.2), hkeep _ fun y hy => hw.under_of_next? hy, hnext]
  congr 1
  funext s
  by_cases hse : s = e.slot
  · subst hse
    rw [Function.update_self, if_neg (by simp [hs]), hw.held?_connect hw' hs, if_pos ⟨rfl, rfl⟩]
    exact hw.tree_connect_of_not_below hw' fun id hid => by
      rw [← Option.some.inj hid]
      exact hfree
  · rw [Function.update_of_ne hse, hslot s]
    cases hown : isOwnPort s with
    | true => rfl
    | false =>
      rw [if_neg (by simp), if_neg (by simp), hw.held?_connect hw' hown,
        if_neg fun h => hse h.2.symm]
      exact hkeep _ fun y hy => hw.under_of_held? hown hy

/-- A connection from the end of a block changes the slots of no block above it. -/
private lemma tree_held?_connect_next {id : BlockId} (hslot : e.slot = "next") {s : String}
    (hs : isOwnPort s = false) (h : ∀ y, ws.held? id s = some y → ¬ ws.Below e.holder y) :
    (ws.connect e).tree ((ws.connect e).held? id s) = ws.tree (ws.held? id s) := by
  have hne : e.slot ≠ s := by
    intro h
    rw [← h, hslot] at hs
    simp [isOwnPort] at hs
  rw [hw.held?_connect hw' hs, if_neg fun h => hne h.2]
  exact hw.tree_connect_of_not_below hw' h

/-- A connection from the last block of a chain puts a chain after it. -/
lemma tree_connect_last {id : BlockId} (hslot : e.slot = "next")
    (hfree : ¬ ws.Below e.holder e.child) (hlast : (ws.tree (some id)).last? = some e.holder) :
    (ws.connect e).tree (some id) = (ws.tree (some id)).append (ws.tree (some e.child)) := by
  have hchild : (ws.connect e).tree (some e.child) = ws.tree (some e.child) :=
    hw.tree_connect_of_not_below hw' fun x hx => by
      rw [← Option.some.inj hx]
      exact hfree
  induction ht : ws.tree (some id) generalizing id with
  | nothing => simp [ht] at hlast
  | node x b slot next _ ih =>
    obtain ⟨hx, hb, hslots, hnext⟩ := hw.of_tree_eq_node ht
    obtain rfl := Option.some.inj hx
    rw [hw'.tree_some ((block?_connect ws e id).trans hb), BlockTree.append]
    congr 1
    · funext s
      rw [hslots s]
      cases hs : isOwnPort s with
      | true => rfl
      | false =>
        exact hw.tree_held?_connect_next hw' hslot hs fun y =>
          hw.not_below_slot_of_last? hlast hs
    · rw [hw.next?_connect hw', hnext]
      rcases hw.last?_tree_cases hlast with ⟨hn, hid⟩ | ⟨z, hz, hl⟩
      · rw [if_pos ⟨hid, hslot⟩, hn, hchild, tree_none, BlockTree.nothing_append]
      · have hne : e.holder ≠ id := by
          rintro rfl
          exact hw.not_below_of_under (hw.under_of_next? hz) (hw.below_of_last? hl)
        rw [if_neg fun h => hne h.1, hz, ih hl (by rw [hnext, hz]), hnext, hz]

/-- A connection from the last block in a slot puts a chain after it. -/
lemma tree_connect_last_in_slot {id first : BlockId} {b : Block} {slot : String → BlockTree}
    {next : BlockTree} {s : String} (hs : isOwnPort s = false) (hslot : e.slot = "next")
    (hfree : ¬ ws.Below e.holder e.child) (ht : ws.tree (some id) = .node id b slot next)
    (hfirst : ws.held? id s = some first)
    (hlast : (slot s).last? = some e.holder) :
    (ws.connect e).tree (some id) =
      .node id b (Function.update slot s ((slot s).append (ws.tree (some e.child)))) next := by
  obtain ⟨-, hb, hslots, hnext⟩ := hw.of_tree_eq_node ht
  have hfill : slot s = ws.tree (some first) := by
    rw [hslots s, if_neg (by simp [hs]), hfirst]
  rw [hfill] at hlast
  have hbelow := hw.below_of_last? hlast
  obtain ⟨f, hf, hfc, hfid, hfs⟩ := (hw.held?_eq_some_iff hs).mp hfirst
  have hne : e.holder ≠ id := by
    rintro rfl
    exact hw.not_below_of_under ⟨f, hf, hfc, hfid⟩ hbelow
  -- The last block is below what one port holds, so it is below what no other port holds.
  have hother : ∀ g ∈ ws.edges, g.holder = id → g.slot ≠ s → ¬ ws.Below e.holder g.child := by
    intro g hg hgid hgs hgb
    have hfg := hw.eq_of_below hf hg (hfid.trans hgid.symm) (hfc ▸ hbelow) hgb
    exact hgs (hfg ▸ hfs)
  rw [hw'.tree_some ((block?_connect ws e id).trans hb), hw.next?_connect hw',
    if_neg fun h => hne h.1, hnext]
  congr 1
  · funext s'
    by_cases hss : s' = s
    · subst hss
      rw [Function.update_self, if_neg (by simp [hs]), hw.held?_connect hw' hs,
        if_neg (fun h => hne h.1), hfirst, hfill]
      exact hw.tree_connect_last hw' hslot hfree hlast
    · rw [Function.update_of_ne hss, hslots s']
      cases hs' : isOwnPort s' with
      | true => rfl
      | false =>
        refine hw.tree_held?_connect_next hw' hslot hs' fun y hy => ?_
        obtain ⟨g, hg, rfl, hgid, hgs⟩ := (hw.held?_eq_some_iff hs').mp hy
        exact hother g hg hgid (hgs ▸ hss)
  · refine hw.tree_connect_of_not_below hw' fun y hy => ?_
    obtain ⟨g, hg, rfl, hgid, hgs⟩ := hw.next?_eq_some_iff.mp hy
    refine hother g hg hgid fun h => ?_
    rw [← h, hgs] at hs
    simp [isOwnPort] at hs

end Connect

end Forest

end Workspace

end BlockText

import BlockText.Proofs.Workspace.Measuring
import BlockText.Proofs.Workspace.Trees

/-!
# The statements of a tree

The statements of a tree are the blocks of its chain and the statements in their slots, at any
depth.  In a forest these are all statements below the first block of the chain, and each of them is
listed once.
-/

namespace BlockText

namespace BlockTree

/-- The blocks of a chain. -/
def spine : BlockTree → List (BlockId × Block)
  | nothing => []
  | node id b _ next => (id, b) :: next.spine

/-- The statements in the slots of the blocks of a chain, at any depth. -/
def inside : BlockTree → List (BlockId × Block)
  | nothing => []
  | node _ b slot next =>
    (b.statements.flatMap fun s => (slot s).spine ++ (slot s).inside) ++ next.inside

/-- The statements of a tree. -/
def members (t : BlockTree) : List (BlockId × Block) := t.spine ++ t.inside

@[simp] lemma members_nothing : nothing.members = [] := rfl

/-- The statements of a tree are its first block, those in its slots and those after it. -/
lemma members_node_perm (id : BlockId) (b : Block) (slot : String → BlockTree) (next : BlockTree) :
    (node id b slot next).members.Perm
      ((id, b) :: ((b.statements.flatMap fun s => (slot s).members) ++ next.members)) :=
  (List.perm_append_comm_assoc _ _ _).cons _

lemma mem_members_node {id : BlockId} {b : Block} {slot : String → BlockTree} {next : BlockTree}
    {entry : BlockId × Block} : entry ∈ (node id b slot next).members ↔
      entry = (id, b) ∨ (∃ s ∈ b.statements, entry ∈ (slot s).members) ∨ entry ∈ next.members := by
  rw [(members_node_perm id b slot next).mem_iff, List.mem_cons, List.mem_append, List.mem_flatMap]

end BlockTree

/-- A slot for statements that is not the port for what follows is listed. -/
lemma Block.mem_statements_of_slot {b : Block} {s : String} (h : b.hasStatementSlot s)
    (hown : isOwnPort s = false) : s ∈ b.statements := by
  simp only [hasStatementSlot, Bool.or_eq_true, Bool.and_eq_true, beq_iff_eq,
    List.contains_iff_mem] at h
  refine h.resolve_right fun hnext => ?_
  rw [hnext.2] at hown
  exact absurd hown (by decide)

namespace Workspace.Forest

variable {ws : Workspace}

/-! ## Which statements a tree has -/

/-- What a slot for statements holds, as a tree. -/
lemma slot_eq_tree (hw : ws.Forest) {id : BlockId} {b : Block} (hb : ws.block? id = some b)
    {slot : String → BlockTree}
    (hslot : ∀ s, slot s = if isOwnPort s then .nothing else ws.tree (ws.held? id s)) {s : String}
    (hs : s ∈ b.statements) : slot s = ws.tree (ws.held? id s) := by
  rw [hslot s, (hw.sound id b hb).own_statements s hs]
  rfl

/-- A place for statements holds a statement. -/
lemma isStatement_of_held? (hw : ws.Forest) {id y : BlockId} {b : Block}
    (hb : ws.block? id = some b) {s : String} (hs : s ∈ b.statements)
    (hy : ws.held? id s = some y) : ∃ c, ws.block? y = some c ∧ c.isStatement := by
  have hslot : b.hasStatementSlot s = true := by simp [Block.hasStatementSlot, hs]
  obtain ⟨e, he, hk, -, rfl⟩ := hw.statement_of_held? hb hslot hy
  obtain ⟨-, -, -, t, -, ht, -, hstmt⟩ := hw.statement_cases he hk
  exact ⟨t, ht, hstmt⟩

/-- What follows a block is a statement. -/
lemma isStatement_of_next? (hw : ws.Forest) {id y : BlockId} (hy : ws.next? id = some y) :
    ∃ c, ws.block? y = some c ∧ c.isStatement := by
  obtain ⟨e, he, hk, -, rfl⟩ := hw.statement_of_next? hy
  obtain ⟨-, -, -, t, -, ht, -, hstmt⟩ := hw.statement_cases he hk
  exact ⟨t, ht, hstmt⟩

/-- The place is empty or holds a statement. -/
def HoldsStatement (ws : Workspace) (o : Option BlockId) : Prop :=
  ∀ id, o = some id → ∃ b, ws.block? id = some b ∧ b.isStatement

/-- The statements of a tree are statements of the workspace, below the first block. -/
lemma of_mem_members (hw : ws.Forest) {o : Option BlockId} (ho : HoldsStatement ws o)
    {entry : BlockId × Block} (h : entry ∈ (ws.tree o).members) :
    ws.block? entry.1 = some entry.2 ∧ entry.2.isStatement ∧
      ∃ r, o = some r ∧ ws.Below entry.1 r := by
  induction ht : ws.tree o generalizing o with
  | nothing => simp [ht] at h
  | node id b slot next ihslot ihnext =>
    obtain ⟨rfl, hb, hslot, hnext⟩ := hw.of_tree_eq_node ht
    rw [ht, BlockTree.mem_members_node] at h
    rcases h with rfl | ⟨s, hs, h⟩ | h
    · obtain ⟨c, hc, hstmt⟩ := ho id rfl
      obtain rfl := Option.some.inj (hb.symm.trans hc)
      exact ⟨hb, hstmt, id, rfl, .refl⟩
    · have hfill := hw.slot_eq_tree hb hslot hs
      rw [hfill] at h
      obtain ⟨hblock, hstmt, y, hy, hbelow⟩ :=
        ihslot s (fun y hy => hw.isStatement_of_held? hb hs hy) h hfill.symm
      have hunder := hw.under_of_held? ((hw.sound id b hb).own_statements s hs) hy
      exact ⟨hblock, hstmt, id, rfl, hbelow.tail hunder⟩
    · rw [hnext] at h
      obtain ⟨hblock, hstmt, y, hy, hbelow⟩ :=
        ihnext (fun y hy => hw.isStatement_of_next? hy) h hnext.symm
      exact ⟨hblock, hstmt, id, rfl, hbelow.tail (hw.under_of_next? hy)⟩

/-- A tree has the statements of the trees of its statements. -/
lemma members_subset (hw : ws.Forest) {o : Option BlockId} {entry : BlockId × Block}
    (h : entry ∈ (ws.tree o).members) :
    (ws.tree (some entry.1)).members ⊆ (ws.tree o).members := by
  induction ht : ws.tree o generalizing o with
  | nothing => simp [ht] at h
  | node id b slot next ihslot ihnext =>
    obtain ⟨rfl, hb, hslot, hnext⟩ := hw.of_tree_eq_node ht
    rw [ht, BlockTree.mem_members_node] at h
    intro x hx
    rcases h with rfl | ⟨s, hs, h⟩ | h
    · rwa [← ht]
    · have hfill := hw.slot_eq_tree hb hslot hs
      rw [hfill] at h
      exact BlockTree.mem_members_node.mpr (.inr (.inl ⟨s, hs, ihslot s h hfill.symm hx⟩))
    · rw [hnext] at h
      exact BlockTree.mem_members_node.mpr (.inr (.inr (ihnext h hnext.symm hx)))

/-- The first block of a tree is one of its statements. -/
lemma mem_members_self (hw : ws.Forest) {id : BlockId} {b : Block} (hb : ws.block? id = some b) :
    (id, b) ∈ (ws.tree (some id)).members := by
  rw [hw.tree_some hb]
  exact BlockTree.mem_members_node.mpr (.inl rfl)

/-- A statement under a block is in a slot of it or right after it. -/
lemma mem_members_of_under (hw : ws.Forest) {y z : BlockId} {c d : Block}
    (hy : ws.block? y = some c) (hc : c.isStatement) (hz : ws.block? z = some d)
    (h : Under ws.edges y z) : (y, c) ∈ (ws.tree (some z)).members := by
  obtain ⟨e, he, rfl, rfl⟩ := h
  have hk : e.kind = .statement := by
    cases hk : e.kind with
    | statement => rfl
    | value =>
      obtain ⟨-, -, s, -, hs, -, hexpr, -⟩ := hw.value_cases he hk
      simp only [Edge.child, hk] at hy
      obtain rfl := Option.some.inj (hy.symm.trans hs)
      simp only [Block.isExpression, Block.isStatement, beq_iff_eq] at hexpr hc
      simp [hexpr] at hc
  obtain ⟨-, hport, s, -, hs, -, hslot, -⟩ := hw.statement_cases he hk
  have hholder : e.holder = e.source := by rw [Edge.holder, hk]
  have hslotEq : e.slot = e.sourcePort := by rw [Edge.slot, hk]
  rw [hholder] at hz
  obtain rfl := Option.some.inj (hz.symm.trans hs)
  rw [hholder, hw.tree_some hz]
  refine BlockTree.mem_members_node.mpr ?_
  rcases hport with hown | hnext
  · -- The connection is from a slot, so the slot holds the statement.
    refine .inr (.inl ⟨e.sourcePort, Block.mem_statements_of_slot hslot hown, ?_⟩)
    have hheld : ws.held? e.source e.sourcePort = some e.child :=
      (hw.held?_eq_some_iff hown).mpr ⟨e, he, rfl, hholder, hslotEq⟩
    rw [if_neg (by simp [hown]), hheld]
    exact hw.mem_members_self hy
  · have hfollow : ws.next? e.source = some e.child :=
      hw.next?_eq_some_iff.mpr ⟨e, he, rfl, hholder, hslotEq.trans hnext⟩
    rw [hfollow]
    exact .inr (.inr (hw.mem_members_self hy))

/-! ## Which statements are in which tree -/

/-- Expressions have no slots for statements. -/
private lemma not_isExpression_of_slot {b : Block} (hb : b.Measured) {s : String}
    (hs : b.hasStatementSlot s = true) : b.isExpression = false := by
  rw [Block.isExpression, Block.kind]
  by_contra hexpr
  have hexpr : b.type.kind = .expression := by simpa using hexpr
  have hnone : b.type.statementSlots = [] ∧ b.type ≠ .tryStmt ∧ b.isStatement = false := by
    rw [Block.isStatement, Block.kind, hexpr]
    revert hexpr
    cases b.type <;> decide
  have hempty : b.statements = [] := by
    simpa [hnone.1] using hb.statements_perm_slots hnone.2.1
  simp [Block.hasStatementSlot, hempty, hnone.2.2] at hs

/-- Nothing above a statement is an expression. -/
lemma not_isExpression_of_below (hw : ws.Forest) (hm : ws.Measured) {y z : BlockId} {c : Block}
    (hy : ws.block? y = some c) (hc : c.isStatement) (h : ws.Below y z) :
    ∃ d, ws.block? z = some d ∧ d.isExpression = false := by
  induction h with
  | refl =>
    refine ⟨c, hy, ?_⟩
    simp only [Block.isStatement, Block.isExpression, beq_iff_eq] at hc ⊢
    simp [hc]
  | tail _ hunder ih =>
    obtain ⟨d, hd, hexpr⟩ := ih
    obtain ⟨e, he, rfl, rfl⟩ := hunder
    cases hk : e.kind with
    | value =>
      obtain ⟨-, -, s, -, hs, -, hs', -⟩ := hw.value_cases he hk
      simp only [Edge.child, hk] at hd
      obtain rfl := Option.some.inj (hd.symm.trans hs)
      rw [hexpr] at hs'
      cases hs'
    | statement =>
      obtain ⟨-, -, s, -, hs, -, hslot, -⟩ := hw.statement_cases he hk
      refine ⟨s, by rw [Edge.holder, hk]; exact hs, ?_⟩
      exact not_isExpression_of_slot (hm.of_block? hs) hslot

/-- What holds a statement and is held itself is a statement. -/
private lemma isStatement_of_under (hw : ws.Forest) (hm : ws.Measured) {y z x : BlockId} {c : Block}
    (hy : ws.block? y = some c) (hc : c.isStatement) (h : Under ws.edges y z)
    (hzx : Under ws.edges z x) : ∃ d, ws.block? z = some d ∧ d.isStatement := by
  obtain ⟨d, hd, hexpr⟩ := hw.not_isExpression_of_below hm hy hc (.single h)
  obtain ⟨e, he, rfl, rfl⟩ := hzx
  cases hk : e.kind with
  | value =>
    obtain ⟨-, -, s, -, hs, -, hs', -⟩ := hw.value_cases he hk
    simp only [Edge.child, hk] at hd
    obtain rfl := Option.some.inj (hd.symm.trans hs)
    rw [hexpr] at hs'
    cases hs'
  | statement =>
    obtain ⟨-, -, -, t, -, ht, -, hstmt⟩ := hw.statement_cases he hk
    exact ⟨t, by rw [Edge.child, hk]; exact ht, hstmt⟩

/-- A tree has all statements below its first block. -/
lemma mem_members_of_below (hw : ws.Forest) (hm : ws.Measured) {y r : BlockId} {c d : Block}
    (hy : ws.block? y = some c) (hc : c.isStatement) (hr : ws.block? r = some d)
    (h : ws.Below y r) : (y, c) ∈ (ws.tree (some r)).members := by
  induction h using Relation.ReflTransGen.head_induction_on generalizing c with
  | refl => exact hw.mem_members_self hy
  | head hunder hbelow ih =>
    rcases Relation.ReflTransGen.cases_head hbelow with rfl | ⟨x, hx, -⟩
    · exact hw.mem_members_of_under hy hc hr hunder
    · obtain ⟨c', hz, hc'⟩ := hw.isStatement_of_under hm hy hc hunder hx
      exact hw.members_subset (ih hz hc') (hw.mem_members_of_under hy hc hz hunder)

/-- A tree lists each of its statements once. -/
lemma nodup_members (hw : ws.Forest) (hm : ws.Measured) {o : Option BlockId}
    (ho : HoldsStatement ws o) : (ws.tree o).members.Nodup := by
  induction ht : ws.tree o generalizing o with
  | nothing => simp
  | node id b slot next ihslot ihnext =>
    obtain ⟨rfl, hb, hslot, hnext⟩ := hw.of_tree_eq_node ht
    have hfill := fun s (hs : s ∈ b.statements) => hw.slot_eq_tree hb hslot hs
    have hheld := fun s (hs : s ∈ b.statements) y (hy : ws.held? id s = some y) =>
      hw.isStatement_of_held? hb hs hy
    have hown := (hw.sound id b hb).own_statements
    -- Whatever is listed for a slot or after the block is below one connection to the block.
    have hslots : ∀ s ∈ b.statements, ∀ entry ∈ (slot s).members,
        ∃ e ∈ ws.edges, e.holder = id ∧ e.slot = s ∧ ws.Below entry.1 e.child := by
      intro s hs entry hentry
      rw [hfill s hs] at hentry
      obtain ⟨-, -, y, hy, hbelow⟩ := hw.of_mem_members (hheld s hs) hentry
      obtain ⟨e, he, rfl, hholder, hs'⟩ := (hw.held?_eq_some_iff (hown s hs)).mp hy
      exact ⟨e, he, hholder, hs', hbelow⟩
    have hafter : ∀ entry ∈ next.members,
        ∃ e ∈ ws.edges, e.holder = id ∧ e.slot = "next" ∧ ws.Below entry.1 e.child := by
      intro entry hentry
      rw [hnext] at hentry
      obtain ⟨-, -, y, hy, hbelow⟩ :=
        hw.of_mem_members (fun y hy => hw.isStatement_of_next? hy) hentry
      obtain ⟨e, he, rfl, hholder, hs'⟩ := hw.next?_eq_some_iff.mp hy
      exact ⟨e, he, hholder, hs', hbelow⟩
    have hself : ∀ e ∈ ws.edges, e.holder = id → ¬ ws.Below id e.child := fun e he hholder =>
      hw.not_below_of_under ⟨e, he, rfl, hholder⟩
    rw [(BlockTree.members_node_perm id b slot next).nodup_iff, List.nodup_cons, List.nodup_append]
    refine ⟨fun hmem => ?_, List.nodup_flatMap.mpr ⟨fun s hs => ?_, ?_⟩, ?_, ?_⟩
    · rcases List.mem_append.mp hmem with hmem | hmem
      · obtain ⟨s, hs, hmem⟩ := List.mem_flatMap.mp hmem
        obtain ⟨e, he, hholder, -, hbelow⟩ := hslots s hs _ hmem
        exact hself e he hholder hbelow
      · obtain ⟨e, he, hholder, -, hbelow⟩ := hafter _ hmem
        exact hself e he hholder hbelow
    · exact ihslot s (o := ws.held? id s) (hheld s hs) (hfill s hs).symm
    · refine (hm.of_block? hb).statements_nodup.imp_of_mem fun {s s'} hs hs' hne => ?_
      refine List.disjoint_left.mpr fun entry hentry hentry' => hne ?_
      obtain ⟨e, he, hholder, rfl, hbelow⟩ := hslots s hs entry hentry
      obtain ⟨f, hf, hholder', rfl, hbelow'⟩ := hslots s' hs' entry hentry'
      rw [hw.eq_of_below he hf (hholder.trans hholder'.symm) hbelow hbelow']
    · exact ihnext (o := ws.next? id) (fun y hy => hw.isStatement_of_next? hy) hnext.symm
    · rintro entry hentry _ hentry' rfl
      obtain ⟨s, hs, hentry⟩ := List.mem_flatMap.mp hentry
      obtain ⟨e, he, hholder, rfl, hbelow⟩ := hslots s hs entry hentry
      obtain ⟨f, hf, hholder', hnextSlot, hbelow'⟩ := hafter entry hentry'
      have hef := hw.eq_of_below he hf (hholder.trans hholder'.symm) hbelow hbelow'
      have hport := hown _ hs
      rw [hef, hnextSlot] at hport
      exact absurd hport (by decide)

/-- Every statement is below a statement that nothing holds, or below a start block. -/
lemma exists_root (hw : ws.Forest) (hm : ws.Measured) {y : BlockId} {c : Block}
    (hy : ws.block? y = some c) (hc : c.isStatement) :
    ∃ r d, ws.block? r = some d ∧ ws.parent? r = none ∧ ws.Below y r ∧
      (d.isStatement ∨ d.type = .start) := by
  obtain ⟨k, -, r, hr, hnone⟩ := hw.exists_top (has_of_block? hy)
  have hbelow : ws.Below y r := by
    rw [Below, ← hw.parent?_eq_under]
    exact reflTransGen_iff_stepped.mpr ⟨k, hr⟩
  obtain ⟨d, hd, hexpr⟩ := hw.not_isExpression_of_below hm hy hc hbelow
  refine ⟨r, d, hd, hnone, hbelow, ?_⟩
  rw [Block.isExpression, Block.kind] at hexpr
  rw [Block.isStatement, Block.kind]
  revert hexpr
  cases d.type <;> decide

/-! ## Chains -/

/-- The first blocks of a tree are those of a chain. -/
lemma mem_spine_iff (hw : ws.Forest) {id : BlockId} (hid : ws.has id) {x : BlockId} :
    x ∈ (ws.tree (some id)).spine.map (·.1) ↔ x ∈ ws.chain id := by
  rw [hw.mem_chain_iff hid]
  induction ht : ws.tree (some id) generalizing id with
  | nothing =>
    have hroot := hw.root?_tree hid
    rw [ht] at hroot
    cases hroot
  | node id' b slot next _ ih =>
    obtain ⟨hid', -, -, hnext⟩ := hw.of_tree_eq_node ht
    obtain rfl := Option.some.inj hid'
    rw [BlockTree.spine, List.map_cons, List.mem_cons]
    have hrest : x ∈ next.spine.map (·.1) ↔ ∃ y, ws.next? id = some y ∧
        Relation.ReflTransGen (fun a b => ws.next? a = some b) y x := by
      cases hy : ws.next? id with
      | none =>
        rw [hnext, hy, tree_none]
        simp [BlockTree.spine]
      | some y =>
        obtain ⟨c, hc, -⟩ := hw.isStatement_of_next? hy
        rw [hy] at hnext
        rw [ih (has_of_block? hc) hnext.symm]
        simp
    rw [hrest]
    constructor
    · rintro (rfl | ⟨y, hy, hfollow⟩)
      · exact .refl
      · exact .head hy hfollow
    · intro h
      rcases Relation.ReflTransGen.cases_head h with rfl | ⟨y, hy, hfollow⟩
      · exact .inl rfl
      · exact .inr ⟨y, hy, hfollow⟩

end Workspace.Forest

namespace Workspace

/-- Blocks in a row with everything that follows one of them right after it. -/
def Unbroken (ws : Workspace) (row : List BlockId) : Prop :=
  ∀ a ∈ row, ∀ b, ws.next? a = some b → [a, b] <:+: row

variable {ws : Workspace}

/-- Rows one after another make a row. -/
lemma Unbroken.append {row row' : List BlockId} (h : ws.Unbroken row) (h' : ws.Unbroken row') :
    ws.Unbroken (row ++ row') := by
  intro a ha b hb
  rcases List.mem_append.mp ha with ha | ha
  · exact (h a ha b hb).trans (List.prefix_append row row').isInfix
  · exact (h' a ha b hb).trans (List.suffix_append row row').isInfix

/-- The first blocks of a tree are a row. -/
lemma Forest.unbroken_spine (hw : ws.Forest) (o : Option BlockId) :
    ws.Unbroken ((ws.tree o).spine.map (·.1)) := by
  induction ht : ws.tree o generalizing o with
  | nothing => simp [Unbroken, BlockTree.spine]
  | node id b slot next _ ih =>
    obtain ⟨rfl, -, -, hnext⟩ := hw.of_tree_eq_node ht
    intro x hx y hy
    rw [BlockTree.spine, List.map_cons, List.mem_cons] at hx
    rcases hx with rfl | hx
    · obtain ⟨c, hc, -⟩ := hw.isStatement_of_next? hy
      rw [hnext, hy, hw.tree_some hc]
      exact (List.prefix_append [x, y] _).isInfix
    · exact (ih _ hnext.symm x hx y hy).trans (List.suffix_cons _ _).isInfix

end Workspace

end BlockText

/-!
## Statements in their places

Some statements have their place: a further alternative comes right after a condition, a case
stands among the cases of a `match` block, such a block has cases and nothing else there, and only
names and literals are patterns.  `Workspace.InOrder` says so of one statement.  Where a statement
is held decides whether it can be an alternative or a case.
-/

namespace BlockText

namespace Workspace

/-- The block comes right after a block with a condition. -/
def FollowsIf (ws : Workspace) (id : BlockId) : Prop :=
  ∃ before b, ws.previous? id = some before ∧ ws.block? before = some b ∧
    (b.type = .ifStmt ∨ b.type = .elifStmt)

/-- The block is in a chain that starts in a slot for cases. -/
def InCases (ws : Workspace) (id : BlockId) : Prop :=
  ∃ holder first, ws.held? holder "CASES" = some first ∧ id ∈ ws.chain first

/-- The slot for cases of the block holds at least one, and nothing but cases. -/
def HasCases (ws : Workspace) (id : BlockId) : Prop :=
  ∃ first, ws.held? id "CASES" = some first ∧
    ∀ member ∈ ws.chain first, ∃ b, ws.block? member = some b ∧ b.type = .caseStmt

/-- Blocks of this type can be patterns. -/
def isPatternType : BlockType → Bool
  | .identifier | .number | .string | .bool | .none => true
  | _ => false

/-- The statement shows no error and is in its place, with cases and a pattern if it needs them. -/
structure InOrder (ws : Workspace) (id : BlockId) (b : Block) : Prop where
  sound : b.type ≠ .syncError
  alternative : b.type = .elifStmt ∨ b.type = .elseStmt → ws.FollowsIf id
  case : b.type = .caseStmt → ws.InCases id
  cases : b.type = .matchStmt → ws.HasCases id
  pattern : ∀ v c, ws.held? id "PATTERN" = some v → ws.block? v = some c → isPatternType c.type

namespace Forest

variable {ws : Workspace}

/-! ### The statement before -/

/-- A statement is before another iff the other follows it. -/
lemma previous?_eq_some_iff (hw : ws.Forest) {a b : BlockId} :
    ws.previous? b = some a ↔ ws.next? a = some b := by
  unfold previous?
  constructor
  · intro h
    cases hin : (ws.incoming b "previous").head? with
    | none => simp [hin] at h
    | some e =>
      simp only [hin] at h
      split at h
      case isFalse => cases h
      case isTrue hport =>
        obtain rfl := Option.some.inj h
        obtain ⟨he, hstop⟩ := hw.head?_incoming_iff.mp hin
        obtain ⟨htarget, hstopPort⟩ := Port.mk.inj hstop
        have hk := hw.kind_of_stop_previous he hstopPort
        refine hw.next?_eq_some_iff.mpr ⟨e, he, ?_, ?_, ?_⟩
        · simp [Edge.child, hk, htarget]
        · simp [Edge.holder, hk]
        · simpa [Edge.slot, hk] using hport
  · intro h
    obtain ⟨e, he, hk, hstart, rfl⟩ := hw.statement_of_next? h
    obtain ⟨hsource, hport⟩ := Port.mk.inj hstart
    have hprevious := (hw.statement_cases he hk).1
    have hin : (ws.incoming e.target "previous").head? = some e :=
      hw.head?_incoming_iff.mpr ⟨he, by rw [Edge.stop, hprevious]⟩
    simp [hin, hport, hsource]

/-- What follows a block comes after a condition iff the block has one. -/
lemma followsIf_iff_of_next? (hw : ws.Forest) {id y : BlockId} {b : Block}
    (hb : ws.block? id = some b) (h : ws.next? id = some y) :
    ws.FollowsIf y ↔ b.type = .ifStmt ∨ b.type = .elifStmt := by
  have hprevious := hw.previous?_eq_some_iff.mpr h
  constructor
  · rintro ⟨before, c, hbefore, hc, htype⟩
    obtain rfl := Option.some.inj (hprevious.symm.trans hbefore)
    obtain rfl := Option.some.inj (hb.symm.trans hc)
    exact htype
  · exact fun htype => ⟨id, b, hprevious, hb, htype⟩

/-- The first block in a slot comes after nothing. -/
lemma not_followsIf_of_held? (hw : ws.Forest) {a y : BlockId} {s : String}
    (hs : isOwnPort s = false) (h : ws.held? a s = some y) : ¬ ws.FollowsIf y := by
  rintro ⟨before, -, hbefore, -⟩
  obtain ⟨e, he, hchild, -, hslot⟩ := hw.next?_eq_some_iff.mp (hw.previous?_eq_some_iff.mp hbefore)
  obtain ⟨f, hf, hchild', -, hslot'⟩ := (hw.held?_eq_some_iff hs).mp h
  rw [← hslot', hw.eq_of_child hf he (hchild'.trans hchild.symm), hslot] at hs
  exact absurd hs (by decide)

/-- A block that nothing holds comes after nothing. -/
lemma not_followsIf_of_loose (hw : ws.Forest) {y : BlockId} (h : ws.parent? y = none) :
    ¬ ws.FollowsIf y := by
  rintro ⟨before, -, hbefore, -⟩
  have hunder := hw.under_of_next? (hw.previous?_eq_some_iff.mp hbefore)
  rw [hw.parent?_eq_some_iff.mpr hunder] at h
  cases h

/-! ### Cases -/

/-- A block among cases is the first in a slot for them, or follows such a block. -/
private lemma inCases_iff (hw : ws.Forest) {y : BlockId} :
    ws.InCases y ↔ ∃ holder first, ws.held? holder "CASES" = some first ∧
      Relation.ReflTransGen (fun a b => ws.next? a = some b) first y := by
  refine exists₂_congr fun holder first => and_congr_right fun hfirst => ?_
  obtain ⟨e, he, rfl, -⟩ := (hw.held?_eq_some_iff (by decide)).mp hfirst
  exact hw.mem_chain_iff (hw.has_child he)

/-- What follows a block is among cases iff the block is. -/
lemma inCases_iff_of_next? (hw : ws.Forest) {id y : BlockId} (h : ws.next? id = some y) :
    ws.InCases y ↔ ws.InCases id := by
  rw [hw.inCases_iff, hw.inCases_iff]
  obtain ⟨e, he, hchild, hholder, hslot⟩ := hw.next?_eq_some_iff.mp h
  constructor
  · rintro ⟨holder, first, hfirst, hfollow⟩
    refine ⟨holder, first, hfirst, ?_⟩
    rcases Relation.ReflTransGen.cases_tail hfollow with heq | ⟨z, hz, hlast⟩
    · -- The first block in a slot follows nothing.
      obtain ⟨f, hf, hchild', -, hslot'⟩ := (hw.held?_eq_some_iff (by decide)).mp hfirst
      have hfe := hw.eq_of_child hf he (hchild'.trans (heq.symm.trans hchild.symm))
      rw [hfe, hslot] at hslot'
      exact absurd hslot' (by decide)
    · obtain ⟨f, hf, hchild', hholder', -⟩ := hw.next?_eq_some_iff.mp hlast
      have hfe := hw.eq_of_child hf he (hchild'.trans hchild.symm)
      rw [← hholder, ← hfe, hholder']
      exact hz
  · rintro ⟨holder, first, hfirst, hfollow⟩
    exact ⟨holder, first, hfirst, hfollow.tail h⟩

/-- The first block in a slot is among cases iff the slot is for them. -/
lemma inCases_iff_of_held? (hw : ws.Forest) {a y : BlockId} {s : String} (hs : isOwnPort s = false)
    (h : ws.held? a s = some y) : ws.InCases y ↔ s = "CASES" := by
  rw [hw.inCases_iff]
  obtain ⟨e, he, hchild, hholder, hslot⟩ := (hw.held?_eq_some_iff hs).mp h
  constructor
  · rintro ⟨holder, first, hfirst, hfollow⟩
    rcases Relation.ReflTransGen.cases_tail hfollow with heq | ⟨z, hz, hlast⟩
    · obtain ⟨f, hf, hchild', -, hslot'⟩ := (hw.held?_eq_some_iff (by decide)).mp hfirst
      have hfe := hw.eq_of_child hf he (hchild'.trans (heq.symm.trans hchild.symm))
      rw [← hslot, ← hfe, hslot']
    · obtain ⟨f, hf, hchild', -, hslot'⟩ := hw.next?_eq_some_iff.mp hlast
      have hfe := hw.eq_of_child hf he (hchild'.trans hchild.symm)
      rw [← hslot, ← hfe, hslot'] at hs
      exact absurd hs (by decide)
  · rintro rfl
    exact ⟨a, y, h, .refl⟩

/-- A block that nothing holds is not among cases. -/
lemma not_inCases_of_loose (hw : ws.Forest) {y : BlockId} (h : ws.parent? y = none) :
    ¬ ws.InCases y := by
  rw [hw.inCases_iff]
  rintro ⟨holder, first, hfirst, hfollow⟩
  have hunder : ∃ z, Under ws.edges y z := by
    rcases Relation.ReflTransGen.cases_tail hfollow with heq | ⟨z, -, hlast⟩
    · exact ⟨holder, heq ▸ hw.under_of_held? (by decide) hfirst⟩
    · exact ⟨z, hw.under_of_next? hlast⟩
  obtain ⟨z, hz⟩ := hunder
  rw [hw.parent?_eq_some_iff.mpr hz] at h
  cases h

end Forest

end Workspace

end BlockText

import BlockText.Proofs.Compile.Chains

/-!
# Programs read off any workspace

A program starts at its only start block, which then holds all statements, or at the statements that
nothing holds.  Either way the trees that are read have all statements of the workspace, each once.
So reading succeeds exactly if all fields hold what they are for and all blocks are in their places,
and a program that is read has one construct for each statement.
-/

namespace BlockText

open Syntax Compile

namespace Workspace

/-- The blocks that are statements. -/
def statementBlocks (ws : Workspace) : List (BlockId × Block) :=
  ws.blocks.filter fun entry => entry.2.isStatement

/-- The blocks at the top of the program: the chain in the start block, or else all chains that
nothing holds, from top to bottom. -/
def topRow (ws : Workspace) : List (BlockId × Block) :=
  match ws.ofType .start with
  | entry :: _ => (ws.tree (ws.held? entry "BODY")).spine
  | [] => (looseStatements ws).flatMap fun root => (ws.tree (some root.1)).spine

/-- There is at most one start block, and with one no statement is loose. -/
structure Rooted (ws : Workspace) : Prop where
  one : (ws.ofType .start).length ≤ 1
  attached : ∀ entry ∈ ws.ofType .start, ∀ id ∈ ws.tops, ∀ b, ws.block? id = some b →
    b.isStatement = false

namespace Forest

variable {ws : Workspace}

/-! ## Where reading starts -/

lemma mem_statementBlocks_iff (hw : ws.Forest) {entry : BlockId × Block} :
    entry ∈ ws.statementBlocks ↔ ws.block? entry.1 = some entry.2 ∧ entry.2.isStatement := by
  rw [statementBlocks, List.mem_filter, hw.mem_blocks_iff]

lemma mem_looseStatements_iff {entry : BlockId × Block} :
    entry ∈ looseStatements ws ↔
      ws.block? entry.1 = some entry.2 ∧ entry.2.isStatement ∧ entry.1 ∈ ws.tops := by
  rw [looseStatements, List.mem_filterMap]
  constructor
  · rintro ⟨id, hid, hsome⟩
    rw [orderedTops, List.mem_mergeSort] at hid
    cases hb : ws.block? id with
    | none => simp [hb] at hsome
    | some b =>
      simp only [hb] at hsome
      split at hsome
      case isTrue hstmt =>
        obtain rfl := Option.some.inj hsome
        exact ⟨hb, hstmt, hid⟩
      case isFalse => cases hsome
  · rintro ⟨hb, hstmt, hid⟩
    refine ⟨entry.1, ?_, by simp [hb, hstmt]⟩
    rwa [orderedTops, List.mem_mergeSort]

private lemma nodup_looseStatements (hw : ws.Forest) : (looseStatements ws).Nodup := by
  have htops : ws.orderedTops.Nodup :=
    (List.mergeSort_perm _ _).nodup_iff.mpr (hw.ids_nodup.sublist List.filter_sublist)
  refine htops.filterMap fun id id' entry h h' => ?_
  cases hb : ws.block? id with
  | none => simp [hb] at h
  | some b =>
    cases hb' : ws.block? id' with
    | none => simp [hb'] at h'
    | some b' =>
      simp only [hb, Option.mem_def, Option.ite_none_right_eq_some] at h
      simp only [hb', Option.mem_def, Option.ite_none_right_eq_some] at h'
      exact congrArg Prod.fst (Option.some.inj (h.2.trans h'.2.symm))

private lemma nodup_statementBlocks (hw : ws.Forest) : ws.statementBlocks.Nodup :=
  (List.Nodup.of_map _ hw.ids_nodup).filter _

/-- Without a start block every statement is below exactly one loose statement. -/
lemma members_loose_perm (hw : ws.Forest) (hm : ws.Measured) (hstart : ws.ofType .start = []) :
    ((looseStatements ws).flatMap fun entry => (ws.tree (some entry.1)).members).Perm
      ws.statementBlocks := by
  have hplace : ∀ entry ∈ looseStatements ws, HoldsStatement ws (some entry.1) :=
    fun entry hentry id hid =>
      have h := mem_looseStatements_iff.mp hentry
      Option.some.inj hid ▸ ⟨entry.2, h.1, h.2.1⟩
  refine (List.perm_ext_iff_of_nodup ?_ hw.nodup_statementBlocks).mpr fun entry => ?_
  · refine List.nodup_flatMap.mpr ⟨fun root hroot => hw.nodup_members hm (hplace root hroot), ?_⟩
    refine hw.nodup_looseStatements.imp_of_mem fun {r r'} hr hr' hne => ?_
    refine List.disjoint_left.mpr fun entry hentry hentry' => hne ?_
    obtain ⟨-, -, _, ⟨⟩, hbelow⟩ := hw.of_mem_members (hplace r hr) hentry
    obtain ⟨-, -, _, ⟨⟩, hbelow'⟩ := hw.of_mem_members (hplace r' hr') hentry'
    obtain ⟨hb, -, hloose⟩ := mem_looseStatements_iff.mp hr
    obtain ⟨hb', -, hloose'⟩ := mem_looseStatements_iff.mp hr'
    have heq := hw.eq_of_below_loose hbelow hbelow' (mem_tops_iff.mp hloose).2
      (mem_tops_iff.mp hloose').2
    rw [heq, hb'] at hb
    exact Prod.ext heq (Option.some.inj hb).symm
  · rw [hw.mem_statementBlocks_iff, List.mem_flatMap]
    constructor
    · rintro ⟨root, hroot, hentry⟩
      obtain ⟨hb, hstmt, -⟩ := hw.of_mem_members (hplace root hroot) hentry
      exact ⟨hb, hstmt⟩
    · rintro ⟨hb, hstmt⟩
      obtain ⟨r, d, hr, hnone, hbelow, htype⟩ := hw.exists_root hm hb hstmt
      have hd : d.isStatement := htype.resolve_right fun ht => by
        have hmem := hw.mem_ofType_iff.mpr ⟨d, hr, ht⟩
        rw [hstart] at hmem
        cases hmem
      refine ⟨(r, d), mem_looseStatements_iff.mpr ⟨hr, hd, ?_⟩, ?_⟩
      · exact mem_tops_iff.mpr ⟨has_of_block? hr, hnone⟩
      · exact hw.mem_members_of_below hm hb hstmt hr hbelow

/-- If no statement is loose, all are in the slot of the only start block. -/
lemma members_start_perm (hw : ws.Forest) (hm : ws.Measured) {entry : BlockId}
    (hstart : ws.ofType .start = [entry]) (hloose : looseStatements ws = []) :
    (ws.tree (ws.held? entry "BODY")).members.Perm ws.statementBlocks := by
  obtain ⟨b, hb, ht⟩ := hw.mem_ofType_iff.mp (hstart ▸ List.mem_singleton_self entry)
  have hnot : b.isStatement = false := by rw [Block.isStatement, Block.kind, ht]; decide
  have hslots : b.statements = ["BODY"] := by
    have hperm := (hm.of_block? hb).statements_perm_slots (by simp [ht])
    rw [ht] at hperm
    exact List.perm_singleton.mp hperm
  have hplace : HoldsStatement ws (ws.held? entry "BODY") := fun y hy =>
    hw.isStatement_of_held? hb (by simp [hslots]) hy
  refine (List.perm_ext_iff_of_nodup (hw.nodup_members hm hplace) hw.nodup_statementBlocks).mpr
    fun x => ?_
  rw [hw.mem_statementBlocks_iff]
  constructor
  · intro hx
    obtain ⟨hblock, hstmt, -⟩ := hw.of_mem_members hplace hx
    exact ⟨hblock, hstmt⟩
  · rintro ⟨hx, hstmt⟩
    obtain ⟨r, d, hr, hnone, hbelow, htype⟩ := hw.exists_root hm hx hstmt
    have hroot : r = entry := by
      rcases htype with hd | hd
      · have hmem := mem_looseStatements_iff.mpr (⟨hr, hd, mem_tops_iff.mpr
          ⟨has_of_block? hr, hnone⟩⟩ : ws.block? (r, d).1 = some (r, d).2 ∧ _)
        rw [hloose] at hmem
        cases hmem
      · have hmem := hw.mem_ofType_iff.mpr ⟨d, hr, hd⟩
        rwa [hstart, List.mem_singleton] at hmem
    subst hroot
    -- A start block is no statement, and nothing follows it.
    have hmem := hw.mem_members_of_below hm hx hstmt hb hbelow
    rw [hw.tree_some hb, BlockTree.mem_members_node] at hmem
    rcases hmem with hself | ⟨s, hs, hmem⟩ | hmem
    · rw [(Prod.ext_iff.mp hself).2, hnot] at hstmt
      cases hstmt
    · rw [hslots, List.mem_singleton] at hs
      subst hs
      exact hmem
    · cases hnext : ws.next? r with
      | none => simp [hnext] at hmem
      | some y =>
        obtain ⟨e, he, hk, hstart, -⟩ := hw.statement_of_next? hnext
        obtain ⟨hsource, hport⟩ := Port.mk.inj hstart
        obtain ⟨-, -, c, -, hc, -, hslot, -⟩ := hw.statement_cases he hk
        rw [hsource, hb] at hc
        obtain rfl := Option.some.inj hc
        simp [Block.hasStatementSlot, hport, hslots, hnot] at hslot

/-! ## Chains one after another -/

/-- The first blocks of some trees are a row. -/
private lemma unbroken_spines (hw : ws.Forest) (roots : List (BlockId × Block)) :
    ws.Unbroken ((roots.flatMap fun root => (ws.tree (some root.1)).spine).map (·.1)) := by
  induction roots with
  | nil => simp [Unbroken]
  | cons root rest ih =>
    rw [List.flatMap_cons, List.map_append]
    exact (hw.unbroken_spine _).append ih

/-- The statements of some trees. -/
private lemma chainRead_flatten {roots : List (BlockId × Block)} {chains : List (List Stmt)}
    (h : List.Forall₂ (fun root ss => ChainRead ws 0 (ws.tree (some root.1)).spine
      (ws.tree (some root.1)).inside ss) roots chains) :
    ChainRead ws 0 (roots.flatMap fun root => (ws.tree (some root.1)).spine)
      (roots.flatMap fun root => (ws.tree (some root.1)).inside) chains.flatten := by
  induction h with
  | nil => exact chainRead_nil
  | cons hread _ ih => exact hread.append ih

/-- The statements of a program were read off the blocks at the top, and all statements were
read. -/
def ReadsAll (ws : Workspace) (ss : List Stmt) : Prop :=
  ∃ under, ChainRead ws 0 ws.topRow under ss ∧ ws.Unbroken (ws.topRow.map (·.1)) ∧
    (ws.topRow ++ under).Perm ws.statementBlocks

/-- Reading the tree of a place where a program starts. -/
private lemma ends_root (hw : ws.Forest) (hm : ws.Measured) {o : Option BlockId}
    (ho : HoldsStatement ws o) (hcases : ∀ id, o = some id → ¬ ws.InCases id)
    (hfirst : ∀ id, o = some id → ¬ ws.FollowsIf id) :
    Ends (statements (ws.tree o) 0 none)
      (ChainRead ws 0 (ws.tree o).spine (ws.tree o).inside) (¬ (ws.Flawless ∧ ws.Rooted)) := by
  have hread := (hw.ends_chain hm ho).1 hcases 0 none [] []
    (fun id hid => by simpa using hfirst id hid) chainRead_nil
  exact hread.mono (fun _ hss => hss) fun hflaw h => hflaw h.1

/-- All statements of a workspace are read, or there is a flaw. -/
theorem ends_topStatements (hw : ws.Forest) (hm : ws.Measured) :
    Ends (topStatements ws) (fun ss => ws.Rooted ∧ ReadsAll ws ss)
      (¬ (ws.Flawless ∧ ws.Rooted)) := by
  unfold topStatements ReadsAll topRow
  cases hsync : ws.ofType .syncError with
  | cons id rest =>
    obtain ⟨b, hb, ht⟩ := hw.mem_ofType_iff.mp (hsync ▸ List.mem_cons_self (a := id))
    have hstmt : b.isStatement := by rw [Block.isStatement, Block.kind, ht]; decide
    have hflaw : ¬ (ws.Flawless ∧ ws.Rooted) := fun h => (h.1.inOrder id b hb hstmt).sound ht
    exact (ends_reject hflaw).bind fun _ => False.elim
  | nil =>
    dsimp only
    rcases hstart : ws.ofType .start with _ | ⟨entry, _ | ⟨second, rest⟩⟩
    case cons.cons =>
      refine ends_reject fun h => ?_
      simpa [hstart] using h.2.one
    case cons.nil =>
      cases hloose : looseStatements ws with
      | cons top rest =>
        have hflaw : ¬ (ws.Flawless ∧ ws.Rooted) := fun h => by
          obtain ⟨hb, hstmt, htop⟩ :=
            mem_looseStatements_iff.mp (hloose ▸ List.mem_cons_self (a := top))
          have hnot := h.2.attached entry (by simp [hstart]) _ htop _ hb
          rw [hstmt] at hnot
          cases hnot
        exact (ends_reject hflaw).bind fun _ => False.elim
      | nil =>
        obtain ⟨b, hb, ht⟩ := hw.mem_ofType_iff.mp (hstart ▸ List.mem_singleton_self entry)
        have hslot : "BODY" ∈ b.statements :=
          ((hm.of_block? hb).statements_perm_slots (by simp [ht])).mem_iff.mpr (by rw [ht]; decide)
        have hrooted : ws.Rooted := by
          refine ⟨by simp [hstart], fun _ _ id hid c hc => ?_⟩
          rw [Bool.eq_false_iff]
          intro hstmt
          have hmem : (id, c) ∈ looseStatements ws := mem_looseStatements_iff.mpr ⟨hc, hstmt, hid⟩
          rw [hloose] at hmem
          cases hmem
        refine (hw.ends_root hm (fun y hy => hw.isStatement_of_held? hb hslot hy) (fun y hy => ?_)
          fun y hy => hw.not_followsIf_of_held? (by decide) hy).imp fun ss hss =>
            ⟨hrooted, _, hss, hw.unbroken_spine _, hw.members_start_perm hm hstart hloose⟩
        rw [hw.inCases_iff_of_held? (by decide) hy]
        decide
    case nil =>
      refine (ends_mapM fun root hroot => ?_).bind fun chains hchains => ends_pure
        ⟨⟨by simp [hstart], by simp [hstart]⟩, _, chainRead_flatten hchains,
          hw.unbroken_spines _,
          (List.flatMap_append_perm _ _ _).trans (hw.members_loose_perm hm hstart)⟩
      obtain ⟨hb, hstmt, htop⟩ := mem_looseStatements_iff.mp hroot
      have hnone := (mem_tops_iff.mp htop).2
      refine hw.ends_root hm ?_ ?_ ?_
      · rintro _ ⟨⟩
        exact ⟨root.2, hb, hstmt⟩
      · rintro _ ⟨⟩
        exact hw.not_inCases_of_loose hnone
      · rintro _ ⟨⟩
        exact hw.not_followsIf_of_loose hnone

/-! ## Programs -/

/-- Empty lines stand for no blocks. -/
private lemma ChainRead.spaced {row under : List (BlockId × Block)} {ss ss' : List Stmt}
    (h : ChainRead ws 0 row under ss) (hspaced : Spaced ss ss') : ChainRead ws 0 row under ss' := by
  have hsame : ss'.flatMap Stmt.constructs = ss.flatMap Stmt.constructs ∧
      innerRows ss' = innerRows ss := by
    clear h
    induction hspaced with
    | nil => exact ⟨rfl, rfl⟩
    | line _ ih => exact ih
    | cons _ ih =>
      exact ⟨by rw [List.flatMap_cons, List.flatMap_cons, ih.1],
        by rw [innerRows, innerRows, ih.2]⟩
  have hmem : ∀ s ∈ ss', s ∈ ss ∨ ∃ i, s = .empty .generated i := by
    clear h hsame
    induction hspaced with
    | nil => simp
    | line _ ih => exact List.forall_mem_cons.mpr ⟨.inr ⟨_, rfl⟩, ih⟩
    | cons _ ih =>
      refine List.forall_mem_cons.mpr ⟨.inl List.mem_cons_self, fun s hs => ?_⟩
      exact (ih s hs).imp_left (List.mem_cons_of_mem _)
  refine ⟨by rw [hsame.1]; exact h.stands, by rw [hsame.2]; exact h.covers, fun hworded s hs => ?_,
    h.inOrder⟩
  rcases hmem s hs with hs | ⟨i, rfl⟩
  · exact h.wellFormed hworded s hs
  · exact ⟨trivial, by simp [Stmt.exprs], by simp [Stmt.suites], by simp [Stmt.suites]⟩

/-- A program was read off a workspace: all statements are in order and stand for its constructs. -/
structure ProgramRead (ws : Workspace) (p : Program) : Prop where
  rooted : ws.Rooted
  inOrder : ∀ id b, ws.block? id = some b → b.isStatement → ws.InOrder id b
  covers : ∃ inner : List (List (BlockId × Block)),
    List.Forall₂ (List.Forall₂ (Stands ws)) (ws.topRow :: inner) p.rows ∧
    (∀ row ∈ ws.topRow :: inner, ws.Unbroken (row.map (·.1))) ∧
    (ws.topRow :: inner).flatten.Perm ws.statementBlocks
  wellFormed : ws.Worded → p.WellFormed

/-- A program is read off a workspace, or there is a flaw. -/
theorem ends_program (hw : ws.Forest) (hm : ws.Measured) (indentWidth : ℤ) :
    Ends (program ws indentWidth) (ProgramRead ws) (¬ (ws.Flawless ∧ ws.Rooted)) := by
  unfold program
  refine (hw.ends_topStatements hm).bind fun ss hss => (gives_spaced none ss).ends.bind
    fun ss' hspaced => ends_freshInfo.bind fun i _ => ends_pure ?_
  obtain ⟨hrooted, under, hread, hunbroken, hperm⟩ := hss
  have hread := ChainRead.spaced hread hspaced
  obtain ⟨inner, hrows, hinner, hflat⟩ := hread.covers
  refine ⟨hrooted, fun id b hb hstmt => ?_,
    ⟨inner, .cons hread.stands hrows, List.forall_mem_cons.mpr ⟨hunbroken, hinner⟩,
      (hflat.append_left _).trans hperm⟩,
    fun hworded => ⟨rfl, hread.wellFormed hworded⟩⟩
  refine hread.inOrder (id, b) (hperm.mem_iff.mpr ?_)
  exact hw.mem_statementBlocks_iff.mpr ⟨hb, hstmt⟩

end Forest

/-! ## Reachable workspaces -/

variable {ws : Workspace}

/-- The program that is read off a reachable workspace has one construct for each statement: one
statement for each block that is neither a further alternative nor a case, one further condition for
each `elif` block, one last alternative for each `else` block and one case for each case block. Each
of these blocks stands for its construct: its fields and the values in its slots are those of the
construct, and the chains in its slots stand for the rows that belong to the construct. The
constructs are in the order of the blocks: the blocks at the top go along the first row, the other
rows go along rows of blocks, and in a row every block is right before the one that follows it. -/
theorem compile_covers_statements (hws : ws.Reachable) {counter counter' : IdCounter}
    {indentWidth : ℤ} {p : Program} (h : ws.compile counter indentWidth = (.ok p, counter')) :
    ∃ inner : List (List (BlockId × Block)),
      List.Forall₂ (List.Forall₂ (Stands ws)) (ws.topRow :: inner) p.rows ∧
      (∀ row ∈ ws.topRow :: inner, ws.Unbroken (row.map (·.1))) ∧
      (ws.topRow :: inner).flatten.Perm ws.statementBlocks :=
  ((hws.forest.ends_program hws.measured indentWidth).of_run h).covers

/-- The blocks form a program. -/
structure Grammatical (ws : Workspace) : Prop where
  sound : ∀ id b, ws.block? id = some b → b.type ≠ .syncError
  rooted : ws.Rooted
  alternative : ∀ id b, ws.block? id = some b → b.type = .elifStmt ∨ b.type = .elseStmt →
    ws.FollowsIf id
  case : ∀ id b, ws.block? id = some b → b.type = .caseStmt → ws.InCases id
  cases : ∀ id b, ws.block? id = some b → b.type = .matchStmt → ws.HasCases id
  pattern : ∀ id v c, ws.held? id "PATTERN" = some v → ws.block? v = some c → isPatternType c.type

/-- Blocks form a program if they are rooted and all statements are in order. -/
lemma Forest.grammatical_iff (hw : ws.Forest) (hm : ws.Measured) :
    ws.Grammatical ↔
      ws.Rooted ∧ ∀ id b, ws.block? id = some b → b.isStatement → ws.InOrder id b := by
  have hstatement : ∀ {b : Block} {t : BlockType}, b.type = t → t.kind = .statement →
      b.isStatement := fun ht hkind => by simp [Block.isStatement, Block.kind, ht, hkind]
  constructor
  · intro h
    exact ⟨h.rooted, fun id b hb _ => ⟨h.sound id b hb, h.alternative id b hb, h.case id b hb,
      h.cases id b hb, h.pattern id⟩⟩
  · rintro ⟨hrooted, hall⟩
    refine ⟨fun id b hb ht => ?_, hrooted, fun id b hb ht => ?_, fun id b hb ht => ?_,
      fun id b hb ht => ?_, fun id v c hv hc => ?_⟩
    · exact (hall id b hb (hstatement ht rfl)).sound ht
    · refine (hall id b hb ?_).alternative ht
      rcases ht with ht | ht <;> exact hstatement ht rfl
    · exact (hall id b hb (hstatement ht rfl)).case ht
    · exact (hall id b hb (hstatement ht rfl)).cases ht
    · obtain ⟨e, he, -, hholder, -⟩ := (hw.held?_eq_some_iff (by decide)).mp hv
      obtain ⟨b, hb⟩ := has_iff_block?.mp (hholder ▸ hw.has_holder he)
      exact (hall id b hb (hstatement (hw.type_of_pattern hm hb hv) rfl)).pattern v c hv hc

/-- If all fields hold what they are for, a program is read off a reachable workspace exactly if its
blocks form one. -/
theorem compile_succeeds_iff_grammatical (hws : ws.Reachable) (hworded : ws.Worded)
    (hchosen : ws.WellChosen) (counter : IdCounter) (indentWidth : ℤ) :
    (∃ p counter', ws.compile counter indentWidth = (.ok p, counter')) ↔ ws.Grammatical := by
  have hends := hws.forest.ends_program hws.measured indentWidth
  rw [hws.forest.grammatical_iff hws.measured]
  constructor
  · rintro ⟨p, counter', h⟩
    have hread := hends.of_run h
    exact ⟨hread.rooted, hread.inOrder⟩
  · rintro ⟨hrooted, hall⟩
    obtain ⟨p, counter', hrun, -⟩ := hends.exists_run
      (fun hflaw => hflaw ⟨⟨hworded, hchosen, hall⟩, hrooted⟩) counter
    exact ⟨p, counter', hrun⟩

/-! ### An example -/

/-- A start block with a conditional; its last alternative has a `match` block with one case. -/
def sampleOperations : List Operation :=
  [.create "event_start" none {}, .create "stmt_if" none {}, .create "stmt_else" none {},
    .create "stmt_match" none {}, .create "stmt_case" none {}, .create "expr_number" none {},
    .connectStatement "n1" "BODY" "n2", .connectNext "n2" "n3", .connectStatement "n3" "BODY" "n4",
    .connectStatement "n4" "CASES" "n5", .connectValue "n5" "PATTERN" "n6"]

/-- The workspace of these operations. -/
def sampleWorkspace : Workspace := Operation.applyAll {} sampleOperations

lemma sampleWorkspace_reachable : sampleWorkspace.Reachable := ⟨false, 0, sampleOperations, rfl⟩

lemma sampleWorkspace_worded : sampleWorkspace.Worded := by
  have hfields : ∀ entry ∈ sampleWorkspace.blocks, ∀ f ∈ entry.2.fields,
      entry.2.type.sortOf f.1 = .words → entry.2.type.vocabulary? f.1 = none → IsText f.2 := by
    decide +kernel
  exact fun entry hentry => Block.worded_of_fields (hfields entry hentry)

lemma sampleWorkspace_wellChosen : sampleWorkspace.WellChosen := by
  have hfields : ∀ entry ∈ sampleWorkspace.blocks, ∀ f ∈ entry.2.fields,
      (entry.2.type.vocabulary? f.1).all (· f.2) := by
    decide +kernel
  exact fun entry hentry => Block.wellChosen_of_fields (hfields entry hentry)

lemma sampleWorkspace_compiles :
    ∃ p counter', sampleWorkspace.compile {} 4 = (.ok p, counter') := by
  have hok : (sampleWorkspace.compile {} 4).1.isOk = true := by decide +kernel
  rcases hrun : sampleWorkspace.compile {} 4 with ⟨r, counter'⟩
  rw [hrun] at hok
  cases r with
  | ok p => exact ⟨p, counter', rfl⟩
  | error e => cases hok

/-- The four statements of the example are read. -/
theorem compile_covers_sample :
    sampleWorkspace.Reachable ∧ sampleWorkspace.statementBlocks.length = 4 ∧
    ∃ p counter', sampleWorkspace.compile {} 4 = (.ok p, counter') ∧
      ∃ inner : List (List (BlockId × Block)),
        List.Forall₂ (List.Forall₂ (Stands sampleWorkspace)) (sampleWorkspace.topRow :: inner)
          p.rows ∧
        (∀ row ∈ sampleWorkspace.topRow :: inner, sampleWorkspace.Unbroken (row.map (·.1))) ∧
        (sampleWorkspace.topRow :: inner).flatten.Perm sampleWorkspace.statementBlocks := by
  obtain ⟨p, counter', h⟩ := sampleWorkspace_compiles
  exact ⟨sampleWorkspace_reachable, by decide +kernel, p, counter', h,
    compile_covers_statements sampleWorkspace_reachable h⟩

/-- The blocks of the example form a program. -/
theorem grammatical_sample : sampleWorkspace.Reachable ∧ sampleWorkspace.Worded ∧
    sampleWorkspace.WellChosen ∧ sampleWorkspace.Grammatical :=
  ⟨sampleWorkspace_reachable, sampleWorkspace_worded, sampleWorkspace_wellChosen,
    (compile_succeeds_iff_grammatical sampleWorkspace_reachable sampleWorkspace_worded
      sampleWorkspace_wellChosen {} 4).mp sampleWorkspace_compiles⟩

end Workspace

end BlockText

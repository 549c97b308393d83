import BlockText.Proofs.Build.Compounds
import BlockText.Proofs.Syntax.Documents
import BlockText.Proofs.Workspace.Declaring
import BlockText.Proofs.Workspace.Operations

/-!
# Programs as blocks and back

Showing a program replaces everything by its blocks, under one start block.  `Workspace.Displays`
describes such a workspace, and the two halves of the round trip meet there: showing a well-formed
program ends in a workspace that displays it, and a workspace that displays a program is read as a
program that is structurally equal.
-/

namespace BlockText

open Syntax Workspace Compile

/-! ## All statements -/

namespace Edit

/-- The statement declares nothing and holds no statements, and it has code. -/
def isSimpleStmt : Stmt → Bool
  | .augAssign _ _ _ _ | .exprStmt _ _ | .passStmt _ | .breakStmt _ | .continueStmt _
  | .returnStmt _ _ | .importStmt _ _ _ _ | .assertStmt _ _ _ | .raiseStmt _ _ _ | .deleteStmt _ _
  | .globalStmt _ _ | .nonlocalStmt _ _ => true
  | _ => false

/-- Every well-formed simple statement is built as one block. -/
lemma buildsSimple_of_wellFormed {depth : ℤ} {s : Stmt} (h : s.WellFormed depth)
    (hsimple : isSimpleStmt s = true) : BuildsSimple depth s := by
  obtain ⟨sane, exprs, -, -⟩ := h
  have hexprs : ∀ e ∈ s.exprs, BuildsExpr e := fun e he => builds_of_wellFormed (exprs e he)
  have hoption : ∀ o : Option Expr, (∀ e, o = some e → e ∈ s.exprs) → ∀ e ∈ o, BuildsExpr e :=
    fun o ho e he => hexprs e (ho e he)
  cases s with
  | augAssign target op value i =>
    exact builds_augAssign (hexprs target (by simp [Stmt.exprs]))
      (hexprs value (by simp [Stmt.exprs]))
  | exprStmt e i =>
    refine builds_exprStmt (hexprs e (by simp [Stmt.exprs])) fun part hpart => ?_
    have he : e.WellFormed := exprs e (by simp [Stmt.exprs])
    obtain ⟨-, hparts⟩ := he
    exact builds_of_wellFormed (hparts part hpart)
  | passStmt i => exact builds_pass
  | breakStmt i => exact builds_break
  | continueStmt i => exact builds_continue
  | returnStmt value i =>
    exact builds_return (hoption value fun e he => by simp [Stmt.exprs, he])
  | importStmt module names isFrom i => exact builds_import sane.1 sane.2
  | assertStmt t msg i =>
    exact builds_assert (hexprs t (by simp [Stmt.exprs]))
      (hoption msg fun e he => by simp [Stmt.exprs, he])
  | raiseStmt exception cause i =>
    exact builds_raise (hoption exception fun e he => by simp [Stmt.exprs, he])
      (hoption cause fun e he => by simp [Stmt.exprs, he])
  | deleteStmt targets i => exact builds_delete hexprs
  | globalStmt names i => exact builds_global sane
  | nonlocalStmt names i => exact builds_nonlocal sane
  | _ => cases hsimple

/-- Every well-formed statement is built so that it is read as it was. -/
theorem buildsStmt_of_wellFormed {depth : ℤ} {s : Stmt} (h : s.WellFormed depth) :
    BuildsStmt depth s := by
  induction h with
  | @intro depth s sane exprs level suites ih =>
    have hwell : s.WellFormed depth := .intro sane exprs level suites
    have hexprs : ∀ e ∈ s.exprs, BuildsExpr e := fun e he => builds_of_wellFormed (exprs e he)
    have hoption : ∀ o : Option Expr, (∀ e, o = some e → e ∈ s.exprs) → ∀ e ∈ o, BuildsExpr e :=
      fun o ho e he => hexprs e (ho e he)
    have hoptional : ∀ o : Option (Suite Stmt), (∀ body, o = some body → (1, body) ∈ s.suites) →
        BuildsOptional depth o := fun o ho body hbody =>
      ⟨level _ (ho body hbody), ih _ (ho body hbody)⟩
    cases s with
    | ifStmt t body elifs orelse i =>
      obtain ⟨body, n⟩ := body
      obtain rfl : n = depth + 1 := level (1, ⟨body, n⟩) (by simp [Stmt.suites])
      refine builds_if (hexprs t (by simp [Stmt.exprs]))
        (ih (1, ⟨body, depth + 1⟩) (by simp [Stmt.suites]))
        (fun c hc => ?_) (hoptional orelse fun body h => by simp [Stmt.suites, h])
      have hsuite : ((1 : ℤ), c.body) ∈ (Stmt.ifStmt t ⟨body, depth + 1⟩ elifs orelse i).suites := by
        simpa [Stmt.suites] using .inr (.inl ⟨c, hc, rfl⟩)
      exact ⟨hexprs _ (by simpa [Stmt.exprs] using .inr ⟨c, hc, rfl⟩), level _ hsuite, ih _ hsuite⟩
    | whileStmt t body orelse i =>
      obtain ⟨body, n⟩ := body
      obtain rfl : n = depth + 1 := level (1, ⟨body, n⟩) (by simp [Stmt.suites])
      exact builds_while (hexprs t (by simp [Stmt.exprs]))
        (ih (1, ⟨body, depth + 1⟩) (by simp [Stmt.suites]))
        (hoptional orelse fun body h => by simp [Stmt.suites, h])
    | forStmt target iter body orelse isAsync i =>
      obtain ⟨body, n⟩ := body
      obtain rfl : n = depth + 1 := level (1, ⟨body, n⟩) (by simp [Stmt.suites])
      exact builds_for (hexprs target (by simp [Stmt.exprs])) (hexprs iter (by simp [Stmt.exprs]))
        (ih (1, ⟨body, depth + 1⟩) (by simp [Stmt.suites]))
        (hoptional orelse fun body h => by simp [Stmt.suites, h])
    | matchStmt subject cases i =>
      refine builds_match (hexprs subject (by simp [Stmt.exprs])) sane.1 fun c hc => ?_
      have hsuite : ((2 : ℤ), c.body) ∈ (Stmt.matchStmt subject cases i).suites := by
        simpa [Stmt.suites] using ⟨c, hc, rfl⟩
      exact ⟨sane.2 c hc, level _ hsuite, ih _ hsuite⟩
    | functionDef name ps body decorators returns isAsync i =>
      obtain ⟨body, n⟩ := body
      obtain rfl : n = depth + 1 := level (1, ⟨body, n⟩) (by simp [Stmt.suites])
      have hparam : ∀ p ∈ ps, ∀ e ∈ p.hint.toList ++ p.preset.toList, BuildsExpr e :=
        fun p hp e he => hexprs e (List.mem_append_left _ (List.mem_append_left _
          (List.mem_flatMap.mpr ⟨p, hp, he⟩)))
      refine builds_function sane.1 (fun p hp => ⟨sane.2 p hp, by simp,
          fun e he => hparam p hp e (by simp [Option.mem_def.mp he]),
          fun e he => hparam p hp e (by simp [Option.mem_def.mp he])⟩)
        (fun e he => hexprs e (List.mem_append_left _ (List.mem_append_right _ he)))
        (hoption returns fun e he => List.mem_append_right _ (by simpa using he))
        (ih (1, ⟨body, depth + 1⟩) (by simp [Stmt.suites]))
    | classDef name bases body decorators i =>
      obtain ⟨body, n⟩ := body
      obtain rfl : n = depth + 1 := level (1, ⟨body, n⟩) (by simp [Stmt.suites])
      exact builds_class sane (fun e he => hexprs e (List.mem_append_left _ he))
        (fun e he => hexprs e (List.mem_append_right _ he))
        (ih (1, ⟨body, depth + 1⟩) (by simp [Stmt.suites]))
    | assign targets value i =>
      refine builds_assign (fun name i' htarget => ?_)
        (fun e he => hexprs e (List.mem_cons_of_mem _ he)) (hexprs value (by simp [Stmt.exprs]))
      have htarget : (Expr.identifier name i').WellFormed := exprs _ (by simp [Stmt.exprs, htarget])
      obtain ⟨hname, -⟩ := htarget
      exact hname
    | annAssign target hint value i =>
      exact builds_annAssign (hexprs target (by simp [Stmt.exprs]))
        (hexprs hint (by simp [Stmt.exprs])) (hoption value fun e he => by simp [Stmt.exprs, he])
    | tryStmt body handlers orelse final i =>
      obtain ⟨body, n⟩ := body
      obtain rfl : n = depth + 1 := level (1, ⟨body, n⟩) (by simp [Stmt.suites])
      refine builds_try (ih (1, ⟨body, depth + 1⟩) (by simp [Stmt.suites])) (fun h hh => ?_)
        (hoptional orelse fun body h => by simp [Stmt.suites, h])
        (hoptional final fun body h => by simp [Stmt.suites, h])
      have hsuite : ((1 : ℤ), h.body) ∈
          (Stmt.tryStmt ⟨body, depth + 1⟩ handlers orelse final i).suites := by
        simpa [Stmt.suites] using .inr (.inl ⟨h, hh, rfl⟩)
      exact ⟨sane h hh, hoption h.type fun e he => List.mem_flatMap.mpr ⟨h, hh, by simpa using he⟩,
        level _ hsuite, ih _ hsuite⟩
    | withStmt items body isAsync i =>
      obtain ⟨body, n⟩ := body
      obtain rfl : n = depth + 1 := level (1, ⟨body, n⟩) (by simp [Stmt.suites])
      exact builds_with (fun w hw => ⟨sane w hw, hexprs _ (List.mem_map_of_mem hw)⟩)
        (ih (1, ⟨body, depth + 1⟩) (by simp [Stmt.suites]))
    | empty origin i => exact builds_empty
    | stray d => exact sane.elim
    | _ => exact (buildsSimple_of_wellFormed hwell rfl).buildsStmt

end Edit

/-! ## Workspaces that display a program -/

namespace Workspace

/-- There is one start block that nothing holds, and all other blocks are held; the chain in its
slot has a property. -/
structure Houses (ws : Workspace) (entry : BlockId) (good : BlockTree → Prop) : Prop where
  forest : ws.Forest
  proper : ∀ id b, ws.block? id = some b → b.Proper ∧ b.type ≠ .syncError
  tops : ws.tops = [entry]
  starts : ∃ b, ws.block? entry = some b ∧ b.type = .start
  body : good (ws.tree (ws.held? entry "BODY"))

/-- The blocks are those of a program, under one start block. -/
abbrev Displays (ws : Workspace) (entry : BlockId) (p : Program) : Prop :=
  ws.Houses entry fun t => Tells t 0 p.body.statements

variable {ws ws' : Workspace} {entry : BlockId} {p : Program} {good : BlockTree → Prop}

/-- A list without repetitions that has one member. -/
private lemma eq_singleton_of_mem_iff {α : Type} {l : List α} {a : α} (hnodup : l.Nodup)
    (h : ∀ b, b ∈ l ↔ b = a) : l = [a] := by
  have hperm : l.Perm [a] :=
    (List.perm_ext_iff_of_nodup hnodup (List.nodup_singleton a)).mpr fun b => by simp [h b]
  exact List.perm_singleton.mp hperm

/-- Only blocks and connections matter for what is under the start block. -/
lemma Houses.of_forest (h : ws.Houses entry good) (hforest : ws'.Forest)
    (hblocks : ws'.blocks = ws.blocks) (hlinks : ws'.links = ws.links) :
    ws'.Houses entry good := by
  have hin : ∀ id s, ws'.incoming id s = ws.incoming id s := fun id s => by
    rw [incoming, incoming, hlinks]
  have hout : ∀ id s, ws'.outgoing id s = ws.outgoing id s := fun id s => by
    rw [outgoing, outgoing, hlinks]
  have hblock : ∀ id, ws'.block? id = ws.block? id := fun id => by
    rw [block?, block?, hblocks]
  have hheld : ∀ id s, ws'.held? id s = ws.held? id s := fun id s => by rw [held?, held?, hin, hout]
  have htree : ∀ o, ws'.tree o = ws.tree o := fun o =>
    h.forest.tree_congr hforest fun _ _ y _ =>
      ⟨hblock y, fun s _ => hheld y s, by rw [next?, next?, hout]⟩
  refine ⟨hforest, fun id b hb => h.proper id b (by rwa [← hblock]), ?_, ?_, ?_⟩
  · rw [← h.tops, Workspace.tops, Workspace.tops, ids, ids, hblocks]
    simp only [Workspace.parent?, hin, hout]
  · simpa only [hblock] using h.starts
  · rw [htree, hheld]
    exact h.body

/-- Declared names, events and documents do not matter for what is under the start block. -/
lemma Houses.congr (h : ws.Houses entry good) (hgraph : Edit.SameGraph ws ws') :
    ws'.Houses entry good :=
  h.of_forest (Forest.of_sameGraph hgraph h.forest) hgraph.blocks hgraph.links

/-- The start block is the only one of its type: every other block is held, and a start block
cannot be. -/
lemma Houses.ofType_start (h : ws.Houses entry good) : ws.ofType .start = [entry] := by
  have hnodup : (ws.ofType .start).Nodup :=
    h.forest.ids_nodup.sublist (List.filter_sublist.map _)
  refine eq_singleton_of_mem_iff hnodup fun id => ?_
  rw [h.forest.mem_ofType_iff]
  constructor
  · rintro ⟨b, hb, ht⟩
    have htop : id ∈ ws.tops := by
      rw [mem_tops_iff]
      refine ⟨has_of_block? hb, Option.eq_none_iff_forall_ne_some.mpr fun other hother => ?_⟩
      obtain ⟨e, he, rfl, -⟩ := h.forest.parent?_eq_some_iff.mp hother
      cases hk : e.kind with
      | value =>
        obtain ⟨-, -, c, -, hc, -, hexpr, -⟩ := h.forest.value_cases he hk
        simp only [Edge.child, hk] at hb
        obtain rfl := Option.some.inj (hb.symm.trans hc)
        simp [Block.isExpression, Block.kind, ht, BlockType.kind] at hexpr
      | statement =>
        obtain ⟨-, -, -, c, -, hc, -, hstmt⟩ := h.forest.statement_cases he hk
        simp only [Edge.child, hk] at hb
        obtain rfl := Option.some.inj (hb.symm.trans hc)
        simp [Block.isStatement, Block.kind, ht, BlockType.kind] at hstmt
    simpa [h.tops] using htop
  · rintro rfl
    exact h.starts

end Workspace

/-! ## Showing a program -/

namespace Edit

/-- While events are switched off, everything can be removed, and the view stays. -/
lemma yields_wipe {ws : Workspace} (hmuted : ws.muted ≠ 0) :
    Yields wipe ws fun _ ws' => (ws'.Tidy ∧ ws'.blocks = []) ∧ ws'.links = {} ∧ ws'.spans = [] ∧
      ws'.viewport = ws.viewport := by
  unfold wipe clear
  simp only [Yields, ends_bind, ends_get, ends_modify]
  have hfire : ∀ (ids : List BlockId) (ws : Workspace), ws.muted ≠ 0 →
      ∀ {done : PUnit → Workspace → Prop}, done ⟨⟩ ws →
        Yields (ids.forM fun id => fire .delete (some id)) ws done := by
    intro ids
    induction ids with
    | nil => exact fun ws _ _ hdone => hdone
    | cons id rest ih =>
      intro ws hws done hdone
      change Yields (fire .delete (some id) >>= fun _ => rest.forM _) ws done
      rw [Yields, ends_bind]
      exact yields_fire hws (ih ws hws hdone)
  refine hfire _ _ ?_ ?_
  · exact hmuted
  · exact ⟨⟨⟨forest_of_empty rfl rfl rfl rfl, hmuted, by simp [block?]⟩, rfl⟩, by simp⟩

/-- Changes of places and view keep what was built. -/
private lemma yields_arrange {ws₀ ws : Workspace} {ts : List BlockTree} {x : Edit Unit}
    (h : Grove ws₀ ws ts) (hkeep : x.KeepsForest)
    (hx : Yields x ws fun _ ws' => ws'.blocks = ws.blocks ∧ ws'.links = ws.links ∧
      ws'.muted = ws.muted) : Yields x ws fun _ ws' => Grove ws₀ ws' ts := by
  have hforest := hkeep ws h.tidy.forest
  unfold Yields Ends at hx ⊢
  unfold Ends at hforest
  rcases hrun : x.run ws with ⟨r, ws'⟩
  rw [hrun] at hx hforest
  cases r with
  | ok a => exact h.congr hx.1 hx.2.1 hx.2.2 hforest
  | error e => exact hx

/-- A tree of a start block, and nothing else, is under that block. -/
private lemma houses_of_grove {ws₀ ws : Workspace} {E : BlockId} {b : Block}
    {slot : String → BlockTree} {good : BlockTree → Prop} (h : Opened ws₀ ws E b slot)
    (hempty : ws₀.blocks = []) (ht : b.type = .start) (hbody : good (slot "BODY")) :
    ws.Houses E good := by
  obtain ⟨hb, hslots, -, -, hloose⟩ := h.of_mem_node List.mem_cons_self
  have hnodup : ws.tops.Nodup := h.tidy.forest.ids_nodup.sublist List.filter_sublist
  refine ⟨h.tidy.forest, h.tidy.proper, eq_singleton_of_mem_iff hnodup fun id => ?_, ⟨b, hb, ht⟩, ?_⟩
  · rw [mem_tops_iff]
    constructor
    · rintro ⟨hid, hnone⟩
      rcases h.others id hid with hold | hroot | hheld
      · simp [has, hempty] at hold
      · simpa [roots] using hroot
      · rw [hnone] at hheld
        cases hheld
    · rintro rfl
      exact ⟨has_of_block? hb, hloose⟩
  · rwa [← hslots "BODY" (by decide)]

/-- While events are switched off, everything can be replaced by the blocks of a program. -/
lemma yields_install {p : Program} {whole : List Stmt → BlockTree → Prop}
    (hbody : Builds (suiteBlocks none none p.body.statements) (SuiteOf whole p.body.statements))
    {ws : Workspace} (hmuted : ws.muted ≠ 0) :
    Yields (install p) ws fun _ ws' => ∃ E, ws'.Houses E (whole p.body.statements) := by
  unfold install
  rw [Yields, ends_bind, ends_get]
  refine Yields.bind (yields_wipe hmuted) ?_
  rintro _ ws₁ ⟨⟨htidy, hempty⟩, -⟩
  refine Yields.bind (yields_create htidy (by decide) {}) fun E ws₂ h₂ => ?_
  have ht : (Block.ofType .start).type = .start := (Block.proper_ofType .start).2.1
  refine yields_fill htidy.forest h₂ hbody (fun _ h => h.1) (mem_statements h₂ ht (by decide)) rfl
    fun slot₃ ws₃ hbody' _ h₃ => ?_
  have hblock := (h₃.of_mem_node List.mem_cons_self).1
  have hmove : Yields (moveBy E entrySpot) ws₃ fun _ ws' => ws'.blocks = ws₃.blocks ∧
      ws'.links = ws₃.links ∧ ws'.muted = ws₃.muted := by
    unfold moveBy move
    simp only [Yields, ends_bind, ends_get]
    refine yields_require hblock ?_
    simp only [ends_modify]
    exact yields_fire h₃.tidy.muted ⟨rfl, rfl, rfl⟩
  refine Yields.bind (yields_arrange h₃ (keepsForest_moveBy E entrySpot) hmove) fun _ ws₄ h₄ => ?_
  refine Yields.bind (yields_arrange h₄ (keepsForest_cleanUp entrySpot) ⟨rfl, rfl, rfl⟩)
    fun _ ws₅ h₅ => ?_
  unfold setViewport
  simp only [Yields, ends_bind, ends_modify]
  refine yields_fire h₅.tidy.muted ⟨E, ?_⟩
  exact (houses_of_grove h₅ hempty ht hbody'.2).congr ⟨rfl, rfl, rfl, rfl⟩

/-- Showing a well-formed program that is not shown yet replaces everything by its blocks, and its
document is installed. -/
theorem yields_build {p : Program} (hp : p.WellFormed) {ws : Workspace}
    (hnew : ws.installed ≠ some p.body.toDatum.toJson) :
    Yields (build p) ws fun replaced ws' => replaced = true ∧
      ws'.installed = some p.body.toDatum.toJson ∧ ∃ E, ws'.Displays E p := by
  unfold build
  rw [Yields, ends_bind, ends_get, if_neg (by simpa using hnew)]
  have hbody : Builds (suiteBlocks none none p.body.statements)
      (ShowsSuite 0 p.body.statements) :=
    builds_suite fun s hs => buildsStmt_of_wellFormed (hp.statements s hs)
  have hinstall : Yields (quietly (install p)) ws fun _ ws' => ∃ E, ws'.Displays E p := by
    refine ends_quietly ((yields_install hbody (Nat.succ_ne_zero _)).mono ?_)
    rintro _ ws₁ ⟨E, hE⟩
    exact ⟨E, hE.congr ⟨rfl, rfl, rfl, rfl⟩⟩
  refine Yields.bind hinstall ?_
  rintro _ ws₁ ⟨E, hE⟩
  have hnamed : ∀ entry ∈ ws₁.blocks, entry.2.Named := fun entry hentry =>
    (hE.proper _ _ (hE.forest.mem_blocks_iff.mp hentry)).1.named
  rw [Yields, ends_bind]
  refine yields_refreshDeclared hnamed fun variableNames functions => ?_
  simp only [ends_bind, ends_modify, ends_pure]
  exact ⟨trivial, trivial, E, hE.congr ⟨rfl, rfl, rfl, rfl⟩⟩

end Edit

/-! ## Reading a displayed program -/

namespace Compile

/-- With one start block at the top, no statement is loose. -/
lemma looseStatements_of_houses {ws : Workspace} {entry : BlockId} {good : BlockTree → Prop}
    (h : ws.Houses entry good) : looseStatements ws = [] := by
  obtain ⟨b, hb, ht⟩ := h.starts
  have horder : ws.orderedTops = [entry] := by simp [orderedTops, h.tops]
  simp [looseStatements, horder, hb, Block.isStatement, Block.kind, ht, BlockType.kind]

/-- A workspace that displays a program is read as a program whose body is alike. -/
private lemma gives_program {ws : Workspace} {entry : BlockId} {p : Program}
    (h : ws.Displays entry p) (hlevel : p.body.level = 0) (indentWidth : ℤ) :
    Gives (program ws indentWidth) fun q => Suite.Alike p.body q.body := by
  have herrors : ws.ofType .syncError = [] := by
    rw [ofType, List.map_eq_nil_iff, List.filter_eq_nil_iff]
    rintro ⟨id, b⟩ hmem
    simpa using (h.proper id b (h.forest.mem_blocks_iff.mp hmem)).2
  have htop : Gives (topStatements ws) (StmtsAlike · p.body.statements) := by
    unfold topStatements
    rw [herrors, h.ofType_start, looseStatements_of_houses h]
    simpa [closing] using h.body none
  unfold program
  refine htop.bind fun ss hss => (gives_spaced none ss).bind fun ss' hss' =>
    gives_freshInfo.bind fun i _ => gives_pure ?_
  have hbody : p.body = ⟨p.body.statements, 0⟩ := by rw [← hlevel]
  rw [hbody]
  exact Suite.alike_of_statements (hss'.alike.trans hss).symm 0

end Compile

namespace Workspace

/-- A workspace that displays a well-formed program is read as a structurally equal one, and also as
one that is structurally equal to every well-formed program with an alike body. -/
lemma Displays.compile_of_alike {ws : Workspace} {entry : BlockId} {p p' : Program}
    (h : ws.Displays entry p) (hp : p.WellFormed) (hp' : p'.WellFormed)
    (halike : Suite.Alike p'.body p.body) (counter : IdCounter) (indentWidth : ℤ) :
    ∃ q counter', ws.compile counter indentWidth = (.ok q, counter') ∧
      Datum.structurallyEqual p'.toDatum q.toDatum = true := by
  obtain ⟨q, counter', hrun, hbody⟩ := (gives_program h hp.level indentWidth).exists_run counter
  exact ⟨q, counter', hrun, structurallyEqual_of_alike hp' (halike.trans hbody)⟩

/-- A workspace that displays a well-formed program is read as a structurally equal one. -/
lemma Displays.compile {ws : Workspace} {entry : BlockId} {p : Program}
    (h : ws.Displays entry p) (hp : p.WellFormed) (counter : IdCounter) (indentWidth : ℤ) :
    ∃ q counter', ws.compile counter indentWidth = (.ok q, counter') ∧
      Datum.structurallyEqual p.toDatum q.toDatum = true :=
  h.compile_of_alike hp hp rfl counter indentWidth

/-- Showing a well-formed program that is not shown yet is carried out, and leaves a workspace that
displays it. -/
lemma exists_displays_of_build {ws : Workspace} {p : Program} (hp : p.WellFormed)
    (hnew : ws.installed ≠ some p.body.toDatum.toJson) :
    ∃ ws' entry, (Edit.build p).run ws = (.ok true, ws') ∧ ws'.Displays entry p := by
  obtain ⟨_, ws', hrun, rfl, -, entry, hdisplays⟩ := (Edit.yields_build hp hnew).exists_run
  exact ⟨ws', entry, hrun, hdisplays⟩

/-- Whatever is in a workspace, if it does not show a well-formed program yet, the program can be
shown: its start block is then the only block that nothing holds, and reading the blocks succeeds
and gives a structurally equal program. -/
theorem compile_build (ws : Workspace) (p : Program) (hp : p.WellFormed)
    (hnew : ws.installed ≠ some p.body.toDatum.toJson) (counter : IdCounter) (indentWidth : ℤ) :
    ∃ ws' entry, (Edit.build p).run ws = (.ok true, ws') ∧ ws'.ofType .start = [entry] ∧
      ws'.tops = [entry] ∧ ∃ q counter', ws'.compile counter indentWidth = (.ok q, counter') ∧
        Datum.structurallyEqual p.toDatum q.toDatum = true := by
  obtain ⟨ws', entry, hrun, hdisplays⟩ := exists_displays_of_build hp hnew
  exact ⟨ws', entry, hrun, hdisplays.ofType_start, hdisplays.tops,
    hdisplays.compile hp counter indentWidth⟩

/-- A program with a conditional, an empty line and a call that has a block of its own. -/
def sampleProgram : Program where
  body := ⟨[.ifStmt (.identifier "x" {}) ⟨[.passStmt {}], 1⟩ [] (some ⟨[.breakStmt {}], 1⟩) {},
    .empty .generated {},
    .exprStmt (.call (.identifier "print" {}) [.literal .number "1" .null {}] [] {}) {}], 0⟩

lemma sampleProgram_wellFormed : sampleProgram.WellFormed := by
  have hx : (Expr.identifier "x" {}).WellFormed :=
    ⟨isName_text (by decide), by simp [Expr.parts]⟩
  have hprint : (Expr.identifier "print" {}).WellFormed :=
    ⟨isName_text (by decide), by simp [Expr.parts]⟩
  have hone : (Expr.literal .number "1" .null {}).WellFormed :=
    ⟨⟨⟨[.char '1'], by decide, by decide, rfl⟩, rfl⟩, by simp [Expr.parts]⟩
  have hcall : (Expr.call (.identifier "print" {}) [.literal .number "1" .null {}] [] {}).WellFormed :=
    ⟨by simp [Expr.Sane], by simp [Expr.parts, hprint, hone]⟩
  have hpass : (Stmt.passStmt {}).WellFormed 1 :=
    ⟨trivial, by simp [Stmt.exprs], by simp [Stmt.suites], by simp [Stmt.suites]⟩
  have hbreak : (Stmt.breakStmt {}).WellFormed 1 :=
    ⟨trivial, by simp [Stmt.exprs], by simp [Stmt.suites], by simp [Stmt.suites]⟩
  refine ⟨rfl, ?_⟩
  simp only [sampleProgram, List.forall_mem_cons]
  refine ⟨⟨trivial, by simp [Stmt.exprs, hx], by simp [Stmt.suites],
      by simp [Stmt.suites, hpass, hbreak]⟩,
    ⟨trivial, by simp [Stmt.exprs], by simp [Stmt.suites], by simp [Stmt.suites]⟩,
    ⟨trivial, by simp [Stmt.exprs, hcall], by simp [Stmt.suites], by simp [Stmt.suites]⟩, by simp⟩

/-- The program is shown in an empty workspace and read again. -/
theorem compile_build_sample : sampleProgram.WellFormed ∧
    ({} : Workspace).installed ≠ some sampleProgram.body.toDatum.toJson ∧
    ∃ ws' entry, (Edit.build sampleProgram).run {} = (.ok true, ws') ∧ ws'.ofType .start = [entry] ∧
      ws'.tops = [entry] ∧ ∃ q counter', ws'.compile {} 4 = (.ok q, counter') ∧
        Datum.structurallyEqual sampleProgram.toDatum q.toDatum = true :=
  ⟨sampleProgram_wellFormed, by simp,
    compile_build {} sampleProgram sampleProgram_wellFormed (by simp) {} 4⟩

end Workspace

end BlockText

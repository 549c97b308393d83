import BlockText.Proofs.Compile.Statements
import BlockText.Proofs.Compile.Suites

/-!
# Chains read off any workspace

The tree at a place of a workspace is read by going along its chain and into its slots.  Whatever
the blocks are, all statements of the tree are read, each once and in order, or there is a flaw:
`Forest.ends_expr` for values and `Forest.ends_chain` for statements and for cases.  The induction
is on the tree.  What is carried along a chain is what was read so far, with the conditional that
may still get alternatives: it is open exactly if the next block comes right after a condition.
-/

namespace BlockText

open Syntax Compile

namespace Compile

variable {ws : Workspace} {id : BlockId} {b : Block} {kids : String → BlockTree} {t : BlockTree}
  {depth : ℤ}

/-! ## What was read of a chain -/

/-- Statements at a depth were read off a row of blocks; `under` are the statements in the slots of
these blocks. -/
structure ChainRead (ws : Workspace) (depth : ℤ) (row under : List (BlockId × Block))
    (ss : List Stmt) : Prop where
  stands : List.Forall₂ (Stands ws) row (ss.flatMap Stmt.constructs)
  covers : Covers ws under (innerRows ss)
  wellFormed : ws.Worded → ∀ s ∈ ss, s.WellFormed depth
  inOrder : ∀ entry ∈ row ++ under, ws.InOrder entry.1 entry.2

lemma chainRead_nil : ChainRead ws depth [] [] [] := ⟨.nil, covers_nil, by simp, by simp⟩

/-- Some of a chain and some more. -/
lemma ChainRead.append {row row' under under' : List (BlockId × Block)} {ss ss' : List Stmt}
    (h : ChainRead ws depth row under ss) (h' : ChainRead ws depth row' under' ss') :
    ChainRead ws depth (row ++ row') (under ++ under') (ss ++ ss') where
  stands := by
    rw [List.flatMap_append]
    exact List.rel_append h.stands h'.stands
  covers := by
    rw [innerRows_append]
    exact h.covers.append h'.covers
  wellFormed hworded s hs := by
    rcases List.mem_append.mp hs with hs | hs
    · exact h.wellFormed hworded s hs
    · exact h'.wellFormed hworded s hs
  inOrder entry hentry := by
    have hall := And.intro (h.inOrder entry) (h'.inOrder entry)
    simp only [List.mem_append] at hentry hall
    tauto

/-- A statement that was read off one block. -/
lemma StmtRead.chainRead {s : Stmt} (h : StmtRead ws b (ws.kidsOf id) depth s)
    (hdepicts : DepictsStmt b (ws.kidsOf id) s) (hself : ws.InOrder id b) :
    ChainRead ws depth [(id, b)] (b.statements.flatMap fun slot => (ws.kidsOf id slot).members)
      [s] where
  stands := by
    rw [List.flatMap_singleton, h.constructs]
    exact .cons ⟨hdepicts, h.slotted⟩ .nil
  covers := by simpa [innerRows] using h.covers
  wellFormed hworded := by simpa using h.wellFormed hworded
  inOrder := by
    refine List.forall_mem_cons.mpr ⟨hself, fun entry hentry => ?_⟩
    obtain ⟨slot, hslot, hentry⟩ := List.mem_flatMap.mp hentry
    exact h.inOrder slot hslot entry hentry

/-! ### Conditionals -/

/-- A suite at a depth, with well-formed statements. -/
private def Fits (depth : ℤ) (body : Suite Stmt) : Prop :=
  body.level = depth ∧ ∀ s ∈ body.statements, s.WellFormed depth

/-- A conditional is well-formed if its conditions and its suites are. -/
private lemma wellFormed_ifStmt_iff {test : Expr} {body : Suite Stmt}
    {elifs : List (ElifClause Stmt)} {orelse : Option (Suite Stmt)} {i : Info} :
    (Stmt.ifStmt test body elifs orelse i).WellFormed depth ↔
      test.WellFormed ∧ Fits (depth + 1) body ∧
        (∀ c ∈ elifs, c.test.WellFormed ∧ Fits (depth + 1) c.body) ∧
        ∀ body ∈ orelse, Fits (depth + 1) body := by
  constructor
  · rintro ⟨-, hexprs, hlevel, hsuites⟩
    have hfits : ∀ part ∈ (Stmt.ifStmt test body elifs orelse i).suites,
        Fits (depth + part.1) part.2 := fun part hpart => ⟨hlevel part hpart, hsuites part hpart⟩
    refine ⟨hexprs test (by simp [Stmt.exprs]), hfits (1, body) (by simp [Stmt.suites]),
      fun c hc => ⟨hexprs c.test ?_, hfits (1, c.body) ?_⟩, fun body hbody => hfits (1, body) ?_⟩
    · simpa [Stmt.exprs] using .inr ⟨c, hc, rfl⟩
    · simpa [Stmt.suites] using .inr (.inl ⟨c, hc, rfl⟩)
    · simpa [Stmt.suites] using .inr (.inr hbody)
  · rintro ⟨htest, hbody, helifs, horelse⟩
    have hfits : ∀ part ∈ (Stmt.ifStmt test body elifs orelse i).suites,
        Fits (depth + part.1) part.2 := by
      simp only [Stmt.suites, List.cons_append, List.mem_cons, List.mem_append, List.mem_map,
        Option.mem_toList]
      rintro _ (rfl | ⟨c, hc, rfl⟩ | ⟨body, hbody, rfl⟩)
      · exact hbody
      · exact (helifs c hc).2
      · exact horelse body hbody
    refine ⟨trivial, List.forall_mem_cons.mpr ⟨htest, fun e he => ?_⟩,
      fun part hpart => (hfits part hpart).1, fun part hpart => (hfits part hpart).2⟩
    obtain ⟨c, hc, rfl⟩ := List.mem_map.mp he
    exact (helifs c hc).1

/-- A suite that was read fits. -/
private lemma SuiteRead.fits {body : Suite Stmt} (h : SuiteRead ws t depth body)
    (hworded : ws.Worded) : Fits depth body := ⟨h.level, h.wellFormed hworded⟩

/-- A conditional without further alternatives. -/
lemma chainRead_if (ht : b.type = .ifStmt) (hself : ws.InOrder id b) {test : Expr}
    (htest : ws.Worded → test.WellFormed) (hholds : Holds (ws.kidsOf id) "COND" test)
    {body : Suite Stmt} (hbody : SuiteRead ws (ws.kidsOf id "BODY") (depth + 1) body) (i : Info) :
    ChainRead ws depth [(id, b)] (ws.kidsOf id "BODY").members
      (closing (some ⟨test, body, [], i⟩)) where
  stands := .cons ⟨⟨ht, hholds⟩, List.forall_mem_singleton.mpr hbody.stands⟩ .nil
  covers := by
    simpa [closing, OpenIf.close, innerRows, Stmt.inner, elifRows, optionalRows] using hbody.covers
  wellFormed hworded := by
    simpa [closing, OpenIf.close, wellFormed_ifStmt_iff] using ⟨htest hworded, hbody.fits hworded⟩
  inOrder := List.forall_mem_cons.mpr ⟨hself, hbody.inOrder⟩

section Alternatives

variable {row under : List (BlockId × Block)} {o : OpenIf} {body : Suite Stmt}

/-- The block of a conditional stands for it whatever its alternatives are. -/
private lemma stands_ifStmt {entry : BlockId × Block} {test : Expr}
    {elifs elifs' : List (ElifClause Stmt)} {orelse orelse' : Option (Suite Stmt)} {i : Info}
    (h : Stands ws entry (.statement (.ifStmt test body elifs orelse i))) :
    Stands ws entry (.statement (.ifStmt test body elifs' orelse' i)) := by
  obtain ⟨hdepicts, hslotted⟩ := h
  exact ⟨hdepicts, hslotted⟩

/-- An alternative adds its block and the statements in its slot. -/
private lemma ChainRead.inOrder_alternative {ss : List Stmt} (h : ChainRead ws depth row under ss)
    (hself : ws.InOrder id b) (hbody : SuiteRead ws t (depth + 1) body) :
    ∀ entry ∈ (row ++ [(id, b)]) ++ (under ++ t.members),
      ws.InOrder entry.1 entry.2 := by
  intro entry hentry
  have hall := And.intro (h.inOrder entry) (hbody.inOrder entry)
  simp only [List.mem_append, List.mem_singleton] at hentry hall
  rcases hentry with (hrow | rfl) | hunder | hmember
  · exact hall.1 (.inl hrow)
  · exact hself
  · exact hall.1 (.inr hunder)
  · exact hall.2 hmember

/-- A further condition. -/
lemma ChainRead.elif (h : ChainRead ws depth row under (closing (some o))) (ht : b.type = .elifStmt)
    (hself : ws.InOrder id b) {test : Expr} (htest : ws.Worded → test.WellFormed)
    (hholds : Holds (ws.kidsOf id) "COND" test)
    (hbody : SuiteRead ws (ws.kidsOf id "BODY") (depth + 1) body) (i : Info) :
    ChainRead ws depth (row ++ [(id, b)]) (under ++ (ws.kidsOf id "BODY").members)
      (closing (some { o with elifs := o.elifs ++ [⟨test, body, i⟩] })) where
  stands := by
    have hstands := h.stands
    simp only [closing, OpenIf.close, List.flatMap_singleton, Stmt.constructs, Option.toList_none,
      List.map_nil, List.append_nil, List.map_append, List.map_cons] at hstands ⊢
    obtain ⟨first, rest, hfirst, hrest, rfl⟩ := List.forall₂_cons_right_iff.mp hstands
    refine .cons (stands_ifStmt hfirst) (List.rel_append hrest (.cons ?_ .nil))
    exact ⟨⟨ht, hholds⟩, List.forall_mem_singleton.mpr hbody.stands⟩
  covers := by
    have hcovers := h.covers.append hbody.covers
    simpa [closing, OpenIf.close, innerRows, Stmt.inner, elifRows, optionalRows] using hcovers
  wellFormed hworded := by
    have hwell := h.wellFormed hworded (o.close none) List.mem_cons_self
    obtain ⟨htest', hbody', helifs, -⟩ := wellFormed_ifStmt_iff.mp hwell
    rintro _ (_ | ⟨_, ⟨⟩⟩)
    refine wellFormed_ifStmt_iff.mpr ⟨htest', hbody', fun c hc => ?_, by simp⟩
    rcases List.mem_append.mp hc with hc | hc
    · exact helifs c hc
    · rw [List.mem_singleton] at hc
      subst hc
      exact ⟨htest hworded, hbody.fits hworded⟩
  inOrder := h.inOrder_alternative hself hbody

/-- The last alternative. -/
lemma ChainRead.orelse (h : ChainRead ws depth row under (closing (some o)))
    (ht : b.type = .elseStmt) (hself : ws.InOrder id b)
    (hbody : SuiteRead ws (ws.kidsOf id "BODY") (depth + 1) body) :
    ChainRead ws depth (row ++ [(id, b)]) (under ++ (ws.kidsOf id "BODY").members)
      [o.close (some body)] where
  stands := by
    have hstands := h.stands
    simp only [closing, OpenIf.close, List.flatMap_singleton, Stmt.constructs, Option.toList_none,
      Option.toList_some, List.map_nil, List.append_nil, List.map_cons] at hstands ⊢
    obtain ⟨first, rest, hfirst, hrest, rfl⟩ := List.forall₂_cons_right_iff.mp hstands
    refine .cons (stands_ifStmt hfirst) (List.rel_append hrest (.cons ?_ .nil))
    exact ⟨ht, List.forall_mem_singleton.mpr hbody.stands⟩
  covers := by
    have hcovers := h.covers.append hbody.covers
    simpa [closing, OpenIf.close, innerRows, Stmt.inner, optionalRows] using hcovers
  wellFormed hworded := by
    have hwell := h.wellFormed hworded (o.close none) List.mem_cons_self
    obtain ⟨htest', hbody', helifs, -⟩ := wellFormed_ifStmt_iff.mp hwell
    rintro _ (_ | ⟨_, ⟨⟩⟩)
    exact wellFormed_ifStmt_iff.mpr ⟨htest', hbody', helifs, by simpa using hbody.fits hworded⟩
  inOrder := h.inOrder_alternative hself hbody

end Alternatives

end Compile

namespace Workspace.Forest

variable {ws : Workspace} {id : BlockId} {b : Block} {depth : ℤ}

/-! ## Values -/

/-- The place is empty or holds an expression. -/
def HoldsExpression (ws : Workspace) (o : Option BlockId) : Prop :=
  ∀ id, o = some id → ∃ b, ws.block? id = some b ∧ b.isExpression

/-- What a slot holds whose name is not that of a slot for statements. -/
private lemma value_of_held? (hw : ws.Forest) (hm : ws.Measured) (hb : ws.block? id = some b)
    {s : String} (hown : isOwnPort s = false) (hs : IsValueName s) {y : BlockId}
    (hy : ws.held? id s = some y) :
    s ∈ b.values ∧ ∃ c, ws.block? y = some c ∧ c.isExpression := by
  obtain ⟨e, he, rfl, hholder, rfl⟩ := (hw.held?_eq_some_iff hown).mp hy
  cases hk : e.kind with
  | value =>
    obtain ⟨-, -, source, target, hsource, htarget, hexpr, hslot⟩ := hw.value_cases he hk
    simp only [Edge.holder, Edge.child, Edge.slot, hk] at hholder ⊢
    rw [hholder, hb] at htarget
    obtain rfl := Option.some.inj htarget
    exact ⟨by simpa [Block.hasValueSlot] using hslot, source, hsource, hexpr⟩
  | statement =>
    obtain ⟨-, -, source, -, hsource, -, hslot, -⟩ := hw.statement_cases he hk
    simp only [Edge.holder, Edge.slot, hk] at hholder hown hs
    rw [hholder, hb] at hsource
    obtain rfl := Option.some.inj hsource
    exact absurd hs (exists_bodyStem (hm.of_block? hb) (Block.mem_statements_of_slot hslot hown))

/-- A place for a value is empty or read like the tree there. -/
private lemma ends_optional {t : BlockTree} {good : Expr → Prop} {flaw : Prop}
    (h : t.isPresent → Ends (expr t) good flaw) :
    Ends (Compile.optional t) (fun o => ∀ e, o = some e → good e) flaw := by
  unfold Compile.optional
  split
  case isTrue hpresent => exact Ends.map ((h hpresent).imp fun e he => by simpa using he)
  case isFalse => exact ends_pure (by simp)

/-- A block of a measured workspace is ready to be read once its slots are. -/
private lemma ready_of_slots (hm : ws.Measured) (hb : ws.block? id = some b) {slots : Slots}
    (hslots : ∀ s, IsValueName s →
      Ends (slots s) (fun o => ∀ e, o = some e → ws.Worded → e.WellFormed) (¬ ws.Flawless)) :
    Ready b slots ws.Worded (¬ ws.Flawless) where
  measured := hm.of_block? hb
  worded hworded := hworded _ (mem_of_entryAt? hb)
  faultless hflawless := by
    have hflawless := not_not.mp hflawless
    exact ⟨hflawless.worded _ (mem_of_entryAt? hb), hflawless.chosen _ (mem_of_entryAt? hb)⟩
  slots := hslots

/-- The expression at a place is well-formed if its fields for texts hold texts. -/
theorem ends_expr (hw : ws.Forest) (hm : ws.Measured) {o : Option BlockId}
    (ho : HoldsExpression ws o) :
    Ends (expr (ws.tree o)) (fun e => ws.Worded → e.WellFormed) (¬ ws.Flawless) := by
  induction ht : ws.tree o generalizing o with
  | nothing =>
    exact ends_freshInfo.bind fun i _ => ends_pure fun _ => Ready.wellFormed_placeholder i
  | node id b kids next ihslot _ =>
    obtain ⟨rfl, hb, hkids, -⟩ := hw.of_tree_eq_node ht
    obtain ⟨c, hc, hexpr⟩ := ho id rfl
    obtain rfl := Option.some.inj (hb.symm.trans hc)
    rw [expr]
    refine Ends.checked (Ready.ends_exprOf (ready_of_slots hm hb fun s hs => ?_) hexpr)
    refine ends_optional fun hpresent => ?_
    have hkid := hkids s
    split at hkid
    case isTrue => simp [hkid, BlockTree.isPresent] at hpresent
    case isFalse hown =>
      exact ihslot s (fun y hy => (hw.value_of_held? hm hb (by simpa using hown) hs hy).2) hkid.symm

/-- Every block is ready to be read. -/
lemma ready (hw : ws.Forest) (hm : ws.Measured) (hb : ws.block? id = some b) :
    Ready b (slotsOf (kidsOf ws id)) ws.Worded (¬ ws.Flawless) := by
  refine ready_of_slots hm hb fun s hs => ends_optional fun hpresent => ?_
  unfold kidsOf at hpresent ⊢
  split at hpresent
  case isTrue => cases hpresent
  case isFalse hown =>
    rw [if_neg hown]
    exact hw.ends_expr hm fun y hy => (hw.value_of_held? hm hb (by simpa using hown) hs hy).2

/-- Only case blocks hold patterns. -/
lemma type_of_pattern (hw : ws.Forest) (hm : ws.Measured) (hb : ws.block? id = some b)
    {y : BlockId} (hy : ws.held? id "PATTERN" = some y) : b.type = .caseStmt :=
  (hm.of_block? hb).type_of_pattern (hw.value_of_held? hm hb (by decide) (by decide) hy).1

/-- Reading a pattern checks that it is a name or a literal. -/
lemma ends_pattern (hw : ws.Forest) (hm : ws.Measured) (hb : ws.block? id = some b)
    (hstmt : b.isStatement) :
    Ends (pattern (ws.tree (ws.held? id "PATTERN")))
      (fun p => (ws.Worded → p.Sane) ∧ ∀ v c, ws.held? id "PATTERN" = some v →
        ws.block? v = some c → isPatternType c.type) (¬ ws.Flawless) := by
  cases hv : ws.held? id "PATTERN" with
  | none =>
    rw [tree_none]
    exact ends_freshInfo.bind fun i _ => ends_pure ⟨fun _ => trivial, by simp⟩
  | some v =>
    obtain ⟨-, c, hc, -⟩ := hw.value_of_held? hm hb (by decide) (by decide) hv
    have htype : isPatternType c.type = true → ∀ v' c', some v = some v' → ws.block? v' = some c' →
        isPatternType c'.type = true := by
      rintro h _ c' ⟨⟩ hc'
      obtain rfl := Option.some.inj (hc.symm.trans hc')
      exact h
    have hready := hw.ready hm hc
    have hliteral : Ready.isLiteralType c.type = true →
        Ends (expr (ws.tree (some v))) (fun e => ∀ i, ws.Worded → (Pattern.literal e i).Sane)
          (¬ ws.Flawless) := by
      intro ht
      rw [hw.tree_some hc, expr]
      refine Ends.checked ((hready.ends_literal ht).imp ?_)
      rintro _ ⟨kind, raw, value, i, rfl, hsane⟩ _
      exact hsane
    rw [hw.tree_some hc] at hliteral ⊢
    unfold pattern
    dsimp only
    split
    case h_1 ht =>
      split
      · exact ends_freshInfo.bind fun i _ => ends_pure ⟨fun _ => trivial, htype (by rw [ht]; rfl)⟩
      case isFalse hne =>
        refine ends_freshInfo.bind fun i _ => ends_pure
          ⟨fun hworded => ⟨?_, ?_⟩, htype (by rw [ht]; rfl)⟩
        · exact Ready.isName_nameIn
            (hready.exists_word (hready.worded hworded) ht "name" (by decide))
        · rintro heq
          exact hne (by rw [heq]; decide)
    case h_6 hname hnumber hstring hbool hnone =>
      refine ends_reject fun hflawless => ?_
      have hpattern := (hflawless.inOrder id b hb hstmt).pattern v c hv hc
      revert hpattern hname hnumber hstring hbool hnone
      cases c.type <;> simp [isPatternType]
    all_goals
      rename_i ht
      exact ends_freshInfo.bind fun i _ => (hliteral (by rw [ht]; rfl)).bind fun e he =>
        ends_pure ⟨he i, htype (by rw [ht]; rfl)⟩

/-! ## Statements -/

/-- Reading what is at a place as statements, after some that were read already. -/
def ReadsStatements (ws : Workspace) (o : Option BlockId) : Prop :=
  ∀ depth current row under, (∀ id, o = some id → (current.isSome ↔ ws.FollowsIf id)) →
    ChainRead ws depth row under (closing current) →
    Ends (statements (ws.tree o) depth current)
      (ChainRead ws depth (row ++ (ws.tree o).spine) (under ++ (ws.tree o).inside))
      (¬ ws.Flawless)

/-- Reading what is at a place as cases. -/
def ReadsCases (ws : Workspace) (o : Option BlockId) : Prop :=
  ∀ depth, Ends (cases (ws.tree o) depth) (CasesRead ws (ws.tree o) depth) (¬ ws.Flawless)

/-- A block and what its slots hold: suites, and cases in a slot for them. -/
structure SlotsRead (ws : Workspace) (id : BlockId) (b : Block) : Prop where
  block : ws.block? id = some b
  isStatement : b.isStatement
  bodies : ∀ s ∈ b.statements, s ≠ "CASES" → ReadsStatements ws (ws.held? id s)
  cases : "CASES" ∈ b.statements → ReadsCases ws (ws.held? id "CASES")

/-- What a slot for statements holds. -/
private lemma kidsOf_eq_tree (hw : ws.Forest) (hb : ws.block? id = some b) {s : String}
    (hs : s ∈ b.statements) : kidsOf ws id s = ws.tree (ws.held? id s) :=
  hw.slot_eq_tree hb (fun _ => rfl) hs

/-- The statements in a slot. -/
lemma SlotsRead.ends_statements (hw : ws.Forest) (h : SlotsRead ws id b) {s : String}
    (hs : s ∈ b.statements) (hne : s ≠ "CASES") (level : ℤ) :
    Ends (statements (kidsOf ws id s) level none)
      (fun ss => SuiteRead ws (kidsOf ws id s) level ⟨ss, level⟩) (¬ ws.Flawless) := by
  have hown := (hw.sound id b h.block).own_statements s hs
  rw [hw.kidsOf_eq_tree h.block hs]
  have hread := h.bodies s hs hne level none [] []
    (fun y hy => by simpa using hw.not_followsIf_of_held? hown hy) chainRead_nil
  refine hread.imp fun ss hss => ⟨rfl, hss.stands, hss.wellFormed, ?_, hss.inOrder⟩
  exact Covers.cons hss.stands (hw.unbroken_spine _) hss.covers

/-- The suite in a slot. -/
lemma SlotsRead.ends_body (hw : ws.Forest) (h : SlotsRead ws id b) {s : String}
    (hs : s ∈ b.statements) (hne : s ≠ "CASES") (level : ℤ) :
    Ends (bodiesOf (kidsOf ws id) s level) (SuiteRead ws (kidsOf ws id s) level)
      (¬ ws.Flawless) :=
  (h.ends_statements hw hs hne level).bind fun _ hss => ends_pure hss

/-- A statement other than a case is in order if it is no placeholder for an error, comes after a
condition if it is an alternative, and has cases if it needs them. -/
private lemma inOrder_of_ne_case (hw : ws.Forest) (hm : ws.Measured) (hb : ws.block? id = some b)
    (hcase : b.type ≠ .caseStmt) (hsound : b.type ≠ .syncError)
    (halternative : b.type = .elifStmt ∨ b.type = .elseStmt → ws.FollowsIf id)
    (hcases : b.type = .matchStmt → ws.HasCases id) : ws.InOrder id b :=
  ⟨hsound, halternative, fun ht => absurd ht hcase, hcases,
    fun _ _ hv _ => absurd (hw.type_of_pattern hm hb hv) hcase⟩

/-- The slot for cases holds a chain of cases. -/
private lemma hasCases_of_spine (hw : ws.Forest) (hb : ws.block? id = some b)
    (hslot : "CASES" ∈ b.statements) {t : BlockTree} (ht : t = ws.tree (ws.held? id "CASES"))
    (hpresent : t.isPresent) (htypes : ∀ entry ∈ t.spine, entry.2.type = .caseStmt) :
    ws.HasCases id := by
  subst ht
  cases hfirst : ws.held? id "CASES" with
  | none => simp [hfirst, BlockTree.isPresent] at hpresent
  | some first =>
    obtain ⟨c, hc, hstmt⟩ := hw.isStatement_of_held? hb hslot hfirst
    rw [hfirst] at htypes
    refine ⟨first, hfirst, fun member hmember => ?_⟩
    obtain ⟨entry, hentry, rfl⟩ :=
      List.mem_map.mp ((hw.mem_spine_iff (has_of_block? hc)).mpr hmember)
    have hmem := hw.of_mem_members (fun y hy => Option.some.inj hy ▸ ⟨c, hc, hstmt⟩)
      (List.mem_append_left _ hentry)
    exact ⟨entry.2, hmem.1, htypes entry hentry⟩

/-- A block with a suite has one slot for statements. -/
private lemma statements_eq_body (hm : ws.Measured) (hb : ws.block? id = some b)
    (ht : b.type.statementSlots = ["BODY"] ∧ b.type ≠ .tryStmt) : b.statements = ["BODY"] := by
  have hperm := (hm.of_block? hb).statements_perm_slots ht.2
  rw [ht.1] at hperm
  exact List.perm_singleton.mp hperm

section Step

variable {current : Option OpenIf} {row under : List (BlockId × Block)}

/-- Reading what follows a block. -/
private lemma ends_next (hw : ws.Forest) (hb : ws.block? id = some b)
    (hnext : ReadsStatements ws (ws.next? id))
    (hcurrent : current.isSome ↔ b.type = .ifStmt ∨ b.type = .elifStmt)
    (hread : ChainRead ws depth row under (closing current)) :
    Ends (statements (ws.tree (ws.next? id)) depth current)
      (ChainRead ws depth (row ++ (ws.tree (ws.next? id)).spine)
        (under ++ (ws.tree (ws.next? id)).inside)) (¬ ws.Flawless) := by
  refine hnext depth current row under (fun y hy => ?_) hread
  rw [hcurrent, hw.followsIf_iff_of_next? hb hy]

/-- A chain that starts with a condition. -/
private lemma ends_statements_if (hw : ws.Forest) (hm : ws.Measured) (h : SlotsRead ws id b)
    (hnext : ReadsStatements ws (ws.next? id)) (ht : b.type = .ifStmt)
    (hread : ChainRead ws depth row under (closing current)) :
    Ends (statements (ws.tree (some id)) depth current)
      (ChainRead ws depth (row ++ (ws.tree (some id)).spine)
        (under ++ (ws.tree (some id)).inside)) (¬ ws.Flawless) := by
  have hslots := statements_eq_body hm h.block (by rw [ht]; decide)
  have hself : ws.InOrder id b := hw.inOrder_of_ne_case hm h.block (by simp [ht]) (by simp [ht])
    (by simp [ht]) (by simp [ht])
  have hready := hw.ready hm h.block
  rw [hw.tree_some h.block, statements_if ht]
  refine ends_freshInfo.bind fun i _ =>
    (hready.ends_required "COND" (by decide)).returned.bind fun test ⟨htest, hholds⟩ =>
    (h.ends_body hw (by simp [hslots]) (by decide) _).bind fun body hbody => ?_
  refine (hw.ends_next h.block hnext (by simp [ht])
    (chainRead_if ht hself htest hholds hbody i)).bind fun ss hss => ends_pure ?_
  simpa [BlockTree.spine, BlockTree.inside, BlockTree.members, hslots] using hread.append hss

/-- A chain that starts with a further condition. -/
private lemma ends_statements_elif (hw : ws.Forest) (hm : ws.Measured) (h : SlotsRead ws id b)
    (hnext : ReadsStatements ws (ws.next? id)) (ht : b.type = .elifStmt) {o : OpenIf}
    (hfollows : ws.FollowsIf id) (hread : ChainRead ws depth row under (closing (some o))) :
    Ends (statements (ws.tree (some id)) depth (some o))
      (ChainRead ws depth (row ++ (ws.tree (some id)).spine)
        (under ++ (ws.tree (some id)).inside)) (¬ ws.Flawless) := by
  have hslots := statements_eq_body hm h.block (by rw [ht]; decide)
  have hself : ws.InOrder id b := hw.inOrder_of_ne_case hm h.block (by simp [ht]) (by simp [ht])
    (fun _ => hfollows) (by simp [ht])
  have hready := hw.ready hm h.block
  rw [hw.tree_some h.block, statements_elif ht]
  refine ends_freshInfo.bind fun i _ =>
    (hready.ends_required "COND" (by decide)).returned.bind fun test ⟨htest, hholds⟩ =>
    (h.ends_body hw (by simp [hslots]) (by decide) _).bind fun body hbody => ?_
  refine (hw.ends_next h.block hnext (by simp [ht])
    (hread.elif ht hself htest hholds hbody i)).imp fun ss hss => ?_
  simpa [BlockTree.spine, BlockTree.inside, BlockTree.members, hslots] using hss

/-- A chain that starts with the last alternative. -/
private lemma ends_statements_else (hw : ws.Forest) (hm : ws.Measured) (h : SlotsRead ws id b)
    (hnext : ReadsStatements ws (ws.next? id)) (ht : b.type = .elseStmt) {o : OpenIf}
    (hfollows : ws.FollowsIf id) (hread : ChainRead ws depth row under (closing (some o))) :
    Ends (statements (ws.tree (some id)) depth (some o))
      (ChainRead ws depth (row ++ (ws.tree (some id)).spine)
        (under ++ (ws.tree (some id)).inside)) (¬ ws.Flawless) := by
  have hslots := statements_eq_body hm h.block (by rw [ht]; decide)
  have hself : ws.InOrder id b := hw.inOrder_of_ne_case hm h.block (by simp [ht]) (by simp [ht])
    (fun _ => hfollows) (by simp [ht])
  rw [hw.tree_some h.block, statements_else ht]
  refine (h.ends_body hw (by simp [hslots]) (by decide) _).bind fun body hbody => ?_
  refine (hw.ends_next h.block hnext (by simp [ht]) chainRead_nil).bind fun ss hss => ends_pure ?_
  have hall := (hread.orelse ht hself hbody).append hss
  simpa [BlockTree.spine, BlockTree.inside, BlockTree.members, hslots] using hall

/-- A chain that starts with a statement of its own. -/
private lemma ends_statements_plain (hw : ws.Forest) (hm : ws.Measured) (h : SlotsRead ws id b)
    (hnext : ReadsStatements ws (ws.next? id)) (hplain : isPlain b.type = true)
    (hread : ChainRead ws depth row under (closing current)) :
    Ends (statements (ws.tree (some id)) depth current)
      (ChainRead ws depth (row ++ (ws.tree (some id)).spine)
        (under ++ (ws.tree (some id)).inside)) (¬ ws.Flawless) := by
  have hmeasured := hm.of_block? h.block
  have hslot : b.type = .matchStmt → "CASES" ∈ b.statements := fun ht =>
    (hmeasured.statements_perm_slots (by simp [ht])).mem_iff.mpr (by rw [ht]; decide)
  have hready :
      StmtReady ws b (kidsOf ws id) (slotsOf (kidsOf ws id)) (bodiesOf (kidsOf ws id)) := by
    refine ⟨hw.ready hm h.block, fun hmatch s hs level => ?_⟩
    exact h.ends_body hw hs (fun heq => hmatch (hmeasured.type_of_cases (heq ▸ hs))) level
  have hstmt : StmtReady.IsRead ws id b (kidsOf ws id) (slotsOf (kidsOf ws id))
      (bodiesOf (kidsOf ws id)) (cases (kidsOf ws id "CASES")) depth := by
    refine hready.ends_stmtOf h.isStatement (by simpa [isPlain, and_assoc] using hplain)
      (fun ht hflawless => (hflawless.inOrder id b h.block h.isStatement).sound ht)
      (fun ht hempty hflawless => ?_) fun ht _ => ?_
    · obtain ⟨first, hfirst, -⟩ := (hflawless.inOrder id b h.block h.isStatement).cases ht
      obtain ⟨c, hc, -⟩ := hw.isStatement_of_held? h.block (hslot ht) hfirst
      rw [hw.kidsOf_eq_tree h.block (hslot ht), hfirst, hw.tree_some hc] at hempty
      cases hempty
    · rw [hw.kidsOf_eq_tree h.block (hslot ht)]
      exact h.cases (hslot ht) depth
  have hself : ∀ s, StmtRead ws b (kidsOf ws id) depth s → ws.InOrder id b := by
    intro s hs
    have hsound : b.type ≠ .syncError := fun ht => by
      have htype := hs.type
      rw [ht] at htype
      cases s <;> simp [Stmt.types] at htype
    have hne : b.type ≠ .caseStmt ∧ ¬ (b.type = .elifStmt ∨ b.type = .elseStmt) := by
      simp only [isPlain, Bool.and_eq_true, bne_iff_ne, ne_eq] at hplain
      tauto
    refine hw.inOrder_of_ne_case hm h.block hne.1 hsound (fun ht => absurd ht hne.2) fun ht => ?_
    obtain ⟨hpresent, htypes⟩ := hs.cases ht
    exact hw.hasCases_of_spine h.block (hslot ht)
      (hw.kidsOf_eq_tree h.block (hslot ht)) hpresent htypes
  have hclosed : Option.isSome (none : Option OpenIf) ↔ b.type = .ifStmt ∨ b.type = .elifStmt := by
    simp only [isPlain, Bool.and_eq_true, bne_iff_ne, ne_eq] at hplain
    simp only [Option.isSome_none, Bool.false_eq_true, false_iff]
    tauto
  rw [hw.tree_some h.block, statements_plain hplain]
  refine (hstmt.and ends_depictsStmt).checked.bind fun s hboth => ?_
  obtain ⟨hs, hdepicts⟩ := hboth
  refine (hw.ends_next h.block hnext hclosed chainRead_nil).bind fun ss hss => ends_pure ?_
  simpa [BlockTree.spine, BlockTree.inside, BlockTree.members] using
    hread.append ((hs.chainRead hdepicts (hself s hs)).append hss)

/-- What a chain starts with decides how it is read. -/
lemma readsStatements_some (hw : ws.Forest) (hm : ws.Measured) (h : SlotsRead ws id b)
    (hnext : ReadsStatements ws (ws.next? id)) (hcases : ¬ ws.InCases id) :
    ReadsStatements ws (some id) := by
  intro depth current row under hcurrent hread
  have hopen := hcurrent id rfl
  have hinOrder := fun hflawless : ws.Flawless => hflawless.inOrder id b h.block h.isStatement
  by_cases hplain : isPlain b.type = true
  · exact hw.ends_statements_plain hm h hnext hplain hread
  have htype : b.type = .ifStmt ∨ (b.type = .elifStmt ∨ b.type = .elseStmt) ∨
      b.type = .caseStmt := by
    simp only [isPlain, Bool.and_eq_true, bne_iff_ne, ne_eq] at hplain
    tauto
  rcases htype with ht | halternative | ht
  · exact hw.ends_statements_if hm h hnext ht hread
  · cases current with
    | some o =>
      have hfollows : ws.FollowsIf id := hopen.mp rfl
      rcases halternative with ht | ht
      · exact hw.ends_statements_elif hm h hnext ht hfollows hread
      · exact hw.ends_statements_else hm h hnext ht hfollows hread
    | none =>
      have hflaw : ¬ ws.Flawless := fun hflawless =>
        absurd (hopen.mpr ((hinOrder hflawless).alternative halternative)) (by simp)
      rw [hw.tree_some h.block]
      rcases halternative with ht | ht <;> simp only [statements, ht] <;> exact ends_reject hflaw
  · rw [hw.tree_some h.block]
    simp only [statements, ht]
    exact ends_reject fun hflawless => hcases ((hinOrder hflawless).case ht)

/-- Only `match` blocks hold cases. -/
private lemma type_of_cases (hw : ws.Forest) (hm : ws.Measured) {holder first : BlockId}
    (h : ws.held? holder "CASES" = some first) :
    ∃ c, ws.block? holder = some c ∧ c.type = .matchStmt := by
  obtain ⟨e, he, -, rfl, hslot⟩ := (hw.held?_eq_some_iff (by decide)).mp h
  cases hk : e.kind with
  | value =>
    obtain ⟨-, -, -, target, -, htarget, -, hvalue⟩ := hw.value_cases he hk
    simp only [Edge.slot, hk] at hslot
    rw [hslot] at hvalue
    exact absurd (by simpa [Block.hasValueSlot] using hvalue)
      (hm.of_block? htarget).cases_notMem_values
  | statement =>
    obtain ⟨-, -, source, -, hsource, -, hstatement, -⟩ := hw.statement_cases he hk
    simp only [Edge.slot, hk] at hslot
    rw [hslot] at hstatement
    refine ⟨source, by rwa [Edge.holder, hk], (hm.of_block? hsource).type_of_cases ?_⟩
    exact Block.mem_statements_of_slot hstatement (by decide)

/-- Without a flaw there are only cases among cases. -/
private lemma type_of_inCases (hw : ws.Forest) (hm : ws.Measured) (hflawless : ws.Flawless)
    (hb : ws.block? id = some b) (hcases : ws.InCases id) : b.type = .caseStmt := by
  obtain ⟨holder, first, hfirst, hmember⟩ := hcases
  obtain ⟨c, hc, ht⟩ := hw.type_of_cases hm hfirst
  have hstmt : c.isStatement := by rw [Block.isStatement, Block.kind, ht]; decide
  obtain ⟨first', hfirst', hall⟩ := (hflawless.inOrder holder c hc hstmt).cases ht
  obtain rfl := Option.some.inj (hfirst.symm.trans hfirst')
  obtain ⟨b', hb', htype⟩ := hall id hmember
  obtain rfl := Option.some.inj (hb.symm.trans hb')
  exact htype

/-- A chain of cases starts with a case. -/
lemma readsCases_some (hw : ws.Forest) (hm : ws.Measured) (h : SlotsRead ws id b)
    (hnext : ReadsCases ws (ws.next? id)) (hcases : ws.InCases id) : ReadsCases ws (some id) := by
  intro depth
  have hunbroken := hw.unbroken_spine (some id)
  rw [hw.tree_some h.block] at hunbroken ⊢
  rw [Compile.cases]
  by_cases ht : b.type = .caseStmt
  case neg =>
    rw [if_pos (by simpa using ht)]
    have hflaw := fun hflawless => ht (hw.type_of_inCases hm hflawless h.block hcases)
    exact (ends_reject hflaw).bind fun _ => False.elim
  have hslots := statements_eq_body hm h.block (by rw [ht]; decide)
  rw [if_neg (by simpa using ht)]
  refine ends_freshInfo.bind fun i _ =>
    (hw.ends_pattern hm h.block h.isStatement).returned.bind fun p ⟨hp, hpattern⟩ =>
    (h.ends_statements hw (by simp [hslots]) (by decide) _).bind fun body hbody =>
    (hnext depth).bind fun cs hcs => ends_pure ?_
  have hself : ws.InOrder id b :=
    ⟨by simp [ht], by simp [ht], fun _ => hcases, by simp [ht], hp.2⟩
  have hstands : Stands ws (id, b) (.case ⟨p, ⟨body, depth + 2⟩, i⟩) :=
    ⟨⟨ht, hpattern⟩, List.forall_mem_singleton.mpr hbody.stands⟩
  refine ⟨.cons hstands hcs.stands, fun hworded => ?_, ?_, hunbroken, fun entry hentry => ?_⟩
  · exact List.forall_mem_cons.mpr ⟨⟨hp.1 hworded, rfl, hbody.wellFormed hworded⟩,
      hcs.wellFormed hworded⟩
  · simpa [BlockTree.inside, BlockTree.members, hslots, caseRows] using
      hbody.covers.append hcs.covers
  · rcases BlockTree.mem_members_node.mp hentry with rfl | ⟨s, hs, hentry⟩ | hentry
    · exact hself
    · rw [hslots, List.mem_singleton] at hs
      subst hs
      exact hbody.inOrder entry hentry
    · exact hcs.inOrder entry hentry

end Step

/-- The tree at a place is read completely: among cases as cases, and elsewhere as statements. -/
theorem ends_chain (hw : ws.Forest) (hm : ws.Measured) {o : Option BlockId}
    (ho : HoldsStatement ws o) :
    ((∀ id, o = some id → ¬ ws.InCases id) → ReadsStatements ws o) ∧
      ((∀ id, o = some id → ws.InCases id) → ReadsCases ws o) := by
  induction ht : ws.tree o generalizing o with
  | nothing =>
    refine ⟨fun _ depth current row under _ hread => ?_, fun _ depth => ?_⟩
    · rw [ht, statements]
      exact ends_pure (by simpa [BlockTree.spine, BlockTree.inside] using hread)
    · rw [ht, cases]
      refine ends_pure ⟨.nil, by simp, covers_nil, ?_, by simp⟩
      simp [BlockTree.spine, Unbroken]
  | node id b kids next ihslot ihnext =>
    obtain ⟨rfl, hb, hkids, hnext⟩ := hw.of_tree_eq_node ht
    obtain ⟨c, hc, hstmt⟩ := ho id rfl
    obtain rfl := Option.some.inj (hb.symm.trans hc)
    have hslot := fun s (hs : s ∈ b.statements) => ihslot s
      (fun y hy => hw.isStatement_of_held? hb hs hy) (hw.slot_eq_tree hb hkids hs).symm
    have hread : SlotsRead ws id b := by
      refine ⟨hb, hstmt, fun s hs hne => (hslot s hs).1 fun y hy => ?_,
        fun hs => (hslot _ hs).2 fun y hy => ?_⟩
      · rwa [hw.inCases_iff_of_held? ((hw.sound id b hb).own_statements s hs) hy]
      · rw [hw.inCases_iff_of_held? (by decide) hy]
    have hafter := ihnext (fun y hy => hw.isStatement_of_next? hy) hnext.symm
    refine ⟨fun hcases =>
        hw.readsStatements_some hm hread (hafter.1 fun y hy => ?_) (hcases id rfl),
      fun hcases => hw.readsCases_some hm hread (hafter.2 fun y hy => ?_) (hcases id rfl)⟩
    · rw [hw.inCases_iff_of_next? hy]
      exact hcases id rfl
    · rw [hw.inCases_iff_of_next? hy]
      exact hcases id rfl

end Workspace.Forest

end BlockText

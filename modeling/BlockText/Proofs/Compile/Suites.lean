import BlockText.Proofs.Compile.Coverage

/-!
# Statements read off any blocks

A block whose slots are read with the guarantees of `SuiteRead` is read with those of `StmtRead`:
the block depicts the statement, all its suites come from slots of the block, and every slot that is
not read is empty.
-/

namespace BlockText.Compile

open Syntax Workspace

variable {ws : Workspace}

/-- A statement at a depth was read off a block. -/
structure StmtRead (ws : Workspace) (b : Block) (kids : String → BlockTree) (depth : ℤ) (s : Stmt) :
    Prop where
  type : b.type ∈ s.types
  constructs : s.constructs = [.statement s]
  slotted : ∀ part ∈ (Construct.statement s).slotted,
    List.Forall₂ (Stands ws) (kids part.1).spine part.2
  wellFormed : ws.Worded → s.WellFormed depth
  covers : Covers ws (b.statements.flatMap fun slot => (kids slot).members) s.inner
  inOrder : ∀ slot ∈ b.statements, ∀ entry ∈ (kids slot).members, ws.InOrder entry.1 entry.2
  cases : b.type = .matchStmt →
    (kids "CASES").isPresent ∧ ∀ entry ∈ (kids "CASES").spine, entry.2.type = .caseStmt

/-- The cases of a `match` statement at a depth were read off a tree. -/
structure CasesRead (ws : Workspace) (t : BlockTree) (depth : ℤ) (cs : List (MatchCase Stmt)) :
    Prop where
  stands : List.Forall₂ (Stands ws) t.spine (cs.map .case)
  wellFormed : ws.Worded → ∀ c ∈ cs, c.pattern.Sane ∧ c.body.level = depth + 2 ∧
    ∀ s ∈ c.body.statements, s.WellFormed (depth + 2)
  covers : Covers ws t.inside (caseRows cs)
  unbroken : ws.Unbroken (t.spine.map (·.1))
  inOrder : ∀ entry ∈ t.members, ws.InOrder entry.1 entry.2

/-- The slots of a block are read with the guarantees of expressions and of suites; that of a
`match` block holds cases, which are no suite. -/
structure StmtReady (ws : Workspace) (b : Block) (kids : String → BlockTree) (slots : Slots)
    (bodies : Bodies) : Prop extends Ready b slots ws.Worded (¬ ws.Flawless) where
  bodies : b.type ≠ .matchStmt → ∀ s ∈ b.statements, ∀ level,
    Ends (bodies s level) (SuiteRead ws (kids s) level) (¬ ws.Flawless)

/-! ## What a block depicts -/

section Depicting

variable {id : BlockId} {b : Block} {kids : String → BlockTree} {bodies : Bodies}
  {cases : ℤ → Compile (List (MatchCase Stmt))} {depth : ℤ}

/-- A value of a vocabulary that was read is the one in the field. -/
private lemma ends_choice (α : Type) [Choice α] (id : BlockId) (d : Datum) :
    Ends (chosen α id d) (fun a => choice? α d = some a) True := by
  unfold chosen
  split
  case h_1 a ha => exact ends_pure ha
  case h_2 => exact ends_reject trivial

/-- As many items as a count field says are depicted if each of them is. -/
private lemma ends_depictsEach {α : Type} {count : String} {n : ℕ} (hn : Returns (countIn b count) n)
    {read : ℕ → Compile α} {depicts : ℕ → α → Prop} (h : ∀ i, Ends (read i) (depicts i) True) :
    Ends ((List.range n).mapM read) (DepictsEach b count depicts) True := by
  refine (ends_mapM fun i _ => h i).imp fun as has => ?_
  obtain rfl : n = as.length := by simpa using has.length_eq
  exact ⟨hn, has⟩

/-- Slots with an index. -/
private lemma ends_holdsEach {count : String} {n : ℕ} (hn : Returns (countIn b count) n)
    (stem : String) :
    Ends (requiredAll (slotsOf kids) stem n) (HoldsEach b kids count stem) True := by
  rw [requiredAll, indexed, List.mapM_map]
  exact ends_depictsEach hn fun i => ends_returns _

/-- A suite that may be missing. -/
private lemma ends_hasSuite (flag slot : String) :
    Ends (optionalBody (fun s => (kids s).isPresent) bodies depth b flag slot)
      (HasSuite b kids flag slot) True := by
  unfold optionalBody
  split
  case isTrue h =>
    simp only [Bool.and_eq_true, Bool.not_eq_true'] at h
    exact ends_pure (by simp [HasSuite, Datum.isTruthy, h.1, h.2])
  case isFalse h =>
    refine Ends.map ((ends_returns _).imp fun _ _ => ?_)
    simp only [Bool.and_eq_true, Bool.not_eq_true', not_and_or, Bool.not_eq_false] at h
    simpa [HasSuite, Datum.isTruthy] using h

/-- Reading the parameters gives one for each counted row, as the row depicts it. -/
private lemma ends_depictsParams :
    Ends (params id b (slotsOf kids) true)
      (DepictsEach b "item_count" (DepictsParam b kids)) True := by
  unfold params
  refine (ends_returns _).bind fun n hn => ends_depictsEach hn fun j => ?_
  exact ends_freshInfo.bind fun i _ => (ends_returns (slotsOf kids s!"ANNOTATION{j}")).bind
    fun hint hhint => (ends_returns _).bind fun preset hpreset =>
    (ends_choice ParamKind id _).bind fun kind hkind => ends_pure ⟨rfl, hhint, hpreset, hkind⟩

/-- Reading the handlers gives one for each counted row, as the row depicts it. -/
private lemma ends_depictsHandlers :
    Ends (handlers (slotsOf kids) bodies depth b)
      (DepictsEach b "handler_count" (DepictsHandler b kids)) True := by
  unfold handlers
  refine (ends_returns _).bind fun n hn => ends_depictsEach hn fun j => ?_
  exact ends_freshInfo.bind fun i _ => (ends_returns _).bind fun type htype =>
    (ends_returns _).bind fun body _ => ends_pure ⟨htype, rfl⟩

/-- Reading the contexts gives one for each counted row, as the row depicts it. -/
private lemma ends_depictsContexts :
    Ends (contexts (slotsOf kids) b) (DepictsEach b "item_count" (DepictsContext b kids)) True := by
  unfold contexts
  refine (ends_returns _).bind fun n hn => ends_depictsEach hn fun j => ?_
  exact ends_freshInfo.bind fun i _ => (ends_returns _).bind fun context hcontext =>
    ends_pure ⟨hcontext, rfl⟩

/-- Reading imported names gives one for each counted row, as the row depicts it. -/
private lemma ends_depictsImports :
    Ends (importedNames b) (DepictsEach b "item_count" (DepictsImport b)) True := by
  unfold importedNames
  refine (ends_returns _).bind fun n hn => ends_depictsEach hn fun j => ?_
  exact ends_freshInfo.bind fun i _ => ends_pure ⟨rfl, rfl⟩

/-- A call of one name with one argument. -/
private lemma ends_depictsCall {builtin : BuiltinCall} {name : String}
    (hfield : builtin.calleeField = none) (hnames : builtin.callees = [name])
    (hstem : builtin.stem = none) (hlayouts : builtin.layouts = [(1, ["VALUE"])]) :
    Ends (builtinCall builtin id b (fun s => (kids s).isPresent) (slotsOf kids))
      (DepictsCall kids name) True := by
  have harity : ∀ filled, builtin.arityFor filled = .ok 1 := by
    intro filled
    unfold BuiltinCall.arityFor
    by_cases h : "VALUE" ∈ filled <;> simp [hlayouts, h]
  have hslots : builtin.slotsFor? (1 : ℕ) = some ["VALUE"] := by
    simp [BuiltinCall.slotsFor?, hstem, hlayouts]
  unfold builtinCall
  simp only [callee, BuiltinCall.calleeOf?, hfield, hnames, List.head?_cons, argumentCount, hstem,
    Option.isSome_none, Bool.false_eq_true, if_false, harity, ofFault, pure_bind, hslots,
    Option.getD_some, List.mapM_cons, List.mapM_nil, bind_assoc]
  exact ends_freshInfo.bind fun i _ => ends_freshInfo.bind fun i' _ =>
    (ends_returns _).bind fun arg harg => ends_pure ⟨arg, i, i', rfl, harg⟩

/-- A block depicts the statement that is read off it. -/
theorem ends_depictsStmt :
    Ends (stmtOf id b (fun s => (kids s).isPresent) (slotsOf kids) bodies cases depth)
      (DepictsStmt b kids) True := by
  unfold stmtOf
  split
  case h_1 ht =>
    exact ends_freshInfo.bind fun _ _ => (ends_returns _).bind fun _ htest =>
      (ends_returns _).bind fun _ _ => (ends_hasSuite _ _).bind fun _ horelse =>
      ends_pure ⟨ht, htest, horelse⟩
  case h_2 ht =>
    exact ends_freshInfo.bind fun _ _ => (ends_returns _).bind fun _ htarget =>
      (ends_returns _).bind fun _ hiter => (ends_returns _).bind fun _ _ =>
      (ends_hasSuite _ _).bind fun _ horelse => ends_pure ⟨ht, htarget, hiter, horelse, rfl⟩
  case h_3 ht =>
    refine ends_freshInfo.bind fun _ _ => (ends_returns _).bind fun _ hsubject => ?_
    dsimp only
    split
    · exact (ends_reject trivial).bind fun _ => False.elim
    · exact (ends_returns _).bind fun _ _ => ends_pure ⟨ht, hsubject⟩
  case h_4 ht =>
    exact ends_freshInfo.bind fun _ _ => ends_depictsParams.bind fun _ hparams =>
      (ends_returns _).bind fun _ _ => (ends_returns _).bind fun _ hn =>
      (ends_holdsEach hn _).bind fun _ hdecorators => (ends_returns _).bind fun _ hreturns =>
      ends_pure ⟨ht, rfl, hparams, hdecorators, hreturns, rfl⟩
  case h_5 ht =>
    exact ends_freshInfo.bind fun _ _ => (ends_returns _).bind fun _ hn =>
      (ends_holdsEach hn _).bind fun _ hbases => (ends_returns _).bind fun _ _ =>
      (ends_returns _).bind fun _ hk => (ends_holdsEach hk _).bind fun _ hdecorators =>
      ends_pure ⟨ht, rfl, hbases, hdecorators⟩
  case h_6 ht =>
    exact ends_freshInfo.bind fun _ _ => ends_freshInfo.bind fun i _ =>
      (ends_returns _).bind fun _ hvalue => ends_pure ⟨.inl ⟨ht, i, rfl⟩, hvalue⟩
  case h_7 ht =>
    exact ends_freshInfo.bind fun _ _ => (ends_returns _).bind fun _ hn =>
      (ends_holdsEach hn _).bind fun _ htargets => (ends_returns _).bind fun _ hvalue =>
      ends_pure ⟨.inr ⟨ht, htargets⟩, hvalue⟩
  case h_8 ht =>
    exact ends_freshInfo.bind fun _ _ => (ends_returns _).bind fun _ htarget =>
      (ends_returns _).bind fun _ hhint => (ends_returns _).bind fun _ hvalue =>
      ends_pure ⟨ht, htarget, hhint, hvalue⟩
  case h_9 ht =>
    exact ends_freshInfo.bind fun _ _ => (ends_returns _).bind fun _ htarget =>
      (ends_choice BinaryOp _ _).bind fun _ hop => (ends_returns _).bind fun _ hvalue =>
      ends_pure ⟨ht, htarget, hop, hvalue⟩
  case h_10 ht =>
    exact (ends_returns _).bind fun _ he => ends_freshInfo.bind fun _ _ => ends_pure (.inl ⟨ht, he⟩)
  case h_11 ht | h_12 ht | h_13 ht => exact ends_freshInfo.bind fun _ _ => ends_pure ht
  case h_14 ht =>
    exact (ends_returns _).bind fun _ hvalue => ends_freshInfo.bind fun _ _ =>
      ends_pure ⟨ht, hvalue⟩
  case h_15 ht =>
    exact ends_freshInfo.bind fun _ _ => ends_depictsImports.bind fun _ hnames =>
      ends_pure ⟨ht, rfl, hnames, rfl⟩
  case h_16 ht =>
    exact ends_freshInfo.bind fun _ _ => (ends_returns _).bind fun _ _ =>
      ends_depictsHandlers.bind fun _ hhandlers => (ends_hasSuite _ _).bind fun _ horelse =>
      (ends_hasSuite _ _).bind fun _ hfinal => ends_pure ⟨ht, hhandlers, horelse, hfinal⟩
  case h_17 ht =>
    exact ends_freshInfo.bind fun _ _ => ends_depictsContexts.bind fun _ hitems =>
      (ends_returns _).bind fun _ _ => ends_pure ⟨ht, hitems, rfl⟩
  case h_18 ht | h_19 ht =>
    exact ends_freshInfo.bind fun _ _ => (ends_returns _).bind fun _ hfirst =>
      (ends_returns _).bind fun _ hsecond => ends_pure ⟨ht, hfirst, hsecond⟩
  case h_20 ht =>
    exact ends_freshInfo.bind fun _ _ => (ends_returns _).bind fun _ hn =>
      (ends_holdsEach hn _).bind fun _ htargets => ends_pure ⟨ht, htargets⟩
  case h_21 ht | h_22 ht =>
    exact (ends_returns _).bind fun _ hnames => ends_freshInfo.bind fun _ _ =>
      ends_pure ⟨ht, hnames⟩
  case h_23 ht =>
    rw [ht]
    exact ends_freshInfo.bind fun _ _ => (ends_depictsCall rfl rfl rfl rfl).bind fun _ he =>
      ends_pure (.inr (.inl ⟨ht, he⟩))
  case h_24 ht =>
    rw [ht]
    exact ends_freshInfo.bind fun _ _ => (ends_depictsCall rfl rfl rfl rfl).bind fun _ he =>
      ends_pure (.inr (.inr ⟨ht, he⟩))
  case h_25 => exact ends_reject trivial

end Depicting

namespace StmtReady

variable {id : BlockId} {b : Block} {kids : String → BlockTree} {slots : Slots} {bodies : Bodies}
  {cases : ℤ → Compile (List (MatchCase Stmt))} {depth : ℤ} {t : BlockType} {s : Stmt}

/-! ## Slots for statements -/

/-- A body that may be missing. -/
lemma ends_optionalBody (h : StmtReady ws b kids slots bodies) (hmatch : b.type ≠ .matchStmt)
    (flag slot : String) (hslot : slot ∈ b.statements) :
    Ends (optionalBody (fun s => (kids s).isPresent) bodies depth b flag slot)
      (fun o => Filled ws kids depth [slot] (o.toList.map ((slot, ·)))) (¬ ws.Flawless) := by
  unfold optionalBody
  split
  case isTrue habsent =>
    refine ends_pure ⟨by simp, [slot], .refl _, ?_⟩
    rintro s hs
    rw [List.mem_singleton] at hs
    subst hs
    cases hkid : kids s with
    | nothing => rfl
    | node => simp [hkid, BlockTree.isPresent] at habsent
  case isFalse =>
    exact Ends.map ((h.bodies hmatch slot hslot (depth + 1)).imp
      fun suite hsuite => filled_single hsuite)

/-! ## From slots to statements -/

/-- A statement without cases whose suites were read off the slots of the block. -/
lemma stmtRead_of_filled (htype : b.type ∈ s.types) (hconstructs : s.constructs = [.statement s])
    (hmatch : s.isMatch = false) (hsane : ws.Worded → s.Sane)
    (hexprs : ws.Worded → ∀ e ∈ s.exprs, e.WellFormed)
    (hfilled : Filled ws kids depth b.statements s.slotted) : StmtRead ws b kids depth s where
  type := htype
  constructs := hconstructs
  slotted := by
    have hslotted : (Construct.statement s).slotted = s.slotted.map fun part =>
        (part.1, part.2.row) := by
      cases s <;> first | rfl | cases hmatch
    rw [hslotted]
    exact List.forall_mem_map.mpr fun part hpart => (hfilled.read part hpart).stands
  wellFormed hworded := by
    have hread := hfilled.read
    refine ⟨hsane hworded, hexprs hworded, ?_, ?_⟩ <;>
      rw [Stmt.suites_eq_slotted hconstructs hmatch, List.forall_mem_map]
    · exact fun part hpart => (hread part hpart).level
    · exact fun part hpart => (hread part hpart).wellFormed hworded
  covers := by
    rw [Stmt.inner_eq hmatch, Stmt.suites_eq_slotted hconstructs hmatch, List.flatMap_map]
    exact hfilled.covers
  inOrder := hfilled.inOrder
  cases ht := by
    rw [ht] at htype
    cases s <;> simp [Stmt.types, Stmt.isMatch] at htype hmatch

/-- A statement without suites. -/
lemma stmtRead_simple (h : StmtReady ws b kids slots bodies) (htype : b.type ∈ s.types)
    (hslots : b.type.statementSlots = [] ∧ b.type ≠ .tryStmt)
    (hconstructs : s.constructs = [.statement s]) (hmatch : s.isMatch = false)
    (hsane : ws.Worded → s.Sane) (hexprs : ws.Worded → ∀ e ∈ s.exprs, e.WellFormed)
    (hslotted : s.slotted = []) : StmtRead ws b kids depth s := by
  have hperm := h.measured.statements_perm_slots hslots.2
  rw [hslots.1, List.perm_nil] at hperm
  refine stmtRead_of_filled htype hconstructs hmatch hsane hexprs ?_
  rw [hperm, hslotted]
  exact filled_nil

/-- The block is read as a statement, or there is a flaw. -/
abbrev IsRead (ws : Workspace) (id : BlockId) (b : Block) (kids : String → BlockTree)
    (slots : Slots) (bodies : Bodies) (cases : ℤ → Compile (List (MatchCase Stmt))) (depth : ℤ) : Prop :=
  Ends (stmtOf id b (fun s => (kids s).isPresent) slots bodies cases depth)
    (StmtRead ws b kids depth) (¬ ws.Flawless)

/-! ## Loops and definitions -/

/-- A `while` block is read as the loop it depicts. -/
lemma ends_while (h : StmtReady ws b kids slots bodies) (ht : b.type = .whileStmt) :
    IsRead ws id b kids slots bodies cases depth := by
  have hslots := h.measured.statements_perm_slots (by simp [ht])
  rw [ht] at hslots
  unfold IsRead
  simp only [stmtOf, ht]
  refine ends_freshInfo.bind fun i _ => (h.ends_required "COND" (by decide)).bind fun test htest =>
    (h.bodies (by simp [ht]) "BODY" (hslots.mem_iff.mpr (by decide)) _).bind fun body hbody =>
    (h.ends_optionalBody (by simp [ht]) "has_else" "ELSE_BODY"
      (hslots.mem_iff.mpr (by decide))).bind fun orelse horelse => ends_pure ?_
  refine stmtRead_of_filled (by simp [ht, Stmt.types]) rfl rfl (fun _ => trivial)
    (fun hw => by simp [Stmt.exprs, htest hw]) ?_
  exact ((filled_single hbody).append horelse).perm hslots.symm

/-- A `for` block is read as the loop it depicts. -/
lemma ends_for (h : StmtReady ws b kids slots bodies) (ht : b.type = .forStmt) :
    IsRead ws id b kids slots bodies cases depth := by
  have hslots := h.measured.statements_perm_slots (by simp [ht])
  rw [ht] at hslots
  unfold IsRead
  simp only [stmtOf, ht]
  refine ends_freshInfo.bind fun i _ =>
    (h.ends_required "TARGET" (by decide)).bind fun target htarget =>
    (h.ends_required "ITER" (by decide)).bind fun iter hiter =>
    (h.bodies (by simp [ht]) "BODY" (hslots.mem_iff.mpr (by decide)) _).bind fun body hbody =>
    (h.ends_optionalBody (by simp [ht]) "has_else" "ELSE_BODY"
      (hslots.mem_iff.mpr (by decide))).bind fun orelse horelse => ends_pure ?_
  refine stmtRead_of_filled (by simp [ht, Stmt.types]) rfl rfl (fun _ => trivial)
    (fun hw => by simp [Stmt.exprs, htarget hw, hiter hw]) ?_
  exact ((filled_single hbody).append horelse).perm hslots.symm

/-- A function block is read as the definition it depicts. -/
lemma ends_function (h : StmtReady ws b kids slots bodies) (ht : b.type = .functionDef) :
    IsRead ws id b kids slots bodies cases depth := by
  have hslots := h.measured.statements_perm_slots (by simp [ht])
  rw [ht] at hslots
  unfold IsRead
  simp only [stmtOf, ht]
  refine ends_freshInfo.bind fun i _ => (h.ends_params (.inl ht) true).bind fun ps hps =>
    (h.bodies (by simp [ht]) "BODY" (hslots.mem_iff.mpr (by decide)) _).bind fun body hbody =>
    (h.ends_countIn (by rw [ht]; decide)).bind fun n _ =>
    (h.ends_requiredAll "DECORATOR" n (by decide)).bind fun decorators hdecorators =>
    (h.ends_slot "RETURN_TYPE" (by decide)).bind fun returns hreturns => ends_pure ?_
  refine stmtRead_of_filled (by simp [ht, Stmt.types]) rfl rfl (fun hw => ⟨?_, fun p hp => ?_⟩)
    (fun hw e he => ?_) ((filled_single hbody).perm hslots.symm)
  · exact Ready.isName_nameIn (h.exists_word (h.worded hw) ht "name" (by decide))
  · exact (hps p hp hw).1
  · simp only [Stmt.exprs, List.mem_append, List.mem_flatMap, Option.mem_toList] at he
    rcases he with (⟨p, hp, he⟩ | he) | he
    · exact (hps p hp hw).2.2 e (by simpa using he)
    · exact hdecorators.2 e he hw
    · exact hreturns e he hw

/-- A class block is read as the definition it depicts. -/
lemma ends_class (h : StmtReady ws b kids slots bodies) (ht : b.type = .classDef) :
    IsRead ws id b kids slots bodies cases depth := by
  have hslots := h.measured.statements_perm_slots (by simp [ht])
  rw [ht] at hslots
  unfold IsRead
  simp only [stmtOf, ht]
  refine ends_freshInfo.bind fun i _ => (h.ends_countIn (by rw [ht]; decide)).bind fun n _ =>
    (h.ends_requiredAll "BASE" n (by decide)).bind fun bases hbases =>
    (h.bodies (by simp [ht]) "BODY" (hslots.mem_iff.mpr (by decide)) _).bind fun body hbody =>
    (h.ends_countIn (by rw [ht]; decide)).bind fun k _ =>
    (h.ends_requiredAll "DECORATOR" k (by decide)).bind fun decorators hdecorators => ends_pure ?_
  refine stmtRead_of_filled (by simp [ht, Stmt.types]) rfl rfl
    (fun hw => Ready.isName_nameIn (h.exists_word (h.worded hw) ht "name" (by decide)))
    (fun hw e he => ?_) ((filled_single hbody).perm hslots.symm)
  rcases List.mem_append.mp he with he | he
  · exact hbases.2 e he hw
  · exact hdecorators.2 e he hw

/-- A `with` block is read as the statement it depicts. -/
lemma ends_with (h : StmtReady ws b kids slots bodies) (ht : b.type = .withStmt) :
    IsRead ws id b kids slots bodies cases depth := by
  have hslots := h.measured.statements_perm_slots (by simp [ht])
  rw [ht] at hslots
  have hcontexts : Ends (contexts slots b) (fun items => ∀ item ∈ items, ws.Worded →
      IsOptionalName item.name ∧ item.context.WellFormed) (¬ ws.Flawless) := by
    unfold contexts
    refine (h.ends_countIn (by rw [ht]; decide)).bind fun n hn =>
      (ends_mapM_all fun j hj => ?_).imp fun items hitems => hitems.2
    refine ends_freshInfo.bind fun i _ =>
      (h.ends_required_indexed "CONTEXT" j (by decide)).bind fun e he =>
      ends_pure fun hw => ⟨Ready.isOptionalName_optionIn ?_, he hw⟩
    exact h.exists_word_indexed (h.worded hw) ht hn "NAME" (by decide) (List.mem_range.mp hj)
  unfold IsRead
  simp only [stmtOf, ht]
  refine ends_freshInfo.bind fun i _ => hcontexts.bind fun items hitems =>
    (h.bodies (by simp [ht]) "BODY" (hslots.mem_iff.mpr (by decide)) _).bind
    fun body hbody => ends_pure ?_
  refine stmtRead_of_filled (by simp [ht, Stmt.types]) rfl rfl
    (fun hw item hitem => (hitems item hitem hw).1) (fun hw e he => ?_)
    ((filled_single hbody).perm hslots.symm)
  obtain ⟨item, hitem, rfl⟩ := List.mem_map.mp he
  exact (hitems item hitem hw).2

/-- The handlers of a block, each with its own slot. -/
lemma ends_handlers (h : StmtReady ws b kids slots bodies) (ht : b.type = .tryStmt) {n : ℕ}
    (hn : countOf b.fields "handler_count" = .ok n)
    (hslots : ∀ s ∈ indexed "EXCEPT_BODY" n, s ∈ b.statements) :
    Ends (handlers slots bodies depth b) (fun hs =>
      Filled ws kids depth (indexed "EXCEPT_BODY" n)
        ((indexed "EXCEPT_BODY" hs.length).zip (hs.map (·.body))) ∧
        (ws.Worded → ∀ h ∈ hs, IsOptionalName h.name ∧ ∀ e ∈ h.type, e.WellFormed))
      (¬ ws.Flawless) := by
  unfold handlers
  refine (h.ends_countIn (by rw [ht]; decide)).bind fun k hk => ?_
  obtain rfl := Except.ok.inj (hk.symm.trans hn)
  have hread : ∀ j ∈ List.range k, Ends (do
      let info ← freshInfo
      let type ← slots s!"EXCEPT_TYPE{j}"
      let body ← bodies s!"EXCEPT_BODY{j}" (depth + 1)
      return (⟨type, optionIn b s!"EXCEPT_NAME{j}", body, info⟩ : Handler Stmt))
      (fun handler => SuiteRead ws (kids s!"EXCEPT_BODY{j}") (depth + 1) handler.body ∧
        (ws.Worded → IsOptionalName handler.name ∧ ∀ e ∈ handler.type, e.WellFormed))
      (¬ ws.Flawless) := by
    intro j hj
    have hj := List.mem_range.mp hj
    refine ends_freshInfo.bind fun i _ =>
      (h.ends_slot_indexed "EXCEPT_TYPE" j (by decide)).bind fun type htype =>
      (h.bodies (by simp [ht]) _ (hslots _ (mem_indexed hj)) _).bind fun body hbody =>
        ends_pure ⟨hbody, fun hw => ?_⟩
    exact ⟨Ready.isOptionalName_optionIn
      (h.exists_word_indexed (h.worded hw) ht hn "EXCEPT_NAME" (by decide) hj),
      fun e he => htype e he hw⟩
  refine (ends_mapM hread).imp fun hs hhs => ?_
  obtain rfl : k = hs.length := by simpa using hhs.length_eq
  have hbodies : List.Forall₂ (fun s body => SuiteRead ws (kids s) (depth + 1) body)
      (indexed "EXCEPT_BODY" hs.length) (hs.map (·.body)) := by
    rw [indexed, List.forall₂_map_left_iff, List.forall₂_map_right_iff]
    exact hhs.imp fun j handler hhandler => hhandler.1
  refine ⟨⟨fun part hpart => (List.forall₂_iff_zip.mp hbodies).2 hpart, [], ?_, by simp⟩, ?_⟩
  · rw [List.map_fst_zip (by simp [indexed]), List.append_nil]
  · intro hw handler hhandler
    obtain ⟨j, -, hj⟩ := exists_of_forall₂ hhs handler hhandler
    exact hj.2 hw

/-- A `try` block is read as the statement it depicts. -/
lemma ends_try (h : StmtReady ws b kids slots bodies) (ht : b.type = .tryStmt) :
    IsRead ws id b kids slots bodies cases depth := by
  obtain ⟨shape, hshape, hperm⟩ := h.measured.statements_perm
  obtain ⟨n, hn⟩ : ∃ n, countOf b.fields "handler_count" = .ok n :=
    h.measured.exists_countOf (by rw [ht]; decide)
  rw [ht] at hshape hperm
  rw [BlockType.shape_statements_try hshape hn] at hperm
  have hmem : ∀ s ∈ BlockType.tryStmt.statementSlots, s ∈ b.statements := fun s hs =>
    hperm.mem_iff.mpr (List.mem_append_left _ hs)
  unfold IsRead
  simp only [stmtOf, ht]
  have hmatch : b.type ≠ .matchStmt := by simp [ht]
  refine ends_freshInfo.bind fun i _ =>
    (h.bodies hmatch "BODY" (hmem _ (by decide)) _).bind fun body hbody =>
    (h.ends_handlers ht hn fun s hs => hperm.mem_iff.mpr (List.mem_append_right _ hs)).bind
    fun hs hhs => (h.ends_optionalBody hmatch "has_else" "ELSE_BODY" (hmem _ (by decide))).bind
    fun orelse horelse =>
    (h.ends_optionalBody hmatch "has_finally" "FINALLY_BODY" (hmem _ (by decide))).bind
    fun final hfinal => ends_pure ?_
  refine stmtRead_of_filled (by simp [ht, Stmt.types]) rfl rfl
    (fun hw handler hhandler => (hhs.2 hw handler hhandler).1) (fun hw e he => ?_) ?_
  · obtain ⟨handler, hhandler, he⟩ := List.mem_flatMap.mp he
    exact (hhs.2 hw handler hhandler).2 e (Option.mem_toList.mp he)
  · -- The slots for handlers come last among the slots, and their suites second.
    have hfilled := (((filled_single hbody).append hhs.1).append horelse).append hfinal
    refine hfilled.perm (List.Perm.trans ?_ hperm.symm)
    rw [List.append_assoc, List.append_assoc]
    exact List.perm_append_comm.append_left ["BODY"]

/-- A `match` block: its slot for cases is not empty, and what it holds are cases. -/
lemma ends_match (h : StmtReady ws b kids slots bodies) (ht : b.type = .matchStmt)
    (hempty : (kids "CASES").isPresent = false → ¬ ws.Flawless)
    (hcases : (kids "CASES").isPresent = true →
      Ends (cases depth) (CasesRead ws (kids "CASES") depth) (¬ ws.Flawless)) :
    IsRead ws id b kids slots bodies cases depth := by
  have hslots : b.statements = ["CASES"] := by
    have hperm := h.measured.statements_perm_slots (by simp [ht])
    rw [ht] at hperm
    exact List.perm_singleton.mp hperm
  unfold IsRead
  simp only [stmtOf, ht]
  refine ends_freshInfo.bind fun i _ =>
    (h.ends_required "SUBJECT" (by decide)).bind fun subject hsubject => ?_
  cases hpresent : (kids "CASES").isPresent with
  | false => exact ends_reject (hempty hpresent)
  | true =>
    refine (hcases hpresent).bind fun cs hcs => ends_pure ?_
    have htypes : ∀ entry ∈ (kids "CASES").spine, entry.2.type = .caseStmt := fun entry hentry => by
      obtain ⟨c, hc, hstands⟩ := exists_of_forall₂ (List.Forall₂.flip hcs.stands) entry hentry
      obtain ⟨c, -, rfl⟩ := List.mem_map.mp hc
      obtain ⟨hdepicts, -⟩ : Stands ws entry (.case c) := hstands
      exact hdepicts.1
    have hne : cs ≠ [] := by
      rintro rfl
      cases hkid : kids "CASES" with
      | nothing => simp [hkid, BlockTree.isPresent] at hpresent
      | node => simpa [hkid, BlockTree.spine] using hcs.stands
    refine ⟨by simp [ht, Stmt.types], rfl, by simpa [Construct.slotted] using hcs.stands,
      fun hw => ⟨⟨hne, fun c hc => ?_⟩, ?_, ?_, ?_⟩, ?_, ?_,
      fun _ => ⟨hpresent, htypes⟩⟩
    · exact (hcs.wellFormed hw c hc).1
    · simpa [Stmt.exprs] using hsubject hw
    · simpa [Stmt.suites] using fun c hc => (hcs.wellFormed hw c hc).2.1
    · simpa [Stmt.suites] using fun c hc => (hcs.wellFormed hw c hc).2.2
    · simpa [hslots, Stmt.inner, BlockTree.members] using
        Covers.cons hcs.stands hcs.unbroken hcs.covers
    · simpa [hslots] using hcs.inOrder

/-! ## Statements without suites -/

/-- A block of one of the assignments is read as the assignment it depicts. -/
lemma ends_assignment (h : StmtReady ws b kids slots bodies)
    (ht : b.type ∈ [.varSet, .assign, .annAssign, .augAssign]) :
    IsRead ws id b kids slots bodies cases depth := by
  unfold IsRead
  simp only [List.mem_cons, List.not_mem_nil, or_false] at ht
  rcases ht with ht | ht | ht | ht <;> simp only [stmtOf, ht]
  · refine ends_freshInfo.bind fun i _ => ends_freshInfo.bind fun i' _ =>
      (h.ends_required "VALUE" (by decide)).bind fun value hvalue => ends_pure ?_
    refine h.stmtRead_simple (by simp [ht, Stmt.types]) (by rw [ht]; decide) rfl rfl
      (fun _ => trivial) (fun hw e he => ?_) rfl
    simp only [Stmt.exprs, List.mem_cons, List.not_mem_nil, or_false] at he
    rcases he with rfl | rfl
    · exact hvalue hw
    · exact ⟨Ready.isName_nameIn (h.exists_word (h.worded hw) ht "name" (by decide)),
        by simp [Expr.parts]⟩
  · refine ends_freshInfo.bind fun i _ => (h.ends_countIn (by rw [ht]; decide)).bind fun n _ =>
      (h.ends_requiredAll "TARGET" n (by decide)).bind fun targets htargets =>
      (h.ends_required "VALUE" (by decide)).bind fun value hvalue => ends_pure ?_
    refine h.stmtRead_simple (by simp [ht, Stmt.types]) (by rw [ht]; decide) rfl rfl
      (fun _ => trivial) (fun hw => ?_) rfl
    exact List.forall_mem_cons.mpr ⟨hvalue hw, fun e he => htargets.2 e he hw⟩
  · refine ends_freshInfo.bind fun i _ =>
      (h.ends_required "TARGET" (by decide)).bind fun target htarget =>
      (h.ends_required "ANNOTATION" (by decide)).bind fun hint hhint =>
      (h.ends_slot "VALUE" (by decide)).bind fun value hvalue => ends_pure ?_
    refine h.stmtRead_simple (by simp [ht, Stmt.types]) (by rw [ht]; decide) rfl rfl
      (fun _ => trivial) (fun hw => ?_) rfl
    refine List.forall_mem_cons.mpr ⟨htarget hw, List.forall_mem_cons.mpr ⟨hhint hw, ?_⟩⟩
    exact fun e he => hvalue e (Option.mem_toList.mp he) hw
  · refine ends_freshInfo.bind fun i _ =>
      (h.ends_required "TARGET" (by decide)).bind fun target htarget =>
      (h.ends_chosen (.inl (by rw [ht]; decide)) (by rw [ht]; rfl) .null).bind fun op _ =>
      (h.ends_required "VALUE" (by decide)).bind fun value hvalue => ends_pure ?_
    exact h.stmtRead_simple (by simp [ht, Stmt.types]) (by rw [ht]; decide) rfl rfl
      (fun _ => trivial) (fun hw => by simp [Stmt.exprs, htarget hw, hvalue hw]) rfl

/-- A block that consists of one word is read as the statement it depicts. -/
lemma ends_bare (h : StmtReady ws b kids slots bodies)
    (ht : b.type ∈ [.passStmt, .breakStmt, .continueStmt]) :
    IsRead ws id b kids slots bodies cases depth := by
  unfold IsRead
  simp only [List.mem_cons, List.not_mem_nil, or_false] at ht
  rcases ht with ht | ht | ht <;> simp only [stmtOf, ht] <;>
    refine ends_freshInfo.bind fun i _ => ends_pure ?_ <;>
    exact h.stmtRead_simple (by simp [ht, Stmt.types]) (by rw [ht]; decide) rfl rfl
      (fun _ => trivial) (fun _ => by simp [Stmt.exprs]) rfl

/-- A block that only plugs values is read as the statement it depicts. -/
lemma ends_plain (h : StmtReady ws b kids slots bodies)
    (ht : b.type ∈ [.exprStmt, .returnStmt, .assertStmt, .raiseStmt, .deleteStmt]) :
    IsRead ws id b kids slots bodies cases depth := by
  unfold IsRead
  simp only [List.mem_cons, List.not_mem_nil, or_false] at ht
  rcases ht with ht | ht | ht | ht | ht <;> simp only [stmtOf, ht]
  · refine (h.ends_required "EXPR" (by decide)).bind fun e he => ends_freshInfo.bind fun i _ =>
      ends_pure ?_
    exact h.stmtRead_simple (by simp [ht, Stmt.types]) (by rw [ht]; decide) rfl rfl
      (fun _ => trivial) (fun hw => by simp [Stmt.exprs, he hw]) rfl
  · refine (h.ends_slot "VALUE" (by decide)).bind fun value hvalue => ends_freshInfo.bind fun i _ =>
      ends_pure ?_
    exact h.stmtRead_simple (by simp [ht, Stmt.types]) (by rw [ht]; decide) rfl rfl
      (fun _ => trivial) (fun hw e he => hvalue e (Option.mem_toList.mp he) hw) rfl
  · refine ends_freshInfo.bind fun i _ =>
      (h.ends_required "CONDITION" (by decide)).bind fun test htest =>
      (h.ends_slot "MESSAGE" (by decide)).bind fun msg hmsg => ends_pure ?_
    refine h.stmtRead_simple (by simp [ht, Stmt.types]) (by rw [ht]; decide) rfl rfl
      (fun _ => trivial) (fun hw => ?_) rfl
    exact List.forall_mem_cons.mpr ⟨htest hw, fun e he => hmsg e (Option.mem_toList.mp he) hw⟩
  · refine ends_freshInfo.bind fun i _ =>
      (h.ends_slot "EXCEPTION" (by decide)).bind fun exception hexception =>
      (h.ends_slot "CAUSE" (by decide)).bind fun cause hcause => ends_pure ?_
    refine h.stmtRead_simple (by simp [ht, Stmt.types]) (by rw [ht]; decide) rfl rfl
      (fun _ => trivial) (fun hw e he => ?_) rfl
    rcases List.mem_append.mp he with he | he
    · exact hexception e (Option.mem_toList.mp he) hw
    · exact hcause e (Option.mem_toList.mp he) hw
  · refine ends_freshInfo.bind fun i _ => (h.ends_countIn (by rw [ht]; decide)).bind fun n _ =>
      (h.ends_requiredAll "TARGET" n (by decide)).bind fun targets htargets => ends_pure ?_
    exact h.stmtRead_simple (by simp [ht, Stmt.types]) (by rw [ht]; decide) rfl rfl
      (fun _ => trivial) (fun hw e he => htargets.2 e he hw) rfl

/-- An import block is read as the import it depicts. -/
lemma ends_import (h : StmtReady ws b kids slots bodies) (ht : b.type = .importStmt) :
    IsRead ws id b kids slots bodies cases depth := by
  have hnames : Ends (importedNames b) (fun names => ∀ n ∈ names, ws.Worded →
      IsText n.name ∧ IsOptionalName n.asName) (¬ ws.Flawless) := by
    unfold importedNames
    refine (h.ends_countIn (by rw [ht]; decide)).bind fun n hn =>
      (ends_mapM_all fun j hj => ?_).imp fun names hnames => hnames.2
    have hword := fun (hw : ws.Worded) stem hstem => h.exists_word_indexed (h.worded hw) ht hn stem
      hstem (List.mem_range.mp hj)
    refine ends_freshInfo.bind fun i _ => ends_pure fun hw => ⟨?_, ?_⟩
    · exact Ready.isText_getD (hword hw "NAME" (by decide)) _
    · exact Ready.isOptionalName_optionIn (hword hw "ALIAS" (by decide))
  unfold IsRead
  simp only [stmtOf, ht]
  refine ends_freshInfo.bind fun i _ => hnames.bind fun names hnames => ends_pure ?_
  refine h.stmtRead_simple (by simp [ht, Stmt.types]) (by rw [ht]; decide) rfl rfl
    (fun hw => ⟨?_, fun n hn => hnames n hn hw⟩) (fun _ => by simp [Stmt.exprs]) rfl
  exact Ready.isText_getD (h.exists_word (h.worded hw) ht "module" (by decide)) _

/-- Names that commas separate hold no comma, and blanks around them are left out. -/
lemma ends_declaredNames (h : StmtReady ws b kids slots bodies)
    (ht : b.type = .globalStmt ∨ b.type = .nonlocalStmt) :
    Ends (declaredNames b) (fun names => ∀ d ∈ names, IsDeclaredName d) (¬ ws.Flawless) := by
  unfold declaredNames
  have hread : Ends (ofFault (((b.field? "names").getD "").textFor "split")) (fun _ => True)
      (¬ ws.Flawless) := by
    cases htext : ((b.field? "names").getD "").textFor "split" with
    | ok names => exact ends_pure trivial
    | error f =>
      refine ends_throw fun hflawless => ?_
      obtain ⟨ps, hps⟩ := h.exists_word (h.worded hflawless.worded) rfl "names"
        (by rcases ht with ht | ht <;> rw [ht] <;> decide)
      rw [hps, Option.getD_some, Datum.textFor_ofPoints] at htext
      cases htext
  refine hread.bind fun names _ => ends_pure fun d hd => ?_
  obtain ⟨name, hname, hd⟩ := List.mem_filterMap.mp hd
  obtain ⟨piece, hpiece, rfl⟩ := List.mem_map.mp hname
  split at hd
  · cases hd
  case isFalse hne =>
    refine ⟨_, fun hempty => hne (List.isEmpty_iff.mpr hempty), fun hcomma => ?_,
      Text.trimBy_trimBy piece, (Option.some.inj hd).symm⟩
    exact Text.not_mem_of_mem_splitAt hpiece (Text.mem_of_mem_trimBy hcomma)

/-- A `global` or `nonlocal` block is read as the declaration it depicts. -/
lemma ends_declaration (h : StmtReady ws b kids slots bodies)
    (ht : b.type = .globalStmt ∨ b.type = .nonlocalStmt) :
    IsRead ws id b kids slots bodies cases depth := by
  have hnames := h.ends_declaredNames ht
  unfold IsRead
  rcases ht with ht | ht <;> simp only [stmtOf, ht] <;>
    refine hnames.bind fun names hnames => ends_freshInfo.bind fun i _ => ends_pure ?_ <;>
    exact h.stmtRead_simple (by simp [ht, Stmt.types]) (by rw [ht]; decide) rfl rfl
      (fun _ => hnames) (fun _ => by simp [Stmt.exprs]) rfl

/-- A call with a block of its own that is a statement. -/
lemma ends_action (h : StmtReady ws b kids slots bodies)
    (ht : b.type = .printStmt ∨ b.type = .waitStmt) :
    IsRead ws id b kids slots bodies cases depth := by
  have hcall : ∃ builtin, BuiltinCall.ofType? b.type = some builtin := by
    rcases ht with ht | ht <;> rw [ht] <;> exact ⟨_, rfl⟩
  obtain ⟨builtin, hbuiltin⟩ := hcall
  have hread : Ends (builtinCall builtin id b (fun s => (kids s).isPresent) slots)
      (fun e => ws.Worded → e.WellFormed) (¬ ws.Flawless) := h.ends_builtinCall hbuiltin
  unfold IsRead
  rcases ht with ht | ht <;> rw [ht] at hbuiltin <;> simp only [stmtOf, ht, hbuiltin] <;>
    refine ends_freshInfo.bind fun i _ => hread.bind fun e he => ends_pure ?_ <;>
    exact h.stmtRead_simple (by simp [ht, Stmt.types]) (by rw [ht]; decide) rfl rfl
      (fun _ => trivial) (fun hw => by simp [Stmt.exprs, he hw]) rfl

/-! ## All statements -/

/-- The kinds of statements that are read off one block. -/
private lemma statement_cases {t : BlockType} (h : (t.kind == .statement) = true) :
    t ∈ [BlockType.ifStmt, .elifStmt, .elseStmt, .caseStmt] ∨ t = .syncError ∨ t = .whileStmt ∨
      t = .forStmt ∨ t = .functionDef ∨ t = .classDef ∨ t = .withStmt ∨ t = .tryStmt ∨
      t = .matchStmt ∨ t ∈ [BlockType.varSet, .assign, .annAssign, .augAssign] ∨
      t ∈ [BlockType.passStmt, .breakStmt, .continueStmt] ∨
      t ∈ [BlockType.exprStmt, .returnStmt, .assertStmt, .raiseStmt, .deleteStmt] ∨
      t = .importStmt ∨ (t = .globalStmt ∨ t = .nonlocalStmt) ∨
      t = .printStmt ∨ t = .waitStmt := by
  revert h
  cases t <;> decide

/-- A statement is read off one block, unless it is a part of a conditional or a case. -/
theorem ends_stmtOf (h : StmtReady ws b kids slots bodies) (hstmt : b.isStatement)
    (hplain : b.type ∉ [BlockType.ifStmt, .elifStmt, .elseStmt, .caseStmt])
    (hsound : b.type = .syncError → ¬ ws.Flawless)
    (hempty : b.type = .matchStmt → (kids "CASES").isPresent = false → ¬ ws.Flawless)
    (hcases : b.type = .matchStmt → (kids "CASES").isPresent = true →
      Ends (cases depth) (CasesRead ws (kids "CASES") depth) (¬ ws.Flawless)) :
    IsRead ws id b kids slots bodies cases depth := by
  rcases statement_cases hstmt with ht | ht | ht | ht | ht | ht | ht | ht | ht | ht | ht | ht | ht |
    ht | ht
  · exact absurd ht hplain
  · unfold IsRead
    simp only [stmtOf, ht]
    exact ends_reject (hsound ht)
  · exact h.ends_while ht
  · exact h.ends_for ht
  · exact h.ends_function ht
  · exact h.ends_class ht
  · exact h.ends_with ht
  · exact h.ends_try ht
  · exact h.ends_match ht (hempty ht) (hcases ht)
  · exact h.ends_assignment ht
  · exact h.ends_bare ht
  · exact h.ends_plain ht
  · exact h.ends_import ht
  · exact h.ends_declaration ht
  · exact h.ends_action ht

end StmtReady

end BlockText.Compile

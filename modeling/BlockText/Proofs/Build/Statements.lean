import BlockText.Proofs.Build.Chains

/-!
# Blocks of statements

For each kind of statement there is one lemma: if its parts are built so that they are read as they
were, then so is the statement.
-/

namespace BlockText.Edit

open Syntax Workspace Compile

variable {ws₀ ws : Workspace} {X : BlockId} {b : Block} {slot : String → BlockTree} {depth : ℤ}
  {i : Info}

/-- The slots for statements that every block of the type has. -/
lemma mem_statements (h : Opened ws₀ ws X b slot) {t : BlockType} (ht : b.type = t) {s : String}
    (hs : s ∈ t.statementSlots) : s ∈ b.statements := by
  obtain ⟨shape, -, hshape⟩ := (proper_of_opened h).shaped
  rw [hshape.statements, ht]
  exact List.mem_append_left _ hs

/-- Building the statement gives one block of a type, and what it consists of has a property. -/
def BuildsBlock (s : Stmt) (t : BlockType)
    (good : BlockId → Block → (String → BlockTree) → Prop) : Prop :=
  BuildsPieces s fun ts => ∃ X b slot, ts = [.node X b slot .nothing] ∧ b.Proper ∧ b.type = t ∧
    good X b slot

/-- A block with the right parts is the block of a statement. -/
lemma yields_block {t : BlockType} (good : BlockId → Block → (String → BlockTree) → Prop)
    (h : Opened ws₀ ws X b slot) (ht : b.type = t) (hkind : t.kind = .statement)
    (hgood : good X b slot) :
    Yields (do recordSpan X i; return [X]) ws fun ids ws' => ∃ ts, ids = roots ts ∧
      (∀ t ∈ ts, IsPiece t) ∧ Grove ws₀ ws' ts ∧ ∃ X b slot, ts = [.node X b slot .nothing] ∧
        b.Proper ∧ b.type = t ∧ good X b slot := by
  refine Yields.bind (yields_recordSpan h X i) fun _ ws' h' => ?_
  refine ⟨[.node X b slot .nothing], rfl, ?_, h', X, b, slot, rfl, proper_of_opened h, ht, hgood⟩
  intro t' ht'
  obtain rfl := List.mem_singleton.mp ht'
  exact ⟨X, b, slot, rfl, by simp [Block.isStatement, Block.kind, ht, hkind]⟩

/-- Blocks have every property that the given one implies. -/
lemma BuildsPieces.mono {s : Stmt} {good good' : List BlockTree → Prop} (h : BuildsPieces s good)
    (himp : ∀ ts, good ts → good' ts) : BuildsPieces s good' := by
  intro ws hws
  refine (h ws hws).mono ?_
  rintro ids ws' ⟨ts, hids, hts, hgrove, hgood⟩
  exact ⟨ts, hids, hts, hgrove, himp ts hgood⟩

/-- A block that is read as the statement is the block of the statement. -/
lemma BuildsBlock.buildsStmt {s : Stmt} {t : BlockType}
    {good : BlockId → Block → (String → BlockTree) → Prop} (h : BuildsBlock s t good)
    (hplain : isPlain t = true)
    (hreads : ∀ X b slot, b.type = t → good X b slot → ReadsStmt X b slot depth s) :
    BuildsStmt depth s := by
  refine h.mono ?_
  rintro ts ⟨X, b, slot, rfl, -, ht, hgood⟩ rest ss hrest
  exact tells_plain (by rw [ht]; exact hplain) (hreads X b slot ht hgood) hrest

/-- The type is that of a statement that declares nothing and holds no statements. -/
def isSimple (t : BlockType) : Bool :=
  t.kind == .statement && t.statementSlots.isEmpty && t != .varSet && t != .assign &&
    t != .annAssign

/-- A block of one line is plain. -/
lemma isPlain_of_isSimple {t : BlockType} (h : isSimple t = true) : isPlain t = true := by
  revert h
  cases t <;> decide

/-- A block of one line is a statement block. -/
lemma kind_of_isSimple {t : BlockType} (h : isSimple t = true) : t.kind = .statement := by
  revert h
  cases t <;> decide

/-- Building the statement gives one block of a simple type, which is read as the statement. -/
def BuildsSimple (depth : ℤ) (s : Stmt) : Prop :=
  BuildsPieces s fun ts => ∃ X b slot, ts = [.node X b slot .nothing] ∧ isSimple b.type ∧
    ReadsStmt X b slot depth s

/-- What builds a one-line statement builds it as a statement. -/
lemma BuildsSimple.buildsStmt {s : Stmt} (h : BuildsSimple depth s) : BuildsStmt depth s := by
  refine h.mono ?_
  rintro ts ⟨X, b, slot, rfl, hsimple, hreads⟩ rest ss hrest
  exact tells_plain (isPlain_of_isSimple hsimple) hreads hrest

/-- A block of a simple type with the right parts is the block of a simple statement. -/
lemma yields_simple {t : BlockType} {s : Stmt} (h : Opened ws₀ ws X b slot) (ht : b.type = t)
    (hsimple : isSimple t = true) (hreads : ReadsStmt X b slot depth s) :
    Yields (do recordSpan X i; return [X]) ws fun ids ws' => ∃ ts, ids = roots ts ∧
      (∀ t ∈ ts, IsPiece t) ∧ Grove ws₀ ws' ts ∧ ∃ X b slot, ts = [.node X b slot .nothing] ∧
        isSimple b.type ∧ ReadsStmt X b slot depth s := by
  refine (yields_block (fun X b slot => ReadsStmt X b slot depth s) h ht
    (kind_of_isSimple hsimple) hreads).mono ?_
  rintro ids ws' ⟨ts, hids, hts, hgrove, X, b, slot, rfl, -, rfl, hreads'⟩
  exact ⟨_, hids, hts, hgrove, X, b, slot, rfl, hsimple, hreads'⟩

/-- A loop over items with their indexes whose steps fill the slots and set the fields of their
index. -/
lemma yields_eachIndexed {α β : Type} {done : α → Workspace → Prop} {t : BlockType}
    {values bodies : List String} (stems : List String) (step : ℕ → β → Edit Unit)
    (shows : ℕ → β → Block → (String → BlockTree) → Prop) {items : List β} {g : β × ℕ → Edit Unit}
    {f : Edit α} (hg : ∀ x j, g (x, j) = step j x)
    (hwordy : ∀ stem ∈ stems, Wordy stem) (hvalues : values ⊆ stems) (hbodies : bodies ⊆ stems)
    (hshows : ∀ j x {b slot b' slot'}, Keeps (Owns stems j) b slot b' slot' →
      shows j x b slot → shows j x b' slot')
    (hstep : ∀ x ∈ items, ∀ j ws b slot, Opened ws₀ ws X b slot → Ready t values bodies j b slot →
      Yields (step j x) ws fun _ ws' => ∃ b' slot', Opened ws₀ ws' X b' slot' ∧
        shows j x b' slot' ∧ Keeps (fun s => ¬ Owns stems j s) b slot b' slot')
    (h : Opened ws₀ ws X b slot) (hall : ∀ j < items.length, Ready t values bodies j b slot)
    (hf : ∀ b' slot' ws', (∀ j (hj : j < items.length), shows j items[j] b' slot') →
      Keeps (fun s => ∀ j, ¬ Owns stems j s) b slot b' slot' →
      Opened ws₀ ws' X b' slot' → Yields f ws' done) :
    Yields (do items.zipIdx.forM g; f) ws done := by
  refine yields_each (fun j xs => (xs.zipIdx j).forM g) step shows (fun j => rfl) ?_ hwordy hvalues
    hbodies hshows hstep h hall hf
  intro j x rest
  rw [List.zipIdx_cons, List.forM_eq_forM, List.forM_cons, hg]

/-! ## Simple statements -/

/-- Statements without parts. -/
private lemma builds_plain {t : BlockType} {s : Stmt} (hblock : stmtBlocks s = plainBlock t i)
    (hsync : t ≠ .syncError) (hstring : t ≠ .string) (hsimple : isSimple t = true)
    (hreads : ∀ {X : BlockId} {b : Block}, b.type = t → ReadsStmt X b noSlots depth s) :
    BuildsSimple depth s := by
  intro ws hws
  rw [hblock, plainBlock]
  refine yields_newBlock hws hsync hstring (by simp) fitting_nil fun X b ws₁ h₁ ht _ _ => ?_
  exact yields_simple h₁ ht hsimple (hreads ht)

lemma builds_pass : BuildsSimple depth (.passStmt i) :=
  builds_plain (by rw [stmtBlocks]) (by decide) (by decide) rfl readsStmt_pass

lemma builds_break : BuildsSimple depth (.breakStmt i) :=
  builds_plain (by rw [stmtBlocks]) (by decide) (by decide) rfl readsStmt_break

lemma builds_continue : BuildsSimple depth (.continueStmt i) :=
  builds_plain (by rw [stmtBlocks]) (by decide) (by decide) rfl readsStmt_continue

/-- A statement without code has no block. -/
lemma builds_empty {origin : EmptySource} : BuildsStmt depth (.empty origin i) := by
  intro ws hws
  rw [stmtBlocks]
  refine ⟨[], rfl, by simp, .refl hws, fun rest ss hrest current => ?_⟩
  refine (hrest current).mono fun ss' hss' => StmtsAlike.trans hss' ?_
  exact StmtsAlike.append (.refl _) (stmtsAlike_empty (.refl _))

/-- A `return` is built from what builds its value. -/
lemma builds_return {value : Option Expr} (hvalue : ∀ e ∈ value, BuildsExpr e) :
    BuildsSimple depth (.returnStmt value i) := by
  intro ws hws
  rw [stmtBlocks]
  refine yields_newBlock hws (by decide) (by decide) (by simp) fitting_nil
    fun X b ws₁ h₁ ht _ _ => ?_
  refine yields_plug hws.forest h₁ (builds_option hvalue) (fun _ h => h.1)
    (mem_values h₁ ht (by decide)) rfl fun slot₂ ws₂ hvalue' _ h₂ => ?_
  exact yields_simple h₂ ht rfl (readsStmt_return ht hvalue'.2)

/-- An `assert` is built from what builds its test and its message. -/
lemma builds_assert {t : Expr} {msg : Option Expr} (htest : BuildsExpr t)
    (hmsg : ∀ e ∈ msg, BuildsExpr e) : BuildsSimple depth (.assertStmt t msg i) := by
  intro ws hws
  rw [stmtBlocks]
  refine yields_newBlock hws (by decide) (by decide) (by simp) fitting_nil
    fun X b ws₁ h₁ ht _ _ => ?_
  refine yields_plug hws.forest h₁ htest (fun _ h => h.1) (mem_values h₁ ht (by decide)) rfl
    fun slot₂ ws₂ htest' k₂ h₂ => ?_
  refine yields_plug hws.forest h₂ (builds_option hmsg) (fun _ h => h.1)
    (mem_values h₁ ht (by decide)) (by rw [k₂.slot _ (by decide)])
    fun slot₃ ws₃ hmsg' k₃ h₃ => ?_
  refine yields_simple h₃ ht rfl (readsStmt_assert ht ?_ hmsg'.2)
  rw [k₃.slot _ (by decide)]
  exact htest'.2

/-- A `raise` is built from what builds its exception and its cause. -/
lemma builds_raise {exception cause : Option Expr} (hexception : ∀ e ∈ exception, BuildsExpr e)
    (hcause : ∀ e ∈ cause, BuildsExpr e) : BuildsSimple depth (.raiseStmt exception cause i) := by
  intro ws hws
  rw [stmtBlocks]
  refine yields_newBlock hws (by decide) (by decide) (by simp) fitting_nil
    fun X b ws₁ h₁ ht _ _ => ?_
  refine yields_plug hws.forest h₁ (builds_option hexception) (fun _ h => h.1)
    (mem_values h₁ ht (by decide)) rfl fun slot₂ ws₂ hexception' k₂ h₂ => ?_
  refine yields_plug hws.forest h₂ (builds_option hcause) (fun _ h => h.1)
    (mem_values h₁ ht (by decide)) (by rw [k₂.slot _ (by decide)])
    fun slot₃ ws₃ hcause' k₃ h₃ => ?_
  refine yields_simple h₃ ht rfl (readsStmt_raise ht ?_ hcause'.2)
  rw [k₃.slot _ (by decide)]
  exact hexception'.2

/-- What the block of an annotated assignment consists of. -/
structure HoldsAnnAssign (target : BlockTree → Prop) (hint : Expr) (value : Option Expr)
    (slot : String → BlockTree) : Prop where
  target : target (slot "TARGET")
  hint : Reads (slot "ANNOTATION") hint
  value : ReadsOption (slot "VALUE") value

/-- An annotated assignment is one block whose plugs are built by its parts, and whatever its target
is bound to say it says there. -/
lemma buildsBlock_annAssign {target hint : Expr} {value : Option Expr} {bound : BlockTree → Prop}
    (htarget : Builds (exprBlock target) fun t => IsValue t ∧ bound t) (hhint : BuildsExpr hint)
    (hvalue : ∀ e ∈ value, BuildsExpr e) :
    BuildsBlock (.annAssign target hint value i) .annAssign fun _ _ slot =>
      HoldsAnnAssign bound hint value slot := by
  intro ws hws
  rw [stmtBlocks]
  refine yields_newBlock hws (by decide) (by decide) (by simp) fitting_nil
    fun X b ws₁ h₁ ht _ _ => ?_
  refine yields_plug hws.forest h₁ htarget (fun _ h => h.1) (mem_values h₁ ht (by decide)) rfl
    fun slot₂ ws₂ htarget' k₂ h₂ => ?_
  refine yields_plug hws.forest h₂ hhint (fun _ h => h.1) (mem_values h₁ ht (by decide))
    (by rw [k₂.slot _ (by decide)]) fun slot₃ ws₃ hhint' k₃ h₃ => ?_
  refine yields_plug hws.forest h₃ (builds_option hvalue) (fun _ h => h.1)
    (mem_values h₁ ht (by decide)) (by rw [k₃.slot _ (by decide), k₂.slot _ (by decide)])
    fun slot₄ ws₄ hvalue' k₄ h₄ => ?_
  refine yields_block _ h₄ ht rfl ⟨?_, ?_, hvalue'.2⟩
  · rw [k₄.slot _ (by decide), k₃.slot _ (by decide)]
    exact htarget'.2
  · rw [k₄.slot _ (by decide)]
    exact hhint'.2

/-- An annotated assignment is built from what builds its target, its hint and its value. -/
lemma builds_annAssign {target hint : Expr} {value : Option Expr} (htarget : BuildsExpr target)
    (hhint : BuildsExpr hint) (hvalue : ∀ e ∈ value, BuildsExpr e) :
    BuildsStmt depth (.annAssign target hint value i) :=
  (buildsBlock_annAssign htarget hhint hvalue).buildsStmt rfl fun _ _ _ ht h =>
    readsStmt_annAssign ht h.target h.hint h.value

/-- An augmented assignment is built from what builds its two sides. -/
lemma builds_augAssign {target value : Expr} {op : BinaryOp} (htarget : BuildsExpr target)
    (hvalue : BuildsExpr value) : BuildsSimple depth (.augAssign target op value i) := by
  intro ws hws
  rw [stmtBlocks]
  refine yields_newBlock hws (by decide) (by decide) (by simp)
    ((fitting_text (isText_text _) rfl).cons fitting_nil) fun X b ws₁ h₁ ht _ hop => ?_
  refine yields_plug hws.forest h₁ htarget (fun _ h => h.1) (mem_values h₁ ht (by decide)) rfl
    fun slot₂ ws₂ htarget' k₂ h₂ => ?_
  refine yields_plug hws.forest h₂ hvalue (fun _ h => h.1) (mem_values h₁ ht (by decide))
    (by rw [k₂.slot _ (by decide)]) fun slot₃ ws₃ hvalue' k₃ h₃ => ?_
  refine yields_simple h₃ ht rfl (readsStmt_augAssign ht hop ?_ hvalue'.2)
  rw [k₃.slot _ (by decide)]
  exact htarget'.2

/-- Whole numbers of targets give slots for the targets. -/
private lemma mem_targets {t : BlockType} {n : ℕ} (h : Opened ws₀ ws X b slot) (ht : b.type = t)
    (htargets : t = .assign ∨ t = .deleteStmt) (hcount : b.field? "item_count" = some (.int n)) :
    ∀ j < n, s!"TARGET{j}" ∈ b.values := by
  intro j hj
  have hshape : t.shapeFor b.fields = .ok { values := indexed "TARGET" n } := by
    rcases htargets with rfl | rfl <;>
      simp [BlockType.shapeFor, countOf_of_entry hcount, bind, Except.bind, pure, Except.pure]
  exact mem_counted h ht hshape (mem_indexed hj)

/-- A `del` is built from what builds its targets. -/
lemma builds_delete {targets : List Expr} (htargets : ∀ e ∈ targets, BuildsExpr e) :
    BuildsSimple depth (.deleteStmt targets i) := by
  intro ws hws
  rw [stmtBlocks]
  refine yields_newBlock hws (by decide) (by decide) (by simp)
    ((fitting_count rfl).cons fitting_nil) fun X b ws₁ h₁ ht _ hcount => ?_
  refine yields_plugAll hws.forest h₁ htargets (mem_targets h₁ ht (.inr rfl) hcount)
    (fun _ _ => rfl) fun b₂ slot₂ ws₂ htargets' k₂ h₂ => ?_
  exact yields_simple h₂ (k₂.type.trans ht) rfl (readsStmt_delete (k₂.type.trans ht)
    (k₂.field _ _ (fun j => (indexed_ne (by decide) j).symm) hcount) htargets')

/-! ## Assignments -/

/-- The block of an assignment to one name. -/
lemma buildsBlock_varSet {name : List CodePoint} {i' : Info} {value : Expr}
    (hvalue : BuildsExpr value) :
    BuildsBlock (.assign [.identifier (.ofPoints name) i'] value i) .varSet fun _ b slot =>
      b.field? "name" = some (.ofPoints name) ∧ Reads (slot "VALUE") value := by
  intro ws hws
  rw [stmtBlocks, targetsBlock]
  refine yields_newBlock hws (by decide) (by decide) (by simp)
    ((fitting_text ⟨_, rfl⟩ rfl).cons fitting_nil) fun X b ws₁ h₁ ht _ hname => ?_
  refine yields_plug hws.forest h₁ hvalue (fun _ h => h.1) (mem_values h₁ ht (by decide)) rfl
    fun slot₂ ws₂ hvalue' k₂ h₂ => ?_
  exact yields_block _ h₂ ht rfl ⟨hname, hvalue'.2⟩

/-- What the block of an assignment consists of. -/
structure HoldsAssign (bound : Expr → BlockTree → Prop) (targets : List Expr) (value : Expr)
    (b : Block) (slot : String → BlockTree) : Prop where
  count : b.field? "item_count" = some (.int targets.length)
  targets : ∀ j (hj : j < targets.length), bound targets[j] (slot s!"TARGET{j}")
  value : Reads (slot "VALUE") value

/-- The block of any other assignment. -/
lemma buildsBlock_assign {targets : List Expr} {value : Expr} {bound : Expr → BlockTree → Prop}
    (hmore : ∀ name i', targets ≠ [.identifier name i'])
    (htargets : ∀ e ∈ targets, Builds (exprBlock e) fun t => IsValue t ∧ bound e t)
    (hvalue : BuildsExpr value) :
    BuildsBlock (.assign targets value i) .assign fun _ b slot =>
      HoldsAssign bound targets value b slot := by
  intro ws hws
  have hblock : targetsBlock targets = do
      let id ← newBlock .assign [("item_count", count targets.length)]
      plugAll id "TARGET" 0 targets
      return id := by
    rw [targetsBlock]
    exact hmore
  rw [stmtBlocks, hblock]
  simp only [bind_assoc, pure_bind]
  refine yields_newBlock hws (by decide) (by decide) (by simp)
    ((fitting_count rfl).cons fitting_nil) fun X b ws₁ h₁ ht _ hcount => ?_
  refine yields_plugEach hws.forest h₁ htargets (fun _ _ h => h.1)
    (mem_targets h₁ ht (.inl rfl) hcount) (fun _ _ => rfl) fun b₂ slot₂ ws₂ htargets' k₂ h₂ => ?_
  have hwordy : ∀ {name : String}, Wordy name → ∀ j : ℕ, name ≠ s!"TARGET{j}" :=
    fun hname j => (indexed_ne hname j).symm
  refine yields_plug hws.forest h₂ hvalue (fun _ h => h.1)
    (k₂.values _ (mem_values h₁ ht (by decide))) (by rw [k₂.slot _ (hwordy (by decide))])
    fun slot₃ ws₃ hvalue' k₃ h₃ => ?_
  refine yields_block _ h₃ (k₂.type.trans ht) rfl
    ⟨k₂.field _ _ (hwordy (by decide)) hcount, fun j hj => ?_, hvalue'.2⟩
  rw [k₃.slot _ (indexed_ne (by decide) j)]
  exact (htargets' j hj).2

/-- An assignment is built from what builds its targets and its value, and a lone name as target is
written into the block instead. -/
lemma builds_assign {targets : List Expr} {value : Expr}
    (hnames : ∀ name i', targets = [.identifier name i'] → IsName name)
    (htargets : ∀ e ∈ targets, BuildsExpr e) (hvalue : BuildsExpr value) :
    BuildsStmt depth (.assign targets value i) := by
  by_cases hsingle : ∃ name i', targets = [.identifier name i']
  · obtain ⟨name, i', rfl⟩ := hsingle
    obtain ⟨name, hne, rfl⟩ := hnames name i' rfl
    exact (buildsBlock_varSet hvalue).buildsStmt rfl fun _ _ _ ht h =>
      readsStmt_varSet ht h.1 hne h.2
  · have hmore : ∀ name i', targets ≠ [.identifier name i'] := fun name i' heq =>
      hsingle ⟨name, i', heq⟩
    have hreads : ∀ e ∈ targets, Builds (exprBlock e) fun t => IsValue t ∧ Reads t e := htargets
    exact (buildsBlock_assign hmore hreads hvalue).buildsStmt rfl fun _ _ _ ht h =>
      readsStmt_assign ht h.count h.targets h.value

/-! ## Expressions as statements -/

/-- The blocks of calls as statements are simple. -/
private lemma isSimple_builtin {b : BuiltinCall} (hb : b ∈ BuiltinCall.all)
    (hstmt : b.isStatement = true) : isSimple b.type = true := by
  revert b
  decide

/-- A call as a statement can have a block of its own. -/
lemma builds_exprStmt {e : Expr} (he : BuildsExpr e) (hparts : ∀ part ∈ e.parts, BuildsExpr part) :
    BuildsSimple depth (.exprStmt e i) := by
  intro ws hws
  rw [stmtBlocks]
  -- Every expression without such a block is plugged into a block for expressions.
  have hplain : exprStmtBlock e = (do
        let id ← newBlock .exprStmt
        plug id "EXPR" (← exprBlock e)
        return id) →
      Yields (do
        let id ← exprStmtBlock e
        recordSpan id i
        return [id]) ws fun ids ws' => ∃ ts, ids = roots ts ∧ (∀ t ∈ ts, IsPiece t) ∧
          Grove ws ws' ts ∧ ∃ X b slot, ts = [.node X b slot .nothing] ∧ isSimple b.type ∧
            ReadsStmt X b slot depth (.exprStmt e i) := by
    intro hblock
    rw [hblock]
    simp only [bind_assoc, pure_bind]
    refine yields_newBlock hws (by decide) (by decide) (by simp) fitting_nil
      fun X b ws₁ h₁ ht _ _ => ?_
    refine yields_plug hws.forest h₁ he (fun _ h => h.1) (mem_values h₁ ht (by decide)) rfl
      fun slot₂ ws₂ he' _ h₂ => ?_
    exact yields_simple h₂ ht rfl (readsStmt_expr ht he'.2)
  cases e with
  | call f args ks i' =>
    cases hmatch : BuiltinCall.match? f args.length (!ks.isEmpty) true with
    | none => exact hplain (by simp only [exprStmtBlock, hmatch, Option.map_none])
    | some builtin =>
      obtain ⟨name, i'', rfl, hnone, hmem, hstmt, hname, haccepts⟩ := BuiltinCall.of_match? hmatch
      obtain rfl : ks = [] := by simpa using hnone
      obtain ⟨hsync, hstring, -, hfixed, hbare⟩ := BuiltinCall.statement_sound hmem hstmt
      simp only [exprStmtBlock, hmatch, Option.map_some, bind_assoc, pure_bind]
      refine yields_newBlock hws hsync hstring (by simp) fitting_nil fun X b ws₁ h₁ ht _ _ => ?_
      refine Yields.bind (yields_arguments hmem hws.forest h₁ ht hname haccepts (by simp [hfixed])
        (by simp [hbare]) fun e he => hparts e (by simp [Expr.parts, he])) ?_
      rintro _ ws₂ ⟨slot₂, h₂, hshows⟩
      exact yields_simple h₂ ht (isSimple_builtin hmem hstmt) (readsStmt_builtin hmem hstmt ht hshows)
  | _ => exact hplain rfl

/-! ## Imports and declarations -/

/-- Writing one name of an import settles its two numbered fields and leaves the other plugs
ready. -/
private lemma yields_importName {n : ImportName} {j : ℕ} (h : Opened ws₀ ws X b slot)
    (hready : Ready .importStmt [] [] j b slot) (hname : IsText n.name)
    (halias : IsOptionalName n.asName) :
    Yields (do
      setField X s!"NAME{j}" n.name
      setField X s!"ALIAS{j}" (n.asName.orElse "")) ws fun _ ws' => ∃ b' slot',
        Opened ws₀ ws' X b' slot' ∧ ShowsImport b' j n ∧
        Keeps (fun s => ¬ Owns ["NAME", "ALIAS"] j s) b slot b' slot' := by
  have hne : s!"NAME{j}" ≠ s!"ALIAS{j}" := indexed_ne_of_stem (by decide) (by decide) (by decide)
  rw [← bind_pure_unit (x := setField X s!"ALIAS{j}" _)]
  refine yields_setText h hname (by rw [hready.type]; decide) (by decide)
    fun b₁ ws₁ hname₁ k₁ h₁ => ?_
  refine yields_setText h₁ (isText_orElse halias) (by rw [k₁.type, hready.type]; decide) (by decide)
    fun b₂ ws₂ halias₂ k₂ h₂ => ?_
  exact ⟨b₂, slot, h₂, ⟨halias, k₂.field _ _ hne hname₁, halias₂⟩,
    (k₁.of_owned (by decide)).trans (k₂.of_owned (by decide))⟩

/-- An import is built when its module and names are texts. -/
lemma builds_import {module : Datum} {names : List ImportName} {isFrom : Bool}
    (hmodule : IsText module) (hnames : ∀ n ∈ names, IsText n.name ∧ IsOptionalName n.asName) :
    BuildsSimple depth (.importStmt module names isFrom i) := by
  intro ws hws
  rw [stmtBlocks, importBlock]
  simp only [bind_assoc, pure_bind]
  refine yields_newBlock hws (by decide) (by decide) (by simp)
    ((fitting_text hmodule rfl).cons ((fitting_bool rfl).cons ((fitting_count rfl).cons fitting_nil)))
    fun X b ws₁ h₁ ht _ hfs => ?_
  obtain ⟨hmodule, hfrom, hcount⟩ := hfs
  have hready : ∀ j < names.length, Ready .importStmt [] [] j b noSlots :=
    fun j _ => ⟨ht, by simp, by simp⟩
  refine yields_eachIndexed ["NAME", "ALIAS"] (fun j n => do
      setField X s!"NAME{j}" n.name
      setField X s!"ALIAS{j}" (n.asName.orElse "")) (fun j n b _ => ShowsImport b j n)
    ?_ ?_ ?_ ?_ ?_ ?_ h₁ hready fun b₂ slot₂ ws₂ hnames' k₂ h₂ => ?_
  · exact fun n j => rfl
  · decide
  · decide
  · decide
  · rintro j n b slot b' slot' hkeep ⟨hopt, hname, halias⟩
    exact ⟨hopt, hkeep.field _ _ ⟨"NAME", by decide, rfl⟩ hname,
      hkeep.field _ _ ⟨"ALIAS", by decide, rfl⟩ halias⟩
  · exact fun n hn j ws b slot hopen hready =>
      yields_importName hopen hready (hnames n hn).1 (hnames n hn).2
  have hfields : ∀ {name : String} {d : Datum}, Wordy name → b.field? name = some d →
      b₂.field? name = some d := fun hname hd => k₂.field _ _ (not_owns_wordy hname) hd
  have ht₂ : b₂.type = .importStmt := k₂.type.trans ht
  have hmodule₂ : b₂.field? "module" = some module := hfields (by decide) hmodule
  have hfrom₂ : b₂.field? "is_from" = some (.bool isFrom) := hfields (by decide) hfrom
  have hcount₂ : b₂.field? "item_count" = some (.int names.length) := hfields (by decide) hcount
  exact yields_simple h₂ ht₂ rfl (readsStmt_import ht₂ hmodule₂ hfrom₂ hcount₂ hnames')

/-- Names that are texts are joined. -/
private lemma namesText_eq (names : List (List CodePoint)) :
    namesText (names.map Datum.ofPoints) = pure (.ofPoints (Text.joinPoints ", " names)) := by
  have hmap : ∀ (f : Datum × ℕ → Edit (List CodePoint)), (∀ ps j, f (.ofPoints ps, j) = pure ps) →
      ∀ j : ℕ, ((names.map Datum.ofPoints).zipIdx j).mapM f = pure names := by
    intro f hf
    induction names with
    | nil => exact fun j => rfl
    | cons ps rest ih =>
      intro j
      rw [List.map_cons, List.zipIdx_cons, List.mapM_cons, ih (j + 1), hf]
      rfl
  rw [namesText, hmap _ (fun ps j => by simp only [Datum.points?_ofPoints]) 0, pure_bind]

/-- Names of a declaration are texts without commas and without blanks around them. -/
private lemma exists_names {names : List Datum} (h : ∀ d ∈ names, IsDeclaredName d) :
    ∃ ss : List (List CodePoint), names = ss.map Datum.ofPoints ∧
      ∀ ps ∈ ss, ps ≠ [] ∧ .char ',' ∉ ps ∧ Text.trimPoints ps = ps := by
  induction names with
  | nil => exact ⟨[], rfl, by simp⟩
  | cons d rest ih =>
    obtain ⟨s, hne, hcomma, htrim, rfl⟩ := h d List.mem_cons_self
    obtain ⟨ss, rfl, hss⟩ := ih fun d' hd' => h d' (List.mem_cons_of_mem _ hd')
    refine ⟨s :: ss, rfl, fun s' hs' => ?_⟩
    rcases List.mem_cons.mp hs' with rfl | hs'
    · exact ⟨hne, hcomma, htrim⟩
    · exact hss s' hs'

/-- A `global` is built when its names are. -/
lemma builds_global {names : List Datum} (hnames : ∀ d ∈ names, IsDeclaredName d) :
    BuildsSimple depth (.globalStmt names i) := by
  obtain ⟨ss, rfl, hss⟩ := exists_names hnames
  intro ws hws
  rw [stmtBlocks, namesText_eq, pure_bind]
  refine yields_newBlock hws (by decide) (by decide) (by simp)
    ((fitting_text ⟨_, rfl⟩ rfl).cons fitting_nil) fun X b ws₁ h₁ ht _ hfield => ?_
  exact yields_simple h₁ ht rfl (readsStmt_global ht hss hfield)

/-- A `nonlocal` is built when its names are. -/
lemma builds_nonlocal {names : List Datum} (hnames : ∀ d ∈ names, IsDeclaredName d) :
    BuildsSimple depth (.nonlocalStmt names i) := by
  obtain ⟨ss, rfl, hss⟩ := exists_names hnames
  intro ws hws
  rw [stmtBlocks, namesText_eq, pure_bind]
  refine yields_newBlock hws (by decide) (by decide) (by simp)
    ((fitting_text ⟨_, rfl⟩ rfl).cons fitting_nil) fun X b ws₁ h₁ ht _ hfield => ?_
  exact yields_simple h₁ ht rfl (readsStmt_nonlocal ht hss hfield)

end BlockText.Edit

import BlockText.Proofs.Build.Steps

/-!
# Blocks of expressions

For each kind of expression there is one lemma: if its parts are built so that they are read as they
were, then so is the expression.  Here are those whose parts are fixed, and those whose parts are
just items.
-/

namespace BlockText.Edit

open Syntax Workspace Compile

/-- Building the expression gives a tree that is read as the expression. -/
abbrev BuildsExpr (e : Expr) : Prop := Builds (exprBlock e) (Shows e)

variable {i : Info}

/-! ## Leaves -/

/-- An identifier is built when its name is one. -/
lemma builds_identifier {name : Datum} (hname : IsName name) :
    BuildsExpr (.identifier name i) := by
  obtain ⟨name, hne, rfl⟩ := hname
  intro ws hws
  rw [exprBlock, map_eq_pure_bind]
  refine yields_newBlock hws (by decide) (by decide) (by simp)
    ((fitting_text ⟨_, rfl⟩ rfl).cons fitting_nil) fun X b ws₁ h₁ ht _ hfs => ?_
  exact yields_finish h₁ ht rfl (reads_identifier ht hfs hne)

/-- The blocks of literals. -/
def IsLiteralType (t : BlockType) : Prop := t = .number ∨ t = .string ∨ t = .bool ∨ t = .none

/-- The block of a text keeps its value and its spelling. -/
private lemma yields_stringBlock {ws : Workspace} (hws : ws.Tidy) {raw value quote : Datum}
    (hraw : IsText raw) (hvalue : IsText value) (hquote : IsText quote) :
    Yields (newBlock .string [("value", value), ("quote", quote), ("raw", raw)])
      ws fun X ws' => ∃ b, Opened ws ws' X b noSlots ∧ b.type = .string ∧
        b.field? "raw" = some raw ∧ b.field? "value" = some value := by
  have hcount : ∀ name, BlockType.string.isCount name = false := by
    simp [BlockType.isCount, BlockType.countFields]
  have hwords : ∀ d, IsText d → (BlockType.string.sortOf "value").Admits d ∧
      (BlockType.string.sortOf "quote").Admits d ∧ (BlockType.string.sortOf "raw").Admits d :=
    fun d hd => ⟨hd, hd, hd⟩
  obtain ⟨-, htype, -⟩ := Block.proper_ofType .string
  unfold newBlock
  refine Yields.bind (yields_create hws (by decide) {}) fun X ws₁ h₁ => ?_
  simp only [List.forM_eq_forM, List.forM_cons, List.forM_nil, bind_assoc, pure_bind]
  refine Yields.bind (yields_setField h₁ (by rw [htype, hcount])
    (by rw [htype]; exact (hwords value hvalue).1)) ?_
  rintro _ ws₂ ⟨b₂, hb₂, h₂⟩
  have ht₂ : b₂.type = .string := hb₂.type.trans htype
  refine Yields.bind (yields_setField h₂ (by rw [ht₂, hcount])
    (by rw [ht₂]; exact (hwords quote hquote).2.1)) ?_
  rintro _ ws₃ ⟨b₃, hb₃, h₃⟩
  have ht₃ : b₃.type = .string := hb₃.type.trans ht₂
  refine Yields.bind (yields_setField h₃ (by rw [ht₃, hcount])
    (by rw [ht₃]; exact (hwords raw hraw).2.2)) ?_
  rintro _ ws₄ ⟨b₄, hb₄, h₄⟩
  have hnone : ∀ {b : Block} {name : String} {P : Prop}, b.type = .string →
      b.type.isCount name = true → P := by
    intro b name P ht h
    rw [ht, hcount] at h
    cases h
  refine ⟨b₄, h₄, hb₄.type.trans ht₃, hb₄.field, ?_⟩
  refine hb₄.others "value" _ (by decide) ?_ (fun _ => by decide) (hnone ht₃)
  exact hb₃.others "value" _ (by decide) hb₂.field (fun _ => by decide) (hnone ht₂)

/-- The block of a literal is read as the literal. -/
lemma yields_literalBlock {kind : LiteralKind} {raw value : Datum} (h : IsLiteral kind raw value)
    {ws : Workspace} (hws : ws.Tidy) :
    Yields (literalBlock kind raw value) ws fun X ws' => ∃ b, Opened ws ws' X b noSlots ∧
      IsLiteralType b.type ∧ ∀ i, Reads (.node X b noSlots .nothing) (.literal kind raw value i) := by
  cases kind with
  | number =>
    obtain ⟨⟨s, hne, htrim, rfl⟩, rfl⟩ := h
    rw [literalBlock, ← bind_pure (newBlock _ _)]
    refine yields_newBlock hws (by decide) (by decide) (by simp)
      ((fitting_text ⟨_, rfl⟩ rfl).cons fitting_nil) fun X b ws₁ h₁ ht _ hvalue => ?_
    exact ⟨b, h₁, .inl ht, fun i => reads_number ht hvalue htrim hne⟩
  | string =>
    obtain ⟨⟨ps, hne, rfl⟩, hvalue⟩ := h
    have hnull : value.isNull = false := by
      obtain ⟨v, rfl⟩ := hvalue
      exact Datum.isNull_ofPoints v
    simp only [literalBlock, Datum.points?_ofPoints, hnull]
    refine (yields_stringBlock hws ⟨ps, rfl⟩ hvalue (isText_text _)).mono ?_
    rintro X ws₁ ⟨b, h₁, ht, hraw, hvalue⟩
    exact ⟨b, h₁, .inr (.inl ht), fun i => reads_string ht hraw hvalue hne⟩
  | bool =>
    obtain ⟨v, rfl, rfl⟩ := h
    have hv : (Datum.bool v).isTruthy = v := by simp [Datum.isTruthy, Datum.isFalsy]
    rw [literalBlock, hv, ← bind_pure (newBlock _ _)]
    refine yields_newBlock hws (by decide) (by decide) (by simp)
      ((fitting_bool rfl).cons fitting_nil) fun X b ws₁ h₁ ht _ hvalue => ?_
    exact ⟨b, h₁, .inr (.inr (.inl ht)), fun i => reads_bool ht hvalue⟩
  | none =>
    obtain ⟨rfl, rfl⟩ := h
    rw [literalBlock, ← bind_pure (newBlock _ _)]
    refine yields_newBlock hws (by decide) (by decide) (by simp) fitting_nil
      fun X b ws₁ h₁ ht _ _ => ?_
    exact ⟨b, h₁, .inr (.inr (.inr ht)), fun i => reads_none ht⟩

/-- A literal is built when its text and value agree with its kind. -/
lemma builds_literal {kind : LiteralKind} {raw value : Datum} (h : IsLiteral kind raw value) :
    BuildsExpr (.literal kind raw value i) := by
  intro ws hws
  rw [exprBlock, map_eq_pure_bind]
  refine Yields.bind (yields_literalBlock h hws) ?_
  rintro X ws' ⟨b, hb, ht, hreads⟩
  have hkind : b.type.kind = .expression := by
    rcases ht with ht | ht | ht | ht <;> rw [ht] <;> rfl
  exact yields_finish hb rfl hkind (hreads i)

/-! ## Fixed numbers of parts -/

/-- A unary operation is built from what builds its operand. -/
lemma builds_unary {e : Expr} {op : UnaryOp} (he : BuildsExpr e) : BuildsExpr (.unary op e i) := by
  intro ws hws
  rw [exprBlock]
  refine yields_newBlock hws (by decide) (by decide) (by simp)
    ((fitting_text (isText_text _) rfl).cons fitting_nil) fun X b ws₁ h₁ ht _ hop => ?_
  refine yields_plug hws.forest h₁ he (fun _ h => h.1) (mem_values h₁ ht (by decide)) rfl
    fun slot₂ ws₂ he' _ h₂ => ?_
  exact yields_finish h₂ ht rfl (reads_unary ht hop he'.2)

/-- A binary operation is built from what builds its operands. -/
lemma builds_binary {l r : Expr} {op : BinaryOp} (hl : BuildsExpr l) (hr : BuildsExpr r) :
    BuildsExpr (.binary l op r i) := by
  intro ws hws
  rw [exprBlock]
  refine yields_newBlock hws (by decide) (by decide) (by simp)
    ((fitting_text (isText_text _) rfl).cons fitting_nil) fun X b ws₁ h₁ ht _ hop => ?_
  refine yields_plug hws.forest h₁ hl (fun _ h => h.1) (mem_values h₁ ht (by decide)) rfl
    fun slot₂ ws₂ hl' k₂ h₂ => ?_
  refine yields_plug hws.forest h₂ hr (fun _ h => h.1) (mem_values h₁ ht (by decide))
    (by rw [k₂.slot _ (by decide)]) fun slot₃ ws₃ hr' k₃ h₃ => ?_
  refine yields_finish h₃ ht rfl (reads_binary ht hop ?_ hr'.2)
  rw [k₃.slot _ (by decide)]
  exact hl'.2

/-- A conditional is built from what builds its three parts. -/
lemma builds_conditional {t b e : Expr} (ht : BuildsExpr t) (hb : BuildsExpr b)
    (he : BuildsExpr e) : BuildsExpr (.conditional t b e i) := by
  intro ws hws
  rw [exprBlock]
  refine yields_newBlock hws (by decide) (by decide) (by simp) fitting_nil
    fun X c ws₁ h₁ hc _ _ => ?_
  refine yields_plug hws.forest h₁ ht (fun _ h => h.1) (mem_values h₁ hc (by decide)) rfl
    fun slot₂ ws₂ ht' k₂ h₂ => ?_
  refine yields_plug hws.forest h₂ hb (fun _ h => h.1) (mem_values h₁ hc (by decide))
    (by rw [k₂.slot _ (by decide)]) fun slot₃ ws₃ hb' k₃ h₃ => ?_
  refine yields_plug hws.forest h₃ he (fun _ h => h.1) (mem_values h₁ hc (by decide))
    (by rw [k₃.slot _ (by decide), k₂.slot _ (by decide)]) fun slot₄ ws₄ he' k₄ h₄ => ?_
  refine yields_finish h₄ hc rfl (reads_conditional hc ?_ ?_ he'.2)
  · rw [k₄.slot _ (by decide), k₃.slot _ (by decide)]
    exact ht'.2
  · rw [k₄.slot _ (by decide)]
    exact hb'.2

/-- An attribute is built from what builds its object. -/
lemma builds_attribute {e : Expr} {attr : Datum} (hattr : IsName attr) (he : BuildsExpr e) :
    BuildsExpr (.attribute e attr i) := by
  obtain ⟨attr, hne, rfl⟩ := hattr
  intro ws hws
  rw [exprBlock]
  refine yields_newBlock hws (by decide) (by decide) (by simp)
    ((fitting_text ⟨_, rfl⟩ rfl).cons fitting_nil) fun X b ws₁ h₁ ht _ hname => ?_
  refine yields_plug hws.forest h₁ he (fun _ h => h.1) (mem_values h₁ ht (by decide)) rfl
    fun slot₂ ws₂ he' _ h₂ => ?_
  exact yields_finish h₂ ht rfl (reads_member ht hname hne he'.2)

/-- A subscript is built from what builds its object and its index. -/
lemma builds_subscript {e index : Expr} (he : BuildsExpr e) (hindex : BuildsExpr index) :
    BuildsExpr (.subscript e index i) := by
  intro ws hws
  rw [exprBlock]
  refine yields_newBlock hws (by decide) (by decide) (by simp) fitting_nil
    fun X b ws₁ h₁ ht _ _ => ?_
  refine yields_plug hws.forest h₁ he (fun _ h => h.1) (mem_values h₁ ht (by decide)) rfl
    fun slot₂ ws₂ he' k₂ h₂ => ?_
  refine yields_plug hws.forest h₂ hindex (fun _ h => h.1) (mem_values h₁ ht (by decide))
    (by rw [k₂.slot _ (by decide)]) fun slot₃ ws₃ hindex' k₃ h₃ => ?_
  refine yields_finish h₃ ht rfl (reads_subscript ht ?_ hindex'.2)
  rw [k₃.slot _ (by decide)]
  exact he'.2

/-- A slice is built from what builds the bounds it has. -/
lemma builds_slice {lower upper step : Option Expr} (hlower : ∀ e ∈ lower, BuildsExpr e)
    (hupper : ∀ e ∈ upper, BuildsExpr e) (hstep : ∀ e ∈ step, BuildsExpr e) :
    BuildsExpr (.slice lower upper step i) := by
  intro ws hws
  rw [exprBlock]
  refine yields_newBlock hws (by decide) (by decide) (by simp) fitting_nil
    fun X b ws₁ h₁ ht _ _ => ?_
  refine yields_plug hws.forest h₁ (builds_option hlower) (fun _ h => h.1)
    (mem_values h₁ ht (by decide)) rfl fun slot₂ ws₂ hlower' k₂ h₂ => ?_
  refine yields_plug hws.forest h₂ (builds_option hupper) (fun _ h => h.1)
    (mem_values h₁ ht (by decide)) (by rw [k₂.slot _ (by decide)])
    fun slot₃ ws₃ hupper' k₃ h₃ => ?_
  refine yields_plug hws.forest h₃ (builds_option hstep) (fun _ h => h.1)
    (mem_values h₁ ht (by decide)) (by rw [k₃.slot _ (by decide), k₂.slot _ (by decide)])
    fun slot₄ ws₄ hstep' k₄ h₄ => ?_
  refine yields_finish h₄ ht rfl (reads_slice ht ?_ ?_ hstep'.2)
  · rw [k₄.slot _ (by decide), k₃.slot _ (by decide)]
    exact hlower'.2
  · rw [k₄.slot _ (by decide)]
    exact hupper'.2

/-- A grouping is built from what builds its inside. -/
lemma builds_grouped {e : Expr} (he : BuildsExpr e) : BuildsExpr (.grouped e i) := by
  intro ws hws
  rw [exprBlock]
  refine yields_newBlock hws (by decide) (by decide) (by simp) fitting_nil
    fun X b ws₁ h₁ ht _ _ => ?_
  refine yields_plug hws.forest h₁ he (fun _ h => h.1) (mem_values h₁ ht (by decide)) rfl
    fun slot₂ ws₂ he' _ h₂ => ?_
  exact yields_finish h₂ ht rfl (reads_grouped ht he'.2)

/-- A named expression is built from what builds its value. -/
lemma builds_walrus {e : Expr} {target : Datum} (htarget : IsName target) (he : BuildsExpr e) :
    BuildsExpr (.walrus target e i) := by
  obtain ⟨target, hne, rfl⟩ := htarget
  intro ws hws
  rw [exprBlock]
  refine yields_newBlock hws (by decide) (by decide) (by simp)
    ((fitting_text ⟨_, rfl⟩ rfl).cons fitting_nil) fun X b ws₁ h₁ ht _ hname => ?_
  refine yields_plug hws.forest h₁ he (fun _ h => h.1) (mem_values h₁ ht (by decide)) rfl
    fun slot₂ ws₂ he' _ h₂ => ?_
  exact yields_finish h₂ ht rfl (reads_walrus ht hname hne he'.2)

/-- A `yield` is built from what builds its value. -/
lemma builds_yield {e : Option Expr} (he : ∀ e' ∈ e, BuildsExpr e') : BuildsExpr (.yield e i) := by
  intro ws hws
  rw [exprBlock]
  refine yields_newBlock hws (by decide) (by decide) (by simp) fitting_nil
    fun X b ws₁ h₁ ht _ _ => ?_
  refine yields_plug hws.forest h₁ (builds_option he) (fun _ h => h.1)
    (mem_values h₁ ht (by decide)) rfl fun slot₂ ws₂ he' _ h₂ => ?_
  exact yields_finish h₂ ht rfl (reads_yield ht he'.2)

/-- A `yield from` is built from what builds its source. -/
lemma builds_yieldFrom {e : Expr} (he : BuildsExpr e) : BuildsExpr (.yieldFrom e i) := by
  intro ws hws
  rw [exprBlock]
  refine yields_newBlock hws (by decide) (by decide) (by simp) fitting_nil
    fun X b ws₁ h₁ ht _ _ => ?_
  refine yields_plug hws.forest h₁ he (fun _ h => h.1) (mem_values h₁ ht (by decide)) rfl
    fun slot₂ ws₂ he' _ h₂ => ?_
  exact yields_finish h₂ ht rfl (reads_yieldFrom ht he'.2)

/-- An `await` is built from what builds its operand. -/
lemma builds_await {e : Expr} (he : BuildsExpr e) : BuildsExpr (.await e i) := by
  intro ws hws
  rw [exprBlock]
  refine yields_newBlock hws (by decide) (by decide) (by simp) fitting_nil
    fun X b ws₁ h₁ ht _ _ => ?_
  refine yields_plug hws.forest h₁ he (fun _ h => h.1) (mem_values h₁ ht (by decide)) rfl
    fun slot₂ ws₂ he' _ h₂ => ?_
  exact yields_finish h₂ ht rfl (reads_await ht he'.2)

/-! ## Items -/

/-- Plugs expressions into slots with an index: every slot then holds a tree with the property that
building its expression gives. -/
lemma yields_plugEach {α : Type} {done : α → Workspace → Prop} {ws₀ ws : Workspace} {X : BlockId}
    {b : Block} {slot : String → BlockTree} {stem : String} {es : List Expr} {f : Edit α}
    {good : Expr → BlockTree → Prop} (h₀ : ws₀.Forest) (h : Opened ws₀ ws X b slot)
    (hes : ∀ e ∈ es, Builds (exprBlock e) (good e)) (hvalue : ∀ e t, good e t → IsValue t)
    (hs : ∀ j < es.length, s!"{stem}{j}" ∈ b.values)
    (hempty : ∀ j < es.length, slot s!"{stem}{j}" = .nothing)
    (hf : ∀ b' slot' ws', (∀ j (hj : j < es.length), good es[j] (slot' s!"{stem}{j}")) →
      Keeps (fun s => ∀ j : ℕ, s ≠ s!"{stem}{j}") b slot b' slot' →
      Opened ws₀ ws' X b' slot' → Yields f ws' done) :
    Yields (do plugAll X stem 0 es; f) ws done := by
  refine yields_ownLoop (fun i s => s = s!"{stem}{i}")
    (fun i b slot => s!"{stem}{i}" ∈ b.values ∧ slot s!"{stem}{i}" = .nothing)
    (fun i e _ slot => good e (slot s!"{stem}{i}"))
    (fun i => by rw [plugAll]) (fun i e rest => by rw [plugAll, ← bind_assoc]) ?_ ?_ ?_ ?_ h
    (fun j hj => ⟨hs j hj, hempty j hj⟩) hf
  · rintro i j s rfl hij
    exact indexed_inj_right.mp hij
  · rintro i b slot b' slot' hkeep ⟨hmem, hnone⟩
    exact ⟨hkeep.values _ hmem, by rw [hkeep.slot _ rfl, hnone]⟩
  · intro i e b slot b' slot' hkeep hgood
    rwa [hkeep.slot _ rfl]
  · rintro e he i ws b slot hopen ⟨hmem, hnone⟩
    refine (yields_plugged h₀ hopen (hes e he) (hvalue e) hmem hnone).mono ?_
    rintro _ ws' ⟨slot', hgood, hkeep, hgrove⟩
    exact ⟨b, slot', hgrove, hgood, hkeep⟩

/-- Plugs expressions into slots with an index, which are then read as they were. -/
lemma yields_plugAll {α : Type} {done : α → Workspace → Prop} {ws₀ ws : Workspace} {X : BlockId}
    {b : Block} {slot : String → BlockTree} {stem : String} {es : List Expr} {f : Edit α}
    (h₀ : ws₀.Forest) (h : Opened ws₀ ws X b slot) (hes : ∀ e ∈ es, BuildsExpr e)
    (hs : ∀ j < es.length, s!"{stem}{j}" ∈ b.values)
    (hempty : ∀ j < es.length, slot s!"{stem}{j}" = .nothing)
    (hf : ∀ b' slot' ws', (∀ j (hj : j < es.length), Reads (slot' s!"{stem}{j}") es[j]) →
      Keeps (fun s => ∀ j : ℕ, s ≠ s!"{stem}{j}") b slot b' slot' →
      Opened ws₀ ws' X b' slot' → Yields f ws' done) :
    Yields (do plugAll X stem 0 es; f) ws done :=
  yields_plugEach h₀ h hes (fun _ _ h => h.1) hs hempty fun b' slot' ws' hshows =>
    hf b' slot' ws' fun j hj => (hshows j hj).2

/-- Whole numbers of items give slots for the items. -/
lemma mem_items {ws₀ ws : Workspace} {X : BlockId} {b : Block} {slot : String → BlockTree}
    {t : BlockType} {n : ℕ} (h : Opened ws₀ ws X b slot) (ht : b.type = t)
    (hitems : t = .boolOp ∨ t = .tuple ∨ t = .list ∨ t = .set)
    (hcount : b.field? "item_count" = some (.int n)) : ∀ j < n, s!"ITEM{j}" ∈ b.values := by
  intro j hj
  have hshape : t.shapeFor b.fields = .ok { values := indexed "ITEM" n } := by
    rcases hitems with rfl | rfl | rfl | rfl <;>
      simp [BlockType.shapeFor, countOf_of_entry hcount, bind, Except.bind, pure, Except.pure]
  exact mem_counted h ht hshape (mem_indexed hj)

/-- A boolean operation is built from what builds its operands, however many. -/
lemma builds_boolOp {op : BoolOp} {es : List Expr} (hes : ∀ e ∈ es, BuildsExpr e) :
    BuildsExpr (.boolOp op es i) := by
  intro ws hws
  rw [exprBlock]
  refine yields_newBlock hws (by decide) (by decide) (by simp)
    ((fitting_text (isText_text _) rfl).cons ((fitting_count rfl).cons fitting_nil))
    fun X b ws₁ h₁ ht _ hfs => ?_
  obtain ⟨hop, hcount⟩ := hfs
  refine yields_plugAll hws.forest h₁ hes (mem_items h₁ ht (.inl rfl) hcount) (fun _ _ => rfl)
    fun b₂ slot₂ ws₂ hes' k₂ h₂ => ?_
  have hwordy : ∀ {name : String}, Wordy name → ∀ j : ℕ, name ≠ s!"ITEM{j}" :=
    fun hname j => (indexed_ne hname j).symm
  exact yields_finish h₂ (k₂.type.trans ht) rfl (reads_boolOp (k₂.type.trans ht)
    (k₂.field _ _ (hwordy (by decide)) hop) (k₂.field _ _ (hwordy (by decide)) hcount) hes')

/-- Expressions whose blocks have nothing but items. -/
private lemma builds_items {t : BlockType} {e : Expr} {es : List Expr}
    (hes : ∀ e ∈ es, BuildsExpr e) (hitems : t = .tuple ∨ t = .list ∨ t = .set)
    (hblock : exprBlock e = do
      let id ← newBlock t [("item_count", count es.length)]
      plugAll id "ITEM" 0 es
      return some id)
    (hreads : ∀ {id : BlockId} {b : Block} {kids : String → BlockTree}, b.type = t →
      b.field? "item_count" = some (.int es.length) →
      (∀ j (hj : j < es.length), Reads (kids s!"ITEM{j}") es[j]) →
      Reads (.node id b kids .nothing) e) : BuildsExpr e := by
  intro ws hws
  rw [hblock]
  refine yields_newBlock hws ?_ ?_ (by simp) (Fitting.cons (fitting_count ?_) fitting_nil)
    fun X b ws₁ h₁ ht _ hcount => ?_
  · rcases hitems with rfl | rfl | rfl <;> decide
  · rcases hitems with rfl | rfl | rfl <;> decide
  · rcases hitems with rfl | rfl | rfl <;> rfl
  refine yields_plugAll hws.forest h₁ hes (mem_items h₁ ht (.inr hitems) hcount) (fun _ _ => rfl)
    fun b₂ slot₂ ws₂ hes' k₂ h₂ => ?_
  refine yields_finish h₂ (k₂.type.trans ht) ?_ (hreads (k₂.type.trans ht)
    (k₂.field _ _ (fun j => (indexed_ne (by decide) j).symm) hcount) hes')
  rcases hitems with rfl | rfl | rfl <;> rfl

/-- A tuple is built from what builds its items. -/
lemma builds_tuple {es : List Expr} (hes : ∀ e ∈ es, BuildsExpr e) : BuildsExpr (.tuple es i) :=
  builds_items hes (.inl rfl) (by rw [exprBlock]) reads_tuple

/-- A list is built from what builds its items. -/
lemma builds_list {es : List Expr} (hes : ∀ e ∈ es, BuildsExpr e) : BuildsExpr (.list es i) :=
  builds_items hes (.inr (.inl rfl)) (by rw [exprBlock]) reads_list

/-- A set is built from what builds its items. -/
lemma builds_set {es : List Expr} (hes : ∀ e ∈ es, BuildsExpr e) : BuildsExpr (.set es i) :=
  builds_items hes (.inr (.inr rfl)) (by rw [exprBlock]) reads_set

end BlockText.Edit

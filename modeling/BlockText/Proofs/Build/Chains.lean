import BlockText.Proofs.Build.Calls

/-!
# Chains of statements

The blocks of a statement are single blocks, not connected yet.  Putting them at the end of a chain
one by one gives the chain of a suite.  What follows does not matter for how a block is read, so
each statement adds itself before whatever the rest of the chain is read as.
-/

namespace BlockText.Edit

open Syntax Workspace Compile

attribute [simp] stmtBlocks suiteBlocks optionalSuite elifBlocks elseBlock caseBlocks handlerBlocks

/-! ## Blocks in a row -/

/-- Single trees as one chain, with a rest after them. -/
def chainOf (ts : List BlockTree) (rest : BlockTree) : BlockTree := ts.foldr BlockTree.append rest

@[simp] lemma chainOf_nil (rest : BlockTree) : chainOf [] rest = rest := rfl

@[simp] lemma chainOf_cons (t : BlockTree) (ts : List BlockTree) (rest : BlockTree) :
    chainOf (t :: ts) rest = t.append (chainOf ts rest) := rfl

lemma chainOf_append (ts us : List BlockTree) (rest : BlockTree) :
    chainOf (ts ++ us) rest = chainOf ts (chainOf us rest) := List.foldr_append

/-- The rest can be put after the chain. -/
lemma append_chainOf (ts : List BlockTree) (rest : BlockTree) :
    (chainOf ts .nothing).append rest = chainOf ts rest := by
  induction ts with
  | nil => rfl
  | cons t ts ih => rw [chainOf_cons, BlockTree.append_assoc, ih, chainOf_cons]

/-- The tree is a single block, and a statement. -/
def IsPiece (t : BlockTree) : Prop := ∃ X b slot, t = .node X b slot .nothing ∧ b.isStatement

lemma isChain_chainOf {ts : List BlockTree} (hts : ∀ t ∈ ts, IsPiece t) {rest : BlockTree}
    (hrest : rest.IsChain) : (chainOf ts rest).IsChain := by
  induction ts with
  | nil => exact hrest
  | cons t ts ih =>
    obtain ⟨X, b, slot, rfl, hb⟩ := hts t List.mem_cons_self
    exact ⟨hb, ih fun u hu => hts u (List.mem_cons_of_mem _ hu)⟩

/-- The chain with a block after it starts where it started, and ends with that block. -/
lemma ends_of_append_piece {T : BlockTree} (hT : T ≠ .nothing) (X : BlockId) (b : Block)
    (slot : String → BlockTree) :
    (T.append (.node X b slot .nothing)).root? = T.root? ∧
      (T.append (.node X b slot .nothing)).last? = some X := by
  induction T with
  | nothing => exact absurd rfl hT
  | node id c kids next _ ih =>
    refine ⟨rfl, ?_⟩
    rcases eq_or_ne next .nothing with rfl | hnext
    · rfl
    · have hne : next.append (.node X b slot .nothing) ≠ .nothing := by
        cases next with
        | nothing => exact absurd rfl hnext
        | node => exact fun h => by cases h
      rw [BlockTree.append, BlockTree.last?_node_of_ne hne, (ih hnext).2]

variable {ws₀ ws : Workspace} {X : BlockId} {b : Block} {slot : String → BlockTree} {depth : ℤ}

/-- Single blocks go to the end of a chain one after another. -/
lemma yields_appendBlocks {T : BlockTree} {ts : List BlockTree} (h₀ : ws₀.Forest)
    (h : Grove ws₀ ws (T :: ts)) (hT : T.IsChain) (hts : ∀ t ∈ ts, IsPiece t) :
    Yields (appendBlocks T.root? T.last? (roots ts)) ws fun ends ws' =>
      ends = ((T.append (chainOf ts .nothing)).root?, (T.append (chainOf ts .nothing)).last?) ∧
        Grove ws₀ ws' [T.append (chainOf ts .nothing)] := by
  induction ts generalizing T ws with
  | nil =>
    rw [roots, List.filterMap_nil, appendBlocks, chainOf_nil, BlockTree.append_nothing]
    exact ⟨rfl, h⟩
  | cons t ts ih =>
    obtain ⟨Y, c, kids, rfl, hc⟩ := hts t List.mem_cons_self
    have hrest : ∀ u ∈ ts, IsPiece u := fun u hu => hts u (List.mem_cons_of_mem _ hu)
    have hroots : roots (.node Y c kids .nothing :: ts) = Y :: roots ts :=
      List.filterMap_cons_some rfl
    rw [hroots, chainOf_cons]
    unfold appendBlocks
    cases hlast : T.last? with
    | none =>
      obtain rfl := BlockTree.last?_eq_none.mp hlast
      exact ih (Grove.nothing_iff.mp h) ⟨hc, trivial⟩ hrest
    | some L =>
      have hne : T ≠ .nothing := by
        rintro rfl
        cases hlast
      obtain ⟨hroot, hend⟩ := ends_of_append_piece hne Y c kids
      refine Yields.bind (yields_connectNext h₀ h hT hlast hc) fun _ ws₁ h₁ => ?_
      have hstep := ih h₁ (hT.append ⟨hc, trivial⟩) hrest
      rw [hroot, hend, BlockTree.append_assoc] at hstep
      exact hstep

/-! ## Statements and suites -/

/-- Before anything that is read as statements, the blocks are read as one more statement. -/
def Writes (ts : List BlockTree) (depth : ℤ) (s : Stmt) : Prop :=
  ∀ rest ss, Tells rest depth ss → Tells (chainOf ts rest) depth (s :: ss)

/-- Building the statement gives single blocks with a property. -/
def BuildsPieces (s : Stmt) (good : List BlockTree → Prop) : Prop :=
  ∀ ws, ws.Tidy → Yields (stmtBlocks s) ws fun ids ws' => ∃ ts, ids = roots ts ∧
    (∀ t ∈ ts, IsPiece t) ∧ Grove ws ws' ts ∧ good ts

/-- Building the statement gives blocks that are read as the statement. -/
def BuildsStmt (depth : ℤ) (s : Stmt) : Prop :=
  ∀ ws, ws.Tidy → Yields (stmtBlocks s) ws fun ids ws' => ∃ ts, ids = roots ts ∧
    (∀ t ∈ ts, IsPiece t) ∧ Grove ws ws' ts ∧ Writes ts depth s

/-- A chain with a property that belongs to the statements. -/
def SuiteOf (whole : List Stmt → BlockTree → Prop) (ss : List Stmt) (t : BlockTree) : Prop :=
  t.IsChain ∧ whole ss t

/-- A chain with a property that belongs to the statements of a suite that may be missing. -/
def OptionalOf (whole : List Stmt → BlockTree → Prop) (o : Option (Suite Stmt)) (t : BlockTree) :
    Prop :=
  t.IsChain ∧
    match o with
    | some body => whole body.statements t
    | none => t = .nothing

/-- A chain that shows statements. -/
abbrev ShowsSuite (depth : ℤ) : List Stmt → BlockTree → Prop :=
  SuiteOf fun ss t => Tells t depth ss

section Suites

variable {piece : Stmt → List BlockTree → Prop} {whole : List Stmt → BlockTree → Prop}
  {ss : List Stmt}

/-- Statements are built at the end of a chain one after another. -/
private lemma yields_suiteBlocks (hnil : whole [] .nothing)
    (hcons : ∀ s rest ts u, piece s ts → whole rest u → whole (s :: rest) (chainOf ts u))
    (hss : ∀ s ∈ ss, BuildsPieces s (piece s)) {T : BlockTree} (h₀ : ws₀.Forest)
    (h : Grove ws₀ ws [T]) (hT : T.IsChain) :
    Yields (suiteBlocks T.root? T.last? ss) ws fun o ws' => ∃ u, o = (T.append u).root? ∧
      Grove ws₀ ws' [T.append u] ∧ u.IsChain ∧ whole ss u := by
  induction ss generalizing T ws with
  | nil =>
    rw [suiteBlocks]
    refine ⟨.nothing, ?_, ?_, trivial, hnil⟩
    · rw [BlockTree.append_nothing]
    · rwa [BlockTree.append_nothing]
  | cons s rest ih =>
    rw [suiteBlocks]
    refine Yields.bind (hss s List.mem_cons_self ws h.tidy) ?_
    rintro _ ws₁ ⟨ts, rfl, hts, h₁, hpiece⟩
    refine Yields.bind (yields_appendBlocks h₀ (h.trans h₁) hT hts) ?_
    rintro _ ws₂ ⟨rfl, h₂⟩
    have hchain : (T.append (chainOf ts .nothing)).IsChain :=
      hT.append (isChain_chainOf hts trivial)
    refine (ih (fun s' hs' => hss s' (List.mem_cons_of_mem _ hs')) h₂ hchain).mono ?_
    rintro _ ws' ⟨u, rfl, h', hu, hrest⟩
    have hmove : (T.append (chainOf ts .nothing)).append u = T.append (chainOf ts u) := by
      rw [BlockTree.append_assoc, append_chainOf]
    rw [hmove] at h' ⊢
    exact ⟨chainOf ts u, rfl, h', isChain_chainOf hts hu, hcons s rest ts u hpiece hrest⟩

/-- Statements are built as a chain, with what their blocks give together. -/
lemma builds_suiteBlocks (piece : Stmt → List BlockTree → Prop)
    (whole : List Stmt → BlockTree → Prop) (hnil : whole [] .nothing)
    (hcons : ∀ s rest ts u, piece s ts → whole rest u → whole (s :: rest) (chainOf ts u))
    (hss : ∀ s ∈ ss, BuildsPieces s (piece s)) :
    Builds (suiteBlocks none none ss) (SuiteOf whole ss) := by
  intro ws hws
  have hnothing : Grove ws ws [.nothing] := Grove.nothing_iff.mpr (.refl hws)
  exact yields_suiteBlocks (T := .nothing) hnil hcons hss hws.forest hnothing trivial

end Suites

/-- Statements are built as a chain. -/
lemma builds_suite {ss : List Stmt} (hss : ∀ s ∈ ss, BuildsStmt depth s) :
    Builds (suiteBlocks none none ss) (ShowsSuite depth ss) := by
  refine builds_suiteBlocks (fun s ts => Writes ts depth s) (fun ss u => Tells u depth ss)
    tells_nothing ?_ hss
  exact fun s rest ts u hwrites htells => hwrites u rest htells

/-- Suites that may be missing are built like those that are there. -/
lemma builds_optionalSuite {whole : List Stmt → BlockTree → Prop} {o : Option (Suite Stmt)}
    (h : ∀ body ∈ o, Builds (suiteBlocks none none body.statements)
      (SuiteOf whole body.statements)) :
    Builds (optionalSuite o) (OptionalOf whole o) := by
  cases o with
  | none =>
    intro ws hws
    rw [optionalSuite]
    exact ⟨.nothing, rfl, Grove.nothing_iff.mpr (.refl hws), trivial, rfl⟩
  | some body =>
    obtain ⟨ss, level⟩ := body
    rw [optionalSuite]
    exact h _ rfl

/-! ## Steps -/

/-- Statements that an edit builds are put into a slot. -/
lemma yields_filled {x : Edit (Option BlockId)} {good : BlockTree → Prop} {s : String}
    (h₀ : ws₀.Forest) (h : Opened ws₀ ws X b slot) (hx : Builds x good)
    (hchain : ∀ t, good t → t.IsChain) (hs : s ∈ b.statements) (hempty : slot s = .nothing) :
    Yields (do fill X s (← x)) ws fun _ ws' => ∃ slot', good (slot' s) ∧
      Keeps (· ≠ s) b slot b slot' ∧ Opened ws₀ ws' X b slot' := by
  refine Yields.bind (hx ws h.tidy) ?_
  rintro _ ws₁ ⟨t, rfl, h₁, ht⟩
  have hboth : Grove ws₀ ws₁ [.node X b slot .nothing, t] := h.trans h₁
  have hfill : Yields (fill X s t.root?) ws₁ fun _ ws' =>
      Opened ws₀ ws' X b (Function.update slot s t) := by
    cases t with
    | nothing =>
      rw [Function.update_eq_self_iff.mpr hempty.symm]
      exact Grove.nothing_iff.mp (hboth.perm (List.Perm.swap _ _ _))
    | node Y c kids after =>
      refine Yields.bind (yields_connectStatement h₀ hboth hs hempty (hchain _ ht).1) ?_
      exact fun _ ws' hgrove => hgrove
  refine hfill.mono fun _ ws' hgrove => ⟨_, ?_, keeps_update b slot s t, hgrove⟩
  rwa [Function.update_self]

/-- Puts statements that an edit builds into a slot and goes on. -/
lemma yields_fill {α : Type} {done : α → Workspace → Prop} {x : Edit (Option BlockId)}
    {good : BlockTree → Prop} {f : Edit α} {s : String} (h₀ : ws₀.Forest)
    (h : Opened ws₀ ws X b slot) (hx : Builds x good) (hchain : ∀ t, good t → t.IsChain)
    (hs : s ∈ b.statements) (hempty : slot s = .nothing)
    (hf : ∀ slot' ws', good (slot' s) → Keeps (· ≠ s) b slot b slot' →
      Opened ws₀ ws' X b slot' → Yields f ws' done) :
    Yields (do fill X s (← x); f) ws done := by
  rw [← bind_assoc]
  refine Yields.bind (yields_filled h₀ h hx hchain hs hempty) ?_
  rintro _ ws' ⟨slot', hgood, hkeep, hgrove⟩
  exact hf slot' ws' hgood hkeep hgrove

/-- Remembering a place in the text changes no block. -/
lemma yields_recordSpan {ts : List BlockTree} (h : Grove ws₀ ws ts) (id : BlockId) (info : Info) :
    Yields (recordSpan id info) ws fun _ ws' => Grove ws₀ ws' ts := by
  unfold recordSpan
  cases info.span with
  | none => exact h
  | some span =>
    rw [Yields, ends_modify]
    have hw := h.tidy.forest
    exact h.congr rfl rfl rfl ⟨hw.ids_nodup, hw.sound, hw.fits, hw.arrives_once, hw.leaves_once,
      hw.acyclic, hw.positions_nodup, hw.positions_iff, hw.selected_has⟩

end BlockText.Edit

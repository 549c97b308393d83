import BlockText.Proofs.Workspace.Cutting
import BlockText.Proofs.Workspace.Heeding

/-!
# Deleting subtrees

Deleting a block goes through what its slots hold, from the list of all statements in all its slots,
and deletes each of these with everything that follows.  A deletion is carried out exactly if no
slot of a block that is to go holds two statements; then these blocks are gone and everything else
is as it was, but for the statement that closes the gap.  Otherwise the deletion is refused when it
comes to a statement that went with the one before it.
-/

namespace BlockText

namespace Workspace

variable {ws ws' ws'' : Workspace} {a id x : BlockId}

/-! ## Outcomes -/

/-- What comes of deleting some blocks one after another, each with everything below it. -/
inductive Felled (ws : Workspace) (ids : List BlockId) :
    Except WorkspaceError Unit → Workspace → Prop
  /-- Everything below the blocks is gone. -/
  | done {ws' : Workspace} (h : ws.Severable ids) (hcleared : Cleared ws ws' (ws.Within ids)) :
    Felled ws ids (.ok ()) ws'
  /-- A block was gone when its turn came. -/
  | missing {ws' : Workspace} (y : BlockId) (h : ¬ ws.Severable ids)
    (hkept : ∀ x, ¬ ws.Within ids x → ws'.block? x = ws.block? x) :
    Felled ws ids (.error (.notFound y)) ws'
  /-- Those who are told of it object. -/
  | fault {ws' : Workspace} (f : Fault) (h : ws.Followed) : Felled ws ids (.error (.fault f)) ws'

namespace Felled

variable {ids : List BlockId} {r : Except WorkspaceError Unit}

/-- First one block is deleted, then the others. -/
lemma cons (ha : ws.Severable [a]) (hcleared : Cleared ws ws' (ws.Below · a))
    (h : ws'.Felled ids r ws'') (hw : ws.Forest) (hw' : ws'.Forest)
    (hfollowed : ws'.Followed → ws.Followed) (horder : ∀ b ∈ ids, ¬ ws.Below a b) :
    ws.Felled (a :: ids) r ws'' := by
  have hiff := severable_cons hw hw' hcleared horder ha
  cases h with
  | done h hcleared' => exact .done (hiff.mp h) (cleared_cons hcleared hcleared')
  | missing y h hkept =>
    refine .missing y (fun hall => h (hiff.mpr hall)) fun x hx => ?_
    rw [within_cons, not_or] at hx
    rw [hkept x fun hwithin => hx.2 ((within_of_cleared hcleared hx.1).mp hwithin),
      hcleared.blocks x hx.1]
  | fault f h => exact .fault f (hfollowed h)

/-- The first block cannot be deleted. -/
lemma error_cons {e : WorkspaceError} (h : ws.Felled [a] (.error e) ws') :
    ws.Felled (a :: ids) (.error e) ws' := by
  cases h with
  | missing y h hkept =>
    refine .missing y (fun hall => h hall.head) fun x hx => hkept x fun hwithin => ?_
    simp only [within_cons, not_within_nil, or_false] at hx hwithin
    exact hx (.inl hwithin)
  | fault f h => exact .fault f h

/-- Deleting first what follows a block and then the block is deleting the block. -/
lemma of_parted (hw : ws.Forest) (hid : ws.has id)
    (h : (ws.parted id).Felled ((ws.next? id).toList ++ [id]) r ws') : ws.Felled [id] r ws' := by
  have hwithin : ∀ x, (ws.parted id).Within ((ws.next? id).toList ++ [id]) x ↔
      ws.Within [id] x := fun x => by simp [← hw.below_iff_parted]
  cases h with
  | done h hcleared =>
    refine .done ((hw.severable_parted hid).mp h) ?_
    have hbelow := hcleared.congr fun x => (hwithin x).trans (by simp : _ ↔ ws.Below x id)
    exact (Cleared.of_parted hw hbelow).congr fun x => by simp
  | missing y h hkept =>
    exact .missing y (fun hall => h ((hw.severable_parted hid).mpr hall))
      fun x hx => hkept x fun hx' => hx ((hwithin x).mp hx')
  | fault f h => exact .fault f ⟨h.muted, h.watched⟩

end Felled

end Workspace

namespace Edit

open Workspace

variable {ws : Workspace} {id : BlockId} {block : Block} {fuel : ℕ}

/-! ## Deleting -/

/-- No operation makes somebody follow the edits. -/
lemma heeds_followed (ws₀ : Workspace) : Heeds fun ws => ws.Followed → ws₀.Followed :=
  heeds_of_congr
    (fun hsame h hws =>
      h ⟨hsame.muted.symm.trans hws.muted, hsame.watched.symm.trans hws.watched⟩)
    (fun _ h hws => h ⟨hws.muted, hws.watched⟩) fun _ _ h hws => h ⟨hws.muted, hws.watched⟩

/-- What holds throughout a deletion. -/
private def Tended (ws₀ ws : Workspace) : Prop :=
  ws.Forest ∧ ws.Measured ∧ (ws.Followed → ws₀.Followed)

private lemma tended_run {ws : Workspace} (hw : ws.Forest) (hmeasured : ws.Measured) (fuel : ℕ)
    (id : BlockId) (heal : Bool) : Tended ws ((deleteWithin fuel id heal).run ws).2 :=
  ⟨(keepsForest_deleteWithin fuel id heal ws hw).run,
    (keepsMeasured_deleteWithin fuel id heal ws hmeasured).run,
    ((heeds_followed ws).deleteWithin fuel id heal).run fun h => h⟩

/-- Deleting the blocks of a list one after another, if deleting a single one does what it should
and none of them is below a later one. -/
private lemma leads_deleteEach
    (hdelete : ∀ (ws : Workspace) (id : BlockId), ws.Forest → ws.Measured →
      Forest.weight ws id < fuel → Leads (deleteWithin fuel id false) ws (ws.Felled [id]))
    (hw : ws.Forest) (hmeasured : ws.Measured) (ids : List BlockId)
    (hfuel : ∀ id ∈ ids, Forest.weight ws id < fuel)
    (horder : ids.Pairwise fun a b => ¬ ws.Below a b) :
    Leads (ids.forM fun id => deleteWithin fuel id false) ws fun r ws' =>
      ws.Felled ids r ws' ∧ Tended ws ws' := by
  induction ids generalizing ws with
  | nil =>
    exact ⟨.done (severable_nil ws) (.of_empty ws fun _ => not_within_nil), hw, hmeasured, id⟩
  | cons a ids ih =>
    change Leads (deleteWithin fuel a false >>= fun _ =>
      ids.forM fun id => deleteWithin fuel id false) ws _
    obtain ⟨hfirst, hrest⟩ := List.pairwise_cons.mp horder
    rw [leads_bind]
    refine ((hdelete ws a hw hmeasured (hfuel a List.mem_cons_self)).and
      (tended_run hw hmeasured fuel a false)).mono ?_
    rintro r ws₁ ⟨hfelled, htended⟩
    cases r with
    | error e => exact ⟨hfelled.error_cons, htended⟩
    | ok _ =>
      obtain ⟨hw₁, hmeasured₁, hfollowed₁⟩ := htended
      obtain ⟨ha, hcleared⟩ : ws.Severable [a] ∧ Cleared ws ws₁ (ws.Below · a) := by
        cases hfelled with
        | done h hcleared => exact ⟨h, hcleared.congr fun x => by simp⟩
      have hhas : ∀ x, ws₁.has x → ws.has x := fun x hx => (hcleared.has_iff.mp hx).1
      refine (ih hw₁ hmeasured₁ (fun b hb => ?_)
        (hrest.imp fun h hb => h (hcleared.below hb))).mono ?_
      · exact (Forest.weight_mono hhas hcleared.subset b).trans_lt
          (hfuel b (List.mem_cons_of_mem a hb))
      · rintro r ws₂ ⟨hfelled, hw₂, hmeasured₂, hfollowed₂⟩
        exact ⟨.cons ha hcleared hfelled hw hw₁ hfollowed₁ hfirst, hw₂, hmeasured₂,
          fun h => hfollowed₁ (hfollowed₂ h)⟩

/-- Deletes what the slots of a block hold, and the block. -/
private def uproot (fuel : ℕ) (id : BlockId) (block : Block) : Edit Unit := do
  ((← get).slotChildren id block).forM fun child => deleteWithin fuel child false
  remove id
  fire .delete (some id)

/-- Puts what followed a block where the block was. -/
private def reattach (heal : Bool) (follower : Option BlockId) (above : Option Edge) : Edit Unit :=
  if let (true, some next, some e) := (heal, follower, above) then
    addEdge (.ofStatement e.source e.sourcePort next)
  else pure ()

/-- A block that nothing follows is deleted with what its slots hold, or it stays. -/
private lemma leads_uproot
    (hdelete : ∀ (ws : Workspace) (id : BlockId), ws.Forest → ws.Measured →
      Forest.weight ws id < fuel → Leads (deleteWithin fuel id false) ws (ws.Felled [id]))
    (hw : ws.Forest) (hmeasured : ws.Measured) (hb : ws.block? id = some block)
    (hend : ∀ e ∈ ws.edges, e.holder = id → e.slot ≠ "next")
    (hfuel : Forest.weight ws id < fuel + 1) :
    Leads (uproot fuel id block) ws fun r ws' =>
      ws.Felled [id] r ws' ∧ ∀ y, r = .error (.notFound y) → ws'.has id := by
  have hunder : ∀ c ∈ ws.slotChildren id block, Relation.TransGen (Under ws.edges) c id :=
    fun c hc => hw.under_of_mem_slotChildren (hw.sound id block hb) hc
  have hwithin : ∀ x, ws.Within [id] x ↔ ws.Within (ws.slotChildren id block) x ∨ x = id := by
    intro x
    rw [or_comm, ← hw.below_iff_within hb hend]
    simp
  unfold uproot
  simp only [leads_bind]
  refine leads_get ((leads_deleteEach hdelete hw hmeasured _ (fun c hc => ?_)
    (hw.pairwise_slotChildren hb (hmeasured.of_block? hb))).mono ?_)
  · have := hw.weight_lt_of_transGen (hunder c hc)
    omega
  rintro r ws₁ ⟨hfelled, -, -, hfollowed⟩
  cases hfelled with
  | done h hcleared =>
    have hleaf : ∀ e ∈ ws₁.edges, e.holder ≠ id := by
      intro e he hholder
      obtain ⟨he, hstays⟩ := (hcleared.edges e).mp he
      refine hstays ⟨e.child, ?_, .refl⟩
      exact (hw.mem_slotChildren_iff hb).mpr ⟨e, he, hholder, hend e he hholder, .refl⟩
    have hgone : Cleared ws (ws₁.without id) (ws.Within [id]) :=
      (hcleared.trans (.of_without hleaf)).congr fun x => (hwithin x).symm
    refine leads_modify (leads_fire (fun ws₂ hsame => ⟨.done ?_ (hgone.of_sameGraph hsame), ?_⟩)
      fun hfol f ws₂ _ => ⟨.fault f (hfollowed ⟨hfol.muted, hfol.watched⟩), ?_⟩)
    · exact (hw.severable_slotChildren hb hend).mp h
    · rintro _ ⟨⟩
    · rintro _ ⟨⟩
  | missing y h hkept =>
    refine ⟨.missing y (fun hall => h ((hw.severable_slotChildren hb hend).mpr hall))
      fun x hx => hkept x fun hx' => hx ((hwithin x).mpr (.inl hx')), fun _ _ => ?_⟩
    rw [has_iff_block?, hkept id, ← has_iff_block?]
    · exact has_of_block? hb
    · rintro ⟨c, hc, hbelow⟩
      exact hw.acyclic id (.trans_right hbelow (hunder c hc))
  | fault f h => exact ⟨.fault f h, by rintro _ ⟨⟩⟩

/-- Deleting a block, step by step. -/
private lemma leads_deleteWithin_succ {heal : Bool}
    {P : Except WorkspaceError Unit → Workspace → Prop} (hw : ws.Forest) (hb : ws.block? id = some block)
    (h : Leads ((do
        (if heal then [] else (ws.next? id).toList).forM fun next => deleteWithin fuel next false
        uproot fuel id block) >>= fun _ =>
          reattach heal (ws.next? id) (ws.incoming id "previous").head?) (ws.parted id) P) :
    Leads (deleteWithin (fuel + 1) id heal) ws P := by
  have hnone : ws.next? id = none → ws.outgoing id "next" = [] := by
    intro hnone
    rwa [next?, Option.map_eq_none_iff, List.head?_eq_none_iff] at hnone
  have hfollower : (if block.isStatement then ws.next? id else none) = ws.next? id := by
    split
    · rfl
    · cases hnext : ws.next? id with
      | none => rfl
      | some y =>
        exact absurd (hw.isStatement_of_followed hb hnext) ‹_›
  have hparted : ws.drop (if (ws.next? id).isSome then ws.outgoing id "next" else []) =
      ws.parted id := by
    cases hnext : ws.next? id with
    | none => rw [parted, hnone hnext]; rfl
    | some _ => rfl
  unfold deleteWithin
  simp only [leads_bind]
  refine leads_require (fun b hb' => ?_) fun hmissing => by rw [hb] at hmissing; cases hmissing
  rw [hb, Option.some.injEq] at hb'
  subst hb'
  refine leads_get (leads_modify ?_)
  rw [hfollower, hparted]
  simp only [uproot, reattach, leads_bind] at h
  exact h

/-- What follows a block is deleted, and then the block with what its slots hold. -/
private lemma leads_parted
    (hdelete : ∀ (ws : Workspace) (id : BlockId), ws.Forest → ws.Measured →
      Forest.weight ws id < fuel → Leads (deleteWithin fuel id false) ws (ws.Felled [id]))
    (hw : ws.Forest) (hmeasured : ws.Measured) (hb : ws.block? id = some block)
    (hfuel : Forest.weight ws id < fuel + 1) :
    Leads (do
        (ws.next? id).toList.forM fun next => deleteWithin fuel next false
        uproot fuel id block) (ws.parted id) fun r ws' =>
      ws.Felled [id] r ws' ∧ ∀ y, r = .error (.notFound y) → ws'.has id := by
  suffices h : Leads (do
        (ws.next? id).toList.forM fun next => deleteWithin fuel next false
        uproot fuel id block) (ws.parted id) fun r ws' =>
      (ws.parted id).Felled ((ws.next? id).toList ++ [id]) r ws' ∧
        ∀ y, r = .error (.notFound y) → ws'.has id from
    h.mono fun r ws' ⟨hfelled, hstays⟩ => ⟨hfelled.of_parted hw (has_of_block? hb), hstays⟩
  have hw₁ := hw.parted id
  have hmeasured₁ : (ws.parted id).Measured := hmeasured
  have hsub : (ws.parted id).edges ⊆ ws.edges := (drop_sublist ws _).subset
  have hweight : ∀ x, Forest.weight (ws.parted id) x ≤ Forest.weight ws x :=
    Forest.weight_mono (fun _ h => h) hsub
  have hend : ∀ e ∈ (ws.parted id).edges, e.holder = id → e.slot ≠ "next" :=
    fun e he => (hw.mem_parted_iff.mp he).2
  cases hnext : ws.next? id with
  | none => exact leads_uproot hdelete hw₁ hmeasured₁ hb hend ((hweight id).trans_lt hfuel)
  | some n =>
    have hunder := hw.under_of_next? hnext
    have hfree : ¬ (ws.parted id).Below id n := fun h =>
      hw.not_below_of_under hunder (reflTransGen_mono hsub h)
    have hloose := hw.not_below_parted hnext
    have hlt : Forest.weight ws n < Forest.weight ws id := Forest.weight_lt hw hunder
    rw [leads_bind]
    refine (leads_deleteEach hdelete hw₁ hmeasured₁ [n] (fun c hc => ?_)
      (List.pairwise_singleton _ _)).mono ?_
    · have := hweight n
      rw [List.mem_singleton.mp hc]
      omega
    rintro (e | u) ws₂ ⟨hfelled, hw₂, hmeasured₂, hfollowed⟩
    · refine ⟨hfelled.error_cons, ?_⟩
      rintro y ⟨⟩
      cases hfelled with
      | missing y h hkept =>
        rw [has_iff_block?, hkept id (by simpa using hfree)]
        exact ⟨block, hb⟩
    · obtain ⟨hn, hcleared⟩ : (ws.parted id).Severable [n] ∧
          Cleared (ws.parted id) ws₂ ((ws.parted id).Below · n) := by
        cases hfelled with
        | done h hcleared => exact ⟨h, hcleared.congr fun x => by simp⟩
      have hweight₂ := Forest.weight_mono (fun x hx => (hcleared.has_iff.mp hx).1)
        hcleared.subset id
      refine (leads_uproot hdelete hw₂ hmeasured₂ ((hcleared.blocks id hfree).trans hb)
        (fun e he => hend e (hcleared.subset he))
        ((hweight₂.trans (hweight id)).trans_lt hfuel)).mono ?_
      rintro r ws₃ ⟨hfelled, hstays⟩
      exact ⟨.cons hn hcleared hfelled hw₁ hw₂ hfollowed (by simpa using hloose), hstays⟩

/-- Deleting a block with all that follows. -/
private lemma leads_deleteWithin_false (fuel : ℕ) (ws : Workspace) (id : BlockId) (hw : ws.Forest)
    (hmeasured : ws.Measured) (hfuel : Forest.weight ws id < fuel) :
    Leads (deleteWithin fuel id false) ws (ws.Felled [id]) := by
  induction fuel generalizing ws id with
  | zero => omega
  | succ fuel ih =>
    cases hb : ws.block? id with
    | none =>
      have hmissing : ¬ ws.has id := by
        rw [has_iff_block?, hb]
        simp
      unfold deleteWithin
      rw [leads_bind]
      refine leads_require (fun b hb' => by rw [hb] at hb'; cases hb') fun _ => ?_
      exact .missing id (fun h => hmissing (h.has id List.mem_cons_self)) fun _ _ => rfl
    | some block =>
      refine leads_deleteWithin_succ hw hb ?_
      rw [leads_bind]
      refine (leads_parted ih hw hmeasured hb hfuel).mono ?_
      rintro (e | u) ws' ⟨hfelled, -⟩ <;> exact hfelled

end Edit

/-! ## Reachable workspaces -/

namespace Workspace

variable {ws ws' : Workspace} {id : BlockId} {heal : Bool}

/-- The blocks that are to go with a block: everything below it, but for what follows it if the gap
is to be closed. -/
def Doomed (ws : Workspace) (id : BlockId) (heal : Bool) (x : BlockId) : Prop :=
  if heal then (ws.parted id).Below x id else ws.Below x id

/-- A block is gone with everything that was to go with it, and nothing else has changed but for the
place of what followed it. -/
structure Excised (ws ws' : Workspace) (id : BlockId) (heal : Bool) : Prop where
  gone : ∀ x, ws.Doomed id heal x → ¬ ws'.has x
  /-- All other blocks keep their fields and slots. -/
  blocks : ∀ x, ¬ ws.Doomed id heal x → ws'.block? x = ws.block? x
  positions : ∀ x, ¬ ws.Doomed id heal x → ws'.position x = ws.position x
  selected : ∀ x, ws'.selected = some x ↔ ws.selected = some x ∧ ¬ ws.Doomed id heal x
  /-- All other connections stay, but for the one that holds what follows the block. -/
  edges : ∀ e, ¬ (heal = true ∧ ws.next? id = some e.child) →
    (e ∈ ws'.edges ↔ e ∈ ws.edges ∧ ¬ ws.Doomed id heal e.child)
  /-- What followed the block is where the block was, or is held by nothing if the block was. -/
  follower : ∀ next, heal = true → ws.next? id = some next →
    ws'.parent? next = ws.parent? id ∧ ws'.parentSlot? next = ws.parentSlot? id

/-- What comes of deleting a block. -/
inductive Deletion (ws : Workspace) (id : BlockId) (heal : Bool) :
    Except WorkspaceError Unit → Workspace → Prop
  /-- If no body of a block that is to go has two statements, the block goes. -/
  | done {ws' : Workspace} (hlone : ∀ x, ws.Doomed id heal x → ws.Lone x)
    (h : Excised ws ws' id heal) : Deletion ws id heal (.ok ()) ws'
  /-- If a body has two statements, some block is missing that has gone already, and the block that
  was to be deleted stays. -/
  | missing {ws' : Workspace} (y x : BlockId) (hx : ws.Doomed id heal x) (hlone : ¬ ws.Lone x)
    (hid : ws'.has id) : Deletion ws id heal (.error (.notFound y)) ws'
  /-- Those who are told of it object. -/
  | fault {ws' : Workspace} (f : Fault) (h : ws.Followed) :
    Deletion ws id heal (.error (.fault f)) ws'

namespace Forest

variable {block : Block} (hw : ws.Forest)
include hw

/-- What holds a statement is what the connection at its top says. -/
lemma holder_of_isStatement (hb : ws.block? id = some block) (hstmt : block.isStatement) :
    ws.parent? id = (ws.incoming id "previous").head?.map (·.source) ∧
      ws.parentSlot? id = (ws.incoming id "previous").head?.map (·.sourcePort) := by
  have hout : (ws.outgoing id "output").head? = none := by
    rw [Option.eq_none_iff_forall_ne_some]
    intro e he
    obtain ⟨hmem, hstart⟩ := hw.head?_outgoing_iff.mp he
    obtain ⟨rfl, hport⟩ := Port.mk.inj hstart
    obtain ⟨-, -, s, -, hs, -, hexpr, -⟩ :=
      hw.value_cases hmem (hw.kind_of_start_output hmem hport)
    rw [hb, Option.some.injEq] at hs
    subst hs
    simp only [Block.isExpression, Block.isStatement, beq_iff_eq] at hexpr hstmt
    simp [hexpr] at hstmt
  unfold parent? parentSlot?
  cases (ws.incoming id "previous").head? with
  | none => simp [hout]
  | some e => simp

end Forest

/-- The workspace with what followed a block where the block was. -/
def mended (ws ws' : Workspace) (id : BlockId) : Workspace :=
  match ws.next? id, (ws.incoming id "previous").head? with
  | some next, some e => ws'.connect (.ofStatement e.source e.sourcePort next)
  | _, _ => ws'

/-- Closing the gap adds at most a connection. -/
private lemma mended_frame (ws ws' : Workspace) (id : BlockId) :
    (ws.mended ws' id).blocks = ws'.blocks ∧ (ws.mended ws' id).positions = ws'.positions ∧
      (ws.mended ws' id).selected = ws'.selected ∧
      ∀ e, e ∈ (ws.mended ws' id).edges ↔ e ∈ ws'.edges ∨ ∃ next up, ws.next? id = some next ∧
        (ws.incoming id "previous").head? = some up ∧
        e = .ofStatement up.source up.sourcePort next := by
  unfold mended
  cases ws.next? id with
  | none => simp
  | some next =>
    cases (ws.incoming id "previous").head? with
    | none => simp
    | some up => exact ⟨rfl, rfl, rfl, fun e => by simp⟩

/-- The connection that closes the gap is the only one that holds what followed the block. -/
private lemma head?_incoming_mended {mid : Workspace} {next : BlockId} (hw : ws.Forest)
    (hsub : mid.edges ⊆ (ws.parted id).edges) (hforest : (ws.mended mid id).Forest)
    (hnext : ws.next? id = some next) :
    ((ws.mended mid id).incoming next "previous").head? =
      (ws.incoming id "previous").head?.map fun up =>
        .ofStatement up.source up.sourcePort next := by
  obtain ⟨-, -, -, hedges⟩ := mended_frame ws mid id
  cases hup : (ws.incoming id "previous").head? with
  | some up =>
    exact hforest.head?_incoming_iff.mpr ⟨(hedges _).mpr (.inr ⟨_, up, hnext, hup, rfl⟩), rfl⟩
  | none =>
    rw [Option.map_none, Option.eq_none_iff_forall_ne_some]
    intro e he
    obtain ⟨hmem, hstop⟩ := hforest.head?_incoming_iff.mp he
    obtain ⟨rfl, hport⟩ := Port.mk.inj hstop
    have hk := hforest.kind_of_stop_previous hmem hport
    rcases (hedges e).mp hmem with hold | ⟨_, up, -, hsome, -⟩
    · exact hw.not_under_parted hnext ⟨e, hsub hold, by rw [Edge.child, hk], rfl⟩
    · rw [hup] at hsome
      cases hsome

/-- The block is gone with what was to go with it, and the gap is closed. -/
private lemma excised_mended {mid : Workspace} {block : Block} (hw : ws.Forest)
    (hb : ws.block? id = some block)
    (hcleared : Cleared (ws.parted id) mid ((ws.parted id).Below · id))
    (hforest : (ws.mended mid id).Forest) : Excised ws (ws.mended mid id) id true := by
  obtain ⟨hblocks, hpositions, hselected, hedges⟩ := mended_frame ws mid id
  have hcut : ∀ x, ws.Doomed id true x ↔ (ws.parted id).Below x id := fun _ => Iff.rfl
  have hkept : ∀ x, ¬ ws.Doomed id true x → (ws.mended mid id).block? x = ws.block? x := by
    intro x hx
    rw [block?, hblocks]
    exact hcleared.blocks x hx
  refine ⟨fun x hx => ?_, hkept, fun x hx => ?_, fun x => ?_, fun e hfree => ?_,
    fun next _ hnext => ?_⟩
  · rw [has, hblocks]
    exact hcleared.gone x hx
  · rw [position, hpositions]
    exact hcleared.positions x hx
  · rw [hselected]
    exact hcleared.selected x
  · rw [hedges, hcleared.edges, hw.mem_parted_iff, hcut]
    constructor
    · rintro (⟨⟨he, -⟩, hstays⟩ | ⟨next, up, hnext, -, rfl⟩)
      · exact ⟨he, hstays⟩
      · exact absurd ⟨rfl, hnext⟩ hfree
    · rintro ⟨he, hstays⟩
      refine .inl ⟨⟨he, fun hholder hslot => hfree ⟨rfl, ?_⟩⟩, hstays⟩
      exact hw.next?_eq_some_iff.mpr ⟨e, he, rfl, hholder, hslot⟩
  · obtain ⟨f, hf, hfk, -, rfl⟩ := hw.statement_of_next? hnext
    obtain ⟨-, -, -, nb, -, hnb, -, hstmt⟩ := hw.statement_cases hf hfk
    obtain ⟨hparent, hslot⟩ := hw.holder_of_isStatement hb (hw.isStatement_of_followed hb hnext)
    obtain ⟨hparent', hslot'⟩ := hforest.holder_of_isStatement
      ((hkept _ (hw.not_below_parted hnext)).trans hnb) hstmt
    rw [hparent, hslot, hparent', hslot',
      head?_incoming_mended hw hcleared.subset hforest hnext, Option.map_map, Option.map_map]
    exact ⟨rfl, rfl⟩

section Deletion

variable {block : Block} (hw : ws.Forest) (hmeasured : ws.Measured)
  (hb : ws.block? id = some block)

include hw hmeasured hb

/-- A block goes with everything that follows it. -/
private lemma deletion_without_healing :
    Edit.Leads (Edit.delete id false) ws (Deletion ws id false) := by
  have hfuel : Forest.weight ws id < ws.blocks.length + 1 :=
    Nat.lt_succ_of_le (Forest.weight_le ws id)
  unfold Edit.delete
  rw [Edit.leads_bind]
  refine Edit.leads_get (Edit.leads_deleteWithin_succ hw hb ?_)
  rw [Edit.leads_bind]
  refine (Edit.leads_parted (Edit.leads_deleteWithin_false _) hw hmeasured hb hfuel).mono ?_
  rintro (e | u) ws' ⟨hfelled, hstays⟩
  · cases hfelled with
    | missing y h _ =>
      rw [severable_singleton] at h
      push Not at h
      obtain ⟨x, hx, hlone⟩ := h (has_of_block? hb)
      exact .missing y x hx hlone (hstays y rfl)
    | fault f h => exact .fault f h
  · cases hfelled with
    | done h hcleared =>
      have hcleared := hcleared.congr fun x => (by simp : _ ↔ ws.Below x id)
      exact .done (severable_singleton.mp h).2 ⟨hcleared.gone, hcleared.blocks,
        hcleared.positions, hcleared.selected, fun e _ => hcleared.edges e, fun _ h => by cases h⟩

/-- A block goes, and what follows it takes its place. -/
private lemma deletion_with_healing : Edit.Leads (Edit.delete id true) ws fun r ws' =>
    ws'.Forest → Deletion ws id true r ws' := by
  have hbelow : ∀ x, (ws.parted id).Below x id → ws.Below x id := fun x =>
    reflTransGen_mono (drop_sublist ws _).subset
  have hfuel : Forest.weight (ws.parted id) id < ws.blocks.length + 1 :=
    Nat.lt_succ_of_le (Forest.weight_le (ws.parted id) id)
  unfold Edit.delete
  rw [Edit.leads_bind]
  refine Edit.leads_get (Edit.leads_deleteWithin_succ hw hb ?_)
  rw [Edit.leads_bind]
  refine (Edit.leads_uproot (Edit.leads_deleteWithin_false _) (hw.parted id) hmeasured hb
    (fun e he => (hw.mem_parted_iff.mp he).2) hfuel).mono ?_
  rintro (e | u) ws' ⟨hfelled, hstays⟩
  · intro _
    cases hfelled with
    | missing y h _ =>
      rw [severable_singleton] at h
      push Not at h
      obtain ⟨x, hx, hlone⟩ := h (has_of_block? hb)
      exact .missing y x hx (fun h => hlone ((hw.lone_parted_iff (hbelow x hx)).mpr h))
        (hstays y rfl)
    | fault f h => exact .fault f ⟨h.muted, h.watched⟩
  · cases hfelled with
    | done h hcleared =>
      have hcleared := hcleared.congr fun x => (by simp : _ ↔ (ws.parted id).Below x id)
      have hlone : ∀ x, ws.Doomed id true x → ws.Lone x := fun x hx =>
        (hw.lone_parted_iff (hbelow x hx)).mp ((severable_singleton.mp h).2 x hx)
      have hmended : Edit.Leads (Edit.reattach true (ws.next? id)
          (ws.incoming id "previous").head?) ws' fun r ws₁ =>
          r = .ok () ∧ ws₁ = ws.mended ws' id := by
        unfold Edit.reattach mended
        cases ws.next? id <;> cases (ws.incoming id "previous").head? <;> exact ⟨rfl, rfl⟩
      refine hmended.mono ?_
      rintro _ _ ⟨rfl, rfl⟩ hforest
      exact .done hlone (excised_mended hw hb hcleared hforest)

end Deletion

/-- Deleting a block of a reachable workspace takes out exactly the block and what is to go with it,
and closes the gap if it is to, unless a block that is to go has two statements in one body.  Then
the deletion is refused and the block stays. -/
theorem delete_excises (hws : ws.Reachable) (hid : ws.has id) (heal : Bool) :
    Deletion ws id heal ((Edit.delete id heal).run ws).1 ((Edit.delete id heal).run ws).2 := by
  obtain ⟨block, hb⟩ := has_iff_block?.mp hid
  cases heal with
  | false => exact deletion_without_healing hws.forest hws.measured hb
  | true =>
    exact deletion_with_healing hws.forest hws.measured hb
      (Edit.keepsForest_delete id true ws hws.forest).run

/-- A loop with one statement in its body between two statements. -/
def oneBody : Workspace :=
  Operation.applyAll {} [.create "stmt_pass" (some "first") {},
    .create "stmt_while" (some "loop") {}, .create "expr_none" (some "condition") {},
    .create "stmt_break" (some "body") {}, .create "stmt_pass" (some "last") {},
    .connectNext "first" "loop", .connectNext "loop" "last",
    .connectValue "loop" "COND" "condition", .connectStatement "loop" "BODY" "body"]

/-- The loop goes with its condition and its body, and the statements around it come together. -/
theorem delete_excises_oneBody : oneBody.Reachable ∧ oneBody.has "loop" ∧
    ∃ ws', (Edit.delete "loop").run oneBody = (.ok (), ws') ∧ Excised oneBody ws' "loop" true ∧
      ws'.ids = ["first", "last"] ∧ ws'.next? "first" = some "last" := by
  have hreachable : oneBody.Reachable := ⟨false, 0, _, rfl⟩
  have hhas : oneBody.has "loop" := by decide +kernel
  have hdeletion := delete_excises hreachable hhas true
  have hok : ((Edit.delete "loop").run oneBody).1.isOk = true := by decide +kernel
  have hids : ((Edit.delete "loop").run oneBody).2.ids = ["first", "last"] := by decide +kernel
  have hnext : ((Edit.delete "loop").run oneBody).2.next? "first" = some "last" := by
    decide +kernel
  rcases hrun : (Edit.delete "loop").run oneBody with ⟨_ | _, ws'⟩
  · rw [hrun] at hok
    cases hok
  · rw [hrun] at hdeletion hids hnext
    cases hdeletion with
    | done hlone h => exact ⟨hreachable, hhas, ws', rfl, h, hids, hnext⟩

end Workspace

end BlockText

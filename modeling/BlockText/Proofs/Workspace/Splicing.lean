import BlockText.Proofs.Workspace.Passages
import BlockText.Proofs.Workspace.Refusals

/-!
# Moving chains

A chain of statements that is put into a place brings all its statements along, and what was in the
place follows the last of them.  The chain may come from elsewhere or from the very place: nothing
is lost and nothing is there twice.  Every other place keeps its statements up to the chain that was
moved away from it.
-/

namespace BlockText

lemma Edge.ofStatement_inj {a b c d : BlockId} {s t : String} :
    Edge.ofStatement a s c = .ofStatement b t d ↔ a = b ∧ s = t ∧ c = d := by
  simp [Edge.ofStatement]

namespace Workspace

variable {ws ws' : Workspace} {parent child : BlockId} {slot : String}

namespace Forest

/-! ## Places for statements -/

/-- A place for statements holds what a connection puts there. -/
lemma held?_eq_some_iff_mem (hw : ws.Forest) {a c : BlockId} {b : Block} {s : String}
    (hb : ws.block? a = some b) (hs : b.hasStatementSlot s) :
    ws.held? a s = some c ↔ .ofStatement a s c ∈ ws.edges := by
  have hmem : ∀ {c}, ws.held? a s = some c → .ofStatement a s c ∈ ws.edges := by
    intro c h
    obtain ⟨⟨_, _, _, port, kind⟩, he, hk, hstart, rfl⟩ := hw.statement_of_held? hb hs h
    obtain ⟨rfl, rfl⟩ := Port.mk.inj hstart
    obtain rfl : kind = .statement := hk
    obtain rfl : port = "previous" := (hw.statement_cases he rfl).1
    exact he
  refine ⟨hmem, fun h => ?_⟩
  have hout : (ws.outgoing a s).head? = some (.ofStatement a s c) :=
    hw.head?_outgoing_iff.mpr ⟨h, rfl⟩
  obtain ⟨c', hc'⟩ : ∃ c', ws.held? a s = some c' := by
    unfold held?
    cases (ws.incoming a s).head? with
    | some e => exact ⟨_, rfl⟩
    | none => exact ⟨c, by rw [hout]; rfl⟩
  have hsame := hw.eq_of_start (hmem hc') h rfl
  rw [hc', Option.some.injEq]
  exact congrArg Edge.target hsame

/-- A statement is followed by what a connection puts after it. -/
lemma next?_eq_some_iff_mem (hw : ws.Forest) {a c : BlockId} :
    ws.next? a = some c ↔ .ofStatement a "next" c ∈ ws.edges := by
  constructor
  · intro h
    obtain ⟨⟨_, _, _, port, kind⟩, he, hk, hstart, rfl⟩ := hw.statement_of_next? h
    obtain ⟨rfl, rfl⟩ := Port.mk.inj hstart
    obtain rfl : kind = .statement := hk
    obtain rfl : port = "previous" := (hw.statement_cases he rfl).1
    exact he
  · intro h
    exact hw.next?_eq_some_iff.mpr ⟨_, h, rfl, rfl, rfl⟩

/-- What follows a statement is what the place after it holds. -/
lemma held?_next (hw : ws.Forest) {a : BlockId} {b : Block} (hb : ws.block? a = some b)
    (hs : b.hasStatementSlot "next") : ws.held? a "next" = ws.next? a :=
  Option.ext fun _ => by rw [hw.held?_eq_some_iff_mem hb hs, hw.next?_eq_some_iff_mem]

/-- The statements in a place are under the block with the place. -/
lemma under_of_mem_suite (hw : ws.Forest) {a x : BlockId} {b : Block} {s : String}
    (hb : ws.block? a = some b) (hs : b.hasStatementSlot s) (hx : x ∈ ws.suite a s) :
    Relation.TransGen (Under ws.edges) x a := by
  unfold suite at hx
  cases hheld : ws.held? a s with
  | none => simp [hheld] at hx
  | some first =>
    simp only [hheld] at hx
    have hedge := (hw.held?_eq_some_iff_mem hb hs).mp hheld
    have hfollow := (hw.mem_chain_iff (hw.has_child hedge)).mp hx
    exact Relation.TransGen.tail' (hw.under_of_following hfollow) ⟨_, hedge, rfl, rfl⟩

/-- The statements in a place. -/
lemma passes_suite (hw : ws.Forest) {a : BlockId} {b : Block} {s : String}
    (hb : ws.block? a = some b) (hs : b.hasStatementSlot s) :
    Passes ws.next? (ws.held? a s) (ws.suite a s) none := by
  unfold suite
  cases hheld : ws.held? a s with
  | none => rfl
  | some first =>
    exact hw.passes_chain (hw.has_child ((hw.held?_eq_some_iff_mem hb hs).mp hheld))

/-- A list through which the statements in a place lead. -/
lemma suite_eq_of_passes (hw : ws.Forest) {a : BlockId} {b : Block} {s : String} {as : List BlockId}
    (hb : ws.block? a = some b) (hs : b.hasStatementSlot s)
    (h : Passes ws.next? (ws.held? a s) as none) : ws.suite a s = as :=
  (hw.passes_suite hb hs).unique h

end Forest

/-- The connections with a statement in its new place. -/
lemma mem_placed {e : Edge} : e ∈ (ws.placed parent slot child).edges ↔
    (e ∈ ws.edges ∧ e.stop ≠ ⟨child, "previous"⟩ ∧ e.start ≠ ⟨parent, slot⟩) ∨
      e = .ofStatement parent slot child := by
  rw [placed, edges_connect, List.mem_append, List.mem_singleton, mem_drop_outgoing, loosened,
    mem_drop_incoming, and_assoc]

/-! ## Chains that can be moved -/

/-- The chain that starts at a statement can be put into a place. -/
structure Movable (ws : Workspace) (parent : BlockId) (slot : String) (child : BlockId) : Prop where
  forest : ws.Forest
  place : ∃ p, ws.block? parent = some p ∧ p.hasStatementSlot slot
  statement : ∃ c, ws.block? child = some c ∧ c.isStatement
  free : ¬ ws.Below parent child

namespace Movable

/-- A connection of statements that is not illegal moves a chain. -/
lemma of_legal (hw : ws.Forest) (h : ¬ ws.Illegal parent slot child .statement) :
    ws.Movable parent slot child := by
  simp only [Illegal, not_or, not_not] at h
  obtain ⟨hparent, hchild, hoffers, hplugs, hfree⟩ := h
  obtain ⟨p, hp⟩ := has_iff_block?.mp hparent
  obtain ⟨c, hc⟩ := has_iff_block?.mp hchild
  refine ⟨hw, ⟨p, hp, ?_⟩, ⟨c, hc, ?_⟩, fun h => hfree (hw.climbs_iff_below.mpr h)⟩
  · by_contra hslot
    exact hoffers ⟨p, hp, by simpa [Block.offers] using hslot⟩
  · by_contra hstmt
    exact hplugs ⟨c, hc, by simpa [Block.plugs] using hstmt⟩

section

variable (h : ws.Movable parent slot child)
include h

/-- A chain that can be moved makes no illegal connection. -/
lemma legal : ¬ ws.Illegal parent slot child .statement := by
  obtain ⟨p, hp, hslot⟩ := h.place
  obtain ⟨c, hc, hstmt⟩ := h.statement
  rintro (hparent | hchild | ⟨q, hq, hoffers⟩ | ⟨d, hd, hplugs⟩ | hup)
  · exact hparent (has_of_block? hp)
  · exact hchild (has_of_block? hc)
  · rw [hp, Option.some.injEq] at hq
    subst hq
    cases hslot.symm.trans hoffers
  · rw [hc, Option.some.injEq] at hd
    subst hd
    cases hstmt.symm.trans hplugs
  · exact h.free (h.forest.climbs_iff_below.mp hup)

lemma has_child : ws.has child := by
  obtain ⟨c, hc, -⟩ := h.statement
  exact has_of_block? hc

/-- The statements of the chain follow its first one. -/
lemma passes : Passes ws.next? (some child) (ws.chain child) none :=
  h.forest.passes_chain h.has_child

lemma below {a : BlockId} (ha : a ∈ ws.chain child) : ws.Below a child :=
  h.forest.under_of_following ((h.forest.mem_chain_iff h.has_child).mp ha)

lemma parent_not_mem : parent ∉ ws.chain child := fun hp => h.free (h.below hp)

/-- Nothing in the chain leads back to its first statement. -/
lemma next?_ne {a : BlockId} (ha : a ∈ ws.chain child) : ws.next? a ≠ some child :=
  fun hnext => h.forest.not_below_of_under (h.forest.under_of_next? hnext) (h.below ha)

lemma exists_init : ∃ init, ws.chain child = init ++ [ws.last child] := by
  have hne : ws.chain child ≠ [] := by
    intro hnil
    have hpasses := h.passes
    rw [hnil] at hpasses
    cases hpasses
  refine ⟨(ws.chain child).dropLast, ?_⟩
  rw [last, List.getLastD_eq_getLast?, List.getLast?_eq_getLast_of_ne_nil hne, Option.getD_some,
    List.dropLast_append_getLast]

lemma last_mem : ws.last child ∈ ws.chain child := by
  obtain ⟨init, hinit⟩ := h.exists_init
  rw [hinit]
  exact List.mem_append_right _ (List.mem_singleton_self _)

/-! ## Connections after the move -/

lemma loosened_forest : (ws.loosened child).Forest := h.forest.drop_incoming child "previous"

lemma placed_forest : (ws.placed parent slot child).Forest := by
  obtain ⟨p, hp, hslot⟩ := h.place
  obtain ⟨c, hc, hstmt⟩ := h.statement
  exact h.forest.placed hp hslot hc hstmt h.free

/-- The chain is the same when its first statement is in its new place. -/
lemma chain_placed : (ws.placed parent slot child).chain child = ws.chain child := by
  refine (h.placed_forest.passes_chain h.has_child).unique (h.passes.congr fun a ha => ?_)
  refine Option.ext fun y => ?_
  rw [h.placed_forest.next?_eq_some_iff_mem, h.forest.next?_eq_some_iff_mem, mem_placed]
  constructor
  · rintro (⟨hmem, -⟩ | hnew)
    · exact hmem
    · obtain rfl : a = parent := congrArg Edge.source hnew
      exact absurd ha h.parent_not_mem
  · refine fun hmem => .inl ⟨hmem, fun hstop => ?_, fun hstart => ?_⟩
    · obtain rfl : y = child := congrArg Port.block hstop
      exact h.next?_ne ha (h.forest.next?_eq_some_iff_mem.mpr hmem)
    · obtain rfl : a = parent := congrArg Port.block hstart
      exact h.parent_not_mem ha

/-- What has to make room is what was in the place, unless that is the chain itself. -/
lemma held?_loosened :
    (ws.loosened child).held? parent slot = (ws.held? parent slot).filter (· ≠ child) := by
  obtain ⟨p, hp, hslot⟩ := h.place
  refine Option.ext fun y => ?_
  rw [h.loosened_forest.held?_eq_some_iff_mem hp hslot, Option.filter_eq_some_iff,
    h.forest.held?_eq_some_iff_mem hp hslot, loosened, mem_drop_incoming, decide_eq_true_iff]
  exact and_congr_right fun _ => not_congr ⟨fun hstop => congrArg Port.block hstop, fun hy => by
    rw [hy]; rfl⟩

/-- The connections after the move. -/
lemma mem_joined {e : Edge} : e ∈ (ws.joined parent slot child .statement).edges ↔
    (e ∈ ws.edges ∧ e.stop ≠ ⟨child, "previous"⟩ ∧ e.start ≠ ⟨parent, slot⟩) ∨
      e = .ofStatement parent slot child ∨
      ∃ first, ws.held? parent slot = some first ∧ first ≠ child ∧
        e = .ofStatement (ws.last child) "next" first := by
  have hlast : (ws.placed parent slot child).last child = ws.last child := by
    rw [last, h.chain_placed, ← last]
  have hdisplaced : ∀ first, (ws.loosened child).held? parent slot = some first ↔
      ws.held? parent slot = some first ∧ first ≠ child := fun first => by
    rw [h.held?_loosened, Option.filter_eq_some_iff, decide_eq_true_iff]
  unfold joined
  dsimp only
  cases hheld : (ws.loosened child).held? parent slot with
  | none =>
    have hnone : ¬ ∃ first, ws.held? parent slot = some first ∧ first ≠ child ∧
        e = .ofStatement (ws.last child) "next" first := by
      rintro ⟨first, hfirst, hne, -⟩
      rw [(hdisplaced first).mpr ⟨hfirst, hne⟩] at hheld
      cases hheld
    rw [mem_placed, or_iff_left hnone]
  | some first =>
    obtain ⟨hfirst, hne⟩ := (hdisplaced first).mp hheld
    rw [edges_connect, List.mem_append, List.mem_singleton, mem_placed, hlast, or_assoc]
    refine or_congr_right (or_congr_right ⟨fun he => ⟨first, hfirst, hne, he⟩, ?_⟩)
    rintro ⟨first', hfirst', -, he⟩
    rw [hfirst, Option.some.injEq] at hfirst'
    rw [he, hfirst']

/-- After the move the connections are those of a forest. -/
lemma joined_forest : (ws.joined parent slot child .statement).Forest := by
  have hkeeps : ((Edit.connectStatement parent slot child).run ws).2.Forest :=
    (Edit.keepsForest_connectStatement parent slot child ws h.forest).run
  obtain ⟨e, he, -⟩ | ⟨-, hsame, -⟩ := Edit.leads_joining h.forest parent slot child .statement
  · exact absurd he.illegal h.legal
  · exact .of_sameGraph hsame.symm hkeeps

/-! ## Steps after the move -/

lemma place_joined :
    ∃ p, (ws.joined parent slot child .statement).block? parent = some p ∧
      p.hasStatementSlot slot := by
  rw [joined_eq]
  exact h.place

/-- Connections of statements after the move. -/
lemma statement_mem_joined {a c : BlockId} {s : String} :
    .ofStatement a s c ∈ (ws.joined parent slot child .statement).edges ↔
      (.ofStatement a s c ∈ ws.edges ∧ c ≠ child ∧ ¬ (a = parent ∧ s = slot)) ∨
      (a = parent ∧ s = slot ∧ c = child) ∨
      (a = ws.last child ∧ s = "next" ∧ ws.held? parent slot = some c ∧ c ≠ child) := by
  rw [h.mem_joined]
  simp only [Edge.ofStatement_stop, Edge.ofStatement_start, Edge.ofStatement_inj, Port.mk.injEq,
    and_true, ne_eq]
  refine or_congr_right (or_congr_right ⟨?_, ?_⟩)
  · rintro ⟨first, hfirst, hne, rfl, rfl, rfl⟩
    exact ⟨rfl, rfl, hfirst, hne⟩
  · rintro ⟨rfl, rfl, hc, hne⟩
    exact ⟨c, hc, hne, rfl, rfl, rfl⟩

/-- The chain is in its new place. -/
lemma held?_joined_place :
    (ws.joined parent slot child .statement).held? parent slot = some child := by
  obtain ⟨p, hp, hslot⟩ := h.place_joined
  rw [h.joined_forest.held?_eq_some_iff_mem hp hslot, h.statement_mem_joined]
  exact .inr (.inl ⟨rfl, rfl, rfl⟩)

/-- Every other place holds what it held, unless it held the chain. -/
lemma held?_joined {a : BlockId} {b : Block} {s : String} (hb : ws.block? a = some b)
    (hs : b.hasStatementSlot s) (hplace : ¬ (a = parent ∧ s = slot))
    (hlast : ¬ (a = ws.last child ∧ s = "next")) :
    (ws.joined parent slot child .statement).held? a s = (ws.held? a s).filter (· ≠ child) := by
  have hb' : (ws.joined parent slot child .statement).block? a = some b := by
    rw [joined_eq]
    exact hb
  refine Option.ext fun c => ?_
  rw [h.joined_forest.held?_eq_some_iff_mem hb' hs, h.statement_mem_joined,
    Option.filter_eq_some_iff, h.forest.held?_eq_some_iff_mem hb hs, decide_eq_true_iff]
  constructor
  · rintro (⟨hmem, hc, -⟩ | ⟨ha, hs, -⟩ | ⟨ha, hs, -⟩)
    · exact ⟨hmem, hc⟩
    · exact absurd ⟨ha, hs⟩ hplace
    · exact absurd ⟨ha, hs⟩ hlast
  · exact fun ⟨hmem, hc⟩ => .inl ⟨hmem, hc, hplace⟩

/-- Every other statement is followed by what followed it, unless that was the chain. -/
lemma next?_joined {a : BlockId} (hplace : ¬ (a = parent ∧ slot = "next"))
    (hlast : a ≠ ws.last child) :
    (ws.joined parent slot child .statement).next? a = (ws.next? a).filter (· ≠ child) := by
  refine Option.ext fun c => ?_
  rw [h.joined_forest.next?_eq_some_iff_mem, h.statement_mem_joined,
    Option.filter_eq_some_iff, h.forest.next?_eq_some_iff_mem, decide_eq_true_iff]
  constructor
  · rintro (⟨hmem, hc, -⟩ | ⟨ha, hs, -⟩ | ⟨ha, -⟩)
    · exact ⟨hmem, hc⟩
    · exact absurd ⟨ha, hs.symm⟩ hplace
    · exact absurd ha hlast
  · exact fun ⟨hmem, hc⟩ => .inl ⟨hmem, hc, fun ⟨ha, hs⟩ => hplace ⟨ha, hs.symm⟩⟩

/-- What made room follows the last statement of the chain. -/
lemma next?_joined_last : (ws.joined parent slot child .statement).next? (ws.last child) =
    (ws.held? parent slot).filter (· ≠ child) := by
  refine Option.ext fun c => ?_
  rw [h.joined_forest.next?_eq_some_iff_mem, h.statement_mem_joined, Option.filter_eq_some_iff,
    decide_eq_true_iff, ← h.forest.next?_eq_some_iff_mem, h.forest.next?_last h.has_child]
  constructor
  · rintro (⟨hmem, -⟩ | ⟨hp, -⟩ | ⟨-, -, hheld⟩)
    · cases hmem
    · exact absurd (hp ▸ h.last_mem) h.parent_not_mem
    · exact hheld
  · exact fun hheld => .inr (.inr ⟨rfl, rfl, hheld⟩)

/-! ## Chains after the move -/

/-- Statements before the chain in some place are not in the chain. -/
lemma not_mem_of_takeWhile {a x : BlockId} {b : Block} {s : String} (hb : ws.block? a = some b)
    (hs : b.hasStatementSlot s) (hport : ¬ (a ∈ ws.chain child ∧ s = "next"))
    (hx : x ∈ (ws.suite a s).takeWhile (· ≠ child)) : x ∉ ws.chain child := by
  -- A statement of the chain that is not its first follows one of the chain.
  have hbefore : ∀ y, y ≠ child → y ∈ ws.chain child →
      ∃ z ∈ ws.chain child, .ofStatement z "next" y ∈ ws.edges := by
    intro y hy hmem
    rcases h.passes.head_or_after hmem with heq | ⟨z, hz, hnext⟩
    · exact absurd (Option.some.inj heq).symm hy
    · exact ⟨z, hz, h.forest.next?_eq_some_iff_mem.mp hnext⟩
  refine (h.forest.passes_suite hb hs).forall_takeWhile (P := (· ∉ ws.chain child)) child
    (fun y hheld hy hmem => ?_) (fun z y hz hnext hy hmem => ?_) x hx
  · obtain ⟨z, hz, hnext⟩ := hbefore y hy hmem
    have hsame := h.forest.eq_of_stop hnext ((h.forest.held?_eq_some_iff_mem hb hs).mp hheld) rfl
    obtain ⟨rfl, rfl⟩ := Port.mk.inj (congrArg Edge.start hsame)
    exact hport ⟨hz, rfl⟩
  · obtain ⟨z', hz', hnext'⟩ := hbefore y hy hmem
    have hsame := h.forest.eq_of_stop hnext' (h.forest.next?_eq_some_iff_mem.mp hnext) rfl
    have hz'z : z' = z := congrArg Edge.source hsame
    exact hz (hz'z ▸ hz')

/-- The statements before the chain in some place are followed as before, up to the chain. -/
lemma passes_takeWhile {a : BlockId} {b : Block} {s : String} (hb : ws.block? a = some b)
    (hs : b.hasStatementSlot s) (hport : ¬ (a ∈ ws.chain child ∧ s = "next"))
    (hparent : slot = "next" → parent ∉ ws.suite a s) :
    Passes (ws.joined parent slot child .statement).next? ((ws.held? a s).filter (· ≠ child))
      ((ws.suite a s).takeWhile (· ≠ child)) none := by
  refine ((h.forest.passes_suite hb hs).cut child).congr fun x hx => ?_
  refine h.next?_joined (fun ⟨hp, hnext⟩ => ?_) fun hlast => ?_
  · exact hparent hnext (hp ▸ (List.takeWhile_prefix _).subset hx)
  · exact h.not_mem_of_takeWhile hb hs hport hx (hlast ▸ h.last_mem)

/-- A block is not in a place of its own. -/
lemma parent_not_mem_suite : parent ∉ ws.suite parent slot := by
  obtain ⟨p, hp, hslot⟩ := h.place
  exact fun hmem => h.forest.acyclic parent (h.forest.under_of_mem_suite hp hslot hmem)

/-- In its new place the chain comes first, and what was there before it follows. -/
lemma suite_joined : (ws.joined parent slot child .statement).suite parent slot =
    ws.chain child ++ (ws.suite parent slot).takeWhile (· ≠ child) := by
  obtain ⟨p, hp, hslot⟩ := h.place
  obtain ⟨p', hp', hslot'⟩ := h.place_joined
  obtain ⟨init, hinit⟩ := h.exists_init
  refine h.joined_forest.suite_eq_of_passes hp' hslot' ?_
  rw [h.held?_joined_place]
  refine Passes.append.mpr ⟨_, ?_, h.passes_takeWhile hp hslot (fun hmem => h.parent_not_mem hmem.1)
    fun _ => h.parent_not_mem_suite⟩
  have hpasses := h.passes
  rw [hinit] at hpasses ⊢
  obtain ⟨hhead, -⟩ := hpasses.of_append_cons
  refine Passes.append.mpr ⟨_, hhead.congr fun x hx => ?_, rfl, h.next?_joined_last⟩
  -- Within the chain nothing changes: no step leads to its first statement.
  have hmem : x ∈ ws.chain child := by rw [hinit]; exact List.mem_append_left _ hx
  obtain ⟨y, hy⟩ := hhead.exists_step hx
  rw [h.next?_joined, hy, Option.filter_some, if_pos]
  · rw [decide_eq_true_iff]
    rintro rfl
    exact h.next?_ne hmem hy
  · rintro ⟨rfl, -⟩
    exact h.parent_not_mem hmem
  · rintro rfl
    rw [h.forest.next?_last h.has_child] at hy
    cases hy

/-- A place with the chain in it has the chain as its end. -/
lemma suite_eq_append {a : BlockId} {b : Block} {s : String} (hb : ws.block? a = some b)
    (hs : b.hasStatementSlot s) (hmem : child ∈ ws.suite a s) :
    ws.suite a s = (ws.suite a s).takeWhile (· ≠ child) ++ ws.chain child :=
  (h.forest.passes_suite hb hs).eq_takeWhile_append hmem h.passes

/-- What was in the place before the chain is what is not in the chain. -/
lemma takeWhile_eq_filter : (ws.suite parent slot).takeWhile (· ≠ child) =
    (ws.suite parent slot).filter (· ∉ ws.chain child) := by
  obtain ⟨p, hp, hslot⟩ := h.place
  have hkept : ((ws.suite parent slot).takeWhile (· ≠ child)).filter (· ∉ ws.chain child) =
      (ws.suite parent slot).takeWhile (· ≠ child) := by
    refine List.filter_eq_self.mpr fun x hx => decide_eq_true ?_
    exact h.not_mem_of_takeWhile hp hslot (fun hmem => h.parent_not_mem hmem.1) hx
  by_cases hmem : child ∈ ws.suite parent slot
  · have hnone : (ws.chain child).filter (· ∉ ws.chain child) = [] := by simp
    conv_rhs => rw [h.suite_eq_append hp hslot hmem, List.filter_append, hkept, hnone,
      List.append_nil]
  · have hall : (ws.suite parent slot).takeWhile (· ≠ child) = ws.suite parent slot := by
      refine List.takeWhile_eq_self_iff.mpr fun x hx => decide_eq_true ?_
      rintro rfl
      exact hmem hx
    rw [hall] at hkept
    rw [hall, hkept]

/-- Another place keeps its statements up to the chain. -/
lemma suite_joined_of_ne {a : BlockId} {b : Block} {s : String} (hb : ws.block? a = some b)
    (hs : b.hasStatementSlot s) (hplace : ¬ (a = parent ∧ s = slot))
    (hport : ¬ (a ∈ ws.chain child ∧ s = "next"))
    (hparent : slot = "next" → parent ∉ ws.suite a s) :
    (ws.joined parent slot child .statement).suite a s = (ws.suite a s).takeWhile (· ≠ child) := by
  have hb' : (ws.joined parent slot child .statement).block? a = some b := by
    rw [joined_eq]
    exact hb
  refine h.joined_forest.suite_eq_of_passes hb' hs ?_
  rw [h.held?_joined hb hs hplace fun ⟨ha, hs⟩ => hport ⟨ha ▸ h.last_mem, hs⟩]
  exact h.passes_takeWhile hb hs hport hparent

/-- A chain that goes after a statement is where that statement is. -/
lemma suite_joined_of_mem {a : BlockId} {b : Block} {s : String} (hb : ws.block? a = some b)
    (hs : b.hasStatementSlot s) (hnext : slot = "next") (hmem : parent ∈ ws.suite a s) :
    ∃ before, ws.suite a s = before ++ parent :: ws.suite parent "next" ∧
      (ws.joined parent slot child .statement).suite a s =
        before ++ parent :: (ws.joined parent slot child .statement).suite parent "next" := by
  subst hnext
  obtain ⟨p, hp, hslot⟩ := h.place
  obtain ⟨p', hp', hslot'⟩ := h.place_joined
  have hb' : (ws.joined parent "next" child .statement).block? a = some b := by
    rw [joined_eq]
    exact hb
  obtain ⟨before, after, hsplit, hnot⟩ := List.eq_append_cons_of_mem hmem
  have hpasses := h.forest.passes_suite hb hs
  rw [hsplit] at hpasses
  obtain ⟨hhead, hrest⟩ := hpasses.of_append_cons
  have hafter : after = ws.suite parent "next" := by
    rw [← h.forest.held?_next hp hslot] at hrest
    exact (h.forest.suite_eq_of_passes hp hslot hrest).symm
  have hunder := (h.forest.under_of_mem_suite hb hs hmem).to_reflTransGen
  have hplace : ¬ (a = parent ∧ s = "next") := by
    rintro ⟨rfl, rfl⟩
    exact h.parent_not_mem_suite hmem
  have hlast : ¬ (a = ws.last child ∧ s = "next") := by
    rintro ⟨rfl, -⟩
    exact h.free (hunder.trans (h.below h.last_mem))
  have hchild : child ∉ before := by
    intro hbefore
    obtain ⟨front, back, rfl, -⟩ := List.eq_append_cons_of_mem hbefore
    rw [List.append_assoc, List.cons_append] at hpasses
    have hchain : ws.chain child = child :: (back ++ parent :: after) :=
      h.passes.unique ⟨rfl, hpasses.of_append_cons.2⟩
    exact h.parent_not_mem (by simp [hchain])
  refine ⟨before, hafter ▸ hsplit, h.joined_forest.suite_eq_of_passes hb' hs ?_⟩
  refine Passes.append.mpr ⟨some parent, ?_, rfl, ?_⟩
  · rw [h.held?_joined hb hs hplace hlast]
    refine (hhead.avoid hchild fun heq => ?_).congr fun x hx => h.next?_joined ?_ ?_
    · exact h.free (Option.some.inj heq ▸ .refl)
    · rintro ⟨rfl, -⟩
      exact hnot hx
    · rintro rfl
      obtain ⟨y, hy⟩ := hhead.exists_step hx
      rw [h.forest.next?_last h.has_child] at hy
      cases hy
  · rw [← h.joined_forest.held?_next hp' hslot']
    exact h.joined_forest.passes_suite hp' hslot'

end

end Movable

/-! ## Reachable workspaces -/

/-- What moving a chain of statements to a place does to a workspace. -/
structure Spliced (ws ws' : Workspace) (parent : BlockId) (slot : String) (child : BlockId) :
    Prop where
  /-- The chain is in its new place, and what was there before follows it. -/
  suite : ws'.suite parent slot =
    ws.chain child ++ (ws.suite parent slot).filter (· ∉ ws.chain child)
  /-- A chain that was in the place before was the end of it. -/
  suffix : child ∈ ws.suite parent slot → ws.chain child <:+ ws.suite parent slot
  /-- Another port that held the chain holds nothing. -/
  freed : ∀ a b s, ws.block? a = some b → b.hasStatementSlot s → ¬ (a = parent ∧ s = slot) →
    ws.held? a s = some child → ws'.held? a s = none
  /-- Another place keeps its statements up to the chain. -/
  kept : ∀ a b s, ws.block? a = some b → b.hasStatementSlot s → ¬ (a = parent ∧ s = slot) →
    ¬ (a ∈ ws.chain child ∧ s = "next") → (slot = "next" → parent ∉ ws.suite a s) →
    ws'.suite a s = (ws.suite a s).takeWhile (· ≠ child)
  /-- A place with the statement after which the chain goes keeps its statements up to that one. -/
  through : ∀ a b s, ws.block? a = some b → b.hasStatementSlot s → slot = "next" →
    parent ∈ ws.suite a s → ∃ before, ws.suite a s = before ++ parent :: ws.suite parent "next" ∧
      ws'.suite a s = before ++ parent :: ws'.suite parent "next"
  /-- All other connections stay. -/
  edges : ∀ e, e ∈ ws'.edges ↔
    (e ∈ ws.edges ∧ e.stop ≠ ⟨child, "previous"⟩ ∧ e.start ≠ ⟨parent, slot⟩) ∨
      e = .ofStatement parent slot child ∨
      ∃ first, ws.held? parent slot = some first ∧ first ≠ child ∧
        e = .ofStatement (ws.last child) "next" first
  blocks : ws'.blocks = ws.blocks
  positions : ws'.positions = ws.positions
  selected : ws'.selected = ws.selected

/-- The connections decide what a place holds. -/
lemma held?_of_sameGraph (h : Edit.SameGraph ws ws') : ws'.held? = ws.held? := by
  funext a s
  simp only [held?, incoming, outgoing, h.links]

/-- Blocks and connections decide what is in a place. -/
lemma suite_of_sameGraph (h : Edit.SameGraph ws ws') : ws'.suite = ws.suite := by
  have hnext : ws'.next? = ws.next? := by
    funext a
    simp only [next?, outgoing, h.links]
  have hchain : ws'.chain = ws.chain := by
    funext a
    rw [chain, chain, has, has, hnext, h.blocks]
  funext a s
  rw [suite, suite, held?_of_sameGraph h, hchain]

/-- Moving a chain that can be moved. -/
lemma Movable.spliced (h : ws.Movable parent slot child)
    (hsame : Edit.SameGraph (ws.joined parent slot child .statement) ws') :
    Spliced ws ws' parent slot child where
  suite := by rw [suite_of_sameGraph hsame, h.suite_joined, h.takeWhile_eq_filter]
  suffix hmem := by
    obtain ⟨p, hp, hslot⟩ := h.place
    exact ⟨_, (h.suite_eq_append hp hslot hmem).symm⟩
  freed a b s hb hs hplace hheld := by
    have hlast : ¬ (a = ws.last child ∧ s = "next") := by
      rintro ⟨rfl, rfl⟩
      rw [h.forest.held?_next hb hs, h.forest.next?_last h.has_child] at hheld
      cases hheld
    rw [held?_of_sameGraph hsame, h.held?_joined hb hs hplace hlast, hheld,
      Option.filter_some_neg (by simp)]
  kept a b s hb hs hplace hport hparent := by
    rw [suite_of_sameGraph hsame, h.suite_joined_of_ne hb hs hplace hport hparent]
  through a b s hb hs hnext hmem := by
    rw [suite_of_sameGraph hsame]
    exact h.suite_joined_of_mem hb hs hnext hmem
  edges e := by
    rw [Workspace.edges, hsame.links]
    exact h.mem_joined
  blocks := by rw [hsame.blocks, joined_eq]
  positions := by rw [hsame.positions, joined_eq]
  selected := by rw [hsame.selected, joined_eq]

/-- Whenever a chain of statements is put into a place, it is there with all its statements, what
was in the place follows it, every other place ends just before it, and everything else stays as it
was. -/
theorem connectStatement_splices (hws : ws.Reachable) {e : Edge}
    (hrun : (Edit.connectStatement parent slot child).run ws = (.ok e, ws')) :
    e = .ofStatement parent slot child ∧ Spliced ws ws' parent slot child := by
  have hleads := Edit.leads_joining hws.forest parent slot child .statement
  unfold Edit.Leads Edit.joining at hleads
  rw [hrun] at hleads
  obtain ⟨_, -, herror, -⟩ | ⟨hlegal, hsame, hok | ⟨-, _, herror⟩⟩ := hleads
  · cases herror
  · exact ⟨Except.ok.inj hok, (Movable.of_legal hws.forest hlegal).spliced hsame⟩
  · cases herror

/-- A statement with three others in its body. -/
def fullBody : Workspace :=
  Operation.applyAll {} [.create "stmt_if" (some "outer") {}, .create "stmt_pass" (some "a") {},
    .create "stmt_pass" (some "b") {}, .create "stmt_pass" (some "c") {},
    .connectStatement "outer" "BODY" "a", .connectNext "a" "b", .connectNext "b" "c"]

/-- The second statement of a body goes to its beginning and takes the third one along. -/
theorem connectStatement_splices_fullBody : fullBody.Reachable ∧
    ∃ e ws', (Edit.connectStatement "outer" "BODY" "b").run fullBody = (.ok e, ws') ∧
      Spliced fullBody ws' "outer" "BODY" "b" ∧ ws'.suite "outer" "BODY" = ["b", "c", "a"] := by
  have hreachable : fullBody.Reachable := ⟨false, 0, _, rfl⟩
  have hok : ((Edit.connectStatement "outer" "BODY" "b").run fullBody).1.isOk = true := by
    decide +kernel
  rcases hrun : (Edit.connectStatement "outer" "BODY" "b").run fullBody with ⟨_ | e, ws'⟩
  · rw [hrun] at hok
    cases hok
  · have hspliced := (connectStatement_splices hreachable hrun).2
    have hsuite : fullBody.chain "b" ++
        (fullBody.suite "outer" "BODY").filter (· ∉ fullBody.chain "b") = ["b", "c", "a"] := by
      decide +kernel
    exact ⟨hreachable, e, ws', rfl, hspliced, hspliced.suite.trans hsuite⟩

end Workspace

end BlockText

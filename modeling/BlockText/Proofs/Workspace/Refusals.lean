import BlockText.Proofs.Workspace.Measuring
import BlockText.Proofs.Workspace.Heeding
import BlockText.Proofs.Workspace.Trees

/-!
# Refused connections

A connection is refused when one of its blocks is missing, when the holder has no such place, when
the other block cannot be plugged in there, or when the holder is below that block already.  The
last condition is looked for by a walk upward, and in a forest it holds exactly when the connection
would put a block under itself.  All of this is decided before anything is changed, so a refused
connection leaves no trace.
-/

namespace BlockText

/-! ## Connections of either kind -/

/-- A connection that puts a block into a place of another one. -/
def Edge.joining (parent : BlockId) (slot : String) (child : BlockId) : EdgeKind → Edge
  | .value => .ofValue child parent slot
  | .statement => .ofStatement parent slot child

namespace Block

/-- The block has a place of this name for what such a connection carries. -/
def offers (b : Block) (slot : String) : EdgeKind → Bool
  | .value => b.hasValueSlot slot
  | .statement => b.hasStatementSlot slot

/-- The block can be put into a place by such a connection. -/
def plugs (b : Block) : EdgeKind → Bool
  | .value => b.isExpression
  | .statement => b.isStatement

end Block

namespace Edit

/-- Makes a connection of a kind. -/
def joining (parent : BlockId) (slot : String) (child : BlockId) : EdgeKind → Edit Edge
  | .value => connectValue parent slot child
  | .statement => connectStatement parent slot child

end Edit

/-! ## Reasons -/

namespace WorkspaceError

/-- The reason for which a connection is refused to a block without the place for it. -/
def noPlace (type : BlockType) (slot : String) : EdgeKind → WorkspaceError
  | .value => .noValueSlot type slot
  | .statement => .noStatementSlot type slot

/-- The reason for which a connection is refused to a block that cannot be put into places. -/
def noPlug (type : BlockType) : EdgeKind → WorkspaceError
  | .value => .notPluggable type
  | .statement => .notChainable type

end WorkspaceError

namespace Workspace

/-- Some number of steps upward leads from a block to another one; no step leads to itself. -/
def Climbs (ws : Workspace) (a b : BlockId) : Prop := ∃ n, stepped ws.parent? n a = some b

/-- The connection must not be made. -/
def Illegal (ws : Workspace) (parent : BlockId) (slot : String) (child : BlockId)
    (k : EdgeKind) : Prop :=
  ¬ ws.has parent ∨ ¬ ws.has child ∨
    (∃ p, ws.block? parent = some p ∧ p.offers slot k = false) ∨
    (∃ c, ws.block? child = some c ∧ c.plugs k = false) ∨ ws.Climbs parent child

/-- The connection must not be made, for this reason. -/
inductive Refusal (ws : Workspace) (parent : BlockId) (slot : String) (child : BlockId)
    (k : EdgeKind) : WorkspaceError → Prop
  | noParent (h : ¬ ws.has parent) : Refusal ws parent slot child k (.notFound parent)
  | noChild (h : ¬ ws.has child) : Refusal ws parent slot child k (.notFound child)
  | noPlace {p} (hchild : ws.has child) (hp : ws.block? parent = some p)
    (h : p.offers slot k = false) : Refusal ws parent slot child k (.noPlace p.type slot k)
  | noPlug {c} (hparent : ws.has parent) (hc : ws.block? child = some c)
    (h : c.plugs k = false) : Refusal ws parent slot child k (.noPlug c.type k)
  | cycle (hparent : ws.has parent) (hchild : ws.has child) (h : ws.Climbs parent child) :
    Refusal ws parent slot child k (.cycle child parent)

variable {ws : Workspace} {parent child : BlockId} {slot : String} {k : EdgeKind}

/-- A reason for a refusal makes the connection illegal. -/
lemma Refusal.illegal {e : WorkspaceError} (h : ws.Refusal parent slot child k e) :
    ws.Illegal parent slot child k := by
  cases h with
  | noParent h => exact .inl h
  | noChild h => exact .inr (.inl h)
  | noPlace _ hp h => exact .inr (.inr (.inl ⟨_, hp, h⟩))
  | noPlug _ hc h => exact .inr (.inr (.inr (.inl ⟨_, hc, h⟩)))
  | cycle _ _ h => exact .inr (.inr (.inr (.inr h)))

/-- A connection is refused as missing a block exactly if a block is missing. -/
lemma Refusal.notFound_iff {e : WorkspaceError} (h : ws.Refusal parent slot child k e) :
    (∃ id, e = .notFound id) ↔ ¬ ws.has parent ∨ ¬ ws.has child := by
  cases h with
  | noParent h => exact iff_of_true ⟨parent, rfl⟩ (.inl h)
  | noChild h => exact iff_of_true ⟨child, rfl⟩ (.inr h)
  | noPlace hchild hp _ =>
    refine iff_of_false (fun ⟨_, h⟩ => ?_)
      (not_or.mpr ⟨not_not.mpr (has_of_block? hp), not_not.mpr hchild⟩)
    cases k <;> cases h
  | noPlug hparent hc _ =>
    refine iff_of_false (fun ⟨_, h⟩ => ?_)
      (not_or.mpr ⟨not_not.mpr hparent, not_not.mpr (has_of_block? hc)⟩)
    cases k <;> cases h
  | cycle hparent hchild _ =>
    refine iff_of_false (fun ⟨_, h⟩ => ?_)
      (not_or.mpr ⟨not_not.mpr hparent, not_not.mpr hchild⟩)
    cases h

namespace Forest

/-- Steps upward are ways up along connections. -/
lemma climbs_iff_below (hw : ws.Forest) {a b : BlockId} : ws.Climbs a b ↔ ws.Below a b := by
  rw [Climbs, ← reflTransGen_iff_stepped, hw.parent?_eq_under]

/-- A block that a climb from the holder reaches would be under itself, and no other would. -/
lemma climbs_iff_cycle (hw : ws.Forest) (parent : BlockId) (slot : String) (child : BlockId)
    (k : EdgeKind) : ws.Climbs parent child ↔ ∃ id, Relation.TransGen
      (Under (ws.connect (.joining parent slot child k)).edges) id id := by
  have hchild : (Edge.joining parent slot child k).child = child := by cases k <;> rfl
  have hholder : (Edge.joining parent slot child k).holder = parent := by cases k <;> rfl
  rw [hw.climbs_iff_below, edges_connect]
  constructor
  · intro h
    have hnew : Under (ws.edges ++ [.joining parent slot child k]) child parent :=
      ⟨_, List.mem_append_right _ (List.mem_singleton_self _), hchild, hholder⟩
    exact ⟨child, Relation.TransGen.head' hnew
      (reflTransGen_mono (List.subset_append_left _ _) h)⟩
  · rintro ⟨id, hcycle⟩
    by_contra hfree
    exact acyclic_add hw.acyclic (by rwa [hchild, hholder]) id hcycle

end Forest

end Workspace

/-! ## Checks and changes -/

namespace Edit

open Workspace

variable {ws : Workspace} {parent child : BlockId} {slot : String} {k : EdgeKind}

/-- The check against cycles refuses exactly what a climb from the holder reaches. -/
lemma leads_refuseCycle {P : Except WorkspaceError Unit → Workspace → Prop} (hw : ws.Forest)
    (hp : ws.has parent) (hpass : ¬ ws.Climbs parent child → P (.ok ()) ws)
    (hrefuse : ws.Climbs parent child → P (.error (.cycle child parent)) ws) :
    Leads (refuseCycle child parent) ws P := by
  have hiff : (ws.upward parent).contains child = true ↔ ws.Climbs parent child := by
    rw [List.contains_iff_mem, hw.mem_upward_iff hp, hw.climbs_iff_below]
  unfold refuseCycle
  rw [leads_bind]
  change Leads (refuseIf ((ws.upward parent).contains child) (.cycle child parent)) ws P
  refine leads_refuseIf (fun h => hpass fun hup => ?_) fun h => hrefuse (hiff.mp h)
  rw [hiff.mpr hup] at h
  cases h

/-- The checks that come before any change. -/
def vet (parent : BlockId) (slot : String) (child : BlockId) (k : EdgeKind) : Edit Unit := do
  let p ← require parent
  let c ← require child
  refuseIf (!p.offers slot k) (.noPlace p.type slot k)
  refuseIf (!c.plugs k) (.noPlug c.type k)
  refuseCycle child parent

/-- The changes that a connection that passes the checks makes. -/
def join (parent : BlockId) (slot : String) (child : BlockId) : EdgeKind → Edit Unit
  | .value => do
    dropEdges (·.outgoing child "output")
    dropEdges (·.incoming parent slot)
    addEdge (.ofValue child parent slot)
  | .statement => do
    dropEdges (·.incoming child "previous")
    let displaced := (← get).held? parent slot
    dropEdges (·.outgoing parent slot)
    addEdge (.ofStatement parent slot child)
    displaced.toList.forM (putAfter child)

/-- Making a connection is checking it, changing connections and telling of it. -/
lemma joining_eq (parent : BlockId) (slot : String) (child : BlockId) (k : EdgeKind) :
    joining parent slot child k = do
      vet parent slot child k
      join parent slot child k
      fire .move (some child) [("parent_id", .text parent), ("slot", .text slot)]
      return .joining parent slot child k := by
  cases k <;>
    simp only [joining, connectValue, connectStatement, vet, join, bind_assoc] <;> rfl

/-- The checks change nothing, and they find every reason and nothing else. -/
lemma leads_vet (hw : ws.Forest) (parent : BlockId) (slot : String) (child : BlockId)
    (k : EdgeKind) : Leads (vet parent slot child k) ws fun r ws' => ws' = ws ∧
      match r with
      | .ok _ => ¬ ws.Illegal parent slot child k
      | .error e => ws.Refusal parent slot child k e := by
  unfold vet
  simp only [leads_bind]
  refine leads_require (fun p hp => ?_) fun hp => ⟨rfl, .noParent (by simp [has_iff_block?, hp])⟩
  refine leads_require (fun c hc => ?_) fun hc => ⟨rfl, .noChild (by simp [has_iff_block?, hc])⟩
  have hparent : ws.has parent := has_of_block? hp
  have hchild : ws.has child := has_of_block? hc
  refine leads_refuseIf (fun hoffers => ?_) fun h => ⟨rfl, .noPlace hchild hp (by simpa using h)⟩
  refine leads_refuseIf (fun hplugs => ?_) fun h => ⟨rfl, .noPlug hparent hc (by simpa using h)⟩
  refine leads_refuseCycle hw hparent (fun hfree => ⟨rfl, ?_⟩) fun h =>
    ⟨rfl, .cycle hparent hchild h⟩
  rintro (h | h | ⟨q, hq, h⟩ | ⟨d, hd, h⟩ | h)
  · exact h hparent
  · exact h hchild
  · rw [hp, Option.some.injEq] at hq
    subst hq
    simp [h] at hoffers
  · rw [hc, Option.some.injEq] at hd
    subst hd
    simp [h] at hplugs
  · exact hfree h

end Edit

/-- The workspace with such a connection made. -/
def Workspace.joined (ws : Workspace) (parent : BlockId) (slot : String) (child : BlockId) :
    EdgeKind → Workspace
  | .value =>
    let loose := ws.drop (ws.outgoing child "output")
    (loose.drop (loose.incoming parent slot)).connect (.ofValue child parent slot)
  | .statement =>
    let placed := ws.placed parent slot child
    match (ws.loosened child).held? parent slot with
    | some first => placed.connect (.ofStatement (placed.last child) "next" first)
    | none => placed

/-- Making a connection alters connections and nothing else. -/
lemma Workspace.joined_eq (ws : Workspace) (parent : BlockId) (slot : String) (child : BlockId)
    (k : EdgeKind) : ws.joined parent slot child k =
      { ws with links := (ws.joined parent slot child k).links } := by
  cases k with
  | value => rfl
  | statement =>
    unfold joined
    dsimp only
    split <;> rfl

namespace Edit

open Workspace

variable {ws : Workspace}

/-- Changing the connections is never refused. -/
lemma leads_join {P : Except WorkspaceError Unit → Workspace → Prop} (parent : BlockId)
    (slot : String) (child : BlockId) (k : EdgeKind)
    (h : P (.ok ()) (ws.joined parent slot child k)) : Leads (join parent slot child k) ws P := by
  cases k with
  | value => exact h
  | statement =>
    change Leads (((ws.loosened child).held? parent slot).toList.forM (putAfter child))
      (ws.placed parent slot child) P
    unfold joined at h
    cases hheld : (ws.loosened child).held? parent slot with
    | none =>
      simp only [hheld] at h
      exact h
    | some first =>
      simp only [hheld] at h
      exact h

/-- A connection is refused for a reason and leaves no trace then, or it is made; only those who
are told of it can object afterwards. -/
lemma leads_joining (hw : ws.Forest) (parent : BlockId) (slot : String) (child : BlockId)
    (k : EdgeKind) : Leads (joining parent slot child k) ws fun r ws' =>
      (∃ e, ws.Refusal parent slot child k e ∧ r = .error e ∧ ws' = ws) ∨
      (¬ ws.Illegal parent slot child k ∧ SameGraph (ws.joined parent slot child k) ws' ∧
        (r = .ok (.joining parent slot child k) ∨ ws.Followed ∧ ∃ f, r = .error (.fault f))) := by
  simp only [joining_eq, leads_bind]
  refine (leads_vet hw parent slot child k).mono ?_
  rintro (e | u) ws' ⟨rfl, h⟩
  · exact .inl ⟨e, h, rfl, rfl⟩
  refine leads_join parent slot child k ?_
  have hfollowed : (ws'.joined parent slot child k).Followed → ws'.Followed := by
    rw [joined_eq]
    exact fun h => ⟨h.muted, h.watched⟩
  refine leads_fire (fun ws₁ h₁ => ?_) fun ht f ws₁ h₁ => ?_
  · exact .inr ⟨h, h₁, .inl rfl⟩
  · exact .inr ⟨h, h₁, .inr ⟨hfollowed ht, f, rfl⟩⟩

end Edit

/-! ## Reachable workspaces -/

namespace Workspace

variable {ws : Workspace}

/-- Exactly the illegal connections are refused, each for a reason that applies, and a refused one
leaves the workspace as it was.  A legal connection is made; only those who are told of it can
object afterwards.  That the holder is below the other block is the same as a cycle that the
connection would close. -/
theorem joining_refused_iff_illegal (hws : ws.Reachable) (parent : BlockId) (slot : String)
    (child : BlockId) (k : EdgeKind) :
    let run := (Edit.joining parent slot child k).run ws
    (ws.Illegal parent slot child k →
      ∃ e, ws.Refusal parent slot child k e ∧ run = (.error e, ws) ∧
        ((∃ id, e = .notFound id) ↔ ¬ ws.has parent ∨ ¬ ws.has child)) ∧
    (¬ ws.Illegal parent slot child k →
      run.1 = .ok (.joining parent slot child k) ∨ ws.Followed ∧ ∃ f, run.1 = .error (.fault f)) ∧
    (¬ ws.Followed → ((∃ e, run.1 = .error e) ↔ ws.Illegal parent slot child k)) ∧
    (ws.Climbs parent child ↔ ∃ id, Relation.TransGen
      (Under (ws.connect (.joining parent slot child k)).edges) id id) := by
  intro run
  have hleads := Edit.leads_joining hws.forest parent slot child k
  refine ⟨fun hillegal => ?_, fun hlegal => ?_, fun hquiet => ⟨?_, fun hillegal => ?_⟩,
    hws.forest.climbs_iff_cycle parent slot child k⟩
  · obtain ⟨e, he, hrun, hsame⟩ | ⟨hlegal, -⟩ := hleads
    · exact ⟨e, he, Prod.ext hrun hsame, he.notFound_iff⟩
    · exact absurd hillegal hlegal
  · obtain ⟨e, he, -⟩ | ⟨-, -, h⟩ := hleads
    · exact absurd he.illegal hlegal
    · exact h
  · rintro ⟨e, herror⟩
    obtain ⟨e, he, -⟩ | ⟨-, -, hok | ⟨hfollowed, -⟩⟩ := hleads
    · exact he.illegal
    · cases herror.symm.trans hok
    · exact absurd hfollowed hquiet
  · obtain ⟨e, -, hrun, -⟩ | ⟨hlegal, -⟩ := hleads
    · exact ⟨e, hrun⟩
    · exact absurd hillegal hlegal

/-- A statement in the body of another one. -/
def nestedPair : Workspace :=
  Operation.applyAll {} [.create "stmt_if" (some "outer") {}, .create "stmt_pass" (some "inner") {},
    .connectStatement "outer" "BODY" "inner"]

/-- A statement cannot follow one in its own body. -/
theorem joining_refused_nestedPair : nestedPair.Reachable ∧
    nestedPair.Illegal "inner" "next" "outer" .statement ∧
    ∃ e, nestedPair.Refusal "inner" "next" "outer" .statement e ∧
      (Edit.joining "inner" "next" "outer" .statement).run nestedPair = (.error e, nestedPair) := by
  have hreachable : nestedPair.Reachable := ⟨false, 0, _, rfl⟩
  have hillegal : nestedPair.Illegal "inner" "next" "outer" .statement :=
    .inr (.inr (.inr (.inr ⟨1, by decide +kernel⟩)))
  obtain ⟨e, he, hrun, -⟩ :=
    (joining_refused_iff_illegal hreachable "inner" "next" "outer" .statement).1 hillegal
  exact ⟨hreachable, hillegal, e, he, hrun⟩

end Workspace

end BlockText

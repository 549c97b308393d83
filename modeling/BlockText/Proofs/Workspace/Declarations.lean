import BlockText.Proofs.Compile.Programs
import BlockText.Proofs.Syntax.WellFormed
import BlockText.Proofs.Workspace.Collecting
import BlockText.Proofs.Workspace.Declaring

/-!
# What blocks declare

The names that a workspace lists as declared are found by going over all its blocks. A tree tells
the same: what it declares is what its first block introduces, what the statements in the slots of
that block declare, and what follows. If one start block holds all statements, then the statements
in its slot declare exactly what the blocks of the workspace introduce.
-/

namespace BlockText

open Syntax

/-- The names that the block at the top of a tree binds as a target. -/
def BlockTree.boundNames : BlockTree → List Datum
  | nothing => []
  | node _ b slot _ =>
    match b.type with
    | .identifier => [(b.field? "name").getD ""]
    | .tuple | .list => b.values.flatMap fun s => (slot s).boundNames
    | _ => []

/-- The number of items of a block that has one. -/
def Block.arity (b : Block) : ℕ :=
  match b.itemCount with
  | .ok n => n.toNat
  | .error _ => 0

/-- What a block declares, given what its slots hold. -/
def Block.introduced (b : Block) (slot : String → BlockTree) : List Declaration :=
  match b.type with
  | .varSet => [.variable (b.field "name")]
  | .assign =>
    ((b.values.filter fun s => Text.startsWith s "TARGET".toList).flatMap fun s =>
      (slot s).boundNames).map .variable
  | .forStmt | .annAssign => (slot "TARGET").boundNames.map .variable
  | .functionDef =>
    .function (b.field "name") b.arity ::
      (indexed "PARAM" b.arity).map fun name => .variable ((b.field? name).getD "")
  | _ => []

/-- What the statements of a tree declare. -/
def BlockTree.declarations : BlockTree → List Declaration
  | nothing => []
  | node _ b slot next =>
    b.introduced slot ++ (b.statements.flatMap fun s => (slot s).declarations) ++ next.declarations

namespace BlockTree

lemma declarations_node (id : BlockId) (b : Block) (slot : String → BlockTree) (next : BlockTree) :
    (node id b slot next).declarations = b.introduced slot ++
      (b.statements.flatMap fun s => (slot s).declarations) ++ next.declarations := by
  rw [declarations]

lemma mem_declarations_node {id : BlockId} {b : Block} {slot : String → BlockTree}
    {next : BlockTree} {d : Declaration} : d ∈ (node id b slot next).declarations ↔
      d ∈ b.introduced slot ∨ (∃ s ∈ b.statements, d ∈ (slot s).declarations) ∨
        d ∈ next.declarations := by
  rw [declarations_node, List.mem_append, List.mem_append, List.mem_flatMap, or_assoc]

/-- A chain declares what its two parts declare. -/
lemma mem_declarations_append {t u : BlockTree} {d : Declaration} :
    d ∈ (t.append u).declarations ↔ d ∈ t.declarations ∨ d ∈ u.declarations := by
  induction t with
  | nothing =>
    rw [nothing_append, declarations]
    simp
  | node id b slot next _ ih =>
    rw [append, mem_declarations_node, mem_declarations_node, ih]
    simp only [or_assoc]

end BlockTree

/-- Only what stands in the slots of a block matters for what it declares. -/
lemma Block.introduced_congr {b : Block} (hb : b.Sound) {slot slot' : String → BlockTree}
    (h : ∀ s, isOwnPort s = false → slot s = slot' s) : b.introduced slot = b.introduced slot' := by
  have htarget : slot "TARGET" = slot' "TARGET" := h _ (by decide)
  have hvalues : ((b.values.filter fun s => Text.startsWith s "TARGET".toList).flatMap fun s =>
      (slot s).boundNames) = (b.values.filter fun s => Text.startsWith s "TARGET".toList).flatMap
        fun s => (slot' s).boundNames := by
    apply List.flatMap_congr
    intro s hs
    rw [h s (hb.own_values s (List.mem_of_mem_filter hs))]
  rw [introduced, introduced, htarget, hvalues]

/-- Only statements declare something. -/
lemma Block.isStatement_of_introduced {b : Block} {slot : String → BlockTree} {d : Declaration}
    (h : d ∈ b.introduced slot) : b.isStatement := by
  rw [isStatement, Block.kind]
  unfold introduced at h
  split at h
  case h_6 => cases h
  all_goals
    rename_i ht
    rw [ht]
    rfl

namespace Workspace

variable {ws : Workspace}

/-! ## Trees of a workspace -/

/-- The names that a target binds are those of its tree. -/
private lemma boundNames_treeWithin (hw : ws.Forest) (fuel : ℕ) (id : BlockId) :
    (ws.treeWithin fuel (some id)).boundNames = ws.targetNames fuel id := by
  induction fuel generalizing id with
  | zero => rw [treeWithin, BlockTree.boundNames, targetNames]
  | succ fuel ih =>
    rw [treeWithin, targetNames]
    cases hb : ws.block? id with
    | none => simp only [BlockTree.boundNames]
    | some b =>
      have hown : ∀ s ∈ b.values, ¬ isOwnPort s = true := by
        intro s hs
        rw [(hw.sound id b hb).own_values s hs]
        exact Bool.false_ne_true
      rw [BlockTree.boundNames]
      dsimp only
      generalize b.type = type
      cases type with
      | tuple | list =>
        refine List.flatMap_congr fun s hs => ?_
        rw [if_neg (hown s hs)]
        cases hheld : ws.held? id s with
        | none => cases fuel <;> rw [treeWithin, BlockTree.boundNames]
        | some child => exact ih child
      | _ => rfl

/-- The names in a slot are those that the tree in it binds. -/
lemma boundNames_slot (hw : ws.Forest) (id : BlockId) (slot : String) :
    (ws.tree (ws.held? id slot)).boundNames = ws.namesIn id slot := by
  rw [namesIn]
  cases ws.held? id slot with
  | none => rw [Forest.tree_none, BlockTree.boundNames]
  | some child => exact boundNames_treeWithin hw _ child

/-- What a block of the workspace declares. -/
def introduced (ws : Workspace) (id : BlockId) (b : Block) : List Declaration :=
  b.introduced fun s => ws.tree (ws.held? id s)

/-- The variables of a block are those that it introduces. -/
lemma exists_variablesOf_eq (hw : ws.Forest) {id : BlockId} {b : Block} (hnamed : b.Named) :
    ∃ names, ws.variablesOf id b = .ok names ∧
      ∀ d, d ∈ names ↔ .variable d ∈ ws.introduced id b := by
  have hvariable : ∀ (names : List Datum) (d : Datum),
      d ∈ names ↔ Declaration.variable d ∈ names.map Declaration.variable := by
    intro names d
    rw [List.mem_map_of_injective fun _ _ => Declaration.variable.inj]
  unfold variablesOf introduced Block.introduced
  cases ht : b.type with
  | varSet => exact ⟨_, rfl, hvariable [b.field "name"]⟩
  | assign =>
    refine ⟨_, rfl, fun d => ?_⟩
    simp only [boundNames_slot hw]
    exact hvariable _ d
  | forStmt | annAssign =>
    refine ⟨_, rfl, fun d => ?_⟩
    simp only [boundNames_slot hw]
    exact hvariable _ d
  | functionDef =>
    obtain ⟨n, hn, -⟩ := hnamed.params ht
    have harity : b.arity = n.toNat := by rw [Block.arity, hn]
    refine ⟨(indexed "PARAM" n.toNat).map fun name => (b.field? name).getD "", ?_, fun d => ?_⟩
    · simp only [hn]
      rfl
    · rw [harity, hvariable, List.map_map, List.mem_cons, or_iff_right nofun]
      rfl
  | _ => exact ⟨[], rfl, by simp⟩

/-- A tree declares what its statements introduce. -/
lemma mem_declarations_tree (hw : ws.Forest) {o : Option BlockId} {d : Declaration} :
    d ∈ (ws.tree o).declarations ↔
      ∃ entry ∈ (ws.tree o).members, d ∈ ws.introduced entry.1 entry.2 := by
  induction ht : ws.tree o generalizing o with
  | nothing => simp [BlockTree.declarations]
  | node id b slot next ihslot ihnext =>
    obtain ⟨rfl, hb, hslot, hnext⟩ := hw.of_tree_eq_node ht
    have hsound := hw.sound id b hb
    have hown : b.introduced slot = ws.introduced id b := by
      apply Block.introduced_congr hsound
      intro s hs
      rw [hslot, hs]
      rfl
    have hslots : (∃ s ∈ b.statements, d ∈ (slot s).declarations) ↔
        ∃ s ∈ b.statements, ∃ entry ∈ (slot s).members, d ∈ ws.introduced entry.1 entry.2 := by
      refine exists_congr fun s => and_congr_right fun hs => ?_
      exact ihslot s (hw.slot_eq_tree hb hslot hs).symm
    rw [BlockTree.mem_declarations_node, hown, hslots, ihnext hnext.symm]
    simp only [BlockTree.mem_members_node]
    constructor
    · rintro (h | ⟨s, hs, entry, hentry, h⟩ | ⟨entry, hentry, h⟩)
      · exact ⟨(id, b), .inl rfl, h⟩
      · exact ⟨entry, .inr (.inl ⟨s, hs, hentry⟩), h⟩
      · exact ⟨entry, .inr (.inr hentry), h⟩
    · rintro ⟨entry, rfl | ⟨s, hs, hentry⟩ | hentry, h⟩
      · exact .inl h
      · exact .inr (.inl ⟨s, hs, entry, hentry, h⟩)
      · exact .inr (.inr ⟨entry, hentry, h⟩)

/-- If a start block holds all statements, then what it holds declares what the blocks introduce. -/
lemma mem_declarations_start (hw : ws.Forest) (hm : ws.Measured) {entry : BlockId}
    (hstart : ws.ofType .start = [entry]) (hloose : Compile.looseStatements ws = [])
    {d : Declaration} : d ∈ (ws.tree (ws.held? entry "BODY")).declarations ↔
      ∃ x ∈ ws.blocks, d ∈ ws.introduced x.1 x.2 := by
  have hmem : ∀ x, x ∈ (ws.tree (ws.held? entry "BODY")).members ↔
      ws.block? x.1 = some x.2 ∧ x.2.isStatement := fun x => by
    rw [(hw.members_start_perm hm hstart hloose).mem_iff, hw.mem_statementBlocks_iff]
  rw [mem_declarations_tree hw]
  constructor
  · rintro ⟨x, hx, h⟩
    exact ⟨x, hw.mem_blocks_iff.mpr ((hmem x).mp hx).1, h⟩
  · rintro ⟨x, hx, h⟩
    exact ⟨x, (hmem x).mpr ⟨hw.mem_blocks_iff.mp hx, Block.isStatement_of_introduced h⟩, h⟩

end Workspace

end BlockText

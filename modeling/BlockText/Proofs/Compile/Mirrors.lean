import BlockText.Proofs.Compile.Programs
import BlockText.Proofs.Compile.Resemblance

/-!
# Workspaces of one structure

One workspace mirrors another one if a renaming of the blocks takes the types, the fields and the
connections of one to those of the other.  The blocks may have been created and connected in another
order, their slots may be listed in another order, and they may lie elsewhere.  Only without a start
block does the order count in which loose statements stand: the program starts with the first one.

What a slot holds, what follows a statement and what nothing holds is then the same up to the
renaming, and so trees that start at corresponding blocks resemble each other.

Places on the canvas are in linear order by their `y` and then their `x` coordinate, as rational
numbers.  Sorting the blocks that nothing holds by their places is stable: of two blocks at one
place the one that was created first comes first.
-/

namespace BlockText

/-! ## Places -/

namespace Decimal

/-- The rational number that a decimal number stands for. -/
def value (a : Decimal) : ℚ := a.mantissa / 10 ^ a.places

lemma tenTo_eq_pow (n : ℕ) : tenTo n = 10 ^ n := by
  induction n with
  | zero => rfl
  | succ n ih => rw [tenTo, ih, pow_succ]

/-- Decimals are compared by their values. -/
lemma lt_iff_value_lt {a b : Decimal} : a.lt b = true ↔ a.value < b.value := by
  rw [lt, decide_eq_true_iff, tenTo_eq_pow, tenTo_eq_pow, value, value,
    div_lt_div_iff₀ (by positivity) (by positivity)]
  exact_mod_cast Iff.rfl

/-- Decimals are equal when their values are. -/
lemma equal_iff_value_eq {a b : Decimal} : a.equal b = true ↔ a.value = b.value := by
  rw [equal, beq_iff_eq, tenTo_eq_pow, tenTo_eq_pow, value, value,
    div_eq_div_iff (by positivity) (by positivity)]
  exact_mod_cast Iff.rfl

end Decimal

/-- Where a place is in the order from top to bottom, then from left to right. -/
def Point.rank (p : Point) : ℚ ×ₗ ℚ := toLex (p.y.value, p.x.value)

/-- Points are ordered by their ranks. -/
lemma Point.before_iff_rank_lt {p q : Point} : p.before q = true ↔ p.rank < q.rank := by
  rw [before, Bool.or_eq_true, Bool.and_eq_true, Decimal.lt_iff_value_lt, Decimal.lt_iff_value_lt,
    Decimal.equal_iff_value_eq, rank, rank, Prod.Lex.toLex_lt_toLex]

/-- A point that is not before another has no smaller rank. -/
lemma Point.before_eq_false_iff {p q : Point} : p.before q = false ↔ q.rank ≤ p.rank := by
  rw [← not_lt, ← before_iff_rank_lt, Bool.not_eq_true]

/-! ## Pairs in a list -/

/-- Two members of a list come in one order or the other. -/
lemma pair_sublist_or {α : Type} {l : List α} {a b : α} (ha : a ∈ l) (hb : b ∈ l) (hne : a ≠ b) :
    [a, b].Sublist l ∨ [b, a].Sublist l := by
  induction l with
  | nil => cases ha
  | cons x rest ih =>
    rcases List.mem_cons.mp ha with rfl | ha'
    · have hb' : b ∈ rest := (List.mem_cons.mp hb).resolve_left hne.symm
      exact .inl (.cons_cons _ (List.singleton_sublist.mpr hb'))
    · rcases List.mem_cons.mp hb with rfl | hb'
      · exact .inr (.cons_cons _ (List.singleton_sublist.mpr ha'))
      · exact (ih ha' hb').imp (.cons _) (.cons _)

/-- No two members of a list without repetitions come in both orders. -/
lemma not_pair_sublist_of_nodup {α : Type} {l : List α} (h : l.Nodup) {a b : α}
    (hab : [a, b].Sublist l) : ¬ [b, a].Sublist l := by
  induction l with
  | nil => cases hab
  | cons x rest ih =>
    intro hba
    obtain ⟨hx, hrest⟩ := List.nodup_cons.mp h
    cases hab with
    | cons _ hab =>
      cases hba with
      | cons _ hba => exact ih hrest hab hba
      | cons_cons _ hba => exact hx (hab.subset (by simp))
    | cons_cons _ hab =>
      cases hba with
      | cons _ hba => exact hx (hba.subset (by simp))
      | cons_cons _ hba => exact hx (hba.subset (by simp))

/-! ## Blocks -/

namespace Workspace

variable {ws : Workspace} {a b : BlockId}

/-- One block comes before another from top to bottom, then from left to right; of two blocks at one
place the one that was created first comes first. -/
def Precedes (ws : Workspace) (a b : BlockId) : Prop :=
  (ws.position a).before (ws.position b) = true ∨
    (ws.position b).before (ws.position a) = false ∧ [a, b].Sublist ws.ids

instance (ws : Workspace) (a b : BlockId) : Decidable (ws.Precedes a b) :=
  inferInstanceAs (Decidable (_ ∨ _))

/-- Precedence is asymmetric. -/
lemma Forest.not_precedes (hw : ws.Forest) (h : ws.Precedes a b) : ¬ ws.Precedes b a := by
  rintro (hba | ⟨hba, hcreated⟩) <;> obtain hab | ⟨hab, hcreated'⟩ := h
  · exact lt_asymm (Point.before_iff_rank_lt.mp hab) (Point.before_iff_rank_lt.mp hba)
  · rw [hba] at hab
    cases hab
  · rw [hab] at hba
    cases hba
  · exact not_pair_sublist_of_nodup hw.ids_nodup hcreated' hcreated

/-- The blocks that nothing holds are listed from top to bottom. -/
lemma Forest.pairwise_orderedTops (hw : ws.Forest) : ws.orderedTops.Pairwise ws.Precedes := by
  have htrans : ∀ a b c : BlockId, (!(ws.position b).before (ws.position a)) = true →
      (!(ws.position c).before (ws.position b)) = true →
      (!(ws.position c).before (ws.position a)) = true := by
    simp only [Bool.not_eq_true', Point.before_eq_false_iff]
    exact fun _ _ _ => le_trans
  have htotal : ∀ a b : BlockId, (!(ws.position b).before (ws.position a) ||
      !(ws.position a).before (ws.position b)) = true := by
    simp only [Bool.or_eq_true, Bool.not_eq_true', Point.before_eq_false_iff]
    exact fun _ _ => le_total _ _
  have htops : ws.tops.Sublist ws.ids := List.filter_sublist
  have hnodup : ws.orderedTops.Nodup :=
    (List.mergeSort_perm _ _).nodup_iff.mpr (hw.ids_nodup.sublist htops)
  have hsorted : ws.orderedTops.Pairwise
      fun a b => (!(ws.position b).before (ws.position a)) = true :=
    List.pairwise_mergeSort htrans htotal ws.tops
  refine List.pairwise_iff_forall_sublist.mpr fun {a b} hab => ?_
  have hle : (ws.position b).before (ws.position a) = false := by
    simpa using List.pairwise_iff_forall_sublist.mp hsorted hab
  cases hlt : (ws.position a).before (ws.position b) with
  | true => exact .inl hlt
  | false =>
    -- Sorting keeps the order of blocks at one place.
    have hmem : ∀ {x}, x ∈ [a, b] → x ∈ ws.tops := fun hx =>
      List.mem_mergeSort.mp (hab.subset hx)
    have hne : a ≠ b := by simpa using hab.nodup hnodup
    have hnot : ¬ [b, a].Sublist ws.tops := fun hba => not_pair_sublist_of_nodup hnodup hab
      (List.pair_sublist_mergeSort htrans htotal (by simpa using hlt) hba)
    have hcreated := (pair_sublist_or (hmem (by simp)) (hmem (by simp)) hne).resolve_right hnot
    exact .inr ⟨hle, hcreated.trans htops⟩

end Workspace

open Syntax Compile

/-! ## Renamed blocks -/

namespace Edge

/-- The connection with other names for the blocks. -/
def rename (φ : BlockId → BlockId) (e : Edge) : Edge :=
  { e with source := φ e.source, target := φ e.target }

variable (φ : BlockId → BlockId) (e : Edge)

@[simp] lemma child_rename : (e.rename φ).child = φ e.child := by
  cases h : e.kind <;> simp [child, rename, h]

@[simp] lemma holder_rename : (e.rename φ).holder = φ e.holder := by
  cases h : e.kind <;> simp [holder, rename, h]

@[simp] lemma slot_rename : (e.rename φ).slot = e.slot := by
  cases h : e.kind <;> simp [slot, rename, h]

end Edge

/-- Measured blocks of one type with the same fields have the same slots. -/
lemma Block.Measured.resembles {b b' : Block} (h : b.Measured) (h' : b'.Measured)
    (htype : b'.type = b.type) (hfield : ∀ name, b'.field? name = b.field? name) :
    b.Resembles b' := by
  obtain ⟨shape, hshape, hhas⟩ := h.shaped
  obtain ⟨shape', hshape', hhas'⟩ := h'.shaped
  have hsame : b'.type.shapeFor b'.fields = b.type.shapeFor b.fields := by
    rw [htype]
    exact BlockType.shapeFor_congr (fun name _ => countOf_congr (hfield name))
      fun _ _ _ i _ => countOf_congr (hfield _)
  obtain rfl : shape' = shape := Except.ok.inj (hshape'.symm.trans (hsame.trans hshape))
  exact ⟨htype, hfield, fun s => by rw [hhas'.values, hhas.values, htype]⟩

namespace Workspace

/-- The names of the statements that nothing holds, from top to bottom. -/
def loose (ws : Workspace) : List BlockId := (looseStatements ws).map (·.1)

/-- The loose blocks stand in the order of the top blocks. -/
lemma loose_sublist (ws : Workspace) : ws.loose.Sublist ws.orderedTops := by
  unfold loose looseStatements
  induction ws.orderedTops with
  | nil => exact .slnil
  | cons id rest ih =>
    rw [List.filterMap_cons]
    cases hb : ws.block? id with
    | none => exact ih.cons id
    | some b =>
      dsimp only
      split
      case h_1 hnone => exact ih.cons id
      case h_2 entry hentry =>
        split at hentry
        · obtain rfl := Option.some.inj hentry
          exact ih.cons_cons id
        · cases hentry

/-- The loose blocks are the statement blocks without a parent. -/
lemma mem_loose_iff {ws : Workspace} {id : BlockId} :
    id ∈ ws.loose ↔ ∃ b, ws.block? id = some b ∧ b.isStatement ∧ ws.parent? id = none := by
  rw [loose, List.mem_map]
  constructor
  · rintro ⟨⟨_, b⟩, hentry, rfl⟩
    obtain ⟨hb, hstmt, htop⟩ := Forest.mem_looseStatements_iff.mp hentry
    exact ⟨b, hb, hstmt, (mem_tops_iff.mp htop).2⟩
  · rintro ⟨b, hb, hstmt, hnone⟩
    exact ⟨(id, b), Forest.mem_looseStatements_iff.mpr
      ⟨hb, hstmt, mem_tops_iff.mpr ⟨has_of_block? hb, hnone⟩⟩, rfl⟩

/-- No block is loose twice. -/
lemma Forest.nodup_loose {ws : Workspace} (hw : ws.Forest) : ws.loose.Nodup :=
  ((List.mergeSort_perm _ _).nodup_iff.mpr (hw.ids_nodup.sublist List.filter_sublist)).sublist
    ws.loose_sublist

/-- A renaming of the blocks takes one workspace to another one: blocks correspond to blocks of the
same type with the same fields, and connections to connections of the same ports. -/
structure Renames (ws ws' : Workspace) (φ : BlockId → BlockId) : Prop where
  ids : (ws.ids.map φ).Perm ws'.ids
  type : ∀ id b b', ws.block? id = some b → ws'.block? (φ id) = some b' → b'.type = b.type
  field? : ∀ id b b', ws.block? id = some b → ws'.block? (φ id) = some b' →
    ∀ name, b'.field? name = b.field? name
  edges : ∀ e, e ∈ ws'.edges ↔ ∃ f ∈ ws.edges, f.rename φ = e

/-- A renaming takes one workspace to another one, and without a start block loose statements stand
in the same order. -/
structure Mirrors (ws ws' : Workspace) (φ : BlockId → BlockId) : Prop extends
    Renames ws ws' φ where
  order : ws.ofType .start = [] → ∀ a ∈ ws.loose, ∀ b ∈ ws.loose,
    ws.Precedes a b → ws'.Precedes (φ a) (φ b)

namespace Renames

variable {ws ws' : Workspace} {φ : BlockId → BlockId} (h : ws.Renames ws' φ)
include h

/-! ## Blocks -/

/-- A renaming takes blocks to blocks. -/
lemma has_rename {id : BlockId} (hid : ws.has id) : ws'.has (φ id) :=
  has_iff_mem_ids.mpr (h.ids.subset (List.mem_map_of_mem (has_iff_mem_ids.mp hid)))

/-- A renaming reaches every block. -/
lemma exists_of_has {id' : BlockId} (hid : ws'.has id') : ∃ id, ws.has id ∧ φ id = id' := by
  obtain ⟨id, hmem, rfl⟩ := List.mem_map.mp (h.ids.symm.subset (has_iff_mem_ids.mp hid))
  exact ⟨id, has_iff_mem_ids.mpr hmem, rfl⟩

/-- No two blocks get one name. -/
lemma injective (hw' : ws'.Forest) {a b : BlockId} (ha : ws.has a) (hb : ws.has b)
    (hab : φ a = φ b) : a = b :=
  List.inj_on_of_nodup_map (h.ids.nodup_iff.mpr hw'.ids_nodup) (has_iff_mem_ids.mp ha)
    (has_iff_mem_ids.mp hb) hab

/-- Corresponding blocks resemble each other. -/
lemma exists_block? (hm : ws.Measured) (hm' : ws'.Measured) {id : BlockId} {b : Block}
    (hb : ws.block? id = some b) : ∃ b', ws'.block? (φ id) = some b' ∧ b.Resembles b' := by
  obtain ⟨b', hb'⟩ := has_iff_block?.mp (h.has_rename (has_of_block? hb))
  exact ⟨b', hb', (hm.of_block? hb).resembles (hm'.of_block? hb') (h.type id b b' hb hb')
    (h.field? id b b' hb hb')⟩

/-- The blocks of a type correspond to those of that type. -/
lemma ofType_perm (hw : ws.Forest) (hw' : ws'.Forest) (t : BlockType) :
    ((ws.ofType t).map φ).Perm (ws'.ofType t) := by
  have hsub : ∀ {ws : Workspace}, (ws.ofType t).Sublist ws.ids := List.filter_sublist.map _
  refine (List.perm_ext_iff_of_nodup ?_ (hw'.ids_nodup.sublist hsub)).mpr fun id' => ?_
  · exact (h.ids.nodup_iff.mpr hw'.ids_nodup).sublist (hsub.map φ)
  · rw [List.mem_map, hw'.mem_ofType_iff]
    constructor
    · rintro ⟨id, hid, rfl⟩
      obtain ⟨b, hb, ht⟩ := hw.mem_ofType_iff.mp hid
      obtain ⟨b', hb'⟩ := has_iff_block?.mp (h.has_rename (has_of_block? hb))
      exact ⟨b', hb', (h.type id b b' hb hb').trans ht⟩
    · rintro ⟨b', hb', ht⟩
      obtain ⟨id, hid, rfl⟩ := h.exists_of_has (has_of_block? hb')
      obtain ⟨b, hb⟩ := has_iff_block?.mp hid
      exact ⟨id, hw.mem_ofType_iff.mpr ⟨b, hb, (h.type id b b' hb hb').symm.trans ht⟩, rfl⟩

/-! ## Connections -/

/-- A block is put into a slot iff the corresponding one is. -/
lemma edge_iff (hw : ws.Forest) (hw' : ws'.Forest) {a : BlockId} (ha : ws.has a) {y : BlockId}
    {s : String} : (∃ e ∈ ws'.edges, e.child = y ∧ e.holder = φ a ∧ e.slot = s) ↔
      ∃ e ∈ ws.edges, φ e.child = y ∧ e.holder = a ∧ e.slot = s := by
  constructor
  · rintro ⟨e, he, hchild, hholder, hslot⟩
    obtain ⟨f, hf, rfl⟩ := (h.edges e).mp he
    rw [Edge.child_rename] at hchild
    rw [Edge.holder_rename] at hholder
    rw [Edge.slot_rename] at hslot
    exact ⟨f, hf, hchild, h.injective hw' (hw.has_holder hf) ha hholder, hslot⟩
  · rintro ⟨e, he, rfl, rfl, rfl⟩
    exact ⟨e.rename φ, (h.edges _).mpr ⟨e, he, rfl⟩, e.child_rename φ, e.holder_rename φ,
      e.slot_rename φ⟩

/-- A renaming takes what a slot holds to what the renamed slot holds. -/
lemma held?_rename (hw : ws.Forest) (hw' : ws'.Forest) {a : BlockId} (ha : ws.has a) {s : String}
    (hs : isOwnPort s = false) : ws'.held? (φ a) s = (ws.held? a s).map φ := by
  refine Option.ext fun y => ?_
  rw [hw'.held?_eq_some_iff hs, h.edge_iff hw hw' ha, Option.map_eq_some_iff]
  constructor
  · rintro ⟨e, he, hchild, hholder⟩
    exact ⟨e.child, (hw.held?_eq_some_iff hs).mpr ⟨e, he, rfl, hholder⟩, hchild⟩
  · rintro ⟨x, hx, hy⟩
    obtain ⟨e, he, rfl, hholder⟩ := (hw.held?_eq_some_iff hs).mp hx
    exact ⟨e, he, hy, hholder⟩

/-- A renaming takes the next block to the next block. -/
lemma next?_rename (hw : ws.Forest) (hw' : ws'.Forest) {a : BlockId} (ha : ws.has a) :
    ws'.next? (φ a) = (ws.next? a).map φ := by
  refine Option.ext fun y => ?_
  rw [hw'.next?_eq_some_iff, h.edge_iff hw hw' ha, Option.map_eq_some_iff]
  constructor
  · rintro ⟨e, he, hchild, hholder⟩
    exact ⟨e.child, hw.next?_eq_some_iff.mpr ⟨e, he, rfl, hholder⟩, hchild⟩
  · rintro ⟨x, hx, hy⟩
    obtain ⟨e, he, rfl, hholder⟩ := hw.next?_eq_some_iff.mp hx
    exact ⟨e, he, hy, hholder⟩

/-- Nothing holds a block iff nothing holds the corresponding one. -/
lemma parent?_rename (hw : ws.Forest) (hw' : ws'.Forest) {a : BlockId} (ha : ws.has a) :
    ws'.parent? (φ a) = none ↔ ws.parent? a = none := by
  simp only [Option.eq_none_iff_forall_ne_some, ne_eq, hw.parent?_eq_some_iff,
    hw'.parent?_eq_some_iff]
  constructor
  · rintro hnone y ⟨e, he, rfl, rfl⟩
    exact hnone (φ e.holder) ⟨e.rename φ, (h.edges _).mpr ⟨e, he, rfl⟩, by simp, by simp⟩
  · rintro hnone y ⟨e, he, hchild, -⟩
    obtain ⟨f, hf, rfl⟩ := (h.edges e).mp he
    rw [Edge.child_rename] at hchild
    exact hnone f.holder ⟨f, hf, h.injective hw' (hw.has_child hf) ha hchild, rfl⟩

/-! ## Trees -/

/-- Trees that start at corresponding blocks resemble each other. -/
lemma tree_resembles (hw : ws.Forest) (hw' : ws'.Forest) (hm : ws.Measured) (hm' : ws'.Measured)
    {o : Option BlockId} (ho : ∀ id, o = some id → ws.has id) :
    (ws.tree o).Resembles (ws'.tree (o.map φ)) := by
  cases o with
  | none => simpa using BlockTree.Resembles.nothing
  | some id =>
    have hid := ho id rfl
    clear ho
    induction hweight : Forest.weight ws id using Nat.strong_induction_on generalizing id with
    | _ n ih =>
      obtain ⟨b, hb⟩ := has_iff_block?.mp hid
      obtain ⟨b', hb', hresembles⟩ := h.exists_block? hm hm' hb
      have hunder : ∀ {o : Option BlockId}, (∀ y, o = some y → Under ws.edges y id) →
          (ws.tree o).Resembles (ws'.tree (o.map φ)) := by
        intro o ho
        cases o with
        | none => simpa using BlockTree.Resembles.nothing
        | some y =>
          obtain ⟨e, he, rfl, -⟩ := ho y rfl
          exact ih _ (hweight ▸ hw.weight_lt (ho _ rfl)) _ (hw.has_child he) rfl
      rw [Option.map_some, hw.tree_some hb, hw'.tree_some hb', h.next?_rename hw hw' hid]
      refine .node hresembles (fun s => ?_) (hunder fun y => hw.under_of_next?)
      cases hs : isOwnPort s with
      | true => exact .nothing
      | false =>
        simp only [Bool.false_eq_true, if_false, h.held?_rename hw hw' hid hs]
        exact hunder fun y => hw.under_of_held? hs

/-! ## Loose statements -/

/-- Loose statements correspond to loose statements. -/
lemma loose_perm (hw : ws.Forest) (hw' : ws'.Forest) : (ws.loose.map φ).Perm ws'.loose := by
  have hinj : ∀ a ∈ ws.loose, ∀ b ∈ ws.loose, φ a = φ b → a = b := by
    intro a ha b hb
    obtain ⟨_, ha, -⟩ := mem_loose_iff.mp ha
    obtain ⟨_, hb, -⟩ := mem_loose_iff.mp hb
    exact h.injective hw' (has_of_block? ha) (has_of_block? hb)
  refine (List.perm_ext_iff_of_nodup (hw.nodup_loose.map_on hinj) hw'.nodup_loose).mpr
    fun id' => ?_
  have hkind : ∀ {id b b'}, ws.block? id = some b → ws'.block? (φ id) = some b' →
      b'.isStatement = b.isStatement := fun hb hb' => by
    rw [Block.isStatement, Block.kind, h.type _ _ _ hb hb', Block.isStatement, Block.kind]
  rw [List.mem_map]
  constructor
  · rintro ⟨id, hid, rfl⟩
    obtain ⟨b, hb, hstmt, hnone⟩ := mem_loose_iff.mp hid
    obtain ⟨b', hb'⟩ := has_iff_block?.mp (h.has_rename (has_of_block? hb))
    exact mem_loose_iff.mpr ⟨b', hb', (hkind hb hb').trans hstmt,
      (h.parent?_rename hw hw' (has_of_block? hb)).mpr hnone⟩
  · intro hid
    obtain ⟨b', hb', hstmt, hnone⟩ := mem_loose_iff.mp hid
    obtain ⟨id, hhas, rfl⟩ := h.exists_of_has (has_of_block? hb')
    obtain ⟨b, hb⟩ := has_iff_block?.mp hhas
    exact ⟨id, mem_loose_iff.mpr ⟨b, hb, (hkind hb hb').symm.trans hstmt,
      (h.parent?_rename hw hw' hhas).mp hnone⟩, rfl⟩

end Renames

/-- Without a start block, corresponding loose statements stand in the same order. -/
lemma Mirrors.loose_rename {ws ws' : Workspace} {φ : BlockId → BlockId} (h : ws.Mirrors ws' φ)
    (hw : ws.Forest) (hw' : ws'.Forest) (hstart : ws.ofType .start = []) :
    ws'.loose = ws.loose.map φ := by
  have hsorted : (ws.loose.map φ).Pairwise ws'.Precedes := by
    rw [List.pairwise_map]
    exact (hw.pairwise_orderedTops.sublist ws.loose_sublist).imp_of_mem fun ha hb =>
      h.order hstart _ ha _ hb
  have hsorted' : ws'.loose.Pairwise ws'.Precedes :=
    hw'.pairwise_orderedTops.sublist ws'.loose_sublist
  exact ((h.loose_perm hw hw').eq_of_pairwise
    (fun a b _ _ hab hba => absurd hba (hw'.not_precedes hab)) hsorted hsorted').symm

end Workspace

end BlockText

import BlockText.Proofs.Build.Upholding
import BlockText.Proofs.Compile.Visible
import BlockText.Proofs.Workspace.Members

/-!
# Tidying up

`cleanUp` stacks the blocks that nothing holds below each other, in their order from top to bottom.
The height of a stack comes from its statements, those in slots included, and with the gap between
two stacks it is positive.  So the new places are in the order in which the stacks were before, and
since a program depends on places only through this order, it stays the same.
-/

namespace BlockText

open Syntax Compile

/-! ## Sums of decimal numbers -/

namespace Decimal

lemma value_normalize (m : ℤ) (n : ℕ) : (normalize m n).value = m / 10 ^ n := by
  induction n generalizing m with
  | zero => rfl
  | succ n ih =>
    rw [normalize]
    split
    case isFalse => rfl
    case isTrue h =>
      obtain ⟨k, rfl⟩ := Int.dvd_of_emod_eq_zero h
      rw [ih, Int.mul_ediv_cancel_left _ (by decide), pow_succ]
      push_cast
      field_simp

lemma value_add (a b : Decimal) : (a + b).value = a.value + b.value := by
  have hscale : ∀ (m : ℤ) {n k : ℕ}, n ≤ k → (m : ℚ) / 10 ^ n = m * 10 ^ (k - n) / 10 ^ k := by
    intro m n k h
    obtain ⟨d, rfl⟩ := Nat.exists_eq_add_of_le h
    rw [Nat.add_sub_cancel_left, pow_add]
    field_simp
  change (add a b).value = _
  rw [add, value_normalize, tenTo_eq_pow, tenTo_eq_pow, value, value,
    hscale a.mantissa (le_max_left a.places b.places),
    hscale b.mantissa (le_max_right a.places b.places), ← add_div]
  push_cast
  rfl

lemma value_ofInt (n : ℤ) : (ofInt n).value = n := by simp [value, ofInt]

end Decimal

/-! ## Many entries -/

section

variable {α : Type}

/-- Entries with different keys that are put one after another are found, and the others stay. -/
lemma entryAt?_putAll_of_nodup {es : List (String × α)} (hes : (es.map (·.1)).Nodup)
    (entries : List (String × α)) (key : String) :
    entryAt? (es.foldl (fun entries e => putEntry entries e.1 e.2) entries) key =
      (entryAt? es key).or (entryAt? entries key) := by
  rw [entryAt?_putAll]
  congr 1
  cases hkey : entryAt? es key with
  | none => rwa [entryAt?_eq_none_iff, List.map_reverse, List.mem_reverse, ← entryAt?_eq_none_iff]
  | some value =>
    refine entryAt?_of_mem ?_ (List.mem_reverse.mpr (mem_of_entryAt? hkey))
    rwa [List.map_reverse, List.nodup_reverse]

/-- Putting an entry that is there already changes nothing. -/
lemma putEntry_of_entryAt? {entries : List (String × α)} (hnodup : (entries.map (·.1)).Nodup)
    {key : String} {value : α} (h : entryAt? entries key = some value) :
    putEntry entries key value = entries := by
  have hany : entries.any (·.1 == key) := by
    simpa [List.mem_map] using entryAt?_isSome_iff.mp (h ▸ rfl)
  rw [putEntry, if_pos hany]
  refine (List.map_congr_left fun e he => ?_).trans (List.map_id entries)
  split
  case isFalse => rfl
  case isTrue hkey =>
    obtain rfl := beq_iff_eq.mp hkey
    have hvalue := (entryAt?_of_mem hnodup he).symm.trans h
    exact Prod.ext rfl (Option.some.inj hvalue).symm

/-- Putting entries that are there already changes nothing. -/
lemma putAll_of_entryAt? {es entries : List (String × α)} (hnodup : (entries.map (·.1)).Nodup)
    (h : ∀ e ∈ es, entryAt? entries e.1 = some e.2) :
    es.foldl (fun entries e => putEntry entries e.1 e.2) entries = entries := by
  induction es with
  | nil => rfl
  | cons e rest ih =>
    rw [List.foldl_cons, putEntry_of_entryAt? hnodup (h e List.mem_cons_self)]
    exact ih fun e he => h e (List.mem_cons_of_mem _ he)

end

namespace Workspace

/-! ## The height of a stack -/

namespace Forest

variable {ws : Workspace}

/-- With fuel for all blocks below its first block, a chain is complete. -/
lemma walk_eq_spine (hw : ws.Forest) {fuel : ℕ} {id : BlockId} (hid : ws.has id)
    (hfuel : weight ws id ≤ fuel) :
    walk ws.next? fuel id = (ws.tree (some id)).spine.map (·.1) := by
  induction fuel generalizing id with
  | zero => exact absurd (weight_pos hid) (by omega)
  | succ fuel ih =>
    obtain ⟨b, hb⟩ := has_iff_block?.mp hid
    rw [hw.tree_some hb, BlockTree.spine, List.map_cons, walk]
    congr 1
    cases hnext : ws.next? id with
    | none =>
      rw [tree_none]
      rfl
    | some other =>
      have hlt := hw.weight_lt (hw.under_of_next? hnext)
      obtain ⟨c, hc, -⟩ := hw.isStatement_of_next? hnext
      exact ih (has_of_block? hc) (by omega)

lemma chain_eq_spine (hw : ws.Forest) {id : BlockId} (hid : ws.has id) :
    ws.chain id = (ws.tree (some id)).spine.map (·.1) := by
  rw [chain, if_pos hid]
  exact hw.walk_eq_spine hid (weight_le ws id)

/-- The rows of a stack are its blocks, each with the rows of its slots. -/
private lemma rowsWithin_succ (ws : Workspace) (fuel : ℕ) (id : BlockId) :
    ws.rowsWithin (fuel + 1) id = ((ws.chain id).map fun member =>
      1 + ((((ws.block? member).map (·.statements)).getD []).map fun slot =>
        (ws.held? member slot).elim 0 (ws.rowsWithin fuel)).sum).sum := by
  refine congrArg List.sum (List.map_congr_left fun member _ => ?_)
  refine congrArg (1 + List.sum ·) (List.map_congr_left fun slot _ => ?_)
  cases ws.held? member slot <;> rfl

/-- With fuel for all blocks below, the rows of a stack are its statements, those in slots
included. -/
lemma rowsWithin_eq (hw : ws.Forest) {fuel : ℕ} {id : BlockId} (hid : ws.has id)
    (hfuel : weight ws id ≤ fuel) :
    ws.rowsWithin fuel id = (ws.tree (some id)).members.length := by
  induction fuel generalizing id with
  | zero => exact absurd (weight_pos hid) (by omega)
  | succ fuel ihslots =>
    rw [rowsWithin_succ, hw.chain_eq_spine hid, List.map_map]
    -- Along the chain, every block counts itself and what is in its slots.
    induction ht : ws.tree (some id) generalizing id with
    | nothing => rfl
    | node id' b slot next _ ihnext =>
      obtain ⟨hid', hb, hslot, hnext⟩ := hw.of_tree_eq_node ht
      obtain rfl := Option.some.inj hid'
      rw [BlockTree.spine, List.map_cons, List.sum_cons,
        (BlockTree.members_node_perm id b slot next).length_eq, List.length_cons,
        List.length_append, List.length_flatMap, Nat.add_comm _ 1, ← Nat.add_assoc]
      congr 1
      · simp only [Function.comp_apply, hb, Option.map_some, Option.getD_some]
        congr 2
        refine List.map_congr_left fun s hs => ?_
        rw [hw.slot_eq_tree hb hslot hs]
        cases hheld : ws.held? id s with
        | none => rw [tree_none, BlockTree.members_nothing, List.length_nil, Option.elim_none]
        | some first =>
          have hlt := hw.weight_lt
            (hw.under_of_held? ((hw.sound id b hb).own_statements s hs) hheld)
          obtain ⟨c, hc, -⟩ := hw.isStatement_of_held? hb hs hheld
          exact ihslots (has_of_block? hc) (by omega)
      · cases hfollow : ws.next? id with
        | none =>
          rw [hfollow, tree_none] at hnext
          rw [hnext]
          rfl
        | some other =>
          have hlt := hw.weight_lt (hw.under_of_next? hfollow)
          obtain ⟨c, hc, -⟩ := hw.isStatement_of_next? hfollow
          rw [hfollow] at hnext
          exact ihnext (has_of_block? hc) (by omega) hnext.symm

/-- The rows of a stack are its statements, those in slots included. -/
lemma rows_eq (hw : ws.Forest) {id : BlockId} (hid : ws.has id) :
    ws.rows id = (ws.tree (some id)).members.length :=
  hw.rowsWithin_eq hid (weight_le ws id)

end Forest

/-! ## Places below each other -/

/-- How far below a stack the next one starts. -/
def pitch (ws : Workspace) (id : BlockId) : ℕ := ws.rows id * Edit.rowHeight + Edit.stackGap

/-- The workspace with its stacks below each other. -/
def tidied (ws : Workspace) (origin : Point) : Workspace :=
  { ws with
    positions := (Edit.stackedFrom ws origin.x origin.y ws.orderedTops).foldl
      (fun positions e => putEntry positions e.1 e.2) ws.positions }

lemma run_cleanUp (ws : Workspace) (origin : Point) :
    (Edit.cleanUp origin).run ws = (.ok (), ws.tidied origin) := rfl

section

variable (ws : Workspace) (x y : Decimal)

/-- The stacks that get places. -/
lemma keys_stackedFrom (ids : List BlockId) :
    (Edit.stackedFrom ws x y ids).map (·.1) = ids := by
  induction ids generalizing y with
  | nil => rfl
  | cons id rest ih => rw [Edit.stackedFrom, List.map_cons, ih]

/-- Stacks are in line. -/
lemma x_of_mem_stackedFrom {ids : List BlockId} {e : BlockId × Point}
    (he : e ∈ Edit.stackedFrom ws x y ids) : e.2.x = x := by
  induction ids generalizing y with
  | nil => cases he
  | cons id rest ih =>
    rcases List.mem_cons.mp he with rfl | he
    · rfl
    · exact ih _ he

/-- The next stack starts below the one before, at the distance that its height asks for. -/
lemma isChain_stackedFrom (ids : List BlockId) :
    (Edit.stackedFrom ws x y ids).IsChain fun e f : BlockId × Point =>
      f.2.y.value = e.2.y.value + ws.pitch e.1 := by
  induction ids generalizing y with
  | nil => exact .nil
  | cons id rest ih =>
    refine (ih _).cons fun f hf => ?_
    cases rest with
    | nil => cases hf
    | cons other rest =>
      obtain rfl := Option.some.inj hf
      change (y + Decimal.ofInt (ws.pitch id : ℕ)).value = _
      rw [Decimal.value_add, Decimal.value_ofInt, Int.cast_natCast]

end

lemma pitch_pos (ws : Workspace) (id : BlockId) : 0 < ws.pitch id :=
  Nat.lt_of_lt_of_le (by decide) (Nat.le_add_left Edit.stackGap _)

namespace Forest

variable {ws : Workspace} (hw : ws.Forest) (origin : Point)

include hw

lemma tidied : (ws.tidied origin).Forest :=
  (Edit.keepsForest_cleanUp origin ws hw).run

lemma nodup_orderedTops : ws.orderedTops.Nodup :=
  (List.mergeSort_perm _ _).nodup_iff.mpr (hw.ids_nodup.sublist List.filter_sublist)

/-- What is stacked lies where it was put. -/
lemma position_tidied {e : BlockId × Point}
    (he : e ∈ Edit.stackedFrom ws origin.x origin.y ws.orderedTops) :
    (ws.tidied origin).position e.1 = e.2 := by
  have hnodup : ((Edit.stackedFrom ws origin.x origin.y ws.orderedTops).map (·.1)).Nodup := by
    rw [keys_stackedFrom]
    exact hw.nodup_orderedTops
  rw [position, Workspace.tidied, entryAt?_putAll_of_nodup hnodup, entryAt?_of_mem hnodup he]
  rfl

/-- Everything else stays where it was. -/
lemma position_tidied_of_not_mem {id : BlockId} (hid : id ∉ ws.orderedTops) :
    (ws.tidied origin).position id = ws.position id := by
  have hnodup : ((Edit.stackedFrom ws origin.x origin.y ws.orderedTops).map (·.1)).Nodup := by
    rw [keys_stackedFrom]
    exact hw.nodup_orderedTops
  rw [position, position, Workspace.tidied, entryAt?_putAll_of_nodup hnodup,
    entryAt?_eq_none_iff.mpr (by rwa [keys_stackedFrom]), Option.none_or]

/-- The next stack starts below the one before, at the distance that its height asks for. -/
lemma isChain_tidied : ws.orderedTops.IsChain fun above below =>
    ((ws.tidied origin).position below).y.value =
      ((ws.tidied origin).position above).y.value + ws.pitch above := by
  have hkeys := keys_stackedFrom ws origin.x origin.y ws.orderedTops
  rw [← hkeys, List.isChain_map]
  refine (isChain_stackedFrom ws origin.x origin.y ws.orderedTops).imp_of_mem_imp
    fun e f he hf h => ?_
  rwa [hw.position_tidied origin he, hw.position_tidied origin hf]

/-- Stacks start further and further down. -/
lemma pairwise_tidied : ws.orderedTops.Pairwise fun above below =>
    ((ws.tidied origin).position above).y.value < ((ws.tidied origin).position below).y.value := by
  rw [← List.pairwise_map (f := fun id => ((ws.tidied origin).position id).y.value)
    (R := fun a b => a < b), ← List.isChain_iff_pairwise, List.isChain_map]
  refine (hw.isChain_tidied origin).imp fun above below h => ?_
  have hpos : (0 : ℚ) < (ws.pitch above : ℕ) := Nat.cast_pos.mpr (ws.pitch_pos above)
  linarith

/-- The order from top to bottom stays. -/
lemma orderedTops_tidied : (ws.tidied origin).orderedTops = ws.orderedTops := by
  have hperm : (ws.tidied origin).orderedTops.Perm ws.orderedTops :=
    (List.mergeSort_perm _ _).trans (List.mergeSort_perm _ _).symm
  refine hperm.eq_of_pairwise
    (fun a b _ _ hab hba => absurd hba ((hw.tidied origin).not_precedes hab))
    (hw.tidied origin).pairwise_orderedTops ((hw.pairwise_tidied origin).imp fun h => ?_)
  exact .inl (Point.before_iff_rank_lt.mpr (Prod.Lex.toLex_lt_toLex.mpr (.inl h)))

/-! ## What stays -/

/-- Blocks are held as before. -/
lemma tree_tidied (o : Option BlockId) : (ws.tidied origin).tree o = ws.tree o :=
  hw.tree_congr (hw.tidied origin) fun _ _ _ _ => ⟨rfl, fun _ _ => rfl, rfl⟩

lemma rows_tidied {id : BlockId} (hid : ws.has id) :
    (ws.tidied origin).rows id = ws.rows id := by
  rw [hw.rows_eq hid, (hw.tidied origin).rows_eq hid, hw.tree_tidied]

/-- The same blocks would be put in the same places. -/
lemma stackedFrom_tidied {ids : List BlockId} (hids : ∀ id ∈ ids, ws.has id) (x y : Decimal) :
    Edit.stackedFrom (ws.tidied origin) x y ids = Edit.stackedFrom ws x y ids := by
  induction ids generalizing y with
  | nil => rfl
  | cons id rest ih =>
    rw [Edit.stackedFrom, Edit.stackedFrom, hw.rows_tidied origin (hids id List.mem_cons_self),
      ih fun id hid => hids id (List.mem_cons_of_mem _ hid)]

/-- Tidying up once more changes nothing. -/
lemma tidied_tidied : (ws.tidied origin).tidied origin = ws.tidied origin := by
  have hhas : ∀ id ∈ ws.orderedTops, ws.has id := fun id hid =>
    (mem_tops_iff.mp (List.mem_mergeSort.mp hid)).1
  have hnodup : ((Edit.stackedFrom ws origin.x origin.y ws.orderedTops).map (·.1)).Nodup := by
    rw [keys_stackedFrom]
    exact hw.nodup_orderedTops
  have hsame : ((ws.tidied origin).tidied origin).positions = (ws.tidied origin).positions := by
    change (Edit.stackedFrom (ws.tidied origin) origin.x origin.y
      (ws.tidied origin).orderedTops).foldl _ _ = _
    rw [hw.orderedTops_tidied, hw.stackedFrom_tidied origin hhas]
    refine putAll_of_entryAt? (hw.tidied origin).positions_nodup fun e he => ?_
    rw [Workspace.tidied, entryAt?_putAll_of_nodup hnodup, entryAt?_of_mem hnodup he]
    rfl
  change ({ ws.tidied origin with
    positions := ((ws.tidied origin).tidied origin).positions } : Workspace) = _
  rw [hsame]

/-- The program is read in the same way. -/
lemma program_tidied (indentWidth : ℤ) :
    program (ws.tidied origin) indentWidth = program ws indentWidth := by
  have hloose : looseStatements (ws.tidied origin) = looseStatements ws := by
    rw [looseStatements, hw.orderedTops_tidied]
    rfl
  have htop : topStatements (ws.tidied origin) = topStatements ws := by
    rw [topStatements, topStatements, hloose]
    simp only [hw.tree_tidied]
    rfl
  rw [program, program, htop]

end Forest

/-- A workspace mirrors itself. -/
lemma mirrors_self (ws : Workspace) : ws.Mirrors ws id where
  ids := by rw [List.map_id]
  type _ _ _ hb hb' := by rw [Option.some.inj (hb.symm.trans hb')]
  field? _ _ _ hb hb' _ := by rw [Option.some.inj (hb.symm.trans hb')]
  edges e := by simp [Edge.rename]
  order _ _ _ _ _ h := h

/-- One workspace is the other one with its stacks below each other. -/
structure TidiedTo (ws : Workspace) (origin : Point) (ws' : Workspace) : Prop where
  /-- The order from top to bottom stays. -/
  orderedTops : ws'.orderedTops = ws.orderedTops
  /-- All stacks start at one abscissa. -/
  x : ∀ top ∈ ws.orderedTops, (ws'.position top).x = origin.x
  first : ∀ top ∈ ws.orderedTops.head?, (ws'.position top).y = origin.y
  /-- A stack starts below the one before: a row for each statement of that stack, those in slots
  included, and the gap. -/
  distance : ws.orderedTops.IsChain fun above below =>
    (ws'.position below).y.value = (ws'.position above).y.value +
      ((ws.tree (some above)).members.length * Edit.rowHeight + Edit.stackGap : ℕ)
  increasing : ws.orderedTops.Pairwise fun above below =>
    (ws'.position above).y.value < (ws'.position below).y.value
  /-- Nothing but the places of the stacks changes. -/
  rest : ∀ id ∉ ws.orderedTops, ws'.position id = ws.position id
  blocks : ws'.blocks = ws.blocks
  links : ws'.links = ws.links
  /-- The programs are the same up to identities, or reading them fails for the same reason. -/
  compile : ∀ counter counter' indentWidth,
    outcome Program.bare (ws'.compile counter' indentWidth).1 =
      outcome Program.bare (ws.compile counter indentWidth).1

/-- **Tidying up never changes the program.**  Whatever an empty workspace has gone through and
wherever it is tidied up: its stacks come below each other, in the order in which they were, at
distances that their heights ask for; the program that is read stays the same, up to identities, or
is refused for the same reason; and tidying up once more changes nothing. -/
theorem cleanUp_applyAll (watched : Bool) (muted : ℕ) (actions : List Action) (origin : Point) :
    ∃ ws', (Edit.cleanUp origin).run (Action.applyAll { watched, muted } actions) = (.ok (), ws') ∧
      (Action.applyAll { watched, muted } actions).TidiedTo origin ws' ∧
      (Edit.cleanUp origin).run ws' = (.ok (), ws') := by
  have hw := forest_of_actions watched muted actions
  have hm := measured_of_actions watched muted actions
  generalize Action.applyAll { watched, muted } actions = ws at hw hm
  refine ⟨ws.tidied origin, run_cleanUp ws origin, ?_, ?_⟩
  · have hmem : ∀ {top}, top ∈ ws.orderedTops →
        ∃ e ∈ Edit.stackedFrom ws origin.x origin.y ws.orderedTops, e.1 = top := by
      intro top htop
      rwa [← keys_stackedFrom ws origin.x origin.y ws.orderedTops, List.mem_map] at htop
    exact
    { orderedTops := hw.orderedTops_tidied origin
      x := by
        intro top htop
        obtain ⟨e, he, rfl⟩ := hmem htop
        rw [hw.position_tidied origin he, x_of_mem_stackedFrom ws _ _ he]
      first := by
        intro top htop
        obtain ⟨rest, hrest⟩ := List.head?_eq_some_iff.mp htop
        have he : (top, origin) ∈ Edit.stackedFrom ws origin.x origin.y ws.orderedTops := by
          rw [hrest]
          exact List.mem_cons_self
        rw [hw.position_tidied origin he]
      distance := by
        refine (hw.isChain_tidied origin).imp_of_mem_imp fun above below habove _ h => ?_
        have hhas := (mem_tops_iff.mp (List.mem_mergeSort.mp habove)).1
        rw [h, pitch, hw.rows_eq hhas]
      increasing := hw.pairwise_tidied origin
      rest := fun id hid => hw.position_tidied_of_not_mem origin hid
      blocks := rfl
      links := rfl
      compile := by
        intro counter counter' indentWidth
        rw [Workspace.compile, hw.program_tidied]
        exact ((ws.mirrors_self.agree_program hw hw hm hm indentWidth) counter counter').symm }
  · rw [run_cleanUp, hw.tidied_tidied]

end Workspace

end BlockText

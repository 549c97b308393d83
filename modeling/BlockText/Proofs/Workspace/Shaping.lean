import BlockText.Proofs.Workspace.Measuring
import BlockText.Proofs.Workspace.Heeding

/-!
# Counts and the slots that follow them

The slots of a block are those of its type and those that its counts ask for, whatever was written
to its fields before.  A value that is no count is refused before anything is changed.  Another
count drops the connections at the slots that go, so what was in them comes loose, and leaves all
other connections alone; the slots that come are empty.
-/

namespace BlockText

/-! ## Values for counts -/

/-- The count that a value denotes: a natural number, or a text of digits. -/
def Datum.count? : Datum → Option ℕ
  | .int n => if n < 0 then none else some n.toNat
  | .text s =>
    if Text.isDigits (Text.trim s) then
      (Text.readInteger? (Text.trim s)).map Int.toNat
    else none
  | _ => none

/-- Two numbers are equal as data iff they are the same. -/
lemma Datum.equiv_int {m n : ℤ} : (Datum.int m).equiv (.int n) = true ↔ m = n := by
  simp [Datum.equiv, Datum.number?, Decimal.equal, Decimal.ofInt, Decimal.tenTo]

namespace Block

/-- The slot goes when the block becomes the other one. -/
def Loses (b b' : Block) (slot : String) : Prop :=
  slot ∈ b.values ∧ slot ∉ b'.values ∨ slot ∈ b.statements ∧ slot ∉ b'.statements

/-- The block has a slot of this name. -/
def HasSlot (b : Block) (slot : String) : Prop := slot ∈ b.values ∨ slot ∈ b.statements

end Block

/-! ## Setting a count -/

namespace Edit

open Workspace

variable {ws : Workspace}

/-- A value for a count is refused unless it denotes one. -/
lemma leads_countValue {P : Except WorkspaceError Datum → Workspace → Prop} (name : String)
    (value : Datum) (hcount : ∀ n, value.count? = some n → P (.ok (.int n)) ws)
    (hnone : value.count? = none → ∀ e, P (.error e) ws) : Leads (countValue name value) ws P := by
  cases value with
  | text s =>
    unfold countValue
    dsimp only
    split
    case isFalse hdigits => exact hnone (by simp [Datum.count?, hdigits]) _
    case isTrue hdigits =>
      rw [map_eq_pure_bind, leads_bind]
      unfold Datum.toInteger
      dsimp only
      cases hread : Text.readInteger? (Text.trim s) with
      | none => exact hnone (by simp [Datum.count?, hread]) _
      | some n =>
        obtain ⟨k, rfl⟩ := exists_natural hdigits hread
        exact hcount k (by simp [Datum.count?, hdigits, hread])
  | int n =>
    unfold countValue
    dsimp only
    split
    case isTrue hneg => exact hnone (by simp [Datum.count?, hneg]) _
    case isFalse hpos =>
      have hn : ((n.toNat : ℕ) : ℤ) = n := Int.toNat_of_nonneg (by omega)
      have hok := hcount n.toNat (by simp [Datum.count?, hpos])
      rwa [hn] at hok
  | null | bool | float | surrogates | list | object | record => exact hnone rfl _

/-- Dropping the connections at some ports of a block. -/
lemma leads_detachEach {P : Except WorkspaceError PUnit → Workspace → Prop} {id : BlockId}
    (ports : List String)
    (h : ∀ l : Links, (∀ e, e ∈ l.edges ↔ e ∈ ws.edges ∧
      ∀ port ∈ ports, e.stop ≠ ⟨id, port⟩ ∧ e.start ≠ ⟨id, port⟩) →
        P (.ok ⟨⟩) { ws with links := l }) :
    Leads (ports.forM (detach id)) ws P := by
  induction ports generalizing ws with
  | nil => exact h ws.links (by simp [Workspace.edges])
  | cons port rest ih =>
    change Leads (detach id port >>= fun _ => rest.forM (detach id)) ws P
    rw [leads_bind]
    refine ih fun l hl => h l fun e => ?_
    rw [hl]
    change e ∈ ((ws.drop (ws.incoming id port)).drop
      ((ws.drop (ws.incoming id port)).outgoing id port)).edges ∧ _ ↔ _
    rw [mem_drop_outgoing, mem_drop_incoming, List.forall_mem_cons]
    tauto

/-- Bringing a block in line with its counts drops the connections at the slots that go. -/
lemma leads_reshape {P : Except WorkspaceError Unit → Workspace → Prop} {id : BlockId}
    {b b' : Block} (hb' : b.reshape = .ok b')
    (h : ∀ l : Links, (∀ e, e ∈ l.edges ↔ e ∈ ws.edges ∧
      ∀ slot, b.Loses b' slot → e.stop ≠ ⟨id, slot⟩ ∧ e.start ≠ ⟨id, slot⟩) →
        P (.ok ()) ({ ws with links := l }.put id b')) :
    Leads (reshape id b) ws P := by
  unfold reshape
  rw [hb']
  simp only [leads_bind]
  refine leads_ofFault (fun _ hok => ?_) fun _ herror => by cases herror
  obtain rfl := Except.ok.inj hok
  refine leads_detachEach _ fun l hl => ?_
  refine leads_detachEach _ fun l' hl' => ?_
  refine h l' fun e => ?_
  rw [hl']
  change e ∈ l.edges ∧ _ ↔ _
  rw [hl, and_assoc]
  refine and_congr_right fun _ => ?_
  constructor
  · rintro ⟨hvalues, hstatements⟩ slot (hslot | hslot)
    · exact hvalues slot (by simpa using hslot)
    · exact hstatements slot (by simpa using hslot)
  · intro hall
    exact ⟨fun slot hslot => hall slot (.inl (by simpa using hslot)),
      fun slot hslot => hall slot (.inr (by simpa using hslot))⟩

/-- Setting a count either is refused, or changes nothing because the count is the same, or brings
the slots of the block in line with the new count. -/
lemma leads_setCount {P : Except WorkspaceError Unit → Workspace → Prop} {id : BlockId} {b : Block}
    {name : String} (value : Datum) (hb : ws.block? id = some b) (hmeasured : b.Measured)
    (hcount : b.type.isCount name)
    (hrefused : value.count? = none → ∀ e, P (.error e) ws)
    (hsame : ∀ n : ℕ, value.count? = some n → b.field? name = some (.int n) → P (.ok ()) ws)
    (hchanged : ∀ (n : ℕ) (b' : Block) (l : Links) (ws' : Workspace), value.count? = some n →
      b.field? name ≠ some (.int n) → (b.writeField name (.int n)).reshape = .ok b' →
      (∀ e, e ∈ l.edges ↔ e ∈ ws.edges ∧
        ∀ slot, b.Loses b' slot → e.stop ≠ ⟨id, slot⟩ ∧ e.start ≠ ⟨id, slot⟩) →
      SameGraph ({ ws with links := l }.put id b') ws' →
      P (.ok ()) ws' ∧ (ws.Followed → ∀ f, P (.error (.fault f)) ws')) :
    Leads (setField id name value) ws P := by
  have htype : b.type ≠ .string := by
    intro ht
    rw [ht] at hcount
    exact absurd hcount (by simp [BlockType.isCount, BlockType.countFields])
  have hforget : Leads (forgetSpelling id name value) ws fun r ws' => r = .ok () ∧ ws' = ws := by
    unfold forgetSpelling
    simp only [leads_bind]
    refine leads_require (fun c hc => ?_) fun hnone => by rw [hb] at hnone; cases hnone
    rw [hb, Option.some.injEq] at hc
    subst hc
    dsimp only
    rw [if_neg (by simp [htype])]
    exact ⟨rfl, rfl⟩
  unfold setField
  simp only [leads_bind]
  refine hforget.mono ?_
  rintro _ ws₁ ⟨rfl, rfl⟩
  refine leads_require (fun c hc => ?_) fun hnone => by rw [hb] at hnone; cases hnone
  rw [hb, Option.some.injEq] at hc
  subst hc
  dsimp only [fieldValue]
  rw [if_pos hcount]
  refine leads_countValue name value (fun n hn => ?_) fun hnone e => hrefused hnone e
  by_cases hold : b.field? name = some (.int n)
  · have hequiv : (b.field? name).any (·.equiv (.int n)) = true := by
      rw [hold]
      exact Datum.equiv_int.mpr rfl
    dsimp only
    rw [if_neg (by simp [hequiv])]
    exact hsame n hn hold
  · have hequiv : (b.field? name).any (·.equiv (.int n)) = false := by
      cases hfield : b.field? name with
      | none => rfl
      | some d =>
        obtain ⟨m, rfl⟩ := hmeasured.counted.counts name hcount d hfield
        rw [Option.any_some, Bool.eq_false_iff, Ne, Datum.equiv_int]
        rintro heq
        exact hold (by rw [hfield, heq])
    obtain ⟨b', hb', -⟩ := hmeasured.reshape_writeField name n
    dsimp only
    rw [if_pos (by simp [hequiv])]
    unfold updateShaped
    have hcount' : (b.writeField name (.int n)).type.isCount name = true := hcount
    simp only [leads_bind, if_pos hcount']
    refine leads_modify ?_
    refine leads_reshape hb' fun l hl => ?_
    have hput :
        ({ ws₁.put id (b.writeField name (.int n)) with links := l } : Workspace).put id b' =
          ({ ws₁ with links := l } : Workspace).put id b' := by
      unfold Workspace.put
      congr 1
      exact putEntry_putEntry _ _ (has_iff_mem_ids.mp (has_of_block? hb))
    rw [hput]
    refine leads_fire (fun ws' h => ?_) fun hfollowed f ws' h => ?_
    · exact (hchanged n b' l ws' hn hold hb' hl h).1
    · exact (hchanged n b' l ws' hn hold hb' hl h).2 ⟨hfollowed.muted, hfollowed.watched⟩ f

end Edit

/-! ## Connections at the slots of a block -/

namespace Workspace

variable {ws ws' : Workspace} {id : BlockId} {b b' : Block} {name : String} {n : ℕ}

/-- A connection at a slot puts something into that slot. -/
lemma Forest.at_slot_iff (hw : ws.Forest) {e : Edge} (he : e ∈ ws.edges) {slot : String}
    (hown : isOwnPort slot = false) :
    e.stop = ⟨id, slot⟩ ∨ e.start = ⟨id, slot⟩ ↔ e.holder = id ∧ e.slot = slot := by
  have hport : slot ≠ "output" ∧ slot ≠ "previous" := by
    constructor <;> rintro rfl <;> simp [isOwnPort] at hown
  cases hk : e.kind with
  | value =>
    have hstart : e.start ≠ ⟨id, slot⟩ := fun h =>
      hport.1 ((congrArg Port.name h).symm.trans (hw.value_cases he hk).1)
    simp only [hstart, or_false, Edge.holder, Edge.slot, hk, Edge.stop, Port.mk.injEq]
  | statement =>
    have hstop : e.stop ≠ ⟨id, slot⟩ := fun h =>
      hport.2 ((congrArg Port.name h).symm.trans (hw.statement_cases he hk).1)
    simp only [hstop, false_or, Edge.holder, Edge.slot, hk, Edge.start, Port.mk.injEq]

/-- A block has the slots at which something is plugged in. -/
lemma Forest.hasSlot (hw : ws.Forest) {e : Edge} (he : e ∈ ws.edges)
    (hb : ws.block? e.holder = some b) (hown : isOwnPort e.slot = false) : b.HasSlot e.slot := by
  cases hk : e.kind with
  | value =>
    obtain ⟨-, -, -, t, -, ht, -, hvalue⟩ := hw.value_cases he hk
    simp only [Edge.holder, hk] at hb
    rw [hb, Option.some.injEq] at ht
    subst ht
    simp only [Edge.slot, hk]
    exact .inl (by simpa [Block.hasValueSlot] using hvalue)
  | statement =>
    obtain ⟨-, -, s, -, hs, -, hslot, -⟩ := hw.statement_cases he hk
    simp only [Edge.holder, hk] at hb
    simp only [Edge.slot, hk] at hown ⊢
    rw [hb, Option.some.injEq] at hs
    subst hs
    simp only [Block.hasStatementSlot, Bool.or_eq_true, Bool.and_eq_true, beq_iff_eq,
      List.contains_iff_mem] at hslot
    rcases hslot with hmem | ⟨-, hnext⟩
    · exact .inr hmem
    · rw [hnext] at hown
      exact absurd hown (by decide)

lemma Forest.own_of_hasSlot (hw : ws.Forest) (hb : ws.block? id = some b) {slot : String}
    (h : b.HasSlot slot) : isOwnPort slot = false :=
  h.elim ((hw.sound id b hb).own_values slot) ((hw.sound id b hb).own_statements slot)

/-! ## What a new count does -/

/-- What a new count of a block does to a workspace. -/
structure Resized (ws ws' : Workspace) (id : BlockId) (b b' : Block) (name : String) (n : ℕ) :
    Prop where
  /-- The block has the new count, and the slots and fields that its counts ask for. -/
  reshape : (b.writeField name (.int n)).reshape = .ok b'
  block : ws'.block? id = some b'
  count : name ∈ b.type.fields.map (·.1) → b'.field? name = some (.int n)
  /-- A field that the block still has holds what it held. -/
  fields : ∀ other d d', other ≠ name → b.field? other = some d → b'.field? other = some d' → d' = d
  others : ∀ other, other ≠ id → ws'.block? other = ws.block? other
  /-- Exactly the connections at slots that go are dropped. -/
  edges : ∀ e, e ∈ ws'.edges ↔ e ∈ ws.edges ∧ ¬ (e.holder = id ∧ b.Loses b' e.slot)
  /-- What was in a slot that stays is still there. -/
  kept : ∀ slot, b.HasSlot slot → ¬ b.Loses b' slot → ws'.held? id slot = ws.held? id slot
  /-- What was in a slot that goes is in the workspace, and nothing holds it. -/
  loose : ∀ slot child, b.Loses b' slot → ws.held? id slot = some child → child ∈ ws'.tops
  /-- The slots that come are empty. -/
  empty : ∀ slot, b'.HasSlot slot → ¬ b.HasSlot slot → ws'.held? id slot = none
  positions : ws'.positions = ws.positions
  selected : ws'.selected = ws.selected

/-- The changes that a new count makes, seen from the blocks and what their slots hold. -/
lemma Resized.of_graph (hw : ws.Forest) (hw' : ws'.Forest) (hb : ws.block? id = some b)
    (hmeasured : b.Measured) (hb' : (b.writeField name (.int n)).reshape = .ok b')
    {l : Links} (hl : ∀ e, e ∈ l.edges ↔ e ∈ ws.edges ∧
      ∀ slot, b.Loses b' slot → e.stop ≠ ⟨id, slot⟩ ∧ e.start ≠ ⟨id, slot⟩)
    (hsame : Edit.SameGraph ({ ws with links := l }.put id b') ws') :
    Resized ws ws' id b b' name n := by
  have hblock : ∀ other, ws'.block? other = if other = id then some b' else ws.block? other := by
    intro other
    rw [block?, hsame.blocks]
    exact block?_put ws id other b'
  have hblock' : ws'.block? id = some b' := by rw [hblock, if_pos rfl]
  have hlost : ∀ {slot}, b.Loses b' slot → b.HasSlot slot :=
    fun h => h.imp And.left And.left
  have hedges : ∀ e, e ∈ ws'.edges ↔ e ∈ ws.edges ∧ ¬ (e.holder = id ∧ b.Loses b' e.slot) := by
    intro e
    rw [Workspace.edges, hsame.links]
    refine (hl e).trans (and_congr_right fun he => ⟨?_, fun h slot hslot => ?_⟩)
    · rintro hall ⟨hid, hslot⟩
      have hat := (hw.at_slot_iff he (hw.own_of_hasSlot hb (hlost hslot))).mpr ⟨hid, rfl⟩
      exact hat.elim (hall _ hslot).1 (hall _ hslot).2
    · rw [← not_or, hw.at_slot_iff he (hw.own_of_hasSlot hb (hlost hslot))]
      rintro ⟨hid, rfl⟩
      exact h ⟨hid, hslot⟩
  have hcounted : (b.writeField name (.int n)).Counted :=
    hmeasured.counted.writeField fun _ => ⟨n, rfl⟩
  obtain ⟨b'', shape, hb'', -, -, -, -, -, hkeep, hcases⟩ := hcounted.reshape
  obtain rfl := Except.ok.inj (hb'.symm.trans hb'')
  refine ⟨hb', hblock', fun hfixed => ?_, fun other d d' hne hd hd' => ?_, fun other hne => ?_,
    hedges, fun slot hslot hstays => ?_, fun slot child hslot hheld => ?_,
    fun slot hnew hold => ?_, hsame.positions, hsame.selected⟩
  · refine hkeep name (.int n) (by rw [Block.field?_writeField, if_pos rfl]) ?_
    rw [List.map_append]
    exact List.mem_append_left _ hfixed
  · have hfield : (b.writeField name (.int n)).field? other = some d := by
      rw [Block.field?_writeField, if_neg hne, hd]
    rcases hcases other d' hd' with hold | hadded
    · exact Option.some.inj (hold.symm.trans hfield)
    · have hmem : other ∈ (b.type.fields ++ shape.fields).map (·.1) :=
        List.mem_map.mpr ⟨(other, d'), List.mem_append_right _ hadded, rfl⟩
      exact Option.some.inj (hd'.symm.trans (hkeep other d hfield hmem))
  · rw [hblock, if_neg hne]
  · have hown := hw.own_of_hasSlot hb hslot
    refine Option.ext fun y => ?_
    rw [hw'.held?_eq_some_iff hown, hw.held?_eq_some_iff hown]
    refine exists_congr fun e => ⟨?_, ?_⟩
    · rintro ⟨he, h⟩
      exact ⟨((hedges e).mp he).1, h⟩
    · rintro ⟨he, hchild, hholder, rfl⟩
      exact ⟨(hedges e).mpr ⟨he, fun h => hstays h.2⟩, hchild, hholder, rfl⟩
  · obtain ⟨e, he, rfl, hholder, rfl⟩ :=
      (hw.held?_eq_some_iff (hw.own_of_hasSlot hb (hlost hslot))).mp hheld
    refine mem_tops_iff.mpr ⟨?_, ?_⟩
    · obtain ⟨c, hc⟩ := has_iff_block?.mp (hw.has_child he)
      refine has_iff_block?.mpr ?_
      rw [hblock]
      split
      · exact ⟨b', rfl⟩
      · exact ⟨c, hc⟩
    · rw [Option.eq_none_iff_forall_ne_some]
      intro a ha
      obtain ⟨f, hf, hchild, -⟩ := hw'.parent?_eq_some_iff.mp ha
      obtain ⟨hf, hstays⟩ := (hedges f).mp hf
      obtain rfl := hw.eq_of_child hf he hchild
      exact hstays ⟨hholder, hslot⟩
  · have hown := hw'.own_of_hasSlot hblock' hnew
    rw [Option.eq_none_iff_forall_ne_some]
    intro y hy
    obtain ⟨e, he, -, rfl, rfl⟩ := (hw'.held?_eq_some_iff hown).mp hy
    exact hold (hw.hasSlot ((hedges e).mp he).1 hb hown)

/-- How setting a count of a block ends. -/
inductive CountSet (ws : Workspace) (id : BlockId) (b : Block) (name : String) (value : Datum) :
    Except WorkspaceError Unit → Workspace → Prop
  /-- A value that denotes no count is refused, and nothing has changed. -/
  | refused (e : WorkspaceError) (h : value.count? = none) :
    CountSet ws id b name value (.error e) ws
  /-- The same count changes nothing. -/
  | same (n : ℕ) (h : value.count? = some n) (hold : b.field? name = some (.int n)) :
    CountSet ws id b name value (.ok ()) ws
  /-- Another count resizes the block; only those who are told of it can object afterwards. -/
  | resized (n : ℕ) (b' : Block) (ws' : Workspace) (r : Except WorkspaceError Unit)
    (h : value.count? = some n) (hnew : b.field? name ≠ some (.int n))
    (hresized : Resized ws ws' id b b' name n)
    (hr : r = .ok () ∨ ws.Followed ∧ ∃ f, r = .error (.fault f)) :
    CountSet ws id b name value r ws'

/-- Setting a count in a reachable workspace. -/
lemma countSet_setField (hws : ws.Reachable) (hb : ws.block? id = some b)
    (hname : b.type.isCount name) (value : Datum) :
    CountSet ws id b name value ((Edit.setField id name value).run ws).1
      ((Edit.setField id name value).run ws).2 := by
  have hmeasured := hws.measured.of_block? hb
  have hforest' := (Edit.keepsForest_setField id name value ws hws.forest).run
  suffices h : Edit.Leads (Edit.setField id name value) ws fun r ws' =>
      ws'.Forest → CountSet ws id b name value r ws' from h hforest'
  refine Edit.leads_setCount value hb hmeasured hname (fun hnone e _ => .refused e hnone)
    (fun n hn hold _ => .same n hn hold) fun n b' l ws' hn hnew hb' hl hsame => ?_
  have hresized := fun hw' => Resized.of_graph hws.forest hw' hb hmeasured hb' hl hsame
  exact ⟨fun hw' => .resized n b' ws' _ hn hnew (hresized hw') (.inl rfl),
    fun hfollowed f hw' => .resized n b' ws' _ hn hnew (hresized hw') (.inr ⟨hfollowed, f, rfl⟩)⟩

/-- Whatever was written to the fields of a block, its counts are numbers and it has exactly the
slots and fields that they ask for.  A value that is no count is refused without a trace; another
count drops exactly the connections at the slots that go.  A slot that comes back is empty. -/
theorem setField_shapes (hws : ws.Reachable) (id : BlockId) (calls : List (String × Datum)) :
    let ws' := Operation.applyAll ws (calls.map fun call => .setField id call.1 call.2)
    ∀ b, ws'.block? id = some b → b.Measured ∧
      (∀ name value, b.type.isCount name → CountSet ws' id b name value
        ((Edit.setField id name value).run ws').1 ((Edit.setField id name value).run ws').2) ∧
      ∀ name m n b₁ b₂ ws₁ ws₂, Resized ws' ws₁ id b b₁ name m → Resized ws₁ ws₂ id b₁ b₂ name n →
        ∀ slot, b.HasSlot slot → ¬ b₁.HasSlot slot → b₂.HasSlot slot →
          ws₂.held? id slot = none := by
  intro ws' b hb
  have hws' : ws'.Reachable := hws.applyAll _
  exact ⟨hws'.measured.of_block? hb, fun name value hname => countSet_setField hws' hb hname value,
    fun _ _ _ _ _ _ _ _ hback slot _ hlost hhas => hback.empty slot hhas hlost⟩

/-- A `del` statement with two targets. -/
def twoTargets : Workspace :=
  Operation.applyAll {} [.create "del_stmt" (some "del") {}, .create "expr_none" (some "x") {},
    .create "expr_none" (some "y") {}, .setField "del" "item_count" (.text " 2 "),
    .connectValue "del" "TARGET0" "x", .connectValue "del" "TARGET1" "y"]

/-- After the number of targets went from two to one, the block has one slot, and the number can be
set to two again. -/
theorem setField_shapes_twoTargets : twoTargets.Reachable ∧
    ∃ ws' b, ws' = Operation.applyAll twoTargets [.setField "del" "item_count" (.int 1)] ∧
      ws'.block? "del" = some b ∧ b.values = ["TARGET0"] ∧ b.Measured ∧
      CountSet ws' "del" b "item_count" (.int 2)
        ((Edit.setField "del" "item_count" (.int 2)).run ws').1
        ((Edit.setField "del" "item_count" (.int 2)).run ws').2 := by
  have hreachable : twoTargets.Reachable := ⟨false, 0, _, rfl⟩
  have hvalues : ((Operation.applyAll twoTargets [.setField "del" "item_count" (.int 1)]).block?
      "del").map (·.values) = some ["TARGET0"] := by decide +kernel
  obtain ⟨b, hb, hslots⟩ := Option.map_eq_some_iff.mp hvalues
  obtain ⟨hmeasured, hset, -⟩ :=
    setField_shapes hreachable "del" [("item_count", .int 1)] b hb
  have hcount : b.type.isCount "item_count" := by
    have htype : ((Operation.applyAll twoTargets [.setField "del" "item_count" (.int 1)]).block?
        "del").map (·.type) = some .deleteStmt := by decide +kernel
    rw [hb, Option.map_some, Option.some.injEq] at htype
    rw [htype]
    decide
  exact ⟨hreachable, _, b, rfl, hb, hslots, hmeasured, hset "item_count" (.int 2) hcount⟩

end Workspace

end BlockText

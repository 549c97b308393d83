import BlockText.Proofs.Build.Upholding
import BlockText.Proofs.Workspace.Members
import BlockText.Workspace.Snapshot

/-!
# What a snapshot tells

A snapshot marks the ports at which connections have an end, and it tells ports apart by their
texts: the name of the block, a colon and the name of the port. Names of blocks are arbitrary and
may hold colons, but no port of a measured block has a colon in its name, so the last colon of the
text ends the name of the block. Together with the forest this makes the marks say the same as the
ways to follow connections up and down, which are inverse to each other.
-/

namespace BlockText

/-! ## Names without colons -/

/-- The text has no colon. -/
def Colonless (s : String) : Prop := ':' ∉ s.toList

instance (s : String) : Decidable (Colonless s) := inferInstanceAs (Decidable (_ ∉ _))

lemma colonless_of_mem_indexed {stem s : String} {n : ℕ} (hstem : Colonless stem)
    (h : s ∈ indexed stem n) : Colonless s := by
  obtain ⟨i, -, rfl⟩ := List.mem_map.mp h
  rw [Colonless, toList_indexed, List.mem_append, not_or]
  refine ⟨hstem, fun hcolon => ?_⟩
  exact absurd (Nat.isDigit_of_mem_toDigits (by decide) (by decide) hcolon) (by decide)

namespace BlockType

/-- The slots that the clauses of a comprehension add have no colons in their names. -/
private lemma colonless_of_mem_clauseShape {fields : List (String × Datum)} {n : ℕ}
    {shape : BlockShape} (h : clauseShape fields n = .ok shape) {s : String}
    (hs : s ∈ shape.values) : Colonless s := by
  have hindex : ∀ {stem : String} (i : ℕ), Colonless stem → Colonless s!"{stem}{i}" :=
    fun i hstem => colonless_of_mem_indexed hstem (mem_indexed (Nat.lt_succ_self i))
  obtain ⟨i, -, rfl | rfl | ⟨m, -, hmem⟩⟩ := (mem_clauseShape_values h s).mp hs
  · exact hindex i (by decide)
  · exact hindex i (by decide)
  · refine colonless_of_mem_indexed ?_ hmem
    change Colonless (s!"IF{i}" ++ "_")
    rw [Colonless, String.toList_append, List.mem_append, not_or]
    exact ⟨hindex i (by decide), by decide⟩

/-- The slots that counts add have no colons in their names. -/
lemma colonless_of_mem_shapeFor {t : BlockType} {fields : List (String × Datum)}
    {shape : BlockShape} (h : t.shapeFor fields = .ok shape) :
    (∀ s ∈ shape.values, Colonless s) ∧ ∀ s ∈ shape.statements, Colonless s := by
  have hindexed : ∀ {stem : String} {n : ℕ}, Colonless stem → ∀ s ∈ indexed stem n, Colonless s :=
    fun hstem s hs => colonless_of_mem_indexed hstem hs
  cases t
  case tryStmt =>
    obtain ⟨n, -, ⟨⟩⟩ := bind_eq_ok_iff.mp h
    exact ⟨hindexed (by decide), hindexed (by decide)⟩
  case functionDef =>
    obtain ⟨n, -, h⟩ := bind_eq_ok_iff.mp h
    obtain ⟨k, -, ⟨⟩⟩ := bind_eq_ok_iff.mp h
    simp only [List.mem_append, or_imp, forall_and]
    exact ⟨⟨⟨hindexed (by decide), hindexed (by decide)⟩, hindexed (by decide)⟩, by simp⟩
  case classDef | call =>
    obtain ⟨n, -, h⟩ := bind_eq_ok_iff.mp h
    obtain ⟨k, -, ⟨⟩⟩ := bind_eq_ok_iff.mp h
    simp only [List.mem_append, or_imp, forall_and]
    exact ⟨⟨hindexed (by decide), hindexed (by decide)⟩, by simp⟩
  case dict =>
    obtain ⟨n, -, ⟨⟩⟩ := bind_eq_ok_iff.mp h
    simp only [List.mem_append, or_imp, forall_and]
    exact ⟨⟨hindexed (by decide), hindexed (by decide)⟩, by simp⟩
  case comprehension =>
    obtain ⟨n, -, h⟩ := bind_eq_ok_iff.mp h
    exact ⟨fun s hs => colonless_of_mem_clauseShape h hs, by simp [(stem_of_mem_clauseShape h).1]⟩
  case importStmt =>
    obtain ⟨n, -, ⟨⟩⟩ := bind_eq_ok_iff.mp h
    exact ⟨by simp, by simp⟩
  case withStmt | assign | deleteStmt | boolOp | tuple | list | set | compare | lambda | fstring
      | zip =>
    obtain ⟨n, -, ⟨⟩⟩ := bind_eq_ok_iff.mp h
    exact ⟨hindexed (by decide), by simp⟩
  all_goals
    cases h
    exact ⟨by simp, by simp⟩

/-- The slots that every block of a type has have no colons in their names. -/
lemma colonless_slots (t : BlockType) :
    (∀ s ∈ t.valueSlots, Colonless s) ∧ ∀ s ∈ t.statementSlots, Colonless s := by
  cases t <;> decide

end BlockType

/-- The slots of a measured block have no colons in their names. -/
lemma Block.Measured.colonless {b : Block} (h : b.Measured) {s : String}
    (hs : s ∈ b.values ∨ s ∈ b.statements) : Colonless s := by
  obtain ⟨shape, hshape, hhas⟩ := h.shaped
  obtain ⟨hvalues, hstatements⟩ := BlockType.colonless_of_mem_shapeFor hshape
  obtain ⟨hslots, hslots'⟩ := b.type.colonless_slots
  rcases hs with hs | hs
  · exact (List.mem_append.mp ((hhas.values s).mp hs)).elim (hslots s) (hvalues s)
  · exact (List.mem_append.mp ((hhas.statements s).mp hs)).elim (hslots' s) (hstatements s)

/-- If the names of two ports have no colons, the texts of the ports tell them apart. -/
lemma Port.label_inj {p q : Port} (hp : Colonless p.name) (hq : Colonless q.name) :
    p.label = q.label ↔ p = q := by
  refine ⟨fun h => ?_, fun h => h ▸ rfl⟩
  have hreverse : ∀ r : Port, r.label.toList.reverse =
      r.name.toList.reverse ++ ':' :: r.block.toList.reverse := by
    intro r
    change (r.block ++ ":" ++ r.name).toList.reverse = _
    simp
  -- Read backwards, the name of a port ends at the first colon.
  have htake : ∀ r : Port, Colonless r.name →
      r.label.toList.reverse.takeWhile (· ≠ ':') = r.name.toList.reverse := by
    intro r hr
    have hnot : ∀ c ∈ r.name.toList.reverse, decide (c ≠ ':') = true := by
      intro c hc
      exact decide_eq_true fun heq => hr (heq ▸ List.mem_reverse.mp hc)
    rw [hreverse, List.takeWhile_append_of_pos hnot]
    simp
  have hname : p.name.toList.reverse = q.name.toList.reverse := by
    rw [← htake p hp, ← htake q hq, h]
  have hblock := (hreverse p).symm.trans ((congrArg (·.toList.reverse) h).trans (hreverse q))
  rw [hname, List.append_cancel_left_eq, List.cons.injEq] at hblock
  have hnames := String.toList_injective (List.reverse_injective hname)
  have hblocks := String.toList_injective (List.reverse_injective hblock.2)
  obtain ⟨block, name⟩ := p
  obtain ⟨block', name'⟩ := q
  exact (Port.mk.injEq ..).mpr ⟨hblocks, hnames⟩

namespace Workspace

variable {ws : Workspace}

/-! ## Connected ports -/

/-- The ports at which a connection has its ends belong to the blocks there. -/
lemma Forest.mem_ports (hw : ws.Forest) {e : Edge} (he : e ∈ ws.edges) :
    ∃ s t, ws.block? e.source = some s ∧ ws.block? e.target = some t ∧
      e.sourcePort ∈ s.outputs ∧ e.targetPort ∈ t.inputs := by
  cases hk : e.kind with
  | value =>
    obtain ⟨hout, -, s, t, hs, ht, hexpr, hslot⟩ := hw.value_cases he hk
    refine ⟨s, t, hs, ht, ?_, ?_⟩
    · simp only [Block.isExpression, beq_iff_eq] at hexpr
      simp [Block.outputs, hexpr, hout]
    · simp only [Block.hasValueSlot, List.contains_iff_mem] at hslot
      simp [Block.inputs, hslot]
  | statement =>
    obtain ⟨hprev, -, s, t, hs, ht, hslot, hstmt⟩ := hw.statement_cases he hk
    refine ⟨s, t, hs, ht, ?_, ?_⟩
    · simp only [Block.hasStatementSlot, Bool.or_eq_true, Bool.and_eq_true, beq_iff_eq,
        List.contains_iff_mem, Block.isStatement] at hslot
      rcases hslot with hslot | ⟨hkind, hnext⟩
      · simp [Block.outputs, hslot]
      · simp [Block.outputs, hkind, hnext]
    · simp [Block.inputs, hstmt, hprev]

/-- The ports of a measured block have no colons in their names. -/
lemma colonless_port {b : Block} (hb : b.Measured) {port : String}
    (h : port ∈ b.inputs ∨ port ∈ b.outputs) : Colonless port := by
  simp only [Block.inputs, Block.outputs, List.mem_append] at h
  rcases h with (h | h) | h | h
  · split at h
    · rw [List.mem_singleton.mp h]
      decide
    · cases h
  · exact hb.colonless (.inl h)
  · split at h
    · rw [List.mem_singleton.mp h]
      decide
    · rw [List.mem_singleton.mp h]
      decide
    · cases h
  · exact hb.colonless (.inr h)

/-- A port is marked iff a connection has an end at it. -/
lemma Forest.isConnected_iff (hw : ws.Forest) (hm : ws.Measured) {id : BlockId} {b : Block}
    (hb : ws.block? id = some b) {port : String} (hport : port ∈ b.inputs ∨ port ∈ b.outputs) :
    ws.isConnected id port = true ↔ ∃ e ∈ ws.edges, e.stop = ⟨id, port⟩ ∨ e.start = ⟨id, port⟩ := by
  have hplain := colonless_port (hm.of_block? hb) hport
  simp only [isConnected, List.any_eq_true, Bool.or_eq_true, beq_iff_eq]
  refine exists_congr fun e => and_congr_right fun he => ?_
  obtain ⟨s, t, hs, ht, hstart, hstop⟩ := hw.mem_ports he
  exact or_congr (Port.label_inj (colonless_port (hm.of_block? ht) (.inl hstop)) hplain)
    (Port.label_inj (colonless_port (hm.of_block? hs) (.inr hstart)) hplain)

/-! ## Marks and look-ups -/

/-- Some connection arrives at a port iff there is a first one. -/
lemma isSome_incoming_iff {id : BlockId} {port : String} :
    (ws.incoming id port).head?.isSome ↔ ∃ e ∈ ws.edges, e.stop = ⟨id, port⟩ := by
  rw [List.isSome_head?, incoming_eq, Ne, List.filter_eq_nil_iff]
  simp

lemma isSome_outgoing_iff {id : BlockId} {port : String} :
    (ws.outgoing id port).head?.isSome ↔ ∃ e ∈ ws.edges, e.start = ⟨id, port⟩ := by
  rw [List.isSome_head?, outgoing_eq, Ne, List.filter_eq_nil_iff]
  simp

lemma isSome_held?_iff {id : BlockId} {slot : String} :
    (ws.held? id slot).isSome ↔
      ∃ e ∈ ws.edges, e.stop = ⟨id, slot⟩ ∨ e.start = ⟨id, slot⟩ := by
  simp only [and_or_left, exists_or, ← isSome_incoming_iff, ← isSome_outgoing_iff]
  unfold held?
  cases (ws.incoming id slot).head? <;> simp

lemma isSome_parent?_iff {id : BlockId} :
    (ws.parent? id).isSome ↔
      (∃ e ∈ ws.edges, e.stop = ⟨id, "previous"⟩) ∨ ∃ e ∈ ws.edges, e.start = ⟨id, "output"⟩ := by
  simp only [← isSome_incoming_iff, ← isSome_outgoing_iff]
  unfold parent?
  cases (ws.incoming id "previous").head? <;> simp

lemma isSome_next?_iff {id : BlockId} :
    (ws.next? id).isSome ↔ ∃ e ∈ ws.edges, e.start = ⟨id, "next"⟩ := by
  rw [next?, Option.isSome_map, isSome_outgoing_iff]

/-- No connection arrives at a port that is no input. -/
lemma Forest.not_stop (hw : ws.Forest) {id : BlockId} {b : Block} (hb : ws.block? id = some b)
    {port : String} (hport : port ∉ b.inputs) : ¬ ∃ e ∈ ws.edges, e.stop = ⟨id, port⟩ := by
  rintro ⟨e, he, hstop⟩
  obtain ⟨s, t, -, ht, -, hin⟩ := hw.mem_ports he
  obtain ⟨htarget, hname⟩ := Port.mk.inj hstop
  rw [htarget, hb, Option.some.injEq] at ht
  exact hport (by rwa [ht, ← hname])

/-- No connection leaves from a port that is no output. -/
lemma Forest.not_start (hw : ws.Forest) {id : BlockId} {b : Block} (hb : ws.block? id = some b)
    {port : String} (hport : port ∉ b.outputs) : ¬ ∃ e ∈ ws.edges, e.start = ⟨id, port⟩ := by
  rintro ⟨e, he, hstart⟩
  obtain ⟨s, t, hs, -, hout, -⟩ := hw.mem_ports he
  obtain ⟨hsource, hname⟩ := Port.mk.inj hstart
  rw [hsource, hb, Option.some.injEq] at hs
  exact hport (by rwa [hs, ← hname])

end Workspace

namespace Block.Sound

variable {b : Block}

/-- A port that is no slot is an input only at the top of a statement. -/
lemma mem_inputs_iff (h : b.Sound) (port : String) (hport : isOwnPort port = true) :
    port ∈ b.inputs ↔ b.isStatement ∧ port = "previous" := by
  have hnot : port ∉ b.values := fun hmem => by simp [h.own_values port hmem] at hport
  simp only [inputs, List.mem_append, hnot, or_false]
  split <;> simp_all

/-- A port that is no slot is an output only at the end of a statement or of an expression. -/
lemma mem_outputs_iff (h : b.Sound) (port : String) (hport : isOwnPort port = true) :
    port ∈ b.outputs ↔ b.isStatement ∧ port = "next" ∨ b.isExpression ∧ port = "output" := by
  have hnot : port ∉ b.statements := fun hmem => by simp [h.own_statements port hmem] at hport
  simp only [outputs, List.mem_append, hnot, or_false, isStatement, isExpression]
  split <;> simp_all

end Block.Sound

namespace Workspace

variable {ws : Workspace}

section

variable (hw : ws.Forest) (hm : ws.Measured) {id : BlockId} {b : Block}
  (hb : ws.block? id = some b)

include hw hm hb

/-- A slot is marked iff it holds something. -/
lemma isConnected_slot {slot : String} (hslot : slot ∈ b.values ∨ slot ∈ b.statements) :
    ws.isConnected id slot = (ws.held? id slot).isSome := by
  have hport : slot ∈ b.inputs ∨ slot ∈ b.outputs := by
    rcases hslot with h | h
    · exact .inl (List.mem_append_right _ h)
    · exact .inr (List.mem_append_right _ h)
  rw [Bool.eq_iff_iff, hw.isConnected_iff hm hb hport, isSome_held?_iff]

/-- The end of a statement is marked iff another one follows. -/
lemma isConnected_next (hstmt : b.isStatement) :
    ws.isConnected id "next" = (ws.next? id).isSome := by
  have hsound := hw.sound id b hb
  have hout : "next" ∈ b.outputs := (hsound.mem_outputs_iff _ rfl).mpr (.inl ⟨hstmt, rfl⟩)
  have hstop := hw.not_stop hb (mt (hsound.mem_inputs_iff "next" rfl).mp (by simp))
  rw [Bool.eq_iff_iff, hw.isConnected_iff hm hb (.inr hout), isSome_next?_iff]
  simp only [and_or_left, exists_or, hstop, false_or]

/-- The top of a statement is marked iff something holds the statement. -/
lemma isConnected_previous (hstmt : b.isStatement) :
    ws.isConnected id "previous" = (ws.parent? id).isSome := by
  have hsound := hw.sound id b hb
  have hexpr : b.isExpression = false := by
    simp only [Block.isStatement, Block.isExpression, beq_iff_eq] at hstmt ⊢
    simp [hstmt]
  have hin : "previous" ∈ b.inputs := (hsound.mem_inputs_iff _ rfl).mpr ⟨hstmt, rfl⟩
  have hstart := hw.not_start hb (mt (hsound.mem_outputs_iff "previous" rfl).mp (by simp))
  have hstart' := hw.not_start hb
    (mt (hsound.mem_outputs_iff "output" rfl).mp (by simp [hexpr]))
  rw [Bool.eq_iff_iff, hw.isConnected_iff hm hb (.inl hin), isSome_parent?_iff]
  simp only [and_or_left, exists_or, hstart, hstart']

/-- The output of an expression is marked iff something holds the expression. -/
lemma isConnected_output (hexpr : b.isExpression) :
    ws.isConnected id "output" = (ws.parent? id).isSome := by
  have hsound := hw.sound id b hb
  have hstmt : b.isStatement = false := by
    simp only [Block.isStatement, Block.isExpression, beq_iff_eq] at hexpr ⊢
    simp [hexpr]
  have hout : "output" ∈ b.outputs := (hsound.mem_outputs_iff _ rfl).mpr (.inr ⟨hexpr, rfl⟩)
  have hstop := hw.not_stop hb (mt (hsound.mem_inputs_iff "output" rfl).mp (by simp))
  have hstop' := hw.not_stop hb
    (mt (hsound.mem_inputs_iff "previous" rfl).mp (by simp [hstmt]))
  rw [Bool.eq_iff_iff, hw.isConnected_iff hm hb (.inr hout), isSome_parent?_iff]
  simp only [and_or_left, exists_or, hstop, hstop']

end

/-! ## Up and down -/

namespace Forest

/-- Going up from the child of a connection leads to its holder, at its slot. -/
lemma parent?_child (hw : ws.Forest) {e : Edge} (he : e ∈ ws.edges) :
    ws.parent? e.child = some e.holder ∧ ws.parentSlot? e.child = some e.slot := by
  unfold parent? parentSlot?
  cases hk : e.kind with
  | statement =>
    have hin : (ws.incoming e.target "previous").head? = some e :=
      hw.head?_incoming_iff.mpr ⟨he, by simp [Edge.stop, (hw.statement_cases he hk).1]⟩
    simp [Edge.child, Edge.holder, Edge.slot, hk, hin]
  | value =>
    have hout : (ws.outgoing e.source "output").head? = some e :=
      hw.head?_outgoing_iff.mpr ⟨he, by simp [Edge.start, (hw.value_cases he hk).1]⟩
    simp [Edge.child, Edge.holder, Edge.slot, hk, hw.incoming_eq_nil_of_value he hk, hout]

/-- A block is held at a slot of another one iff a connection puts it there. -/
lemma parent_slot_iff (hw : ws.Forest) {p c : BlockId} {s : String} :
    ws.parent? c = some p ∧ ws.parentSlot? c = some s ↔
      ∃ e ∈ ws.edges, e.child = c ∧ e.holder = p ∧ e.slot = s := by
  constructor
  · rintro ⟨hparent, hslot⟩
    obtain ⟨e, he, rfl, rfl⟩ := hw.parent?_eq_some_iff.mp hparent
    exact ⟨e, he, rfl, rfl, Option.some.inj ((hw.parent?_child he).2.symm.trans hslot)⟩
  · rintro ⟨e, he, rfl, rfl, rfl⟩
    exact hw.parent?_child he

end Forest

end Workspace

/-! ## Reading a snapshot -/

/-- The entries of the list that an object has under a key. -/
def Datum.listed (d : Datum) (key : String) : List Datum :=
  match d.get? key with
  | some (.list ds) => ds
  | _ => []

/-- The ports that a snapshot lists for a block. -/
def Datum.ports (node : Datum) : List Datum := node.listed "inputs" ++ node.listed "outputs"

/-- The port goes by this name. -/
def Datum.IsPort (port : Datum) (name : String) : Prop := port.get? "name" = some (.text name)

/-- The snapshot lists the block with this port, and the port is marked as connected or not. -/
def Datum.Marks (snapshot : Datum) (id port : String) (connected : Bool) : Prop :=
  ∃ node ∈ snapshot.listed "nodes", node.get? "id" = some (.text id) ∧
    ∃ p ∈ node.ports, p.IsPort port ∧ p.get? "connected" = some (.bool connected)

namespace Workspace

variable {ws : Workspace}

/-- Looking up and looking down a connection agree, and so does what a snapshot lists. -/
structure SnapshotAgrees (ws : Workspace) : Prop where
  /-- A slot holds a block iff the block is held there. -/
  held?_iff : ∀ p b slot c, ws.block? p = some b → slot ∈ b.values ∨ b.hasStatementSlot slot →
    (ws.held? p slot = some c ↔ ws.parent? c = some p ∧ ws.parentSlot? c = some slot)
  next?_iff : ∀ a b, ws.next? a = some b ↔ ws.previous? b = some a
  /-- What is found below or above a block is a block. -/
  has_held? : ∀ p slot c, ws.held? p slot = some c → ws.has c
  has_next? : ∀ a b, ws.next? a = some b → ws.has b
  has_parent? : ∀ c p, ws.parent? c = some p → ws.has p
  /-- The blocks are listed in their order. -/
  nodes : (ws.snapshot.listed "nodes").map (·.get? "id") = ws.ids.map fun id => some (.text id)
  /-- The marks of slots and of the other ports. -/
  slot : ∀ id b slot, ws.block? id = some b → slot ∈ b.values ∨ slot ∈ b.statements →
    ∀ c, ws.snapshot.Marks id slot c ↔ c = (ws.held? id slot).isSome
  next : ∀ id b, ws.block? id = some b → b.isStatement →
    ∀ c, ws.snapshot.Marks id "next" c ↔ c = (ws.next? id).isSome
  previous : ∀ id b, ws.block? id = some b → b.isStatement →
    ∀ c, ws.snapshot.Marks id "previous" c ↔ c = (ws.parent? id).isSome
  output : ∀ id b, ws.block? id = some b → b.isExpression →
    ∀ c, ws.snapshot.Marks id "output" c ↔ c = (ws.parent? id).isSome
  /-- A connection that is listed joins ports of blocks that are listed. -/
  edges : ∀ e ∈ ws.snapshot.listed "edges",
    ∃ source ∈ ws.snapshot.listed "nodes", ∃ target ∈ ws.snapshot.listed "nodes",
      e.get? "sourceNodeId" = source.get? "id" ∧ e.get? "targetNodeId" = target.get? "id" ∧
      (∃ p ∈ source.listed "outputs", e.get? "sourcePortName" = p.get? "name") ∧
      ∃ p ∈ target.listed "inputs", e.get? "targetPortName" = p.get? "name"
  /-- On top are the blocks without a mark at their top or their output, each once. -/
  tops : ∀ top, top ∈ ws.snapshot.listed "topNodeIds" ↔
    ∃ node ∈ ws.snapshot.listed "nodes", node.get? "id" = some top ∧
      ∀ p ∈ node.ports, p.IsPort "previous" ∨ p.IsPort "output" →
        p.get? "connected" = some (.bool false)
  tops_nodup : (ws.snapshot.listed "topNodeIds").Nodup

/-- The blocks that a snapshot lists. -/
lemma mem_nodes_iff {node : Datum} : node ∈ ws.snapshot.listed "nodes" ↔
    ∃ entry ∈ ws.blocks, node = ws.blockDatum entry.1 entry.2 := by
  change node ∈ ws.blocks.map _ ↔ _
  simp only [List.mem_map, eq_comm]

/-- The ports that a snapshot lists for a block. -/
lemma mem_ports_iff {id : BlockId} {b : Block} {p : Datum} : p ∈ (ws.blockDatum id b).ports ↔
    (∃ port ∈ b.inputs, p = ws.portDatum id port (portFunction b port) "INPUT") ∨
      ∃ port ∈ b.outputs, p = ws.portDatum id port (portFunction b port) "OUTPUT" := by
  change p ∈ b.inputs.map _ ++ b.outputs.map _ ↔ _
  simp only [List.mem_append, List.mem_map, eq_comm]

/-- A port of a block is marked as connections say. -/
lemma Forest.marks_iff (hw : ws.Forest) {id : BlockId} {b : Block} (hb : ws.block? id = some b)
    {port : String} (hport : port ∈ b.inputs ∨ port ∈ b.outputs) {c : Bool} :
    ws.snapshot.Marks id port c ↔ c = ws.isConnected id port := by
  constructor
  · rintro ⟨node, hnode, hid, p, hp, hname, hc⟩
    obtain ⟨entry, -, rfl⟩ := mem_nodes_iff.mp hnode
    obtain rfl : entry.1 = id := Datum.text.inj (Option.some.inj hid)
    rcases mem_ports_iff.mp hp with ⟨port', -, rfl⟩ | ⟨port', -, rfl⟩ <;>
    · obtain rfl : port' = port := Datum.text.inj (Option.some.inj hname)
      exact (Datum.bool.inj (Option.some.inj hc)).symm
  · rintro rfl
    refine ⟨_, mem_nodes_iff.mpr ⟨(id, b), hw.mem_blocks_iff.mpr hb, rfl⟩, rfl, ?_⟩
    rcases hport with h | h
    · exact ⟨_, mem_ports_iff.mpr (.inl ⟨port, h, rfl⟩), rfl, rfl⟩
    · exact ⟨_, mem_ports_iff.mpr (.inr ⟨port, h, rfl⟩), rfl, rfl⟩

/-- A block of a forest is on top iff no port at its top or its output is marked. -/
lemma Forest.unmarked_iff (hw : ws.Forest) (hm : ws.Measured) {id : BlockId} {b : Block}
    (hb : ws.block? id = some b) :
    (∀ p ∈ (ws.blockDatum id b).ports, p.IsPort "previous" ∨ p.IsPort "output" →
      p.get? "connected" = some (.bool false)) ↔ ws.parent? id = none := by
  have hsound := hw.sound id b hb
  have hin := hsound.mem_inputs_iff
  have hout := hsound.mem_outputs_iff
  constructor
  · intro h
    have hunmarked : ∀ {port}, port = "previous" ∨ port = "output" →
        port ∈ b.inputs ∨ port ∈ b.outputs → ws.isConnected id port = false := by
      intro port hname hport
      have hnamed : ∀ f d, (ws.portDatum id port f d).IsPort "previous" ∨
          (ws.portDatum id port f d).IsPort "output" := by
        intro f d
        rcases hname with rfl | rfl
        · exact .inl rfl
        · exact .inr rfl
      rcases hport with hport | hport
      · exact Datum.bool.inj (Option.some.inj
          (h _ (mem_ports_iff.mpr (.inl ⟨port, hport, rfl⟩)) (hnamed _ _)))
      · exact Datum.bool.inj (Option.some.inj
          (h _ (mem_ports_iff.mpr (.inr ⟨port, hport, rfl⟩)) (hnamed _ _)))
    rw [← Option.not_isSome_iff_eq_none]
    intro hsome
    rcases isSome_parent?_iff.mp hsome with hstop | hstart
    · have hprev : "previous" ∈ b.inputs := by
        by_contra hnot
        exact hw.not_stop hb hnot hstop
      have hstmt := ((hin "previous" rfl).mp hprev).1
      rw [← isConnected_previous hw hm hb hstmt, hunmarked (.inl rfl) (.inl hprev)] at hsome
      cases hsome
    · have hleaves : "output" ∈ b.outputs := by
        by_contra hnot
        exact hw.not_start hb hnot hstart
      have hexpr : b.isExpression := by simpa using (hout "output" rfl).mp hleaves
      rw [← isConnected_output hw hm hb hexpr, hunmarked (.inr rfl) (.inr hleaves)] at hsome
      cases hsome
  · intro hnone p hp hname
    have hfalse : ∀ {port}, port ∈ b.inputs ∨ port ∈ b.outputs →
        port = "previous" ∨ port = "output" → ws.isConnected id port = false := by
      rintro port hport (rfl | rfl)
      · have hstmt : b.isStatement := by simpa [hin, hout, isOwnPort] using hport
        rw [isConnected_previous hw hm hb hstmt, hnone, Option.isSome_none]
      · have hexpr : b.isExpression := by simpa [hin, hout, isOwnPort] using hport
        rw [isConnected_output hw hm hb hexpr, hnone, Option.isSome_none]
    rcases mem_ports_iff.mp hp with ⟨port, hport, rfl⟩ | ⟨port, hport, rfl⟩
    · exact congrArg (some <| Datum.bool ·) (hfalse (.inl hport)
        (hname.imp (fun h => Datum.text.inj (Option.some.inj h))
          fun h => Datum.text.inj (Option.some.inj h)))
    · exact congrArg (some <| Datum.bool ·) (hfalse (.inr hport)
        (hname.imp (fun h => Datum.text.inj (Option.some.inj h))
          fun h => Datum.text.inj (Option.some.inj h)))

/-- What is found below or above a block of a forest is a block. -/
lemma Forest.has_held? (hw : ws.Forest) {p c : BlockId} {slot : String}
    (h : ws.held? p slot = some c) : ws.has c := by
  unfold held? at h
  cases hin : (ws.incoming p slot).head? with
  | some e =>
    simp only [hin, Option.some.injEq] at h
    exact h ▸ (hw.has_ends (hw.head?_incoming_iff.mp hin).1).1
  | none =>
    simp only [hin, Option.map_eq_some_iff] at h
    obtain ⟨e, hout, rfl⟩ := h
    exact (hw.has_ends (hw.head?_outgoing_iff.mp hout).1).2

/-- The snapshot of a forest of measured blocks agrees with what is found in it. -/
lemma Forest.snapshotAgrees (hw : ws.Forest) (hm : ws.Measured) : ws.SnapshotAgrees where
  held?_iff p b slot c hb hslot := by
    rw [hw.parent_slot_iff]
    by_cases hown : isOwnPort slot = false
    · exact hw.held?_eq_some_iff hown
    · have hsound := hw.sound p b hb
      have hnext : slot = "next" := by
        simp only [Block.hasStatementSlot, Bool.or_eq_true, Bool.and_eq_true, beq_iff_eq,
          List.contains_iff_mem] at hslot
        rcases hslot with h | h | h
        · exact absurd (hsound.own_values slot h) hown
        · exact absurd (hsound.own_statements slot h) hown
        · exact h.2
      subst hnext
      rw [← hw.next?_eq_some_iff]
      have hnone : (ws.incoming p "next").head? = none := by
        rw [← Option.not_isSome_iff_eq_none, isSome_incoming_iff]
        exact hw.not_stop hb (mt (hsound.mem_inputs_iff "next" rfl).mp (by simp))
      rw [held?, hnone, next?]
  next?_iff a b := hw.previous?_eq_some_iff.symm
  has_held? p slot c h := hw.has_held? h
  has_next? a b h := by
    obtain ⟨e, he, rfl, -⟩ := hw.next?_eq_some_iff.mp h
    exact hw.has_child he
  has_parent? c p h := by
    obtain ⟨e, he, -, rfl⟩ := hw.parent?_eq_some_iff.mp h
    exact hw.has_holder he
  nodes := by
    change (ws.blocks.map _).map _ = (ws.blocks.map _).map _
    simp only [List.map_map]
    rfl
  slot id b slot hb hslot c := by
    have hport : slot ∈ b.inputs ∨ slot ∈ b.outputs := by
      rcases hslot with h | h
      · exact .inl (List.mem_append_right _ h)
      · exact .inr (List.mem_append_right _ h)
    rw [hw.marks_iff hb hport, isConnected_slot hw hm hb hslot]
  next id b hb hstmt c := by
    have hout := ((hw.sound id b hb).mem_outputs_iff "next" rfl).mpr (.inl ⟨hstmt, rfl⟩)
    rw [hw.marks_iff hb (.inr hout), isConnected_next hw hm hb hstmt]
  previous id b hb hstmt c := by
    have hin := ((hw.sound id b hb).mem_inputs_iff "previous" rfl).mpr ⟨hstmt, rfl⟩
    rw [hw.marks_iff hb (.inl hin), isConnected_previous hw hm hb hstmt]
  output id b hb hexpr c := by
    have hout := ((hw.sound id b hb).mem_outputs_iff "output" rfl).mpr (.inr ⟨hexpr, rfl⟩)
    rw [hw.marks_iff hb (.inr hout), isConnected_output hw hm hb hexpr]
  edges d hd := by
    change d ∈ ws.edges.map edgeDatum at hd
    obtain ⟨e, he, rfl⟩ := List.mem_map.mp hd
    obtain ⟨s, t, hs, ht, hout, hin⟩ := hw.mem_ports he
    refine ⟨_, mem_nodes_iff.mpr ⟨(e.source, s), hw.mem_blocks_iff.mpr hs, rfl⟩,
      _, mem_nodes_iff.mpr ⟨(e.target, t), hw.mem_blocks_iff.mpr ht, rfl⟩, rfl, rfl, ?_, ?_⟩
    · exact ⟨_, List.mem_map_of_mem hout, rfl⟩
    · exact ⟨_, List.mem_map_of_mem hin, rfl⟩
  tops top := by
    change top ∈ ws.orderedTops.map Datum.text ↔ _
    simp only [List.mem_map, orderedTops, List.mem_mergeSort, mem_tops_iff]
    constructor
    · rintro ⟨id, ⟨hid, hnone⟩, rfl⟩
      obtain ⟨b, hb⟩ := has_iff_block?.mp hid
      exact ⟨_, mem_nodes_iff.mpr ⟨(id, b), hw.mem_blocks_iff.mpr hb, rfl⟩, rfl,
        (hw.unmarked_iff hm hb).mpr hnone⟩
    · rintro ⟨node, hnode, htop, hports⟩
      obtain ⟨⟨id, b⟩, hentry, rfl⟩ := mem_nodes_iff.mp hnode
      have hb := hw.mem_blocks_iff.mp hentry
      exact ⟨id, ⟨has_of_block? hb, (hw.unmarked_iff hm hb).mp hports⟩, Option.some.inj htop⟩
  tops_nodup := by
    change (ws.orderedTops.map Datum.text).Nodup
    refine List.Nodup.map (fun a b h => Datum.text.inj h) ?_
    exact (List.mergeSort_perm _ _).nodup_iff.mpr (hw.ids_nodup.sublist List.filter_sublist)

/-- **The snapshot and the look-ups tell the same story.** Whatever an empty workspace goes through,
under whatever names its blocks are made: going down a connection and going up are inverse to each
other, a port is marked in the snapshot iff the look-up at that port finds a block, every connection
that is listed joins ports of two listed blocks, and on top are exactly the blocks whose top or
output is not marked. -/
theorem snapshotAgrees_applyAll (watched : Bool) (muted : ℕ) (actions : List Action) :
    (Action.applyAll { watched, muted } actions).SnapshotAgrees :=
  (forest_of_actions watched muted actions).snapshotAgrees
    (measured_of_actions watched muted actions)

end Workspace

end BlockText

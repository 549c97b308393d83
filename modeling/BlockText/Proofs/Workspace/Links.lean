import BlockText.Proofs.Workspace.Entries
import BlockText.Workspace.Query

/-!
# Connections as one list

The lists by port always agree with the list of all connections, so every question about the
connections of a workspace is a question about that one list.  Dropping the connections that a test
selects filters the list.
-/

namespace BlockText

/-! ## Dropping connections -/

namespace Links

/-- Dropping connections erases them one by one. -/
lemma edges_removeAll (l : Links) (es : List Edge) :
    (l.removeAll es).edges = l.edges.diff es := by
  induction es generalizing l with
  | nil => rfl
  | cons e rest ih =>
    rw [List.diff_cons]
    exact ih (l.remove e)

/-- Erasing other members leaves the first one in its place. -/
private lemma cons_diff_of_not_mem {e : Edge} {fs : List Edge} (h : e ∉ fs) (rest : List Edge) :
    (e :: rest).diff fs = e :: rest.diff fs := by
  induction fs generalizing rest with
  | nil => rfl
  | cons f fs ih =>
    obtain ⟨hef, hfs⟩ := not_or.mp (fun hm => h (List.mem_cons.mpr hm))
    rw [List.diff_cons, List.diff_cons, List.erase_cons_tail (by simpa using hef)]
    exact ih hfs _

/-- Erasing the members that a test selects leaves those that it does not. -/
private lemma diff_filter (es : List Edge) (p : Edge → Bool) :
    es.diff (es.filter p) = es.filter (fun e => !p e) := by
  induction es with
  | nil => simp
  | cons e rest ih =>
    by_cases he : p e
    · rw [List.filter_cons_of_pos he, List.filter_cons_of_neg (by simp [he]), List.diff_cons,
        List.erase_cons_head, ih]
    · have hmem : e ∉ rest.filter p := fun h => he (List.mem_filter.mp h).2
      rw [List.filter_cons_of_neg he, List.filter_cons_of_pos (by simp [he]), 
        cons_diff_of_not_mem hmem, ih]

/-- Dropping the connections that a test selects filters the list of all connections. -/
lemma edges_removeAll_filter (l : Links) (p : Edge → Bool) :
    (l.removeAll (l.edges.filter p)).edges = l.edges.filter (fun e => !p e) := by
  rw [edges_removeAll, diff_filter]

@[simp] lemma edges_add (l : Links) (e : Edge) : (l.add e).edges = l.edges ++ [e] := rfl

end Links

/-! ## Connections at a port -/

namespace Workspace

/-- The connections that arrive at a port, as a part of all connections. -/
lemma incoming_eq (ws : Workspace) (id : BlockId) (port : String) :
    ws.incoming id port = ws.edges.filter (·.stop = ⟨id, port⟩) :=
  ws.links.listedAt_arriving _

/-- The connections that leave from a port, as a part of all connections. -/
lemma outgoing_eq (ws : Workspace) (id : BlockId) (port : String) :
    ws.outgoing id port = ws.edges.filter (·.start = ⟨id, port⟩) :=
  ws.links.listedAt_leaving _

/-- The connections without those that arrive at a port. -/
lemma edges_removeAll_incoming (ws : Workspace) (id : BlockId) (port : String) :
    (ws.links.removeAll (ws.incoming id port)).edges =
      ws.edges.filter (fun e => !decide (e.stop = ⟨id, port⟩)) := by
  rw [incoming_eq]
  exact ws.links.edges_removeAll_filter _

/-- The connections without those that leave from a port. -/
lemma edges_removeAll_outgoing (ws : Workspace) (id : BlockId) (port : String) :
    (ws.links.removeAll (ws.outgoing id port)).edges =
      ws.edges.filter (fun e => !decide (e.start = ⟨id, port⟩)) := by
  rw [outgoing_eq]
  exact ws.links.edges_removeAll_filter _

/-! ## Blocks by name -/

/-- A workspace has a block iff it finds one under the name. -/
lemma has_iff_block? {ws : Workspace} {id : BlockId} : ws.has id ↔ ∃ b, ws.block? id = some b := by
  have : ws.has id ↔ (ws.block? id).isSome := by
    rw [block?, entryAt?_isSome_iff]
    simp [has]
  rw [this, Option.isSome_iff_exists]

/-- A workspace has a block iff the name is among those of its blocks. -/
lemma has_iff_mem_ids {ws : Workspace} {id : BlockId} : ws.has id ↔ id ∈ ws.ids := by
  simp [has, ids]

/-- There is a block under every name of a block. -/
lemma has_of_block? {ws : Workspace} {id : BlockId} {b : Block} (h : ws.block? id = some b) :
    ws.has id :=
  has_iff_block?.mpr ⟨b, h⟩

/-- No block is found under a name that no block has. -/
lemma block?_eq_none {ws : Workspace} {id : BlockId} (h : ¬ ws.has id) : ws.block? id = none := by
  cases hb : ws.block? id with
  | none => rfl
  | some b => exact absurd (has_of_block? hb) h

end Workspace

end BlockText

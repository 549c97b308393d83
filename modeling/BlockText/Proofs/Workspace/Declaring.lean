import BlockText.Proofs.Block.Fields
import BlockText.Proofs.Workspace.Collecting
import BlockText.Proofs.Workspace.Grove

/-!
# Declared names

A block is `Named` if the names that it declares are texts and the number of its parameters is a
number; proper blocks are.  The declared variables and functions of named blocks can be collected,
and there is an order between any two of them: determining the declared names does not fail.
-/

namespace BlockText

/-! ## Sorting -/

/-- Putting an item into a list of items that can be compared with it. -/
private lemma exists_insertSorted {α : Type} {less : α → α → Except Fault Bool} {good : α → Prop}
    (hless : ∀ a b, good a → good b → ∃ v, less a b = .ok v) {a : α} (ha : good a) {xs : List α}
    (hxs : ∀ b ∈ xs, good b) :
    ∃ ys, insertSorted less a xs = .ok ys ∧ ∀ b ∈ ys, good b := by
  induction xs with
  | nil => exact ⟨[a], rfl, by simpa using ha⟩
  | cons b rest ih =>
    have hb : good b := hxs b List.mem_cons_self
    obtain ⟨v, hv⟩ := hless a b ha hb
    rw [insertSorted, hv]
    cases v with
    | true => exact ⟨a :: b :: rest, rfl, List.forall_mem_cons.mpr ⟨ha, hxs⟩⟩
    | false =>
      obtain ⟨ys, hys, hgood⟩ := ih fun c hc => hxs c (List.mem_cons_of_mem b hc)
      exact ⟨b :: ys, by simp only [hys]; rfl, List.forall_mem_cons.mpr ⟨hb, hgood⟩⟩

/-- A list of items that can be compared with each other can be sorted. -/
private lemma exists_sorted {α : Type} {less : α → α → Except Fault Bool} {good : α → Prop}
    (hless : ∀ a b, good a → good b → ∃ v, less a b = .ok v) {xs : List α}
    (hxs : ∀ b ∈ xs, good b) : ∃ ys, sorted less xs = .ok ys ∧ ∀ b ∈ ys, good b := by
  induction xs with
  | nil => exact ⟨[], rfl, by simp⟩
  | cons a rest ih =>
    obtain ⟨ys, hys, hgood⟩ := ih fun b hb => hxs b (List.mem_cons_of_mem a hb)
    rw [sorted, hys]
    exact exists_insertSorted hless (hxs a List.mem_cons_self) hgood

/-- A loop whose steps all succeed and keep an invariant. -/
private lemma exists_foldlM {α β : Type} {good : β → Prop} {f : β → α → Except Fault β}
    {xs : List α}
    (hf : ∀ b, good b → ∀ x ∈ xs, ∃ b', f b x = .ok b' ∧ good b') {b : β}
    (hb : good b) : ∃ b', xs.foldlM f b = .ok b' ∧ good b' := by
  induction xs generalizing b with
  | nil => exact ⟨b, rfl, hb⟩
  | cons x rest ih =>
    obtain ⟨b₁, hb₁, hgood⟩ := hf b hb x List.mem_cons_self
    rw [List.foldlM_cons, hb₁]
    exact ih (fun b hb y hy => hf b hb y (List.mem_cons_of_mem x hy)) hgood

private lemma mem_insertNew {α : Type} {same : α → α → Bool} {a b : α} {xs : List α}
    (h : b ∈ insertNew same a xs) : b = a ∨ b ∈ xs := by
  unfold insertNew at h
  split at h
  · exact .inr h
  · simpa [or_comm] using h

/-! ## Names of blocks -/

/-- The datum is some text. -/
def IsWords (d : Datum) : Prop := ∃ ps, d = .ofPoints ps

namespace Block

variable {b : Block}

/-- A field for words holds a text, if the block has it. -/
lemma Proper.words (h : b.Proper) {name : String} (hsort : b.type.sortOf name = .words) {d : Datum}
    (hd : b.field? name = some d) : ∃ ps, d = .ofPoints ps := by
  have := h.legible.sorted name d hd
  rwa [hsort] at this

/-- A field for words that every block of the type has. -/
lemma Proper.exists_words (h : b.Proper) {t : BlockType} (ht : b.type = t) (name : String)
    (hname : name ∈ t.fields.map (·.1)) (hsort : t.sortOf name = .words) :
    ∃ ps, b.field? name = some (.ofPoints ps) := by
  subst ht
  obtain ⟨d, hd⟩ := Option.isSome_iff_exists.mp (h.legible.complete name hname)
  obtain ⟨ps, rfl⟩ := h.words hsort hd
  exact ⟨ps, hd⟩

/-- The number of items of a proper block is a number. -/
lemma Proper.exists_itemCount (h : b.Proper) (hcount : b.type.isCount "item_count") :
    ∃ n, b.itemCount = .ok n := by
  unfold itemCount
  cases hd : b.field? "item_count" with
  | none => exact ⟨0, rfl⟩
  | some d =>
    have hsort := h.legible.sorted _ _ hd
    rw [BlockType.sortOf, if_pos hcount] at hsort
    obtain ⟨n, rfl⟩ := hsort
    exact ⟨n, rfl⟩

/-- The names that the block declares are texts, and the number of its parameters is a number. -/
structure Named (b : Block) : Prop where
  name : b.type = .varSet ∨ b.type = .identifier ∨ b.type = .functionDef →
    ∃ ps, b.field? "name" = some (.ofPoints ps)
  params : b.type = .functionDef → ∃ n, b.itemCount = .ok n ∧
    ∀ i < n.toNat, ∀ d, b.field? s!"PARAM{i}" = some d → ∃ ps, d = .ofPoints ps

/-- Proper blocks declare texts. -/
lemma Proper.named (h : b.Proper) : b.Named where
  name ht := by
    rcases ht with ht | ht | ht
    · exact h.exists_words ht "name" (by decide) (by decide)
    · exact h.exists_words ht "name" (by decide) (by decide)
    · exact h.exists_words ht "name" (by decide) (by decide)
  params ht := by
    obtain ⟨n, hn⟩ := h.exists_itemCount (by rw [ht]; decide)
    refine ⟨n, hn, fun i _ d hd => ?_⟩
    exact h.words (BlockType.sortOf_of_diverge (prefix_append_text "PARAM" (toString i)) (by decide))
      hd

end Block

/-! ## Determining the names -/

namespace Workspace

variable {ws : Workspace}

/-- The names in a target are texts. -/
private lemma isWords_targetNames (hnamed : ∀ id b, ws.block? id = some b → b.Named) (fuel : ℕ)
    (id : BlockId) : ∀ d ∈ ws.targetNames fuel id, IsWords d := by
  induction fuel generalizing id with
  | zero => simp [targetNames]
  | succ fuel ih =>
    intro d hd
    unfold targetNames at hd
    cases hb : ws.block? id with
    | none => simp [hb] at hd
    | some b =>
      simp only [hb] at hd
      split at hd
      case h_1 ht =>
        obtain ⟨s, hs⟩ := (hnamed id b hb).name (.inr (.inl ht))
        rw [hs, Option.getD_some, List.mem_singleton] at hd
        exact ⟨s, hd⟩
      case h_2 | h_3 =>
        obtain ⟨slot, -, hd⟩ := List.mem_flatMap.mp hd
        split at hd
        · exact ih _ d hd
        · cases hd
      case h_4 => cases hd

private lemma isWords_namesIn (hnamed : ∀ id b, ws.block? id = some b → b.Named) (id : BlockId)
    (slot : String) : ∀ d ∈ ws.namesIn id slot, IsWords d := by
  intro d hd
  unfold namesIn at hd
  split at hd
  · exact isWords_targetNames hnamed _ _ d hd
  · cases hd

/-- The variables that a named block declares are texts. -/
lemma exists_variablesOf (hnamed : ∀ id b, ws.block? id = some b → b.Named)
    {id : BlockId} {b : Block} (hb : b.Named) :
    ∃ names, ws.variablesOf id b = .ok names ∧ ∀ d ∈ names, IsWords d := by
  unfold variablesOf
  split
  case h_1 ht =>
    obtain ⟨s, hs⟩ := hb.name (.inl ht)
    refine ⟨_, rfl, fun d hd => ⟨s, ?_⟩⟩
    rw [List.mem_singleton.mp hd, Block.field, hs, Option.getD_some]
  case h_2 =>
    refine ⟨_, rfl, fun d hd => ?_⟩
    obtain ⟨slot, -, hd⟩ := List.mem_flatMap.mp hd
    exact isWords_namesIn hnamed id slot d hd
  case h_3 | h_4 => exact ⟨_, rfl, isWords_namesIn hnamed id "TARGET"⟩
  case h_5 ht =>
    obtain ⟨n, hn, hparams⟩ := hb.params ht
    refine ⟨(indexed "PARAM" n.toNat).map fun name => (b.field? name).getD "", ?_, fun d hd => ?_⟩
    · simp only [hn, bind, Except.bind]
      rfl
    · obtain ⟨name, hname, rfl⟩ := List.mem_map.mp hd
      obtain ⟨i, hi, rfl⟩ := List.mem_map.mp hname
      cases hd : b.field? s!"PARAM{i}" with
      | none => exact Datum.exists_ofPoints ""
      | some d => exact hparams i (List.mem_range.mp hi) d hd
  case h_6 => exact ⟨[], rfl, by simp⟩

/-- A text is added to the declared names. -/
private lemma exists_declare {names : List Datum} (hnames : ∀ d ∈ names, IsWords d) {d : Datum}
    (hd : IsWords d) : ∃ names', declare names d = .ok names' ∧ ∀ d ∈ names', IsWords d := by
  obtain ⟨ps, rfl⟩ := hd
  unfold declare
  split
  · exact ⟨names, rfl, hnames⟩
  · refine ⟨_, if_pos (Datum.isHashable_ofPoints ps), fun d hd => ?_⟩
    rcases mem_insertNew hd with rfl | hd
    · exact ⟨ps, rfl⟩
    · exact hnames d hd

/-- The declared variables of named blocks can be determined. -/
theorem exists_declaredVariables (hblocks : ∀ entry ∈ ws.blocks, entry.2.Named) :
    ∃ names, ws.declaredVariables = .ok names := by
  have hnamed : ∀ id b, ws.block? id = some b → b.Named := fun id b hb =>
    hblocks (id, b) (mem_of_entryAt? hb)
  have hless : ∀ a b : Datum, IsWords a → IsWords b → ∃ v, a.precedes b = .ok v := by
    rintro _ _ ⟨ps, rfl⟩ ⟨qs, rfl⟩
    exact ⟨_, Datum.precedes_ofPoints ps qs⟩
  have hstep : ∀ names : List Datum, (∀ d ∈ names, IsWords d) → ∀ entry ∈ ws.blocks,
      ∃ names', (do (← ws.variablesOf entry.1 entry.2).foldlM declare names) = Except.ok names' ∧
        ∀ d ∈ names', IsWords d := by
    rintro names hnames ⟨id, b⟩ hmem
    obtain ⟨vars, hvars, hwords⟩ := exists_variablesOf hnamed (hblocks _ hmem)
    rw [hvars]
    exact exists_foldlM (fun names hnames d hd => exists_declare hnames (hwords d hd)) hnames
  obtain ⟨found, hfound, hwords⟩ := exists_foldlM hstep (by simp : ∀ d ∈ [], IsWords d)
  obtain ⟨names, hnames, -⟩ := exists_sorted hless hwords
  refine ⟨names, ?_⟩
  unfold declaredVariables
  rw [hfound]
  exact hnames

/-- The declared functions of named blocks can be determined. -/
theorem exists_declaredFunctions (hblocks : ∀ entry ∈ ws.blocks, entry.2.Named) :
    ∃ functions, ws.declaredFunctions = .ok functions := by
  have hless : ∀ f g : Datum × ℤ, IsWords f.1 → IsWords g.1 → ∃ v, functionPrecedes f g = .ok v := by
    rintro ⟨_, m⟩ ⟨_, n⟩ ⟨ps, rfl⟩ ⟨qs, rfl⟩
    unfold functionPrecedes
    split
    · exact ⟨_, rfl⟩
    · exact ⟨_, Datum.precedes_ofPoints ps qs⟩
  have hstep : ∀ found : List (Datum × ℤ), (∀ f ∈ found, IsWords f.1) → ∀ entry ∈ ws.blocks,
      ∃ found', (do
        let name := entry.2.field "name"
        if entry.2.type == .functionDef && name.isTruthy then
          let n ← entry.2.itemCount
          if name.isHashable then return insertNew sameFunction (name, n) found
          else throw (.notHashable name.typeWord)
        else return found) = Except.ok found' ∧ ∀ f ∈ found', IsWords f.1 := by
    rintro found hfound ⟨id, b⟩ hmem
    have hb : b.Named := hblocks _ hmem
    dsimp only
    split
    case isTrue hcond =>
      have ht : b.type = .functionDef := by
        simp only [Bool.and_eq_true, beq_iff_eq] at hcond
        exact hcond.1
      obtain ⟨ps, hps⟩ := hb.name (.inr (.inr ht))
      obtain ⟨n, hn, -⟩ := hb.params ht
      have hname : b.field "name" = .ofPoints ps := by rw [Block.field, hps, Option.getD_some]
      refine ⟨insertNew sameFunction (.ofPoints ps, n) found, ?_, fun f hf => ?_⟩
      · simp only [hn, hname, bind, Except.bind, Datum.isHashable_ofPoints]
        rfl
      · rcases mem_insertNew hf with rfl | hf
        · exact ⟨ps, rfl⟩
        · exact hfound f hf
    case isFalse => exact ⟨found, rfl, hfound⟩
  obtain ⟨found, hfound, hwords⟩ := exists_foldlM hstep
    (by simp : ∀ f ∈ ([] : List (Datum × ℤ)), IsWords f.1)
  obtain ⟨functions, hfunctions, -⟩ := exists_sorted hless hwords
  refine ⟨functions, ?_⟩
  unfold declaredFunctions
  rw [hfound]
  exact hfunctions

end Workspace

/-- The declared names of named blocks are determined anew. -/
lemma Edit.yields_refreshDeclared {ws : Workspace} {done : Unit → Workspace → Prop}
    (hblocks : ∀ entry ∈ ws.blocks, entry.2.Named)
    (hdone : ∀ variableNames functions, done () { ws with variableNames, functions }) :
    Yields refreshDeclared ws done := by
  obtain ⟨names, hnames⟩ := Workspace.exists_declaredVariables hblocks
  have hafter : ∃ functions, { ws with variableNames := names }.declaredFunctions = .ok functions :=
    Workspace.exists_declaredFunctions hblocks
  obtain ⟨functions, hfunctions⟩ := hafter
  unfold refreshDeclared
  simp only [Yields, ends_bind, ends_get, ends_modify]
  rw [hnames]
  change Ends (ofFault { ws with variableNames := names }.declaredFunctions) _ _ _
  rw [hfunctions]
  exact hdone names functions

end BlockText

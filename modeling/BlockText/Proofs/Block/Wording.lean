import BlockText.Block.Builtin
import BlockText.Proofs.Block.Measured
import BlockText.Proofs.Syntax.WellFormed
import BlockText.Syntax.Reading

/-!
# Fields that hold texts and choices

A block has the fields of its type and those that its counts add.  Among them are fields for texts
and fields that select a value of a vocabulary: an operator, a kind, or the name of a function that
the block calls.  Nothing keeps other data out of such fields, so that they hold what they are for
is a property of a block: `Block.Worded` for texts and `Block.WellChosen` for choices.
-/

namespace BlockText

open Syntax

instance (d : Datum) : Decidable (IsText d) :=
  decidable_of_iff (d.points?.isSome = true) Datum.isSome_points?

/-- The datum spells a value of a vocabulary. -/
def selects (α : Type) [Choice α] (d : Datum) : Bool := (choice? α d).isSome

namespace BlockType

/-- Which data a field may hold if it selects a value of a vocabulary. -/
def vocabulary? (t : BlockType) (name : String) : Option (Datum → Bool) :=
  match t with
  | binary | augAssign => if name == "op" then some (selects BinaryOp) else Option.none
  | unary => if name == "op" then some (selects UnaryOp) else Option.none
  | boolOp => if name == "op" then some (selects BoolOp) else Option.none
  | compare =>
    if Text.startsWith name "OP".toList then some (selects CompareOp) else Option.none
  | functionDef | lambda =>
    if Text.startsWith name "PARAM_KIND".toList then some (selects ParamKind) else Option.none
  | comprehension => if name == "kind" then some (selects ComprehensionKind) else Option.none
  | fstring =>
    if Text.startsWith name "PART_KIND".toList then some (selects PartKind) else Option.none
  | t =>
    (BuiltinCall.ofType? t).bind fun builtin =>
      if builtin.calleeField == some name then some fun d => (builtin.calleeOf? d).isSome
      else Option.none

/-- A name with an index starts with its stem. -/
lemma startsWith_indexed (stem : String) (i : ℕ) :
    Text.startsWith s!"{stem}{i}" stem.toList = true :=
  startsWith_iff.mpr (prefix_append_text stem (toString i))

-- The vocabularies of a type are looked up with the equations derived here, once.
attribute [local simp] vocabulary?

/-- A name that starts with the stem of a field for choices is such a field. -/
lemma vocabulary?_operator (i : ℕ) : compare.vocabulary? s!"OP{i}" = some (selects CompareOp) := by
  rw [vocabulary?, startsWith_indexed "OP" i]
  rfl

lemma vocabulary?_paramKind {t : BlockType} (ht : t = functionDef ∨ t = lambda) (i : ℕ) :
    t.vocabulary? s!"PARAM_KIND{i}" = some (selects ParamKind) := by
  rcases ht with rfl | rfl <;> rw [vocabulary?, startsWith_indexed "PARAM_KIND" i] <;> rfl

lemma vocabulary?_partKind (i : ℕ) :
    fstring.vocabulary? s!"PART_KIND{i}" = some (selects PartKind) := by
  rw [vocabulary?, startsWith_indexed "PART_KIND" i]
  rfl

/-- The field for the name that a block calls selects one of its names. -/
lemma vocabulary?_callee {t : BlockType} {builtin : BuiltinCall} {field : String}
    (h : BuiltinCall.ofType? t = some builtin) (hfield : builtin.calleeField = some field) :
    t.vocabulary? field = some fun d => (builtin.calleeOf? d).isSome := by
  have hlast : t.vocabulary? field = (BuiltinCall.ofType? t).bind fun builtin =>
      if builtin.calleeField == some field then some fun d => (builtin.calleeOf? d).isSome
      else Option.none := by
    cases t <;> first | rfl | cases h
  rw [hlast, h, Option.bind_some, hfield]
  simp

/-- The count that says how many fields with an index a block has. -/
def fieldCount : BlockType → String
  | tryStmt => "handler_count"
  | call => "keyword_count"
  | _ => "item_count"

/-- A block has fields with an index for each of its items. -/
lemma mem_shape_fields {t : BlockType} {fields : List (String × Datum)} {shape : BlockShape} {n : ℕ}
    (h : t.shapeFor fields = .ok shape) (hn : countOf fields t.fieldCount = .ok n)
    {stem : String} (hstem : stem ∈ t.fieldStems.map (·.1)) {i : ℕ} (hi : i < n) :
    s!"{stem}{i}" ∈ shape.fields.map (·.1) := by
  have hindexed : ∀ d : Datum, s!"{stem}{i}" ∈ ((indexed stem n).map (·, d)).map (·.1) := by
    intro d
    rw [List.map_map]
    exact List.mem_map.mpr ⟨_, mem_indexed hi, rfl⟩
  have hflat : ∀ f : ℕ → List (String × Datum), s!"{stem}{i}" ∈ (f i).map (·.1) →
      s!"{stem}{i}" ∈ ((List.range n).flatMap f).map (·.1) := by
    intro f hf
    rw [List.map_flatMap]
    exact List.mem_flatMap.mpr ⟨i, List.mem_range.mpr hi, hf⟩
  cases t
  case comprehension =>
    obtain ⟨hifs, hasyncs⟩ := mem_comprehension_fields h hn hi
    simp only [fieldStems, List.map_cons, List.map_nil, List.mem_cons, List.not_mem_nil,
      or_false] at hstem
    rcases hstem with rfl | rfl
    · exact hifs
    · exact hasyncs
  case tryStmt | withStmt | compare =>
    obtain ⟨k, hk, ⟨⟩⟩ := bind_eq_ok_iff.mp h
    obtain rfl := Except.ok.inj (hk.symm.trans hn)
    simp only [fieldStems, List.map_cons, List.map_nil, List.mem_singleton] at hstem
    subst hstem
    exact hindexed _
  case call =>
    obtain ⟨k, hk, h⟩ := bind_eq_ok_iff.mp h
    obtain ⟨m, -, ⟨⟩⟩ := bind_eq_ok_iff.mp h
    obtain rfl := Except.ok.inj (hk.symm.trans hn)
    simp only [fieldStems, List.map_cons, List.map_nil, List.mem_singleton] at hstem
    subst hstem
    exact hindexed _
  case functionDef =>
    obtain ⟨k, hk, h⟩ := bind_eq_ok_iff.mp h
    obtain ⟨m, -, ⟨⟩⟩ := bind_eq_ok_iff.mp h
    obtain rfl := Except.ok.inj (hk.symm.trans hn)
    simp only [fieldStems, List.map_cons, List.map_nil, List.mem_cons, List.not_mem_nil,
      or_false] at hstem
    rcases hstem with rfl | rfl <;> exact hflat _ (by simp)
  case lambda | importStmt | fstring =>
    obtain ⟨k, hk, ⟨⟩⟩ := bind_eq_ok_iff.mp h
    obtain rfl := Except.ok.inj (hk.symm.trans hn)
    simp only [fieldStems, List.map_cons, List.map_nil, List.mem_cons, List.not_mem_nil,
      or_false] at hstem
    rcases hstem with rfl | rfl | rfl | rfl <;> exact hflat _ (by simp)
  all_goals cases hstem

end BlockType

namespace Block

/-- The block has a field with this name, by its type or by its counts. -/
def HasField (b : Block) (name : String) : Prop :=
  name ∈ b.type.fields.map (·.1) ∨
    ∃ shape, b.type.shapeFor b.fields = .ok shape ∧ name ∈ shape.fields.map (·.1)

/-- All fields of the block that are for texts hold texts. -/
def Worded (b : Block) : Prop :=
  ∀ name, b.HasField name → b.type.sortOf name = .words → b.type.vocabulary? name = none →
    ∀ d, b.field? name = some d → IsText d

/-- All fields of the block that select a value of a vocabulary hold one. -/
def WellChosen (b : Block) : Prop :=
  ∀ name, b.HasField name → ∀ allowed, b.type.vocabulary? name = some allowed →
    ∀ d, b.field? name = some d → allowed d

variable {b : Block}

/-- Whether the fields for texts hold texts shows in the fields that are there. -/
lemma worded_of_fields (h : ∀ f ∈ b.fields, b.type.sortOf f.1 = .words →
    b.type.vocabulary? f.1 = none → IsText f.2) : b.Worded :=
  fun name _ hsort hnone d hd => h (name, d) (mem_of_entryAt? hd) hsort hnone

/-- Whether the fields for choices hold choices shows in the fields that are there. -/
lemma wellChosen_of_fields (h : ∀ f ∈ b.fields, (b.type.vocabulary? f.1).all (· f.2)) :
    b.WellChosen := by
  intro name _ allowed hallowed d hd
  have hall := h (name, d) (mem_of_entryAt? hd)
  rwa [hallowed] at hall

/-- A measured block has all its fields. -/
lemma Measured.isSome_field? (h : b.Measured) {name : String} (hname : b.HasField name) :
    (b.field? name).isSome := by
  rcases hname with hfixed | ⟨shape, hshape, hmem⟩
  · exact h.counted.complete name hfixed
  · obtain ⟨shape', hshape', -, -, hfields⟩ := h.shaped
    obtain rfl := Except.ok.inj (hshape.symm.trans hshape')
    obtain ⟨f, hf, rfl⟩ := List.mem_map.mp hmem
    exact hfields f hf

/-- A measured block has the fields with the indexes of its items. -/
lemma Measured.hasField_indexed (h : b.Measured) {n : ℕ}
    (hn : countOf b.fields b.type.fieldCount = .ok n) {stem : String}
    (hstem : stem ∈ b.type.fieldStems.map (·.1)) {i : ℕ} (hi : i < n) :
    b.HasField s!"{stem}{i}" := by
  obtain ⟨shape, hshape, -⟩ := h.shaped
  exact .inr ⟨shape, hshape, BlockType.mem_shape_fields hshape hn hstem hi⟩

end Block

end BlockText

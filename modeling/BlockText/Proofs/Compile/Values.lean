import BlockText.Proofs.Block.Wording
import BlockText.Proofs.Compile.Outcome
import BlockText.Proofs.Text.Split

/-!
# Expressions read off any blocks

Whatever blocks are plugged together, reading them as an expression is refused only if a field for
a text holds no text or a field for a choice none of its values.  And if the fields for texts hold
texts, the expression is well-formed, because the reader fills in what is missing: a name where a
slot is empty or a name is, a spelling where there is none, a key only for a dictionary.
-/

namespace BlockText

open Syntax

/-! ## Fields with an index that hold texts -/

namespace BlockType

/-- The fields that every block of a type has for texts. -/
def isWordField (t : BlockType) (name : String) : Bool :=
  (t.fields.map (·.1)).contains name && t.sortOf name == .words && (t.vocabulary? name).isNone

/-- The stems of the fields for texts that the counts of a block add. -/
def wordStems : BlockType → List String
  | tryStmt => ["EXCEPT_NAME"]
  | withStmt => ["NAME"]
  | functionDef | lambda => ["PARAM"]
  | importStmt => ["NAME", "ALIAS"]
  | call => ["KWARG_NAME"]
  | fstring => ["PART_TEXT", "CONVERSION", "FORMAT_SPEC"]
  | _ => []

/-- These stems are stems of fields, and they are not taken for those of other fields. -/
private lemma wordStems_sound (t : BlockType) : ∀ stem ∈ t.wordStems,
    stem ∈ t.fieldStems.map (·.1) ∧ (∀ p ∈ specialNames, Diverge stem p) ∧
      ∀ p ∈ ["PARAM_KIND", "PART_KIND"], ¬ p.toList <+: stem.toList := by
  cases t <;> decide

/-- A name with an index starts with a text without digits only if its stem does. -/
lemma startsWith_indexed_eq_false {stem p : String} (hp : Wordy p) (h : ¬ p.toList <+: stem.toList)
    (i : ℕ) : Text.startsWith s!"{stem}{i}" p.toList = false := by
  rw [Bool.eq_false_iff, Ne, startsWith_iff, toList_indexed]
  intro hstarts
  rcases List.prefix_or_prefix_of_prefix hstarts (List.prefix_append _ _) with hps | ⟨rest, hrest⟩
  · exact h hps
  · -- What of the text is left after the stem is a part of the number.
    rw [← hrest, List.prefix_append_right_inj] at hstarts
    cases rest with
    | nil => exact h (by rw [← hrest, List.append_nil])
    | cons c rest =>
      have hc : c.isDigit = true :=
        Nat.isDigit_of_mem_toDigits (by decide) (by decide)
          (hstarts.subset List.mem_cons_self)
      have hmem : c ∈ p.toList := by
        rw [← hrest]
        exact List.mem_append_right _ List.mem_cons_self
      rw [hp.isDigit hmem] at hc
      cases hc

/-- Fields for texts select nothing. -/
private lemma vocabulary?_indexed {t : BlockType} {stem : String} (hstem : stem ∈ t.wordStems)
    (i : ℕ) : t.vocabulary? s!"{stem}{i}" = Option.none := by
  obtain ⟨-, -, hkinds⟩ := t.wordStems_sound stem hstem
  have hparam := startsWith_indexed_eq_false (by decide) (hkinds "PARAM_KIND" (by decide)) i
  have hpart := startsWith_indexed_eq_false (by decide) (hkinds "PART_KIND" (by decide)) i
  cases t
  case functionDef | lambda => rw [vocabulary?, hparam]; rfl
  case fstring => rw [vocabulary?, hpart]; rfl
  case tryStmt | withStmt | importStmt | call => rfl
  all_goals cases hstem

end BlockType

namespace Compile

/-! ## Slots for values -/

/-- What the names of slots for statements start with. -/
def bodyStems : List String := ["BODY", "ELSE_BODY", "FINALLY_BODY", "CASES", "EXCEPT_BODY"]

/-- The name is not that of a slot for statements. -/
def IsValueName (s : String) : Prop := ∀ stem ∈ bodyStems, ¬ stem.toList <+: s.toList

instance (s : String) : Decidable (IsValueName s) :=
  inferInstanceAs (Decidable (∀ stem ∈ bodyStems, ¬ stem.toList <+: s.toList))

/-- A name that starts in another way than slots for statements is none of them. -/
lemma isValueName_of_stem {stem s : String} (h : ∀ other ∈ bodyStems, Diverge stem other)
    (hs : stem.toList <+: s.toList) : IsValueName s :=
  fun other hother hstarts => (h other hother).ne hs hstarts rfl

/-- Slots for statements have names of their own. -/
lemma exists_bodyStem {b : Block} (h : b.Measured) {s : String} (hs : s ∈ b.statements) :
    ¬ IsValueName s := by
  obtain ⟨shape, hshape, hperm⟩ := h.statements_perm
  have hstems : ∀ w ∈ b.type.statementSlots ++ b.type.statementStems, w ∈ bodyStems := by
    cases b.type <;> decide
  intro hvalue
  rcases List.mem_append.mp (hperm.mem_iff.mp hs) with hs | hs
  · exact hvalue s (hstems s (List.mem_append_left _ hs)) List.prefix_rfl
  · obtain ⟨w, hw, hstarts⟩ := (BlockType.stem_of_mem_shapeFor hshape).2 s hs
    exact hvalue w (hstems w (List.mem_append_right _ hw)) hstarts

/-! ## Fields for texts -/

section Words

variable {b : Block} {t : BlockType}

/-- A field for a text holds one. -/
lemma exists_word (h : b.Measured) (hworded : b.Worded) (ht : b.type = t) (name : String)
    (hname : t.isWordField name = true) : ∃ ps, b.field? name = some (.ofPoints ps) := by
  subst ht
  simp only [BlockType.isWordField, Bool.and_eq_true, List.contains_iff_mem, beq_iff_eq,
    Option.isNone_iff_eq_none] at hname
  obtain ⟨⟨hmem, hsort⟩, hnone⟩ := hname
  have hfield : b.HasField name := .inl hmem
  obtain ⟨d, hd⟩ := Option.isSome_iff_exists.mp (h.isSome_field? hfield)
  obtain ⟨ps, rfl⟩ := hworded name hfield hsort hnone d hd
  exact ⟨ps, hd⟩

/-- A field for a text with the index of an item holds one. -/
lemma exists_word_indexed (h : b.Measured) (hworded : b.Worded) (ht : b.type = t) {n : ℕ}
    (hn : countOf b.fields t.fieldCount = .ok n) (stem : String) (hstem : stem ∈ t.wordStems) {i : ℕ}
    (hi : i < n) : ∃ ps, b.field? s!"{stem}{i}" = some (.ofPoints ps) := by
  subst ht
  obtain ⟨hstems, hdiverge, -⟩ := b.type.wordStems_sound stem hstem
  have hfield : b.HasField s!"{stem}{i}" := h.hasField_indexed hn hstems hi
  have hsort := BlockType.sortOf_of_diverge (t := b.type) (prefix_append_text stem (toString i))
    hdiverge
  obtain ⟨d, hd⟩ := Option.isSome_iff_exists.mp (h.isSome_field? hfield)
  obtain ⟨ps, rfl⟩ := hworded _ hfield hsort (BlockType.vocabulary?_indexed hstem i) d hd
  exact ⟨ps, hd⟩

end Words

/-! ## Blocks that are ready to be read -/

/-- The slots of a block are read with the same guarantees as the block: without a flaw its fields
hold what they are for, and if the fields for texts hold texts, what is read is well-formed. -/
structure Ready (b : Block) (slots : Slots) (texts flaw : Prop) : Prop where
  measured : b.Measured
  worded : texts → b.Worded
  faultless : ¬ flaw → b.Worded ∧ b.WellChosen
  slots : ∀ s, IsValueName s →
    Ends (slots s) (fun o => ∀ e, o = some e → texts → e.WellFormed) flaw

namespace Ready

variable {id : BlockId} {b : Block} {slots : Slots} {texts flaw : Prop} {t : BlockType}

/-! ### Fields -/

/-- A field for a text. -/
lemma exists_word (h : Ready b slots texts flaw) (hworded : b.Worded) (ht : b.type = t)
    (name : String) (hname : t.isWordField name = true) :
    ∃ ps, b.field? name = some (.ofPoints ps) :=
  Compile.exists_word h.measured hworded ht name hname

/-- A field for a text with the index of an item. -/
lemma exists_word_indexed (h : Ready b slots texts flaw) (hworded : b.Worded) (ht : b.type = t)
    {n : ℕ} (hn : countOf b.fields t.fieldCount = .ok n) (stem : String)
    (hstem : stem ∈ t.wordStems) {i : ℕ} (hi : i < n) :
    ∃ ps, b.field? s!"{stem}{i}" = some (.ofPoints ps) :=
  Compile.exists_word_indexed h.measured hworded ht hn stem hstem hi

/-- A count. -/
lemma ends_countIn (h : Ready b slots texts flaw) {name : String} (hname : b.type.isCount name) :
    Ends (countIn b name) (fun n => countOf b.fields name = .ok n) flaw := by
  unfold countIn
  cases hd : b.field? name with
  | none => exact ends_pure (countOf_of_none hd)
  | some d =>
    obtain ⟨n, rfl⟩ := h.measured.counted.counts name hname d hd
    exact ends_pure (by simpa using countOf_of_entry hd)

/-- A field that selects a value of a vocabulary. -/
lemma ends_chosen (h : Ready b slots texts flaw) {α : Type} [Choice α] {name : String}
    (hname : b.HasField name) (hvocabulary : b.type.vocabulary? name = some (selects α))
    (preset : Datum) :
    Ends (chosen α id ((b.field? name).getD preset)) (fun _ => True) flaw := by
  unfold chosen
  split
  · exact ends_pure trivial
  case h_2 hnone =>
    refine ends_reject (by_contra fun hflaw => ?_)
    obtain ⟨d, hd⟩ := Option.isSome_iff_exists.mp (h.measured.isSome_field? hname)
    have hallowed := (h.faultless hflaw).2 name hname _ hvocabulary d hd
    rw [hd, Option.getD_some] at hnone
    simp [selects, hnone] at hallowed

/-- A name that may be missing in a field, with a name in its place. -/
lemma isName_nameIn {name : String} (hname : ∃ ps, b.field? name = some (.ofPoints ps)) :
    IsName (nameIn b name) := by
  obtain ⟨ps, hps⟩ := hname
  rw [nameIn, Block.field, hps, Option.getD_some, Datum.orElse]
  split
  · exact isName_text (by decide)
  case isFalse h => exact ⟨ps, fun hempty => h (by simp [hempty, Datum.isFalsy]), rfl⟩

/-- A name that may be missing in a field. -/
lemma isOptionalName_optionIn {name : String} (hname : ∃ ps, b.field? name = some (.ofPoints ps)) :
    IsOptionalName (optionIn b name) := by
  obtain ⟨ps, hps⟩ := hname
  rw [optionIn, Block.field, hps, Option.getD_some, Datum.orElse]
  split
  · exact .inl rfl
  case isFalse h => exact .inr ⟨ps, fun hempty => h (by simp [hempty, Datum.isFalsy]), rfl⟩

/-- The text in a field. -/
lemma isText_getD {name : String} (hname : ∃ ps, b.field? name = some (.ofPoints ps))
    (preset : Datum) : IsText ((b.field? name).getD preset) := by
  obtain ⟨ps, hps⟩ := hname
  exact ⟨ps, by rw [hps, Option.getD_some]⟩

/-! ### Slots -/

/-- The name that stands for something missing is a name. -/
lemma wellFormed_placeholder (i : Info) : (Expr.identifier missingName i).WellFormed :=
  ⟨isName_text (by decide), by simp [Expr.parts]⟩

/-- A slot for a value. -/
lemma ends_slot (h : Ready b slots texts flaw) (s : String) (hs : IsValueName s) :
    Ends (slots s) (fun o => ∀ e, o = some e → texts → e.WellFormed) flaw := h.slots s hs

/-- A slot for a value with an index. -/
lemma ends_slot_indexed (h : Ready b slots texts flaw) (stem : String) (i : ℕ)
    (hstem : ∀ other ∈ bodyStems, Diverge stem other) :
    Ends (slots s!"{stem}{i}") (fun o => ∀ e, o = some e → texts → e.WellFormed) flaw :=
  h.slots _ (isValueName_of_stem hstem (prefix_append_text stem (toString i)))

/-- A slot that is read with a placeholder if it is empty. -/
lemma ends_required (h : Ready b slots texts flaw) (s : String) (hs : IsValueName s) :
    Ends (required slots s) (fun e => texts → e.WellFormed) flaw := by
  refine (h.slots s hs).bind fun o ho => ?_
  cases o with
  | some e => exact ends_pure (ho e rfl)
  | none => exact ends_freshInfo.bind fun i _ => ends_pure fun _ => wellFormed_placeholder i

/-- A slot with an index that is read with a placeholder if it is empty. -/
lemma ends_required_indexed (h : Ready b slots texts flaw) (stem : String) (i : ℕ)
    (hstem : ∀ other ∈ bodyStems, Diverge stem other) :
    Ends (required slots s!"{stem}{i}") (fun e => texts → e.WellFormed) flaw :=
  h.ends_required _ (isValueName_of_stem hstem (prefix_append_text stem (toString i)))

/-- Slots that are read with placeholders. -/
lemma ends_requiredEach (h : Ready b slots texts flaw) {names : List String}
    (hnames : ∀ s ∈ names, IsValueName s) :
    Ends (names.mapM (required slots)) (fun es => es.length = names.length ∧
      ∀ e ∈ es, texts → e.WellFormed) flaw :=
  ends_mapM_all fun s hs => h.ends_required s (hnames s hs)

/-- Slots with an index that are read with placeholders. -/
lemma ends_requiredAll (h : Ready b slots texts flaw) (stem : String) (n : ℕ)
    (hstem : ∀ other ∈ bodyStems, Diverge stem other) :
    Ends (requiredAll slots stem n) (fun es => es.length = n ∧ ∀ e ∈ es, texts → e.WellFormed)
      flaw :=
  (h.ends_requiredEach fun _ hs => isValueName_of_stem hstem (stem_of_mem_indexed hs)).imp
    fun es hes => ⟨by simpa [indexed] using hes.1, hes.2⟩

/-! ### Literals -/

variable {filled : String → Bool}

/-- A number is spelled without blanks around it. -/
lemma isLiteral_number (b : Block) : IsLiteral .number (numberLiteral b) .null := by
  refine ⟨?_, rfl⟩
  unfold numberLiteral
  dsimp only
  split
  · exact ⟨Text.points "0", by decide, by decide, (Datum.ofPoints_points "0").symm⟩
  case isFalse h =>
    exact ⟨_, fun hempty => h (List.isEmpty_iff.mpr hempty), Text.trimBy_trimBy _, rfl⟩

/-- A text is spelled as it was read, or anew. -/
lemma ends_textLiteral (h : Ready b slots texts flaw) (ht : b.type = .string) :
    Ends (textLiteral b) (fun raw => texts → IsName raw) flaw := by
  unfold textLiteral
  dsimp only
  split
  case isTrue htruthy =>
    refine ends_pure fun htexts => ?_
    obtain ⟨ps, hps⟩ := h.exists_word (h.worded htexts) ht "raw" (by decide)
    rw [Block.field, hps, Option.getD_some] at htruthy ⊢
    exact ⟨ps, fun hempty => by simp [Datum.isTruthy, Datum.isFalsy, hempty] at htruthy, rfl⟩
  case isFalse =>
    have hspelled : b.Worded → ∃ d, IsName d ∧ Render.spelled ((b.field? "value").getD "")
        ((b.field? "quote").getD "\"") = .ok d := by
      intro hworded
      obtain ⟨v, hv⟩ := h.exists_word hworded ht "value" (by decide)
      rw [hv, Option.getD_some, spelled_ofPoints]
      exact ⟨_, ⟨_, Text.spellPoints_ne_nil v _, rfl⟩, rfl⟩
    split
    case h_1 d hd =>
      refine ends_pure fun htexts => ?_
      obtain ⟨d', hname, hd'⟩ := hspelled (h.worded htexts)
      rw [hd] at hd'
      obtain rfl := Except.ok.inj hd'
      exact hname
    all_goals
      refine ends_throw (by_contra fun hflaw => ?_)
      obtain ⟨d', -, hd'⟩ := hspelled (h.faultless hflaw).1
      simp_all

/-- The types of blocks that are read as literals. -/
def isLiteralType : BlockType → Bool
  | .number | .string | .bool | .none => true
  | _ => false

/-- A block for a literal is read as one. -/
lemma ends_literal (h : Ready b slots texts flaw) (ht : isLiteralType b.type = true) :
    Ends (exprOf id b filled slots) (fun e => ∃ kind raw value i,
      e = .literal kind raw value i ∧ (texts → IsLiteral kind raw value)) flaw := by
  unfold exprOf
  cases htype : b.type <;> simp only [htype, isLiteralType, reduceCtorEq] at ht ⊢
  case number =>
    exact ends_freshInfo.bind fun i _ => ends_pure ⟨_, _, _, i, rfl, fun _ => isLiteral_number b⟩
  case string =>
    refine (h.ends_textLiteral htype).bind fun raw hraw => ends_freshInfo.bind fun i _ =>
      ends_pure ⟨_, _, _, i, rfl, fun htexts => ⟨hraw htexts, ?_⟩⟩
    exact isText_getD (h.exists_word (h.worded htexts) htype "value" (by decide)) _
  case bool =>
    refine ends_freshInfo.bind fun i _ => ends_pure ⟨_, _, _, i, rfl, fun _ => ⟨_, ?_, rfl⟩⟩
    cases (b.field "value").isTruthy <;> rfl
  case none =>
    exact ends_freshInfo.bind fun i _ => ends_pure ⟨_, _, _, i, rfl, fun _ => ⟨rfl, rfl⟩⟩

/-! ### Operators -/

lemma ends_operator (h : Ready b slots texts flaw)
    (ht : b.type ∈ [.binary, .unary, .boolOp, .compare, .conditional]) :
    Ends (exprOf id b filled slots) (fun e => texts → e.WellFormed) flaw := by
  simp only [List.mem_cons, List.not_mem_nil, or_false] at ht
  rcases ht with ht | ht | ht | ht | ht <;> simp only [exprOf, ht]
  · refine ends_freshInfo.bind fun i _ => (h.ends_required "LEFT" (by decide)).bind fun l hl =>
      (h.ends_chosen (.inl (by rw [ht]; decide)) (by rw [ht]; rfl) .null).bind fun op _ =>
      (h.ends_required "RIGHT" (by decide)).bind fun r hr => ends_pure fun htexts => ?_
    exact ⟨trivial, by simp [Expr.parts, hl htexts, hr htexts]⟩
  · refine ends_freshInfo.bind fun i _ =>
      (h.ends_chosen (.inl (by rw [ht]; decide)) (by rw [ht]; rfl) .null).bind fun op _ =>
      (h.ends_required "OPERAND" (by decide)).bind fun e he => ends_pure fun htexts => ?_
    exact ⟨trivial, by simp [Expr.parts, he htexts]⟩
  · refine ends_freshInfo.bind fun i _ => (h.ends_countIn (by rw [ht]; decide)).bind fun n _ =>
      (h.ends_requiredAll "ITEM" n (by decide)).bind fun es hes =>
      (h.ends_chosen (.inl (by rw [ht]; decide)) (by rw [ht]; rfl) .null).bind fun op _ =>
      ends_pure fun htexts => ?_
    exact ⟨trivial, fun e he => hes.2 e he htexts⟩
  · refine ends_freshInfo.bind fun i _ => (h.ends_required "LEFT" (by decide)).bind fun l hl =>
      (h.ends_countIn (by rw [ht]; decide)).bind fun n hn => ?_
    have hops : Ends ((indexed "OP" n).mapM fun name => chosen CompareOp id (b.field name))
        (fun ops => ops.length = (indexed "OP" n).length ∧ ∀ op ∈ ops, True) flaw := by
      refine ends_mapM_all fun name hname => ?_
      obtain ⟨j, hj, rfl⟩ := List.mem_map.mp hname
      exact h.ends_chosen (h.measured.hasField_indexed (by rw [ht]; exact hn) (by rw [ht]; decide)
        (List.mem_range.mp hj)) (by rw [ht]; exact BlockType.vocabulary?_operator j) .null
    refine hops.bind fun ops hops => (h.ends_requiredAll "CMP" n (by decide)).bind fun es hes =>
      ends_pure fun htexts => ?_
    refine ⟨?_, List.forall_mem_cons.mpr ⟨hl htexts, fun e he => hes.2 e he htexts⟩⟩
    exact (hops.1.trans (by simp [indexed])).trans hes.1.symm
  · refine ends_freshInfo.bind fun i _ => (h.ends_required "COND" (by decide)).bind fun t ht =>
      (h.ends_required "THEN" (by decide)).bind fun th hth =>
      (h.ends_required "ELSE" (by decide)).bind fun el hel =>
      ends_pure fun htexts => ?_
    exact ⟨trivial, by simp [Expr.parts, ht htexts, hth htexts, hel htexts]⟩

/-! ### Wrappers and accesses -/

lemma ends_wrapper (h : Ready b slots texts flaw)
    (ht : b.type ∈ [.member, .subscript, .slice, .grouped, .walrus, .yield, .yieldFrom, .await]) :
    Ends (exprOf id b filled slots) (fun e => texts → e.WellFormed) flaw := by
  simp only [List.mem_cons, List.not_mem_nil, or_false] at ht
  rcases ht with ht | ht | ht | ht | ht | ht | ht | ht <;> simp only [exprOf, ht]
  · refine ends_freshInfo.bind fun i _ => (h.ends_required "VALUE" (by decide)).bind fun e he =>
      ends_pure fun htexts => ?_
    exact ⟨isName_nameIn (h.exists_word (h.worded htexts) ht "attr" (by decide)),
      by simp [Expr.parts, he htexts]⟩
  · refine ends_freshInfo.bind fun i _ => (h.ends_required "VALUE" (by decide)).bind fun e he =>
      (h.ends_required "INDEX" (by decide)).bind fun index hindex => ends_pure fun htexts => ?_
    exact ⟨trivial, by simp [Expr.parts, he htexts, hindex htexts]⟩
  · refine ends_freshInfo.bind fun i _ => (h.ends_slot "LOWER" (by decide)).bind fun lower hlower =>
      (h.ends_slot "UPPER" (by decide)).bind fun upper hupper =>
      (h.ends_slot "STEP" (by decide)).bind fun step hstep =>
      ends_pure fun htexts => ?_
    refine ⟨trivial, fun e he => ?_⟩
    simp only [Expr.parts, List.mem_append, Option.mem_toList] at he
    rcases he with (he | he) | he
    · exact hlower e he htexts
    · exact hupper e he htexts
    · exact hstep e he htexts
  · refine (h.ends_required "EXPR" (by decide)).bind fun e he => ends_freshInfo.bind fun i _ =>
      ends_pure fun htexts => ?_
    exact ⟨trivial, by simp [Expr.parts, he htexts]⟩
  · refine ends_freshInfo.bind fun i _ => (h.ends_required "VALUE" (by decide)).bind fun e he =>
      ends_pure fun htexts => ?_
    exact ⟨isName_nameIn (h.exists_word (h.worded htexts) ht "name" (by decide)),
      by simp [Expr.parts, he htexts]⟩
  · refine (h.ends_slot "VALUE" (by decide)).bind fun o ho => ends_freshInfo.bind fun i _ =>
      ends_pure fun htexts => ?_
    exact ⟨trivial, fun e he => ho e (by simpa [Expr.parts] using he) htexts⟩
  · refine (h.ends_required "VALUE" (by decide)).bind fun e he => ends_freshInfo.bind fun i _ =>
      ends_pure fun htexts => ?_
    exact ⟨trivial, by simp [Expr.parts, he htexts]⟩
  · refine (h.ends_required "VALUE" (by decide)).bind fun e he => ends_freshInfo.bind fun i _ =>
      ends_pure fun htexts => ?_
    exact ⟨trivial, by simp [Expr.parts, he htexts]⟩

/-! ### Parts in numbers -/

lemma ends_collection (h : Ready b slots texts flaw) (ht : b.type ∈ [.tuple, .list, .set, .dict]) :
    Ends (exprOf id b filled slots) (fun e => texts → e.WellFormed) flaw := by
  have hcount : b.type.isCount "item_count" = true := by
    simp only [List.mem_cons, List.not_mem_nil, or_false] at ht
    rcases ht with ht | ht | ht | ht <;> rw [ht] <;> decide
  have hitems : ∀ {f : List Expr → Info → Expr}, (∀ es i, (f es i).Sane ∧ (f es i).parts = es) →
      Ends (do
        let items ← requiredAll slots "ITEM" (← countIn b "item_count")
        return f items (← freshInfo)) (fun e => texts → e.WellFormed) flaw := by
    intro f hf
    refine (h.ends_countIn hcount).bind fun n _ =>
      (h.ends_requiredAll "ITEM" n (by decide)).bind fun es hes =>
      ends_freshInfo.bind fun i _ => ends_pure fun htexts => ⟨(hf es i).1, ?_⟩
    rw [(hf es i).2]
    exact fun e he => hes.2 e he htexts
  simp only [List.mem_cons, List.not_mem_nil, or_false] at ht
  rcases ht with ht | ht | ht | ht <;> simp only [exprOf, ht]
  · exact hitems fun es i => ⟨trivial, rfl⟩
  · exact hitems fun es i => ⟨trivial, rfl⟩
  · exact hitems fun es i => ⟨trivial, rfl⟩
  · have hentries : Ends (entries b slots) (fun ds => ∀ d ∈ ds, texts →
        ∀ e ∈ d.key.toList ++ [d.value], e.WellFormed) flaw := by
      unfold entries
      refine (h.ends_countIn hcount).bind fun n _ =>
        (ends_mapM_all fun j _ => ?_).imp fun ds hds => hds.2
      refine ends_freshInfo.bind fun i _ =>
        (h.ends_slot_indexed "KEY" j (by decide)).bind fun key hkey =>
        (h.ends_required_indexed "VALUE" j (by decide)).bind fun value hvalue =>
        ends_pure fun htexts e he => ?_
      simp only [List.mem_append, Option.mem_toList, List.mem_singleton] at he
      rcases he with he | rfl
      · exact hkey e he htexts
      · exact hvalue htexts
    refine ends_freshInfo.bind fun i _ => hentries.bind fun ds hds => ends_pure fun htexts => ?_
    refine ⟨trivial, fun e he => ?_⟩
    obtain ⟨d, hd, he⟩ := List.mem_flatMap.mp he
    exact hds d hd htexts e he

/-- Parameters: their names are texts, their types are there only if they are wanted, and types and
defaults are well-formed. -/
lemma ends_params (h : Ready b slots texts flaw) (ht : b.type = .functionDef ∨ b.type = .lambda)
    (hints : Bool) :
    Ends (params id b slots hints) (fun ps => ∀ p ∈ ps, texts →
      IsText p.name ∧ (hints = false → p.hint = none) ∧
        ∀ e ∈ p.hint.toList ++ p.preset.toList, e.WellFormed) flaw := by
  have hcount : b.type.isCount "item_count" = true := by
    rcases ht with ht | ht <;> rw [ht] <;> decide
  have hfields : b.type.fieldCount = "item_count" := by
    rcases ht with ht | ht <;> rw [ht] <;> rfl
  have hstems : "PARAM_KIND" ∈ b.type.fieldStems.map (·.1) ∧ "PARAM" ∈ b.type.wordStems := by
    rcases ht with ht | ht <;> rw [ht] <;> decide
  unfold params
  refine (h.ends_countIn hcount).bind fun n hn =>
    (ends_mapM_all fun j hj => ?_).imp fun ps hps => hps.2
  have hj := List.mem_range.mp hj
  have hhint : Ends (hintAt slots hints j)
      (fun o => (hints = false → o = none) ∧ ∀ e, o = some e → texts → e.WellFormed) flaw := by
    cases hints with
    | true => exact (h.ends_slot_indexed "ANNOTATION" j (by decide)).imp fun o ho => ⟨by simp, ho⟩
    | false => exact ends_pure ⟨fun _ => rfl, by simp⟩
  refine ends_freshInfo.bind fun i _ => hhint.bind fun hint hhint =>
    (h.ends_slot_indexed "DEFAULT" j (by decide)).bind fun preset hpreset =>
    (h.ends_chosen (h.measured.hasField_indexed (by rwa [hfields]) hstems.1 hj)
      (BlockType.vocabulary?_paramKind ht j) _).bind fun kind _ => ends_pure fun htexts => ?_
  refine ⟨isText_getD (h.exists_word_indexed (h.worded htexts) rfl (by rwa [hfields]) "PARAM"
    hstems.2 hj) _, hhint.1, fun e he => ?_⟩
  rcases List.mem_append.mp he with he | he
  · exact hhint.2 e (Option.mem_toList.mp he) htexts
  · exact hpreset e (Option.mem_toList.mp he) htexts

lemma ends_lambda (h : Ready b slots texts flaw) (ht : b.type = .lambda) :
    Ends (exprOf id b filled slots) (fun e => texts → e.WellFormed) flaw := by
  simp only [exprOf, ht]
  refine ends_freshInfo.bind fun i _ => (h.ends_params (.inr ht) false).bind fun ps hps =>
    (h.ends_required "EXPR" (by decide)).bind fun e he => ends_pure fun htexts => ⟨?_, ?_⟩
  · exact fun p hp => ⟨(hps p hp htexts).1, (hps p hp htexts).2.1 rfl⟩
  · refine List.forall_mem_cons.mpr ⟨he htexts, fun part hpart => ?_⟩
    obtain ⟨p, hp, hpart⟩ := List.mem_flatMap.mp hpart
    exact (hps p hp htexts).2.2 part hpart

lemma ends_call (h : Ready b slots texts flaw) (ht : b.type = .call) :
    Ends (exprOf id b filled slots) (fun e => texts → e.WellFormed) flaw := by
  have hkeywords : Ends (keywords b slots) (fun ks => ∀ k ∈ ks, texts →
      IsOptionalName k.name ∧ k.value.WellFormed) flaw := by
    unfold keywords
    refine (h.ends_countIn (by rw [ht]; decide)).bind fun n hn =>
      (ends_mapM_all fun j hj => ?_).imp fun ks hks => hks.2
    refine ends_freshInfo.bind fun i _ =>
      (h.ends_required_indexed "KWARG" j (by decide)).bind fun e he =>
      ends_pure fun htexts => ⟨isOptionalName_optionIn ?_, he htexts⟩
    exact h.exists_word_indexed (h.worded htexts) ht hn "KWARG_NAME" (by decide)
      (List.mem_range.mp hj)
  simp only [exprOf, ht]
  refine ends_freshInfo.bind fun i _ => (h.ends_required "CALLEE" (by decide)).bind fun f hf =>
    (h.ends_countIn (by rw [ht]; decide)).bind fun n _ =>
    (h.ends_requiredAll "ARG" n (by decide)).bind fun args hargs =>
    hkeywords.bind fun ks hks => ends_pure fun htexts => ⟨?_, fun e he => ?_⟩
  · exact fun k hk => (hks k hk htexts).1
  · simp only [Expr.parts, List.cons_append, List.mem_cons, List.mem_append, List.mem_map] at he
    rcases he with rfl | he | ⟨k, hk, rfl⟩
    · exact hf htexts
    · exact hargs.2 e he htexts
    · exact (hks k hk htexts).2

lemma ends_comprehension (h : Ready b slots texts flaw) (ht : b.type = .comprehension) :
    Ends (exprOf id b filled slots) (fun e => texts → e.WellFormed) flaw := by
  have hclauses : Ends (clauses b slots) (fun cs => ∀ c ∈ cs, texts →
      ∀ e ∈ c.target :: c.iter :: c.ifs, e.WellFormed) flaw := by
    unfold clauses
    refine (h.ends_countIn (by rw [ht]; decide)).bind fun n _ =>
      (ends_mapM_all fun j _ => ?_).imp fun cs hcs => hcs.2
    have hifs : ∀ k, ∀ s ∈ indexed s!"IF{j}_" k, IsValueName s := fun k s hs => by
      have hstarts : "IF".toList <+: s!"IF{j}_".toList :=
        (prefix_append_text _ _).trans (prefix_append_text _ _)
      exact isValueName_of_stem (by decide) (hstarts.trans (stem_of_mem_indexed hs))
    refine ends_freshInfo.bind fun i _ => (h.ends_countIn ?_).bind fun k _ =>
      (h.ends_requiredEach (hifs k)).bind fun ifs hifs =>
      (h.ends_required_indexed "TARGET" j (by decide)).bind fun target htarget =>
      (h.ends_required_indexed "ITER" j (by decide)).bind fun iter hiter =>
      ends_pure fun htexts e he => ?_
    · rw [ht]
      exact BlockType.isCount_ifCount j
    · simp only [List.mem_cons] at he
      rcases he with rfl | rfl | he
      · exact htarget htexts
      · exact hiter htexts
      · exact hifs.2 e he htexts
  have hkey : ∀ kind, Ends (keyOf slots kind)
      (fun o => (o.isSome ↔ kind = .dict) ∧ ∀ e, o = some e → texts → e.WellFormed) flaw := by
    intro kind
    unfold keyOf
    by_cases hkind : kind = .dict
    · rw [hkind]
      exact Ends.map ((h.ends_required "KEY" (by decide)).imp fun e he => by simpa using he)
    · rw [if_neg (by simpa using hkind)]
      exact ends_pure ⟨by simp [hkind], by simp⟩
  simp only [exprOf, ht]
  refine ends_freshInfo.bind fun i _ =>
    (h.ends_chosen (.inl (by rw [ht]; decide)) (by rw [ht]; rfl) .null).bind fun kind _ =>
    (h.ends_required "ELEMENT" (by decide)).bind fun e he => (hkey kind).bind fun key hkey =>
    hclauses.bind fun cs hcs => ends_pure fun htexts => ⟨hkey.1, fun part hpart => ?_⟩
  simp only [Expr.parts, List.cons_append, List.mem_cons, List.mem_append, Option.mem_toList,
    List.mem_flatMap] at hpart
  rcases hpart with rfl | hpart | ⟨c, hc, hpart⟩
  · exact he htexts
  · exact hkey.2 part hpart htexts
  · exact hcs c hc htexts part (by simpa using hpart)

lemma ends_fstring (h : Ready b slots texts flaw) (ht : b.type = .fstring) :
    Ends (exprOf id b filled slots) (fun e => texts → e.WellFormed) flaw := by
  have hparts : Ends (parts id b slots) (fun ps => ∀ p ∈ ps, texts →
      p.Sane ∧ ∀ e ∈ p.expr.toList, e.WellFormed) flaw := by
    unfold parts
    refine (h.ends_countIn (by rw [ht]; decide)).bind fun n hn =>
      (ends_mapM_all fun j hj => ?_).imp fun ps hps => hps.2
    have hj := List.mem_range.mp hj
    have hword : texts → ∀ stem ∈ BlockType.fstring.wordStems,
        IsText ((b.field? s!"{stem}{j}").getD "") := fun htexts stem hstem =>
      isText_getD (h.exists_word_indexed (h.worded htexts) ht hn stem hstem hj) _
    refine ends_freshInfo.bind fun i _ => (h.ends_chosen (h.measured.hasField_indexed
      (by rw [ht]; exact hn) (by rw [ht]; decide) hj)
      (by rw [ht]; exact BlockType.vocabulary?_partKind j) .null).bind fun kind _ => ?_
    have hempty : IsText "" := isText_text ""
    cases kind with
    | literal =>
      refine ends_pure fun htexts =>
        ⟨⟨hword htexts "PART_TEXT" (by decide), hempty, hempty, ?_⟩, ?_⟩
      · exact ⟨rfl, rfl, rfl⟩
      · simp
    | expr =>
      refine (h.ends_required_indexed "PART" j (by decide)).bind fun e he => ends_pure fun htexts =>
        ⟨⟨hempty, ?_, ?_, ?_⟩, ?_⟩
      · exact hword htexts "CONVERSION" (by decide)
      · exact hword htexts "FORMAT_SPEC" (by decide)
      · exact ⟨rfl, rfl⟩
      · simpa using he htexts
  simp only [exprOf, ht]
  refine ends_freshInfo.bind fun i _ => hparts.bind fun ps hps =>
    ends_pure fun htexts => ⟨⟨?_, ?_⟩, ?_⟩
  · exact isText_getD (h.exists_word (h.worded htexts) ht "quote" (by decide)) _
  · exact fun p hp => (hps p hp htexts).1
  · intro e he
    obtain ⟨p, hp, he⟩ := List.mem_flatMap.mp he
    exact (hps p hp htexts).2 e he

/-! ### Calls with a block of their own -/

/-- What calls with a block of their own have in common. -/
private lemma builtin_sound : ∀ builtin ∈ BuiltinCall.all,
    (∀ name ∈ builtin.callees, name ≠ "") ∧ (builtin.calleeField = none → builtin.callees ≠ []) ∧
      (∀ field ∈ builtin.calleeField, field ∈ builtin.type.fields.map (·.1)) ∧
      (builtin.stem.isSome → builtin.type.isCount "item_count" = true) ∧
      (builtin.stem = none → builtin.layouts ≠ []) ∧
      (∀ stem ∈ builtin.stem, ∀ other ∈ bodyStems, Diverge stem other) ∧
      ∀ layout ∈ builtin.layouts, ∀ s ∈ layout.2, IsValueName s := by
  decide

/-- Slots that are filled are enough for some number of arguments. -/
private lemma exists_arityFor {builtin : BuiltinCall} (h : builtin.layouts ≠ [])
    (filled : List String) : ∃ n, builtin.arityFor filled = .ok n := by
  unfold BuiltinCall.arityFor
  split
  · exact ⟨_, rfl⟩
  · exact ⟨_, rfl⟩
  · contradiction

/-- A call with a block of its own calls one of its names. -/
lemma ends_builtinCall (h : Ready b slots texts flaw) {builtin : BuiltinCall}
    (hbuiltin : BuiltinCall.ofType? b.type = some builtin) :
    Ends (builtinCall builtin id b filled slots) (fun e => texts → e.WellFormed) flaw := by
  have hmem : builtin ∈ BuiltinCall.all := List.mem_of_find?_eq_some hbuiltin
  have htype : builtin.type = b.type := by simpa using List.find?_some hbuiltin
  obtain ⟨hnames, hcallees, hfields, hstem, hlayouts, hdiverge, hslots⟩ :=
    builtin_sound builtin hmem
  have hcallee : Ends (callee builtin ((builtin.calleeField.map b.field).getD .null) id)
      (· ∈ builtin.callees) flaw := by
    unfold callee
    cases hfield : builtin.calleeField with
    | none =>
      obtain ⟨name, rest, hnames⟩ := List.exists_cons_of_ne_nil (hcallees hfield)
      simp only [BuiltinCall.calleeOf?, hfield, hnames, List.head?_cons]
      exact ends_pure List.mem_cons_self
    | some field =>
      split
      case h_1 name hname =>
        refine ends_pure ?_
        simp only [BuiltinCall.calleeOf?, hfield, Option.filter_eq_some_iff,
          List.contains_iff_mem] at hname
        exact hname.2
      case h_2 hnone =>
        refine ends_reject (by_contra fun hflaw => ?_)
        have hhas : b.HasField field := .inl (htype ▸ hfields field hfield)
        obtain ⟨d, hd⟩ := Option.isSome_iff_exists.mp (h.measured.isSome_field? hhas)
        have hallowed := (h.faultless hflaw).2 field hhas _
          (BlockType.vocabulary?_callee hbuiltin hfield) d hd
        rw [Option.map_some, Option.getD_some, Block.field, hd, Option.getD_some] at hnone
        simp [hnone] at hallowed
  have harity : Ends (argumentCount builtin b filled) (fun _ => True) flaw := by
    unfold argumentCount
    split
    case isTrue hs => exact (h.ends_countIn (htype ▸ hstem hs)).imp fun _ _ => trivial
    case isFalse hs =>
      obtain ⟨n, hn⟩ := exists_arityFor (hlayouts (by simpa using hs)) (b.values.filter filled)
      rw [hn]
      exact ends_pure trivial
  have hvalues : ∀ n : ℕ, ∀ s ∈ (builtin.slotsFor? n).getD [], IsValueName s := by
    intro n s hs
    unfold BuiltinCall.slotsFor? at hs
    split at hs
    case h_1 stem hstem =>
      rw [Option.getD_some] at hs
      exact isValueName_of_stem (hdiverge stem hstem) (stem_of_mem_indexed hs)
    case h_2 =>
      cases hfind : builtin.layouts.find? fun l => (l.1 : ℤ) == n with
      | none => simp [hfind] at hs
      | some layout =>
        rw [hfind, Option.map_some, Option.getD_some] at hs
        exact hslots layout (List.mem_of_find?_eq_some hfind) s hs
  unfold builtinCall
  refine ends_freshInfo.bind fun i _ => hcallee.bind fun name hname =>
    ends_freshInfo.bind fun i' _ => harity.bind fun n _ =>
    (h.ends_requiredEach (hvalues n)).bind fun args hargs =>
    ends_pure fun htexts => ?_
  have hfunc : (Expr.identifier name i').WellFormed :=
    ⟨isName_text (hnames name hname), by simp [Expr.parts]⟩
  refine ⟨by simp [Expr.Sane], fun e he => ?_⟩
  simp only [Expr.parts, List.map_nil, List.append_nil, List.mem_cons] at he
  rcases he with rfl | he
  · exact hfunc
  · exact hargs.2 e he htexts

/-- A block with a call of its own is read as that call. -/
lemma ends_builtin (h : Ready b slots texts flaw)
    (hbuiltin : (BuiltinCall.ofType? b.type).isSome) :
    Ends (exprOf id b filled slots) (fun e => texts → e.WellFormed) flaw := by
  obtain ⟨builtin, hof⟩ := Option.isSome_iff_exists.mp hbuiltin
  have hread : exprOf id b filled slots = builtinCall builtin id b filled slots := by
    unfold exprOf
    cases ht : b.type <;> rw [ht] at hof <;> cases hof <;> rfl
  rw [hread]
  exact h.ends_builtinCall hof

/-! ### All expressions -/

/-- The kinds of expressions. -/
private lemma expression_cases {t : BlockType} (h : (t.kind == .expression) = true) :
    t = .identifier ∨ isLiteralType t = true ∨
      t ∈ [BlockType.binary, .unary, .boolOp, .compare, .conditional] ∨
      t ∈ [BlockType.member, .subscript, .slice, .grouped, .walrus, .yield, .yieldFrom, .await] ∨
      t ∈ [BlockType.tuple, .list, .set, .dict] ∨ t = .lambda ∨ t = .call ∨ t = .comprehension ∨
      t = .fstring ∨ (BuiltinCall.ofType? t).isSome := by
  revert h
  cases t <;> decide

/-- A block that can be plugged into a slot is read as a well-formed expression. -/
theorem ends_exprOf (h : Ready b slots texts flaw) (hexpr : b.isExpression) :
    Ends (exprOf id b filled slots) (fun e => texts → e.WellFormed) flaw := by
  rcases expression_cases hexpr with ht | ht | ht | ht | ht | ht | ht | ht | ht | ht
  · simp only [exprOf, ht]
    refine ends_freshInfo.bind fun i _ => ends_pure fun htexts => ⟨?_, by simp [Expr.parts]⟩
    exact isName_nameIn (h.exists_word (h.worded htexts) ht "name" (by decide))
  · refine (h.ends_literal ht).imp ?_
    rintro _ ⟨kind, raw, value, i, rfl, hliteral⟩ htexts
    exact ⟨hliteral htexts, by simp [Expr.parts]⟩
  · exact h.ends_operator ht
  · exact h.ends_wrapper ht
  · exact h.ends_collection ht
  · exact h.ends_lambda ht
  · exact h.ends_call ht
  · exact h.ends_comprehension ht
  · exact h.ends_fstring ht
  · exact h.ends_builtin ht

end Ready

end Compile

end BlockText

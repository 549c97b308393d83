import BlockText.Block.Basic
import BlockText.Workspace.Tree
import Mathlib

/-!
# Names of slots

The name of a slot is fixed by the type of its block, or it is a stem followed by an index.  No
such name is the name of one of the other ports of a block, and the stems of a type tell its slots
for values from its slots for statements.  `Block.Sound` says so of a block, and new blocks and
reshaped ones have it.
-/

namespace BlockText

/-- One step after another is carried out iff both are. -/
lemma bind_eq_ok_iff {ε α β : Type} {x : Except ε α} {f : α → Except ε β} {b : β} :
    x >>= f = .ok b ↔ ∃ a, x = .ok a ∧ f a = .ok b := by
  cases x <;> simp [bind, Except.bind]

/-! ## Stems -/

/-- Neither of two texts starts with the other. -/
def Diverge (a b : String) : Prop :=
  ¬ a.toList <+: b.toList ∧ ¬ b.toList <+: a.toList

instance (a b : String) : Decidable (Diverge a b) :=
  inferInstanceAs (Decidable (_ ∧ _))

/-- Texts that start with diverging stems differ. -/
lemma Diverge.ne {a b s t : String} (h : Diverge a b) (hs : a.toList <+: s.toList)
    (ht : b.toList <+: t.toList) : s ≠ t := by
  rintro rfl
  rcases List.prefix_or_prefix_of_prefix hs ht with hab | hba
  · exact h.1 hab
  · exact h.2 hba

/-- A text starts with its first part. -/
lemma prefix_append_text (a b : String) : a.toList <+: (a ++ b).toList := by
  rw [String.toList_append]
  exact List.prefix_append _ _

/-- A name with an index starts with its stem. -/
lemma stem_of_mem_indexed {stem s : String} {n : ℕ} (h : s ∈ indexed stem n) :
    stem.toList <+: s.toList := by
  obtain ⟨i, -, rfl⟩ := List.mem_map.mp h
  exact prefix_append_text stem (toString i)

namespace BlockType

/-- The stems of the value slots that the counts of a block add. -/
def valueStems : BlockType → List String
  | tryStmt => ["EXCEPT_TYPE"]
  | withStmt => ["CONTEXT"]
  | functionDef => ["ANNOTATION", "DEFAULT", "DECORATOR"]
  | classDef => ["BASE", "DECORATOR"]
  | assign | deleteStmt => ["TARGET"]
  | boolOp | tuple | list | set => ["ITEM"]
  | compare => ["CMP"]
  | lambda => ["DEFAULT"]
  | call => ["ARG", "KWARG"]
  | dict => ["KEY", "VALUE"]
  | comprehension => ["TARGET", "ITER", "IF"]
  | fstring => ["PART"]
  | zip => ["ITER"]
  | _ => []

/-- The stems of the statement slots that the counts of a block add. -/
def statementStems : BlockType → List String
  | tryStmt => ["EXCEPT_BODY"]
  | _ => []

/-- The ports of a block that are no slots. -/
def ownPorts : List String := ["previous", "next", "output"]

/-- The names that the slots of a type start with are no starts of other ports, and those for
values diverge from those for statements. -/
lemma stems_diverge (t : BlockType) :
    (∀ v ∈ t.valueSlots ++ t.valueStems, ∀ p ∈ ownPorts, Diverge v p) ∧
      (∀ w ∈ t.statementSlots ++ t.statementStems, ∀ p ∈ ownPorts, Diverge w p) ∧
      ∀ v ∈ t.valueSlots ++ t.valueStems, ∀ w ∈ t.statementSlots ++ t.statementStems,
        Diverge v w := by
  cases t <;> decide

/-- The slots that the clauses of a comprehension add start with its stems. -/
lemma stem_of_mem_clauseShape {fields : List (String × Datum)} {n : ℕ} {shape : BlockShape}
    (h : clauseShape fields n = .ok shape) :
    shape.statements = [] ∧ ∀ s ∈ shape.values, ∃ stem ∈ comprehension.valueStems,
      stem.toList <+: s.toList := by
  induction n generalizing shape with
  | zero =>
    cases h
    exact ⟨rfl, by simp⟩
  | succ n ih =>
    obtain ⟨before, hbefore, h⟩ := bind_eq_ok_iff.mp h
    obtain ⟨k, -, h⟩ := bind_eq_ok_iff.mp h
    cases h
    refine ⟨rfl, fun s hs => ?_⟩
    simp only [List.append_assoc, List.mem_append, List.mem_cons, List.not_mem_nil,
      or_false] at hs
    rcases hs with hs | (rfl | rfl) | hs
    · exact (ih hbefore).2 s hs
    · exact ⟨"TARGET", by simp [valueStems], prefix_append_text _ _⟩
    · exact ⟨"ITER", by simp [valueStems], prefix_append_text _ _⟩
    · refine ⟨"IF", by simp [valueStems], List.IsPrefix.trans ?_ (stem_of_mem_indexed hs)⟩
      exact (prefix_append_text _ _).trans (prefix_append_text _ _)

/-- The slots that the counts of a block add start with the stems of its type. -/
lemma stem_of_mem_shapeFor {t : BlockType} {fields : List (String × Datum)} {shape : BlockShape}
    (h : t.shapeFor fields = .ok shape) :
    (∀ s ∈ shape.values, ∃ stem ∈ t.valueStems, stem.toList <+: s.toList) ∧
      ∀ s ∈ shape.statements, ∃ stem ∈ t.statementStems, stem.toList <+: s.toList := by
  have hstem : ∀ {stem : String} {stems : List String} {n : ℕ}, stem ∈ stems →
      ∀ s ∈ indexed stem n, ∃ stem ∈ stems, stem.toList <+: s.toList :=
    fun hm s hs => ⟨_, hm, stem_of_mem_indexed hs⟩
  cases t
  case tryStmt =>
    obtain ⟨n, -, ⟨⟩⟩ := bind_eq_ok_iff.mp h
    exact ⟨hstem (by simp [valueStems]), hstem (by simp [statementStems])⟩
  case functionDef =>
    obtain ⟨n, -, h⟩ := bind_eq_ok_iff.mp h
    obtain ⟨k, -, ⟨⟩⟩ := bind_eq_ok_iff.mp h
    simp only [List.mem_append, or_imp, forall_and]
    exact ⟨⟨⟨hstem (by simp [valueStems]), hstem (by simp [valueStems])⟩,
      hstem (by simp [valueStems])⟩, by simp⟩
  case classDef | call =>
    obtain ⟨n, -, h⟩ := bind_eq_ok_iff.mp h
    obtain ⟨k, -, ⟨⟩⟩ := bind_eq_ok_iff.mp h
    simp only [List.mem_append, or_imp, forall_and]
    exact ⟨⟨hstem (by simp [valueStems]), hstem (by simp [valueStems])⟩, by simp⟩
  case dict =>
    obtain ⟨n, -, ⟨⟩⟩ := bind_eq_ok_iff.mp h
    simp only [List.mem_append, or_imp, forall_and]
    exact ⟨⟨hstem (by simp [valueStems]), hstem (by simp [valueStems])⟩, by simp⟩
  case comprehension =>
    obtain ⟨n, -, h⟩ := bind_eq_ok_iff.mp h
    obtain ⟨hnone, hvalues⟩ := stem_of_mem_clauseShape h
    exact ⟨hvalues, by simp [hnone]⟩
  case importStmt =>
    obtain ⟨n, -, ⟨⟩⟩ := bind_eq_ok_iff.mp h
    exact ⟨by simp, by simp⟩
  case withStmt | assign | deleteStmt | boolOp | tuple | list | set | compare | lambda | fstring
      | zip =>
    obtain ⟨n, -, ⟨⟩⟩ := bind_eq_ok_iff.mp h
    exact ⟨hstem (by simp [valueStems]), by simp⟩
  all_goals
    cases h
    exact ⟨by simp, by simp⟩

end BlockType

/-! ## Slots of a block -/

/-- The names of the slots of a block are no names of its other ports, and no slot is both for a
value and for statements. -/
structure Block.Sound (b : Block) : Prop where
  own_values : ∀ s ∈ b.values, isOwnPort s = false
  own_statements : ∀ s ∈ b.statements, isOwnPort s = false
  apart : ∀ s ∈ b.values, s ∉ b.statements

namespace Block

/-- A name that diverges from all other ports is a slot's. -/
private lemma isOwnPort_of_diverge {stem s : String} (hs : stem.toList <+: s.toList)
    (h : ∀ p ∈ BlockType.ownPorts, Diverge stem p) : isOwnPort s = false := by
  have hne : ∀ p ∈ BlockType.ownPorts, s ≠ p := fun p hp => (h p hp).ne hs List.prefix_rfl
  simpa [BlockType.ownPorts, isOwnPort, and_assoc] using hne

/-- Slots whose names start as those of a type are sound. -/
private lemma sound_of_stems {b : Block} {t : BlockType}
    (hv : ∀ s ∈ b.values, ∃ stem ∈ t.valueSlots ++ t.valueStems, stem.toList <+: s.toList)
    (hs : ∀ s ∈ b.statements, ∃ stem ∈ t.statementSlots ++ t.statementStems,
      stem.toList <+: s.toList) : b.Sound := by
  obtain ⟨hvalues, hstatements, happart⟩ := t.stems_diverge
  refine ⟨fun s h => ?_, fun s h => ?_, fun s h h' => ?_⟩
  · obtain ⟨stem, hstem, hprefix⟩ := hv s h
    exact isOwnPort_of_diverge hprefix (hvalues stem hstem)
  · obtain ⟨stem, hstem, hprefix⟩ := hs s h
    exact isOwnPort_of_diverge hprefix (hstatements stem hstem)
  · obtain ⟨v, hv, hvs⟩ := hv s h
    obtain ⟨w, hw, hws⟩ := hs s h'
    exact (happart v hv w hw).ne hvs hws rfl

/-- A list of wanted names is settled with these names alone. -/
lemma mem_settle {present wanted : List String} {s : String} :
    s ∈ settle present wanted ↔ s ∈ wanted := by
  by_cases hp : s ∈ present <;> by_cases hw : s ∈ wanted <;> simp [settle, hp, hw]

/-- The slots of a reshaped block. -/
lemma reshape_eq_ok {b shaped : Block} (h : b.reshape = .ok shaped) :
    ∃ shape, b.type.shapeFor b.fields = .ok shape ∧ shaped.type = b.type ∧
      shaped.values = settle b.values (b.type.valueSlots ++ shape.values) ∧
      shaped.statements = settle b.statements (b.type.statementSlots ++ shape.statements) := by
  obtain ⟨shape, hshape, ⟨⟩⟩ := bind_eq_ok_iff.mp h
  exact ⟨shape, hshape, rfl, rfl, rfl⟩

/-- A reshaped block is sound. -/
lemma sound_of_reshape {b shaped : Block} (h : b.reshape = .ok shaped) : shaped.Sound := by
  obtain ⟨shape, hshape, htype, hvalues, hstatements⟩ := reshape_eq_ok h
  obtain ⟨hv, hs⟩ := BlockType.stem_of_mem_shapeFor hshape
  refine sound_of_stems (t := b.type) (fun s h => ?_) fun s h => ?_
  · rw [hvalues, mem_settle, List.mem_append] at h
    rcases h with h | h
    · exact ⟨s, List.mem_append_left _ h, List.prefix_rfl⟩
    · obtain ⟨stem, hstem, hprefix⟩ := hv s h
      exact ⟨stem, List.mem_append_right _ hstem, hprefix⟩
  · rw [hstatements, mem_settle, List.mem_append] at h
    rcases h with h | h
    · exact ⟨s, List.mem_append_left _ h, List.prefix_rfl⟩
    · obtain ⟨stem, hstem, hprefix⟩ := hs s h
      exact ⟨stem, List.mem_append_right _ hstem, hprefix⟩

/-- A new block is sound. -/
lemma sound_ofType (t : BlockType) : (ofType t).Sound := by
  unfold ofType
  dsimp only
  split
  case h_1 b h => exact sound_of_reshape h
  case h_2 =>
    exact sound_of_stems (t := t) (fun s h => ⟨s, List.mem_append_left _ h, List.prefix_rfl⟩)
      fun s h => ⟨s, List.mem_append_left _ h, List.prefix_rfl⟩

/-- Fields have no part in the soundness of slots. -/
lemma Sound.writeField {b : Block} (h : b.Sound) (name : String) (value : Datum) :
    (b.writeField name value).Sound :=
  ⟨h.own_values, h.own_statements, h.apart⟩

end Block

end BlockText

/-!
## Names with an index

A name with an index is a stem without digits followed by a number.  The stem and the number can be
read off the name, so different stems or numbers make different names.
-/

namespace BlockText

/-- The text has no digits. -/
def Wordy (s : String) : Prop := s.toList.all (fun c => !c.isDigit) = true

instance (s : String) : Decidable (Wordy s) := inferInstanceAs (Decidable (_ = true))

lemma Wordy.isDigit {s : String} (h : Wordy s) {c : Char} (hc : c ∈ s.toList) :
    c.isDigit = false := by
  simpa using List.all_eq_true.mp h c hc

/-- The characters of a name with an index. -/
lemma toList_indexed (stem : String) (i : ℕ) :
    (s!"{stem}{i}").toList = stem.toList ++ Nat.toDigits 10 i := by
  change (stem ++ toString i).toList = _
  rw [String.toList_append, Nat.toString_eq_repr, Nat.toList_repr]

/-- Digits begin where the stem ends. -/
private lemma takeWhile_not_digit {a : List Char} (ha : ∀ c ∈ a, c.isDigit = false) (i : ℕ)
    (rest : List Char) :
    (a ++ (Nat.toDigits 10 i ++ rest)).takeWhile (fun c => !c.isDigit) = a := by
  have hdigits : (Nat.toDigits 10 i ++ rest).takeWhile (fun c => !c.isDigit) = [] := by
    cases hd : Nat.toDigits 10 i with
    | nil => exact absurd hd Nat.toDigits_ne_nil
    | cons c cs =>
      have hc : c.isDigit :=
        Nat.isDigit_of_mem_toDigits (by decide) (by decide) (hd ▸ List.mem_cons_self)
      simp [hc]
  rw [List.takeWhile_append_of_pos (by simpa using ha), hdigits, List.append_nil]

/-- The stem of a name with an index can be read off the name. -/
lemma stem_eq_of_indexed_eq {a b : String} (ha : Wordy a) (hb : Wordy b) {i j : ℕ}
    (r r' : List Char)
    (h : a.toList ++ (Nat.toDigits 10 i ++ r) = b.toList ++ (Nat.toDigits 10 j ++ r')) :
    a = b := by
  have htake := congrArg (List.takeWhile fun c => !c.isDigit) h
  rw [takeWhile_not_digit fun c => ha.isDigit, takeWhile_not_digit fun c => hb.isDigit] at htake
  exact String.toList_injective htake

/-- Names with an index are equal iff their stems and their indexes are. -/
lemma indexed_inj {a b : String} (ha : Wordy a) (hb : Wordy b) {i j : ℕ} :
    s!"{a}{i}" = s!"{b}{j}" ↔ a = b ∧ i = j := by
  constructor
  · intro h
    have hlist := congrArg String.toList h
    rw [toList_indexed, toList_indexed] at hlist
    have hab : a = b := stem_eq_of_indexed_eq ha hb [] [] (i := i) (j := j) (by simpa using hlist)
    subst hab
    rw [List.append_cancel_left_eq, ← Nat.toList_repr, ← Nat.toList_repr] at hlist
    exact ⟨rfl, Nat.repr_inj.mp (String.toList_injective hlist)⟩
  · rintro ⟨rfl, rfl⟩
    rfl

/-- Names with different stems differ. -/
lemma indexed_ne_of_stem {a b : String} (ha : Wordy a) (hb : Wordy b) (hne : a ≠ b) {i j : ℕ} :
    s!"{a}{i}" ≠ s!"{b}{j}" := fun h => hne ((indexed_inj ha hb).mp h).1

/-- Names with one stem are equal iff their indexes are. -/
lemma indexed_inj_right {stem : String} {i j : ℕ} : s!"{stem}{i}" = s!"{stem}{j}" ↔ i = j := by
  constructor
  · intro h
    have hlist := congrArg String.toList h
    rw [toList_indexed, toList_indexed, List.append_cancel_left_eq, ← Nat.toList_repr,
      ← Nat.toList_repr] at hlist
    exact Nat.repr_inj.mp (String.toList_injective hlist)
  · rintro rfl
    rfl

/-- A name with an index has digits. -/
lemma indexed_ne {a b : String} (hb : Wordy b) (i : ℕ) : s!"{a}{i}" ≠ b := by
  intro h
  cases hd : Nat.toDigits 10 i with
  | nil => exact Nat.toDigits_ne_nil hd
  | cons c cs =>
    have hc : c.isDigit :=
      Nat.isDigit_of_mem_toDigits (by decide) (by decide) (hd ▸ List.mem_cons_self)
    have hmem : c ∈ b.toList := by
      rw [← h, toList_indexed, hd]
      exact List.mem_append_right _ List.mem_cons_self
    rw [hb.isDigit hmem] at hc
    cases hc

/-- The stem of the slots for the conditions of a clause, which has the index of the clause. -/
abbrev ifStem (i : ℕ) : String := s!"IF{i}_"

/-- Names with two indexes are equal iff both indexes are. -/
lemma twice_indexed_inj {i j k l : ℕ} :
    s!"{ifStem i}{k}" = s!"{ifStem j}{l}" ↔ i = j ∧ k = l := by
  have hsplit : ∀ i k : ℕ, (s!"{ifStem i}{k}").toList =
      "IF".toList ++ (Nat.toDigits 10 i ++ '_' :: Nat.toDigits 10 k) := by
    intro i k
    rw [toList_indexed]
    change ("IF" ++ toString i ++ "_").toList ++ _ = _
    rw [String.toList_append, String.toList_append, Nat.toString_eq_repr, Nat.toList_repr]
    simp
  have hdigits : ∀ (n : ℕ) (rest : List Char),
      (Nat.toDigits 10 n ++ '_' :: rest).takeWhile Char.isDigit = Nat.toDigits 10 n := by
    intro n rest
    rw [List.takeWhile_append_of_pos fun c hc =>
      Nat.isDigit_of_mem_toDigits (by decide) (by decide) hc]
    simp
  have hinj : ∀ {m n : ℕ}, Nat.toDigits 10 m = Nat.toDigits 10 n → m = n := by
    intro m n h
    rw [← Nat.toList_repr, ← Nat.toList_repr] at h
    exact Nat.repr_inj.mp (String.toList_injective h)
  constructor
  · intro h
    have hlist := congrArg String.toList h
    rw [hsplit, hsplit, List.append_cancel_left_eq] at hlist
    have htake := congrArg (List.takeWhile Char.isDigit) hlist
    rw [hdigits, hdigits] at htake
    rw [htake, List.append_cancel_left_eq, List.cons.injEq] at hlist
    exact ⟨hinj htake, hinj hlist.2⟩
  · rintro ⟨rfl, rfl⟩
    rfl

/-- A name with two indexes differs from a name with one and another stem. -/
lemma twice_indexed_ne {b : String} (hb : Wordy b) (hne : b ≠ "IF") {i j k : ℕ} :
    s!"{ifStem i}{k}" ≠ s!"{b}{j}" := by
  intro h
  have hlist := congrArg String.toList h
  rw [toList_indexed, toList_indexed] at hlist
  change ("IF" ++ toString i ++ "_").toList ++ _ = _ at hlist
  rw [String.toList_append, String.toList_append, Nat.toString_eq_repr, Nat.toList_repr] at hlist
  refine hne (stem_eq_of_indexed_eq (a := "IF") (by decide) hb ('_' :: Nat.toDigits 10 k) []
    (i := i) (j := j) ?_).symm
  simpa using hlist

lemma mem_indexed {stem : String} {n i : ℕ} (h : i < n) : s!"{stem}{i}" ∈ indexed stem n :=
  List.mem_map.mpr ⟨i, List.mem_range.mpr h, rfl⟩

lemma mem_indexed_iff {stem s : String} {n : ℕ} :
    s ∈ indexed stem n ↔ ∃ i < n, s!"{stem}{i}" = s := by
  simp [indexed]

end BlockText

import BlockText.Proofs.Block.Slots
import BlockText.Proofs.Datum.Texts
import BlockText.Proofs.Workspace.Entries

/-!
# Fields of blocks

A field holds a number of things, a truth value or a text, and its name and the type of its block
tell which.  A block is proper if its fields hold data of their sorts and its slots are those that
its counts ask for.  New blocks are proper, writing a field keeps a block proper, and so does
bringing its slots in line with a new count, which keeps every field that the block still has.
-/

namespace BlockText

/-! ## Sorts of fields -/

/-- What a field holds. -/
inductive FieldSort
  | count
  | flag
  | words
  deriving DecidableEq

/-- The datum is of the sort. -/
def FieldSort.Admits : FieldSort → Datum → Prop
  | count, d => ∃ n : ℕ, d = .int n
  | flag, d => ∃ v, d = .bool v
  | words, d => ∃ ps, d = .ofPoints ps

/-- Equal data of one sort are the same. -/
lemma FieldSort.eq_of_equiv {sort : FieldSort} {a b : Datum} (ha : sort.Admits a)
    (hb : sort.Admits b) (h : a.equiv b = true) : a = b := by
  cases sort with
  | count =>
    obtain ⟨m, rfl⟩ := ha
    obtain ⟨n, rfl⟩ := hb
    simpa [Datum.equiv, Datum.number?, Decimal.equal, Decimal.ofInt, Decimal.tenTo] using h
  | flag =>
    obtain ⟨v, rfl⟩ := ha
    obtain ⟨w, rfl⟩ := hb
    cases v <;> cases w <;>
      simp [Datum.equiv, Datum.number?, Decimal.equal, Decimal.ofInt, Decimal.tenTo] at h ⊢
  | words =>
    obtain ⟨ps, rfl⟩ := ha
    obtain ⟨qs, rfl⟩ := hb
    rw [Datum.equiv_ofPoints, decide_eq_true_eq] at h
    rw [h]

namespace BlockType

/-- The field holds a truth value. -/
def isFlag (t : BlockType) (name : String) : Bool :=
  ["has_else", "has_finally", "is_async", "is_from"].contains name ||
    (t == bool && name == "value") ||
    (t == comprehension && Text.startsWith name "IS_ASYNC".toList)

/-- The sort of a field. -/
def sortOf (t : BlockType) (name : String) : FieldSort :=
  if t.isCount name then .count else if t.isFlag name then .flag else .words

/-- The stems of the fields that the counts of a block add, with the values they start with. -/
def fieldStems : BlockType → List (String × Datum)
  | tryStmt => [("EXCEPT_NAME", "")]
  | withStmt => [("NAME", "")]
  | functionDef | lambda => [("PARAM", ""), ("PARAM_KIND", "normal")]
  | importStmt => [("NAME", ""), ("ALIAS", "")]
  | compare => [("OP", "==")]
  | call => [("KWARG_NAME", "")]
  | comprehension => [("IF_COUNT", .int 0), ("IS_ASYNC", .bool false)]
  | fstring =>
    [("PART_KIND", "literal"), ("PART_TEXT", ""), ("CONVERSION", ""), ("FORMAT_SPEC", "")]
  | _ => []

/-- The names that fields of a sort other than words have or start with. -/
def specialNames : List String :=
  ["item_count", "decorator_count", "keyword_count", "handler_count", "IF_COUNT", "has_else",
   "has_finally", "is_async", "is_from", "value", "IS_ASYNC"]

/-- The counts of a type have special names, and its fields are of their sorts. -/
lemma countFields_special (t : BlockType) : ∀ name ∈ t.countFields, name ∈ specialNames := by
  cases t <;> decide

/-- A text starts with a stem iff the stem is a part of its start. -/
lemma startsWith_iff {s stem : String} :
    Text.startsWith s stem.toList = true ↔ stem.toList <+: s.toList := by
  rw [Text.startsWith, List.isPrefixOf_iff_prefix]

/-- A name that starts as no special name does is the name of a text. -/
lemma sortOf_of_diverge {t : BlockType} {stem name : String} (hstem : stem.toList <+: name.toList)
    (h : ∀ p ∈ specialNames, Diverge stem p) : t.sortOf name = .words := by
  have hne : ∀ p ∈ specialNames, name ≠ p := fun p hp => (h p hp).ne hstem List.prefix_rfl
  have hstart : ∀ p ∈ specialNames, Text.startsWith name p.toList = false := by
    intro p hp
    rw [Bool.eq_false_iff, Ne, startsWith_iff]
    exact fun hpre => (h p hp).ne hstem hpre rfl
  have hcount : t.isCount name = false := by
    have hmem : name ∉ t.countFields := fun hm => hne _ (t.countFields_special name hm) rfl
    rw [isCount, hstart "IF_COUNT" (by decide)]
    simp [hmem]
  have hflag : t.isFlag name = false := by
    rw [isFlag, hstart "IS_ASYNC" (by decide)]
    simp [hne "has_else" (by decide), hne "has_finally" (by decide), hne "is_async" (by decide),
      hne "is_from" (by decide), hne "value" (by decide)]
  rw [sortOf, hcount, hflag]
  rfl

/-- Only the fields of comprehensions that counts add have special names. -/
lemma fieldStems_diverge (t : BlockType) (ht : t ≠ comprehension) :
    ∀ stem ∈ t.fieldStems, stem.2.text?.isSome ∧ ∀ p ∈ specialNames, Diverge stem.1 p := by
  revert ht
  cases t <;> decide

/-- The fields that counts add start with data of their sorts. -/
lemma admits_fieldStems {t : BlockType} {stem : String × Datum} (hstem : stem ∈ t.fieldStems)
    {name : String} (hname : stem.1.toList <+: name.toList) : (t.sortOf name).Admits stem.2 := by
  by_cases ht : t = comprehension
  · subst ht
    simp only [fieldStems, List.mem_cons, List.not_mem_nil, or_false] at hstem
    rcases hstem with rfl | rfl
    · have hcount : comprehension.isCount name = true := by
        simp only [isCount, startsWith_iff.mpr hname, beq_self_eq_true, Bool.and_self, Bool.or_true]
      rw [sortOf, hcount]
      exact ⟨0, rfl⟩
    · have hcount : comprehension.isCount name = false := by
        have hne : name ≠ "item_count" :=
          (show Diverge "IS_ASYNC" "item_count" by decide).ne hname List.prefix_rfl
        have hstart : Text.startsWith name "IF_COUNT".toList = false := by
          rw [Bool.eq_false_iff, Ne, startsWith_iff]
          exact fun h => (show Diverge "IS_ASYNC" "IF_COUNT" by decide).ne hname h rfl
        rw [isCount, hstart]
        simp [countFields, hne]
      have hflag : comprehension.isFlag name = true := by
        simp only [isFlag, startsWith_iff.mpr hname, beq_self_eq_true, Bool.and_self, Bool.or_true]
      rw [sortOf, hcount, hflag]
      exact ⟨false, rfl⟩
  · obtain ⟨htext, hdiverge⟩ := t.fieldStems_diverge ht stem hstem
    rw [sortOf_of_diverge hname hdiverge]
    cases hd : stem.2 with
    | text s => exact Datum.exists_ofPoints s
    | _ => simp [hd, Datum.text?] at htext

/-- The fields that every block of a type has start with data of their sorts. -/
lemma admits_fields (t : BlockType) : ∀ f ∈ t.fields, (t.sortOf f.1).Admits f.2 := by
  cases t <;> simp [fields, sortOf, isCount, countFields, isFlag, FieldSort.Admits, Text.startsWith,
    Datum.exists_ofPoints]
  all_goals first | exact ⟨0, rfl⟩ | exact ⟨1, rfl⟩ | exact ⟨2, rfl⟩

/-- The fixed counts of a type are fields that its blocks always have. -/
lemma countFields_mem_fields (t : BlockType) :
    ∀ name ∈ t.countFields, name ∈ t.fields.map (·.1) := by
  cases t <;> decide

end BlockType

/-! ## Counts and shapes -/

/-- A count that a number says. -/
lemma countOf_of_entry {fields : List (String × Datum)} {name : String} {n : ℕ}
    (h : entryAt? fields name = some (.int n)) : countOf fields name = .ok n := by
  have horElse : (Datum.int n).orElse (.int 0) = .int n := by
    by_cases hn : n = 0 <;> simp [Datum.orElse, Datum.isFalsy, hn]
  simp [countOf, h, horElse, Datum.toInteger, bind, Except.bind, pure, Except.pure]

/-- A count depends on its field alone. -/
lemma countOf_congr {fields fields' : List (String × Datum)} {name : String}
    (h : entryAt? fields' name = entryAt? fields name) :
    countOf fields' name = countOf fields name := by
  rw [countOf, countOf, h]

/-- A count that nothing says. -/
lemma countOf_of_none {fields : List (String × Datum)} {name : String}
    (h : entryAt? fields name = none) : countOf fields name = .ok 0 := by
  simp [countOf, h, Datum.orElse, Datum.isFalsy, Datum.toInteger, bind, Except.bind, pure,
    Except.pure]

namespace BlockType

-- The lemmas below go through the types of blocks one by one, with equations derived here, once.
attribute [local simp] shapeFor

/-- Counts that are numbers give a shape for the clauses of a comprehension, with the fields of
every clause. -/
private lemma exists_clauseShape {fields : List (String × Datum)}
    (h : ∀ i : ℕ, ∃ n, countOf fields s!"IF_COUNT{i}" = .ok n) (k : ℕ) :
    ∃ shape, clauseShape fields k = .ok shape := by
  induction k with
  | zero => exact ⟨_, rfl⟩
  | succ k ih =>
    obtain ⟨before, hbefore⟩ := ih
    obtain ⟨n, hn⟩ := h k
    exact ⟨_, by rw [clauseShape, hbefore]; simp only [bind, Except.bind, hn]; rfl⟩

/-- The names with the stem of the counts of clauses are counts. -/
lemma isCount_ifCount (i : ℕ) : comprehension.isCount s!"IF_COUNT{i}" = true := by
  have hstart : Text.startsWith s!"IF_COUNT{i}" "IF_COUNT".toList = true :=
    startsWith_iff.mpr (prefix_append_text "IF_COUNT" (toString i))
  simp only [isCount, hstart, beq_self_eq_true, Bool.and_self, Bool.or_true]

/-- Counts that are numbers give a shape. -/
lemma exists_shapeFor {t : BlockType} {fields : List (String × Datum)}
    (h : ∀ name, t.isCount name → ∃ n, countOf fields name = .ok n) :
    ∃ shape, t.shapeFor fields = .ok shape := by
  have hcount : ∀ name ∈ t.countFields, ∃ n, countOf fields name = .ok n := fun name hname =>
    h name (by simp [isCount, hname])
  cases t
  case comprehension =>
    obtain ⟨n, hn⟩ := hcount "item_count" (by decide)
    obtain ⟨shape, hshape⟩ := exists_clauseShape (fun i => h _ (isCount_ifCount i)) n
    exact ⟨shape, by simp only [shapeFor, hn, bind, Except.bind]; exact hshape⟩
  case functionDef | classDef =>
    obtain ⟨n, hn⟩ := hcount "item_count" (by decide)
    obtain ⟨k, hk⟩ := hcount "decorator_count" (by decide)
    exact ⟨_, by simp only [shapeFor, hn, hk, bind, Except.bind]; rfl⟩
  case call =>
    obtain ⟨n, hn⟩ := hcount "item_count" (by decide)
    obtain ⟨k, hk⟩ := hcount "keyword_count" (by decide)
    exact ⟨_, by simp only [shapeFor, hn, hk, bind, Except.bind]; rfl⟩
  case tryStmt =>
    obtain ⟨n, hn⟩ := hcount "handler_count" (by decide)
    exact ⟨_, by simp only [shapeFor, hn, bind, Except.bind]; rfl⟩
  case withStmt | assign | importStmt | deleteStmt | boolOp | compare | lambda | tuple | list | set
      | dict | fstring | zip =>
    obtain ⟨n, hn⟩ := hcount "item_count" (by decide)
    exact ⟨_, by simp only [shapeFor, hn, bind, Except.bind]; rfl⟩
  all_goals exact ⟨_, rfl⟩

/-- Equal counts give equal shapes for the clauses of a comprehension. -/
private lemma clauseShape_congr {fields fields' : List (String × Datum)} (k : ℕ)
    (h : ∀ i < k, countOf fields' s!"IF_COUNT{i}" = countOf fields s!"IF_COUNT{i}") :
    clauseShape fields' k = clauseShape fields k := by
  induction k with
  | zero => rfl
  | succ k ih =>
    rw [clauseShape, clauseShape, ih fun i hi => h i (by omega), h k (by omega)]

/-- Equal counts give equal shapes. -/
lemma shapeFor_congr {t : BlockType} {fields fields' : List (String × Datum)}
    (h : ∀ name ∈ t.countFields, countOf fields' name = countOf fields name)
    (hclauses : t = comprehension → ∀ k, countOf fields "item_count" = .ok k → ∀ i < k,
      countOf fields' s!"IF_COUNT{i}" = countOf fields s!"IF_COUNT{i}") :
    t.shapeFor fields' = t.shapeFor fields := by
  cases t
  case comprehension =>
    simp only [shapeFor, h "item_count" (by decide)]
    cases hk : countOf fields "item_count" with
    | error f => rfl
    | ok k => exact clauseShape_congr k (hclauses rfl k hk)
  case functionDef | classDef =>
    simp only [shapeFor, h "item_count" (by decide), h "decorator_count" (by decide)]
  case call =>
    simp only [shapeFor, h "item_count" (by decide), h "keyword_count" (by decide)]
  case tryStmt => simp only [shapeFor, h "handler_count" (by decide)]
  case withStmt | assign | importStmt | deleteStmt | boolOp | compare | lambda | tuple | list | set
      | dict | fstring | zip =>
    simp only [shapeFor, h "item_count" (by decide)]
  all_goals rfl

/-- The fields of clauses, each with the value it starts with. -/
private lemma mem_clauseShape_fields {fields : List (String × Datum)} {k : ℕ} {shape : BlockShape}
    (h : clauseShape fields k = .ok shape) (f : String × Datum) :
    f ∈ shape.fields ↔
      ∃ i < k, f = (s!"IF_COUNT{i}", .int 0) ∨ f = (s!"IS_ASYNC{i}", .bool false) := by
  induction k generalizing shape with
  | zero =>
    cases h
    simp
  | succ k ih =>
    obtain ⟨before, hbefore, h⟩ := bind_eq_ok_iff.mp h
    obtain ⟨n, -, h⟩ := bind_eq_ok_iff.mp h
    cases h
    simp only [List.mem_append, List.mem_cons, List.not_mem_nil, or_false, ih hbefore]
    constructor
    · rintro (⟨i, hi, hf⟩ | hf)
      · exact ⟨i, by omega, hf⟩
      · exact ⟨k, by omega, hf⟩
    · rintro ⟨i, hi, hf⟩
      rcases Nat.lt_succ_iff_lt_or_eq.mp hi with hlt | rfl
      · exact .inl ⟨i, hlt, hf⟩
      · exact .inr hf

/-- A comprehension has the fields of its clauses. -/
lemma mem_comprehension_fields {fields : List (String × Datum)} {k : ℕ} {shape : BlockShape}
    (h : comprehension.shapeFor fields = .ok shape) (hk : countOf fields "item_count" = .ok k)
    {i : ℕ} (hi : i < k) :
    s!"IF_COUNT{i}" ∈ shape.fields.map (·.1) ∧ s!"IS_ASYNC{i}" ∈ shape.fields.map (·.1) := by
  have hclauses : clauseShape fields k = .ok shape := by
    simpa only [shapeFor, hk, bind, Except.bind] using h
  constructor
  · exact List.mem_map.mpr ⟨_, (mem_clauseShape_fields hclauses _).mpr ⟨i, hi, .inl rfl⟩, rfl⟩
  · exact List.mem_map.mpr ⟨_, (mem_clauseShape_fields hclauses _).mpr ⟨i, hi, .inr rfl⟩, rfl⟩

/-- The slots of clauses. -/
lemma mem_clauseShape_values {fields : List (String × Datum)} {k : ℕ} {shape : BlockShape}
    (h : clauseShape fields k = .ok shape) (s : String) :
    s ∈ shape.values ↔ ∃ i < k, s = s!"TARGET{i}" ∨ s = s!"ITER{i}" ∨
      ∃ n, countOf fields s!"IF_COUNT{i}" = .ok n ∧ s ∈ indexed s!"IF{i}_" n := by
  induction k generalizing shape with
  | zero =>
    cases h
    simp
  | succ k ih =>
    obtain ⟨before, hbefore, h⟩ := bind_eq_ok_iff.mp h
    obtain ⟨n, hn, h⟩ := bind_eq_ok_iff.mp h
    cases h
    simp only [List.mem_append, List.mem_cons, List.not_mem_nil, or_false, ih hbefore]
    constructor
    · rintro ((⟨i, hi, hs⟩ | hs | hs) | hs)
      · exact ⟨i, by omega, hs⟩
      · exact ⟨k, by omega, .inl hs⟩
      · exact ⟨k, by omega, .inr (.inl hs)⟩
      · exact ⟨k, by omega, .inr (.inr ⟨n, hn, hs⟩)⟩
    · rintro ⟨i, hi, hs⟩
      rcases Nat.lt_succ_iff_lt_or_eq.mp hi with hlt | rfl
      · exact .inl (.inl ⟨i, hlt, hs⟩)
      · rcases hs with hs | hs | ⟨n', hn', hs⟩
        · exact .inl (.inr (.inl hs))
        · exact .inl (.inr (.inr hs))
        · obtain rfl := Except.ok.inj (hn.symm.trans hn')
          exact .inr hs

/-- A comprehension has the slots of its clauses. -/
lemma mem_comprehension_values {fields : List (String × Datum)} {k : ℕ} {shape : BlockShape}
    (h : comprehension.shapeFor fields = .ok shape) (hk : countOf fields "item_count" = .ok k)
    (s : String) :
    s ∈ shape.values ↔ ∃ i < k, s = s!"TARGET{i}" ∨ s = s!"ITER{i}" ∨
      ∃ n, countOf fields s!"IF_COUNT{i}" = .ok n ∧ s ∈ indexed s!"IF{i}_" n := by
  refine mem_clauseShape_values ?_ s
  simpa only [shapeFor, hk, bind, Except.bind] using h

/-- The counts of clauses start at zero. -/
lemma comprehension_ifCount {fields : List (String × Datum)} {shape : BlockShape}
    (h : comprehension.shapeFor fields = .ok shape) {i : ℕ} {d : Datum}
    (hd : (s!"IF_COUNT{i}", d) ∈ shape.fields) : d = .int 0 := by
  obtain ⟨k, -, h⟩ := bind_eq_ok_iff.mp h
  obtain ⟨j, -, hj | hj⟩ := (mem_clauseShape_fields h _).mp hd
  · exact (Prod.mk.inj hj).2
  · exact absurd (Prod.mk.inj hj).1 ((show Diverge "IF_COUNT" "IS_ASYNC" by decide).ne
      (prefix_append_text "IF_COUNT" (toString i)) (prefix_append_text "IS_ASYNC" (toString j)))

/-- The fields that counts add start with the stems of the type, and with their values. -/
lemma stem_of_mem_shape_fields {t : BlockType} {fields : List (String × Datum)} {shape : BlockShape}
    (h : t.shapeFor fields = .ok shape) {f : String × Datum} (hf : f ∈ shape.fields) :
    ∃ stem ∈ t.fieldStems, stem.1.toList <+: f.1.toList ∧ f.2 = stem.2 := by
  have hname : ∀ {stem : String} {i : ℕ}, stem.toList <+: (s!"{stem}{i}").toList :=
    fun {stem i} => prefix_append_text stem (toString i)
  have hindexed : ∀ {stem : String} {n : ℕ} {d : Datum}, f ∈ (indexed stem n).map (·, d) →
      stem.toList <+: f.1.toList ∧ f.2 = d := by
    intro stem n d hf
    obtain ⟨name, hmem, rfl⟩ := List.mem_map.mp hf
    exact ⟨stem_of_mem_indexed hmem, rfl⟩
  cases t
  case comprehension =>
    obtain ⟨k, -, h⟩ := bind_eq_ok_iff.mp h
    obtain ⟨i, -, rfl | rfl⟩ := (mem_clauseShape_fields h f).mp hf
    · exact ⟨("IF_COUNT", .int 0), by simp [fieldStems], hname, rfl⟩
    · exact ⟨("IS_ASYNC", .bool false), by simp [fieldStems], hname, rfl⟩
  case tryStmt | withStmt | compare =>
    obtain ⟨n, -, ⟨⟩⟩ := bind_eq_ok_iff.mp h
    exact ⟨_, List.mem_singleton_self _, hindexed hf⟩
  case call =>
    obtain ⟨k, -, h⟩ := bind_eq_ok_iff.mp h
    obtain ⟨n, -, ⟨⟩⟩ := bind_eq_ok_iff.mp h
    exact ⟨_, List.mem_singleton_self _, hindexed hf⟩
  case functionDef =>
    obtain ⟨n, -, h⟩ := bind_eq_ok_iff.mp h
    obtain ⟨k, -, ⟨⟩⟩ := bind_eq_ok_iff.mp h
    obtain ⟨i, -, hi⟩ := List.mem_flatMap.mp hf
    simp only [List.mem_cons, List.not_mem_nil, or_false] at hi
    rcases hi with rfl | rfl
    · exact ⟨("PARAM", ""), by simp [fieldStems], hname, rfl⟩
    · exact ⟨("PARAM_KIND", "normal"), by simp [fieldStems], hname, rfl⟩
  case lambda =>
    obtain ⟨n, -, ⟨⟩⟩ := bind_eq_ok_iff.mp h
    obtain ⟨i, -, hi⟩ := List.mem_flatMap.mp hf
    simp only [List.mem_cons, List.not_mem_nil, or_false] at hi
    rcases hi with rfl | rfl
    · exact ⟨("PARAM", ""), by simp [fieldStems], hname, rfl⟩
    · exact ⟨("PARAM_KIND", "normal"), by simp [fieldStems], hname, rfl⟩
  case importStmt =>
    obtain ⟨n, -, ⟨⟩⟩ := bind_eq_ok_iff.mp h
    obtain ⟨i, -, hi⟩ := List.mem_flatMap.mp hf
    simp only [List.mem_cons, List.not_mem_nil, or_false] at hi
    rcases hi with rfl | rfl
    · exact ⟨("NAME", ""), by simp [fieldStems], hname, rfl⟩
    · exact ⟨("ALIAS", ""), by simp [fieldStems], hname, rfl⟩
  case fstring =>
    obtain ⟨n, -, ⟨⟩⟩ := bind_eq_ok_iff.mp h
    obtain ⟨i, -, hi⟩ := List.mem_flatMap.mp hf
    simp only [List.mem_cons, List.not_mem_nil, or_false] at hi
    rcases hi with rfl | rfl | rfl | rfl
    · exact ⟨("PART_KIND", "literal"), by simp [fieldStems], hname, rfl⟩
    · exact ⟨("PART_TEXT", ""), by simp [fieldStems], hname, rfl⟩
    · exact ⟨("CONVERSION", ""), by simp [fieldStems], hname, rfl⟩
    · exact ⟨("FORMAT_SPEC", ""), by simp [fieldStems], hname, rfl⟩
  case classDef =>
    obtain ⟨n, -, h⟩ := bind_eq_ok_iff.mp h
    obtain ⟨k, -, ⟨⟩⟩ := bind_eq_ok_iff.mp h
    cases hf
  case assign | deleteStmt | boolOp | tuple | list | set | dict | zip =>
    obtain ⟨n, -, ⟨⟩⟩ := bind_eq_ok_iff.mp h
    cases hf
  all_goals
    cases h
    cases hf

end BlockType

/-! ## Proper blocks -/

namespace Block

/-- The block has the fields of its type, and all its fields hold data of their sorts. -/
structure Legible (b : Block) : Prop where
  complete : ∀ name ∈ b.type.fields.map (·.1), (b.field? name).isSome
  sorted : ∀ name d, b.field? name = some d → (b.type.sortOf name).Admits d

/-- The block has the fields of its type, and its counts are numbers. -/
structure Counted (b : Block) : Prop where
  complete : ∀ name ∈ b.type.fields.map (·.1), (b.field? name).isSome
  counts : ∀ name, b.type.isCount name → ∀ d, b.field? name = some d → ∃ n : ℕ, d = .int n

/-- The block has the slots and fields of a shape. -/
structure HasShape (b : Block) (shape : BlockShape) : Prop where
  values : ∀ s, s ∈ b.values ↔ s ∈ b.type.valueSlots ++ shape.values
  statements : ∀ s, s ∈ b.statements ↔ s ∈ b.type.statementSlots ++ shape.statements
  fields : ∀ f ∈ shape.fields, (b.field? f.1).isSome

/-- The block has the slots and fields that its counts ask for. -/
def Shaped (b : Block) : Prop := ∃ shape, b.type.shapeFor b.fields = .ok shape ∧ b.HasShape shape

/-- Fields and slots of the block are as its type and its counts ask for. -/
structure Proper (b : Block) : Prop where
  legible : b.Legible
  shaped : b.Shaped
  sound : b.Sound

/-- The fields that counts have added hold what they start with. -/
def Fresh (b : Block) : Prop :=
  ∀ name d, b.field? name = some d → name ∈ b.type.fields.map (·.1) ∨
    ∃ stem ∈ b.type.fieldStems, stem.1.toList <+: name.toList ∧ d = stem.2

/-- A written field is found. -/
@[simp] lemma field?_writeField (b : Block) (name other : String) (d : Datum) :
    (b.writeField name d).field? other = if other = name then some d else b.field? other :=
  entryAt?_putEntry b.fields name other d

/-- The counts of a block with legible fields are numbers. -/
lemma Legible.counted {b : Block} (h : b.Legible) : b.Counted where
  complete := h.complete
  counts name hname d hd := by
    have hsort := h.sorted name d hd
    rwa [BlockType.sortOf, if_pos hname] at hsort

/-- Counts that are numbers can be read. -/
lemma Counted.exists_countOf {b : Block} (h : b.Counted) {name : String}
    (hname : b.type.isCount name) : ∃ n, countOf b.fields name = .ok n := by
  cases hd : b.field? name with
  | none => exact ⟨0, countOf_of_none hd⟩
  | some d =>
    obtain ⟨n, rfl⟩ := h.counts name hname d hd
    exact ⟨n, countOf_of_entry hd⟩

/-- Writing a datum of its sort keeps the fields legible. -/
lemma Legible.writeField {b : Block} (h : b.Legible) {name : String} {d : Datum}
    (hd : (b.type.sortOf name).Admits d) : (b.writeField name d).Legible := by
  refine ⟨fun other hother => ?_, fun other d' hd' => ?_⟩
  · rw [field?_writeField]
    split
    · rfl
    · exact h.complete other hother
  · rw [field?_writeField] at hd'
    split at hd'
    case isTrue heq =>
      cases hd'
      exact heq ▸ hd
    case isFalse => exact h.sorted other d' hd'

/-- Selecting entries by key decides for each key what is found. -/
lemma entryAt?_filter_key {α : Type} (entries : List (String × α)) (keep : String → Bool)
    (key : String) : entryAt? (entries.filter fun e => keep e.1) key =
      if keep key then entryAt? entries key else none := by
  induction entries with
  | nil => simp
  | cons entry rest ih =>
    by_cases hk : keep entry.1
    · rw [List.filter_cons_of_pos (by simpa using hk), entryAt?_cons, entryAt?_cons, ih]
      by_cases he : entry.1 = key
      · simp [he, ← he ▸ hk]
      · simp [he]
    · rw [List.filter_cons_of_neg (by simpa using hk), entryAt?_cons, ih]
      by_cases he : entry.1 = key
      · subst he
        simp [hk]
      · simp [he]

/-- Bringing a block in line with its counts gives it the slots and fields that they ask for, and
keeps all fields that it still has. -/
lemma Counted.reshape {b : Block} (h : b.Counted) :
    ∃ b' shape, b.reshape = .ok b' ∧ b'.type = b.type ∧ b'.Counted ∧ b'.HasShape shape ∧
      b.type.shapeFor b.fields = .ok shape ∧ b'.type.shapeFor b'.fields = .ok shape ∧
      (∀ name d, b.field? name = some d → name ∈ (b.type.fields ++ shape.fields).map (·.1) →
        b'.field? name = some d) ∧
      ∀ name d, b'.field? name = some d → b.field? name = some d ∨ (name, d) ∈ shape.fields := by
  obtain ⟨shape, hshape⟩ := BlockType.exists_shapeFor fun _ hname => h.exists_countOf hname
  obtain ⟨b', hb'⟩ : ∃ b', b.reshape = .ok b' := by
    simp only [Block.reshape, hshape, bind, Except.bind]
    exact ⟨_, rfl⟩
  have hfields := hb'
  simp only [Block.reshape, hshape, bind, Except.bind, pure, Except.pure, Except.ok.injEq] at hfields
  -- A field of the new block is an old one that stays, or one that the shape adds.
  have hkeep : ∀ name d, b.field? name = some d → name ∈ (b.type.fields ++ shape.fields).map (·.1) →
      b'.field? name = some d := by
    intro name d hd hname
    have hkept : (b.type.fields.any (·.1 == name) || shape.fields.any (·.1 == name)) = true := by
      simpa using hname
    rw [← hfields, field?, entryAt?_append,
      entryAt?_filter_key b.fields fun name =>
        b.type.fields.any (·.1 == name) || shape.fields.any (·.1 == name),
      hkept, if_pos rfl, show entryAt? b.fields name = some d from hd, Option.some_or]
  have hpresent : ∀ f ∈ shape.fields, (b'.field? f.1).isSome := by
    intro f hf
    cases hd : b.field? f.1 with
    | some d => rw [hkeep f.1 d hd (by simpa using .inr ⟨f.2, hf⟩)]; rfl
    | none =>
      have hnot : ∀ e ∈ b.fields, e.1 ≠ f.1 := fun e he heq =>
        entryAt?_eq_none_iff.mp hd (heq ▸ List.mem_map_of_mem he)
      rw [← hfields, field?, entryAt?_isSome_iff, List.map_append]
      refine List.mem_append_right _ (List.mem_map_of_mem (List.mem_filter.mpr ⟨hf, ?_⟩))
      simp only [Bool.not_eq_true', List.any_eq_false, List.mem_filter, beq_iff_eq, and_imp]
      exact fun e he _ => hnot e he
  have hcases : ∀ name d, b'.field? name = some d →
      b.field? name = some d ∨ (name, d) ∈ shape.fields := by
    intro name d hd
    rw [← hfields, field?, entryAt?_append] at hd
    rcases Option.or_eq_some_iff.mp hd with hold | ⟨-, hnew⟩
    · rw [entryAt?_filter_key b.fields fun name =>
        b.type.fields.any (·.1 == name) || shape.fields.any (·.1 == name)] at hold
      split at hold
      · exact .inl hold
      · cases hold
    · exact .inr (List.mem_filter.mp (mem_of_entryAt? hnew)).1
  obtain ⟨shape', hshape', htype, hvalues, hstatements⟩ := reshape_eq_ok hb'
  obtain rfl : shape = shape' := Except.ok.inj (hshape.symm.trans hshape')
  have hcounted : b'.Counted := by
    refine ⟨fun name hname => ?_, fun name hname d hd => ?_⟩
    · rw [htype] at hname
      obtain ⟨d, hd⟩ := Option.isSome_iff_exists.mp (h.complete name hname)
      rw [hkeep name d hd (by rw [List.map_append]; exact List.mem_append_left _ hname)]
      rfl
    · rw [htype] at hname
      rcases hcases name d hd with hold | hnew
      · exact h.counts name hname d hold
      · obtain ⟨stem, hstem, hprefix, hdefault⟩ := BlockType.stem_of_mem_shape_fields hshape hnew
        have hadmits := BlockType.admits_fieldStems hstem hprefix
        rw [BlockType.sortOf, if_pos hname] at hadmits
        rwa [show d = stem.2 from hdefault]
  have hsame : b'.type.shapeFor b'.fields = .ok shape := by
    rw [htype, ← hshape]
    refine BlockType.shapeFor_congr (fun name hname => ?_) fun ht k hk i hi => ?_
    · have hmem := b.type.countFields_mem_fields name hname
      obtain ⟨d, hd⟩ := Option.isSome_iff_exists.mp (h.complete name hmem)
      have hd' := hkeep name d hd (by rw [List.map_append]; exact List.mem_append_left _ hmem)
      exact countOf_congr (hd'.trans hd.symm)
    · rw [ht] at hshape
      have hmem := (BlockType.mem_comprehension_fields hshape hk hi).1
      cases hd : b.field? s!"IF_COUNT{i}" with
      | some d =>
        have hd' := hkeep _ d hd (by rw [List.map_append]; exact List.mem_append_right _ hmem)
        exact countOf_congr (hd'.trans hd.symm)
      | none =>
        rw [countOf_of_none hd]
        cases hd' : b'.field? s!"IF_COUNT{i}" with
        | none => exact countOf_of_none hd'
        | some d =>
          rcases hcases _ d hd' with hold | hnew
          · rw [hd] at hold
            cases hold
          · rw [BlockType.comprehension_ifCount hshape hnew] at hd'
            exact countOf_of_entry (n := 0) hd'
  refine ⟨b', shape, hb', htype, hcounted, ⟨fun s => ?_, fun s => ?_, hpresent⟩, hshape, hsame,
    hkeep, hcases⟩
  · rw [hvalues, mem_settle, htype]
  · rw [hstatements, mem_settle, htype]

/-- Bringing a legible block in line with its counts makes it proper and keeps all fields that it
still has. -/
lemma Legible.reshape {b : Block} (h : b.Legible) :
    ∃ b' shape, b.reshape = .ok b' ∧ b'.type = b.type ∧ b'.Proper ∧
      b.type.shapeFor b.fields = .ok shape ∧ b'.type.shapeFor b'.fields = .ok shape ∧
      (∀ name d, b.field? name = some d → name ∈ (b.type.fields ++ shape.fields).map (·.1) →
        b'.field? name = some d) ∧
      ∀ name d, b'.field? name = some d → b.field? name = some d ∨ (name, d) ∈ shape.fields := by
  obtain ⟨b', shape, hb', htype, hcounted, hhas, hshape, hsame, hkeep, hcases⟩ := h.counted.reshape
  have hlegible : b'.Legible := by
    refine ⟨hcounted.complete, fun name d hd => ?_⟩
    rw [htype]
    rcases hcases name d hd with hold | hnew
    · exact h.sorted name d hold
    · obtain ⟨stem, hstem, hprefix, hdefault⟩ := BlockType.stem_of_mem_shape_fields hshape hnew
      rw [show d = stem.2 from hdefault]
      exact BlockType.admits_fieldStems hstem hprefix
  exact ⟨b', shape, hb', htype, ⟨hlegible, ⟨shape, hsame, hhas⟩, sound_of_reshape hb'⟩, hshape,
    hsame, hkeep, hcases⟩

/-- A new block is proper. -/
lemma proper_ofType (t : BlockType) :
    (ofType t).Proper ∧ (ofType t).type = t ∧ (ofType t).Fresh := by
  have hlegible : (⟨t, t.valueSlots, t.statementSlots, t.fields⟩ : Block).Legible := by
    refine ⟨fun name hname => entryAt?_isSome_iff.mpr hname, fun name d hd => ?_⟩
    exact t.admits_fields _ (mem_of_entryAt? hd)
  obtain ⟨b', shape, hb', htype, hproper, hshape, -, -, hcases⟩ := hlegible.reshape
  have heq : ofType t = b' := by
    simp only [ofType, hb']
  rw [heq]
  refine ⟨hproper, htype, fun name d hd => ?_⟩
  rw [htype]
  rcases hcases name d hd with hold | hnew
  · exact .inl (List.mem_map_of_mem (mem_of_entryAt? hold))
  · exact .inr (BlockType.stem_of_mem_shape_fields hshape hnew)

/-! ## Setting a field -/

/-- Writing a field that counts nothing keeps the shape. -/
lemma Shaped.writeField {b : Block} (h : b.Shaped) {name : String} (d : Datum)
    (hcount : b.type.isCount name = false) : (b.writeField name d).Shaped := by
  obtain ⟨shape, hshape, hvalues, hstatements, hpresent⟩ := h
  have hother : ∀ other, b.type.isCount other →
      countOf (b.writeField name d).fields other = countOf b.fields other := by
    intro other hother
    refine countOf_congr ((field?_writeField b name other d).trans (if_neg ?_))
    rintro rfl
    rw [hcount] at hother
    cases hother
  refine ⟨shape, ?_, hvalues, hstatements, fun f hf => ?_⟩
  swap
  · rw [field?_writeField]
    split
    · rfl
    · exact hpresent f hf
  rw [← hshape]
  refine BlockType.shapeFor_congr (fun other hmem => hother other ?_) fun ht _ _ i _ => hother _ ?_
  · simp [BlockType.isCount, show other ∈ b.type.countFields from hmem]
  · rw [show b.type = .comprehension from ht]
    exact BlockType.isCount_ifCount i

/-- Writing a field that counts nothing keeps a block proper. -/
lemma Proper.writeField {b : Block} (h : b.Proper) {name : String} {d : Datum}
    (hcount : b.type.isCount name = false) (hd : (b.type.sortOf name).Admits d) :
    (b.writeField name d).Proper :=
  ⟨h.legible.writeField hd, h.shaped.writeField d hcount, h.sound.writeField name d⟩

/-- The block has a field set: the field holds the datum, its slots are those that the counts ask
for, and the other fields stay, except those that a count takes away and the spelling of a text. -/
structure Assigned (b : Block) (name : String) (d : Datum) (b' : Block) : Prop where
  type : b'.type = b.type
  proper : b'.Proper
  field : b'.field? name = some d
  slots : b.type.isCount name = false → b'.values = b.values ∧ b'.statements = b.statements
  others : ∀ other d', other ≠ name → b.field? other = some d' →
    (b.type = .string → other ≠ "raw") →
    (b.type.isCount name → ∃ shape, b'.type.shapeFor b'.fields = .ok shape ∧
      other ∈ (b.type.fields ++ shape.fields).map (·.1)) →
    b'.field? other = some d'
  fresh : b.Fresh → b.type ≠ .string → name ∈ b.type.fields.map (·.1) → b'.Fresh

variable {b b' : Block} {name : String} {d : Datum}

/-- A field that holds the datum already. -/
lemma assigned_self (h : b.Proper) (hd : b.field? name = some d) : b.Assigned name d b :=
  ⟨rfl, h, hd, fun _ => ⟨rfl, rfl⟩, fun _ _ _ h _ _ => h, fun h _ _ => h⟩

/-- A field that counts nothing is written. -/
lemma assigned_writeField (h : b.Proper) (hcount : b.type.isCount name = false)
    (hd : (b.type.sortOf name).Admits d) : b.Assigned name d (b.writeField name d) where
  type := rfl
  proper := h.writeField hcount hd
  field := by simp
  slots _ := ⟨rfl, rfl⟩
  others other d' hne hd' _ _ := by rw [field?_writeField, if_neg hne, hd']
  fresh hfresh _ hname other d' hd' := by
    rw [field?_writeField] at hd'
    split at hd'
    case isTrue heq => exact .inl (heq ▸ hname)
    case isFalse => exact hfresh other d' hd'

/-- A count is written and the block brought in line. -/
lemma exists_assigned_reshape (h : b.Proper) (hcount : b.type.isCount name)
    (hd : (b.type.sortOf name).Admits d)
    (hstays : ∀ shape, b.type.shapeFor (b.writeField name d).fields = .ok shape →
      name ∈ (b.type.fields ++ shape.fields).map (·.1)) :
    ∃ b', (b.writeField name d).reshape = .ok b' ∧ b.Assigned name d b' := by
  obtain ⟨b', shape, hb', htype, hproper, hbefore, hshape, hkeep, hcases⟩ :=
    (h.legible.writeField hd).reshape
  refine ⟨b', hb', htype, hproper, ?_, fun hn => ?_, fun other d' hne hd' _ hmem => ?_,
    fun hfresh _ hname other d' hd' => ?_⟩
  · exact hkeep name d (by simp) (hstays shape hbefore)
  · rw [hcount] at hn
    cases hn
  · obtain ⟨shape', hshape', hother⟩ := hmem hcount
    obtain rfl : shape = shape' := Except.ok.inj (hshape.symm.trans hshape')
    exact hkeep other d' (by rw [field?_writeField, if_neg hne, hd']) hother
  · rw [htype]
    rcases hcases other d' hd' with hold | hnew
    · rw [field?_writeField] at hold
      split at hold
      case isTrue heq => exact .inl (heq ▸ hname)
      case isFalse => exact hfresh other d' hold
    · exact .inr (BlockType.stem_of_mem_shape_fields hbefore hnew)

/-- What is set on a text that forgot its spelling is set on the text. -/
lemma Assigned.of_forgotten (htype : b.type = .string)
    (h : (b.writeField "raw" "").Assigned name d b') : b.Assigned name d b' where
  type := h.type
  proper := h.proper
  field := h.field
  slots := h.slots
  others other d' hne hd' hraw hshape := by
    have hother := hraw htype
    exact h.others other d' hne (by rw [field?_writeField, if_neg hother, hd']) (fun _ => hother)
      hshape
  fresh _ hstring := absurd htype hstring

end Block

end BlockText

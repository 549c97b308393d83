import BlockText.Proofs.Block.Fields
import BlockText.Proofs.Block.Slots

/-!
# Blocks whose counts are numbers

A field may hold anything, except that a count is always a number.  So whatever is written to the
fields of a block, its slots can be brought in line with its counts.  `Block.Measured` says that
they are, and that no slot is listed twice; new blocks are measured, and writing a field keeps a
block measured.
-/

namespace BlockText

namespace BlockType

/-- Only handlers add slots for statements. -/
lemma shape_statements_eq_nil {t : BlockType} {fields : List (String × Datum)} {shape : BlockShape}
    (h : t.shapeFor fields = .ok shape) (ht : t ≠ tryStmt) : shape.statements = [] := by
  have hstems : t.statementStems = [] := by
    revert ht
    cases t <;> simp [statementStems]
  refine List.eq_nil_iff_forall_not_mem.mpr fun s hs => ?_
  obtain ⟨stem, hstem, -⟩ := (stem_of_mem_shapeFor h).2 s hs
  simp [hstems] at hstem

/-- A block has one slot for the statements of each handler. -/
lemma shape_statements_try {fields : List (String × Datum)} {shape : BlockShape} {n : ℕ}
    (h : tryStmt.shapeFor fields = .ok shape) (hn : countOf fields "handler_count" = .ok n) :
    shape.statements = indexed "EXCEPT_BODY" n := by
  obtain ⟨k, hk, ⟨⟩⟩ := bind_eq_ok_iff.mp h
  obtain rfl := Except.ok.inj (hk.symm.trans hn)
  rfl

/-- Names with different indexes differ. -/
lemma nodup_indexed (stem : String) (n : ℕ) : (indexed stem n).Nodup := by
  refine List.Nodup.map_on (fun i _ j _ h => ?_) List.nodup_range
  exact indexed_inj_right.mp h

/-- Names with indexes and different stems differ. -/
private lemma disjoint_indexed {a b : String} (ha : Wordy a) (hb : Wordy b) (hne : a ≠ b)
    (n m : ℕ) : (indexed a n).Disjoint (indexed b m) := by
  refine List.disjoint_left.mpr fun s hs hs' => ?_
  obtain ⟨i, -, rfl⟩ := List.mem_map.mp hs
  obtain ⟨j, -, hj⟩ := List.mem_map.mp hs'
  exact indexed_ne_of_stem ha hb hne hj.symm

/-- The name has an index. -/
private def IsIndexed (s : String) : Prop := ∃ (stem : String) (i : ℕ), s = s!"{stem}{i}"

private lemma isIndexed_of_mem {stem s : String} {n : ℕ} (h : s ∈ indexed stem n) :
    IsIndexed s := by
  obtain ⟨i, -, rfl⟩ := List.mem_map.mp h
  exact ⟨stem, i, rfl⟩

/-- Names without digits differ from names with an index. -/
private lemma nodup_append_isIndexed {slots names : List String} (hslots : slots.Nodup)
    (hwordy : ∀ s ∈ slots, Wordy s) (hnames : names.Nodup) (hindexed : ∀ s ∈ names, IsIndexed s) :
    (slots ++ names).Nodup := by
  refine List.nodup_append.mpr ⟨hslots, hnames, fun a ha b hb => ?_⟩
  obtain ⟨stem, i, rfl⟩ := hindexed b hb
  exact (indexed_ne (hwordy a ha) i).symm

/-- No two slots of clauses have one name. -/
private lemma nodup_clauseShape_values {fields : List (String × Datum)} {k : ℕ}
    {shape : BlockShape} (h : clauseShape fields k = .ok shape) : shape.values.Nodup := by
  induction k generalizing shape with
  | zero =>
    cases h
    exact List.nodup_nil
  | succ k ih =>
    obtain ⟨before, hbefore, h⟩ := bind_eq_ok_iff.mp h
    obtain ⟨n, -, h⟩ := bind_eq_ok_iff.mp h
    cases h
    rw [List.append_assoc]
    have hpair : s!"TARGET{k}" ≠ s!"ITER{k}" :=
      indexed_ne_of_stem (by decide) (by decide) (by decide)
    have hifs : ∀ b, Wordy b → b ≠ "IF" → s!"{b}{k}" ∉ indexed s!"IF{k}_" n := by
      intro b hb hne hmem
      obtain ⟨j, -, hj⟩ := List.mem_map.mp hmem
      exact twice_indexed_ne hb hne hj
    have hnew : ([s!"TARGET{k}", s!"ITER{k}"] ++ indexed s!"IF{k}_" n).Nodup := by
      simp only [List.cons_append, List.nil_append, List.nodup_cons, List.mem_cons, not_or]
      exact ⟨⟨hpair, hifs _ (by decide) (by decide)⟩, hifs _ (by decide) (by decide),
        nodup_indexed _ n⟩
    refine List.nodup_append.mpr ⟨ih hbefore, hnew, fun s hs s' hs' heq => ?_⟩
    subst heq
    -- The slots of different clauses have different indexes.
    obtain ⟨i, hi, hcases⟩ := (mem_clauseShape_values hbefore s).mp hs
    simp only [List.cons_append, List.nil_append, List.mem_cons] at hs'
    have hik : i ≠ k := by omega
    rcases hcases with rfl | rfl | ⟨m, -, hmem⟩
    · rcases hs' with heq | heq | hmem'
      · exact hik (indexed_inj_right.mp heq)
      · exact indexed_ne_of_stem (by decide) (by decide) (by decide) heq
      · obtain ⟨j, -, hj⟩ := List.mem_map.mp hmem'
        exact twice_indexed_ne (by decide) (by decide) hj
    · rcases hs' with heq | heq | hmem'
      · exact indexed_ne_of_stem (by decide) (by decide) (by decide) heq
      · exact hik (indexed_inj_right.mp heq)
      · obtain ⟨j, -, hj⟩ := List.mem_map.mp hmem'
        exact twice_indexed_ne (by decide) (by decide) hj
    · obtain ⟨l, -, rfl⟩ := List.mem_map.mp hmem
      rcases hs' with heq | heq | hmem'
      · exact twice_indexed_ne (by decide) (by decide) heq
      · exact twice_indexed_ne (by decide) (by decide) heq
      · obtain ⟨j, -, hj⟩ := List.mem_map.mp hmem'
        exact hik (twice_indexed_inj.mp hj).1.symm

/-- No two slots for values that counts add have one name, and all have an index. -/
private lemma nodup_shape_values {t : BlockType} {fields : List (String × Datum)}
    {shape : BlockShape} (h : t.shapeFor fields = .ok shape) :
    shape.values.Nodup ∧ ∀ s ∈ shape.values, IsIndexed s := by
  have hpair : ∀ {a b : String} (n m : ℕ), Wordy a → Wordy b → a ≠ b →
      (indexed a n ++ indexed b m).Nodup ∧ ∀ s ∈ indexed a n ++ indexed b m, IsIndexed s := by
    intro a b n m ha hb hne
    refine ⟨List.Nodup.append (nodup_indexed a n) (nodup_indexed b m)
      (disjoint_indexed ha hb hne n m), fun s hs => ?_⟩
    rcases List.mem_append.mp hs with hs | hs <;> exact isIndexed_of_mem hs
  cases t
  case comprehension =>
    obtain ⟨k, -, h⟩ := bind_eq_ok_iff.mp h
    refine ⟨nodup_clauseShape_values h, fun s hs => ?_⟩
    obtain ⟨i, -, rfl | rfl | ⟨n, -, hs⟩⟩ := (mem_clauseShape_values h s).mp hs
    · exact ⟨_, _, rfl⟩
    · exact ⟨_, _, rfl⟩
    · exact isIndexed_of_mem hs
  case functionDef =>
    obtain ⟨n, -, h⟩ := bind_eq_ok_iff.mp h
    obtain ⟨k, -, ⟨⟩⟩ := bind_eq_ok_iff.mp h
    obtain ⟨hnodup, hindexed⟩ := hpair (a := "ANNOTATION") (b := "DEFAULT") n n (by decide)
      (by decide) (by decide)
    refine ⟨List.Nodup.append hnodup (nodup_indexed _ k) ?_, fun s hs => ?_⟩
    · rw [List.disjoint_append_left]
      exact ⟨disjoint_indexed (by decide) (by decide) (by decide) n k,
        disjoint_indexed (by decide) (by decide) (by decide) n k⟩
    · rcases List.mem_append.mp hs with hs | hs
      · exact hindexed s hs
      · exact isIndexed_of_mem hs
  case classDef | call =>
    obtain ⟨n, -, h⟩ := bind_eq_ok_iff.mp h
    obtain ⟨k, -, ⟨⟩⟩ := bind_eq_ok_iff.mp h
    exact hpair _ _ (by decide) (by decide) (by decide)
  case dict =>
    obtain ⟨n, -, ⟨⟩⟩ := bind_eq_ok_iff.mp h
    exact hpair _ _ (by decide) (by decide) (by decide)
  case tryStmt | withStmt | assign | deleteStmt | boolOp | tuple | list | set | compare | lambda
      | fstring | zip =>
    obtain ⟨n, -, ⟨⟩⟩ := bind_eq_ok_iff.mp h
    exact ⟨nodup_indexed _ n, fun s hs => isIndexed_of_mem hs⟩
  case importStmt =>
    obtain ⟨n, -, ⟨⟩⟩ := bind_eq_ok_iff.mp h
    exact ⟨List.nodup_nil, by simp⟩
  all_goals
    cases h
    exact ⟨List.nodup_nil, by simp⟩

/-- No two slots for values have one name. -/
lemma nodup_values {t : BlockType} {fields : List (String × Datum)} {shape : BlockShape}
    (h : t.shapeFor fields = .ok shape) : (t.valueSlots ++ shape.values).Nodup := by
  have hslots : t.valueSlots.Nodup ∧ ∀ s ∈ t.valueSlots, Wordy s := by cases t <;> decide
  obtain ⟨hnodup, hindexed⟩ := nodup_shape_values h
  exact nodup_append_isIndexed hslots.1 hslots.2 hnodup hindexed

/-- No two slots for statements have one name. -/
lemma nodup_statements {t : BlockType} {fields : List (String × Datum)} {shape : BlockShape}
    (h : t.shapeFor fields = .ok shape) : (t.statementSlots ++ shape.statements).Nodup := by
  have hslots : t.statementSlots.Nodup ∧ ∀ s ∈ t.statementSlots, Wordy s := by
    cases t <;> decide
  by_cases ht : t = tryStmt
  · subst ht
    obtain ⟨n, hn, -⟩ := bind_eq_ok_iff.mp h
    rw [shape_statements_try h hn]
    exact nodup_append_isIndexed hslots.1 hslots.2 (nodup_indexed _ n)
      fun s hs => isIndexed_of_mem hs
  · rw [shape_statements_eq_nil h ht, List.append_nil]
    exact hslots.1

end BlockType

namespace Block

/-- Settling names never repeats one. -/
lemma nodup_settle {present wanted : List String} (hpresent : present.Nodup)
    (hwanted : wanted.Nodup) : (settle present wanted).Nodup := by
  refine List.nodup_append.mpr ⟨hpresent.filter _, hwanted.filter _, ?_⟩
  rintro a ha b hb rfl
  have hnot := (List.mem_filter.mp hb).2
  simp [ha] at hnot

/-- The counts of the block are numbers, and it has the slots and fields that they ask for, each
once. -/
structure Measured (b : Block) : Prop where
  counted : b.Counted
  shaped : b.Shaped
  values_nodup : b.values.Nodup
  statements_nodup : b.statements.Nodup

/-- Bringing slots in line with counts that are numbers makes a block measured. -/
lemma Counted.measured_reshape {b : Block} (h : b.Counted) (hvalues : b.values.Nodup)
    (hstatements : b.statements.Nodup) : ∃ b', b.reshape = .ok b' ∧ b'.Measured := by
  obtain ⟨b', shape, hb', -, hcounted, hhas, -, hshape, -⟩ := h.reshape
  obtain ⟨shape', hshape', -, hvalues', hstatements'⟩ := reshape_eq_ok hb'
  refine ⟨b', hb', hcounted, ⟨shape, hshape, hhas⟩, ?_, ?_⟩
  · rw [hvalues']
    exact nodup_settle hvalues (BlockType.nodup_values hshape')
  · rw [hstatements']
    exact nodup_settle hstatements (BlockType.nodup_statements hshape')

/-- A new block is measured. -/
lemma measured_ofType (t : BlockType) : (ofType t).Measured := by
  have hcounted : (⟨t, t.valueSlots, t.statementSlots, t.fields⟩ : Block).Counted := by
    refine ⟨fun name hname => entryAt?_isSome_iff.mpr hname, fun name hname d hd => ?_⟩
    have hadmits := t.admits_fields _ (mem_of_entryAt? hd)
    rwa [BlockType.sortOf, if_pos hname] at hadmits
  have hnodup : t.valueSlots.Nodup ∧ t.statementSlots.Nodup := by cases t <;> decide
  obtain ⟨b', hb', hmeasured⟩ := hcounted.measured_reshape hnodup.1 hnodup.2
  have heq : ofType t = b' := by simp only [ofType, hb']
  rwa [heq]

/-- Writing a field that counts nothing, or a count that is a number, keeps the counts numbers. -/
lemma Counted.writeField {b : Block} (h : b.Counted) {name : String} {d : Datum}
    (hd : b.type.isCount name → ∃ n : ℕ, d = .int n) : (b.writeField name d).Counted := by
  refine ⟨fun other hother => ?_, fun other hother d' hd' => ?_⟩
  · rw [field?_writeField]
    split
    · rfl
    · exact h.complete other hother
  · rw [field?_writeField] at hd'
    split at hd'
    case isTrue heq =>
      cases hd'
      exact hd (heq ▸ hother)
    case isFalse => exact h.counts other hother d' hd'

/-- Writing a field that counts nothing keeps a block measured. -/
lemma Measured.writeField {b : Block} (h : b.Measured) {name : String} (d : Datum)
    (hcount : b.type.isCount name = false) : (b.writeField name d).Measured :=
  ⟨h.counted.writeField fun hn => by simp [hcount] at hn, h.shaped.writeField d hcount,
    h.values_nodup, h.statements_nodup⟩

/-- Writing a count and bringing the slots in line with it keeps a block measured. -/
lemma Measured.reshape_writeField {b : Block} (h : b.Measured) (name : String) (n : ℕ) :
    ∃ b', (b.writeField name (.int n)).reshape = .ok b' ∧ b'.Measured :=
  (h.counted.writeField fun _ => ⟨n, rfl⟩).measured_reshape h.values_nodup h.statements_nodup

/-! ## Slots of a measured block -/

/-- The slots for statements of a measured block are those of its type and those for handlers. -/
lemma Measured.statements_perm {b : Block} (h : b.Measured) :
    ∃ shape, b.type.shapeFor b.fields = .ok shape ∧
      b.statements.Perm (b.type.statementSlots ++ shape.statements) := by
  obtain ⟨shape, hshape, -, hstatements, -⟩ := h.shaped
  exact ⟨shape, hshape, (List.perm_ext_iff_of_nodup h.statements_nodup
    (BlockType.nodup_statements hshape)).mpr hstatements⟩

/-- The slots for statements of a measured block without handlers are those of its type. -/
lemma Measured.statements_perm_slots {b : Block} (h : b.Measured) (ht : b.type ≠ .tryStmt) :
    b.statements.Perm b.type.statementSlots := by
  obtain ⟨shape, hshape, hperm⟩ := h.statements_perm
  rwa [BlockType.shape_statements_eq_nil hshape ht, List.append_nil] at hperm

/-- Only `match` blocks have a slot for cases. -/
lemma Measured.type_of_cases {b : Block} (h : b.Measured) (hcases : "CASES" ∈ b.statements) :
    b.type = .matchStmt := by
  obtain ⟨shape, hshape, hperm⟩ := h.statements_perm
  rcases List.mem_append.mp (hperm.mem_iff.mp hcases) with hslot | hadded
  · revert hslot
    cases b.type <;> decide
  · obtain ⟨stem, hstem, hprefix⟩ := (BlockType.stem_of_mem_shapeFor hshape).2 _ hadded
    revert stem
    cases b.type <;> decide

/-- No slot for a value is for cases. -/
lemma Measured.cases_notMem_values {b : Block} (h : b.Measured) : "CASES" ∉ b.values := by
  obtain ⟨shape, hshape, hhas⟩ := h.shaped
  rw [hhas.values, List.mem_append, not_or]
  refine ⟨?_, fun hadded => ?_⟩
  · cases b.type <;> decide
  · obtain ⟨stem, hstem, hprefix⟩ := (BlockType.stem_of_mem_shapeFor hshape).1 _ hadded
    revert stem
    cases b.type <;> decide

/-- Only case blocks have a slot for a pattern. -/
lemma Measured.type_of_pattern {b : Block} (h : b.Measured) (hpattern : "PATTERN" ∈ b.values) :
    b.type = .caseStmt := by
  obtain ⟨shape, hshape, hhas⟩ := h.shaped
  rcases List.mem_append.mp ((hhas.values _).mp hpattern) with hslot | hadded
  · revert hslot
    cases b.type <;> decide
  · obtain ⟨stem, hstem, hprefix⟩ := (BlockType.stem_of_mem_shapeFor hshape).1 _ hadded
    revert stem
    cases b.type <;> decide

/-- A count of a measured block. -/
lemma Measured.exists_countOf {b : Block} (h : b.Measured) {name : String}
    (hname : b.type.isCount name) : ∃ n, countOf b.fields name = .ok n :=
  h.counted.exists_countOf hname

end Block

end BlockText

import BlockText.Proofs.Build.Parts

/-!
# Blocks of comprehensions

Every clause of a comprehension has a count of its own, for its conditions.  Setting it adds slots,
and leaves the fields and slots of the other clauses alone.
-/

namespace BlockText.Edit

open Syntax Workspace Compile

variable {ws₀ ws : Workspace} {X : BlockId} {b b' : Block} {slot slot' : String → BlockTree}
  {n j : ℕ} {i : Info}

/-! ## Counts of conditions -/

/-- The names of the fields of a comprehension with a number of clauses. -/
def IsClauseField (n : ℕ) (name : String) : Prop :=
  name ∈ ["kind", "item_count"] ∨ ∃ i < n, Owns ["IF_COUNT", "IS_ASYNC"] i name

/-- The fields of a comprehension stay if a count of conditions is set. -/
private lemma field_of_assigned (ht : b.type = .comprehension)
    (hcount : b.field? "item_count" = some (.int n)) {d : Datum}
    (hb' : b.Assigned s!"IF_COUNT{j}" d b') {name : String} {d' : Datum}
    (hne : name ≠ s!"IF_COUNT{j}") (hname : IsClauseField n name) (hd' : b.field? name = some d') :
    b'.field? name = some d' := by
  have hstring : ∀ other, b.type = .string → other ≠ "raw" := fun _ h => by
    rw [ht] at h
    cases h
  have hfixed : ∀ other ∈ ["kind", "item_count"], ∀ e, b.field? other = some e →
      b'.field? other = some e := by
    intro other hother e he
    have hwordy : Wordy other := by
      rcases List.mem_pair.mp hother with rfl | rfl <;> decide
    refine hb'.others other e (indexed_ne hwordy j).symm he (hstring other) fun _ => ?_
    obtain ⟨shape, hshape, -⟩ := hb'.proper.shaped
    refine ⟨shape, hshape, ?_⟩
    rw [ht, List.map_append]
    exact List.mem_append_left _ hother
  rcases hname with hname | ⟨i, hi, stem, hstem, rfl⟩
  · exact hfixed name hname d' hd'
  refine hb'.others _ d' hne hd' (hstring _) fun _ => ?_
  obtain ⟨shape, hshape, -⟩ := hb'.proper.shaped
  have hcount' := hfixed "item_count" (by decide) _ hcount
  rw [hb'.type, ht] at hshape
  obtain ⟨hifs, hasync⟩ :=
    BlockType.mem_comprehension_fields hshape (countOf_of_entry hcount') hi
  refine ⟨shape, by rw [hb'.type, ht, hshape], ?_⟩
  rw [List.map_append]
  rcases List.mem_pair.mp hstem with rfl | rfl
  · exact List.mem_append_right _ hifs
  · exact List.mem_append_right _ hasync

/-- The slots of a comprehension stay if a clause without conditions gets some. -/
private lemma values_of_assigned (hproper : b.Proper) (ht : b.type = .comprehension)
    (hcount : b.field? "item_count" = some (.int n)) (hj : j < n)
    (hzero : b.field? s!"IF_COUNT{j}" = some (.int 0)) {m : ℕ}
    (hb' : b.Assigned s!"IF_COUNT{j}" (.int m) b') :
    (∀ s ∈ b.values, s ∈ b'.values) ∧ ∀ k < m, s!"{ifStem j}{k}" ∈ b'.values := by
  obtain ⟨shape, hshape, hhas⟩ := hproper.shaped
  obtain ⟨shape', hshape', hhas'⟩ := hb'.proper.shaped
  have hcount' : b'.field? "item_count" = some (.int n) :=
    field_of_assigned ht hcount hb' (indexed_ne (by decide) j).symm (.inl (by decide)) hcount
  rw [ht] at hshape
  rw [hb'.type, ht] at hshape'
  have hmem := BlockType.mem_comprehension_values hshape (countOf_of_entry hcount)
  have hmem' := BlockType.mem_comprehension_values hshape' (countOf_of_entry hcount')
  constructor
  · intro s hs
    rw [hhas'.values, hb'.type, List.mem_append, hmem']
    rw [hhas.values, List.mem_append, hmem] at hs
    refine hs.imp_right ?_
    rintro ⟨i, hi, hs | hs | ⟨c, hc, hs⟩⟩
    · exact ⟨i, hi, .inl hs⟩
    · exact ⟨i, hi, .inr (.inl hs)⟩
    · rcases eq_or_ne i j with rfl | hne
      · obtain rfl : 0 = c := Except.ok.inj ((countOf_of_entry hzero).symm.trans hc)
        simp [indexed] at hs
      · refine ⟨i, hi, .inr (.inr ⟨c, ?_, hs⟩)⟩
        obtain ⟨hifs, -⟩ := BlockType.mem_comprehension_fields hshape (countOf_of_entry hcount) hi
        obtain ⟨f, hf, hname⟩ := List.mem_map.mp hifs
        obtain ⟨d, hd⟩ := Option.isSome_iff_exists.mp (hhas.fields f hf)
        rw [hname] at hd
        have hd' := field_of_assigned ht hcount hb' (fun heq => hne (indexed_inj_right.mp heq))
          (.inr ⟨i, hi, "IF_COUNT", by decide, rfl⟩) hd
        rw [← hc]
        exact countOf_congr (hd'.trans hd.symm)
  · intro k hk
    rw [hhas'.values, List.mem_append, hmem']
    exact .inr ⟨j, hj, .inr (.inr ⟨m, countOf_of_entry hb'.field, mem_indexed hk⟩)⟩

/-- Sets the number of conditions of a clause that has none yet. -/
lemma yields_setIfCount {α : Type} {done : α → Workspace → Prop} {f : Edit α} {m : ℕ}
    (h : Opened ws₀ ws X b slot) (ht : b.type = .comprehension)
    (hcount : b.field? "item_count" = some (.int n)) (hj : j < n)
    (hzero : b.field? s!"IF_COUNT{j}" = some (.int 0))
    (hf : ∀ b' ws', b'.type = .comprehension → b'.field? s!"IF_COUNT{j}" = some (.int m) →
      (∀ s ∈ b.values, s ∈ b'.values) → (∀ k < m, s!"{ifStem j}{k}" ∈ b'.values) →
      (∀ name d, name ≠ s!"IF_COUNT{j}" → IsClauseField n name → b.field? name = some d →
        b'.field? name = some d) → Opened ws₀ ws' X b' slot → Yields f ws' done) :
    Yields (do setField X s!"IF_COUNT{j}" (count m); f) ws done := by
  have hproper := proper_of_opened h
  have hisCount : b.type.isCount s!"IF_COUNT{j}" := by
    rw [ht]
    exact BlockType.isCount_ifCount j
  refine Yields.bind (yields_setCount h hisCount m (fun shape hshape => ?_)
    fun b' hb' s _ => ⟨(values_of_assigned hproper ht hcount hj hzero hb').1 s, ?_⟩) ?_
  · rw [ht] at hshape
    have hitems : countOf (b.writeField s!"IF_COUNT{j}" (.int m)).fields "item_count" = .ok n := by
      refine countOf_of_entry ?_
      change (b.writeField _ _).field? "item_count" = _
      rw [Block.field?_writeField, if_neg (indexed_ne (by decide) j).symm, hcount]
    rw [List.map_append]
    exact List.mem_append_right _ (BlockType.mem_comprehension_fields hshape hitems hj).1
  · intro hs
    obtain ⟨shape, hshape, hhas⟩ := hproper.shaped
    rw [hhas.statements, ht] at hs
    rw [ht] at hshape
    rcases List.mem_append.mp hs with hs | hs
    · cases hs
    · obtain ⟨stem, hstem, -⟩ := (BlockType.stem_of_mem_shapeFor hshape).2 s hs
      cases hstem
  · rintro _ ws' ⟨b', hb', h'⟩
    obtain ⟨hvalues, hifs⟩ := values_of_assigned hproper ht hcount hj hzero hb'
    exact hf b' ws' (hb'.type.trans ht) hb'.field hvalues hifs
      (fun name d hne hname => field_of_assigned ht hcount hb' hne hname) h'

/-! ## One clause -/

/-- The clause of an index can be built: it has no conditions yet, and its slots are empty. -/
structure ReadyClause (n j : ℕ) (b : Block) (slot : String → BlockTree) : Prop where
  lt : j < n
  noIfs : b.field? s!"IF_COUNT{j}" = some (.int 0)
  slots : ∀ stem ∈ ["TARGET", "ITER"], s!"{stem}{j}" ∈ b.values ∧ slot s!"{stem}{j}" = .nothing
  ifs : ∀ k : ℕ, slot s!"{ifStem j}{k}" = .nothing

/-- What building the clause of an index leaves alone. -/
structure ClauseStep (n j : ℕ) (b : Block) (slot : String → BlockTree) (b' : Block)
    (slot' : String → BlockTree) : Prop where
  type : b'.type = b.type
  values : ∀ s ∈ b.values, s ∈ b'.values
  field : ∀ name d, ¬ Owns ["IF_COUNT", "IS_ASYNC"] j name → IsClauseField n name →
    b.field? name = some d → b'.field? name = some d
  slot : ∀ s, ¬ Owns ["TARGET", "ITER"] j s → (∀ k : ℕ, s ≠ s!"{ifStem j}{k}") → slot' s = slot s

/-- Whether a clause is asynchronous is a flag. -/
private lemma sortOf_isAsync (j : ℕ) :
    BlockType.comprehension.isCount s!"IS_ASYNC{j}" = false ∧
      BlockType.comprehension.sortOf s!"IS_ASYNC{j}" = .flag := by
  have hstem : ("IS_ASYNC", Datum.bool false) ∈ BlockType.comprehension.fieldStems :=
    List.mem_cons_of_mem _ List.mem_cons_self
  have hadmits : (BlockType.comprehension.sortOf s!"IS_ASYNC{j}").Admits (.bool false) :=
    BlockType.admits_fieldStems hstem (prefix_append_text "IS_ASYNC" (toString j))
  have hflag : BlockType.comprehension.sortOf s!"IS_ASYNC{j}" = .flag := by
    cases hsort : BlockType.comprehension.sortOf s!"IS_ASYNC{j}" with
    | flag => rfl
    | count =>
      rw [hsort] at hadmits
      obtain ⟨n, hn⟩ := hadmits
      cases hn
    | words =>
      rw [hsort] at hadmits
      exact absurd (Datum.isSome_points?.mpr hadmits) (by decide)
  refine ⟨?_, hflag⟩
  rw [Bool.eq_false_iff]
  intro hcount
  rw [BlockType.sortOf, if_pos hcount] at hflag
  cases hflag

private lemma yields_clause {c : Clause Expr} (h₀ : ws₀.Forest) (h : Opened ws₀ ws X b slot)
    (ht : b.type = .comprehension) (hcount : b.field? "item_count" = some (.int n))
    (hready : ReadyClause n j b slot) (htarget : BuildsExpr c.target) (hiter : BuildsExpr c.iter)
    (hifs : ∀ e ∈ c.ifs, BuildsExpr e) :
    Yields (do
      setField X s!"IS_ASYNC{j}" (.bool c.isAsync)
      setField X s!"IF_COUNT{j}" (count c.ifs.length)
      plug X s!"TARGET{j}" (← exprBlock c.target)
      plug X s!"ITER{j}" (← exprBlock c.iter)
      plugAll X s!"IF{j}_" 0 c.ifs) ws fun _ ws' => ∃ b' slot', Opened ws₀ ws' X b' slot' ∧
        ShowsClause b' slot' j c ∧ ClauseStep n j b slot b' slot' := by
  have hapart : s!"ITER{j}" ≠ s!"TARGET{j}" := indexed_ne_of_stem (by decide) (by decide) (by decide)
  have hifNe : ∀ {stem : String}, Wordy stem → stem ≠ "IF" → ∀ k : ℕ,
      s!"{stem}{j}" ≠ s!"{ifStem j}{k}" := fun hstem hif k => (twice_indexed_ne hstem hif).symm
  obtain ⟨htmem, htempty⟩ := hready.slots "TARGET" (by decide)
  obtain ⟨himem, hiempty⟩ := hready.slots "ITER" (by decide)
  refine yields_set h (by rw [ht]; decide) (by rw [ht]; exact (sortOf_isAsync j).1)
    (by rw [ht, (sortOf_isAsync j).2]; exact ⟨_, rfl⟩) fun b₁ ws₁ hasync k₁ h₁ => ?_
  refine yields_setIfCount h₁ (k₁.type.trans ht)
    (k₁.field _ _ (indexed_ne (by decide) j).symm hcount) hready.lt
    (k₁.field _ _ (indexed_ne_of_stem (by decide) (by decide) (by decide)) hready.noIfs)
    fun b₂ ws₂ ht₂ hif hvalues hifmem hfields h₂ => ?_
  have hsub : ∀ s ∈ b.values, s ∈ b₂.values := fun s hs => hvalues s (k₁.values s hs)
  refine yields_plug h₀ h₂ htarget (fun _ h => h.1) (hsub _ htmem) htempty
    fun slot₃ ws₃ htarget' k₃ h₃ => ?_
  refine yields_plug h₀ h₃ hiter (fun _ h => h.1) (hsub _ himem) (by rw [k₃.slot _ hapart, hiempty])
    fun slot₄ ws₄ hiter' k₄ h₄ => ?_
  have hempty : ∀ k : ℕ, slot₄ s!"{ifStem j}{k}" = .nothing := by
    intro k
    rw [k₄.slot _ (hifNe (by decide) (by decide) k).symm,
      k₃.slot _ (hifNe (by decide) (by decide) k).symm, hready.ifs k]
  rw [← bind_pure_unit (x := plugAll X s!"IF{j}_" 0 c.ifs)]
  refine yields_plugAll h₀ h₄ hifs hifmem (fun k _ => hempty k) fun b₅ slot₅ ws₅ hifs' k₅ h₅ => ?_
  have hasync₂ : b₂.field? s!"IS_ASYNC{j}" = some (.bool c.isAsync) :=
    hfields _ _ (indexed_ne_of_stem (by decide) (by decide) (by decide))
      (.inr ⟨j, hready.lt, "IS_ASYNC", by decide, rfl⟩) hasync
  refine ⟨b₅, slot₅, h₅, ⟨?_, ?_, ?_, ?_, hifs'⟩, ⟨?_, ?_, ?_, ?_⟩⟩
  · exact k₅.field _ _ (hifNe (by decide) (by decide)) hasync₂
  · exact k₅.field _ _ (hifNe (by decide) (by decide)) hif
  · rw [k₅.slot _ (hifNe (by decide) (by decide)), k₄.slot _ hapart.symm]
    exact htarget'.2
  · rw [k₅.slot _ (hifNe (by decide) (by decide))]
    exact hiter'.2
  · rw [k₅.type, ht₂, ht]
  · exact fun s hs => k₅.values s (hsub s hs)
  · intro name d hnot hname hd
    have hstep := k₁.field name d (fun heq => hnot ⟨"IS_ASYNC", by decide, heq⟩) hd
    have hstep' := hfields name d (fun heq => hnot ⟨"IF_COUNT", by decide, heq⟩) hname hstep
    refine k₅.field name d (fun k heq => ?_) hstep'
    rcases hname with hname | ⟨i, _, stem, hstem, rfl⟩
    · have hwordy : Wordy name := by
        rcases List.mem_pair.mp hname with rfl | rfl <;> decide
      exact indexed_ne hwordy k heq.symm
    · rcases List.mem_pair.mp hstem with rfl | rfl
      · exact twice_indexed_ne (by decide) (by decide) heq.symm
      · exact twice_indexed_ne (by decide) (by decide) heq.symm
  · intro s hnot hif'
    rw [k₅.slot s hif', k₄.slot s fun heq => hnot ⟨"ITER", by decide, heq⟩,
      k₃.slot s fun heq => hnot ⟨"TARGET", by decide, heq⟩]

/-! ## Comprehensions -/

/-- A block of a comprehension, without its clauses. -/
structure Comprehends (n : ℕ) (kind : ComprehensionKind) (e : Expr) (key : Option Expr) (b : Block)
    (slot : String → BlockTree) : Prop where
  type : b.type = .comprehension
  count : b.field? "item_count" = some (.int n)
  kind : b.field? "kind" = some (spelled kind)
  element : Reads (slot "ELEMENT") e
  key : ReadsOption (slot "KEY") key

variable {kind : ComprehensionKind} {e : Expr} {key : Option Expr}

/-- Building a clause leaves the rest of the comprehension alone. -/
lemma ClauseStep.comprehends (hstep : ClauseStep n j b slot b' slot')
    (h : Comprehends n kind e key b slot) : Comprehends n kind e key b' slot' := by
  have hslot : ∀ {s : String}, Wordy s → slot' s = slot s := fun hs =>
    hstep.slot _ (not_owns_wordy hs j) fun k => (indexed_ne hs k).symm
  refine ⟨hstep.type.trans h.type, ?_, ?_, ?_, ?_⟩
  · exact hstep.field _ _ (not_owns_wordy (by decide) j) (.inl (by decide)) h.count
  · exact hstep.field _ _ (not_owns_wordy (by decide) j) (.inl (by decide)) h.kind
  · rw [hslot (by decide)]
    exact h.element
  · rw [hslot (by decide)]
    exact h.key

/-- The names of another clause are left alone. -/
private lemma ClauseStep.slot_other (hstep : ClauseStep n j b slot b' slot') {i : ℕ} (hi : i ≠ j) :
    (∀ stem ∈ ["TARGET", "ITER"], slot' s!"{stem}{i}" = slot s!"{stem}{i}") ∧
      ∀ k : ℕ, slot' s!"{ifStem i}{k}" = slot s!"{ifStem i}{k}" := by
  have hwordy : ∀ stem ∈ ["TARGET", "ITER"], Wordy stem := by decide
  constructor
  · intro stem hstem
    refine hstep.slot _ (fun hown => hi ?_) fun k => (twice_indexed_ne (hwordy stem hstem) ?_).symm
    · exact Owns.index_eq hwordy ⟨stem, hstem, rfl⟩ hown
    · rcases List.mem_pair.mp hstem with rfl | rfl <;> decide
  · intro k
    refine hstep.slot _ ?_ fun k' heq => hi (twice_indexed_inj.mp heq).1
    rintro ⟨stem, hstem, heq⟩
    rcases List.mem_pair.mp hstem with rfl | rfl
    · exact twice_indexed_ne (by decide) (by decide) heq
    · exact twice_indexed_ne (by decide) (by decide) heq

/-- The fields of another clause are left alone. -/
private lemma ClauseStep.field_other (hstep : ClauseStep n j b slot b' slot') {i : ℕ} (hi : i ≠ j)
    (hlt : i < n) {stem : String} (hstem : stem ∈ ["IF_COUNT", "IS_ASYNC"]) {d : Datum}
    (hd : b.field? s!"{stem}{i}" = some d) : b'.field? s!"{stem}{i}" = some d :=
  hstep.field _ _ (fun hown => hi (Owns.index_eq (by decide) ⟨stem, hstem, rfl⟩ hown))
    (.inr ⟨i, hlt, stem, hstem, rfl⟩) hd

lemma ClauseStep.ready (hstep : ClauseStep n j b slot b' slot') {i : ℕ} (hi : i ≠ j)
    (h : ReadyClause n i b slot) : ReadyClause n i b' slot' := by
  obtain ⟨hslots, hifs⟩ := hstep.slot_other hi
  refine ⟨h.lt, hstep.field_other hi h.lt (by decide) h.noIfs, fun stem hstem => ?_, fun k => ?_⟩
  · rw [hslots stem hstem]
    exact ⟨hstep.values _ (h.slots stem hstem).1, (h.slots stem hstem).2⟩
  · rw [hifs k, h.ifs k]

lemma ClauseStep.showsClause (hstep : ClauseStep n j b slot b' slot') {i : ℕ} (hi : i ≠ j)
    (hlt : i < n) {c : Clause Expr} (h : ShowsClause b slot i c) : ShowsClause b' slot' i c := by
  obtain ⟨hslots, hifs⟩ := hstep.slot_other hi
  obtain ⟨hasync, hcount, htarget, hiter, hconds⟩ := h
  refine ⟨hstep.field_other hi hlt (by decide) hasync, hstep.field_other hi hlt (by decide) hcount,
    ?_, ?_, fun k hk => ?_⟩
  · rwa [hslots "TARGET" (by decide)]
  · rwa [hslots "ITER" (by decide)]
  · have hslot : slot' (s!"IF{i}_" ++ toString k) = slot (s!"IF{i}_" ++ toString k) := hifs k
    rw [hslot]
    exact hconds k hk

/-- The clauses of a new comprehension can be built. -/
private lemma readyClause_of_fresh (h : Opened ws₀ ws X b noSlots) (ht : b.type = .comprehension)
    (hfresh : b.Fresh) (hcount : b.field? "item_count" = some (.int n)) (hj : j < n) :
    ReadyClause n j b noSlots := by
  obtain ⟨shape, hshape, hhas⟩ := (proper_of_opened h).shaped
  rw [ht] at hshape
  refine ⟨hj, ?_, fun stem hstem => ⟨?_, rfl⟩, fun _ => rfl⟩
  · obtain ⟨hifs, -⟩ := BlockType.mem_comprehension_fields hshape (countOf_of_entry hcount) hj
    obtain ⟨f, hf, hname⟩ := List.mem_map.mp hifs
    obtain ⟨d, hd⟩ := Option.isSome_iff_exists.mp (hhas.fields f hf)
    rw [hname] at hd
    rw [hd]
    rcases hfresh _ _ hd with hfixed | ⟨stem, hstem, hprefix, rfl⟩
    · rw [ht] at hfixed
      rcases List.mem_pair.mp hfixed with heq | heq
      · exact absurd heq (indexed_ne (by decide) j)
      · exact absurd heq (indexed_ne (by decide) j)
    · rw [ht] at hstem
      rcases List.mem_pair.mp hstem with rfl | rfl
      · rfl
      · exact absurd rfl ((show Diverge "IS_ASYNC" "IF_COUNT" by decide).ne hprefix
          (prefix_append_text "IF_COUNT" (toString j)))
  · rw [hhas.values, List.mem_append,
      BlockType.mem_comprehension_values hshape (countOf_of_entry hcount)]
    rcases List.mem_pair.mp hstem with rfl | rfl
    · exact .inr ⟨j, hj, .inl rfl⟩
    · exact .inr ⟨j, hj, .inr (.inl rfl)⟩

/-- Clauses are set and plugged in one by one. -/
private lemma yields_plugClauses {cs : List (Clause Expr)} (h₀ : ws₀.Forest)
    (h : Opened ws₀ ws X b slot) (hinv : Comprehends cs.length kind e key b slot)
    (hready : ∀ j < cs.length, ReadyClause cs.length j b slot)
    (hcs : ∀ c ∈ cs, BuildsExpr c.target ∧ BuildsExpr c.iter ∧ ∀ e ∈ c.ifs, BuildsExpr e) :
    Yields (plugClauses X 0 cs) ws fun _ ws' => ∃ b' slot', Opened ws₀ ws' X b' slot' ∧
      Comprehends cs.length kind e key b' slot' ∧
      ∀ j (hj : j < cs.length), ShowsClause b' slot' j cs[j] := by
  refine (yields_loop (Comprehends cs.length kind e key) (ReadyClause cs.length)
    (fun j c b slot => j < cs.length ∧ ShowsClause b slot j c)
    (fun j c => do
      setField X s!"IS_ASYNC{j}" (.bool c.isAsync)
      setField X s!"IF_COUNT{j}" (count c.ifs.length)
      plug X s!"TARGET{j}" (← exprBlock c.target)
      plug X s!"ITER{j}" (← exprBlock c.iter)
      plugAll X s!"IF{j}_" 0 c.ifs) (fun j => by rw [plugClauses]) (fun j c rest => by simp) ?_ h
    hinv (fun j hj => by rw [Nat.zero_add]; exact hready j hj)).mono ?_
  · intro c hc j _ ws₁ b₁ slot₁ h₁ hinv₁ hready₁
    obtain ⟨htarget, hiter, hifs⟩ := hcs c hc
    refine (yields_clause h₀ h₁ hinv₁.type hinv₁.count hready₁ htarget hiter hifs).mono ?_
    rintro _ ws₂ ⟨b₂, slot₂, h₂, hshows, hstep⟩
    exact ⟨b₂, slot₂, h₂, hstep.comprehends hinv₁, ⟨hready₁.lt, hshows⟩, fun i hi =>
      ⟨hstep.ready hi, fun c' hc' => ⟨hc'.1, hstep.showsClause hi hc'.1 hc'.2⟩⟩⟩
  · rintro _ ws' ⟨b', slot', h', hinv', hitems⟩
    refine ⟨b', slot', h', hinv', fun j hj => ?_⟩
    have := (hitems j hj).2
    rwa [Nat.zero_add] at this

lemma builds_comprehension {cs : List (Clause Expr)} (hdict : key.isSome ↔ kind = .dict)
    (he : BuildsExpr e) (hkey : ∀ k ∈ key, BuildsExpr k)
    (hcs : ∀ c ∈ cs, BuildsExpr c.target ∧ BuildsExpr c.iter ∧ ∀ e ∈ c.ifs, BuildsExpr e) :
    BuildsExpr (.comprehension kind e cs key i) := by
  intro ws hws
  rw [exprBlock]
  refine yields_newBlock hws (by decide) (by decide) (by simp)
    ((fitting_text (isText_text _) rfl).cons ((fitting_count rfl).cons fitting_nil))
    fun X b ws₁ h₁ ht hfresh hfs => ?_
  obtain ⟨hkind, hcount⟩ := hfs
  refine yields_plug hws.forest h₁ he (fun _ h => h.1) (mem_values h₁ ht (by decide)) rfl
    fun slot₂ ws₂ he' k₂ h₂ => ?_
  refine yields_plug hws.forest h₂ (builds_option hkey) (fun _ h => h.1)
    (mem_values h₁ ht (by decide)) (by rw [k₂.slot _ (by decide)]) fun slot₃ ws₃ hkey' k₃ h₃ => ?_
  have hinv : Comprehends cs.length kind e key b slot₃ := by
    refine ⟨ht, hcount, hkind, ?_, hkey'.2⟩
    rw [k₃.slot _ (by decide)]
    exact he'.2
  have hready : ∀ j < cs.length, ReadyClause cs.length j b slot₃ := by
    intro j hj
    obtain ⟨hlt, hzero, hslots, hifs⟩ := readyClause_of_fresh h₁ ht hfresh hcount hj
    have hempty : ∀ (stem : String) (k : ℕ), slot₃ s!"{stem}{k}" = .nothing := by
      intro stem k
      rw [k₃.slot _ (indexed_ne (by decide) k), k₂.slot _ (indexed_ne (by decide) k)]
    exact ⟨hlt, hzero, fun stem hstem => ⟨(hslots stem hstem).1, hempty stem j⟩,
      fun k => hempty _ k⟩
  refine Yields.bind (yields_plugClauses hws.forest h₃ hinv hready hcs) ?_
  rintro _ ws₄ ⟨b₄, slot₄, h₄, hinv', hitems⟩
  exact yields_finish h₄ hinv'.type rfl (reads_comprehension hinv'.type hinv'.kind hinv'.count
    hinv'.element hinv'.key hdict hitems)

end BlockText.Edit

import BlockText.Proofs.Workspace.Grove

/-!
# Steps of a build

Each edit that a build uses is carried out, and changes the new trees in one way.  Nothing is in the
way: names are fresh, the block that is connected is held by nothing, and its place is free.
-/

namespace BlockText

namespace Edit

open Workspace

variable {ws₀ ws : Workspace} {ts : List BlockTree}

/-! ## New blocks -/

/-- One of more names than there are blocks is fresh. -/
lemma exists_fresh (ws : Workspace) : ∃ n, (((List.range (ws.blocks.length + 1)).map
    (ws.serial + 1 + ·)).find? fun n => !ws.has s!"n{n}") = some n ∧ ¬ ws.has s!"n{n}" := by
  cases hfind : ((List.range (ws.blocks.length + 1)).map
    (ws.serial + 1 + ·)).find? fun n => !ws.has s!"n{n}" with
  | some n => exact ⟨n, rfl, by simpa using List.find?_some hfind⟩
  | none =>
    -- Otherwise all these names would be names of blocks, and there are more of them.
    exfalso
    have hall : ∀ k < ws.blocks.length + 1, s!"n{ws.serial + 1 + k}" ∈ ws.ids := by
      intro k hk
      have := List.find?_eq_none.mp hfind _
        (List.mem_map.mpr ⟨k, List.mem_range.mpr hk, rfl⟩)
      exact has_iff_mem_ids.mp (by simpa using this)
    have hnodup : ((List.range (ws.blocks.length + 1)).map
        fun k => s!"n{ws.serial + 1 + k}").Nodup := by
      refine List.Nodup.map (fun i j hij => ?_) List.nodup_range
      have := ((indexed_inj (a := "n") (b := "n") (by decide) (by decide)).mp hij).2
      omega
    have hsub : (List.range (ws.blocks.length + 1)).map (fun k => s!"n{ws.serial + 1 + k}") ⊆
        ws.ids := by
      intro name hname
      obtain ⟨k, hk, rfl⟩ := List.mem_map.mp hname
      exact hall k (List.mem_range.mp hk)
    have hle := (hnodup.subperm hsub).length_le
    simp [Forest.length_ids] at hle

/-- A fresh name is found, and only the serial number changes. -/
lemma yields_freshId {done : BlockId → Workspace → Prop}
    (h : ∀ id n, ¬ ws.has id → done id { ws with serial := n }) : Yields freshId ws done := by
  obtain ⟨n, hfind, hn⟩ := exists_fresh ws
  unfold freshId
  simp only [Yields, ends_bind, ends_get, ends_set, ends_pure]
  rw [hfind, Option.getD_some]
  exact h _ n hn

/-- A new block stands for itself. -/
lemma yields_create (h : ws.Tidy) {type : BlockType} (htype : type ≠ .syncError) (spot : Point) :
    Yields (create type spot) ws fun X ws' =>
      Grove ws ws' [.node X (Block.ofType type) (fun _ => .nothing) .nothing] := by
  unfold create
  rw [Yields, ends_bind]
  refine yields_freshId fun X n hX => ?_
  have hsame : SameGraph ws { ws with serial := n } := ⟨rfl, rfl, rfl, rfl⟩
  have htidy : ({ ws with serial := n } : Workspace).Tidy :=
    ⟨Forest.of_sameGraph hsame h.forest, h.muted, h.proper⟩
  have hX' : ¬ ({ ws with serial := n } : Workspace).has X := hX
  have hgrove := Grove.grow htidy hX' htype spot
  unfold place
  simp only [ends_bind, ends_get]
  refine yields_refuseIf (by simpa using hX') ?_
  simp only [ends_set]
  refine yields_fire h.muted ?_
  exact ⟨hgrove.tidy, fun id hid => ⟨(hgrove.agree id hid).block?, (hgrove.agree id hid).held?,
    (hgrove.agree id hid).next?⟩, hgrove.parent?, hgrove.trees, hgrove.fresh, hgrove.distinct,
    hgrove.others⟩

/-! ## Fields -/

section Fields

variable {X : BlockId} {b : Block} {slot : String → BlockTree} {next : BlockTree} {name : String}
  {d : Datum}

/-- At most the spelling of a text is forgotten before a field is set. -/
lemma yields_forgetSpelling (h : Grove ws₀ ws (.node X b slot next :: ts)) :
    Yields (forgetSpelling X name d) ws fun _ ws' => ∃ b₁,
      (b₁ = b ∨ b.type = .string ∧ b₁ = b.writeField "raw" "") ∧
        Grove ws₀ ws' (.node X b₁ slot next :: ts) := by
  obtain ⟨hb, -⟩ := h.of_mem_node List.mem_cons_self
  have hproper := (h.tidy.proper X b hb).1
  unfold forgetSpelling
  rw [Yields, ends_bind]
  refine yields_require hb ?_
  split
  case isTrue hcond =>
    simp only [Bool.and_eq_true, beq_iff_eq] at hcond
    have htype := hcond.1.1
    refine ⟨b.writeField "raw" "", .inr ⟨htype, rfl⟩, h.put rfl ?_ (fun _ _ h => h) fun _ _ h => h⟩
    refine hproper.writeField ?_ ?_
    · rw [htype]
      decide
    · rw [htype]
      exact Datum.exists_ofPoints ""
  case isFalse => exact ⟨b, .inl rfl, h⟩

/-- After the spelling was forgotten, a field that does not hold the datum yet is written. -/
lemma yields_setField_of (h : Grove ws₀ ws (.node X b slot next :: ts))
    (hd : (b.type.sortOf name).Admits d)
    (hvalue : ∀ {ws₁ done}, done d ws₁ → Yields (fieldValue b.type name d) ws₁ done)
    (hwrite : ∀ {ws₁} b₁, (b₁ = b ∨ b.type = .string ∧ b₁ = b.writeField "raw" "") →
      Grove ws₀ ws₁ (.node X b₁ slot next :: ts) →
      Yields (updateShaped X (b₁.writeField name d) name) ws₁ fun _ ws' =>
        ∃ b', b₁.Assigned name d b' ∧ Grove ws₀ ws' (.node X b' slot next :: ts)) :
    Yields (setField X name d) ws fun _ ws' =>
      ∃ b', b.Assigned name d b' ∧ Grove ws₀ ws' (.node X b' slot next :: ts) := by
  unfold setField
  refine Yields.bind (yields_forgetSpelling h) ?_
  rintro _ ws₁ ⟨b₁, hb₁, h₁⟩
  have htype : b₁.type = b.type := by
    rcases hb₁ with rfl | ⟨-, rfl⟩ <;> rfl
  have hassign : ∀ {b'}, b₁.Assigned name d b' → b.Assigned name d b' := by
    intro b' hb'
    rcases hb₁ with rfl | ⟨hstring, rfl⟩
    · exact hb'
    · exact hb'.of_forgotten hstring
  obtain ⟨hblock, -⟩ := h₁.of_mem_node List.mem_cons_self
  have hproper := (h₁.tidy.proper X b₁ hblock).1
  rw [Yields, ends_bind]
  refine yields_require hblock ?_
  rw [ends_bind, htype]
  refine hvalue ?_
  by_cases hequal : (b₁.field? name).any (·.equiv d) = true
  · rw [if_neg (by simp [hequal])]
    obtain ⟨old, hold, hequiv⟩ := (Option.any_eq_true _ _).mp hequal
    have hsame : old = d := FieldSort.eq_of_equiv (hproper.legible.sorted name old hold)
      (htype ▸ hd) hequiv
    exact ⟨b₁, hassign (Block.assigned_self hproper (hsame ▸ hold)), h₁⟩
  · rw [if_pos (by simpa using hequal)]
    refine Yields.bind (hwrite b₁ hb₁ h₁) ?_
    rintro _ ws' ⟨b', hb', hgrove⟩
    exact yields_fire hgrove.tidy.muted ⟨b', hassign hb', hgrove⟩

/-- A field that counts nothing is set. -/
lemma yields_setField (h : Grove ws₀ ws (.node X b slot next :: ts))
    (hcount : b.type.isCount name = false) (hd : (b.type.sortOf name).Admits d) :
    Yields (setField X name d) ws fun _ ws' =>
      ∃ b', b.Assigned name d b' ∧ Grove ws₀ ws' (.node X b' slot next :: ts) := by
  refine yields_setField_of h hd (fun hdone => ?_) fun {ws₁} b₁ hb₁ h₁ => ?_
  · rw [fieldValue, hcount]
    exact hdone
  · have htype : b₁.type = b.type := by
      rcases hb₁ with rfl | ⟨-, rfl⟩ <;> rfl
    obtain ⟨hblock, -⟩ := h₁.of_mem_node List.mem_cons_self
    have hproper := (h₁.tidy.proper X b₁ hblock).1
    rw [← htype] at hcount hd
    have hwritten := Block.assigned_writeField hproper hcount hd
    simp only [updateShaped, update, Yields, ends_bind, ends_modify]
    rw [show (b₁.writeField name d).type = b₁.type from rfl, hcount]
    exact ⟨_, hwritten, h₁.put rfl hwritten.proper (fun _ _ h => h) fun _ _ h => h⟩

/-- Slots without anything in them can be detached. -/
lemma yields_forM_detach {done : PUnit → Workspace → Prop} (ss : List String)
    (h : ∀ s ∈ ss, ws.incoming X s = [] ∧ ws.outgoing X s = []) (hdone : done ⟨⟩ ws) :
    Yields (ss.forM (detach X)) ws done := by
  induction ss with
  | nil => exact hdone
  | cons s rest ih =>
    change Yields (detach X s >>= fun _ => rest.forM (detach X)) ws done
    obtain ⟨hin, hout⟩ := h s List.mem_cons_self
    simp only [detach, dropEdges, Yields, ends_bind, ends_modify]
    rw [hin]
    change Ends _ (ws.drop (ws.outgoing X s)) _ _
    rw [hout]
    exact ih fun s' hs' => h s' (List.mem_cons_of_mem s hs')

/-- Nothing is connected to a slot without anything in it. -/
lemma no_edges_of_empty (h : Grove ws₀ ws (.node X b slot next :: ts)) {s : String}
    (hs : isOwnPort s = false) (hempty : slot s = .nothing) :
    ws.incoming X s = [] ∧ ws.outgoing X s = [] := by
  have hheld := h.held?_eq_none List.mem_cons_self hs hempty
  unfold held? at hheld
  cases hin : ws.incoming X s with
  | cons e rest => simp [hin] at hheld
  | nil =>
    simp only [hin, List.head?_nil, Option.map_eq_none_iff, List.head?_eq_none_iff] at hheld
    exact ⟨rfl, hheld⟩

/-- Bringing a block in line with its counts replaces it, if the slots in use stay. -/
lemma yields_reshape (h : Grove ws₀ ws (.node X b slot next :: ts)) {b₁ b' : Block}
    (hshaped : b₁.reshape = .ok b') (hvalues : b₁.values = b.values)
    (hstatements : b₁.statements = b.statements) (htype : b'.type = b.type) (hproper : b'.Proper)
    (hused : ∀ s, slot s ≠ .nothing →
      (s ∈ b.values → s ∈ b'.values) ∧ (s ∈ b.statements → s ∈ b'.statements)) :
    Yields (reshape X b₁) (ws.put X b₁) fun _ ws' =>
      Grove ws₀ ws' (.node X b' slot next :: ts) := by
  obtain ⟨hblock, -⟩ := h.of_mem_node List.mem_cons_self
  have hsound := (h.tidy.proper X b hblock).1.sound
  unfold reshape
  rw [hshaped]
  simp only [Yields, ends_bind]
  change Ends (List.forM _ _) (ws.put X b₁) _ _
  refine yields_forM_detach _ (fun s hs => ?_) (yields_forM_detach _ (fun s hs => ?_) ?_)
  · simp only [List.mem_filter, Bool.not_eq_true', List.contains_eq_mem, decide_eq_false_iff_not,
      hvalues] at hs
    exact no_edges_of_empty h (hsound.own_values s hs.1)
      (by_contra fun hne => hs.2 ((hused s hne).1 hs.1))
  · simp only [List.mem_filter, Bool.not_eq_true', List.contains_eq_mem, decide_eq_false_iff_not,
      hstatements] at hs
    exact no_edges_of_empty h (hsound.own_statements s hs.1)
      (by_contra fun hne => hs.2 ((hused s hne).2 hs.1))
  · have hput : (ws.put X b₁).put X b' = ws.put X b' := by
      simp only [put]
      rw [putEntry_putEntry _ _ (has_iff_mem_ids.mp (has_of_block? hblock))]
    change Grove ws₀ ((ws.put X b₁).put X b') _
    rw [hput]
    exact h.put htype hproper (fun s hs => (hused s hs).1) fun s hs => (hused s hs).2

/-- A count is set on a block whose slots in use stay. -/
lemma yields_setCount (h : Grove ws₀ ws (.node X b slot next :: ts)) (hcount : b.type.isCount name)
    (n : ℕ)
    (hstays : ∀ shape, b.type.shapeFor (b.writeField name (.int n)).fields = .ok shape →
      name ∈ (b.type.fields ++ shape.fields).map (·.1))
    (hused : ∀ b', b.Assigned name (.int n) b' → ∀ s, slot s ≠ .nothing →
      (s ∈ b.values → s ∈ b'.values) ∧ (s ∈ b.statements → s ∈ b'.statements)) :
    Yields (setField X name (.int n)) ws fun _ ws' =>
      ∃ b', b.Assigned name (.int n) b' ∧ Grove ws₀ ws' (.node X b' slot next :: ts) := by
  have hd : (b.type.sortOf name).Admits (.int n) := by
    rw [BlockType.sortOf, if_pos hcount]
    exact ⟨n, rfl⟩
  refine yields_setField_of h hd (fun hdone => ?_) fun {ws₁} b₁ hb₁ h₁ => ?_
  · have hnonneg : ¬ (n : ℤ) < 0 := by omega
    rw [fieldValue, if_pos hcount, countValue, if_neg hnonneg]
    exact hdone
  · rcases hb₁ with rfl | ⟨hstring, -⟩
    · obtain ⟨hblock, -⟩ := h₁.of_mem_node List.mem_cons_self
      have hproper := (h₁.tidy.proper X b₁ hblock).1
      obtain ⟨b', hshaped, hb'⟩ := Block.exists_assigned_reshape hproper hcount hd hstays
      simp only [updateShaped, update, Yields, ends_bind, ends_modify]
      rw [show (b₁.writeField name (Datum.int n)).type = b₁.type from rfl, hcount, if_pos rfl]
      refine (yields_reshape h₁ hshaped rfl rfl hb'.type hb'.proper (hused b' hb')).mono ?_
      exact fun _ ws' hgrove => ⟨b', hb', hgrove⟩
    · rw [hstring] at hcount
      simp [BlockType.isCount, BlockType.countFields] at hcount

end Fields

/-! ## Connections -/

section Connections

variable {X Y L : BlockId} {b c : Block} {slot kids : String → BlockTree} {next after T : BlockTree}
  {s : String}

/-- The check against cycles passes if the new holder is not under the child. -/
lemma yields_refuseCycle {done : Unit → Workspace → Prop} (hw : ws.Forest) (hX : ws.has X)
    (hfree : ¬ ws.Below X Y) (hdone : done () ws) : Yields (refuseCycle Y X) ws done := by
  unfold refuseCycle
  rw [Yields, ends_bind, ends_get]
  refine yields_refuseIf ?_ hdone
  simpa [hw.mem_upward_iff hX] using hfree

/-- Nothing is connected to the ports by which a loose block would be held. -/
lemma no_edges_of_loose (h : ws.parent? Y = none) :
    ws.incoming Y "previous" = [] ∧ ws.outgoing Y "output" = [] := by
  unfold parent? at h
  cases hin : ws.incoming Y "previous" with
  | cons e rest => simp [hin] at h
  | nil =>
    simp only [hin, List.head?_nil, Option.map_eq_none_iff, List.head?_eq_none_iff] at h
    exact ⟨rfl, h⟩

/-- A loose value is plugged into a free slot. -/
lemma yields_connectValue (h₀ : ws₀.Forest)
    (h : Grove ws₀ ws (.node X b slot next :: .node Y c kids after :: ts)) (hs : s ∈ b.values)
    (hempty : slot s = .nothing) (hexpr : c.isExpression) :
    Yields (connectValue X s Y) ws fun _ ws' => Grove ws₀ ws'
      (.node X b (Function.update slot s (.node Y c kids after)) next :: ts) := by
  have hw := h.tidy.forest
  obtain ⟨hX, -⟩ := h.of_mem_node List.mem_cons_self
  obtain ⟨hY, -, -, -, hloose⟩ := h.of_mem_node (List.mem_cons_of_mem _ List.mem_cons_self)
  have hown := (hw.sound X b hX).own_values s hs
  have hvalue : b.hasValueSlot s = true := by simpa [Block.hasValueSlot] using hs
  have hin := (no_edges_of_empty h hown hempty).1
  have hout := (no_edges_of_loose hloose).2
  unfold connectValue
  rw [Yields, ends_bind]
  refine yields_require hX ?_
  rw [ends_bind]
  refine yields_require hY ?_
  rw [ends_bind]
  refine yields_refuseIf (by simp [hvalue]) ?_
  rw [ends_bind]
  refine yields_refuseIf (by simp [hexpr]) ?_
  rw [ends_bind]
  refine yields_refuseCycle hw (has_of_block? hX) (h.not_below rfl rfl .refl) ?_
  simp only [dropEdges, addEdge, ends_bind, ends_modify, ends_pure]
  rw [hout]
  change Yields _ ((ws.drop (ws.incoming X s)).connect _) _
  rw [hin]
  refine yields_fire h.tidy.muted ?_
  exact Grove.fillSlot (e := .ofValue Y X s) h₀ h rfl hown hempty ⟨c, b, hY, hX, rfl, hexpr, hvalue⟩

/-- A loose statement goes to a free place. -/
lemma yields_connectStatement_of {done : Edge → Workspace → Prop} (h : ws.Tidy)
    (hX : ws.block? X = some b) (hY : ws.block? Y = some c) (hs : b.hasStatementSlot s)
    (hstmt : c.isStatement) (hfree : ¬ ws.Below X Y) (hloose : ws.parent? Y = none)
    (hempty : ws.held? X s = none) (hout : ws.outgoing X s = [])
    (hdone : done (.ofStatement X s Y) (ws.connect (.ofStatement X s Y))) :
    Yields (connectStatement X s Y) ws done := by
  have hin := (no_edges_of_loose hloose).1
  unfold connectStatement
  rw [Yields, ends_bind]
  refine yields_require hX ?_
  rw [ends_bind]
  refine yields_require hY ?_
  rw [ends_bind]
  refine yields_refuseIf (by simp [hs]) ?_
  rw [ends_bind]
  refine yields_refuseIf (by simp [hstmt]) ?_
  rw [ends_bind]
  refine yields_refuseCycle h.forest (has_of_block? hX) hfree ?_
  simp only [dropEdges, addEdge, ends_bind, ends_modify, ends_get, ends_pure]
  rw [hin]
  change Ends (List.forM (ws.held? X s).toList _) ((ws.drop (ws.outgoing X s)).connect _) _ _
  rw [hempty, hout]
  exact yields_fire h.muted hdone

/-- A loose chain goes into a free slot. -/
lemma yields_connectStatement (h₀ : ws₀.Forest)
    (h : Grove ws₀ ws (.node X b slot next :: .node Y c kids after :: ts)) (hs : s ∈ b.statements)
    (hempty : slot s = .nothing) (hstmt : c.isStatement) :
    Yields (connectStatement X s Y) ws fun _ ws' => Grove ws₀ ws'
      (.node X b (Function.update slot s (.node Y c kids after)) next :: ts) := by
  obtain ⟨hX, -⟩ := h.of_mem_node List.mem_cons_self
  obtain ⟨hY, -, -, -, hloose⟩ := h.of_mem_node (List.mem_cons_of_mem _ List.mem_cons_self)
  have hown := (h.tidy.forest.sound X b hX).own_statements s hs
  have hslot : b.hasStatementSlot s = true := by simp [Block.hasStatementSlot, hs]
  exact yields_connectStatement_of h.tidy hX hY hslot hstmt (h.not_below rfl rfl .refl) hloose
    (h.held?_eq_none List.mem_cons_self hown hempty) (no_edges_of_empty h hown hempty).2
    (Grove.fillSlot (e := .ofStatement X s Y) h₀ h rfl hown hempty ⟨b, c, hX, hY, hslot, rfl, hstmt⟩)

/-- Nothing is connected to the end of a statement that nothing follows. -/
lemma no_edges_of_last (hw : ws.Forest) (h : ws.next? L = none) :
    ws.held? L "next" = none ∧ ws.outgoing L "next" = [] := by
  have hout : ws.outgoing L "next" = [] := by simpa [next?] using h
  refine ⟨?_, hout⟩
  have hin : (ws.incoming L "next").head? = none := by
    rw [Option.eq_none_iff_forall_ne_some]
    intro e he
    obtain ⟨hmem, hstop⟩ := hw.head?_incoming_iff.mp he
    have hport : e.targetPort = "next" := (Port.mk.inj hstop).2
    cases hk : e.kind with
    | value =>
      have hown := (hw.value_cases hmem hk).2.1
      simp [hport, isOwnPort] at hown
    | statement =>
      rw [(hw.statement_cases hmem hk).1] at hport
      exact absurd hport (by decide)
  simp [held?, hin, hout]

/-- A loose statement goes after the last one of a chain. -/
lemma yields_connectNext (h₀ : ws₀.Forest) (h : Grove ws₀ ws (T :: .node Y c kids after :: ts))
    (hT : T.IsChain) (hlast : T.last? = some L) (hstmt : c.isStatement) :
    Yields (connectNext L Y) ws fun _ ws' =>
      Grove ws₀ ws' (T.append (.node Y c kids after) :: ts) := by
  have hw := h.tidy.forest
  obtain ⟨r, hr⟩ : ∃ r, T.root? = some r := by
    rw [← Option.ne_none_iff_exists', Ne, BlockTree.root?_eq_none]
    rintro rfl
    cases hlast
  have htree : ws.tree (some r) = T := by rw [← hr, h.trees T List.mem_cons_self]
  obtain ⟨b, hb, hbstmt, hnext⟩ := hw.last_of_isChain (htree ▸ hT) (htree ▸ hlast)
  obtain ⟨hY, -, -, -, hloose⟩ := h.of_mem_node (List.mem_cons_of_mem _ List.mem_cons_self)
  have hslot : b.hasStatementSlot "next" = true := by simp [Block.hasStatementSlot, hbstmt]
  obtain ⟨hheld, hout⟩ := no_edges_of_last hw hnext
  have hbelow : ws.Below L r := hw.below_of_last? (htree ▸ hlast)
  exact yields_connectStatement_of h.tidy hb hY hslot hstmt (h.not_below hr rfl hbelow) hloose hheld
    hout (Grove.appendChain (e := .ofStatement L "next" Y) h₀ h rfl hlast rfl
      ⟨b, c, hb, hY, hslot, rfl, hstmt⟩ hnext)

/-- A loose statement goes after the last one in a slot. -/
lemma yields_connectNext_inSlot (h₀ : ws₀.Forest)
    (h : Grove ws₀ ws (.node X b slot next :: .node Y c kids after :: ts))
    (hs : s ∈ b.statements) (hchain : (slot s).IsChain) (hlast : (slot s).last? = some L)
    (hstmt : c.isStatement) :
    Yields (connectNext L Y) ws fun _ ws' => Grove ws₀ ws'
      (.node X b (Function.update slot s ((slot s).append (.node Y c kids after))) next :: ts) := by
  have hw := h.tidy.forest
  obtain ⟨hX, hslots, -⟩ := h.of_mem_node List.mem_cons_self
  have hown := (hw.sound X b hX).own_statements s hs
  have htree := hslots s hown
  obtain ⟨first, hfirst⟩ : ∃ y, ws.held? X s = some y := by
    rw [← Option.ne_none_iff_exists']
    intro hnone
    rw [htree, hnone, Forest.tree_none] at hlast
    cases hlast
  rw [hfirst] at htree
  obtain ⟨p, hp, hpstmt, hnext⟩ := hw.last_of_isChain (htree ▸ hchain) (htree ▸ hlast)
  obtain ⟨hY, -, -, -, hloose⟩ := h.of_mem_node (List.mem_cons_of_mem _ List.mem_cons_self)
  have hslot : p.hasStatementSlot "next" = true := by simp [Block.hasStatementSlot, hpstmt]
  obtain ⟨hheld, hout⟩ := no_edges_of_last hw hnext
  have hbelow : ws.Below L X :=
    (hw.below_of_last? (htree ▸ hlast)).tail (hw.under_of_held? hown hfirst)
  exact yields_connectStatement_of h.tidy hp hY hslot hstmt (h.not_below rfl rfl hbelow) hloose hheld
    hout (Grove.appendInSlot (e := .ofStatement L "next" Y) h₀ h rfl hown hlast rfl
      ⟨p, c, hp, hY, hslot, rfl, hstmt⟩ hnext)

end Connections

end Edit

end BlockText

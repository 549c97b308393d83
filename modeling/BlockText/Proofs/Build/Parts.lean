import BlockText.Proofs.Build.Expressions

/-!
# Blocks of expressions with counted parts

Comparisons, parameters, keyword arguments, entries of dictionaries, clauses of comprehensions and
parts of formatted strings are set and plugged in by loops over their indexes.
-/

namespace BlockText.Edit

open Syntax Workspace Compile

variable {i : Info}

/-- The slots of counted parts are there and empty. -/
lemma ready_of_shape {ws₀ ws : Workspace} {X : BlockId} {b : Block} {slot : String → BlockTree}
    {t : BlockType} {values : List String} {shape : BlockShape} {n : ℕ}
    (h : Opened ws₀ ws X b slot) (ht : b.type = t) (hshape : t.shapeFor b.fields = .ok shape)
    (hvalues : ∀ stem ∈ values, ∀ s ∈ indexed stem n, s ∈ shape.values)
    (hempty : ∀ stem ∈ values, ∀ j : ℕ, slot s!"{stem}{j}" = .nothing) :
    ∀ j < n, Ready t values [] j b slot := fun j hj =>
  { type := ht
    value := fun stem hstem =>
      ⟨mem_counted h ht hshape (hvalues stem hstem _ (mem_indexed hj)), hempty stem hstem j⟩
    body := fun _ h => by cases h }

/-! ## Comparisons -/

/-- The field and the slot of an index show an operator and a right side. -/
def ShowsComparison (b : Block) (slot : String → BlockTree) (j : ℕ) (x : CompareOp × Expr) : Prop :=
  b.field? s!"OP{j}" = some (spelled x.1) ∧ Reads (slot s!"CMP{j}") x.2

private lemma yields_comparison {ws₀ ws : Workspace} {X : BlockId} {b : Block}
    {slot : String → BlockTree} {x : CompareOp × Expr} {j : ℕ} (h₀ : ws₀.Forest)
    (h : Opened ws₀ ws X b slot) (hready : Ready .compare ["CMP"] [] j b slot)
    (hx : BuildsExpr x.2) :
    Yields (do
      setField X s!"OP{j}" (spelled x.1)
      plug X s!"CMP{j}" (← exprBlock x.2)) ws fun _ ws' => ∃ b' slot', Opened ws₀ ws' X b' slot' ∧
        ShowsComparison b' slot' j x ∧ Keeps (fun s => ¬ Owns ["CMP", "OP"] j s) b slot b' slot' := by
  obtain ⟨hmem, hempty⟩ := hready.value "CMP" (by decide)
  refine yields_setText h (isText_text _) (by rw [hready.type]; decide) (by decide)
    fun b₁ ws₁ hop k₁ h₁ => ?_
  refine (yields_plugged h₀ h₁ hx (fun _ h => h.1) (k₁.values _ hmem) hempty).mono ?_
  rintro _ ws₂ ⟨slot₂, hx', k₂, h₂⟩
  exact ⟨b₁, slot₂, h₂, ⟨hop, hx'.2⟩, (k₁.of_owned (by decide)).trans (k₂.of_owned (by decide))⟩

/-- Operators are set and right sides plugged in one by one. -/
private lemma yields_plugComparisons {α : Type} {done : α → Workspace → Prop} {ws₀ ws : Workspace}
    {X : BlockId} {b : Block} {slot : String → BlockTree} {items : List (CompareOp × Expr)}
    {f : Edit α} (h₀ : ws₀.Forest) (h : Opened ws₀ ws X b slot)
    (hitems : ∀ x ∈ items, BuildsExpr x.2)
    (hready : ∀ j < items.length, Ready .compare ["CMP"] [] j b slot)
    (hf : ∀ b' slot' ws', (∀ j (hj : j < items.length), ShowsComparison b' slot' j items[j]) →
      Keeps (fun s => ∀ j, ¬ Owns ["CMP", "OP"] j s) b slot b' slot' →
      Opened ws₀ ws' X b' slot' → Yields f ws' done) :
    Yields (do plugComparisons X 0 (items.map Prod.fst) (items.map Prod.snd); f) ws done := by
  refine yields_each (fun j xs => plugComparisons X j (xs.map Prod.fst) (xs.map Prod.snd))
    (fun j x => do
      setField X s!"OP{j}" (spelled x.1)
      plug X s!"CMP{j}" (← exprBlock x.2))
    (fun j x b slot => ShowsComparison b slot j x) (fun j => by simp) (fun j x rest => by simp)
    (by decide) (by decide) (by decide) ?_
    (fun x hx j ws b slot hopen hready => yields_comparison h₀ hopen hready (hitems x hx)) h hready hf
  rintro j x b slot b' slot' hkeep ⟨hop, hreads⟩
  refine ⟨hkeep.field _ _ ⟨"OP", by decide, rfl⟩ hop, ?_⟩
  rwa [hkeep.slot _ ⟨"CMP", by decide, rfl⟩]

lemma builds_compare {l : Expr} {ops : List CompareOp} {es : List Expr}
    (hlength : ops.length = es.length) (hl : BuildsExpr l) (hes : ∀ e ∈ es, BuildsExpr e) :
    BuildsExpr (.compare l ops es i) := by
  intro ws hws
  obtain ⟨items, rfl, rfl⟩ : ∃ items : List (CompareOp × Expr),
      items.map Prod.fst = ops ∧ items.map Prod.snd = es :=
    ⟨ops.zip es, List.map_fst_zip (by omega), List.map_snd_zip (by omega)⟩
  rw [exprBlock, List.length_map]
  refine yields_newBlock hws (by decide) (by decide) (by simp)
    ((fitting_count rfl).cons fitting_nil) fun X b ws₁ h₁ ht _ hcount => ?_
  have hshape : BlockType.compare.shapeFor b.fields = .ok
      { values := indexed "CMP" items.length
        fields := (indexed "OP" items.length).map (·, "==") } := by
    simp [BlockType.shapeFor, countOf_of_entry hcount, bind, Except.bind, pure, Except.pure]
  refine yields_plug hws.forest h₁ hl (fun _ h => h.1) (mem_values h₁ ht (by decide)) rfl
    fun slot₂ ws₂ hl' k₂ h₂ => ?_
  refine yields_plugComparisons hws.forest h₂ (fun x hx => hes x.2 (List.mem_map_of_mem hx))
    (ready_of_shape h₂ ht hshape (by simp) fun stem _ j => ?_) fun b₃ slot₃ ws₃ hitems k₃ h₃ => ?_
  · rw [k₂.slot _ (indexed_ne (by decide) j)]
  refine yields_finish h₃ (k₃.type.trans ht) rfl (reads_compare (k₃.type.trans ht) hlength
    ?_ ?_ (fun j hj => ?_) fun j hj => ?_)
  · rw [List.length_map]
    exact k₃.field _ _ (not_owns_wordy (by decide)) hcount
  · rw [k₃.slot _ (not_owns_wordy (by decide))]
    exact hl'.2
  · simpa using (hitems j (by simpa using hj)).1
  · simpa using (hitems j (by simpa using hj)).2

/-! ## Parameters -/

/-- The stems of the fields and slots of parameters. -/
abbrev paramStems : List String := ["ANNOTATION", "DEFAULT", "PARAM", "PARAM_KIND"]

/-- The stems of the slots of parameters, with those of their types if `hints` is set. -/
abbrev paramSlotStems (hints : Bool) : List String :=
  if hints then ["ANNOTATION", "DEFAULT"] else ["DEFAULT"]

/-- The parts of a parameter can be built, and its type is there only if `hints` is set. -/
structure BuildsParam (hints : Bool) (p : Param Expr) : Prop where
  name : IsText p.name
  unhinted : hints = false → p.hint = none
  hint : ∀ e ∈ p.hint, BuildsExpr e
  preset : ∀ e ∈ p.preset, BuildsExpr e

/-- A parameter is shown by the names of its index. -/
lemma showsParam_of_keeps {on : String → Prop} {b b' : Block} {slot slot' : String → BlockTree}
    {hints : Bool} {p : Param Expr} {j : ℕ} (hkeep : Keeps on b slot b' slot')
    (hon : ∀ stem ∈ paramStems, on s!"{stem}{j}") (h : ShowsParam b slot hints j p) :
    ShowsParam b' slot' hints j p := by
  obtain ⟨hname, hkind, hhint, hpreset⟩ := h
  refine ⟨hkeep.field _ _ (hon "PARAM" (by decide)) hname,
    hkeep.field _ _ (hon "PARAM_KIND" (by decide)) hkind, ?_, ?_⟩
  · rwa [hkeep.slot _ (hon "ANNOTATION" (by decide))]
  · rwa [hkeep.slot _ (hon "DEFAULT" (by decide))]

private lemma yields_param {ws₀ ws : Workspace} {X : BlockId} {b : Block}
    {slot : String → BlockTree} {t : BlockType} {hints : Bool} {p : Param Expr} {j : ℕ}
    (h₀ : ws₀.Forest) (ht : t ≠ .string) (h : Opened ws₀ ws X b slot)
    (hready : Ready t (paramSlotStems hints) [] j b slot) (hp : BuildsParam hints p) :
    Yields (do
      setField X s!"PARAM{j}" p.name
      setField X s!"PARAM_KIND{j}" (spelled p.kind)
      if hints then plug X s!"ANNOTATION{j}" (← optionBlock p.hint)
      plug X s!"DEFAULT{j}" (← optionBlock p.preset)) ws fun _ ws' => ∃ b' slot',
        Opened ws₀ ws' X b' slot' ∧ ShowsParam b' slot' hints j p ∧
        Keeps (fun s => ¬ Owns paramStems j s) b slot b' slot' := by
  have hapart : s!"DEFAULT{j}" ≠ s!"ANNOTATION{j}" :=
    indexed_ne_of_stem (by decide) (by decide) (by decide)
  refine yields_setText h hp.name (by rw [hready.type]; exact ht) (by decide)
    fun b₁ ws₁ hname₁ k₁ h₁ => ?_
  refine yields_setText h₁ (isText_text _) (by rw [k₁.type, hready.type]; exact ht) (by decide)
    fun b₂ ws₂ hkind k₂ h₂ => ?_
  have hname₂ := k₂.field _ _ (indexed_ne_of_stem (by decide) (by decide) (by decide)) hname₁
  have k₁₂ : Keeps (fun s => ¬ Owns paramStems j s) b slot b₂ slot :=
    (k₁.of_owned (by decide)).trans (k₂.of_owned (by decide))
  cases hints with
  | false =>
    obtain ⟨hmem, hempty⟩ := hready.value "DEFAULT" (by decide)
    simp only [Bool.false_eq_true, if_false]
    refine (yields_plugged h₀ h₂ (builds_option hp.preset) (fun _ h => h.1)
      (k₁₂.values _ hmem) hempty).mono ?_
    rintro _ ws₃ ⟨slot₃, hpreset, k₃, h₃⟩
    exact ⟨b₂, slot₃, h₃, ⟨hname₂, hkind, hp.unhinted rfl, hpreset.2⟩,
      k₁₂.trans (k₃.of_owned (by decide))⟩
  | true =>
    obtain ⟨hmem, hempty⟩ := hready.value "DEFAULT" (by decide)
    obtain ⟨hmem', hempty'⟩ := hready.value "ANNOTATION" (by decide)
    simp only [if_true]
    refine yields_plug h₀ h₂ (builds_option hp.hint) (fun _ h => h.1)
      (k₁₂.values _ hmem') hempty' fun slot₃ ws₃ hhint k₃ h₃ => ?_
    refine (yields_plugged h₀ h₃ (builds_option hp.preset) (fun _ h => h.1)
      (k₁₂.values _ hmem) (by rw [k₃.slot _ hapart, hempty])).mono ?_
    rintro _ ws₄ ⟨slot₄, hpreset, k₄, h₄⟩
    refine ⟨b₂, slot₄, h₄, ⟨hname₂, hkind, ?_, hpreset.2⟩,
      (k₁₂.trans (k₃.of_owned (by decide))).trans (k₄.of_owned (by decide))⟩
    rw [if_pos rfl, k₄.slot _ hapart.symm]
    exact hhint.2

/-- Parameters are set and plugged in one by one. -/
lemma yields_plugParams {α : Type} {done : α → Workspace → Prop} {ws₀ ws : Workspace} {X : BlockId}
    {b : Block} {slot : String → BlockTree} {t : BlockType} {hints : Bool} {ps : List (Param Expr)}
    {f : Edit α} (h₀ : ws₀.Forest) (ht : t ≠ .string) (h : Opened ws₀ ws X b slot)
    (hps : ∀ p ∈ ps, BuildsParam hints p)
    (hready : ∀ j < ps.length, Ready t (paramSlotStems hints) [] j b slot)
    (hf : ∀ b' slot' ws', (∀ j (hj : j < ps.length), ShowsParam b' slot' hints j ps[j]) →
      Keeps (fun s => ∀ j, ¬ Owns paramStems j s) b slot b' slot' →
      Opened ws₀ ws' X b' slot' → Yields f ws' done) :
    Yields (do plugParams X hints 0 ps; f) ws done :=
  yields_each (plugParams X hints)
    (fun j p => do
      setField X s!"PARAM{j}" p.name
      setField X s!"PARAM_KIND{j}" (spelled p.kind)
      if hints then plug X s!"ANNOTATION{j}" (← optionBlock p.hint)
      plug X s!"DEFAULT{j}" (← optionBlock p.preset))
    (fun j p b slot => ShowsParam b slot hints j p) (fun j => by rw [plugParams])
    (fun j p rest => by cases hints <;> simp) (by decide) (by cases hints <;> decide) (by simp)
    (fun j p b slot b' slot' hkeep =>
      showsParam_of_keeps hkeep fun stem hstem => ⟨stem, hstem, rfl⟩)
    (fun p hp j ws b slot hopen hready => yields_param h₀ ht hopen hready (hps p hp)) h hready hf

lemma builds_lambda {ps : List (Param Expr)} {body : Expr} (hps : ∀ p ∈ ps, BuildsParam false p)
    (hbody : BuildsExpr body) : BuildsExpr (.lambda ps body i) := by
  intro ws hws
  rw [exprBlock]
  refine yields_newBlock hws (by decide) (by decide) (by simp)
    ((fitting_count rfl).cons fitting_nil) fun X b ws₁ h₁ ht _ hcount => ?_
  have hshape : BlockType.lambda.shapeFor b.fields = .ok
      { values := indexed "DEFAULT" ps.length, fields := paramFields ps.length } := by
    simp [BlockType.shapeFor, countOf_of_entry hcount, bind, Except.bind, pure, Except.pure]
  refine yields_plugParams hws.forest (by decide) h₁ hps
    (ready_of_shape h₁ ht hshape (by simp [paramSlotStems]) fun _ _ _ => rfl)
    fun b₂ slot₂ ws₂ hps' k₂ h₂ => ?_
  refine yields_plug hws.forest h₂ hbody (fun _ h => h.1)
    (k₂.values _ (mem_values h₁ ht (by decide)))
    (by rw [k₂.slot _ (not_owns_wordy (by decide))]) fun slot₃ ws₃ hbody' k₃ h₃ => ?_
  refine yields_finish h₃ (k₂.type.trans ht) rfl (reads_lambda (k₂.type.trans ht)
    (k₂.field _ _ (not_owns_wordy (by decide)) hcount) (fun j hj => ?_) hbody'.2)
  exact showsParam_of_keeps k₃ (fun stem _ => indexed_ne (by decide) j) (hps' j hj)

/-! ## Keyword arguments -/

/-- A name that may be missing is written as a text. -/
lemma isText_orElse {d : Datum} (h : IsOptionalName d) : IsText (d.orElse "") := by
  rcases h with rfl | ⟨ps, hps, rfl⟩
  · exact isText_text ""
  · exact ⟨ps, by simp [Datum.orElse, hps]⟩

/-- A keyword argument is shown by the names of its index. -/
private lemma showsKeyword_of_keeps {on : String → Prop} {b b' : Block}
    {slot slot' : String → BlockTree} {k : Keyword Expr} {j : ℕ} (hkeep : Keeps on b slot b' slot')
    (hon : ∀ stem ∈ ["KWARG", "KWARG_NAME"], on s!"{stem}{j}") (h : ShowsKeyword b slot j k) :
    ShowsKeyword b' slot' j k := by
  obtain ⟨hopt, hname, hvalue⟩ := h
  refine ⟨hopt, hkeep.field _ _ (hon "KWARG_NAME" (by decide)) hname, ?_⟩
  rwa [hkeep.slot _ (hon "KWARG" (by decide))]

private lemma yields_keyword {ws₀ ws : Workspace} {X : BlockId} {b : Block}
    {slot : String → BlockTree} {k : Keyword Expr} {j : ℕ} (h₀ : ws₀.Forest)
    (h : Opened ws₀ ws X b slot) (hready : Ready .call ["KWARG"] [] j b slot)
    (hname : IsOptionalName k.name) (hvalue : BuildsExpr k.value) :
    Yields (do
      setField X s!"KWARG_NAME{j}" (k.name.orElse "")
      plug X s!"KWARG{j}" (← exprBlock k.value)) ws fun _ ws' => ∃ b' slot',
        Opened ws₀ ws' X b' slot' ∧ ShowsKeyword b' slot' j k ∧
        Keeps (fun s => ¬ Owns ["KWARG", "KWARG_NAME"] j s) b slot b' slot' := by
  obtain ⟨hmem, hempty⟩ := hready.value "KWARG" (by decide)
  refine yields_setText h (isText_orElse hname) (by rw [hready.type]; decide) (by decide)
    fun b₁ ws₁ hname₁ k₁ h₁ => ?_
  refine (yields_plugged h₀ h₁ hvalue (fun _ h => h.1) (k₁.values _ hmem) hempty).mono ?_
  rintro _ ws₂ ⟨slot₂, hvalue', k₂, h₂⟩
  exact ⟨b₁, slot₂, h₂, ⟨hname, hname₁, hvalue'.2⟩,
    (k₁.of_owned (by decide)).trans (k₂.of_owned (by decide))⟩

/-- Keyword arguments are set and plugged in one by one. -/
private lemma yields_plugKeywords {α : Type} {done : α → Workspace → Prop} {ws₀ ws : Workspace}
    {X : BlockId} {b : Block} {slot : String → BlockTree} {ks : List (Keyword Expr)} {f : Edit α}
    (h₀ : ws₀.Forest) (h : Opened ws₀ ws X b slot)
    (hks : ∀ k ∈ ks, IsOptionalName k.name ∧ BuildsExpr k.value)
    (hready : ∀ j < ks.length, Ready .call ["KWARG"] [] j b slot)
    (hf : ∀ b' slot' ws', (∀ j (hj : j < ks.length), ShowsKeyword b' slot' j ks[j]) →
      Keeps (fun s => ∀ j, ¬ Owns ["KWARG", "KWARG_NAME"] j s) b slot b' slot' →
      Opened ws₀ ws' X b' slot' → Yields f ws' done) :
    Yields (do plugKeywords X 0 ks; f) ws done :=
  yields_each (plugKeywords X)
    (fun j k => do
      setField X s!"KWARG_NAME{j}" (k.name.orElse "")
      plug X s!"KWARG{j}" (← exprBlock k.value))
    (fun j k b slot => ShowsKeyword b slot j k) (fun j => by rw [plugKeywords])
    (fun j k rest => by simp) (by decide) (by decide) (by decide)
    (fun j k b slot b' slot' hkeep =>
      showsKeyword_of_keeps hkeep fun stem hstem => ⟨stem, hstem, rfl⟩)
    (fun k hk j ws b slot hopen hready =>
      yields_keyword h₀ hopen hready (hks k hk).1 (hks k hk).2) h hready hf

/-- A call without a block of its own. -/
lemma builds_plainCall {f : Expr} {args : List Expr} {ks : List (Keyword Expr)}
    (hplain : BuiltinCall.match? f args.length (!ks.isEmpty) false = none) (hf : BuildsExpr f)
    (hargs : ∀ e ∈ args, BuildsExpr e) (hks : ∀ k ∈ ks, IsOptionalName k.name ∧ BuildsExpr k.value) :
    BuildsExpr (.call f args ks i) := by
  intro ws hws
  rw [exprBlock, hplain]
  refine yields_newBlock hws (by decide) (by decide) (by simp)
    ((fitting_count rfl).cons ((fitting_count rfl).cons fitting_nil)) fun X b ws₁ h₁ ht _ hfs => ?_
  obtain ⟨hcount, hkcount⟩ := hfs
  have hshape : BlockType.call.shapeFor b.fields = .ok
      { values := indexed "ARG" args.length ++ indexed "KWARG" ks.length
        fields := (indexed "KWARG_NAME" ks.length).map (·, "") } := by
    simp [BlockType.shapeFor, countOf_of_entry hcount, countOf_of_entry hkcount, bind, Except.bind,
      pure, Except.pure]
  refine yields_plug hws.forest h₁ hf (fun _ h => h.1) (mem_values h₁ ht (by decide)) rfl
    fun slot₂ ws₂ hf' k₂ h₂ => ?_
  refine yields_plugAll hws.forest h₂ hargs
    (fun j hj => mem_counted h₂ ht hshape (List.mem_append_left _ (mem_indexed hj)))
    (fun j _ => by rw [k₂.slot _ (indexed_ne (by decide) j)]) fun b₃ slot₃ ws₃ hargs' k₃ h₃ => ?_
  have hwordy : ∀ {name : String}, Wordy name → ∀ j : ℕ, name ≠ s!"ARG{j}" :=
    fun hname j => (indexed_ne hname j).symm
  have hkwarg : ∀ k j : ℕ, s!"KWARG{k}" ≠ s!"ARG{j}" := fun k j =>
    indexed_ne_of_stem (by decide) (by decide) (by decide)
  refine yields_plugKeywords hws.forest h₃ hks (fun j hj => ⟨k₃.type.trans ht, ?_, by simp⟩)
    fun b₄ slot₄ ws₄ hks' k₄ h₄ => ?_
  · intro stem hstem
    obtain rfl := List.mem_singleton.mp hstem
    refine ⟨k₃.values _ (mem_counted h₂ ht hshape (List.mem_append_right _ (mem_indexed hj))), ?_⟩
    rw [k₃.slot _ (hkwarg j), k₂.slot _ (indexed_ne (by decide) j)]
  have hfields : ∀ {name : String} {d : Datum}, Wordy name → b.field? name = some d →
      b₄.field? name = some d := fun hname hd =>
    k₄.field _ _ (not_owns_wordy hname) (k₃.field _ _ (hwordy hname) hd)
  refine yields_finish h₄ ((k₄.type.trans k₃.type).trans ht) rfl (reads_call
    ((k₄.type.trans k₃.type).trans ht) (hfields (by decide) hcount) (hfields (by decide) hkcount)
    ?_ (fun j hj => ?_) hks')
  · rw [k₄.slot _ (not_owns_wordy (by decide)), k₃.slot _ (hwordy (by decide))]
    exact hf'.2
  · rw [k₄.slot _ fun k => not_owns_indexed (by decide) (by decide) (by decide) k j]
    exact hargs' j hj

/-! ## Entries of dictionaries -/

private lemma yields_entry {ws₀ ws : Workspace} {X : BlockId} {b : Block}
    {slot : String → BlockTree} {d : DictEntry Expr} {j : ℕ} (h₀ : ws₀.Forest)
    (h : Opened ws₀ ws X b slot) (hready : Ready .dict ["KEY", "VALUE"] [] j b slot)
    (hkey : ∀ e ∈ d.key, BuildsExpr e) (hvalue : BuildsExpr d.value) :
    Yields (do
      plug X s!"KEY{j}" (← optionBlock d.key)
      plug X s!"VALUE{j}" (← exprBlock d.value)) ws fun _ ws' => ∃ b' slot',
        Opened ws₀ ws' X b' slot' ∧ ShowsEntry slot' j d ∧
        Keeps (fun s => ¬ Owns ["KEY", "VALUE"] j s) b slot b' slot' := by
  obtain ⟨hmem, hempty⟩ := hready.value "KEY" (by decide)
  obtain ⟨hmem', hempty'⟩ := hready.value "VALUE" (by decide)
  have hne : s!"VALUE{j}" ≠ s!"KEY{j}" := indexed_ne_of_stem (by decide) (by decide) (by decide)
  refine yields_plug h₀ h (builds_option hkey) (fun _ h => h.1) hmem hempty
    fun slot₁ ws₁ hkey' k₁ h₁ => ?_
  refine (yields_plugged h₀ h₁ hvalue (fun _ h => h.1) hmem' (by rw [k₁.slot _ hne, hempty'])).mono ?_
  rintro _ ws₂ ⟨slot₂, hvalue', k₂, h₂⟩
  refine ⟨b, slot₂, h₂, ⟨?_, hvalue'.2⟩, (k₁.of_owned (by decide)).trans (k₂.of_owned (by decide))⟩
  rw [k₂.slot _ hne.symm]
  exact hkey'.2

lemma builds_dict {ds : List (DictEntry Expr)}
    (hds : ∀ d ∈ ds, (∀ e ∈ d.key, BuildsExpr e) ∧ BuildsExpr d.value) :
    BuildsExpr (.dict ds i) := by
  intro ws hws
  rw [exprBlock]
  refine yields_newBlock hws (by decide) (by decide) (by simp)
    ((fitting_count rfl).cons fitting_nil) fun X b ws₁ h₁ ht _ hcount => ?_
  have hshape : BlockType.dict.shapeFor b.fields = .ok
      { values := indexed "KEY" ds.length ++ indexed "VALUE" ds.length } := by
    simp [BlockType.shapeFor, countOf_of_entry hcount, bind, Except.bind, pure, Except.pure]
  have hready : ∀ j < ds.length, Ready .dict ["KEY", "VALUE"] [] j b noSlots :=
    ready_of_shape h₁ ht hshape (by simp +contextual) fun _ _ _ => rfl
  have hshows : ∀ (j : ℕ) (d : DictEntry Expr) {b : Block} {slot : String → BlockTree} {b' : Block}
      {slot' : String → BlockTree}, Keeps (Owns ["KEY", "VALUE"] j) b slot b' slot' →
      ShowsEntry slot j d → ShowsEntry slot' j d := by
    rintro j d b slot b' slot' hkeep ⟨hkey, hvalue⟩
    rw [ShowsEntry, hkeep.slot _ ⟨"KEY", by decide, rfl⟩, hkeep.slot _ ⟨"VALUE", by decide, rfl⟩]
    exact ⟨hkey, hvalue⟩
  refine yields_each (plugEntries X)
    (fun j d => do
      plug X s!"KEY{j}" (← optionBlock d.key)
      plug X s!"VALUE{j}" (← exprBlock d.value))
    (fun j d _ slot => ShowsEntry slot j d) (fun j => by rw [plugEntries])
    (fun j d rest => by simp) (by decide) (by decide) (by decide) hshows
    (fun d hd j ws b slot hopen hready =>
      yields_entry hws.forest hopen hready (hds d hd).1 (hds d hd).2) h₁ hready
    fun b₂ slot₂ ws₂ hds' k₂ h₂ => ?_
  exact yields_finish h₂ (k₂.type.trans ht) rfl (reads_dict (k₂.type.trans ht)
    (k₂.field _ _ (not_owns_wordy (by decide)) hcount) hds')

/-! ## Parts of formatted strings -/

/-- The stems of the fields and slots of parts of formatted strings. -/
abbrev formatStems : List String :=
  ["PART", "PART_KIND", "PART_TEXT", "CONVERSION", "FORMAT_SPEC"]

/-- A part is shown by the names of its index. -/
private lemma showsPart_of_keeps {b b' : Block} {slot slot' : String → BlockTree}
    {p : FormatPart Expr} {j : ℕ} (hkeep : Keeps (Owns formatStems j) b slot b' slot')
    (h : ShowsPart b slot j p) : ShowsPart b' slot' j p := by
  have hon : ∀ stem ∈ formatStems, Owns formatStems j s!"{stem}{j}" :=
    fun stem hstem => ⟨stem, hstem, rfl⟩
  obtain ⟨hkind, htext, hconversion, hspec, hexpr, hsane⟩ := h
  refine ⟨hkeep.field _ _ (hon "PART_KIND" (by decide)) hkind,
    hkeep.field _ _ (hon "PART_TEXT" (by decide)) htext,
    hkeep.field _ _ (hon "CONVERSION" (by decide)) hconversion,
    hkeep.field _ _ (hon "FORMAT_SPEC" (by decide)) hspec, ?_, hsane⟩
  rwa [hkeep.slot _ (hon "PART" (by decide))]

private lemma yields_part {ws₀ ws : Workspace} {X : BlockId} {b : Block}
    {slot : String → BlockTree} {p : FormatPart Expr} {j : ℕ} (h₀ : ws₀.Forest)
    (h : Opened ws₀ ws X b slot) (hready : Ready .fstring ["PART"] [] j b slot)
    (hsane : p.Sane) (hexpr : ∀ e ∈ p.expr, BuildsExpr e) :
    Yields (do
      setField X s!"PART_KIND{j}" (spelled p.kind)
      setField X s!"PART_TEXT{j}" p.text
      setField X s!"CONVERSION{j}" p.conversion
      setField X s!"FORMAT_SPEC{j}" p.formatSpec
      plug X s!"PART{j}" (← optionBlock p.expr)) ws fun _ ws' => ∃ b' slot',
        Opened ws₀ ws' X b' slot' ∧ ShowsPart b' slot' j p ∧
        Keeps (fun s => ¬ Owns formatStems j s) b slot b' slot' := by
  obtain ⟨htext, hconversion, hspec, hkind⟩ := hsane
  obtain ⟨hmem, hempty⟩ := hready.value "PART" (by decide)
  refine yields_setText h (isText_text _) (by rw [hready.type]; decide) (by decide)
    fun b₁ ws₁ hkind₁ k₁ h₁ => ?_
  refine yields_setText h₁ htext (by rw [k₁.type, hready.type]; decide) (by decide)
    fun b₂ ws₂ htext₂ k₂ h₂ => ?_
  refine yields_setText h₂ hconversion (by rw [k₂.type, k₁.type, hready.type]; decide) (by decide)
    fun b₃ ws₃ hconversion₃ k₃ h₃ => ?_
  refine yields_setText h₃ hspec (by rw [k₃.type, k₂.type, k₁.type, hready.type]; decide) (by decide)
    fun b₄ ws₄ hspec₄ k₄ h₄ => ?_
  have hkeep : Keeps (fun s => ¬ Owns formatStems j s) b slot b₄ slot :=
    (((k₁.of_owned (by decide)).trans (k₂.of_owned (by decide))).trans
      (k₃.of_owned (by decide))).trans (k₄.of_owned (by decide))
  refine (yields_plugged h₀ h₄ (builds_option hexpr) (fun _ h => h.1) (hkeep.values _ hmem)
    hempty).mono ?_
  rintro _ ws₅ ⟨slot₅, hexpr', k₅, h₅⟩
  have htext₃ := k₃.field _ _ (indexed_ne_of_stem (by decide) (by decide) (by decide)) htext₂
  have hkind₂ := k₂.field _ _ (indexed_ne_of_stem (by decide) (by decide) (by decide)) hkind₁
  have hkind₃ := k₃.field _ _ (indexed_ne_of_stem (by decide) (by decide) (by decide)) hkind₂
  refine ⟨b₄, slot₅, h₅, ⟨?_, ?_, ?_, hspec₄, hexpr'.2, hkind⟩,
    hkeep.trans (k₅.of_owned (by decide))⟩
  · exact k₄.field _ _ (indexed_ne_of_stem (by decide) (by decide) (by decide)) hkind₃
  · exact k₄.field _ _ (indexed_ne_of_stem (by decide) (by decide) (by decide)) htext₃
  · exact k₄.field _ _ (indexed_ne_of_stem (by decide) (by decide) (by decide)) hconversion₃

lemma builds_fstring {ps : List (FormatPart Expr)} {quote : Datum} (hquote : IsText quote)
    (hps : ∀ p ∈ ps, p.Sane ∧ ∀ e ∈ p.expr, BuildsExpr e) :
    BuildsExpr (.fstring ps quote i) := by
  obtain ⟨quote, rfl⟩ := hquote
  intro ws hws
  rw [exprBlock]
  refine yields_newBlock hws (by decide) (by decide) (by simp)
    ((fitting_text ⟨_, rfl⟩ rfl).cons ((fitting_count rfl).cons fitting_nil))
    fun X b ws₁ h₁ ht _ hfs => ?_
  obtain ⟨hquote, hcount⟩ := hfs
  have hshape : BlockType.fstring.shapeFor b.fields = .ok
      { values := indexed "PART" ps.length
        fields := (List.range ps.length).flatMap fun i =>
          [(s!"PART_KIND{i}", "literal"), (s!"PART_TEXT{i}", ""), (s!"CONVERSION{i}", ""),
           (s!"FORMAT_SPEC{i}", "")] } := by
    simp [BlockType.shapeFor, countOf_of_entry hcount, bind, Except.bind, pure, Except.pure]
  have hready : ∀ j < ps.length, Ready .fstring ["PART"] [] j b noSlots :=
    ready_of_shape h₁ ht hshape (by simp) fun _ _ _ => rfl
  refine yields_each (plugParts X)
    (fun j p => do
      setField X s!"PART_KIND{j}" (spelled p.kind)
      setField X s!"PART_TEXT{j}" p.text
      setField X s!"CONVERSION{j}" p.conversion
      setField X s!"FORMAT_SPEC{j}" p.formatSpec
      plug X s!"PART{j}" (← optionBlock p.expr))
    (fun j p b slot => ShowsPart b slot j p) (fun j => by rw [plugParts])
    (fun j p rest => by simp) (by decide) (by decide) (by decide)
    (fun j p b slot b' slot' => showsPart_of_keeps)
    (fun p hp j ws b slot hopen hready =>
      yields_part hws.forest hopen hready (hps p hp).1 (hps p hp).2) h₁ hready
    fun b₂ slot₂ ws₂ hps' k₂ h₂ => ?_
  exact yields_finish h₂ (k₂.type.trans ht) rfl (reads_fstring (k₂.type.trans ht)
    (k₂.field _ _ (not_owns_wordy (by decide)) hquote)
    (k₂.field _ _ (not_owns_wordy (by decide)) hcount) hps')

end BlockText.Edit

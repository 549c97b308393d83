import BlockText.Proofs.Compile.Expressions
import BlockText.Proofs.Workspace.Growing
import BlockText.Workspace.Build

/-!
# Building one block

A block is made with its fixed fields and counts, and then its parts are set and plugged in one by
one.  Each such step leaves everything else about the block as it was; `Keeps` says so.  Parts that
come in numbers are set by a loop over their indexes, and a step for one index leaves the other
indexes alone.
-/

namespace BlockText.Edit

open Syntax Workspace Compile

attribute [simp] exprBlock optionBlock plugAll plugInto plugComparisons plugParams plugKeywords
  plugEntries plugClauses plugParts

variable {α : Type} {ws₀ ws : Workspace} {X : BlockId} {b b' b'' : Block}
  {slot slot' slot'' : String → BlockTree} {done : α → Workspace → Prop}

/-! ## Trees that are built -/

/-- The tree can be plugged into a slot: there is nothing, or an expression. -/
def IsValue : BlockTree → Prop
  | .nothing => True
  | .node _ b _ _ => b.isExpression

/-- The edit builds a tree with a property and returns its root. -/
def Builds (x : Edit (Option BlockId)) (good : BlockTree → Prop) : Prop :=
  ∀ ws, ws.Tidy → Yields x ws fun o ws' => ∃ t, o = t.root? ∧ Grove ws ws' [t] ∧ good t

/-- A tree that shows an expression and can be plugged in. -/
def Shows (e : Expr) (t : BlockTree) : Prop := IsValue t ∧ Reads t e

/-- A tree that shows an optional expression and can be plugged in. -/
def ShowsOption (e : Option Expr) (t : BlockTree) : Prop := IsValue t ∧ ReadsOption t e

/-- Building an optional expression comes down to building an expression. -/
lemma builds_option {o : Option Expr} (h : ∀ e ∈ o, Builds (exprBlock e) (Shows e)) :
    Builds (optionBlock o) (ShowsOption o) := by
  cases o with
  | none =>
    intro ws hws
    rw [optionBlock]
    exact ⟨.nothing, rfl, Grove.nothing_iff.mpr (.refl hws), trivial, rfl⟩
  | some e =>
    rw [optionBlock]
    exact h e rfl

/-! ## What a step leaves alone -/

/-- The block and its slots still have what they had under the given names. -/
structure Keeps (on : String → Prop) (b : Block) (slot : String → BlockTree) (b' : Block)
    (slot' : String → BlockTree) : Prop where
  type : b'.type = b.type
  values : ∀ s ∈ b.values, s ∈ b'.values
  statements : ∀ s ∈ b.statements, s ∈ b'.statements
  field : ∀ name d, on name → b.field? name = some d → b'.field? name = some d
  slot : ∀ s, on s → slot' s = slot s

/-- A block keeps what it is. -/
lemma Keeps.refl (on : String → Prop) (b : Block) (slot : String → BlockTree) :
    Keeps on b slot b slot :=
  ⟨rfl, fun _ h => h, fun _ h => h, fun _ _ _ h => h, fun _ _ => rfl⟩

/-- Keeping more is keeping less. -/
lemma Keeps.mono {on on' : String → Prop} (h : Keeps on b slot b' slot')
    (himp : ∀ s, on' s → on s) : Keeps on' b slot b' slot' :=
  ⟨h.type, h.values, h.statements, fun name d hn => h.field name d (himp name hn),
    fun s hs => h.slot s (himp s hs)⟩

/-- What is kept in two steps is kept. -/
lemma Keeps.trans {on : String → Prop} (h : Keeps on b slot b' slot')
    (h' : Keeps on b' slot' b'' slot'') : Keeps on b slot b'' slot'' :=
  ⟨h'.type.trans h.type, fun s hs => h'.values s (h.values s hs),
    fun s hs => h'.statements s (h.statements s hs),
    fun name d hn hd => h'.field name d hn (h.field name d hn hd),
    fun s hs => (h'.slot s hs).trans (h.slot s hs)⟩

/-- Filling a slot changes that slot only. -/
lemma keeps_update (b : Block) (slot : String → BlockTree) (s : String) (t : BlockTree) :
    Keeps (· ≠ s) b slot b (Function.update slot s t) :=
  ⟨rfl, fun _ h => h, fun _ h => h, fun _ _ _ h => h, fun _ hs => Function.update_of_ne hs _ _⟩

/-- Setting a field that counts nothing changes that field only. -/
lemma keeps_of_assigned {name : String} {d : Datum} (h : b.Assigned name d b')
    (hstring : b.type ≠ .string) (hcount : b.type.isCount name = false) :
    Keeps (· ≠ name) b slot b' slot where
  type := h.type
  values s hs := by rwa [(h.slots hcount).1]
  statements s hs := by rwa [(h.slots hcount).2]
  field other d' hne hd' := h.others other d' hne hd' (fun heq => absurd heq hstring) fun hc => by
    rw [hcount] at hc
    cases hc
  slot _ _ := rfl

/-! ## Steps -/

/-- A block that is being built. -/
abbrev Opened (ws₀ ws : Workspace) (X : BlockId) (b : Block) (slot : String → BlockTree) : Prop :=
  Grove ws₀ ws [.node X b slot .nothing]

/-- A block that is being built is proper. -/
lemma proper_of_opened (h : Opened ws₀ ws X b slot) : b.Proper :=
  (h.tidy.proper X b (h.of_mem_node List.mem_cons_self).1).1

/-- What an edit builds is plugged in. -/
lemma yields_plugged {x : Edit (Option BlockId)} {good : BlockTree → Prop} {s : String}
    (h₀ : ws₀.Forest) (h : Opened ws₀ ws X b slot) (hx : Builds x good)
    (hvalue : ∀ t, good t → IsValue t) (hs : s ∈ b.values) (hempty : slot s = .nothing) :
    Yields (do plug X s (← x)) ws fun _ ws' => ∃ slot', good (slot' s) ∧
      Keeps (· ≠ s) b slot b slot' ∧ Opened ws₀ ws' X b slot' := by
  refine Yields.bind (hx ws h.tidy) ?_
  rintro _ ws₁ ⟨t, rfl, h₁, ht⟩
  have hboth : Grove ws₀ ws₁ [.node X b slot .nothing, t] := h.trans h₁
  have hfill : Yields (plug X s t.root?) ws₁ fun _ ws' =>
      Opened ws₀ ws' X b (Function.update slot s t) := by
    cases t with
    | nothing =>
      rw [Function.update_eq_self_iff.mpr hempty.symm]
      exact Grove.nothing_iff.mp (hboth.perm (List.Perm.swap _ _ _))
    | node Y c kids after =>
      refine Yields.bind (yields_connectValue h₀ hboth hs hempty (hvalue _ ht)) ?_
      exact fun _ ws' hgrove => hgrove
  refine hfill.mono fun _ ws' hgrove => ⟨_, ?_, keeps_update b slot s t, hgrove⟩
  rwa [Function.update_self]

/-- Plugs in what an edit builds and goes on. -/
lemma yields_plug {x : Edit (Option BlockId)} {good : BlockTree → Prop} {f : Edit α} {s : String}
    (h₀ : ws₀.Forest) (h : Opened ws₀ ws X b slot) (hx : Builds x good)
    (hvalue : ∀ t, good t → IsValue t) (hs : s ∈ b.values) (hempty : slot s = .nothing)
    (hf : ∀ slot' ws', good (slot' s) → Keeps (· ≠ s) b slot b slot' →
      Opened ws₀ ws' X b slot' → Yields f ws' done) :
    Yields (do plug X s (← x); f) ws done := by
  rw [← bind_assoc]
  refine Yields.bind (yields_plugged h₀ h hx hvalue hs hempty) ?_
  rintro _ ws' ⟨slot', hgood, hkeep, hgrove⟩
  exact hf slot' ws' hgood hkeep hgrove

/-- Sets a field that counts nothing. -/
lemma yields_set {name : String} {d : Datum} {f : Edit α} (h : Opened ws₀ ws X b slot)
    (hstring : b.type ≠ .string) (hcount : b.type.isCount name = false)
    (hd : (b.type.sortOf name).Admits d)
    (hf : ∀ b' ws', b'.field? name = some d → Keeps (· ≠ name) b slot b' slot →
      Opened ws₀ ws' X b' slot → Yields f ws' done) :
    Yields (do setField X name d; f) ws done := by
  refine Yields.bind (yields_setField h hcount hd) ?_
  rintro _ ws' ⟨b', hb', hgrove⟩
  exact hf b' ws' hb'.field (keeps_of_assigned hb' hstring hcount) hgrove

/-! ## New blocks -/

/-- The datum can be set in a field of every block of the type. -/
def Fitting (t : BlockType) (f : String × Datum) : Prop :=
  f.1 ∈ t.fields.map (·.1) ∧ (t.sortOf f.1).Admits f.2

/-- Blocks of the type have a field of the sort. -/
def takes (t : BlockType) (name : String) (sort : FieldSort) : Bool :=
  t.fields.any (·.1 == name) && t.sortOf name == sort

section Fitting

variable {t : BlockType} {name : String}

/-- A field that a type takes is one of its fields and of the sort it takes. -/
private lemma of_takes {sort : FieldSort} (h : takes t name sort = true) :
    name ∈ t.fields.map (·.1) ∧ t.sortOf name = sort := by
  simp only [takes, Bool.and_eq_true, beq_iff_eq, List.any_eq_true] at h
  obtain ⟨⟨f, hf, rfl⟩, hsort⟩ := h
  exact ⟨List.mem_map_of_mem hf, hsort⟩

/-- A text fits a field of words. -/
lemma fitting_text {d : Datum} (hd : IsText d) (h : takes t name .words = true) :
    Fitting t (name, d) := by
  obtain ⟨hmem, hsort⟩ := of_takes h
  exact ⟨hmem, by rw [hsort]; exact hd⟩

/-- A truth fits a flag. -/
lemma fitting_bool {v : Bool} (h : takes t name .flag = true) : Fitting t (name, .bool v) := by
  obtain ⟨hmem, hsort⟩ := of_takes h
  exact ⟨hmem, by rw [hsort]; exact ⟨v, rfl⟩⟩

/-- A number fits a count. -/
lemma fitting_count {n : ℕ} (h : takes t name .count = true) : Fitting t (name, count n) := by
  obtain ⟨hmem, hsort⟩ := of_takes h
  exact ⟨hmem, by rw [hsort]; exact ⟨n, rfl⟩⟩

lemma fitting_nil : ∀ f ∈ ([] : List (String × Datum)), Fitting t f := by simp

/-- Fields fit when the first and the others do. -/
lemma Fitting.cons {f : String × Datum} {fs : List (String × Datum)} (h : Fitting t f)
    (hfs : ∀ g ∈ fs, Fitting t g) : ∀ g ∈ f :: fs, Fitting t g := by
  intro g hg
  rcases List.mem_cons.mp hg with rfl | hg
  · exact h
  · exact hfs g hg

end Fitting

/-- The slots of a new block. -/
abbrev noSlots : String → BlockTree := fun _ => .nothing

/-- One field of a new block is set; the other fields of its type stay. -/
lemma yields_setFitting {f : String × Datum} (h : Opened ws₀ ws X b noSlots)
    (hstring : b.type ≠ .string) (hf : Fitting b.type f) :
    Yields (setField X f.1 f.2) ws fun _ ws' => ∃ b', Opened ws₀ ws' X b' noSlots ∧
      b'.type = b.type ∧ (b.Fresh → b'.Fresh) ∧ b'.field? f.1 = some f.2 ∧
      ∀ other d, other ∈ b.type.fields.map (·.1) → other ≠ f.1 → b.field? other = some d →
        b'.field? other = some d := by
  have hassign : Yields (setField X f.1 f.2) ws fun _ ws' =>
      ∃ b', b.Assigned f.1 f.2 b' ∧ Opened ws₀ ws' X b' noSlots := by
    cases hcount : b.type.isCount f.1 with
    | false => exact yields_setField h hcount hf.2
    | true =>
      obtain ⟨n, hn⟩ : ∃ n : ℕ, f.2 = .int n := by
        have hsort := hf.2
        rwa [BlockType.sortOf, if_pos hcount] at hsort
      rw [hn]
      refine yields_setCount h hcount n (fun shape _ => ?_) fun _ _ s hs => absurd rfl hs
      rw [List.map_append]
      exact List.mem_append_left _ hf.1
  refine hassign.mono ?_
  rintro _ ws' ⟨b', hb', hgrove⟩
  refine ⟨b', hgrove, hb'.type, fun hfresh => hb'.fresh hfresh hstring hf.1, hb'.field,
    fun other d hother hne hd => hb'.others other d hne hd (fun heq => absurd heq hstring) ?_⟩
  intro _
  obtain ⟨shape, hshape, -⟩ := hb'.proper.shaped
  exact ⟨shape, hshape, by rw [List.map_append]; exact List.mem_append_left _ hother⟩

/-- The fields of a new block are set one after another. -/
lemma yields_setFittings {fs : List (String × Datum)} (h : Opened ws₀ ws X b noSlots)
    (hstring : b.type ≠ .string) (hnodup : (fs.map (·.1)).Nodup)
    (hfs : ∀ f ∈ fs, Fitting b.type f) :
    Yields (fs.forM fun (name, value) => setField X name value) ws fun _ ws' => ∃ b',
      Opened ws₀ ws' X b' noSlots ∧ b'.type = b.type ∧ (b.Fresh → b'.Fresh) ∧
      (∀ f ∈ fs, b'.field? f.1 = some f.2) ∧
      ∀ other d, other ∈ b.type.fields.map (·.1) → other ∉ fs.map (·.1) →
        b.field? other = some d → b'.field? other = some d := by
  induction fs generalizing b ws with
  | nil => exact ⟨b, h, rfl, fun h => h, by simp, fun _ _ _ _ h => h⟩
  | cons f rest ih =>
    rw [List.map_cons, List.nodup_cons] at hnodup
    change Yields (setField X f.1 f.2 >>= fun _ => rest.forM _) ws _
    refine Yields.bind (yields_setFitting h hstring (hfs f List.mem_cons_self)) ?_
    rintro _ ws₁ ⟨b₁, h₁, htype, hfresh, hfield, hothers⟩
    refine (ih h₁ (htype ▸ hstring) hnodup.2 fun g hg => ?_).mono ?_
    · rw [htype]
      exact hfs g (List.mem_cons_of_mem _ hg)
    rintro _ ws' ⟨b', h', htype', hfresh', hfields, hothers'⟩
    rw [htype] at hothers'
    refine ⟨b', h', htype'.trans htype, fun hf => hfresh' (hfresh hf), fun g hg => ?_,
      fun other d hother hnot hd => ?_⟩
    · rcases List.mem_cons.mp hg with rfl | hg
      · exact hothers' _ _ (hfs g List.mem_cons_self).1 hnodup.1 hfield
      · exact hfields g hg
    · rw [List.map_cons, List.mem_cons, not_or] at hnot
      exact hothers' other d hother hnot.2 (hothers other d hother hnot.1 hd)

/-- A new block has the fields that it is made with. -/
lemma yields_newBlock {t : BlockType} {fs : List (String × Datum)} {f : BlockId → Edit α}
    (h : ws.Tidy) (hsync : t ≠ .syncError) (hstring : t ≠ .string) (hnodup : (fs.map (·.1)).Nodup)
    (hfs : ∀ f ∈ fs, Fitting t f)
    (hf : ∀ X b ws', Opened ws ws' X b noSlots → b.type = t → b.Fresh →
      fs.Forall (fun f => b.field? f.1 = some f.2) → Yields (f X) ws' done) :
    Yields (newBlock t fs >>= f) ws done := by
  obtain ⟨-, htype, hfresh⟩ := Block.proper_ofType t
  unfold newBlock
  rw [bind_assoc]
  refine Yields.bind (yields_create h hsync {}) fun X ws₁ h₁ => ?_
  rw [bind_assoc]
  refine Yields.bind (yields_setFittings h₁ (by rw [htype]; exact hstring) hnodup
    (by rw [htype]; exact hfs)) ?_
  rintro _ ws' ⟨b, hb, hbtype, hbfresh, hfields, -⟩
  exact hf X b ws' hb (hbtype.trans htype) (hbfresh hfresh)
    (List.forall_iff_forall_mem.mpr hfields)

/-- The slots that every block of the type has. -/
lemma mem_values (h : Opened ws₀ ws X b slot) {t : BlockType} (ht : b.type = t) {s : String}
    (hs : s ∈ t.valueSlots) : s ∈ b.values := by
  obtain ⟨shape, -, hshape⟩ := (proper_of_opened h).shaped
  rw [hshape.values, ht]
  exact List.mem_append_left _ hs

/-- The slots that the counts of the block ask for. -/
lemma mem_counted (h : Opened ws₀ ws X b slot) {t : BlockType} (ht : b.type = t)
    {shape : BlockShape} (hshape : t.shapeFor b.fields = .ok shape) {s : String}
    (hs : s ∈ shape.values) : s ∈ b.values := by
  obtain ⟨shape', hshape', hhas⟩ := (proper_of_opened h).shaped
  rw [ht, hshape] at hshape'
  obtain rfl := Except.ok.inj hshape'
  rw [hhas.values]
  exact List.mem_append_right _ hs

/-- A block of an expression type with the right parts is done. -/
lemma yields_finish {t : BlockType} {e : Expr} (h : Opened ws₀ ws X b slot) (ht : b.type = t)
    (hkind : t.kind = .expression) (hreads : Reads (.node X b slot .nothing) e) :
    Yields (pure (some X)) ws fun o ws' => ∃ t, o = t.root? ∧ Grove ws₀ ws' [t] ∧ Shows e t := by
  refine ⟨.node X b slot .nothing, rfl, h, ?_, hreads⟩
  simp [IsValue, Block.isExpression, Block.kind, ht, hkind]

/-- Sets a field that holds a text and has an index. -/
lemma yields_setText {stem : String} {d : Datum} {j : ℕ} {f : Edit α} (h : Opened ws₀ ws X b slot)
    (hd : IsText d) (hstring : b.type ≠ .string)
    (hstem : ∀ p ∈ BlockType.specialNames, Diverge stem p)
    (hf : ∀ b' ws', b'.field? s!"{stem}{j}" = some d →
      Keeps (· ≠ s!"{stem}{j}") b slot b' slot → Opened ws₀ ws' X b' slot → Yields f ws' done) :
    Yields (do setField X s!"{stem}{j}" d; f) ws done := by
  have hsort : b.type.sortOf s!"{stem}{j}" = .words :=
    BlockType.sortOf_of_diverge (prefix_append_text stem (toString j)) hstem
  have hcount : b.type.isCount s!"{stem}{j}" = false := by
    rw [Bool.eq_false_iff]
    intro hcount
    rw [BlockType.sortOf, if_pos hcount] at hsort
    cases hsort
  exact yields_set h hstring hcount (by rw [hsort]; exact hd) hf

/-! ## Loops -/

/-- The name has the index and one of the stems. -/
def Owns (stems : List String) (j : ℕ) (s : String) : Prop := ∃ stem ∈ stems, s = s!"{stem}{j}"

/-- A name has one index. -/
lemma Owns.index_eq {stems : List String} (hwordy : ∀ stem ∈ stems, Wordy stem) {j k : ℕ}
    {s : String} (hj : Owns stems j s) (hk : Owns stems k s) : j = k := by
  obtain ⟨stem, hmem, rfl⟩ := hj
  obtain ⟨stem', hmem', heq⟩ := hk
  exact ((indexed_inj (hwordy stem hmem) (hwordy stem' hmem')).mp heq).2

/-- Names without an index belong to no index. -/
lemma not_owns_wordy {stems : List String} {s : String} (hs : Wordy s) (j : ℕ) :
    ¬ Owns stems j s := by
  rintro ⟨stem, -, rfl⟩
  exact indexed_ne hs j rfl

/-- Names with another stem belong to no index. -/
lemma not_owns_indexed {stems : List String} (hwordy : ∀ stem ∈ stems, Wordy stem) {stem : String}
    (hstem : Wordy stem) (hnot : stem ∉ stems) (j k : ℕ) : ¬ Owns stems j s!"{stem}{k}" := by
  rintro ⟨stem', hmem, heq⟩
  exact hnot (((indexed_inj hstem (hwordy stem' hmem)).mp heq).1 ▸ hmem)

/-- A step for one name of an index leaves the names of all other indexes alone. -/
lemma Keeps.of_owned {stems : List String} {stem : String} {j : ℕ} (hmem : stem ∈ stems)
    (h : Keeps (· ≠ s!"{stem}{j}") b slot b' slot') :
    Keeps (fun s => ¬ Owns stems j s) b slot b' slot' := by
  refine h.mono fun s hs heq => hs ⟨stem, hmem, heq⟩

/-- A loop over indexes shows every item in the end: a step shows its item, leaves alone what other
indexes need and show, and keeps an invariant. -/
lemma yields_loop {β : Type} (inv : Block → (String → BlockTree) → Prop)
    (ready : ℕ → Block → (String → BlockTree) → Prop)
    (shows : ℕ → β → Block → (String → BlockTree) → Prop)
    (step : ℕ → β → Edit Unit) {loop : ℕ → List β → Edit Unit} {items : List β} {index : ℕ}
    (hnil : ∀ i, loop i [] = pure ())
    (hcons : ∀ i x rest, loop i (x :: rest) = step i x >>= fun _ => loop (i + 1) rest)
    (hstep : ∀ x ∈ items, ∀ i ≥ index, ∀ ws b slot, Opened ws₀ ws X b slot → inv b slot →
      ready i b slot → Yields (step i x) ws fun _ ws' => ∃ b' slot', Opened ws₀ ws' X b' slot' ∧
        inv b' slot' ∧ shows i x b' slot' ∧
        ∀ j ≠ i, (ready j b slot → ready j b' slot') ∧ ∀ y, shows j y b slot → shows j y b' slot')
    (h : Opened ws₀ ws X b slot) (hinv : inv b slot)
    (hall : ∀ j < items.length, ready (index + j) b slot) :
    Yields (loop index items) ws fun _ ws' => ∃ b' slot', Opened ws₀ ws' X b' slot' ∧
      inv b' slot' ∧ ∀ j (hj : j < items.length), shows (index + j) items[j] b' slot' := by
  induction items generalizing index ws b slot inv with
  | nil =>
    rw [hnil]
    exact ⟨b, slot, h, hinv, by simp⟩
  | cons x rest ih =>
    rw [hcons]
    refine Yields.bind (hstep x List.mem_cons_self index le_rfl ws b slot h hinv
      (hall 0 (by simp))) ?_
    rintro _ ws₁ ⟨b₁, slot₁, h₁, hinv₁, hx, hothers⟩
    have hrest : ∀ j < rest.length, ready (index + 1 + j) b₁ slot₁ := by
      intro j hj
      refine (hothers _ (by omega)).1 ?_
      have := hall (j + 1) (by simpa using hj)
      rwa [show index + (j + 1) = index + 1 + j by omega] at this
    -- That the first item is shown is an invariant of the steps for the others.
    refine (ih (fun b slot => inv b slot ∧ shows index x b slot) ?_ h₁ ⟨hinv₁, hx⟩ hrest).mono ?_
    · intro y hy i hi ws b slot hopen hboth hready
      refine (hstep y (List.mem_cons_of_mem x hy) i (by omega) ws b slot hopen hboth.1 hready).mono ?_
      rintro _ ws' ⟨b', slot', h', hinv', hy', hothers'⟩
      exact ⟨b', slot', h', ⟨hinv', (hothers' index (by omega)).2 x hboth.2⟩, hy', hothers'⟩
    · rintro _ ws' ⟨b', slot', h', ⟨hinv', hx'⟩, hitems⟩
      refine ⟨b', slot', h', hinv', fun j hj => ?_⟩
      cases j with
      | zero => exact hx'
      | succ j =>
        have := hitems j (by simpa using hj)
        rwa [show index + 1 + j = index + (j + 1) by omega] at this

/-- A loop whose steps touch nothing but the names of their index. -/
lemma yields_ownLoop {β : Type} (own : ℕ → String → Prop)
    (ready : ℕ → Block → (String → BlockTree) → Prop)
    (shows : ℕ → β → Block → (String → BlockTree) → Prop)
    {step : ℕ → β → Edit Unit} {loop : ℕ → List β → Edit Unit} {items : List β} {f : Edit α}
    (hnil : ∀ i, loop i [] = pure ())
    (hcons : ∀ i x rest, loop i (x :: rest) = step i x >>= fun _ => loop (i + 1) rest)
    (hapart : ∀ i j s, own i s → own j s → i = j)
    (hready : ∀ i {b slot b' slot'}, Keeps (own i) b slot b' slot' → ready i b slot →
      ready i b' slot')
    (hshows : ∀ i x {b slot b' slot'}, Keeps (own i) b slot b' slot' → shows i x b slot →
      shows i x b' slot')
    (hstep : ∀ x ∈ items, ∀ i ws b slot, Opened ws₀ ws X b slot → ready i b slot →
      Yields (step i x) ws fun _ ws' => ∃ b' slot', Opened ws₀ ws' X b' slot' ∧
        shows i x b' slot' ∧ Keeps (fun s => ¬ own i s) b slot b' slot')
    (h : Opened ws₀ ws X b slot) (hall : ∀ j < items.length, ready j b slot)
    (hf : ∀ b' slot' ws', (∀ j (hj : j < items.length), shows j items[j] b' slot') →
      Keeps (fun s => ∀ j, ¬ own j s) b slot b' slot' →
      Opened ws₀ ws' X b' slot' → Yields f ws' done) :
    Yields (do loop 0 items; f) ws done := by
  refine Yields.bind (yields_loop (Keeps (fun s => ∀ j, ¬ own j s) b slot) ready shows step hnil
    hcons ?_ h (.refl _ _ _) (fun j hj => by rw [Nat.zero_add]; exact hall j hj)) ?_
  · intro x hx i _ ws₁ b₁ slot₁ h₁ hinv hready₁
    refine (hstep x hx i ws₁ b₁ slot₁ h₁ hready₁).mono ?_
    rintro _ ws₂ ⟨b₂, slot₂, h₂, hx₂, hkeep⟩
    refine ⟨b₂, slot₂, h₂, hinv.trans (hkeep.mono fun s hs => hs i), hx₂, fun j hj => ?_⟩
    have hother : Keeps (own j) b₁ slot₁ b₂ slot₂ :=
      hkeep.mono fun s hs hs' => hj (hapart j i s hs hs')
    exact ⟨hready j hother, fun y => hshows j y hother⟩
  · rintro _ ws' ⟨b', slot', h', hkeep, hitems⟩
    refine hf b' slot' ws' (fun j hj => ?_) hkeep h'
    have := hitems j hj
    rwa [Nat.zero_add] at this

/-- The block has the slots of an index, and they are empty. -/
structure Ready (t : BlockType) (values bodies : List String) (j : ℕ) (b : Block)
    (slot : String → BlockTree) : Prop where
  type : b.type = t
  value : ∀ stem ∈ values, s!"{stem}{j}" ∈ b.values ∧ slot s!"{stem}{j}" = .nothing
  body : ∀ stem ∈ bodies, s!"{stem}{j}" ∈ b.statements ∧ slot s!"{stem}{j}" = .nothing

/-- A row stays ready while its own plugs are kept. -/
lemma Ready.keep {t : BlockType} {stems values bodies : List String} (hvalues : values ⊆ stems)
    (hbodies : bodies ⊆ stems) {j : ℕ} (hkeep : Keeps (Owns stems j) b slot b' slot')
    (h : Ready t values bodies j b slot) : Ready t values bodies j b' slot' where
  type := hkeep.type.trans h.type
  value stem hstem := ⟨hkeep.values _ (h.value stem hstem).1, by
    rw [hkeep.slot _ ⟨stem, hvalues hstem, rfl⟩, (h.value stem hstem).2]⟩
  body stem hstem := ⟨hkeep.statements _ (h.body stem hstem).1, by
    rw [hkeep.slot _ ⟨stem, hbodies hstem, rfl⟩, (h.body stem hstem).2]⟩

/-- A loop from the first index on whose steps fill the slots and set the fields of their index. -/
lemma yields_each {β : Type} {t : BlockType} {stems values bodies : List String}
    (loop : ℕ → List β → Edit Unit) (step : ℕ → β → Edit Unit)
    (shows : ℕ → β → Block → (String → BlockTree) → Prop) {items : List β} {f : Edit α}
    (hnil : ∀ i, loop i [] = pure ())
    (hcons : ∀ i x rest, loop i (x :: rest) = step i x >>= fun _ => loop (i + 1) rest)
    (hwordy : ∀ stem ∈ stems, Wordy stem) (hvalues : values ⊆ stems) (hbodies : bodies ⊆ stems)
    (hshows : ∀ i x {b slot b' slot'}, Keeps (Owns stems i) b slot b' slot' →
      shows i x b slot → shows i x b' slot')
    (hstep : ∀ x ∈ items, ∀ i ws b slot, Opened ws₀ ws X b slot → Ready t values bodies i b slot →
      Yields (step i x) ws fun _ ws' => ∃ b' slot', Opened ws₀ ws' X b' slot' ∧
        shows i x b' slot' ∧ Keeps (fun s => ¬ Owns stems i s) b slot b' slot')
    (h : Opened ws₀ ws X b slot) (hall : ∀ j < items.length, Ready t values bodies j b slot)
    (hf : ∀ b' slot' ws', (∀ j (hj : j < items.length), shows j items[j] b' slot') →
      Keeps (fun s => ∀ j, ¬ Owns stems j s) b slot b' slot' →
      Opened ws₀ ws' X b' slot' → Yields f ws' done) :
    Yields (do loop 0 items; f) ws done :=
  yields_ownLoop (Owns stems) (Ready t values bodies) shows hnil hcons
    (fun _ _ _ => Owns.index_eq hwordy) (fun _ => Ready.keep hvalues hbodies) hshows hstep h hall hf

end BlockText.Edit

import BlockText.Proofs.Workspace.Collecting
import BlockText.Proofs.Workspace.Heeding
import BlockText.Proofs.Workspace.Shaping

/-!
# Names that can be listed

A field may hold any datum, so the name of a variable or a function need not be a text. The declared
names are collected in a table, which takes nothing that has parts, and are then sorted, which needs
an order between any two of them. Only two texts or two numbers are in order. So the names can be
listed exactly if those that are not empty are all texts or all numbers, for variables and functions
each, and an event that reports a change is delivered exactly then.
-/

namespace BlockText

variable {α β γ : Type}

/-! ## Sorting and collecting by kind -/

section Kinds

variable {less : α → α → Except Fault Bool} {kind : α → β}

lemma insertSorted_perm {a : α} {xs ys : List α} (h : insertSorted less a xs = .ok ys) :
    ys.Perm (a :: xs) := by
  induction xs generalizing ys with
  | nil =>
    obtain rfl := Except.ok.inj h
    exact .refl _
  | cons b rest ih =>
    rw [insertSorted] at h
    cases hless : less a b with
    | error e => simp [hless, bind, Except.bind] at h
    | ok before =>
      rw [hless] at h
      cases before with
      | true =>
        obtain rfl := Except.ok.inj h
        exact .refl _
      | false =>
        cases hrest : insertSorted less a rest with
        | error e => simp [hrest, bind, Except.bind] at h
        | ok zs =>
          rw [hrest] at h
          obtain rfl := Except.ok.inj h
          exact ((ih hrest).cons b).trans (List.Perm.swap a b rest)

lemma sorted_perm {xs ys : List α} (h : sorted less xs = .ok ys) : ys.Perm xs := by
  induction xs generalizing ys with
  | nil =>
    obtain rfl := Except.ok.inj h
    exact .refl _
  | cons a rest ih =>
    rw [sorted] at h
    cases hrest : sorted less rest with
    | error e => simp [hrest, bind, Except.bind] at h
    | ok zs =>
      rw [hrest] at h
      exact (insertSorted_perm h).trans ((ih hrest).cons a)

variable (kind) in
/-- An item finds its place among items of one kind exactly if it is of that kind. -/
lemma exists_insertSorted_iff {a : α} {xs : List α}
    (hless : ∀ b ∈ xs, (∃ v, less a b = .ok v) ↔ kind a = kind b)
    (hsame : ∀ b ∈ xs, ∀ c ∈ xs, kind b = kind c) :
    (∃ ys, insertSorted less a xs = .ok ys) ↔ ∀ b ∈ xs, kind a = kind b := by
  induction xs with
  | nil => exact ⟨fun _ => List.forall_mem_nil _, fun _ => ⟨[a], rfl⟩⟩
  | cons b rest ih =>
    have hfirst := hless b List.mem_cons_self
    rw [insertSorted]
    cases hv : less a b with
    | error e =>
      have hne : kind a ≠ kind b := fun heq => by simpa [hv] using hfirst.mpr heq
      refine iff_of_false ?_ fun hall => hne (hall b List.mem_cons_self)
      rintro ⟨ys, hys⟩
      cases hys
    | ok before =>
      have heq : kind a = kind b := hfirst.mp ⟨before, hv⟩
      cases before with
      | true =>
        refine iff_of_true ⟨_, rfl⟩ fun c hc => ?_
        exact heq.trans (hsame b List.mem_cons_self c hc)
      | false =>
        have hrest := ih (fun c hc => hless c (List.mem_cons_of_mem b hc))
          fun c hc d hd => hsame c (List.mem_cons_of_mem b hc) d (List.mem_cons_of_mem b hd)
        rw [List.forall_mem_cons, and_iff_right heq, ← hrest]
        constructor
        · rintro ⟨ys, hys⟩
          cases hinsert : insertSorted less a rest with
          | error e => simp [hinsert, bind, Except.bind] at hys
          | ok zs => exact ⟨zs, rfl⟩
        · rintro ⟨zs, hzs⟩
          exact ⟨b :: zs, by rw [hzs]; rfl⟩

variable (kind) in
/-- If just the items of one kind are in order with each other, then a list can be sorted exactly if
all its items are of one kind. -/
lemma exists_sorted_iff {xs : List α}
    (hless : ∀ a ∈ xs, ∀ b ∈ xs, (∃ v, less a b = .ok v) ↔ kind a = kind b) :
    (∃ ys, sorted less xs = .ok ys) ↔ ∀ a ∈ xs, ∀ b ∈ xs, kind a = kind b := by
  induction xs with
  | nil => exact ⟨fun _ => List.forall_mem_nil _, fun _ => ⟨[], rfl⟩⟩
  | cons a rest ih =>
    have hrest := ih fun b hb c hc =>
      hless b (List.mem_cons_of_mem a hb) c (List.mem_cons_of_mem a hc)
    have hinsert : ∀ zs, sorted less rest = .ok zs →
        ((∃ ys, insertSorted less a zs = .ok ys) ↔ ∀ b ∈ rest, kind a = kind b) := by
      intro zs hzs
      have hperm := sorted_perm hzs
      have hsame := hrest.mp ⟨zs, hzs⟩
      rw [exists_insertSorted_iff kind
        (fun b hb => hless a List.mem_cons_self b (List.mem_cons_of_mem a (hperm.mem_iff.mp hb)))
        fun b hb c hc => hsame b (hperm.mem_iff.mp hb) c (hperm.mem_iff.mp hc)]
      simp only [hperm.mem_iff]
    rw [sorted]
    constructor
    · rintro ⟨ys, hys⟩
      cases hzs : sorted less rest with
      | error e => simp [hzs, bind, Except.bind] at hys
      | ok zs =>
        rw [hzs] at hys
        have hall := (hinsert zs hzs).mp ⟨ys, hys⟩
        have hsame := hrest.mp ⟨zs, hzs⟩
        exact List.forall_mem_cons.mpr ⟨List.forall_mem_cons.mpr ⟨rfl, hall⟩, fun b hb =>
          List.forall_mem_cons.mpr ⟨(hall b hb).symm, hsame b hb⟩⟩
    · intro hall
      obtain ⟨zs, hzs⟩ := hrest.mpr fun b hb c hc =>
        hall b (List.mem_cons_of_mem a hb) c (List.mem_cons_of_mem a hc)
      obtain ⟨ys, hys⟩ := (hinsert zs hzs).mpr fun b hb =>
        hall a List.mem_cons_self b (List.mem_cons_of_mem a hb)
      exact ⟨ys, by rw [hzs]; exact hys⟩

/-- A step of a collecting loop succeeds under a condition, keeps a property of what was found, and
adds items of some kinds. -/
structure Gathers (step : List α → γ → Except Fault (List α)) (kind : α → β) (P : α → Prop)
    (x : γ) (good : Prop) (adds : β → Prop) : Prop where
  ok_iff : ∀ found, (∃ found', step found x = .ok found') ↔ good
  holds : ∀ found found', step found x = .ok found' → (∀ a ∈ found, P a) → ∀ a ∈ found', P a
  kinds : ∀ found found', step found x = .ok found' → ∀ k,
    (∃ a ∈ found', kind a = k) ↔ (∃ a ∈ found, kind a = k) ∨ adds k

/-- A collecting loop succeeds if all its steps do, and then it has found items of all their
kinds. -/
lemma Gathers.foldlM {step : List α → γ → Except Fault (List α)} {P : α → Prop}
    {good : γ → Prop} {adds : γ → β → Prop} {items : List γ}
    (h : ∀ x ∈ items, Gathers step kind P x (good x) (adds x)) (found : List α) :
    ((∃ found', items.foldlM step found = .ok found') ↔ ∀ x ∈ items, good x) ∧
      ∀ found', items.foldlM step found = .ok found' →
        ((∀ a ∈ found, P a) → ∀ a ∈ found', P a) ∧
        ∀ k, (∃ a ∈ found', kind a = k) ↔ (∃ a ∈ found, kind a = k) ∨ ∃ x ∈ items, adds x k := by
  induction items generalizing found with
  | nil =>
    refine ⟨iff_of_true ⟨found, rfl⟩ (List.forall_mem_nil _), ?_⟩
    rintro _ ⟨⟩
    exact ⟨id, fun k => by simp⟩
  | cons x rest ih =>
    have hx := h x List.mem_cons_self
    have hrest := ih fun y hy => h y (List.mem_cons_of_mem x hy)
    rw [List.foldlM_cons, List.forall_mem_cons, ← hx.ok_iff found]
    cases hstep : step found x with
    | error e =>
      refine ⟨iff_of_false ?_ (by simp), ?_⟩
      · rintro ⟨found', hfound'⟩
        cases hfound'
      · rintro found' hfound'
        cases hfound'
    | ok found₁ =>
      have hlater := hrest found₁
      refine ⟨?_, fun found' hfound' => ?_⟩
      · rw [and_iff_right ⟨found₁, rfl⟩]
        exact hlater.1
      · obtain ⟨hholds, hkinds⟩ := hlater.2 found' hfound'
        refine ⟨fun hP => hholds (hx.holds found found₁ hstep hP), fun k => ?_⟩
        rw [hkinds, hx.kinds found found₁ hstep, List.exists_mem_cons_iff, or_assoc]

lemma forall_mem_insertNew {same : α → α → Bool} {a : α} {xs : List α} {P : α → Prop}
    (hxs : ∀ b ∈ xs, P b) (ha : P a) : ∀ b ∈ insertNew same a xs, P b := by
  intro b hb
  unfold insertNew at hb
  split at hb
  · exact hxs b hb
  · rcases List.mem_append.mp hb with hb | hb
    · exact hxs b hb
    · exact List.mem_singleton.mp hb ▸ ha

variable (kind) in
/-- An item that is added unless it is there adds its kind, if items that count as the same are of
the same kind. -/
lemma exists_insertNew_iff {same : α → α → Bool} {a : α}
    (hsame : ∀ b, same a b = true → kind a = kind b) (xs : List α) (k : β) :
    (∃ b ∈ insertNew same a xs, kind b = k) ↔ (∃ b ∈ xs, kind b = k) ∨ kind a = k := by
  unfold insertNew
  split
  case isTrue hany =>
    obtain ⟨b, hb, hab⟩ := List.any_eq_true.mp hany
    exact ⟨.inl, Or.rec id fun hk => ⟨b, hb, (hsame b hab).symm.trans hk⟩⟩
  case isFalse =>
    simp [List.mem_append, or_and_right, exists_or]

end Kinds

/-! ## Kinds of names -/

namespace Datum

/-- The datum is a text. -/
def isText (d : Datum) : Bool := d.points?.isSome

lemma isText_iff {d : Datum} : d.isText = true ↔ ∃ ps, d = .ofPoints ps := isSome_points?

/-- Equal data are of one kind. -/
lemma isText_eq_of_equiv {a b : Datum} (h : a.equiv b = true) : a.isText = b.isText := by
  cases a <;> cases b <;> first | rfl | simp [equiv, number?] at h

/-- A datum without parts that is not empty is a text or a number. -/
lemma isText_or_number {d : Datum} (htruthy : d.isTruthy = true) (hhash : d.isHashable = true) :
    d.isText = true ∨ d.number?.isSome := by
  cases d <;> simp_all [isText, points?, number?, isTruthy, isFalsy, isHashable]

/-- Two texts are in order, and two numbers. -/
lemma exists_precedes_iff {a b : Datum} (ha : a.isText = true ∨ a.number?.isSome)
    (hb : b.isText = true ∨ b.number?.isSome) :
    (∃ v, a.precedes b = .ok v) ↔ a.isText = b.isText := by
  cases a <;> cases b <;> simp_all [isText, points?, number?, precedes]

end Datum

/-- The names that are not empty are all texts, or all numbers. -/
def Listable (names : List Datum) : Prop :=
  (∀ d ∈ names, d.isTruthy → ∃ ps, d = .ofPoints ps) ∨ ∀ d ∈ names, d.isTruthy → d.number?.isSome

lemma listable_iff {names : List Datum} : Listable names ↔
    (∀ d ∈ names, d.isTruthy = true → d.isHashable = true) ∧
      ∀ j k, (∃ d ∈ names, d.isTruthy = true ∧ d.isText = j) →
        (∃ d ∈ names, d.isTruthy = true ∧ d.isText = k) → j = k := by
  constructor
  · rintro (htexts | hnumbers)
    · have hall : ∀ d ∈ names, d.isTruthy = true → d.isText = true := fun d hd ht =>
        Datum.isText_iff.mpr (htexts d hd ht)
      refine ⟨fun d hd ht => ?_, ?_⟩
      · obtain ⟨ps, rfl⟩ := htexts d hd ht
        exact Datum.isHashable_ofPoints ps
      · rintro _ _ ⟨d, hd, ht, rfl⟩ ⟨d', hd', ht', rfl⟩
        rw [hall d hd ht, hall d' hd' ht']
    · have hall : ∀ d ∈ names, d.isTruthy = true → d.isText = false ∧ d.isHashable = true := by
        intro d hd ht
        have hnumber := hnumbers d hd ht
        cases d <;> simp_all [Datum.number?, Datum.isText, Datum.points?, Datum.isHashable]
      refine ⟨fun d hd ht => (hall d hd ht).2, ?_⟩
      rintro _ _ ⟨d, hd, ht, rfl⟩ ⟨d', hd', ht', rfl⟩
      rw [(hall d hd ht).1, (hall d' hd' ht').1]
  · rintro ⟨hhash, hsame⟩
    by_cases htext : ∃ d ∈ names, d.isTruthy = true ∧ d.isText = true
    · exact .inl fun d hd ht => Datum.isText_iff.mp (hsame _ _ ⟨d, hd, ht, rfl⟩ htext)
    · refine .inr fun d hd ht => (Datum.isText_or_number ht (hhash d hd ht)).resolve_left ?_
      exact fun htrue => htext ⟨d, hd, ht, htrue⟩

/-! ## Declared names -/

/-- A name is declared unless it has parts. -/
private lemma gathers_declare (d : Datum) :
    Gathers declare Datum.isText (fun d => d.isTruthy = true ∧ d.isHashable = true) d
      (d.isTruthy = true → d.isHashable = true) fun k => d.isTruthy = true ∧ d.isText = k := by
  have hstep : ∀ names, declare names d = if d.isTruthy = true then
      if d.isHashable then .ok (insertNew Datum.equiv d names)
      else .error (.notHashable d.typeWord) else .ok names := by
    intro names
    unfold declare Datum.isTruthy
    cases d.isFalsy <;> simp
  by_cases ht : d.isTruthy = true
  · cases hh : d.isHashable with
    | false =>
      have herror : ∀ names found', declare names d ≠ .ok found' := by
        simp [hstep, ht, hh]
      exact ⟨fun names => iff_of_false (fun ⟨_, h⟩ => herror _ _ h) (by simp [ht]),
        fun _ _ h => absurd h (herror _ _), fun _ _ h => absurd h (herror _ _)⟩
    | true =>
      have hok : ∀ names, declare names d = .ok (insertNew Datum.equiv d names) := by
        simp [hstep, ht, hh]
      refine ⟨fun names => iff_of_true ⟨_, hok names⟩ fun _ => rfl, ?_, ?_⟩
      · rintro names found' h hP a ha
        obtain rfl := Except.ok.inj ((hok names).symm.trans h)
        exact forall_mem_insertNew hP ⟨ht, hh⟩ a ha
      · rintro names found' h k
        obtain rfl := Except.ok.inj ((hok names).symm.trans h)
        rw [exists_insertNew_iff Datum.isText fun b => Datum.isText_eq_of_equiv, and_iff_right ht]
  · have hok : ∀ names, declare names d = .ok names := by
      simp [hstep, ht]
    refine ⟨fun names => iff_of_true ⟨_, hok names⟩ fun h => absurd h ht, ?_, ?_⟩
    · rintro names found' h hP
      obtain rfl := Except.ok.inj ((hok names).symm.trans h)
      exact hP
    · rintro names found' h k
      obtain rfl := Except.ok.inj ((hok names).symm.trans h)
      simp [ht]

namespace Workspace

variable {ws : Workspace}

/-- The names of all variables that blocks declare, those of one block after those of another. -/
def namesOfVariables (ws : Workspace) : List Datum :=
  ws.blocks.flatMap fun entry => (ws.variablesOf entry.1 entry.2).toOption.getD []

/-- The names of all functions. -/
def namesOfFunctions (ws : Workspace) : List Datum :=
  (ws.blocks.filter fun entry => entry.2.type == .functionDef).map fun entry =>
    entry.2.field "name"

/-- The names that blocks declare can be listed. -/
structure Nameable (ws : Workspace) : Prop where
  ofVariables : Listable ws.namesOfVariables
  ofFunctions : Listable ws.namesOfFunctions

/-- The number of items of a measured block is a number. -/
private lemma exists_itemCount {b : Block} (h : b.Measured) (ht : b.type = .functionDef) :
    ∃ n, b.itemCount = .ok n := by
  have hitems : ("item_count" : String) ∈ b.type.fields.map (·.1) := by
    rw [ht]
    decide
  obtain ⟨d, hd⟩ := Option.isSome_iff_exists.mp (h.counted.complete _ hitems)
  obtain ⟨n, rfl⟩ := h.counted.counts "item_count" (by rw [ht]; decide) d hd
  exact ⟨n, by rw [Block.itemCount, hd]; rfl⟩

private lemma exists_variablesOf_measured (ws : Workspace) {b : Block} (h : b.Measured)
    (id : BlockId) : ∃ names, ws.variablesOf id b = .ok names := by
  unfold variablesOf
  split
  case h_5 ht =>
    obtain ⟨n, hn⟩ := exists_itemCount h ht
    rw [hn]
    exact ⟨_, rfl⟩
  all_goals exact ⟨_, rfl⟩

/-- Going over the blocks is going over the names that they declare. -/
private lemma foldlM_variablesOf (entries : List (BlockId × Block))
    (h : ∀ entry ∈ entries, ∃ names, ws.variablesOf entry.1 entry.2 = .ok names)
    (found : List Datum) :
    entries.foldlM (fun names entry => do
        (← ws.variablesOf entry.1 entry.2).foldlM declare names) found =
      (entries.flatMap fun entry => (ws.variablesOf entry.1 entry.2).toOption.getD []).foldlM
        declare found := by
  induction entries generalizing found with
  | nil => rfl
  | cons entry rest ih =>
    obtain ⟨names, hnames⟩ := h entry List.mem_cons_self
    rw [List.foldlM_cons, List.flatMap_cons, List.foldlM_append, hnames]
    exact bind_congr fun found' => ih (fun e he => h e (List.mem_cons_of_mem entry he)) found'

/-- The declared variables can be determined exactly if their names can be listed. -/
lemma exists_declaredVariables_iff (hm : ws.Measured) :
    (∃ names, ws.declaredVariables = .ok names) ↔ Listable ws.namesOfVariables := by
  have hfold := foldlM_variablesOf ws.blocks
    (fun entry hentry => exists_variablesOf_measured ws (hm entry hentry) entry.1) []
  obtain ⟨hok, hfound⟩ := Gathers.foldlM
    (fun d (_ : d ∈ ws.namesOfVariables) => gathers_declare d) []
  have hdeclared : ws.declaredVariables = (do
      sorted Datum.precedes (← ws.namesOfVariables.foldlM declare [])) := by
    rw [namesOfVariables, ← hfold]
    rfl
  rw [listable_iff, hdeclared]
  cases hnames : ws.namesOfVariables.foldlM declare [] with
  | error e =>
    rw [hnames] at hok
    refine iff_of_false ?_ fun h => ?_
    · rintro ⟨names, hnames⟩
      cases hnames
    · obtain ⟨found, hfound⟩ := hok.mpr h.1
      cases hfound
  | ok found =>
    rw [and_iff_right (hok.mp ⟨found, hnames⟩)]
    obtain ⟨hholds, hkinds⟩ := hfound found hnames
    have hP := hholds (List.forall_mem_nil _)
    have hkind : ∀ d ∈ found, d.isText = true ∨ d.number?.isSome := fun d hd =>
      Datum.isText_or_number (hP d hd).1 (hP d hd).2
    have hsorted := exists_sorted_iff Datum.isText fun a ha b hb =>
      Datum.exists_precedes_iff (hkind a ha) (hkind b hb)
    refine hsorted.trans ?_
    simp only [List.not_mem_nil, false_and, exists_false, false_or] at hkinds
    simp only [← hkinds]
    constructor
    · rintro h _ _ ⟨a, ha, rfl⟩ ⟨b, hb, rfl⟩
      exact h a ha b hb
    · exact fun h a ha b hb => h _ _ ⟨a, ha, rfl⟩ ⟨b, hb, rfl⟩

/-- The step that adds the function that a block defines. -/
private def gatherFunction (found : List (Datum × ℤ)) (entry : BlockId × Block) :
    Except Fault (List (Datum × ℤ)) :=
  if entry.2.type == .functionDef && (entry.2.field "name").isTruthy then do
    let n ← entry.2.itemCount
    if (entry.2.field "name").isHashable then
      return insertNew sameFunction (entry.2.field "name", n) found
    else throw (.notHashable (entry.2.field "name").typeWord)
  else return found

/-- A function is listed unless its name has parts. -/
private lemma gathers_function {entry : BlockId × Block} (h : entry.2.Measured) :
    Gathers gatherFunction (fun f => f.1.isText)
      (fun f => f.1.isTruthy = true ∧ f.1.isHashable = true) entry
      (entry.2.type = .functionDef → (entry.2.field "name").isTruthy = true →
        (entry.2.field "name").isHashable = true)
      fun k => entry.2.type = .functionDef ∧ (entry.2.field "name").isTruthy = true ∧
        (entry.2.field "name").isText = k := by
  by_cases hcond : entry.2.type = .functionDef ∧ (entry.2.field "name").isTruthy = true
  · obtain ⟨ht, htruthy⟩ := hcond
    obtain ⟨n, hn⟩ := exists_itemCount h ht
    have hstep : ∀ found : List (Datum × ℤ), gatherFunction found entry =
        if (entry.2.field "name").isHashable then
          .ok (insertNew sameFunction (entry.2.field "name", n) found)
        else .error (.notHashable (entry.2.field "name").typeWord) := by
      intro found
      rw [gatherFunction, if_pos (by simp [ht, htruthy]), hn]
      rfl
    cases hh : (entry.2.field "name").isHashable with
    | false =>
      have herror : ∀ found found', gatherFunction found entry ≠ .ok found' := by
        simp [hstep, hh]
      exact ⟨fun found => iff_of_false (fun ⟨_, h⟩ => herror _ _ h) (by simp [ht, htruthy]),
        fun _ _ h => absurd h (herror _ _), fun _ _ h => absurd h (herror _ _)⟩
    | true =>
      have hok : ∀ found, gatherFunction found entry =
          .ok (insertNew sameFunction (entry.2.field "name", n) found) := by
        simp [hstep, hh]
      refine ⟨fun found => iff_of_true ⟨_, hok found⟩ fun _ _ => rfl, ?_, ?_⟩
      · rintro found found' h hP f hf
        obtain rfl := Except.ok.inj ((hok found).symm.trans h)
        exact forall_mem_insertNew hP ⟨htruthy, hh⟩ f hf
      · rintro found found' h k
        obtain rfl := Except.ok.inj ((hok found).symm.trans h)
        have hsame : ∀ f, sameFunction (entry.2.field "name", n) f = true →
            (entry.2.field "name").isText = f.1.isText := fun f hf =>
          Datum.isText_eq_of_equiv (Bool.and_eq_true_iff.mp hf).1
        rw [exists_insertNew_iff (fun f : Datum × ℤ => f.1.isText) hsame,
          and_iff_right ht, and_iff_right htruthy]
  · have hok : ∀ found, gatherFunction found entry = .ok found := by
      intro found
      rw [gatherFunction, if_neg (by simpa using hcond)]
      rfl
    refine ⟨fun found => iff_of_true ⟨_, hok found⟩ fun ht htruthy => absurd ⟨ht, htruthy⟩ hcond,
      ?_, ?_⟩
    · rintro found found' h hP
      obtain rfl := Except.ok.inj ((hok found).symm.trans h)
      exact hP
    · rintro found found' h k
      obtain rfl := Except.ok.inj ((hok found).symm.trans h)
      exact ⟨.inl, Or.rec id fun hk => absurd ⟨hk.1, hk.2.1⟩ hcond⟩

/-- The declared functions can be determined exactly if their names can be listed. -/
lemma exists_declaredFunctions_iff (hm : ws.Measured) :
    (∃ functions, ws.declaredFunctions = .ok functions) ↔ Listable ws.namesOfFunctions := by
  obtain ⟨hok, hfound⟩ := Gathers.foldlM
    (fun entry (hentry : entry ∈ ws.blocks) => gathers_function (hm entry hentry)) []
  have hnames : ∀ P : Datum → Prop, (∃ d ∈ ws.namesOfFunctions, P d) ↔
      ∃ entry ∈ ws.blocks, entry.2.type = .functionDef ∧ P (entry.2.field "name") := by
    intro P
    simp [namesOfFunctions, and_assoc]
  have hgood : (∀ d ∈ ws.namesOfFunctions, d.isTruthy = true → d.isHashable = true) ↔
      ∀ entry ∈ ws.blocks, entry.2.type = .functionDef →
        (entry.2.field "name").isTruthy = true → (entry.2.field "name").isHashable = true := by
    simp only [namesOfFunctions, List.forall_mem_map, List.mem_filter, beq_iff_eq, and_imp]
  have hdeclared : ws.declaredFunctions = (do
      sorted functionPrecedes (← ws.blocks.foldlM gatherFunction [])) := rfl
  rw [listable_iff, hdeclared, hgood, ← hok]
  generalize ws.blocks.foldlM gatherFunction [] = collected at hok hfound ⊢
  cases collected with
  | error e =>
    refine iff_of_false ?_ ?_
    · rintro ⟨functions, hfunctions⟩
      cases hfunctions
    · rintro ⟨⟨found, hfound⟩, -⟩
      cases hfound
  | ok found =>
    rw [and_iff_right ⟨found, rfl⟩]
    obtain ⟨hholds, hkinds⟩ := hfound found rfl
    have hP := hholds (List.forall_mem_nil _)
    have hkind : ∀ f ∈ found, f.1.isText = true ∨ f.1.number?.isSome := fun f hf =>
      Datum.isText_or_number (hP f hf).1 (hP f hf).2
    have hless : ∀ f ∈ found, ∀ g ∈ found,
        (∃ v, functionPrecedes f g = .ok v) ↔ f.1.isText = g.1.isText := by
      intro f hf g hg
      unfold functionPrecedes
      split
      case isTrue hequiv => exact iff_of_true ⟨_, rfl⟩ (Datum.isText_eq_of_equiv hequiv)
      case isFalse => exact Datum.exists_precedes_iff (hkind f hf) (hkind g hg)
    refine (exists_sorted_iff (fun f : Datum × ℤ => f.1.isText) hless).trans ?_
    simp only [List.not_mem_nil, false_and, exists_false, false_or] at hkinds
    have hkinds' : ∀ k, (∃ d ∈ ws.namesOfFunctions, d.isTruthy = true ∧ d.isText = k) ↔
        ∃ f ∈ found, f.1.isText = k := fun k => by
      rw [hnames fun d => d.isTruthy = true ∧ d.isText = k, hkinds]
    simp only [hkinds']
    constructor
    · rintro h _ _ ⟨f, hf, rfl⟩ ⟨g, hg, rfl⟩
      exact h f hf g hg
    · exact fun h f hf g hg => h _ _ ⟨f, hf, rfl⟩ ⟨g, hg, rfl⟩

/-- Names are the same in workspaces with the same blocks and connections. -/
lemma nameable_congr {ws ws' : Workspace} (h : Edit.SameGraph ws ws') :
    ws'.Nameable ↔ ws.Nameable := by
  have hblock : ws'.block? = ws.block? := by
    funext id
    rw [block?, block?, h.blocks]
  have hheld : ws'.held? = ws.held? := by
    funext id slot
    simp only [held?, outgoing, incoming, h.links]
  have htarget : ∀ fuel id, ws'.targetNames fuel id = ws.targetNames fuel id := by
    intro fuel
    induction fuel with
    | zero => exact fun _ => rfl
    | succ fuel ih =>
      intro id
      rw [targetNames, targetNames, hblock, hheld, funext ih]
  have hnames : ws'.namesOfVariables = ws.namesOfVariables := by
    have hin : ws'.namesIn = ws.namesIn := by
      funext id slot
      rw [namesIn, namesIn, hheld, h.blocks, funext (htarget _)]
    have hof : ws'.variablesOf = ws.variablesOf := by
      funext id b
      rw [variablesOf, variablesOf, hin]
    rw [namesOfVariables, namesOfVariables, h.blocks, hof]
  have hfunctions : ws'.namesOfFunctions = ws.namesOfFunctions := by
    rw [namesOfFunctions, namesOfFunctions, h.blocks]
  constructor
  · exact fun hws => ⟨hnames ▸ hws.ofVariables, hfunctions ▸ hws.ofFunctions⟩
  · exact fun hws => ⟨hnames.symm ▸ hws.ofVariables, hfunctions.symm ▸ hws.ofFunctions⟩

end Workspace

/-! ## Events -/

namespace Edit

open Workspace

variable {ws : Workspace}

/-- How an event that reports a change ends: the listeners hear it exactly if all names can be
listed. -/
structure Heard (ws : Workspace) (e : Event) (r : Except WorkspaceError Unit) (ws' : Workspace) :
    Prop where
  same : SameGraph ws ws'
  delivered : ws.Nameable → r = .ok () ∧ ws'.events = ws.events ++ [e]
  failed : ¬ ws.Nameable → (∃ f, r = .error (.fault f)) ∧ ws'.events = ws.events

/-- No operation stops anybody from following the edits. -/
lemma heeds_listening : Heeds Followed :=
  heeds_of_congr followed_congr (fun _ h => ⟨h.muted, h.watched⟩) fun _ _ h => ⟨h.muted, h.watched⟩

/-- The declared names can be determined exactly if all names can be listed. -/
private lemma leads_refreshDeclared_iff (hm : ws.Measured) :
    Leads refreshDeclared ws fun r ws' => SameGraph ws ws' ∧ ws'.events = ws.events ∧
      (ws.Nameable → r = .ok ()) ∧ (¬ ws.Nameable → ∃ f, r = .error (.fault f)) := by
  unfold refreshDeclared
  simp only [leads_bind]
  refine leads_get (leads_ofFault (fun variableNames hok => ?_) fun f herror => ?_)
  · have hvariables := (exists_declaredVariables_iff hm).mp ⟨_, hok⟩
    have hfunctions : (∃ functions, Workspace.declaredFunctions { ws with variableNames } =
        .ok functions) ↔ Listable ws.namesOfFunctions :=
      @exists_declaredFunctions_iff { ws with variableNames } hm
    refine leads_modify (leads_get (leads_ofFault (fun functions hok => ?_) fun f herror => ?_))
    · exact ⟨⟨rfl, rfl, rfl, rfl⟩, rfl, fun _ => rfl,
        fun hnot => absurd ⟨hvariables, hfunctions.mp ⟨_, hok⟩⟩ hnot⟩
    · refine ⟨⟨rfl, rfl, rfl, rfl⟩, rfl, fun h => ?_, fun _ => ⟨f, rfl⟩⟩
      obtain ⟨functions, hok⟩ := hfunctions.mpr h.ofFunctions
      cases herror.symm.trans hok
  · refine ⟨.refl ws, rfl, fun h => ?_, fun _ => ⟨f, rfl⟩⟩
    obtain ⟨names, hok⟩ := (exists_declaredVariables_iff hm).mpr h.ofVariables
    cases herror.symm.trans hok

/-- An event that reports a change is delivered exactly if all names can be listed. -/
lemma heard_fire (hm : ws.Measured) (hws : ws.Followed) {type : EventType}
    (htype : type.isCosmetic = false) (block : Option BlockId) (details : List (String × Datum)) :
    Leads (fire type block details) ws (Heard ws ⟨type, block, details⟩) := by
  unfold fire
  rw [leads_bind]
  refine leads_get ?_
  dsimp only
  rw [if_pos (by simp [hws.muted]), if_pos (by simp [hws.watched, htype])]
  simp only [leads_bind]
  refine leads_modify ?_
  have hcongr := nameable_congr (show SameGraph ws { ws with installed := none } from
    ⟨rfl, rfl, rfl, rfl⟩)
  refine Leads.mono (@leads_refreshDeclared_iff { ws with installed := none } hm) ?_
  rintro (e | _) ws' ⟨hsame, hevents, hok, herror⟩
  · have hnot : ¬ ws.Nameable := fun h => by cases hok (hcongr.mpr h)
    exact ⟨⟨hsame.blocks, hsame.links, hsame.positions, hsame.selected⟩, fun h => absurd h hnot,
      fun h => ⟨herror (hcongr.not.mpr h), hevents⟩⟩
  · have hnameable : ws.Nameable := by
      by_contra hnot
      obtain ⟨f, hf⟩ := herror (hcongr.not.mpr hnot)
      cases hf
    refine ⟨⟨hsame.blocks, hsame.links, hsame.positions, hsame.selected⟩, fun _ => ⟨rfl, ?_⟩,
      fun h => absurd hnameable h⟩
    change ws'.events ++ [_] = _
    rw [hevents]

/-! ## Fields -/

variable {id : BlockId} {b : Block} {name : String} {d : Datum}

/-- A field of a measured block is written without a refusal, and events are followed as before. -/
private lemma leads_updateShaped {P : Except WorkspaceError Unit → Workspace → Prop}
    (hm : ws.Measured) (hhas : ws.has id) (hb : b.Measured)
    (hd : b.type.isCount name → ∃ n : ℕ, d = .int n)
    (h : ∀ ws', ws'.Measured → SameFollowing ws ws' → P (.ok ()) ws') :
    Leads (updateShaped id (b.writeField name d) name) ws P := by
  unfold updateShaped
  simp only [leads_bind]
  refine leads_modify ?_
  dsimp only
  split
  case isTrue hcount =>
    obtain ⟨n, rfl⟩ := hd hcount
    obtain ⟨b', hb', hmeasured⟩ := hb.reshape_writeField name n
    refine leads_reshape hb' fun l _ => h _ ?_ ⟨rfl, rfl, rfl, rfl, rfl⟩
    have hput :
        ({ ws.put id (b.writeField name (.int n)) with links := l } : Workspace).put id b' =
          ({ ws with links := l } : Workspace).put id b' := by
      unfold Workspace.put
      congr 1
      exact putEntry_putEntry _ _ (has_iff_mem_ids.mp hhas)
    rw [hput]
    exact Measured.put (show ({ ws with links := l } : Workspace).Measured from hm) hmeasured
  case isFalse hcount =>
    have hplain : b.type.isCount name = false := Bool.eq_false_iff.mpr hcount
    exact h _ (hm.put (hb.writeField d hplain)) ⟨rfl, rfl, rfl, rfl, rfl⟩

/-- What is forgotten before a field is written: nothing if the field holds an equal value. -/
private lemma leads_forgetSpelling {P : Except WorkspaceError Unit → Workspace → Prop}
    (hm : ws.Measured) (hb : ws.block? id = some b) (value : Datum)
    (hsame : P (.ok ()) ws)
    (hforgot : b.type.isCount name = false → (b.field? name).any (·.equiv value) = false →
      ∀ ws' b', ws'.Measured →
      SameFollowing ws ws' → ws'.block? id = some b' → b'.type = b.type →
      b'.field? name = b.field? name → P (.ok ()) ws') :
    Leads (forgetSpelling id name value) ws P := by
  unfold forgetSpelling
  simp only [leads_bind]
  refine leads_require (fun c hc => ?_) fun hnone => by rw [hb] at hnone; cases hnone
  obtain rfl : b = c := Option.some.inj (hb.symm.trans hc)
  dsimp only
  split
  case isFalse => exact hsame
  case isTrue hforget =>
    simp only [Bool.and_eq_true, beq_iff_eq, Bool.or_eq_true, Bool.not_eq_true'] at hforget
    obtain ⟨⟨ht, hname⟩, hchange⟩ := hforget
    have hraw : b.type.isCount "raw" = false := by rw [ht]; decide
    have hcount : b.type.isCount name = false := by
      rw [ht]
      rcases hname with rfl | rfl <;> decide
    have hne : name ≠ "raw" := by rcases hname with rfl | rfl <;> decide
    have hold : (b.field? name).any (·.equiv value) = false := by
      cases hfield : b.field? name with
      | none => rfl
      | some d => simpa [Block.field, hfield] using hchange
    refine leads_modify
      (hforgot hcount hold _ (b.writeField "raw" "") ?_ ⟨rfl, rfl, rfl, rfl, rfl⟩ ?_ rfl ?_)
    · exact hm.put ((hm.of_block? hb).writeField "" hraw)
    · rw [block?_put, if_pos rfl]
    · rw [Block.field?_writeField, if_neg hne]

end Edit

/-- What a field takes on when it is given a value: a count takes only what denotes one. -/
def BlockType.taken? (t : BlockType) (name : String) (value : Datum) : Option Datum :=
  if t.isCount name then value.count?.map fun n : ℕ => .int n else some value

namespace Edit

open Workspace

variable {ws : Workspace} {id : BlockId} {b : Block} {name : String} {value d : Datum}

private lemma leads_fieldValue {P : Except WorkspaceError Datum → Workspace → Prop}
    (hd : b.type.taken? name value = some d) (h : P (.ok d) ws) :
    Leads (fieldValue b.type name value) ws P := by
  unfold BlockType.taken? at hd
  unfold fieldValue
  split at hd
  case isTrue hcount =>
    rw [if_pos hcount]
    refine leads_countValue name value (fun n hn => ?_) fun hnone _ => by simp [hnone] at hd
    obtain rfl : Datum.int n = d := by simpa [hn] using hd
    exact h
  case isFalse hcount =>
    rw [if_neg hcount]
    obtain rfl := Option.some.inj hd
    exact h

/-- How setting a field ends: an equal value changes nothing; another one is written, and the
change is heard exactly if all names can be listed then. -/
inductive FieldSet (ws : Workspace) (old : Option Datum) (d : Datum) :
    Except WorkspaceError Unit → Workspace → Prop
  | same (h : old.any (·.equiv d) = true) : FieldSet ws old d (.ok ()) ws
  | heard (e : Event) (ws' : Workspace) (hold : old.any (·.equiv d) = false)
    (hnameable : ws'.Nameable) (he : e.type = .change) (hevents : ws'.events = ws.events ++ [e]) :
    FieldSet ws old d (.ok ()) ws'
  | unheard (f : Fault) (ws' : Workspace) (hold : old.any (·.equiv d) = false)
    (hnot : ¬ ws'.Nameable) (hevents : ws'.events = ws.events) :
    FieldSet ws old d (.error (.fault f)) ws'

/-- A field of a measured block is set. -/
lemma fieldSet_setField (hm : ws.Measured) (hws : ws.Followed) (hb : ws.block? id = some b)
    (hd : b.type.taken? name value = some d) :
    Leads (setField id name value) ws (FieldSet ws (b.field? name) d) := by
  have hcount : b.type.isCount name → ∃ n : ℕ, d = .int n := by
    intro hcount
    rw [BlockType.taken?, if_pos hcount] at hd
    obtain ⟨n, -, rfl⟩ := Option.map_eq_some_iff.mp hd
    exact ⟨n, rfl⟩
  -- After the spelling was forgotten, the other steps are the same in both cases.
  have hrest : ∀ ws₁ b₁, ws₁.Measured → SameFollowing ws ws₁ → ws₁.block? id = some b₁ →
      b₁.type = b.type → b₁.field? name = b.field? name →
      (ws₁ = ws ∨ (b.field? name).any (·.equiv d) = false) →
      Leads (do
        let b ← require id
        let value ← fieldValue b.type name value
        let old := b.field? name
        if !(old.any (·.equiv value)) then
          updateShaped id (b.writeField name value) name
          fire .change (some id)
            [("name", .text name), ("old_value", old.getD .null), ("new_value", value)]) ws₁
        (FieldSet ws (b.field? name) d) := by
    intro ws₁ b₁ hm₁ hsame₁ hb₁ htype hfield hold
    simp only [leads_bind]
    refine leads_require (fun c hc => ?_) fun hnone => by rw [hb₁] at hnone; cases hnone
    obtain rfl : b₁ = c := Option.some.inj (hb₁.symm.trans hc)
    refine leads_fieldValue (htype ▸ hd) ?_
    dsimp only
    rw [hfield]
    cases hequal : (b.field? name).any (·.equiv d) with
    | true =>
      obtain rfl : ws₁ = ws := hold.resolve_right (by simp [hequal])
      exact .same hequal
    | false =>
      rw [if_pos (by simp), leads_bind]
      refine leads_updateShaped hm₁ (has_of_block? hb₁) (hm₁.of_block? hb₁) (htype ▸ hcount)
        fun ws₂ hm₂ hsame₂ => ?_
      have hevents : ws₂.events = ws.events := hsame₂.events.trans hsame₁.events
      refine (heard_fire hm₂ (followed_congr hsame₂ (followed_congr hsame₁ hws)) rfl _ _).mono ?_
      rintro r ws' ⟨hsame, hdelivered, hfailed⟩
      by_cases hnameable : ws₂.Nameable
      · obtain ⟨rfl, hfired⟩ := hdelivered hnameable
        exact .heard _ ws' hequal ((nameable_congr hsame).mpr hnameable) rfl (hevents ▸ hfired)
      · obtain ⟨⟨f, rfl⟩, hunfired⟩ := hfailed hnameable
        exact .unheard f ws' hequal ((nameable_congr hsame).not.mpr hnameable)
          (hunfired.trans hevents)
  unfold setField
  rw [leads_bind]
  refine leads_forgetSpelling hm hb value ?_
    fun hplain hold ws₁ b₁ hm₁ hsame₁ hb₁ htype hfield => ?_
  · exact hrest ws b hm ⟨rfl, rfl, rfl, rfl, rfl⟩ hb rfl rfl (.inl rfl)
  · obtain rfl : value = d := by simpa [BlockType.taken?, hplain] using hd
    exact hrest ws₁ b₁ hm₁ hsame₁ hb₁ htype hfield (.inr hold)

end Edit
end BlockText

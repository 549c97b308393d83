import BlockText.Proofs.Build.Clauses
import BlockText.Proofs.Compile.Statements

/-!
# Blocks of calls

A call with a block of its own is read off that block again: the slots that are filled tell how many
arguments there are, because the slots of a layout are filled all together and no larger layout has
all its slots among them.
-/

namespace BlockText

/-! ## Layouts -/

namespace BuiltinCall

open Syntax

/-- What the calls with a block of their own have in common. -/
private lemma all_sound : ∀ b ∈ all,
    b.type ≠ .syncError ∧ b.type ≠ .string ∧
      b.type.kind = (if b.isStatement then .statement else .expression) ∧
      (b.calleeField = none → b.callees.length = 1) ∧
      (∀ field ∈ b.calleeField, Edit.takes b.type field .words = true ∧ b.stem = none) ∧
      (∀ stem ∈ b.stem, stem = "ITER" ∧ b.type = .zip) ∧
      ∀ l ∈ b.layouts, l.2.length = l.1 ∧ l.2.Nodup ∧ (∀ s ∈ l.2, s ∈ b.type.valueSlots) ∧
        (b.arityFor l.2).toOption = some l.1 := by
  decide

/-- The blocks of calls as statements have no field for the name and no count. -/
lemma statement_sound {b : BuiltinCall} (hb : b ∈ all) (hstmt : b.isStatement = true) :
    b.type ≠ .syncError ∧ b.type ≠ .string ∧
      (b.type.kind = .statement ∧ Compile.isPlain b.type = true) ∧ b.calleeField = none ∧
      b.stem = none := by
  revert b
  decide

/-- A call that has a block of its own. -/
lemma of_match? {f : Expr} {n : ℕ} {hasKeywords isStatement : Bool} {b : BuiltinCall}
    (h : match? f n hasKeywords isStatement = some b) :
    ∃ name i, f = .identifier (.text name) i ∧ hasKeywords = false ∧ b ∈ all ∧
      b.isStatement = isStatement ∧ name ∈ b.callees ∧ b.accepts n = true := by
  unfold match? at h
  split at h
  case h_1 name i =>
    have hfound := List.find?_some h
    simp only [Bool.and_eq_true, beq_iff_eq, List.contains_iff_mem] at hfound
    exact ⟨name, i, rfl, rfl, List.mem_of_find?_eq_some h, hfound.1.1, hfound.1.2, hfound.2⟩
  case h_2 => cases h

/-- The slots for a number of arguments that the block takes. -/
lemma exists_slotsFor {b : BuiltinCall} (hb : b ∈ all) {n : ℕ} (hn : b.accepts n = true) :
    ∃ slots, b.slotsFor? n = some slots ∧ slots.length = n ∧ slots.Nodup ∧
      (b.stem.isSome → b.type = .zip ∧ slots = indexed "ITER" n) ∧
      (b.stem = none → (∀ s ∈ slots, s ∈ b.type.valueSlots) ∧ b.arityFor slots = .ok n) := by
  obtain ⟨-, -, -, -, -, hstem, hlayouts⟩ := all_sound b hb
  unfold accepts at hn
  unfold slotsFor?
  cases hs : b.stem with
  | some stem =>
    obtain ⟨rfl, htype⟩ := hstem stem hs
    refine ⟨indexed "ITER" n, rfl, by simp [indexed], ?_, fun _ => ⟨htype, rfl⟩, fun h => by cases h⟩
    exact List.nodup_range.map fun i j hij => indexed_inj_right.mp hij
  | none =>
    simp only [hs, List.any_eq_true] at hn
    obtain ⟨l, hl⟩ : ∃ l, (b.layouts.find? fun l => (l.1 : ℤ) == n) = some l :=
      Option.isSome_iff_exists.mp (List.find?_isSome.mpr hn)
    obtain ⟨hlength, hnodup, hslots, harity⟩ := hlayouts l (List.mem_of_find?_eq_some hl)
    obtain rfl : l.1 = n := by simpa using List.find?_some hl
    refine ⟨l.2, by rw [hl]; rfl, hlength, hnodup, fun h => by simp at h, fun _ => ⟨hslots, ?_⟩⟩
    cases hok : b.arityFor l.2 with
    | ok m =>
      rw [hok] at harity
      rw [Option.some.inj harity]
    | error e =>
      rw [hok] at harity
      cases harity

/-- A block names the function that it calls. -/
lemma calleeOf?_eq {b : BuiltinCall} (hb : b ∈ all) {name : String} (hname : name ∈ b.callees)
    {field : Datum} (hfield : b.calleeField.isSome → field = .text name) :
    b.calleeOf? field = some name := by
  obtain ⟨-, -, -, hsingle, -⟩ := all_sound b hb
  unfold calleeOf?
  cases hs : b.calleeField with
  | none =>
    obtain ⟨callee, hcallee⟩ := List.length_eq_one_iff.mp (hsingle hs)
    rw [hcallee, List.mem_singleton] at hname
    simp [hcallee, hname]
  | some stem =>
    rw [hfield (by rw [hs]; rfl)]
    simp [Datum.text?, hname]

end BuiltinCall

namespace Edit

open Syntax Workspace Compile

variable {ws₀ ws : Workspace} {X : BlockId} {b : Block} {slot : String → BlockTree} {i : Info}

/-! ## Arguments -/

/-- Arguments are plugged into their slots one by one. -/
lemma yields_plugInto {slots : List String} {args : List Expr} (h₀ : ws₀.Forest)
    (h : Opened ws₀ ws X b slot) (hlength : slots.length = args.length) (hnodup : slots.Nodup)
    (hargs : ∀ e ∈ args, BuildsExpr e)
    (hslots : ∀ s ∈ slots, s ∈ b.values ∧ slot s = .nothing) :
    Yields (plugInto X slots args) ws fun _ ws' => ∃ slot', Opened ws₀ ws' X b slot' ∧
      List.Forall₂ (fun s e => Reads (slot' s) e) slots args ∧ ∀ s ∉ slots, slot' s = slot s := by
  induction slots generalizing args ws slot with
  | nil =>
    obtain rfl := List.length_eq_zero_iff.mp hlength.symm
    rw [plugInto]
    · exact ⟨slot, h, .nil, fun _ _ => rfl⟩
    · simp
  | cons s rest ih =>
    obtain ⟨e, es, rfl⟩ := List.exists_cons_of_length_eq_add_one hlength.symm
    obtain ⟨hs, hrest⟩ := List.nodup_cons.mp hnodup
    obtain ⟨hmem, hempty⟩ := hslots s List.mem_cons_self
    rw [plugInto]
    refine yields_plug h₀ h (hargs e List.mem_cons_self) (fun _ h => h.1) hmem hempty
      fun slot₁ ws₁ he k₁ h₁ => ?_
    refine (ih h₁ (by simpa using hlength) hrest
      (fun e' he' => hargs e' (List.mem_cons_of_mem _ he')) fun s' hs' => ?_).mono ?_
    · obtain ⟨hmem', hempty'⟩ := hslots s' (List.mem_cons_of_mem _ hs')
      refine ⟨hmem', ?_⟩
      rw [k₁.slot s' fun heq => hs (heq ▸ hs'), hempty']
    · rintro _ ws' ⟨slot', h', hreads, hothers⟩
      refine ⟨slot', h', .cons ?_ hreads, fun s' hs' => ?_⟩
      · rw [hothers s hs]
        exact he.2
      · rw [List.mem_cons, not_or] at hs'
        rw [hothers s' hs'.2, k₁.slot s' hs'.1]

/-- A block of a call whose arguments are plugged in shows the call. -/
lemma showsCall_of_filled {builtin : BuiltinCall} {slot : String → BlockTree} {name : String}
    {args : List Expr} {slots : List String} (hmem : builtin ∈ BuiltinCall.all)
    (h : Opened ws₀ ws X b slot) (ht : b.type = builtin.type) (hname : name ∈ builtin.callees)
    (haccepts : builtin.accepts args.length = true)
    (hfield : ∀ field ∈ builtin.calleeField, b.field? field = some (.text name))
    (hcount : builtin.stem.isSome → b.field? "item_count" = some (.int args.length))
    (hslots : builtin.slotsFor? args.length = some slots)
    (hreads : List.Forall₂ (fun s e => Reads (slot s) e) slots args)
    (hothers : ∀ s ∉ slots, slot s = .nothing) : ShowsCall builtin b slot name args where
  callee := by
    refine BuiltinCall.calleeOf?_eq hmem hname fun hsome => ?_
    obtain ⟨field, hs⟩ := Option.isSome_iff_exists.mp hsome
    rw [hs, Option.map_some, Option.getD_some, field_of_field? (hfield field hs)]
  arity := by
    obtain ⟨slots', hslots', -, -, -, hfixed⟩ := BuiltinCall.exists_slotsFor hmem haccepts
    obtain rfl := Option.some.inj (hslots.symm.trans hslots')
    cases hstem : builtin.stem with
    | some stem => exact hcount (by rw [hstem]; rfl)
    | none =>
      obtain ⟨hvalues, harity⟩ := hfixed hstem
      rw [if_neg (by simp), ← harity]
      refine Compile.arityFor_congr builtin fun s => ?_
      -- Exactly the slots of the arguments are filled.
      have hfilled : s ∈ slots → (slot s).isPresent = true := by
        intro hs
        obtain ⟨k, hk, rfl⟩ := List.mem_iff_getElem.mp hs
        exact ((List.forall₂_iff_get.mp hreads).2 k hk (hreads.length_eq ▸ hk)).1
      rw [List.mem_filter]
      constructor
      · rintro ⟨-, hpresent⟩
        by_contra hs
        rw [hothers s hs] at hpresent
        cases hpresent
      · intro hs
        exact ⟨mem_values h ht (hvalues s hs), hfilled hs⟩
  args := by
    rw [hslots]
    exact hreads

/-! ## Calls with a block of their own -/

/-- The dedicated block of a call, before its arguments are plugged in. -/
private lemma yields_builtinBlock {builtin : BuiltinCall} {name : String} {n : ℕ}
    (hmem : builtin ∈ BuiltinCall.all) (hws : ws.Tidy) :
    Yields (builtinBlock builtin (.identifier (.text name) i) n) ws fun X ws' => ∃ b,
      Opened ws ws' X b noSlots ∧ b.type = builtin.type ∧
      (∀ field ∈ builtin.calleeField, b.field? field = some (.text name)) ∧
      (builtin.stem.isSome → b.field? "item_count" = some (.int n)) := by
  obtain ⟨hsync, hstring, -, -, hcallee, hstem, -⟩ := BuiltinCall.all_sound builtin hmem
  unfold builtinBlock
  refine yields_newBlock hws hsync hstring (by simp) fitting_nil fun X b ws₁ h₁ ht _ _ => ?_
  have hb : b.type ≠ .string := by rwa [ht]
  cases hfield : builtin.calleeField with
  | some field =>
    obtain ⟨htakes, hnone⟩ := hcallee field hfield
    have hfit : Fitting b.type (field, .text name) := by
      rw [ht]
      exact fitting_text (isText_text _) htakes
    simp only [hnone, Option.isSome_none, Bool.false_eq_true, if_false]
    have hset := yields_setFitting h₁ hb hfit
    refine Yields.bind hset ?_
    rintro _ ws₂ ⟨b₂, h₂, ht₂, -, hfield₂, -⟩
    refine ⟨b₂, h₂, ht₂.trans ht, fun other hother => ?_, fun h => by cases h⟩
    obtain rfl := Option.mem_some_iff.mp hother
    exact hfield₂
  | none =>
    cases hs : builtin.stem with
    | none => exact ⟨b, h₁, ht, by simp, fun h => by cases h⟩
    | some stem =>
      obtain ⟨-, hzip⟩ := hstem stem hs
      have hfit : Fitting b.type ("item_count", count n) := by
        rw [ht, hzip]
        exact fitting_count rfl
      simp only [Option.isSome_some, if_true]
      have hset := yields_setFitting h₁ hb hfit
      refine Yields.bind hset ?_
      rintro _ ws₂ ⟨b₂, h₂, ht₂, -, hcount₂, -⟩
      exact ⟨b₂, h₂, ht₂.trans ht, by simp, fun _ => hcount₂⟩

/-- The slots of the arguments are there. -/
private lemma mem_argument {builtin : BuiltinCall} {n : ℕ} {slots : List String}
    (hmem : builtin ∈ BuiltinCall.all) (h : Opened ws₀ ws X b slot) (ht : b.type = builtin.type)
    (haccepts : builtin.accepts n = true) (hslots : builtin.slotsFor? n = some slots)
    (hcount : builtin.stem.isSome → b.field? "item_count" = some (.int n)) :
    ∀ s ∈ slots, s ∈ b.values := by
  intro s hs
  obtain ⟨slots', hslots', -, -, hcounted, hfixed⟩ := BuiltinCall.exists_slotsFor hmem haccepts
  obtain rfl := Option.some.inj (hslots.symm.trans hslots')
  cases hstem : builtin.stem with
  | none => exact mem_values h ht ((hfixed hstem).1 s hs)
  | some stem =>
    obtain ⟨hzip, rfl⟩ := hcounted (by rw [hstem]; rfl)
    have hshape : BlockType.zip.shapeFor b.fields = .ok { values := indexed "ITER" n } := by
      simp [BlockType.shapeFor, countOf_of_entry (hcount (by rw [hstem]; rfl)), bind, Except.bind,
        pure, Except.pure]
    exact mem_counted h (ht.trans hzip) hshape hs

/-- The arguments of a call are plugged into its dedicated block. -/
lemma yields_arguments {builtin : BuiltinCall} {name : String} {args : List Expr}
    (hmem : builtin ∈ BuiltinCall.all) (h₀ : ws₀.Forest) (h : Opened ws₀ ws X b noSlots)
    (ht : b.type = builtin.type) (hname : name ∈ builtin.callees)
    (haccepts : builtin.accepts args.length = true)
    (hfield : ∀ field ∈ builtin.calleeField, b.field? field = some (.text name))
    (hcount : builtin.stem.isSome → b.field? "item_count" = some (.int args.length))
    (hargs : ∀ e ∈ args, BuildsExpr e) :
    Yields (plugInto X ((builtin.slotsFor? args.length).getD []) args) ws fun _ ws' => ∃ slot',
      Opened ws₀ ws' X b slot' ∧ ShowsCall builtin b slot' name args := by
  obtain ⟨slots, hslots, hlength, hnodup, -⟩ := BuiltinCall.exists_slotsFor hmem haccepts
  have hvalues := mem_argument hmem h ht haccepts hslots hcount
  rw [hslots, Option.getD_some]
  refine (yields_plugInto h₀ h hlength hnodup hargs fun s hs => ⟨hvalues s hs, rfl⟩).mono ?_
  rintro _ ws' ⟨slot', h', hreads, hothers⟩
  exact ⟨slot', h',
    showsCall_of_filled hmem h' ht hname haccepts hfield hcount hslots hreads hothers⟩

lemma builds_call {f : Expr} {args : List Expr} {ks : List (Keyword Expr)} (hf : BuildsExpr f)
    (hargs : ∀ e ∈ args, BuildsExpr e) (hks : ∀ k ∈ ks, IsOptionalName k.name ∧ BuildsExpr k.value) :
    BuildsExpr (.call f args ks i) := by
  cases hmatch : BuiltinCall.match? f args.length (!ks.isEmpty) false with
  | none => exact builds_plainCall hmatch hf hargs hks
  | some builtin =>
    obtain ⟨name, i', rfl, hnone, hmem, hexpr, hname, haccepts⟩ := BuiltinCall.of_match? hmatch
    obtain rfl : ks = [] := by simpa using hnone
    obtain ⟨-, -, hkind, -⟩ := BuiltinCall.all_sound builtin hmem
    intro ws hws
    rw [exprBlock, hmatch]
    refine Yields.bind (yields_builtinBlock hmem hws) ?_
    rintro X ws₁ ⟨b, h₁, ht, hfield, hcount⟩
    refine Yields.bind (yields_arguments hmem hws.forest h₁ ht hname haccepts hfield hcount hargs) ?_
    rintro _ ws₂ ⟨slot₂, h₂, hshows⟩
    exact yields_finish h₂ ht (by rw [hkind, hexpr]; rfl) (reads_builtin hmem hexpr ht hshows)

/-! ## All expressions -/

/-- Every well-formed expression is built so that it is read as it was. -/
theorem builds_of_wellFormed {e : Expr} (h : e.WellFormed) : BuildsExpr e := by
  induction h with
  | @intro e sane _ ih =>
    cases e with
    | identifier name i => exact builds_identifier sane
    | literal kind raw value i => exact builds_literal sane
    | binary l op r i =>
      exact builds_binary (ih l (by simp [Expr.parts])) (ih r (by simp [Expr.parts]))
    | unary op e i => exact builds_unary (ih e (by simp [Expr.parts]))
    | boolOp op es i => exact builds_boolOp fun e he => ih e he
    | compare l ops es i =>
      exact builds_compare sane (ih l (by simp [Expr.parts])) fun e he =>
        ih e (by simp [Expr.parts, he])
    | lambda ps body i =>
      refine builds_lambda (fun p hp => ⟨(sane p hp).1, fun _ => (sane p hp).2, ?_, ?_⟩)
        (ih body (by simp [Expr.parts]))
      · intro e he
        exact ih e (List.mem_cons_of_mem _
          (List.mem_flatMap.mpr ⟨p, hp, by simp [Option.mem_def.mp he]⟩))
      · intro e he
        exact ih e (List.mem_cons_of_mem _
          (List.mem_flatMap.mpr ⟨p, hp, by simp [Option.mem_def.mp he]⟩))
    | conditional t b e i =>
      exact builds_conditional (ih t (by simp [Expr.parts])) (ih b (by simp [Expr.parts]))
        (ih e (by simp [Expr.parts]))
    | call f args ks i =>
      refine builds_call (ih f (by simp [Expr.parts])) (fun e he => ih e (by simp [Expr.parts, he]))
        fun k hk => ⟨sane k hk, ih k.value ?_⟩
      exact List.mem_append_right _ (List.mem_map_of_mem hk)
    | tuple es i => exact builds_tuple fun e he => ih e he
    | list es i => exact builds_list fun e he => ih e he
    | set es i => exact builds_set fun e he => ih e he
    | dict ds i =>
      refine builds_dict fun d hd => ⟨fun e he => ?_, ?_⟩
      · exact ih e (List.mem_flatMap.mpr ⟨d, hd, by simp [Option.mem_def.mp he]⟩)
      · exact ih d.value (List.mem_flatMap.mpr ⟨d, hd, by simp⟩)
    | «attribute» e attr i => exact builds_attribute sane (ih e (by simp [Expr.parts]))
    | subscript e index i =>
      exact builds_subscript (ih e (by simp [Expr.parts])) (ih index (by simp [Expr.parts]))
    | slice lower upper step i =>
      exact builds_slice (fun e he => ih e (by simp [Expr.parts, Option.mem_def.mp he]))
        (fun e he => ih e (by simp [Expr.parts, Option.mem_def.mp he]))
        fun e he => ih e (by simp [Expr.parts, Option.mem_def.mp he])
    | comprehension kind e cs key i =>
      refine builds_comprehension sane (ih e (by simp [Expr.parts]))
        (fun k hk => ih k (by simp [Expr.parts, Option.mem_def.mp hk])) fun c hc => ?_
      have hclause : ∀ part ∈ c.target :: c.iter :: c.ifs, BuildsExpr part := fun part hpart =>
        ih part (List.mem_append_right _ (List.mem_flatMap.mpr ⟨c, hc, hpart⟩))
      exact ⟨hclause _ (by simp), hclause _ (by simp), fun e he => hclause e (by simp [he])⟩
    | grouped e i => exact builds_grouped (ih e (by simp [Expr.parts]))
    | fstring ps quote i =>
      refine builds_fstring sane.1 fun p hp => ⟨sane.2 p hp, fun e he => ?_⟩
      exact ih e (List.mem_flatMap.mpr ⟨p, hp, by simpa using he⟩)
    | walrus target e i => exact builds_walrus sane (ih e (by simp [Expr.parts]))
    | yield e i => exact builds_yield fun e' he' => ih e' (by simpa [Expr.parts] using he')
    | yieldFrom e i => exact builds_yieldFrom (ih e (by simp [Expr.parts]))
    | await e i => exact builds_await (ih e (by simp [Expr.parts]))
    | stray d => exact sane.elim

end Edit

end BlockText

import Mathlib
import BlockText.Proofs.Datum.Texts
import BlockText.Workspace.Declared

/-!
# Sorting what is declared

What blocks declare is collected one by one, each item once, and then sorted. If all items are those
of an ordered type, and comparing items is comparing in that type, then the outcome is the one list
in strictly increasing order that has exactly the collected items.
-/

namespace BlockText

variable {α β γ : Type}

/-! ## Sorting -/

section Sorting

variable [LinearOrder β] {less : α → α → Except Fault Bool} {f : β → α}

lemma insertSorted_map (hless : ∀ a b, less (f a) (f b) = .ok (decide (a < b))) (a : β)
    {xs : List β} (hxs : xs.Pairwise (· ≤ ·)) :
    ∃ ys : List β, insertSorted less (f a) (xs.map f) = .ok (ys.map f) ∧ ys.Perm (a :: xs) ∧
      ys.Pairwise (· ≤ ·) := by
  induction xs with
  | nil => exact ⟨[a], rfl, .refl _, List.pairwise_singleton _ _⟩
  | cons b rest ih =>
    obtain ⟨hb, hrest⟩ := List.pairwise_cons.mp hxs
    rw [List.map_cons, insertSorted, hless]
    by_cases hlt : a < b
    · refine ⟨a :: b :: rest, ?_, .refl _, List.pairwise_cons.mpr ⟨fun c hc => ?_, hxs⟩⟩
      · rw [decide_eq_true hlt]
        rfl
      · rcases List.mem_cons.mp hc with rfl | hc
        · exact hlt.le
        · exact hlt.le.trans (hb c hc)
    · obtain ⟨ys, hys, hperm, hsorted⟩ := ih hrest
      refine ⟨b :: ys, ?_, (hperm.cons b).trans (List.Perm.swap a b rest),
        List.pairwise_cons.mpr ⟨fun c hc => ?_, hsorted⟩⟩
      · rw [decide_eq_false hlt, hys]
        rfl
      · rcases List.mem_cons.mp (hperm.mem_iff.mp hc) with rfl | hc
        · exact not_lt.mp hlt
        · exact hb c hc

/-- Sorting puts the items in order. -/
lemma sorted_map (hless : ∀ a b, less (f a) (f b) = .ok (decide (a < b))) (xs : List β) :
    ∃ ys : List β, sorted less (xs.map f) = .ok (ys.map f) ∧ ys.Perm xs ∧ ys.Pairwise (· ≤ ·) := by
  induction xs with
  | nil => exact ⟨[], rfl, .refl _, .nil⟩
  | cons a rest ih =>
    obtain ⟨ys, hys, hperm, hsorted⟩ := ih
    obtain ⟨zs, hzs, hperm', hsorted'⟩ := insertSorted_map hless a hsorted
    refine ⟨zs, ?_, hperm'.trans (hperm.cons a), hsorted'⟩
    rw [List.map_cons, sorted, hys]
    exact hzs

/-- Items that are there once are sorted into strictly increasing order. -/
lemma sorted_map_of_nodup (hless : ∀ a b, less (f a) (f b) = .ok (decide (a < b))) {xs : List β}
    (hxs : xs.Nodup) :
    ∃ ys : List β, sorted less (xs.map f) = .ok (ys.map f) ∧ (∀ a, a ∈ ys ↔ a ∈ xs) ∧
      ys.Pairwise (· < ·) := by
  obtain ⟨ys, hys, hperm, hsorted⟩ := sorted_map hless xs
  refine ⟨ys, hys, fun a => hperm.mem_iff, ?_⟩
  exact hsorted.imp₂ (fun _ _ hle hne => lt_of_le_of_ne hle hne) (hperm.nodup_iff.mpr hxs)

end Sorting

/-! ## Collecting -/

/-- An item is added unless it is there. -/
lemma insertNew_map [DecidableEq β] {same : α → α → Bool} {f : β → α}
    (hsame : ∀ a b, same (f a) (f b) = decide (a = b)) (a : β) {xs : List β} (hxs : xs.Nodup) :
    ∃ ys : List β, insertNew same (f a) (xs.map f) = ys.map f ∧ ys.Nodup ∧
      ∀ b, b ∈ ys ↔ b ∈ xs ∨ b = a := by
  have hany : (xs.map f).any (same (f a)) = decide (a ∈ xs) := by
    rw [List.any_map, Bool.eq_iff_iff, List.any_eq_true, decide_eq_true_iff]
    simp [hsame]
  rw [insertNew, hany]
  by_cases hmem : a ∈ xs
  · refine ⟨xs, by rw [decide_eq_true hmem]; rfl, hxs, fun b => ⟨.inl, ?_⟩⟩
    rintro (hb | rfl)
    · exact hb
    · exact hmem
  · refine ⟨xs ++ [a], ?_, List.concat_eq_append ▸ hxs.concat hmem, fun b => by simp⟩
    rw [decide_eq_false hmem, List.map_append]
    rfl

/-- A loop whose steps each add some items. -/
lemma foldlM_collect (step : List α → γ → Except Fault (List α)) (f : β → α) (adds : γ → β → Prop)
    {items : List γ}
    (hstep : ∀ x ∈ items, ∀ xs : List β, xs.Nodup → ∃ ys : List β, step (xs.map f) x = .ok (ys.map f) ∧
      ys.Nodup ∧ ∀ b, b ∈ ys ↔ b ∈ xs ∨ adds x b) {xs : List β} (hxs : xs.Nodup) :
    ∃ ys : List β, items.foldlM step (xs.map f) = .ok (ys.map f) ∧ ys.Nodup ∧
      ∀ b, b ∈ ys ↔ b ∈ xs ∨ ∃ x ∈ items, adds x b := by
  induction items generalizing xs with
  | nil => exact ⟨xs, rfl, hxs, by simp⟩
  | cons x rest ih =>
    obtain ⟨ys, hys, hnodup, hmem⟩ := hstep x List.mem_cons_self xs hxs
    obtain ⟨zs, hzs, hnodup', hmem'⟩ :=
      ih (fun y hy => hstep y (List.mem_cons_of_mem x hy)) hnodup
    refine ⟨zs, ?_, hnodup', fun b => ?_⟩
    · rw [List.foldlM_cons, hys]
      exact hzs
    · rw [hmem', hmem, List.exists_mem_cons_iff, or_assoc]

/-! ## Names -/

namespace Datum

/-- A text has no parts. -/
@[simp] lemma isHashable_ofPoints (ps : List CodePoint) : (ofPoints ps).isHashable = true := by
  rcases ofPoints_cases ps with ⟨s, rfl, h⟩ | ⟨t, rfl, h⟩ <;> rw [h] <;> rfl

/-- Texts are in the order of their code points. -/
lemma precedes_ofPoints (ps qs : List CodePoint) :
    (ofPoints ps).precedes (ofPoints qs) = .ok (decide (ps < qs)) := by
  rw [precedes, points?_ofPoints, points?_ofPoints]

end Datum

/-- A text is declared if it is not empty. -/
lemma declare_ofPoints (ps : List CodePoint) {names : List (List CodePoint)}
    (hnames : names.Nodup) :
    ∃ found : List (List CodePoint),
      declare (names.map Datum.ofPoints) (.ofPoints ps) = .ok (found.map Datum.ofPoints) ∧
        found.Nodup ∧ ∀ qs, qs ∈ found ↔ qs ∈ names ∨ (qs = ps ∧ ps ≠ []) := by
  by_cases hps : ps = []
  · refine ⟨names, ?_, hnames, fun qs => ?_⟩
    · rw [declare, hps]
      rfl
    · simp [hps]
  · obtain ⟨found, hfound, hnodup, hmem⟩ := insertNew_map Datum.equiv_ofPoints ps hnames
    refine ⟨found, ?_, hnodup, fun qs => ?_⟩
    · have hfalsy : (Datum.ofPoints ps).isFalsy = false := by
        rwa [Datum.isFalsy_ofPoints, List.isEmpty_eq_false_iff]
      rw [declare, hfalsy, Datum.isHashable_ofPoints, hfound]
      rfl
    · rw [hmem qs, and_iff_left hps]

/-- The texts that are not empty are declared. -/
lemma foldlM_declare (texts : List (List CodePoint)) {names : List (List CodePoint)}
    (hnames : names.Nodup) :
    ∃ found : List (List CodePoint),
      (texts.map Datum.ofPoints).foldlM declare (names.map Datum.ofPoints) =
          .ok (found.map Datum.ofPoints) ∧
        found.Nodup ∧ ∀ ps, ps ∈ found ↔ ps ∈ names ∨ (ps ∈ texts ∧ ps ≠ []) := by
  have hcollect := foldlM_collect (fun names ps => declare names (Datum.ofPoints ps)) Datum.ofPoints
    (fun ps qs => qs = ps ∧ ps ≠ [])
    (fun ps (_ : ps ∈ texts) xs hxs => declare_ofPoints ps hxs) hnames
  obtain ⟨found, hfound, hnodup, hmem⟩ := hcollect
  refine ⟨found, by rwa [List.foldlM_map], hnodup, fun t => ?_⟩
  rw [hmem]
  refine or_congr_right ⟨?_, fun ⟨ht, hne⟩ => ⟨t, ht, rfl, hne⟩⟩
  rintro ⟨s, hs, rfl, hne⟩
  exact ⟨hs, hne⟩

namespace Workspace

variable {ws : Workspace}

/-- If all names that blocks declare are texts, then the declared variables are those that are not
empty, in strictly increasing order. -/
lemma declaredVariables_eq (htexts : ∀ entry ∈ ws.blocks, ∃ texts : List (List CodePoint),
      ws.variablesOf entry.1 entry.2 = .ok (texts.map Datum.ofPoints)) :
    ∃ names : List (List CodePoint), ws.declaredVariables = .ok (names.map Datum.ofPoints) ∧
      names.Pairwise (· < ·) ∧ ∀ ps, ps ∈ names ↔ ps ≠ [] ∧ ∃ entry ∈ ws.blocks, ∃ ds,
        ws.variablesOf entry.1 entry.2 = .ok ds ∧ Datum.ofPoints ps ∈ ds := by
  have hcollect := foldlM_collect (fun names (entry : BlockId × Block) => do
      (← ws.variablesOf entry.1 entry.2).foldlM declare names) Datum.ofPoints
    (fun entry ps => ps ≠ [] ∧ ∃ ds,
      ws.variablesOf entry.1 entry.2 = .ok ds ∧ Datum.ofPoints ps ∈ ds)
    (fun entry (hentry : entry ∈ ws.blocks) names hnames => ?_) List.nodup_nil
  · obtain ⟨found, hfound, hnodup, hmem⟩ := hcollect
    obtain ⟨names, hnames, hiff, hsorted⟩ : ∃ names : List (List CodePoint),
        sorted Datum.precedes (found.map Datum.ofPoints) = .ok (names.map Datum.ofPoints) ∧
          (∀ ps, ps ∈ names ↔ ps ∈ found) ∧ names.Pairwise (· < ·) :=
      sorted_map_of_nodup (fun ps qs => by convert Datum.precedes_ofPoints ps qs) hnodup
    refine ⟨names, ?_, hsorted, fun s => ?_⟩
    · rw [List.map_nil] at hfound
      rw [declaredVariables, hfound]
      exact hnames
    · rw [hiff, hmem]
      constructor
      · rintro (hs | ⟨entry, hentry, hne, hds⟩)
        · cases hs
        · exact ⟨hne, entry, hentry, hds⟩
      · rintro ⟨hne, entry, hentry, hds⟩
        exact .inr ⟨entry, hentry, hne, hds⟩
  · obtain ⟨texts, hvars⟩ := htexts entry hentry
    obtain ⟨found, hfound, hnodup, hmem⟩ := foldlM_declare texts hnames
    refine ⟨found, ?_, hnodup, fun s => ?_⟩
    · rw [hvars]
      exact hfound
    · rw [hmem, hvars]
      refine or_congr_right ⟨fun ⟨hs, hne⟩ => ⟨hne, _, rfl, List.mem_map_of_mem hs⟩, ?_⟩
      rintro ⟨hne, ds, hds, hs⟩
      obtain rfl := Except.ok.inj hds
      obtain ⟨t, ht, heq⟩ := List.mem_map.mp hs
      obtain rfl := Datum.ofPoints_injective heq
      exact ⟨ht, hne⟩

/-- A function by its name and its number of parameters, as it is listed. -/
def listedFunction (f : List CodePoint ×ₗ ℕ) : Datum × ℤ := (.ofPoints (ofLex f).1, (ofLex f).2)

/-- Functions are the same if they have the same names and numbers of parameters. -/
lemma sameFunction_listed (f g : List CodePoint ×ₗ ℕ) :
    sameFunction (listedFunction f) (listedFunction g) = decide (f = g) := by
  have hiff : f = g ↔ (ofLex f).1 = (ofLex g).1 ∧ (ofLex f).2 = (ofLex g).2 := by
    rw [← Prod.ext_iff, ofLex_inj]
  rw [sameFunction, listedFunction, listedFunction, Datum.equiv_ofPoints, Bool.eq_iff_iff,
    Bool.and_eq_true,
    decide_eq_true_iff, decide_eq_true_iff, beq_iff_eq, hiff, Nat.cast_inj]

/-- Functions are in the order of their names and numbers of parameters. -/
lemma functionPrecedes_listed (f g : List CodePoint ×ₗ ℕ) :
    functionPrecedes (listedFunction f) (listedFunction g) = .ok (decide (f < g)) := by
  have hiff : f < g ↔ (ofLex f).1 < (ofLex g).1 ∨
      (ofLex f).1 = (ofLex g).1 ∧ (ofLex f).2 < (ofLex g).2 := Prod.lex_def
  rw [functionPrecedes, listedFunction, listedFunction, Datum.equiv_ofPoints]
  by_cases heq : (ofLex f).1 = (ofLex g).1
  · rw [if_pos (decide_eq_true heq)]
    refine congrArg Except.ok (decide_eq_decide.mpr ?_)
    rw [hiff, heq]
    simp
  · rw [if_neg (by simpa using heq), Datum.precedes_ofPoints]
    refine congrArg Except.ok (decide_eq_decide.mpr ?_)
    rw [hiff]
    simp [heq]

/-- If functions have texts as names and numbers of parameters, then the declared functions are
those whose names are not empty, in strictly increasing order. -/
lemma declaredFunctions_eq (htexts : ∀ entry ∈ ws.blocks, entry.2.type = .functionDef →
      ∃ (ps : List CodePoint) (n : ℕ),
        entry.2.field "name" = .ofPoints ps ∧ entry.2.itemCount = .ok (n : ℤ)) :
    ∃ functions : List (List CodePoint ×ₗ ℕ),
      ws.declaredFunctions = .ok (functions.map listedFunction) ∧
      functions.Pairwise (· < ·) ∧ ∀ f, f ∈ functions ↔ (ofLex f).1 ≠ [] ∧ ∃ entry ∈ ws.blocks,
        entry.2.type = .functionDef ∧ entry.2.field "name" = .ofPoints (ofLex f).1 ∧
          entry.2.itemCount = .ok ((ofLex f).2 : ℤ) := by
  have hcollect := foldlM_collect (fun found (entry : BlockId × Block) => do
      let name := entry.2.field "name"
      if entry.2.type == .functionDef && name.isTruthy then
        let n ← entry.2.itemCount
        if name.isHashable then return insertNew sameFunction (name, n) found
        else throw (.notHashable name.typeWord)
      else return found) listedFunction
    (fun entry f => (ofLex f).1 ≠ [] ∧ entry.2.type = .functionDef ∧
      entry.2.field "name" = .ofPoints (ofLex f).1 ∧ entry.2.itemCount = .ok ((ofLex f).2 : ℤ))
    (fun entry (hentry : entry ∈ ws.blocks) found hfound => ?_) List.nodup_nil
  · obtain ⟨found, hfound, hnodup, hmem⟩ := hcollect
    obtain ⟨functions, hfunctions, hiff, hsorted⟩ :=
      sorted_map_of_nodup functionPrecedes_listed hnodup
    refine ⟨functions, ?_, hsorted, fun f => ?_⟩
    · rw [List.map_nil] at hfound
      rw [declaredFunctions, hfound]
      exact hfunctions
    · rw [hiff, hmem]
      constructor
      · rintro (hf | ⟨entry, hentry, hne, hrest⟩)
        · cases hf
        · exact ⟨hne, entry, hentry, hrest⟩
      · rintro ⟨hne, entry, hentry, hrest⟩
        exact .inr ⟨entry, hentry, hne, hrest⟩
  · by_cases ht : entry.2.type = .functionDef
    · obtain ⟨ps, n, hps, hn⟩ := htexts entry hentry ht
      by_cases hempty : ps = []
      · refine ⟨found, ?_, hfound, fun f => ?_⟩
        · simp only [ht, hps, hempty]
          rfl
        · refine ⟨.inl, ?_⟩
          rintro (hf | ⟨hne, -, hname, -⟩)
          · exact hf
          · rw [hps] at hname
            exact absurd ((Datum.ofPoints_injective hname).symm.trans hempty) hne
      · obtain ⟨found', hfound', hnodup, hmem⟩ :=
          insertNew_map sameFunction_listed (toLex (ps, n)) hfound
        refine ⟨found', ?_, hnodup, fun f => ?_⟩
        · have htruthy : (Datum.ofPoints ps).isTruthy = true := by
            rwa [Datum.isTruthy, Datum.isFalsy_ofPoints, Bool.not_eq_true',
              List.isEmpty_eq_false_iff]
          simp only [ht, hps, hn, htruthy, Datum.isHashable_ofPoints]
          exact congrArg Except.ok hfound'
        · rw [hmem]
          refine or_congr_right ⟨?_, ?_⟩
          · rintro rfl
            exact ⟨hempty, ht, hps, hn⟩
          · rintro ⟨-, -, hname, hcount⟩
            rw [hps] at hname
            rw [hn] at hcount
            apply ofLex.injective
            exact Prod.ext (Datum.ofPoints_injective hname).symm
              (Nat.cast_injective (Except.ok.inj hcount)).symm
    · refine ⟨found, ?_, hfound, fun f => ?_⟩
      · have hfalse : (entry.2.type == .functionDef) = false := by simpa using ht
        simp only [hfalse]
        rfl
      · refine ⟨.inl, ?_⟩
        rintro (hf | ⟨-, hfun, -⟩)
        · exact hf
        · exact absurd hfun ht

end Workspace

end BlockText

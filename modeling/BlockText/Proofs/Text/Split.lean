import BlockText.Proofs.Datum.Texts

/-!
# Splitting joined names

Names that hold no comma and have no blanks around them can be joined with commas and blanks, and
splitting and trimming gives them back.  Splitting and trimming any text gives such names.
-/

namespace BlockText.Text

variable {α : Type}

/-! ## Trimming -/

section Trimming

variable {p : α → Bool}

/-- What may be trimmed in front of a list does not matter for trimming. -/
lemma trimBy_append {lead : List α} (hlead : ∀ a ∈ lead, p a = true) (xs : List α) :
    trimBy p (lead ++ xs) = trimBy p xs := by
  rw [trimBy, trimBy, List.dropWhile_append_of_pos hlead]

/-- A list that starts with nothing to trim is kept. -/
private lemma dropWhile_eq_self {xs : List α} (h : ∀ a, xs.head? = some a → p a = false) :
    xs.dropWhile p = xs := by
  cases xs with
  | nil => rfl
  | cons a rest => exact List.dropWhile_cons_of_neg (by simp [h a rfl])

/-- Nothing is left to trim from a trimmed list. -/
lemma trimBy_trimBy (xs : List α) : trimBy p (trimBy p xs) = trimBy p xs := by
  have hhead : ∀ (ys : List α) {a : α}, (ys.dropWhile p).head? = some a → p a = false := by
    intro ys a ha
    have hnot := List.head?_dropWhile_not p ys
    rw [ha] at hnot
    simpa using hnot
  have hstart : (trimBy p xs).dropWhile p = trimBy p xs := by
    refine dropWhile_eq_self fun a ha => ?_
    -- What is left of a list without its end starts as the list does.
    have hprefix : trimBy p xs <+: xs.dropWhile p := by
      rw [trimBy, ← List.reverse_suffix, List.reverse_reverse]
      exact List.dropWhile_suffix _
    obtain ⟨rest, hrest⟩ := hprefix
    refine hhead xs ?_
    rw [← hrest, List.head?_append, ha]
    rfl
  have hend : (trimBy p xs).reverse.dropWhile p = (trimBy p xs).reverse := by
    rw [trimBy, List.reverse_reverse]
    exact dropWhile_eq_self fun a ha => hhead _ ha
  calc trimBy p (trimBy p xs) = ((trimBy p xs).reverse.dropWhile p).reverse := by
        rw [trimBy, hstart]
    _ = trimBy p xs := by rw [hend, List.reverse_reverse]

/-- Trimming adds no items. -/
lemma mem_of_mem_trimBy {xs : List α} {a : α} (h : a ∈ trimBy p xs) : a ∈ xs := by
  have hstart := List.mem_reverse.mp ((List.dropWhile_sublist _).mem (List.mem_reverse.mp h))
  exact (List.dropWhile_sublist _).mem hstart

end Trimming

/-- Trimming adds no characters. -/
lemma mem_of_mem_trim {s : String} {c : Char} (h : c ∈ (trim s).toList) : c ∈ s.toList := by
  rw [trim, String.toList_ofList] at h
  exact mem_of_mem_trimBy h

/-! ## Splitting -/

section Splitting

variable [BEq α] {sep : α}

/-- There is at least one piece. -/
lemma splitAt_ne_nil (sep : α) (xs : List α) : splitAt sep xs ≠ [] := by
  cases xs with
  | nil => simp [splitAt]
  | cons a rest =>
    rw [splitAt]
    split
    · simp
    · split <;> simp

variable [LawfulBEq α]

/-- The pieces of a list do not hold the separator. -/
lemma not_mem_of_mem_splitAt {xs piece : List α} (h : piece ∈ splitAt sep xs) : sep ∉ piece := by
  induction xs generalizing piece with
  | nil =>
    rw [splitAt, List.mem_singleton] at h
    simp [h]
  | cons a rest ih =>
    rw [splitAt] at h
    cases hrest : splitAt sep rest with
    | nil => exact absurd hrest (splitAt_ne_nil sep rest)
    | cons first others =>
      rw [hrest] at h ih
      dsimp only at h
      split at h
      case isTrue =>
        rcases List.mem_cons.mp h with rfl | h
        · simp
        · exact ih h
      case isFalse hne =>
        rcases List.mem_cons.mp h with rfl | h
        · rw [List.mem_cons, not_or]
          exact ⟨fun heq => hne (by simp [heq]), ih List.mem_cons_self⟩
        · exact ih (List.mem_cons_of_mem _ h)

/-- A piece without the separator is split off. -/
lemma splitAt_append {xs : List α} (hxs : sep ∉ xs) (rest : List α) :
    splitAt sep (xs ++ sep :: rest) = xs :: splitAt sep rest := by
  induction xs with
  | nil =>
    obtain ⟨piece, pieces, hsplit⟩ := List.exists_cons_of_ne_nil (splitAt_ne_nil sep rest)
    rw [List.nil_append, splitAt, hsplit]
    simp
  | cons a xs ih =>
    rw [List.mem_cons, not_or] at hxs
    rw [List.cons_append, splitAt, ih hxs.2]
    simp [Ne.symm hxs.1]

/-- A list without the separator is one piece. -/
lemma splitAt_of_not_mem {xs : List α} (hxs : sep ∉ xs) : splitAt sep xs = [xs] := by
  induction xs with
  | nil => rw [splitAt]
  | cons a xs ih =>
    rw [List.mem_cons, not_or] at hxs
    rw [splitAt, ih hxs.2]
    simp [Ne.symm hxs.1]

end Splitting

/-! ## Names -/

/-- The comma between names. -/
private abbrev comma : CodePoint := .char ','

/-- Names joined with commas, after some blanks, are split and trimmed back. -/
private lemma trim_split_join {names : List (List CodePoint)} (hne : names ≠ [])
    (hnames : ∀ ps ∈ names, comma ∉ ps ∧ trimPoints ps = ps) {lead : List CodePoint}
    (hlead : ∀ p ∈ lead, p.satisfies isBlank = true ∧ p ≠ comma) :
    (splitAt comma (lead ++ joinPoints ", " names)).map trimPoints = names := by
  have htrim : ∀ (lead ps : List CodePoint),
      (∀ p ∈ lead, p.satisfies isBlank = true ∧ p ≠ comma) → trimPoints ps = ps →
      trimPoints (lead ++ ps) = ps := by
    intro lead ps hlead hps
    rw [trimPoints, trimBy_append fun p hp => (hlead p hp).1]
    exact hps
  induction names generalizing lead with
  | nil => exact absurd rfl hne
  | cons ps rest ih =>
    obtain ⟨hcomma, hps⟩ := hnames ps List.mem_cons_self
    have hpiece : comma ∉ lead ++ ps := by
      rw [List.mem_append, not_or]
      exact ⟨fun hmem => (hlead _ hmem).2 rfl, hcomma⟩
    cases rest with
    | nil =>
      rw [joinPoints, List.intercalate_singleton, splitAt_of_not_mem hpiece]
      rw [List.map_cons, List.map_nil, htrim lead ps hlead hps]
    | cons ps' rest =>
      have hjoin : lead ++ joinPoints ", " (ps :: ps' :: rest) =
          (lead ++ ps) ++ comma :: ([.char ' '] ++ joinPoints ", " (ps' :: rest)) := by
        rw [joinPoints, List.intercalate_cons_cons]
        simp [joinPoints, points]
      have hblank : ∀ p ∈ [CodePoint.char ' '], p.satisfies isBlank = true ∧ p ≠ comma := by
        simp [CodePoint.satisfies, isBlank, Ranges.contains, blankRanges]
      rw [hjoin, splitAt_append hpiece, List.map_cons, htrim lead ps hlead hps,
        ih (by simp) (fun ps hps => hnames ps (List.mem_cons_of_mem _ hps)) hblank]

/-- Names joined with commas are split, trimmed and found back. -/
lemma names_of_join {β : Type} (f : List CodePoint → β) {names : List (List CodePoint)}
    (hnames : ∀ ps ∈ names, ps ≠ [] ∧ .char ',' ∉ ps ∧ trimPoints ps = ps) :
    ((splitAt (.char ',') (joinPoints ", " names)).map trimPoints).filterMap
      (fun name => if name.isEmpty then none else some (f name)) = names.map f := by
  rcases eq_or_ne names [] with rfl | hne
  · simp [joinPoints, List.intercalate, splitAt, trimPoints, trimBy]
  · have hsplit : (splitAt (.char ',') (joinPoints ", " names)).map trimPoints = names :=
      trim_split_join hne (fun ps hps => (hnames ps hps).2) fun p hp => absurd hp List.not_mem_nil
    rw [hsplit, ← List.filterMap_eq_map]
    refine List.filterMap_congr fun ps hps => ?_
    rw [if_neg (by simpa using (hnames ps hps).1)]
    rfl

end BlockText.Text

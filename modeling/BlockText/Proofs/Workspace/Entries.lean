import Mathlib
import BlockText.Datum.Basic

/-!
# Tables with keys

Blocks, positions and fields are kept in lists of entries.  This file says what looking up a key
gives after an entry was written or dropped, and which keys a table has then.
-/

namespace BlockText

variable {α : Type}

/-- Nothing is found in an empty table. -/
@[simp] lemma entryAt?_nil (key : String) : entryAt? ([] : List (String × α)) key = none := rfl

/-- The first entry with a key is the one that is found. -/
lemma entryAt?_cons (entry : String × α) (rest : List (String × α)) (key : String) :
    entryAt? (entry :: rest) key = if entry.1 = key then some entry.2 else entryAt? rest key := by
  by_cases h : entry.1 = key <;> simp [entryAt?, h]

/-- A key is found iff some entry has it. -/
lemma entryAt?_isSome_iff {entries : List (String × α)} {key : String} :
    (entryAt? entries key).isSome ↔ key ∈ entries.map (·.1) := by
  simp [entryAt?, List.find?_isSome]

/-- A key is not found iff no entry has it. -/
lemma entryAt?_eq_none_iff {entries : List (String × α)} {key : String} :
    entryAt? entries key = none ↔ key ∉ entries.map (·.1) := by
  rw [← entryAt?_isSome_iff]
  cases entryAt? entries key <;> simp

/-- What is found under a key is an entry of the table. -/
lemma mem_of_entryAt? {entries : List (String × α)} {key : String} {value : α}
    (h : entryAt? entries key = some value) : (key, value) ∈ entries := by
  obtain ⟨⟨k, v⟩, hfind, rfl⟩ := Option.map_eq_some_iff.mp h
  have hkey := List.find?_some hfind
  simp only [beq_iff_eq] at hkey
  exact hkey ▸ List.mem_of_find?_eq_some hfind

/-- In a table without repeated keys every entry is found under its key. -/
lemma entryAt?_of_mem {entries : List (String × α)} {key : String} {value : α}
    (hnd : (entries.map (·.1)).Nodup) (h : (key, value) ∈ entries) :
    entryAt? entries key = some value := by
  induction entries with
  | nil => simp at h
  | cons entry rest ih =>
    rw [List.map_cons, List.nodup_cons] at hnd
    rw [entryAt?_cons]
    rcases List.mem_cons.mp h with rfl | h
    · simp
    · have hne : entry.1 ≠ key := fun he => hnd.1 (he ▸ List.mem_map_of_mem h)
      rw [if_neg hne]
      exact ih hnd.2 h

/-- Looking up a key in two tables one after the other. -/
lemma entryAt?_append (xs ys : List (String × α)) (key : String) :
    entryAt? (xs ++ ys) key = (entryAt? xs key).or (entryAt? ys key) := by
  simp only [entryAt?, List.find?_append]
  cases xs.find? (·.1 == key) <;> simp

/-- Replacing the value of a key leaves the other keys alone. -/
private lemma entryAt?_map_replace (entries : List (String × α)) (key other : String) (value : α) :
    entryAt? (entries.map fun e => if e.1 == key then (key, value) else e) other =
      if other = key ∧ key ∈ entries.map (·.1) then some value else entryAt? entries other := by
  induction entries with
  | nil => simp
  | cons entry rest ih =>
    rw [List.map_cons, entryAt?_cons, entryAt?_cons, ih]
    by_cases hk : entry.1 = key
    · by_cases ho : other = key
      · simp [hk, ho]
      · simp [hk, ho, Ne.symm ho]
    · by_cases he : entry.1 = other
      · have hne : other ≠ key := fun h => hk (he.trans h)
        simp [he, hne]
      · simp only [hk, he, Ne.symm hk, beq_iff_eq, List.map_cons, List.mem_cons, false_or, if_false]

/-- Writing an entry changes what is found under its key and nothing else. -/
lemma entryAt?_putEntry (entries : List (String × α)) (key other : String) (value : α) :
    entryAt? (putEntry entries key value) other =
      if other = key then some value else entryAt? entries other := by
  unfold putEntry
  by_cases hany : entries.any (·.1 == key)
  · have hmem : key ∈ entries.map (·.1) := by simpa using hany
    rw [if_pos hany, entryAt?_map_replace]
    simp [hmem]
  · have hmem : key ∉ entries.map (·.1) := by simpa using hany
    rw [if_neg hany, entryAt?_append]
    by_cases ho : other = key
    · subst ho
      rw [entryAt?_eq_none_iff.mpr hmem, entryAt?_cons]
      simp
    · simp [entryAt?_cons, ho, Ne.symm ho]

/-- Of two entries that are written under one key the second stays. -/
lemma putEntry_putEntry {entries : List (String × α)} {key : String} (value value' : α)
    (h : key ∈ entries.map (·.1)) :
    putEntry (putEntry entries key value) key value' = putEntry entries key value' := by
  have hany : entries.any (·.1 == key) := by simpa using h
  have hany' : (entries.map fun e => if e.1 == key then (key, value) else e).any (·.1 == key) := by
    obtain ⟨e, he, hkey⟩ := List.any_eq_true.mp hany
    exact List.any_eq_true.mpr ⟨_, List.mem_map_of_mem he, by simp [hkey]⟩
  rw [putEntry, putEntry, if_pos hany, if_pos hany', putEntry, if_pos hany, List.map_map]
  refine List.map_congr_left fun e _ => ?_
  by_cases he : e.1 = key <;> simp [he]

/-- Writing an entry under a key that is there keeps the keys, in order. -/
lemma keys_putEntry_of_mem {entries : List (String × α)} {key : String} (value : α)
    (h : key ∈ entries.map (·.1)) :
    (putEntry entries key value).map (·.1) = entries.map (·.1) := by
  have hany : entries.any (·.1 == key) := by simpa using h
  rw [putEntry, if_pos hany, List.map_map]
  refine List.map_congr_left fun e _ => ?_
  by_cases he : e.1 = key <;> simp [he]

/-- Writing an entry under a new key adds the key at the end. -/
lemma keys_putEntry_of_not_mem {entries : List (String × α)} {key : String} (value : α)
    (h : key ∉ entries.map (·.1)) :
    (putEntry entries key value).map (·.1) = entries.map (·.1) ++ [key] := by
  have hany : ¬ entries.any (·.1 == key) := by simpa using h
  simp [putEntry, if_neg hany]

/-- The keys after an entry was written. -/
lemma mem_keys_putEntry {entries : List (String × α)} {key other : String} {value : α} :
    other ∈ (putEntry entries key value).map (·.1) ↔ other = key ∨ other ∈ entries.map (·.1) := by
  rw [← entryAt?_isSome_iff, entryAt?_putEntry, ← entryAt?_isSome_iff]
  by_cases h : other = key <;> simp [h]

/-- Writing an entry never repeats a key. -/
lemma nodup_keys_putEntry {entries : List (String × α)} (key : String) (value : α)
    (h : (entries.map (·.1)).Nodup) : ((putEntry entries key value).map (·.1)).Nodup := by
  by_cases hmem : key ∈ entries.map (·.1)
  · rwa [keys_putEntry_of_mem value hmem]
  · rw [keys_putEntry_of_not_mem value hmem]
    exact List.nodup_append.mpr ⟨h, List.nodup_singleton key, by
      rintro a ha b hb rfl
      exact hmem (List.mem_singleton.mp hb ▸ ha)⟩

/-- What is found after an entry was dropped. -/
lemma entryAt?_dropEntry (entries : List (String × α)) (key other : String) :
    entryAt? (dropEntry entries key) other =
      if other = key then none else entryAt? entries other := by
  induction entries with
  | nil => simp [dropEntry]
  | cons entry rest ih =>
    unfold dropEntry at ih ⊢
    by_cases hk : entry.1 = key
    · rw [List.filter_cons_of_neg (by simp [hk]), ih, entryAt?_cons]
      by_cases ho : other = key
      · simp [ho]
      · simp [hk, ho, Ne.symm ho]
    · rw [List.filter_cons_of_pos (by simp [hk]), entryAt?_cons, entryAt?_cons, ih]
      by_cases he : entry.1 = other
      · have hne : other ≠ key := fun h => hk (he.trans h)
        simp [he, hne]
      · simp [he]

/-- The keys after an entry was dropped. -/
lemma keys_dropEntry (entries : List (String × α)) (key : String) :
    (dropEntry entries key).map (·.1) = (entries.map (·.1)).filter (· != key) := by
  rw [dropEntry, List.filter_map]
  rfl

/-- Of the entries that are written under one key the last one is found. -/
lemma entryAt?_putAll (es entries : List (String × α)) (key : String) :
    entryAt? (es.foldl (fun entries e => putEntry entries e.1 e.2) entries) key =
      (entryAt? es.reverse key).or (entryAt? entries key) := by
  induction es generalizing entries with
  | nil => simp
  | cons e rest ih =>
    rw [List.foldl_cons, ih, entryAt?_putEntry, List.reverse_cons, entryAt?_append, entryAt?_cons,
      entryAt?_nil, Option.or_assoc]
    congr 1
    by_cases hkey : e.1 = key
    · simp [hkey]
    · simp [hkey, Ne.symm hkey]

end BlockText

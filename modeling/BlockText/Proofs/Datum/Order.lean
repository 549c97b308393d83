import BlockText.Datum.Json
import BlockText.Proofs.Datum.Core

/-!
# The order of entries

The order of the entries of an object does not matter for equality, and JSON text lists them in the
order of their keys.  So every datum has a sorted form, with the entries of every object in that
order.  Data with one sorted form are equal, and in particular a datum equals its sorted form, if
objects name no entry twice.
-/

namespace BlockText.Datum

/-! ## Sorting entries -/

section Entries

variable {α β : Type}

/-- The entries in the order of their keys. -/
def sortEntries (entries : List (String × α)) : List (String × α) :=
  entries.mergeSort fun a b => !(b.1 < a.1)

/-- Sorting rearranges entries. -/
lemma sortEntries_perm (entries : List (String × α)) : (sortEntries entries).Perm entries :=
  List.mergeSort_perm _ _

@[simp] lemma mem_sortEntries {entry : String × α} {entries : List (String × α)} :
    entry ∈ sortEntries entries ↔ entry ∈ entries :=
  (sortEntries_perm entries).mem_iff

/-- Sorting does not look at values. -/
lemma map_sortEntries (f : String × α → String × β) (hf : ∀ entry, (f entry).1 = entry.1)
    (entries : List (String × α)) :
    (sortEntries entries).map f = sortEntries (entries.map f) := by
  refine List.map_mergeSort fun a _ b _ => ?_
  rw [hf, hf]

/-- Sorted entries stay as they are. -/
lemma sortEntries_sortEntries (entries : List (String × α)) :
    sortEntries (sortEntries entries) = sortEntries entries := by
  refine List.mergeSort_of_pairwise (List.pairwise_mergeSort ?_ ?_ entries)
  · intro a b c hab hbc
    simp only [Bool.not_eq_true', decide_eq_false_iff_not, String.not_lt] at *
    exact String.le_trans hab hbc
  · intro a b
    simp only [Bool.or_eq_true, Bool.not_eq_true', decide_eq_false_iff_not, String.not_lt]
    exact String.le_total a.1 b.1

/-- Entries whose keys differ are found where they were. -/
lemma entryAt?_sortEntries {entries : List (String × α)} (h : (entries.map (·.1)).Nodup)
    (key : String) : entryAt? (sortEntries entries) key = entryAt? entries key := by
  have hsorted : ((sortEntries entries).map (·.1)).Nodup :=
    ((sortEntries_perm entries).map (·.1)).nodup_iff.mpr h
  cases hfound : entryAt? entries key with
  | none =>
    rw [entryAt?_eq_none_iff] at hfound ⊢
    rwa [((sortEntries_perm entries).map (·.1)).mem_iff]
  | some value =>
    exact entryAt?_of_mem hsorted (mem_sortEntries.mpr (mem_of_entryAt? hfound))

end Entries

/-! ## Sorted data -/

mutual

/-- The datum with the entries of every object in the order of their keys. -/
def sorted : Datum → Datum
  | null => null
  | bool b => bool b
  | int n => int n
  | float d => float d
  | text s => text s
  | surrogates t => surrogates t
  | list items => list (sortedList items)
  | object entries => object (sortEntries (sortedEntries entries))
  | record tag fields => record tag (sortedList fields)

/-- The sorted forms of items. -/
def sortedList : List Datum → List Datum
  | [] => []
  | d :: rest => sorted d :: sortedList rest

/-- The sorted forms of the values of entries. -/
def sortedEntries : List (String × Datum) → List (String × Datum)
  | [] => []
  | (key, d) :: rest => (key, sorted d) :: sortedEntries rest

end

lemma sortedList_eq_map (ds : List Datum) : sortedList ds = ds.map sorted := by
  induction ds with
  | nil => rfl
  | cons d rest ih => rw [sortedList, ih, List.map_cons]

lemma sortedEntries_eq_map (entries : List (String × Datum)) :
    sortedEntries entries = entries.map fun e => (e.1, e.2.sorted) := by
  induction entries with
  | nil => rfl
  | cons e rest ih => rw [sortedEntries, ih, List.map_cons]

/-- Values may be sorted before or after their entries are. -/
lemma sortedEntries_sortEntries (entries : List (String × Datum)) :
    sortedEntries (sortEntries entries) = sortEntries (sortedEntries entries) := by
  rw [sortedEntries_eq_map, sortedEntries_eq_map]
  exact map_sortEntries (fun e => (e.1, e.2.sorted)) (fun _ => rfl) entries

mutual

/-- A sorted datum stays as it is. -/
theorem sorted_sorted : (d : Datum) → d.sorted.sorted = d.sorted
  | null | bool _ | int _ | float _ | text _ | surrogates _ => by simp only [sorted]
  | list items => by rw [sorted, sorted, sortedList_sortedList items]
  | object entries => by
    rw [sorted, sorted, sortedEntries_sortEntries, sortedEntries_sortedEntries entries,
      sortEntries_sortEntries]
  | record tag fields => by rw [sorted, sorted, sortedList_sortedList fields]

/-- Sorted items stay as they are. -/
theorem sortedList_sortedList : (ds : List Datum) → sortedList (sortedList ds) = sortedList ds
  | [] => rfl
  | d :: rest => by
    rw [sortedList, sortedList, sorted_sorted d, sortedList_sortedList rest]

/-- Sorted values stay as they are. -/
theorem sortedEntries_sortedEntries : (entries : List (String × Datum)) →
    sortedEntries (sortedEntries entries) = sortedEntries entries
  | [] => rfl
  | (key, d) :: rest => by
    rw [sortedEntries, sortedEntries, sorted_sorted d, sortedEntries_sortedEntries rest]

end

/-! ## Equality -/

/-- A number equals itself. -/
lemma equal_self (a : Decimal) : a.equal a = true := by
  simp [Decimal.equal]

/-- An object with the sorted form of another one has an entry for each of its entries. -/
private lemma exists_entryAt?_of_sortEntries_eq {entries entries' : List (String × Datum)}
    (hnd : (entries'.map (·.1)).Nodup)
    (h : sortEntries (sortedEntries entries) = sortEntries (sortedEntries entries')) {key : String}
    {d : Datum} (hd : (key, d) ∈ entries) :
    ∃ d', entryAt? entries' key = some d' ∧ (key, d') ∈ entries' ∧ d.sorted = d'.sorted := by
  have hmem : (key, d.sorted) ∈ sortedEntries entries' := by
    rw [← mem_sortEntries, ← h, mem_sortEntries, sortedEntries_eq_map]
    exact List.mem_map_of_mem (f := fun e : String × Datum => (e.1, e.2.sorted)) hd
  rw [sortedEntries_eq_map] at hmem
  obtain ⟨⟨key', d'⟩, hd', heq⟩ := List.mem_map.mp hmem
  obtain ⟨rfl, hsorted⟩ := Prod.mk.inj heq
  exact ⟨d', entryAt?_of_mem hnd hd', hd', hsorted.symm⟩

private lemma length_eq_of_sortEntries_eq {entries entries' : List (String × Datum)}
    (h : sortEntries (sortedEntries entries) = sortEntries (sortedEntries entries')) :
    entries.length = entries'.length := by
  have hlength := congrArg List.length h
  rwa [(sortEntries_perm _).length_eq, (sortEntries_perm _).length_eq, sortedEntries_eq_map,
    sortedEntries_eq_map, List.length_map, List.length_map] at hlength

lemma keyedEntries_iff {entries : List (String × Datum)} :
    KeyedEntries entries ↔ ∀ e ∈ entries, e.2.Keyed := by
  induction entries with
  | nil => simp [KeyedEntries]
  | cons e rest ih => simp [KeyedEntries, ih]

mutual

/-- A datum equals every datum with its sorted form that repeats no name. -/
theorem equiv_of_sorted_eq : (d d' : Datum) → d'.Keyed → d.sorted = d'.sorted → d.equiv d' = true
  | null, d', _, h | bool _, d', _, h | int _, d', _, h | float _, d', _, h | text _, d', _, h
  | surrogates _, d', _, h => by
    cases d' <;> simp_all [sorted, equiv, number?, equal_self]
  | list items, d', hkeyed, h => by
    cases d' with
    | list items' =>
      rw [equiv]
      exact equivList_of_sorted_eq items items' hkeyed (by simpa [sorted] using h)
    | _ => simp [sorted] at h
  | object entries, d', hkeyed, h => by
    cases d' with
    | object entries' =>
      have hsorted : sortEntries (sortedEntries entries) = sortEntries (sortedEntries entries') := by
        simpa [sorted] using h
      rw [equiv, Bool.and_eq_true]
      refine ⟨by simp [length_eq_of_sortEntries_eq hsorted], ?_⟩
      refine equivEntries_of_sorted_eq entries entries' fun key d hd => ?_
      obtain ⟨d', hfound, hmem, heq⟩ :=
        exists_entryAt?_of_sortEntries_eq hkeyed.1 hsorted hd
      exact ⟨d', hfound, keyedEntries_iff.mp hkeyed.2 _ hmem, heq⟩
    | _ => simp [sorted] at h
  | record tag fields, d', hkeyed, h => by
    cases d' with
    | record tag' fields' =>
      obtain ⟨rfl, hfields⟩ : tag = tag' ∧ sortedList fields = sortedList fields' := by
        simpa [sorted] using h
      rw [equiv, Bool.and_eq_true]
      exact ⟨by simp, equivList_of_sorted_eq fields fields' hkeyed hfields⟩
    | _ => simp [sorted] at h

/-- Items equal items with their sorted forms. -/
theorem equivList_of_sorted_eq : (ds ds' : List Datum) → KeyedList ds' →
    sortedList ds = sortedList ds' → equivList ds ds' = true
  | [], ds', _, h => by
    cases ds' with
    | nil => simp [equivList]
    | cons d' rest' => simp [sortedList] at h
  | d :: rest, ds', hkeyed, h => by
    cases ds' with
    | nil => simp [sortedList] at h
    | cons d' rest' =>
      obtain ⟨hd, hrest⟩ : d.sorted = d'.sorted ∧ sortedList rest = sortedList rest' := by
        simpa [sortedList] using h
      rw [equivList, Bool.and_eq_true]
      exact ⟨equiv_of_sorted_eq d d' hkeyed.1 hd,
        equivList_of_sorted_eq rest rest' hkeyed.2 hrest⟩

/-- Entries equal entries in which each of their keys has a value with its sorted form. -/
theorem equivEntries_of_sorted_eq : (entries all : List (String × Datum)) →
    (∀ key d, (key, d) ∈ entries →
      ∃ d', entryAt? all key = some d' ∧ d'.Keyed ∧ d.sorted = d'.sorted) →
    equivEntries entries all = true
  | [], _, _ => by simp [equivEntries]
  | (key, d) :: rest, all, h => by
    obtain ⟨d', hfound, hkeyed, hd⟩ := h key d List.mem_cons_self
    obtain ⟨⟨key', value⟩, hfind, hvalue⟩ := Option.map_eq_some_iff.mp hfound
    obtain rfl : value = d' := hvalue
    rw [equivEntries, Bool.and_eq_true, hfind]
    exact ⟨equiv_of_sorted_eq d value hkeyed hd,
      equivEntries_of_sorted_eq rest all fun key d hd => h key d (List.mem_cons_of_mem _ hd)⟩

end

/-- A datum that repeats no name equals itself. -/
theorem equiv_self (d : Datum) (h : d.Keyed) : d.equiv d = true :=
  equiv_of_sorted_eq d d h rfl

/-- A datum that repeats no name equals its sorted form. -/
theorem equiv_sorted (d : Datum) (h : d.Keyed) : d.sorted.equiv d = true :=
  equiv_of_sorted_eq d.sorted d h d.sorted_sorted

end BlockText.Datum

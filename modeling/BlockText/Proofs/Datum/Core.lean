import BlockText.Datum.Shape
import BlockText.Proofs.Workspace.Entries

/-!
# The core of a datum

The core of a datum is its plain data without information and without statements that hold no code.
Records with equal cores in all fields but the information have equal cores, and so have lists whose
items have.  Plain data and cores name no entry twice if the data do not.
-/

namespace BlockText.Datum

/-- The plain data without information and without statements that hold no code. -/
def core (d : Datum) : Datum := strip d.plain

/-- The cores of items, without statements that hold no code. -/
def coreList (ds : List Datum) : List Datum := stripList (plainList ds)

/-- The cores of fields, each under its name, without information. -/
def coreFields (names : List String) (ds : List Datum) : List (String × Datum) :=
  stripEntries (plainFields names ds)

/-! ## Computing cores -/

section Computing

attribute [local simp] core coreList coreFields plain plainList plainFields
  strip stripList stripEntries

@[simp] lemma core_null : core null = null := by simp

@[simp] lemma core_bool (b : Bool) : core (bool b) = bool b := by simp

@[simp] lemma core_int (n : ℤ) : core (int n) = int n := by simp

@[simp] lemma core_text (s : String) : core (text s) = text s := by simp

@[simp] lemma core_surrogates (t : SurrogateText) : core (surrogates t) = surrogates t := by simp

@[simp] lemma core_list (ds : List Datum) : core (list ds) = list (coreList ds) := by simp

lemma core_record (tag : Tag) (ds : List Datum) :
    core (record tag ds) =
      object ((tagKey, text tag.name) :: coreFields (tag.fields.map (·.name)) ds) := by
  have htag : tagKey ≠ "meta" := by decide
  simp [htag]

@[simp] lemma coreFields_nil (ds : List Datum) : coreFields [] ds = [] := by simp

@[simp] lemma coreFields_cons (name : String) (names : List String) (d : Datum) (ds : List Datum) :
    coreFields (name :: names) (d :: ds) =
      if name = "meta" then coreFields names ds else (name, d.core) :: coreFields names ds := by
  by_cases h : name = "meta" <;> simp [h]

end Computing

/-! ## Lists -/

/-- Statements without code are recognized by their cores. -/
lemma isEmptyStatement_strip (d : Datum) : d.strip.isEmptyStatement = d.isEmptyStatement := by
  have hentry : ∀ entries : List (String × Datum),
      entryAt? (stripEntries entries) tagKey = (entryAt? entries tagKey).map strip := by
    intro entries
    induction entries with
    | nil => simp [stripEntries]
    | cons entry rest ih =>
      obtain ⟨key, d⟩ := entry
      by_cases hmeta : key = "meta"
      · have hkey : key ≠ tagKey := by rw [hmeta]; decide
        rw [stripEntries, if_pos (by simpa using hmeta), ih, entryAt?_cons, if_neg hkey]
      · rw [stripEntries, if_neg (by simpa using hmeta), entryAt?_cons, entryAt?_cons, ih]
        split <;> rfl
  cases d with
  | object entries =>
    simp only [strip, isEmptyStatement, hentry]
    cases entryAt? entries tagKey with
    | none => rfl
    | some d => cases d <;> simp [strip]
  | _ => simp [strip, isEmptyStatement]

/-- The datum is a statement without code. -/
def isBlank (d : Datum) : Bool := d.plain.isEmptyStatement

/-- Documents with one core are blank together. -/
lemma isBlank_eq_of_core_eq {d d' : Datum} (h : d.core = d'.core) : d.isBlank = d'.isBlank := by
  unfold isBlank
  rw [← isEmptyStatement_strip, ← isEmptyStatement_strip d'.plain]
  exact congrArg isEmptyStatement h

@[simp] lemma coreList_nil : coreList [] = [] := by simp [coreList, plainList, stripList]

lemma coreList_cons (d : Datum) (ds : List Datum) :
    coreList (d :: ds) = if d.isBlank then coreList ds else d.core :: coreList ds := by
  cases h : d.isBlank <;> simp_all [coreList, plainList, stripList, isBlank, core]

/-- The core of two lists is that of the first and that of the second. -/
lemma coreList_append (ds ds' : List Datum) :
    coreList (ds ++ ds') = coreList ds ++ coreList ds' := by
  induction ds with
  | nil => simp
  | cons d rest ih =>
    rw [List.cons_append, coreList_cons, coreList_cons, ih]
    split <;> simp

/-- Items with equal cores and rests with equal cores. -/
lemma coreList_cons_congr {d d' : Datum} {ds ds' : List Datum} (h : d.core = d'.core)
    (hrest : coreList ds = coreList ds') : coreList (d :: ds) = coreList (d' :: ds') := by
  rw [coreList_cons, coreList_cons, isBlank_eq_of_core_eq h, h, hrest]

/-- Lists of items with equal cores. -/
lemma coreList_congr {ds ds' : List Datum}
    (h : List.Forall₂ (fun d d' : Datum => d.core = d'.core) ds ds') :
    coreList ds = coreList ds' := by
  induction h with
  | nil => rfl
  | cons hd _ ih => exact coreList_cons_congr hd ih

/-! ## Data without repeated names -/

mutual

/-- No object in the datum names an entry twice. -/
def Keyed : Datum → Prop
  | list items => KeyedList items
  | object entries => (entries.map (·.1)).Nodup ∧ KeyedEntries entries
  | record _ fields => KeyedList fields
  | _ => True

/-- No object in the data names an entry twice. -/
def KeyedList : List Datum → Prop
  | [] => True
  | d :: rest => Keyed d ∧ KeyedList rest

/-- No object in the entries names an entry twice. -/
def KeyedEntries : List (String × Datum) → Prop
  | [] => True
  | (_, d) :: rest => Keyed d ∧ KeyedEntries rest

end

/-- The names of the fields of a class are different, and none is the key of the class name. -/
lemma nodup_fieldNames (tag : Tag) : (tagKey :: tag.fields.map (·.name)).Nodup := by
  cases tag <;> decide

/-- The names under which fields are listed. -/
lemma keys_plainFields_sublist (names : List String) (ds : List Datum) :
    ((plainFields names ds).map (·.1)).Sublist names := by
  induction names generalizing ds with
  | nil => simp [plainFields]
  | cons name names ih =>
    cases ds with
    | nil => simp [plainFields]
    | cons d ds =>
      rw [plainFields, List.map_cons]
      exact (ih ds).cons_cons name

mutual

/-- Plain data name no entry twice. -/
theorem keyed_plain : (d : Datum) → d.Keyed → d.plain.Keyed
  | null, _ | bool _, _ | int _, _ | float _, _ | text _, _ | surrogates _, _ => by
    simp [plain, Keyed]
  | list items, h => by
    rw [plain, Keyed]
    exact keyedList_plain items h
  | object entries, h => by rwa [plain]
  | record tag fields, h => by
    simp only [plain, Keyed, KeyedEntries, true_and]
    refine ⟨?_, keyedEntries_plain _ fields h⟩
    exact (nodup_fieldNames tag).sublist ((keys_plainFields_sublist _ fields).cons_cons tagKey)

/-- Plain items name no entry twice. -/
theorem keyedList_plain : (ds : List Datum) → KeyedList ds → KeyedList (plainList ds)
  | [], _ => by simp [plainList, KeyedList]
  | d :: rest, h => by
    rw [plainList, KeyedList]
    exact ⟨keyed_plain d h.1, keyedList_plain rest h.2⟩

/-- Plain fields name no entry twice. -/
theorem keyedEntries_plain : (names : List String) → (ds : List Datum) → KeyedList ds →
    KeyedEntries (plainFields names ds)
  | [], _, _ => by simp [plainFields, KeyedEntries]
  | _ :: _, [], _ => by simp [plainFields, KeyedEntries]
  | _ :: names, d :: rest, h => by
    rw [plainFields, KeyedEntries]
    exact ⟨keyed_plain d h.1, keyedEntries_plain names rest h.2⟩

end

/-- Removing information leaves a part of the names. -/
lemma keys_stripEntries_sublist (entries : List (String × Datum)) :
    ((stripEntries entries).map (·.1)).Sublist (entries.map (·.1)) := by
  induction entries with
  | nil => simp [stripEntries]
  | cons entry rest ih =>
    obtain ⟨key, d⟩ := entry
    rw [stripEntries]
    split
    · exact ih.cons key
    · exact ih.cons_cons key

mutual

/-- Removing information repeats no name. -/
theorem keyed_strip : (d : Datum) → d.Keyed → d.strip.Keyed
  | null, _ | bool _, _ | int _, _ | float _, _ | text _, _ | surrogates _, _ => by
    simp [strip, Keyed]
  | list items, h => by
    rw [strip, Keyed]
    exact keyedList_strip items h
  | object entries, h => by
    rw [strip, Keyed]
    exact ⟨h.1.sublist (keys_stripEntries_sublist entries), keyedEntries_strip entries h.2⟩
  | record tag fields, h => by simpa only [strip] using h

/-- Removing information from items repeats no name. -/
theorem keyedList_strip : (ds : List Datum) → KeyedList ds → KeyedList (stripList ds)
  | [], _ => by simp [stripList, KeyedList]
  | d :: rest, h => by
    rw [stripList]
    split
    · exact keyedList_strip rest h.2
    · exact ⟨keyed_strip d h.1, keyedList_strip rest h.2⟩

/-- Removing information from entries repeats no name. -/
theorem keyedEntries_strip : (entries : List (String × Datum)) → KeyedEntries entries →
    KeyedEntries (stripEntries entries)
  | [], _ => by simp [stripEntries, KeyedEntries]
  | (key, d) :: rest, h => by
    rw [stripEntries]
    split
    · exact keyedEntries_strip rest h.2
    · exact ⟨keyed_strip d h.1, keyedEntries_strip rest h.2⟩

end

end BlockText.Datum

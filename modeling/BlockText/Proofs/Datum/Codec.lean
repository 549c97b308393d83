import BlockText.Proofs.Datum.Trees

/-!
# Reading documents back

The sorted plain data of a tree hold every record under its class name and the names of its fields,
so reading them gives the sorted form of the tree.  Reading also inverts writing, so a tree without
pairs of surrogates and without too long integers that was written as JSON text is read back, and
such trees with one text are equal, up to the order of entries.  A pair of surrogates has the text
of the character that it stands for.
-/

namespace BlockText.Datum

/-! ## Reading plain data -/

lemma ofName?_name (tag : Tag) : Tag.ofName? tag.name = some tag := by
  cases tag <;> decide

/-- Items that are all read are read one by one. -/
lemma readItems_map {rule : FieldRule} {before after : Datum → Datum} {items : List Datum}
    (h : ∀ d ∈ items, readValue rule (before d) = .ok (after d)) :
    readItems rule (items.map before) = .ok (items.map after) := by
  induction items with
  | nil => simp [readItems]
  | cons d rest ih =>
    have hrest := ih fun d' hd' => h d' (List.mem_cons_of_mem _ hd')
    rw [List.map_cons, readItems, h d List.mem_cons_self, hrest]
    rfl

/-- A filtering pass that keeps every member. -/
lemma filterMapM_eq_ok_map {α β : Type} {f : α → Except Fault (Option β)} {g : α → β}
    {as : List α} (h : ∀ a ∈ as, f a = .ok (some (g a))) :
    as.filterMapM f = .ok (as.map g) := by
  induction as with
  | nil => rfl
  | cons a rest ih =>
    have hrest := ih fun a' ha' => h a' (List.mem_cons_of_mem _ ha')
    rw [List.filterMapM_cons, h a List.mem_cons_self]
    simp [hrest, bind, Except.bind, pure, Except.pure]

/-- The reading of the entry of a field. -/
lemma entryAt?_readEach {tag : Tag} {entries : List (String × Datum)} {f : Field}
    (hf : f ∈ tag.fields) {d : Datum} (h : entryAt? entries f.name = some d) :
    entryAt? (readEach tag entries) f.name = some (readValue f.rule d) := by
  rw [readEach_eq_map]
  induction entries with
  | nil => simp at h
  | cons e rest ih =>
    rw [entryAt?_cons] at h
    rw [List.map_cons, entryAt?_cons]
    by_cases hkey : e.1 = f.name
    · obtain rfl : e.2 = d := by simpa [hkey] using h
      simp [hkey, find?_field hf]
    · simpa [hkey] using ih (by simpa [hkey] using h)

/-- A record is read from entries that hold its class name and its fields. -/
lemma readEntries_of_entryAt? {entries : List (String × Datum)} {tag : Tag}
    (value : Field → Datum) (htag : entryAt? entries tagKey = some (text tag.name))
    (hread : ∀ f ∈ tag.fields, ∃ d, entryAt? entries f.name = some d ∧
      readValue f.rule d = .ok (value f)) :
    readEntries entries = .ok (record tag (tag.fields.map value)) := by
  have hclass : tagOf entries = .ok tag := by
    simp [tagOf, htag, ofName?_name]
  have hfound : ∀ f ∈ tag.fields,
      entryAt? (tag.fields.map fun f => (f.name, value f)) f.name = some (value f) := by
    intro f hf
    refine entryAt?_of_mem ?_ (List.mem_map_of_mem (f := fun f => (f.name, value f)) hf)
    rw [List.map_map]
    exact (List.nodup_cons.mp (nodup_fieldNames tag)).2
  have hmissing : (tag.fields.filter fun f => f.default?.isNone &&
      (entryAt? (tag.fields.map fun f => (f.name, value f)) f.name).isNone) = [] := by
    refine List.filter_eq_nil_iff.mpr fun f hf => ?_
    simp [hfound f hf]
  have hfields : (tag.fields.map fun f =>
      ((entryAt? (tag.fields.map fun f => (f.name, value f)) f.name).or f.default?).getD null) =
        tag.fields.map value := by
    refine List.map_congr_left fun f hf => ?_
    simp [hfound f hf]
  rw [readEntries, hclass]
  refine bind_eq_ok_iff.mpr ⟨tag, rfl, bind_eq_ok_iff.mpr
    ⟨_, filterMapM_eq_ok_map (g := fun f => (f.name, value f)) fun f hf => ?_, ?_⟩⟩
  · obtain ⟨d, hentry, hvalue⟩ := hread f hf
    obtain ⟨⟨key, result⟩, hfind, rfl⟩ :=
      Option.map_eq_some_iff.mp (entryAt?_readEach hf hentry)
    simp only [hfind, hvalue]
    rfl
  · rw [assemble, hmissing, hfields]
    rfl

/-- An object that names its class is read as a record. -/
lemma readValue_of_tagged (rule : FieldRule) {entries : List (String × Datum)}
    (h : tagKey ∈ entries.map (·.1)) : readValue rule (object entries) = readEntries entries := by
  have hany : entries.any (·.1 == tagKey) = true := by simpa using h
  simp [readValue.eq_def, hany]

/-- The entries of a record in the order of their keys. -/
def recordEntries (tag : Tag) (value : Field → Datum) : List (String × Datum) :=
  sortEntries ((tagKey, text tag.name) :: tag.fields.map fun f => (f.name, value f))

lemma plain_sorted_record (tag : Tag) (value : Field → Datum) :
    (record tag (tag.fields.map value)).plain.sorted =
      object (recordEntries tag fun f => (value f).plain.sorted) := by
  rw [plain_record, sorted, sortedEntries_eq_map, List.map_cons, List.map_map]
  simp only [sorted]
  rfl

/-- The class name is found under its key. -/
lemma entryAt?_recordEntries_tag (tag : Tag) (value : Field → Datum) :
    entryAt? (recordEntries tag value) tagKey = some (text tag.name) := by
  have hnd := nodup_keys_record tag value
  rw [recordEntries, entryAt?_sortEntries hnd]
  exact entryAt?_of_mem hnd List.mem_cons_self

/-- The value of a field is found under its name. -/
lemma entryAt?_recordEntries_field {tag : Tag} (value : Field → Datum) {f : Field}
    (hf : f ∈ tag.fields) : entryAt? (recordEntries tag value) f.name = some (value f) := by
  have hnd := nodup_keys_record tag value
  have hmem : (f.name, value f) ∈ tag.fields.map fun f => (f.name, value f) :=
    List.mem_map_of_mem hf
  rw [recordEntries, entryAt?_sortEntries hnd]
  exact entryAt?_of_mem hnd (List.mem_cons_of_mem _ hmem)

lemma tagKey_mem_recordEntries (tag : Tag) (value : Field → Datum) :
    tagKey ∈ (recordEntries tag value).map (·.1) := by
  have hmem := mem_of_entryAt? (entryAt?_recordEntries_tag tag value)
  exact List.mem_map_of_mem (f := Prod.fst) hmem

/-- Reading the sorted plain data of a tree gives its sorted form. -/
theorem readValue_plain_sorted {rule : FieldRule} {x : Datum} (h : IsTree rule x) :
    readValue rule x.plain.sorted = .ok x.sorted := by
  induction h with
  | null rule => simp [plain, sorted, readValue]
  | bool isOpen b => rw [plain, sorted]; exact readValue_of_isOpen isOpen trivial
  | int isOpen n => rw [plain, sorted]; exact readValue_of_isOpen isOpen trivial
  | surrogates isOpen t => rw [plain, sorted]; exact readValue_of_isOpen isOpen trivial
  | @text rule s spelled =>
    rw [plain, sorted]
    rcases isOpen_or rule with hrule | ⟨vocabulary, rfl⟩
    · exact readValue_of_isOpen hrule trivial
    · have hs : s ∈ vocabulary.spellings := spelled vocabulary rfl
      rw [readValue_choice vocabulary (d := Datum.text s) trivial]
      exact checkChoice_eq_ok_iff.mpr ⟨s, hs, rfl, rfl⟩
  | @list rule items _ ih =>
    have hitems : readItems (itemRule rule) (items.map (sorted ∘ plain)) = .ok (items.map sorted) :=
      readItems_map ih
    rw [plain, sorted, sorted, plainList_eq_map, sortedList_eq_map, sortedList_eq_map, List.map_map,
      readValue_list, hitems]
    rfl
  | @object rule entries isOpen untagged json =>
    have hsame : (sortedEntries entries).map (·.1) = entries.map (·.1) := by
      rw [sortedEntries_eq_map, List.map_map]
      rfl
    have hkeys : ((sortEntries (sortedEntries entries)).map (·.1)).Perm (entries.map (·.1)) := by
      rw [← hsame]
      exact (sortEntries_perm _).map _
    rw [plain, sorted]
    refine readValue_of_isOpen isOpen ?_
    rwa [Stays, hkeys.mem_iff]
  | @record rule tag value _ ih =>
    have hread := readEntries_of_entryAt? (fun f => (value f).sorted)
      (entryAt?_recordEntries_tag tag fun f => (value f).plain.sorted)
      fun f hf => ⟨_, entryAt?_recordEntries_field _ hf, ih f hf⟩
    rw [plain_sorted_record, readValue_of_tagged rule (tagKey_mem_recordEntries _ _), hread, sorted,
      sortedList_eq_map, List.map_map]
    rfl

/-- A document names its class. -/
lemma exists_tagged_of_ofPlain {d x : Datum} (h : ofPlain d = .ok x) :
    ∃ entries, d = object entries ∧ tagKey ∈ entries.map (·.1) ∧ readEntries entries = .ok x := by
  cases d with
  | object entries =>
    have hread : readEntries entries = .ok x := h
    refine ⟨entries, rfl, ?_, hread⟩
    rw [readEntries] at hread
    obtain ⟨tag, htag, -⟩ := bind_eq_ok_iff.mp hread
    by_contra hkey
    simp [tagOf, entryAt?_eq_none_iff.mpr hkey] at htag
  | _ => simp [ofPlain] at h

/-- A document that was read is a record that is a tree. -/
lemma isTree_of_ofPlain {d x : Datum} (hd : d.IsJson) (h : ofPlain d = .ok x) :
    IsTree .any x := by
  obtain ⟨entries, rfl, htagged, hread⟩ := exists_tagged_of_ofPlain h
  rw [← readValue_of_tagged .any htagged] at hread
  exact isTree_of_readValue hd hread

/-- A document that was read is read from its sorted plain data. -/
lemma ofPlain_plain_sorted {d x : Datum} (hd : d.IsJson) (h : ofPlain d = .ok x) :
    ofPlain x.plain.sorted = .ok x.sorted := by
  have hread := readValue_plain_sorted (isTree_of_ofPlain hd h)
  obtain ⟨entries, rfl, -, hentries⟩ := exists_tagged_of_ofPlain h
  obtain ⟨tag, value, rfl, -⟩ := exists_record_of_readEntries hentries
  rw [plain_sorted_record] at hread ⊢
  rwa [readValue_of_tagged .any (tagKey_mem_recordEntries _ _)] at hread

/-! ## Writing and reading -/

mutual

/-- A tree is written as its plain data are. -/
theorem toJson_plain : (d : Datum) → d.plain.toJson = d.toJson
  | null | bool _ | int _ | float _ | text _ | surrogates _ => by rw [plain]
  | list items => by rw [plain, toJson, toJson, toJsonList_plainList items]
  | object entries => by rw [plain]
  | record tag fields => by
    rw [plain, toJson, toJson, toJsonEntries, toJson, toJsonEntries_plainFields _ fields]

/-- Items are written as their plain data are. -/
theorem toJsonList_plainList : (ds : List Datum) → toJsonList (plainList ds) = toJsonList ds
  | [] => by rw [plainList]
  | d :: rest => by rw [plainList, toJsonList, toJsonList, toJson_plain d, toJsonList_plainList rest]

/-- Fields are written as their plain data are. -/
theorem toJsonEntries_plainFields : (names : List String) → (ds : List Datum) →
    toJsonEntries (plainFields names ds) = toJsonFields names ds
  | [], _ => by simp [plainFields, toJsonFields, toJsonEntries]
  | _ :: _, [] => by simp [plainFields, toJsonFields, toJsonEntries]
  | name :: names, d :: rest => by
    rw [plainFields, toJsonFields, toJsonEntries, toJson_plain d,
      toJsonEntries_plainFields names rest]

end

mutual

/-- Plain data hold a pair of surrogates only where the tree does. -/
theorem Unpaired.plain : (d : Datum) → d.Unpaired → d.plain.Unpaired
  | null, h | bool _, h | int _, h | float _, h | text _, h | surrogates _, h | object _, h => by
    rwa [Datum.plain]
  | list items, h => by
    rw [Datum.plain]
    exact unpairedList_plainList items h
  | record tag fields, h => by
    rw [Datum.plain]
    exact ⟨trivial, unpairedEntries_plainFields _ fields h⟩

/-- Plain items hold a pair of surrogates only where the items do. -/
theorem unpairedList_plainList : (ds : List Datum) → UnpairedList ds → UnpairedList (plainList ds)
  | [], _ => trivial
  | d :: rest, h => ⟨Unpaired.plain d h.1, unpairedList_plainList rest h.2⟩

/-- Plain fields hold a pair of surrogates only where the fields do. -/
theorem unpairedEntries_plainFields : (names : List String) → (ds : List Datum) →
    UnpairedList ds → UnpairedEntries (plainFields names ds)
  | [], _, _ => by simp [plainFields, UnpairedEntries]
  | _ :: _, [], _ => by simp [plainFields, UnpairedEntries]
  | _ :: names, d :: rest, h => by
    rw [plainFields]
    exact ⟨Unpaired.plain d h.1, unpairedEntries_plainFields names rest h.2⟩

end

variable {limit : ℕ}

mutual

/-- Plain data have no longer integers than the tree. -/
theorem fitsDigits_plain : (d : Datum) → d.fitsDigits limit = true →
    d.plain.fitsDigits limit = true
  | null, h | bool _, h | int _, h | float _, h | text _, h | surrogates _, h | object _, h => by
    rwa [plain]
  | list items, h => by
    rw [plain]
    exact fitsDigitsList_plainList items h
  | record tag fields, h => by
    rw [plain]
    exact Bool.and_eq_true_iff.mpr ⟨rfl, fitsDigitsEntries_plainFields _ fields h⟩

/-- Plain items have no longer integers than the items. -/
theorem fitsDigitsList_plainList : (ds : List Datum) → fitsDigitsList limit ds = true →
    fitsDigitsList limit (plainList ds) = true
  | [], _ => by rw [plainList, fitsDigitsList]
  | d :: rest, h => by
    rw [fitsDigitsList, Bool.and_eq_true] at h
    rw [plainList, fitsDigitsList, fitsDigits_plain d h.1, fitsDigitsList_plainList rest h.2]
    rfl

/-- Plain fields have no longer integers than the fields. -/
theorem fitsDigitsEntries_plainFields : (names : List String) → (ds : List Datum) →
    fitsDigitsList limit ds = true → fitsDigitsEntries limit (plainFields names ds) = true
  | [], _, _ => by simp [plainFields, fitsDigitsEntries]
  | _ :: _, [], _ => by simp [plainFields, fitsDigitsEntries]
  | _ :: names, d :: rest, h => by
    rw [fitsDigitsList, Bool.and_eq_true] at h
    rw [plainFields, fitsDigitsEntries, fitsDigits_plain d h.1,
      fitsDigitsEntries_plainFields names rest h.2]
    rfl

end

/-- The text of a tree is read as the sorted form of the tree. -/
lemma IsTree.ofJson?_toJson {rule : FieldRule} {x : Datum} (h : IsTree rule x)
    (hpairs : x.Unpaired) (hdigits : x.fitsDigits limit = true) :
    ofJson? x.toJson limit = some x.plain.sorted := by
  rw [← toJson_plain,
    Datum.ofJson?_toJson h.isJson_plain (hpairs.plain) (fitsDigits_plain x hdigits)]

/-- Trees with one text have one sorted form, unless pairs of surrogates or the lengths of integers
are in the way. -/
theorem IsTree.sorted_eq_of_toJson_eq {rule : FieldRule} {x y : Datum} (hx : IsTree rule x)
    (hy : IsTree rule y) (hxpairs : x.Unpaired) (hypairs : y.Unpaired)
    (hxdigits : x.fitsDigits limit = true) (hydigits : y.fitsDigits limit = true)
    (h : x.toJson = y.toJson) : x.sorted = y.sorted := by
  have hplain : x.plain.sorted = y.plain.sorted := by
    rw [← Option.some_inj, ← hx.ofJson?_toJson hxpairs hxdigits,
      ← hy.ofJson?_toJson hypairs hydigits, h]
  have hread : Except.ok x.sorted = (Except.ok y.sorted : Except Fault Datum) := by
    rw [← readValue_plain_sorted hx, ← readValue_plain_sorted hy, hplain]
  exact Except.ok.inj hread

/-- A text is written of data without too long integers only. -/
lemma dumps?_eq_some_iff {d : Datum} {s : String} :
    dumps? d = some s ↔ d.fitsDigits digitLimit = true ∧ d.toJson = s := by
  simp [dumps?]

/-- Of documents that were read from JSON data and hold no pair of surrogates, one without too long
integers, written as JSON text and read again, is the same, and documents with one text are the
same, each up to the order of entries. -/
theorem written_document_reads_back {d x : Datum} (hd : d.IsJson) (hx : ofPlain d = .ok x)
    (hpairs : x.Unpaired) (hdigits : x.fitsDigits digitLimit = true) :
    ∃ s, dumps? x = some s ∧ (∃ x', loads? s = some x' ∧ x'.equiv x = true) ∧
      ∀ d' y, d'.IsJson → ofPlain d' = .ok y → y.Unpaired → dumps? y = some s →
        x.sorted = y.sorted ∧ x.equiv y = true := by
  have htree := isTree_of_ofPlain hd hx
  have hread : loads? x.toJson = some x.sorted := by
    rw [loads?, htree.ofJson?_toJson hpairs hdigits, Option.bind_some, ofPlain_plain_sorted hd hx]
    rfl
  refine ⟨x.toJson, dumps?_eq_some_iff.mpr ⟨hdigits, rfl⟩,
    ⟨x.sorted, hread, equiv_sorted x htree.keyed⟩, fun d' y hd' hy hypairs htext => ?_⟩
  obtain ⟨hydigits, htext⟩ := dumps?_eq_some_iff.mp htext
  have htree' := isTree_of_ofPlain hd' hy
  have hsorted :=
    htree.sorted_eq_of_toJson_eq htree' hpairs hypairs hdigits hydigits htext.symm
  exact ⟨hsorted, equiv_of_sorted_eq x y htree'.keyed hsorted⟩

/-- A document of a literal whose text needs escapes and whose value is no text. -/
def sampleDocument : Datum :=
  object [("raw", text "é😀\n\\"), ("kind", text "number"), ("node", text "Literal"),
    ("value", object [("z", int (-12)),
      ("a", list [bool true, null,
        surrogates ⟨[.surrogate ⟨0x400, by decide⟩, .surrogate ⟨0, by decide⟩], rfl⟩])])]

/-- The tree of the document. -/
def sampleTree : Datum :=
  record .literal [text "number", text "é😀\n\\",
    object [("z", int (-12)),
      ("a", list [bool true, null,
        surrogates ⟨[.surrogate ⟨0x400, by decide⟩, .surrogate ⟨0, by decide⟩], rfl⟩])], blankInfo]

/-- A document with escapes, surrogates and a value that is no text is read back. -/
theorem sampleDocument_reads_back :
    sampleDocument.IsJson ∧ ofPlain sampleDocument = .ok sampleTree ∧ sampleTree.Unpaired ∧
      sampleTree.fitsDigits digitLimit = true ∧
      ∃ s, dumps? sampleTree = some s ∧
        ∃ x', loads? s = some x' ∧ x'.equiv sampleTree = true := by
  have hjson : sampleDocument.IsJson :=
    .object (by decide) (by
      simp [IsJson.text, IsJson.object, IsJson.int, IsJson.list, IsJson.bool, IsJson.null,
        IsJson.surrogates])
  have hread : ofPlain sampleDocument = .ok sampleTree := by cbv
  have hpairs : sampleTree.Unpaired := by
    simp [sampleTree, Unpaired, UnpairedList, UnpairedEntries, UnpairedPoints, IsPair, blankInfo]
  have hdigits : sampleTree.fitsDigits digitLimit = true := by decide
  obtain ⟨s, hs, hback, -⟩ := written_document_reads_back hjson hread hpairs hdigits
  exact ⟨hjson, hread, hpairs, hdigits, s, hs, hback⟩

end BlockText.Datum

/-!
## Structured data

Structured data consist of lists, complete records and leaves: texts, truth values, whole numbers
and nothing.  Without pairs of surrogates they are told apart by their JSON text, since the text
gives back the class of every record and the value of each of its fields.
-/

namespace BlockText.Datum

mutual

/-- The datum consists of lists, records with all their fields, and leaves. -/
def Structured : Datum → Prop
  | null | bool _ | int _ | text _ | surrogates _ => True
  | float _ | object _ => False
  | list items => StructuredList items
  | record tag fields => fields.length = tag.fields.length ∧ StructuredList fields

/-- The data consist of lists, records with all their fields, and leaves. -/
def StructuredList : List Datum → Prop
  | [] => True
  | d :: rest => Structured d ∧ StructuredList rest

end

/-- Texts are leaves. -/
@[simp] lemma structured_ofPoints (ps : List CodePoint) : (ofPoints ps).Structured := by
  rcases ofPoints_cases ps with ⟨s, rfl, h⟩ | ⟨t, rfl, h⟩ <;> rw [h] <;> exact trivial

lemma structuredList_iff {ds : List Datum} : StructuredList ds ↔ ∀ d ∈ ds, d.Structured := by
  induction ds with
  | nil => simp [StructuredList]
  | cons d rest ih => simp [StructuredList, ih]

/-- The fields of a complete record are values of the fields of its class. -/
lemma exists_eq_map_of_length_eq {tag : Tag} {fields : List Datum}
    (h : fields.length = tag.fields.length) :
    ∃ value : Field → Datum, fields = tag.fields.map value := by
  have hnd : (tag.fields.map (·.name)).Nodup := (List.nodup_cons.mp (nodup_fieldNames tag)).2
  have hkeys : (((tag.fields.map (·.name)).zip fields).map (·.1)).Nodup := by
    rwa [List.map_fst_zip (by simp [h])]
  refine ⟨fun f => (entryAt? ((tag.fields.map (·.name)).zip fields) f.name).getD null, ?_⟩
  refine List.ext_getElem (by simp [h]) fun i hi hi' => ?_
  have hmem : (tag.fields[i].name, fields[i]) ∈ (tag.fields.map (·.name)).zip fields := by
    refine List.mem_iff_getElem.mpr ⟨i, by simp; omega, by simp⟩
  simp [entryAt?_of_mem hkeys hmem]

mutual

/-- The plain data of structured data are JSON data. -/
theorem isJson_plain : (d : Datum) → d.Structured → d.plain.IsJson
  | null, _ => by rw [plain]; exact .null
  | bool b, _ => by rw [plain]; exact .bool b
  | int n, _ => by rw [plain]; exact .int n
  | text s, _ => by rw [plain]; exact .text s
  | surrogates t, _ => by rw [plain]; exact .surrogates t
  | list items, h => by
    rw [plain, plainList_eq_map]
    refine .list fun d hd => ?_
    obtain ⟨d', hd', rfl⟩ := List.mem_map.mp hd
    exact isJson_plainList items h d' hd'
  | record tag fields, h => by
    obtain ⟨value, rfl⟩ := exists_eq_map_of_length_eq h.1
    rw [plain_record]
    refine .object (nodup_keys_record tag fun f => (value f).plain) fun e he => ?_
    rcases List.mem_cons.mp he with rfl | he
    · exact .text _
    · obtain ⟨f, hf, rfl⟩ := List.mem_map.mp he
      exact isJson_plainList _ h.2 (value f) (List.mem_map_of_mem hf)

/-- The plain data of items are JSON data. -/
theorem isJson_plainList : (ds : List Datum) → StructuredList ds → ∀ d ∈ ds, d.plain.IsJson
  | [], _ => by simp
  | d :: rest, h => by
    intro d' hd'
    rcases List.mem_cons.mp hd' with heq | hd'
    · exact heq ▸ isJson_plain d h.1
    · exact isJson_plainList rest h.2 d' hd'

end

mutual

/-- Structured data name no entry twice. -/
theorem Structured.keyed : (d : Datum) → d.Structured → d.Keyed
  | null, _ | bool _, _ | int _, _ | text _, _ | surrogates _, _ => trivial
  | list items, h => keyedList_of_structured items h
  | record _ fields, h => keyedList_of_structured fields h.2

/-- Structured items name no entry twice. -/
theorem keyedList_of_structured : (ds : List Datum) → StructuredList ds → KeyedList ds
  | [], _ => trivial
  | d :: rest, h => ⟨Structured.keyed d h.1, keyedList_of_structured rest h.2⟩

end

/-- Complete records with the same sorted plain data have one class, and equal sorted plain data in
each field. -/
lemma record_inj_of_plain_sorted_eq {tag tag' : Tag} {value value' : Field → Datum}
    (h : (record tag (tag.fields.map value)).plain.sorted =
      (record tag' (tag'.fields.map value')).plain.sorted) :
    tag = tag' ∧ ∀ f ∈ tag.fields, (value f).plain.sorted = (value' f).plain.sorted := by
  rw [plain_sorted_record, plain_sorted_record, Datum.object.injEq] at h
  obtain rfl : tag = tag' := by
    have htag := congrArg (entryAt? · tagKey) h
    simp only [entryAt?_recordEntries_tag, Option.some_inj, Datum.text.injEq] at htag
    rw [← Option.some_inj, ← ofName?_name tag, htag, ofName?_name]
  refine ⟨rfl, fun f hf => ?_⟩
  have hfield := congrArg (entryAt? · f.name) h
  simpa only [entryAt?_recordEntries_field _ hf, Option.some_inj] using hfield

mutual

/-- Structured data are told apart by their sorted plain data. -/
theorem eq_of_plain_sorted_eq : (x y : Datum) → x.Structured → y.Structured →
    x.plain.sorted = y.plain.sorted → x = y
  | null, y, _, hy, h | bool _, y, _, hy, h | int _, y, _, hy, h | text _, y, _, hy, h
  | surrogates _, y, _, hy, h => by
    cases y <;> simp_all [plain, sorted, Structured]
  | list items, y, hx, hy, h => by
    cases y with
    | list items' =>
      have hmap : items.map (sorted ∘ plain) = items'.map (sorted ∘ plain) := by
        simpa [plain, sorted, plainList_eq_map, sortedList_eq_map] using h
      rw [eq_of_map_plain_sorted_eq items items' hx hy hmap]
    | _ => simp_all [plain, sorted, Structured]
  | record tag fields, y, hx, hy, h => by
    cases y with
    | record tag' fields' =>
      obtain ⟨value, hfields⟩ := exists_eq_map_of_length_eq hx.1
      obtain ⟨value', hfields'⟩ := exists_eq_map_of_length_eq hy.1
      rw [hfields, hfields'] at h
      obtain ⟨rfl, hvalues⟩ := record_inj_of_plain_sorted_eq h
      have hmap : fields.map (fun d => d.plain.sorted) = fields'.map fun d => d.plain.sorted := by
        rw [hfields, hfields', List.map_map, List.map_map]
        exact List.map_congr_left hvalues
      rw [eq_of_map_plain_sorted_eq fields fields' hx.2 hy.2 hmap]
    | _ => simp_all [plain, sorted, Structured]

/-- Structured items are told apart by their sorted plain data. -/
theorem eq_of_map_plain_sorted_eq : (xs ys : List Datum) → StructuredList xs → StructuredList ys →
    xs.map (fun d => d.plain.sorted) = ys.map (fun d => d.plain.sorted) → xs = ys
  | [], ys, _, _, h => by
    cases ys with
    | nil => rfl
    | cons y ys => simp at h
  | x :: xs, ys, hx, hy, h => by
    cases ys with
    | nil => simp at h
    | cons y ys =>
      rw [List.map_cons, List.map_cons, List.cons.injEq] at h
      rw [eq_of_plain_sorted_eq x y hx.1 hy.1 h.1, eq_of_map_plain_sorted_eq xs ys hx.2 hy.2 h.2]

end

mutual

/-- Some length is enough for the integers of the datum. -/
theorem exists_fitsDigits : (d : Datum) → ∃ n, ∀ m ≥ n, d.fitsDigits m = true
  | null | bool _ | float _ | text _ | surrogates _ => ⟨0, fun _ _ => rfl⟩
  | int n => ⟨(Nat.toDigits 10 n.natAbs).length, fun m hm => by simpa [fitsDigits] using hm⟩
  | list items => exists_fitsDigitsList items
  | object entries => exists_fitsDigitsEntries entries
  | record _ fields => exists_fitsDigitsList fields

/-- Some length is enough for the integers of the items. -/
theorem exists_fitsDigitsList : (ds : List Datum) → ∃ n, ∀ m ≥ n, fitsDigitsList m ds = true
  | [] => ⟨0, fun _ _ => rfl⟩
  | d :: rest => by
    obtain ⟨n, hn⟩ := exists_fitsDigits d
    obtain ⟨k, hk⟩ := exists_fitsDigitsList rest
    exact ⟨max n k, fun m hm => by
      rw [fitsDigitsList, hn m (by omega), hk m (by omega), Bool.true_and]⟩

/-- Some length is enough for the integers of the entries. -/
theorem exists_fitsDigitsEntries : (entries : List (String × Datum)) →
    ∃ n, ∀ m ≥ n, fitsDigitsEntries m entries = true
  | [] => ⟨0, fun _ _ => rfl⟩
  | (_, d) :: rest => by
    obtain ⟨n, hn⟩ := exists_fitsDigits d
    obtain ⟨k, hk⟩ := exists_fitsDigitsEntries rest
    exact ⟨max n k, fun m hm => by
      rw [fitsDigitsEntries, hn m (by omega), hk m (by omega), Bool.true_and]⟩

end

/-- Structured data without pairs of surrogates are told apart by their JSON text. -/
theorem Structured.eq_of_toJson_eq {x y : Datum} (hx : x.Structured) (hy : y.Structured)
    (hxpairs : x.Unpaired) (hypairs : y.Unpaired) (h : x.toJson = y.toJson) : x = y := by
  -- The texts are compared as they are, so their integers may have any length.
  obtain ⟨n, hn⟩ := exists_fitsDigits x
  obtain ⟨k, hk⟩ := exists_fitsDigits y
  have hread : ∀ d : Datum, d.Structured → d.Unpaired → d.fitsDigits (max n k) = true →
      ofJson? d.toJson (max n k) = some d.plain.sorted := by
    intro d hd hpairs hdigits
    rw [← toJson_plain, ofJson?_toJson (isJson_plain d hd) hpairs.plain (fitsDigits_plain d hdigits)]
  have hplain : x.plain.sorted = y.plain.sorted := by
    rw [← Option.some_inj, ← hread x hx hxpairs (hn _ (by omega)),
      ← hread y hy hypairs (hk _ (by omega)), h]
  exact eq_of_plain_sorted_eq x y hx hy hplain

end BlockText.Datum

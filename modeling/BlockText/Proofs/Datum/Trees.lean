import BlockText.Proofs.Block.Slots
import BlockText.Proofs.Datum.Json

/-!
# Trees

A tree is what reading a document gives: its records have the fields of their classes, each with a
value that the rule of the field allows, and what stands for no record is JSON data.  A field that
is left out has a value that its rule allows, so whatever is read from JSON data is a tree.  The
plain data of a tree are JSON data again.
-/

namespace BlockText.Datum

/-- The rule for the items of a list. -/
def itemRule : FieldRule → FieldRule
  | .choices vocabulary => .choice vocabulary
  | _ => .any

/-- The rule asks for no value of a vocabulary. -/
def IsOpen (rule : FieldRule) : Prop := ∀ vocabulary, rule ≠ .choice vocabulary

lemma isOpen_any : IsOpen .any := fun _ => nofun

/-- A rule is open or asks for a value of a vocabulary. -/
lemma isOpen_or (rule : FieldRule) : IsOpen rule ∨ ∃ vocabulary, rule = .choice vocabulary := by
  cases rule with
  | any => exact .inl isOpen_any
  | choice vocabulary => exact .inr ⟨vocabulary, rfl⟩
  | choices vocabulary => exact .inl fun _ => nofun

/-- The data that reading a value by a rule gives. -/
inductive IsTree : FieldRule → Datum → Prop
  | null (rule : FieldRule) : IsTree rule null
  | bool {rule : FieldRule} (isOpen : IsOpen rule) (b : Bool) : IsTree rule (bool b)
  | int {rule : FieldRule} (isOpen : IsOpen rule) (n : ℤ) : IsTree rule (int n)
  | text {rule : FieldRule} {s : String}
    (spelled : ∀ vocabulary, rule = .choice vocabulary → s ∈ vocabulary.spellings) :
    IsTree rule (text s)
  | surrogates {rule : FieldRule} (isOpen : IsOpen rule) (t : SurrogateText) :
    IsTree rule (surrogates t)
  | list {rule : FieldRule} {items : List Datum}
    (items_tree : ∀ d ∈ items, IsTree (itemRule rule) d) : IsTree rule (list items)
  | object {rule : FieldRule} {entries : List (String × Datum)} (isOpen : IsOpen rule)
    (untagged : tagKey ∉ entries.map (·.1)) (json : IsJson (object entries)) :
    IsTree rule (object entries)
  | record {rule : FieldRule} {tag : Tag} {value : Field → Datum}
    (fields_tree : ∀ f ∈ tag.fields, IsTree f.rule (value f)) :
    IsTree rule (record tag (tag.fields.map value))

/-! ## Reading gives trees -/

attribute [local simp] readValue

/-- A value that is neither a list nor a record in a document. -/
def Stays : Datum → Prop
  | null | list _ | record _ _ => False
  | bool _ | int _ | float _ | text _ | surrogates _ => True
  | object entries => tagKey ∉ entries.map (·.1)

/-- An open rule lets such a value be what it is. -/
lemma readValue_of_isOpen {rule : FieldRule} (hrule : IsOpen rule) {d : Datum} (hd : d.Stays) :
    readValue rule d = .ok d := by
  cases d with
  | null | list _ | record _ _ => exact hd.elim
  | bool _ | int _ | float _ | text _ | surrogates _ =>
    cases rule with
    | choice vocabulary => exact absurd rfl (hrule vocabulary)
    | _ => simp
  | object entries =>
    have hany : ¬ (entries.any (·.1 == tagKey)) = true := by simpa [Stays] using hd
    cases rule with
    | choice vocabulary => exact absurd rfl (hrule vocabulary)
    | _ => simp [hany]

/-- The rule of a vocabulary looks such a value up. -/
lemma readValue_choice (vocabulary : Vocabulary) {d : Datum} (hd : d.Stays) :
    readValue (.choice vocabulary) d = checkChoice vocabulary d := by
  cases d with
  | null | list _ | record _ _ => exact hd.elim
  | bool _ | int _ | float _ | text _ | surrogates _ => simp
  | object entries =>
    have hany : ¬ (entries.any (·.1 == tagKey)) = true := by simpa [Stays] using hd
    simp [hany]

/-- A vocabulary holds texts only. -/
lemma checkChoice_eq_ok_iff {vocabulary : Vocabulary} {d x : Datum} :
    checkChoice vocabulary d = .ok x ↔ ∃ s ∈ vocabulary.spellings, d = text s ∧ x = text s := by
  cases d with
  | text s =>
    by_cases hs : s ∈ vocabulary.spellings <;> simp [checkChoice, hs, eq_comm]
  | _ => simp [checkChoice]

/-- Reading such a value gives it, and only a text of a vocabulary has another rule than an open
one. -/
lemma Stays.of_readValue {rule : FieldRule} {d x : Datum} (hd : d.Stays)
    (h : readValue rule d = .ok x) :
    x = d ∧ (IsOpen rule ∨
      ∃ vocabulary, rule = .choice vocabulary ∧ ∃ s ∈ vocabulary.spellings, d = text s) := by
  rcases isOpen_or rule with hrule | ⟨vocabulary, rfl⟩
  · rw [readValue_of_isOpen hrule hd] at h
    exact ⟨(Except.ok.inj h).symm, .inl hrule⟩
  · rw [readValue_choice vocabulary hd] at h
    obtain ⟨s, hs, rfl, rfl⟩ := checkChoice_eq_ok_iff.mp h
    exact ⟨rfl, .inr ⟨vocabulary, rfl, s, hs, rfl⟩⟩

lemma readValue_list (rule : FieldRule) (items : List Datum) :
    readValue rule (list items) = list <$> readItems (itemRule rule) items := by
  cases rule <;> simp [itemRule]

lemma readEach_eq_map (tag : Tag) (entries : List (String × Datum)) :
    readEach tag entries = entries.map fun e =>
      (e.1, readValue (((tag.fields.find? (·.name == e.1)).map (·.rule)).getD .any) e.2) := by
  induction entries with
  | nil => simp [readEach]
  | cons e rest ih => rw [readEach, ih, List.map_cons]

/-- The items that are read are readings of items. -/
lemma exists_of_mem_readItems {rule : FieldRule} {items xs : List Datum}
    (h : readItems rule items = .ok xs) {x : Datum} (hx : x ∈ xs) :
    ∃ d ∈ items, readValue rule d = .ok x := by
  induction items generalizing xs with
  | nil =>
    obtain rfl : [] = xs := by simpa [readItems] using h
    exact absurd hx List.not_mem_nil
  | cons d rest ih =>
    rw [readItems] at h
    obtain ⟨first, hfirst, h⟩ := bind_eq_ok_iff.mp h
    obtain ⟨others, hothers, h⟩ := bind_eq_ok_iff.mp h
    obtain rfl : first :: others = xs := Except.ok.inj h
    rcases List.mem_cons.mp hx with rfl | hx
    · exact ⟨d, List.mem_cons_self, hfirst⟩
    · obtain ⟨d', hd', hread⟩ := ih hothers hx
      exact ⟨d', List.mem_cons_of_mem _ hd', hread⟩

/-- What a filtering pass collects comes from a member. -/
lemma exists_of_mem_filterMapM {α β : Type} {f : α → Except Fault (Option β)} {as : List α}
    {bs : List β} (h : as.filterMapM f = .ok bs) {b : β} (hb : b ∈ bs) :
    ∃ a ∈ as, f a = .ok (some b) := by
  induction as generalizing bs with
  | nil =>
    rw [List.filterMapM_nil] at h
    obtain rfl : [] = bs := Except.ok.inj h
    exact absurd hb List.not_mem_nil
  | cons a rest ih =>
    rw [List.filterMapM_cons] at h
    obtain ⟨first, hfirst, h⟩ := bind_eq_ok_iff.mp h
    have hcollected : ∃ others, rest.filterMapM f = .ok others ∧ first.toList ++ others = bs := by
      cases first with
      | none => exact ⟨bs, h, rfl⟩
      | some b' =>
        obtain ⟨others, hothers, h⟩ := bind_eq_ok_iff.mp h
        exact ⟨others, hothers, Except.ok.inj h⟩
    obtain ⟨others, hothers, rfl⟩ := hcollected
    rcases List.mem_append.mp hb with hb | hb
    · obtain rfl : first = some b := by simpa using hb
      exact ⟨a, List.mem_cons_self, hfirst⟩
    · obtain ⟨a', ha', hfound⟩ := ih hothers hb
      exact ⟨a', List.mem_cons_of_mem _ ha', hfound⟩

/-- Fields are told apart by their names. -/
lemma find?_field {tag : Tag} {f : Field} (hf : f ∈ tag.fields) :
    tag.fields.find? (·.name == f.name) = some f := by
  have hnd : (tag.fields.map (·.name)).Nodup := (List.nodup_cons.mp (nodup_fieldNames tag)).2
  cases hfind : tag.fields.find? (·.name == f.name) with
  | none => exact absurd (List.find?_eq_none.mp hfind f hf) (by simp)
  | some g =>
    have hname : g.name = f.name := by simpa using List.find?_some hfind
    rw [List.inj_on_of_nodup_map hnd (List.mem_of_find?_eq_some hfind) hf hname]

/-- A field that was read is the reading of an entry under its name. -/
lemma exists_of_readEach {tag : Tag} {entries : List (String × Datum)} {f : Field}
    (hf : f ∈ tag.fields) {key : String} {result : Except Fault Datum}
    (h : (readEach tag entries).find? (·.1 == f.name) = some (key, result)) :
    ∃ e ∈ entries, result = readValue f.rule e.2 := by
  have hkey : key = f.name := by simpa using List.find?_some h
  have hmem := List.mem_of_find?_eq_some h
  rw [readEach_eq_map] at hmem
  obtain ⟨e, he, heq⟩ := List.mem_map.mp hmem
  obtain ⟨hname, hresult⟩ := Prod.mk.inj heq
  rw [hname, hkey, find?_field hf] at hresult
  exact ⟨e, he, hresult.symm⟩

/-- The value of a field that was read is the reading of an entry or the value of a field that was
left out. -/
lemma exists_record_of_readEntries {entries : List (String × Datum)} {x : Datum}
    (h : readEntries entries = .ok x) :
    ∃ tag value, x = record tag (tag.fields.map value) ∧ ∀ f ∈ tag.fields,
      (∃ e ∈ entries, readValue f.rule e.2 = .ok (value f)) ∨ f.default? = some (value f) := by
  rw [readEntries] at h
  obtain ⟨tag, htag, h⟩ := bind_eq_ok_iff.mp h
  obtain ⟨given, hgiven, h⟩ := bind_eq_ok_iff.mp h
  have hread : ∀ f ∈ tag.fields, ∀ d, entryAt? given f.name = some d →
      ∃ e ∈ entries, readValue f.rule e.2 = .ok d := by
    intro f hf d hd
    obtain ⟨g, hg, hfound⟩ := exists_of_mem_filterMapM hgiven (mem_of_entryAt? hd)
    split at hfound
    · next key result hfind =>
      obtain ⟨d', hd', heq⟩ := bind_eq_ok_iff.mp hfound
      obtain ⟨hname, rfl⟩ : g.name = f.name ∧ d' = d := by simpa [pure, Except.pure] using heq
      rw [hname] at hfind
      obtain ⟨e, he, rfl⟩ := exists_of_readEach hf hfind
      exact ⟨e, he, hd'⟩
    · simp at hfound
  rw [assemble] at h
  split at h
  · next hmissing =>
    refine ⟨tag, _, (Except.ok.inj h).symm, fun f hf => ?_⟩
    cases hfound : entryAt? given f.name with
    | some d => exact .inl (by simpa [hfound] using hread f hf d hfound)
    | none =>
      -- A field without a value of its own is not missing only if it may be left out.
      have hdefault : f.default? ≠ none := by
        intro hnone
        rw [List.isEmpty_iff, List.filter_eq_nil_iff] at hmissing
        exact hmissing f hf (by simp [hnone, hfound])
      obtain ⟨d, hd⟩ := Option.ne_none_iff_exists'.mp hdefault
      exact .inr (by simp [hd])
  · simp at h

/-- The record in which every field is left out. -/
private lemma isTree_preset (tag : Tag)
    (h : ∀ f ∈ tag.fields, IsTree f.rule (f.default?.getD Datum.null)) :
    IsTree .any (Datum.record tag (tag.fields.map fun f => f.default?.getD Datum.null)) :=
  .record h

/-- What a field holds when it is left out is allowed by its rule. -/
lemma isTree_default (tag : Tag) :
    ∀ f ∈ tag.fields, ∀ d, f.default? = some d → IsTree f.rule d := by
  have hint : IsTree .any (Datum.int 0) := .int isOpen_any 0
  have hfour : IsTree .any (Datum.int 4) := .int isOpen_any 4
  have hnull : IsTree .any Datum.null := .null .any
  have hfalse : IsTree .any (Datum.bool false) := .bool isOpen_any false
  have hnil : IsTree .any (Datum.list []) := .list (by simp)
  have htext : ∀ s, IsTree .any (Datum.text s) := fun s => .text nofun
  have hposition : IsTree .any blankPosition :=
    isTree_preset .position (by simp [Tag.fields, Field.preset, hint])
  have hinfo : IsTree .any blankInfo :=
    isTree_preset .info
      (by simp [Tag.fields, Field.preset, Field.optional, Field.listing, hint, hnull, hnil])
  have hkind : IsTree (.choice (vocabularyOf Syntax.ParamKind)) (Datum.text "normal") :=
    .text fun _ h => by
      obtain rfl := FieldRule.choice.inj h
      decide
  have hsource : IsTree (.choice (vocabularyOf Syntax.EmptySource)) (Datum.text "source") :=
    .text fun _ h => by
      obtain rfl := FieldRule.choice.inj h
      decide
  cases tag <;>
    simp [Tag.fields, Tag.infoField, Field.required, Field.optional, Field.listing, Field.preset,
      Field.chosen, Field.chosenList, hint, hfour, hnull, hfalse, hnil, htext, hposition, hinfo,
      hkind, hsource]

/-- What is read from JSON data is a tree. -/
theorem isTree_of_readValue {d : Datum} (hd : d.IsJson) {rule : FieldRule} {x : Datum}
    (h : readValue rule d = .ok x) : IsTree rule x := by
  induction hd generalizing rule x with
  | null =>
    obtain rfl : null = x := by simpa using h
    exact .null rule
  | bool b =>
    obtain ⟨rfl, hrule | ⟨_, _, _, _, hb⟩⟩ := Stays.of_readValue (d := bool b) trivial h
    · exact .bool hrule b
    · exact absurd hb nofun
  | int n =>
    obtain ⟨rfl, hrule | ⟨_, _, _, _, hn⟩⟩ := Stays.of_readValue (d := int n) trivial h
    · exact .int hrule n
    · exact absurd hn nofun
  | text s =>
    obtain ⟨rfl, hrule | ⟨vocabulary, rfl, s', hs, heq⟩⟩ :=
      Stays.of_readValue (d := text s) trivial h
    · exact .text fun vocabulary hchoice => absurd hchoice (hrule vocabulary)
    · refine .text fun _ hchoice => ?_
      obtain rfl := FieldRule.choice.inj hchoice
      obtain rfl := Datum.text.inj heq
      exact hs
  | surrogates t =>
    obtain ⟨rfl, hrule | ⟨_, _, _, _, ht⟩⟩ := Stays.of_readValue (d := surrogates t) trivial h
    · exact .surrogates hrule t
    · exact absurd ht nofun
  | @list items _ ih =>
    rw [readValue_list] at h
    cases hread : readItems (itemRule rule) items with
    | error e => simp [hread] at h
    | ok xs =>
      obtain rfl : list xs = x := by simpa [hread] using h
      refine .list fun y hy => ?_
      obtain ⟨d, hd, hread⟩ := exists_of_mem_readItems hread hy
      exact ih d hd hread
  | @object entries hnd hvalues ih =>
    by_cases htagged : tagKey ∈ entries.map (·.1)
    · have hany : (entries.any (·.1 == tagKey)) = true := by simpa using htagged
      rw [readValue.eq_def] at h
      simp only [hany, if_true] at h
      obtain ⟨tag, value, rfl, hfields⟩ := exists_record_of_readEntries h
      refine .record fun f hf => ?_
      rcases hfields f hf with ⟨e, he, hread⟩ | hdefault
      · exact ih e he hread
      · exact isTree_default tag f hf _ hdefault
    · obtain ⟨rfl, hrule | ⟨_, _, _, _, hobject⟩⟩ := Stays.of_readValue (d := object entries) htagged h
      · exact .object hrule htagged (.object hnd hvalues)
      · exact absurd hobject nofun

/-! ## Plain data of trees -/

lemma plainList_eq_map (ds : List Datum) : plainList ds = ds.map plain := by
  induction ds with
  | nil => rfl
  | cons d rest ih => rw [plainList, ih, List.map_cons]

lemma plainFields_map (fields : List Field) (value : Field → Datum) :
    plainFields (fields.map (·.name)) (fields.map value) =
      fields.map fun f => (f.name, (value f).plain) := by
  induction fields with
  | nil => simp [plainFields]
  | cons f rest ih => rw [List.map_cons, List.map_cons, plainFields, ih, List.map_cons]

lemma plain_record (tag : Tag) (value : Field → Datum) :
    (record tag (tag.fields.map value)).plain =
      object ((tagKey, text tag.name) :: tag.fields.map fun f => (f.name, (value f).plain)) := by
  rw [plain, plainFields_map]

/-- The entries of a record have different names. -/
lemma nodup_keys_record (tag : Tag) (value : Field → Datum) :
    (((tagKey, text tag.name) :: tag.fields.map fun f => (f.name, value f)).map (·.1)).Nodup := by
  have hnames := nodup_fieldNames tag
  rw [List.map_cons, List.map_map]
  exact hnames

/-- The plain data of a tree are JSON data. -/
theorem IsTree.isJson_plain {rule : FieldRule} {x : Datum} (h : IsTree rule x) :
    x.plain.IsJson := by
  induction h with
  | null rule => rw [plain]; exact .null
  | bool _ b => rw [plain]; exact .bool b
  | int _ n => rw [plain]; exact .int n
  | text _ => rw [plain]; exact .text _
  | surrogates _ t => rw [plain]; exact .surrogates t
  | list _ ih =>
    rw [plain, plainList_eq_map]
    refine .list fun d hd => ?_
    obtain ⟨d', hd', rfl⟩ := List.mem_map.mp hd
    exact ih d' hd'
  | object _ _ json => rwa [plain]
  | @record _ tag value _ ih =>
    rw [plain_record]
    refine .object (nodup_keys_record tag fun f => (value f).plain) fun e he => ?_
    rcases List.mem_cons.mp he with rfl | he
    · exact .text _
    · obtain ⟨f, hf, rfl⟩ := List.mem_map.mp he
      exact ih f hf

lemma keyedList_iff {ds : List Datum} : KeyedList ds ↔ ∀ d ∈ ds, d.Keyed := by
  induction ds with
  | nil => simp [KeyedList]
  | cons d rest ih => simp [KeyedList, ih]

/-- JSON data name no entry twice. -/
lemma IsJson.keyed {d : Datum} (h : d.IsJson) : d.Keyed := by
  induction h with
  | null | bool _ | int _ | text _ | surrogates _ => trivial
  | list _ ih => exact keyedList_iff.mpr ih
  | object nodup _ ih => exact ⟨nodup, keyedEntries_iff.mpr ih⟩

/-- A tree names no entry twice. -/
lemma IsTree.keyed {rule : FieldRule} {x : Datum} (h : IsTree rule x) : x.Keyed := by
  induction h with
  | null _ | bool _ _ | int _ _ | text _ | surrogates _ _ => trivial
  | list _ ih => exact keyedList_iff.mpr ih
  | object _ _ json => exact json.keyed
  | record _ ih =>
    refine keyedList_iff.mpr fun d hd => ?_
    obtain ⟨f, hf, rfl⟩ := List.mem_map.mp hd
    exact ih f hf

end BlockText.Datum

import Mathlib
import BlockText.Fault

/-!
# Texts as code points

A text is its list of code points: `Text.points` gives those of a `String`, and `Datum.ofPoints` the
datum with given code points, a `String` or a text with surrogates.  Whatever operates on texts does
to `ofPoints ps` what the lemmas here say, so that nothing else has to tell the two kinds of texts
apart.  Code points are in the order of their numbers.
-/

namespace BlockText

/-! ## Code points -/

namespace CodePoint

/-- Code points with the same number are the same. -/
lemma code_injective : Function.Injective code := by
  -- A character is never one of the numbers of surrogates.
  have hvalid (c : Char) : c.toNat < 0xD800 ∨ 0xDFFF < c.toNat ∧ c.toNat < 0x110000 := c.valid
  rintro (c | i) (c' | j) h
  · exact congrArg char (Char.toNat_inj.mp h)
  · have hc := hvalid c
    have hj := j.isLt
    simp only [code] at h
    omega
  · have hc := hvalid c'
    have hi := i.isLt
    simp only [code] at h
    omega
  · exact congrArg surrogate (Fin.ext (Nat.add_left_cancel h))

/-- The number of a character denotes it. -/
@[simp] lemma ofCode_toNat (c : Char) : ofCode c.toNat = char c := by
  have hvalid : c.toNat < 0xD800 ∨ 0xDFFF < c.toNat ∧ c.toNat < 0x110000 := c.valid
  rw [ofCode, dif_neg (by omega), Char.ofNat_toNat]

/-- The number of a surrogate denotes it. -/
@[simp] lemma ofCode_surrogate (i : Fin 0x800) : ofCode (0xD800 + i) = surrogate i := by
  have hi := i.isLt
  rw [ofCode, dif_pos (by omega)]
  exact congrArg surrogate (Fin.ext (Nat.add_sub_cancel_left _ _))

/-- Code points are in the order of their numbers. -/
instance : LinearOrder CodePoint where
  le p q := p.code ≤ q.code
  le_refl p := Nat.le_refl _
  le_trans p q r := Nat.le_trans
  lt_iff_le_not_ge p q := Nat.lt_iff_le_and_not_ge
  le_antisymm p q h h' := code_injective (Nat.le_antisymm h h')
  le_total p q := Nat.le_total _ _
  toDecidableLE p q := inferInstanceAs (Decidable (p.code ≤ q.code))
  toDecidableEq := inferInstance
  toDecidableLT := inferInstance

end CodePoint

/-! ## Texts -/

namespace Text

/-- A text has the code points that it is made of. -/
@[simp] lemma ofPoints?_points (s : String) : ofPoints? (points s) = some s := by
  have hchars : ∀ cs : List Char, (cs.map CodePoint.char).mapM CodePoint.char? = some cs := by
    intro cs
    induction cs with
    | nil => rfl
    | cons c rest ih => simp [ih, CodePoint.char?]
  rw [ofPoints?, points, hchars, Option.map_some, String.ofList_toList]

/-- Code points that make a text are those of the text. -/
lemma points_of_ofPoints? {ps : List CodePoint} {s : String} (h : ofPoints? ps = some s) :
    ps = points s := by
  obtain ⟨cs, hcs, rfl⟩ := Option.map_eq_some_iff.mp h
  rw [points, String.toList_ofList]
  clear h
  induction ps generalizing cs with
  | nil =>
    obtain rfl : [] = cs := by simpa using hcs
    rfl
  | cons p rest ih =>
    cases p with
    | surrogate i => simp [CodePoint.char?] at hcs
    | char c =>
      obtain ⟨cs', hcs', rfl⟩ : ∃ cs', rest.mapM CodePoint.char? = some cs' ∧ c :: cs' = cs := by
        simpa [CodePoint.char?, Option.bind_eq_some_iff] using hcs
      rw [List.map_cons, ← ih cs' hcs']

/-- Texts with the same code points are the same. -/
lemma points_injective : Function.Injective points := fun s t h =>
  Option.some_inj.mp (by rw [← ofPoints?_points s, h, ofPoints?_points])

/-- Only the empty text has no code points. -/
@[simp] lemma points_eq_nil {s : String} : points s = [] ↔ s = "" := by
  simp [points]

/-- Code points of characters are shown as they are. -/
@[simp] lemma shownPoints_points (s : String) : shownPoints (points s) = s := by
  have hchars : ∀ cs : List Char, shownChars (cs.map CodePoint.char) = cs := by
    intro cs
    induction cs with
    | nil => rfl
    | cons c rest ih => rw [List.map_cons, shownChars, ih]
  rw [shownPoints, points, hchars, String.ofList_toList]

/-- The spelling of a text is made of the spellings of its code points. -/
lemma points_spell (s : String) (q : Delimiter) :
    points (spell s q) = spellPoints (points s) q := by
  simp [points, spell, spellPoints, escaped, List.map_flatMap, List.flatMap_map, escapedPoint]

/-- A spelling has delimiters. -/
lemma spellPoints_ne_nil (ps : List CodePoint) (q : Delimiter) : spellPoints ps q ≠ [] := by
  cases q <;> simp [spellPoints, Delimiter.chars, Delimiter.isTriple]

end Text

namespace Datum

variable (ps qs : List CodePoint)

/-! ## Texts as data -/

/-- The code points of a text make the text. -/
@[simp] lemma ofPoints_points (s : String) : ofPoints (Text.points s) = text s := by
  unfold ofPoints
  split
  · next t h => rw [Text.ofPoints?_points, Option.some_inj] at h; rw [h]
  · next h => rw [Text.ofPoints?_points] at h; cases h

/-- A text is made of code points. -/
lemma exists_ofPoints (s : String) : ∃ ps, text s = ofPoints ps := ⟨_, (ofPoints_points s).symm⟩

/-- The code points of a text with surrogates make it. -/
@[simp] lemma ofPoints_surrogates (t : SurrogateText) : ofPoints t.points = surrogates t := by
  unfold ofPoints
  split
  · next s h => rw [t.noText] at h; cases h
  · rfl

/-- A text consists of characters or holds a surrogate. -/
lemma ofPoints_cases : (∃ s, ps = Text.points s ∧ ofPoints ps = text s) ∨
    ∃ t : SurrogateText, ps = t.points ∧ ofPoints ps = surrogates t := by
  cases h : Text.ofPoints? ps with
  | some s =>
    obtain rfl := Text.points_of_ofPoints? h
    exact .inl ⟨s, rfl, ofPoints_points s⟩
  | none => exact .inr ⟨⟨ps, h⟩, rfl, ofPoints_surrogates ⟨ps, h⟩⟩

/-- A text has the code points that it is made of. -/
@[simp] lemma points?_ofPoints : (ofPoints ps).points? = some ps := by
  rcases ofPoints_cases ps with ⟨s, rfl, h⟩ | ⟨t, rfl, h⟩ <;> rw [h, points?]

/-- A datum with code points is the text that they make. -/
lemma points?_eq_some {d : Datum} : d.points? = some ps ↔ d = ofPoints ps := by
  constructor
  · intro h
    cases d with
    | text s =>
      obtain rfl := Option.some_inj.mp h
      rw [ofPoints_points]
    | surrogates t =>
      obtain rfl := Option.some_inj.mp h
      rw [ofPoints_surrogates]
    | _ => cases h
  · rintro rfl
    exact points?_ofPoints ps

/-- A datum that is a text has code points. -/
lemma isSome_points? {d : Datum} : d.points?.isSome ↔ ∃ ps, d = ofPoints ps := by
  simp only [Option.isSome_iff_exists, points?_eq_some]

/-- Different code points make different texts. -/
lemma ofPoints_injective : Function.Injective ofPoints := fun ps qs h =>
  Option.some_inj.mp (by rw [← points?_ofPoints ps, h, points?_ofPoints])

@[simp] lemma ofPoints_inj {ps qs : List CodePoint} : ofPoints ps = ofPoints qs ↔ ps = qs :=
  ofPoints_injective.eq_iff

/-- No code points make the empty text. -/
@[simp] lemma ofPoints_nil : ofPoints [] = text "" := ofPoints_points ""

@[simp] lemma ofPoints_eq_text {ps : List CodePoint} {s : String} :
    ofPoints ps = text s ↔ ps = Text.points s := by
  rw [← ofPoints_points, ofPoints_inj]

/-- Texts are equal if their code points are. -/
@[simp] lemma equiv_ofPoints : (ofPoints ps).equiv (ofPoints qs) = decide (ps = qs) := by
  have hkinds : ∀ (s : String) (t : SurrogateText), Text.points s ≠ t.points := fun s t h => by
    have hnone := t.noText
    rw [← h, Text.ofPoints?_points] at hnone
    cases hnone
  rw [Bool.eq_iff_iff, decide_eq_true_iff]
  rcases ofPoints_cases ps with ⟨s, rfl, h⟩ | ⟨t, rfl, h⟩ <;>
    rcases ofPoints_cases qs with ⟨s', rfl, h'⟩ | ⟨t', rfl, h'⟩ <;> rw [h, h']
  · simp [equiv, Text.points_injective.eq_iff]
  · simp [equiv, number?, hkinds]
  · simp [equiv, number?, (hkinds _ _).symm]
  · rw [equiv, beq_iff_eq]
    exact ⟨congrArg _, fun heq => by cases t; cases t'; simpa using heq⟩

/-- A text counts as false if it is empty. -/
@[simp] lemma isFalsy_ofPoints : (ofPoints ps).isFalsy = ps.isEmpty := by
  rcases ofPoints_cases ps with ⟨s, rfl, h⟩ | ⟨t, rfl, h⟩
  · rw [h, isFalsy, Bool.eq_iff_iff, String.isEmpty_iff, List.isEmpty_iff, Text.points_eq_nil]
  · have hne : t.points ≠ [] := fun heq => by
      have hnone := t.noText
      rw [heq] at hnone
      cases hnone
    rw [h, isFalsy, eq_comm, List.isEmpty_eq_false_iff]
    exact hne

@[simp] lemma isNull_ofPoints : (ofPoints ps).isNull = false := by
  rcases ofPoints_cases ps with ⟨s, rfl, h⟩ | ⟨t, rfl, h⟩ <;> rw [h] <;> rfl

@[simp] lemma number?_ofPoints : (ofPoints ps).number? = none := by
  rcases ofPoints_cases ps with ⟨s, rfl, h⟩ | ⟨t, rfl, h⟩ <;> rw [h] <;> rfl

@[simp] lemma typeWord_ofPoints : (ofPoints ps).typeWord = "str" := by
  rcases ofPoints_cases ps with ⟨s, rfl, h⟩ | ⟨t, rfl, h⟩ <;> rw [h] <;> rfl

@[simp] lemma displayed_ofPoints : (ofPoints ps).displayed = ps := by
  rw [displayed, points?_ofPoints, Option.getD_some]

@[simp] lemma textFor_ofPoints (operation : String) :
    (ofPoints ps).textFor operation = .ok ps := by
  rw [textFor, points?_ofPoints]

end Datum

end BlockText

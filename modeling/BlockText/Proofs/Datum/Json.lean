import BlockText.Proofs.Datum.Order
import BlockText.Proofs.Datum.Texts

/-!
# Reading JSON text back

Every escape in a written string is read as the code point it stands for, except that two surrogates
which are a pair are read as one character. The digits of a whole number are read as the number if
it has not too many. A value ends where a comma or a closing bracket follows, so items and entries
are read one by one, and the text is long enough to serve as fuel. The main statement is that the
text of JSON data with whole numbers and without such pairs is read as their sorted form.
-/

namespace BlockText.Datum

-- The readers are unfolded all over this file, so their equations are derived here, once.
attribute [local simp] readJsonString readJson

/-! ## Strings -/

/-- A hexadecimal digit is read as its value. -/
lemma hexValue?_digitChar {n : ℕ} (h : n < 16) : hexValue? n.digitChar = some n := by
  have hall : ∀ m : Fin 16, hexValue? (Nat.digitChar m) = some m.val := by decide
  exact hall ⟨n, h⟩

/-- Leading zeros do not change a number. -/
lemma hexNumber?_zeros (k : ℕ) (cs : List Char) :
    hexNumber? (List.replicate k '0' ++ cs) = hexNumber? cs := by
  have hzero : hexValue? '0' = some 0 := by decide
  induction k with
  | zero => rfl
  | succ k ih =>
    rw [← ih, List.replicate_succ, List.cons_append, hexNumber?, List.foldlM_cons, hzero]
    rfl

/-- The digits of a number are read as the number. -/
lemma hexNumber?_toDigits (n : ℕ) : hexNumber? (Nat.toDigits 16 n) = some n := by
  induction n using Nat.strong_induction_on with
  | _ n ih =>
    rw [Nat.toDigits_eq_if (by decide)]
    split
    · next h => simp [hexNumber?, hexValue?_digitChar h]
    · next h =>
      have hlead : List.foldlM (fun n c => (hexValue? c).map (16 * n + ·)) 0
          (Nat.toDigits 16 (n / 16)) = some (n / 16) := ih (n / 16) (by omega)
      have hlast : hexValue? (n % 16).digitChar = some (n % 16) :=
        hexValue?_digitChar (Nat.mod_lt n (by decide))
      rw [hexNumber?, List.foldlM_append, hlead]
      simp [hlast, Nat.div_add_mod]

/-- A code unit is escaped by four digits that denote it. -/
lemma exists_unicodeEscape {n : ℕ} (h : n < 0x10000) :
    ∃ a b c d, unicodeEscape n = ['\\', 'u', a, b, c, d] ∧ hexNumber? [a, b, c, d] = some n := by
  have hlength : (Nat.toDigits 16 n).length ≤ 4 :=
    (Nat.length_toDigits_le_iff (by decide) (by decide)).mpr h
  have hread : hexNumber? (Text.hexDigits 4 n).toList = some n := by
    rw [Text.hexDigits, String.toList_ofList, hexNumber?_zeros, hexNumber?_toDigits]
  have hfour : (Text.hexDigits 4 n).toList.length = 4 := by
    simp [Text.hexDigits, hlength]
  obtain ⟨a, b, c, d, hdigits⟩ := List.length_eq_four.mp hfour
  exact ⟨a, b, c, d, by rw [unicodeEscape, hdigits], hdigits ▸ hread⟩

/-- The text starts with the escape of a surrogate that can be the second half of a pair. -/
def StartsLow (cs : List Char) : Prop :=
  ∃ a b c d rest n, cs = '\\' :: 'u' :: a :: b :: c :: d :: rest ∧
    hexNumber? [a, b, c, d] = some n ∧ 0xDC00 ≤ n ∧ n < 0xE000

/-- The escape of a code unit is read as its code point, unless it starts a pair. -/
lemma readJsonString_unit {n : ℕ} (h : n < 0x10000) {tail : List Char}
    (hpair : 0xD800 ≤ n → n < 0xDC00 → ¬ StartsLow tail) (acc : List CodePoint) :
    readJsonString acc (unicodeEscape n ++ tail) = readJsonString (.ofCode n :: acc) tail := by
  obtain ⟨a, b, c, d, hescape, hread⟩ := exists_unicodeEscape h
  rw [hescape]
  simp only [List.cons_append, List.nil_append]
  rw [readJsonString.eq_def]
  split
  · next heq => simp at heq
  · next heq => simp at heq
  · next e f g h rest heq =>
    -- Another escape follows; it stays for the next code point.
    obtain ⟨rfl, rfl, rfl, rfl, rfl⟩ := by simpa using heq
    rw [hread]
    cases hnext : hexNumber? [e, f, g, h] with
    | none => rfl
    | some lo =>
      have hsplit : ¬ ((0xD800 ≤ n && n < 0xDC00 && 0xDC00 ≤ lo && lo < 0xE000) = true) := by
        simp only [Bool.and_eq_true, decide_eq_true_eq]
        rintro ⟨⟨⟨hfirst, hlast⟩, hlow⟩, hhigh⟩
        exact hpair hfirst hlast ⟨e, f, g, h, rest, lo, rfl, hnext, hlow, hhigh⟩
      simp only [if_neg hsplit]
  · next heq =>
    obtain ⟨rfl, rfl, rfl, rfl, rfl⟩ := by simpa using heq
    rw [hread]
  · next hnot heq =>
    obtain ⟨rfl, rfl⟩ := by simpa using heq
    exact absurd rfl (hnot a b c d tail rfl)
  · next hnot heq =>
    obtain ⟨rfl, rfl⟩ := by simpa using heq
    exact absurd rfl (hnot 'u' _ rfl)

/-- The escapes of the two halves of a pair are read as its character. -/
lemma readJsonString_pair {n : ℕ} (h : n < 0x100000) (acc : List CodePoint) (tail : List Char) :
    readJsonString acc (unicodeEscape (0xD800 + n / 0x400) ++
        (unicodeEscape (0xDC00 + n % 0x400) ++ tail)) =
      readJsonString (.ofCode (0x10000 + n) :: acc) tail := by
  obtain ⟨a, b, c, d, hfirst, hi⟩ := exists_unicodeEscape (n := 0xD800 + n / 0x400) (by omega)
  obtain ⟨a', b', c', d', hsecond, lo⟩ := exists_unicodeEscape (n := 0xDC00 + n % 0x400) (by omega)
  rw [hfirst, hsecond]
  simp only [List.cons_append, List.nil_append]
  have hpair : (0xD800 ≤ 0xD800 + n / 0x400 && 0xD800 + n / 0x400 < 0xDC00 &&
      0xDC00 ≤ 0xDC00 + n % 0x400 && 0xDC00 + n % 0x400 < 0xE000) = true := by
    simp only [Bool.and_eq_true, decide_eq_true_eq]
    omega
  have hnumber : 0x10000 + (0xD800 + n / 0x400 - 0xD800) * 0x400 + (0xDC00 + n % 0x400 - 0xDC00) =
      0x10000 + n := by omega
  rw [readJsonString, hi, lo]
  simp only [if_pos hpair, hnumber]

/-- A plain character is read as itself. -/
lemma readJsonString_plain {c : Char} (hlow : 32 ≤ c.toNat) (hquote : c ≠ '"') (hback : c ≠ '\\')
    (acc : List CodePoint) (tail : List Char) :
    readJsonString acc (c :: tail) = readJsonString (.char c :: acc) tail := by
  have hctrl : ¬ c.toNat < 32 := Nat.not_lt.mpr hlow
  rw [readJsonString.eq_def]
  split
  · next heq => cases heq
  · next heq => exact absurd (List.cons.inj heq).1 hquote
  · next heq => exact absurd (List.cons.inj heq).1 hback
  · next heq => exact absurd (List.cons.inj heq).1 hback
  · next heq => exact absurd (List.cons.inj heq).1 hback
  · next heq =>
    obtain ⟨rfl, rfl⟩ := List.cons.inj heq
    rw [if_neg hctrl]

/-- The ways in which a character can be written inside a string. -/
inductive Written (c : Char) : List Char → Prop
  | named {e : Char} (he : e ≠ 'u')
    (hread : ∀ acc tail, readJsonString acc ('\\' :: e :: tail) =
      readJsonString (.char c :: acc) tail) : Written c ['\\', e]
  | plain (hlow : 32 ≤ c.toNat) (hquote : c ≠ '"') (hback : c ≠ '\\') : Written c [c]
  | unit (h : c.toNat < 0x10000) : Written c (unicodeEscape c.toNat)
  | pair (h : 0x10000 ≤ c.toNat) :
    Written c (unicodeEscape (0xD800 + (c.toNat - 0x10000) / 0x400) ++
      unicodeEscape (0xDC00 + (c.toNat - 0x10000) % 0x400))

/-- Every character is written in one of these ways. -/
lemma written_jsonChar (c : Char) : Written c (jsonChar c) := by
  have hcode {n : ℕ} (h : c.toNat = n) : c = Char.ofNat n := by rw [← h, Char.ofNat_toNat]
  obtain rfl | hquote := eq_or_ne c '"'
  · exact .named (e := '"') (by decide) (by simp)
  obtain rfl | hback := eq_or_ne c '\\'
  · exact .named (e := '\\') (by decide) (by simp)
  obtain rfl | hline := eq_or_ne c '\n'
  · exact .named (e := 'n') (by decide) (by simp)
  obtain rfl | hreturn := eq_or_ne c '\r'
  · exact .named (e := 'r') (by decide) (by simp)
  obtain rfl | htab := eq_or_ne c '\t'
  · exact .named (e := 't') (by decide) (by simp)
  by_cases hbackspace : c.toNat = 8
  · obtain rfl := hcode hbackspace
    exact .named (e := 'b') (by decide) (by simp)
  by_cases hfeed : c.toNat = 12
  · obtain rfl := hcode hfeed
    exact .named (e := 'f') (by decide) (by simp)
  rw [jsonChar, if_neg (by simpa using hquote), if_neg (by simpa using hback),
    if_neg (by simpa using hline), if_neg (by simpa using hreturn), if_neg (by simpa using htab),
    if_neg (by simpa using hbackspace), if_neg (by simpa using hfeed)]
  by_cases hcontrol : c.toNat < 32
  · rw [if_pos hcontrol]
    exact .unit (by omega)
  rw [if_neg hcontrol]
  by_cases hascii : c.toNat < 127
  · rw [if_pos hascii]
    exact .plain (by omega) hquote hback
  rw [if_neg hascii]
  by_cases hunit : c.toNat < 0x10000
  · rw [if_pos hunit]
    exact .unit hunit
  · rw [if_neg hunit]
    exact .pair (by omega)

/-- A character is read as it was written. -/
lemma readJsonString_jsonChar (c : Char) (acc : List CodePoint) (tail : List Char) :
    readJsonString acc (jsonChar c ++ tail) = readJsonString (.char c :: acc) tail := by
  have hvalid : c.toNat < 0xD800 ∨ 0xDFFF < c.toNat ∧ c.toNat < 0x110000 := c.valid
  have hwritten := written_jsonChar c
  generalize jsonChar c = cs at hwritten ⊢
  cases hwritten with
  | named _ hread => exact hread acc tail
  | plain hlow hquote hback => exact readJsonString_plain hlow hquote hback acc tail
  | unit h => rw [readJsonString_unit h (by omega), CodePoint.ofCode_toNat]
  | pair h =>
    rw [List.append_assoc, readJsonString_pair (by omega), Nat.add_sub_cancel' (by omega),
      CodePoint.ofCode_toNat]

/-- Only the escape of a second half is the escape of one. -/
lemma StartsLow.of_unicodeEscape {n : ℕ} (h : n < 0x10000) {tail : List Char}
    (hstart : StartsLow (unicodeEscape n ++ tail)) : 0xDC00 ≤ n ∧ n < 0xE000 := by
  obtain ⟨a, b, c, d, hescape, hread⟩ := exists_unicodeEscape h
  obtain ⟨a', b', c', d', rest, m, heq, hread', hm⟩ := hstart
  rw [hescape] at heq
  obtain ⟨rfl, rfl, rfl, rfl, -⟩ := by simpa using heq
  obtain rfl := Option.some_inj.mp (hread.symm.trans hread')
  exact hm

/-- Characters are not written like the second half of a pair. -/
lemma not_startsLow_jsonChar (c : Char) (tail : List Char) : ¬ StartsLow (jsonChar c ++ tail) := by
  have hvalid : c.toNat < 0xD800 ∨ 0xDFFF < c.toNat ∧ c.toNat < 0x110000 := c.valid
  have hwritten := written_jsonChar c
  generalize jsonChar c = cs at hwritten ⊢
  intro h
  cases hwritten with
  | named he _ =>
    obtain ⟨a, b, c', d, rest, n, heq, -⟩ := h
    exact he (List.cons.inj (List.cons.inj heq).2).1
  | plain _ _ hback =>
    obtain ⟨a, b, c', d, rest, n, heq, -⟩ := h
    exact hback (List.cons.inj heq).1
  | unit hunit =>
    have := h.of_unicodeEscape hunit
    omega
  | pair hpair =>
    rw [List.append_assoc] at h
    have := h.of_unicodeEscape (by omega)
    omega

/-- Two code points that are a pair: a surrogate of the first half and one of the second half. -/
def IsPair : CodePoint → CodePoint → Prop
  | .surrogate i, .surrogate j => i.val < 0x400 ∧ 0x400 ≤ j.val
  | _, _ => False

/-- No two neighbours are a pair. -/
def UnpairedPoints (ps : List CodePoint) : Prop := ps.IsChain fun p q => ¬ IsPair p q

/-- Characters are no surrogates. -/
lemma unpairedPoints_points (s : String) : UnpairedPoints (Text.points s) := by
  rw [UnpairedPoints, Text.points, List.isChain_map]
  exact (List.pairwise_of_forall fun _ _ => id).isChain

/-- A character beyond `0xFFFF` is escaped by two code units. -/
lemma jsonChar_of_le {c : Char} (h : 0x10000 ≤ c.toNat) :
    jsonChar c = unicodeEscape (0xD800 + (c.toNat - 0x10000) / 0x400) ++
      unicodeEscape (0xDC00 + (c.toNat - 0x10000) % 0x400) := by
  have hne (c' : Char) (h' : c'.toNat < 0x10000) : ¬ (c == c') = true := by
    rintro heq
    rw [eq_of_beq heq] at h
    omega
  unfold jsonChar
  rw [if_neg (hne _ (by decide)), if_neg (hne _ (by decide)), if_neg (hne _ (by decide)),
    if_neg (hne _ (by decide)), if_neg (hne _ (by decide)), if_neg (by simp; omega),
    if_neg (by simp; omega), if_neg (by omega), if_neg (by omega), if_neg (by omega)]

/-- A text is written as a string of its code points. -/
@[simp] lemma toJson_ofPoints (ps : List CodePoint) : (ofPoints ps).toJson = jsonString ps := by
  rcases ofPoints_cases ps with ⟨s, rfl, h⟩ | ⟨t, rfl, h⟩ <;> rw [h, toJson]

/-- The character that a pair of surrogates stands for is written as they are. -/
lemma jsonPoint_pair {i j : Fin 0x800} (h : IsPair (.surrogate i) (.surrogate j)) :
    jsonPoint (.ofCode (0x10000 + (i * 0x400 + (j - 0x400)))) =
      jsonPoint (.surrogate i) ++ jsonPoint (.surrogate j) := by
  obtain ⟨hi, hj⟩ := h
  have hlt := j.isLt
  generalize hn : (i : ℕ) * 0x400 + (j - 0x400) = n
  have hfirst : 0xD800 + (i : ℕ) = 0xD800 + n / 0x400 := by omega
  have hsecond : 0xD800 + (j : ℕ) = 0xDC00 + n % 0x400 := by omega
  have hchar : (Char.ofNat (0x10000 + n)).toNat = 0x10000 + n := by
    rw [Char.toNat_ofNat, if_pos (Or.inr ⟨by omega, by omega⟩)]
  rw [CodePoint.ofCode, dif_neg (by omega)]
  simp [jsonPoint, jsonChar_of_le, hchar, hfirst, hsecond]

/-- A pair of surrogates is written as the character that it stands for. -/
theorem toJson_pair {i j : Fin 0x800} (h : IsPair (.surrogate i) (.surrogate j)) :
    (ofPoints [.surrogate i, .surrogate j]).toJson =
      (ofPoints [.ofCode (0x10000 + (i * 0x400 + (j - 0x400)))]).toJson := by
  simp [jsonString, jsonPoint_pair h]

/-- A string without pairs is read as it was written. -/
lemma readJsonString_jsonString {ps : List CodePoint} (h : UnpairedPoints ps) (rest : List Char) :
    readJsonString [] (ps.flatMap jsonPoint ++ '"' :: rest) = some (ps, rest) := by
  have hread : ∀ acc : List CodePoint, readJsonString acc (ps.flatMap jsonPoint ++ '"' :: rest) =
      some (acc.reverse ++ ps, rest) := by
    induction ps with
    | nil =>
      intro acc
      simp
    | cons p ps ih =>
      intro acc
      rw [List.flatMap_cons, List.append_assoc]
      have hstep : readJsonString acc (jsonPoint p ++ (ps.flatMap jsonPoint ++ '"' :: rest)) =
          readJsonString (p :: acc) (ps.flatMap jsonPoint ++ '"' :: rest) := by
        cases p with
        | char c => exact readJsonString_jsonChar c acc _
        | surrogate i =>
          have hi := i.isLt
          rw [jsonPoint, readJsonString_unit (by omega), CodePoint.ofCode_surrogate]
          -- What follows the first half of a pair is not its second half.
          intro _ hfirst hstart
          cases ps with
          | nil => simp [StartsLow] at hstart
          | cons q qs =>
            rw [List.flatMap_cons, List.append_assoc] at hstart
            cases q with
            | char c => exact not_startsLow_jsonChar c _ hstart
            | surrogate j =>
              have hj := j.isLt
              have hlow := hstart.of_unicodeEscape (by omega)
              exact (List.isChain_cons_cons.mp h).1 ⟨by omega, by omega⟩
      rw [hstep, ih h.tail, List.reverse_cons, List.append_assoc, List.singleton_append]
  exact hread []

/-! ## Numbers -/

/-- What follows a value inside a text: nothing, or a mark that continues or closes. -/
def Follows : List Char → Prop
  | [] => True
  | c :: _ => c = ',' ∨ c = ']' ∨ c = '\x7d'

/-- No digit comes after a number that has ended. -/
lemma Follows.takeWhile_isDigit {rest : List Char} (h : Follows rest) :
    rest.takeWhile Char.isDigit = [] := by
  cases rest with
  | nil => rfl
  | cons c cs => rcases h with rfl | rfl | rfl <;> rfl

/-- Nothing is left out after a number that has ended. -/
lemma Follows.dropWhile_isDigit {rest : List Char} (h : Follows rest) :
    rest.dropWhile Char.isDigit = rest := by
  cases rest with
  | nil => rfl
  | cons c cs => rcases h with rfl | rfl | rfl <;> rfl

/-- The digits of a number are read as the number. -/
lemma decimalNumber_toDigits (n : ℕ) : decimalNumber (Nat.toDigits 10 n) = n := by
  have h := Nat.ofDigitChars_ten_toDigits (n := n)
  rwa [Nat.ofDigitChars_eq_foldl] at h

/-- The text of a number starts with a digit. -/
lemma exists_digit (n : ℕ) : ∃ c cs, Nat.toDigits 10 n = c :: cs ∧ c.isDigit = true := by
  cases h : Nat.toDigits 10 n with
  | nil => exact absurd h Nat.toDigits_ne_nil
  | cons c cs =>
    have hc : c ∈ Nat.toDigits 10 n := by simp [h]
    exact ⟨c, cs, rfl, Nat.isDigit_of_mem_toDigits (by decide) (by decide) hc⟩

/-- The digits of a number and a sign are read as the number with the sign. -/
lemma readJsonNumber_toDigits {limit : ℕ} (negative : Bool) {n : ℕ}
    (hn : (Nat.toDigits 10 n).length ≤ limit) {rest : List Char} (h : Follows rest) :
    readJsonNumber limit negative (Nat.toDigits 10 n ++ rest) =
      some (int (if negative then -n else n), rest) := by
  have hdigits : ∀ c ∈ Nat.toDigits 10 n, c.isDigit = true := fun c hc =>
    Nat.isDigit_of_mem_toDigits (by decide) (by decide) hc
  have hwhole : (Nat.toDigits 10 n ++ rest).takeWhile Char.isDigit = Nat.toDigits 10 n := by
    rw [List.takeWhile_append_of_pos hdigits, h.takeWhile_isDigit, List.append_nil]
  have hrest : (Nat.toDigits 10 n ++ rest).dropWhile Char.isDigit = rest := by
    rw [List.dropWhile_append_of_pos hdigits, h.dropWhile_isDigit]
  simp only [readJsonNumber, hwhole, hrest, List.isEmpty_iff, Nat.toDigits_ne_nil, if_false]
  cases rest with
  | nil => simp [decimalNumber_toDigits, hn]
  | cons c cs => rcases h with rfl | rfl | rfl <;> simp [decimalNumber_toDigits, hn]

/-! ## Values -/

/-- JSON data with whole numbers: no records, and no object names an entry twice. -/
inductive IsJson : Datum → Prop
  | null : IsJson null
  | bool (b : Bool) : IsJson (bool b)
  | int (n : ℤ) : IsJson (int n)
  | text (s : String) : IsJson (text s)
  | surrogates (t : SurrogateText) : IsJson (surrogates t)
  | list {items : List Datum} (items_json : ∀ d ∈ items, IsJson d) : IsJson (list items)
  | object {entries : List (String × Datum)} (nodup : (entries.map (·.1)).Nodup)
    (values_json : ∀ e ∈ entries, IsJson e.2) : IsJson (object entries)

mutual

/-- No text in the datum holds a pair of surrogates. -/
def Unpaired : Datum → Prop
  | surrogates t => UnpairedPoints t.points
  | list items => UnpairedList items
  | object entries => UnpairedEntries entries
  | record _ fields => UnpairedList fields
  | _ => True

/-- No text in the items holds a pair of surrogates. -/
def UnpairedList : List Datum → Prop
  | [] => True
  | d :: rest => Unpaired d ∧ UnpairedList rest

/-- No text in the entries holds a pair of surrogates. -/
def UnpairedEntries : List (String × Datum) → Prop
  | [] => True
  | (_, d) :: rest => Unpaired d ∧ UnpairedEntries rest

end

/-- A list is unpaired when its members are. -/
lemma unpairedList_iff {ds : List Datum} : UnpairedList ds ↔ ∀ d ∈ ds, d.Unpaired := by
  induction ds with
  | nil => simp [UnpairedList]
  | cons d rest ih => simp [UnpairedList, ih]

/-- Entries are unpaired when their values are. -/
lemma unpairedEntries_iff {entries : List (String × Datum)} :
    UnpairedEntries entries ↔ ∀ e ∈ entries, e.2.Unpaired := by
  induction entries with
  | nil => simp [UnpairedEntries]
  | cons e rest ih => simp [UnpairedEntries, ih]

/-- A list keeps the limit of digits when its members do. -/
lemma fitsDigitsList_iff {limit : ℕ} {ds : List Datum} :
    fitsDigitsList limit ds = true ↔ ∀ d ∈ ds, d.fitsDigits limit = true := by
  induction ds with
  | nil => simp [fitsDigitsList]
  | cons d rest ih => simp [fitsDigitsList, ih]

/-- Entries keep the limit of digits when their values do. -/
lemma fitsDigitsEntries_iff {limit : ℕ} {entries : List (String × Datum)} :
    fitsDigitsEntries limit entries = true ↔ ∀ e ∈ entries, e.2.fitsDigits limit = true := by
  induction entries with
  | nil => simp [fitsDigitsEntries]
  | cons e rest ih => simp [fitsDigitsEntries, ih]

/-- The text of an entry. -/
def entryText (e : String × Datum) : String :=
  jsonString (Text.points e.1) ++ ":" ++ e.2.toJson

/-- The text of an entry as characters. -/
lemma toList_entryText (e : String × Datum) :
    (entryText e).toList =
      '"' :: ((Text.points e.1).flatMap jsonPoint ++ '"' :: ':' :: e.2.toJson.toList) := by
  simp [entryText, jsonString]

section Writing

attribute [local simp] toJson toJsonList toJsonEntries

/-- A list is printed as its printed members between brackets. -/
lemma toJson_list (items : List Datum) :
    (list items).toJson = "[" ++ Text.join "," (items.map toJson) ++ "]" := by
  have hitems : ∀ ds : List Datum, toJsonList ds = ds.map toJson := by
    intro ds
    induction ds with
    | nil => simp
    | cons d rest ih => simp [ih]
  rw [toJson, hitems]

/-- Entries are printed value by value. -/
lemma toJsonEntries_eq_map (entries : List (String × Datum)) :
    toJsonEntries entries = entries.map fun e => (e.1, e.2.toJson) := by
  induction entries with
  | nil => simp
  | cons e rest ih => simp [ih]

/-- An object is printed as its sorted entries between braces. -/
lemma toJson_object (entries : List (String × Datum)) :
    (object entries).toJson =
      "\x7b" ++ Text.join "," ((sortEntries entries).map entryText) ++ "\x7d" := by
  have hsort : (sortEntries entries).map (fun e => (e.1, e.2.toJson)) =
      sortEntries (entries.map fun e => (e.1, e.2.toJson)) :=
    map_sortEntries (fun e : String × Datum => (e.1, e.2.toJson)) (fun _ => rfl) entries
  have htexts : (sortEntries entries).map entryText =
      (sortEntries (entries.map fun e => (e.1, e.2.toJson))).map
        fun e => jsonString (Text.points e.1) ++ ":" ++ e.2 := by
    rw [← hsort, List.map_map]
    rfl
  rw [toJson, toJsonEntries_eq_map, jsonObject, htexts]
  rfl

end Writing

/-- A character at which a value starts. -/
def Opens (c : Char) : Prop :=
  c ≠ ']' ∧ c ≠ ' ' ∧ c ≠ '\n' ∧ c ≠ '\t' ∧ c ≠ '\r'

/-- No space is skipped before what opens a value. -/
lemma Opens.skipSpace {c : Char} (h : Opens c) (cs : List Char) :
    skipSpace (c :: cs) = c :: cs := by
  obtain ⟨-, h₁, h₂, h₃, h₄⟩ := h
  simp [Datum.skipSpace, h₁, h₂, h₃, h₄]

/-- The text of a whole number. -/
lemma toString_int (n : ℤ) :
    (toString n).toList =
      if 0 ≤ n then Nat.toDigits 10 n.toNat else '-' :: Nat.toDigits 10 (-n).toNat := by
  rw [show toString n = n.repr from rfl, Int.repr_eq_if]
  split <;> simp [Nat.repr_eq_ofList_toDigits]

/-- A digit opens a value. -/
lemma Opens.of_isDigit {c : Char} (h : c.isDigit = true) : Opens c := by
  refine ⟨?_, ?_, ?_, ?_, ?_⟩ <;> (rintro rfl; simp at h)

/-- A number without a sign is read as a number. -/
lemma readJson_digit {c : Char} (h : c.isDigit = true) (limit fuel : ℕ) (cs : List Char) :
    readJson limit (fuel + 1) (c :: cs) = readJsonNumber limit false (c :: cs) := by
  rw [readJson, (Opens.of_isDigit h).skipSpace]
  split <;> simp_all

/-- The text of a datum starts with a character at which a value starts. -/
lemma IsJson.exists_opens {d : Datum} (h : d.IsJson) :
    ∃ c cs, d.toJson.toList = c :: cs ∧ Opens c := by
  cases h with
  | null => exact ⟨'n', ['u', 'l', 'l'], by simp [toJson], by simp [Opens]⟩
  | bool b =>
    cases b with
    | false => exact ⟨'f', ['a', 'l', 's', 'e'], by simp [toJson], by simp [Opens]⟩
    | true => exact ⟨'t', ['r', 'u', 'e'], by simp [toJson], by simp [Opens]⟩
  | int n =>
    rw [toJson, toString_int]
    split
    · obtain ⟨c, cs, hdigits, hc⟩ := exists_digit n.toNat
      exact ⟨c, cs, hdigits, .of_isDigit hc⟩
    · exact ⟨'-', _, rfl, by simp [Opens]⟩
  | text s =>
    exact ⟨'"', (Text.points s).flatMap jsonPoint ++ ['"'], by simp [toJson, jsonString],
      by simp [Opens]⟩
  | surrogates t =>
    exact ⟨'"', t.points.flatMap jsonPoint ++ ['"'], by simp [toJson, jsonString], by simp [Opens]⟩
  | @list items _ =>
    exact ⟨'[', (Text.join "," (items.map toJson)).toList ++ [']'], by simp [toJson_list],
      by simp [Opens]⟩
  | @object entries _ _ =>
    exact ⟨'\x7b', (Text.join "," ((sortEntries entries).map entryText)).toList ++ ['\x7d'],
      by simp [toJson_object], by simp [Opens]⟩

/-- The text of one more item. -/
lemma join_cons (s : String) {rest : List String} (h : rest ≠ []) :
    Text.join "," (s :: rest) = s ++ "," ++ Text.join "," rest :=
  String.intercalate_cons_of_ne_nil h

/-- Joined texts start as the first of them does. -/
lemma exists_join_eq {s : String} {c : Char} {cs : List Char} (h : s.toList = c :: cs)
    (rest : List String) : ∃ cs', (Text.join "," (s :: rest)).toList = c :: cs' := by
  by_cases hrest : rest = []
  · subst hrest
    exact ⟨cs, by rw [← h]; exact congrArg String.toList String.intercalate_singleton⟩
  · rw [join_cons s hrest]
    exact ⟨cs ++ ',' :: (Text.join "," rest).toList, by simp [h]⟩

/-- A list with items is read item by item. -/
lemma readJson_list {c : Char} (h : Opens c) (limit fuel : ℕ) (cs : List Char) :
    readJson limit (fuel + 1) ('[' :: c :: cs) =
      (readJsonItems limit fuel (c :: cs)).map fun (items, rest) => (list items, rest) := by
  have hne : c ≠ ']' := h.1
  have hskip : skipSpace ('[' :: c :: cs) = '[' :: c :: cs := by simp [skipSpace]
  rw [readJson, hskip]
  simp only [h.skipSpace]
  split <;> simp_all

/-- An object with entries is read entry by entry. -/
lemma readJson_object (limit fuel : ℕ) (cs : List Char) :
    readJson limit (fuel + 1) ('\x7b' :: '"' :: cs) =
      (readJsonEntries limit fuel [] ('"' :: cs)).map fun (entries, rest) => (object entries, rest) := by
  simp [skipSpace]

/-- The text of a datum is read as its sorted form. -/
def ReadsBack (limit : ℕ) (d : Datum) : Prop :=
  ∀ fuel rest, d.toJson.length < fuel → Follows rest →
    readJson limit fuel (d.toJson.toList ++ rest) = some (d.sorted, rest)

variable {limit : ℕ}

/-- One unit of fuel is spent on the value itself. -/
lemma readsBack_of_succ {d : Datum} (h : ∀ fuel rest, d.toJson.length ≤ fuel → Follows rest →
    readJson limit (fuel + 1) (d.toJson.toList ++ rest) = some (d.sorted, rest)) :
    d.ReadsBack limit := by
  intro fuel rest hfuel hrest
  obtain ⟨fuel, rfl⟩ : ∃ n, fuel = n + 1 := ⟨fuel - 1, by omega⟩
  exact h fuel rest (by omega) hrest

/-- Printed members are read back one by one up to the closing bracket. -/
lemma readJsonItems_join {items : List Datum} (hne : items ≠ [])
    (hread : ∀ d ∈ items, d.ReadsBack limit) (fuel : ℕ) (rest : List Char)
    (hfuel : (Text.join "," (items.map toJson)).length + 1 < fuel) :
    readJsonItems limit fuel ((Text.join "," (items.map toJson)).toList ++ ']' :: rest) =
      some (items.map sorted, rest) := by
  induction items generalizing fuel with
  | nil => exact absurd rfl hne
  | cons d others ih =>
    obtain ⟨fuel, rfl⟩ : ∃ n, fuel = n + 1 := ⟨fuel - 1, by omega⟩
    have hd := hread d List.mem_cons_self
    by_cases hothers : others = []
    · subst hothers
      have hjoin : Text.join "," ([d].map toJson) = d.toJson := String.intercalate_singleton
      rw [hjoin] at hfuel ⊢
      rw [readJsonItems, hd fuel (']' :: rest) (by omega) (by simp [Follows])]
      simp [skipSpace]
    · have htexts : others.map toJson ≠ [] := by simpa using hothers
      have hjoin := join_cons d.toJson htexts
      rw [List.map_cons, hjoin] at hfuel ⊢
      have hcomma : ",".length = 1 := rfl
      rw [String.length_append, String.length_append, hcomma] at hfuel
      have hrest := ih hothers (fun d hd => hread d (List.mem_cons_of_mem _ hd)) fuel (by omega)
      have hhead := hd fuel (',' :: ((Text.join "," (others.map toJson)).toList ++ ']' :: rest))
        (by omega) (by simp [Follows])
      rw [readJsonItems]
      simp [skipSpace, hhead, hrest]

/-- Writing under a new key adds an entry at the end. -/
lemma putEntry_of_not_mem {α : Type} {entries : List (String × α)} {key : String} {value : α}
    (h : key ∉ entries.map (·.1)) : putEntry entries key value = entries ++ [(key, value)] := by
  have hany : ¬ entries.any (·.1 == key) := by simpa using h
  rw [putEntry, if_neg hany]

/-- Printed entries with distinct keys are read back one by one up to the closing brace. -/
lemma readJsonEntries_join {entries : List (String × Datum)} (hne : entries ≠ [])
    (hread : ∀ e ∈ entries, e.2.ReadsBack limit) (done : List (String × Datum))
    (hnd : ((done ++ entries).map (·.1)).Nodup) (fuel : ℕ) (rest : List Char)
    (hfuel : (Text.join "," (entries.map entryText)).length + 1 < fuel) :
    readJsonEntries limit fuel done
        ((Text.join "," (entries.map entryText)).toList ++ '\x7d' :: rest) =
      some (done ++ sortedEntries entries, rest) := by
  induction entries generalizing fuel done with
  | nil => exact absurd rfl hne
  | cons e others ih =>
    obtain ⟨fuel, rfl⟩ : ∃ n, fuel = n + 1 := ⟨fuel - 1, by omega⟩
    obtain ⟨key, d⟩ := e
    have hd : d.ReadsBack limit := hread (key, d) List.mem_cons_self
    have hnew : key ∉ done.map (·.1) := by
      simp only [List.map_append, List.map_cons, List.nodup_append] at hnd
      intro hkey
      exact hnd.2.2 key hkey key List.mem_cons_self rfl
    have htext := toList_entryText (key, d)
    have hkey := fun rest : List Char => readJsonString_jsonString (unpairedPoints_points key) rest
    have hlength : d.toJson.length < (entryText (key, d)).length := by
      rw [← String.length_toList, ← String.length_toList, htext]
      simp
      omega
    by_cases hothers : others = []
    · subst hothers
      have hjoin : Text.join "," ([(key, d)].map entryText) = entryText (key, d) :=
        String.intercalate_singleton
      rw [hjoin] at hfuel ⊢
      rw [readJsonEntries, htext]
      have hvalue := hd fuel ('\x7d' :: rest) (by omega) (by simp [Follows])
      simp [skipSpace, hkey, hvalue, putEntry_of_not_mem hnew, sortedEntries]
    · have htexts : others.map entryText ≠ [] := by simpa using hothers
      have hjoin := join_cons (entryText (key, d)) htexts
      rw [List.map_cons, hjoin] at hfuel ⊢
      have hcomma : ",".length = 1 := rfl
      rw [String.length_append, String.length_append, hcomma] at hfuel
      have hnd' : (((done ++ [(key, d.sorted)]) ++ others).map (·.1)).Nodup := by
        simpa using hnd
      have hrest := ih hothers (fun e he => hread e (List.mem_cons_of_mem _ he))
        (done ++ [(key, d.sorted)]) hnd' fuel (by omega)
      have hvalue := hd fuel
        (',' :: ((Text.join "," (others.map entryText)).toList ++ '\x7d' :: rest))
        (by omega) (by simp [Follows])
      rw [readJsonEntries]
      simp [skipSpace, htext, hkey, hvalue, putEntry_of_not_mem hnew, hrest,
        sortedEntries]

/-- Reading inverts writing up to the order of entries, without pairs and too many digits. -/
theorem IsJson.readsBack {d : Datum} (h : d.IsJson) (hpairs : d.Unpaired)
    (hdigits : d.fitsDigits limit = true) : d.ReadsBack limit := by
  induction h with
  | null =>
    refine readsBack_of_succ fun fuel rest _ _ => ?_
    simp [toJson, skipSpace, sorted]
  | bool b =>
    refine readsBack_of_succ fun fuel rest _ _ => ?_
    cases b <;> simp [toJson, skipSpace, sorted]
  | int n =>
    refine readsBack_of_succ fun fuel rest _ hrest => ?_
    have habs : (Nat.toDigits 10 n.natAbs).length ≤ limit := by simpa [fitsDigits] using hdigits
    rw [toJson, toString_int, sorted]
    split
    · next hn =>
      obtain ⟨c, cs, hcs, hc⟩ := exists_digit n.toNat
      have hnat : n.natAbs = n.toNat := by omega
      have hnumber := readJsonNumber_toDigits false (hnat ▸ habs) hrest
      rw [hcs] at hnumber ⊢
      rw [List.cons_append, readJson_digit hc, ← List.cons_append, hnumber]
      simp [Int.toNat_of_nonneg hn]
    · next hn =>
      have hnat : n.natAbs = (-n).toNat := by omega
      have hnumber := readJsonNumber_toDigits true (hnat ▸ habs) hrest
      have hvalue : -((-n).toNat : ℤ) = n := by omega
      rw [if_pos rfl, hvalue] at hnumber
      simp [skipSpace, hnumber]
  | text s =>
    refine readsBack_of_succ fun fuel rest _ _ => ?_
    have hread := readJsonString_jsonString (unpairedPoints_points s) rest
    simp [toJson, jsonString, skipSpace, sorted, hread]
  | surrogates t =>
    refine readsBack_of_succ fun fuel rest _ _ => ?_
    have hread := readJsonString_jsonString hpairs rest
    simp [toJson, jsonString, skipSpace, sorted, hread]
  | @list items hitems ih =>
    refine readsBack_of_succ fun fuel rest hfuel _ => ?_
    rw [toJson_list] at hfuel ⊢
    cases items with
    | nil => simp [Text.join, skipSpace, sorted, sortedList]
    | cons d others =>
      have hlength : (Text.join "," ((d :: others).map toJson)).length + 1 < fuel := by
        have hopen : "[".length = 1 := rfl
        have hclose : "]".length = 1 := rfl
        rw [String.length_append, String.length_append, hopen, hclose] at hfuel
        omega
      have hitem : ∀ d' ∈ d :: others, d'.ReadsBack limit := fun d' hd' =>
        ih d' hd' (unpairedList_iff.mp hpairs d' hd') (fitsDigitsList_iff.mp hdigits d' hd')
      have hread := readJsonItems_join (List.cons_ne_nil d others) hitem fuel rest hlength
      obtain ⟨c, first, hfirst, hopens⟩ := (hitems d List.mem_cons_self).exists_opens
      obtain ⟨cs, hstart⟩ := exists_join_eq hfirst (others.map toJson)
      rw [List.map_cons, hstart] at hread
      have htext : ("[" ++ Text.join "," ((d :: others).map toJson) ++ "]").toList ++ rest =
          '[' :: c :: (cs ++ ']' :: rest) := by
        rw [List.map_cons, String.toList_append, String.toList_append, hstart]
        simp
      rw [htext, readJson_list hopens, ← List.cons_append, hread, sorted, sortedList_eq_map]
      rfl
  | @object entries hnd hvalues ih =>
    refine readsBack_of_succ fun fuel rest hfuel _ => ?_
    rw [toJson_object] at hfuel ⊢
    rw [sorted, ← sortedEntries_sortEntries]
    have hperm := sortEntries_perm entries
    have hnd' : ((sortEntries entries).map (·.1)).Nodup := (hperm.map (·.1)).nodup_iff.mpr hnd
    have hread' : ∀ e ∈ sortEntries entries, e.2.ReadsBack limit := fun e he =>
      have he' := hperm.mem_iff.mp he
      ih e he' (unpairedEntries_iff.mp hpairs e he') (fitsDigitsEntries_iff.mp hdigits e he')
    generalize sortEntries entries = entries' at hfuel hnd' hread' ⊢
    cases entries' with
    | nil => simp [Text.join, skipSpace, sortedEntries]
    | cons e others =>
      have hlength : (Text.join "," ((e :: others).map entryText)).length + 1 < fuel := by
        have hopen : "\x7b".length = 1 := rfl
        have hclose : "\x7d".length = 1 := rfl
        rw [String.length_append, String.length_append, hopen, hclose] at hfuel
        omega
      have hread := readJsonEntries_join (List.cons_ne_nil e others) hread' [] hnd' fuel rest hlength
      have hfirst : (entryText e).toList =
          '"' :: ((Text.points e.1).flatMap jsonPoint ++ '"' :: ':' :: e.2.toJson.toList) :=
        toList_entryText e
      obtain ⟨cs, hstart⟩ := exists_join_eq hfirst (others.map entryText)
      rw [List.map_cons, hstart] at hread
      have htext : ("\x7b" ++ Text.join "," ((e :: others).map entryText) ++ "\x7d").toList ++ rest =
          '\x7b' :: '"' :: (cs ++ '\x7d' :: rest) := by
        rw [List.map_cons, String.toList_append, String.toList_append, hstart]
        simp
      rw [htext, readJson_object, ← List.cons_append, hread]
      rfl

/-- JSON text is read as the data that were written, up to the order of entries. -/
theorem ofJson?_toJson {d : Datum} (h : d.IsJson) (hpairs : d.Unpaired)
    (hdigits : d.fitsDigits limit = true) : ofJson? d.toJson limit = some d.sorted := by
  have hlength : d.toJson.length < d.toJson.toList.length + 1 := by
    rw [String.length_toList]
    exact Nat.lt_succ_self _
  have hread := h.readsBack hpairs hdigits (d.toJson.toList.length + 1) [] hlength trivial
  rw [List.append_nil] at hread
  rw [ofJson?, hread]
  rfl

end BlockText.Datum

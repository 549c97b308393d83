import BlockText.Proofs.Source.Outlining
import BlockText.Proofs.Source.Places

/-!
# Tokens in a text

A lexeme is a front part of what is left of the text; it begins with no blank and ends in no line
feed.  So the tokens of the lexer stand one after another, each of them with its characters at its
mark and with blanks, comments and breaks before it.
-/

namespace BlockText.Source

variable {c q : Char} {cs s rest taken : List Char} {kind : TokenKind}

/-! ## First and last characters of lexemes -/

/-- A character of a class without blanks is none. -/
lemma isBlank_of_forall {p : Char → Bool}
    (hp : (Text.blankRanges.flatMap fun r => List.range' r.1 (r.2 + 1 - r.1)).any
      (fun n => p (Char.ofNat n)) = false) (h : p c = true) : Text.isBlank c = false := by
  rw [Bool.eq_false_iff]
  intro hblank
  obtain ⟨r, hr, hc⟩ := List.any_eq_true.mp hblank
  simp only [Bool.and_eq_true, decide_eq_true_eq] at hc
  have hmem : c.toNat ∈ Text.blankRanges.flatMap fun r => List.range' r.1 (r.2 + 1 - r.1) :=
    List.mem_flatMap.mpr ⟨r, hr, List.mem_range'_1.mpr (by omega)⟩
  have hnot := List.any_eq_false.mp hp _ hmem
  rw [Char.ofNat_toNat] at hnot
  exact hnot h

/-- The character may begin a lexeme: it neither leaves a line without code nor continues it. -/
def opensLexeme (c : Char) : Bool := !Text.isBlank c && c != '#' && c != '\\'

/-- A string with single quotes is a front part of the text and ends in its quote. -/
lemma closeSingle_split (h : closeSingle q cs = some (s, rest)) :
    cs = s ++ rest ∧ s.getLast? = some q := by
  fun_induction closeSingle q cs generalizing s with
  | case1 => cases h
  | case2 c cs ih =>
    obtain ⟨⟨s', rest'⟩, hs, heq⟩ := Option.map_eq_some_iff.mp h
    cases heq
    obtain ⟨rfl, hlast⟩ := ih hs
    exact ⟨rfl, by simp [List.getLast?_cons, hlast]⟩
  | case3 c cs hnot hc =>
    cases h
    exact ⟨rfl, by simpa using hc⟩
  | case4 => cases h
  | case5 c cs hnot hc hfeed ih =>
    obtain ⟨⟨s', rest'⟩, hs, heq⟩ := Option.map_eq_some_iff.mp h
    cases heq
    obtain ⟨rfl, hlast⟩ := ih hs
    exact ⟨rfl, by simp [List.getLast?_cons, hlast]⟩

/-- A string with triple quotes is a front part of the text and ends in its quote. -/
lemma closeTriple_split (h : closeTriple q cs = some (s, rest)) :
    cs = s ++ rest ∧ s.getLast? = some q := by
  fun_induction closeTriple q cs generalizing s with
  | case1 => cases h
  | case2 c cs ih =>
    obtain ⟨⟨s', rest'⟩, hs, heq⟩ := Option.map_eq_some_iff.mp h
    cases heq
    obtain ⟨rfl, hlast⟩ := ih hs
    exact ⟨rfl, by simp [List.getLast?_cons, hlast]⟩
  | case3 c cs hnot hc =>
    cases h
    obtain ⟨heq, hprefix⟩ := Bool.and_eq_true_iff.mp hc
    obtain ⟨more, rfl⟩ := List.isPrefixOf_iff_prefix.mp hprefix
    exact ⟨by simp [eq_of_beq heq], by simp⟩
  | case4 c cs hnot hc ih =>
    obtain ⟨⟨s', rest'⟩, hs, heq⟩ := Option.map_eq_some_iff.mp h
    cases heq
    obtain ⟨rfl, hlast⟩ := ih hs
    exact ⟨rfl, by simp [List.getLast?_cons, hlast]⟩

/-- A string is a front part of the text and stands between its quotes. -/
lemma scanQuoted_split (h : scanQuoted (q :: cs) = some (s, rest)) :
    q :: cs = s ++ rest ∧ s.head? = some q ∧ s.getLast? = some q := by
  rw [scanQuoted] at h
  split at h
  · next hprefix =>
    obtain ⟨⟨s', rest'⟩, hs, heq⟩ := Option.map_eq_some_iff.mp h
    cases heq
    obtain ⟨hsplit, hlast⟩ := closeTriple_split hs
    obtain ⟨more, rfl⟩ := List.isPrefixOf_iff_prefix.mp hprefix
    simp only [List.cons_append, List.nil_append, List.drop_succ_cons, List.drop_zero] at hsplit
    exact ⟨by simp [hsplit], rfl, by simp [List.getLast?_cons, hlast]⟩
  · obtain ⟨⟨s', rest'⟩, hs, heq⟩ := Option.map_eq_some_iff.mp h
    cases heq
    obtain ⟨rfl, hlast⟩ := closeSingle_split hs
    exact ⟨rfl, rfl, by simp [List.getLast?_cons, hlast]⟩

/-- A string stands in front of the rest, begins with its prefix or its mark, and ends with its
mark. -/
lemma string_split {letters : List Char} (h : stringStart? cs = some (letters, rest))
    (hscan : scanQuoted rest = some (s, taken)) :
    cs = letters ++ s ++ taken ∧
      (∀ c ∈ (letters ++ s).head?, (isPlainLetter c || isQuote c) = true) ∧
      ∃ q, isQuote q = true ∧ (letters ++ s).getLast? = some q := by
  unfold stringStart? at h
  dsimp only at h
  split at h
  · next hstart =>
    obtain ⟨rfl, rfl⟩ := Prod.mk.inj (Option.some.inj h)
    obtain ⟨q, more, hq, hquote⟩ : ∃ q more, cs.drop ((cs.take 3).takeWhile isPlainLetter).length =
        q :: more ∧ isQuote q = true := by
      have hany := (Bool.and_eq_true_iff.mp hstart).1
      cases hdrop : cs.drop ((cs.take 3).takeWhile isPlainLetter).length with
      | nil => simp [hdrop] at hany
      | cons q more => exact ⟨q, more, rfl, by simpa [hdrop] using hany⟩
    rw [hq] at hscan
    obtain ⟨hsplit, hhead, hlast⟩ := scanQuoted_split hscan
    have hprefix : (cs.take 3).takeWhile isPlainLetter <+: cs :=
      (List.takeWhile_prefix _).trans (List.take_prefix 3 cs)
    refine ⟨?_, fun c hc => ?_, q, hquote, by simp [List.getLast?_append, hlast]⟩
    · rw [List.append_assoc, ← hsplit, ← hq]
      exact (List.prefix_iff_eq_append.mp hprefix).symm
    · cases hletters : (cs.take 3).takeWhile isPlainLetter with
      | nil =>
        rw [hletters, List.nil_append, hhead] at hc
        cases hc
        simp [hquote]
      | cons d more =>
        rw [hletters] at hc
        cases hc
        have hd := List.mem_takeWhile_imp (hletters ▸ List.mem_cons_self)
        simp [hd]
  · cases h

/-- An operator is a front part of the text and ends no line. -/
lemma scanOperator_split (h : scanOperator (c :: cs) = (s, rest)) (hfeed : c ≠ '\n') :
    c :: cs = s ++ rest ∧ s.head? = some c ∧ s.getLast? ≠ some '\n' := by
  unfold scanOperator at h
  cases ho : longOperators.find? (·.isPrefixOf (c :: cs)) with
  | some o =>
    rw [ho] at h
    obtain ⟨rfl, rfl⟩ := Prod.mk.inj h
    have hoperators : ∀ o ∈ longOperators, o ≠ [] ∧ o.getLast? ≠ some '\n' := by decide
    obtain ⟨hne, hlast⟩ := hoperators o (List.mem_of_find?_eq_some ho)
    have hprefix : o <+: c :: cs :=
      List.isPrefixOf_iff_prefix.mp
        (List.find?_some (p := fun o : List Char => o.isPrefixOf (c :: cs)) ho)
    refine ⟨(List.prefix_iff_eq_append.mp hprefix).symm, ?_, hlast⟩
    cases o with
    | nil => exact absurd rfl hne
    | cons d more =>
      obtain ⟨after, hafter⟩ := hprefix
      cases hafter
      rfl
  | none =>
    rw [ho] at h
    obtain ⟨rfl, rfl⟩ := Prod.mk.inj h
    exact ⟨rfl, rfl, by simpa using hfeed⟩

/-- Kinds of tokens that show layout. -/
def layoutKinds : List TokenKind := [.newline, .indent, .dedent, .endMarker]

/-- No lexeme is layout. -/
lemma lexeme_kind (h : lexeme cs = some (kind, s, rest)) : kind ∉ layoutKinds := by
  unfold lexeme at h
  split at h
  · obtain ⟨found, -, heq⟩ := Option.map_eq_some_iff.mp h
    cases heq
    decide
  · split at h
    · cases h
    · split at h
      · dsimp only at h
        split at h
        · cases h
          decide
        · cases h
      · split at h
        · obtain ⟨found, -, heq⟩ := Option.map_eq_some_iff.mp h
          cases heq
          decide
        · split at h
          · cases h
            decide
          · cases h

/-- A string begins with its prefix or its mark, none of which is a blank. -/
lemma quoted_split {letters : List Char} (h : stringStart? (c :: cs) = some (letters, rest))
    (hscan : scanQuoted rest = some (s, taken)) :
    c :: cs = letters ++ s ++ taken ∧ (letters ++ s).head? = some c ∧ Text.isBlank c = false ∧
      (letters ++ s).getLast? ≠ some '\n' := by
  obtain ⟨hsplit, hhead, q, hquote, hlast⟩ := string_split h hscan
  have hfirst : (letters ++ s).head? = some c := by
    cases hchars : letters ++ s with
    | nil => simp [hchars] at hlast
    | cons d more =>
      rw [hchars] at hsplit
      cases hsplit
      rfl
  refine ⟨hsplit, hfirst, ?_, ?_⟩
  · exact isBlank_of_forall (p := fun c => isPlainLetter c || isQuote c) (by decide +kernel)
      (hhead c hfirst)
  · rw [hlast]
    rintro ⟨⟩
    cases hquote

/-- A name is a front part of the text and ends no line. -/
lemma name_split (hstarts : startsName c = true)
    (hname : isName ((c :: cs).takeWhile continuesName) = true) :
    c :: cs = (c :: cs).takeWhile continuesName ++
        (c :: cs).drop ((c :: cs).takeWhile continuesName).length ∧
      ((c :: cs).takeWhile continuesName).head? = some c ∧ Text.isBlank c = false ∧
      ((c :: cs).takeWhile continuesName).getLast? ≠ some '\n' := by
  have hcons : (c :: cs).takeWhile continuesName = c :: cs.takeWhile continuesName := by
    rw [List.takeWhile_cons_of_pos]
    simp [continuesName, hstarts]
  have hstart : Text.isIdentifierStart c = true := by
    rw [hcons, isName, Bool.and_eq_true] at hname
    exact hname.1
  refine ⟨(List.prefix_iff_eq_append.mp (List.takeWhile_prefix _)).symm, ?_,
    isBlank_of_forall (by decide +kernel) hstart, fun hlast => ?_⟩
  · rw [hcons, List.head?_cons]
  · have hmem := List.mem_takeWhile_imp (List.mem_of_getLast? hlast)
    cases hmem

/-- A number is a front part of the text and ends no line. -/
lemma number_split (hdigit : c.isDigit = true ∨ c = '.')
    (h : scanNumber (c :: cs) = some (s, rest)) (hfeed : c ≠ '\n') :
    c :: cs = s ++ rest ∧ s.head? = some c ∧ Text.isBlank c = false ∧
      s.getLast? ≠ some '\n' := by
  obtain ⟨more, rfl, rfl, hmore⟩ := takesPlain_scanNumber hdigit cs _ _ h
  refine ⟨rfl, rfl, ?_, fun hlast => ?_⟩
  · exact isBlank_of_forall (p := fun c => c.isDigit || c == '.') (by decide +kernel)
      (by simpa using hdigit)
  · have hpart : isNumberPart '\n' = true := by
      rcases List.mem_cons.mp (List.mem_of_getLast? hlast) with heq | hmem
      · exact absurd heq.symm hfeed
      · exact hmore _ hmem
    cases hpart

/-- Among the characters of the base set that can be printed only the space is a blank. -/
lemma isBlank_of_isPrinting (hstarts : startsName c = false) (hprint : Text.isPrinting c = true)
    (hspace : isSpacing c = false) : Text.isBlank c = false := by
  have hsmall : c.toNat < 128 := by
    by_contra hlarge
    simp [startsName, Nat.le_of_not_lt hlarge] at hstarts
  refine isBlank_of_forall (p := fun c => 33 ≤ c.toNat && c.toNat < 127) (by decide +kernel) ?_
  rw [Text.isPrinting, if_pos hsmall] at hprint
  simp only [Bool.and_eq_true, decide_eq_true_eq] at hprint ⊢
  refine ⟨Nat.lt_of_le_of_ne hprint.1 fun heq => ?_, hprint.2⟩
  obtain rfl : c = ' ' := by rw [← Char.ofNat_toNat c, ← heq]
  cases hspace

/-- A lexeme stands in front of the rest, begins with a character of code, and its last character
ends no line. -/
lemma lexeme_split (h : lexeme (c :: cs) = some (kind, s, rest)) (hspace : isSpacing c = false)
    (hhash : c ≠ '#') (hslash : c ≠ '\\') (hfeed : c ≠ '\n') :
    c :: cs = s ++ rest ∧ s.head? = some c ∧ opensLexeme c = true ∧ s.getLast? ≠ some '\n' := by
  have hopens : Text.isBlank c = false → opensLexeme c = true := by
    intro hblank
    simp [opensLexeme, hblank, hhash, hslash]
  suffices hsplit : c :: cs = s ++ rest ∧ s.head? = some c ∧ Text.isBlank c = false ∧
      s.getLast? ≠ some '\n' by
    exact ⟨hsplit.1, hsplit.2.1, hopens hsplit.2.2.1, hsplit.2.2.2⟩
  unfold lexeme at h
  cases hstart : stringStart? (c :: cs) with
  | some found =>
    obtain ⟨letters, quoted⟩ := found
    rw [hstart] at h
    obtain ⟨⟨s', rest'⟩, hs, heq⟩ := Option.map_eq_some_iff.mp h
    cases heq
    exact quoted_split hstart hs
  | none =>
    rw [hstart] at h
    dsimp only at h
    split at h
    · next hstarts =>
      split at h
      · next hname =>
        cases h
        exact name_split hstarts hname
      · cases h
    · next hstarts =>
      split at h
      · next hdigit =>
        obtain ⟨⟨s', rest'⟩, hs, heq⟩ := Option.map_eq_some_iff.mp h
        cases heq
        simp only [Bool.or_eq_true, Bool.and_eq_true, beq_iff_eq] at hdigit
        exact number_split (hdigit.imp_right And.left) hs hfeed
      · split at h
        · next hprint =>
          obtain ⟨hsplit, hhead, hlast⟩ :=
            scanOperator_split (Eq.refl (scanOperator (c :: cs))) hfeed
          cases h
          exact ⟨hsplit, hhead, isBlank_of_isPrinting (by simpa using hstarts) hprint hspace,
            hlast⟩
        · cases h

/-! ## Marks -/

variable {origin : Mark} {as bs before : List Char} {i j k : ℕ} {t u : Token} {T : Array Token}
  {st st' : LexState}

/-- A character moves the mark forward. -/
lemma Mark.place_lt_next (m : Mark) (c : Char) : m.place < (m.next c).place := by
  rw [Mark.place_lt_iff, Mark.next]
  split
  · exact .inl (Nat.lt_succ_self _)
  · exact .inr ⟨rfl, Nat.lt_add_of_pos_right c.utf8Size_pos⟩

/-- A text does not move the mark back. -/
lemma Mark.place_le_advance (m : Mark) (cs : List Char) : m.place ≤ (m.advance cs).place := by
  induction cs generalizing m with
  | nil => exact le_rfl
  | cons c cs ih => exact (m.place_lt_next c).le.trans (ih (m.next c))

/-- A text that is not empty moves the mark forward. -/
lemma Mark.place_lt_advance (m : Mark) (hcs : cs ≠ []) : m.place < (m.advance cs).place := by
  cases cs with
  | nil => exact absurd rfl hcs
  | cons c cs => exact (m.place_lt_next c).trans_le (Mark.place_le_advance _ cs)

/-! ## Tokens of a text -/

/-- The token is more than a change of indentation or the end. -/
def Token.isSolid (t : Token) : Bool := !t.isLayout || t.kind == .newline

/-- The text ends in blanks at the front of a line. -/
def AtLineFront (before : List Char) : Prop :=
  ∃ lead blanks, before = lead ++ blanks ∧ (∀ c ∈ blanks, isSpacing c = true) ∧
    ∀ c ∈ lead.getLast?, c = '\n'

/-- Code takes room. -/
lemma Token.isSolid_of_isLayout (h : t.isLayout = false) : t.isSolid = true := by
  rw [Token.isSolid, h]
  rfl

/-- Where the token of code at an index of a stream stands in a text: it begins with a character of
code and is the first on its line, or follows a token of code on that line. -/
structure Token.Placed (origin : Mark) (cs : List Char) (T : Array Token) (i : ℕ) (t : Token)
    (before after : List Char) : Prop where
  split : cs = before ++ t.text.toList ++ after
  start_eq : t.start = origin.advance before
  stop_eq : t.stop = t.start.advance t.text.toList
  first : ∃ c, t.text.toList.head? = some c ∧ opensLexeme c = true
  last : t.text.toList.getLast? ≠ some '\n'
  edge : AtLineFront before ∨ ∃ k u, i = k + 1 ∧ T[k]? = some u ∧ u.isLayout = false ∧
    u.stop.line = t.start.line

/-- Tokens stand one after another; what follows the end of a line is on a later line. -/
structure InOrder (T : Array Token) : Prop where
  forward : ∀ (i : ℕ) (t : Token), T[i]? = some t → t.isSolid = true →
    t.start.place < t.stop.place
  newline : ∀ (i : ℕ) (t : Token), T[i]? = some t → t.kind = .newline →
    t.start.line < t.stop.line
  ordered : ∀ (i j : ℕ) (t u : Token), T[i]? = some t → T[j]? = some u → t.isSolid = true →
    u.isSolid = true → i < j → t.stop.place ≤ u.start.place

/-- The tokens of a text stand in it in order. -/
structure Placed (origin : Mark) (cs : List Char) (T : Array Token) : Prop extends InOrder T where
  code : ∀ (i : ℕ) (t : Token), T[i]? = some t → t.isLayout = false →
    ∃ before after, t.Placed origin cs T i before after

/-- Earlier tokens stay where they are. -/
lemma getElem?_push_cases (h : (T.push u)[i]? = some t) :
    (T[i]? = some t ∧ i < T.size) ∨ i = T.size ∧ t = u := by
  rcases Nat.lt_trichotomy i T.size with hlt | rfl | hgt
  · rw [Array.getElem?_push_lt hlt] at h
    exact .inl ⟨by rw [Array.getElem?_eq_getElem hlt, h], hlt⟩
  · rw [Array.getElem?_push_size] at h
    exact .inr ⟨rfl, (Option.some.inj h).symm⟩
  · rw [Array.getElem?_eq_none (by rw [Array.size_push]; omega)] at h
    cases h

/-- A token stays where it is when another is added. -/
lemma getElem?_push_of_some (h : T[i]? = some t) : (T.push u)[i]? = some t := by
  rw [Array.getElem?_push_lt (Array.getElem?_eq_some_iff.mp h).1]
  exact congrArg some (Array.getElem?_eq_some_iff.mp h).2

/-- A token stays placed when another is added. -/
lemma Token.Placed.push {before after : List Char} (h : t.Placed origin cs T i before after) :
    t.Placed origin cs (T.push u) i before after := by
  refine { h with edge := h.edge.imp_right ?_ }
  rintro ⟨k, v, hi, hv, hmore⟩
  exact ⟨k, v, hi, getElem?_push_of_some hv, hmore⟩

/-- A token may be added behind all others. -/
lemma Placed.push (h : Placed origin cs T) (hcode : u.isLayout = false →
      ∃ before after, u.Placed origin cs (T.push u) T.size before after)
    (hforward : u.isSolid = true → u.start.place < u.stop.place)
    (hnewline : u.kind = .newline → u.start.line < u.stop.line)
    (hordered : ∀ (i : ℕ) (t : Token), T[i]? = some t → t.isSolid = true → u.isSolid = true →
      t.stop.place ≤ u.start.place) : Placed origin cs (T.push u) where
  code i t ht hlayout := by
    rcases getElem?_push_cases ht with ⟨ht, -⟩ | ⟨rfl, rfl⟩
    · obtain ⟨before, after, hplaced⟩ := h.code i t ht hlayout
      exact ⟨before, after, hplaced.push⟩
    · exact hcode hlayout
  forward i t ht hsolid := by
    rcases getElem?_push_cases ht with ⟨ht, -⟩ | ⟨rfl, rfl⟩
    · exact h.forward i t ht hsolid
    · exact hforward hsolid
  newline i t ht hkind := by
    rcases getElem?_push_cases ht with ⟨ht, -⟩ | ⟨rfl, rfl⟩
    · exact h.newline i t ht hkind
    · exact hnewline hkind
  ordered i j t v ht hv hsolid hsolid' hij := by
    rcases getElem?_push_cases ht with ⟨ht, hi⟩ | ⟨rfl, rfl⟩
    · rcases getElem?_push_cases hv with ⟨hv, -⟩ | ⟨-, rfl⟩
      · exact h.ordered i j t v ht hv hsolid hsolid' hij
      · exact hordered i t ‹_› hsolid hsolid'
    · have hj := (Array.getElem?_eq_some_iff.mp hv).1
      rw [Array.size_push] at hj
      omega

/-! ## The lexer on a text -/

/-- The lexer stands behind a part of a text, and its tokens stand in that part. -/
structure LexState.Follows (origin : Mark) (cs before : List Char) (st : LexState) : Prop where
  split : cs = before ++ st.rest
  mark_eq : st.mark = origin.advance before
  placed : Placed origin cs st.tokens
  behind : ∀ (i : ℕ) (t : Token), st.tokens[i]? = some t → t.isSolid = true →
    t.stop.place ≤ st.mark.place

namespace LexState.Follows

/-- The lexer still follows the text after characters that it skips. -/
lemma skip (h : st.Follows origin cs before) (as bs : List Char) (hrest : st.rest = as ++ bs) :
    (st.skip as bs).Follows origin cs (before ++ as) where
  split := by rw [h.split, hrest, List.append_assoc]; rfl
  mark_eq := by rw [Mark.advance_append, ← h.mark_eq]; rfl
  placed := h.placed
  behind i t ht hsolid := (h.behind i t ht hsolid).trans (Mark.place_le_advance _ as)

/-- Only the rest, the mark and the tokens matter. -/
lemma congr (h : st.Follows origin cs before) (hrest : st'.rest = st.rest)
    (hmark : st'.mark = st.mark) (htokens : st'.tokens = st.tokens) :
    st'.Follows origin cs before := by
  obtain ⟨h₁, h₂, h₃, h₄⟩ := h
  constructor <;> simp only [hrest, hmark, htokens] <;> assumption

/-- Layout without room leaves the tokens placed. -/
lemma placed_layout (h : Placed origin cs st.tokens)
    (hkind : kind ∈ [.indent, .dedent, .endMarker]) :
    Placed origin cs (st.layout kind).tokens := by
  have hsolid : (⟨kind, "", st.mark, st.mark, st.brackets.length⟩ : Token).isSolid = false := by
    revert hkind
    simp only [List.mem_cons, List.not_mem_nil, or_false]
    rintro (rfl | rfl | rfl) <;> rfl
  -- Nothing is asked of a token without text.
  refine h.push (fun hlayout => ?_) (fun h => ?_) (fun h => ?_) fun _ _ _ _ h => ?_
  · rw [Token.isSolid, hlayout] at hsolid
    cases hsolid
  · rw [hsolid] at h
    cases h
  · rw [Token.isSolid, h] at hsolid
    simp at hsolid
  · rw [hsolid] at h
    cases h

/-- The lexer still follows the text after layout without room. -/
lemma layout (h : st.Follows origin cs before) (hkind : kind ∈ [.indent, .dedent, .endMarker]) :
    (st.layout kind).Follows origin cs before where
  split := h.split
  mark_eq := h.mark_eq
  placed := placed_layout h.placed hkind
  behind i t ht hsolid := by
    rcases getElem?_push_cases ht with ⟨ht, -⟩ | ⟨-, rfl⟩
    · exact h.behind i t ht hsolid
    · exact le_rfl

/-- The lexer still follows the text after indentation that ends. -/
lemma closeIndents {column alternate : ℕ} {outer : List (ℕ × ℕ)}
    (h : st.Follows origin cs before)
    (hclose : Source.closeIndents column alternate st outer = some st') :
    st'.Follows origin cs before ∧ st'.rest = st.rest := by
  fun_induction Source.closeIndents column alternate st outer with
  | case1 st hzero =>
    cases hclose
    exact ⟨h.congr rfl rfl rfl, rfl⟩
  | case2 => cases hclose
  | case3 st c a outer hlt ih => exact ih (h.layout (by simp)) hclose
  | case4 st c a outer hlt heq =>
    cases hclose
    exact ⟨h.congr rfl rfl rfl, rfl⟩
  | case5 => cases hclose

/-- The lexer still follows the text after indentation that begins or ends. -/
lemma indentTokens {column alternate : ℕ} (h : st.Follows origin cs before)
    (hindent : Source.indentTokens column alternate st = some st') :
    st'.Follows origin cs before ∧ st'.rest = st.rest := by
  unfold Source.indentTokens at hindent
  dsimp only at hindent
  split at hindent
  · split at hindent
    · cases hindent
      exact ⟨h, rfl⟩
    · cases hindent
  · split at hindent
    · split at hindent
      · cases hindent
      · cases hindent
        exact ⟨(h.layout List.mem_cons_self).congr rfl rfl rfl, rfl⟩
    · exact h.closeIndents hindent

/-- The brackets decide on nothing but whether a token is added. -/
lemma addToken_eq (h : Source.addToken st kind as bs = some st') :
    st'.rest = bs ∧ st'.mark = st.mark.advance as ∧
      ∃ level, st'.tokens =
        st.tokens.push ⟨kind, String.ofList as, st.mark, st.mark.advance as, level⟩ := by
  have hadded : ∀ brackets : Option (List (Char × ℕ)),
      (brackets.bind fun brackets => some
        { st with
          rest := bs, brackets
          mark := st.mark.advance as
          tokens := st.tokens.push
            ⟨kind, String.ofList as, st.mark, st.mark.advance as, brackets.length⟩ }) = some st' →
      st'.rest = bs ∧ st'.mark = st.mark.advance as ∧ ∃ level, st'.tokens =
        st.tokens.push ⟨kind, String.ofList as, st.mark, st.mark.advance as, level⟩ := by
    intro brackets hst
    obtain ⟨brackets, -, hst⟩ := Option.bind_eq_some_iff.mp hst
    cases hst
    exact ⟨rfl, rfl, brackets.length, rfl⟩
  unfold Source.addToken at h
  dsimp only at h
  split at h
  · split at h
    · split at h <;> exact hadded _ h
    · split at h
      · split at h
        · split at h <;> exact hadded _ h
        · exact hadded none h
      · exact hadded (some st.brackets) h
  · exact hadded (some st.brackets) h

/-- A lexeme is added behind what was read. -/
lemma addToken (h : st.Follows origin cs before) (hrest : st.rest = as ++ bs)
    (hadd : Source.addToken st kind as bs = some st') (hne : as ≠ [])
    (hcode : kind ∉ layoutKinds →
      (∃ c, as.head? = some c ∧ opensLexeme c = true) ∧ as.getLast? ≠ some '\n' ∧
      (AtLineFront before ∨ ∃ u, st.tokens.back? = some u ∧ u.isLayout = false ∧
        u.stop.line = st.mark.line))
    (hnewline : kind = .newline → as = ['\n']) :
    st'.Follows origin cs (before ++ as) := by
  obtain ⟨hrest', hmark, level, htokens⟩ := addToken_eq hadd
  have hlt := Mark.place_lt_advance st.mark hne
  have hplaced : Placed origin cs st'.tokens := by
    rw [htokens]
    refine h.placed.push (fun hlayout => ?_) (fun _ => hlt) (fun hkind => ?_)
      fun i t ht hsolid _ => h.behind i t ht hsolid
    · have hkind : kind ∉ layoutKinds := by
        intro hmem
        simp only [layoutKinds, List.mem_cons, List.not_mem_nil, or_false] at hmem
        rcases hmem with rfl | rfl | rfl | rfl <;> cases hlayout
      obtain ⟨hfirst, hlast, hedge⟩ := hcode hkind
      refine ⟨before, bs, ?_, h.mark_eq, ?_, ?_, ?_, hedge.imp_right ?_⟩
      · rw [h.split, hrest, String.toList_ofList, List.append_assoc]
      · rw [String.toList_ofList]
      · rwa [String.toList_ofList]
      · rwa [String.toList_ofList]
      · rintro ⟨u, hu, hcode, hline⟩
        rw [Array.back?_eq_getElem?] at hu
        have hsize := (Array.getElem?_eq_some_iff.mp hu).1
        exact ⟨st.tokens.size - 1, u, by omega, getElem?_push_of_some hu, hcode, hline⟩
    · rw [hnewline hkind]
      exact Nat.lt_succ_self _
  refine ⟨?_, ?_, hplaced, fun i t ht hsolid => ?_⟩
  · rw [h.split, hrest, hrest', List.append_assoc]
  · rw [hmark, h.mark_eq, Mark.advance_append]
  · rw [htokens] at ht
    rw [hmark]
    rcases getElem?_push_cases ht with ⟨ht, -⟩ | ⟨-, rfl⟩
    · exact (h.behind i t ht hsolid).trans hlt.le
    · exact le_rfl

end LexState.Follows

/-- Closing what is open at the end adds layout only. -/
lemma placed_lexEnd (h : Placed origin cs st.tokens) : Placed origin cs (lexEnd st).tokens := by
  unfold lexEnd
  dsimp only
  split
  · exact h
  · have hdedents : ∀ (indents : List (ℕ × ℕ)) (st : LexState), Placed origin cs st.tokens →
        Placed origin cs (indents.foldl (fun st _ => st.layout .dedent) st).tokens := by
      intro indents
      induction indents with
      | nil => exact fun _ h => h
      | cons _ _ ih => exact fun st h => ih _ (LexState.Follows.placed_layout h (by simp))
    exact LexState.Follows.placed_layout (hdedents _ _ h) (by simp)

/-- The front of a text is the front of a line. -/
lemma atLineFront_nil : AtLineFront [] := ⟨[], [], rfl, nofun, nofun⟩

/-- A blank at the front of a line leaves it there. -/
lemma AtLineFront.cons (h : AtLineFront before) (hc : isSpacing c = true) :
    AtLineFront (c :: before) := by
  obtain ⟨lead, blanks, rfl, hblanks, hlead⟩ := h
  cases lead with
  | nil => exact ⟨[], c :: blanks, rfl, List.forall_mem_cons.mpr ⟨hc, hblanks⟩, nofun⟩
  | cons d lead => exact ⟨c :: d :: lead, blanks, rfl, hblanks, by simpa using hlead⟩

/-- The characters behind the end of a line are the front of the next one. -/
lemma AtLineFront.append (h : AtLineFront bs) (has : ∀ c ∈ as.getLast?, c = '\n') :
    AtLineFront (as ++ bs) := by
  obtain ⟨lead, blanks, rfl, hblanks, hlead⟩ := h
  refine ⟨as ++ lead, blanks, by rw [List.append_assoc], hblanks, fun c hc => ?_⟩
  rcases lead.eq_nil_or_concat with rfl | ⟨more, d, rfl⟩
  · rw [List.append_nil] at hc
    exact has c hc
  · exact hlead c (by simpa using hc)

/-- The indentation of a line ends in blanks at the front of a line. -/
lemma measure_split (column alternate kept : ℕ) (cs : List Char) :
    cs = (measure column alternate kept cs).taken ++ (measure column alternate kept cs).rest ∧
      AtLineFront (measure column alternate kept cs).taken := by
  fun_induction measure column alternate kept cs with
  | case1 column alternate kept rest ih => exact ⟨congrArg (' ' :: ·) ih.1, ih.2.cons rfl⟩
  | case2 column alternate kept rest ih => exact ⟨congrArg ('\t' :: ·) ih.1, ih.2.cons rfl⟩
  | case3 column alternate kept rest ih => exact ⟨congrArg ('\x0c' :: ·) ih.1, ih.2.cons rfl⟩
  | case4 => exact ⟨rfl, atLineFront_nil⟩
  | case5 column alternate kept rest hrest ih =>
    have hlast : ∀ c ∈ ['\\', '\n'].getLast?, c = '\n' := by simp
    exact ⟨congrArg ('\\' :: '\n' :: ·) ih.1, ih.2.append hlast⟩
  | case6 => exact ⟨rfl, atLineFront_nil⟩
  | case7 => exact ⟨rfl, atLineFront_nil⟩
  | case8 => exact ⟨rfl, atLineFront_nil⟩

/-- Blanks at the front of a line leave it there. -/
lemma AtLineFront.append_blanks (h : AtLineFront before) (has : ∀ c ∈ as, isSpacing c = true) :
    AtLineFront (before ++ as) := by
  obtain ⟨lead, blanks, rfl, hblanks, hlead⟩ := h
  refine ⟨lead, blanks ++ as, List.append_assoc .., fun c hc => ?_, hlead⟩
  exact (List.mem_append.mp hc).elim (hblanks c) (has c)

namespace LexState

/-- What was read before a line is whole lines; inside a line the next token is the first on its
line, or the last token is code and ends there. -/
def AtEdge (st : LexState) (before : List Char) : Bool → Prop
  | true => st.rest ≠ [] → ∀ c ∈ before.getLast?, c = '\n'
  | false => AtLineFront before ∨ ∃ u, st.tokens.back? = some u ∧ u.isLayout = false ∧
      u.stop.line = st.mark.line

/-- Blanks do not change what stands before on a line. -/
lemma AtEdge.skip (h : st.AtEdge before false) (bs : List Char)
    (has : ∀ c ∈ as, isSpacing c = true) :
    (st.skip as bs).AtEdge (before ++ as) false := by
  refine h.imp (·.append_blanks has) ?_
  rintro ⟨u, hu, hcode, hline⟩
  refine ⟨u, hu, hcode, ?_⟩
  have hfeed : '\n' ∉ as := fun hmem => by cases has _ hmem
  rw [LexState.skip, Mark.advance_eq hfeed, hline]

/-- Behind a token of code its line goes on. -/
lemma atEdge_of_addToken (hadd : addToken st kind as bs = some st') (hkind : kind ∉ layoutKinds) :
    st'.AtEdge before false := by
  obtain ⟨-, hmark, level, htokens⟩ := Follows.addToken_eq hadd
  refine .inr ⟨_, by rw [htokens, Array.back?_push], ?_, by rw [hmark]⟩
  cases kind with
  | newline | indent | dedent | endMarker => exact absurd (by decide) hkind
  | _ => rfl

end LexState

/-- What a prefix of some class leaves does not begin with the class. -/
lemma head?_drop_takeWhile (p : Char → Bool) (cs : List Char) :
    ∀ c ∈ (cs.drop (cs.takeWhile p).length).head?, p c = false := by
  induction cs with
  | nil => exact nofun
  | cons d cs ih =>
    cases hd : p d with
    | true => rwa [List.takeWhile_cons_of_pos hd, List.length_cons, List.drop_succ_cons]
    | false =>
      rw [List.takeWhile_cons_of_neg (by simp [hd])]
      rintro _ ⟨⟩
      exact hd

/-- A text is what satisfies a condition at its front, and the rest. -/
lemma takeWhile_append_drop (p : Char → Bool) (cs : List Char) :
    cs = cs.takeWhile p ++ cs.drop (cs.takeWhile p).length :=
  (List.prefix_iff_eq_append.mp (List.takeWhile_prefix p)).symm

/-- A comment goes on to the end of its line, so code follows no comment. -/
lemma comment_eq_nil {comment more : List Char} {d : Char}
    (hcomment : comment = if cs.head? == some '#' then cs.takeWhile (· != '\n') else [])
    (hdrop : cs.drop comment.length = d :: more) (hfeed : d ≠ '\n') :
    comment = [] ∧ cs = d :: more ∧ d ≠ '#' := by
  by_cases hhash : (cs.head? == some '#') = true
  · rw [if_pos hhash] at hcomment
    subst hcomment
    have hhead := head?_drop_takeWhile (· != '\n') cs d (by rw [hdrop]; rfl)
    simp [hfeed] at hhead
  · rw [if_neg hhash] at hcomment
    subst hcomment
    obtain rfl : cs = d :: more := hdrop
    exact ⟨rfl, rfl, by simpa using hhash⟩

section

variable {fuel : ℕ}
  (ih : ∀ {before st} isLineStart, st.Follows origin cs before → st.AtEdge before isLineStart →
    Placed origin cs (lexLoop fuel isLineStart st).tokens)

include ih

/-- The front of a line is read, or the whole of it if it has no code. -/
lemma placed_lineStart (h : st.Follows origin cs before) (hedge : st.AtEdge before true) :
    Placed origin cs (lexLoop (fuel + 1) true st).tokens := by
  rw [lexLoop]
  dsimp only
  obtain ⟨hsplit, hfront⟩ := measure_split 0 0 0 st.rest
  generalize measure 0 0 0 st.rest = i at hsplit hfront
  have hnext := h.skip _ _ hsplit
  split
  · split <;> exact hnext.placed
  · split
    · exact placed_lexEnd hnext.placed
    · next c more hrest =>
      have hne : st.rest ≠ [] := by simp [hsplit, hrest]
      have hfront := hfront.append (hedge hne)
      split
      · -- A line without code is skipped, with its end if there is one.
        generalize hcomment : i.rest.takeWhile (· != '\n') = comment
        have hline := takeWhile_append_drop (· != '\n') i.rest
        have hhead := head?_drop_takeWhile (· != '\n') i.rest
        rw [hcomment] at hline hhead
        have hskip := hnext.skip (comment ++ (i.rest.drop comment.length).take 1)
          ((i.rest.drop comment.length).drop 1)
          (by rw [List.append_assoc, List.take_append_drop]; exact hline)
        refine ih true hskip fun hmore => ?_
        cases hdrop : i.rest.drop comment.length with
        | nil => exact absurd (by simp [LexState.skip, hdrop]) hmore
        | cons d rest =>
          have hd := hhead d (by rw [hdrop]; rfl)
          simpa using hd
      · split
        · exact ih false hnext (.inl hfront)
        · split
          · next st' hindent =>
            obtain ⟨hfollows, hrest'⟩ := hnext.indentTokens hindent
            exact ih false hfollows (.inl hfront)
          · exact hnext.placed

/-- A lexeme is added, and its line goes on. -/
lemma placed_lexeme (h : st.Follows origin cs before) (hedge : st.AtEdge before false)
    {more : List Char} (hrest : st.rest = c :: more) (hspace : isSpacing c = false)
    (hhash : c ≠ '#') (hslash : c ≠ '\\') (hfeed : c ≠ '\n')
    (hlexeme : lexeme st.rest = some (kind, as, bs)) (hadd : addToken st kind as bs = some st') :
    Placed origin cs (lexLoop fuel false st').tokens := by
  rw [hrest] at hlexeme
  obtain ⟨hsplit, hfirst, hopens, hlast⟩ := lexeme_split hlexeme hspace hhash hslash hfeed
  have hkind := lexeme_kind hlexeme
  have hne : as ≠ [] := by
    rintro rfl
    cases hfirst
  refine ih false (h.addToken (hrest.trans hsplit) hadd hne (fun _ => ⟨⟨c, hfirst, hopens⟩, hlast,
    hedge⟩) fun hnewline => ?_) (LexState.atEdge_of_addToken hadd hkind)
  subst hnewline
  exact absurd (by decide) hkind

/-- A token is read, or the end of a line. -/
lemma placed_inside (h : st.Follows origin cs before) (hedge : st.AtEdge before false) :
    Placed origin cs (lexLoop (fuel + 1) false st).tokens := by
  rw [lexLoop]
  have hblanks : ∀ c ∈ st.rest.takeWhile isSpacing, isSpacing c = true :=
    fun _ => List.mem_takeWhile_imp
  have hhead := head?_drop_takeWhile isSpacing st.rest
  have hnext := h.skip _ _ (takeWhile_append_drop isSpacing st.rest)
  have hedge := hedge.skip (st.rest.drop (st.rest.takeWhile isSpacing).length) hblanks
  generalize hst : st.skip (st.rest.takeWhile isSpacing)
    (st.rest.drop (st.rest.takeWhile isSpacing).length) = st₁ at hnext hedge
  have hrest₁ : st₁.rest = st.rest.drop (st.rest.takeWhile isSpacing).length := by rw [← hst]; rfl
  rw [← hrest₁] at hhead
  generalize before ++ st.rest.takeWhile isSpacing = before₁ at hnext hedge
  generalize hcomment : (if (st₁.rest.head? == some '#') = true then
    st₁.rest.takeWhile (· != '\n') else []) = comment
  have hskip : st₁.rest = comment ++ st₁.rest.drop comment.length := by
    rw [← hcomment]
    split
    · exact takeWhile_append_drop _ _
    · rfl
  have hafter := hnext.skip _ _ hskip
  split
  · exact placed_lexEnd hafter.placed
  · next rest hrest =>
    split
    · split
      · next st' hadd =>
        refine ih true (hafter.addToken hrest hadd (by simp) (fun hkind => ?_) fun _ => rfl) ?_
        · exact absurd (by decide) hkind
        · exact fun _ => by simp
      · exact hafter.placed
    · exact ih true (hafter.skip ['\n'] rest hrest) fun _ => by simp
  · next rest hrest =>
    split
    · exact hafter.placed
    · exact ih false (hafter.skip ['\\', '\n'] rest hrest)
        (.inl ⟨_, [], (List.append_nil _).symm, List.forall_mem_nil _, by simp⟩)
  · exact hafter.placed
  · next hnil hline hcontinued hslash =>
    split
    · exact hafter.placed
    · next kind as bs hlexeme =>
      split
      · next st' hadd =>
        obtain ⟨d, more, hrest⟩ : ∃ d more, st₁.rest.drop comment.length = d :: more :=
          List.exists_cons_of_ne_nil hnil
        have hfeed : d ≠ '\n' := by
          rintro rfl
          exact hline more hrest
        have hslash' : d ≠ '\\' := by
          rintro rfl
          exact hslash more hrest
        -- Nothing was skipped, so the token before on the line is still the last one.
        obtain ⟨rfl, hrest₁', hhash⟩ := comment_eq_nil hcomment.symm hrest hfeed
        rw [List.append_nil] at hafter
        exact placed_lexeme ih hafter hedge hrest (hhead d (by rw [hrest₁']; rfl)) hhash hslash'
          hfeed hlexeme hadd
      · exact hafter.placed

end

/-- The tokens of a text are placed when the lexer is through. -/
lemma placed_lexLoop (fuel : ℕ) (isLineStart : Bool) (h : st.Follows origin cs before)
    (hedge : st.AtEdge before isLineStart) :
    Placed origin cs (lexLoop fuel isLineStart st).tokens := by
  induction fuel generalizing isLineStart st before with
  | zero => exact h.placed
  | succ fuel ih =>
    cases isLineStart with
    | true => exact placed_lineStart ih h hedge
    | false => exact placed_inside ih h hedge

/-- The lexer puts the tokens of a text in order. -/
theorem placed_lexFrom (origin : Mark) (cs : List Char) :
    Placed origin cs (lexFrom origin cs).tokens := by
  have hstart : ({ rest := cs, mark := origin } : LexState).Follows origin cs [] :=
    ⟨rfl, rfl, ⟨⟨nofun, nofun, nofun⟩, nofun⟩, nofun⟩
  exact placed_lexLoop _ true hstart fun _ => nofun

end BlockText.Source

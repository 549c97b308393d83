import BlockText.Proofs.Source.Words
import BlockText.Source.Reading

/-!
# Brackets nested too deeply

A text that falls into words is no program if more brackets are open at once than the lexer allows:
the lexer fails at the first bracket that is one too many, so the stream has no end marker, and the
grammar takes no stream without one.
-/

namespace BlockText.Source

variable {s : TokenStream} {st : LexState} {w : Word} {ws : List Word} {cs next : List Char}
  {stack inner : List Char}

/-! ## Open brackets -/

namespace Word

/-- A word opens no bracket that is one too many. -/
lemma length_of_nest (h : w.nest stack = some inner) (hstack : stack.length ≤ maxBrackets) :
    inner.length = w.levelAfter stack.length ∧ inner.length ≤ maxBrackets := by
  unfold nest at h
  unfold levelAfter
  generalize w.kind = kind at h ⊢
  generalize w.chars = cs at h ⊢
  split at h
  · next c =>
    by_cases hopen : (closerOf? c).isSome = true
    · rw [if_pos hopen] at h ⊢
      by_cases hdeep : stack.length ≥ maxBrackets
      · rw [if_pos hdeep] at h
        cases h
      · rw [if_neg hdeep] at h
        obtain rfl := Option.some.inj h
        rw [List.length_cons]
        omega
    · rw [if_neg hopen] at h ⊢
      by_cases hclose : isCloser c = true
      · rw [if_pos hclose] at h ⊢
        split at h
        · next o outer =>
          by_cases hmatch : (closerOf? o == some c) = true
          · rw [if_pos hmatch] at h
            obtain rfl := Option.some.inj h
            rw [List.length_cons] at hstack ⊢
            omega
          · rw [if_neg hmatch] at h
            cases h
        · cases h
      · rw [if_neg hclose] at h ⊢
        obtain rfl := Option.some.inj h
        exact ⟨rfl, hstack⟩
  · obtain rfl := Option.some.inj h
    exact ⟨rfl, hstack⟩

/-- No more brackets are open at once than the lexer allows if it takes all words. -/
lemma peak_le_of_foldlM_nest (h : ws.foldlM nest stack = some inner)
    (hstack : stack.length ≤ maxBrackets) : peak stack.length ws ≤ maxBrackets := by
  induction ws generalizing stack with
  | nil => exact hstack
  | cons w ws ih =>
    rw [List.foldlM_cons] at h
    obtain ⟨outer, hw, h⟩ := Option.bind_eq_some_iff.mp h
    obtain ⟨hlength, hle⟩ := length_of_nest hw hstack
    rw [peak, ← hlength]
    exact Nat.max_le.mpr ⟨hstack, ih h hle⟩

end Word

/-! ## The failure of the lexer -/

/-- The lexer does not take a word at which the brackets do not match. -/
lemma addToken_eq_none (rest : List Char) (h : w.nest (st.brackets.map (·.1)) = none) :
    addToken st w.kind w.chars rest = none := by
  unfold Word.nest at h
  unfold addToken
  generalize w.kind = kind at h ⊢
  generalize w.chars = cs at h ⊢
  split at h
  · next c =>
    dsimp only
    by_cases hopen : (closerOf? c).isSome = true
    · rw [if_pos hopen, List.length_map] at h
      rw [if_pos hopen]
      by_cases hdeep : st.brackets.length ≥ maxBrackets
      · rw [if_pos hdeep]
        rfl
      · rw [if_neg hdeep] at h
        cases h
    · rw [if_neg hopen] at h ⊢
      by_cases hclose : isCloser c = true
      · rw [if_pos hclose] at h ⊢
        cases hbrackets : st.brackets with
        | nil => rfl
        | cons o outer =>
          rw [hbrackets, List.map_cons] at h
          dsimp only at h ⊢
          by_cases hmatch : (closerOf? o.1 == some c) = true
          · rw [if_pos hmatch] at h
            cases h
          · rw [if_neg hmatch]
            rfl
      · rw [if_neg hclose] at h
        cases h
  · cases h

/-- A token says one of the words. -/
def SaysOneOf (ws : List Word) (t : Token) : Prop := ∃ w ∈ ws, t.Says w

/-- Where the brackets of the words do not match, the lexer fails at a word. -/
lemma lexLoop_of_foldlM_nest (h : Lexes next cs ws) (fuel : ℕ) (st : LexState)
    (hrest : st.rest = cs ++ next) (hnest : ws.foldlM Word.nest (st.brackets.map (·.1)) = none) :
    ∀ t ∈ (lexLoop (fuel + 1 + ws.length) false st).tokens.toList,
      t ∈ st.tokens.toList ∨ SaysOneOf ws t := by
  induction h generalizing st with
  | nil => cases hnest
  | @space cs ws _ ih =>
    have hrun : lexLoop (fuel + 1 + ws.length) false st =
        lexLoop (fuel + 1 + ws.length) false (st.skip [' '] (cs ++ next)) := by
      rw [Nat.add_right_comm]
      exact lexLoop_space hrest
    rw [hrun]
    exact ih (st.skip [' '] (cs ++ next)) rfl hnest
  | @word w cs ws fits _ ih =>
    rw [List.append_assoc] at hrest
    rw [List.length_cons, ← Nat.add_assoc, lexLoop_word hrest fits]
    rw [List.foldlM_cons] at hnest
    cases hw : w.nest (st.brackets.map (·.1)) with
    | none =>
      rw [addToken_eq_none _ hw]
      exact fun t ht => .inl ht
    | some inner =>
      rw [hw] at hnest
      obtain ⟨brackets, hadd, rfl⟩ := exists_addToken (cs ++ next) hw
      rw [hadd, Option.elim_some]
      intro t ht
      rcases ih (st.after w (cs ++ next) brackets) rfl hnest t ht with hbefore | ⟨v, hv, hsaid⟩
      · rw [LexState.after, Array.toList_push, List.mem_append, List.mem_singleton] at hbefore
        refine hbefore.imp_right ?_
        rintro rfl
        exact ⟨w, List.mem_cons_self, rfl, rfl⟩
      · exact .inr ⟨v, List.mem_cons_of_mem _ hv, hsaid⟩

/-- A line of code whose brackets do not match has only words in its stream. -/
lemma lex_of_foldlM_nest {source : List Char} (hsource : readable source = cs ++ ['\n'])
    (h : Lexes ['\n'] cs ws) (hnest : ws.foldlM Word.nest [] = none)
    (hbegins : ∃ c rest, cs = c :: rest ∧ isSpacing c = false ∧ c ∉ ['\n', '\\', '#']) :
    ∀ t ∈ (lex source).tokens.toList, SaysOneOf ws t := by
  obtain ⟨c, rest, hcs, hspace, hc⟩ := hbegins
  have hle := h.length_le
  let st : LexState := { rest := cs ++ ['\n'], mark := ⟨1, 0⟩ }
  obtain ⟨fuel, hfuel⟩ : ∃ fuel, 2 * (cs ++ ['\n']).length + 2 = fuel + 1 + ws.length + 1 :=
    ⟨2 * cs.length + 2 - ws.length, by rw [List.length_append, List.length_singleton]; omega⟩
  have hlex : lex source = lexLoop (fuel + 1 + ws.length) false st := by
    rw [lex, lexFrom, hsource, hfuel, lexLoop_code (by rw [hcs]; rfl) hspace hc rfl rfl]
  intro t ht
  rw [hlex] at ht
  refine (lexLoop_of_foldlM_nest h fuel st rfl hnest t ht).resolve_left ?_
  simp [st]

/-! ## The end of a text -/

namespace Rule

variable {α β : Type} {p : Rule α} {input : Input} {i k far far' : ℕ} {b : β} {t : Token}

lemma exists_of_take {c : Token → Bool} (h : take c input i far = .done t k far') :
    ∃ t, input.stream.tokens[i]? = some t ∧ c t = true := by
  obtain ⟨t, j, far₁, hpeek, h⟩ := exists_of_bind h
  unfold peek at hpeek
  dsimp only at hpeek
  split at hpeek
  · next u hu =>
    obtain ⟨rfl, rfl, -⟩ := Reply.done.inj hpeek
    refine ⟨u, hu, ?_⟩
    by_contra hfalse
    rw [if_neg hfalse] at h
    cases h
  · split at hpeek <;> cases hpeek

end Rule

open Grammar in
/-- A text that the grammar takes ends in a marker. -/
lemma exists_endMarker {g : Grammar} {names : Text.CharacterNames} {statements : List Stmt}
    (h : (fileRule g).run names s = .ok statements) :
    ∃ (i : ℕ) (t : Token), s.tokens[i]? = some t ∧ t.kind = .endMarker := by
  unfold Rule.run at h
  split at h
  · next hdone =>
    obtain ⟨_, i, far, -, hrest⟩ := Rule.exists_of_bind hdone
    obtain ⟨_, j, far', hmarker, -⟩ := Rule.exists_of_bind hrest
    obtain ⟨_, j', far'', htake, -⟩ := Rule.exists_of_bind hmarker
    obtain ⟨t, ht, hkind⟩ := Rule.exists_of_take htake
    exact ⟨i, t, ht, by simpa using hkind⟩
  · cases h
  · split at h <;> cases h

/-- A line of code with too many open brackets is parsed as nothing. -/
theorem parse_ne_ok {source : List Char} (hsource : readable source = cs ++ ['\n'])
    (h : Lexes ['\n'] cs ws) (hkinds : ∀ w ∈ ws, w.kind ≠ .endMarker)
    (hdeep : maxBrackets < Word.peak 0 ws)
    (hbegins : ∃ c rest, cs = c :: rest ∧ isSpacing c = false ∧ c ∉ ['\n', '\\', '#'])
    (names : Text.CharacterNames) (statements : List Stmt) :
    parse names source ≠ .ok statements := by
  intro hparse
  have hnest : ws.foldlM Word.nest [] = none := by
    rw [Option.eq_none_iff_forall_ne_some]
    intro inner hfold
    have hpeak := Word.peak_le_of_foldlM_nest hfold (Nat.zero_le _)
    rw [List.length_nil] at hpeak
    omega
  obtain ⟨i, t, ht, hkind⟩ := exists_endMarker hparse
  have hmem : t ∈ (lex source).tokens.toList :=
    List.mem_of_getElem? (by rw [Array.getElem?_toList]; exact ht)
  obtain ⟨w, hw, hsaid⟩ := lex_of_foldlM_nest hsource h hnest hbegins t hmem
  exact hkinds w hw (hsaid.1.symm.trans hkind)

end BlockText.Source

namespace BlockText.Syntax

/-- A text that the grammar does not take is no program. -/
lemma Program.ofSource_ne_ok {source : String} {names : Text.CharacterNames}
    (h : ∀ statements, Source.parse names source.toList ≠ .ok statements) (width : ℤ)
    (p : Program) : Program.ofSource source width names ≠ .ok p := by
  unfold Program.ofSource
  cases hparse : Source.parse names source.toList with
  | ok statements => exact absurd hparse (h statements)
  | error line =>
    simp only [hparse]
    dsimp only [Except.mapError, bind, Except.bind]
    split <;> rintro ⟨⟩

end BlockText.Syntax

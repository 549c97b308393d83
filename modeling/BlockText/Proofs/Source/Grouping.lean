import BlockText.Proofs.Source.Groups
import BlockText.Proofs.Source.Rereading

/-!
# The grammar on formulas

The grammar groups the words of a formula as the formula does.  By induction on the formula: its
words open an expression of its level, which is read as the formula.  An operand whose level is too
low for its place stands in parentheses, and what stands in parentheses is an atom; any other
operand is read by the rule of its place, because the token behind it belongs to a lower level.
-/

namespace BlockText.Source

open Syntax Render Grammar Rule

variable {m : Manuscript} {s : TokenStream} {e l r f : Syntax.Expr}
  {es : List Syntax.Expr} {i j k n : ℕ} {t u : Token} {ws : List Word}

/-! ## The first word -/

/-- The words begin expressions of a level. -/
def Lead (ws : List Word) (level : ℕ) : Prop :=
  ∃ w rest, ws = w :: rest ∧ w.token.Leads level

/-- Words that lead at a level lead at every level below it. -/
lemma Lead.mono {a b : ℕ} (h : Lead ws b) (hab : a ≤ b) : Lead ws a := by
  obtain ⟨w, rest, rfl, hlead⟩ := h
  exact ⟨w, rest, rfl, hlead.mono hab⟩

/-- What leads does so whatever stands behind it. -/
lemma Lead.append (h : Lead ws k) (vs : List Word) : Lead (ws ++ vs) k := by
  obtain ⟨w, rest, rfl, hlead⟩ := h
  exact ⟨w, rest ++ vs, rfl, hlead⟩

/-- A word that begins a level leads at it. -/
lemma lead_cons {w : Word} (h : w.token.Leads k) (vs : List Word) : Lead (w :: vs) k :=
  ⟨w, vs, rfl, h⟩

/-- An operand leads at the level that its place requires, in parentheses or not. -/
lemma Lead.placed (h : Lead ws (level e)) {required : ℕ} (hrequired : required ≤ 16) :
    Lead (placed e required ws) required := by
  by_cases hlevel : level e < required
  · rw [placed_of_lt hlevel]
    exact (lead_cons ⟨16, by decide, hrequired⟩ _).append _
  · rw [placed_of_le (by omega)]
    exact h.mono (by omega)

/-- Where leading words stand a token begins an expression of their level. -/
lemma Lead.exists_token (h : Lead ws k) (hshows : s.Shows i ws) :
    ∃ t, s.tokens[i]? = some t ∧ t.Leads k := by
  obtain ⟨w, rest, rfl, hlead⟩ := h
  obtain ⟨⟨t, ht, hsaid⟩, -⟩ := hshows
  exact ⟨t, ht, by rwa [Token.Leads, hsaid.leads]⟩

/-- A free name begins every level of expressions. -/
lemma leads_name {a : String} (h : IsFreeName a) : (Word.name a).token.Leads 16 := by
  have hne : ∀ w ∈ keywords, (a == w) = false := by
    intro w hw
    simpa using fun heq : a = w => h.not_keyword (heq ▸ hw)
  have hreserved : (keywords ++ softKeywords).contains a = false := by
    simpa using ⟨h.not_keyword, h.not_softKeyword⟩
  have hlead : (Word.name a).token.leads = wordLead a := rfl
  refine ⟨16, ?_, Nat.le_refl _⟩
  rw [hlead, wordLead, hne "lambda" (by decide), hne "not" (by decide), hne "await" (by decide),
    hreserved]
  rfl

/-- Words of several operands lead as the first operand does. -/
lemma lead_joinWords {sep : Word} {required : ℕ} (hes : es ≠ [])
    (h : ∀ e ∈ es, Lead (words e) (level e)) (hrequired : required ≤ 16) :
    Lead (joinWords sep (wordsEach required es)) required := by
  cases es with
  | nil => exact absurd rfl hes
  | cons e es =>
    rw [wordsEach, joinWords]
    exact ((h e List.mem_cons_self).placed hrequired).append _

/-- The first word of a formula begins expressions of its level. -/
theorem lead_words (he : e.IsFormula) :
    Lead (words e) (level e) := by
  induction he with
  | identifier hn =>
    rw [words]
    exact lead_cons (leads_name hn) _
  | number =>
    rw [words]
    exact lead_cons ⟨16, by simp [Word.token, Token.leads], Nat.le_refl _⟩ _
  | @binary l r op _ _ _ ihl _ =>
    have hle : binaryLevel op ≤ (sideLevels op).1 ∧ (sideLevels op).1 ≤ 16 := by
      cases op <;> decide
    rw [words]
    exact ((ihl.placed hle.2).mono hle.1).append _
  | @unary e op _ _ _ =>
    have hlead : (unaryWord op).token.Leads (unaryLevel op) := by
      cases op with
      | not => exact ⟨4, by decide, by decide⟩
      | _ => exact ⟨12, by decide, by decide⟩
    rw [words]
    exact lead_cons hlead _
  | @boolOp op es _ hes _ ih =>
    have hle : boolLevel op + 1 ≤ 16 := by cases op <;> decide
    rw [words]
    refine (lead_joinWords ?_ ih hle).mono (Nat.le_succ _)
    rintro rfl
    cases hes
  | compare _ _ _ _ ihl _ =>
    rw [words]
    exact ((ihl.placed (by decide)).mono (by simp)).append _
  | conditional _ _ _ _ ihb _ =>
    rw [words]
    exact (((ihb.placed (by decide)).mono (by simp)).append _).append _
  | lambda =>
    rw [words]
    exact (lead_cons ⟨0, by decide, by simp⟩ _).append _
  | await =>
    rw [words]
    exact lead_cons ⟨14, by decide, by simp⟩ _
  | tuple =>
    rw [words]
    exact (lead_cons ⟨16, by decide, by simp⟩ _).append _
  | list =>
    rw [words]
    exact (lead_cons ⟨16, by decide, by simp⟩ _).append _
  | call _ _ ihf _ =>
    rw [words]
    exact ((ihf.placed (by decide)).append _).append _
  | attributed _ _ _ ih =>
    rw [words]
    exact (ih.placed (by decide)).append _
  | subscript _ _ ihe _ =>
    rw [words_subscript]
    exact ((ihe.placed (by decide)).append _).append _

/-! ## Formulas in their places -/

/-- The highest level of a token behind an expression that has been opened at a level. -/
def reach (l : ℕ) : ℕ := if l ∈ chainLevels then l else max 1 l - 1

/-- Numbers in the stream are spelled as in the text. -/
def SpellsNumbers (m : Manuscript) (s : TokenStream) : Prop :=
  ∀ (i : ℕ) (t : Token), s.tokens[i]? = some t → t.kind = .number → m.spelling ⟨t.start, t.stop⟩ = t.text

/-- Wherever the words of a formula stand, they open an expression of its level that is read as the
formula. -/
structure Grouped (m : Manuscript) (s : TokenStream) (e : Syntax.Expr) : Prop where
  isFormula : e.IsFormula
  opens : ∀ {n i : ℕ} {u : Token}, (words e).length ≤ n → s.Shows i (words e) →
    s.tokens[i + (words e).length]? = some u → u.joins ≤ reach (level e) →
    ∃ x, Opened (ofDepth n) s i (level e) x (i + (words e).length) ∧ ReadsAs m x e

/-- A level reaches at least as far as the one below it. -/
lemma le_reach (l : ℕ) : max 1 l - 1 ≤ reach l := by
  unfold reach
  split <;> omega

/-- A chain of operators reaches to its own level. -/
lemma reach_eq_of_mem {l : ℕ} (h : l ∈ chainLevels) : reach l = l := if_pos h

/-- The token behind words is the first of the words that follow, or the one behind these. -/
lemma exists_next {P : Token → Prop} (hshows : s.Shows j ws) (hu : s.tokens[j + ws.length]? = some u)
    (hend : P u) (hfirst : ∀ w ∈ ws.head?, ∀ t : Token, t.Says w → P t) :
    ∃ t, s.tokens[j]? = some t ∧ P t := by
  cases ws with
  | nil => exact ⟨u, hu, hend⟩
  | cons w rest =>
    obtain ⟨⟨t, ht, hsaid⟩, -⟩ := hshows
    exact ⟨t, ht, hfirst w rfl t hsaid⟩

namespace Grouped

/-- The words of a formula lead at its level. -/
lemma lead (h : Grouped m s e) : Lead (words e) (level e) :=
  lead_words h.isFormula

/-- The words of a formula are spoken. -/
lemma spoken (h : Grouped m s e) : ∀ w ∈ words e, w.Spoken :=
  spoken_words h.isFormula

/-- The words are taken by the rule of a level if nothing behind them goes on with it. -/
lemma takes (h : Grouped m s e) {required : ℕ} (hle : required ≤ level e)
    (hlen : (words e).length ≤ n) (hshows : s.Shows i (words e))
    (hu : s.tokens[i + (words e).length]? = some u) (hjoins : u.joins < max 1 required) :
    ∃ x, (ruleAt (ofDepth n) required).Takes s i x (i + (words e).length) ∧ ReadsAs m x e := by
  have hreach := le_reach (level e)
  obtain ⟨x, hopened, hreads⟩ := h.opens hlen hshows hu (by omega)
  obtain ⟨t, ht, hlead⟩ := h.lead.exists_token hshows
  exact ⟨x, takes_ruleAt_of_le hle (hopened.takes hu (by omega)) ht hu hlead hjoins, hreads⟩

/-- The second token of a formula, or the one behind it, belongs to no assignment. -/
lemma exists_second (h : Grouped m s e) (hshows : s.Shows i (words e))
    (hu : s.tokens[i + (words e).length]? = some u)
    (hend : ∀ o ∈ ["=", ":="], u.isOp o = false) :
    ∃ t, s.tokens[i + 1]? = some t ∧ t.isOp "=" = false ∧ t.isOp ":=" = false := by
  obtain ⟨w, rest, hwords, -⟩ := h.lead
  have hspoken := h.spoken
  rw [hwords] at hshows hu hspoken
  obtain ⟨-, hrest⟩ := hshows
  cases rest with
  | nil => exact ⟨u, hu, hend _ (by decide), hend _ (by decide)⟩
  | cons v rest =>
    obtain ⟨⟨t, ht, hkind, htext⟩, -⟩ := hrest
    have hv := hspoken v (by simp)
    refine ⟨t, ht, ?_, ?_⟩ <;>
    · rw [Bool.eq_false_iff]
      intro hop
      obtain ⟨htkind, httext⟩ := Token.isOp_iff.mp hop
      rcases hv with ⟨hvkind, -⟩ | ⟨hvkind, -⟩ | ⟨-, hvtext⟩
      · rw [← hkind, htkind] at hvkind
        cases hvkind
      · rw [← hkind, htkind] at hvkind
        cases hvkind
      · rw [← htext, httext] at hvtext
        revert hvtext
        decide

/-- A formula with the end of an item behind it is an item. -/
lemma item (h : Grouped m s e) (hlen : (words e).length ≤ n) (hshows : s.Shows i (words e))
    (hu : s.tokens[i + (words e).length]? = some u) (hend : u.EndsItem) :
    ∃ x, Item (ofDepth (n + 1)) s i x (i + (words e).length) ∧ ReadsAs m x e := by
  obtain ⟨x, htakes, hreads⟩ := h.takes (Nat.zero_le _) hlen hshows hu (by rw [hend.joins_eq]; decide)
  obtain ⟨t, ht, hlead⟩ := h.lead.exists_token hshows
  obtain ⟨w, rest, hwords, -⟩ := h.lead
  refine ⟨x, ⟨htakes, by rw [hwords]; simp, hreads.unstarred, ⟨t, ht, hlead.mono (Nat.zero_le _)⟩,
    ?_, u, hu, hend⟩, hreads⟩
  exact h.exists_second hshows hu fun o ho => hend.isOp_eq_false (by revert o; decide)

/-- A formula in parentheses is an atom. -/
lemma enclosed (h : Grouped m s e) (hlen : (words e).length + 2 ≤ n)
    (hshows : s.Shows i (.op "(" :: words e ++ [.op ")"])) :
    ∃ x t, (atom (ofDepth n)).Takes s i x (i + ((words e).length + 2)) ∧ ReadsAs m x e ∧
      s.tokens[i]? = some t ∧ t.Leads 16 := by
  obtain ⟨n, rfl⟩ : ∃ n', n = n' + 1 := ⟨n - 1, by omega⟩
  rw [List.cons_append, TokenStream.shows_cons, TokenStream.shows_append] at hshows
  obtain ⟨⟨t, ht, hsaid⟩, hinner, ⟨u, hu, husaid⟩, -⟩ := hshows
  have hclose : u.isOp ")" = true := (husaid.isOp _).trans (by decide)
  obtain ⟨x, hitem, hreads⟩ := h.item (n := n) (by omega) hinner hu (.inr (.inr (.inl hclose)))
  have hopen : t.isOp "(" = true := (hsaid.isOp _).trans (by decide)
  have htakes := takes_atom_parenthesized ht hopen (takes_parenthesized_one ht hopen hitem hu hclose)
  have hk : i + 1 + (words e).length + 1 = i + ((words e).length + 2) := by omega
  rw [hk] at htakes
  refine ⟨x, t, htakes, hreads, ht, 16, ?_, Nat.le_refl _⟩
  rw [hsaid.leads]
  decide

/-- An operand is taken by the rule of its place. -/
lemma operand (h : Grouped m s e) {required : ℕ} (hrequired : required ≤ 16)
    (hlen : (placed e required (words e)).length ≤ n)
    (hshows : s.Shows i (placed e required (words e)))
    (hu : s.tokens[i + (placed e required (words e)).length]? = some u)
    (hjoins : u.joins < max 1 required) :
    ∃ x, (ruleAt (ofDepth n) required).Takes s i x (i + (placed e required (words e)).length) ∧
      ReadsAs m x e := by
  by_cases hlevel : level e < required
  · rw [placed_of_lt hlevel] at hlen hshows hu ⊢
    have hlength : (Word.op "(" :: words e ++ [Word.op ")"]).length = (words e).length + 2 := by simp
    rw [hlength] at hlen hu ⊢
    obtain ⟨x, t, htakes, hreads, ht, hlead⟩ := h.enclosed hlen hshows
    exact ⟨x, takes_ruleAt_of_le hrequired htakes ht hu hlead hjoins, hreads⟩
  · rw [placed_of_le (by omega)] at hlen hshows hu ⊢
    exact h.takes (by omega) hlen hshows hu hjoins

/-- The first operand of a chain opens an expression of its level. -/
lemma opened (h : Grouped m s e) {c : ℕ} (hc : c ∈ chainLevels)
    (hlen : (placed e c (words e)).length ≤ n) (hshows : s.Shows i (placed e c (words e)))
    (hu : s.tokens[i + (placed e c (words e)).length]? = some u) (hjoins : u.joins ≤ c) :
    ∃ x, Opened (ofDepth n) s i c x (i + (placed e c (words e)).length) ∧ ReadsAs m x e := by
  have hle := bounds_of_mem_chainLevels hc
  by_cases hlevel : level e < c
  · rw [placed_of_lt hlevel] at hlen hshows hu ⊢
    have hlength : (Word.op "(" :: words e ++ [Word.op ")"]).length = (words e).length + 2 := by simp
    rw [hlength] at hlen hu ⊢
    obtain ⟨x, t, htakes, hreads, ht, hlead⟩ := h.enclosed hlen hshows
    refine ⟨x, .chain hc ht ?_ .refl, hreads⟩
    exact takes_ruleAt_of_le (m := 16) (by omega) htakes ht hu hlead (by omega)
  · rw [placed_of_le (by omega)] at hlen hshows hu ⊢
    have hreach : u.joins ≤ reach (level e) := by
      rcases Nat.lt_or_eq_of_le (Nat.le_of_not_lt hlevel) with hlt | heq
      · have := le_reach (level e)
        omega
      · rwa [← heq, reach_eq_of_mem hc]
    obtain ⟨x, hopened, hreads⟩ := h.opens hlen hshows hu hreach
    obtain ⟨t, ht, hlead⟩ := h.lead.exists_token hshows
    exact ⟨x, hopened.chain_of_le hc (by omega) ht hu hlead hjoins, hreads⟩

/-- The operand of a negation is opened at the level of negations. -/
lemma negated (h : Grouped m s e) (hlen : (placed e 4 (words e)).length ≤ n)
    (hshows : s.Shows i (placed e 4 (words e)))
    (hu : s.tokens[i + (placed e 4 (words e)).length]? = some u) (hjoins : u.joins < 4) :
    ∃ x, Opened (ofDepth n) s i 4 x (i + (placed e 4 (words e)).length) ∧ ReadsAs m x e := by
  by_cases heq : level e = 4
  · rw [placed_of_le heq.ge] at hlen hshows hu ⊢
    have hreach := le_reach (level e)
    obtain ⟨x, hopened, hreads⟩ := h.opens hlen hshows hu (by omega)
    rw [heq] at hopened
    exact ⟨x, hopened, hreads⟩
  · have hsame : placed e 4 (words e) = placed e 5 (words e) := by
      unfold placed
      split <;> split <;> first | rfl | omega
    rw [hsame] at hlen hshows hu ⊢
    obtain ⟨x, htakes, hreads⟩ := h.operand (by decide) hlen hshows hu (by omega)
    obtain ⟨t, ht, hlead⟩ := (h.lead.placed (by decide)).exists_token hshows
    exact ⟨x, .of_comparison htakes ht (hlead.isWord_eq_false (by decide)), hreads⟩

/-! ### Names and numbers -/

/-- A name is read back from its word. -/
lemma identifier {a : String} {d : Info} (ha : IsFreeName a) :
    Grouped m s (.identifier (.text a) d) where
  isFormula := .identifier ha
  opens := by
    intro n i u _ hshows _ _
    rw [words] at hshows ⊢
    obtain ⟨⟨t, ht, hkind, htext⟩, -⟩ := hshows
    have hname : t.text ∉ keywords := by
      rw [htext]
      exact ha.not_keyword
    have htakes := takes_name (g := ofDepth n) ht hkind hname
    rw [htext] at htakes
    exact ⟨_, .whole (l := 16) (by decide) htakes, readsAs_name a _⟩

/-- A number is read back from its word. -/
lemma number (hm : SpellsNumbers m s) {a : String} {d : Info} (ha : isDecimal a.toList = true)
    (hshort : isOverlong a.toList = false) : Grouped m s (.literal .number (.text a) .null d) where
  isFormula := .number ha hshort
  opens := by
    intro n i u _ hshows _ _
    rw [words] at hshows ⊢
    obtain ⟨⟨t, ht, hkind, htext⟩, -⟩ := hshows
    have htakes := takes_number (g := ofDepth n) ht hkind (by rw [htext]; exact hshort)
    exact ⟨_, .whole (l := 16) (by decide) htakes, readsAs_number ((hm i t ht hkind).trans htext)⟩

/-! ### Operators -/

/-- The sign of a binary operator joins at its level. -/
lemma joins_sign (op : BinaryOp) : (Word.op (Choice.spelling op)).token.joins = binaryLevel op := by
  cases op <;> decide

/-- A power is read back from its words if its operands are. -/
lemma power (hl : Grouped m s l) (hr : Grouped m s r) (d : Info) :
    Grouped m s (.binary l .pow r d) where
  isFormula := .binary hl.isFormula hr.isFormula
  opens := by
    intro n i u hlen hshows hu hjoins
    rw [words] at hlen hshows hu ⊢
    rw [List.length_append, List.length_cons] at hlen hu ⊢
    rw [TokenStream.shows_append, TokenStream.shows_cons] at hshows
    obtain ⟨hleft, ⟨t, ht, hsaid⟩, hright⟩ := hshows
    obtain ⟨n, rfl⟩ : ∃ n', n = n' + 1 := ⟨n - 1, by omega⟩
    have hk : i + ((placed l 14 (words l)).length + ((placed r 12 (words r)).length + 1)) =
        i + (placed l 14 (words l)).length + 1 + (placed r 12 (words r)).length := by omega
    rw [sideLevels, hk] at hu ⊢
    have hsign : t.joins < max 1 14 := by
      rw [hsaid.joins, joins_sign]
      decide
    have hnot := u.joins_ne
    have hlast : u.joins ≤ 12 := hjoins
    have hend : u.joins < max 1 12 := by
      simp only [List.mem_cons, List.not_mem_nil, or_false, not_or] at hnot
      omega
    obtain ⟨x, hx, hxreads⟩ := hl.operand (n := n + 1) (by decide) (by omega) hleft ht hsign
    obtain ⟨y, hy, hyreads⟩ := hr.operand (n := n) (by decide) (by omega) hright hu hend
    obtain ⟨t', ht', -⟩ := (hl.lead.placed (by decide)).exists_token hleft
    obtain ⟨range, htakes⟩ := takes_power_of hx ht' ht hsaid hy
    exact ⟨_, .whole (l := 13) (by decide) htakes, hxreads.binary hyreads⟩

/-- Any other binary operation is read back from its words if its operands are. -/
lemma chain {op : BinaryOp} (hop : op ≠ .pow) (hl : Grouped m s l) (hr : Grouped m s r)
    (d : Info) : Grouped m s (.binary l op r d) where
  isFormula := .binary hl.isFormula hr.isFormula
  opens := by
    intro n i u hlen hshows hu hjoins
    have hsides : sideLevels op = (binaryLevel op, binaryLevel op + 1) := by
      cases op with
      | pow => exact absurd rfl hop
      | _ => rfl
    have hchain : binaryLevel op ∈ chainLevels := by
      cases op with
      | pow => exact absurd rfl hop
      | _ => decide
    have hbounds := bounds_of_mem_chainLevels hchain
    rw [words, hsides] at hlen hshows hu ⊢
    rw [level_binary, reach_eq_of_mem hchain] at hjoins
    rw [List.length_append, List.length_cons] at hlen hu ⊢
    rw [TokenStream.shows_append, TokenStream.shows_cons] at hshows
    obtain ⟨hleft, ⟨t, ht, hsaid⟩, hright⟩ := hshows
    dsimp only at hlen hu hleft ht hright ⊢
    have hk : i + ((placed l (binaryLevel op) (words l)).length +
        ((placed r (binaryLevel op + 1) (words r)).length + 1)) =
        i + (placed l (binaryLevel op) (words l)).length + 1 +
          (placed r (binaryLevel op + 1) (words r)).length := by omega
    rw [hk] at hu ⊢
    have hsign : t.joins ≤ binaryLevel op := by rw [hsaid.joins, joins_sign]
    obtain ⟨x, hx, hxreads⟩ := hl.opened (n := n) hchain (by omega) hleft ht hsign
    obtain ⟨y, hy, hyreads⟩ := hr.operand (n := n) (by omega) (by omega) hright hu (by omega)
    obtain ⟨range, hopened⟩ := hx.binary hop ht hsaid hy (by omega)
    exact ⟨_, hopened, hxreads.binary hyreads⟩

/-- A binary operation is read back from its words if its operands are. -/
lemma binary {op : BinaryOp} (hl : Grouped m s l) (hr : Grouped m s r) (d : Info) :
    Grouped m s (.binary l op r d) := by
  by_cases hop : op = .pow
  · subst hop
    exact hl.power hr d
  · exact hl.chain hop hr d

/-- An operand with a sign is read back from its words. -/
lemma signed {op : UnaryOp} (hop : op ≠ .not) (he : Grouped m s e) (d : Info) :
    Grouped m s (.unary op e d) where
  isFormula := .unary he.isFormula
  opens := by
    intro n i u hlen hshows hu hjoins
    have hword : unaryWord op = .op (Choice.spelling op) ∧ unaryLevel op = 12 := by
      cases op with
      | not => exact absurd rfl hop
      | _ => exact ⟨rfl, rfl⟩
    rw [words, hword.1, hword.2] at hlen hshows hu ⊢
    rw [level_unary, hword.2] at hjoins ⊢
    rw [List.length_cons] at hlen hu ⊢
    obtain ⟨⟨t, ht, hsaid⟩, hoperand⟩ := hshows
    obtain ⟨n, rfl⟩ : ∃ n', n = n' + 1 := ⟨n - 1, by omega⟩
    have hk : i + ((placed e 12 (words e)).length + 1) =
        i + 1 + (placed e 12 (words e)).length := by omega
    rw [hk] at hu ⊢
    have hend : u.joins < max 1 12 := Nat.lt_succ_of_le hjoins
    obtain ⟨x, hx, hreads⟩ := he.operand (n := n) (by decide) (by omega) hoperand hu hend
    obtain ⟨range, htakes⟩ := takes_signed (g := ofDepth (n + 1)) hop ht hsaid hx
    exact ⟨_, .whole (by decide) htakes, hreads.unary⟩

/-- A negation is read back from its words. -/
lemma negation (he : Grouped m s e) (d : Info) : Grouped m s (.unary .not e d) where
  isFormula := .unary he.isFormula
  opens := by
    intro n i u hlen hshows hu hjoins
    have hlevel : unaryLevel .not = 4 := rfl
    rw [words, hlevel] at hlen hshows hu ⊢
    rw [List.length_cons] at hlen hu ⊢
    obtain ⟨⟨t, ht, hsaid⟩, hoperand⟩ := hshows
    have hk : i + ((placed e 4 (words e)).length + 1) = i + 1 + (placed e 4 (words e)).length := by
      omega
    rw [hk] at hu ⊢
    have hend : u.joins < 4 := Nat.lt_succ_of_le hjoins
    obtain ⟨x, hx, hreads⟩ := he.negated (n := n) (by omega) hoperand hu hend
    obtain ⟨range, hopened⟩ := hx.not ht hsaid
    exact ⟨_, hopened, hreads.unary⟩

/-- A unary operation is read back from its words if its operand is. -/
lemma unary {op : UnaryOp} (he : Grouped m s e) (d : Info) : Grouped m s (.unary op e d) := by
  by_cases hop : op = .not
  · subst hop
    exact he.negation d
  · exact he.signed hop d

/-- An awaited formula is read back from its words if the formula is. -/
lemma await (he : Grouped m s e) (d : Info) : Grouped m s (.await e d) where
  isFormula := .await he.isFormula
  opens := by
    intro n i u hlen hshows hu hjoins
    rw [words] at hlen hshows hu ⊢
    rw [List.length_cons] at hlen hu ⊢
    obtain ⟨⟨t, ht, hsaid⟩, hoperand⟩ := hshows
    have hk : i + ((placed e 15 (words e)).length + 1) =
        i + 1 + (placed e 15 (words e)).length := by omega
    rw [hk] at hu ⊢
    have hlast : u.joins ≤ 13 := hjoins
    have hend : u.joins < max 1 15 := Nat.lt_of_le_of_lt hlast (by decide)
    obtain ⟨x, hx, hreads⟩ := he.operand (n := n) (by decide) (by omega) hoperand hu hend
    obtain ⟨range, htakes⟩ := takes_await ht hsaid hx
    exact ⟨_, .whole (l := 14) (by decide) htakes, hreads.await⟩

/-- A conditional expression is read back from its words if its parts are. -/
lemma conditional {b : Syntax.Expr} (ht : Grouped m s f) (hb : Grouped m s b) (he : Grouped m s e)
    (d : Info) : Grouped m s (.conditional f b e d) where
  isFormula := .conditional ht.isFormula hb.isFormula he.isFormula
  opens := by
    intro n i u hlen hshows hu hjoins
    rw [words] at hlen hshows hu ⊢
    simp only [List.length_append, List.length_cons] at hlen hu ⊢
    simp only [List.append_assoc, List.cons_append, TokenStream.shows_append,
      TokenStream.shows_cons] at hshows
    obtain ⟨hbody, ⟨t, hif, hsaid⟩, htest, ⟨t', helse, hsaid'⟩, horelse⟩ := hshows
    obtain ⟨n, rfl⟩ : ∃ n', n = n' + 1 := ⟨n - 1, by omega⟩
    have hk : i + ((placed b 2 (words b)).length + ((placed f 2 (words f)).length + 1) +
          ((placed e 1 (words e)).length + 1)) =
        i + (placed b 2 (words b)).length + 1 + (placed f 2 (words f)).length + 1 +
          (placed e 1 (words e)).length := by omega
    rw [hk] at hu ⊢
    have hthen : t.joins < max 1 2 := by
      rw [hsaid.joins]
      decide
    have helse' : t'.joins < max 1 2 := by
      rw [hsaid'.joins]
      decide
    have hend : u.joins < max 1 1 := Nat.lt_succ_of_le hjoins
    obtain ⟨x, hx, hxreads⟩ := hb.operand (n := n + 1) (by decide) (by omega) hbody hif hthen
    obtain ⟨y, hy, hyreads⟩ := ht.operand (n := n) (by decide) (by omega) htest helse helse'
    obtain ⟨z, hz, hzreads⟩ := he.operand (n := n) (by decide) (by omega) horelse hu hend
    obtain ⟨t₀, ht₀, hlead⟩ := (hb.lead.placed (by decide)).exists_token hbody
    obtain ⟨range, htakes⟩ := takes_conditional (g := ofDepth (n + 1)) hx ht₀
      (hlead.isWord_eq_false (by decide)) hif hsaid hy helse hsaid' hz
    exact ⟨_, .whole (l := 1) (by decide) htakes, hyreads.conditional hxreads hzreads⟩

/-! ### Operands one after the other -/

/-- Operands, each with a short-circuit operator in front of it. -/
lemma repeats_operands (op : BoolOp) (hes : ∀ e ∈ es, Grouped m s e)
    (hlen : ((wordsEach (boolLevel op + 1) es).flatMap
      (Word.name (Choice.spelling op) :: ·)).length ≤ n)
    (hshows : s.Shows j ((wordsEach (boolLevel op + 1) es).flatMap
      (Word.name (Choice.spelling op) :: ·)))
    (hu : s.tokens[j + ((wordsEach (boolLevel op + 1) es).flatMap
      (Word.name (Choice.spelling op) :: ·)).length]? = some u)
    (hjoins : u.joins ≤ boolLevel op) :
    ∃ xs, Repeats (do
        discard (word (Choice.spelling op))
        ruleAt (ofDepth n) (boolLevel op + 1)) s j xs
        (j + ((wordsEach (boolLevel op + 1) es).flatMap
          (Word.name (Choice.spelling op) :: ·)).length) ∧
      List.Forall₂ (ReadsAs m) xs es := by
  have hbound : boolLevel op + 1 ≤ 16 := by cases op <;> decide
  have hjoin : (Word.name (Choice.spelling op)).token.joins ≤ boolLevel op := by
    cases op <;> decide
  induction es generalizing j with
  | nil => exact ⟨[], .nil _, .nil⟩
  | cons e es ih =>
    rw [wordsEach, List.flatMap_cons] at hlen hshows hu ⊢
    generalize hrest : (wordsEach (boolLevel op + 1) es).flatMap
      (Word.name (Choice.spelling op) :: ·) = ws at hlen hshows hu ih ⊢
    rw [List.length_append, List.length_cons] at hlen hu ⊢
    rw [TokenStream.shows_append] at hshows
    obtain ⟨⟨⟨t, ht, hsaid⟩, hfirst⟩, hshows⟩ := hshows
    rw [List.length_cons] at hshows
    have hk : ∀ k, j + ((placed e (boolLevel op + 1) (words e)).length + 1 + k) =
        j + ((placed e (boolLevel op + 1) (words e)).length + 1) + k := fun k => by omega
    rw [hk] at hu ⊢
    have hj : j + 1 + (placed e (boolLevel op + 1) (words e)).length =
        j + ((placed e (boolLevel op + 1) (words e)).length + 1) := by omega
    have hnext : ∀ w ∈ ws.head?, ∀ t : Token, t.Says w → t.joins ≤ boolLevel op := by
      intro w hw t hsaid
      rw [hsaid.joins]
      rw [← hrest] at hw
      cases es with
      | nil => cases hw
      | cons e es =>
        rw [wordsEach, List.flatMap_cons] at hw
        cases hw
        exact hjoin
    obtain ⟨v, hv, hvjoins⟩ := exists_next hshows hu hjoins hnext
    have hword : t.isWord (Choice.spelling op) = true := by
      rw [hsaid.isWord]
      exact beq_self_eq_true _
    obtain ⟨x, hx, hxreads⟩ := (hes e List.mem_cons_self).operand (n := n) hbound (by omega) hfirst
      (by rwa [hj]) (by omega : v.joins < max 1 (boolLevel op + 1))
    rw [hj] at hx
    obtain ⟨xs, hxs, hreads⟩ := ih (fun e' he' => hes e' (List.mem_cons_of_mem _ he')) (by omega)
      hshows hu
    exact ⟨x :: xs, .cons ((takes_take ht hword).discard_bind hx) (by omega) hxs,
      .cons hxreads hreads⟩

/-- A chain of a short-circuit operator is read back from its words if its values are. -/
lemma boolOp {op : BoolOp} (htwo : 2 ≤ es.length) (hes : ∀ e ∈ es, Grouped m s e) (d : Info) :
    Grouped m s (.boolOp op es d) where
  isFormula := .boolOp htwo fun e he => (hes e he).isFormula
  opens := by
    intro n i u hlen hshows hu hjoins
    obtain ⟨e, es, rfl⟩ : ∃ e rest, es = e :: rest := by
      cases es with
      | nil => cases htwo
      | cons e es => exact ⟨e, es, rfl⟩
    have hbound : boolLevel op + 1 ≤ 16 ∧ 1 ≤ boolLevel op ∧ boolLevel op ∉ 4 :: chainLevels ∧
        reach (boolLevel op) = boolLevel op - 1 := by
      cases op <;> decide
    obtain ⟨hle, hpos, hwhole, hreach⟩ := hbound
    rw [level_boolOp, hreach] at hjoins
    rw [words, wordsEach, joinWords, List.length_append] at hlen hu ⊢
    rw [words, wordsEach, joinWords, TokenStream.shows_append] at hshows
    obtain ⟨hfirst, hrest⟩ := hshows
    rw [← Nat.add_assoc] at hu ⊢
    have hne : es ≠ [] := by
      rintro rfl
      simp at htwo
    obtain ⟨e', es', rfl⟩ := List.exists_cons_of_ne_nil hne
    obtain ⟨t, ht, htjoins⟩ := exists_next (P := fun t => t.joins ≤ boolLevel op) hrest hu
      (by omega) (by
        rintro w ⟨⟩ t hsaid
        rw [hsaid.joins]
        cases op <;> decide)
    obtain ⟨x, hx, hxreads⟩ := (hes e List.mem_cons_self).operand (n := n) hle (by omega) hfirst ht
      (by omega)
    obtain ⟨xs, hxs, hreads⟩ := repeats_operands (n := n) op
      (fun e' he' => hes e' (List.mem_cons_of_mem _ he')) (by omega) hrest hu (by omega)
    obtain ⟨t', ht', -⟩ := ((hes e List.mem_cons_self).lead.placed hle).exists_token hfirst
    have hnil : xs ≠ [] := by
      rintro rfl
      cases hreads
    have hword : u.isWord (Choice.spelling op) = false := by
      refine Token.isWord_eq_false_of_joins (l := boolLevel op) ?_ (by omega)
      cases op <;> decide
    obtain ⟨range, htakes⟩ := takes_boolChain_of hx ht' hxs hnil hu hword
    have hrule : boolChain op (ruleAt (ofDepth n) (boolLevel op + 1)) =
        ruleAt (ofDepth n) (boolLevel op) := by
      cases op <;> rfl
    rw [hrule] at htakes
    exact ⟨_, .whole (l := boolLevel op) hwhole htakes, ReadsAs.boolOp (.cons hxreads hreads)⟩

/-- Operands of a comparison, each with its operator in front of it. -/
lemma repeats_compared {ops : List CompareOp} (heach : ops.length = es.length)
    (hes : ∀ e ∈ es, Grouped m s e) (hlen : (comparedWords ops es).length ≤ n)
    (hshows : s.Shows j (comparedWords ops es))
    (hu : s.tokens[j + (comparedWords ops es).length]? = some u) (hjoins : u.joins ≤ 5) :
    ∃ xs, Repeats (comparePair (ofDepth n)) s j (ops.zip xs) (j + (comparedWords ops es).length) ∧
      List.Forall₂ (ReadsAs m) xs es := by
  induction es generalizing ops j with
  | nil =>
    obtain rfl : ops = [] := List.length_eq_zero_iff.mp heach
    exact ⟨[], .nil _, .nil⟩
  | cons e es ih =>
    obtain ⟨op, ops, rfl⟩ : ∃ op rest, ops = op :: rest := by
      cases ops with
      | nil => cases heach
      | cons op ops => exact ⟨op, ops, rfl⟩
    rw [comparedWords] at hlen hshows hu ⊢
    rw [List.length_append, List.length_append] at hlen hu ⊢
    rw [TokenStream.shows_append, TokenStream.shows_append, List.length_append,
      ← Nat.add_assoc] at hshows
    obtain ⟨⟨hop, hfirst⟩, hrest⟩ := hshows
    rw [← Nat.add_assoc, ← Nat.add_assoc] at hu ⊢
    have hnext : ∀ w ∈ (comparedWords ops es).head?, ∀ t : Token, t.Says w → t.joins ≤ 5 := by
      intro w hw t hsaid
      rw [hsaid.joins]
      cases ops with
      | nil => cases es <;> simp [comparedWords] at hw
      | cons op' ops =>
        cases es with
        | nil => simp [comparedWords] at hw
        | cons e' es =>
          rw [comparedWords] at hw
          cases op' <;> cases hw <;> decide
    obtain ⟨v, hv, hvjoins⟩ := exists_next hrest hu hjoins hnext
    obtain ⟨x, hx, hxreads⟩ := (hes e List.mem_cons_self).operand (n := n) (by decide) (by omega)
      hfirst hv (by omega)
    obtain ⟨t, ht, hlead⟩ :=
      ((hes e List.mem_cons_self).lead.placed (by decide)).exists_token hfirst
    obtain ⟨xs, hxs, hreads⟩ := ih (Nat.succ.inj heach)
      (fun e' he' => hes e' (List.mem_cons_of_mem _ he')) (by omega) hrest hu
    have hpair : (comparePair (ofDepth n)).Takes s j (op, x)
        (j + (compareWords op).length + (placed e 6 (words e)).length) :=
      (takes_compareOp hop ht (hlead.isWord_eq_false (by decide))).bind (hx.bind takes_pure)
    have hmoves : 0 < (compareWords op).length := by cases op <;> decide
    exact ⟨x :: xs, .cons hpair (by omega) hxs, .cons hxreads hreads⟩

/-- A comparison is read back from its words if its operands are. -/
lemma compare {ops : List CompareOp} (hops : ops ≠ []) (heach : ops.length = es.length)
    (hl : Grouped m s l) (hes : ∀ e ∈ es, Grouped m s e) (d : Info) :
    Grouped m s (.compare l ops es d) where
  isFormula := .compare hops heach hl.isFormula fun e he => (hes e he).isFormula
  opens := by
    intro n i u hlen hshows hu hjoins
    rw [words, List.length_append] at hlen hu ⊢
    rw [words, TokenStream.shows_append] at hshows
    obtain ⟨hfirst, hrest⟩ := hshows
    rw [← Nat.add_assoc] at hu ⊢
    have hlast : u.joins ≤ 4 := hjoins
    obtain ⟨op, ops, rfl⟩ := List.exists_cons_of_ne_nil hops
    obtain ⟨e, es, rfl⟩ : ∃ e rest, es = e :: rest := by
      cases es with
      | nil => cases heach
      | cons e es => exact ⟨e, es, rfl⟩
    obtain ⟨t, ht, htjoins⟩ := exists_next (P := fun t => t.joins ≤ 5) hrest hu (by omega) (by
      intro w hw t hsaid
      rw [hsaid.joins]
      rw [comparedWords] at hw
      cases op <;> cases hw <;> decide)
    obtain ⟨x, hx, hxreads⟩ := hl.operand (n := n) (by decide) (by omega) hfirst ht (by omega)
    obtain ⟨xs, hxs, hreads⟩ := repeats_compared (n := n) heach hes (by omega) hrest hu (by omega)
    obtain ⟨t', ht', -⟩ := (hl.lead.placed (by decide)).exists_token hfirst
    have hlength : (op :: ops).length = xs.length := heach.trans hreads.length_eq.symm
    have hzip : (op :: ops).zip xs ≠ [] := by
      rintro hnil
      have hzero := congrArg List.length hnil
      rw [List.length_zip, ← hlength] at hzero
      simp at hzero
    obtain ⟨range, htakes⟩ := takes_comparison_of hx ht' hxs hzip hu (by omega)
    rw [List.map_fst_zip hlength.le, List.map_snd_zip hlength.ge] at htakes
    exact ⟨_, .whole (l := 5) (by decide) htakes, hxreads.compare hreads⟩

/-! ### Anonymous functions -/

/-- Parameters that are names only. -/
lemma exists_names {ps : List (Param Syntax.Expr)} (hps : ∀ p ∈ ps, p.IsBareName) :
    ∃ ns : List String, ps.map paramWords = ns.map (fun a => [Word.name a]) ∧
      List.Forall₂ (fun p a => p.name = .text a) ps ns ∧ ∀ a ∈ ns, a ∉ keywords := by
  induction ps with
  | nil => exact ⟨[], rfl, .nil, by simp⟩
  | cons p ps ih =>
    obtain ⟨⟨a, ha, hfree⟩, -⟩ := hps p List.mem_cons_self
    obtain ⟨ns, hwords, hnames, hplain⟩ := ih fun q hq => hps q (List.mem_cons_of_mem _ hq)
    have hparam : paramWords p = [.name a] := by rw [paramWords, ha]
    refine ⟨a :: ns, by rw [List.map_cons, List.map_cons, hwords, hparam], .cons ha hnames, ?_⟩
    simpa using ⟨hfree.not_keyword, hplain⟩

/-- An anonymous function is read back from its words if its body is. -/
lemma lambda {ps : List (Param Syntax.Expr)} (hps : ∀ p ∈ ps, p.IsBareName)
    (he : Grouped m s e) (d : Info) : Grouped m s (.lambda ps e d) where
  isFormula := .lambda hps he.isFormula
  opens := by
    intro n i u hlen hshows hu hjoins
    obtain ⟨ns, hwords, hnames, hplain⟩ := exists_names hps
    rw [words, hwords] at hlen hshows hu ⊢
    simp only [List.length_append, List.length_cons] at hlen hu ⊢
    simp only [List.cons_append, TokenStream.shows_append, TokenStream.shows_cons] at hshows
    obtain ⟨⟨t, ht, hsaid⟩, hparams, ⟨v, hv, hvsaid⟩, hbody⟩ := hshows
    obtain ⟨n, rfl⟩ : ∃ n', n = n' + 1 := ⟨n - 1, by omega⟩
    generalize hlist : joinWords (.op ",") (ns.map fun a => [Word.name a]) = ws at *
    have hk : i + (ws.length + 1 + ((words e).length + 1)) =
        i + 1 + ws.length + 1 + (words e).length := by omega
    rw [hk] at hu ⊢
    have hend : u.joins < max 1 0 := Nat.lt_succ_of_le hjoins
    obtain ⟨x, hx, hreads⟩ := he.takes (n := n) (Nat.zero_le _) (by omega) hbody hu hend
    subst hlist
    obtain ⟨as, has, hbare⟩ := repeats_argDefault (g := ofDepth (n + 1)) hplain hparams hv hvsaid
    have hargs := takes_arguments has hbare hv hvsaid
    obtain ⟨range, htakes⟩ := takes_lambda (g := ofDepth (n + 1)) ht hsaid hargs hv hvsaid hx
    exact ⟨_, .whole (l := 0) (by decide) htakes, ReadsAs.lambda hps hnames hbare hreads⟩

/-! ### Items -/

/-- Formulas, each with a comma in front of it, are items. -/
lemma exists_items (hes : ∀ e ∈ es, Grouped m s e)
    (hlen : ((wordsEach 0 es).flatMap (Word.op "," :: ·)).length ≤ n)
    (hshows : s.Shows j ((wordsEach 0 es).flatMap (Word.op "," :: ·)))
    (hu : s.tokens[j + ((wordsEach 0 es).flatMap (Word.op "," :: ·)).length]? = some u)
    (hend : u.EndsItem) :
    ∃ xs, Items (ofDepth (n + 1)) s j xs
        (j + ((wordsEach 0 es).flatMap (Word.op "," :: ·)).length) ∧
      List.Forall₂ (ReadsAs m) xs es := by
  induction es generalizing j with
  | nil => exact ⟨[], .nil _, .nil⟩
  | cons e es ih =>
    rw [wordsEach, List.flatMap_cons, placed_zero] at hlen hshows hu ⊢
    generalize hrest : (wordsEach 0 es).flatMap (Word.op "," :: ·) = ws at hlen hshows hu ih ⊢
    rw [List.length_append, List.length_cons] at hlen hu ⊢
    rw [TokenStream.shows_append] at hshows
    obtain ⟨⟨⟨t, ht, hsaid⟩, hfirst⟩, hshows⟩ := hshows
    rw [List.length_cons] at hshows
    have hk : j + ((words e).length + 1 + ws.length) = j + ((words e).length + 1) + ws.length := by
      omega
    have hj : j + 1 + (words e).length = j + ((words e).length + 1) := by omega
    rw [hk] at hu ⊢
    have hcomma : ∀ {v : Token}, v.Says (.op ",") → v.isOp "," = true := fun hv =>
      (hv.isOp ",").trans (by decide)
    obtain ⟨v, hv, hvend⟩ := exists_next hshows hu hend (by
      intro w hw v hvsaid
      rw [← hrest] at hw
      cases es with
      | nil => cases hw
      | cons e es =>
        rw [wordsEach, List.flatMap_cons] at hw
        cases hw
        exact .inl (hcomma hvsaid))
    obtain ⟨x, hx, hxreads⟩ := (hes e List.mem_cons_self).item (n := n) (by omega) hfirst
      (by rwa [hj]) hvend
    rw [hj] at hx
    obtain ⟨xs, hxs, hreads⟩ := ih (fun e' he' => hes e' (List.mem_cons_of_mem _ he')) (by omega)
      hshows hu
    exact ⟨x :: xs, .cons ⟨t, ht, hcomma hsaid⟩ hx hxs, .cons hxreads hreads⟩

/-- Formulas with commas between them are an item and items after it. -/
lemma exists_listed (he : Grouped m s e) (hes : ∀ e ∈ es, Grouped m s e)
    (hlen : (joinWords (.op ",") (wordsEach 0 (e :: es))).length ≤ n)
    (hshows : s.Shows i (joinWords (.op ",") (wordsEach 0 (e :: es))))
    (hu : s.tokens[i + (joinWords (.op ",") (wordsEach 0 (e :: es))).length]? = some u)
    (hend : u.EndsItem) :
    ∃ x xs j, Item (ofDepth (n + 1)) s i x j ∧
      Items (ofDepth (n + 1)) s j xs (i + (joinWords (.op ",") (wordsEach 0 (e :: es))).length) ∧
      List.Forall₂ (ReadsAs m) (x :: xs) (e :: es) := by
  rw [wordsEach, joinWords, placed_zero] at hlen hshows hu ⊢
  rw [List.length_append] at hlen hu ⊢
  rw [TokenStream.shows_append] at hshows
  obtain ⟨hfirst, hrest⟩ := hshows
  rw [← Nat.add_assoc] at hu ⊢
  obtain ⟨v, hv, hvend⟩ := exists_next hrest hu hend (by
    intro w hw v hvsaid
    cases es with
    | nil => cases hw
    | cons e es =>
      rw [wordsEach, List.flatMap_cons] at hw
      cases hw
      exact .inl ((hvsaid.isOp ",").trans (by decide)))
  obtain ⟨x, hx, hxreads⟩ := he.item (n := n) (by omega) hfirst hv hvend
  obtain ⟨xs, hxs, hreads⟩ := exists_items (n := n) hes (by omega) hrest hu hend
  exact ⟨x, xs, _, hx, hxs, .cons hxreads hreads⟩

/-- Formulas of a tuple are an item and elements after a comma. -/
lemma exists_tupled (he : Grouped m s e) (hes : ∀ e ∈ es, Grouped m s e) {element : Rule Expr}
    (helement : ∀ {i x j}, Item (ofDepth (n + 1)) s i x j → element.Takes s i x j)
    (hmiss : ∀ {k v}, s.tokens[k]? = some v → v.Closes → element.Misses s k)
    (hlen : (tupleWords (wordsEach 0 (e :: es))).length ≤ n)
    (hshows : s.Shows i (tupleWords (wordsEach 0 (e :: es))))
    (hu : s.tokens[i + (tupleWords (wordsEach 0 (e :: es))).length]? = some u) (hclose : u.Closes) :
    ∃ x xs j v, Item (ofDepth (n + 1)) s i x j ∧ s.tokens[j]? = some v ∧ v.isOp "," = true ∧
      (commaElements element).Takes s j xs (i + (tupleWords (wordsEach 0 (e :: es))).length) ∧
      List.Forall₂ (ReadsAs m) (x :: xs) (e :: es) := by
  cases es with
  | nil =>
    have hwords : tupleWords (wordsEach 0 [e]) = words e ++ [.op ","] := by
      rw [wordsEach, wordsEach, placed_zero, tupleWords]
    rw [hwords] at hlen hshows hu ⊢
    rw [List.length_append, List.length_singleton] at hlen hu ⊢
    rw [TokenStream.shows_append] at hshows
    obtain ⟨hfirst, ⟨v, hv, hsaid⟩, -⟩ := hshows
    have hcomma : v.isOp "," = true := (hsaid.isOp ",").trans (by decide)
    obtain ⟨x, hx, hreads⟩ := he.item (n := n) (by omega) hfirst hv (.inl hcomma)
    rw [← Nat.add_assoc] at hu ⊢
    exact ⟨x, [], _, v, hx, hv, hcomma, takes_commaElements_nil hv hcomma (hmiss hu hclose),
      .cons hreads .nil⟩
  | cons e' es =>
    have hwords : tupleWords (wordsEach 0 (e :: e' :: es)) =
        joinWords (.op ",") (wordsEach 0 (e :: e' :: es)) := by
      rw [wordsEach, wordsEach, tupleWords]
      simp
    rw [hwords] at hlen hshows hu ⊢
    obtain ⟨x, xs, j, hx, hxs, hreads⟩ := he.exists_listed hes hlen hshows hu (.inr hclose)
    have hrest := hxs.commaElements helement hu hclose
    cases hxs with
    | nil => cases hreads with | cons _ h => cases h
    | cons hcomma =>
      obtain ⟨v, hv, hcomma⟩ := hcomma
      exact ⟨x, _, j, v, hx, hv, hcomma, hrest, hreads⟩

/-! ### Groups -/

/-- A tuple is read back from its words if its elements are. -/
lemma tuple (hes : ∀ e ∈ es, Grouped m s e) (d : Info) : Grouped m s (.tuple es d) where
  isFormula := .tuple fun e he => (hes e he).isFormula
  opens := by
    intro n i u hlen hshows hu _
    rw [words] at hlen hshows hu ⊢
    simp only [List.length_append, List.length_cons, List.length_nil, Nat.zero_add] at hlen hu ⊢
    simp only [List.cons_append, TokenStream.shows_append, TokenStream.shows_cons] at hshows
    obtain ⟨⟨t, ht, hsaid⟩, hinner, ⟨v, hv, hvsaid⟩, -⟩ := hshows
    have hopen : t.isOp "(" = true := (hsaid.isOp _).trans (by decide)
    have hclose : v.isOp ")" = true := (hvsaid.isOp _).trans (by decide)
    cases es with
    | nil =>
      have hnil : tupleWords (wordsEach 0 []) = [] := rfl
      rw [hnil] at hv ⊢
      obtain ⟨range, htakes⟩ := takes_parenthesized_nil (g := ofDepth n) ht hopen hv hclose
      exact ⟨_, .whole (l := 16) (by decide) (takes_atom_parenthesized ht hopen htakes), .tuple .nil⟩
    | cons e es =>
      obtain ⟨n, rfl⟩ : ∃ n', n = n' + 1 := ⟨n - 1, by omega⟩
      obtain ⟨x, xs, j, w, hx, hw, hcomma, hrest, hreads⟩ :=
        (hes e List.mem_cons_self).exists_tupled (n := n)
          (fun e' he' => hes e' (List.mem_cons_of_mem _ he')) Item.starNamedExpression
          (fun hk hkclose => misses_starNamedExpression
            (misses_ofDepth_expression _ hk hkclose) hk hkclose)
          (by omega) hinner hv (.inr (.inl hclose))
      obtain ⟨range, htakes⟩ := takes_parenthesized_tuple ht hopen hx hw hcomma hrest hv hclose
      have hk : i + 1 + (tupleWords (wordsEach 0 (e :: es))).length + 1 =
          i + ((tupleWords (wordsEach 0 (e :: es))).length + 1 + 1) := by omega
      rw [hk] at htakes
      exact ⟨_, .whole (l := 16) (by decide) (takes_atom_parenthesized ht hopen htakes),
        .tuple hreads⟩

/-- A list is read back from its words if its elements are. -/
lemma list (hes : ∀ e ∈ es, Grouped m s e) (d : Info) : Grouped m s (.list es d) where
  isFormula := .list fun e he => (hes e he).isFormula
  opens := by
    intro n i u hlen hshows hu _
    rw [words] at hlen hshows hu ⊢
    simp only [List.length_append, List.length_cons, List.length_nil, Nat.zero_add] at hlen hu ⊢
    simp only [List.cons_append, TokenStream.shows_append, TokenStream.shows_cons] at hshows
    obtain ⟨⟨t, ht, hsaid⟩, hinner, ⟨v, hv, hvsaid⟩, -⟩ := hshows
    have hopen : t.isOp "[" = true := (hsaid.isOp _).trans (by decide)
    have hclose : v.isOp "]" = true := (hvsaid.isOp _).trans (by decide)
    cases es with
    | nil =>
      have hnil : joinWords (.op ",") (wordsEach 0 []) = [] := rfl
      rw [hnil] at hv ⊢
      obtain ⟨range, htakes⟩ := takes_listDisplay_nil (g := ofDepth n) ht hopen hv hclose
      exact ⟨_, .whole (l := 16) (by decide) (takes_atom_list ht hopen htakes), .list .nil⟩
    | cons e es =>
      obtain ⟨n, rfl⟩ : ∃ n', n = n' + 1 := ⟨n - 1, by omega⟩
      obtain ⟨x, xs, j, hx, hxs, hreads⟩ :=
        (hes e List.mem_cons_self).exists_listed (n := n)
          (fun e' he' => hes e' (List.mem_cons_of_mem _ he')) (by omega) hinner hv
          (.inr (.inr (.inr hclose)))
      obtain ⟨range, htakes⟩ := takes_listDisplay ht hopen hx hxs hv hclose
      have hk : i + 1 + (joinWords (.op ",") (wordsEach 0 (e :: es))).length + 1 =
          i + ((joinWords (.op ",") (wordsEach 0 (e :: es))).length + 1 + 1) := by omega
      rw [hk] at htakes
      exact ⟨_, .whole (l := 16) (by decide) (takes_atom_list ht hopen htakes), .list hreads⟩

/-- What is called, or has attributes or subscripts, goes on with a trailer. -/
lemma trailed {g : Grammar} {a : Expr} {make : Range → Expr} (h : Opened g s i 15 a j)
    (htrailer : ∀ mark, ∃ range, (trailer g mark a).Takes s j (make range) k) (hk : j < k) :
    ∃ range, Opened g s i 15 (make range) k := by
  cases h with
  | @chain _ _ _ t _ _ hl ht head steps =>
    obtain ⟨range, htakes⟩ := htrailer t.start
    exact ⟨range, .chain hl ht head (steps.tail htakes hk)⟩
  | whole hnot => exact absurd (by decide) hnot

/-- A call is read back from its words if the function and the arguments are. -/
lemma call (hf : Grouped m s f) (hes : ∀ e ∈ es, Grouped m s e) (d : Info) :
    Grouped m s (.call f es [] d) where
  isFormula := .call hf.isFormula fun e he => (hes e he).isFormula
  opens := by
    intro n i u hlen hshows hu _
    rw [words] at hlen hshows hu ⊢
    simp only [List.length_append, List.length_cons, List.length_nil, Nat.zero_add] at hlen hu ⊢
    simp only [List.append_assoc, List.cons_append, TokenStream.shows_append,
      TokenStream.shows_cons] at hshows
    obtain ⟨hfunc, ⟨t, ht, hsaid⟩, hinner, ⟨v, hv, hvsaid⟩, -⟩ := hshows
    have hopen : t.isOp "(" = true := (hsaid.isOp _).trans (by decide)
    have hclose : v.isOp ")" = true := (hvsaid.isOp _).trans (by decide)
    have hjoins : t.joins ≤ 15 := by
      rw [hsaid.joins]
      decide
    obtain ⟨x, hx, hxreads⟩ := hf.opened (n := n) (by decide) (by omega) hfunc ht hjoins
    have hargs : ∃ xs, List.Forall₂ (ReadsAs m) xs es ∧
        (callArguments (ofDepth n) t.start false).Takes s (i + (placed f 15 (words f)).length + 1)
          (positionalArgs xs) (i + (placed f 15 (words f)).length + 1 +
            (joinWords (.op ",") (wordsEach 0 es)).length + 1) := by
      cases es with
      | nil => exact ⟨[], .nil, takes_callArguments_nil hv hclose⟩
      | cons e es =>
        obtain ⟨n, rfl⟩ : ∃ n', n = n' + 1 := ⟨n - 1, by omega⟩
        obtain ⟨x, xs, j, hx, hxs, hreads⟩ :=
          (hes e List.mem_cons_self).exists_listed (n := n)
            (fun e' he' => hes e' (List.mem_cons_of_mem _ he')) (by omega) hinner hv
            (.inr (.inr (.inl hclose)))
        exact ⟨x :: xs, hreads, takes_callArguments hx hxs hv hclose⟩
    obtain ⟨xs, hreads, hargs⟩ := hargs
    have hk : i + (placed f 15 (words f)).length + 1 +
          (joinWords (.op ",") (wordsEach 0 es)).length + 1 =
        i + ((placed f 15 (words f)).length +
          ((joinWords (.op ",") (wordsEach 0 es)).length + 1) + 1) := by omega
    rw [hk] at hargs
    have hopened : ∃ range, Opened (ofDepth n) s i 15 (.call x xs [] range) (i +
        ((placed f 15 (words f)).length +
          ((joinWords (.op ",") (wordsEach 0 es)).length + 1) + 1)) :=
      trailed hx (fun _ => takes_trailer_call ht hopen hargs) (by omega)
    obtain ⟨range, hopened⟩ := hopened
    exact ⟨_, hopened, hxreads.call hreads⟩

/-- An attribute is read back from its words if the value is. -/
lemma attributed {a : String} (hnumber : ¬ e.IsNumber) (he : Grouped m s e) (ha : IsFreeName a)
    (d : Info) : Grouped m s (.attribute e (.text a) d) where
  isFormula := .attributed hnumber he.isFormula ha
  opens := by
    intro n i u hlen hshows hu _
    rw [words] at hlen hshows hu ⊢
    rw [List.length_append] at hlen hu ⊢
    rw [TokenStream.shows_append] at hshows
    obtain ⟨hvalue, ⟨t, ht, hsaid⟩, ⟨v, hv, hvkind, hvtext⟩, -⟩ := hshows
    have hpoint : t.isOp "." = true := (hsaid.isOp _).trans (by decide)
    have hname : v.text ∉ keywords := by
      rw [hvtext]
      exact ha.not_keyword
    have hjoins : t.joins ≤ 15 := by
      rw [hsaid.joins]
      decide
    obtain ⟨x, hx, hreads⟩ := he.opened (n := n) (by decide) (by omega) hvalue ht hjoins
    have hopened : ∃ range, Opened (ofDepth n) s i 15 (.attribute x (Text.normalForm v.text) range)
        (i + (placed e 15 (words e)).length + 2) :=
      trailed hx (fun _ => takes_trailer_attribute ht hpoint hv hvkind hname) (by omega)
    rw [hvtext] at hopened
    obtain ⟨range, hopened⟩ := hopened
    exact ⟨_, hopened, hreads.attribute⟩

/-! ### Lines -/

/-- The elements of a tuple are read on their own. -/
def PartsGrouped (m : Manuscript) (s : TokenStream) (f : Syntax.Expr) : Prop :=
  ∀ es d, f = .tuple es d → ∀ e ∈ es, Grouped m s e

/-- A tuple without parentheses has elements of its own kind. -/
lemma exists_bare (hf : Grouped m s f) (hparts : PartsGrouped m s f) {element : Rule Expr}
    (helement : ∀ {i x j}, Item (ofDepth (n + 1)) s i x j → element.Takes s i x j)
    (hmiss : ∀ {k v}, s.tokens[k]? = some v → v.Closes → element.Misses s k)
    (hlen : (lineWords f).length ≤ n) (hshows : s.Shows i (lineWords f))
    (hu : s.tokens[i + (lineWords f).length]? = some u) (hclose : u.Closes) :
    (∃ x, Item (ofDepth (n + 1)) s i x (i + (lineWords f).length) ∧ ReadsAs m x f) ∨
      ∃ x xs j v, Item (ofDepth (n + 1)) s i x j ∧ s.tokens[j]? = some v ∧ v.isOp "," = true ∧
        (commaElements element).Takes s j xs (i + (lineWords f).length) ∧
        ∀ range, ReadsAs m (.tuple (x :: xs) range) f := by
  by_cases htuple : IsFilledTuple f
  · obtain ⟨e, es, d, rfl⟩ := htuple
    have heach := hparts _ _ rfl
    obtain ⟨x, xs, j, v, hx, hv, hcomma, hrest, hreads⟩ :=
      (heach e List.mem_cons_self).exists_tupled
        (fun e' he' => heach e' (List.mem_cons_of_mem _ he')) helement hmiss hlen hshows hu hclose
    exact .inr ⟨x, xs, j, v, hx, hv, hcomma, hrest, fun _ => .tuple hreads⟩
  · rw [lineWords_of_not htuple] at hlen hshows hu ⊢
    exact .inl (hf.item hlen hshows hu (.inr hclose))

/-- A subscript is read back from its words if the value and the index are. -/
lemma subscript (he : Grouped m s e) (hf : Grouped m s f) (hparts : PartsGrouped m s f) (d : Info) :
    Grouped m s (.subscript e f d) where
  isFormula := .subscript he.isFormula hf.isFormula
  opens := by
    intro n i u hlen hshows hu _
    rw [words_subscript] at hlen hshows hu ⊢
    simp only [List.length_append, List.length_cons, List.length_nil, Nat.zero_add] at hlen hu ⊢
    simp only [List.append_assoc, List.cons_append, TokenStream.shows_append,
      TokenStream.shows_cons] at hshows
    obtain ⟨hvalue, ⟨t, ht, hsaid⟩, hinner, ⟨w, hw, hwsaid⟩, -⟩ := hshows
    have hopen : t.isOp "[" = true := (hsaid.isOp _).trans (by decide)
    have hlast : w.isOp "]" = true := (hwsaid.isOp _).trans (by decide)
    have hcomma : w.isOp "," = false := (hwsaid.isOp _).trans (by decide)
    have hjoins : t.joins ≤ 15 := by
      rw [hsaid.joins]
      decide
    obtain ⟨n, rfl⟩ : ∃ n', n = n' + 1 := ⟨n - 1, by omega⟩
    obtain ⟨x, hx, hxreads⟩ := he.opened (n := n + 1) (by decide) (by omega) hvalue ht hjoins
    have hindex : ∃ y, (slices (ofDepth (n + 1))).Takes s (i + (placed e 15 (words e)).length + 1) y
        (i + (placed e 15 (words e)).length + 1 + (lineWords f).length) ∧ ReadsAs m y f := by
      rcases hf.exists_bare (n := n) hparts Item.index
        (fun hk hkclose => misses_index (misses_ofDepth_expression _ hk hkclose) hk hkclose)
        (by omega) hinner hw (.inr (.inr hlast)) with
        ⟨y, hy, hreads⟩ | ⟨y, ys, j, v, hy, hv, hvcomma, hys, hreads⟩
      · exact ⟨y, hy.slices hw hcomma, hreads⟩
      · obtain ⟨range, htakes⟩ := takes_slices_tuple hy hv hvcomma hys
        exact ⟨_, htakes, hreads range⟩
    obtain ⟨y, hy, hyreads⟩ := hindex
    have hk : i + (placed e 15 (words e)).length + 1 + (lineWords f).length + 1 =
        i + ((placed e 15 (words e)).length + ((lineWords f).length + 1) + 1) := by omega
    have hopened : ∃ range, Opened (ofDepth (n + 1)) s i 15 (.subscript x y range)
        (i + (placed e 15 (words e)).length + 1 + (lineWords f).length + 1) :=
      trailed hx (fun _ => takes_trailer_subscript ht hopen hy hw hlast) (by omega)
    rw [hk] at hopened
    obtain ⟨range, hopened⟩ := hopened
    exact ⟨_, hopened, hxreads.subscript hyreads⟩

end Grouped

/-- The grammar groups the words of a formula as the formula does, and those of its elements if it
is a tuple: a tuple in the place of a statement or an index is read element by element. -/
theorem grouped (hm : SpellsNumbers m s) (he : e.IsFormula) :
    Grouped m s e ∧ Grouped.PartsGrouped m s e := by
  induction he with
  | identifier hn => exact ⟨.identifier hn, by rintro _ _ ⟨⟩⟩
  | number hn hshort => exact ⟨.number hm hn hshort, by rintro _ _ ⟨⟩⟩
  | binary _ _ ihl ihr => exact ⟨.binary ihl.1 ihr.1 _, by rintro _ _ ⟨⟩⟩
  | unary _ ih => exact ⟨.unary ih.1 _, by rintro _ _ ⟨⟩⟩
  | boolOp hes _ ih => exact ⟨.boolOp hes (fun e he => (ih e he).1) _, by rintro _ _ ⟨⟩⟩
  | compare hops hlength _ _ ihl ih =>
    exact ⟨.compare hops hlength ihl.1 (fun e he => (ih e he).1) _, by rintro _ _ ⟨⟩⟩
  | conditional _ _ _ iht ihb ihe =>
    exact ⟨.conditional iht.1 ihb.1 ihe.1 _, by rintro _ _ ⟨⟩⟩
  | lambda hps _ ih => exact ⟨.lambda hps ih.1 _, by rintro _ _ ⟨⟩⟩
  | await _ ih => exact ⟨.await ih.1 _, by rintro _ _ ⟨⟩⟩
  | tuple _ ih =>
    refine ⟨.tuple (fun e he => (ih e he).1) _, ?_⟩
    rintro _ _ ⟨⟩ e he
    exact (ih e he).1
  | list _ ih => exact ⟨.list (fun e he => (ih e he).1) _, by rintro _ _ ⟨⟩⟩
  | call _ _ ihf ih => exact ⟨.call ihf.1 (fun e he => (ih e he).1) _, by rintro _ _ ⟨⟩⟩
  | attributed hnumber _ hn ih => exact ⟨.attributed hnumber ih.1 hn _, by rintro _ _ ⟨⟩⟩
  | subscript _ _ ihe ihf => exact ⟨.subscript ihe.1 ihf.1 ihf.2 _, by rintro _ _ ⟨⟩⟩

/-- A formula that ends a line is read as an expression in the place of a statement. -/
theorem exists_takes_starExpressions (hm : SpellsNumbers m s) (he : e.IsFormula)
    (hlen : (lineWords e).length ≤ n) (hshows : s.Shows i (lineWords e))
    (hend : EndsLine s (i + (lineWords e).length)) :
    ∃ x t, (starExpressions (ofDepth (n + 1))).Takes s i x (i + (lineWords e).length) ∧
      ReadsAs m x e ∧ s.tokens[i]? = some t ∧ t.Leads 0 := by
  obtain ⟨u, hu, hop, -, -, hclose⟩ := hend.exists_token
  rcases (grouped hm he).1.exists_bare (grouped hm he).2 Item.starExpression
    (fun hk hkclose => misses_starExpression (misses_ofDepth_expression _ hk hkclose) hk
      (hkclose.isOp_eq_false (by decide)))
    hlen hshows hu hclose with ⟨x, hx, hreads⟩ | ⟨x, xs, j, v, hx, hv, hcomma, hxs, hreads⟩
  · obtain ⟨t, ht, hlead⟩ := hx.first
    exact ⟨x, t, takes_tupleOf_one hx.starExpression ht hu (hop _), hreads, ht, hlead⟩
  · obtain ⟨t, ht, hlead⟩ := hx.first
    exact ⟨_, t, takes_tupleOf hx.starExpression ht hv hcomma hxs, hreads _, ht, hlead⟩

end BlockText.Source

import BlockText.Source.Grammar.Rule
import Mathlib

/-!
# What rules take

A rule takes the tokens between two positions if it succeeds from the one to the other without
diagnosis, whatever was looked at before and whichever characters have names; it misses at a
position if no complaint comes of it there. Each combinator has a lemma for both outcomes, so that a
rule is followed through its text step by step. A repetition takes what its steps take, as long as a
further step misses.
-/

namespace BlockText.Source

/-- From a mark to the end of what stands before a position. -/
def TokenStream.rangeTo (s : TokenStream) (m : Mark) (j : ℕ) : Range :=
  ⟨m, Rule.stopBefore s.tokens j⟩

namespace Rule

variable {α β : Type} {s : TokenStream} {i j k : ℕ} {a : α} {b : β} {p q : Rule α} {t : Token}

/-- The rule gives a value and goes from one position to another. -/
def Takes (p : Rule α) (s : TokenStream) (i : ℕ) (a : α) (j : ℕ) : Prop :=
  ∀ names far, ∃ far', p ⟨s, false, names⟩ i far = .done a j far'

/-- The rule misses at a position. -/
def Misses (p : Rule α) (s : TokenStream) (i : ℕ) : Prop :=
  ∀ names far, ∃ far', p ⟨s, false, names⟩ i far = .miss far'

/-- The rule gives no value at a position: it misses or complains. -/
def Refuses (p : Rule α) (s : TokenStream) (i : ℕ) : Prop :=
  ∀ names far a j far', p ⟨s, false, names⟩ i far ≠ .done a j far'

/-! ## One rule after another -/

/-- A value that is there already takes no tokens. -/
lemma takes_pure : (pure a : Rule α).Takes s i a i := fun _ far => ⟨far, rfl⟩

/-- A rule that always misses does so here. -/
lemma misses_fail : (fail : Rule α).Misses s i := fun _ far => ⟨far, rfl⟩

/-- What two rules do one after another, by the outcome of the first. -/
lemma bind_apply (p : Rule α) (f : α → Rule β) (input : Input) (far : ℕ) :
    (p >>= f) input i far =
      match p input i far with
      | .done a pos far => f a input pos far
      | .miss far => .miss far
      | .stop c far => .stop c far := rfl

/-- What follows a rule gives the value of both. -/
lemma exists_of_bind {input : Input} {far far' : ℕ} {f : α → Rule β}
    (h : (p >>= f) input i far = .done b k far') :
    ∃ a j far₁, p input i far = .done a j far₁ ∧ f a input j far₁ = .done b k far' := by
  rw [bind_apply] at h
  cases hp : p input i far with
  | done a j far₁ =>
    rw [hp] at h
    exact ⟨a, j, far₁, rfl, h⟩
  | miss =>
    rw [hp] at h
    cases h
  | stop =>
    rw [hp] at h
    cases h

/-- Two rules take their tokens one after another. -/
lemma Takes.bind {f : α → Rule β} (hp : p.Takes s i a j) (hf : (f a).Takes s j b k) :
    (p >>= f).Takes s i b k := by
  intro names far
  obtain ⟨far₁, h₁⟩ := hp names far
  obtain ⟨far₂, h₂⟩ := hf names far₁
  exact ⟨far₂, by rw [bind_apply, h₁, ← h₂]⟩

/-- What misses behind a rule lets both miss. -/
lemma Takes.bind_misses {f : α → Rule β} (hp : p.Takes s i a j) (hf : (f a).Misses s j) :
    (p >>= f).Misses s i := by
  intro names far
  obtain ⟨far₁, h₁⟩ := hp names far
  obtain ⟨far₂, h₂⟩ := hf names far₁
  exact ⟨far₂, by rw [bind_apply, h₁, ← h₂]⟩

/-- Where a rule misses nothing follows it. -/
lemma Misses.bind {f : α → Rule β} (hp : p.Misses s i) : (p >>= f).Misses s i := by
  intro names far
  obtain ⟨far₁, h₁⟩ := hp names far
  exact ⟨far₁, by rw [bind_apply, h₁]⟩

/-- What is taken may be brought into another form. -/
lemma Takes.map (f : α → β) (hp : p.Takes s i a j) : (f <$> p).Takes s i (f a) j :=
  hp.bind takes_pure

/-- A rule misses in whatever form its value would be. -/
lemma Misses.map (f : α → β) (hp : p.Misses s i) : (f <$> p).Misses s i := hp.bind

/-- What is taken may be dropped. -/
lemma Takes.discard (hp : p.Takes s i a j) : (Functor.discard p : Rule PUnit).Takes s i ⟨⟩ j :=
  hp.bind takes_pure

/-- A rule misses although its value would be dropped. -/
lemma Misses.discard (hp : p.Misses s i) : (Functor.discard p : Rule PUnit).Misses s i := hp.bind

/-- The rule is undone by what follows it. -/
lemma Takes.discard_bind {f : PUnit → Rule β} (hp : p.Takes s i a j) (hf : (f ⟨⟩).Takes s j b k) :
    (Functor.discard p >>= f).Takes s i b k := hp.discard.bind hf

/-! ## Rules that give no value -/

/-- A rule that misses gives no value. -/
lemma Misses.refuses (hp : p.Misses s i) : p.Refuses s i := by
  intro names far a j far' hdone
  obtain ⟨far₁, hmiss⟩ := hp names far
  cases hmiss.symm.trans hdone

/-- A complaint gives no value. -/
lemma refuses_complain (line : ℕ) :
    (complain line : Rule α).Refuses s i := fun _ _ _ _ _ h => nomatch h

/-- Where a rule gives no value nothing follows it. -/
lemma Refuses.bind {f : α → Rule β} (hp : p.Refuses s i) : (p >>= f).Refuses s i := by
  intro names far b k far' hrun
  obtain ⟨a, j, far₁, hdone, -⟩ := exists_of_bind hrun
  exact hp names far a j far₁ hdone

/-- A rule gives no value although the value would be dropped. -/
lemma Refuses.discard (hp : p.Refuses s i) : (Functor.discard p : Rule PUnit).Refuses s i := hp.bind

/-- What gives no value behind a rule lets both give none. -/
lemma Takes.bind_refuses {f : α → Rule β} (hp : p.Takes s i a j) (hf : (f a).Refuses s j) :
    (p >>= f).Refuses s i := by
  intro names far b k far' hrun
  obtain ⟨far₁, htaken⟩ := hp names far
  rw [bind_apply, htaken] at hrun
  exact hf names far₁ b k far' hrun

/-- At a position the rule has no outcome but through another one, which is applied there. -/
def BeginsWith (p : Rule α) (q : Rule β) (s : TokenStream) (i : ℕ) : Prop :=
  ∃ f : β → Rule α, ∀ names far, ∃ far',
    p ⟨s, false, names⟩ i far = (q >>= f) ⟨s, false, names⟩ i far'

namespace BeginsWith

variable {r : Rule β}

/-- A rule misses where the one that it begins with does. -/
lemma misses (h : p.BeginsWith r s i) (hr : r.Misses s i) : p.Misses s i := by
  intro names far
  obtain ⟨f, hf⟩ := h
  obtain ⟨far', heq⟩ := hf names far
  rw [heq]
  exact hr.bind names far'

/-- A rule gives no value where the one that it begins with gives none. -/
lemma refuses (h : p.BeginsWith r s i) (hr : r.Refuses s i) : p.Refuses s i := by
  intro names far
  obtain ⟨f, hf⟩ := h
  obtain ⟨far', heq⟩ := hf names far
  rw [heq]
  exact hr.bind names far'

/-- Every rule begins with itself. -/
lemma refl (p : Rule α) (s : TokenStream) (i : ℕ) : p.BeginsWith p s i := by
  refine ⟨pure, fun names far => ⟨far, ?_⟩⟩
  rw [bind_apply]
  cases p ⟨s, false, names⟩ i far <;> rfl

/-- What follows a rule does not change with what it begins. -/
lemma bind {γ : Type} {f : α → Rule γ} (h : p.BeginsWith r s i) : (p >>= f).BeginsWith r s i := by
  obtain ⟨g, hg⟩ := h
  refine ⟨fun b => g b >>= f, fun names far => ?_⟩
  obtain ⟨far', heq⟩ := hg names far
  refine ⟨far', ?_⟩
  rw [bind_apply, heq, bind_apply, bind_apply]
  cases r ⟨s, false, names⟩ i far' <;> rfl

end BeginsWith

/-- What stands before a rule and takes no tokens may be left aside. -/
lemma Takes.bind_beginsWith {γ : Type} {r : Rule γ} {f : α → Rule β} (hp : p.Takes s i a i)
    (hf : (f a).BeginsWith r s i) : (p >>= f).BeginsWith r s i := by
  obtain ⟨g, hg⟩ := hf
  refine ⟨g, fun names far => ?_⟩
  obtain ⟨far₁, htaken⟩ := hp names far
  obtain ⟨far₂, heq⟩ := hg names far₁
  exact ⟨far₂, by rw [bind_apply, htaken, ← heq]⟩

/-! ## Tokens -/

/-- The current token is looked at without moving. -/
lemma takes_peek (h : s.tokens[i]? = some t) : peek.Takes s i t i := by
  intro names far
  refine ⟨max far i, ?_⟩
  unfold peek
  dsimp only
  rw [h]

/-- A step goes to the next token. -/
lemma takes_advance : advance.Takes s i () (i + 1) := fun _ far => ⟨far, rfl⟩

/-- A rule that looks at what it reads may depend on which characters have names. -/
lemma takes_input_bind {f : Input → Rule β} (h : ∀ names, (f ⟨s, false, names⟩).Takes s i b k) :
    (input >>= f).Takes s i b k := fun names far => h names names far

/-- Without diagnosis a rule that looks at what it reads may go on in one way only. -/
lemma beginsWith_input_bind {r : Rule β} {f : Input → Rule α} (hf : ∀ names, f ⟨s, false, names⟩ = p)
    (h : p.BeginsWith r s i) : (input >>= f).BeginsWith r s i := by
  obtain ⟨g, hg⟩ := h
  refine ⟨g, fun names far => ?_⟩
  obtain ⟨far', heq⟩ := hg names far
  exact ⟨far', by rw [← heq, ← hf names]; rfl⟩

/-- The start of the current token is looked at without moving. -/
lemma takes_start (h : s.tokens[i]? = some t) : start.Takes s i t.start i :=
  (takes_peek h).bind takes_pure

/-- A token that satisfies the condition is taken. -/
lemma takes_take {c : Token → Bool} (h : s.tokens[i]? = some t) (hc : c t = true) :
    (take c).Takes s i t (i + 1) := by
  refine (takes_peek h).bind ?_
  rw [if_pos hc]
  exact takes_advance.bind takes_pure

/-- A token that does not satisfy the condition is not taken. -/
lemma misses_take {c : Token → Bool} (h : s.tokens[i]? = some t) (hc : c t = false) :
    (take c).Misses s i := by
  refine (takes_peek h).bind_misses ?_
  rw [if_neg (by rw [hc]; exact Bool.false_ne_true)]
  exact misses_fail

/-- The test for an operator tells what the token is, without moving. -/
lemma takes_atOp (h : s.tokens[i]? = some t) (o : String) : (atOp o).Takes s i (t.isOp o) i :=
  (takes_peek h).bind takes_pure

/-- The test for several operators tells whether the token is one of them. -/
lemma takes_atOps (h : s.tokens[i]? = some t) (ops : List String) :
    (atOps ops).Takes s i (ops.any t.isOp) i := (takes_peek h).bind takes_pure

/-- The test for a word tells what the token is, without moving. -/
lemma takes_atWord (h : s.tokens[i]? = some t) (w : String) :
    (atWord w).Takes s i (t.isWord w) i := (takes_peek h).bind takes_pure

/-- An operator that is there is taken. -/
lemma takes_tryOp {o : String} (h : s.tokens[i]? = some t) (ho : t.isOp o = true) :
    (tryOp o).Takes s i true (i + 1) := by
  refine (takes_atOp h o).bind ?_
  rw [if_pos ho]
  exact takes_advance.bind takes_pure

/-- An operator that is not there is not missed. -/
lemma takes_tryOp_false {o : String} (h : s.tokens[i]? = some t) (ho : t.isOp o = false) :
    (tryOp o).Takes s i false i := by
  refine (takes_atOp h o).bind ?_
  rw [if_neg (by rw [ho]; exact Bool.false_ne_true)]
  exact takes_pure

/-- A word that is there is taken. -/
lemma takes_tryWord {w : String} (h : s.tokens[i]? = some t) (hw : t.isWord w = true) :
    (tryWord w).Takes s i true (i + 1) := by
  refine (takes_atWord h w).bind ?_
  rw [if_pos hw]
  exact takes_advance.bind takes_pure

/-- A word that is not there is not missed. -/
lemma takes_tryWord_false {w : String} (h : s.tokens[i]? = some t) (hw : t.isWord w = false) :
    (tryWord w).Takes s i false i := by
  refine (takes_atWord h w).bind ?_
  rw [if_neg (by rw [hw]; exact Bool.false_ne_true)]
  exact takes_pure

/-- An operator that must stand here is taken if it does. -/
lemma takes_require {o : String} (h : s.tokens[i]? = some t) (ho : t.isOp o = true) :
    (require o).Takes s i t (i + 1) := by
  refine (takes_peek h).bind ?_
  rw [if_pos ho]
  exact takes_advance.bind takes_pure

/-! ## Choices -/

/-- The first choice takes what it can. -/
lemma Takes.or (hp : p.Takes s i a j) : (p.or q).Takes s i a j := by
  intro names far
  obtain ⟨far₁, h⟩ := hp names far
  exact ⟨far₁, by rw [Rule.or, h]⟩

/-- The second choice takes what the first one misses. -/
lemma Misses.or_takes (hp : p.Misses s i) (hq : q.Takes s i a j) : (p.or q).Takes s i a j := by
  intro names far
  obtain ⟨far₁, h⟩ := hp names far
  obtain ⟨far₂, h₂⟩ := hq names far₁
  exact ⟨far₂, by rw [Rule.or, h]; exact h₂⟩

/-- A choice misses if both rules do. -/
lemma Misses.or (hp : p.Misses s i) (hq : q.Misses s i) : (p.or q).Misses s i := by
  intro names far
  obtain ⟨far₁, h⟩ := hp names far
  obtain ⟨far₂, h₂⟩ := hq names far₁
  exact ⟨far₂, by rw [Rule.or, h]; exact h₂⟩

/-- An optional rule takes what it can. -/
lemma Takes.optional (hp : p.Takes s i a j) : (optional p).Takes s i (some a) j := (hp.map some).or

/-- An optional rule takes nothing where the rule misses. -/
lemma Misses.optional (hp : p.Misses s i) : (optional p).Takes s i none i :=
  (hp.map some).or_takes takes_pure

/-- A look ahead fails where the rule misses. -/
lemma Misses.ahead (hp : p.Misses s i) : (ahead p).Takes s i false i := by
  intro names far
  obtain ⟨far₁, h⟩ := hp names far
  exact ⟨far₁, by rw [Rule.ahead, h]⟩

/-- Without diagnosis nothing is looked for. -/
lemma takes_diagnosing {p : Rule Unit} : (diagnosing p).Takes s i () i := fun _ far => ⟨far, rfl⟩

/-- A range goes from its mark to the end of what was read. -/
lemma takes_rangeFrom {m : Mark} :
    (rangeFrom m).Takes s i (s.rangeTo m i) i := fun _ far => ⟨far, rfl⟩

/-! ## Repetitions -/

/-- There are more steps than tokens are left. -/
lemma takes_tokensLeft : tokensLeft.Takes s i (s.tokens.size + 1 - i) i := fun _ far => ⟨far, rfl⟩

/-- The rule takes tokens again and again and gives these values. -/
inductive Repeats (p : Rule α) (s : TokenStream) : ℕ → List α → ℕ → Prop
  | nil (i : ℕ) : Repeats p s i [] i
  | cons {i j k : ℕ} {a : α} {as : List α} (first : p.Takes s i a j) (moves : i < j)
    (rest : Repeats p s j as k) : Repeats p s i (a :: as) k

/-- The steps take tokens and lead from one value to another. -/
inductive Continues (step : α → Rule α) (s : TokenStream) (i : ℕ) (a : α) : ℕ → α → Prop
  | refl : Continues step s i a i a
  | tail {j k : ℕ} {b c : α} (steps : Continues step s i a j b)
    (last : (step b).Takes s j c k) (moves : j < k) : Continues step s i a k c

/-- A repetition moves on. -/
lemma Repeats.le {as : List α} (h : Repeats p s i as j) : i ≤ j := by
  induction h with
  | nil => exact Nat.le_refl _
  | cons _ hlt _ ih => omega

/-- Two repetitions one after another are one. -/
lemma Repeats.append {as bs : List α} (h : Repeats p s i as j) (h' : Repeats p s j bs k) :
    Repeats p s i (as ++ bs) k := by
  induction h with
  | nil => exact h'
  | cons first moves _ ih => exact .cons first moves (ih h')

/-- A repetition ends where its rule misses, if the steps suffice. -/
private lemma Repeats.repeatUpTo {as : List α} (h : Repeats p s i as j) (hmiss : p.Misses s j)
    {fuel : ℕ} (hfuel : j ≤ i + fuel) : (repeatUpTo p fuel).Takes s i as j := by
  induction h generalizing fuel with
  | nil i =>
    cases fuel with
    | zero => exact takes_pure
    | succ fuel => exact hmiss.optional.bind takes_pure
  | @cons i j k a as first moves rest ih =>
    have hle := rest.le
    obtain ⟨fuel, rfl⟩ : ∃ n, fuel = n + 1 := ⟨fuel - 1, by omega⟩
    exact first.optional.bind ((ih hmiss (by omega)).bind takes_pure)

/-- A repetition ends where the rule misses. -/
lemma Repeats.many {as : List α} (h : Repeats p s i as j) (hmiss : p.Misses s j)
    (hj : j ≤ s.tokens.size) : (many p).Takes s i as j :=
  takes_tokensLeft.bind (h.repeatUpTo hmiss (by omega))

/-- Nothing is repeated where the rule misses at once. -/
lemma Misses.many (hmiss : p.Misses s i) : (many p).Takes s i [] i := by
  refine takes_tokensLeft.bind ?_
  cases s.tokens.size + 1 - i with
  | zero => exact takes_pure
  | succ fuel => exact hmiss.optional.bind takes_pure

/-- An extension moves on. -/
lemma Continues.le {step : α → Rule α} {a' : α} (h : Continues step s i a j a') : i ≤ j := by
  induction h with
  | refl => exact Nat.le_refl _
  | tail _ _ hlt ih => omega

/-- An extension goes on with whatever the steps that are left do at its end. -/
private lemma Continues.extendUpTo {step : α → Rule α} {a' b : α} (h : Continues step s i a j a')
    {n : ℕ} (hn : ∀ fuel, n ≤ fuel → (extendUpTo step fuel a').Takes s j b k) {fuel : ℕ}
    (hfuel : n + j ≤ i + fuel) : (extendUpTo step fuel a).Takes s i b k := by
  induction h generalizing n with
  | refl => exact hn fuel (by omega)
  | @tail j' k' b' c' steps last moves ih =>
    have hle := steps.le
    apply ih (n := n + 1)
    · intro fuel' hfuel'
      obtain ⟨fuel', rfl⟩ : ∃ m, fuel' = m + 1 := ⟨fuel' - 1, by omega⟩
      exact last.optional.bind (hn fuel' (by omega))
    · omega

/-- An extension ends where a further step misses. -/
lemma Continues.extend {step : α → Rule α} {a' : α} (h : Continues step s i a j a')
    (hmiss : (step a').Misses s j) (hj : j ≤ s.tokens.size) :
    (extend step a).Takes s i a' j := by
  refine takes_tokensLeft.bind (h.extendUpTo (n := 0) ?_ (by omega))
  intro fuel _
  cases fuel with
  | zero => exact takes_pure
  | succ fuel => exact hmiss.optional.bind takes_pure

/-- A repetition is empty where the rule gives nothing, and what follows decides. -/
lemma Refuses.many_bind {f : List α → Rule β} (hp : p.Refuses s i) (hf : (f []).Refuses s i) :
    (many p >>= f).Refuses s i := by
  intro names far b k far' hrun
  obtain ⟨as, j, far₁, hmany, hrest⟩ := exists_of_bind hrun
  obtain ⟨fuel, _, far₂, ⟨⟩, hrepeat⟩ := exists_of_bind hmany
  have hempty : as = [] ∧ j = i := by
    cases hfuel : s.tokens.size + 1 - i with
    | zero =>
      rw [hfuel] at hrepeat
      cases hrepeat
      exact ⟨rfl, rfl⟩
    | succ fuel =>
      rw [hfuel] at hrepeat
      obtain ⟨o, j', far₃, hoptional, hlast⟩ := exists_of_bind hrepeat
      unfold optional Rule.or at hoptional
      split at hoptional
      · cases hoptional
        cases hlast
        exact ⟨rfl, rfl⟩
      · obtain ⟨a, _, _, hdone, -⟩ := exists_of_bind hoptional
        exact absurd hdone (hp names far a _ _)
  obtain ⟨rfl, rfl⟩ := hempty
  exact hf names far₁ b k far' hrest

/-- Nothing is extended where a step misses at once. -/
lemma Misses.extend {step : α → Rule α} (hmiss : (step a).Misses s i) :
    (extend step a).Takes s i a i := by
  refine takes_tokensLeft.bind ?_
  cases s.tokens.size + 1 - i with
  | zero => exact takes_pure
  | succ fuel => exact hmiss.optional.bind takes_pure

end Rule

end BlockText.Source

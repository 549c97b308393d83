import BlockText.Proofs.Source.Depth

/-!
# What a rule gives

A rule gives what holds of its value and of the position behind it whenever it succeeds, so nothing
is said of a rule that fails.  Rules are put together in a few ways, and for each of them there is a
lemma: what the whole gives follows from what its parts give.  A condition on a production is thus
shown along the text of the production, without looking at the input.
-/

namespace BlockText.Source.Rule

variable {α β γ : Type} {p q : Rule α} {T : Array Token} {i j k : ℕ} {a : α} {Q : α → ℕ → Prop}

/-- Whenever the rule succeeds at a position, its value and the position behind it satisfy a
condition. -/
def Gives (p : Rule α) (T : Array Token) (i : ℕ) (Q : α → ℕ → Prop) : Prop :=
  ∀ input : Input, input.stream.tokens = T →
    ∀ far a j far', p input i far = .done a j far' → Q a j

/-- What a rule gives may be weakened. -/
lemma Gives.mono {Q' : α → ℕ → Prop} (h : p.Gives T i Q) (himp : ∀ a j, Q a j → Q' a j) :
    p.Gives T i Q' :=
  fun input hT far a j far' hrun => himp a j (h input hT far a j far' hrun)

/-- Every rule gives the condition that asks for nothing. -/
lemma gives_any : p.Gives T i fun _ _ => True := fun _ _ _ _ _ _ _ => trivial

/-! ## One rule after another -/

/-- A value that is there already is given at the position itself. -/
lemma gives_pure (h : Q a i) : (pure a : Rule α).Gives T i Q := by
  rintro input - far _ _ _ ⟨⟩
  exact h

/-- A rule that always misses gives everything, for it never succeeds. -/
lemma gives_fail : (fail : Rule α).Gives T i Q := fun _ _ _ _ _ _ h => nomatch h

/-- Nothing is left to be shown behind a miss. -/
lemma gives_fail_bind {f : β → Rule α} : ((fail : Rule β) >>= f).Gives T i Q :=
  fun _ _ _ _ _ _ h => nomatch h

/-- A complaint gives everything, for no value comes with it. -/
lemma gives_complain (line : ℕ) : (complain line : Rule α).Gives T i Q :=
  fun _ _ _ _ _ _ h => nomatch h

/-- Nothing is left to be shown behind a complaint. -/
lemma gives_complain_bind {line : ℕ} {f : β → Rule α} :
    ((complain line : Rule β) >>= f).Gives T i Q := fun _ _ _ _ _ _ h => nomatch h

/-- A choice by a condition gives what both of its branches give where the condition decides for
them. -/
lemma gives_ite {c : Prop} [Decidable c] (hp : c → p.Gives T i Q) (hq : ¬ c → q.Gives T i Q) :
    (if c then p else q).Gives T i Q := by
  split
  · exact hp ‹c›
  · exact hq ‹¬ c›

/-- Of two rules one after another the second gives the condition from wherever the first may
end. -/
lemma Gives.bind {P : β → ℕ → Prop} {x : Rule β} {f : β → Rule α} (h : x.Gives T i P)
    (hf : ∀ b j, P b j → (f b).Gives T j Q) : (x >>= f).Gives T i Q := by
  intro input hT far a k far' hrun
  obtain ⟨b, j, far₁, hx, hrest⟩ := exists_of_bind hrun
  exact hf b j (h input hT far b j far₁ hx) input hT far₁ a k far' hrest

/-- A value is given in the form into which it is brought. -/
lemma Gives.map {P : β → ℕ → Prop} {x : Rule β} {f : β → α} (h : x.Gives T i P)
    (hf : ∀ b j, P b j → Q (f b) j) : (f <$> x).Gives T i Q :=
  h.bind fun b j hb => gives_pure (hf b j hb)

/-- A rule whose value is brought into another form, and a rule after it. -/
lemma Gives.map_bind {P : β → ℕ → Prop} {x : Rule β} {f : β → γ} {q : γ → Rule α}
    (h : x.Gives T i P) (hq : ∀ b j, P b j → (q (f b)).Gives T j Q) :
    ((f <$> x) >>= q).Gives T i Q :=
  (h.map (f := f) (Q := fun c j => ∃ b, P b j ∧ f b = c) fun b _ hb => ⟨b, hb, rfl⟩).bind
    fun _ j h => h.elim fun b hb => hb.2 ▸ hq b j hb.1

/-- A rule whose value is dropped, and a rule that needs only what the first one gives of the
position. -/
lemma Gives.discard_bind {P : β → ℕ → Prop} {x : Rule β} {f : Unit → Rule α}
    (h : x.Gives T i P) (hf : ∀ b j, P b j → (f ()).Gives T j Q) :
    ((Functor.discard x : Rule Unit) >>= f).Gives T i Q :=
  (h.map (f := fun _ => ()) (Q := fun _ j => ∃ b, P b j) fun b _ hb => ⟨b, hb⟩).bind
    fun _ j h => h.elim fun b hb => hf b j hb

/-- What a rule gives may be left aside. -/
lemma gives_discard_bind {x : Rule β} {f : Unit → Rule α}
    (h : (x >>= fun _ => f ()).Gives T i Q) :
    ((Functor.discard x : Rule Unit) >>= f).Gives T i Q := by
  intro input hT far a k far' hrun
  obtain ⟨_, j, far₁, hdiscard, hrest⟩ := exists_of_bind hrun
  obtain ⟨b, j', far₂, hx, hpure⟩ := exists_of_bind (f := fun _ => pure ()) hdiscard
  cases hpure
  exact h input hT far a k far' (by rw [bind_apply, hx]; exact hrest)

/-- A rule whose value is dropped gives what it gives of the position. -/
lemma Gives.discard {x : Rule β} {Q : Unit → ℕ → Prop} (h : x.Gives T i fun _ j => Q () j) :
    (Functor.discard x : Rule Unit).Gives T i Q := h.map fun _ _ hb => hb

/-- A choice gives what both rules give; the second one starts at the same position. -/
lemma Gives.or (hp : p.Gives T i Q) (hq : q.Gives T i Q) : (p.or q).Gives T i Q := by
  intro input hT far a j far' hrun
  unfold Rule.or at hrun
  cases h : p input i far with
  | done a' j' far₁ =>
    rw [h] at hrun
    cases hrun
    exact hp input hT far _ _ _ h
  | miss far₁ =>
    rw [h] at hrun
    exact hq input hT far₁ a j far' hrun
  | stop =>
    rw [h] at hrun
    cases hrun

/-- The choice in its written form. -/
lemma Gives.orElse (hp : p.Gives T i Q) (hq : q.Gives T i Q) : (p <|> q).Gives T i Q := hp.or hq

/-- An optional rule gives its value or stays where it is. -/
lemma Gives.optional (h : p.Gives T i Q) :
    (optional p).Gives T i fun o j => (∃ a, o = some a ∧ Q a j) ∨ (o = none ∧ j = i) :=
  (h.map fun _ _ ha => .inl ⟨_, rfl, ha⟩).or (gives_pure (.inr ⟨rfl, rfl⟩))

/-- A rule that is applied to a whole stream gives what it gives from the first token on. -/
lemma Gives.of_run {stream : TokenStream} {names : Text.CharacterNames}
    (h : p.Gives stream.tokens 0 Q) (hrun : p.run names stream = .ok a) : ∃ j, Q a j := by
  unfold run at hrun
  cases hdone : p ⟨stream, false, names⟩ 0 0 with
  | done b j far =>
    rw [hdone] at hrun
    cases hrun
    exact ⟨j, h ⟨stream, false, names⟩ rfl 0 a j far hdone⟩
  | stop c far =>
    rw [hdone] at hrun
    cases hrun
  | miss far =>
    rw [hdone] at hrun
    dsimp only at hrun
    split at hrun <;> cases hrun

/-! ## Tokens -/

/-- A token of code stands at a position. -/
def IsCode (T : Array Token) (i : ℕ) : Prop := ∃ t, T[i]? = some t ∧ t.isLayout = false

/-- The start of a token. -/
def startAt (T : Array Token) (i : ℕ) : Mark := (T[i]?.map Token.start).getD default

/-- The start at a position is that of the token there. -/
lemma startAt_eq {t : Token} (h : T[i]? = some t) : startAt T i = t.start := by
  rw [startAt, h]
  rfl

/-- Code that was read last ends where its last token does. -/
lemma stopBefore_succ {t : Token} (h : T[i]? = some t) (hcode : t.isLayout = false) :
    stopBefore T (i + 1) = t.stop := by
  rw [stopBefore, h]
  simp [hcode]

/-- The current token is looked at without moving. -/
lemma gives_peek : peek.Gives T i fun t j => j = i ∧ T[i]? = some t := by
  rintro input rfl far t j far' hrun
  unfold peek at hrun
  dsimp only at hrun
  split at hrun
  · next u hu =>
    cases hrun
    exact ⟨rfl, hu⟩
  · split at hrun <;> cases hrun

/-- After a look at the current token the rest is shown for that token. -/
lemma gives_peek_bind {f : Token → Rule α} (h : ∀ t, T[i]? = some t → (f t).Gives T i Q) :
    (peek >>= f).Gives T i Q := by
  refine gives_peek.bind ?_
  rintro t j ⟨rfl, ht⟩
  exact h t ht

/-- After a look at where the current token starts the rest is shown for that mark. -/
lemma gives_start_bind {f : Mark → Rule α} (h : (f (startAt T i)).Gives T i Q) :
    (start >>= f).Gives T i Q := by
  refine (gives_peek_bind fun t ht => gives_pure (Q := fun m j => m = startAt T i ∧ j = i)
    ⟨(startAt_eq ht).symm, rfl⟩).bind ?_
  rintro _ _ ⟨rfl, rfl⟩
  exact h

/-- After a step to the next token the rest is shown from there. -/
lemma gives_advance_bind {f : Unit → Rule α} (h : (f ()).Gives T (i + 1) Q) :
    (advance >>= f).Gives T i Q := by
  have hadvance : advance.Gives T i fun _ j => j = i + 1 := by
    rintro input - far _ _ _ ⟨⟩
    rfl
  refine hadvance.bind ?_
  rintro _ _ rfl
  exact h

/-- A token that is taken stands at the position and satisfies the condition. -/
lemma gives_take {c : Token → Bool} :
    (take c).Gives T i fun t j => j = i + 1 ∧ T[i]? = some t ∧ c t = true := by
  refine gives_peek_bind fun t ht => gives_ite (fun hc => ?_) fun _ => gives_fail
  exact gives_advance_bind (gives_pure ⟨rfl, ht, hc⟩)

/-- An operator is code. -/
lemma isLayout_of_isOp {t : Token} {o : String} (h : t.isOp o = true) : t.isLayout = false := by
  have hkind : t.kind = .operator := by simp_all [Token.isOp]
  simp [Token.isLayout, hkind]

/-- A word is code. -/
lemma isLayout_of_isWord {t : Token} {w : String} (h : t.isWord w = true) : t.isLayout = false := by
  have hkind : t.kind = .name := by simp_all [Token.isWord]
  simp [Token.isLayout, hkind]

/-- After an operator there was code, and the rest is shown from the next token on. -/
lemma gives_op_bind {o : String} {f : Unit → Rule α}
    (h : IsCode T i → (f ()).Gives T (i + 1) Q) :
    ((Functor.discard (op o) : Rule Unit) >>= f).Gives T i Q := by
  refine gives_take.discard_bind ?_
  rintro t _ ⟨rfl, ht, ho⟩
  exact h ⟨t, ht, isLayout_of_isOp ho⟩

/-- After a word there was code, and the rest is shown from the next token on. -/
lemma gives_word_bind {w : String} {f : Unit → Rule α}
    (h : IsCode T i → (f ()).Gives T (i + 1) Q) :
    ((Functor.discard (word w) : Rule Unit) >>= f).Gives T i Q := by
  refine gives_take.discard_bind ?_
  rintro t _ ⟨rfl, ht, hw⟩
  exact h ⟨t, ht, isLayout_of_isWord hw⟩

/-- After an operator that must stand there the rest is shown from the next token on. -/
lemma gives_require_bind {o : String} {f : Unit → Rule α}
    (h : IsCode T i → (f ()).Gives T (i + 1) Q) :
    ((Functor.discard (require o) : Rule Unit) >>= f).Gives T i Q := by
  have hrequire : (require o).Gives T i fun _ j => j = i + 1 ∧ IsCode T i := by
    refine gives_peek_bind fun t ht => gives_ite (fun ho => ?_) fun _ => gives_complain _
    exact gives_advance_bind (gives_pure ⟨rfl, t, ht, isLayout_of_isOp ho⟩)
  refine hrequire.discard_bind ?_
  rintro _ _ ⟨rfl, hcode⟩
  exact h hcode

/-- The test for an operator does not move, and where it succeeds there is code. -/
lemma gives_atOp {o : String} : (atOp o).Gives T i fun b j => j = i ∧ (b = true → IsCode T i) :=
  gives_peek_bind fun t ht => gives_pure ⟨rfl, fun ho => ⟨t, ht, isLayout_of_isOp ho⟩⟩

/-- After the test for an operator the rest is shown for both answers. -/
lemma gives_atOp_bind {o : String} {f : Bool → Rule α}
    (h : ∀ b, (b = true → IsCode T i) → (f b).Gives T i Q) : (atOp o >>= f).Gives T i Q := by
  refine gives_atOp.bind ?_
  rintro b _ ⟨rfl, hb⟩
  exact h b hb

/-- An operator that may be there was either taken or not. -/
lemma gives_tryOp_bind {o : String} {f : Bool → Rule α}
    (htrue : IsCode T i → (f true).Gives T (i + 1) Q) (hfalse : (f false).Gives T i Q) :
    (tryOp o >>= f).Gives T i Q := by
  have htry : (tryOp o).Gives T i fun b j => (b = true ∧ j = i + 1 ∧ IsCode T i) ∨
      (b = false ∧ j = i) := by
    refine gives_atOp.bind ?_
    rintro b _ ⟨rfl, hcode⟩
    refine gives_ite (fun hb => gives_advance_bind (gives_pure (.inl ⟨rfl, rfl, hcode hb⟩))) ?_
    exact fun _ => gives_pure (.inr ⟨rfl, rfl⟩)
  refine htry.bind ?_
  rintro b j (⟨rfl, rfl, hcode⟩ | ⟨rfl, rfl⟩)
  · exact htrue hcode
  · exact hfalse

/-- A word that may be there was either taken or not. -/
lemma gives_tryWord_bind {w : String} {f : Bool → Rule α}
    (htrue : IsCode T i → (f true).Gives T (i + 1) Q) (hfalse : (f false).Gives T i Q) :
    (tryWord w >>= f).Gives T i Q := by
  have htry : (tryWord w).Gives T i fun b j => (b = true ∧ j = i + 1 ∧ IsCode T i) ∨
      (b = false ∧ j = i) := by
    have hat : (atWord w).Gives T i fun b j => j = i ∧ (b = true → IsCode T i) :=
      gives_peek_bind fun t ht => gives_pure ⟨rfl, fun hw => ⟨t, ht, isLayout_of_isWord hw⟩⟩
    refine hat.bind ?_
    rintro b _ ⟨rfl, hcode⟩
    refine gives_ite (fun hb => gives_advance_bind (gives_pure (.inl ⟨rfl, rfl, hcode hb⟩))) ?_
    exact fun _ => gives_pure (.inr ⟨rfl, rfl⟩)
  refine htry.bind ?_
  rintro b j (⟨rfl, rfl, hcode⟩ | ⟨rfl, rfl⟩)
  · exact htrue hcode
  · exact hfalse

/-- After the test for several operators the rest is shown for both answers. -/
lemma gives_atOps_bind {ops : List String} {f : Bool → Rule α} (h : ∀ b, (f b).Gives T i Q) :
    (atOps ops >>= f).Gives T i Q := by
  refine (gives_peek_bind (Q := fun _ j => j = i) fun t _ => gives_pure rfl).bind ?_
  rintro b _ rfl
  exact h b

/-- After the test for a word the rest is shown for both answers. -/
lemma gives_atWord_bind {w : String} {f : Bool → Rule α} (h : ∀ b, (f b).Gives T i Q) :
    (atWord w >>= f).Gives T i Q := by
  refine (gives_peek_bind (Q := fun _ j => j = i) fun t _ => gives_pure rfl).bind ?_
  rintro b _ rfl
  exact h b

/-- After the test for a kind the rest is shown for both answers; where it succeeds the token is of
that kind. -/
lemma gives_atKind_bind {kind : TokenKind} {f : Bool → Rule α}
    (h : ∀ b, (b = true → ∃ t, T[i]? = some t ∧ t.kind = kind) → (f b).Gives T i Q) :
    (atKind kind >>= f).Gives T i Q := by
  refine (gives_peek_bind (Q := fun b j => j = i ∧
    (b = true → ∃ t, T[i]? = some t ∧ t.kind = kind)) fun t ht =>
      gives_pure ⟨rfl, fun hkind => ⟨t, ht, by simpa using hkind⟩⟩).bind ?_
  rintro b _ ⟨rfl, hb⟩
  exact h b hb

/-- After a token of a kind the rest is shown from the next token on. -/
lemma gives_kind_bind {kind : TokenKind} {f : Unit → Rule α}
    (h : ∀ t, T[i]? = some t → t.kind = kind → (f ()).Gives T (i + 1) Q) :
    ((Functor.discard (Rule.kind kind) : Rule Unit) >>= f).Gives T i Q := by
  refine gives_take.discard_bind ?_
  rintro t _ ⟨rfl, ht, hkind⟩
  exact h t ht (by simpa using hkind)

/-- A look ahead does not move, and the rest is shown for both answers. -/
lemma gives_ahead_bind {x : Rule β} {f : Bool → Rule α} (h : ∀ b, (f b).Gives T i Q) :
    (ahead x >>= f).Gives T i Q := by
  have hahead : (ahead x).Gives T i fun _ j => j = i := by
    intro input _ far b j far' hrun
    unfold ahead at hrun
    split at hrun <;> cases hrun <;> rfl
  refine hahead.bind ?_
  rintro b _ rfl
  exact h b

/-- Diagnosis does not move. -/
lemma gives_diagnosing {x : Rule Unit} : (diagnosing x).Gives T i fun _ j => j = i := by
  intro input _ far b j far' hrun
  unfold diagnosing at hrun
  split at hrun
  · split at hrun <;> cases hrun <;> rfl
  · cases hrun
    rfl

/-- Diagnosis may be left aside. -/
lemma gives_diagnosing_bind {x : Rule Unit} {f : Unit → Rule α} (h : (f ()).Gives T i Q) :
    (diagnosing x >>= f).Gives T i Q := by
  refine gives_diagnosing.bind ?_
  rintro _ _ rfl
  exact h

/-- What is read may be looked at; the rest is shown for every input. -/
lemma gives_input_bind {f : Input → Rule α} (h : ∀ x, (f x).Gives T i Q) :
    (input >>= f).Gives T i Q := by
  have hinput : input.Gives T i fun _ j => j = i := by
    rintro _ - _ _ _ _ ⟨⟩
    rfl
  refine hinput.bind ?_
  rintro x _ rfl
  exact h x

/-- The furthest token may be looked at; the rest is shown for every position. -/
lemma gives_furthest_bind {f : ℕ → Rule α} (h : ∀ n, (f n).Gives T i Q) :
    (furthest >>= f).Gives T i Q := by
  have hfurthest : furthest.Gives T i fun _ j => j = i := by
    rintro _ - _ _ _ _ ⟨⟩
    rfl
  refine hfurthest.bind ?_
  rintro n _ rfl
  exact h n

/-- A bound on the steps that are left; the rest is shown for every bound. -/
lemma gives_tokensLeft_bind {f : ℕ → Rule α} (h : ∀ n, (f n).Gives T i Q) :
    (tokensLeft >>= f).Gives T i Q := by
  have hleft : tokensLeft.Gives T i fun _ j => j = i := by
    rintro _ - _ _ _ _ ⟨⟩
    rfl
  refine hleft.bind ?_
  rintro n _ rfl
  exact h n

/-- A range goes from its mark to the end of what was read. -/
lemma gives_rangeFrom_bind {m : Mark} {f : Range → Rule α}
    (h : (f ⟨m, stopBefore T i⟩).Gives T i Q) : (rangeFrom m >>= f).Gives T i Q := by
  have hrange : (rangeFrom m).Gives T i fun r j => r = ⟨m, stopBefore T i⟩ ∧ j = i := by
    rintro _ rfl _ _ _ _ ⟨⟩
    exact ⟨rfl, rfl⟩
  refine hrange.bind ?_
  rintro _ _ ⟨rfl, rfl⟩
  exact h

/-- An operator may be taken, and nothing hangs on it. -/
lemma gives_tryOp {o : String} : (tryOp o).Gives T i fun _ j => i ≤ j :=
  gives_atOp_bind fun _ _ => gives_ite
    (fun _ => gives_advance_bind (gives_pure (Nat.le_succ i))) fun _ => gives_pure le_rfl

/-- A word may be taken, and nothing hangs on it. -/
lemma gives_tryWord {w : String} : (tryWord w).Gives T i fun _ j => i ≤ j :=
  gives_atWord_bind fun _ => gives_ite
    (fun _ => gives_advance_bind (gives_pure (Nat.le_succ i))) fun _ => gives_pure le_rfl

/-- After an operator that may have been taken the rest is shown from wherever that led. -/
lemma gives_tryOp_discard_bind {o : String} {f : Unit → Rule α}
    (h : ∀ j, i ≤ j → (f ()).Gives T j Q) :
    ((Functor.discard (tryOp o) : Rule Unit) >>= f).Gives T i Q :=
  gives_tryOp.discard_bind fun _ j hj => h j hj

/-! ## Choices -/

/-- A production that an operator decides, which is taken. -/
lemma gives_if_tryOp {o : String} (hp : IsCode T i → p.Gives T (i + 1) Q) (hq : q.Gives T i Q) :
    (tryOp o >>= fun b => if b = true then p else q).Gives T i Q :=
  gives_tryOp_bind (fun hi => gives_ite (fun _ => hp hi) fun h => absurd rfl h)
    (gives_ite (fun h => absurd h Bool.false_ne_true) fun _ => hq)

/-- A production that a word decides, which is taken. -/
lemma gives_if_tryWord {w : String} (hp : IsCode T i → p.Gives T (i + 1) Q)
    (hq : q.Gives T i Q) : (tryWord w >>= fun b => if b = true then p else q).Gives T i Q :=
  gives_tryWord_bind (fun hi => gives_ite (fun _ => hp hi) fun h => absurd rfl h)
    (gives_ite (fun h => absurd h Bool.false_ne_true) fun _ => hq)

/-- A production that an operator decides, which is left where it is. -/
lemma gives_if_atOp {o : String} (hp : p.Gives T i Q) (hq : q.Gives T i Q) :
    (atOp o >>= fun b => if b = true then p else q).Gives T i Q :=
  gives_atOp_bind fun _ _ => gives_ite (fun _ => hp) fun _ => hq

/-- A production that one of several operators decides. -/
lemma gives_if_atOps {ops : List String} (hp : p.Gives T i Q) (hq : q.Gives T i Q) :
    (atOps ops >>= fun b => if b = true then p else q).Gives T i Q :=
  gives_atOps_bind fun _ => gives_ite (fun _ => hp) fun _ => hq

/-- A production that a word decides, which is left where it is. -/
lemma gives_if_atWord {w : String} (hp : p.Gives T i Q) (hq : q.Gives T i Q) :
    (atWord w >>= fun b => if b = true then p else q).Gives T i Q :=
  gives_atWord_bind fun _ => gives_ite (fun _ => hp) fun _ => hq

/-- A production that a look ahead decides. -/
lemma gives_if_ahead {x : Rule β} (hp : p.Gives T i Q) (hq : q.Gives T i Q) :
    (ahead x >>= fun b => if b = true then p else q).Gives T i Q :=
  gives_ahead_bind fun _ => gives_ite (fun _ => hp) fun _ => hq

/-! ## Repetitions -/

/-- Values one after another between two positions. -/
inductive Series (one : ℕ → α → ℕ → Prop) : ℕ → List α → ℕ → Prop
  | nil {i : ℕ} : Series one i [] i
  | cons {i j k : ℕ} {a : α} {as : List α} (first : one i a j) (rest : Series one j as k) :
    Series one i (a :: as) k

/-- Each value of a series lies between the ends of the series. -/
lemma Series.mem {one : ℕ → α → ℕ → Prop} {as : List α} (h : Series one i as j)
    (hle : ∀ i a j, one i a j → i ≤ j) :
    i ≤ j ∧ ∀ a ∈ as, ∃ k l, i ≤ k ∧ l ≤ j ∧ one k a l := by
  induction h with
  | nil => exact ⟨le_rfl, nofun⟩
  | @cons i j k a as first _ ih =>
    refine ⟨(hle i a j first).trans ih.1,
      List.forall_mem_cons.mpr ⟨⟨i, j, le_rfl, ih.1, first⟩, ?_⟩⟩
    intro b hb
    obtain ⟨k', l, hk, hl, hb⟩ := ih.2 b hb
    exact ⟨k', l, (hle i a j first).trans hk, hl, hb⟩

/-- What each value of a series satisfies may be weakened. -/
lemma Series.imp {one two : ℕ → α → ℕ → Prop} {as : List α} (h : Series one i as j)
    (himp : ∀ i a j, one i a j → two i a j) : Series two i as j := by
  induction h with
  | nil => exact .nil
  | cons first _ ih => exact .cons (himp _ _ _ first) ih

/-- A repetition gives a series of what its rule gives. -/
lemma gives_many {one : ℕ → α → ℕ → Prop} (h : ∀ i, p.Gives T i (one i)) :
    (many p).Gives T i (Series one i) := by
  refine gives_tokensLeft_bind fun n => ?_
  induction n generalizing i with
  | zero => exact gives_pure .nil
  | succ n ih =>
    refine (h i).optional.bind ?_
    rintro o j (⟨a, rfl, ha⟩ | ⟨rfl, rfl⟩)
    · exact ih.bind fun as k has => gives_pure (.cons ha has)
    · exact gives_pure .nil

/-- A repetition of once or more gives a series that is not empty. -/
lemma gives_many1 {one : ℕ → α → ℕ → Prop} (h : ∀ i, p.Gives T i (one i)) :
    (many1 p).Gives T i fun as j => as ≠ [] ∧ Series one i as j :=
  (h i).bind fun a _ ha => (gives_many h).bind fun as _ has =>
    gives_pure ⟨List.cons_ne_nil a as, .cons ha has⟩

/-- A value that is continued keeps what every step keeps. -/
lemma gives_extend {step : α → Rule α} {inv : α → ℕ → Prop} (hstart : inv a i)
    (hstep : ∀ a i, inv a i → (step a).Gives T i inv) : (extend step a).Gives T i inv := by
  refine gives_tokensLeft_bind fun n => ?_
  induction n generalizing i a with
  | zero => exact gives_pure hstart
  | succ n ih =>
    refine (hstep a i hstart).optional.bind ?_
    rintro o j (⟨b, rfl, hb⟩ | ⟨rfl, rfl⟩)
    · exact ih hb
    · exact gives_pure hstart

end BlockText.Source.Rule

import BlockText.Proofs.Workspace.Trees

/-!
# Chains as lists

`Passes` says that steps lead from one place through the blocks of a list to another place.  A list
through which the steps lead to an end is determined by where it starts; in a forest these lists are
the chains.  A change of the step function that no block of the list takes part in leaves the
passage, and forgetting how to reach one block cuts every list just before that block.
-/

namespace BlockText

/-- Steps lead from a place through the blocks of a list to another place. -/
def Passes (step : BlockId → Option BlockId) :
    Option BlockId → List BlockId → Option BlockId → Prop
  | start, [], stop => start = stop
  | start, a :: rest, stop => start = some a ∧ Passes step (step a) rest stop

namespace Passes

variable {step step' : BlockId → Option BlockId} {start mid stop : Option BlockId}
  {as bs : List BlockId} {a b c : BlockId}

/-! ## Lists -/

@[simp] lemma nil : Passes step start [] stop ↔ start = stop := Iff.rfl

@[simp] lemma cons : Passes step start (a :: as) stop ↔
    start = some a ∧ Passes step (step a) as stop := Iff.rfl

/-- A passage through one list after another. -/
lemma append : Passes step start (as ++ bs) stop ↔
    ∃ mid, Passes step start as mid ∧ Passes step mid bs stop := by
  induction as generalizing start with
  | nil => simp
  | cons a as ih => simp only [List.cons_append, cons, ih, ← exists_and_left, and_assoc]

/-- Where a passage goes on after a block of its list. -/
lemma of_append_cons (h : Passes step start (as ++ a :: bs) stop) :
    Passes step start as (some a) ∧ Passes step (step a) bs stop := by
  obtain ⟨mid, has, rfl, hbs⟩ := append.mp h
  exact ⟨has, hbs⟩

/-- A list through which steps lead to an end is determined by where it starts. -/
lemma unique (ha : Passes step start as none) (hb : Passes step start bs none) : as = bs := by
  induction as generalizing start bs with
  | nil =>
    cases bs with
    | nil => rfl
    | cons b bs => exact absurd (ha.symm.trans hb.1) (by simp)
  | cons a as ih =>
    obtain ⟨rfl, hrest⟩ := ha
    cases bs with
    | nil => cases hb
    | cons b bs =>
      obtain ⟨heq, hrest'⟩ := hb
      rw [Option.some.injEq] at heq
      subst heq
      rw [ih hrest hrest']

/-- Only the steps from the blocks of the list matter. -/
lemma congr (h : Passes step start as stop) (hstep : ∀ a ∈ as, step' a = step a) :
    Passes step' start as stop := by
  induction as generalizing start with
  | nil => exact h
  | cons a as ih =>
    refine ⟨h.1, ?_⟩
    rw [hstep a List.mem_cons_self]
    exact ih h.2 fun b hb => hstep b (List.mem_cons_of_mem a hb)

/-- Every block before the last place leads somewhere. -/
lemma exists_step (h : Passes step start as (some b)) (ha : a ∈ as) : ∃ c, step a = some c := by
  induction as generalizing start with
  | nil => cases ha
  | cons x as ih =>
    rcases List.mem_cons.mp ha with rfl | ha
    · cases as with
      | nil => exact ⟨b, h.2⟩
      | cons y as => exact ⟨y, h.2.1⟩
    · exact ih h.2 ha

/-- Every block of the list is the first, or comes after one of them. -/
lemma head_or_after (h : Passes step start as stop) (ha : a ∈ as) :
    start = some a ∨ ∃ b ∈ as, step b = some a := by
  induction as generalizing start with
  | nil => cases ha
  | cons x as ih =>
    rcases List.mem_cons.mp ha with rfl | ha
    · exact .inl h.1
    · rcases ih h.2 ha with hx | ⟨b, hb, hstep⟩
      · exact .inr ⟨x, List.mem_cons_self, hx⟩
      · exact .inr ⟨b, List.mem_cons_of_mem x hb, hstep⟩

/-- Steps from the first place lead to every block of the list. -/
lemma exists_reach (h : Passes step start as stop) (ha : a ∈ as) :
    ∃ b, start = some b ∧ Relation.ReflTransGen (fun x y => step x = some y) b a := by
  induction as generalizing start with
  | nil => cases ha
  | cons x as ih =>
    refine ⟨x, h.1, ?_⟩
    rcases List.mem_cons.mp ha with rfl | ha
    · exact .refl
    · obtain ⟨y, hy, hrest⟩ := ih h.2 ha
      exact .head hy hrest

/-- Steps from every block of the list lead to those after it. -/
lemma pairwise (h : Passes step start as stop) :
    as.Pairwise (Relation.TransGen fun x y => step x = some y) := by
  induction as generalizing start with
  | nil => exact .nil
  | cons x as ih =>
    refine .cons (fun a ha => ?_) (ih h.2)
    obtain ⟨y, hy, hrest⟩ := exists_reach h.2 ha
    exact .head' hy hrest

/-! ## Cutting -/

/-- Without the steps to one block, every list ends just before that block. -/
lemma cut (h : Passes step start as none) (c : BlockId) :
    Passes (fun a => (step a).filter (· ≠ c)) (start.filter (· ≠ c)) (as.takeWhile (· ≠ c))
      none := by
  induction as generalizing start with
  | nil =>
    obtain rfl := h
    rfl
  | cons a as ih =>
    obtain ⟨rfl, hrest⟩ := h
    by_cases ha : a = c
    · simp [ha]
    · simpa [ha] using ih hrest

/-- A list that avoids a block needs no step to that block. -/
lemma avoid (h : Passes step start as stop) (hc : c ∉ as) (hstop : stop ≠ some c) :
    Passes (fun a => (step a).filter (· ≠ c)) (start.filter (· ≠ c)) as stop := by
  induction as generalizing start with
  | nil =>
    obtain rfl := h
    cases start with
    | none => rfl
    | some b => exact Option.filter_some_pos (by simpa using hstop)
  | cons a as ih =>
    obtain ⟨rfl, hrest⟩ := h
    rw [List.mem_cons, not_or] at hc
    exact ⟨by simp [Ne.symm hc.1], ih hrest hc.2⟩

/-- A property that the steps pass on, except to one block, holds up to that block. -/
lemma forall_takeWhile {P : BlockId → Prop} (h : Passes step start as stop) (c : BlockId)
    (hstart : ∀ a, start = some a → a ≠ c → P a)
    (hstep : ∀ a b, P a → step a = some b → b ≠ c → P b) : ∀ a ∈ as.takeWhile (· ≠ c), P a := by
  induction as generalizing start with
  | nil => simp
  | cons a as ih =>
    obtain ⟨rfl, hrest⟩ := h
    by_cases ha : a = c
    · simp [ha]
    · have hPa := hstart a rfl ha
      simp only [ha, ne_eq, not_false_eq_true, decide_true, List.takeWhile_cons_of_pos,
        List.forall_mem_cons]
      exact ⟨hPa, ih hrest fun b hb hbc => hstep a b hPa hb hbc⟩

/-- A list with a block in it is what comes before the block and what starts there. -/
lemma eq_takeWhile_append (h : Passes step start as none) (hc : c ∈ as)
    (hbs : Passes step (some c) bs none) : as = as.takeWhile (· ≠ c) ++ bs := by
  induction as generalizing start with
  | nil => cases hc
  | cons a as ih =>
    obtain ⟨rfl, hrest⟩ := h
    by_cases ha : a = c
    · subst ha
      have hsame : a :: as = bs := unique ⟨rfl, hrest⟩ hbs
      rw [← hsame]
      simp
    · have hmem : c ∈ as := (List.mem_cons.mp hc).resolve_left (Ne.symm ha)
      simpa [ha] using ih hrest hmem

end Passes

/-! ## Walks -/

/-- A walk with fuel for all its steps leads to the end. -/
lemma passes_walk {step : BlockId → Option BlockId} {fuel k : ℕ} {a b : BlockId} (hk : k < fuel)
    (hlast : stepped step k a = some b) (hend : step b = none) :
    Passes step (some a) (Workspace.walk step fuel a) none := by
  induction fuel generalizing a k with
  | zero => omega
  | succ fuel ih =>
    refine ⟨rfl, ?_⟩
    cases k with
    | zero =>
      obtain rfl := Option.some.inj hlast
      rw [hend]
      rfl
    | succ k =>
      obtain ⟨c, hc, hrest⟩ := Option.bind_eq_some_iff.mp hlast
      rw [hc]
      exact ih (by omega) hrest

namespace Workspace

namespace Forest

variable {ws : Workspace}

/-- The chain of a statement is the list through which the following statements lead. -/
lemma passes_chain (hw : ws.Forest) {a : BlockId} (ha : ws.has a) :
    Passes ws.next? (some a) (ws.chain a) none := by
  obtain ⟨k, hk, b, hb, hend⟩ :=
    exists_last_step hw.mem_ids_of_next? hw.acyclic_next? (has_iff_mem_ids.mp ha)
  rw [chain, if_pos ha]
  exact passes_walk (by rwa [← length_ids]) hb hend

/-- What comes later in a chain is under what comes before it. -/
lemma pairwise_chain (hw : ws.Forest) {a : BlockId} (ha : ws.has a) :
    (ws.chain a).Pairwise fun c d => Relation.TransGen (Under ws.edges) d c := by
  refine (hw.passes_chain ha).pairwise.imp fun h => ?_
  induction h with
  | single hnext => exact .single (hw.under_of_next? hnext)
  | tail _ hnext ih => exact .head (hw.under_of_next? hnext) ih

end Forest

end Workspace

end BlockText

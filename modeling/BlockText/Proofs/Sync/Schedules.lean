import Mathlib
import BlockText.Sync.Debouncer

/-!
# Which calls settle

A schedule is a list of what happens to one debouncer: it is called, cancelled or flushed, or time
passes.  `Debouncer.Bench` carries a schedule out step by step.  `Debouncer.Settles` says without a
timer which call a step passes on: no other request comes between the call and that step, and time
that passes in between does not reach the deadline; the step itself flushes, or it is the first one
that reaches the deadline.  The timer does exactly this, because it is armed iff some call is still
open, and then with the deadline of that call.
-/

namespace BlockText.Debouncer

variable {α : Type}

/-! ## Schedules -/

/-- What happens to a debouncer. -/
inductive Step (α : Type)
  | call (a : α)
  | cancel
  | flush
  | advance (ms : ℕ)

/-- How much time passes in a step. -/
def Step.duration : Step α → ℕ
  | advance ms => ms
  | _ => 0

/-- A step is a flush. -/
def Step.isFlush : Step α → Bool
  | flush => true
  | _ => false

/-- A debouncer with a clock, the calls that it has passed on so far, and what the last step
showed. -/
structure Bench (α : Type) where
  now : ℕ
  timer : Debouncer α
  /-- The calls that were passed on, each with the time that it carries. -/
  log : List (ℕ × α) := []
  /-- The call that the last step passed on. -/
  passed : Option (ℕ × α) := none
  /-- What a flush told about whether it passed a call on. -/
  told : Option Bool := none

/-- A step leads to a time and a timer, and it may pass a call on. -/
def Bench.next (b : Bench α) (now : ℕ) (timer : Debouncer α) (passed : Option (ℕ × α) := none)
    (told : Option Bool := none) : Bench α :=
  { now, timer, log := b.log ++ passed.toList, passed, told }

/-- A step is carried out. -/
def Bench.after (b : Bench α) : Step α → Bench α
  | .call a => b.next b.now (b.timer.call b.now a)
  | .cancel => b.next b.now b.timer.cancel
  | .flush =>
    let (call, timer) := b.timer.flush
    b.next b.now timer (call.map (b.now, ·)) (some call.isSome)
  | .advance ms =>
    let (call, timer) := b.timer.expire (b.now + ms)
    b.next (b.now + ms) timer call

section

variable (delay start : ℕ) (steps : List (Step α))

/-- A new debouncer after the first steps of a schedule. -/
def benchAt (k : ℕ) : Bench α :=
  (steps.take k).foldl Bench.after { now := start, timer := { delay } }

/-- The time before the step with an index. -/
def clockAt (k : ℕ) : ℕ := start + ((steps.take k).map Step.duration).sum

/-- The call that the step with an index passes on, with the time that it carries. -/
def passedAt (k : ℕ) : Option (ℕ × α) := (benchAt delay start steps (k + 1)).passed

/-- What the step with an index tells about whether it passed a call on. -/
def toldAt (k : ℕ) : Option Bool := (benchAt delay start steps (k + 1)).told

/-- A call is pending after the step with an index. -/
def pendingAt (k : ℕ) : Bool := (benchAt delay start steps (k + 1)).timer.isPending

/-- The calls that a schedule passes on, in their order, each with the time that it carries. -/
def log : List (ℕ × α) := (benchAt delay start steps steps.length).log

/-- The step with index `i` is a call, and until the step with index `j` nothing has happened but
time that does not reach the deadline. -/
structure Open (i j : ℕ) (a : α) : Prop where
  lt : i < j
  call : steps[i]? = some (.call a)
  quiet : ∀ k, i < k → k < j → ∃ ms, steps[k]? = some (.advance ms) ∧
    clockAt start steps (k + 1) < clockAt start steps i + delay

/-- The step with index `j` flushes the call, or time reaches its deadline in that step. -/
inductive Ends (i j : ℕ) : ℕ → Prop
  | flushed (h : steps[j]? = some .flush) : Ends i j (clockAt start steps j)
  | reached (ms : ℕ) (h : steps[j]? = some (.advance ms))
      (hreach : clockAt start steps i + delay ≤ clockAt start steps (j + 1)) :
      Ends i j (clockAt start steps i + delay)

/-- The call with index `i` is the last one up to the step with index `j`, and since then it has
neither been cancelled nor passed on. -/
structure Waits (i j : ℕ) : Prop where
  le : i ≤ j
  call : ∃ a, steps[i]? = some (.call a)
  last : ∀ k a, i < k → k ≤ j → steps[k]? ≠ some (.call a)
  kept : ∀ k, i < k → k ≤ j → steps[k]? ≠ some .cancel
  unfired : ∀ k, i < k → k ≤ j → passedAt delay start steps k = none

/-- The call with index `i` settles in the step with index `j` and carries a time. -/
structure Settles (i j time : ℕ) (a : α) : Prop where
  isOpen : Open delay start steps i j a
  ends : Ends delay start steps i j time

end

variable {delay start : ℕ} {steps : List (Step α)} {i i' j j' k time time' : ℕ} {a a' : α}

/-! ## One step -/

lemma benchAt_succ {s : Step α} (h : steps[k]? = some s) :
    benchAt delay start steps (k + 1) = (benchAt delay start steps k).after s := by
  obtain ⟨hk, rfl⟩ := List.getElem?_eq_some_iff.mp h
  rw [benchAt, benchAt, List.take_add_one, List.getElem?_eq_getElem hk, Option.toList_some,
    List.foldl_append, List.foldl_cons, List.foldl_nil]

lemma clockAt_succ {s : Step α} (h : steps[k]? = some s) :
    clockAt start steps (k + 1) = clockAt start steps k + s.duration := by
  obtain ⟨hk, rfl⟩ := List.getElem?_eq_some_iff.mp h
  rw [clockAt, clockAt, List.take_add_one, List.getElem?_eq_getElem hk, Option.toList_some,
    List.map_append, List.sum_append, List.map_singleton, List.sum_singleton, Nat.add_assoc]

variable (delay start) in
/-- The clock shows the time that has passed, and the delay stays. -/
lemma benchAt_now_delay (hk : k ≤ steps.length) :
    (benchAt delay start steps k).now = clockAt start steps k ∧
      (benchAt delay start steps k).timer.delay = delay := by
  induction k with
  | zero => exact ⟨rfl, rfl⟩
  | succ k ih =>
    obtain ⟨hnow, hdelay⟩ := ih (by omega)
    have hs : steps[k]? = some steps[k] := List.getElem?_eq_getElem hk
    rw [benchAt_succ hs, clockAt_succ hs, ← hnow]
    cases steps[k] with
    | call a => exact ⟨rfl, hdelay⟩
    | cancel => exact ⟨rfl, hdelay⟩
    | flush => exact ⟨rfl, hdelay⟩
    | advance ms =>
      refine ⟨rfl, ?_⟩
      simp only [Bench.after, Bench.next, expire]
      split
      · split <;> exact hdelay
      · exact hdelay

/-- The log grows by the call that a step passes on. -/
lemma log_benchAt (hk : k ≤ steps.length) :
    (benchAt delay start steps k).log =
      (List.range k).filterMap (passedAt delay start steps) := by
  induction k with
  | zero => rfl
  | succ k ih =>
    have hs : steps[k]? = some steps[k] := List.getElem?_eq_getElem hk
    have hlog : (benchAt delay start steps (k + 1)).log =
        (benchAt delay start steps k).log ++ (passedAt delay start steps k).toList := by
      rw [passedAt, benchAt_succ hs]
      cases steps[k] <;> rfl
    rw [hlog, ih (by omega), List.range_succ, List.filterMap_append]
    cases h : passedAt delay start steps k <;> simp [h]

/-! ## Open calls -/

/-- A step leaves a call open if it makes the call, or if it is time that does not reach the
deadline. -/
lemma open_succ_iff {s : Step α} (h : steps[j]? = some s) :
    Open delay start steps i (j + 1) a ↔ (i = j ∧ s = .call a) ∨
      Open delay start steps i j a ∧ ∃ ms, s = .advance ms ∧
        clockAt start steps (j + 1) < clockAt start steps i + delay := by
  constructor
  · rintro ⟨hlt, hcall, hquiet⟩
    rcases Nat.lt_succ_iff_lt_or_eq.mp hlt with hij | rfl
    · obtain ⟨ms, hms, hclock⟩ := hquiet j hij (Nat.lt_succ_self j)
      refine .inr ⟨⟨hij, hcall, fun k hik hkj => hquiet k hik (by omega)⟩, ms, ?_, hclock⟩
      exact Option.some.inj (h.symm.trans hms)
    · exact .inl ⟨rfl, Option.some.inj (h.symm.trans hcall)⟩
  · rintro (⟨rfl, rfl⟩ | ⟨⟨hlt, hcall, hquiet⟩, ms, rfl, hclock⟩)
    · exact ⟨Nat.lt_succ_self i, h, fun k hik hki => by omega⟩
    · refine ⟨by omega, hcall, fun k hik hkj => ?_⟩
      rcases Nat.lt_succ_iff_lt_or_eq.mp hkj with hk | rfl
      · exact hquiet k hik hk
      · exact ⟨ms, h, hclock⟩

/-- At most one call is open. -/
lemma Open.unique (h : Open delay start steps i j a) (h' : Open delay start steps i' j a') :
    i = i' ∧ a = a' := by
  have hle : ∀ {i i' a a'}, Open delay start steps i j a → Open delay start steps i' j a' →
      i' ≤ i := by
    intro i i' a a' h h'
    by_contra hlt
    obtain ⟨ms, hms, -⟩ := h.quiet i' (by omega) h'.lt
    rw [h'.call] at hms
    cases hms
  obtain rfl : i = i' := Nat.le_antisymm (hle h' h) (hle h h')
  exact ⟨rfl, Step.call.inj (Option.some.inj (h.call.symm.trans h'.call))⟩

/-- The timer is armed iff a call is open, with the deadline of that call. -/
lemma armed_iff_open (hk : k ≤ steps.length) {deadline : ℕ} :
    (benchAt delay start steps k).timer.armed = some (deadline, a) ↔
      ∃ i, Open delay start steps i k a ∧ deadline = clockAt start steps i + delay := by
  induction k generalizing deadline a with
  | zero =>
    refine ⟨fun h => (by cases h), ?_⟩
    rintro ⟨i, ⟨hlt, -, -⟩, -⟩
    exact absurd hlt (Nat.not_lt_zero i)
  | succ k ih =>
    have hs : steps[k]? = some steps[k] := List.getElem?_eq_getElem hk
    obtain ⟨hnow, hdelay⟩ := benchAt_now_delay delay start (Nat.le_of_lt hk)
    rw [benchAt_succ hs]
    simp only [open_succ_iff hs]
    cases hstep : steps[k] with
    | call b =>
      simp [Bench.after, Bench.next, Debouncer.call, hnow, hdelay, eq_comm, and_comm]
    | cancel => simp [Bench.after, Bench.next, Debouncer.cancel]
    | flush => simp [Bench.after, Bench.next, Debouncer.flush, Debouncer.cancel]
    | advance ms =>
      have hclock : clockAt start steps (k + 1) = clockAt start steps k + ms := by
        rw [clockAt_succ hs, hstep]
        rfl
      rw [hclock, ← hnow]
      simp only [Bench.after, Bench.next, expire]
      cases harmed : (benchAt delay start steps k).timer.armed with
      | none =>
        simp only [harmed, reduceCtorEq, and_false, false_or, Step.advance.injEq, false_iff,
          not_exists, not_and]
        rintro i ⟨hopen, -⟩ -
        have := (ih (by omega)).mpr ⟨i, hopen, rfl⟩
        rw [harmed] at this
        cases this
      | some armed =>
        obtain ⟨deadline', b⟩ := armed
        dsimp only
        obtain ⟨i', hopen', rfl⟩ := (ih (by omega)).mp harmed
        have huniq : ∀ {i a}, Open delay start steps i k a → i = i' ∧ a = b := fun h =>
          h.unique hopen'
        split
        case isTrue hle =>
          simp only [Debouncer.cancel, reduceCtorEq, and_false, false_or, Step.advance.injEq,
            false_iff, not_exists, not_and]
          rintro i ⟨hopen, ms', rfl, hlt⟩ -
          obtain ⟨rfl, -⟩ := huniq hopen
          omega
        case isFalse hgt =>
          rw [harmed, Option.some.injEq, Prod.mk.injEq]
          constructor
          · rintro ⟨rfl, rfl⟩
            exact ⟨i', .inr ⟨hopen', ms, rfl, by omega⟩, rfl⟩
          · rintro ⟨i, ⟨-, hcall⟩ | ⟨hopen, -⟩, rfl⟩
            · cases hcall
            · obtain ⟨rfl, rfl⟩ := huniq hopen
              exact ⟨rfl, rfl⟩

/-! ## What a schedule shows -/

/-- A call settles once. -/
lemma Settles.unique (h : Settles delay start steps i j time a)
    (h' : Settles delay start steps i j' time' a') : j = j' ∧ time = time' ∧ a = a' := by
  have hle : ∀ {j j' time time' a a'}, Settles delay start steps i j time a →
      Settles delay start steps i j' time' a' → j' ≤ j := by
    intro j j' time time' a a' h h'
    by_contra hlt
    obtain ⟨ms, hms, hclock⟩ := h'.isOpen.quiet j h.isOpen.lt (by omega)
    cases h.ends with
    | flushed hflush =>
      rw [hflush] at hms
      cases hms
    | reached ms' _ hreach => omega
  obtain rfl : j = j' := Nat.le_antisymm (hle h' h) (hle h h')
  refine ⟨rfl, ?_, (h.isOpen.unique h'.isOpen).2⟩
  cases h.ends with
  | flushed hflush =>
    cases h'.ends with
    | flushed => rfl
    | reached ms hms =>
      rw [hflush] at hms
      cases hms
  | reached ms hms =>
    cases h'.ends with
    | flushed hflush =>
      rw [hflush] at hms
      cases hms
    | reached => rfl

/-- Only a flush and time pass a call on. -/
lemma Ends.step (h : Ends delay start steps i j time) :
    steps[j]? = some .flush ∨ ∃ ms, steps[j]? = some (.advance ms) := by
  cases h with
  | flushed h => exact .inl h
  | reached ms h => exact .inr ⟨ms, h⟩

lemma ends_flush_iff (h : steps[j]? = some .flush) :
    Ends delay start steps i j time ↔ time = clockAt start steps j := by
  constructor
  · rintro (_ | ⟨ms, hms, -⟩)
    · rfl
    · rw [h] at hms
      cases hms
  · rintro rfl
    exact .flushed h

lemma ends_advance_iff {ms : ℕ} (h : steps[j]? = some (.advance ms)) :
    Ends delay start steps i j time ↔ time = clockAt start steps i + delay ∧
      clockAt start steps i + delay ≤ clockAt start steps (j + 1) := by
  constructor
  · rintro (hflush | ⟨ms', -, hreach⟩)
    · rw [h] at hflush
      cases hflush
    · exact ⟨rfl, hreach⟩
  · rintro ⟨rfl, hreach⟩
    exact .reached ms h hreach

/-- A step passes on the call that settles in it. -/
lemma passedAt_eq_some_iff (hj : j < steps.length) :
    passedAt delay start steps j = some (time, a) ↔ ∃ i, Settles delay start steps i j time a := by
  have hs : steps[j]? = some steps[j] := List.getElem?_eq_getElem hj
  obtain ⟨hnow, -⟩ := benchAt_now_delay delay start (Nat.le_of_lt hj)
  have harmed : ∀ {deadline b}, (benchAt delay start steps j).timer.armed = some (deadline, b) ↔
      ∃ i, Open delay start steps i j b ∧ deadline = clockAt start steps i + delay :=
    armed_iff_open (Nat.le_of_lt hj)
  -- A call and a cancel pass nothing on, and no call settles in them.
  have hnone : (∀ ms, steps[j] ≠ .advance ms) → steps[j] ≠ .flush →
      ¬ ∃ i, Settles delay start steps i j time a := by
    rintro hadvance hflush ⟨i, -, hends⟩
    rcases hends.step with h | ⟨ms, h⟩
    · exact hflush (Option.some.inj (hs.symm.trans h))
    · exact hadvance ms (Option.some.inj (hs.symm.trans h))
  rw [passedAt, benchAt_succ hs]
  cases hstep : steps[j] with
  | call b => simpa [Bench.after, Bench.next, hstep] using hnone
  | cancel => simpa [Bench.after, Bench.next, hstep] using hnone
  | flush =>
    rw [hstep] at hs
    simp only [Bench.after, Bench.next, Debouncer.flush, Option.map_map, Option.map_eq_some_iff,
      Function.comp_apply, Prod.mk.injEq]
    constructor
    · rintro ⟨⟨deadline, b⟩, h, rfl, rfl⟩
      obtain ⟨i, hopen, -⟩ := harmed.mp h
      exact ⟨i, hopen, (ends_flush_iff hs).mpr hnow⟩
    · rintro ⟨i, hopen, hends⟩
      exact ⟨_, harmed.mpr ⟨i, hopen, rfl⟩, hnow.trans ((ends_flush_iff hs).mp hends).symm, rfl⟩
  | advance ms =>
    rw [hstep] at hs
    have hclock : (benchAt delay start steps j).now + ms = clockAt start steps (j + 1) := by
      rw [hnow, clockAt_succ hs]
      rfl
    simp only [Bench.after, Bench.next, expire, hclock]
    constructor
    · intro h
      cases hcalled : (benchAt delay start steps j).timer.armed with
      | none => simp [hcalled] at h
      | some armed =>
        obtain ⟨deadline, b⟩ := armed
        obtain ⟨i, hopen, rfl⟩ := harmed.mp hcalled
        simp only [hcalled] at h
        split at h
        case isTrue hle =>
          cases h
          exact ⟨i, hopen, (ends_advance_iff hs).mpr ⟨rfl, hle⟩⟩
        case isFalse => cases h
    · rintro ⟨i, hopen, hends⟩
      obtain ⟨rfl, hle⟩ := (ends_advance_iff hs).mp hends
      simp only [harmed.mpr ⟨i, hopen, rfl⟩, if_pos hle]

/-- A flush tells whether it passes a call on; no other step tells anything. -/
lemma toldAt_eq {s : Step α} (h : steps[j]? = some s) :
    toldAt delay start steps j =
      if s.isFlush then some (passedAt delay start steps j).isSome else none := by
  rw [toldAt, passedAt, benchAt_succ h]
  cases s <;> simp [Bench.after, Bench.next, Step.isFlush]

/-- A call is open after a step iff it is the last one and has neither been cancelled nor passed
on. -/
lemma exists_open_iff_waits (hj : j < steps.length) :
    (∃ a, Open delay start steps i (j + 1) a) ↔ Waits delay start steps i j := by
  constructor
  · rintro ⟨a, hopen⟩
    have hquiet : ∀ k, i < k → k ≤ j → ∃ ms, steps[k]? = some (.advance ms) ∧
        clockAt start steps (k + 1) < clockAt start steps i + delay :=
      fun k hik hkj => hopen.quiet k hik (Nat.lt_succ_of_le hkj)
    refine ⟨Nat.le_of_lt_succ hopen.lt, ⟨a, hopen.call⟩, fun k b hik hkj hcall => ?_,
      fun k hik hkj hcancel => ?_, fun k hik hkj => ?_⟩
    · obtain ⟨ms, hms, -⟩ := hquiet k hik hkj
      rw [hcall] at hms
      cases hms
    · obtain ⟨ms, hms, -⟩ := hquiet k hik hkj
      rw [hcancel] at hms
      cases hms
    · refine Option.eq_none_iff_forall_ne_some.mpr fun fired hfired => ?_
      obtain ⟨i', hopen', hends⟩ := (passedAt_eq_some_iff (by omega)).mp hfired
      obtain ⟨ms, hms, hclock⟩ := hquiet k hik hkj
      have hopenk : Open delay start steps i k a :=
        ⟨hik, hopen.call, fun m him hmk => hquiet m him (by omega)⟩
      obtain ⟨rfl, -⟩ := hopenk.unique hopen'
      have := ((ends_advance_iff hms).mp hends).2
      omega
  · intro h
    obtain ⟨a, hcall⟩ := h.call
    -- The call stays open from one step to the next, as no step cancels it or passes it on.
    have hopen : ∀ k, i ≤ k → k ≤ j → Open delay start steps i (k + 1) a := by
      intro k hik
      induction k, hik using Nat.le_induction with
      | base => exact fun _ => (open_succ_iff hcall).mpr (.inl ⟨rfl, rfl⟩)
      | succ k hik ih =>
        intro hkj
        have ho := ih (by omega)
        have hk : k + 1 < steps.length := by omega
        have hs : steps[k + 1]? = some steps[k + 1] := List.getElem?_eq_getElem hk
        have hnone := h.unfired (k + 1) (by omega) hkj
        have hfires : ∀ time, ¬ Ends delay start steps i (k + 1) time := by
          intro time hends
          rw [(passedAt_eq_some_iff hk).mpr ⟨i, ho, hends⟩] at hnone
          cases hnone
        refine (open_succ_iff hs).mpr (.inr ⟨ho, ?_⟩)
        cases hstep : steps[k + 1] with
        | call b => exact absurd (hstep ▸ hs) (h.last (k + 1) b (by omega) hkj)
        | cancel => exact absurd (hstep ▸ hs) (h.kept (k + 1) (by omega) hkj)
        | flush => exact absurd (.flushed (hstep ▸ hs)) (hfires _)
        | advance ms =>
          refine ⟨ms, rfl, ?_⟩
          by_contra hreach
          exact hfires _ (.reached ms (hstep ▸ hs) (Nat.le_of_not_lt hreach))
    exact ⟨a, hopen j h.le le_rfl⟩

/-- A call is pending iff the last one has neither been cancelled nor passed on. -/
lemma pendingAt_iff (hj : j < steps.length) :
    pendingAt delay start steps j ↔ ∃ i, Waits delay start steps i j := by
  simp only [← exists_open_iff_waits hj]
  rw [pendingAt, isPending, Option.isSome_iff_exists]
  constructor
  · rintro ⟨⟨deadline, a⟩, harmed⟩
    obtain ⟨i, hopen, -⟩ := (armed_iff_open hj).mp harmed
    exact ⟨i, a, hopen⟩
  · rintro ⟨i, a, hopen⟩
    exact ⟨_, (armed_iff_open hj).mpr ⟨i, hopen, rfl⟩⟩

/-- **A debouncer passes on the calls that settle.**  The log holds what the steps pass on, in the
order of the steps.  A step passes on a call iff the call settles in it: nothing but time that does
not reach the deadline comes between them, and then the step is a flush, and the callback carries
the time of the flush, or the step reaches the deadline, and the callback carries the deadline.
A call settles at most once, and the call that a step settles is the only one that it does.  A flush
tells whether it has passed a call on, and a call is pending iff the last one has neither been
cancelled nor passed on. -/
theorem passes_on_settled_calls (delay start : ℕ) (steps : List (Step α)) :
    log delay start steps = (List.range steps.length).filterMap (passedAt delay start steps) ∧
    (∀ (j : Fin steps.length) time a, passedAt delay start steps j = some (time, a) ↔
      ∃ i, Settles delay start steps i j time a) ∧
    (∀ i, {r : ℕ × ℕ × α | Settles delay start steps i r.1 r.2.1 r.2.2}.Subsingleton) ∧
    (∀ j : Fin steps.length, toldAt delay start steps j =
      if steps[j].isFlush then some (passedAt delay start steps j).isSome else none) ∧
    ∀ j : Fin steps.length, pendingAt delay start steps j ↔ ∃ i, Waits delay start steps i j := by
  refine ⟨log_benchAt le_rfl, fun j time a => passedAt_eq_some_iff j.2, ?_,
    fun j => toldAt_eq (List.getElem?_eq_getElem j.2), fun j => pendingAt_iff j.2⟩
  intro i r h r' h'
  obtain ⟨hstep, htime, hcall⟩ := Settles.unique h h'
  exact Prod.ext hstep (Prod.ext htime hcall)

/-- A call that comes before the deadline of the one before takes its place, a jump past a deadline
carries the deadline, and a flush is in time as long as no step has reached the deadline. -/
example : log 10 0 [.call 1, .advance 9, .call 2, .advance 50, .call 3, .advance 9, .flush] =
    [(19, 2), (68, 3)] := by decide

end BlockText.Debouncer

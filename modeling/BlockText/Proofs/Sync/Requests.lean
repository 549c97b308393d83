import Mathlib
import BlockText.Sync.Machine

/-!
# What becomes of requests

A machine that answers one call after another is followed by its `Trail`: the machine and the
answers so far. `Kept` says what the two have to do with the calls. What waits is tied to the past:
the text that waits, or else the last one that was handed out, is the last one that was requested,
and a request for a text of the blocks that has to be remembered waits or has been served. So once
nothing waits, nothing has been lost.
-/

namespace BlockText.SyncMachine

/-- A call of a machine. -/
inductive Call
  | text (source : String)
  | graph (coalesce : Bool)
  | finish
  deriving DecidableEq

/-- The text that a call requests to be shown. -/
def Call.source? : Call → Option String
  | text source => some source
  | _ => none

/-- The answer to a call: a job to run now, if there is one. -/
def answer (m : SyncMachine) : Call → Option SyncJob × SyncMachine
  | .text source => m.requestText source
  | .graph coalesce => m.requestGraph coalesce
  | .finish => m.finish

end SyncMachine

/-- The text that a job shows. -/
def SyncJob.source? : SyncJob → Option String
  | text source => some source
  | graph => none

namespace SyncMachine

/-! ## Trails -/

/-- A machine and the answers that it has given, in their order. -/
structure Trail where
  machine : SyncMachine := {}
  answers : List (Option SyncJob) := []

/-- The machine answers one more call. -/
def Trail.after (t : Trail) (c : Call) : Trail :=
  ⟨(t.machine.answer c).2, t.answers ++ [(t.machine.answer c).1]⟩

/-- A new machine answers calls. -/
def trail (calls : List Call) : Trail := calls.foldl Trail.after {}

/-- The jobs that are handed out. -/
def handedOut (calls : List Call) : List SyncJob := (trail calls).answers.filterMap id

/-- A job is said to have ended only while one runs. -/
def Fits (calls : List Call) : Prop :=
  ∀ k : Fin calls.length, calls[k] = .finish → (trail (calls.take k)).machine.busy = true

instance (calls : List Call) : Decidable (Fits calls) :=
  inferInstanceAs (Decidable (∀ _, _))

/-- Ending this many jobs in a row leaves the machine without a job. -/
def Drains (calls : List Call) (n : ℕ) : Prop :=
  Fits (calls ++ List.replicate n .finish) ∧
    (trail (calls ++ List.replicate n .finish)).machine.busy = false

instance (calls : List Call) (n : ℕ) : Decidable (Drains calls n) :=
  inferInstanceAs (Decidable (_ ∧ _))

variable {calls : List Call} {c : Call} {m : SyncMachine}

@[simp] lemma trail_nil : trail [] = {} := rfl

@[simp] lemma trail_concat (calls : List Call) (c : Call) :
    trail (calls ++ [c]) = (trail calls).after c := by
  rw [trail, List.foldl_append, List.foldl_cons, List.foldl_nil, trail]

@[simp] lemma length_answers (calls : List Call) : (trail calls).answers.length = calls.length := by
  induction calls using List.reverseRecOn with
  | nil => rfl
  | append_singleton calls c ih => simp [Trail.after, ih]

lemma handedOut_concat (calls : List Call) (c : Call) :
    handedOut (calls ++ [c]) = handedOut calls ++ ((trail calls).machine.answer c).1.toList := by
  rw [handedOut, trail_concat, Trail.after, List.filterMap_append, handedOut]
  cases ((trail calls).machine.answer c).1 <;> rfl

lemma fits_concat_iff :
    Fits (calls ++ [c]) ↔ Fits calls ∧ (c = .finish → (trail calls).machine.busy = true) := by
  constructor
  · intro h
    refine ⟨fun k hk => ?_, fun hc => ?_⟩
    · have hlast := h ⟨k, by simp⟩ (by simpa using hk)
      rwa [List.take_append_of_le_length k.2.le] at hlast
    · simpa using h ⟨calls.length, by simp⟩ (by simpa using hc)
  · rintro ⟨h, hc⟩ ⟨k, hk⟩ hfinish
    rw [List.length_append, List.length_singleton, Nat.lt_succ_iff_lt_or_eq] at hk
    rcases hk with hk | rfl
    · rw [List.take_append_of_le_length hk.le]
      exact h ⟨k, hk⟩ (by simpa [List.getElem_append_left hk] using hfinish)
    · simpa using hc (by simpa using hfinish)

/-- The answer with an index is that of the machine after the calls before it. -/
lemma answers_getElem? {k : ℕ} (h : calls[k]? = some c) :
    (trail calls).answers[k]? = some ((trail (calls.take k)).machine.answer c).1 := by
  induction calls using List.reverseRecOn with
  | nil => cases h
  | append_singleton calls d ih =>
    rw [trail_concat, Trail.after]
    rcases lt_or_ge k calls.length with hk | hk
    · rw [List.getElem?_append_left (by simpa using hk), List.take_append_of_le_length hk.le]
      exact ih (by rwa [List.getElem?_append_left hk] at h)
    · obtain rfl : k = calls.length := by
        have := (List.getElem?_eq_some_iff.mp h).1
        simp only [List.length_append, List.length_singleton] at this
        omega
      obtain rfl : d = c := by simpa using h
      rw [List.take_left]
      simp

/-! ## What a call keeps -/

/-- What the machine and its answers have to do with the calls. -/
structure Kept (calls : List Call) : Prop where
  /-- Nothing waits for nothing. -/
  idle : (trail calls).machine.busy = false →
    (trail calls).machine.pendingSource = none ∧ (trail calls).machine.pendingGraph = false
  /-- Every job but the running one has ended. -/
  balance : (handedOut calls).length =
    calls.count .finish + if (trail calls).machine.busy then 1 else 0
  /-- The newest text waits, or it was the last to be handed out. -/
  newest : (trail calls).machine.pendingSource.or ((handedOut calls).filterMap SyncJob.source?).getLast? =
    (calls.filterMap Call.source?).getLast?
  /-- A request that has to be remembered waits, or a job was handed out for it. -/
  served : ∀ i : ℕ, calls[i]? = some (.graph true) → (trail calls).machine.pendingGraph = true ∨
    ∃ j, i ≤ j ∧ (trail calls).answers[j]? = some (some .graph)

/-- One more request to be remembered waits or is served, and so do those before it. -/
lemma Kept.served_concat (h : Kept calls)
    (hgraph : (trail calls).machine.pendingGraph = true ∨ c = .graph true →
      ((trail calls).machine.answer c).2.pendingGraph = true ∨
        ((trail calls).machine.answer c).1 = some .graph) (i : ℕ)
    (hi : (calls ++ [c])[i]? = some (.graph true)) :
    (trail (calls ++ [c])).machine.pendingGraph = true ∨
      ∃ j, i ≤ j ∧ (trail (calls ++ [c])).answers[j]? = some (some .graph) := by
  rw [trail_concat]
  have hnew : i ≤ calls.length → ((trail calls).machine.answer c).1 = some .graph →
      ∃ j, i ≤ j ∧ ((trail calls).after c).answers[j]? = some (some .graph) := fun hle hjob =>
    ⟨calls.length, hle, by simp [Trail.after, hjob]⟩
  rcases lt_or_ge i calls.length with hlt | hge
  · rw [List.getElem?_append_left hlt] at hi
    rcases h.served i hi with hwaits | ⟨j, hij, hj⟩
    · exact (hgraph (.inl hwaits)).imp_right (hnew hlt.le)
    · refine .inr ⟨j, hij, ?_⟩
      rw [Trail.after, List.getElem?_append_left (List.getElem?_eq_some_iff.mp hj).1]
      exact hj
  · have hle : i ≤ calls.length := by
      have := (List.getElem?_eq_some_iff.mp hi).1
      simp only [List.length_append, List.length_singleton] at this
      omega
    obtain rfl := Nat.le_antisymm hle hge
    exact (hgraph (.inr (by simpa using hi))).imp_right (hnew le_rfl)

lemma kept_nil : Kept [] := ⟨fun _ => ⟨rfl, rfl⟩, rfl, rfl, nofun⟩

/-- A call keeps it if its answer does. -/
lemma Kept.concat_of_answer {job : Option SyncJob} {m : SyncMachine} (h : Kept calls)
    (hanswer : (trail calls).machine.answer c = (job, m))
    (hidle : m.busy = false → m.pendingSource = none ∧ m.pendingGraph = false)
    (hbalance : (if (trail calls).machine.busy then 1 else 0) + job.toList.length =
      [c].count .finish + if m.busy then 1 else 0)
    (hnewest : m.pendingSource.or (job.bind SyncJob.source?) =
      c.source?.or (trail calls).machine.pendingSource)
    (hgraph : (trail calls).machine.pendingGraph = true ∨ c = .graph true →
      m.pendingGraph = true ∨ job = some .graph) :
    Kept (calls ++ [c]) := by
  have hmachine : (trail (calls ++ [c])).machine = m := by rw [trail_concat, Trail.after, hanswer]
  have hjobs : handedOut (calls ++ [c]) = handedOut calls ++ job.toList := by
    rw [handedOut_concat, hanswer]
  refine ⟨by rwa [hmachine], ?_, ?_, h.served_concat (by rwa [hanswer])⟩
  · rw [hmachine, hjobs, List.length_append, List.count_append, h.balance]
    omega
  · have htexts : (job.toList.filterMap SyncJob.source?).getLast? = job.bind SyncJob.source? := by
      cases job with
      | none => rfl
      | some job => cases job <;> rfl
    have hcall : ([c].filterMap Call.source?).getLast? = c.source? := by cases c <;> rfl
    rw [hmachine, hjobs, List.filterMap_append, List.filterMap_append, List.getLast?_append,
      List.getLast?_append, htexts, hcall, ← h.newest, ← Option.or_assoc, hnewest, Option.or_assoc]

/-- One more call keeps it. -/
lemma Kept.concat (h : Kept calls) (hc : c = .finish → (trail calls).machine.busy = true) :
    Kept (calls ++ [c]) := by
  have hidle := h.idle
  cases c with
  | text source =>
    cases hbusy : (trail calls).machine.busy with
    | true => refine h.concat_of_answer (if_pos hbusy) ?_ ?_ ?_ ?_ <;> simp [hbusy, Call.source?]
    | false =>
      refine h.concat_of_answer (if_neg (by simp [hbusy])) ?_ ?_ ?_ ?_ <;>
        simp [hbusy, hidle hbusy, Call.source?, SyncJob.source?]
  | graph coalesce =>
    cases hbusy : (trail calls).machine.busy with
    | true =>
      refine h.concat_of_answer (if_pos hbusy) ?_ ?_ ?_ ?_ <;> cases coalesce <;>
        simp [hbusy, Call.source?]
    | false =>
      refine h.concat_of_answer (if_neg (by simp [hbusy])) ?_ ?_ ?_ ?_ <;>
        simp [hbusy, hidle hbusy, Call.source?, SyncJob.source?]
  | finish =>
    have hbusy := hc rfl
    have hanswer : (trail calls).machine.answer .finish = (trail calls).machine.finish := rfl
    unfold SyncMachine.finish at hanswer
    cases hsource : (trail calls).machine.pendingSource with
    | some source =>
      rw [hsource] at hanswer
      refine h.concat_of_answer hanswer ?_ ?_ ?_ ?_ <;>
        simp [hbusy, hsource, Call.source?, SyncJob.source?]
    | none =>
      rw [hsource] at hanswer
      cases hgraph : (trail calls).machine.pendingGraph with
      | true =>
        refine h.concat_of_answer (hanswer.trans (if_pos hgraph)) ?_ ?_ ?_ ?_ <;>
          simp [hbusy, hsource, Call.source?, SyncJob.source?]
      | false =>
        refine h.concat_of_answer (hanswer.trans (if_neg (by simp [hgraph]))) ?_ ?_ ?_ ?_ <;>
          simp [hbusy, hsource, hgraph, Call.source?]

/-- Calls that fit keep it. -/
lemma kept_of_fits (h : Fits calls) : Kept calls := by
  induction calls using List.reverseRecOn with
  | nil => exact kept_nil
  | append_singleton calls c ih =>
    obtain ⟨hfits, hc⟩ := fits_concat_iff.mp h
    exact (ih hfits).concat hc

/-! ## Draining -/

/-- A machine that is drained by so many ends is drained by one more from the call before. -/
lemma Drains.succ {n : ℕ} (h : Drains (calls ++ [.finish]) n) : Drains calls (n + 1) := by
  have heq : calls ++ [Call.finish] ++ List.replicate n .finish =
      calls ++ List.replicate (n + 1) .finish := by
    rw [List.append_assoc, List.singleton_append, List.replicate_succ]
  rwa [Drains, heq] at h

/-- A job that ends while others wait leaves one less, and the last one leaves the machine free. -/
lemma load_finish (hbusy : m.busy = true) :
    (m.finish.2.busy = true ∧ m.finish.2.load + 1 = m.load) ∨
      (m.finish.2.busy = false ∧ m.load = 0) := by
  unfold finish load
  cases m.pendingSource <;> cases m.pendingGraph <;> simp [hbusy]

/-- The jobs that wait and the one that runs end one after the other. -/
lemma drains_of_busy (hfits : Fits calls) (hbusy : (trail calls).machine.busy = true) :
    Drains calls ((trail calls).machine.load + 1) := by
  induction hload : (trail calls).machine.load generalizing calls with
  | zero =>
    refine Drains.succ ⟨?_, ?_⟩
    · simpa using fits_concat_iff.mpr ⟨hfits, fun _ => hbusy⟩
    · rcases load_finish hbusy with ⟨-, h⟩ | ⟨h, -⟩
      · omega
      · simpa [Trail.after, answer] using h
  | succ n ih =>
    rcases load_finish hbusy with ⟨h, hless⟩ | ⟨-, h⟩
    · refine Drains.succ (ih (fits_concat_iff.mpr ⟨hfits, fun _ => hbusy⟩) ?_ ?_)
      · simpa [Trail.after, answer] using h
      · simp only [trail_concat, Trail.after, answer]
        omega
    · omega

lemma load_le_two (m : SyncMachine) : m.load ≤ 2 := by
  unfold load
  split <;> split <;> omega

/-- **One job at a time, and nothing is lost.** Nothing waits while no job runs; of the jobs that
are handed out all but the running one have ended; ending jobs leaves the machine free after three
of them at most; and then the last text that was handed out is the last one that was requested, and
every request that has to be remembered is followed by a job that writes the blocks. Such a job
never comes before a text that waits. -/
theorem requests_are_served (h : Fits calls) :
    ((trail calls).machine.busy = false →
      (trail calls).machine.pendingSource = none ∧ (trail calls).machine.pendingGraph = false) ∧
    (handedOut calls).length = calls.count .finish + (if (trail calls).machine.busy then 1 else 0) ∧
    (∃ n ≤ 3, Drains calls n) ∧
    (∀ n, Drains calls n →
      ((handedOut (calls ++ List.replicate n .finish)).filterMap SyncJob.source?).getLast? =
        (calls.filterMap Call.source?).getLast? ∧
      ∀ i : ℕ, calls[i]? = some (.graph true) → ∃ j, i ≤ j ∧
        (trail (calls ++ List.replicate n .finish)).answers[j]? = some (some .graph)) ∧
    ∀ k : ℕ, calls[k]? = some .finish → (trail calls).answers[k]? = some (some .graph) →
      (trail (calls.take k)).machine.pendingSource = none := by
  have hkept := kept_of_fits h
  refine ⟨hkept.idle, hkept.balance, ?_, fun n hn => ?_, fun k hk hgraph => ?_⟩
  · cases hbusy : (trail calls).machine.busy with
    | false => exact ⟨0, by omega, by simpa [Drains] using ⟨h, hbusy⟩⟩
    | true => exact ⟨_, Nat.succ_le_succ (load_le_two _), drains_of_busy h hbusy⟩
  · have hdrained := kept_of_fits hn.1
    obtain ⟨hsource, hwaits⟩ := hdrained.idle hn.2
    constructor
    · have hends : (List.replicate n Call.finish).filterMap Call.source? = [] := by
        rw [List.filterMap_replicate]
        rfl
      have hnewest := hdrained.newest
      rwa [hsource, Option.none_or, List.filterMap_append, hends, List.append_nil] at hnewest
    · intro i hi
      have hi' : (calls ++ List.replicate n .finish)[i]? = some (.graph true) := by
        rwa [List.getElem?_append_left (List.getElem?_eq_some_iff.mp hi).1]
      refine (hdrained.served i hi').resolve_left ?_
      rw [hwaits]
      exact Bool.false_ne_true
  · rw [answers_getElem? hk, Option.some_inj] at hgraph
    simp only [answer, finish] at hgraph
    split at hgraph
    · cases hgraph
    · assumption

/-- While a text is shown, two more are requested with a text of the blocks between them: the newer
of the two is handed out first. -/
theorem requests_are_served_newest :
    Fits [.text "a", .text "b", .graph true, .text "c", .finish] ∧
    (∃ n ≤ 3, Drains [.text "a", .text "b", .graph true, .text "c", .finish] n) ∧
    ((handedOut ([.text "a", .text "b", .graph true, .text "c", .finish] ++
      List.replicate 2 .finish)).filterMap SyncJob.source?).getLast? = some "c" := by
  have hfits : Fits [.text "a", .text "b", .graph true, .text "c", .finish] := by decide
  obtain ⟨-, -, hdrains, hlast, -⟩ := requests_are_served hfits
  exact ⟨hfits, hdrains, (hlast 2 (by decide)).1⟩

end BlockText.SyncMachine

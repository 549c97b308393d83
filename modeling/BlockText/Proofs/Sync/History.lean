import BlockText.Proofs.Sync.Simulation

/-!
# The history of a session

The history of a session lists what has happened in it.  It leaves nothing out: the workspace, the
text, the events, and the texts that were read and kept can all be read off it (`recorded_run`).

What a session never does is said of its history: what must have come before a moment. A `Chronicle`
is a history in which that holds of every moment, and it remains one as long as it holds of the
moments that are added.
-/

namespace BlockText

namespace Moment

/-! ## What a moment changes -/

/-- The text after the moment. -/
def textAfter (before : String) : Moment → String
  | typed text | wrote text _ _ => text
  | _ => before

/-- The workspace after the moment. -/
def workspaceAfter (before : Workspace) : Moment → Workspace
  | drawn _ after | edited _ after => after
  | broken after => after
  | _ => before

/-- The event that is told. -/
def event? : Moment → Option SyncEvent
  | told e _ => some e
  | _ => none

/-- The text that is read. -/
def read? : Moment → Option String
  | called (.parse source) _ => some source
  | _ => none

/-- The text that is to be kept. -/
def kept? : Moment → Option String
  | called (.persist text) _ => some text
  | _ => none

/-- The text that somebody typed. -/
def typed? : Moment → Option String
  | typed text => some text
  | _ => none

/-- A job replaces the text or has one kept. -/
def Writes : Moment → Prop
  | wrote _ _ _ | called (.persist _) _ => True
  | _ => False

instance : DecidablePred Writes
  | .wrote _ _ _ | .called (.persist _) _ => isTrue trivial
  | .called (.parse _) _ | .called (.generate _ _) _ | .told _ _ | .drawn _ _ | .broken _
  | .edited _ _ | .typed _ => isFalse id

/-- While no job writes, the text is the one that was typed last, and none is kept. -/
lemma foldl_textAfter_of_not_writes {ms : List Moment} (h : ∀ m ∈ ms, ¬ m.Writes)
    (before : String) :
    ms.foldl textAfter before = (ms.filterMap typed?).getLast?.getD before ∧
      ms.filterMap kept? = [] := by
  induction ms using List.reverseRecOn with
  | nil => exact ⟨rfl, rfl⟩
  | append_singleton ms m ih =>
    simp only [List.forall_mem_append, List.forall_mem_singleton] at h
    obtain ⟨htext, hkept⟩ := ih h.1
    rw [List.foldl_append, List.filterMap_append, List.filterMap_append, htext, hkept]
    cases m with
    | wrote text replaced pending => exact absurd trivial h.2
    | called call content => cases call <;> simp_all [textAfter, typed?, kept?, Writes]
    | _ => simp [textAfter, typed?, kept?]

end Moment

/-! ## Conditions on the past -/

/-- Every moment of the history satisfies the condition on what came before it. -/
def Chronicle (Q : List Moment → Moment → Prop) (h : List Moment) : Prop :=
  ∀ earlier m later, h = earlier ++ m :: later → Q earlier m

section

variable {Q : List Moment → Moment → Prop} {h : List Moment} {m : Moment}

lemma chronicle_nil (Q : List Moment → Moment → Prop) : Chronicle Q [] := by
  intro earlier m later hsplit
  simp at hsplit

/-- One more moment has to satisfy the condition. -/
lemma chronicle_concat : Chronicle Q (h ++ [m]) ↔ Chronicle Q h ∧ Q h m := by
  constructor
  · refine fun hall => ⟨fun earlier m' later hsplit => hall earlier m' (later ++ [m]) ?_,
      hall h m [] rfl⟩
    rw [hsplit, List.append_assoc, List.cons_append]
  · rintro ⟨hall, hlast⟩ earlier m' later hsplit
    rcases List.eq_nil_or_concat later with rfl | ⟨later, m'', rfl⟩
    · obtain ⟨rfl, hm⟩ := List.append_inj' hsplit rfl
      exact List.singleton_inj.mp hm ▸ hlast
    · rw [List.concat_eq_append, ← List.cons_append, ← List.append_assoc] at hsplit
      exact hall earlier m' later (List.append_inj' hsplit rfl).1

end

/-- A history is cut at the first moment of some kind. -/
lemma exists_first {P : Moment → Prop} [DecidablePred P] {h : List Moment} (hP : ∃ m ∈ h, P m) :
    ∃ m, P m ∧ h = (h.takeWhile fun m => ¬ P m) ++ m :: (h.dropWhile fun m => ¬ P m).tail := by
  have hrest : (h.dropWhile fun m => ¬ P m) ≠ [] := by
    simpa [List.dropWhile_eq_nil_iff] using hP
  obtain ⟨m, rest, hm⟩ := List.exists_cons_of_ne_nil hrest
  have hhead := List.head?_dropWhile_not (fun m => decide ¬ P m) h
  have hsplit := List.takeWhile_append_dropWhile (p := fun m => ¬ P m) (l := h)
  rw [hm] at hhead hsplit
  exact ⟨m, by simpa using hhead, by rw [hm, List.tail_cons, hsplit]⟩

/-! ## The history leaves nothing out -/

namespace Ledger

/-- The moments are added to the history, and they tell all that is done. -/
structure Adds (l : Ledger) (ms : List Moment) (l' : Ledger) : Prop where
  history : l'.history = l.history ++ ms
  workspace : l'.workspace = ms.foldl Moment.workspaceAfter l.workspace
  content : l'.content = ms.foldl Moment.textAfter l.content
  events : l'.events = l.events ++ ms.filterMap Moment.event?
  parsed : l'.parsed = l.parsed ++ ms.filterMap Moment.read?
  persisted : l'.persisted = l.persisted ++ ms.filterMap Moment.kept?

variable {l l' l'' : Ledger} {as : List Act} {ms ms' : List Moment}

lemma Adds.refl (l : Ledger) : Adds l [] l := by
  constructor <;> simp

lemma Adds.trans (h : Adds l ms l') (h' : Adds l' ms' l'') : Adds l (ms ++ ms') l'' where
  history := by rw [h'.history, h.history, List.append_assoc]
  workspace := by rw [h'.workspace, h.workspace, List.foldl_append]
  content := by rw [h'.content, h.content, List.foldl_append]
  events := by rw [h'.events, h.events, List.filterMap_append, List.append_assoc]
  parsed := by rw [h'.parsed, h.parsed, List.filterMap_append, List.append_assoc]
  persisted := by rw [h'.persisted, h.persisted, List.filterMap_append, List.append_assoc]

/-- The service answers at some time while the acts are done. -/
def Serves (l : Ledger) (as : List Act) (language : LanguageService) : Prop :=
  language = l.language ∨ .served language ∈ as

/-- Blocks are edited by somebody, and a job breaks off only because a service reads a program that
cannot be shown. -/
def Explains (l : Ledger) (as : List Act) : Moment → Prop
  | .edited before after =>
    ∃ x, .edited x ∈ as ∧ after = { (x.run before).2 with events := [] }
  | .broken _ => ∃ language, l.Serves as language ∧ ¬ language.Buildable
  | _ => True

lemma Step.serves_of_serves {bs : List Act} (h : Step l as l') {language : LanguageService}
    (hl : l'.Serves bs language) : l.Serves (as ++ bs) language := by
  rcases hl with rfl | hserved
  · have hafter : l.Serves as l'.language :=
      h.serves (.inl rfl) fun language hlanguage => .inr hlanguage
    exact hafter.imp_right (List.mem_append_left bs)
  · exact .inr (List.mem_append_right as hserved)

/-- What is explained by later acts is explained by all acts. -/
lemma Step.explains {bs : List Act} (h : Step l as l') {m : Moment} (hm : l'.Explains bs m) :
    l.Explains (as ++ bs) m := by
  cases m with
  | edited before after =>
    obtain ⟨x, hx, hafter⟩ := hm
    exact ⟨x, List.mem_append_right as hx, hafter⟩
  | broken after =>
    obtain ⟨language, hserves, hlanguage⟩ := hm
    exact ⟨language, h.serves_of_serves hserves, hlanguage⟩
  | _ => trivial

/-- What is explained by the first acts is explained by all acts. -/
lemma Explains.append {m : Moment} (hm : l.Explains as m) (bs : List Act) :
    l.Explains (as ++ bs) m := by
  cases m with
  | edited before after =>
    obtain ⟨x, hx, hafter⟩ := hm
    exact ⟨x, List.mem_append_left bs hx, hafter⟩
  | broken after =>
    obtain ⟨language, hserves, hlanguage⟩ := hm
    exact ⟨language, hserves.imp_right (List.mem_append_left bs), hlanguage⟩
  | _ => trivial

section

-- What a moment tells is read off it in every case.
attribute [local simp] tell note Moment.workspaceAfter Moment.textAfter Moment.event? Moment.read?
  Moment.kept? List.filterMap_cons Explains Serves

/-- Every step tells what it does. -/
lemma Step.adds (h : Step l as l') : ∃ ms, Adds l ms l' ∧ ∀ m ∈ ms, l.Explains as m := by
  cases h with
  | @parse source h =>
    exact ⟨[.told (.started .textToGraph) l.workspace, .called (.parse source) l.content],
      by constructor <;> simp, by simp⟩
  | generate p h hp =>
    exact ⟨[.told (.started .graphToText) l.workspace,
      .called (.generate p l.content) l.content], by constructor <;> simp, by simp⟩
  | refuse message h =>
    exact ⟨[.told (.started .graphToText) l.workspace,
      .told (.failed .graphToText message) l.workspace], by constructor <;> simp, by simp⟩
  | keep text h hfresh hkept =>
    exact ⟨[.wrote text l.content l.machine.pendingSource, .called (.persist text) text],
      by constructor <;> simp, by simp⟩
  | write text h hfresh hkept =>
    exact ⟨[.wrote text l.content l.machine.pendingSource,
      .told (.done .graphToText true) l.workspace], by constructor <;> simp, by simp⟩
  | @finish drawn call e workspace h he hw hread hwritten =>
    cases call with
    | parse source =>
      refine ⟨drawn ++ [.told e workspace], ?_⟩
      rw [(hread source rfl).drawn]
      exact ⟨by constructor <;> simp, by simp⟩
    | generate p before =>
      obtain ⟨rfl, rfl, -⟩ := hwritten rfl
      exact ⟨[.told e l.workspace], by constructor <;> simp, by simp⟩
    | persist text =>
      obtain ⟨rfl, rfl, -⟩ := hwritten rfl
      exact ⟨[.told e l.workspace], by constructor <;> simp, by simp⟩
  | @crash drawn source workspace h hl hw hdrawn =>
    refine ⟨drawn ++ [.broken workspace], ?_⟩
    rcases hdrawn with rfl | rfl <;> exact ⟨by constructor <;> simp, by simpa using hl⟩
  | waitText h hq =>
    exact ⟨[.told (.coalesced .textToGraph) l.workspace], by constructor <;> simp, by simp⟩
  | waitGraph h hq =>
    exact ⟨[.told (.coalesced .graphToText) l.workspace], by constructor <;> simp, by simp⟩
  | dropGraph h hq =>
    exact ⟨[.told (.dropped .graphToText) l.workspace], by constructor <;> simp, by simp⟩
  | typed text => exact ⟨[.typed text], by constructor <;> simp, by simp⟩
  | replaced text => exact ⟨[.typed text], by constructor <;> simp, by simp⟩
  | edited x =>
    exact ⟨[.edited l.workspace { (x.run l.workspace).2 with events := [] }],
      by constructor <;> simp, by simp⟩
  | select e lines h =>
    exact ⟨[.told (.highlight e.block lines) l.workspace], by constructor <;> simp, by simp⟩
  | _ => exact ⟨[], by constructor <;> simp, by simp⟩

end

lemma Steps.adds (h : Steps as l l') : ∃ ms, Adds l ms l' ∧ ∀ m ∈ ms, l.Explains as m := by
  induction h with
  | refl l => exact ⟨[], Adds.refl l, by simp⟩
  | head hstep _ ih =>
    obtain ⟨ms, hms, hfirst⟩ := hstep.adds
    obtain ⟨ms', hms', hlater⟩ := ih
    refine ⟨ms ++ ms', hms.trans hms', fun m hm => ?_⟩
    rcases List.mem_append.mp hm with hm | hm
    · exact (hfirst m hm).append _
    · exact hstep.explains (hlater m hm)

end Ledger

namespace Session

/-- All that has been done in a run can be read off the history.  In it, blocks are edited just by
the edits among the moves, and jobs break off only because of services that read programs that
cannot be shown. -/
theorem recorded_run (settings : Settings) (language : LanguageService) (text : String)
    (isPersistent : Bool) (moves : List Move) :
    Ledger.Adds (new settings language text isPersistent).view
        ((new settings language text isPersistent).run moves).history
        ((new settings language text isPersistent).run moves).view ∧
      (∀ before after,
        .edited before after ∈ ((new settings language text isPersistent).run moves).history →
        ∃ x, .edit x ∈ moves ∧ after = { (x.run before).2 with events := [] }) ∧
      ∀ after, .broken after ∈ ((new settings language text isPersistent).run moves).history →
        ∃ language', (language' = language ∨ .serve language' ∈ moves) ∧
          ¬ language'.Buildable := by
  have hsteady := steady_new settings language text isPersistent
  obtain ⟨ms, hms, hexplains⟩ := (steps_run hsteady moves).adds
  have hhistory : ((new settings language text isPersistent).run moves).history = ms := hms.history
  rw [hhistory]
  refine ⟨hms, fun before after hm => ?_, fun after hm => ?_⟩
  · obtain ⟨x, hx, hafter⟩ := hexplains _ hm
    exact ⟨x, edit_of_mem_acts hx, hafter⟩
  · obtain ⟨language', hserves, hlanguage⟩ := hexplains _ hm
    exact ⟨language', hserves.imp_right serve_of_mem_acts, hlanguage⟩

end Session

end BlockText

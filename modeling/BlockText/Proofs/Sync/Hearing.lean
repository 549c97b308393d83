import BlockText.Proofs.Sync.Edits
import BlockText.Proofs.Workspace.Naming

/-!
# Which edits are heard

An edit that changes a field writes it first and tells of it afterwards. The session is told only if
the declared names can be listed then. If they cannot, setting the field fails although the field is
written, no job is requested, and so it is with every edit until the names can be listed again.
-/

namespace BlockText

namespace Session

variable {s : Session}

/-- Operations and jobs leave events switched on and followed. -/
lemma followed_run (hs : s.view.Steady) (hfollowed : s.workspace.Followed) {moves : List Move}
    (hedits : ∀ x, .edit x ∈ moves → ∃ op : Operation, x = op.edit) :
    (s.run moves).workspace.Followed := by
  refine (steps_run hs moves).upholds Edit.showSteps_followed (fun x hx ws hws => ?_) hfollowed
  obtain ⟨op, rfl⟩ := hedits x (edit_of_mem_acts hx)
  have hrun := ((Edit.heeds_listening.edit op) ws hws).run
  exact ⟨hrun.muted, hrun.watched⟩

/-- The session after an edit of its blocks that has not been told. -/
def edited (s : Session) (x : Edit Unit) : Session :=
  ({ s with workspace := { (x.run s.workspace).2 with events := [] } } : Session).note
    (.edited s.workspace { (x.run s.workspace).2 with events := [] })

/-- How setting a field of a block of a session ends. -/
structure FieldHeard (s : Session) (x : Edit Unit) (old : Option Datum) (d : Datum) : Prop where
  /-- An equal value changes nothing. -/
  same : old.any (·.equiv d) = true →
    (s.edited x).workspace = s.workspace ∧ s.edit x = (.ok (), s.edited x)
  /-- A job is requested if all names can be listed afterwards. -/
  heard : old.any (·.equiv d) = false → (s.edited x).workspace.Nameable →
    s.edit x = (.ok (), (s.edited x).graphChanged)
  /-- Otherwise setting the field fails, although the field is written, and nothing is requested. -/
  unheard : old.any (·.equiv d) = false → ¬ (s.edited x).workspace.Nameable →
    ∃ f, s.edit x = (.error (.fault f), s.edited x)

private lemma fieldHeard (hs : s.view.Steady) (hm : s.workspace.Measured)
    (hfollowed : s.workspace.Followed) {id : BlockId} {b : Block} {name : String} {value d : Datum}
    (hb : s.workspace.block? id = some b) (hd : b.type.taken? name value = some d) :
    s.FieldHeard (Edit.setField id name value) (b.field? name) d := by
  generalize hx : Edit.setField id name value = x
  have hset : Edit.FieldSet s.workspace (b.field? name) d (x.run s.workspace).1
      (x.run s.workspace).2 := hx ▸ Edit.fieldSet_setField hm hfollowed hb hd
  have hdelivered : s.workspace.events = [] := hs.delivered
  have hedit : s.edit x = ((x.run s.workspace).1,
      (x.run s.workspace).2.events.foldl follow (s.edited x)) :=
    Prod.ext rfl (edit_eq hs.isAttached x)
  have hnames : (s.edited x).workspace.Nameable ↔ (x.run s.workspace).2.Nameable :=
    Workspace.nameable_congr ⟨rfl, rfl, rfl, rfl⟩
  have hedited : (s.edited x).workspace = { (x.run s.workspace).2 with events := [] } := rfl
  obtain ⟨r, hr⟩ : ∃ r, (x.run s.workspace).1 = r := ⟨_, rfl⟩
  obtain ⟨ws', hws'⟩ : ∃ ws', (x.run s.workspace).2 = ws' := ⟨_, rfl⟩
  rw [hr, hws'] at hset hedit
  rw [hws'] at hnames hedited
  cases hset with
  | same hold =>
    refine ⟨fun _ => ⟨?_, ?_⟩, fun hnew => by simp [hold] at hnew, fun hnew => by simp [hold] at hnew⟩
    · rw [hedited, ← hdelivered]
    · rw [hedit, hdelivered]
      rfl
  | heard e _ hold hnameable he hevents =>
    refine ⟨fun hsame => by simp [hold] at hsame, fun _ _ => ?_,
      fun _ hnot => absurd (hnames.mpr hnameable) hnot⟩
    rw [hedit, hevents, hdelivered]
    simp [follow, he, EventType.isCosmetic]
  | unheard f _ hold hnot hevents =>
    refine ⟨fun hsame => by simp [hold] at hsame,
      fun _ hnameable => absurd (hnames.mp hnameable) hnot, fun _ _ => ⟨f, ?_⟩⟩
    rw [hedit, hevents, hdelivered]
    rfl

/-- In every run whose edits are operations, setting a field of a block to a value that the block
takes succeeds exactly if the field holds an equal value or all names can be listed afterwards, and
a change is heard and a job requested exactly in the second case.  So it is with every event that
reports a change: it is delivered exactly if all names can be listed. -/
theorem setField_heard_iff (settings : Settings) (language : LanguageService) (text : String)
    (isPersistent : Bool) (moves : List Move)
    (hedits : ∀ x, .edit x ∈ moves → ∃ op : Operation, x = op.edit) :
    let s := (new settings language text isPersistent).run moves
    (∀ id b name value d, s.workspace.block? id = some b → b.type.taken? name value = some d →
      s.FieldHeard (Edit.setField id name value) (b.field? name) d) ∧
    s.workspace.Measured ∧ s.workspace.Followed ∧
    ∀ ws : Workspace, ws.Measured → ws.Followed → ∀ e : Event, e.type.isCosmetic = false →
      Edit.Heard ws e ((Edit.fire e.type e.block e.details).run ws).1
        ((Edit.fire e.type e.block e.details).run ws).2 := by
  intro s
  have hnew := steady_new settings language text isPersistent
  have hmeasured : s.workspace.Measured := measured_run hnew (List.forall_mem_nil _) hedits
  have hfollowed : s.workspace.Followed := followed_run hnew ⟨rfl, rfl⟩ hedits
  refine ⟨fun id b name value d hb hd => ?_, hmeasured, hfollowed, fun ws hm hws e he =>
    Edit.heard_fire hm hws he e.block e.details⟩
  exact fieldHeard ((steps_run hnew moves).steady hnew) hmeasured hfollowed hb hd

/-- The user creates an assignment to a variable. -/
def assignmentMove : Move := .edit (Operation.create "stmt_var_set" none {}).edit

/-- A variable can be named by a text.  If it is named by a list, the name is written but nobody
hears of it. -/
theorem setField_heard_iff_list :
    let s := (new {} .sample).run [assignmentMove]
    (∃ b, s.workspace.block? "n1" = some b ∧ b.type = .varSet ∧
      (b.field? "name").any (·.equiv "y") = false ∧
      (b.field? "name").any (·.equiv (.list [.int 1])) = false) ∧
    s.edit (Edit.setField "n1" "name" "y") =
      (.ok (), (s.edited (Edit.setField "n1" "name" "y")).graphChanged) ∧
    ∃ f, s.edit (Edit.setField "n1" "name" (.list [.int 1])) =
      (.error (.fault f), s.edited (Edit.setField "n1" "name" (.list [.int 1]))) := by
  intro s
  obtain ⟨b, hb, htype, htext, hlist⟩ : ∃ b, s.workspace.block? "n1" = some b ∧ b.type = .varSet ∧
      (b.field? "name").any (·.equiv "y") = false ∧
      (b.field? "name").any (·.equiv (.list [.int 1])) = false :=
    ⟨_, rfl, rfl, rfl, rfl⟩
  have htaken : ∀ d : Datum, b.type.taken? "name" d = some d := fun d => by rw [htype]; rfl
  have hheard := (setField_heard_iff {} .sample "" true [assignmentMove] (by
    rintro x hx
    obtain rfl : x = _ := by simpa [assignmentMove] using hx
    exact ⟨_, rfl⟩)).1
  refine ⟨⟨b, hb, htype, htext, hlist⟩, ?_, ?_⟩
  · refine (hheard "n1" b "name" "y" "y" hb (htaken _)).heard htext ⟨.inl ?_, .inl ?_⟩
    · rintro d hd -
      obtain rfl := List.mem_singleton.mp hd
      exact Datum.exists_ofPoints "y"
    · exact List.forall_mem_nil _
  · refine (hheard "n1" b "name" (.list [.int 1]) _ hb (htaken _)).unheard hlist fun h => ?_
    rcases h.ofVariables with htexts | hnumbers
    · have htext := Datum.isText_iff.mpr (htexts (.list [.int 1]) List.mem_cons_self rfl)
      cases htext
    · cases hnumbers (.list [.int 1]) List.mem_cons_self rfl

end Session

end BlockText

import BlockText.Proofs.Sync.Texts

/-!
# Where edits of the blocks go

An edit that changes the blocks asks for a job that writes them.  The request waits at its timer, in
the queue, as a mark in the machine, or in a job that is about to begin, and many edits can share
one.  While requests that meet a running job are kept (`Settings.coalesceGraph`), a session `Owes`
the job until one begins: no text that is shown in between makes it forget.  The job compiles the
blocks right when it begins, so it sees the edit.
-/

namespace BlockText

open Syntax

namespace Ledger

variable {l l' l'' : Ledger} {as bs : List Act}

lemma Step.coalesce (h : Step l as l') : l'.coalesce = l.coalesce := by cases h <;> rfl

/-! ## Runs -/

lemma Steps.coalesce (h : Steps as l l') : l'.coalesce = l.coalesce := by
  induction h with
  | refl l => rfl
  | head hstep _ ih => exact ih.trans hstep.coalesce

/-- What jobs and edits uphold holds of the workspace all the time. -/
lemma Steps.upholds {P Q : Workspace → Prop} (hshow : Edit.ShowSteps P Q) (h : Steps as l l')
    (hedit : ∀ x, .edited x ∈ as → ∀ ws, P ws → P { (x.run ws).2 with events := [] })
    (hl : P l.workspace) : P l'.workspace := by
  induction h with
  | refl l => exact hl
  | head hstep _ ih =>
    refine ih (fun x hx => hedit x (List.mem_append_right _ hx)) ?_
    cases hstep with
    | finish _ _ _ hw | crash _ _ _ hw => exact hw.upholds hshow hl
    | edited x => exact hedit x (by simp) _ hl
    | _ => exact hl

end Ledger

namespace Session

variable {s : Session}

/-- Operations and jobs leave measured blocks. -/
lemma measured_run (hs : s.view.Steady) (hmeasured : s.workspace.Measured) {moves : List Move}
    (hedits : ∀ x, .edit x ∈ moves → ∃ op : Operation, x = op.edit) :
    (s.run moves).workspace.Measured := by
  refine (steps_run hs moves).upholds Edit.showSteps_measured (fun x hx ws hws => ?_) hmeasured
  obtain ⟨op, rfl⟩ := hedits x (edit_of_mem_acts hx)
  exact (op.keepsMeasured_edit ws hws).run

/-- A text is being read. -/
def readingMoves : List Move := [.hold .parse, .write "a" .user, .textTimer, .startNext]

/-- The user creates a block. -/
def createMove : Move := .edit (Operation.create "stmt_pass" none {}).edit

end Session

end BlockText

import BlockText.Proofs.Compile.Mirrors
import BlockText.Proofs.Render.Bare

/-!
# Only visible structure counts

What is read off a workspace depends on the types, the fields and the connections of its blocks, and
without a start block on the order of the loose statements.  Two workspaces that mirror each other
both give programs, which differ in their identities only and have one text, or both are refused for
the same reason.  In particular it does not matter in which order blocks were created or connected,
how they are named, and with a start block where they lie.
-/

namespace BlockText

open Syntax Compile

namespace Compile

/-! ## Empty lines -/

lemma isDefinition_bare (s : Stmt) : isDefinition s.bare = isDefinition s := by
  cases s <;> rfl

lemma agree_emptyLine : Agree Stmt.bare emptyLine emptyLine :=
  agree_freshInfo.bind fun i i' hi => agree_pure (by simp only [Stmt.bare, hi])

lemma agree_spaced (afterDefinition : Option Bool) {ss ss' : List Stmt}
    (h : ss.map Stmt.bare = ss'.map Stmt.bare) :
    Agree (List.map Stmt.bare) (spaced afterDefinition ss) (spaced afterDefinition ss') := by
  induction ss generalizing ss' afterDefinition with
  | nil =>
    obtain rfl := List.map_eq_nil_iff.mp h.symm
    exact agree_pure rfl
  | cons s rest ih =>
    cases ss' with
    | nil => cases h
    | cons s' rest' =>
      obtain ⟨hs, hrest⟩ := List.cons.inj h
      have hdefinition : isDefinition s = isDefinition s' := by
        rw [← isDefinition_bare, hs, isDefinition_bare]
      have hgap : ∀ gap gap', gap.map Stmt.bare = gap'.map Stmt.bare → Agree (List.map Stmt.bare)
          (do return gap ++ s :: (← spaced (some (isDefinition s)) rest))
          (do return gap' ++ s' :: (← spaced (some (isDefinition s')) rest')) := by
        intro gap gap' hgap
        rw [hdefinition]
        refine (ih _ hrest).bind fun as as' has => agree_pure ?_
        simp only [List.map_append, List.map_cons, hgap, hs, has]
      unfold spaced
      cases afterDefinition with
      | none => exact hgap [] [] rfl
      | some before =>
        simp only [hdefinition] at hgap ⊢
        split
        · refine agree_emptyLine.bind fun a a' ha => agree_emptyLine.bind fun b b' hb => ?_
          exact hgap [a, b] [a', b'] (by simp only [List.map_cons, List.map_nil, ha, hb])
        · exact hgap [] [] rfl

end Compile

/-! ## Programs -/

namespace Workspace.Mirrors

variable {ws ws' : Workspace} {φ : BlockId → BlockId} (h : ws.Mirrors ws' φ) (hw : ws.Forest)
  (hw' : ws'.Forest) (hm : ws.Measured) (hm' : ws'.Measured)
include h hw hw' hm hm'

lemma agree_statements {o : Option BlockId} (ho : ∀ id, o = some id → ws.has id) :
    Agree (List.map Stmt.bare) (statements (ws.tree o) 0 none)
      (statements (ws'.tree (o.map φ)) 0 none) :=
  (readAlike_of_resembles (h.tree_resembles hw hw' hm hm' ho)).statements 0 rfl

/-- With a start block, nothing else may be loose. -/
private lemma agree_start {entry : BlockId} (hentry : ws.has entry) :
    Agree (List.map Stmt.bare)
      (do
        if let (id, b) :: _ := looseStatements ws then
          reject .strayTopLevel s!"'{b.type.name}' is not attached to the program" id
        statements (ws.tree (ws.held? entry "BODY")) 0 none)
      (do
        if let (id, b) :: _ := looseStatements ws' then
          reject .strayTopLevel s!"'{b.type.name}' is not attached to the program" id
        statements (ws'.tree (ws'.held? (φ entry) "BODY")) 0 none) := by
  have hloose := h.loose_perm hw hw'
  have hbody : ∀ id, ws.held? entry "BODY" = some id → ws.has id := by
    intro id hid
    obtain ⟨e, he, rfl, -⟩ := hw.under_of_held? (by decide) hid
    exact hw.has_child he
  rw [h.held?_rename hw hw' hentry (by decide)]
  unfold loose at hloose
  match hl : looseStatements ws, hl' : looseStatements ws' with
  | [], [] => exact h.agree_statements hw hw' hm hm' hbody
  | _ :: _, _ :: _ => exact agree_reject_bind _ _ _ _ _
  | [], _ :: _ | _ :: _, [] => simp [hl, hl'] at hloose

/-- Without a start block, all that is loose is read. -/
private lemma agree_loose (hstart : ws.ofType .start = []) :
    Agree (List.map Stmt.bare)
      (do
        let chains ← (looseStatements ws).mapM fun x => statements (ws.tree (some x.1)) 0 none
        return chains.flatten)
      (do
        let chains ← (looseStatements ws').mapM fun x => statements (ws'.tree (some x.1)) 0 none
        return chains.flatten) := by
  have hnames : ∀ ws : Workspace,
      ((looseStatements ws).mapM fun x => statements (ws.tree (some x.1)) 0 none) =
        ws.loose.mapM fun id => statements (ws.tree (some id)) 0 none := fun ws => by
    rw [loose, List.mapM_map]
    rfl
  rw [hnames, hnames, h.loose_rename hw hw' hstart, List.mapM_map]
  have hchain : ∀ id ∈ ws.loose, Agree (List.map Stmt.bare) (statements (ws.tree (some id)) 0 none)
      (statements (ws'.tree (some (φ id))) 0 none) := by
    intro id hid
    obtain ⟨b, hb, -⟩ := mem_loose_iff.mp hid
    exact h.agree_statements hw hw' hm hm' fun y hy => Option.some.inj hy ▸ has_of_block? hb
  refine (agree_mapM hchain).bind fun chains chains' hchains => agree_pure ?_
  rw [List.map_flatten, List.map_flatten, hchains]

/-- The statements of both workspaces are read in agreement. -/
theorem agree_topStatements :
    Agree (List.map Stmt.bare) (topStatements ws) (topStatements ws') := by
  have hsync := h.ofType_perm hw hw' .syncError
  have hstart := h.ofType_perm hw hw' .start
  unfold topStatements
  match hs : ws.ofType .syncError, hs' : ws'.ofType .syncError with
  | _ :: _, _ :: _ => exact agree_reject_bind _ _ _ _ _
  | [], _ :: _ | _ :: _, [] => simp [hs, hs'] at hsync
  | [], [] =>
    dsimp only
    match ht : ws.ofType .start with
    | [] =>
      rw [ht, List.map_nil, List.nil_perm] at hstart
      rw [hstart]
      exact h.agree_loose hw hw' hm hm' ht
    | [entry] =>
      rw [ht, List.map_singleton, List.singleton_perm] at hstart
      rw [← hstart]
      obtain ⟨b, hb, -⟩ := hw.mem_ofType_iff.mp (ht ▸ List.mem_singleton_self entry)
      exact h.agree_start hw hw' hm hm' (has_of_block? hb)
    | _ :: _ :: _ =>
      match ht' : ws'.ofType .start with
      | _ :: _ :: _ => exact agree_reject _ _ _ _ _
      | [] | [_] => simpa [ht, ht'] using hstart.length_eq

/-- The programs of both workspaces are read in agreement. -/
theorem agree_program (indentWidth : ℤ) :
    Agree Program.bare (program ws indentWidth) (program ws' indentWidth) := by
  refine (h.agree_topStatements hw hw' hm hm').bind fun ss ss' hss =>
    (agree_spaced none hss).bind fun as as' has => agree_freshInfo.bind fun i i' hi =>
    agree_pure ?_
  simp only [Program.bare, Suite.bare, has, hi]

end Workspace.Mirrors

namespace Workspace

/-- Whatever the counters of identities are, two reachable workspaces of one structure both give
programs, which differ in their identities only and have the same text, or both are refused for the
same reason. -/
theorem compile_of_mirrors {ws ws' : Workspace} {φ : BlockId → BlockId} (hws : ws.Reachable)
    (hws' : ws'.Reachable) (h : ws.Mirrors ws' φ) (counter counter' : IdCounter)
    (indentWidth : ℤ) :
    match (ws.compile counter indentWidth).1, (ws'.compile counter' indentWidth).1 with
    | .ok p, .ok p' => p.bare = p'.bare ∧ ∀ mode, p.render mode = p'.render mode
    | .error e, .error e' => e.reason = e'.reason
    | _, _ => False := by
  have hagree := h.agree_program hws.forest hws'.forest hws.measured hws'.measured indentWidth
    counter counter'
  unfold compile
  revert hagree
  generalize ((program ws indentWidth).run counter).1 = r
  generalize ((program ws' indentWidth).run counter').1 = r'
  intro hagree
  cases r <;> cases r' <;> simp only [outcome, Except.ok.injEq, Except.error.injEq] at hagree
  case ok.ok p p' =>
    refine ⟨hagree, fun mode => ?_⟩
    rw [← Program.render_bare, hagree, Program.render_bare]
  case error.error => exact hagree
  all_goals cases hagree

/-! ### An example -/

/-- A block that prints is created first, and a block that breaks a loop is created last. -/
def printFirst (p q : Point) : Workspace :=
  Operation.applyAll {} [.create "stmt_print" none p, .create "expr_none" none {},
    .connectValue "n1" "VALUE" "n2", .create "stmt_break" none q]

/-- The same blocks in the same places, created in the other order. -/
def breakFirst (p q : Point) : Workspace :=
  Operation.applyAll {} [.create "stmt_break" none q, .create "expr_none" none {},
    .create "stmt_print" none p, .connectValue "n3" "VALUE" "n2"]

/-- The names of these blocks in the other order. -/
def swapEnds (id : BlockId) : BlockId :=
  if id = "n1" then "n3" else if id = "n3" then "n1" else id

/-- The text of the program of a workspace, if there is one. -/
def text? (ws : Workspace) : Option String :=
  (ws.compile {} 4).1.toOption.bind fun p => (p.render .pretty).toOption

lemma printFirst_reachable (p q : Point) : (printFirst p q).Reachable := ⟨false, 0, _, rfl⟩

lemma breakFirst_reachable (p q : Point) : (breakFirst p q).Reachable := ⟨false, 0, _, rfl⟩

/-- Blocks without fields all have the same fields. -/
private lemma renames_of_fieldless {ws ws' : Workspace} {φ : BlockId → BlockId}
    (hids : (ws.ids.map φ).Perm ws'.ids)
    (htypes : ∀ entry ∈ ws.blocks, (ws'.block? (φ entry.1)).map (·.type) = some entry.2.type)
    (hfields : ∀ entry ∈ ws.blocks ++ ws'.blocks, entry.2.fields.isEmpty)
    (hedges : ws'.edges = ws.edges.map (Edge.rename φ)) : ws.Renames ws' φ where
  ids := hids
  type id b b' hb hb' := by
    have htype := htypes _ (mem_of_entryAt? hb)
    rwa [hb', Option.map_some, Option.some.injEq] at htype
  field? id b b' hb hb' name := by
    have hb := hfields _ (List.mem_append_left _ (mem_of_entryAt? hb))
    have hb' := hfields _ (List.mem_append_right _ (mem_of_entryAt? hb'))
    rw [Block.field?, Block.field?, List.isEmpty_iff.mp hb, List.isEmpty_iff.mp hb']
  edges e := by rw [hedges, List.mem_map]

/-- With the block that prints above the other one, the order of creation does not matter. -/
lemma printFirst_mirrors : (printFirst {} ⟨0, 1⟩).Mirrors (breakFirst {} ⟨0, 1⟩) swapEnds where
  toRenames := renames_of_fieldless (by decide +kernel) (by decide +kernel) (by decide +kernel)
    (by decide +kernel)
  order _ := by
    have hloose : (printFirst {} ⟨0, 1⟩).loose = ["n1", "n3"] := by cbv
    rw [hloose]
    decide +kernel

/-- Both workspaces of the example give a program with the same text. -/
theorem compile_of_mirrors_sample :
    (printFirst {} ⟨0, 1⟩).Reachable ∧ (breakFirst {} ⟨0, 1⟩).Reachable ∧
      (printFirst {} ⟨0, 1⟩).Mirrors (breakFirst {} ⟨0, 1⟩) swapEnds ∧
      (printFirst {} ⟨0, 1⟩).text? = some "print(None)\nbreak\n" ∧
      match ((printFirst {} ⟨0, 1⟩).compile {} 4).1, ((breakFirst {} ⟨0, 1⟩).compile ⟨7⟩ 4).1 with
      | .ok p, .ok p' => p.bare = p'.bare ∧ ∀ mode, p.render mode = p'.render mode
      | .error e, .error e' => e.reason = e'.reason
      | _, _ => False :=
  ⟨printFirst_reachable _ _, breakFirst_reachable _ _, printFirst_mirrors, by cbv,
    compile_of_mirrors (printFirst_reachable _ _) (breakFirst_reachable _ _) printFirst_mirrors
      {} ⟨7⟩ 4⟩

/-- With both blocks at one place, a renaming keeps types, fields, connections and the order of
places, but the texts differ: the block that was created first comes first. -/
theorem text_depends_on_creation_at_one_place :
    (printFirst {} {}).Reachable ∧ (breakFirst {} {}).Reachable ∧
      (printFirst {} {}).Renames (breakFirst {} {}) swapEnds ∧
      (∀ a ∈ (printFirst {} {}).loose, ∀ b ∈ (printFirst {} {}).loose,
        ((printFirst {} {}).position a).before ((printFirst {} {}).position b) =
          ((breakFirst {} {}).position (swapEnds a)).before
            ((breakFirst {} {}).position (swapEnds b))) ∧
      (printFirst {} {}).text? = some "print(None)\nbreak\n" ∧
      (breakFirst {} {}).text? = some "break\nprint(None)\n" := by
  have hloose : (printFirst {} {}).loose = ["n1", "n3"] := by cbv
  refine ⟨printFirst_reachable _ _, breakFirst_reachable _ _, ?_, ?_, by cbv, by cbv⟩
  · exact renames_of_fieldless (by decide +kernel) (by decide +kernel) (by decide +kernel)
      (by decide +kernel)
  · rw [hloose]
    decide +kernel

end Workspace

end BlockText

import BlockText.Proofs.Compile.Identities
import BlockText.Proofs.Workspace.Operations

/-!
# Uses of a counter

A counter of identities is moved past the identities in documents, hands out single identities and
numbers programs that are read off blocks. Whatever it is used for, it does not go back, what it
hands out comes after all that it has seen, and it has seen what it hands out and what it was moved
past. So no identity comes twice, in one program or in two, and none is that of a node in a document
that came before (`identities_fresh`).
-/

namespace BlockText.IdCounter

open Datum Syntax

/-- What a counter is used for. -/
inductive Use
  /-- It is moved past the identities in a document. -/
  | reconcile (document : Datum)
  /-- An identity is handed out. -/
  | fresh
  /-- A program is read off blocks. -/
  | compile (ws : Workspace) (indentWidth : ℤ)

/-- The counter after a use. A document that cannot be walked does not move it; blocks that cannot
be read do. -/
def after (c : IdCounter) : Use → IdCounter
  | .reconcile document =>
    match c.reconcile document with
    | .ok c' => c'
    | .error _ => c
  | .fresh => c.fresh.2
  | .compile ws indentWidth => (ws.compile c indentWidth).2

/-- The counter after several uses. -/
def afterAll (c : IdCounter) (uses : List Use) : IdCounter := uses.foldl after c

/-- Documents have information where nodes have it, and the fields of blocks hold no nodes. -/
def Use.Proper : Use → Prop
  | .reconcile document => document.Annotated
  | .fresh => True
  | .compile ws _ => ∀ id b, ws.block? id = some b → b.Plain

/-- The identity is handed out in a use of the counter. -/
inductive Issues (c : IdCounter) (n : ℤ) : Use → Prop
  | fresh (h : c.fresh.1 = n) : Issues c n .fresh
  | compiled {ws : Workspace} {indentWidth : ℤ} {p : Program} {ids : List ℤ}
    (h : (ws.compile c indentWidth).1 = .ok p) (hids : p.toDatum.identities = .ok ids) (hn : n ∈ ids) :
    Issues c n (.compile ws indentWidth)

/-- The identity is handed out in a use, or it stands in the document that the counter is moved
past. -/
inductive Meets (c : IdCounter) (n : ℤ) : Use → Prop
  | issued {u : Use} (h : c.Issues n u) : Meets c n u
  | reconciled {document : Datum} {c' : IdCounter} (h : c.reconcile document = .ok c')
    (hn : Occurs n document) : Meets c n (.reconcile document)

variable {c c' : IdCounter}

/-! ## One use -/

/-- The identities of a program are distinct, and they were handed out while it was read. -/
lemma identities_compile {ws : Workspace} {indentWidth : ℤ} {p : Program}
    (hws : ∀ id b, ws.block? id = some b → b.Plain) (h : (ws.compile c indentWidth).1 = .ok p) :
    ∃ ids, p.toDatum.identities = .ok ids ∧ ids.Nodup ∧
      ∀ n ∈ ids, c.last < n ∧ n ≤ (ws.compile c indentWidth).2.last := by
  have hbears := (Compile.numbers_program hws indentWidth c).2 p h
  obtain ⟨ids, hids, heq⟩ := hbears.identities p.info rfl rfl
  refine ⟨ids, hids, ?_, fun n hn => ?_⟩
  · rw [← Multiset.coe_nodup, heq]
    exact nodup_handedOut _ _
  · rwa [← Multiset.mem_coe, heq, mem_handedOut] at hn

/-- The counter is moved up, and not back, to the largest identity that a walk through the document
finds. -/
lemma reconcile_bounds {document : Datum} (h : c.reconcile document = .ok c') :
    c.last ≤ c'.last ∧ ∃ ids, document.identities = .ok ids ∧ ∀ n ∈ ids, n ≤ c'.last := by
  have hadvance : ∀ seen, c.last ≤ (c.advance seen).last ∧ seen ≤ (c.advance seen).last := by
    intro seen
    unfold advance
    split
    · exact ⟨by dsimp only; omega, le_rfl⟩
    · exact ⟨le_rfl, by omega⟩
  unfold reconcile maxIdentity at h
  cases hids : document.identities with
  | error e =>
    rw [hids] at h
    cases h
  | ok ids =>
    rw [hids] at h
    cases ids with
    | nil =>
      cases h
      exact ⟨(hadvance 0).1, [], rfl, nofun⟩
    | cons first rest =>
      cases h
      obtain ⟨hfirst, hrest⟩ := le_foldl_max rest first
      obtain ⟨hle, hseen⟩ := hadvance (rest.foldl max first)
      refine ⟨hle, _, rfl, fun n hn => le_trans ?_ hseen⟩
      rcases List.mem_cons.mp hn with rfl | hn
      · exact hfirst
      · exact hrest n hn

/-- A counter does not go back. -/
lemma last_le_after (u : Use) (hu : u.Proper) : c.last ≤ (c.after u).last := by
  cases u with
  | reconcile document =>
    rw [after]
    split
    · exact (reconcile_bounds ‹_›).1
    · exact le_rfl
  | fresh => exact (lt_add_one c.last).le
  | compile ws indentWidth => exact (Compile.numbers_program hu indentWidth c).1

/-- What is handed out comes after all that the counter has seen, and then it has seen it. -/
lemma Issues.bounds {n : ℤ} {u : Use} (h : c.Issues n u) (hu : u.Proper) :
    c.last < n ∧ n ≤ (c.after u).last := by
  cases h with
  | fresh h =>
    rw [← h]
    exact ⟨lt_add_one c.last, le_rfl⟩
  | compiled hp hids hn =>
    obtain ⟨ids, hids', -, hbounds⟩ := identities_compile hu hp
    cases hids.symm.trans hids'
    exact hbounds n hn

/-- The counter has seen what it meets. -/
lemma Meets.le {n : ℤ} {u : Use} (h : c.Meets n u) (hu : u.Proper) : n ≤ (c.after u).last := by
  cases h with
  | issued h => exact (h.bounds hu).2
  | reconciled h hn =>
    obtain ⟨-, ids, hids, hle⟩ := reconcile_bounds h
    rw [after, h]
    exact hle n (hu.mem_identities hn hids)

/-! ## Several uses -/

lemma last_le_afterAll {uses : List Use} (huses : ∀ u ∈ uses, u.Proper) :
    c.last ≤ (c.afterAll uses).last := by
  induction uses generalizing c with
  | nil => exact le_rfl
  | cons u rest ih =>
    obtain ⟨hu, hrest⟩ := List.forall_mem_cons.mp huses
    exact (last_le_after u hu).trans (ih hrest)

lemma afterAll_append (uses more : List Use) :
    c.afterAll (uses ++ more) = (c.afterAll uses).afterAll more := List.foldl_append

/-- In whatever order a counter is used, the identities of every program that is read off blocks are
distinct and lie between what the counter stood at before and after; and what is handed out comes
after all that was handed out, and all that stood in a document, in an earlier use. -/
theorem identities_fresh (c : IdCounter) (uses : List Use) (huses : ∀ u ∈ uses, u.Proper) :
    (∀ before ws indentWidth more p, uses = before ++ .compile ws indentWidth :: more →
      (ws.compile (c.afterAll before) indentWidth).1 = .ok p →
      ∃ ids, p.toDatum.identities = .ok ids ∧ ids.Nodup ∧ ∀ n ∈ ids,
        (c.afterAll before).last < n ∧ n ≤ (ws.compile (c.afterAll before) indentWidth).2.last) ∧
    ∀ before u between v more, uses = before ++ u :: (between ++ v :: more) →
      ∀ m n, (c.afterAll before).Meets m u →
        (c.afterAll (before ++ u :: between)).Issues n v → m < n := by
  refine ⟨?_, ?_⟩
  · rintro before ws indentWidth more p rfl hp
    exact identities_compile (huses (.compile ws indentWidth) (by simp)) hp
  · rintro before u between v more rfl m n hm hn
    have hu : u.Proper := huses u (by simp)
    have hv : v.Proper := huses v (by simp)
    have hbetween : ∀ w ∈ between, w.Proper := fun w hw => huses w (by simp [hw])
    have hseen : m ≤ ((c.afterAll before).after u).last := hm.le hu
    have hkept := last_le_afterAll (c := (c.afterAll before).after u) hbetween
    rw [afterAll_append] at hn
    exact lt_of_le_of_lt (hseen.trans hkept) (hn.bounds hv).1

/-- A program with one statement. -/
def passing : Program := { body := ⟨[.passStmt { id := 7 }], 0⟩, info := { id := 3 } }

/-- A block for an assignment without a value. -/
def assigning : Workspace :=
  Operation.applyAll {} [.create "stmt_var_set" none {}, .setField "n1" "name" "x"]

/-- The program that is read off this block. -/
def assignment : Program where
  body := ⟨[.assign [.identifier "x" { id := 10 }] (.identifier "_" { id := 11 }) { id := 9 }], 0⟩
  dirty := true
  info := { id := 12 }

lemma annotated_passing : passing.toDatum.Annotated := by
  have hpass : (Stmt.passStmt { id := 7 }).toDatum.Annotated := by
    have hnode : (record .passStmt ([] ++ [Info.toDatum { id := 7 }])).Annotated :=
      annotated_node { id := 7 } rfl (List.forall_mem_nil _)
    rwa [Stmt.toDatum]
  have hbody : passing.body.toDatum.Annotated := by
    rw [Suite.toDatum, suiteDatum]
    refine .suite (fun d hd => ?_) (not_occurs_int · 0)
    rw [stmtData_eq_map] at hd
    obtain ⟨s, hs, rfl⟩ := List.mem_map.mp hd
    rwa [List.mem_singleton.mp hs]
  have hcontent : ∀ d ∈ [passing.body.toDatum, .int 4, .bool false, .null], d.Annotated := by
    intro d hd
    simp only [List.mem_cons, List.not_mem_nil, or_false] at hd
    rcases hd with rfl | rfl | rfl | rfl
    · exact hbody
    · exact .blank (not_occurs_int · 4)
    · exact .blank (not_occurs_bool · false)
    · exact .blank not_occurs_null
  exact annotated_node passing.info rfl hcontent

/-- The assignment is read off after the document was seen and an identity was handed out: its nodes
come after the statement in the document. -/
theorem identities_fresh_assigning :
    (∀ u ∈ [Use.reconcile passing.toDatum, .fresh, .compile assigning 4], u.Proper) ∧
    (assigning.compile (afterAll {} [.reconcile passing.toDatum, .fresh]) 4).1 = .ok assignment ∧
    (∃ ids, assignment.toDatum.identities = .ok ids ∧ ids.Nodup ∧ ∀ n ∈ ids, 8 < n ∧ n ≤ 12) ∧
    Occurs 7 passing.toDatum ∧ (7 : ℤ) < 11 := by
  have hproper : ∀ u ∈ [Use.reconcile passing.toDatum, .fresh, .compile assigning 4], u.Proper := by
    have hfields : (assigning.blocks.all fun e => e.2.fields.all fun f => f.2.nodesIn.isEmpty) =
        true := by cbv
    intro u hu
    simp only [List.mem_cons, List.not_mem_nil, or_false] at hu
    rcases hu with rfl | rfl | rfl
    · exact annotated_passing
    · trivial
    · intro id b hb name d hd
      have hblock := List.all_eq_true.mp hfields _ (mem_of_entryAt? hb)
      have hfield := List.all_eq_true.mp hblock _ (mem_of_entryAt? hd)
      exact List.isEmpty_iff.mp hfield
  have hbefore : afterAll {} [.reconcile passing.toDatum, .fresh] = ⟨8⟩ := by cbv
  have hcompile : (assigning.compile ⟨8⟩ 4).1 = .ok assignment := by cbv
  have hlast : (assigning.compile ⟨8⟩ 4).2.last = 12 := by cbv
  have hseen : IdCounter.reconcile {} passing.toDatum = .ok ⟨7⟩ := by cbv
  have hids : assignment.toDatum.identities = .ok [12, 9, 10, 11] := by cbv
  have hoccurs : Occurs 7 passing.toDatum := by
    have hpass : Occurs 7 (Stmt.passStmt { id := 7 }).toDatum := by
      rw [Stmt.toDatum]
      exact .field List.mem_cons_self .here
    have hbody : Occurs 7 passing.body.toDatum := by
      rw [Suite.toDatum, suiteDatum, stmtData_eq_map]
      exact .field List.mem_cons_self (.item List.mem_cons_self hpass)
    exact .field List.mem_cons_self hbody
  obtain ⟨hdistinct, hlater⟩ := identities_fresh {} _ hproper
  refine ⟨hproper, by rw [hbefore, hcompile], ?_, hoccurs, ?_⟩
  · have hresult := hdistinct [.reconcile passing.toDatum, .fresh] assigning 4 [] assignment rfl
      (by rw [hbefore, hcompile])
    rwa [hbefore, hlast] at hresult
  · refine hlater [] (.reconcile passing.toDatum) [.fresh] (.compile assigning 4) [] rfl 7 11
      (.reconciled hseen hoccurs) ?_
    rw [List.nil_append, hbefore]
    exact .compiled hcompile hids (by decide)

end BlockText.IdCounter

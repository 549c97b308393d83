import BlockText.Proofs.Build.Composition
import BlockText.Proofs.Build.Programs

/-!
# The text from which a block came

The text of a block is looked up in a table that notes the texts of statements, further conditions
and cases; if it has no entry, that of the block which holds it is taken, and so on.  What holds a
statement may be the statement before it, so the way up from a block must end before it passes from
one statement to another.  It does: after a program was shown, the blocks between an expression and
the next entry are all parts of one text, because an expression is only ever plugged into a block
that belongs to the same text as itself.
-/

namespace BlockText

open Syntax

namespace Workspace

/-! ## Workspaces with an account of their blocks -/

/-- The blocks are a start block and those of a list, values are plugged into blocks of the same
text, and exactly the texts of the list are noted. -/
structure Accounted (ws : Workspace) (entry : BlockId) (L : List (BlockId × Origin)) : Prop where
  ids : ws.ids = entry :: L.map (·.1)
  starts : ws.HasType entry .start
  types : ∀ e ∈ L, ws.HasType e.1 e.2.type
  kind : ∀ e ∈ L, e.2.role = .part → e.2.type.kind = .expression
  named : ∀ e ∈ L, e.1 ≠ ""
  values : ∀ e ∈ ws.edges, e.kind = .value → ∃ o, (e.child, o) ∈ L ∧ o.role = .part ∧
    (e.holder, o.span) ∈ L.flatMap Edit.holderOf
  /-- The entries that were put into the table of texts are the notes of the list. -/
  spans : ∃ es : List (BlockId × Span),
    ws.spans = es.foldl (fun spans e => putEntry spans e.1 e.2) [] ∧
      ∀ e, e ∈ es ↔ e ∈ L.flatMap Edit.noteOf

namespace Accounted

variable {ws ws' : Workspace} {entry : BlockId} {L : List (BlockId × Origin)}

/-- Deeds in an empty workspace that begin with a start block. -/
lemma of_follows {ds : List Edit.Deed} (hblocks : ws.blocks = []) (hlinks : ws.links = {})
    (hspans : ws.spans = []) (hds : Edit.Accounts [] L [] ds)
    (h : Edit.Follows ws (.made entry .start :: ds) ws') : ws'.Accounted entry L where
  ids := by
    rw [h.ids, Workspace.ids, hblocks, Edit.made_cons_made, hds.made]
    simp
  starts := h.types (entry, .start) List.mem_cons_self
  types e he := by
    refine h.types (e.1, e.2.type) ?_
    rw [Edit.made_cons_made, hds.made]
    exact List.mem_cons_of_mem _ (List.mem_map_of_mem he)
  kind := hds.kind
  named e he := by
    refine h.named (e.1, e.2.type) ?_
    rw [Edit.made_cons_made, hds.made]
    exact List.mem_cons_of_mem _ (List.mem_map_of_mem he)
  values e he hk := by
    rcases h.values e he hk with hold | hplugged
    · rw [edges, hlinks] at hold
      cases hold
    · refine hds.plugged _ _ ?_
      simpa using hplugged
  spans := ⟨Edit.notes ds, by rw [h.spans, Edit.notes_cons_made, hspans], fun e => by
    simpa using hds.notes e⟩

/-- Nothing changes without deeds. -/
lemma trans (h : ws.Accounted entry L) (h' : Edit.Follows ws [] ws') : ws'.Accounted entry L where
  ids := by simpa [h.ids] using h'.ids
  starts := h'.lasts _ _ h.starts
  types e he := h'.lasts _ _ (h.types e he)
  kind := h.kind
  named := h.named
  values e he hk := h.values e ((h'.values e he hk).resolve_right (by simp)) hk
  spans := by
    rw [h'.spans]
    exact h.spans

section

variable (h : ws.Accounted entry L)

include h

/-- What is noted for a block is the text of its origin. -/
lemma mem_of_entryAt? {id : BlockId} {span : Span} (hspan : entryAt? ws.spans id = some span) :
    ∃ o, (id, o) ∈ L ∧ o.role = .unit ∧ o.span = some span := by
  obtain ⟨es, hes, hmem⟩ := h.spans
  rw [hes, entryAt?_putAll, entryAt?_nil, Option.or_none] at hspan
  have he := (hmem _).mp (List.mem_reverse.mp (BlockText.mem_of_entryAt? hspan))
  obtain ⟨⟨id', o⟩, hL, hnote⟩ := List.mem_flatMap.mp he
  unfold Edit.noteOf at hnote
  split at hnote
  case h_1 hrole =>
    obtain ⟨s, hs, heq⟩ := List.mem_map.mp hnote
    obtain ⟨rfl, rfl⟩ := Prod.mk.inj heq
    exact ⟨o, hL, hrole, Option.mem_toList.mp hs⟩
  all_goals cases hnote

/-- The text of a statement, a further condition or a case is noted. -/
lemma isSome_of_unit {id : BlockId} {o : Origin} (hid : (id, o) ∈ L) (hrole : o.role = .unit)
    (hspan : o.span.isSome) : (entryAt? ws.spans id).isSome := by
  obtain ⟨es, hes, hmem⟩ := h.spans
  obtain ⟨span, hspan⟩ := Option.isSome_iff_exists.mp hspan
  have he : (id, span) ∈ es := by
    refine (hmem _).mpr (List.mem_flatMap.mpr ⟨(id, o), hid, ?_⟩)
    simp [Edit.noteOf, hrole, hspan]
  rw [hes, entryAt?_putAll, entryAt?_nil, Option.or_none, entryAt?_isSome_iff]
  exact List.mem_map.mpr ⟨_, List.mem_reverse.mpr he, rfl⟩

/-- Texts are noted for blocks only. -/
lemma has_of_mem_spans {id : BlockId} (hid : id ∈ ws.spans.map (·.1)) : ws.has id := by
  obtain ⟨span, hspan⟩ := Option.isSome_iff_exists.mp (entryAt?_isSome_iff.mpr hid)
  obtain ⟨o, ho, -⟩ := h.mem_of_entryAt? hspan
  rw [has_iff_mem_ids, h.ids]
  exact List.mem_cons_of_mem _ (List.mem_map_of_mem ho)

variable (hw : ws.Forest)

include hw

/-- A block comes from one origin. -/
lemma origin_unique {id : BlockId} {o o' : Origin} (ho : (id, o) ∈ L) (ho' : (id, o') ∈ L) :
    o = o' := by
  have hnodup := hw.ids_nodup
  rw [h.ids, List.nodup_cons] at hnodup
  exact Option.some.inj ((entryAt?_of_mem hnodup.2 ho).symm.trans (entryAt?_of_mem hnodup.2 ho'))

/-- The start block comes from no origin. -/
lemma ne_entry {id : BlockId} {o : Origin} (ho : (id, o) ∈ L) : id ≠ entry := by
  have hnodup := hw.ids_nodup
  rw [h.ids, List.nodup_cons] at hnodup
  exact fun heq => hnodup.1 (heq ▸ List.mem_map_of_mem ho)

/-- What holds an expression or a pattern belongs to the same text. -/
lemma exists_holder {id parent : BlockId} {o : Origin} (ho : (id, o) ∈ L) (hrole : o.role = .part)
    (hparent : ws.parent? id = some parent) :
    ∃ o', (parent, o') ∈ L ∧ o'.role ≠ .alternative ∧ o'.span = o.span := by
  obtain ⟨e, he, rfl, rfl⟩ := hw.parent?_eq_some_iff.mp hparent
  have hk : e.kind = .value := by
    cases hk : e.kind with
    | value => rfl
    | statement =>
      -- Only statements are held by a connection for statements.
      obtain ⟨-, -, -, c, -, hc, -, hstmt⟩ := hw.statement_cases he hk
      obtain ⟨b, hb, htype⟩ := h.types _ ho
      simp only [Edge.child, hk] at hb
      obtain rfl := Option.some.inj (hb.symm.trans hc)
      have hkind := h.kind _ ho hrole
      rw [← htype] at hkind
      simp [Block.isStatement, Block.kind, hkind] at hstmt
  obtain ⟨o₁, ho₁, -, hholder⟩ := h.values e he hk
  obtain rfl := h.origin_unique hw ho ho₁
  obtain ⟨⟨id', o'⟩, hL, hmem⟩ := List.mem_flatMap.mp hholder
  unfold Edit.holderOf at hmem
  split at hmem
  case h_3 => cases hmem
  all_goals
    rename_i hrole'
    obtain ⟨rfl, hspan⟩ := Prod.mk.inj (List.mem_singleton.mp hmem)
    exact ⟨o', hL, by rw [hrole']; exact fun h => Role.noConfusion h, hspan.symm⟩

/-- The way up from a block finds the text to which it belongs.  The induction is on the number of
steps to the top. -/
lemma findSome?_walk (htops : ws.tops = [entry])
    (hspans : ∀ e ∈ L, e.2.role = .unit → e.2.span.isSome) {k fuel : ℕ} (hfuel : k < fuel)
    {id top : BlockId} {o : Origin} (ho : (id, o) ∈ L) (hrole : o.role ≠ .alternative)
    (hk : stepped ws.parent? k id = some top) (htop : ws.parent? top = none) :
    (walk ws.parent? fuel id).findSome? (entryAt? ws.spans) = o.span ∧ o.span.isSome := by
  induction k generalizing fuel id o with
  | zero =>
    obtain rfl := Option.some.inj hk
    have hid : id ∈ ws.tops := by
      rw [mem_tops_iff, has_iff_mem_ids, h.ids]
      exact ⟨List.mem_cons_of_mem _ (List.mem_map_of_mem ho), htop⟩
    rw [htops, List.mem_singleton] at hid
    exact absurd hid (h.ne_entry hw ho)
  | succ k ih =>
    obtain ⟨fuel, rfl⟩ := Nat.exists_eq_add_of_lt (Nat.zero_lt_of_lt hfuel)
    rw [Nat.zero_add, walk, List.findSome?_cons]
    have hnoted : ∀ span, entryAt? ws.spans id = some span → o.role = .unit ∧ o.span = some span := by
      intro span hspan
      obtain ⟨o', ho', hrole', hspan'⟩ := h.mem_of_entryAt? hspan
      obtain rfl := h.origin_unique hw ho ho'
      exact ⟨hrole', hspan'⟩
    cases hspan : entryAt? ws.spans id with
    | some span => exact ⟨(hnoted span hspan).2.symm, by rw [(hnoted span hspan).2]; rfl⟩
    | none =>
      -- Only a part has no entry of its own, and what holds it belongs to the same text.
      have hpart : o.role = .part := by
        cases hr : o.role with
        | part => rfl
        | alternative => exact absurd hr hrole
        | unit =>
          have hsome := h.isSome_of_unit ho hr (hspans _ ho hr)
          rw [hspan] at hsome
          cases hsome
      obtain ⟨parent, hparent, hk⟩ := Option.bind_eq_some_iff.mp hk
      obtain ⟨o', ho', hrole', hsame⟩ := h.exists_holder hw ho hpart hparent
      rw [hparent, ← hsame]
      exact ih (by omega) ho' hrole' hk

/-- The text of every block except those of last alternatives is found. -/
lemma spanAround?_eq (htops : ws.tops = [entry])
    (hspans : ∀ e ∈ L, e.2.role = .unit → e.2.span.isSome) {id : BlockId} {o : Origin}
    (ho : (id, o) ∈ L) (hrole : o.role ≠ .alternative) :
    o.span.isSome ∧ ws.spanAround? id = o.span := by
  have hid : ws.has id := by
    rw [has_iff_mem_ids, h.ids]
    exact List.mem_cons_of_mem _ (List.mem_map_of_mem ho)
  obtain ⟨k, hlt, top, hk, htop⟩ := hw.exists_top hid
  rw [spanAround?, upward, if_pos hid]
  exact (h.findSome?_walk hw htops hspans hlt ho hrole hk htop).symm

end

end Accounted

end Workspace

/-! ## Showing a program -/

namespace Edit

open Workspace

/-- Showing a program in an empty workspace makes a start block and then the blocks of the
program. -/
private lemma traced_installBlocks (p : Program) (viewport : Viewport) :
    Traced (fun _ ds => ∃ entry ds', ds = .made entry .start :: ds' ∧
      ∃ L : List (BlockId × Origin), L.map (·.2) = p.origins ∧ Accounts [] L [] ds') (do
        let entry ← create .start
        fill entry "BODY" (← suiteBlocks none none p.body.statements)
        moveBy entry entrySpot
        cleanUp entrySpot
        setViewport viewport) := by
  have hmove : ∀ id spot, Quiet (move id spot) := fun id spot =>
    (quiet_require id).bind fun _ =>
      Quiet.bind (quiet_modify_of fun _ => ⟨rfl, rfl, rfl⟩) fun _ => quiet_fire _ _ _
  have hclean : Quiet (cleanUp entrySpot) := quiet_modify_of fun _ => ⟨rfl, rfl, rfl⟩
  have hview : Quiet (setViewport viewport) :=
    Quiet.bind (quiet_modify_of fun _ => ⟨rfl, rfl, rfl⟩) fun _ => quiet_fire _ _ _
  refine Traced.bind (makes_create .start _) ?_
  rintro entry _ rfl
  refine Traced.bind (stands_suiteBlocks none none p.body.statements) ?_
  rintro first ds ⟨-, L, hL, hds⟩
  refine (quiet_fill entry "BODY" first).bind fun _ =>
    Quiet.bind (traced_get fun _ => hmove _ _) fun _ => hclean.bind fun _ => ?_
  refine Traced.mono hview ?_
  rintro _ _ rfl
  exact ⟨entry, ds, by simp, L, hL, hds⟩

/-- The blocks of the workspace are accounted for by the origins of the program. -/
def Located (p : Program) (ws : Workspace) : Prop :=
  ∃ entry L, L.map (·.2) = p.origins ∧ ws.Accounted entry L

/-- While events are switched off, everything is replaced by the blocks of a program. -/
private lemma ends_install (p : Program) {ws : Workspace} (hmuted : ws.muted ≠ 0) :
    Ends (install p) ws (fun _ => Located p) fun _ => True := by
  unfold install
  rw [ends_bind, ends_get, ends_bind]
  refine Ends.mono (yields_wipe hmuted) ?_ fun _ h => h.elim
  rintro _ ws₁ ⟨⟨-, hblocks⟩, hlinks, hspans, -⟩
  refine (traced_installBlocks p ws.viewport ws₁).mono ?_ fun _ h => h
  rintro _ ws' ⟨_, ⟨entry, ds, rfl, L, hL, hds⟩, hfollows⟩
  exact ⟨entry, L, hL, .of_follows hblocks hlinks hspans hds hfollows⟩

/-- When a program was shown, its blocks are accounted for. -/
private lemma ends_build_located (p : Program) (ws : Workspace) :
    Ends (build p) ws (fun replaced ws' => replaced = true → Located p ws') fun _ => True := by
  have hmark : ∀ document, Quiet (do
      refreshDeclared
      modify fun ws => { ws with installed := some document, rebuilds := ws.rebuilds + 1 }
      return true) := fun document =>
    quiet_refreshDeclared.bind fun _ =>
      Quiet.bind (quiet_modify_of fun _ => ⟨rfl, rfl, rfl⟩) fun _ => quiet_pure true
  unfold build
  rw [ends_bind, ends_get]
  split
  · exact fun h => by cases h
  · rw [ends_bind]
    refine ends_quietly ((ends_install p (Nat.succ_ne_zero _)).mono ?_ fun _ h => h)
    rintro _ ws₁ ⟨entry, L, hL, hlocated⟩
    refine (hmark _ _).mono ?_ fun _ h => h
    rintro _ ws₂ ⟨_, rfl, hfollows⟩ -
    refine ⟨entry, L, hL, Accounted.trans ?_ hfollows⟩
    exact hlocated.trans (.of_same rfl (fun _ he _ => he) rfl)

end Edit

namespace Workspace

/-- The texts of the blocks of a program that is shown. -/
lemma exists_texts_of_located {ws : Workspace} {p : Program} {entry : BlockId}
    (hspans : p.Spanned) (hdisplays : ws.Displays entry p) (hlocated : Edit.Located p ws) :
    ∃ ids, ws.ids = entry :: ids ∧ (∀ id ∈ ids, id ≠ "") ∧
      List.Forall₂ (fun id o => ws.HasType id o.type ∧
        (o.role ≠ .alternative → o.span.isSome ∧ ws.spanAround? id = o.span)) ids p.origins ∧
      ∀ id ∈ ws.spans.map (·.1), ws.has id := by
  obtain ⟨start, L, hL, h⟩ := hlocated
  obtain rfl : start = entry := by
    have hstart := hdisplays.forest.mem_ofType_iff.mpr h.starts
    rwa [hdisplays.ofType_start, List.mem_singleton] at hstart
  refine ⟨L.map (·.1), h.ids, List.forall_mem_map.mpr h.named, ?_, fun id => h.has_of_mem_spans⟩
  rw [← hL, List.forall₂_map_left_iff, List.forall₂_map_right_iff, List.forall₂_same]
  have hunits : ∀ e ∈ L, e.2.role = .unit → e.2.span.isSome := fun e he =>
    hspans e.2 (hL ▸ List.mem_map_of_mem he)
  exact fun e he => ⟨h.types e he, fun hrole =>
    h.spanAround?_eq hdisplays.forest hdisplays.tops hunits he hrole⟩

/-- Showing a well-formed program that is not shown yet makes blocks that are accounted for. -/
lemma exists_located_of_build {ws : Workspace} {p : Program} (hp : p.WellFormed)
    (hnew : ws.installed ≠ some p.body.toDatum.toJson) :
    ∃ ws' entry, (Edit.build p).run ws = (.ok true, ws') ∧
      ws'.installed = some p.body.toDatum.toJson ∧ ws'.Displays entry p ∧ Edit.Located p ws' := by
  obtain ⟨_, ws', hrun, rfl, hinstalled, entry, hdisplays⟩ := (Edit.yields_build hp hnew).exists_run
  have hend := Edit.ends_build_located p ws
  unfold Edit.Ends at hend
  rw [hrun] at hend
  exact ⟨ws', entry, hrun, hinstalled, hdisplays, hend rfl⟩

/-- Whatever is in a workspace, if it does not show a well-formed program yet whose statements,
further conditions and cases all have a text, showing the program makes a start block and then one
block for each of its origins.  For every block of a statement, a further condition or a case its
own text is found, for every block of an expression or a pattern the text of the innermost of these
around it, and every entry of the table of texts is that of a block. -/
theorem spanAround?_build (ws : Workspace) (p : Program) (hp : p.WellFormed) (hspans : p.Spanned)
    (hnew : ws.installed ≠ some p.body.toDatum.toJson) :
    ∃ ws' entry ids, (Edit.build p).run ws = (.ok true, ws') ∧ ws'.ids = entry :: ids ∧
      List.Forall₂ (fun id o => ws'.HasType id o.type ∧
        (o.role ≠ .alternative → o.span.isSome ∧ ws'.spanAround? id = o.span)) ids p.origins ∧
      ∀ id ∈ ws'.spans.map (·.1), ws'.has id := by
  obtain ⟨ws', entry, hrun, -, hdisplays, hlocated⟩ := exists_located_of_build hp hnew
  obtain ⟨ids, hids, -, htexts, hhas⟩ := exists_texts_of_located hspans hdisplays hlocated
  exact ⟨ws', entry, ids, hrun, hids, htexts, hhas⟩

/-- A conditional with a further condition, in two lines, where each part knows its text. -/
def spannedProgram : Program where
  body := ⟨[.ifStmt (.identifier "x" {})
    ⟨[.passStmt { span := some ⟨⟨1, 6, 6⟩, ⟨1, 10, 10⟩⟩ }], 1⟩
    [⟨.identifier "y" {}, ⟨[.breakStmt { span := some ⟨⟨2, 8, 19⟩, ⟨2, 13, 24⟩⟩ }], 1⟩,
      { span := some ⟨⟨2, 0, 11⟩, ⟨2, 13, 24⟩⟩ }⟩]
    none { span := some ⟨⟨1, 0, 0⟩, ⟨2, 13, 24⟩⟩ }], 0⟩

example : spannedProgram.origins.map (·.type) =
    [.ifStmt, .identifier, .passStmt, .elifStmt, .identifier, .breakStmt] := rfl

lemma spannedProgram_wellFormed : spannedProgram.WellFormed := by
  have hname : ∀ s ≠ "", (Expr.identifier (.text s) {}).WellFormed := fun s hs =>
    ⟨isName_text hs, by simp [Expr.parts]⟩
  have hpass : ∀ i, (Stmt.passStmt i).WellFormed 1 := fun i =>
    ⟨trivial, by simp [Stmt.exprs], by simp [Stmt.suites], by simp [Stmt.suites]⟩
  have hbreak : ∀ i, (Stmt.breakStmt i).WellFormed 1 := fun i =>
    ⟨trivial, by simp [Stmt.exprs], by simp [Stmt.suites], by simp [Stmt.suites]⟩
  refine ⟨rfl, ?_⟩
  simp only [spannedProgram, List.forall_mem_singleton]
  refine ⟨trivial, ?_, by simp [Stmt.suites], by simp [Stmt.suites, hpass, hbreak]⟩
  simpa [Stmt.exprs] using ⟨hname "x" (by decide), hname "y" (by decide)⟩

/-- The program is shown in an empty workspace. -/
theorem spanAround?_build_sample : spannedProgram.WellFormed ∧ spannedProgram.Spanned ∧
    ({} : Workspace).installed ≠ some spannedProgram.body.toDatum.toJson ∧
    ∃ ws' entry ids, (Edit.build spannedProgram).run {} = (.ok true, ws') ∧
      ws'.ids = entry :: ids ∧
      List.Forall₂ (fun id o => ws'.HasType id o.type ∧
        (o.role ≠ .alternative → o.span.isSome ∧ ws'.spanAround? id = o.span)) ids
        spannedProgram.origins ∧
      ∀ id ∈ ws'.spans.map (·.1), ws'.has id := by
  have hspans : spannedProgram.Spanned := by
    unfold Program.Spanned
    decide
  exact ⟨spannedProgram_wellFormed, hspans, by simp,
    spanAround?_build {} spannedProgram spannedProgram_wellFormed hspans (by simp)⟩

end Workspace

end BlockText

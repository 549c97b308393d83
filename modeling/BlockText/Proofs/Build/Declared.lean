import BlockText.Proofs.Build.Declarations
import BlockText.Proofs.Build.Upholding

/-!
# The declared names of a shown program

Showing a program ends with determining the declared names anew. They are collected from all blocks
of the workspace, and the blocks declare what the program declares; so the lists show exactly what
the program declares, sorted and without repetitions.
-/

namespace BlockText

open Syntax

/-! ## Functions that are declared -/

/-- The functions that a well-formed statement declares have names. -/
private lemma isName_of_declares {s : Stmt} {name : Datum} {n : ℕ}
    (h : s.Declares (.function name n)) {depth : ℤ} (hs : s.WellFormed depth) : IsName name := by
  generalize hd : Declaration.function name n = d at h
  induction h generalizing depth with
  | @here s d h =>
    subst hd
    obtain ⟨sane, -, -, -⟩ := hs
    cases s with
    | functionDef name' ps body decorators returns isAsync i =>
      simp only [Stmt.introduced, List.mem_cons, List.mem_map, reduceCtorEq, and_false, exists_false,
        or_false, Declaration.function.injEq] at h
      rw [h.1]
      exact sane.1
    | _ => simp [Stmt.introduced] at h
  | inside hbody ht _ ih =>
    obtain ⟨-, -, -, suites⟩ := hs
    exact ih (suites _ hbody _ ht) hd

namespace Workspace

variable {ws : Workspace} {entry : BlockId} {p : Program}

/-- The functions that a block introduces: itself, if it is one. -/
private lemma function_mem_introduced {id : BlockId} {b : Block} {name : Datum} {n : ℕ} :
    .function name n ∈ ws.introduced id b ↔
      b.type = .functionDef ∧ b.field "name" = name ∧ b.arity = n := by
  unfold introduced Block.introduced
  cases ht : b.type with
  | functionDef =>
    simp only [List.mem_cons, List.mem_map, reduceCtorEq, and_false, exists_false, or_false,
      Declaration.function.injEq, true_and]
    exact ⟨fun h => ⟨h.1.symm, h.2.symm⟩, fun h => ⟨h.1.symm, h.2.symm⟩⟩
  | _ => simp

/-- The blocks under a start block declare what the chain in its slot declares. -/
private lemma declares_iff_exists_block (hm : ws.Measured)
    (h : ws.Houses entry (Edit.AnnouncesAll p.body.statements)) (d : Declaration) :
    p.Declares d ↔ ∃ x ∈ ws.blocks, d ∈ ws.introduced x.1 x.2 := by
  rw [← mem_declarations_start h.forest hm h.ofType_start (Compile.looseStatements_of_houses h)]
  exact (h.body d).symm

/-- The declared variables are those that the program declares. -/
private lemma declaredVariables_of_houses (hm : ws.Measured)
    (h : ws.Houses entry (Edit.AnnouncesAll p.body.statements)) :
    ∃ names : List (List CodePoint), ws.declaredVariables = .ok (names.map Datum.ofPoints) ∧
      names.Pairwise (· < ·) ∧
      ∀ d, d ∈ names.map Datum.ofPoints ↔ d ≠ "" ∧ p.Declares (.variable d) := by
  have hnamed : ∀ x ∈ ws.blocks, x.2.Named := fun x hx =>
    (h.proper _ _ (h.forest.mem_blocks_iff.mp hx)).1.named
  have hvars : ∀ x ∈ ws.blocks, ∃ ds, ws.variablesOf x.1 x.2 = .ok ds ∧
      (∀ d ∈ ds, IsWords d) ∧ ∀ d, d ∈ ds ↔ .variable d ∈ ws.introduced x.1 x.2 := by
    intro x hx
    obtain ⟨ds, hds, hiff⟩ := exists_variablesOf_eq h.forest (hnamed x hx)
    obtain ⟨ds', hds', hwords⟩ := exists_variablesOf
      (fun id b hb => (h.proper id b hb).1.named) (hnamed x hx)
    obtain rfl := Except.ok.inj (hds.symm.trans hds')
    exact ⟨ds, hds, hwords, hiff⟩
  have htexts : ∀ x ∈ ws.blocks, ∃ texts : List (List CodePoint),
      ws.variablesOf x.1 x.2 = .ok (texts.map Datum.ofPoints) := by
    intro x hx
    obtain ⟨ds, hds, hwords, -⟩ := hvars x hx
    obtain ⟨texts, rfl⟩ : ds ∈ Set.range (List.map Datum.ofPoints) := by
      rw [Set.range_list_map]
      exact fun d hd => (hwords d hd).imp fun s hs => hs.symm
    exact ⟨texts, hds⟩
  obtain ⟨names, hnames, hsorted, hmem⟩ := declaredVariables_eq htexts
  refine ⟨names, hnames, hsorted, fun d => ?_⟩
  rw [declares_iff_exists_block hm h, List.mem_map]
  constructor
  · rintro ⟨ps, hps, rfl⟩
    obtain ⟨hne, x, hx, ds, hds, hd⟩ := (hmem ps).mp hps
    obtain ⟨ds', hds', -, hiff⟩ := hvars x hx
    obtain rfl := Except.ok.inj (hds.symm.trans hds')
    exact ⟨fun heq => hne (by simpa [Text.points] using heq), x, hx, (hiff _).mp hd⟩
  · rintro ⟨hne, x, hx, hd⟩
    obtain ⟨ds, hds, hwords, hiff⟩ := hvars x hx
    have hmem' := (hiff d).mpr hd
    obtain ⟨ps, rfl⟩ := hwords d hmem'
    exact ⟨ps, (hmem ps).mpr ⟨fun heq => hne (by simpa [Text.points] using heq), x, hx, ds, hds, hmem'⟩,
      rfl⟩

/-- The declared functions are those that the program declares. -/
private lemma declaredFunctions_of_houses (hp : p.WellFormed) (hm : ws.Measured)
    (h : ws.Houses entry (Edit.AnnouncesAll p.body.statements)) :
    ∃ functions : List (List CodePoint × ℕ),
      ws.declaredFunctions = .ok (functions.map fun f => (.ofPoints f.1, (f.2 : ℤ))) ∧
      (functions.Pairwise fun f g => f.1 < g.1 ∨ f.1 = g.1 ∧ f.2 < g.2) ∧
      ∀ (name : Datum) (n : ℕ),
        (name, (n : ℤ)) ∈ functions.map (fun f => (Datum.ofPoints f.1, (f.2 : ℤ))) ↔
          p.Declares (.function name n) := by
  have hcounts : ∀ x ∈ ws.blocks, x.2.type = .functionDef → ∃ (ps : List CodePoint) (n : ℕ),
      x.2.field "name" = .ofPoints ps ∧ x.2.itemCount = .ok (n : ℤ) ∧ x.2.arity = n := by
    intro x hx ht
    have hblock := h.forest.mem_blocks_iff.mp hx
    obtain ⟨s, hs⟩ := (h.proper _ _ hblock).1.named.name (.inr (.inr ht))
    have hmeasured := hm.of_block? hblock
    have hitems : ("item_count" : String) ∈ x.2.type.fields.map (·.1) := by
      rw [ht]
      decide
    obtain ⟨d, hd⟩ := Option.isSome_iff_exists.mp (hmeasured.counted.complete _ hitems)
    obtain ⟨n, rfl⟩ := hmeasured.counted.counts "item_count" (by rw [ht]; decide) d hd
    have hcount : x.2.itemCount = .ok (n : ℤ) := by
      rw [Block.itemCount, hd]
      rfl
    refine ⟨s, n, by rw [Block.field, hs, Option.getD_some], hcount, ?_⟩
    rw [Block.arity, hcount]
    rfl
  obtain ⟨functions, hfunctions, hsorted, hmem⟩ := declaredFunctions_eq fun x hx ht => by
    obtain ⟨s, n, hs, hn, -⟩ := hcounts x hx ht
    exact ⟨s, n, hs, hn⟩
  refine ⟨functions.map ofLex, ?_, ?_, fun name n => ?_⟩
  · rw [hfunctions, List.map_map]
    rfl
  · rw [List.pairwise_map]
    exact hsorted.imp fun hless => Prod.lex_def.mp hless
  · rw [declares_iff_exists_block hm h, List.map_map, List.mem_map]
    constructor
    · rintro ⟨f, hf, heq⟩
      obtain ⟨rfl, hn⟩ := Prod.mk.inj heq
      obtain ⟨-, x, hx, ht, hname, hcount⟩ := (hmem f).mp hf
      obtain ⟨s, k, -, hk, harity⟩ := hcounts x hx ht
      have hnat : n = k := by
        rw [hk] at hcount
        exact Nat.cast_injective (hn.symm.trans (Except.ok.inj hcount).symm)
      exact ⟨x, hx, function_mem_introduced.mpr ⟨ht, hname, by rw [harity, hnat]⟩⟩
    · rintro ⟨x, hx, hd⟩
      have hdeclared : p.Declares (.function name n) :=
        (declares_iff_exists_block hm h _).mpr ⟨x, hx, hd⟩
      obtain ⟨ht, hname, harity⟩ := function_mem_introduced.mp hd
      obtain ⟨s, k, hs, hk, hk'⟩ := hcounts x hx ht
      obtain rfl : k = n := hk'.symm.trans harity
      obtain rfl : Datum.ofPoints s = name := hs.symm.trans hname
      have hne : s ≠ [] := by
        obtain ⟨t, ht, hdecl⟩ := hdeclared
        obtain ⟨s', hs', heq⟩ := isName_of_declares hdecl (hp.statements t ht)
        rw [Datum.ofPoints_injective heq]
        exact hs'
      exact ⟨toLex (s, k), (hmem _).mpr ⟨hne, x, hx, ht, hs, hk⟩, rfl⟩

end Workspace

namespace Edit

open Workspace

/-- What holds if an edit is carried out holds of one that is. -/
private lemma Yields.and {α : Type} {x : Edit α} {ws : Workspace}
    {done done' : α → Workspace → Prop} (h : Yields x ws done)
    (h' : Ends x ws done' fun _ => True) : Yields x ws fun a ws' => done a ws' ∧ done' a ws' := by
  unfold Yields Ends at *
  rcases hrun : x.run ws with ⟨_ | _, ws'⟩
  · simp only [hrun] at h
  · simp only [hrun] at h h' ⊢
    exact ⟨h, h'⟩

/-- After everything has been replaced by the blocks of a program, all blocks are measured. -/
private lemma ends_install_measured (p : Program) {ws : Workspace} (hmuted : ws.muted ≠ 0) :
    Ends (install p) ws (fun _ => Measured) fun _ => True := by
  unfold install
  rw [ends_bind, ends_get, ends_bind]
  refine Ends.mono (yields_wipe hmuted) ?_ fun _ h => h.elim
  rintro _ ws₁ ⟨⟨-, hempty⟩, -⟩
  have hmeasured : ws₁.Measured := by
    intro x hx
    rw [hempty] at hx
    cases hx
  exact (buildSteps_measured.installBlocks p ws.viewport ws₁ hmeasured).mono (fun _ _ h => h)
    fun _ _ => trivial

/-- Showing a well-formed program that is not shown yet leaves lists of what it declares. -/
private lemma yields_build_declared {p : Program} (hp : p.WellFormed) {ws : Workspace}
    (hnew : ws.installed ≠ some p.body.toDatum.toJson) :
    Yields (build p) ws fun replaced ws' => replaced = true ∧ ∃ (ws₁ : Workspace) (entry : BlockId),
      ws₁.Measured ∧ ws₁.Houses entry (AnnouncesAll p.body.statements) ∧
      ws₁.declaredVariables = .ok ws'.variableNames ∧
      ws₁.declaredFunctions = .ok ws'.functions := by
  have hbody : Builds (suiteBlocks none none p.body.statements)
      (SuiteOf AnnouncesAll p.body.statements) :=
    builds_announcing fun s hs => builds_declarations (hp.statements s hs)
  have hinstall : Yields (quietly (install p)) ws fun _ ws₁ => ws₁.Measured ∧
      ∃ entry, ws₁.Houses entry (AnnouncesAll p.body.statements) := by
    refine ends_quietly ?_
    have hmuted : { ws with muted := ws.muted + 1 }.muted ≠ 0 := Nat.succ_ne_zero _
    refine Ends.mono ((yields_install hbody hmuted).and (ends_install_measured p hmuted)) ?_
      fun _ h => h
    rintro _ ws₁ ⟨⟨entry, hhouses⟩, hmeasured⟩
    exact ⟨hmeasured, entry, hhouses.congr ⟨rfl, rfl, rfl, rfl⟩⟩
  unfold build
  rw [Yields, ends_bind, ends_get, if_neg (by simpa using hnew)]
  refine Yields.bind hinstall ?_
  rintro _ ws₁ ⟨hmeasured, entry, hhouses⟩
  have hnamed : ∀ x ∈ ws₁.blocks, x.2.Named := fun x hx =>
    (hhouses.proper _ _ (hhouses.forest.mem_blocks_iff.mp hx)).1.named
  obtain ⟨names, hnames⟩ := exists_declaredVariables hnamed
  obtain ⟨functions, hfunctions⟩ := exists_declaredFunctions hnamed
  unfold refreshDeclared
  simp only [ends_bind, ends_get, ends_modify]
  rw [hnames]
  change Ends (ofFault ws₁.declaredFunctions) _ _ _
  rw [hfunctions]
  exact ⟨rfl, ws₁, entry, hmeasured, hhouses, hnames, hfunctions⟩

end Edit

/-- Showing a well-formed program that is not shown yet is carried out. The declared variables are
then the names that the targets of its assignments and loops bind and the names of the parameters of
its functions, without empty names, and the declared functions are its functions, each with its
number of parameters. Both lists are sorted and without repetitions. -/
theorem Workspace.build_declares (ws : Workspace) (p : Program) (hp : p.WellFormed)
    (hnew : ws.installed ≠ some p.body.toDatum.toJson) :
    ∃ ws', (Edit.build p).run ws = (.ok true, ws') ∧
      (∃ names : List (List CodePoint), ws'.variableNames = names.map Datum.ofPoints ∧
        names.Pairwise (· < ·)) ∧
      (∀ d, d ∈ ws'.variableNames ↔ d ≠ "" ∧ p.Declares (.variable d)) ∧
      (∃ functions : List (List CodePoint × ℕ),
        ws'.functions = functions.map (fun f => (.ofPoints f.1, (f.2 : ℤ))) ∧
        functions.Pairwise fun f g => f.1 < g.1 ∨ f.1 = g.1 ∧ f.2 < g.2) ∧
      ∀ (name : Datum) (n : ℕ), (name, (n : ℤ)) ∈ ws'.functions ↔
        p.Declares (.function name n) := by
  obtain ⟨_, ws', hrun, rfl, ws₁, entry, hmeasured, hhouses, hvariables, hfunctions⟩ :=
    (Edit.yields_build_declared hp hnew).exists_run
  obtain ⟨names, hnames, hsorted, hmem⟩ := declaredVariables_of_houses hmeasured hhouses
  obtain ⟨functions, hfuns, hordered, hmem'⟩ := declaredFunctions_of_houses hp hmeasured hhouses
  have hlist : ws'.variableNames = names.map Datum.ofPoints :=
    Except.ok.inj (hvariables.symm.trans hnames)
  have hlist' := Except.ok.inj (hfunctions.symm.trans hfuns)
  refine ⟨ws', hrun, ⟨names, hlist, hsorted⟩, ?_, ⟨functions, hlist', hordered⟩, ?_⟩
  · rw [hlist]
    exact hmem
  · rw [hlist']
    exact hmem'

/-- A program with a function whose body assigns to nested targets. -/
def Workspace.declaringProgram : Program where
  body := ⟨[.functionDef "f" [⟨"a", none, none, .normal, {}⟩]
    ⟨[.assign [.tuple [.identifier "c" {}, .list [.identifier "b" {}] {}] {}] (.identifier "a" {}) {}],
      1⟩ [] none false {}], 0⟩

lemma Workspace.declaringProgram_wellFormed : declaringProgram.WellFormed := by
  have hname : ∀ s : String, s ≠ "" → (Expr.identifier (.text s) {}).WellFormed := fun s hs =>
    ⟨isName_text hs, by simp [Expr.parts]⟩
  have hlist : (Expr.list [.identifier "b" {}] {}).WellFormed :=
    ⟨trivial, by simp [Expr.parts, hname "b" (by decide)]⟩
  have htarget : (Expr.tuple [.identifier "c" {}, .list [.identifier "b" {}] {}] {}).WellFormed :=
    ⟨trivial, by simp [Expr.parts, hname "c" (by decide), hlist]⟩
  have hassign : (Stmt.assign [.tuple [.identifier "c" {}, .list [.identifier "b" {}] {}] {}]
      (.identifier "a" {}) {}).WellFormed 1 :=
    ⟨trivial, by simp [Stmt.exprs, htarget, hname "a" (by decide)], by simp [Stmt.suites],
      by simp [Stmt.suites]⟩
  refine ⟨rfl, ?_⟩
  simp only [declaringProgram, List.mem_singleton, forall_eq]
  refine ⟨⟨isName_text (by decide), ?_⟩, by simp [Stmt.exprs], by simp [Stmt.suites],
    by simp [Stmt.suites, hassign]⟩
  simp only [List.mem_singleton, forall_eq]
  exact isText_text "a"

/-- The program with the function is shown in an empty workspace. -/
theorem Workspace.build_declares_nested : declaringProgram.WellFormed ∧
    ({} : Workspace).installed ≠ some declaringProgram.body.toDatum.toJson ∧
    ∃ ws', (Edit.build declaringProgram).run {} = (.ok true, ws') ∧
      (∃ names : List (List CodePoint), ws'.variableNames = names.map Datum.ofPoints ∧
        names.Pairwise (· < ·)) ∧
      (∀ d, d ∈ ws'.variableNames ↔ d ≠ "" ∧ declaringProgram.Declares (.variable d)) ∧
      (∃ functions : List (List CodePoint × ℕ),
        ws'.functions = functions.map (fun f => (.ofPoints f.1, (f.2 : ℤ))) ∧
        functions.Pairwise fun f g => f.1 < g.1 ∨ f.1 = g.1 ∧ f.2 < g.2) ∧
      ∀ (name : Datum) (n : ℕ), (name, (n : ℤ)) ∈ ws'.functions ↔
        declaringProgram.Declares (.function name n) :=
  ⟨declaringProgram_wellFormed, by simp,
    build_declares {} declaringProgram declaringProgram_wellFormed (by simp)⟩

end BlockText

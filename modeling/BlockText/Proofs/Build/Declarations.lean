import BlockText.Proofs.Build.Programs
import BlockText.Proofs.Build.Targets

/-!
# What the blocks of a program declare

The blocks of a statement declare what the statement declares.  There is one lemma for each kind of
statement that declares something or holds statements; the block of any other statement declares
nothing.
-/

namespace BlockText.Edit

open Syntax Workspace Compile

variable {ws : Workspace} {X : BlockId} {b : Block} {slot : String → BlockTree} {level : ℤ}
  {i : Info}

/-! ## Statements and suites -/

/-- The blocks declare what the statement declares. -/
def Announces (s : Stmt) (ts : List BlockTree) : Prop :=
  ∀ d, (∃ t ∈ ts, d ∈ t.declarations) ↔ s.Declares d

/-- The tree declares what the statements declare. -/
def AnnouncesAll (ss : List Stmt) (t : BlockTree) : Prop :=
  ∀ d, d ∈ t.declarations ↔ DeclaredIn ss d

/-- Building the statement gives blocks that declare what it declares. -/
abbrev BuildsAnnouncing (s : Stmt) : Prop := BuildsPieces s (Announces s)

/-- A chain declares what its members declare. -/
private lemma mem_declarations_chainOf {ts : List BlockTree} {rest : BlockTree} {d : Declaration} :
    d ∈ (chainOf ts rest).declarations ↔
      (∃ t ∈ ts, d ∈ t.declarations) ∨ d ∈ rest.declarations := by
  induction ts with
  | nil => simp
  | cons t ts ih =>
    rw [chainOf_cons, BlockTree.mem_declarations_append, ih, List.exists_mem_cons_iff, or_assoc]

/-- Statements that announce what they declare are built into a suite that does. -/
lemma builds_announcing {ss : List Stmt} (hss : ∀ s ∈ ss, BuildsAnnouncing s) :
    Builds (suiteBlocks none none ss) (SuiteOf AnnouncesAll ss) := by
  refine builds_suiteBlocks Announces AnnouncesAll ?_ ?_ hss
  · intro d
    simp [BlockTree.declarations, not_declaredIn_nil]
  · intro s rest ts u hpiece hrest d
    rw [mem_declarations_chainOf, declaredIn_cons, hpiece d, hrest d]

/-- What the statements of a suite that may be missing declare. -/
def OptionallyDeclared (o : Option (Suite Stmt)) (d : Declaration) : Prop :=
  ∃ body ∈ o, DeclaredIn body.statements d

/-- An optional suite announces the declarations of the suite it has. -/
lemma announces_optional {o : Option (Suite Stmt)} {t : BlockTree}
    (h : OptionalOf AnnouncesAll o t) (d : Declaration) :
    d ∈ t.declarations ↔ OptionallyDeclared o d := by
  cases o with
  | none =>
    obtain rfl := h.2
    simp [BlockTree.declarations, OptionallyDeclared]
  | some body =>
    rw [h.2 d]
    simp [OptionallyDeclared]

/-! ## Single blocks -/

/-- The block declares this: it introduces it, or what stands in its slots declares it. -/
def DeclaredBy (b : Block) (slot : String → BlockTree) (d : Declaration) : Prop :=
  d ∈ b.introduced slot ∨ ∃ s ∈ b.statements, d ∈ (slot s).declarations

/-- A single block declares what the block itself declares. -/
lemma mem_declarations_single {d : Declaration} :
    d ∈ (BlockTree.node X b slot .nothing).declarations ↔ DeclaredBy b slot d := by
  simp [BlockTree.declarations, DeclaredBy]

/-- If one block stands for the statement, then what it declares matters. -/
lemma BuildsBlock.announcing {s : Stmt} {t : BlockType}
    {good : BlockId → Block → (String → BlockTree) → Prop} (h : BuildsBlock s t good)
    (hdeclared : ∀ X b slot, b.Proper → b.type = t → good X b slot →
      ∀ d, DeclaredBy b slot d ↔ s.Declares d) : BuildsAnnouncing s := by
  refine h.mono ?_
  rintro ts ⟨X, b, slot, rfl, hproper, ht, hgood⟩ d
  rw [← hdeclared X b slot hproper ht hgood d, ← mem_declarations_single (X := X)]
  simp

/-- What a statement declares: what it introduces, and what its suites declare. -/
lemma declares_iff_declaredIn {s : Stmt} {d : Declaration} :
    s.Declares d ↔ d ∈ s.introduced ∨ ∃ body ∈ s.suites, DeclaredIn body.2.statements d :=
  Stmt.declares_iff

/-- The slots for statements of a block whose counts ask for none. -/
lemma mem_statements_fixed (hproper : b.Proper) {t : BlockType} (ht : b.type = t)
    (hstems : t.statementStems = []) {s : String} : s ∈ b.statements ↔ s ∈ t.statementSlots := by
  obtain ⟨shape, hshape, hhas⟩ := hproper.shaped
  rw [hhas.statements, ht, List.mem_append, or_iff_left_iff_imp]
  intro hs
  obtain ⟨stem, hstem, -⟩ := (BlockType.stem_of_mem_shapeFor hshape).2 s hs
  rw [ht, hstems] at hstem
  cases hstem

/-! ## Statements without suites -/

/-- A statement without code has no block. -/
lemma announces_empty {origin : EmptySource} : BuildsAnnouncing (.empty origin i) := by
  intro ws hws
  rw [stmtBlocks]
  refine ⟨[], rfl, by simp, .refl hws, fun d => ?_⟩
  simp [declares_iff_declaredIn, Stmt.introduced, Stmt.suites]

/-- The block of a simple statement introduces nothing and has no slots for statements. -/
private lemma not_declaredBy_of_isSimple (hproper : b.Proper) (hb : isSimple b.type)
    (d : Declaration) : ¬ DeclaredBy b slot d := by
  have hnone : b.introduced slot = [] := by
    unfold isSimple at hb
    unfold Block.introduced
    cases ht : b.type with
    | varSet | assign | annAssign | forStmt | functionDef =>
      rw [ht] at hb
      cases hb
    | _ => rfl
  have hslots : b.type.statementSlots = [] ∧ b.type.statementStems = [] := by
    revert hb
    cases b.type <;> decide
  rintro (h | ⟨s, hs, -⟩)
  · rw [hnone] at h
    cases h
  · rw [mem_statements_fixed hproper rfl hslots.2, hslots.1] at hs
    cases hs

/-- A simple statement declares nothing, and neither does its block. -/
lemma BuildsSimple.announcing {depth : ℤ} {s : Stmt} (h : BuildsSimple depth s)
    (hs : isSimpleStmt s = true) : BuildsAnnouncing s := by
  intro ws hws
  refine (h ws hws).mono ?_
  rintro ids ws' ⟨ts, hids, hts, hgrove, X, b, slot, rfl, hsimple, -⟩
  refine ⟨_, hids, hts, hgrove, fun d => ?_⟩
  have hblock : ¬ DeclaredBy b slot d :=
    not_declaredBy_of_isSimple (proper_of_opened hgrove) hsimple d
  have hnot : ¬ s.Declares d := by
    rw [declares_iff_declaredIn]
    cases s with
    | ifStmt | whileStmt | forStmt | matchStmt | functionDef | classDef | assign | annAssign
    | tryStmt | withStmt | empty | stray => cases hs
    | _ => simp [Stmt.introduced, Stmt.suites]
  rw [← mem_declarations_single (X := X)] at hblock
  simp [hblock, hnot]

/-- The names are the same as variables. -/
private lemma mem_map_variable {names names' : List Datum}
    (h : ∀ name, name ∈ names ↔ name ∈ names') (d : Declaration) :
    d ∈ names.map Declaration.variable ↔ d ∈ names'.map Declaration.variable := by
  simp only [List.mem_map, h]

/-- A block without slots for statements declares what it introduces. -/
private lemma declaredBy_iff_introduced (hproper : b.Proper) {t : BlockType} (ht : b.type = t)
    (hstems : t.statementStems = []) (hslots : t.statementSlots = []) (d : Declaration) :
    DeclaredBy b slot d ↔ d ∈ b.introduced slot := by
  refine or_iff_left ?_
  rintro ⟨s, hs, -⟩
  rw [mem_statements_fixed hproper ht hstems, hslots] at hs
  cases hs

/-- An annotated assignment announces what its target binds. -/
lemma announces_annAssign {target hint : Expr} {value : Option Expr}
    (htarget : Builds (exprBlock target) (Binds target)) (hhint : BuildsExpr hint)
    (hvalue : ∀ e ∈ value, BuildsExpr e) : BuildsAnnouncing (.annAssign target hint value i) := by
  refine (buildsBlock_annAssign htarget hhint hvalue).announcing fun X b slot hproper ht h d => ?_
  rw [declaredBy_iff_introduced hproper ht rfl rfl, declares_iff_declaredIn]
  simp only [Block.introduced, ht, Stmt.introduced, Stmt.suites, List.not_mem_nil, false_and,
    exists_false, or_false]
  exact mem_map_variable h.target d

/-- The slots for targets of an assignment. -/
private lemma mem_targetSlots (hproper : b.Proper) (ht : b.type = .assign) {n : ℕ}
    (hcount : b.field? "item_count" = some (.int n)) {s : String} :
    s ∈ (b.values.filter fun s => Text.startsWith s "TARGET".toList) ↔ s ∈ indexed "TARGET" n := by
  obtain ⟨shape, hshape, hhas⟩ := hproper.shaped
  have hown : BlockType.assign.shapeFor b.fields = .ok { values := indexed "TARGET" n } := by
    simp [BlockType.shapeFor, countOf_of_entry hcount, bind, Except.bind, pure, Except.pure]
  rw [ht, hown] at hshape
  obtain rfl := Except.ok.inj hshape
  have hstarts : ∀ s ∈ indexed "TARGET" n, Text.startsWith s "TARGET".toList = true := by
    intro s hs
    rw [Text.startsWith, List.isPrefixOf_iff_prefix]
    exact stem_of_mem_indexed hs
  rw [List.mem_filter, hhas.values, ht]
  constructor
  · rintro ⟨hs, hstart⟩
    rcases List.mem_append.mp hs with hs | hs
    · obtain rfl := List.mem_singleton.mp hs
      exact absurd hstart (by decide)
    · exact hs
  · exact fun hs => ⟨List.mem_append_right _ hs, hstarts s hs⟩

/-- An assignment announces what its targets bind. -/
lemma announces_assign {targets : List Expr} {value : Expr}
    (hnames : ∀ name i', targets = [.identifier name i'] → IsName name)
    (htargets : ∀ e ∈ targets, Builds (exprBlock e) (Binds e)) (hvalue : BuildsExpr value) :
    BuildsAnnouncing (.assign targets value i) := by
  by_cases hsingle : ∃ name i', targets = [.identifier name i']
  · obtain ⟨name, i', rfl⟩ := hsingle
    obtain ⟨name, -, rfl⟩ := hnames name i' rfl
    refine (buildsBlock_varSet hvalue).announcing fun X b slot hproper ht h d => ?_
    rw [declaredBy_iff_introduced hproper ht rfl rfl, declares_iff_declaredIn]
    simp [Block.introduced, ht, Stmt.introduced, Stmt.suites, boundNamesIn, Expr.boundNames,
      Block.field, h.1]
  · have hmore : ∀ name i', targets ≠ [.identifier name i'] := fun name i' heq =>
      hsingle ⟨name, i', heq⟩
    have hbinds : ∀ e ∈ targets, Builds (exprBlock e) fun t =>
      IsValue t ∧ ∀ name, name ∈ t.boundNames ↔ name ∈ e.boundNames := htargets
    refine (buildsBlock_assign hmore hbinds hvalue).announcing fun X b slot hproper ht h d => ?_
    rw [declaredBy_iff_introduced hproper ht rfl rfl, declares_iff_declaredIn]
    simp only [Block.introduced, ht, Stmt.introduced, Stmt.suites, List.not_mem_nil, false_and,
      exists_false, or_false]
    refine mem_map_variable (fun name => ?_) d
    rw [List.mem_flatMap, mem_boundNamesIn]
    constructor
    · rintro ⟨s, hs, hname⟩
      obtain ⟨j, hj, rfl⟩ := mem_indexed_iff.mp ((mem_targetSlots hproper ht h.count).mp hs)
      exact ⟨_, List.getElem_mem hj, (h.targets j hj name).mp hname⟩
    · rintro ⟨e, he, hname⟩
      obtain ⟨j, hj, rfl⟩ := List.getElem_of_mem he
      exact ⟨_, (mem_targetSlots hproper ht h.count).mpr (mem_indexed hj),
        (h.targets j hj name).mpr hname⟩

/-! ## Statements with suites -/

/-- What a suite that may be missing declares, among the suites of a statement. -/
private lemma exists_mem_optional {o : Option (Suite Stmt)} {d : Declaration} :
    (∃ body ∈ o.toList.map ((1 : ℤ), ·), DeclaredIn body.2.statements d) ↔
      OptionallyDeclared o d := by
  simp [OptionallyDeclared]

/-- A `while` announces what its bodies declare. -/
lemma announces_while {t : Expr} {body : List Stmt} {orelse : Option (Suite Stmt)}
    (htest : BuildsExpr t) (hbody : ∀ s ∈ body, BuildsAnnouncing s)
    (helse : ∀ body ∈ orelse, ∀ s ∈ body.statements, BuildsAnnouncing s) :
    BuildsAnnouncing (.whileStmt t ⟨body, level⟩ orelse i) := by
  refine (buildsBlock_while htest (builds_announcing hbody)
    (builds_optionalSuite fun body h => builds_announcing (helse body h))).announcing
    fun X b slot hproper ht h d => ?_
  have hslots : ∀ s, s ∈ b.statements ↔ s ∈ ["BODY", "ELSE_BODY"] := fun s =>
    mem_statements_fixed hproper ht rfl
  rw [declares_iff_declaredIn, DeclaredBy, Stmt.suites, List.exists_mem_cons_iff,
    exists_mem_optional]
  simp only [hslots, List.exists_mem_cons_iff, Block.introduced, ht, Stmt.introduced]
  rw [h.body d, announces_optional h.orelse]
  simp

/-- A `for` announces what its target binds and its bodies declare. -/
lemma announces_for {target iter : Expr} {body : List Stmt} {orelse : Option (Suite Stmt)}
    {isAsync : Bool} (htarget : Builds (exprBlock target) (Binds target))
    (hiter : BuildsExpr iter) (hbody : ∀ s ∈ body, BuildsAnnouncing s)
    (helse : ∀ body ∈ orelse, ∀ s ∈ body.statements, BuildsAnnouncing s) :
    BuildsAnnouncing (.forStmt target iter ⟨body, level⟩ orelse isAsync i) := by
  refine (buildsBlock_for htarget hiter (builds_announcing hbody)
    (builds_optionalSuite fun body h => builds_announcing (helse body h))).announcing
    fun X b slot hproper ht h d => ?_
  have hslots : ∀ s, s ∈ b.statements ↔ s ∈ ["BODY", "ELSE_BODY"] := fun s =>
    mem_statements_fixed hproper ht rfl
  rw [declares_iff_declaredIn, DeclaredBy, Stmt.suites, List.exists_mem_cons_iff,
    exists_mem_optional]
  simp only [hslots, List.exists_mem_cons_iff, Block.introduced, ht, Stmt.introduced]
  rw [h.body d, announces_optional h.orelse, mem_map_variable h.target d]
  simp

/-- If one suite is all that a block and its statement hold, then that suite matters. -/
private lemma announced_by_body {s : Stmt} {t : BlockType} {body : List Stmt} (hproper : b.Proper)
    (ht : b.type = t) (hstems : t.statementStems = []) (hslots : t.statementSlots = ["BODY"])
    (hsuites : s.suites = [(1, ⟨body, level⟩)]) (hbody : AnnouncesAll body (slot "BODY"))
    {d : Declaration} (hintroduced : d ∈ b.introduced slot ↔ d ∈ s.introduced) :
    DeclaredBy b slot d ↔ s.Declares d := by
  have hstatements : ∀ s, s ∈ b.statements ↔ s ∈ ["BODY"] := fun s => by
    rw [mem_statements_fixed hproper ht hstems, hslots]
  rw [declares_iff_declaredIn, DeclaredBy, hsuites, hintroduced]
  simp [hstatements, hbody d]

/-- A class announces its name and what its body declares. -/
lemma announces_class {name : Datum} {bases decorators : List Expr} {body : List Stmt}
    (hname : IsName name) (hbases : ∀ e ∈ bases, BuildsExpr e)
    (hdecorators : ∀ e ∈ decorators, BuildsExpr e) (hbody : ∀ s ∈ body, BuildsAnnouncing s) :
    BuildsAnnouncing (.classDef name bases ⟨body, level⟩ decorators i) := by
  obtain ⟨name, -, rfl⟩ := hname
  refine (buildsBlock_class hbases hdecorators (builds_announcing hbody)).announcing
    fun X b slot hproper ht h d => ?_
  refine announced_by_body hproper ht rfl rfl rfl h.body ?_
  simp [Block.introduced, ht, Stmt.introduced]

/-- A `with` announces the names of its items and what its body declares. -/
lemma announces_with {items : List WithItem} {body : List Stmt} {isAsync : Bool}
    (hitems : ∀ w ∈ items, IsOptionalName w.name ∧ BuildsExpr w.context)
    (hbody : ∀ s ∈ body, BuildsAnnouncing s) :
    BuildsAnnouncing (.withStmt items ⟨body, level⟩ isAsync i) := by
  refine (buildsBlock_with hitems (builds_announcing hbody)).announcing
    fun X b slot hproper ht h d => ?_
  refine announced_by_body hproper ht rfl rfl rfl h.body ?_
  simp [Block.introduced, ht, Stmt.introduced]

/-- A function introduces itself and its parameters. -/
lemma announces_function {name : Datum} {ps : List (Param Expr)} {body : List Stmt}
    {decorators : List Expr} {returns : Option Expr} {isAsync : Bool} (hname : IsName name)
    (hps : ∀ p ∈ ps, BuildsParam true p) (hdecorators : ∀ e ∈ decorators, BuildsExpr e)
    (hreturns : ∀ e ∈ returns, BuildsExpr e) (hbody : ∀ s ∈ body, BuildsAnnouncing s) :
    BuildsAnnouncing (.functionDef name ps ⟨body, level⟩ decorators returns isAsync i) := by
  obtain ⟨name, -, rfl⟩ := hname
  refine (buildsBlock_function hps hdecorators hreturns (builds_announcing hbody)).announcing
    fun X b slot hproper ht h d => ?_
  refine announced_by_body hproper ht rfl rfl rfl h.body ?_
  have harity : b.arity = ps.length := by
    rw [Block.arity, Block.itemCount, h.count]
    rfl
  have hparams : ∀ name, name ∈ (indexed "PARAM" ps.length).map (fun s => (b.field? s).getD "") ↔
      name ∈ ps.map (·.name) := by
    intro name
    simp only [List.mem_map]
    constructor
    · rintro ⟨s, hs, rfl⟩
      obtain ⟨j, hj, rfl⟩ := mem_indexed_iff.mp hs
      refine ⟨ps[j], List.getElem_mem hj, ?_⟩
      rw [(h.params j hj).1, Option.getD_some]
    · rintro ⟨p, hp, rfl⟩
      obtain ⟨j, hj, rfl⟩ := List.getElem_of_mem hp
      refine ⟨_, mem_indexed hj, ?_⟩
      rw [(h.params j hj).1, Option.getD_some]
  have hnames := mem_map_variable hparams d
  rw [List.map_map, List.map_map] at hnames
  simp only [Block.introduced, ht, harity, Stmt.introduced, List.mem_cons, Block.field, h.name,
    Option.getD_some]
  exact or_congr_right hnames

/-- A `try` announces the names of its handlers and what its bodies declare. -/
lemma announces_try {body : List Stmt} {hs : List (Handler Stmt)}
    {orelse final : Option (Suite Stmt)} (hbody : ∀ s ∈ body, BuildsAnnouncing s)
    (hhs : ∀ x ∈ hs, IsOptionalName x.name ∧ (∀ e ∈ x.type, BuildsExpr e) ∧
      ∀ s ∈ x.body.statements, BuildsAnnouncing s)
    (helse : ∀ body ∈ orelse, ∀ s ∈ body.statements, BuildsAnnouncing s)
    (hfinal : ∀ body ∈ final, ∀ s ∈ body.statements, BuildsAnnouncing s) :
    BuildsAnnouncing (.tryStmt ⟨body, level⟩ hs orelse final i) := by
  refine (buildsBlock_try (builds_announcing hbody)
    (fun x hx => ⟨(hhs x hx).1, (hhs x hx).2.1, builds_announcing (hhs x hx).2.2⟩)
    (builds_optionalSuite fun body h => builds_announcing (helse body h))
    (builds_optionalSuite fun body h => builds_announcing (hfinal body h))).announcing
    fun X b slot hproper ht h d => ?_
  have hslots : ∀ s, s ∈ b.statements ↔
      s ∈ ["BODY", "ELSE_BODY", "FINALLY_BODY"] ∨ s ∈ indexed "EXCEPT_BODY" hs.length := by
    intro s
    obtain ⟨shape, hshape, hhas⟩ := hproper.shaped
    have hown : BlockType.tryStmt.shapeFor b.fields = .ok
        { values := indexed "EXCEPT_TYPE" hs.length
          statements := indexed "EXCEPT_BODY" hs.length
          fields := (indexed "EXCEPT_NAME" hs.length).map (·, "") } := by
      simp [BlockType.shapeFor, countOf_of_entry h.count, bind, Except.bind, pure, Except.pure]
    rw [ht, hown] at hshape
    obtain rfl := Except.ok.inj hshape
    rw [hhas.statements, ht, List.mem_append]
    rfl
  have hhandlers : (∃ s ∈ indexed "EXCEPT_BODY" hs.length, d ∈ (slot s).declarations) ↔
      ∃ x ∈ hs, DeclaredIn x.body.statements d := by
    constructor
    · rintro ⟨s, hs', hd⟩
      obtain ⟨j, hj, rfl⟩ := mem_indexed_iff.mp hs'
      exact ⟨hs[j], List.getElem_mem hj, ((h.handlers j hj).body d).mp hd⟩
    · rintro ⟨x, hx, hd⟩
      obtain ⟨j, hj, rfl⟩ := List.getElem_of_mem hx
      exact ⟨_, mem_indexed hj, ((h.handlers j hj).body d).mpr hd⟩
  have hsuites : (∃ inner ∈ (Stmt.tryStmt ⟨body, level⟩ hs orelse final i).suites,
      DeclaredIn inner.2.statements d) ↔ ((DeclaredIn body d ∨
        ∃ x ∈ hs, DeclaredIn x.body.statements d) ∨ OptionallyDeclared orelse d) ∨
          OptionallyDeclared final d := by
    simp [Stmt.suites, OptionallyDeclared, or_assoc, or_and_right, exists_or]
  rw [declares_iff_declaredIn, hsuites, DeclaredBy]
  simp only [hslots, or_and_right, exists_or, hhandlers, List.exists_mem_cons_iff, Block.introduced,
    ht, Stmt.introduced]
  rw [h.body d, announces_optional h.orelse, announces_optional h.final]
  simp only [List.not_mem_nil, false_or, false_and, exists_false, or_false]
  generalize (∃ x ∈ hs, DeclaredIn x.body.statements d) = inHandlers
  tauto

/-- A block that introduces nothing and holds one suite declares what that suite declares. -/
private lemma declaredBy_iff_body {t : BlockType} {body : List Stmt} (hproper : b.Proper)
    (ht : b.type = t) (hsilent : t = .ifStmt ∨ t = .elifStmt ∨ t = .elseStmt ∨ t = .caseStmt)
    (hbody : AnnouncesAll body (slot "BODY")) (d : Declaration) :
    DeclaredBy b slot d ↔ DeclaredIn body d := by
  have hfits : t.statementStems = [] ∧ t.statementSlots = ["BODY"] := by
    rcases hsilent with rfl | rfl | rfl | rfl <;> exact ⟨rfl, rfl⟩
  have hnone : b.introduced slot = [] := by
    unfold Block.introduced
    rw [ht]
    rcases hsilent with rfl | rfl | rfl | rfl <;> rfl
  have hstatements : ∀ s, s ∈ b.statements ↔ s ∈ ["BODY"] := fun s => by
    rw [mem_statements_fixed hproper ht hfits.1, hfits.2]
  simp [DeclaredBy, hnone, hstatements, hbody d]

/-- Blocks of cases declare what the suites of the cases declare. -/
private lemma announces_cases {t : BlockTree} {cs : List (MatchCase Stmt)}
    (h : HoldsCases AnnouncesAll t cs) (d : Declaration) :
    d ∈ t.declarations ↔ ∃ c ∈ cs, DeclaredIn c.body.statements d := by
  induction cs generalizing t with
  | nil =>
    obtain rfl := h
    simp [BlockTree.declarations]
  | cons c rest ih =>
    obtain ⟨X, b, slot, next, rfl, hcase, hnext⟩ := h
    have hfirst := declaredBy_iff_body hcase.proper hcase.type (.inr (.inr (.inr rfl))) hcase.body d
    rw [BlockTree.mem_declarations_node, ← or_assoc, ih hnext, List.exists_mem_cons_iff, ← hfirst]
    rfl

/-- A `match` announces what the bodies of its cases declare. -/
lemma announces_match {subject : Expr} {cs : List (MatchCase Stmt)} (hsubject : BuildsExpr subject)
    (hcs : ∀ c ∈ cs, c.pattern.Sane ∧ ∀ s ∈ c.body.statements, BuildsAnnouncing s) :
    BuildsAnnouncing (.matchStmt subject cs i) := by
  refine (buildsBlock_match hsubject fun c hc =>
    ⟨(hcs c hc).1, builds_announcing (hcs c hc).2⟩).announcing fun X b slot hproper ht h d => ?_
  have hslots : ∀ s, s ∈ b.statements ↔ s ∈ ["CASES"] := fun s =>
    mem_statements_fixed hproper ht rfl
  rw [declares_iff_declaredIn, DeclaredBy]
  simp [hslots, Block.introduced, ht, Stmt.introduced, Stmt.suites, announces_cases h.cases]

/-- Blocks of further conditions declare what their suites declare. -/
private lemma announces_elifs {elifs : List (ElifClause Stmt)} {ts : List BlockTree}
    (h : HoldsElifs AnnouncesAll elifs ts) (d : Declaration) :
    (∃ t ∈ ts, d ∈ t.declarations) ↔ ∃ c ∈ elifs, DeclaredIn c.body.statements d := by
  induction elifs generalizing ts with
  | nil =>
    obtain rfl := h
    simp
  | cons c rest ih =>
    obtain ⟨X, b, slot, ts', rfl, hbranch, hts'⟩ := h
    have hfirst := declaredBy_iff_body hbranch.proper hbranch.type (.inr (.inl rfl)) hbranch.body d
    rw [List.exists_mem_cons_iff, List.exists_mem_cons_iff, ih hts', mem_declarations_single, hfirst]

/-- The block of a last alternative declares what its suite declares. -/
private lemma announces_else {orelse : Option (Suite Stmt)} {ts : List BlockTree}
    (h : HoldsElse AnnouncesAll orelse ts) (d : Declaration) :
    (∃ t ∈ ts, d ∈ t.declarations) ↔ OptionallyDeclared orelse d := by
  cases orelse with
  | none =>
    obtain rfl := h
    simp [OptionallyDeclared]
  | some body =>
    obtain ⟨X, b, slot, rfl, hproper, ht, hbody⟩ := h
    have hblock := declaredBy_iff_body hproper ht (.inr (.inr (.inl rfl))) hbody d
    rw [← mem_declarations_single (X := X)] at hblock
    simp [OptionallyDeclared, hblock]

/-- An `if` announces what the bodies of all its branches declare. -/
lemma announces_if {t : Expr} {body : List Stmt} {elifs : List (ElifClause Stmt)}
    {orelse : Option (Suite Stmt)} (htest : BuildsExpr t) (hbody : ∀ s ∈ body, BuildsAnnouncing s)
    (helifs : ∀ c ∈ elifs, BuildsExpr c.test ∧ ∀ s ∈ c.body.statements, BuildsAnnouncing s)
    (helse : ∀ body ∈ orelse, ∀ s ∈ body.statements, BuildsAnnouncing s) :
    BuildsAnnouncing (.ifStmt t ⟨body, level⟩ elifs orelse i) := by
  refine (buildsPieces_if htest (builds_announcing hbody)
    (fun c hc => ⟨(helifs c hc).1, builds_announcing (helifs c hc).2⟩)
    fun body h => builds_announcing (helse body h)).mono ?_
  rintro ts ⟨X, b, slot, us, vs, rfl, hbranch, hus, hvs⟩ d
  have hfirst := declaredBy_iff_body hbranch.proper hbranch.type (.inl rfl) hbranch.body d
  have hpieces : (∃ t ∈ us ++ vs, d ∈ t.declarations) ↔
      (∃ c ∈ elifs, DeclaredIn c.body.statements d) ∨ OptionallyDeclared orelse d := by
    rw [← announces_elifs hus, ← announces_else hvs]
    simp only [List.mem_append, or_and_right, exists_or]
  have hsuites : (∃ inner ∈ (Stmt.ifStmt t ⟨body, level⟩ elifs orelse i).suites,
      DeclaredIn inner.2.statements d) ↔ DeclaredIn body d ∨
        (∃ c ∈ elifs, DeclaredIn c.body.statements d) ∨ OptionallyDeclared orelse d := by
    simp [Stmt.suites, OptionallyDeclared, or_and_right, exists_or]
  rw [List.exists_mem_cons_iff, mem_declarations_single, hfirst, hpieces, declares_iff_declaredIn,
    hsuites]
  simp [Stmt.introduced]

/-! ## All statements -/

/-- The blocks of every well-formed statement declare what the statement declares. -/
theorem builds_declarations {depth : ℤ} {s : Stmt} (h : s.WellFormed depth) :
    BuildsAnnouncing s := by
  induction h with
  | @intro depth s sane exprs level suites ih =>
    have hwell : s.WellFormed depth := .intro sane exprs level suites
    have hexprs : ∀ e ∈ s.exprs, BuildsExpr e := fun e he => builds_of_wellFormed (exprs e he)
    have htargets : ∀ e ∈ s.exprs, Builds (exprBlock e) (Binds e) := fun e he =>
      builds_binds (exprs e he)
    have hoption : ∀ o : Option Expr, (∀ e, o = some e → e ∈ s.exprs) → ∀ e ∈ o, BuildsExpr e :=
      fun o ho e he => hexprs e (ho e he)
    have hoptional : ∀ o : Option (Suite Stmt), (∀ body, o = some body → (1, body) ∈ s.suites) →
        ∀ body ∈ o, ∀ inner ∈ body.statements, BuildsAnnouncing inner := fun o ho body hbody =>
      ih _ (ho body hbody)
    cases s with
    | ifStmt t body elifs orelse i =>
      refine announces_if (hexprs t (by simp [Stmt.exprs])) (ih (1, body) (by simp [Stmt.suites]))
        (fun c hc => ⟨hexprs _ (by simpa [Stmt.exprs] using .inr ⟨c, hc, rfl⟩), ih (1, c.body) ?_⟩)
        (hoptional orelse fun body h => by simp [Stmt.suites, h])
      simpa [Stmt.suites] using .inr (.inl ⟨c, hc, rfl⟩)
    | whileStmt t body orelse i =>
      exact announces_while (hexprs t (by simp [Stmt.exprs]))
        (ih (1, body) (by simp [Stmt.suites]))
        (hoptional orelse fun body h => by simp [Stmt.suites, h])
    | forStmt target iter body orelse isAsync i =>
      exact announces_for (htargets target (by simp [Stmt.exprs]))
        (hexprs iter (by simp [Stmt.exprs])) (ih (1, body) (by simp [Stmt.suites]))
        (hoptional orelse fun body h => by simp [Stmt.suites, h])
    | matchStmt subject cases i =>
      refine announces_match (hexprs subject (by simp [Stmt.exprs])) fun c hc =>
        ⟨sane.2 c hc, ih (2, c.body) ?_⟩
      simpa [Stmt.suites] using ⟨c, hc, rfl⟩
    | functionDef name ps body decorators returns isAsync i =>
      have hparam : ∀ p ∈ ps, ∀ e ∈ p.hint.toList ++ p.preset.toList, BuildsExpr e :=
        fun p hp e he => hexprs e (List.mem_append_left _ (List.mem_append_left _
          (List.mem_flatMap.mpr ⟨p, hp, he⟩)))
      exact announces_function sane.1 (fun p hp => ⟨sane.2 p hp, by simp,
          fun e he => hparam p hp e (by simp [Option.mem_def.mp he]),
          fun e he => hparam p hp e (by simp [Option.mem_def.mp he])⟩)
        (fun e he => hexprs e (List.mem_append_left _ (List.mem_append_right _ he)))
        (hoption returns fun e he => List.mem_append_right _ (by simpa using he))
        (ih (1, body) (by simp [Stmt.suites]))
    | classDef name bases body decorators i =>
      exact announces_class sane (fun e he => hexprs e (List.mem_append_left _ he))
        (fun e he => hexprs e (List.mem_append_right _ he)) (ih (1, body) (by simp [Stmt.suites]))
    | assign targets value i =>
      refine announces_assign (fun name i' htarget => ?_)
        (fun e he => htargets e (List.mem_cons_of_mem _ he)) (hexprs value (by simp [Stmt.exprs]))
      have htarget : (Expr.identifier name i').WellFormed := exprs _ (by simp [Stmt.exprs, htarget])
      obtain ⟨hname, -⟩ := htarget
      exact hname
    | annAssign target hint value i =>
      exact announces_annAssign (htargets target (by simp [Stmt.exprs]))
        (hexprs hint (by simp [Stmt.exprs])) (hoption value fun e he => by simp [Stmt.exprs, he])
    | tryStmt body handlers orelse final i =>
      refine announces_try (ih (1, body) (by simp [Stmt.suites])) (fun h hh =>
          ⟨sane h hh, hoption h.type fun e he => List.mem_flatMap.mpr ⟨h, hh, by simpa using he⟩,
            ih (1, h.body) ?_⟩)
        (hoptional orelse fun body h => by simp [Stmt.suites, h])
        (hoptional final fun body h => by simp [Stmt.suites, h])
      simpa [Stmt.suites] using .inr (.inl ⟨h, hh, rfl⟩)
    | withStmt items body isAsync i =>
      exact announces_with (fun w hw => ⟨sane w hw, hexprs _ (List.mem_map_of_mem hw)⟩)
        (ih (1, body) (by simp [Stmt.suites]))
    | empty origin i => exact announces_empty
    | stray d => exact sane.elim
    | _ => exact (buildsSimple_of_wellFormed hwell rfl).announcing rfl

end BlockText.Edit

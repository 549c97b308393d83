import BlockText.Proofs.Build.Statements

/-!
# Blocks of compound statements

Compound statements hold suites.  Most have one block, with their suites in its slots; a conditional
has one block for each alternative, one after another, and the cases of a `match` statement are a
chain of blocks in a slot.  Again there is one lemma for each kind of statement.
-/

namespace BlockText.Edit

open Syntax Workspace Compile

variable {ws₀ ws : Workspace} {X : BlockId} {b : Block} {slot : String → BlockTree}
  {depth level : ℤ} {i : Info} {whole : List Stmt → BlockTree → Prop}

/-- The slots for statements that the counts of the block ask for. -/
private lemma mem_countedBody (h : Opened ws₀ ws X b slot) {t : BlockType} (ht : b.type = t)
    {shape : BlockShape} (hshape : t.shapeFor b.fields = .ok shape) {s : String}
    (hs : s ∈ shape.statements) : s ∈ b.statements := by
  obtain ⟨shape', hshape', hhas⟩ := (proper_of_opened h).shaped
  rw [ht, hshape] at hshape'
  obtain rfl := Except.ok.inj hshape'
  rw [hhas.statements]
  exact List.mem_append_right _ hs

/-! ## Suites that may be missing -/

/-- The statements of a suite that may be missing can be built, and the suite is one deeper. -/
def BuildsOptional (depth : ℤ) (o : Option (Suite Stmt)) : Prop :=
  ∀ body ∈ o, body.level = depth + 1 ∧ ∀ s ∈ body.statements, BuildsStmt (depth + 1) s

/-- A chain that shows statements that may be missing. -/
abbrev ShowsOptionalSuite (depth : ℤ) : Option (Suite Stmt) → BlockTree → Prop :=
  OptionalOf fun ss t => Tells t depth ss

/-- A body that may be there is built as it is shown. -/
lemma BuildsOptional.builds {o : Option (Suite Stmt)} (h : BuildsOptional depth o) :
    Builds (optionalSuite o) (ShowsOptionalSuite (depth + 1) o) :=
  builds_optionalSuite fun body hbody => builds_suite (h body hbody).2

/-- The flag tells whether the suite is there. -/
lemma showsBody_of_suite {o : Option (Suite Stmt)} {flag s : String} (h : BuildsOptional depth o)
    (hflag : b.field? flag = some (.bool o.isSome))
    (hshows : ShowsOptionalSuite (depth + 1) o (slot s)) : ShowsBody b slot flag s depth o := by
  cases o with
  | none => exact ⟨hflag, hshows.2⟩
  | some body => exact ⟨hflag, (h body rfl).1, hshows.2⟩

/-! ## Loops -/

/-- What the block of a `while` statement consists of. -/
structure HoldsWhile (whole : List Stmt → BlockTree → Prop) (t : Expr) (body : List Stmt)
    (orelse : Option (Suite Stmt)) (b : Block) (slot : String → BlockTree) : Prop where
  flag : b.field? "has_else" = some (.bool orelse.isSome)
  test : Reads (slot "COND") t
  body : whole body (slot "BODY")
  orelse : OptionalOf whole orelse (slot "ELSE_BODY")

/-- The block of a loop with a condition, from what its parts are built as. -/
lemma buildsBlock_while {t : Expr} {body : List Stmt} {orelse : Option (Suite Stmt)}
    (htest : BuildsExpr t) (hbody : Builds (suiteBlocks none none body) (SuiteOf whole body))
    (helse : Builds (optionalSuite orelse) (OptionalOf whole orelse)) :
    BuildsBlock (.whileStmt t ⟨body, level⟩ orelse i) .whileStmt fun _ =>
      HoldsWhile whole t body orelse := by
  intro ws hws
  rw [stmtBlocks]
  refine yields_newBlock hws (by decide) (by decide) (by simp)
    ((fitting_bool rfl).cons fitting_nil) fun X b ws₁ h₁ ht _ hflag => ?_
  refine yields_plug hws.forest h₁ htest (fun _ h => h.1) (mem_values h₁ ht (by decide)) rfl
    fun slot₂ ws₂ htest' k₂ h₂ => ?_
  refine yields_fill hws.forest h₂ hbody (fun _ h => h.1) (mem_statements h₁ ht (by decide))
    (by rw [k₂.slot _ (by decide)]) fun slot₃ ws₃ hbody' k₃ h₃ => ?_
  refine yields_fill hws.forest h₃ helse (fun _ h => h.1) (mem_statements h₁ ht (by decide))
    (by rw [k₃.slot _ (by decide), k₂.slot _ (by decide)]) fun slot₄ ws₄ helse' k₄ h₄ => ?_
  refine yields_block _ h₄ ht rfl ⟨hflag, ?_, ?_, helse'⟩
  · rw [k₄.slot _ (by decide), k₃.slot _ (by decide)]
    exact htest'.2
  · rw [k₄.slot _ (by decide)]
    exact hbody'.2

/-- A loop with a condition is built as a block that is read as the loop. -/
lemma builds_while {t : Expr} {body : List Stmt} {orelse : Option (Suite Stmt)}
    (htest : BuildsExpr t) (hbody : ∀ s ∈ body, BuildsStmt (depth + 1) s)
    (helse : BuildsOptional depth orelse) :
    BuildsStmt depth (.whileStmt t ⟨body, depth + 1⟩ orelse i) :=
  (buildsBlock_while htest (builds_suite hbody) helse.builds).buildsStmt rfl fun _ _ _ ht h =>
    readsStmt_while ht h.test h.body (showsBody_of_suite helse h.flag h.orelse)

/-- What the block of a `for` statement consists of. -/
structure HoldsFor (bound : BlockTree → Prop) (whole : List Stmt → BlockTree → Prop) (iter : Expr)
    (body : List Stmt) (orelse : Option (Suite Stmt)) (isAsync : Bool) (b : Block)
    (slot : String → BlockTree) : Prop where
  isAsync : b.field? "is_async" = some (.bool isAsync)
  flag : b.field? "has_else" = some (.bool orelse.isSome)
  target : bound (slot "TARGET")
  iter : Reads (slot "ITER") iter
  body : whole body (slot "BODY")
  orelse : OptionalOf whole orelse (slot "ELSE_BODY")

/-- The block of a loop over items, from what its parts are built as. -/
lemma buildsBlock_for {target iter : Expr} {body : List Stmt} {orelse : Option (Suite Stmt)}
    {isAsync : Bool} {bound : BlockTree → Prop}
    (htarget : Builds (exprBlock target) fun t => IsValue t ∧ bound t) (hiter : BuildsExpr iter)
    (hbody : Builds (suiteBlocks none none body) (SuiteOf whole body))
    (helse : Builds (optionalSuite orelse) (OptionalOf whole orelse)) :
    BuildsBlock (.forStmt target iter ⟨body, level⟩ orelse isAsync i) .forStmt fun _ =>
      HoldsFor bound whole iter body orelse isAsync := by
  intro ws hws
  rw [stmtBlocks]
  refine yields_newBlock hws (by decide) (by decide) (by simp)
    ((fitting_bool rfl).cons ((fitting_bool rfl).cons fitting_nil)) fun X b ws₁ h₁ ht _ hfs => ?_
  obtain ⟨hasync, hflag⟩ := hfs
  refine yields_plug hws.forest h₁ htarget (fun _ h => h.1) (mem_values h₁ ht (by decide)) rfl
    fun slot₂ ws₂ htarget' k₂ h₂ => ?_
  refine yields_plug hws.forest h₂ hiter (fun _ h => h.1) (mem_values h₁ ht (by decide))
    (by rw [k₂.slot _ (by decide)]) fun slot₃ ws₃ hiter' k₃ h₃ => ?_
  refine yields_fill hws.forest h₃ hbody (fun _ h => h.1) (mem_statements h₁ ht (by decide))
    (by rw [k₃.slot _ (by decide), k₂.slot _ (by decide)]) fun slot₄ ws₄ hbody' k₄ h₄ => ?_
  refine yields_fill hws.forest h₄ helse (fun _ h => h.1) (mem_statements h₁ ht (by decide))
    (by rw [k₄.slot _ (by decide), k₃.slot _ (by decide), k₂.slot _ (by decide)])
    fun slot₅ ws₅ helse' k₅ h₅ => ?_
  refine yields_block _ h₅ ht rfl ⟨hasync, hflag, ?_, ?_, ?_, helse'⟩
  · rw [k₅.slot _ (by decide), k₄.slot _ (by decide), k₃.slot _ (by decide)]
    exact htarget'.2
  · rw [k₅.slot _ (by decide), k₄.slot _ (by decide)]
    exact hiter'.2
  · rw [k₅.slot _ (by decide)]
    exact hbody'.2

/-- A loop over items is built as a block that is read as the loop. -/
lemma builds_for {target iter : Expr} {body : List Stmt} {orelse : Option (Suite Stmt)}
    {isAsync : Bool} (htarget : BuildsExpr target) (hiter : BuildsExpr iter)
    (hbody : ∀ s ∈ body, BuildsStmt (depth + 1) s) (helse : BuildsOptional depth orelse) :
    BuildsStmt depth (.forStmt target iter ⟨body, depth + 1⟩ orelse isAsync i) :=
  (buildsBlock_for htarget hiter (builds_suite hbody) helse.builds).buildsStmt rfl
    fun _ _ _ ht h => readsStmt_for ht h.isAsync h.target h.iter h.body
      (showsBody_of_suite helse h.flag h.orelse)

/-! ## Definitions -/

/-- What the block of a class consists of. -/
structure HoldsClass (whole : List Stmt → BlockTree → Prop) (name : List CodePoint)
    (bases decorators : List Expr) (body : List Stmt) (b : Block) (slot : String → BlockTree) :
    Prop where
  name : b.field? "name" = some (.ofPoints name)
  count : b.field? "item_count" = some (.int bases.length)
  decoratorCount : b.field? "decorator_count" = some (.int decorators.length)
  bases : ∀ j (hj : j < bases.length), Reads (slot s!"BASE{j}") bases[j]
  decorators : ∀ j (hj : j < decorators.length), Reads (slot s!"DECORATOR{j}") decorators[j]
  body : whole body (slot "BODY")

/-- The block of a class, from what its parts are built as. -/
lemma buildsBlock_class {name : List CodePoint} {bases decorators : List Expr} {body : List Stmt}
    (hbases : ∀ e ∈ bases, BuildsExpr e) (hdecorators : ∀ e ∈ decorators, BuildsExpr e)
    (hbody : Builds (suiteBlocks none none body) (SuiteOf whole body)) :
    BuildsBlock (.classDef (.ofPoints name) bases ⟨body, level⟩ decorators i) .classDef fun _ =>
      HoldsClass whole name bases decorators body := by
  intro ws hws
  rw [stmtBlocks]
  refine yields_newBlock hws (by decide) (by decide) (by simp)
    ((fitting_text ⟨_, rfl⟩ rfl).cons ((fitting_count rfl).cons ((fitting_count rfl).cons fitting_nil)))
    fun X b ws₁ h₁ ht _ hfs => ?_
  obtain ⟨hname, hcount, hdcount⟩ := hfs
  have hshape : BlockType.classDef.shapeFor b.fields = .ok
      { values := indexed "BASE" bases.length ++ indexed "DECORATOR" decorators.length } := by
    simp [BlockType.shapeFor, countOf_of_entry hcount, countOf_of_entry hdcount, bind, Except.bind,
      pure, Except.pure]
  have hapart : ∀ j k : ℕ, s!"BASE{j}" ≠ s!"DECORATOR{k}" :=
    fun j k => indexed_ne_of_stem (by decide) (by decide) (by decide)
  refine yields_plugAll hws.forest h₁ hbases
    (fun j hj => mem_counted h₁ ht hshape (List.mem_append_left _ (mem_indexed hj)))
    (fun _ _ => rfl) fun b₂ slot₂ ws₂ hbases' k₂ h₂ => ?_
  refine yields_plugAll hws.forest h₂ hdecorators
    (fun j hj => k₂.values _
      (mem_counted h₁ ht hshape (List.mem_append_right _ (mem_indexed hj))))
    (fun j _ => by rw [k₂.slot _ fun k => (hapart k j).symm])
    fun b₃ slot₃ ws₃ hdecorators' k₃ h₃ => ?_
  refine yields_fill hws.forest h₃ hbody (fun _ h => h.1)
    (k₃.statements _ (k₂.statements _ (mem_statements h₁ ht (by decide)))) ?_
    fun slot₄ ws₄ hbody' k₄ h₄ => ?_
  · rw [k₃.slot _ fun j => (indexed_ne (by decide) j).symm,
      k₂.slot _ fun j => (indexed_ne (by decide) j).symm]
  have ht₃ : b₃.type = .classDef := k₃.type.trans (k₂.type.trans ht)
  have hfields : ∀ {name : String} {d : Datum}, Wordy name → b.field? name = some d →
      b₃.field? name = some d := fun hname hd =>
    k₃.field _ _ (fun j => (indexed_ne hname j).symm)
      (k₂.field _ _ (fun j => (indexed_ne hname j).symm) hd)
  refine yields_block _ h₄ ht₃ rfl ⟨hfields (by decide) hname, hfields (by decide) hcount,
    hfields (by decide) hdcount, fun j hj => ?_, fun j hj => ?_, hbody'.2⟩
  · rw [k₄.slot _ (indexed_ne (by decide) j), k₃.slot _ (hapart j)]
    exact hbases' j hj
  · rw [k₄.slot _ (indexed_ne (by decide) j)]
    exact hdecorators' j hj

/-- A class is built as a block that is read as the class. -/
lemma builds_class {name : Datum} {bases decorators : List Expr} {body : List Stmt}
    (hname : IsName name) (hbases : ∀ e ∈ bases, BuildsExpr e)
    (hdecorators : ∀ e ∈ decorators, BuildsExpr e)
    (hbody : ∀ s ∈ body, BuildsStmt (depth + 1) s) :
    BuildsStmt depth (.classDef name bases ⟨body, depth + 1⟩ decorators i) := by
  obtain ⟨name, hne, rfl⟩ := hname
  exact (buildsBlock_class hbases hdecorators (builds_suite hbody)).buildsStmt rfl
    fun _ _ _ ht h => readsStmt_class ht h.name hne h.count h.decoratorCount h.bases h.decorators
      h.body

/-- What the block of a function consists of. -/
structure HoldsFunction (whole : List Stmt → BlockTree → Prop) (name : List CodePoint)
    (ps : List (Param Expr)) (body : List Stmt) (decorators : List Expr) (returns : Option Expr)
    (isAsync : Bool) (b : Block) (slot : String → BlockTree) : Prop where
  name : b.field? "name" = some (.ofPoints name)
  isAsync : b.field? "is_async" = some (.bool isAsync)
  count : b.field? "item_count" = some (.int ps.length)
  decoratorCount : b.field? "decorator_count" = some (.int decorators.length)
  params : ∀ j (hj : j < ps.length), ShowsParam b slot true j ps[j]
  decorators : ∀ j (hj : j < decorators.length), Reads (slot s!"DECORATOR{j}") decorators[j]
  returns : ReadsOption (slot "RETURN_TYPE") returns
  body : whole body (slot "BODY")

/-- The block of a function, from what its parts are built as. -/
lemma buildsBlock_function {name : List CodePoint} {ps : List (Param Expr)} {body : List Stmt}
    {decorators : List Expr} {returns : Option Expr} {isAsync : Bool}
    (hps : ∀ p ∈ ps, BuildsParam true p) (hdecorators : ∀ e ∈ decorators, BuildsExpr e)
    (hreturns : ∀ e ∈ returns, BuildsExpr e)
    (hbody : Builds (suiteBlocks none none body) (SuiteOf whole body)) :
    BuildsBlock (.functionDef (.ofPoints name) ps ⟨body, level⟩ decorators returns isAsync i)
      .functionDef fun _ => HoldsFunction whole name ps body decorators returns isAsync := by
  intro ws hws
  rw [stmtBlocks]
  refine yields_newBlock hws (by decide) (by decide) (by simp)
    ((fitting_text ⟨_, rfl⟩ rfl).cons ((fitting_bool rfl).cons ((fitting_count rfl).cons
      ((fitting_count rfl).cons fitting_nil)))) fun X b ws₁ h₁ ht _ hfs => ?_
  obtain ⟨hname, hasync, hcount, hdcount⟩ := hfs
  have hshape : BlockType.functionDef.shapeFor b.fields = .ok
      { values := indexed "ANNOTATION" ps.length ++ indexed "DEFAULT" ps.length ++
          indexed "DECORATOR" decorators.length
        fields := paramFields ps.length } := by
    simp [BlockType.shapeFor, countOf_of_entry hcount, countOf_of_entry hdcount, bind, Except.bind,
      pure, Except.pure]
  have hapart : ∀ j k : ℕ, ¬ Owns paramStems k s!"DECORATOR{j}" :=
    fun j k => not_owns_indexed (by decide) (by decide) (by decide) k j
  refine yields_plugParams hws.forest (by decide) h₁ hps
    (ready_of_shape h₁ ht hshape (by simp +contextual [paramSlotStems]) fun _ _ _ => rfl)
    fun b₂ slot₂ ws₂ hps' k₂ h₂ => ?_
  refine yields_plugAll hws.forest h₂ hdecorators
    (fun j hj => k₂.values _
      (mem_counted h₁ ht hshape (List.mem_append_right _ (mem_indexed hj))))
    (fun j _ => by rw [k₂.slot _ (hapart j)]) fun b₃ slot₃ ws₃ hdecorators' k₃ h₃ => ?_
  have hkeep : Keeps Wordy b noSlots b₃ slot₃ :=
    (k₂.mono fun _ h => not_owns_wordy h).trans (k₃.mono fun _ h j => (indexed_ne h j).symm)
  refine yields_plug hws.forest h₃ (builds_option hreturns) (fun _ h => h.1)
    (hkeep.values _ (mem_values h₁ ht (by decide))) (by rw [hkeep.slot _ (by decide)])
    fun slot₄ ws₄ hreturns' k₄ h₄ => ?_
  refine yields_fill hws.forest h₄ hbody (fun _ h => h.1)
    (hkeep.statements _ (mem_statements h₁ ht (by decide)))
    (by rw [k₄.slot _ (by decide), hkeep.slot _ (by decide)]) fun slot₅ ws₅ hbody' k₅ h₅ => ?_
  refine yields_block _ h₅ (hkeep.type.trans ht) rfl
    ⟨hkeep.field _ _ (by decide) hname, hkeep.field _ _ (by decide) hasync,
      hkeep.field _ _ (by decide) hcount, hkeep.field _ _ (by decide) hdcount,
      fun j hj => ?_, fun j hj => ?_, ?_, hbody'.2⟩
  · have hstems : ∀ stem ∈ paramStems, Wordy stem ∧ stem ≠ "DECORATOR" := by decide
    have h₃' : ShowsParam b₃ slot₃ true j ps[j] :=
      showsParam_of_keeps k₃ (fun stem hstem k => indexed_ne_of_stem (hstems stem hstem).1
        (by decide) (hstems stem hstem).2) (hps' j hj)
    have h₄' : ShowsParam b₃ slot₄ true j ps[j] :=
      showsParam_of_keeps k₄ (fun stem _ => indexed_ne (by decide) j) h₃'
    exact showsParam_of_keeps k₅ (fun stem _ => indexed_ne (by decide) j) h₄'
  · rw [k₅.slot _ (indexed_ne (by decide) j), k₄.slot _ (indexed_ne (by decide) j)]
    exact hdecorators' j hj
  · rw [k₅.slot _ (by decide)]
    exact hreturns'.2

/-- A function is built as a block that is read as the function. -/
lemma builds_function {name : Datum} {ps : List (Param Expr)} {body : List Stmt}
    {decorators : List Expr} {returns : Option Expr} {isAsync : Bool} (hname : IsName name)
    (hps : ∀ p ∈ ps, BuildsParam true p) (hdecorators : ∀ e ∈ decorators, BuildsExpr e)
    (hreturns : ∀ e ∈ returns, BuildsExpr e) (hbody : ∀ s ∈ body, BuildsStmt (depth + 1) s) :
    BuildsStmt depth (.functionDef name ps ⟨body, depth + 1⟩ decorators returns isAsync i) := by
  obtain ⟨name, hne, rfl⟩ := hname
  exact (buildsBlock_function hps hdecorators hreturns (builds_suite hbody)).buildsStmt rfl
    fun _ _ _ ht h => readsStmt_function ht h.name hne h.isAsync h.count h.decoratorCount h.params
      h.decorators h.returns h.body

/-! ## Contexts -/

/-- A context is plugged in with its name. -/
private lemma yields_context {w : WithItem} {j : ℕ} (h₀ : ws₀.Forest) (h : Opened ws₀ ws X b slot)
    (hready : Ready .withStmt ["CONTEXT"] [] j b slot) (hname : IsOptionalName w.name)
    (hcontext : BuildsExpr w.context) :
    Yields (do
      plug X s!"CONTEXT{j}" (← exprBlock w.context)
      setField X s!"NAME{j}" (w.name.orElse "")) ws fun _ ws' => ∃ b' slot',
        Opened ws₀ ws' X b' slot' ∧ ShowsContext b' slot' j w ∧
        Keeps (fun s => ¬ Owns ["CONTEXT", "NAME"] j s) b slot b' slot' := by
  obtain ⟨hmem, hempty⟩ := hready.value "CONTEXT" (by decide)
  have hapart : s!"CONTEXT{j}" ≠ s!"NAME{j}" :=
    indexed_ne_of_stem (by decide) (by decide) (by decide)
  rw [← bind_pure_unit (x := setField X s!"NAME{j}" _)]
  refine yields_plug h₀ h hcontext (fun _ h => h.1) hmem hempty fun slot₁ ws₁ hcontext' k₁ h₁ => ?_
  refine yields_setText h₁ (isText_orElse hname) (by rw [hready.type]; decide) (by decide)
    fun b₂ ws₂ hname₂ k₂ h₂ => ?_
  refine ⟨b₂, slot₁, h₂, ⟨hname, hname₂, hcontext'.2⟩,
    (k₁.of_owned (by decide)).trans (k₂.of_owned (by decide))⟩

/-- What the block of a `with` statement consists of. -/
structure HoldsWith (whole : List Stmt → BlockTree → Prop) (items : List WithItem)
    (body : List Stmt) (isAsync : Bool) (b : Block) (slot : String → BlockTree) : Prop where
  isAsync : b.field? "is_async" = some (.bool isAsync)
  count : b.field? "item_count" = some (.int items.length)
  items : ∀ j (hj : j < items.length), ShowsContext b slot j items[j]
  body : whole body (slot "BODY")

/-- The block of a statement with contexts, from what its parts are built as. -/
lemma buildsBlock_with {items : List WithItem} {body : List Stmt} {isAsync : Bool}
    (hitems : ∀ w ∈ items, IsOptionalName w.name ∧ BuildsExpr w.context)
    (hbody : Builds (suiteBlocks none none body) (SuiteOf whole body)) :
    BuildsBlock (.withStmt items ⟨body, level⟩ isAsync i) .withStmt fun _ =>
      HoldsWith whole items body isAsync := by
  intro ws hws
  rw [stmtBlocks]
  refine yields_newBlock hws (by decide) (by decide) (by simp)
    ((fitting_bool rfl).cons ((fitting_count rfl).cons fitting_nil)) fun X b ws₁ h₁ ht _ hfs => ?_
  obtain ⟨hasync, hcount⟩ := hfs
  have hshape : BlockType.withStmt.shapeFor b.fields = .ok
      { values := indexed "CONTEXT" items.length
        fields := (indexed "NAME" items.length).map (·, "") } := by
    simp [BlockType.shapeFor, countOf_of_entry hcount, bind, Except.bind, pure, Except.pure]
  have hready : ∀ j < items.length, Ready .withStmt ["CONTEXT"] [] j b noSlots :=
    ready_of_shape h₁ ht hshape (by simp) fun _ _ _ => rfl
  refine yields_eachIndexed ["CONTEXT", "NAME"] (fun j w => do
      plug X s!"CONTEXT{j}" (← exprBlock w.context)
      setField X s!"NAME{j}" (w.name.orElse "")) (fun j w b slot => ShowsContext b slot j w)
    ?_ ?_ ?_ ?_ ?_ ?_ h₁ hready fun b₂ slot₂ ws₂ hitems' k₂ h₂ => ?_
  · exact fun w j => rfl
  · decide
  · decide
  · decide
  · rintro j w b slot b' slot' hkeep ⟨hopt, hname, hcontext⟩
    refine ⟨hopt, hkeep.field _ _ ⟨"NAME", by decide, rfl⟩ hname, ?_⟩
    rwa [hkeep.slot _ ⟨"CONTEXT", by decide, rfl⟩]
  · exact fun w hw j ws b slot hopen hready =>
      yields_context hws.forest hopen hready (hitems w hw).1 (hitems w hw).2
  refine yields_fill hws.forest h₂ hbody (fun _ h => h.1)
    (k₂.statements _ (mem_statements h₁ ht (by decide)))
    (by rw [k₂.slot _ (not_owns_wordy (by decide))]) fun slot₃ ws₃ hbody' k₃ h₃ => ?_
  refine yields_block _ h₃ (k₂.type.trans ht) rfl ⟨k₂.field _ _ (not_owns_wordy (by decide)) hasync,
    k₂.field _ _ (not_owns_wordy (by decide)) hcount, fun j hj => ?_, hbody'.2⟩
  obtain ⟨hopt, hname, hcontext⟩ := hitems' j hj
  refine ⟨hopt, hname, ?_⟩
  rw [k₃.slot _ (indexed_ne (by decide) j)]
  exact hcontext

/-- A statement with contexts is built as a block that is read as the statement. -/
lemma builds_with {items : List WithItem} {body : List Stmt} {isAsync : Bool}
    (hitems : ∀ w ∈ items, IsOptionalName w.name ∧ BuildsExpr w.context)
    (hbody : ∀ s ∈ body, BuildsStmt (depth + 1) s) :
    BuildsStmt depth (.withStmt items ⟨body, depth + 1⟩ isAsync i) :=
  (buildsBlock_with hitems (builds_suite hbody)).buildsStmt rfl fun _ _ _ ht h =>
    readsStmt_with ht h.isAsync h.count h.items h.body

/-! ## Handlers -/

/-- The parts of a handler can be built, and its suite is one deeper. -/
structure BuildsHandler (depth : ℤ) (h : Handler Stmt) : Prop where
  name : IsOptionalName h.name
  type : ∀ e ∈ h.type, BuildsExpr e
  level : h.body.level = depth + 1
  body : ∀ s ∈ h.body.statements, BuildsStmt (depth + 1) s

/-- The stems of the fields and slots of handlers. -/
abbrev handlerStems : List String := ["EXCEPT_TYPE", "EXCEPT_NAME", "EXCEPT_BODY"]

/-- What the names of an index hold for a handler. -/
structure HoldsHandler (whole : List Stmt → BlockTree → Prop) (h : Handler Stmt) (j : ℕ) (b : Block)
    (slot : String → BlockTree) : Prop where
  optional : IsOptionalName h.name
  name : b.field? s!"EXCEPT_NAME{j}" = some (h.name.orElse "")
  type : ReadsOption (slot s!"EXCEPT_TYPE{j}") h.type
  body : whole h.body.statements (slot s!"EXCEPT_BODY{j}")

/-- A handler is held by the names of its index. -/
private lemma HoldsHandler.keep {on : String → Prop} {b b' : Block} {slot slot' : String → BlockTree}
    {x : Handler Stmt} {j : ℕ} (h : HoldsHandler whole x j b slot)
    (hkeep : Keeps on b slot b' slot') (hon : ∀ stem ∈ handlerStems, on s!"{stem}{j}") :
    HoldsHandler whole x j b' slot' where
  optional := h.optional
  name := hkeep.field _ _ (hon "EXCEPT_NAME" (by decide)) h.name
  type := by
    rw [hkeep.slot _ (hon "EXCEPT_TYPE" (by decide))]
    exact h.type
  body := by
    rw [hkeep.slot _ (hon "EXCEPT_BODY" (by decide))]
    exact h.body

/-- A handler is put in with its error, its name and its body. -/
private lemma yields_handler {x : Handler Stmt} {j : ℕ} (h₀ : ws₀.Forest)
    (h : Opened ws₀ ws X b slot) (hready : Ready .tryStmt ["EXCEPT_TYPE"] ["EXCEPT_BODY"] j b slot)
    (hname : IsOptionalName x.name) (htype : ∀ e ∈ x.type, BuildsExpr e)
    (hbody : Builds (suiteBlocks none none x.body.statements) (SuiteOf whole x.body.statements)) :
    Yields (do
      plug X s!"EXCEPT_TYPE{j}" (← optionBlock x.type)
      setField X s!"EXCEPT_NAME{j}" (x.name.orElse "")
      fill X s!"EXCEPT_BODY{j}" (← suiteBlocks none none x.body.statements)) ws fun _ ws' =>
        ∃ b' slot', Opened ws₀ ws' X b' slot' ∧ HoldsHandler whole x j b' slot' ∧
        Keeps (fun s => ¬ Owns handlerStems j s) b slot b' slot' := by
  obtain ⟨hmem, hempty⟩ := hready.value "EXCEPT_TYPE" (by decide)
  obtain ⟨hmem', hempty'⟩ := hready.body "EXCEPT_BODY" (by decide)
  have hapart : s!"EXCEPT_TYPE{j}" ≠ s!"EXCEPT_BODY{j}" :=
    indexed_ne_of_stem (by decide) (by decide) (by decide)
  refine yields_plug h₀ h (builds_option htype) (fun _ h => h.1) hmem hempty
    fun slot₁ ws₁ htype k₁ h₁ => ?_
  refine yields_setText h₁ (isText_orElse hname) (by rw [hready.type]; decide) (by decide)
    fun b₂ ws₂ hname₂ k₂ h₂ => ?_
  refine (yields_filled h₀ h₂ hbody (fun _ h => h.1) (k₂.statements _ hmem')
    (by rw [k₁.slot _ hapart.symm, hempty'])).mono ?_
  rintro _ ws₃ ⟨slot₃, hbody', k₃, h₃⟩
  refine ⟨b₂, slot₃, h₃, ⟨hname, hname₂, ?_, hbody'.2⟩,
    ((k₁.of_owned (by decide)).trans (k₂.of_owned (by decide))).trans (k₃.of_owned (by decide))⟩
  rw [k₃.slot _ hapart]
  exact htype.2

/-- Handlers are set and plugged in one by one. -/
private lemma yields_handlerBlocks {α : Type} {done : α → Workspace → Prop}
    {hs : List (Handler Stmt)} {f : Edit α} (h₀ : ws₀.Forest) (h : Opened ws₀ ws X b slot)
    (hhs : ∀ x ∈ hs, IsOptionalName x.name ∧ (∀ e ∈ x.type, BuildsExpr e) ∧
      Builds (suiteBlocks none none x.body.statements) (SuiteOf whole x.body.statements))
    (hready : ∀ j < hs.length, Ready .tryStmt ["EXCEPT_TYPE"] ["EXCEPT_BODY"] j b slot)
    (hf : ∀ b' slot' ws', (∀ j (hj : j < hs.length), HoldsHandler whole hs[j] j b' slot') →
      Keeps (fun s => ∀ j, ¬ Owns handlerStems j s) b slot b' slot' →
      Opened ws₀ ws' X b' slot' → Yields f ws' done) :
    Yields (do handlerBlocks X 0 hs; f) ws done :=
  yields_each (handlerBlocks X)
    (fun j x => do
      plug X s!"EXCEPT_TYPE{j}" (← optionBlock x.type)
      setField X s!"EXCEPT_NAME{j}" (x.name.orElse "")
      fill X s!"EXCEPT_BODY{j}" (← suiteBlocks none none x.body.statements))
    (fun j x b slot => HoldsHandler whole x j b slot) (fun j => by rw [handlerBlocks])
    (fun j x rest => by simp) (by decide) (by decide) (by decide)
    (fun j x b slot b' slot' hkeep h => h.keep hkeep fun stem hstem => ⟨stem, hstem, rfl⟩)
    (fun x hx j ws b slot hopen hready => yields_handler h₀ hopen hready (hhs x hx).1 (hhs x hx).2.1
      (hhs x hx).2.2) h hready hf

/-- What the block of a `try` statement consists of. -/
structure HoldsTry (whole : List Stmt → BlockTree → Prop) (body : List Stmt)
    (hs : List (Handler Stmt)) (orelse final : Option (Suite Stmt)) (b : Block)
    (slot : String → BlockTree) : Prop where
  count : b.field? "handler_count" = some (.int hs.length)
  elseFlag : b.field? "has_else" = some (.bool orelse.isSome)
  finalFlag : b.field? "has_finally" = some (.bool final.isSome)
  body : whole body (slot "BODY")
  handlers : ∀ j (hj : j < hs.length), HoldsHandler whole hs[j] j b slot
  orelse : OptionalOf whole orelse (slot "ELSE_BODY")
  final : OptionalOf whole final (slot "FINALLY_BODY")

/-- The block of a statement with handlers, from what its parts are built as. -/
lemma buildsBlock_try {body : List Stmt} {hs : List (Handler Stmt)}
    {orelse final : Option (Suite Stmt)}
    (hbody : Builds (suiteBlocks none none body) (SuiteOf whole body))
    (hhs : ∀ x ∈ hs, IsOptionalName x.name ∧ (∀ e ∈ x.type, BuildsExpr e) ∧
      Builds (suiteBlocks none none x.body.statements) (SuiteOf whole x.body.statements))
    (helse : Builds (optionalSuite orelse) (OptionalOf whole orelse))
    (hfinal : Builds (optionalSuite final) (OptionalOf whole final)) :
    BuildsBlock (.tryStmt ⟨body, level⟩ hs orelse final i) .tryStmt fun _ =>
      HoldsTry whole body hs orelse final := by
  intro ws hws
  rw [stmtBlocks]
  refine yields_newBlock hws (by decide) (by decide) (by simp)
    ((fitting_count rfl).cons ((fitting_bool rfl).cons ((fitting_bool rfl).cons fitting_nil)))
    fun X b ws₁ h₁ ht _ hfs => ?_
  obtain ⟨hcount, hflag, hflag'⟩ := hfs
  have hshape : BlockType.tryStmt.shapeFor b.fields = .ok
      { values := indexed "EXCEPT_TYPE" hs.length
        statements := indexed "EXCEPT_BODY" hs.length
        fields := (indexed "EXCEPT_NAME" hs.length).map (·, "") } := by
    simp [BlockType.shapeFor, countOf_of_entry hcount, bind, Except.bind, pure, Except.pure]
  refine yields_fill hws.forest h₁ hbody (fun _ h => h.1) (mem_statements h₁ ht (by decide)) rfl
    fun slot₂ ws₂ hbody' k₂ h₂ => ?_
  have hready : ∀ j < hs.length, Ready .tryStmt ["EXCEPT_TYPE"] ["EXCEPT_BODY"] j b slot₂ := by
    intro j hj
    refine ⟨ht, fun stem hstem => ?_, fun stem hstem => ?_⟩ <;>
      obtain rfl := List.mem_singleton.mp hstem
    · exact ⟨mem_counted h₁ ht hshape (mem_indexed hj), by rw [k₂.slot _ (indexed_ne (by decide) j)]⟩
    · exact ⟨mem_countedBody h₁ ht hshape (mem_indexed hj),
        by rw [k₂.slot _ (indexed_ne (by decide) j)]⟩
  refine yields_handlerBlocks hws.forest h₂ hhs hready fun b₃ slot₃ ws₃ hhs' k₃ h₃ => ?_
  have hkeep : Keeps Wordy b slot₂ b₃ slot₃ := k₃.mono fun _ h => not_owns_wordy h
  refine yields_fill hws.forest h₃ helse (fun _ h => h.1)
    (hkeep.statements _ (mem_statements h₁ ht (by decide)))
    (by rw [hkeep.slot _ (by decide), k₂.slot _ (by decide)]) fun slot₄ ws₄ helse' k₄ h₄ => ?_
  refine yields_fill hws.forest h₄ hfinal (fun _ h => h.1)
    (hkeep.statements _ (mem_statements h₁ ht (by decide)))
    (by rw [k₄.slot _ (by decide), hkeep.slot _ (by decide), k₂.slot _ (by decide)])
    fun slot₅ ws₅ hfinal' k₅ h₅ => ?_
  refine yields_block _ h₅ (hkeep.type.trans ht) rfl ⟨hkeep.field _ _ (by decide) hcount,
    hkeep.field _ _ (by decide) hflag, hkeep.field _ _ (by decide) hflag', ?_, fun j hj => ?_, ?_,
    hfinal'⟩
  · rw [k₅.slot _ (by decide), k₄.slot _ (by decide), hkeep.slot _ (by decide)]
    exact hbody'.2
  · have h₄' : HoldsHandler whole hs[j] j b₃ slot₄ :=
      (hhs' j hj).keep k₄ fun stem _ => indexed_ne (by decide) j
    exact h₄'.keep k₅ fun stem _ => indexed_ne (by decide) j
  · rw [k₅.slot _ (by decide)]
    exact helse'

/-- A statement with handlers is built as a block that is read as the statement. -/
lemma builds_try {body : List Stmt} {hs : List (Handler Stmt)} {orelse final : Option (Suite Stmt)}
    (hbody : ∀ s ∈ body, BuildsStmt (depth + 1) s) (hhs : ∀ x ∈ hs, BuildsHandler depth x)
    (helse : BuildsOptional depth orelse) (hfinal : BuildsOptional depth final) :
    BuildsStmt depth (.tryStmt ⟨body, depth + 1⟩ hs orelse final i) := by
  have hblock : BuildsBlock (.tryStmt ⟨body, depth + 1⟩ hs orelse final i) .tryStmt fun _ =>
      HoldsTry (fun ss t => Tells t (depth + 1) ss) body hs orelse final :=
    buildsBlock_try (builds_suite hbody)
      (fun x hx => ⟨(hhs x hx).name, (hhs x hx).type, builds_suite (hhs x hx).body⟩) helse.builds
      hfinal.builds
  refine hblock.buildsStmt rfl fun X b slot ht h => ?_
  refine readsStmt_try ht h.count h.body (fun j hj => ?_)
    (showsBody_of_suite helse h.elseFlag h.orelse) (showsBody_of_suite hfinal h.finalFlag h.final)
  have hj' := h.handlers j hj
  exact ⟨hj'.optional, hj'.name, hj'.type, (hhs _ (List.getElem_mem hj)).level, hj'.body⟩

/-! ## Cases -/

/-- The block of a pattern is read as the pattern. -/
lemma builds_pattern {p : Pattern} (hp : p.Sane) :
    Builds (some <$> patternBlock p) fun t => IsValue t ∧ ReadsPattern t p := by
  intro ws hws
  rw [map_eq_pure_bind]
  cases p with
  | wildcard i =>
    rw [patternBlock]
    refine yields_newBlock hws (by decide) (by decide) (by simp)
      ((fitting_text (isText_text _) rfl).cons fitting_nil) fun X b ws₁ h₁ ht _ hname => ?_
    exact ⟨_, rfl, h₁, by simp [IsValue, Block.isExpression, Block.kind, ht, BlockType.kind],
      readsPattern_wildcard ht hname⟩
  | capture name i =>
    obtain ⟨⟨name, hne, rfl⟩, hwild⟩ := hp
    rw [patternBlock]
    refine yields_newBlock hws (by decide) (by decide) (by simp)
      ((fitting_text ⟨_, rfl⟩ rfl).cons fitting_nil) fun X b ws₁ h₁ ht _ hname => ?_
    exact ⟨_, rfl, h₁, by simp [IsValue, Block.isExpression, Block.kind, ht, BlockType.kind],
      readsPattern_capture ht hname hne hwild⟩
  | literal e i =>
    cases e with
    | literal kind raw value i' =>
      rw [patternBlock]
      refine Yields.bind (yields_literalBlock hp hws) ?_
      rintro X ws₁ ⟨b, h₁, ht, hreads⟩
      refine ⟨_, rfl, h₁, ?_, readsPattern_literal ht (hreads i')⟩
      rcases ht with ht | ht | ht | ht <;>
        simp [IsValue, Block.isExpression, Block.kind, ht, BlockType.kind]
    | _ => exact hp.elim
  | stray d => exact hp.elim

/-- What the block of a case consists of. -/
structure HoldsCase (whole : List Stmt → BlockTree → Prop) (c : MatchCase Stmt) (b : Block)
    (slot : String → BlockTree) : Prop where
  proper : b.Proper
  type : b.type = .caseStmt
  pattern : ReadsPattern (slot "PATTERN") c.pattern
  body : whole c.body.statements (slot "BODY")

/-- The blocks of cases, one after another. -/
def HoldsCases (whole : List Stmt → BlockTree → Prop) : BlockTree → List (MatchCase Stmt) → Prop
  | t, [] => t = .nothing
  | t, c :: rest => ∃ X b slot next, t = .node X b slot next ∧ HoldsCase whole c b slot ∧
      HoldsCases whole next rest

/-- The block of a case is made. -/
private lemma yields_case {α : Type} {done : α → Workspace → Prop} {c : MatchCase Stmt}
    {f : BlockId → Edit α} (hc : c.pattern.Sane)
    (hbody : Builds (suiteBlocks none none c.body.statements) (SuiteOf whole c.body.statements))
    (hws : ws.Tidy) (hf : ∀ Y b slot ws', Opened ws ws' Y b slot → HoldsCase whole c b slot →
      Yields (f Y) ws' done) :
    Yields (do
      let id ← newBlock .caseStmt
      let _ ← connectValue id "PATTERN" (← patternBlock c.pattern)
      fill id "BODY" (← suiteBlocks none none c.body.statements)
      recordSpan id c.info
      f id) ws done := by
  obtain ⟨p, ⟨body, level⟩, info⟩ := c
  refine yields_newBlock hws (by decide) (by decide) (by simp) fitting_nil
    fun Y b ws₁ h₁ ht _ _ => ?_
  have hplug : ∀ g : Edit α, (do
      let _ ← connectValue Y "PATTERN" (← patternBlock p)
      g) = (do
        plug Y "PATTERN" (← some <$> patternBlock p)
        g) := by
    simp [plug, discard, Functor.discard, LawfulFunctor.map_const]
  rw [hplug]
  refine yields_plug hws.forest h₁ (builds_pattern hc) (fun _ h => h.1)
    (mem_values h₁ ht (by decide)) rfl fun slot₂ ws₂ hp k₂ h₂ => ?_
  refine yields_fill hws.forest h₂ hbody (fun _ h => h.1)
    (mem_statements h₁ ht (by decide)) (by rw [k₂.slot _ (by decide)])
    fun slot₃ ws₃ hbody' k₃ h₃ => ?_
  refine Yields.bind (yields_recordSpan h₃ Y info) fun _ ws₄ h₄ => ?_
  refine hf Y b slot₃ ws₄ h₄ ⟨proper_of_opened h₄, ht, ?_, hbody'.2⟩
  rw [k₃.slot _ (by decide)]
  exact hp.2

/-- A loose statement goes to the end of the chain in a slot, or is its first one. -/
private lemma yields_lastInSlot {Y : BlockId} {c : Block} {kids : String → BlockTree} {s : String}
    (h₀ : ws₀.Forest) (h : Grove ws₀ ws [.node X b slot .nothing, .node Y c kids .nothing])
    (hs : s ∈ b.statements) (hchain : (slot s).IsChain) (hstmt : c.isStatement) :
    Yields (match (slot s).last? with
      | some before => connectNext before Y
      | none => connectStatement X s Y) ws fun _ ws' => Opened ws₀ ws' X b
        (Function.update slot s ((slot s).append (.node Y c kids .nothing))) := by
  cases hlast : (slot s).last? with
  | some before => exact yields_connectNext_inSlot h₀ h hs hchain hlast hstmt
  | none =>
    have hempty := BlockTree.last?_eq_none.mp hlast
    rw [hempty, BlockTree.nothing_append]
    exact yields_connectStatement h₀ h hs hempty hstmt

/-- The block of a case is made, put to the end, and is the last one then. -/
private lemma caseBlocks_cons (X : BlockId) (tail : Option BlockId) (c : MatchCase Stmt)
    (cs : List (MatchCase Stmt)) :
    caseBlocks X tail (c :: cs) = (do
      let id ← newBlock .caseStmt
      let _ ← connectValue id "PATTERN" (← patternBlock c.pattern)
      fill id "BODY" (← suiteBlocks none none c.body.statements)
      recordSpan id c.info
      let _ ← (match tail with
        | some before => connectNext before id
        | none => connectStatement X "CASES" id)
      caseBlocks X (some id) cs) := by
  obtain ⟨p, ⟨body, level⟩, info⟩ := c
  rw [caseBlocks]
  cases tail <;> rfl

/-- Cases are put at the end of the chain in the slot one after another. -/
private lemma yields_caseBlocks {cs : List (MatchCase Stmt)}
    (hcs : ∀ c ∈ cs, c.pattern.Sane ∧
      Builds (suiteBlocks none none c.body.statements) (SuiteOf whole c.body.statements))
    (h₀ : ws₀.Forest) (h : Opened ws₀ ws X b slot) (hs : "CASES" ∈ b.statements)
    (hchain : (slot "CASES").IsChain) :
    Yields (caseBlocks X (slot "CASES").last? cs) ws fun _ ws' => ∃ slot' u,
      Opened ws₀ ws' X b slot' ∧ Keeps (· ≠ "CASES") b slot b slot' ∧
      slot' "CASES" = (slot "CASES").append u ∧ HoldsCases whole u cs := by
  induction cs generalizing ws slot with
  | nil =>
    rw [caseBlocks]
    exact ⟨slot, .nothing, h, .refl _ _ _, by rw [BlockTree.append_nothing], rfl⟩
  | cons c rest ih =>
    rw [caseBlocks_cons]
    obtain ⟨hsane, hbody⟩ := hcs c List.mem_cons_self
    refine yields_case hsane hbody h.tidy fun Y b' kids ws₁ h₁ hcase => ?_
    have hstmt : b'.isStatement := by
      simp [Block.isStatement, Block.kind, hcase.type, BlockType.kind]
    refine Yields.bind (yields_lastInSlot h₀ (h.trans h₁) hs hchain hstmt) fun _ ws₂ h₂ => ?_
    have hlast : ((slot "CASES").append (.node Y b' kids .nothing)).last? = some Y := by
      rcases eq_or_ne (slot "CASES") .nothing with hempty | hne
      · rw [hempty]
        rfl
      · exact (ends_of_append_piece hne Y b' kids).2
    have hstep := ih (fun c hc => hcs c (List.mem_cons_of_mem _ hc)) h₂
      (by rw [Function.update_self]; exact hchain.append ⟨hstmt, trivial⟩)
    rw [Function.update_self, hlast] at hstep
    refine hstep.mono ?_
    rintro _ ws' ⟨slot', u, h', hkeep, hslot, hu⟩
    refine ⟨slot', .node Y b' kids u, h', (keeps_update b slot _ _).trans hkeep, ?_, Y, b', kids, u,
      rfl, hcase, hu⟩
    rw [hslot, BlockTree.append_assoc]
    rfl

/-- What the block of a `match` statement consists of. -/
structure HoldsMatch (whole : List Stmt → BlockTree → Prop) (subject : Expr)
    (cs : List (MatchCase Stmt)) (slot : String → BlockTree) : Prop where
  subject : Reads (slot "SUBJECT") subject
  cases : HoldsCases whole (slot "CASES") cs

/-- The block of a statement with cases, from what its parts are built as. -/
lemma buildsBlock_match {subject : Expr} {cs : List (MatchCase Stmt)}
    (hsubject : BuildsExpr subject)
    (hcs : ∀ c ∈ cs, c.pattern.Sane ∧
      Builds (suiteBlocks none none c.body.statements) (SuiteOf whole c.body.statements)) :
    BuildsBlock (.matchStmt subject cs i) .matchStmt fun _ _ => HoldsMatch whole subject cs := by
  intro ws hws
  rw [stmtBlocks]
  refine yields_newBlock hws (by decide) (by decide) (by simp) fitting_nil
    fun X b ws₁ h₁ ht _ _ => ?_
  refine yields_plug hws.forest h₁ hsubject (fun _ h => h.1) (mem_values h₁ ht (by decide)) rfl
    fun slot₂ ws₂ hsubject' k₂ h₂ => ?_
  have hempty : slot₂ "CASES" = .nothing := by rw [k₂.slot _ (by decide)]
  have hcases := yields_caseBlocks hcs hws.forest h₂ (mem_statements h₁ ht (by decide))
    (by rw [hempty]; trivial)
  rw [hempty, BlockTree.last?_nothing] at hcases
  refine Yields.bind hcases ?_
  rintro _ ws₃ ⟨slot₃, u, h₃, k₃, hslot, hu⟩
  rw [BlockTree.nothing_append] at hslot
  refine yields_block _ h₃ ht rfl ⟨?_, by rw [hslot]; exact hu⟩
  rw [k₃.slot _ (by decide)]
  exact hsubject'.2

/-- The parts of a case can be built, and its suite is two deeper than the `match` statement. -/
structure BuildsCase (depth : ℤ) (c : MatchCase Stmt) : Prop where
  pattern : c.pattern.Sane
  level : c.body.level = depth + 2
  body : ∀ s ∈ c.body.statements, BuildsStmt (depth + 2) s

/-- Blocks of cases are read as the cases. -/
private lemma HoldsCases.tells {t : BlockTree} {cs : List (MatchCase Stmt)}
    (h : HoldsCases (fun ss t => Tells t (depth + 2) ss) t cs)
    (hlevels : ∀ c ∈ cs, c.body.level = depth + 2) : TellsCases t depth cs := by
  induction cs generalizing t with
  | nil =>
    obtain rfl := h
    exact tellsCases_nothing
  | cons c rest ih =>
    obtain ⟨X, b, slot, next, rfl, hcase, hnext⟩ := h
    obtain ⟨p, ⟨body, level⟩, info⟩ := c
    obtain rfl : level = depth + 2 := hlevels _ List.mem_cons_self
    exact tellsCases_cons hcase.type hcase.pattern hcase.body
      (ih hnext fun c hc => hlevels c (List.mem_cons_of_mem _ hc))

/-- A statement with cases is built as a block that is read as the statement. -/
lemma builds_match {subject : Expr} {cs : List (MatchCase Stmt)} (hsubject : BuildsExpr subject)
    (hne : cs ≠ []) (hcs : ∀ c ∈ cs, BuildsCase depth c) :
    BuildsStmt depth (.matchStmt subject cs i) := by
  have hblock : BuildsBlock (.matchStmt subject cs i) .matchStmt fun _ _ =>
      HoldsMatch (fun ss t => Tells t (depth + 2) ss) subject cs :=
    buildsBlock_match hsubject fun c hc => ⟨(hcs c hc).pattern, builds_suite (hcs c hc).body⟩
  refine hblock.buildsStmt rfl fun X b slot ht h => ?_
  refine readsStmt_match ht h.subject ?_ (h.cases.tells fun c hc => (hcs c hc).level)
  have hcases := h.cases
  cases cs with
  | nil => exact absurd rfl hne
  | cons c rest =>
    obtain ⟨Y, c', kids, next, hslot, -⟩ := hcases
    rw [hslot]
    rfl

/-! ## Conditionals -/

/-- What the block of a conditional or of a further condition consists of. -/
structure HoldsBranch (whole : List Stmt → BlockTree → Prop) (type : BlockType) (t : Expr)
    (body : List Stmt) (b : Block) (slot : String → BlockTree) : Prop where
  proper : b.Proper
  type : b.type = type
  test : Reads (slot "COND") t
  body : whole body (slot "BODY")

/-- The blocks of further conditions, each on its own. -/
def HoldsElifs (whole : List Stmt → BlockTree → Prop) :
    List (ElifClause Stmt) → List BlockTree → Prop
  | [], ts => ts = []
  | c :: rest, ts => ∃ X b slot ts', ts = .node X b slot .nothing :: ts' ∧
      HoldsBranch whole .elifStmt c.test c.body.statements b slot ∧ HoldsElifs whole rest ts'

/-- The block of a last alternative, if there is one. -/
def HoldsElse (whole : List Stmt → BlockTree → Prop) : Option (Suite Stmt) → List BlockTree → Prop
  | none, ts => ts = []
  | some body, ts => ∃ X b slot, ts = [.node X b slot .nothing] ∧ b.Proper ∧ b.type = .elseStmt ∧
      whole body.statements (slot "BODY")

/-- A condition is plugged into the block that was made for it, and its suite is put there. -/
private lemma yields_branch {α : Type} {done : α → Workspace → Prop} {type : BlockType} {t : Expr}
    {body : List Stmt} {f : BlockId → Edit α} (htype : type = .ifStmt ∨ type = .elifStmt)
    (htest : BuildsExpr t) (hbody : Builds (suiteBlocks none none body) (SuiteOf whole body))
    (hws : ws.Tidy) (hf : ∀ X b slot ws', Opened ws ws' X b slot →
      HoldsBranch whole type t body b slot → Yields (f X) ws' done) :
    Yields (do
      let id ← newBlock type
      plug id "COND" (← exprBlock t)
      fill id "BODY" (← suiteBlocks none none body)
      f id) ws done := by
  have hfits : type ≠ .syncError ∧ type ≠ .string ∧ "COND" ∈ type.valueSlots ∧
      "BODY" ∈ type.statementSlots := by
    rcases htype with rfl | rfl <;> decide
  obtain ⟨hsync, hstring, hcond, hslot⟩ := hfits
  refine yields_newBlock hws hsync hstring (by simp) fitting_nil fun X b ws₁ h₁ ht _ _ => ?_
  refine yields_plug hws.forest h₁ htest (fun _ h => h.1) (mem_values h₁ ht hcond) rfl
    fun slot₂ ws₂ htest' k₂ h₂ => ?_
  refine yields_fill hws.forest h₂ hbody (fun _ h => h.1) (mem_statements h₁ ht hslot)
    (by rw [k₂.slot _ (by decide)]) fun slot₃ ws₃ hbody' k₃ h₃ => ?_
  refine hf X b slot₃ ws₃ h₃ ⟨proper_of_opened h₃, ht, ?_, hbody'.2⟩
  rw [k₃.slot _ (by decide)]
  exact htest'.2

/-- Blocks of conditions are statements of their own. -/
private lemma HoldsBranch.isPiece {type : BlockType} {t : Expr} {body : List Stmt}
    (h : HoldsBranch whole type t body b slot) (htype : type = .ifStmt ∨ type = .elifStmt) :
    IsPiece (.node X b slot .nothing) := by
  refine ⟨X, b, slot, rfl, ?_⟩
  rcases htype with rfl | rfl <;> simp [Block.isStatement, Block.kind, h.type, BlockType.kind]

/-- Further conditions are built one after another. -/
private lemma yields_elifBlocks {elifs : List (ElifClause Stmt)}
    (helifs : ∀ c ∈ elifs, BuildsExpr c.test ∧
      Builds (suiteBlocks none none c.body.statements) (SuiteOf whole c.body.statements))
    (hws : ws.Tidy) :
    Yields (elifBlocks elifs) ws fun ids ws' => ∃ ts, ids = roots ts ∧ (∀ t ∈ ts, IsPiece t) ∧
      Grove ws ws' ts ∧ HoldsElifs whole elifs ts := by
  induction elifs generalizing ws with
  | nil =>
    rw [elifBlocks]
    exact ⟨[], rfl, by simp, .refl hws, rfl⟩
  | cons c elifs ih =>
    obtain ⟨htest, hbody⟩ := helifs c List.mem_cons_self
    obtain ⟨t, ⟨body, level⟩, info⟩ := c
    rw [elifBlocks]
    refine yields_branch (.inr rfl) htest hbody hws fun X b slot ws₁ h₁ hbranch => ?_
    refine Yields.bind (yields_recordSpan h₁ X info) fun _ ws₂ h₂ => ?_
    refine Yields.bind (ih (fun c hc => helifs c (List.mem_cons_of_mem _ hc)) h₂.tidy) ?_
    rintro _ ws₃ ⟨ts, rfl, hts, h₃, hholds⟩
    refine ⟨.node X b slot .nothing :: ts, rfl, ?_, h₂.trans h₃, X, b, slot, ts, rfl, hbranch,
      hholds⟩
    rintro t' (_ | ⟨_, ht'⟩)
    · exact hbranch.isPiece (.inr rfl)
    · exact hts t' ht'

/-- A last alternative is built as one more block. -/
private lemma yields_elseBlock {orelse : Option (Suite Stmt)}
    (helse : ∀ body ∈ orelse,
      Builds (suiteBlocks none none body.statements) (SuiteOf whole body.statements))
    (hws : ws.Tidy) :
    Yields (elseBlock orelse) ws fun ids ws' => ∃ ts, ids = roots ts ∧ (∀ t ∈ ts, IsPiece t) ∧
      Grove ws ws' ts ∧ HoldsElse whole orelse ts := by
  cases orelse with
  | none =>
    rw [elseBlock]
    exact ⟨[], rfl, by simp, .refl hws, rfl⟩
  | some body =>
    have hbody := helse body rfl
    obtain ⟨body, level⟩ := body
    rw [elseBlock]
    refine yields_newBlock hws (by decide) (by decide) (by simp) fitting_nil
      fun X b ws₁ h₁ ht _ _ => ?_
    refine yields_fill hws.forest h₁ hbody (fun _ h => h.1) (mem_statements h₁ ht (by decide)) rfl
      fun slot₂ ws₂ hbody' k₂ h₂ => ?_
    refine ⟨[.node X b slot₂ .nothing], rfl, ?_, h₂, X, b, slot₂, rfl, proper_of_opened h₂, ht,
      hbody'.2⟩
    intro t' ht'
    obtain rfl := List.mem_singleton.mp ht'
    exact ⟨X, b, slot₂, rfl, by simp [Block.isStatement, Block.kind, ht, BlockType.kind]⟩

/-- The blocks of a conditional: its first one, those of further conditions and that of a last
alternative. -/
def HoldsIf (whole : List Stmt → BlockTree → Prop) (t : Expr) (body : List Stmt)
    (elifs : List (ElifClause Stmt)) (orelse : Option (Suite Stmt)) (ts : List BlockTree) : Prop :=
  ∃ X b slot us vs, ts = .node X b slot .nothing :: (us ++ vs) ∧
    HoldsBranch whole .ifStmt t body b slot ∧ HoldsElifs whole elifs us ∧ HoldsElse whole orelse vs

/-- The blocks of a conditional statement, from what its parts are built as. -/
lemma buildsPieces_if {t : Expr} {body : List Stmt} {elifs : List (ElifClause Stmt)}
    {orelse : Option (Suite Stmt)} (htest : BuildsExpr t)
    (hbody : Builds (suiteBlocks none none body) (SuiteOf whole body))
    (helifs : ∀ c ∈ elifs, BuildsExpr c.test ∧
      Builds (suiteBlocks none none c.body.statements) (SuiteOf whole c.body.statements))
    (helse : ∀ body ∈ orelse,
      Builds (suiteBlocks none none body.statements) (SuiteOf whole body.statements)) :
    BuildsPieces (.ifStmt t ⟨body, level⟩ elifs orelse i) (HoldsIf whole t body elifs orelse) := by
  intro ws hws
  rw [stmtBlocks]
  refine yields_branch (.inl rfl) htest hbody hws fun X b slot ws₁ h₁ hbranch => ?_
  refine Yields.bind (yields_elifBlocks helifs h₁.tidy) ?_
  rintro _ ws₂ ⟨us, rfl, hus, h₂, helifs'⟩
  refine Yields.bind (yields_elseBlock helse h₂.tidy) ?_
  rintro _ ws₃ ⟨vs, rfl, hvs, h₃, helse'⟩
  refine Yields.bind (yields_recordSpan ((h₁.trans h₂).trans h₃) X i) fun _ ws₄ h₄ => ?_
  refine ⟨_, ?_, ?_, h₄, X, b, slot, us, vs, rfl, hbranch, helifs', helse'⟩
  · simp [roots, List.filterMap_append]
  · intro t' ht'
    simp only [List.cons_append, List.nil_append, List.mem_cons, List.mem_append] at ht'
    rcases ht' with rfl | ht' | ht'
    · exact hbranch.isPiece (.inl rfl)
    · exact hus t' ht'
    · exact hvs t' ht'

/-- A further condition and its suite can be built. -/
structure BuildsElif (depth : ℤ) (c : ElifClause Stmt) : Prop where
  test : BuildsExpr c.test
  level : c.body.level = depth + 1
  body : ∀ s ∈ c.body.statements, BuildsStmt (depth + 1) s

/-- Blocks of further conditions add them to an open conditional. -/
private lemma HoldsElifs.continues {elifs : List (ElifClause Stmt)} {ts : List BlockTree}
    (h : HoldsElifs (fun ss t => Tells t (depth + 1) ss) elifs ts)
    (hlevels : ∀ c ∈ elifs, c.body.level = depth + 1) {rest : BlockTree}
    {orelse : Option (Suite Stmt)} {ss : List Stmt} (hrest : Continues rest depth [] orelse ss) :
    Continues (chainOf ts rest) depth elifs orelse ss := by
  induction elifs generalizing ts with
  | nil =>
    obtain rfl := h
    exact hrest
  | cons c elifs ih =>
    obtain ⟨X, b, slot, ts', rfl, hbranch, hts'⟩ := h
    obtain ⟨t, ⟨body, level⟩, info⟩ := c
    obtain rfl : level = depth + 1 := hlevels _ List.mem_cons_self
    exact continues_elif hbranch.type hbranch.test hbranch.body
      (ih hts' fun c hc => hlevels c (List.mem_cons_of_mem _ hc))

/-- The block of a last alternative closes an open conditional. -/
private lemma HoldsElse.continues {orelse : Option (Suite Stmt)} {ts : List BlockTree}
    (h : HoldsElse (fun ss t => Tells t (depth + 1) ss) orelse ts)
    (hlevel : ∀ body ∈ orelse, body.level = depth + 1) {rest : BlockTree} {ss : List Stmt}
    (hrest : Tells rest depth ss) : Continues (chainOf ts rest) depth [] orelse ss := by
  cases orelse with
  | none =>
    obtain rfl := h
    exact hrest.continues
  | some body =>
    obtain ⟨X, b, slot, rfl, -, ht, hbody⟩ := h
    obtain ⟨body, level⟩ := body
    obtain rfl : level = depth + 1 := hlevel _ rfl
    exact continues_else ht hbody hrest

/-- A conditional statement is built as blocks that are read as the statement. -/
lemma builds_if {t : Expr} {body : List Stmt} {elifs : List (ElifClause Stmt)}
    {orelse : Option (Suite Stmt)} (htest : BuildsExpr t)
    (hbody : ∀ s ∈ body, BuildsStmt (depth + 1) s) (helifs : ∀ c ∈ elifs, BuildsElif depth c)
    (helse : BuildsOptional depth orelse) :
    BuildsStmt depth (.ifStmt t ⟨body, depth + 1⟩ elifs orelse i) := by
  have hpieces : BuildsPieces (.ifStmt t ⟨body, depth + 1⟩ elifs orelse i)
      (HoldsIf (fun ss t => Tells t (depth + 1) ss) t body elifs orelse) :=
    buildsPieces_if htest (builds_suite hbody)
      (fun c hc => ⟨(helifs c hc).test, builds_suite (helifs c hc).body⟩)
      fun body hbody => builds_suite (helse body hbody).2
  refine hpieces.mono ?_
  rintro ts ⟨X, b, slot, us, vs, rfl, hbranch, hus, hvs⟩ rest ss hrest
  rw [chainOf_cons, chainOf_append]
  exact tells_if hbranch.type hbranch.test hbranch.body
    (hus.continues (fun c hc => (helifs c hc).level)
      (hvs.continues (fun body hbody => (helse body hbody).1) hrest))

end BlockText.Edit

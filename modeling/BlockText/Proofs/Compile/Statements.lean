import BlockText.Proofs.Compile.Expressions
import BlockText.Proofs.Text.Split

/-!
# Reading statements off blocks

`Tells t depth ss` says that a chain of blocks at a depth is read as the statements `ss`, up to
information and statements without code, whatever conditional is open before it.  A chain that
continues an open conditional is described by `Continues`.  For each kind of statement there is one
lemma about its block.
-/

namespace BlockText.Compile

open Syntax Datum

attribute [simp] statements cases

-- Likeness is read off the records in every case.
attribute [local simp] Alike core_record Tag.fields

/-! ## Chains -/

/-- The chain is read as the statements, after the conditional that is still open. -/
def Tells (t : BlockTree) (depth : ℤ) (ss : List Stmt) : Prop :=
  ∀ current, Gives (statements t depth current) (StmtsAlike · (closing current ++ ss))

/-- The chain goes on with the alternatives of the open conditional, and is then read as the
statements. -/
def Continues (t : BlockTree) (depth : ℤ) (elifs : List (ElifClause Stmt))
    (orelse : Option (Suite Stmt)) (ss : List Stmt) : Prop :=
  ∀ o : OpenIf, Gives (statements t depth (some o))
    (StmtsAlike · (.ifStmt o.test o.body (o.elifs ++ elifs) orelse o.info :: ss))

variable {id : BlockId} {b : Block} {kids : String → BlockTree} {next : BlockTree} {depth : ℤ}
  {ss : List Stmt} {i : Info}

/-- The statements in the slots of a block. -/
abbrev bodiesOf (kids : String → BlockTree) : Bodies :=
  fun s level => return ⟨← statements (kids s) level none, level⟩

/-- The block is read as a statement, up to information. -/
def ReadsStmt (id : BlockId) (b : Block) (kids : String → BlockTree) (depth : ℤ) (s : Stmt) :
    Prop :=
  Gives (stmtOf id b (fun s => (kids s).isPresent) (slotsOf kids) (bodiesOf kids)
    (cases (kids "CASES")) depth) (Stmt.Alike · s)

/-- The type is that of a block that is a statement of its own. -/
def isPlain (t : BlockType) : Bool :=
  t != .ifStmt && t != .elifStmt && t != .elseStmt && t != .caseStmt

/-- An empty chain tells no statements. -/
lemma tells_nothing : Tells .nothing depth [] := by
  intro current
  rw [statements, List.append_nil]
  exact gives_pure (.refl _)

/-! ### What the first block decides -/

/-- A conditional block closes the conditional before it and opens its own. -/
lemma statements_if (ht : b.type = .ifStmt) (current : Option OpenIf) :
    statements (.node id b kids next) depth current = (do
      let info ← freshInfo
      let test ← required (slotsOf kids) "COND"
      let body ← bodiesOf kids "BODY" (depth + 1)
      return closing current ++ (← statements next depth (some ⟨test, body, [], info⟩))) :=
  statements.eq_2 _ _ _ _ _ _ ht

/-- A further condition joins the conditional that is open. -/
lemma statements_elif (ht : b.type = .elifStmt) (o : OpenIf) :
    statements (.node id b kids next) depth (some o) = (do
      let info ← freshInfo
      let test ← required (slotsOf kids) "COND"
      let body ← bodiesOf kids "BODY" (depth + 1)
      statements next depth (some { o with elifs := o.elifs ++ [⟨test, body, info⟩] })) :=
  statements.eq_3 _ _ _ _ _ _ ht

/-- A last body closes the conditional that is open. -/
lemma statements_else (ht : b.type = .elseStmt) (o : OpenIf) :
    statements (.node id b kids next) depth (some o) = (do
      let body ← bodiesOf kids "BODY" (depth + 1)
      return o.close (some body) :: (← statements next depth none)) :=
  statements.eq_4 _ _ _ _ _ _ ht

/-- Every other block closes the conditional before it and is a statement of its own. -/
lemma statements_plain (hplain : isPlain b.type = true) (current : Option OpenIf) :
    statements (.node id b kids next) depth current = (do
      let s ← checked id b (stmtOf id b (fun s => (kids s).isPresent) (slotsOf kids) (bodiesOf kids)
        (cases (kids "CASES")) depth)
      return closing current ++ s :: (← statements next depth none)) := by
  simp only [isPlain, Bool.and_eq_true, bne_iff_ne, ne_eq] at hplain
  obtain ⟨⟨⟨hif, helif⟩, helse⟩, hcase⟩ := hplain
  exact statements.eq_8 _ _ _ _ _ _ hif hcase (fun _ h => absurd h helif)
    (fun _ h => absurd h helse) (fun h => absurd h helif) fun h => absurd h helse

/-- A statement of its own at the head of a chain. -/
lemma tells_plain {s : Stmt} (hplain : isPlain b.type = true) (hs : ReadsStmt id b kids depth s)
    (hnext : Tells next depth ss) : Tells (.node id b kids next) depth (s :: ss) := by
  intro current
  rw [statements_plain hplain]
  refine hs.checked.bind fun s' hs' => (hnext none).bind fun ss' hss' => gives_pure ?_
  exact StmtsAlike.append (.refl _) (.cons hs' hss')

/-- A body in a slot. -/
lemma gives_body {s : String} {level : ℤ} (h : Tells (kids s) level ss) :
    Gives (bodiesOf kids s level) fun body => ∃ ss', body = ⟨ss', level⟩ ∧ StmtsAlike ss' ss :=
  (h none).bind fun ss' hss' => gives_pure ⟨ss', rfl, hss'⟩

/-! ## Conditionals -/

/-- Without an alternative the conditional is closed. -/
lemma Tells.continues {t : BlockTree} (h : Tells t depth ss) : Continues t depth [] none ss := by
  intro o
  have hread := h (some o)
  rw [closing, OpenIf.close] at hread
  rw [List.append_nil]
  exact hread

/-- Conditionals with conditions, bodies and alternatives that are alike. -/
lemma ifStmt_alike {t t' : Expr} {body body' : List Stmt} {level : ℤ}
    {elifs elifs' : List (ElifClause Stmt)} {orelse orelse' : Option (Suite Stmt)} {i i' : Info}
    (ht : t.Alike t') (hbody : StmtsAlike body body')
    (helifs : List.Forall₂ (Alike ElifClause.toDatum) elifs elifs')
    (helse : Alike Syntax.optionalSuite orelse orelse') :
    Stmt.Alike (.ifStmt t ⟨body, level⟩ elifs orelse i)
      (.ifStmt t' ⟨body', level⟩ elifs' orelse' i') := by
  simpa [elifData_eq_map] using ⟨ht, core_suiteDatum hbody level, coreList_map_congr helifs, helse⟩

/-- The block of a last alternative closes the conditional. -/
lemma continues_else {body : List Stmt} (ht : b.type = .elseStmt)
    (hbody : Tells (kids "BODY") (depth + 1) body) (hnext : Tells next depth ss) :
    Continues (.node id b kids next) depth [] (some ⟨body, depth + 1⟩) ss := by
  rintro ⟨test, ⟨first, level⟩, elifs, info⟩
  rw [statements_else ht]
  refine (gives_body hbody).bind ?_
  rintro _ ⟨body', rfl, hbody'⟩
  refine (hnext none).bind fun ss' hss' => gives_pure (StmtsAlike.cons ?_ hss')
  rw [List.append_nil]
  exact ifStmt_alike rfl (.refl _) (List.forall₂_same.mpr fun _ _ => rfl)
    (optionalSuite_alike_some hbody' _)

/-- The block of a further condition adds it to the conditional. -/
lemma continues_elif {t : Expr} {body : List Stmt} {elifs : List (ElifClause Stmt)}
    {orelse : Option (Suite Stmt)} (ht : b.type = .elifStmt) (htest : Reads (kids "COND") t)
    (hbody : Tells (kids "BODY") (depth + 1) body) (hnext : Continues next depth elifs orelse ss) :
    Continues (.node id b kids next) depth (⟨t, ⟨body, depth + 1⟩, i⟩ :: elifs) orelse ss := by
  rintro ⟨test, ⟨first, level⟩, before, info⟩
  rw [statements_elif ht]
  refine gives_freshInfo.bind fun info' _ => (gives_required htest).bind fun t' ht' =>
    (gives_body hbody).bind ?_
  rintro _ ⟨body', rfl, hbody'⟩
  refine (hnext _).mono fun ss' hss' => StmtsAlike.trans hss' (StmtsAlike.cons ?_ (.refl _))
  have hclause : Alike ElifClause.toDatum (⟨t', ⟨body', depth + 1⟩, info'⟩ : ElifClause Stmt)
      ⟨t, ⟨body, depth + 1⟩, i⟩ := by
    simpa [ElifClause.toDatum, Suite.toDatum] using ⟨ht', core_suiteDatum hbody' _⟩
  rw [List.append_assoc]
  refine ifStmt_alike rfl (.refl _) (List.rel_append ?_ (.cons hclause ?_)) rfl
  · exact List.forall₂_same.mpr fun _ _ => rfl
  · exact List.forall₂_same.mpr fun _ _ => rfl

/-- The block of a conditional, with the blocks of its alternatives after it. -/
lemma tells_if {t : Expr} {body : List Stmt} {elifs : List (ElifClause Stmt)}
    {orelse : Option (Suite Stmt)} (ht : b.type = .ifStmt) (htest : Reads (kids "COND") t)
    (hbody : Tells (kids "BODY") (depth + 1) body) (hnext : Continues next depth elifs orelse ss) :
    Tells (.node id b kids next) depth (.ifStmt t ⟨body, depth + 1⟩ elifs orelse i :: ss) := by
  intro current
  rw [statements_if ht]
  refine gives_freshInfo.bind fun info' _ => (gives_required htest).bind fun t' ht' =>
    (gives_body hbody).bind ?_
  rintro _ ⟨body', rfl, hbody'⟩
  refine (hnext _).bind fun ss' hss' => gives_pure (StmtsAlike.append (.refl _) ?_)
  refine StmtsAlike.trans hss' (StmtsAlike.cons ?_ (.refl _))
  exact ifStmt_alike ht' hbody' (List.forall₂_same.mpr fun _ _ => rfl) rfl

/-! ## Cases -/

/-- The tree is read as a pattern, up to information. -/
def ReadsPattern (t : BlockTree) (p : Pattern) : Prop :=
  Gives (pattern t) (Alike Pattern.toDatum · p)

/-- The name `_` is read as the pattern that matches everything. -/
lemma readsPattern_wildcard (ht : b.type = .identifier)
    (hname : b.field? "name" = some (.text "_")) :
    ReadsPattern (.node id b kids next) (.wildcard i) := by
  unfold ReadsPattern pattern
  rw [← ofPoints_points] at hname
  simp only [ht, nameIn_eq hname (by decide), ofPoints_points]
  have heq : (Datum.text "_").equiv missingName = true := by decide
  rw [if_pos heq]
  exact gives_freshInfo.bind fun info _ => gives_pure (by simp)

/-- Every other name is read as a pattern that binds it. -/
lemma readsPattern_capture {name : List CodePoint} (ht : b.type = .identifier)
    (hname : b.field? "name" = some (.ofPoints name)) (hne : name ≠ [])
    (hwild : ofPoints name ≠ "_") :
    ReadsPattern (.node id b kids next) (.capture (.ofPoints name) i) := by
  unfold ReadsPattern pattern
  simp only [ht, nameIn_eq hname hne]
  have heq : ¬ (Datum.ofPoints name).equiv missingName = true := by
    rw [missingName, ← ofPoints_points, equiv_ofPoints, decide_eq_true_eq]
    rintro rfl
    exact hwild (ofPoints_points "_")
  rw [if_neg heq]
  exact gives_freshInfo.bind fun info _ => gives_pure (by simp)

/-- A literal is read as a pattern. -/
lemma readsPattern_literal {e : Expr}
    (ht : b.type = .number ∨ b.type = .string ∨ b.type = .bool ∨ b.type = .none)
    (he : Reads (.node id b kids next) e) :
    ReadsPattern (.node id b kids next) (.literal e i) := by
  unfold ReadsPattern pattern
  have hread : Gives (do
      let info ← freshInfo
      return Pattern.literal (← expr (.node id b kids next)) info)
      (Alike Pattern.toDatum · (.literal e i)) := by
    refine gives_freshInfo.bind fun info _ => he.2.bind fun e' he' => gives_pure ?_
    simpa using he'
  rcases ht with ht | ht | ht | ht <;> simpa only [ht] using hread

/-- The chain is read as the cases of a `match` statement at a depth. -/
def TellsCases (t : BlockTree) (depth : ℤ) (cs : List (MatchCase Stmt)) : Prop :=
  Gives (cases t depth) fun cs' => List.Forall₂ (Alike MatchCase.toDatum) cs' cs

/-- An empty chain tells no cases. -/
lemma tellsCases_nothing : TellsCases .nothing depth [] := by
  unfold TellsCases
  rw [cases]
  exact gives_pure .nil

/-- A case and the chain behind it tell the case and the cases of the chain. -/
lemma tellsCases_cons {p : Pattern} {body : List Stmt} {cs : List (MatchCase Stmt)}
    (ht : b.type = .caseStmt) (hp : ReadsPattern (kids "PATTERN") p)
    (hbody : Tells (kids "BODY") (depth + 2) body) (hnext : TellsCases next depth cs) :
    TellsCases (.node id b kids next) depth (⟨p, ⟨body, depth + 2⟩, i⟩ :: cs) := by
  unfold TellsCases
  rw [cases, if_neg (by simp [ht])]
  refine gives_freshInfo.bind fun info _ => Gives.bind hp fun p' hp' =>
    (hbody none).bind fun body' hbody' => Gives.bind hnext fun cs' hcs' => gives_pure (.cons ?_ hcs')
  simpa [MatchCase.toDatum, Suite.toDatum] using ⟨hp', core_suiteDatum hbody' _⟩

/-! ## Bodies that may be missing -/

/-- A flag and a slot show the statements of a body that may be missing. -/
def ShowsBody (b : Block) (kids : String → BlockTree) (flag slot : String) (depth : ℤ) :
    Option (Suite Stmt) → Prop
  | none => b.field? flag = some (.bool false) ∧ kids slot = .nothing
  | some body => b.field? flag = some (.bool true) ∧ body.level = depth + 1 ∧
      Tells (kids slot) (depth + 1) body.statements

/-- A body that is shown is read back, and one that is not shown is none. -/
lemma gives_optionalBody {flag slot : String} {body : Option (Suite Stmt)}
    (h : ShowsBody b kids flag slot depth body) :
    Gives (optionalBody (fun s => (kids s).isPresent) (bodiesOf kids) depth b flag slot)
      (Alike Syntax.optionalSuite · body) := by
  unfold optionalBody
  cases body with
  | none =>
    obtain ⟨hflag, hslot⟩ := h
    rw [field_of_field? hflag, if_pos (by simp [isFalsy, hslot, BlockTree.isPresent])]
    exact gives_pure rfl
  | some body =>
    obtain ⟨body, level⟩ := body
    obtain ⟨hflag, rfl, hbody⟩ := h
    rw [field_of_field? hflag, if_neg (by simp [isFalsy])]
    refine Gives.map ((gives_body hbody).mono ?_)
    rintro _ ⟨ss', rfl, hss'⟩
    exact optionalSuite_alike_some hss' _

/-- A field that holds a flag. -/
lemma isTruthy_field {name : String} {v : Bool} (h : b.field? name = some (.bool v)) :
    (b.field name).isTruthy = v := by
  rw [field_of_field? h, isTruthy, isFalsy, Bool.not_not]

/-! ## Compound statements -/

/-- The block of a loop with a condition is read as the loop. -/
lemma readsStmt_while {t : Expr} {body : List Stmt} {orelse : Option (Suite Stmt)}
    (ht : b.type = .whileStmt) (htest : Reads (kids "COND") t)
    (hbody : Tells (kids "BODY") (depth + 1) body)
    (helse : ShowsBody b kids "has_else" "ELSE_BODY" depth orelse) :
    ReadsStmt id b kids depth (.whileStmt t ⟨body, depth + 1⟩ orelse i) := by
  unfold ReadsStmt
  simp only [stmtOf, ht]
  refine gives_freshInfo.bind fun info _ => (gives_required htest).bind fun t' h₁ =>
    (gives_body hbody).bind ?_
  rintro _ ⟨body', rfl, h₂⟩
  refine (gives_optionalBody helse).bind fun orelse' h₃ => gives_pure ?_
  simpa using ⟨h₁, core_suiteDatum h₂ _, h₃⟩

/-- The block of a loop over items is read as the loop. -/
lemma readsStmt_for {target iter : Expr} {body : List Stmt} {orelse : Option (Suite Stmt)}
    {isAsync : Bool} (ht : b.type = .forStmt) (hasync : b.field? "is_async" = some (.bool isAsync))
    (htarget : Reads (kids "TARGET") target) (hiter : Reads (kids "ITER") iter)
    (hbody : Tells (kids "BODY") (depth + 1) body)
    (helse : ShowsBody b kids "has_else" "ELSE_BODY" depth orelse) :
    ReadsStmt id b kids depth (.forStmt target iter ⟨body, depth + 1⟩ orelse isAsync i) := by
  unfold ReadsStmt
  simp only [stmtOf, ht, isTruthy_field hasync]
  refine gives_freshInfo.bind fun info _ => (gives_required htarget).bind fun target' h₁ =>
    (gives_required hiter).bind fun iter' h₂ => (gives_body hbody).bind ?_
  rintro _ ⟨body', rfl, h₃⟩
  refine (gives_optionalBody helse).bind fun orelse' h₄ => gives_pure ?_
  simpa using ⟨h₁, h₂, core_suiteDatum h₃ _, h₄⟩

/-- The block of a statement with cases is read as the statement. -/
lemma readsStmt_match {subject : Expr} {cs : List (MatchCase Stmt)} (ht : b.type = .matchStmt)
    (hsubject : Reads (kids "SUBJECT") subject) (hpresent : (kids "CASES").isPresent = true)
    (hcases : TellsCases (kids "CASES") depth cs) :
    ReadsStmt id b kids depth (.matchStmt subject cs i) := by
  unfold ReadsStmt
  simp only [stmtOf, ht, hpresent]
  refine gives_freshInfo.bind fun info _ => (gives_required hsubject).bind fun subject' h₁ =>
    Gives.bind hcases fun cs' h₂ => gives_pure ?_
  simpa [caseData_eq_map] using ⟨h₁, coreList_map_congr h₂⟩

/-- The block of a function is read as the function. -/
lemma readsStmt_function {name : List CodePoint} {ps : List (Param Expr)} {body : List Stmt}
    {decorators : List Expr} {returns : Option Expr} {isAsync : Bool} (ht : b.type = .functionDef)
    (hname : b.field? "name" = some (.ofPoints name)) (hne : name ≠ [])
    (hasync : b.field? "is_async" = some (.bool isAsync))
    (hcount : b.field? "item_count" = some (.int ps.length))
    (hdcount : b.field? "decorator_count" = some (.int decorators.length))
    (hps : ∀ j (hj : j < ps.length), ShowsParam b kids true j ps[j])
    (hdecorators : ∀ j (hj : j < decorators.length), Reads (kids s!"DECORATOR{j}") decorators[j])
    (hreturns : ReadsOption (kids "RETURN_TYPE") returns)
    (hbody : Tells (kids "BODY") (depth + 1) body) :
    ReadsStmt id b kids depth
      (.functionDef (.ofPoints name) ps ⟨body, depth + 1⟩ decorators returns isAsync i) := by
  unfold ReadsStmt
  simp only [stmtOf, ht, isTruthy_field hasync, nameIn_eq hname hne]
  refine gives_freshInfo.bind fun info _ => (gives_params hcount hps).bind fun ps' h₁ =>
    (gives_body hbody).bind ?_
  rintro _ ⟨body', rfl, h₂⟩
  refine (gives_countIn hdcount).bind ?_
  rintro _ rfl
  refine (gives_requiredAll hdecorators).bind fun decorators' h₃ =>
    (gives_slot hreturns).bind fun returns' h₄ => gives_pure ?_
  simpa [paramData_eq_map, exprData_eq_map] using
    ⟨coreList_map_congr h₁, core_suiteDatum h₂ _, coreList_map_congr h₃, h₄⟩

/-- The block of a class is read as the class. -/
lemma readsStmt_class {name : List CodePoint} {bases : List Expr} {body : List Stmt}
    {decorators : List Expr} (ht : b.type = .classDef)
    (hname : b.field? "name" = some (.ofPoints name)) (hne : name ≠ [])
    (hcount : b.field? "item_count" = some (.int bases.length))
    (hdcount : b.field? "decorator_count" = some (.int decorators.length))
    (hbases : ∀ j (hj : j < bases.length), Reads (kids s!"BASE{j}") bases[j])
    (hdecorators : ∀ j (hj : j < decorators.length), Reads (kids s!"DECORATOR{j}") decorators[j])
    (hbody : Tells (kids "BODY") (depth + 1) body) :
    ReadsStmt id b kids depth (.classDef (.ofPoints name) bases ⟨body, depth + 1⟩ decorators i) := by
  unfold ReadsStmt
  simp only [stmtOf, ht, nameIn_eq hname hne]
  refine gives_freshInfo.bind fun info _ => (gives_countIn hcount).bind ?_
  rintro _ rfl
  refine (gives_requiredAll hbases).bind fun bases' h₁ => (gives_body hbody).bind ?_
  rintro _ ⟨body', rfl, h₂⟩
  refine (gives_countIn hdcount).bind ?_
  rintro _ rfl
  refine (gives_requiredAll hdecorators).bind fun decorators' h₃ => gives_pure ?_
  simpa [exprData_eq_map] using ⟨coreList_map_congr h₁, core_suiteDatum h₂ _, coreList_map_congr h₃⟩

/-- The fields and slots of an index show a handler. -/
def ShowsHandler (b : Block) (kids : String → BlockTree) (depth : ℤ) (j : ℕ) (h : Handler Stmt) :
    Prop :=
  IsOptionalName h.name ∧ b.field? s!"EXCEPT_NAME{j}" = some (h.name.orElse "") ∧
    ReadsOption (kids s!"EXCEPT_TYPE{j}") h.type ∧ h.body.level = depth + 1 ∧
    Tells (kids s!"EXCEPT_BODY{j}") (depth + 1) h.body.statements

/-- The block of a statement with handlers is read as the statement. -/
lemma readsStmt_try {body : List Stmt} {hs : List (Handler Stmt)}
    {orelse final : Option (Suite Stmt)} (ht : b.type = .tryStmt)
    (hcount : b.field? "handler_count" = some (.int hs.length))
    (hbody : Tells (kids "BODY") (depth + 1) body)
    (hhs : ∀ j (hj : j < hs.length), ShowsHandler b kids depth j hs[j])
    (helse : ShowsBody b kids "has_else" "ELSE_BODY" depth orelse)
    (hfinal : ShowsBody b kids "has_finally" "FINALLY_BODY" depth final) :
    ReadsStmt id b kids depth (.tryStmt ⟨body, depth + 1⟩ hs orelse final i) := by
  have hhandlers : Gives (handlers (slotsOf kids) (bodiesOf kids) depth b) fun hs' =>
      List.Forall₂ (Alike Handler.toDatum) hs' hs := by
    unfold handlers
    refine (gives_countIn hcount).bind ?_
    rintro _ rfl
    refine gives_mapM_range hs fun j hj => ?_
    obtain ⟨hopt, hname, htype, hlevel, hhandler⟩ := hhs j hj
    refine gives_freshInfo.bind fun info _ => (gives_slot htype).bind fun type' h₁ =>
      (gives_body hhandler).bind ?_
    rintro _ ⟨body', rfl, h₂⟩
    refine gives_pure ?_
    rw [optionIn_eq hopt hname]
    generalize hs[j] = h at hlevel h₁ h₂ ⊢
    obtain ⟨type, name, ⟨hbody, level⟩, info'⟩ := h
    obtain rfl : level = depth + 1 := hlevel
    simpa [Handler.toDatum, Suite.toDatum] using ⟨h₁, core_suiteDatum h₂ _⟩
  unfold ReadsStmt
  simp only [stmtOf, ht]
  refine gives_freshInfo.bind fun info _ => (gives_body hbody).bind ?_
  rintro _ ⟨body', rfl, h₁⟩
  refine hhandlers.bind fun hs' h₂ => (gives_optionalBody helse).bind fun orelse' h₃ =>
    (gives_optionalBody hfinal).bind fun final' h₄ => gives_pure ?_
  simpa [handlerData_eq_map] using ⟨core_suiteDatum h₁ _, coreList_map_congr h₂, h₃, h₄⟩

/-- The field and the slot of an index show a context. -/
def ShowsContext (b : Block) (kids : String → BlockTree) (j : ℕ) (w : WithItem) : Prop :=
  IsOptionalName w.name ∧ b.field? s!"NAME{j}" = some (w.name.orElse "") ∧
    Reads (kids s!"CONTEXT{j}") w.context

/-- The block of a statement with contexts is read as the statement. -/
lemma readsStmt_with {items : List WithItem} {body : List Stmt} {isAsync : Bool}
    (ht : b.type = .withStmt) (hasync : b.field? "is_async" = some (.bool isAsync))
    (hcount : b.field? "item_count" = some (.int items.length))
    (hitems : ∀ j (hj : j < items.length), ShowsContext b kids j items[j])
    (hbody : Tells (kids "BODY") (depth + 1) body) :
    ReadsStmt id b kids depth (.withStmt items ⟨body, depth + 1⟩ isAsync i) := by
  have hcontexts : Gives (contexts (slotsOf kids) b) fun items' =>
      List.Forall₂ (Alike WithItem.toDatum) items' items := by
    unfold contexts
    refine (gives_countIn hcount).bind ?_
    rintro _ rfl
    refine gives_mapM_range items fun j hj => ?_
    obtain ⟨hopt, hname, hcontext⟩ := hitems j hj
    refine gives_freshInfo.bind fun info _ => (gives_required hcontext).bind fun context' h₁ =>
      gives_pure ?_
    rw [optionIn_eq hopt hname]
    simpa [WithItem.toDatum] using h₁
  unfold ReadsStmt
  simp only [stmtOf, ht, isTruthy_field hasync]
  refine gives_freshInfo.bind fun info _ => hcontexts.bind fun items' h₁ => (gives_body hbody).bind ?_
  rintro _ ⟨body', rfl, h₂⟩
  refine gives_pure ?_
  simpa using ⟨coreList_map_congr h₁, core_suiteDatum h₂ _⟩

/-! ## Simple statements -/

/-- The block of an assignment to a name is read as the assignment. -/
lemma readsStmt_varSet {name : List CodePoint} {value : Expr} {i' : Info} (ht : b.type = .varSet)
    (hname : b.field? "name" = some (.ofPoints name)) (hne : name ≠ [])
    (hvalue : Reads (kids "VALUE") value) :
    ReadsStmt id b kids depth (.assign [.identifier (.ofPoints name) i'] value i) := by
  unfold ReadsStmt
  simp only [stmtOf, ht, nameIn_eq hname hne]
  refine gives_freshInfo.bind fun info _ => gives_freshInfo.bind fun info' _ =>
    (gives_required hvalue).bind fun value' h₁ => gives_pure ?_
  have htarget : List.Forall₂ Expr.Alike [.identifier (.ofPoints name) info']
      [.identifier (.ofPoints name) i'] := by
    simp
  simpa [exprData_eq_map] using ⟨coreList_map_congr htarget, h₁⟩

/-- The block of an assignment to targets is read as the assignment. -/
lemma readsStmt_assign {targets : List Expr} {value : Expr} (ht : b.type = .assign)
    (hcount : b.field? "item_count" = some (.int targets.length))
    (htargets : ∀ j (hj : j < targets.length), Reads (kids s!"TARGET{j}") targets[j])
    (hvalue : Reads (kids "VALUE") value) :
    ReadsStmt id b kids depth (.assign targets value i) := by
  unfold ReadsStmt
  simp only [stmtOf, ht]
  refine gives_freshInfo.bind fun info _ => (gives_countIn hcount).bind ?_
  rintro _ rfl
  refine (gives_requiredAll htargets).bind fun targets' h₁ =>
    (gives_required hvalue).bind fun value' h₂ => gives_pure ?_
  simpa [exprData_eq_map] using ⟨coreList_map_congr h₁, h₂⟩

/-- The block of an annotated assignment is read as the assignment. -/
lemma readsStmt_annAssign {target hint : Expr} {value : Option Expr} (ht : b.type = .annAssign)
    (htarget : Reads (kids "TARGET") target) (hhint : Reads (kids "ANNOTATION") hint)
    (hvalue : ReadsOption (kids "VALUE") value) :
    ReadsStmt id b kids depth (.annAssign target hint value i) := by
  unfold ReadsStmt
  simp only [stmtOf, ht]
  refine gives_freshInfo.bind fun info _ => (gives_required htarget).bind fun target' h₁ =>
    (gives_required hhint).bind fun hint' h₂ => (gives_slot hvalue).bind fun value' h₃ =>
      gives_pure ?_
  simpa using ⟨h₁, h₂, h₃⟩

/-- The block of an assignment with an operator is read as the assignment. -/
lemma readsStmt_augAssign {target value : Expr} {op : BinaryOp} (ht : b.type = .augAssign)
    (hop : b.field? "op" = some (spelled op)) (htarget : Reads (kids "TARGET") target)
    (hvalue : Reads (kids "VALUE") value) :
    ReadsStmt id b kids depth (.augAssign target op value i) := by
  unfold ReadsStmt
  simp only [stmtOf, ht, field_of_field? hop]
  refine gives_freshInfo.bind fun info _ => (gives_required htarget).bind fun target' h₁ =>
    (gives_chosen id op).bind fun op' hop' => (gives_required hvalue).bind fun value' h₂ =>
      gives_pure ?_
  subst hop'
  simpa using ⟨h₁, h₂⟩

/-- Expressions that are alike make statements that are alike. -/
private lemma exprStmt_alike {e e' : Expr} {i i' : Info} (h : e.Alike e') :
    Stmt.Alike (.exprStmt e i) (.exprStmt e' i') := by
  simpa using h

/-- The block of an expression statement is read as the statement. -/
lemma readsStmt_expr {e : Expr} (ht : b.type = .exprStmt) (he : Reads (kids "EXPR") e) :
    ReadsStmt id b kids depth (.exprStmt e i) := by
  unfold ReadsStmt
  simp only [stmtOf, ht]
  exact (gives_required he).bind fun e' h₁ => gives_freshInfo.bind fun info _ =>
    gives_pure (exprStmt_alike h₁)

/-- Blocks of their own for calls as statements are read as calls. -/
lemma readsStmt_builtin {builtin : BuiltinCall} {name : String} {args : List Expr} {i' i'' : Info}
    (hmem : builtin ∈ BuiltinCall.all) (hstmt : builtin.isStatement = true)
    (ht : b.type = builtin.type) (h : ShowsCall builtin b kids name args) :
    ReadsStmt id b kids depth (.exprStmt (.call (.identifier (.text name) i'') args [] i') i) := by
  have hread : stmtOf id b (fun s => (kids s).isPresent) (slotsOf kids) (bodiesOf kids)
      (cases (kids "CASES")) depth = do
        let info ← freshInfo
        return .exprStmt
          (← builtinCall builtin id b (fun s => (kids s).isPresent) (slotsOf kids)) info := by
    simp only [BuiltinCall.all, List.mem_cons, List.not_mem_nil, or_false] at hmem
    rcases hmem with rfl | rfl | rfl | rfl | rfl | rfl | rfl | rfl | rfl | rfl | rfl | rfl | rfl |
      rfl | rfl
    · rw [stmtOf, ht]
      rfl
    · rw [stmtOf, ht]
      rfl
    all_goals cases hstmt
  have hcall : Gives (builtinCall builtin id b (fun s => (kids s).isPresent) (slotsOf kids))
      (Expr.Alike · (.call (.identifier (.text name) i'') args [] i')) := gives_builtinCall h
  unfold ReadsStmt
  rw [hread]
  refine gives_freshInfo.bind fun info _ => hcall.bind fun e' h₁ => gives_pure ?_
  exact exprStmt_alike h₁

/-- The block of an empty statement is read as the statement. -/
lemma readsStmt_pass (ht : b.type = .passStmt) : ReadsStmt id b kids depth (.passStmt i) := by
  unfold ReadsStmt
  simp only [stmtOf, ht]
  exact gives_freshInfo.bind fun info _ => gives_pure (by simp)

/-- The block that leaves a loop is read as the statement. -/
lemma readsStmt_break (ht : b.type = .breakStmt) : ReadsStmt id b kids depth (.breakStmt i) := by
  unfold ReadsStmt
  simp only [stmtOf, ht]
  exact gives_freshInfo.bind fun info _ => gives_pure (by simp)

/-- The block that goes on with a loop is read as the statement. -/
lemma readsStmt_continue (ht : b.type = .continueStmt) :
    ReadsStmt id b kids depth (.continueStmt i) := by
  unfold ReadsStmt
  simp only [stmtOf, ht]
  exact gives_freshInfo.bind fun info _ => gives_pure (by simp)

/-- The block that returns a value is read as the statement. -/
lemma readsStmt_return {value : Option Expr} (ht : b.type = .returnStmt)
    (hvalue : ReadsOption (kids "VALUE") value) :
    ReadsStmt id b kids depth (.returnStmt value i) := by
  unfold ReadsStmt
  simp only [stmtOf, ht]
  refine (gives_slot hvalue).bind fun value' h₁ => gives_freshInfo.bind fun info _ => gives_pure ?_
  simpa using h₁

/-- The fields of an index show an imported name. -/
def ShowsImport (b : Block) (j : ℕ) (n : ImportName) : Prop :=
  IsOptionalName n.asName ∧ b.field? s!"NAME{j}" = some n.name ∧
    b.field? s!"ALIAS{j}" = some (n.asName.orElse "")

/-- The block of an import is read as the import. -/
lemma readsStmt_import {module : Datum} {names : List ImportName} {isFrom : Bool}
    (ht : b.type = .importStmt) (hmodule : b.field? "module" = some module)
    (hfrom : b.field? "is_from" = some (.bool isFrom))
    (hcount : b.field? "item_count" = some (.int names.length))
    (hnames : ∀ j (hj : j < names.length), ShowsImport b j names[j]) :
    ReadsStmt id b kids depth (.importStmt module names isFrom i) := by
  have hread : Gives (importedNames b) fun names' =>
      List.Forall₂ (Alike ImportName.toDatum) names' names := by
    unfold importedNames
    refine (gives_countIn hcount).bind ?_
    rintro _ rfl
    refine gives_mapM_range names fun j hj => ?_
    obtain ⟨hopt, hname, halias⟩ := hnames j hj
    refine gives_freshInfo.bind fun info _ => gives_pure ?_
    rw [hname, Option.getD_some, optionIn_eq hopt halias]
    simp [ImportName.toDatum]
  unfold ReadsStmt
  simp only [stmtOf, ht, isTruthy_field hfrom, hmodule, Option.getD_some]
  refine gives_freshInfo.bind fun info _ => hread.bind fun names' h₁ => gives_pure ?_
  simpa using coreList_map_congr h₁

/-- The block of an assertion is read as the assertion. -/
lemma readsStmt_assert {t : Expr} {msg : Option Expr} (ht : b.type = .assertStmt)
    (htest : Reads (kids "CONDITION") t) (hmsg : ReadsOption (kids "MESSAGE") msg) :
    ReadsStmt id b kids depth (.assertStmt t msg i) := by
  unfold ReadsStmt
  simp only [stmtOf, ht]
  refine gives_freshInfo.bind fun info _ => (gives_required htest).bind fun t' h₁ =>
    (gives_slot hmsg).bind fun msg' h₂ => gives_pure ?_
  simpa using ⟨h₁, h₂⟩

/-- The block that raises an exception is read as the statement. -/
lemma readsStmt_raise {exception cause : Option Expr} (ht : b.type = .raiseStmt)
    (hexception : ReadsOption (kids "EXCEPTION") exception)
    (hcause : ReadsOption (kids "CAUSE") cause) :
    ReadsStmt id b kids depth (.raiseStmt exception cause i) := by
  unfold ReadsStmt
  simp only [stmtOf, ht]
  refine gives_freshInfo.bind fun info _ => (gives_slot hexception).bind fun exception' h₁ =>
    (gives_slot hcause).bind fun cause' h₂ => gives_pure ?_
  simpa using ⟨h₁, h₂⟩

/-- The block that deletes targets is read as the statement. -/
lemma readsStmt_delete {targets : List Expr} (ht : b.type = .deleteStmt)
    (hcount : b.field? "item_count" = some (.int targets.length))
    (htargets : ∀ j (hj : j < targets.length), Reads (kids s!"TARGET{j}") targets[j]) :
    ReadsStmt id b kids depth (.deleteStmt targets i) := by
  unfold ReadsStmt
  simp only [stmtOf, ht]
  refine gives_freshInfo.bind fun info _ => (gives_countIn hcount).bind ?_
  rintro _ rfl
  refine (gives_requiredAll htargets).bind fun targets' h₁ => gives_pure ?_
  simpa [exprData_eq_map] using coreList_map_congr h₁

/-- The names of a declaration are split as they were joined. -/
lemma gives_declaredNames {names : List (List CodePoint)}
    (hnames : ∀ ps ∈ names, ps ≠ [] ∧ .char ',' ∉ ps ∧ Text.trimPoints ps = ps)
    (hfield : b.field? "names" = some (.ofPoints (Text.joinPoints ", " names))) :
    Gives (declaredNames b) (· = names.map Datum.ofPoints) := by
  unfold declaredNames
  rw [hfield, Option.getD_some, textFor_ofPoints]
  exact gives_pure (Text.names_of_join Datum.ofPoints hnames)

/-- The block of global names is read as their declaration. -/
lemma readsStmt_global {names : List (List CodePoint)} (ht : b.type = .globalStmt)
    (hnames : ∀ ps ∈ names, ps ≠ [] ∧ .char ',' ∉ ps ∧ Text.trimPoints ps = ps)
    (hfield : b.field? "names" = some (.ofPoints (Text.joinPoints ", " names))) :
    ReadsStmt id b kids depth (.globalStmt (names.map Datum.ofPoints) i) := by
  unfold ReadsStmt
  simp only [stmtOf, ht]
  refine (gives_declaredNames hnames hfield).bind ?_
  rintro _ rfl
  exact gives_freshInfo.bind fun info _ => gives_pure (by simp)

/-- The block of names of an outer function is read as their declaration. -/
lemma readsStmt_nonlocal {names : List (List CodePoint)} (ht : b.type = .nonlocalStmt)
    (hnames : ∀ ps ∈ names, ps ≠ [] ∧ .char ',' ∉ ps ∧ Text.trimPoints ps = ps)
    (hfield : b.field? "names" = some (.ofPoints (Text.joinPoints ", " names))) :
    ReadsStmt id b kids depth (.nonlocalStmt (names.map Datum.ofPoints) i) := by
  unfold ReadsStmt
  simp only [stmtOf, ht]
  refine (gives_declaredNames hnames hfield).bind ?_
  rintro _ rfl
  exact gives_freshInfo.bind fun info _ => gives_pure (by simp)

/-! ## Empty lines -/

/-- Statements with empty lines among them. -/
inductive Spaced : List Stmt → List Stmt → Prop
  | nil : Spaced [] []
  | line {ss ss' : List Stmt} {i : Info} (h : Spaced ss ss') :
      Spaced ss (.empty .generated i :: ss')
  | cons {ss ss' : List Stmt} {s : Stmt} (h : Spaced ss ss') : Spaced (s :: ss) (s :: ss')

/-- Empty lines are all that spacing adds. -/
lemma gives_spaced (before : Option Bool) (ss : List Stmt) :
    Gives (spaced before ss) (Spaced ss) := by
  induction ss generalizing before with
  | nil =>
    rw [spaced]
    exact gives_pure .nil
  | cons s rest ih =>
    -- Whatever the gap is, it consists of empty lines.
    have hgap : ∀ gap, (∀ ss, Spaced (s :: rest) ss → Spaced (s :: rest) (gap ++ ss)) → Gives (do
        return gap ++ s :: (← spaced (some (isDefinition s)) rest)) (Spaced (s :: rest)) :=
      fun gap hgap => (ih _).bind fun rest' hrest => gives_pure (hgap _ (.cons hrest))
    have hline : Gives emptyLine fun e => ∃ i, e = .empty .generated i :=
      gives_freshInfo.bind fun i _ => gives_pure ⟨i, rfl⟩
    unfold spaced
    cases before with
    | none => exact hgap [] fun _ h => h
    | some before =>
      dsimp only
      split
      · refine hline.bind ?_
        rintro _ ⟨i, rfl⟩
        refine hline.bind ?_
        rintro _ ⟨i', rfl⟩
        exact hgap _ fun _ h => .line (.line h)
      · exact hgap [] fun _ h => h

/-- Empty lines have no code. -/
lemma Spaced.alike {ss ss' : List Stmt} (h : Spaced ss ss') : StmtsAlike ss' ss := by
  induction h with
  | nil => exact .refl _
  | line _ ih => exact (stmtsAlike_empty ih.symm).symm
  | cons _ ih => exact .cons rfl ih

end BlockText.Compile

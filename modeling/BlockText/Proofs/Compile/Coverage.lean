import BlockText.Proofs.Compile.Expressions
import BlockText.Proofs.Compile.Values
import BlockText.Proofs.Syntax.WellFormed
import BlockText.Proofs.Workspace.Members

/-!
# Statements and the blocks they are read off

A block stands for a construct of a program if its type, its fields and what its slots for values
hold are those of the construct, and if the chains in its slots for statements go along the suites
of the construct, member by member (`Stands`). What is plugged into a slot for a value counts as the
expression that reading it gives.

`Covers` relates rows of a program to blocks: every row goes along a row of blocks that stand for
its members, and the rows of blocks together are the given blocks. `SuiteRead` says what is known of
a suite that was read off the statements of a tree, and `Filled` of the suites that were read off
the slots of a block.
-/

namespace BlockText

open Syntax Workspace

namespace Syntax

/-- The row of a suite. -/
def Suite.row (body : Suite Stmt) : List Construct := body.statements.flatMap Stmt.constructs

/-- The suites of a statement, each with the slot that its blocks are in; further conditions and
cases are constructs of their own. -/
def Stmt.slotted : Stmt → List (String × Suite Stmt)
  | .ifStmt _ body _ _ _ | .functionDef _ _ body _ _ _ _ | .classDef _ _ body _ _
  | .withStmt _ body _ _ => [("BODY", body)]
  | .whileStmt _ body orelse _ | .forStmt _ _ body orelse _ _ =>
    ("BODY", body) :: orelse.toList.map (("ELSE_BODY", ·))
  | .tryStmt body handlers orelse final _ =>
    ("BODY", body) :: (indexed "EXCEPT_BODY" handlers.length).zip (handlers.map (·.body)) ++
      orelse.toList.map (("ELSE_BODY", ·)) ++ final.toList.map (("FINALLY_BODY", ·))
  | _ => []

/-- The rows that belong to a construct, each with the slot that its blocks are in. -/
def Construct.slotted : Construct → List (String × List Construct)
  | .statement (.matchStmt _ cases _) => [("CASES", cases.map .case)]
  | .statement s => s.slotted.map fun part => (part.1, part.2.row)
  | .elif c => [("BODY", c.body.row)]
  | .orelse body => [("BODY", body.row)]
  | .case c => [("BODY", c.body.row)]

/-- The suites of a statement that is one construct and has no cases are those in its slots. -/
lemma Stmt.suites_eq_slotted {s : Stmt} (hconstructs : s.constructs = [.statement s])
    (hmatch : s.isMatch = false) : s.suites = s.slotted.map fun part => (1, part.2) := by
  cases s with
  | ifStmt t body elifs orelse i =>
    obtain ⟨rfl, rfl⟩ : elifs = [] ∧ orelse = none := by simpa [constructs] using hconstructs
    rfl
  | tryStmt body handlers orelse final i =>
    have hzip : ((indexed "EXCEPT_BODY" handlers.length).zip (handlers.map (·.body))).map
        (fun part => ((1 : ℤ), part.2)) = handlers.map fun h => (1, h.body) := by
      rw [← Function.comp_def (Prod.mk (1 : ℤ)) Prod.snd, ← List.map_map, List.map_snd_zip,
        List.map_map]
      · rfl
      · simp [indexed]
    simp [suites, slotted, hzip, Function.comp_def]
  | matchStmt => cases hmatch
  | _ => simp [suites, slotted, Function.comp_def]

end Syntax

namespace Workspace

/-- What the slots of a block hold, as trees. -/
abbrev kidsOf (ws : Workspace) (id : BlockId) : String → BlockTree :=
  fun s => if isOwnPort s then .nothing else ws.tree (ws.held? id s)

/-- All fields for texts hold texts. -/
def Worded (ws : Workspace) : Prop := ∀ entry ∈ ws.blocks, entry.2.Worded

/-- All fields that select a value of a vocabulary hold one. -/
def WellChosen (ws : Workspace) : Prop := ∀ entry ∈ ws.blocks, entry.2.WellChosen

/-- All fields hold what they are for, and all statements are in order. -/
structure Flawless (ws : Workspace) : Prop where
  worded : ws.Worded
  chosen : ws.WellChosen
  inOrder : ∀ id b, ws.block? id = some b → b.isStatement → ws.InOrder id b

end Workspace

namespace Compile

/-! ## What a block depicts -/

section Depicting

variable (b : Block) (kids : String → BlockTree)

/-- The slot is read as the expression, which is a placeholder if the slot is empty. -/
def Holds (slot : String) (e : Expr) : Prop := Returns (required (slotsOf kids) slot) e

/-- The slot is read as the expression, or it is empty and there is none. -/
def HoldsOption (slot : String) (o : Option Expr) : Prop := Returns (slotsOf kids slot) o

/-- A count field holds the number of the items, and each of them is depicted with its index. -/
def DepictsEach {α : Type} (count : String) (depicts : ℕ → α → Prop) (as : List α) : Prop :=
  Returns (countIn b count) as.length ∧ List.Forall₂ depicts (List.range as.length) as

/-- As many slots as a count field says are read as the expressions. -/
def HoldsEach (count stem : String) : List Expr → Prop :=
  DepictsEach b count fun i e => Holds kids s!"{stem}{i}" e

/-- A suite is there if a flag is set or something is in its slot. -/
def HasSuite (flag slot : String) (o : Option (Suite Stmt)) : Prop :=
  o.isSome = ((b.field flag).isTruthy || (kids slot).isPresent)

/-- The fields and the slots with an index are those of the parameter. -/
def DepictsParam (i : ℕ) (p : Param Expr) : Prop :=
  p.name = (b.field? s!"PARAM{i}").getD "" ∧ HoldsOption kids s!"ANNOTATION{i}" p.hint ∧
    HoldsOption kids s!"DEFAULT{i}" p.preset ∧
    choice? ParamKind ((b.field? s!"PARAM_KIND{i}").getD "normal") = some p.kind

/-- The field and the slot with an index are those of the handler. -/
def DepictsHandler (i : ℕ) (h : Handler Stmt) : Prop :=
  HoldsOption kids s!"EXCEPT_TYPE{i}" h.type ∧ h.name = optionIn b s!"EXCEPT_NAME{i}"

/-- The field and the slot with an index are those of the context. -/
def DepictsContext (i : ℕ) (w : WithItem) : Prop :=
  Holds kids s!"CONTEXT{i}" w.context ∧ w.name = optionIn b s!"NAME{i}"

/-- The fields with an index are those of the imported name. -/
def DepictsImport (i : ℕ) (n : ImportName) : Prop :=
  n.name = (b.field? s!"NAME{i}").getD "" ∧ n.asName = optionIn b s!"ALIAS{i}"

/-- The expression is a call of the name with what the slot holds. -/
def DepictsCall (name : String) (e : Expr) : Prop :=
  ∃ arg i i', e = .call (.identifier (.text name) i') [arg] [] i ∧ Holds kids "VALUE" arg

/-- The type, the fields and the values in the slots of the block are those of the statement. -/
def DepictsStmt : Stmt → Prop
  | .ifStmt t _ _ _ _ => b.type = .ifStmt ∧ Holds kids "COND" t
  | .whileStmt t _ orelse _ =>
    b.type = .whileStmt ∧ Holds kids "COND" t ∧ HasSuite b kids "has_else" "ELSE_BODY" orelse
  | .forStmt target iter _ orelse isAsync _ =>
    b.type = .forStmt ∧ Holds kids "TARGET" target ∧ Holds kids "ITER" iter ∧
      HasSuite b kids "has_else" "ELSE_BODY" orelse ∧ isAsync = (b.field "is_async").isTruthy
  | .matchStmt subject _ _ => b.type = .matchStmt ∧ Holds kids "SUBJECT" subject
  | .functionDef name ps _ decorators returns isAsync _ =>
    b.type = .functionDef ∧ name = nameIn b "name" ∧
      DepictsEach b "item_count" (DepictsParam b kids) ps ∧
      HoldsEach b kids "decorator_count" "DECORATOR" decorators ∧
      HoldsOption kids "RETURN_TYPE" returns ∧ isAsync = (b.field "is_async").isTruthy
  | .classDef name bases _ decorators _ =>
    b.type = .classDef ∧ name = nameIn b "name" ∧ HoldsEach b kids "item_count" "BASE" bases ∧
      HoldsEach b kids "decorator_count" "DECORATOR" decorators
  | .assign targets value _ =>
    ((b.type = .varSet ∧ ∃ i, targets = [.identifier (nameIn b "name") i]) ∨
      (b.type = .assign ∧ HoldsEach b kids "item_count" "TARGET" targets)) ∧
      Holds kids "VALUE" value
  | .annAssign target hint value _ =>
    b.type = .annAssign ∧ Holds kids "TARGET" target ∧ Holds kids "ANNOTATION" hint ∧
      HoldsOption kids "VALUE" value
  | .augAssign target op value _ =>
    b.type = .augAssign ∧ Holds kids "TARGET" target ∧
      choice? BinaryOp (b.field "op") = some op ∧ Holds kids "VALUE" value
  | .exprStmt e _ =>
    (b.type = .exprStmt ∧ Holds kids "EXPR" e) ∨ (b.type = .printStmt ∧ DepictsCall kids "print" e) ∨
      (b.type = .waitStmt ∧ DepictsCall kids "sleep" e)
  | .passStmt _ => b.type = .passStmt
  | .breakStmt _ => b.type = .breakStmt
  | .continueStmt _ => b.type = .continueStmt
  | .returnStmt value _ => b.type = .returnStmt ∧ HoldsOption kids "VALUE" value
  | .importStmt module names isFrom _ =>
    b.type = .importStmt ∧ module = (b.field? "module").getD "" ∧
      DepictsEach b "item_count" (DepictsImport b) names ∧ isFrom = (b.field "is_from").isTruthy
  | .tryStmt _ handlers orelse final _ =>
    b.type = .tryStmt ∧ DepictsEach b "handler_count" (DepictsHandler b kids) handlers ∧
      HasSuite b kids "has_else" "ELSE_BODY" orelse ∧
      HasSuite b kids "has_finally" "FINALLY_BODY" final
  | .withStmt items _ isAsync _ =>
    b.type = .withStmt ∧ DepictsEach b "item_count" (DepictsContext b kids) items ∧
      isAsync = (b.field "is_async").isTruthy
  | .assertStmt t msg _ =>
    b.type = .assertStmt ∧ Holds kids "CONDITION" t ∧ HoldsOption kids "MESSAGE" msg
  | .raiseStmt exception cause _ =>
    b.type = .raiseStmt ∧ HoldsOption kids "EXCEPTION" exception ∧ HoldsOption kids "CAUSE" cause
  | .deleteStmt targets _ => b.type = .deleteStmt ∧ HoldsEach b kids "item_count" "TARGET" targets
  | .globalStmt names _ => b.type = .globalStmt ∧ Returns (declaredNames b) names
  | .nonlocalStmt names _ => b.type = .nonlocalStmt ∧ Returns (declaredNames b) names
  | .empty _ _ | .stray _ => False

/-- The type, the fields and the values in the slots of the block are those of the construct. -/
def Depicts : Construct → Prop
  | .statement s => DepictsStmt b kids s
  | .elif c => b.type = .elifStmt ∧ Holds kids "COND" c.test
  | .orelse _ => b.type = .elseStmt
  | .case c => b.type = .caseStmt ∧ Returns (pattern (kids "PATTERN")) c.pattern

end Depicting

/-- The block depicts the construct, and the chains in its slots stand for the rows that belong to
the construct, block by block. -/
inductive Stands (ws : Workspace) : BlockId × Block → Construct → Prop
  | intro {entry : BlockId × Block} {c : Construct}
      (depicts : Depicts entry.2 (ws.kidsOf entry.1) c)
      (slotted : ∀ part ∈ c.slotted,
        List.Forall₂ (Stands ws) (ws.kidsOf entry.1 part.1).spine part.2) : Stands ws entry c

/-- The rows go along rows of blocks, which together are the given blocks. -/
def Covers (ws : Workspace) (entries : List (BlockId × Block)) (rows : List (List Construct)) :
    Prop :=
  ∃ chains : List (List (BlockId × Block)), List.Forall₂ (List.Forall₂ (Stands ws)) chains rows ∧
    (∀ chain ∈ chains, ws.Unbroken (chain.map (·.1))) ∧ chains.flatten.Perm entries

variable {ws : Workspace}

/-! ## Rules -/

lemma covers_nil : Covers ws [] [] := ⟨[], .nil, by simp, .refl _⟩

/-- Some rows and some more. -/
lemma Covers.append {entries entries' : List (BlockId × Block)} {rows rows' : List (List Construct)}
    (h : Covers ws entries rows) (h' : Covers ws entries' rows') :
    Covers ws (entries ++ entries') (rows ++ rows') := by
  obtain ⟨chains, hrows, hunbroken, hperm⟩ := h
  obtain ⟨chains', hrows', hunbroken', hperm'⟩ := h'
  refine ⟨chains ++ chains', List.rel_append hrows hrows', fun chain hchain => ?_, ?_⟩
  · rcases List.mem_append.mp hchain with hchain | hchain
    · exact hunbroken chain hchain
    · exact hunbroken' chain hchain
  · rw [List.flatten_append]
    exact hperm.append hperm'

/-- One row and some more. -/
lemma Covers.cons {chain entries : List (BlockId × Block)} {row : List Construct}
    {rows : List (List Construct)} (hrow : List.Forall₂ (Stands ws) chain row)
    (hchain : ws.Unbroken (chain.map (·.1))) (h : Covers ws entries rows) :
    Covers ws (chain ++ entries) (row :: rows) := by
  have hsingle : Covers ws chain [row] := ⟨[chain], .cons hrow .nil, by simpa using hchain, by simp⟩
  exact hsingle.append h

/-- The order of the blocks does not matter. -/
lemma Covers.perm {entries entries' : List (BlockId × Block)} {rows : List (List Construct)}
    (h : Covers ws entries rows) (hperm : entries.Perm entries') : Covers ws entries' rows := by
  obtain ⟨chains, hrows, hunbroken, hflat⟩ := h
  exact ⟨chains, hrows, hunbroken, hflat.trans hperm⟩

/-! ## Suites -/

/-- A suite at a depth was read off the statements of a tree. -/
structure SuiteRead (ws : Workspace) (t : BlockTree) (depth : ℤ) (suite : Suite Stmt) : Prop where
  level : suite.level = depth
  stands : List.Forall₂ (Stands ws) t.spine suite.row
  wellFormed : ws.Worded → ∀ s ∈ suite.statements, s.WellFormed depth
  covers : Covers ws t.members suite.rows
  inOrder : ∀ entry ∈ t.members, ws.InOrder entry.1 entry.2

/-- Suites were read off slots; slots that were not read are empty. -/
structure Filled (ws : Workspace) (kids : String → BlockTree) (depth : ℤ) (slots : List String)
    (parts : List (String × Suite Stmt)) : Prop where
  read : ∀ part ∈ parts, SuiteRead ws (kids part.1) (depth + 1) part.2
  slots : ∃ unread, (parts.map (·.1) ++ unread).Perm slots ∧ ∀ s ∈ unread, kids s = .nothing

variable {kids : String → BlockTree} {depth : ℤ} {slots slots' : List String}
  {parts parts' : List (String × Suite Stmt)}

lemma filled_nil : Filled ws kids depth [] [] := ⟨by simp, [], .refl _, by simp⟩

/-- One slot that was read. -/
lemma filled_single {s : String} {suite : Suite Stmt}
    (h : SuiteRead ws (kids s) (depth + 1) suite) : Filled ws kids depth [s] [(s, suite)] :=
  ⟨by simpa using h, [], .refl _, by simp⟩

/-- Some slots and some more. -/
lemma Filled.append (h : Filled ws kids depth slots parts)
    (h' : Filled ws kids depth slots' parts') :
    Filled ws kids depth (slots ++ slots') (parts ++ parts') := by
  obtain ⟨hread, unread, hperm, hempty⟩ := h
  obtain ⟨hread', unread', hperm', hempty'⟩ := h'
  refine ⟨List.forall_mem_append.mpr ⟨hread, hread'⟩, unread ++ unread', ?_,
    List.forall_mem_append.mpr ⟨hempty, hempty'⟩⟩
  have hswap : ((parts ++ parts').map (·.1) ++ (unread ++ unread')).Perm
      (parts.map (·.1) ++ unread ++ (parts'.map (·.1) ++ unread')) := by
    rw [List.map_append, List.append_assoc, List.append_assoc]
    exact (List.perm_append_comm_assoc (parts'.map (·.1)) unread unread').append_left _
  exact hswap.trans (hperm.append hperm')

/-- The order of the slots does not matter. -/
lemma Filled.perm (h : Filled ws kids depth slots parts) (hslots : slots.Perm slots') :
    Filled ws kids depth slots' parts := by
  obtain ⟨hread, unread, hperm, hempty⟩ := h
  exact ⟨hread, unread, hperm.trans hslots, hempty⟩

/-- The rows of suites that were read go along the statements in the slots. -/
lemma Filled.covers (h : Filled ws kids depth slots parts) :
    Covers ws (slots.flatMap fun s => (kids s).members)
      (parts.flatMap fun part => part.2.rows) := by
  obtain ⟨hread, unread, hperm, hempty⟩ := h
  have hparts : Covers ws ((parts.map (·.1)).flatMap fun s => (kids s).members)
      (parts.flatMap fun part => part.2.rows) := by
    clear hperm
    induction parts with
    | nil => exact covers_nil
    | cons part rest ih =>
      obtain ⟨hpart, hrest⟩ := List.forall_mem_cons.mp hread
      rw [List.map_cons, List.flatMap_cons, List.flatMap_cons]
      exact hpart.covers.append (ih hrest)
  have hunread : (unread.flatMap fun s => (kids s).members) = [] :=
    List.flatMap_eq_nil_iff.mpr fun s hs => by rw [hempty s hs, BlockTree.members_nothing]
  refine hparts.perm ?_
  have hflat := hperm.flatMap_right fun s => (kids s).members
  rwa [List.flatMap_append, hunread, List.append_nil] at hflat

/-- The statements in the slots are in order. -/
lemma Filled.inOrder (h : Filled ws kids depth slots parts) :
    ∀ s ∈ slots, ∀ entry ∈ (kids s).members, ws.InOrder entry.1 entry.2 := by
  obtain ⟨hread, unread, hperm, hempty⟩ := h
  intro s hs entry hentry
  rcases List.mem_append.mp (hperm.mem_iff.mpr hs) with hs | hs
  · obtain ⟨part, hpart, rfl⟩ := List.mem_map.mp hs
    exact (hread part hpart).inOrder entry hentry
  · rw [hempty s hs] at hentry
    cases hentry

end Compile

end BlockText

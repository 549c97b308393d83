import BlockText.Proofs.Workspace.Heeding
import BlockText.Workspace.Build

/-!
# What building upholds

Blocks are built by a few steps: a block is made, a field is set, something is plugged in or
chained, and the text of a block is remembered.  A property of workspaces that each of these
upholds, `BuildSteps`, is upheld by the building of every program, whether it is carried out or
refused somewhere in the middle.

There are several such properties.  While events are switched off, no event is delivered and events
stay switched off; so showing a program or an error delivers nothing, switches events on again and
leaves whoever follows them.  The blocks stay a forest, and all of them stay measured.
-/

namespace BlockText.Edit

open Syntax Workspace

variable {α β : Type} {P : Workspace → Prop}

/-! ## Steps of building -/

/-- Every step of building upholds the property. -/
structure BuildSteps (P : Workspace → Prop) : Prop where
  create : ∀ type spot, Upholds P (create type spot)
  setField : ∀ id name value, Upholds P (setField id name value)
  connectValue : ∀ parent slot child, Upholds P (connectValue parent slot child)
  connectStatement : ∀ parent slot child, Upholds P (connectStatement parent slot child)
  remember : ∀ ws spans, P ws → P { ws with spans }
  clear : Upholds P clear
  move : ∀ id spot, Upholds P (move id spot)
  cleanUp : ∀ origin, Upholds P (cleanUp origin)
  setViewport : ∀ viewport, Upholds P (setViewport viewport)

namespace BuildSteps

section

variable (h : BuildSteps P)

include h

/-- A new block with its fields upholds what the steps of building uphold. -/
lemma newBlock (type : BlockType) (fields : List (String × Datum)) :
    Upholds P (newBlock type fields) :=
  (h.create type _).bind fun id =>
    (upholds_forM fun _ => h.setField id _ _).bind fun _ => upholds_pure id

/-- Plugging a value in, if there is one, upholds what the steps of building uphold. -/
lemma plug (parent : BlockId) (slot : String) (child : Option BlockId) :
    Upholds P (plug parent slot child) := by
  cases child with
  | some child => exact (h.connectValue parent slot child).discard
  | none => exact upholds_pure ()

/-- Filling a body, if there is something for it, upholds what the steps of building uphold. -/
lemma fill (parent : BlockId) (slot : String) (first : Option BlockId) :
    Upholds P (fill parent slot first) := by
  cases first with
  | some first => exact (h.connectStatement parent slot first).discard
  | none => exact upholds_pure ()

/-- Noting a span upholds what the steps of building uphold. -/
lemma recordSpan (id : BlockId) (info : Info) : Upholds P (recordSpan id info) := by
  unfold Edit.recordSpan
  split
  · exact upholds_modify fun ws => h.remember ws _
  · exact upholds_pure ()

/-- Makes a block and goes on. -/
lemma make {type : BlockType} {fields : List (String × Datum)} {f : BlockId → Edit α}
    (hf : ∀ id, Upholds P (f id)) : Upholds P (Edit.newBlock type fields >>= f) :=
  (h.newBlock type fields).bind hf

/-- Sets a field and goes on. -/
lemma set {id : BlockId} {name : String} {value : Datum} {x : Edit α} (hx : Upholds P x) :
    Upholds P (do Edit.setField id name value; x) :=
  (h.setField id name value).bind fun _ => hx

/-- Builds a value, plugs it in and goes on. -/
lemma value {id : BlockId} {slot : String} {x : Edit (Option BlockId)} {y : Edit α}
    (hx : Upholds P x) (hy : Upholds P y) : Upholds P (do Edit.plug id slot (← x); y) :=
  hx.bind fun child => (h.plug id slot child).bind fun _ => hy

/-- Builds statements, puts them into a slot and goes on. -/
lemma statements {id : BlockId} {slot : String} {x : Edit (Option BlockId)} {y : Edit α}
    (hx : Upholds P x) (hy : Upholds P y) : Upholds P (do Edit.fill id slot (← x); y) :=
  hx.bind fun first => (h.fill id slot first).bind fun _ => hy

/-- Remembers the text of a block and ends. -/
lemma finish {id : BlockId} {info : Info} {a : α} :
    Upholds P (do Edit.recordSpan id info; return a) :=
  (h.recordSpan id info).bind fun _ => upholds_pure a

/-! ## Expressions -/

/-- The block of a literal. -/
lemma literalBlock (kind : LiteralKind) (raw value : Datum) :
    Upholds P (literalBlock kind raw value) := by
  unfold Edit.literalBlock
  split
  · exact h.newBlock _ _
  · split
    · exact h.newBlock _ _
    · exact upholds_throw _
  · exact h.newBlock _ _
  · exact h.newBlock _ _

omit h in
/-- Data for which there is no block are refused. -/
lemma strayExpr (d : Datum) : Upholds P (strayExpr d) := by
  unfold Edit.strayExpr
  split
  · exact upholds_pure _
  · exact upholds_throw _

/-- The block of a call that has a block of its own. -/
lemma builtinBlock (b : BuiltinCall) (f : Expr) (arity : ℕ) :
    Upholds P (builtinBlock b f arity) := by
  have hcount : ∀ id : BlockId, Upholds P (do
      if b.stem.isSome then Edit.setField id "item_count" (count arity)
      return id) := by
    intro id
    dsimp only
    split
    · exact h.set (upholds_pure id)
    · exact upholds_pure id
  unfold Edit.builtinBlock
  refine h.make fun id => ?_
  dsimp only
  split
  · exact h.set (hcount id)
  · exact hcount id

end

mutual

/-- The blocks of an expression, one case for each form. -/
theorem exprBlock (h : BuildSteps P) : (e : Expr) → Upholds P (exprBlock e)
  | .identifier name _ => by
    rw [Edit.exprBlock]
    exact (h.newBlock _ _).map _
  | .literal kind raw value _ => by
    rw [Edit.exprBlock]
    exact (h.literalBlock kind raw value).map _
  | .binary l op r _ => by
    rw [Edit.exprBlock]
    exact h.make fun id => h.value (h.exprBlock l) <| h.value (h.exprBlock r) <| upholds_pure _
  | .unary op e _ => by
    rw [Edit.exprBlock]
    exact h.make fun id => h.value (h.exprBlock e) <| upholds_pure _
  | .boolOp op es _ => by
    rw [Edit.exprBlock]
    exact h.make fun id => (h.plugAll id _ 0 es).bind fun _ => upholds_pure _
  | .compare l ops es _ => by
    rw [Edit.exprBlock]
    exact h.make fun id => h.value (h.exprBlock l) <|
      (h.plugComparisons id 0 ops es).bind fun _ => upholds_pure _
  | .lambda ps body _ => by
    rw [Edit.exprBlock]
    exact h.make fun id => (h.plugParams id false 0 ps).bind fun _ =>
      h.value (h.exprBlock body) <| upholds_pure _
  | .conditional t b e _ => by
    rw [Edit.exprBlock]
    exact h.make fun id => h.value (h.exprBlock t) <| h.value (h.exprBlock b) <|
      h.value (h.exprBlock e) <| upholds_pure _
  | .call f args ks _ => by
    rw [Edit.exprBlock]
    split
    · exact (h.builtinBlock _ f _).bind fun id =>
        (h.plugInto id _ args).bind fun _ => upholds_pure _
    · exact h.make fun id => h.value (h.exprBlock f) <| (h.plugAll id _ 0 args).bind fun _ =>
        (h.plugKeywords id 0 ks).bind fun _ => upholds_pure _
  | .tuple es _ => by
    rw [Edit.exprBlock]
    exact h.make fun id => (h.plugAll id _ 0 es).bind fun _ => upholds_pure _
  | .list es _ => by
    rw [Edit.exprBlock]
    exact h.make fun id => (h.plugAll id _ 0 es).bind fun _ => upholds_pure _
  | .set es _ => by
    rw [Edit.exprBlock]
    exact h.make fun id => (h.plugAll id _ 0 es).bind fun _ => upholds_pure _
  | .dict entries _ => by
    rw [Edit.exprBlock]
    exact h.make fun id => (h.plugEntries id 0 entries).bind fun _ => upholds_pure _
  | .attribute e attr _ => by
    rw [Edit.exprBlock]
    exact h.make fun id => h.value (h.exprBlock e) <| upholds_pure _
  | .subscript e index _ => by
    rw [Edit.exprBlock]
    exact h.make fun id => h.value (h.exprBlock e) <| h.value (h.exprBlock index) <| upholds_pure _
  | .slice lower upper step _ => by
    rw [Edit.exprBlock]
    exact h.make fun id => h.value (h.optionBlock lower) <| h.value (h.optionBlock upper) <|
      h.value (h.optionBlock step) <| upholds_pure _
  | .comprehension kind e cs key _ => by
    rw [Edit.exprBlock]
    exact h.make fun id => h.value (h.exprBlock e) <| h.value (h.optionBlock key) <|
      (h.plugClauses id 0 cs).bind fun _ => upholds_pure _
  | .grouped e _ => by
    rw [Edit.exprBlock]
    exact h.make fun id => h.value (h.exprBlock e) <| upholds_pure _
  | .fstring parts quote _ => by
    rw [Edit.exprBlock]
    exact h.make fun id => (h.plugParts id 0 parts).bind fun _ => upholds_pure _
  | .walrus target e _ => by
    rw [Edit.exprBlock]
    exact h.make fun id => h.value (h.exprBlock e) <| upholds_pure _
  | .yield e _ => by
    rw [Edit.exprBlock]
    exact h.make fun id => h.value (h.optionBlock e) <| upholds_pure _
  | .yieldFrom e _ => by
    rw [Edit.exprBlock]
    exact h.make fun id => h.value (h.exprBlock e) <| upholds_pure _
  | .await e _ => by
    rw [Edit.exprBlock]
    exact h.make fun id => h.value (h.exprBlock e) <| upholds_pure _
  | .stray d => by
    rw [Edit.exprBlock]
    exact strayExpr d

/-- The blocks of an expression that may be there. -/
theorem optionBlock (h : BuildSteps P) : (o : Option Expr) → Upholds P (optionBlock o)
  | some e => by
    rw [Edit.optionBlock]
    exact h.exprBlock e
  | none => by
    rw [Edit.optionBlock]
    exact upholds_pure none

/-- Expressions that are plugged into numbered slots. -/
theorem plugAll (h : BuildSteps P) (id : BlockId) (stem : String) (index : ℕ) :
    (es : List Expr) → Upholds P (plugAll id stem index es)
  | [] => by
    rw [Edit.plugAll]
    exact upholds_pure ()
  | e :: rest => by
    rw [Edit.plugAll]
    exact h.value (h.exprBlock e) (h.plugAll id stem (index + 1) rest)

/-- Expressions that are plugged into named slots. -/
theorem plugInto (h : BuildSteps P) (id : BlockId) :
    (slots : List String) → (es : List Expr) → Upholds P (plugInto id slots es)
  | slot :: slots, e :: rest => by
    rw [Edit.plugInto]
    exact h.value (h.exprBlock e) (h.plugInto id slots rest)
  | [], es => by
    rw [Edit.plugInto.eq_def]
    exact upholds_pure ()
  | _ :: _, [] => by
    rw [Edit.plugInto.eq_def]
    exact upholds_pure ()

/-- The operators and the operands of a comparison. -/
theorem plugComparisons (h : BuildSteps P) (id : BlockId) (index : ℕ) :
    (ops : List CompareOp) → (es : List Expr) → Upholds P (plugComparisons id index ops es)
  | op :: ops, e :: rest => by
    rw [Edit.plugComparisons]
    exact h.set <| h.value (h.exprBlock e) (h.plugComparisons id (index + 1) ops rest)
  | [], es => by
    rw [Edit.plugComparisons.eq_def]
    exact upholds_pure ()
  | _ :: _, [] => by
    rw [Edit.plugComparisons.eq_def]
    exact upholds_pure ()

/-- Parameters that are plugged in. -/
theorem plugParams (h : BuildSteps P) (id : BlockId) (hints : Bool) (index : ℕ) :
    (ps : List (Param Expr)) → Upholds P (plugParams id hints index ps)
  | [] => by
    rw [Edit.plugParams]
    exact upholds_pure ()
  | ⟨name, hint, preset, kind, _⟩ :: rest => by
    have hpreset : Upholds P (do
        Edit.plug id s!"DEFAULT{index}" (← Edit.optionBlock preset)
        Edit.plugParams id hints (index + 1) rest) :=
      h.value (h.optionBlock preset) (h.plugParams id hints (index + 1) rest)
    rw [Edit.plugParams]
    refine h.set <| h.set ?_
    dsimp only
    split
    · exact h.value (h.optionBlock hint) hpreset
    · exact hpreset

/-- Keyword arguments that are plugged in. -/
theorem plugKeywords (h : BuildSteps P) (id : BlockId) (index : ℕ) :
    (ks : List (Keyword Expr)) → Upholds P (plugKeywords id index ks)
  | [] => by
    rw [Edit.plugKeywords]
    exact upholds_pure ()
  | ⟨name, value, _⟩ :: rest => by
    rw [Edit.plugKeywords]
    exact h.set <| h.value (h.exprBlock value) (h.plugKeywords id (index + 1) rest)

/-- Entries of a dictionary that are plugged in. -/
theorem plugEntries (h : BuildSteps P) (id : BlockId) (index : ℕ) :
    (entries : List (DictEntry Expr)) → Upholds P (plugEntries id index entries)
  | [] => by
    rw [Edit.plugEntries]
    exact upholds_pure ()
  | ⟨key, value, _⟩ :: rest => by
    rw [Edit.plugEntries]
    exact h.value (h.optionBlock key) <| h.value (h.exprBlock value) <|
      h.plugEntries id (index + 1) rest

/-- Comprehension clauses that are plugged in. -/
theorem plugClauses (h : BuildSteps P) (id : BlockId) (index : ℕ) :
    (cs : List (Clause Expr)) → Upholds P (plugClauses id index cs)
  | [] => by
    rw [Edit.plugClauses]
    exact upholds_pure ()
  | ⟨target, iter, ifs, isAsync, _⟩ :: rest => by
    rw [Edit.plugClauses]
    exact h.set <| h.set <| h.value (h.exprBlock target) <| h.value (h.exprBlock iter) <|
      (h.plugAll id _ 0 ifs).bind fun _ => h.plugClauses id (index + 1) rest

/-- Parts of a formatted string that are plugged in. -/
theorem plugParts (h : BuildSteps P) (id : BlockId) (index : ℕ) :
    (parts : List (FormatPart Expr)) → Upholds P (plugParts id index parts)
  | [] => by
    rw [Edit.plugParts]
    exact upholds_pure ()
  | ⟨kind, text, e, conversion, spec, _⟩ :: rest => by
    rw [Edit.plugParts]
    exact h.set <| h.set <| h.set <| h.set <|
      h.value (h.optionBlock e) (h.plugParts id (index + 1) rest)

end

/-! ## Patterns and small statements -/

section

variable (h : BuildSteps P)

include h

/-- The block of a pattern. -/
lemma patternBlock (p : Pattern) : Upholds P (patternBlock p) := by
  unfold Edit.patternBlock
  split
  · exact h.newBlock _ _
  · exact h.newBlock _ _
  · exact h.literalBlock _ _ _
  · exact upholds_throw _
  · exact upholds_throw _

/-- The block of an import. -/
lemma importBlock (module : Datum) (names : List ImportName) (isFrom : Bool) :
    Upholds P (importBlock module names isFrom) :=
  h.make fun id => (upholds_forM fun _ => h.set (h.setField id _ _)).bind fun _ => upholds_pure id

omit h in
/-- The text of declared names. -/
lemma namesText (names : List Datum) : Upholds P (namesText names) := by
  refine Upholds.bind (upholds_mapM fun item => ?_) fun parts => upholds_pure _
  obtain ⟨d, i⟩ := item
  dsimp only
  split
  · exact upholds_pure _
  · exact upholds_throw _

/-- The blocks of targets that are deleted. -/
lemma targetsBlock (targets : List Expr) : Upholds P (targetsBlock targets) := by
  unfold Edit.targetsBlock
  split
  · exact h.newBlock _ _
  · exact h.make fun id => (h.plugAll id _ 0 targets).bind fun _ => upholds_pure id

/-- The block of an expression statement. -/
lemma exprStmtBlock (e : Expr) : Upholds P (exprStmtBlock e) := by
  unfold Edit.exprStmtBlock
  dsimp only
  split
  · exact h.make fun id => (h.plugInto id _ _).bind fun _ => upholds_pure id
  · exact h.make fun id => h.value (h.exprBlock e) <| upholds_pure id

/-- A block without parts. -/
lemma plainBlock (type : BlockType) (info : Info) : Upholds P (plainBlock type info) :=
  h.make fun _ => h.finish

/-- Blocks that are put at the end of a chain. -/
lemma appendBlocks (first tail : Option BlockId) (ids : List BlockId) :
    Upholds P (appendBlocks first tail ids) := by
  induction ids generalizing first tail with
  | nil => exact upholds_pure _
  | cons id rest ih =>
    cases tail with
    | some before => exact (h.connectStatement before _ id).bind fun _ => ih first (some id)
    | none => exact ih (some id) (some id)

/-- Plugs in the contexts of items and sets their names. -/
lemma contexts (id : BlockId) (items : List WithItem) :
    Upholds P (items.zipIdx.forM fun (item, i) => do
      Edit.plug id s!"CONTEXT{i}" (← Edit.exprBlock item.context)
      Edit.setField id s!"NAME{i}" (item.name.orElse "")) :=
  upholds_forM fun _ => h.value (h.exprBlock _) (h.setField id _ _)

end

/-! ## Statements -/

mutual

/-- The blocks of a statement, one case for each form. -/
theorem stmtBlocks (h : BuildSteps P) : (s : Stmt) → Upholds P (stmtBlocks s)
  | .ifStmt t ⟨body, _⟩ elifs orelse info => by
    rw [Edit.stmtBlocks]
    exact h.make fun id => h.value (h.exprBlock t) <| h.statements (h.suiteBlocks _ _ body) <|
      (h.elifBlocks elifs).bind fun _ => (h.elseBlock orelse).bind fun _ => h.finish
  | .whileStmt t ⟨body, _⟩ orelse info => by
    rw [Edit.stmtBlocks]
    exact h.make fun id => h.value (h.exprBlock t) <| h.statements (h.suiteBlocks _ _ body) <|
      h.statements (h.optionalSuite orelse) h.finish
  | .forStmt target iter ⟨body, _⟩ orelse isAsync info => by
    rw [Edit.stmtBlocks]
    exact h.make fun id => h.value (h.exprBlock target) <| h.value (h.exprBlock iter) <|
      h.statements (h.suiteBlocks _ _ body) <| h.statements (h.optionalSuite orelse) h.finish
  | .matchStmt subject cases info => by
    rw [Edit.stmtBlocks]
    exact h.make fun id => h.value (h.exprBlock subject) <|
      (h.caseBlocks id none cases).bind fun _ => h.finish
  | .functionDef name ps ⟨body, _⟩ decorators returns isAsync info => by
    rw [Edit.stmtBlocks]
    exact h.make fun id => (h.plugParams id true 0 ps).bind fun _ =>
      (h.plugAll id _ 0 decorators).bind fun _ => h.value (h.optionBlock returns) <|
      h.statements (h.suiteBlocks _ _ body) h.finish
  | .classDef name bases ⟨body, _⟩ decorators info => by
    rw [Edit.stmtBlocks]
    exact h.make fun id => (h.plugAll id _ 0 bases).bind fun _ =>
      (h.plugAll id _ 0 decorators).bind fun _ => h.statements (h.suiteBlocks _ _ body) h.finish
  | .assign targets value info => by
    rw [Edit.stmtBlocks]
    exact (h.targetsBlock targets).bind fun id => h.value (h.exprBlock value) h.finish
  | .annAssign target hint value info => by
    rw [Edit.stmtBlocks]
    exact h.make fun id => h.value (h.exprBlock target) <| h.value (h.exprBlock hint) <|
      h.value (h.optionBlock value) h.finish
  | .augAssign target op value info => by
    rw [Edit.stmtBlocks]
    exact h.make fun id => h.value (h.exprBlock target) <| h.value (h.exprBlock value) h.finish
  | .exprStmt e info => by
    rw [Edit.stmtBlocks]
    exact (h.exprStmtBlock e).bind fun id => h.finish
  | .passStmt info => by
    rw [Edit.stmtBlocks]
    exact h.plainBlock _ info
  | .breakStmt info => by
    rw [Edit.stmtBlocks]
    exact h.plainBlock _ info
  | .continueStmt info => by
    rw [Edit.stmtBlocks]
    exact h.plainBlock _ info
  | .returnStmt value info => by
    rw [Edit.stmtBlocks]
    exact h.make fun id => h.value (h.optionBlock value) h.finish
  | .importStmt module names isFrom info => by
    rw [Edit.stmtBlocks]
    exact (h.importBlock module names isFrom).bind fun id => h.finish
  | .tryStmt ⟨body, _⟩ handlers orelse final info => by
    rw [Edit.stmtBlocks]
    exact h.make fun id => h.statements (h.suiteBlocks _ _ body) <|
      (h.handlerBlocks id 0 handlers).bind fun _ => h.statements (h.optionalSuite orelse) <|
      h.statements (h.optionalSuite final) h.finish
  | .withStmt items ⟨body, _⟩ isAsync info => by
    rw [Edit.stmtBlocks]
    exact h.make fun id => (h.contexts id items).bind fun _ =>
      h.statements (h.suiteBlocks _ _ body) h.finish
  | .assertStmt t msg info => by
    rw [Edit.stmtBlocks]
    exact h.make fun id => h.value (h.exprBlock t) <| h.value (h.optionBlock msg) h.finish
  | .raiseStmt exception cause info => by
    rw [Edit.stmtBlocks]
    exact h.make fun id => h.value (h.optionBlock exception) <|
      h.value (h.optionBlock cause) h.finish
  | .deleteStmt targets info => by
    rw [Edit.stmtBlocks]
    exact h.make fun id => (h.plugAll id _ 0 targets).bind fun _ => h.finish
  | .globalStmt names info => by
    rw [Edit.stmtBlocks]
    exact (namesText names).bind fun _ => h.make fun id => h.finish
  | .nonlocalStmt names info => by
    rw [Edit.stmtBlocks]
    exact (namesText names).bind fun _ => h.make fun id => h.finish
  | .empty _ _ => by
    rw [Edit.stmtBlocks]
    exact upholds_pure []
  | .stray d => by
    rw [Edit.stmtBlocks]
    exact upholds_throw _

/-- The chain of a body. -/
theorem suiteBlocks (h : BuildSteps P) (first tail : Option BlockId) :
    (ss : List Stmt) → Upholds P (suiteBlocks first tail ss)
  | [] => by
    rw [Edit.suiteBlocks]
    exact upholds_pure first
  | s :: rest => by
    rw [Edit.suiteBlocks]
    exact (h.stmtBlocks s).bind fun ids => (h.appendBlocks first tail ids).bind fun ends =>
      h.suiteBlocks ends.1 ends.2 rest

/-- The chain of a body that may be there. -/
theorem optionalSuite (h : BuildSteps P) :
    (o : Option (Suite Stmt)) → Upholds P (optionalSuite o)
  | some ⟨body, _⟩ => by
    rw [Edit.optionalSuite]
    exact h.suiteBlocks none none body
  | none => by
    rw [Edit.optionalSuite]
    exact upholds_pure none

/-- The blocks of further conditions. -/
theorem elifBlocks (h : BuildSteps P) :
    (cs : List (ElifClause Stmt)) → Upholds P (elifBlocks cs)
  | [] => by
    rw [Edit.elifBlocks]
    exact upholds_pure []
  | ⟨t, ⟨body, _⟩, info⟩ :: rest => by
    rw [Edit.elifBlocks]
    exact h.make fun id => h.value (h.exprBlock t) <| h.statements (h.suiteBlocks _ _ body) <|
      (h.recordSpan id info).bind fun _ => (h.elifBlocks rest).bind fun _ => upholds_pure _

/-- The block of a last body. -/
theorem elseBlock (h : BuildSteps P) : (o : Option (Suite Stmt)) → Upholds P (elseBlock o)
  | some ⟨body, _⟩ => by
    rw [Edit.elseBlock]
    exact h.make fun id => h.statements (h.suiteBlocks _ _ body) <| upholds_pure _
  | none => by
    rw [Edit.elseBlock]
    exact upholds_pure []

/-- The chain of cases. -/
theorem caseBlocks (h : BuildSteps P) (parent : BlockId) (tail : Option BlockId) :
    (cs : List (MatchCase Stmt)) → Upholds P (caseBlocks parent tail cs)
  | [] => by
    rw [Edit.caseBlocks]
    exact upholds_pure ()
  | ⟨p, ⟨body, _⟩, info⟩ :: rest => by
    rw [Edit.caseBlocks]
    refine h.make fun id => (h.patternBlock p).bind fun child =>
      (h.connectValue id _ child).bind fun _ => h.statements (h.suiteBlocks _ _ body) <|
      (h.recordSpan id info).bind fun _ => ?_
    cases tail with
    | some before =>
      exact (h.connectStatement before _ id).bind fun _ => h.caseBlocks parent (some id) rest
    | none =>
      exact (h.connectStatement parent _ id).bind fun _ => h.caseBlocks parent (some id) rest

/-- Handlers with their bodies. -/
theorem handlerBlocks (h : BuildSteps P) (id : BlockId) (index : ℕ) :
    (handlers : List (Handler Stmt)) → Upholds P (handlerBlocks id index handlers)
  | [] => by
    rw [Edit.handlerBlocks]
    exact upholds_pure ()
  | ⟨type, name, ⟨body, _⟩, _⟩ :: rest => by
    rw [Edit.handlerBlocks]
    exact h.value (h.optionBlock type) <| h.set <| h.statements (h.suiteBlocks _ _ body) <|
      h.handlerBlocks id (index + 1) rest

end

/-! ## Programs and errors -/

section

variable (h : BuildSteps P)

include h

/-- Emptying the workspace upholds what the steps of building uphold. -/
lemma wipe : Upholds P wipe :=
  h.clear.bind fun _ => upholds_modify fun ws => h.remember ws []

/-- Everything that showing a program does after everything has been removed. -/
lemma installBlocks (p : Program) (viewport : Viewport) : Upholds P (do
    let entry ← Edit.create .start
    Edit.fill entry "BODY" (← Edit.suiteBlocks none none p.body.statements)
    moveBy entry entrySpot
    Edit.cleanUp entrySpot
    Edit.setViewport viewport) :=
  (h.create _ _).bind fun entry =>
    h.statements (h.suiteBlocks _ _ _) <| (upholds_get.bind fun _ => h.move entry _).bind fun _ =>
    (h.cleanUp _).bind fun _ => h.setViewport _

/-- Installing a program upholds what the steps of building uphold. -/
lemma install (p : Program) : Upholds P (install p) :=
  upholds_get.bind fun ws => h.wipe.bind fun _ => h.installBlocks p ws.viewport

end

end BuildSteps

/-- `P` is upheld when a program or an error is shown: building upholds `Q`, which stands in for `P`
while events are switched off. -/
structure ShowSteps (P Q : Workspace → Prop) : Prop where
  steps : BuildSteps Q
  quietly : ∀ x : Edit Unit, Upholds Q x → Upholds P (quietly x)
  declare : Upholds P refreshDeclared
  mark : ∀ ws installed rebuilds, P ws → P { ws with installed, rebuilds }

namespace ShowSteps

variable {Q : Workspace → Prop} (h : ShowSteps P Q)

include h

/-- Showing a program upholds the property, also if the program cannot be shown. -/
lemma build (p : Program) : Upholds P (build p) := by
  refine upholds_get.bind fun ws => ?_
  split
  · exact upholds_pure false
  · exact (h.quietly _ (h.steps.install p)).bind fun _ => h.declare.bind fun _ =>
      (upholds_modify fun ws => h.mark ws _ _).bind fun _ => upholds_pure true

/-- Showing an error upholds what showing upholds. -/
lemma showError (message : String) : Upholds P (showError message) := by
  have hinner := upholds_get.bind fun ws : Workspace => h.steps.wipe.bind fun _ =>
    (h.steps.create .syncError entrySpot).bind fun id =>
    (h.steps.setField id "message" message).bind fun _ => h.steps.setViewport ws.viewport
  exact (h.quietly _ hinner).bind fun _ => h.declare.bind fun _ =>
    upholds_modify fun ws => h.mark ws none ws.rebuilds

end ShowSteps

/-- Building upholds what concerns events only, if their delivery does. -/
lemma Heeds.buildSteps (h : Heeds P) (hspans : ∀ ws spans, P ws → P { ws with spans }) :
    BuildSteps P where
  create := h.create
  setField := h.setField
  connectValue := h.connectValue
  connectStatement := h.connectStatement
  remember := hspans
  clear := h.clear
  move := h.move
  cleanUp := h.cleanUp
  setViewport := h.setViewport

/-! ## Events while they are switched off -/

/-- Events are switched off this many times, and these have been delivered. -/
def Silent (muted : ℕ) (events : List Event) (ws : Workspace) : Prop :=
  ws.muted = muted ∧ ws.events = events

section Silent

variable {n : ℕ} {events : List Event}

/-- While events are switched off, no operation delivers one. -/
lemma heeds_silent : Heeds (Silent (n + 1) events) :=
  heeds_of_muted (fun ws h => by simp [h.1])
    fun hsame h => ⟨hsame.muted.trans h.1, hsame.events.trans h.2⟩

/-- An edit without events delivers none, and switches events on again. -/
lemma silent_quietly {x : Edit α} (hx : Upholds (Silent (n + 1) events) x) :
    Upholds (Silent n events) (quietly x) := by
  intro ws h
  have hinner := hx { ws with muted := ws.muted + 1 } ⟨congrArg (· + 1) h.1, h.2⟩
  refine ends_quietly (hinner.mono (fun _ ws' h' => ?_) fun ws' h' => ?_)
  · exact ⟨congrArg (· - 1) h'.1, h'.2⟩
  · exact ⟨congrArg (· - 1) h'.1, h'.2⟩

/-- Showing a program or an error delivers no event and switches events on again. -/
lemma showSteps_silent : ShowSteps (Silent n events) (Silent (n + 1) events) where
  steps := heeds_silent.buildSteps fun _ _ h => h
  quietly _ := silent_quietly
  declare := upholds_refreshDeclared fun hsame h =>
    ⟨hsame.muted.trans h.1, hsame.events.trans h.2⟩
  mark _ _ _ h := h

end Silent

/-! ## Followers -/

/-- Showing a program or an error leaves events switched on and followed. -/
lemma showSteps_followed : ShowSteps Followed fun ws => ws.muted = 1 ∧ ws.watched = true where
  steps := (heeds_of_muted (fun ws h => by simp [h.1]) fun hsame h =>
    ⟨hsame.muted.trans h.1, hsame.watched.trans h.2⟩).buildSteps fun _ _ h => h
  quietly x hx ws h := by
    have hinner := hx { ws with muted := ws.muted + 1 } ⟨congrArg (· + 1) h.muted, h.watched⟩
    refine ends_quietly (hinner.mono (fun _ ws' h' => ?_) fun ws' h' => ?_)
    · exact ⟨congrArg (· - 1) h'.1, h'.2⟩
    · exact ⟨congrArg (· - 1) h'.1, h'.2⟩
  declare := upholds_refreshDeclared followed_congr
  mark _ _ _ h := ⟨h.muted, h.watched⟩

/-! ## Forests -/

/-- Building keeps the forest. -/
lemma buildSteps_forest : BuildSteps Forest where
  create := keepsForest_create
  setField := keepsForest_setField
  connectValue := keepsForest_connectValue
  connectStatement := keepsForest_connectStatement
  remember ws _ h := .of_sameGraph (show SameGraph ws _ from ⟨rfl, rfl, rfl, rfl⟩) h
  clear := keepsForest_clear
  move := keepsForest_move
  cleanUp := keepsForest_cleanUp
  setViewport := keepsForest_setViewport

/-- Showing a program or an error keeps the forest. -/
lemma showSteps_forest : ShowSteps Forest Forest where
  steps := buildSteps_forest
  quietly x hx ws h := by
    have hmuted : ∀ (ws : Workspace) muted, ws.Forest → ({ ws with muted } : Workspace).Forest :=
      fun ws _ h => .of_sameGraph (show SameGraph ws _ from ⟨rfl, rfl, rfl, rfl⟩) h
    refine ends_quietly ((hx _ (hmuted ws _ h)).mono (fun _ ws' h' => ?_) fun ws' h' => ?_)
    · exact hmuted ws' _ h'
    · exact hmuted ws' _ h'
  declare := fun _ h => ends_refreshDeclared.mono (fun _ _ hgraph => .of_sameGraph hgraph h)
    fun _ hgraph => .of_sameGraph hgraph h
  mark ws _ _ h := .of_sameGraph (show SameGraph ws _ from ⟨rfl, rfl, rfl, rfl⟩) h

/-! ## Measured blocks -/

/-- Building keeps all blocks measured. -/
lemma buildSteps_measured : BuildSteps Measured where
  create type spot := by
    have hfresh : Upholds Measured freshId := fun _ h => h
    exact hfresh.bind fun id => Upholds.bind (keepsMeasured_place id type spot) fun _ =>
      upholds_pure id
  setField := keepsMeasured_setField
  connectValue := keepsMeasured_connectValue
  connectStatement := keepsMeasured_connectStatement
  remember _ _ h := h
  clear := keepsMeasured_clear
  move := keepsMeasured_move
  cleanUp := decidedByBlocks_measured.cleanUp
  setViewport := keepsMeasured_setViewport

/-- Showing a program or an error keeps all blocks measured. -/
lemma showSteps_measured : ShowSteps Measured Measured where
  steps := buildSteps_measured
  quietly _ hx := fun _ h => ends_quietly (hx _ h)
  declare := fun _ h => ends_refreshDeclared.mono
    (fun _ _ hgraph => decidedByBlocks_measured hgraph.blocks h)
    fun _ hgraph => decidedByBlocks_measured hgraph.blocks h
  mark _ _ _ h := h

end BlockText.Edit

/-!
## Everything that happens to a workspace

Besides the operations on single blocks there are those on the workspace as a whole: a program or
an error is shown in it, another part of the canvas is shown, or the document is forgotten.  An
`Action` is one of all these.  Whatever actions an empty workspace goes through, carried out or
refused, its blocks stay a forest and stay measured.
-/

namespace BlockText

open Syntax Workspace

/-- What can happen to a workspace. -/
inductive Action
  | operation (op : Operation)
  | build (p : Program)
  | showError (message : String)
  | setViewport (viewport : Viewport)
  | invalidate

namespace Action

/-- The edit that an action is. -/
def edit : Action → Edit Unit
  | operation op => op.edit
  | build p => discard (Edit.build p)
  | showError message => Edit.showError message
  | setViewport viewport => Edit.setViewport viewport
  | invalidate => Edit.invalidate

/-- The workspace that an action leaves, whether it is carried out or refused. -/
def apply (ws : Workspace) (a : Action) : Workspace := (a.edit.run ws).2

/-- The workspace that actions leave, one after another. -/
def applyAll (ws : Workspace) (actions : List Action) : Workspace := actions.foldl apply ws

variable {P Q : Workspace → Prop}

/-- An action upholds what operations, views, and the steps of showing uphold. -/
lemma upholds_edit (hop : ∀ op : Operation, Edit.Upholds P op.edit) (hshow : Edit.ShowSteps P Q)
    (hview : ∀ viewport, Edit.Upholds P (Edit.setViewport viewport)) (a : Action) :
    Edit.Upholds P a.edit := by
  cases a with
  | operation op => exact hop op
  | build p => exact (hshow.build p).discard
  | showError message => exact hshow.showError message
  | setViewport viewport => exact hview viewport
  | invalidate => exact Edit.upholds_modify fun ws => hshow.mark ws none ws.rebuilds

/-- What every action upholds, all actions together uphold. -/
lemma applyAll_induction (h : ∀ a : Action, Edit.Upholds P a.edit) {ws : Workspace} (hw : P ws)
    (actions : List Action) : P (applyAll ws actions) := by
  induction actions generalizing ws with
  | nil => exact hw
  | cons a rest ih => exact ih ((h a).run hw)

/-- Actions leave a forest. -/
lemma forest_applyAll {ws : Workspace} (hw : ws.Forest) (actions : List Action) :
    (applyAll ws actions).Forest :=
  applyAll_induction (upholds_edit Operation.keepsForest_edit Edit.showSteps_forest
    Edit.keepsForest_setViewport) hw actions

/-- Actions leave measured blocks. -/
lemma measured_applyAll {ws : Workspace} (hw : ws.Measured) (actions : List Action) :
    (applyAll ws actions).Measured :=
  applyAll_induction (upholds_edit Operation.keepsMeasured_edit Edit.showSteps_measured
    Edit.keepsMeasured_setViewport) hw actions

end Action

namespace Workspace

/-- Actions leave a forest of what was empty. -/
lemma forest_of_actions (watched : Bool) (muted : ℕ) (actions : List Action) :
    (Action.applyAll { watched, muted } actions).Forest :=
  Action.forest_applyAll (Edit.forest_of_empty rfl rfl rfl rfl) actions

/-- Actions leave measured blocks in what was empty. -/
lemma measured_of_actions (watched : Bool) (muted : ℕ) (actions : List Action) :
    (Action.applyAll { watched, muted } actions).Measured :=
  Action.measured_applyAll (by simp [Measured]) actions

end Workspace

end BlockText

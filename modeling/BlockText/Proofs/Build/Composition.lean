import BlockText.Proofs.Build.Tracing

/-!
# The blocks of every construct

Building an expression, a statement or a suite makes exactly the blocks that `Origin`s list for it,
in that order, whatever it is.  There is one case for each constructor, and each of them follows the
steps in which the construct is built.
-/

namespace BlockText

/-! ## Calls -/

/-- The blocks of calls as expressions can be plugged in. -/
lemma BuiltinCall.expression_sound {b : BuiltinCall} (hb : b ∈ BuiltinCall.all)
    (hexpr : b.isStatement = false) : b.type.kind = .expression := by
  revert b
  decide

namespace Edit

open Syntax Workspace

variable {α : Type} {span : Option Span} {id : BlockId}

/-- The slots for the arguments of a call with a block of its own are as many as these. -/
private lemma length_slotsFor {f : Expr} {n : ℕ} {hasKeywords isStatement : Bool} {b : BuiltinCall}
    (h : BuiltinCall.match? f n hasKeywords isStatement = some b) :
    ((b.slotsFor? n).getD []).length = n := by
  obtain ⟨_, _, -, -, hb, -, -, haccepts⟩ := BuiltinCall.of_match? h
  obtain ⟨slots, hslots, hlength, -⟩ := BuiltinCall.exists_slotsFor hb haccepts
  rw [hslots, Option.getD_some, hlength]

/-- A call with a statement block of its own has a slot for each argument. -/
private lemma length_statementSlots {e : Expr} {b : BuiltinCall} {args : List Expr}
    (h : statementCall? e = some (b, args)) :
    ((b.slotsFor? args.length).getD []).length = args.length := by
  unfold statementCall? at h
  split at h
  case h_1 f args' ks i =>
    obtain ⟨b', hmatch, heq⟩ := Option.map_eq_some_iff.mp h
    obtain ⟨rfl, rfl⟩ := Prod.mk.inj heq
    exact length_slotsFor hmatch
  case h_2 => cases h

/-! ## Single blocks -/

/-- A literal has one block, whose type is that of its kind. -/
lemma makes_literalBlock (kind : LiteralKind) (raw value : Datum) :
    Makes kind.blockType (literalBlock kind raw value) := by
  unfold literalBlock
  split
  · exact makes_newBlock _ _
  · split
    · exact makes_newBlock _ _
    · exact traced_throw _
  · exact makes_newBlock _ _
  · exact makes_newBlock _ _

/-- The block of a literal is an expression. -/
lemma kind_literalBlock (kind : LiteralKind) : kind.blockType.kind = .expression := by
  cases kind <;> rfl

/-- A call with a block of its own has one block besides its arguments. -/
lemma makes_builtinBlock (b : BuiltinCall) (f : Expr) (arity : ℕ) :
    Makes b.type (builtinBlock b f arity) := by
  have hcount : ∀ id : BlockId, Traced (fun made ds => made = id ∧ ds = []) (do
      if b.stem.isSome then setField id "item_count" (count arity)
      return id) := by
    intro id
    dsimp only
    split
    · exact (quiet_setField _ _ _).bind fun _ => traced_pure ⟨rfl, rfl⟩
    · exact traced_pure ⟨rfl, rfl⟩
  unfold builtinBlock
  refine Traced.bind (makes_newBlock _ _) ?_
  rintro id _ rfl
  dsimp only
  have hdone : Traced (fun made ds => [.made id b.type] ++ ds = [.made made b.type]) _ :=
    (hcount id).mono (by rintro _ _ ⟨rfl, rfl⟩; rfl)
  split
  · exact (quiet_setField _ _ _).bind fun _ => hdone
  · exact hdone

/-- A pattern has one block. -/
lemma makes_patternBlock (p : Pattern) : Makes p.blockType (patternBlock p) := by
  unfold patternBlock
  split
  · exact makes_newBlock _ _
  · exact makes_newBlock _ _
  · exact makes_literalBlock _ _ _
  · exact traced_throw _
  · exact traced_throw _

/-- The block of a pattern is an expression. -/
lemma kind_patternBlock (p : Pattern) : p.blockType.kind = .expression := by
  unfold Pattern.blockType
  split
  · exact kind_literalBlock _
  · rfl

/-- An import has one block. -/
lemma makes_importBlock (module : Datum) (names : List ImportName) (isFrom : Bool) :
    Makes .importStmt (importBlock module names isFrom) :=
  (makes_newBlock _ _).and fun id => quiet_forM fun _ =>
    (quiet_setField id _ _).bind fun _ => quiet_setField id _ _

/-- Data for which there is no block have no origins, for they are refused. -/
lemma roots_strayExpr (d : Datum) : Roots span [] (strayExpr d) := by
  unfold strayExpr
  split
  · exact roots_none
  · exact traced_throw _

/-! ## Expressions -/

/-- An expression with one part. -/
private lemma Roots.single {type : BlockType} {fields : List (String × Datum)} {slot : String}
    {x : Edit (Option BlockId)} {origins : List Origin} (hx : Roots span origins x)
    (hkind : type.kind = .expression) : Roots span (.part span type :: origins) (do
      let id ← newBlock type fields
      plug id slot (← x)
      return some id) := by
  refine (Roots.make (makes_newBlock _ _) hkind fun id => .value hx <| does_pure rfl).of_eq ?_
  rw [List.append_nil]

/-- An expression whose parts come in numbers. -/
private lemma Roots.several {type : BlockType} {fields : List (String × Datum)}
    {x : BlockId → Edit Unit} {origins : List Origin} (hx : ∀ id, Plugs id span origins (x id))
    (hkind : type.kind = .expression) : Roots span (.part span type :: origins) (do
      let id ← newBlock type fields
      x id
      return some id) := by
  refine (Roots.make (makes_newBlock _ _) hkind fun id => .bind (hx id) fun _ =>
    does_pure rfl).of_eq ?_
  rw [List.append_nil]

mutual

/-- An expression is made into the blocks of its origins, one case for each form. -/
theorem roots_exprBlock (span : Option Span) :
    (e : Expr) → Roots span (e.origins span) (exprBlock e)
  | .identifier name _ => by
    rw [exprBlock, Expr.origins]
    exact (makes_newBlock _ _).roots rfl
  | .literal kind raw value _ => by
    rw [exprBlock, Expr.origins]
    exact (makes_literalBlock kind raw value).roots (kind_literalBlock kind)
  | .binary l op r _ => by
    rw [exprBlock]
    refine (Roots.make (makes_newBlock _ _) rfl fun id => .value (roots_exprBlock span l) <|
      .value (roots_exprBlock span r) <| does_pure rfl).of_eq ?_
    simp [Expr.origins]
  | .unary op e _ => by
    rw [exprBlock, Expr.origins]
    exact (roots_exprBlock span e).single rfl
  | .boolOp op es _ => by
    rw [exprBlock, Expr.origins]
    exact .several (fun id => plugs_plugAll span id _ 0 es) rfl
  | .compare l ops es _ => by
    rw [exprBlock]
    refine (Roots.make (makes_newBlock _ _) rfl fun id => .value (roots_exprBlock span l) <|
      .bind (plugs_plugComparisons span id 0 ops es) fun _ => does_pure rfl).of_eq ?_
    simp [Expr.origins]
  | .lambda ps body _ => by
    rw [exprBlock]
    refine (Roots.make (makes_newBlock _ _) rfl fun id =>
      .bind (plugs_plugParams span id false 0 ps) fun _ =>
      .value (roots_exprBlock span body) <| does_pure rfl).of_eq ?_
    simp [Expr.origins]
  | .conditional t b e _ => by
    rw [exprBlock]
    refine (Roots.make (makes_newBlock _ _) rfl fun id => .value (roots_exprBlock span t) <|
      .value (roots_exprBlock span b) <| .value (roots_exprBlock span e) <| does_pure rfl).of_eq ?_
    simp [Expr.origins]
  | .call f args ks _ => by
    rw [exprBlock, Expr.origins]
    cases hmatch : BuiltinCall.match? f args.length (!ks.isEmpty) false with
    | some b =>
      obtain ⟨_, _, -, -, hb, hexpr, -⟩ := BuiltinCall.of_match? hmatch
      refine (Roots.make (makes_builtinBlock b f _) (BuiltinCall.expression_sound hb hexpr)
        fun id => .bind (plugs_plugInto span id _ args (length_slotsFor hmatch)) fun _ =>
        does_pure rfl).of_eq ?_
      rw [List.append_nil]
    | none =>
      refine (Roots.make (makes_newBlock _ _) rfl fun id => .value (roots_exprBlock span f) <|
        .bind (plugs_plugAll span id _ 0 args) fun _ =>
        .bind (plugs_plugKeywords span id 0 ks) fun _ => does_pure rfl).of_eq ?_
      simp
  | .tuple es _ => by
    rw [exprBlock, Expr.origins]
    exact .several (fun id => plugs_plugAll span id _ 0 es) rfl
  | .list es _ => by
    rw [exprBlock, Expr.origins]
    exact .several (fun id => plugs_plugAll span id _ 0 es) rfl
  | .set es _ => by
    rw [exprBlock, Expr.origins]
    exact .several (fun id => plugs_plugAll span id _ 0 es) rfl
  | .dict entries _ => by
    rw [exprBlock, Expr.origins]
    exact .several (fun id => plugs_plugEntries span id 0 entries) rfl
  | .attribute e attr _ => by
    rw [exprBlock, Expr.origins]
    exact (roots_exprBlock span e).single rfl
  | .subscript e index _ => by
    rw [exprBlock]
    refine (Roots.make (makes_newBlock _ _) rfl fun id => .value (roots_exprBlock span e) <|
      .value (roots_exprBlock span index) <| does_pure rfl).of_eq ?_
    simp [Expr.origins]
  | .slice lower upper step _ => by
    rw [exprBlock]
    refine (Roots.make (makes_newBlock _ _) rfl fun id => .value (roots_optionBlock span lower) <|
      .value (roots_optionBlock span upper) <| .value (roots_optionBlock span step) <|
      does_pure rfl).of_eq ?_
    simp [Expr.origins]
  | .comprehension kind e cs key _ => by
    rw [exprBlock]
    refine (Roots.make (makes_newBlock _ _) rfl fun id => .value (roots_exprBlock span e) <|
      .value (roots_optionBlock span key) <| .bind (plugs_plugClauses span id 0 cs) fun _ =>
      does_pure rfl).of_eq ?_
    simp [Expr.origins]
  | .grouped e _ => by
    rw [exprBlock, Expr.origins]
    exact (roots_exprBlock span e).single rfl
  | .fstring parts quote _ => by
    rw [exprBlock, Expr.origins]
    exact .several (fun id => plugs_plugParts span id 0 parts) rfl
  | .walrus target e _ => by
    rw [exprBlock, Expr.origins]
    exact (roots_exprBlock span e).single rfl
  | .yield e _ => by
    rw [exprBlock, Expr.origins]
    exact (roots_optionBlock span e).single rfl
  | .yieldFrom e _ => by
    rw [exprBlock, Expr.origins]
    exact (roots_exprBlock span e).single rfl
  | .await e _ => by
    rw [exprBlock, Expr.origins]
    exact (roots_exprBlock span e).single rfl
  | .stray d => by
    rw [exprBlock, Expr.origins]
    exact roots_strayExpr d

/-- An expression that may be there is made into the blocks of its origins. -/
theorem roots_optionBlock (span : Option Span) :
    (o : Option Expr) → Roots span (optionOrigins span o) (optionBlock o)
  | some e => by
    rw [optionBlock, optionOrigins]
    exact roots_exprBlock span e
  | none => by
    rw [optionBlock, optionOrigins]
    exact roots_none

/-- Expressions in numbered slots are made into the blocks of their origins. -/
theorem plugs_plugAll (span : Option Span) (id : BlockId) (stem : String) (index : ℕ) :
    (es : List Expr) → Plugs id span (exprsOrigins span es) (plugAll id stem index es)
  | [] => by
    rw [plugAll, exprsOrigins]
    exact does_pure trivial
  | e :: rest => by
    rw [plugAll, exprsOrigins]
    exact .value (roots_exprBlock span e) (plugs_plugAll span id stem (index + 1) rest)

/-- Expressions in named slots are made into the blocks of their origins. -/
theorem plugs_plugInto (span : Option Span) (id : BlockId) :
    (slots : List String) → (es : List Expr) → slots.length = es.length →
      Plugs id span (exprsOrigins span es) (plugInto id slots es)
  | slot :: slots, e :: rest, h => by
    rw [plugInto, exprsOrigins]
    exact .value (roots_exprBlock span e) (plugs_plugInto span id slots rest (by simpa using h))
  | [], [], _ => by
    rw [plugInto.eq_def, exprsOrigins]
    exact does_pure trivial
  | [], _ :: _, h => by simp at h
  | _ :: _, [], h => by simp at h

/-- The operands of a comparison are made into the blocks of their origins. -/
theorem plugs_plugComparisons (span : Option Span) (id : BlockId) (index : ℕ) :
    (ops : List CompareOp) → (es : List Expr) →
      Plugs id span (comparisonsOrigins span ops es) (plugComparisons id index ops es)
  | op :: ops, e :: rest => by
    rw [plugComparisons, comparisonsOrigins]
    exact .set <| .value (roots_exprBlock span e)
      (plugs_plugComparisons span id (index + 1) ops rest)
  | [], es => by
    rw [plugComparisons.eq_def, comparisonsOrigins.eq_def]
    exact does_pure trivial
  | _ :: _, [] => by
    rw [plugComparisons.eq_def, comparisonsOrigins.eq_def]
    exact does_pure trivial

/-- Parameters are made into the blocks of their origins. -/
theorem plugs_plugParams (span : Option Span) (id : BlockId) (hints : Bool) (index : ℕ) :
    (ps : List (Param Expr)) → Plugs id span (paramsOrigins span hints ps)
      (plugParams id hints index ps)
  | [] => by
    rw [plugParams, paramsOrigins]
    exact does_pure trivial
  | ⟨name, hint, preset, kind, _⟩ :: rest => by
    have hpreset : Plugs id span (optionOrigins span preset ++ paramsOrigins span hints rest) (do
        plug id s!"DEFAULT{index}" (← optionBlock preset)
        plugParams id hints (index + 1) rest) :=
      .value (roots_optionBlock span preset) (plugs_plugParams span id hints (index + 1) rest)
    rw [plugParams, paramsOrigins, List.append_assoc]
    refine .set <| .set ?_
    dsimp only
    split
    · exact .value (roots_optionBlock span hint) hpreset
    · exact hpreset

/-- Keyword arguments are made into the blocks of their origins. -/
theorem plugs_plugKeywords (span : Option Span) (id : BlockId) (index : ℕ) :
    (ks : List (Keyword Expr)) → Plugs id span (keywordsOrigins span ks) (plugKeywords id index ks)
  | [] => by
    rw [plugKeywords, keywordsOrigins]
    exact does_pure trivial
  | ⟨name, value, _⟩ :: rest => by
    rw [plugKeywords, keywordsOrigins]
    exact .set <| .value (roots_exprBlock span value) (plugs_plugKeywords span id (index + 1) rest)

/-- Entries of a dictionary are made into the blocks of their origins. -/
theorem plugs_plugEntries (span : Option Span) (id : BlockId) (index : ℕ) :
    (entries : List (DictEntry Expr)) →
      Plugs id span (entriesOrigins span entries) (plugEntries id index entries)
  | [] => by
    rw [plugEntries, entriesOrigins]
    exact does_pure trivial
  | ⟨key, value, _⟩ :: rest => by
    rw [plugEntries, entriesOrigins, List.append_assoc]
    exact .value (roots_optionBlock span key) <| .value (roots_exprBlock span value) <|
      plugs_plugEntries span id (index + 1) rest

/-- Comprehension clauses are made into the blocks of their origins. -/
theorem plugs_plugClauses (span : Option Span) (id : BlockId) (index : ℕ) :
    (cs : List (Clause Expr)) → Plugs id span (clausesOrigins span cs) (plugClauses id index cs)
  | [] => by
    rw [plugClauses, clausesOrigins]
    exact does_pure trivial
  | ⟨target, iter, ifs, isAsync, _⟩ :: rest => by
    rw [plugClauses, clausesOrigins, List.append_assoc, List.append_assoc]
    exact .set <| .set <| .value (roots_exprBlock span target) <|
      .value (roots_exprBlock span iter) <| .bind (plugs_plugAll span id _ 0 ifs) fun _ =>
      plugs_plugClauses span id (index + 1) rest

/-- Parts of a formatted string are made into the blocks of their origins. -/
theorem plugs_plugParts (span : Option Span) (id : BlockId) (index : ℕ) :
    (parts : List (FormatPart Expr)) →
      Plugs id span (formatOrigins span parts) (plugParts id index parts)
  | [] => by
    rw [plugParts, formatOrigins]
    exact does_pure trivial
  | ⟨kind, text, e, conversion, spec, _⟩ :: rest => by
    rw [plugParts, formatOrigins]
    exact .set <| .set <| .set <| .set <| .value (roots_optionBlock span e)
      (plugs_plugParts span id (index + 1) rest)

end

/-! ## Small statements -/

section

variable {info : Info} {origins : List Origin} {around : List (BlockId × Option Span)}
  {type : BlockType}

/-- Makes a block with a text of its own and builds the rest with it around. -/
private lemma Does.unit {x : Edit BlockId} {f : BlockId → Edit α} (hx : Makes type x)
    (hf : ∀ id, Does [(id, info.span)] (noteOf (id, .unit type info)) origins (fun _ => True)
      (f id)) : Does around [] (.unit type info :: origins) (fun _ => True) (x >>= f) :=
  Does.make (o := .unit type info) hx (fun h => Role.noConfusion h) hf

/-- The text of declared names makes no block. -/
lemma quiet_namesText (names : List Datum) : Quiet (namesText names) := by
  refine Quiet.bind (quiet_mapM fun item => ?_) fun parts => quiet_pure _
  obtain ⟨d, i⟩ := item
  dsimp only
  split
  · exact quiet_pure _
  · exact quiet_throw _

/-- Makes the block of an assignment and builds the rest with it around. -/
private lemma Does.targets {targets : List Expr} {f : BlockId → Edit α}
    (hf : ∀ id type, Does [(id, info.span)] (noteOf (id, .unit type info)) origins (fun _ => True)
      (f id)) :
    Does around [] (targetsOrigins targets info ++ origins) (fun _ => True)
      (targetsBlock targets >>= f) := by
  by_cases h : ∃ name i, targets = [.identifier name i]
  · obtain ⟨name, i, rfl⟩ := h
    exact .unit (makes_newBlock _ _) fun id => hf id _
  · have hne : ∀ name i, targets = [.identifier name i] → False := fun name i heq => h ⟨name, i, heq⟩
    rw [targetsBlock.eq_2 targets hne, targetsOrigins.eq_2 targets info hne, bind_assoc]
    refine .unit (makes_newBlock _ _) fun id => ?_
    rw [bind_assoc]
    exact .bind (plugs_plugAll info.span id _ 0 targets) fun _ => hf id _

/-- Makes the block of an expression as a statement and builds the rest with it around. -/
private lemma Does.exprStmt {e : Expr} {f : BlockId → Edit α}
    (hf : ∀ id type, Does [(id, info.span)] (noteOf (id, .unit type info)) [] (fun _ => True)
      (f id)) :
    Does around [] (exprStmtOrigins e info) (fun _ => True) (exprStmtBlock e >>= f) := by
  unfold exprStmtBlock
  dsimp only
  split
  case h_1 b args hmatch =>
    have hcall : statementCall? e = some (b, args) := hmatch
    rw [bind_assoc, exprStmtOrigins, hcall]
    refine .unit (makes_newBlock _ _) fun id => ?_
    rw [bind_assoc, ← List.append_nil (exprsOrigins _ _)]
    exact .bind (plugs_plugInto info.span id _ args (length_statementSlots hcall)) fun _ => hf id _
  case h_2 hmatch =>
    have hcall : statementCall? e = none := hmatch
    rw [bind_assoc, exprStmtOrigins, hcall]
    refine .unit (makes_newBlock _ _) fun id => ?_
    simp only [bind_assoc]
    rw [← List.append_nil (e.origins _)]
    exact .value (roots_exprBlock info.span e) (hf id _)

/-- A statement without parts is one block with its span. -/
lemma stands_plainBlock (type : BlockType) (info : Info) :
    Stands [.unit type info] (plainBlock type info) :=
  .unit (makes_newBlock _ _) fun _ => does_finish

/-- Putting blocks at the end of a chain makes none. -/
lemma quiet_appendBlocks (first tail : Option BlockId) (ids : List BlockId) :
    Quiet (appendBlocks first tail ids) := by
  induction ids generalizing first tail with
  | nil => exact quiet_pure _
  | cons id rest ih =>
    cases tail with
    | some before => exact (quiet_connectStatement before _ id).bind fun _ => ih first (some id)
    | none => exact ih (some id) (some id)

/-- Plugs in the contexts of items and sets their names. -/
lemma plugs_contexts (span : Option Span) (id : BlockId) (items : List WithItem) :
    Plugs id span (contextsOrigins span items) (items.zipIdx.forM fun (item, i) => do
      plug id s!"CONTEXT{i}" (← exprBlock item.context)
      setField id s!"NAME{i}" (item.name.orElse "")) := by
  suffices h : ∀ k, Plugs id span (contextsOrigins span items) ((items.zipIdx k).forM
      fun (item, i) => do
        plug id s!"CONTEXT{i}" (← exprBlock item.context)
        setField id s!"NAME{i}" (item.name.orElse "")) from h 0
  induction items with
  | nil => exact fun k => does_pure trivial
  | cons item rest ih =>
    intro k
    change Plugs id span (item.context.origins span ++ contextsOrigins span rest) ((do
      plug id s!"CONTEXT{k}" (← exprBlock item.context)
      setField id s!"NAME{k}" (item.name.orElse "")) >>= fun _ => (rest.zipIdx (k + 1)).forM _)
    simp only [bind_assoc]
    exact .value (roots_exprBlock span _) (.set (ih (k + 1)))

end

/-! ## Statements -/

mutual

/-- A statement is made into the blocks of its origins, one case for each form. -/
theorem stands_stmtBlocks : (s : Stmt) → Stands s.origins (stmtBlocks s)
  | .ifStmt t ⟨body, _⟩ elifs orelse info => by
    rw [stmtBlocks]
    refine Does.of_eq (.unit (makes_newBlock _ _) fun id => .value (roots_exprBlock _ t) <|
      .statements (stands_suiteBlocks _ _ body) <|
      .bind (stands_elifBlocks elifs).weaken fun _ =>
      .bind (stands_elseBlock orelse).weaken fun _ => does_finish) ?_
    simp [Stmt.origins]
  | .whileStmt t ⟨body, _⟩ orelse info => by
    rw [stmtBlocks]
    refine Does.of_eq (.unit (makes_newBlock _ _) fun id => .value (roots_exprBlock _ t) <|
      .statements (stands_suiteBlocks _ _ body) <|
      .statements (stands_optionalSuite orelse) does_finish) ?_
    simp [Stmt.origins]
  | .forStmt target iter ⟨body, _⟩ orelse isAsync info => by
    rw [stmtBlocks]
    refine Does.of_eq (.unit (makes_newBlock _ _) fun id => .value (roots_exprBlock _ target) <|
      .value (roots_exprBlock _ iter) <| .statements (stands_suiteBlocks _ _ body) <|
      .statements (stands_optionalSuite orelse) does_finish) ?_
    simp [Stmt.origins]
  | .matchStmt subject cases info => by
    rw [stmtBlocks]
    refine Does.of_eq (.unit (makes_newBlock _ _) fun id => .value (roots_exprBlock _ subject) <|
      .bind (stands_caseBlocks id none cases).weaken fun _ => does_finish) ?_
    simp [Stmt.origins]
  | .functionDef name ps ⟨body, _⟩ decorators returns isAsync info => by
    rw [stmtBlocks]
    refine Does.of_eq (.unit (makes_newBlock _ _) fun id =>
      .bind (plugs_plugParams _ id true 0 ps) fun _ =>
      .bind (plugs_plugAll _ id _ 0 decorators) fun _ => .value (roots_optionBlock _ returns) <|
      .statements (stands_suiteBlocks _ _ body) does_finish) ?_
    simp [Stmt.origins]
  | .classDef name bases ⟨body, _⟩ decorators info => by
    rw [stmtBlocks]
    refine Does.of_eq (.unit (makes_newBlock _ _) fun id =>
      .bind (plugs_plugAll _ id _ 0 bases) fun _ =>
      .bind (plugs_plugAll _ id _ 0 decorators) fun _ =>
      .statements (stands_suiteBlocks _ _ body) does_finish) ?_
    simp [Stmt.origins]
  | .assign targets value info => by
    rw [stmtBlocks]
    refine Does.of_eq (.targets fun id type => .value (roots_exprBlock _ value) does_finish) ?_
    simp [Stmt.origins]
  | .annAssign target hint value info => by
    rw [stmtBlocks]
    refine Does.of_eq (.unit (makes_newBlock _ _) fun id => .value (roots_exprBlock _ target) <|
      .value (roots_exprBlock _ hint) <| .value (roots_optionBlock _ value) does_finish) ?_
    simp [Stmt.origins]
  | .augAssign target op value info => by
    rw [stmtBlocks]
    refine Does.of_eq (.unit (makes_newBlock _ _) fun id => .value (roots_exprBlock _ target) <|
      .value (roots_exprBlock _ value) does_finish) ?_
    simp [Stmt.origins]
  | .exprStmt e info => by
    rw [stmtBlocks, Stmt.origins]
    exact .exprStmt fun id type => does_finish
  | .passStmt info => by
    rw [stmtBlocks, Stmt.origins]
    exact stands_plainBlock _ info
  | .breakStmt info => by
    rw [stmtBlocks, Stmt.origins]
    exact stands_plainBlock _ info
  | .continueStmt info => by
    rw [stmtBlocks, Stmt.origins]
    exact stands_plainBlock _ info
  | .returnStmt value info => by
    rw [stmtBlocks]
    refine Does.of_eq (.unit (makes_newBlock _ _) fun id =>
      .value (roots_optionBlock _ value) does_finish) ?_
    simp [Stmt.origins]
  | .importStmt module names isFrom info => by
    rw [stmtBlocks, Stmt.origins]
    exact .unit (makes_importBlock module names isFrom) fun id => does_finish
  | .tryStmt ⟨body, _⟩ handlers orelse final info => by
    rw [stmtBlocks]
    refine Does.of_eq (.unit (makes_newBlock _ _) fun id =>
      .statements (stands_suiteBlocks _ _ body) <|
      .bind (plugs_handlerBlocks _ id 0 handlers) fun _ =>
      .statements (stands_optionalSuite orelse) <|
      .statements (stands_optionalSuite final) does_finish) ?_
    simp [Stmt.origins]
  | .withStmt items ⟨body, _⟩ isAsync info => by
    rw [stmtBlocks]
    refine Does.of_eq (.unit (makes_newBlock _ _) fun id =>
      .bind (plugs_contexts _ id items) fun _ =>
      .statements (stands_suiteBlocks _ _ body) does_finish) ?_
    simp [Stmt.origins]
  | .assertStmt t msg info => by
    rw [stmtBlocks]
    refine Does.of_eq (.unit (makes_newBlock _ _) fun id => .value (roots_exprBlock _ t) <|
      .value (roots_optionBlock _ msg) does_finish) ?_
    simp [Stmt.origins]
  | .raiseStmt exception cause info => by
    rw [stmtBlocks]
    refine Does.of_eq (.unit (makes_newBlock _ _) fun id =>
      .value (roots_optionBlock _ exception) <| .value (roots_optionBlock _ cause) does_finish) ?_
    simp [Stmt.origins]
  | .deleteStmt targets info => by
    rw [stmtBlocks]
    refine Does.of_eq (.unit (makes_newBlock _ _) fun id =>
      .bind (plugs_plugAll _ id _ 0 targets) fun _ => does_finish) ?_
    simp [Stmt.origins]
  | .globalStmt names info => by
    rw [stmtBlocks, Stmt.origins]
    exact (quiet_namesText names).bind fun _ =>
      Does.unit (makes_newBlock _ _) fun id => does_finish
  | .nonlocalStmt names info => by
    rw [stmtBlocks, Stmt.origins]
    exact (quiet_namesText names).bind fun _ =>
      Does.unit (makes_newBlock _ _) fun id => does_finish
  | .empty _ _ => by
    rw [stmtBlocks, Stmt.origins]
    exact does_pure trivial
  | .stray d => by
    rw [stmtBlocks, Stmt.origins]
    exact does_throw _

/-- A body is made into the blocks of its origins. -/
theorem stands_suiteBlocks (first tail : Option BlockId) :
    (ss : List Stmt) → Stands (stmtsOrigins ss) (suiteBlocks first tail ss)
  | [] => by
    rw [suiteBlocks, stmtsOrigins]
    exact does_pure trivial
  | s :: rest => by
    rw [suiteBlocks, stmtsOrigins]
    exact .bind (stands_stmtBlocks s) fun ids => (quiet_appendBlocks first tail ids).bind
      fun ends => stands_suiteBlocks ends.1 ends.2 rest

/-- A body that may be there is made into the blocks of its origins. -/
theorem stands_optionalSuite :
    (o : Option (Suite Stmt)) → Stands (suiteOrigins o) (optionalSuite o)
  | some ⟨body, _⟩ => by
    rw [optionalSuite, suiteOrigins]
    exact stands_suiteBlocks none none body
  | none => by
    rw [optionalSuite, suiteOrigins]
    exact does_pure trivial

/-- Further conditions are made into the blocks of their origins. -/
theorem stands_elifBlocks : (cs : List (ElifClause Stmt)) → Stands (elifsOrigins cs) (elifBlocks cs)
  | [] => by
    rw [elifBlocks, elifsOrigins]
    exact does_pure trivial
  | ⟨t, ⟨body, _⟩, info⟩ :: rest => by
    rw [elifBlocks, elifsOrigins]
    refine Does.of_eq (.unit (makes_newBlock _ _) fun id => .value (roots_exprBlock _ t) <|
      .statements (stands_suiteBlocks _ _ body) <| .record <|
      .bind (stands_elifBlocks rest).weaken fun _ => does_pure trivial) ?_
    simp

/-- A last body is made into the blocks of its origins. -/
theorem stands_elseBlock : (o : Option (Suite Stmt)) → Stands (elseOrigins o) (elseBlock o)
  | some ⟨body, _⟩ => by
    rw [elseBlock, elseOrigins]
    refine Does.of_eq (.make (o := .alternative) (makes_newBlock _ _) (fun h => Role.noConfusion h)
      fun id => .statements (stands_suiteBlocks _ _ body) <| does_pure trivial) ?_
    simp
  | none => by
    rw [elseBlock, elseOrigins]
    exact does_pure trivial

/-- Cases are made into the blocks of their origins. -/
theorem stands_caseBlocks (parent : BlockId) (tail : Option BlockId) :
    (cs : List (MatchCase Stmt)) → Stands (casesOrigins cs) (caseBlocks parent tail cs)
  | [] => by
    rw [caseBlocks, casesOrigins]
    exact does_pure trivial
  | ⟨p, ⟨body, _⟩, info⟩ :: rest => by
    rw [caseBlocks, casesOrigins]
    refine .unit (makes_newBlock _ _) fun id =>
      .pattern (makes_patternBlock p) (kind_patternBlock p) <|
      .statements (stands_suiteBlocks _ _ body) <| .record ?_
    cases tail with
    | some before =>
      exact (quiet_connectStatement before _ id).bind fun _ =>
        (stands_caseBlocks parent (some id) rest).weaken
    | none =>
      exact (quiet_connectStatement parent _ id).bind fun _ =>
        (stands_caseBlocks parent (some id) rest).weaken

/-- Handlers are made into the blocks of their origins. -/
theorem plugs_handlerBlocks (span : Option Span) (id : BlockId) (index : ℕ) :
    (handlers : List (Handler Stmt)) →
      Plugs id span (handlersOrigins span handlers) (handlerBlocks id index handlers)
  | [] => by
    rw [handlerBlocks, handlersOrigins]
    exact does_pure trivial
  | ⟨type, name, ⟨body, _⟩, _⟩ :: rest => by
    rw [handlerBlocks, handlersOrigins, List.append_assoc]
    exact .value (roots_optionBlock span type) <| .set <|
      .statements (stands_suiteBlocks _ _ body) <| plugs_handlerBlocks span id (index + 1) rest

end

end Edit

end BlockText

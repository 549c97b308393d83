import BlockText.Proofs.Compile.Statements
import BlockText.Proofs.Syntax.Bare

/-!
# Readings that agree

Two readings agree if both succeed with results that differ in identities only, or both are refused
for the same reason, whatever the counters of identities are at the start.  Which block is at fault
may differ.  A block is read in agreement with itself as long as what its slots hold is.
-/

namespace BlockText

open Syntax

/-- What is wrong: the way in which blocks do not form a program, or the fault. -/
def CompileError.reason : CompileError → StructuralErrorKind ⊕ Fault
  | structural e => .inl e.kind
  | fault f => .inr f

namespace Compile

variable {α β γ δ : Type}

/-- What comes of a reading, seen through `look`. -/
def outcome (look : α → β) : Except CompileError α → Except (StructuralErrorKind ⊕ Fault) β
  | .ok a => .ok (look a)
  | .error e => .error e.reason

/-- From any counters, the same comes of both readings. -/
def Agree (look : α → β) (x y : Compile α) : Prop :=
  ∀ c c', outcome look (x.run c).1 = outcome look (y.run c').1

variable {look : α → β}

/-! ## Rules -/

/-- Values that look alike agree. -/
lemma agree_pure {a a' : α} (h : look a = look a') : Agree look (pure a) (pure a') :=
  fun _ _ => congrArg Except.ok h

/-- Errors with the same reason agree. -/
lemma agree_throw {e e' : CompileError} (h : e.reason = e'.reason) :
    Agree look (throw e) (throw e') := fun _ _ => congrArg Except.error h

/-- Structural errors of one kind agree, whatever blocks they name. -/
lemma agree_reject (kind : StructuralErrorKind) (detail detail' : String) (id id' : BlockId) :
    Agree look (reject kind detail id) (reject kind detail' id') := agree_throw rfl

/-- Nothing is read after a refusal. -/
lemma agree_reject_bind {f g : γ → Compile α} (kind : StructuralErrorKind) (detail detail' : String)
    (id id' : BlockId) : Agree look (reject kind detail id >>= f) (reject kind detail' id' >>= g) :=
  fun _ _ => rfl

/-- One reading after another. -/
lemma Agree.bind {see : γ → δ} {x y : Compile γ} {f g : γ → Compile α} (h : Agree see x y)
    (hf : ∀ a a', see a = see a' → Agree look (f a) (g a')) :
    Agree look (x >>= f) (y >>= g) := by
  intro c c'
  have hc := h c c'
  rw [ExceptT.run_bind, ExceptT.run_bind]
  simp only [Bind.bind, StateT.bind]
  rcases hx : x.run c with ⟨r, d⟩
  rcases hy : y.run c' with ⟨r', d'⟩
  rw [hx, hy] at hc
  cases r <;> cases r' <;> simp only [outcome, Except.ok.injEq, Except.error.injEq] at hc
  case ok.ok a a' => exact hf a a' hc d d'
  case error.error => exact congrArg Except.error hc
  all_goals cases hc

/-- One reading after another one with the same result. -/
lemma Agree.bind_same {x y : Compile γ} {f g : γ → Compile α} (h : Agree id x y)
    (hf : ∀ a, Agree look (f a) (g a)) : Agree look (x >>= f) (y >>= g) :=
  h.bind fun a _ ha => (show a = _ from ha) ▸ hf a

/-- Results that agree do so in other forms that look alike. -/
lemma Agree.map {see : γ → δ} {x y : Compile γ} {f : γ → α} (h : Agree see x y)
    (hf : ∀ a a', see a = see a' → look (f a) = look (f a')) : Agree look (f <$> x) (f <$> y) := by
  rw [map_eq_pure_bind, map_eq_pure_bind]
  exact h.bind fun a a' ha => agree_pure (hf a a' ha)

/-- Fresh identities agree apart from their numbers. -/
lemma agree_freshInfo : Agree Info.bare freshInfo freshInfo := fun _ _ => rfl

/-- Operations on data give the same at any time. -/
lemma agree_ofFault (x : Except Fault α) : Agree id (ofFault x) (ofFault x) := by
  cases x with
  | ok a => exact agree_pure rfl
  | error f => exact agree_throw rfl

/-- A handler that treats errors for the same reason alike. -/
private lemma Agree.tryCatch {x y : Compile α} {f g : CompileError → Compile α}
    (h : Agree look x y) (hf : ∀ e e', e.reason = e'.reason → Agree look (f e) (g e')) :
    Agree look (tryCatch x f) (tryCatch y g) := by
  intro c c'
  have hc := h c c'
  change outcome look ((ExceptT.tryCatch x f).run c).1 =
    outcome look ((ExceptT.tryCatch y g).run c').1
  simp only [ExceptT.tryCatch, ExceptT.run, ExceptT.mk, Bind.bind, StateT.bind]
  rcases hx : x.run c with ⟨r, d⟩
  rcases hy : y.run c' with ⟨r', d'⟩
  rw [hx, hy] at hc
  rw [show x c = (r, d) from hx, show y c' = (r', d') from hy]
  cases r <;> cases r' <;> simp only [outcome, Except.ok.injEq, Except.error.injEq] at hc
  case ok.ok a a' => exact congrArg Except.ok hc
  case error.error e e' => exact hf e e' hc d d'
  all_goals cases hc

/-- Faults of fields are reported in agreement. -/
lemma Agree.checked {x y : Compile α} (h : Agree look x y) (id id' : BlockId) (b b' : Block) :
    Agree look (checked id b x) (checked id' b' y) := by
  refine h.tryCatch fun e e' he => ?_
  cases e with
  | structural e =>
    cases e' with
    | structural e' => exact agree_throw he
    | fault f' => cases he
  | fault f =>
    cases e' with
    | structural e' => cases he
    | fault f' =>
      obtain rfl : f = f' := Sum.inr.inj he
      dsimp only
      split
      · exact agree_throw rfl
      · exact agree_reject _ _ _ _ _

/-- Items read one after another. -/
lemma agree_mapM_forall₂ {f : γ → Compile α} {g : δ → Compile α} {cs : List γ} {ds : List δ}
    (h : List.Forall₂ (fun c d => Agree look (f c) (g d)) cs ds) :
    Agree (List.map look) (cs.mapM f) (ds.mapM g) := by
  induction h with
  | nil => exact agree_pure rfl
  | cons hcd _ ih =>
    rw [List.mapM_cons, List.mapM_cons]
    refine hcd.bind fun a a' ha => ih.bind fun as as' has => agree_pure ?_
    rw [List.map_cons, List.map_cons, ha, has]

/-- Items read one after another, the same ones on both sides. -/
lemma agree_mapM {f g : γ → Compile α} {cs : List γ} (h : ∀ c ∈ cs, Agree look (f c) (g c)) :
    Agree (List.map look) (cs.mapM f) (cs.mapM g) :=
  agree_mapM_forall₂ (List.forall₂_same.mpr h)

/-- Items read one after another with the same results. -/
lemma agree_mapM_same {f g : γ → Compile α} {cs : List γ} (h : ∀ c ∈ cs, Agree id (f c) (g c)) :
    Agree id (cs.mapM f) (cs.mapM g) := by
  have hmap := agree_mapM h
  rwa [List.map_id_fun] at hmap

/-- Items by their index, as many as a reading says. -/
lemma agree_range {x y : Compile ℕ} {f g : ℕ → Compile α} (h : Agree id x y)
    (hf : ∀ i, Agree look (f i) (g i)) :
    Agree (List.map look) (do (List.range (← x)).mapM f) (do (List.range (← y)).mapM g) :=
  h.bind_same fun _ => agree_mapM fun i _ => hf i

/-! ## Fields -/

variable {id' id'' : BlockId} {b : Block}

/-- A choice agrees whatever block it is read from. -/
lemma agree_chosen [Choice α] (d : Datum) :
    Agree id (chosen α id' d) (chosen α id'' d) := by
  unfold chosen
  cases choice? α d with
  | some a => exact agree_pure rfl
  | none => exact agree_reject _ _ _ _ _

/-- A count agrees with itself. -/
lemma agree_countIn (b : Block) (name : String) : Agree id (countIn b name) (countIn b name) :=
  (agree_ofFault _).bind_same fun _ => agree_pure rfl

/-- The text of a literal agrees with itself. -/
lemma agree_textLiteral (b : Block) : Agree id (textLiteral b) (textLiteral b) := by
  unfold textLiteral
  extract_lets raw
  by_cases hraw : raw.isTruthy = true
  · simp only [hraw, if_true]
    exact agree_pure rfl
  · simp only [hraw]
    match Render.spelled ((b.field? "value").getD "") ((b.field? "quote").getD "\"") with
    | .ok s => exact agree_pure rfl
    | .error (.fault f) => exact agree_throw rfl
    | .error (.unsupported _ type) => exact agree_throw rfl

/-- Declared names agree with themselves. -/
lemma agree_declaredNames (b : Block) : Agree id (declaredNames b) (declaredNames b) :=
  (agree_ofFault _).bind_same fun _ => agree_pure rfl

/-! ## Slots -/

/-- The slots hold expressions that are read in agreement. -/
def SlotsAgree (slots slots' : Slots) : Prop :=
  ∀ s, Agree (Option.map Expr.bare) (slots s) (slots' s)

/-- What stands in for a missing expression agrees apart from identities. -/
lemma agree_placeholder : Agree Expr.bare placeholder placeholder :=
  agree_freshInfo.bind fun i i' hi => agree_pure (by rw [Expr.bare, Expr.bare, hi])

section Slots

variable {slots slots' : Slots}

/-- What a slot must hold agrees if the slots do. -/
lemma SlotsAgree.required (h : SlotsAgree slots slots') (s : String) :
    Agree Expr.bare (required slots s) (required slots' s) := by
  refine (h s).bind fun o o' ho => ?_
  cases o <;> cases o' <;> simp only [Option.map, Option.some.injEq, reduceCtorEq] at ho
  · exact agree_placeholder
  · exact agree_pure ho

/-- What numbered slots must hold agrees if the slots do. -/
lemma SlotsAgree.requiredAll (h : SlotsAgree slots slots') (stem : String) (n : ℕ) :
    Agree (List.map Expr.bare) (requiredAll slots stem n) (requiredAll slots' stem n) :=
  agree_mapM fun s _ => h.required s

/-- Slots with an index, as many as a field says. -/
lemma SlotsAgree.counted (h : SlotsAgree slots slots') (b : Block) (name stem : String) :
    Agree (List.map Expr.bare) (do Compile.requiredAll slots stem (← countIn b name))
      (do Compile.requiredAll slots' stem (← countIn b name)) :=
  (agree_countIn b name).bind_same fun n => h.requiredAll stem n

/-- The annotation of a parameter agrees if the slots do. -/
lemma SlotsAgree.hintAt (h : SlotsAgree slots slots') (hints : Bool) (i : ℕ) :
    Agree (Option.map Expr.bare) (hintAt slots hints i) (hintAt slots' hints i) := by
  cases hints
  · exact agree_pure rfl
  · exact h _

/-- Parameters agree if the slots do. -/
lemma SlotsAgree.params (h : SlotsAgree slots slots') (b : Block) (hints : Bool) :
    Agree (List.map Param.bare) (params id' b slots hints) (params id'' b slots' hints) := by
  refine agree_range (agree_countIn b _) fun i => ?_
  refine agree_freshInfo.bind fun info info' hinfo =>
    (h.hintAt hints i).bind fun hint hint' hhint => (h _).bind fun preset preset' hpreset =>
    (agree_chosen _).bind_same fun kind => agree_pure ?_
  simp only [Param.bare, hinfo, hhint, hpreset]

/-- Keyword arguments agree if the slots do. -/
lemma SlotsAgree.keywords (h : SlotsAgree slots slots') (b : Block) :
    Agree (List.map Keyword.bare) (keywords b slots) (keywords b slots') := by
  refine agree_range (agree_countIn b _) fun i => ?_
  refine agree_freshInfo.bind fun info info' hinfo => (h.required _).bind fun e e' he =>
    agree_pure ?_
  simp only [Keyword.bare, hinfo, he]

/-- Entries of a dictionary agree if the slots do. -/
lemma SlotsAgree.entries (h : SlotsAgree slots slots') (b : Block) :
    Agree (List.map DictEntry.bare) (entries b slots) (entries b slots') := by
  refine agree_range (agree_countIn b _) fun i => ?_
  refine agree_freshInfo.bind fun info info' hinfo => (h _).bind fun key key' hkey =>
    (h.required _).bind fun e e' he => agree_pure ?_
  simp only [DictEntry.bare, hinfo, hkey, he]

/-- Comprehension clauses agree if the slots do. -/
lemma SlotsAgree.clauses (h : SlotsAgree slots slots') (b : Block) :
    Agree (List.map Clause.bare) (clauses b slots) (clauses b slots') := by
  refine agree_range (agree_countIn b _) fun i => ?_
  refine agree_freshInfo.bind fun info info' hinfo => (agree_countIn b _).bind_same fun n =>
    (h.requiredAll _ n).bind fun ifs ifs' hifs => (h.required _).bind fun target target' htarget =>
    (h.required _).bind fun iter iter' hiter => agree_pure ?_
  simp only [Clause.bare, hinfo, hifs, htarget, hiter]

/-- The key of a comprehension agrees if the slots do. -/
lemma SlotsAgree.keyOf (h : SlotsAgree slots slots') (kind : ComprehensionKind) :
    Agree (Option.map Expr.bare) (keyOf slots kind) (keyOf slots' kind) := by
  unfold Compile.keyOf
  split
  · exact (h.required _).map fun e e' he => congrArg some he
  · exact agree_pure rfl

/-- The parts of a formatted string agree if the slots do. -/
lemma SlotsAgree.parts (h : SlotsAgree slots slots') (b : Block) :
    Agree (List.map FormatPart.bare) (parts id' b slots) (parts id'' b slots') := by
  refine agree_range (agree_countIn b _) fun i => ?_
  refine agree_freshInfo.bind fun info info' hinfo => (agree_chosen _).bind_same fun kind => ?_
  cases kind with
  | literal => exact agree_pure (by simp only [FormatPart.bare, hinfo])
  | expr =>
    refine (h.required _).bind fun e e' he => agree_pure ?_
    simp only [FormatPart.bare, Option.map, hinfo, he]

/-- The contexts of a statement agree if the slots do. -/
lemma SlotsAgree.contexts (h : SlotsAgree slots slots') (b : Block) :
    Agree (List.map WithItem.bare) (contexts slots b) (contexts slots' b) := by
  refine agree_range (agree_countIn b _) fun i => ?_
  refine agree_freshInfo.bind fun info info' hinfo => (h.required _).bind fun e e' he =>
    agree_pure ?_
  simp only [WithItem.bare, hinfo, he]

/-- Imported names agree apart from identities. -/
lemma agree_importedNames (b : Block) :
    Agree (List.map ImportName.bare) (importedNames b) (importedNames b) := by
  refine agree_range (agree_countIn b _) fun i => ?_
  refine agree_freshInfo.bind fun info info' hinfo => agree_pure ?_
  simp only [ImportName.bare, hinfo]

/-- Calls with a block of their own. -/
lemma SlotsAgree.builtinCall (h : SlotsAgree slots slots') (builtin : BuiltinCall) (b : Block)
    (filled : String → Bool) : Agree Expr.bare (builtinCall builtin id' b filled slots)
      (builtinCall builtin id'' b filled slots') := by
  have hcallee : ∀ d, Agree id (callee builtin d id') (callee builtin d id'') := by
    intro d
    unfold callee
    split
    · exact agree_pure rfl
    · exact agree_reject _ _ _ _ _
  have hcount : Agree id (argumentCount builtin b filled) (argumentCount builtin b filled) := by
    unfold argumentCount
    split
    · exact agree_countIn b _
    · exact agree_ofFault _
  refine agree_freshInfo.bind fun info info' hinfo => (hcallee _).bind_same fun name =>
    agree_freshInfo.bind fun j j' hj => hcount.bind_same fun n =>
    (agree_mapM fun s _ => h.required s).bind fun args args' hargs => agree_pure ?_
  simp [Expr.bare, hinfo, hj, hargs]

/-! ## Expressions -/

/-- A block is read in agreement with itself if what its slots hold is. -/
lemma SlotsAgree.exprOf (h : SlotsAgree slots slots') (b : Block) (filled : String → Bool) :
    Agree Expr.bare (exprOf id' b filled slots) (exprOf id'' b filled slots') := by
  unfold Compile.exprOf
  generalize b.type = type
  cases type with
  | identifier | number | bool | none =>
    exact agree_freshInfo.bind fun i i' hi => agree_pure (by simp only [Expr.bare, hi])
  | string =>
    exact (agree_textLiteral b).bind_same fun raw => agree_freshInfo.bind fun i i' hi =>
      agree_pure (by simp only [Expr.bare, hi])
  | binary =>
    exact agree_freshInfo.bind fun i i' hi => (h.required _).bind fun l l' hl =>
      (agree_chosen _).bind_same fun op => (h.required _).bind fun r r' hr =>
      agree_pure (by simp only [Expr.bare, hi, hl, hr])
  | unary =>
    exact agree_freshInfo.bind fun i i' hi => (agree_chosen _).bind_same fun op =>
      (h.required _).bind fun e e' he => agree_pure (by simp only [Expr.bare, hi, he])
  | boolOp =>
    exact agree_freshInfo.bind fun i i' hi => (agree_countIn b _).bind_same fun n =>
      (h.requiredAll _ n).bind fun es es' hes => (agree_chosen _).bind_same fun op =>
      agree_pure (by simp only [Expr.bare, bareExprs_eq_map, hi, hes])
  | compare =>
    exact agree_freshInfo.bind fun i i' hi => (h.required _).bind fun l l' hl =>
      (agree_countIn b _).bind_same fun n =>
      (agree_mapM_same fun name _ => agree_chosen _).bind_same fun ops =>
      (h.requiredAll _ n).bind fun es es' hes =>
      agree_pure (by simp only [Expr.bare, bareExprs_eq_map, hi, hl, hes])
  | conditional =>
    exact agree_freshInfo.bind fun i i' hi => (h.required _).bind fun t t' ht =>
      (h.required _).bind fun e e' he => (h.required _).bind fun o o' ho =>
      agree_pure (by simp only [Expr.bare, hi, ht, he, ho])
  | lambda =>
    exact agree_freshInfo.bind fun i i' hi => (h.params b _).bind fun ps ps' hps =>
      (h.required _).bind fun e e' he =>
      agree_pure (by simp only [Expr.bare, bareParams_eq_map, hi, hps, he])
  | call =>
    exact agree_freshInfo.bind fun i i' hi => (h.required _).bind fun f f' hf =>
      (agree_countIn b _).bind_same fun n => (h.requiredAll _ n).bind fun es es' hes =>
      (h.keywords b).bind fun ks ks' hks =>
      agree_pure (by simp only [Expr.bare, bareExprs_eq_map, bareKeywords_eq_map, hi, hf, hes, hks])
  | tuple | list | set =>
    exact (agree_countIn b _).bind_same fun n => (h.requiredAll _ n).bind fun es es' hes =>
      agree_freshInfo.bind fun i i' hi =>
      agree_pure (by simp only [Expr.bare, bareExprs_eq_map, hi, hes])
  | dict =>
    exact agree_freshInfo.bind fun i i' hi => (h.entries b).bind fun ds ds' hds =>
      agree_pure (by simp only [Expr.bare, bareEntries_eq_map, hi, hds])
  | member | walrus =>
    exact agree_freshInfo.bind fun i i' hi => (h.required _).bind fun e e' he =>
      agree_pure (by simp only [Expr.bare, hi, he])
  | subscript =>
    exact agree_freshInfo.bind fun i i' hi => (h.required _).bind fun e e' he =>
      (h.required _).bind fun x x' hx => agree_pure (by simp only [Expr.bare, hi, he, hx])
  | slice =>
    exact agree_freshInfo.bind fun i i' hi => (h _).bind fun l l' hl => (h _).bind fun u u' hu =>
      (h _).bind fun s s' hs =>
      agree_pure (by simp only [Expr.bare, bareOption_eq_map, hi, hl, hu, hs])
  | grouped | yieldFrom | await =>
    exact (h.required _).bind fun e e' he => agree_freshInfo.bind fun i i' hi =>
      agree_pure (by simp only [Expr.bare, hi, he])
  | comprehension =>
    exact agree_freshInfo.bind fun i i' hi => (agree_chosen _).bind_same fun kind =>
      (h.required _).bind fun e e' he => (h.keyOf kind).bind fun k k' hk =>
      (h.clauses b).bind fun cs cs' hcs =>
      agree_pure (by simp only [Expr.bare, bareOption_eq_map, bareClauses_eq_map, hi, he, hk, hcs])
  | fstring =>
    exact agree_freshInfo.bind fun i i' hi => (h.parts b).bind fun ps ps' hps =>
      agree_pure (by simp only [Expr.bare, bareParts_eq_map, hi, hps])
  | yield =>
    exact (h _).bind fun e e' he => agree_freshInfo.bind fun i i' hi =>
      agree_pure (by simp only [Expr.bare, bareOption_eq_map, hi, he])
  | random | round | range | len | input | typeConvert | enumerate | zip | sorted | reversed |
    mathFunc | isInstance | typeCheck | printStmt | waitStmt => exact h.builtinCall _ b filled
  | _ => exact agree_reject _ _ _ _ _

end Slots

/-! ## Statements -/

/-- The slots hold statements that are read in agreement. -/
def BodiesAgree (bodies bodies' : Bodies) : Prop :=
  ∀ s level, Agree Suite.bare (bodies s level) (bodies' s level)

section Bodies

variable {slots slots' : Slots} {bodies bodies' : Bodies}

/-- A body that may be there agrees if the bodies do. -/
lemma BodiesAgree.optionalBody (h : BodiesAgree bodies bodies') (filled : String → Bool)
    (depth : ℤ) (b : Block) (flag slot : String) :
    Agree (Option.map Suite.bare) (optionalBody filled bodies depth b flag slot)
      (optionalBody filled bodies' depth b flag slot) := by
  unfold Compile.optionalBody
  split
  · exact agree_pure rfl
  · exact (h _ _).map fun body body' hbody => congrArg some hbody

/-- Handlers agree if slots and bodies do. -/
lemma BodiesAgree.handlers (h : BodiesAgree bodies bodies') (hslots : SlotsAgree slots slots')
    (depth : ℤ) (b : Block) : Agree (List.map Handler.bare) (handlers slots bodies depth b)
      (handlers slots' bodies' depth b) := by
  refine agree_range (agree_countIn b _) fun i => ?_
  refine agree_freshInfo.bind fun info info' hinfo => (hslots _).bind fun type type' htype =>
    (h _ _).bind fun body body' hbody => agree_pure ?_
  simp only [Handler.bare, hinfo, htype, hbody]

/-- Suites in statements. -/
private lemma bareStmts_statements {s s' : Suite Stmt} (h : s.bare = s'.bare) :
    (⟨bareStmts s.statements, s.level⟩ : Suite Stmt) = ⟨bareStmts s'.statements, s'.level⟩ := by
  simpa only [Suite.bare, bareStmts_eq_map] using h

/-- A statement block is read in agreement with itself if what its slots hold is. -/
lemma BodiesAgree.stmtOf (h : BodiesAgree bodies bodies') (hslots : SlotsAgree slots slots')
    {cases cases' : ℤ → Compile (List (MatchCase Stmt))}
    (hcases : ∀ depth, Agree (List.map MatchCase.bare) (cases depth) (cases' depth)) (b : Block)
    (filled : String → Bool) (depth : ℤ) :
    Agree Stmt.bare (stmtOf id' b filled slots bodies cases depth)
      (stmtOf id'' b filled slots' bodies' cases' depth) := by
  unfold Compile.stmtOf
  generalize b.type = type
  cases type with
  | whileStmt =>
    exact agree_freshInfo.bind fun i i' hi => (hslots.required _).bind fun t t' ht =>
      (h _ _).bind fun body body' hbody => (h.optionalBody filled depth b _ _).bind fun o o' ho =>
      agree_pure (by
        simp only [Stmt.bare, bareSuite_eq_map, bareStmts_statements hbody, hi, ht, ho])
  | forStmt =>
    exact agree_freshInfo.bind fun i i' hi => (hslots.required _).bind fun t t' ht =>
      (hslots.required _).bind fun e e' he => (h _ _).bind fun body body' hbody =>
      (h.optionalBody filled depth b _ _).bind fun o o' ho => agree_pure (by
        simp only [Stmt.bare, bareSuite_eq_map, bareStmts_statements hbody, hi, ht, he, ho])
  | matchStmt =>
    refine agree_freshInfo.bind fun i i' hi => (hslots.required _).bind fun e e' he => ?_
    have hlist : Agree Stmt.bare (do return .matchStmt e (← cases depth) i)
        (do return .matchStmt e' (← cases' depth) i') :=
      (hcases depth).bind fun cs cs' hcs =>
        agree_pure (by simp only [Stmt.bare, bareCases_eq_map, hi, he, hcs])
    dsimp only
    split
    · exact agree_reject_bind _ _ _ _ _
    · exact hlist
  | functionDef =>
    exact agree_freshInfo.bind fun i i' hi => (hslots.params b _).bind fun ps ps' hps =>
      (h _ _).bind fun body body' hbody => (agree_countIn b _).bind_same fun n =>
      (hslots.requiredAll _ n).bind fun ds ds' hds => (hslots _).bind fun r r' hr =>
      agree_pure (by
        simp only [Stmt.bare, bareParams_eq_map, bareExprs_eq_map, bareOption_eq_map,
          bareStmts_statements hbody, hi, hps, hds, hr])
  | classDef =>
    exact agree_freshInfo.bind fun i i' hi => (agree_countIn b _).bind_same fun n =>
      (hslots.requiredAll _ n).bind fun es es' hes => (h _ _).bind fun body body' hbody =>
      (agree_countIn b _).bind_same fun k => (hslots.requiredAll _ k).bind fun ds ds' hds =>
      agree_pure (by
        simp only [Stmt.bare, bareExprs_eq_map, bareStmts_statements hbody, hi, hes, hds])
  | varSet =>
    exact agree_freshInfo.bind fun i i' hi => agree_freshInfo.bind fun j j' hj =>
      (hslots.required _).bind fun e e' he => agree_pure (by
        simp only [Stmt.bare, Expr.bare, bareExprs, hi, hj, he])
  | assign =>
    exact agree_freshInfo.bind fun i i' hi => (agree_countIn b _).bind_same fun n =>
      (hslots.requiredAll _ n).bind fun es es' hes => (hslots.required _).bind fun e e' he =>
      agree_pure (by simp only [Stmt.bare, bareExprs_eq_map, hi, hes, he])
  | annAssign =>
    exact agree_freshInfo.bind fun i i' hi => (hslots.required _).bind fun t t' ht =>
      (hslots.required _).bind fun hint hint' hhint => (hslots _).bind fun e e' he =>
      agree_pure (by simp only [Stmt.bare, bareOption_eq_map, hi, ht, hhint, he])
  | augAssign =>
    exact agree_freshInfo.bind fun i i' hi => (hslots.required _).bind fun t t' ht =>
      (agree_chosen _).bind_same fun op => (hslots.required _).bind fun e e' he =>
      agree_pure (by simp only [Stmt.bare, hi, ht, he])
  | exprStmt =>
    exact (hslots.required _).bind fun e e' he => agree_freshInfo.bind fun i i' hi =>
      agree_pure (by simp only [Stmt.bare, hi, he])
  | passStmt | breakStmt | continueStmt =>
    exact agree_freshInfo.bind fun i i' hi => agree_pure (by simp only [Stmt.bare, hi])
  | returnStmt =>
    exact (hslots _).bind fun e e' he => agree_freshInfo.bind fun i i' hi =>
      agree_pure (by simp only [Stmt.bare, bareOption_eq_map, hi, he])
  | importStmt =>
    exact agree_freshInfo.bind fun i i' hi => (agree_importedNames b).bind fun ns ns' hns =>
      agree_pure (by simp only [Stmt.bare, hi, hns])
  | tryStmt =>
    exact agree_freshInfo.bind fun i i' hi => (h _ _).bind fun body body' hbody =>
      (h.handlers hslots depth b).bind fun hs hs' hhs =>
      (h.optionalBody filled depth b _ _).bind fun o o' ho =>
      (h.optionalBody filled depth b _ _).bind fun f f' hf => agree_pure (by
        simp only [Stmt.bare, bareHandlers_eq_map, bareSuite_eq_map, bareStmts_statements hbody, hi,
          hhs, ho, hf])
  | withStmt =>
    exact agree_freshInfo.bind fun i i' hi => (hslots.contexts b).bind fun ws ws' hws =>
      (h _ _).bind fun body body' hbody =>
      agree_pure (by simp only [Stmt.bare, bareStmts_statements hbody, hi, hws])
  | assertStmt =>
    exact agree_freshInfo.bind fun i i' hi => (hslots.required _).bind fun t t' ht =>
      (hslots _).bind fun e e' he =>
      agree_pure (by simp only [Stmt.bare, bareOption_eq_map, hi, ht, he])
  | raiseStmt =>
    exact agree_freshInfo.bind fun i i' hi => (hslots _).bind fun e e' he =>
      (hslots _).bind fun c c' hc =>
      agree_pure (by simp only [Stmt.bare, bareOption_eq_map, hi, he, hc])
  | deleteStmt =>
    exact agree_freshInfo.bind fun i i' hi => (agree_countIn b _).bind_same fun n =>
      (hslots.requiredAll _ n).bind fun es es' hes =>
      agree_pure (by simp only [Stmt.bare, bareExprs_eq_map, hi, hes])
  | globalStmt | nonlocalStmt =>
    exact (agree_declaredNames b).bind_same fun names => agree_freshInfo.bind fun i i' hi =>
      agree_pure (by simp only [Stmt.bare, hi])
  | printStmt | waitStmt =>
    exact agree_freshInfo.bind fun i i' hi => (hslots.builtinCall _ b filled).bind fun e e' he =>
      agree_pure (by simp only [Stmt.bare, hi, he])
  | _ => exact agree_reject _ _ _ _ _

end Bodies

end Compile

end BlockText

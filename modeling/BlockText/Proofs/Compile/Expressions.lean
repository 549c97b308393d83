import BlockText.Proofs.Compile.Outcome
import BlockText.Proofs.Syntax.WellFormed

/-!
# Reading expressions off blocks

`Reads t e` says that the tree `t` is read as the expression `e`, up to information.  For each kind
of expression there is one lemma: a block of its type, with its data in the fields and its parts in
the slots, reads as the expression.  Parts that come in numbers are described by index.
-/

namespace BlockText.Compile

open Syntax Datum

/-- The tree is read as an expression, up to information. -/
def Reads (t : BlockTree) (e : Expr) : Prop :=
  t.isPresent ∧ Gives (expr t) (Expr.Alike · e)

/-- The tree is read as an optional expression, up to information. -/
def ReadsOption (t : BlockTree) : Option Expr → Prop
  | some e => Reads t e
  | none => t = .nothing

variable {id : BlockId} {b : Block} {kids : String → BlockTree} {next : BlockTree} {i : Info}

-- Likeness is read off the records in every case.
attribute [local simp] Alike core_record Tag.fields

/-! ## Slots -/

/-- What the slots of a block hold. -/
abbrev slotsOf (kids : String → BlockTree) : Slots := fun s => optional (kids s)

/-- A slot for something optional. -/
lemma gives_slot {s : String} {o : Option Expr} (h : ReadsOption (kids s) o) :
    Gives (slotsOf kids s) (OptionAlike · o) := by
  change Gives (optional (kids s)) _
  unfold optional
  cases o with
  | none =>
    rw [show kids s = .nothing from h]
    exact gives_pure optionAlike_none
  | some e =>
    rw [if_pos h.1]
    exact Gives.map (h.2.mono fun e' he' => optionAlike_some he')

/-- A slot that is filled. -/
lemma gives_required {s : String} {e : Expr} (h : Reads (kids s) e) :
    Gives (required (slotsOf kids) s) (Expr.Alike · e) := by
  have hslot : Gives (slotsOf kids s) fun o => ∃ e', o = some e' ∧ e'.Alike e := by
    change Gives (optional (kids s)) _
    unfold optional
    rw [if_pos h.1]
    exact Gives.map (h.2.mono fun e' he' => ⟨e', rfl, he'⟩)
  refine hslot.bind ?_
  rintro _ ⟨e', rfl, he'⟩
  exact gives_pure he'

/-- Slots with an index that are filled. -/
lemma gives_requiredAll {stem : String} {es : List Expr}
    (h : ∀ i (hi : i < es.length), Reads (kids s!"{stem}{i}") es[i]) :
    Gives (requiredAll (slotsOf kids) stem es.length) fun es' =>
      List.Forall₂ Expr.Alike es' es :=
  gives_mapM_indexed stem es fun i hi => gives_required (h i hi)

/-- The tree of a block is read as the block is. -/
lemma reads_node {e : Expr}
    (h : Gives (exprOf id b (fun s => (kids s).isPresent) (slotsOf kids)) (Expr.Alike · e)) :
    Reads (.node id b kids next) e := by
  refine ⟨rfl, ?_⟩
  unfold expr
  exact h.checked

/-- A field that is there. -/
lemma field_of_field? {name : String} {d : Datum} (h : b.field? name = some d) :
    b.field name = d := by
  rw [Block.field, h, Option.getD_some]

/-- A name that is there. -/
lemma nameIn_eq {field : String} {name : List CodePoint}
    (h : b.field? field = some (.ofPoints name)) (hname : name ≠ []) :
    nameIn b field = .ofPoints name := by
  have hfalsy : (Datum.ofPoints name).isFalsy = false := by
    rwa [isFalsy_ofPoints, List.isEmpty_eq_false_iff]
  rw [nameIn, field_of_field? h, Datum.orElse, hfalsy]
  rfl

/-! ## Leaves -/

/-- The block of a name is read as the name. -/
lemma reads_identifier {name : List CodePoint} (ht : b.type = .identifier)
    (hname : b.field? "name" = some (.ofPoints name)) (hne : name ≠ []) :
    Reads (.node id b kids next) (.identifier (.ofPoints name) i) := by
  refine reads_node ?_
  simp only [exprOf, ht, nameIn_eq hname hne]
  refine gives_freshInfo.bind fun info _ => gives_pure ?_
  simp

/-- The block of a number is read as the number. -/
lemma reads_number {raw : List CodePoint} (ht : b.type = .number)
    (hvalue : b.field? "value" = some (.ofPoints raw)) (htrim : Text.trimPoints raw = raw)
    (hne : raw ≠ []) :
    Reads (.node id b kids next) (.literal .number (.ofPoints raw) .null i) := by
  refine reads_node ?_
  have hraw : numberLiteral b = .ofPoints raw := by
    rw [numberLiteral, hvalue, Option.getD_some, displayed_ofPoints, htrim]
    simp [hne]
  simp only [exprOf, ht, hraw]
  refine gives_freshInfo.bind fun info _ => gives_pure ?_
  simp

/-- The block of a string is read as the string with its spelling. -/
lemma reads_string {raw : List CodePoint} {value : Datum} (ht : b.type = .string)
    (hraw : b.field? "raw" = some (.ofPoints raw)) (hvalue : b.field? "value" = some value)
    (hne : raw ≠ []) :
    Reads (.node id b kids next) (.literal .string (.ofPoints raw) value i) := by
  refine reads_node ?_
  have htruthy : (Datum.ofPoints raw).isTruthy = true := by simpa [isTruthy] using hne
  have hliteral : textLiteral b = pure (.ofPoints raw) := by
    rw [textLiteral, field_of_field? hraw, htruthy]
    rfl
  simp only [exprOf, ht, hliteral, hvalue, pure_bind]
  refine gives_freshInfo.bind fun info _ => gives_pure ?_
  simp

/-- The block of a truth value is read as the value. -/
lemma reads_bool {value : Bool} (ht : b.type = .bool)
    (hvalue : b.field? "value" = some (.bool value)) :
    Reads (.node id b kids next)
      (.literal .bool (.text (if value then "True" else "False")) (.bool value) i) := by
  refine reads_node ?_
  have htruthy : (b.field "value").isTruthy = value := by
    rw [field_of_field? hvalue, isTruthy, isFalsy, Bool.not_not]
  simp only [exprOf, ht, htruthy]
  refine gives_freshInfo.bind fun info _ => gives_pure ?_
  cases value <;> simp

/-- The block of the value `None` is read as the value. -/
lemma reads_none (ht : b.type = .none) :
    Reads (.node id b kids next) (.literal .none (.text "None") .null i) := by
  refine reads_node ?_
  simp only [exprOf, ht]
  refine gives_freshInfo.bind fun info _ => gives_pure ?_
  simp

/-! ## Fixed numbers of parts -/

/-- The block of a binary operation is read as the operation. -/
lemma reads_binary {l r : Expr} {op : BinaryOp} (ht : b.type = .binary)
    (hop : b.field? "op" = some (spelled op)) (hl : Reads (kids "LEFT") l)
    (hr : Reads (kids "RIGHT") r) : Reads (.node id b kids next) (.binary l op r i) := by
  refine reads_node ?_
  simp only [exprOf, ht, field_of_field? hop]
  refine gives_freshInfo.bind fun info _ => (gives_required hl).bind fun l' hl' =>
    (gives_chosen id op).bind fun op' hop' => (gives_required hr).bind fun r' hr' => gives_pure ?_
  subst hop'
  simpa using ⟨hl', hr'⟩

/-- The block of a unary operation is read as the operation. -/
lemma reads_unary {e : Expr} {op : UnaryOp} (ht : b.type = .unary)
    (hop : b.field? "op" = some (spelled op)) (he : Reads (kids "OPERAND") e) :
    Reads (.node id b kids next) (.unary op e i) := by
  refine reads_node ?_
  simp only [exprOf, ht, field_of_field? hop]
  refine gives_freshInfo.bind fun info _ => (gives_chosen id op).bind fun op' hop' =>
    (gives_required he).bind fun e' he' => gives_pure ?_
  subst hop'
  simpa using he'

/-- The block of a conditional expression is read as the expression. -/
lemma reads_conditional {t th el : Expr} (ht : b.type = .conditional) (htest : Reads (kids "COND") t)
    (hthen : Reads (kids "THEN") th) (helse : Reads (kids "ELSE") el) :
    Reads (.node id b kids next) (.conditional t th el i) := by
  refine reads_node ?_
  simp only [exprOf, ht]
  refine gives_freshInfo.bind fun info _ => (gives_required htest).bind fun t' h₁ =>
    (gives_required hthen).bind fun th' h₂ => (gives_required helse).bind fun el' h₃ =>
      gives_pure ?_
  simpa using ⟨h₁, h₂, h₃⟩

/-- The block of an attribute is read as the attribute. -/
lemma reads_member {e : Expr} {attr : List CodePoint} (ht : b.type = .member)
    (hattr : b.field? "attr" = some (.ofPoints attr)) (hne : attr ≠ [])
    (he : Reads (kids "VALUE") e) :
    Reads (.node id b kids next) (.attribute e (.ofPoints attr) i) := by
  refine reads_node ?_
  simp only [exprOf, ht, nameIn_eq hattr hne]
  refine gives_freshInfo.bind fun info _ => (gives_required he).bind fun e' he' => gives_pure ?_
  simpa using he'

/-- The block of a subscript is read as the subscript. -/
lemma reads_subscript {e index : Expr} (ht : b.type = .subscript) (he : Reads (kids "VALUE") e)
    (hindex : Reads (kids "INDEX") index) :
    Reads (.node id b kids next) (.subscript e index i) := by
  refine reads_node ?_
  simp only [exprOf, ht]
  refine gives_freshInfo.bind fun info _ => (gives_required he).bind fun e' h₁ =>
    (gives_required hindex).bind fun index' h₂ => gives_pure ?_
  simpa using ⟨h₁, h₂⟩

/-- The block of a slice is read as the slice. -/
lemma reads_slice {lower upper step : Option Expr} (ht : b.type = .slice)
    (hlower : ReadsOption (kids "LOWER") lower) (hupper : ReadsOption (kids "UPPER") upper)
    (hstep : ReadsOption (kids "STEP") step) :
    Reads (.node id b kids next) (.slice lower upper step i) := by
  refine reads_node ?_
  simp only [exprOf, ht]
  refine gives_freshInfo.bind fun info _ => (gives_slot hlower).bind fun lower' h₁ =>
    (gives_slot hupper).bind fun upper' h₂ => (gives_slot hstep).bind fun step' h₃ => gives_pure ?_
  simpa using ⟨h₁, h₂, h₃⟩

/-- The block of an expression in parentheses is read with them. -/
lemma reads_grouped {e : Expr} (ht : b.type = .grouped) (he : Reads (kids "EXPR") e) :
    Reads (.node id b kids next) (.grouped e i) := by
  refine reads_node ?_
  simp only [exprOf, ht]
  refine (gives_required he).bind fun e' he' => gives_freshInfo.bind fun info _ => gives_pure ?_
  simpa using he'

/-- The block of an assignment inside an expression is read as the assignment. -/
lemma reads_walrus {e : Expr} {name : List CodePoint} (ht : b.type = .walrus)
    (hname : b.field? "name" = some (.ofPoints name)) (hne : name ≠ [])
    (he : Reads (kids "VALUE") e) :
    Reads (.node id b kids next) (.walrus (.ofPoints name) e i) := by
  refine reads_node ?_
  simp only [exprOf, ht, nameIn_eq hname hne]
  refine gives_freshInfo.bind fun info _ => (gives_required he).bind fun e' he' => gives_pure ?_
  simpa using he'

/-- The block that yields a value is read as the expression. -/
lemma reads_yield {e : Option Expr} (ht : b.type = .yield) (he : ReadsOption (kids "VALUE") e) :
    Reads (.node id b kids next) (.yield e i) := by
  refine reads_node ?_
  simp only [exprOf, ht]
  refine (gives_slot he).bind fun e' he' => gives_freshInfo.bind fun info _ => gives_pure ?_
  simpa using he'

/-- The block that yields from another generator is read as the expression. -/
lemma reads_yieldFrom {e : Expr} (ht : b.type = .yieldFrom) (he : Reads (kids "VALUE") e) :
    Reads (.node id b kids next) (.yieldFrom e i) := by
  refine reads_node ?_
  simp only [exprOf, ht]
  refine (gives_required he).bind fun e' he' => gives_freshInfo.bind fun info _ => gives_pure ?_
  simpa using he'

/-- The block that awaits a value is read as the expression. -/
lemma reads_await {e : Expr} (ht : b.type = .await) (he : Reads (kids "VALUE") e) :
    Reads (.node id b kids next) (.await e i) := by
  refine reads_node ?_
  simp only [exprOf, ht]
  refine (gives_required he).bind fun e' he' => gives_freshInfo.bind fun info _ => gives_pure ?_
  simpa using he'

/-! ## Parts in numbers -/

/-- The block of a chain of a short-circuit operator is read as the chain. -/
lemma reads_boolOp {op : BoolOp} {es : List Expr} (ht : b.type = .boolOp)
    (hop : b.field? "op" = some (spelled op))
    (hcount : b.field? "item_count" = some (.int es.length))
    (hes : ∀ j (hj : j < es.length), Reads (kids s!"ITEM{j}") es[j]) :
    Reads (.node id b kids next) (.boolOp op es i) := by
  refine reads_node ?_
  simp only [exprOf, ht, field_of_field? hop]
  refine gives_freshInfo.bind fun info _ => (gives_countIn hcount).bind ?_
  rintro _ rfl
  refine (gives_requiredAll hes).bind fun es' hes' => (gives_chosen id op).bind fun op' hop' =>
    gives_pure ?_
  subst hop'
  simpa [exprData_eq_map] using coreList_map_congr hes'

/-- The block of a tuple is read as the tuple. -/
lemma reads_tuple {es : List Expr} (ht : b.type = .tuple)
    (hcount : b.field? "item_count" = some (.int es.length))
    (hes : ∀ j (hj : j < es.length), Reads (kids s!"ITEM{j}") es[j]) :
    Reads (.node id b kids next) (.tuple es i) := by
  refine reads_node ?_
  simp only [exprOf, ht]
  refine (gives_countIn hcount).bind ?_
  rintro _ rfl
  refine (gives_requiredAll hes).bind fun es' hes' => gives_freshInfo.bind fun info _ =>
    gives_pure ?_
  simpa [exprData_eq_map] using coreList_map_congr hes'

/-- The block of a list is read as the list. -/
lemma reads_list {es : List Expr} (ht : b.type = .list)
    (hcount : b.field? "item_count" = some (.int es.length))
    (hes : ∀ j (hj : j < es.length), Reads (kids s!"ITEM{j}") es[j]) :
    Reads (.node id b kids next) (.list es i) := by
  refine reads_node ?_
  simp only [exprOf, ht]
  refine (gives_countIn hcount).bind ?_
  rintro _ rfl
  refine (gives_requiredAll hes).bind fun es' hes' => gives_freshInfo.bind fun info _ =>
    gives_pure ?_
  simpa [exprData_eq_map] using coreList_map_congr hes'

/-- The block of a set is read as the set. -/
lemma reads_set {es : List Expr} (ht : b.type = .set)
    (hcount : b.field? "item_count" = some (.int es.length))
    (hes : ∀ j (hj : j < es.length), Reads (kids s!"ITEM{j}") es[j]) :
    Reads (.node id b kids next) (.set es i) := by
  refine reads_node ?_
  simp only [exprOf, ht]
  refine (gives_countIn hcount).bind ?_
  rintro _ rfl
  refine (gives_requiredAll hes).bind fun es' hes' => gives_freshInfo.bind fun info _ =>
    gives_pure ?_
  simpa [exprData_eq_map] using coreList_map_congr hes'

/-- The block of a comparison is read as the comparison. -/
lemma reads_compare {l : Expr} {ops : List CompareOp} {es : List Expr} (ht : b.type = .compare)
    (hlength : ops.length = es.length) (hcount : b.field? "item_count" = some (.int es.length))
    (hl : Reads (kids "LEFT") l)
    (hops : ∀ j (hj : j < ops.length), b.field? s!"OP{j}" = some (spelled ops[j]))
    (hes : ∀ j (hj : j < es.length), Reads (kids s!"CMP{j}") es[j]) :
    Reads (.node id b kids next) (.compare l ops es i) := by
  refine reads_node ?_
  have hread : Gives ((indexed "OP" ops.length).mapM fun name => chosen CompareOp id (b.field name))
      fun ops' => List.Forall₂ (· = ·) ops' ops := by
    refine gives_mapM_indexed "OP" ops fun j hj => ?_
    rw [field_of_field? (hops j hj)]
    exact gives_chosen id ops[j]
  rw [hlength] at hread
  simp only [exprOf, ht]
  refine gives_freshInfo.bind fun info _ => (gives_required hl).bind fun l' hl' =>
    (gives_countIn hcount).bind ?_
  rintro _ rfl
  refine hread.bind fun ops' hops' => (gives_requiredAll hes).bind fun es' hes' => gives_pure ?_
  obtain rfl : ops' = ops := List.forall₂_eq_eq_eq ▸ hops'
  simpa [exprData_eq_map] using ⟨hl', coreList_map_congr hes'⟩

/-- The fields and slots of an index show a parameter, with its type if `hints` is set. -/
def ShowsParam (b : Block) (kids : String → BlockTree) (hints : Bool) (j : ℕ) (p : Param Expr) :
    Prop :=
  b.field? s!"PARAM{j}" = some p.name ∧ b.field? s!"PARAM_KIND{j}" = some (spelled p.kind) ∧
    (if hints then ReadsOption (kids s!"ANNOTATION{j}") p.hint else p.hint = none) ∧
    ReadsOption (kids s!"DEFAULT{j}") p.preset

/-- Parameters are read one by one. -/
lemma gives_params {hints : Bool} {ps : List (Param Expr)}
    (hcount : b.field? "item_count" = some (.int ps.length))
    (hps : ∀ j (hj : j < ps.length), ShowsParam b kids hints j ps[j]) :
    Gives (params id b (slotsOf kids) hints) fun ps' =>
      List.Forall₂ (Alike Param.toDatum) ps' ps := by
  unfold params
  refine (gives_countIn hcount).bind ?_
  rintro _ rfl
  refine gives_mapM_range ps fun j hj => ?_
  obtain ⟨hname, hkind, hhint, hpreset⟩ := hps j hj
  have hread : Gives (hintAt (slotsOf kids) hints j) (OptionAlike · ps[j].hint) := by
    cases hints with
    | true => exact gives_slot hhint
    | false =>
      rw [show ps[j].hint = none from hhint]
      exact gives_pure optionAlike_none
  refine gives_freshInfo.bind fun info _ => hread.bind fun hint' h₁ =>
    (gives_slot hpreset).bind fun preset' h₂ => ?_
  rw [hkind, hname, Option.getD_some, Option.getD_some]
  refine (gives_chosen id ps[j].kind).bind fun kind' hkind' => gives_pure ?_
  subst hkind'
  simpa [Param.toDatum] using ⟨h₁, h₂⟩

/-- The block of an anonymous function is read as the function. -/
lemma reads_lambda {ps : List (Param Expr)} {body : Expr} (ht : b.type = .lambda)
    (hcount : b.field? "item_count" = some (.int ps.length))
    (hps : ∀ j (hj : j < ps.length), ShowsParam b kids false j ps[j])
    (hbody : Reads (kids "EXPR") body) : Reads (.node id b kids next) (.lambda ps body i) := by
  refine reads_node ?_
  simp only [exprOf, ht]
  refine gives_freshInfo.bind fun info _ => (gives_params hcount hps).bind fun ps' h₁ =>
    (gives_required hbody).bind fun body' h₂ => gives_pure ?_
  simpa [paramData_eq_map] using ⟨coreList_map_congr h₁, h₂⟩

/-- A name that may be missing is written as a text and read as it was. -/
lemma optionIn_eq {field : String} {d : Datum} (hd : IsOptionalName d)
    (h : b.field? field = some (d.orElse "")) : optionIn b field = d := by
  rw [optionIn, field_of_field? h]
  rcases hd with rfl | ⟨ps, hps, rfl⟩
  · simp [Datum.orElse, isFalsy]
  · simp [Datum.orElse, hps]

/-- The fields and slots of an index show a keyword argument. -/
def ShowsKeyword (b : Block) (kids : String → BlockTree) (j : ℕ) (k : Keyword Expr) : Prop :=
  IsOptionalName k.name ∧ b.field? s!"KWARG_NAME{j}" = some (k.name.orElse "") ∧
    Reads (kids s!"KWARG{j}") k.value

/-- Keyword arguments that are shown are read back. -/
lemma gives_keywords {ks : List (Keyword Expr)}
    (hcount : b.field? "keyword_count" = some (.int ks.length))
    (hks : ∀ j (hj : j < ks.length), ShowsKeyword b kids j ks[j]) :
    Gives (keywords b (slotsOf kids)) fun ks' =>
      List.Forall₂ (Alike Keyword.toDatum) ks' ks := by
  unfold keywords
  refine (gives_countIn hcount).bind ?_
  rintro _ rfl
  refine gives_mapM_range ks fun j hj => ?_
  obtain ⟨hopt, hname, hvalue⟩ := hks j hj
  refine gives_freshInfo.bind fun info _ => (gives_required hvalue).bind fun value' h₁ =>
    gives_pure ?_
  rw [optionIn_eq hopt hname]
  simpa [Keyword.toDatum] using h₁

/-- The block of a call is read as the call. -/
lemma reads_call {f : Expr} {args : List Expr} {ks : List (Keyword Expr)} (ht : b.type = .call)
    (hcount : b.field? "item_count" = some (.int args.length))
    (hkcount : b.field? "keyword_count" = some (.int ks.length)) (hf : Reads (kids "CALLEE") f)
    (hargs : ∀ j (hj : j < args.length), Reads (kids s!"ARG{j}") args[j])
    (hks : ∀ j (hj : j < ks.length), ShowsKeyword b kids j ks[j]) :
    Reads (.node id b kids next) (.call f args ks i) := by
  refine reads_node ?_
  simp only [exprOf, ht]
  refine gives_freshInfo.bind fun info _ => (gives_required hf).bind fun f' h₁ =>
    (gives_countIn hcount).bind ?_
  rintro _ rfl
  refine (gives_requiredAll hargs).bind fun args' h₂ => (gives_keywords hkcount hks).bind
    fun ks' h₃ => gives_pure ?_
  simpa [exprData_eq_map, keywordData_eq_map] using
    ⟨h₁, coreList_map_congr h₂, coreList_map_congr h₃⟩

/-- The slots of an index show an entry of a dictionary. -/
def ShowsEntry (kids : String → BlockTree) (j : ℕ) (d : DictEntry Expr) : Prop :=
  ReadsOption (kids s!"KEY{j}") d.key ∧ Reads (kids s!"VALUE{j}") d.value

/-- The block of a dictionary is read as the dictionary. -/
lemma reads_dict {ds : List (DictEntry Expr)} (ht : b.type = .dict)
    (hcount : b.field? "item_count" = some (.int ds.length))
    (hds : ∀ j (hj : j < ds.length), ShowsEntry kids j ds[j]) :
    Reads (.node id b kids next) (.dict ds i) := by
  have hentries : Gives (entries b (slotsOf kids)) fun ds' =>
      List.Forall₂ (Alike DictEntry.toDatum) ds' ds := by
    unfold entries
    refine (gives_countIn hcount).bind ?_
    rintro _ rfl
    refine gives_mapM_range ds fun j hj => ?_
    obtain ⟨hkey, hvalue⟩ := hds j hj
    refine gives_freshInfo.bind fun info _ => (gives_slot hkey).bind fun key' h₁ =>
      (gives_required hvalue).bind fun value' h₂ => gives_pure ?_
    simpa [DictEntry.toDatum] using ⟨h₁, h₂⟩
  refine reads_node ?_
  simp only [exprOf, ht]
  refine gives_freshInfo.bind fun info _ => hentries.bind fun ds' h => gives_pure ?_
  simpa [entryData_eq_map] using coreList_map_congr h

/-- The fields and slots of an index show a clause of a comprehension. -/
def ShowsClause (b : Block) (kids : String → BlockTree) (j : ℕ) (c : Clause Expr) : Prop :=
  b.field? s!"IS_ASYNC{j}" = some (.bool c.isAsync) ∧
    b.field? s!"IF_COUNT{j}" = some (.int c.ifs.length) ∧
    Reads (kids s!"TARGET{j}") c.target ∧ Reads (kids s!"ITER{j}") c.iter ∧
    ∀ k (hk : k < c.ifs.length), Reads (kids (s!"IF{j}_" ++ toString k)) c.ifs[k]

/-- Comprehension clauses that are shown are read back. -/
lemma gives_clauses {cs : List (Clause Expr)}
    (hcount : b.field? "item_count" = some (.int cs.length))
    (hcs : ∀ j (hj : j < cs.length), ShowsClause b kids j cs[j]) :
    Gives (clauses b (slotsOf kids)) fun cs' =>
      List.Forall₂ (Alike Clause.toDatum) cs' cs := by
  unfold clauses
  refine (gives_countIn hcount).bind ?_
  rintro _ rfl
  refine gives_mapM_range cs fun j hj => ?_
  obtain ⟨hasync, hifs, htarget, hiter, hconds⟩ := hcs j hj
  have htruthy : (b.field s!"IS_ASYNC{j}").isTruthy = cs[j].isAsync := by
    rw [field_of_field? hasync, isTruthy, isFalsy, Bool.not_not]
  refine gives_freshInfo.bind fun info _ => (gives_countIn hifs).bind ?_
  rintro _ rfl
  refine (gives_requiredAll hconds).bind fun ifs' h₁ => (gives_required htarget).bind
    fun target' h₂ => (gives_required hiter).bind fun iter' h₃ => gives_pure ?_
  simp only [htruthy]
  simpa [Clause.toDatum, exprData_eq_map] using ⟨h₂, h₃, coreList_map_congr h₁⟩

/-- The block of a comprehension is read as the comprehension. -/
lemma reads_comprehension {kind : ComprehensionKind} {e : Expr} {cs : List (Clause Expr)}
    {key : Option Expr} (ht : b.type = .comprehension)
    (hkind : b.field? "kind" = some (spelled kind))
    (hcount : b.field? "item_count" = some (.int cs.length)) (he : Reads (kids "ELEMENT") e)
    (hkey : ReadsOption (kids "KEY") key) (hdict : key.isSome ↔ kind = .dict)
    (hcs : ∀ j (hj : j < cs.length), ShowsClause b kids j cs[j]) :
    Reads (.node id b kids next) (.comprehension kind e cs key i) := by
  have hread : Gives (keyOf (slotsOf kids) kind) (OptionAlike · key) := by
    unfold keyOf
    cases key with
    | some k =>
      rw [if_pos (by simpa using hdict.mp rfl)]
      exact Gives.map ((gives_required hkey).mono fun k' hk' => optionAlike_some hk')
    | none =>
      have hne : kind ≠ .dict := fun h => by simpa using hdict.mpr h
      rw [if_neg (by simpa using hne)]
      exact gives_pure optionAlike_none
  refine reads_node ?_
  simp only [exprOf, ht, field_of_field? hkind]
  refine gives_freshInfo.bind fun info _ => (gives_chosen id kind).bind ?_
  rintro _ rfl
  refine (gives_required he).bind fun e' h₁ => hread.bind fun key' h₂ =>
    (gives_clauses hcount hcs).bind fun cs' h₃ => gives_pure ?_
  simpa [clauseData_eq_map] using ⟨h₁, coreList_map_congr h₃, h₂⟩

/-- The fields and slots of an index show a part of a formatted string. -/
def ShowsPart (b : Block) (kids : String → BlockTree) (j : ℕ) (p : FormatPart Expr) : Prop :=
  b.field? s!"PART_KIND{j}" = some (spelled p.kind) ∧ b.field? s!"PART_TEXT{j}" = some p.text ∧
    b.field? s!"CONVERSION{j}" = some p.conversion ∧
    b.field? s!"FORMAT_SPEC{j}" = some p.formatSpec ∧ ReadsOption (kids s!"PART{j}") p.expr ∧
    match p.kind with
    | .literal => p.expr = none ∧ p.conversion = "" ∧ p.formatSpec = ""
    | .expr => p.expr.isSome ∧ p.text = ""

/-- The parts of a formatted string that are shown are read back. -/
lemma gives_parts {ps : List (FormatPart Expr)}
    (hcount : b.field? "item_count" = some (.int ps.length))
    (hps : ∀ j (hj : j < ps.length), ShowsPart b kids j ps[j]) :
    Gives (parts id b (slotsOf kids)) fun ps' =>
      List.Forall₂ (Alike FormatPart.toDatum) ps' ps := by
  unfold parts
  refine (gives_countIn hcount).bind ?_
  rintro _ rfl
  refine gives_mapM_range ps fun j hj => ?_
  obtain ⟨hkind, htext, hconv, hspec, hexpr, hwf⟩ := hps j hj
  rw [field_of_field? hkind, htext, hconv, hspec]
  refine gives_freshInfo.bind fun info _ => (gives_chosen id ps[j].kind).bind fun kind' hkind' => ?_
  subst hkind'
  generalize ps[j] = p at hexpr hwf ⊢
  obtain ⟨kind, text, e, conversion, spec, pinfo⟩ := p
  cases kind with
  | literal =>
    obtain ⟨rfl, rfl, rfl⟩ := hwf
    exact gives_pure (by simp [FormatPart.toDatum])
  | expr =>
    obtain ⟨hsome, rfl⟩ := hwf
    obtain ⟨e, rfl⟩ := Option.isSome_iff_exists.mp hsome
    refine (gives_required hexpr).bind fun e' h₁ => gives_pure ?_
    simpa [FormatPart.toDatum] using optionAlike_some h₁

/-- The block of a formatted string is read as the string. -/
lemma reads_fstring {ps : List (FormatPart Expr)} {quote : Datum} (ht : b.type = .fstring)
    (hquote : b.field? "quote" = some quote)
    (hcount : b.field? "item_count" = some (.int ps.length))
    (hps : ∀ j (hj : j < ps.length), ShowsPart b kids j ps[j]) :
    Reads (.node id b kids next) (.fstring ps quote i) := by
  refine reads_node ?_
  simp only [exprOf, ht, hquote, Option.getD_some]
  refine gives_freshInfo.bind fun info _ => (gives_parts hcount hps).bind fun ps' h =>
    gives_pure ?_
  simpa [partData_eq_map] using coreList_map_congr h

/-! ## Calls with a block of their own -/

/-- The number of arguments depends on which slots are filled, not on their order. -/
lemma arityFor_congr (builtin : BuiltinCall) {filled filled' : List String}
    (h : ∀ s, s ∈ filled ↔ s ∈ filled') : builtin.arityFor filled = builtin.arityFor filled' := by
  have hcontains : filled.contains = filled'.contains := by
    funext s
    rw [Bool.eq_iff_iff, List.contains_iff_mem, List.contains_iff_mem, h]
  rw [BuiltinCall.arityFor, BuiltinCall.arityFor, hcontains]

/-- The block of a call: it names the function, and exactly the slots for the arguments are
filled. -/
structure ShowsCall (builtin : BuiltinCall) (b : Block) (kids : String → BlockTree) (name : String)
    (args : List Expr) : Prop where
  callee : builtin.calleeOf? ((builtin.calleeField.map b.field).getD .null) = some name
  /-- The number of arguments, from the count or from the slots that are filled. -/
  arity : if builtin.stem.isSome then b.field? "item_count" = some (.int args.length)
    else builtin.arityFor (b.values.filter fun s => (kids s).isPresent) = .ok args.length
  args : List.Forall₂ (fun s e => Reads (kids s) e) ((builtin.slotsFor? args.length).getD []) args

/-- A call that is shown in a block of its own is read back. -/
lemma gives_builtinCall {builtin : BuiltinCall} {name : String} {args : List Expr} {i' : Info}
    (h : ShowsCall builtin b kids name args) :
    Gives (builtinCall builtin id b (fun s => (kids s).isPresent) (slotsOf kids))
      (Expr.Alike · (.call (.identifier (.text name) i') args [] i)) := by
  have hname : callee builtin ((builtin.calleeField.map b.field).getD .null) id = pure name := by
    rw [callee, h.callee]
  have harity : Gives (argumentCount builtin b fun s => (kids s).isPresent) (· = args.length) := by
    have hcount := h.arity
    unfold argumentCount
    cases hstem : builtin.stem.isSome with
    | true =>
      rw [hstem, if_pos rfl] at hcount
      rw [if_pos rfl]
      exact gives_countIn hcount
    | false =>
      rw [hstem, if_neg Bool.false_ne_true] at hcount
      rw [if_neg Bool.false_ne_true, hcount]
      exact gives_pure rfl
  unfold builtinCall
  simp only [hname, pure_bind]
  refine gives_freshInfo.bind fun info _ => gives_freshInfo.bind fun info' _ => harity.bind ?_
  rintro _ rfl
  refine (gives_mapM (h.args.imp fun s e he => gives_required he)).bind fun args' h₁ =>
    gives_pure ?_
  simpa [exprData_eq_map] using coreList_map_congr h₁

/-- Blocks of their own for calls as expressions are read as calls. -/
lemma exprOf_builtin {builtin : BuiltinCall} (hmem : builtin ∈ BuiltinCall.all)
    (hexpr : builtin.isStatement = false) (ht : b.type = builtin.type) (filled : String → Bool)
    (slots : Slots) : exprOf id b filled slots = builtinCall builtin id b filled slots := by
  simp only [BuiltinCall.all, List.mem_cons, List.not_mem_nil, or_false] at hmem
  rcases hmem with rfl | rfl | rfl | rfl | rfl | rfl | rfl | rfl | rfl | rfl | rfl | rfl | rfl |
    rfl | rfl
  · cases hexpr
  · cases hexpr
  all_goals
    rw [exprOf, ht]
    rfl

/-- The block of its own that a call has is read as the call. -/
lemma reads_builtin {builtin : BuiltinCall} {name : String} {args : List Expr} {i' : Info}
    (hmem : builtin ∈ BuiltinCall.all) (hexpr : builtin.isStatement = false)
    (ht : b.type = builtin.type) (h : ShowsCall builtin b kids name args) :
    Reads (.node id b kids next) (.call (.identifier (.text name) i') args [] i) := by
  refine reads_node ?_
  rw [exprOf_builtin hmem hexpr ht]
  exact gives_builtinCall h

end BlockText.Compile

import BlockText.Proofs.Compile.Statements
import BlockText.Proofs.Workspace.Measuring

/-!
# Which faults escape

Fields can hold data of any kind. Where a block cannot be read because of them, this is reported as
a structural error, with one exception: operations that exist on texts only are tried on data that
are no texts, and that fault is passed on. There are two places, the names of a declaration and the
spelling of a text, and `Block.Spoils` says when they go wrong. All other faults are contained, in
every workspace, so reading a workspace ends in a program or a structural error unless a block
spoils it (`compile_contains_faults`).
-/

namespace BlockText

open Syntax

/-- Reading the block goes wrong in a way that is not contained: the names that it declares are no
text, or it is to be spelled anew and its value is no text. -/
inductive Block.Spoils (b : Block) : Fault → Prop
  | names (ht : b.type = .globalStmt ∨ b.type = .nonlocalStmt) {d : Datum}
    (hd : (b.field? "names").getD "" = d) (htext : ¬ IsText d) :
    Spoils b (.noOperation d.typeWord "split")
  | spelling (ht : b.type = .string) (hraw : (b.field "raw").isTruthy = false) {d : Datum}
    (hd : (b.field? "value").getD "" = d) (htext : ¬ IsText d) :
    Spoils b (.noOperation d.typeWord "replace")

/-- All blocks of the tree have the property. -/
def BlockTree.All (P : BlockId → Block → Prop) : BlockTree → Prop
  | nothing => True
  | node id b slot next => P id b ∧ (∀ s, (slot s).All P) ∧ next.All P

/-- What holds of all blocks of a tree may be weakened. -/
lemma BlockTree.All.mono {P Q : BlockId → Block → Prop} (hPQ : ∀ id b, P id b → Q id b)
    {t : BlockTree} (h : t.All P) : t.All Q := by
  induction t with
  | nothing => trivial
  | node id b slot next ihslot ihnext =>
    exact ⟨hPQ id b h.1, fun s => ihslot s (h.2.1 s), ihnext h.2.2⟩

/-- The blocks of a tree are in its workspace. -/
lemma Workspace.all_treeWithin (ws : Workspace) (fuel : ℕ) (held : Option BlockId) :
    (ws.treeWithin fuel held).All fun id b => ws.block? id = some b := by
  induction fuel generalizing held with
  | zero => cases held <;> exact trivial
  | succ fuel ih =>
    cases held with
    | none => exact trivial
    | some id =>
      rw [treeWithin]
      cases hb : ws.block? id with
      | none => exact trivial
      | some b =>
        refine ⟨hb, fun s => ?_, ih _⟩
        dsimp only
        split
        · exact trivial
        · exact ih _

namespace Compile

variable {α β : Type} {P Q : Fault → Prop}

/-- If reading ends in a fault, the fault has the property. -/
def Faults (x : Compile α) (P : Fault → Prop) : Prop :=
  ∀ c f, (x.run c).1 = .error (.fault f) → P f

/-! ## Rules -/

/-- A value that is there already is no fault. -/
lemma faults_pure {a : α} : Faults (pure a) P := by
  intro c f hf
  cases hf

/-- A structural error is no fault. -/
lemma faults_reject {kind : StructuralErrorKind} {detail : String} {id : BlockId} :
    Faults (reject kind detail id : Compile α) P := by
  intro c f hf
  cases hf

/-- Nothing is read after an error. -/
lemma faults_reject_bind {kind : StructuralErrorKind} {detail : String} {id : BlockId}
    {f : β → Compile α} : Faults (reject kind detail id >>= f) P := by
  intro c fault hf
  cases hf

/-- A fault that is thrown is that fault. -/
lemma faults_throw {f : Fault} (h : P f) : Faults (throw (.fault f) : Compile α) P := by
  rintro c f' hf
  cases hf
  exact h

/-- The faults that may escape may be more. -/
lemma Faults.mono {x : Compile α} (h : Faults x P) (hPQ : ∀ f, P f → Q f) : Faults x Q :=
  fun c f hf => hPQ f (h c f hf)

/-- One reading after another. -/
lemma Faults.bind {x : Compile β} {f : β → Compile α} (h : Faults x P)
    (hf : ∀ b, Faults (f b) P) : Faults (x >>= f) P := by
  intro c fault hfault
  rw [ExceptT.run_bind] at hfault
  simp only [Bind.bind, StateT.bind] at hfault
  rcases hx : x.run c with ⟨r, c'⟩
  rw [hx] at hfault
  cases r with
  | ok b => exact hf b c' fault hfault
  | error e =>
    cases hfault
    exact h c fault (by rw [hx])

/-- A result in another form lets the same faults escape. -/
lemma Faults.map {x : Compile β} {f : β → α} (h : Faults x P) : Faults (f <$> x) P := by
  rw [map_eq_pure_bind]
  exact h.bind fun _ => faults_pure

/-- A fresh identity lets no fault escape. -/
lemma faults_freshInfo : Faults freshInfo P := by
  intro c f hf
  cases hf

/-- Reading that succeeds ends in no fault. -/
lemma Gives.faults {x : Compile α} {good : α → Prop} (h : Gives x good) : Faults x P := by
  intro c f hf
  have hc := h c
  rw [hf] at hc
  exact hc.elim

/-- A fault of a datum escapes if it is one that may. -/
lemma faults_ofFault {x : Except Fault α} (h : ∀ f, x = .error f → P f) : Faults (ofFault x) P := by
  cases x with
  | ok a => exact faults_pure
  | error f => exact faults_throw (h f rfl)

/-- Reading a list lets those faults escape that its members do. -/
lemma faults_mapM {f : β → Compile α} {bs : List β} (h : ∀ b ∈ bs, Faults (f b) P) :
    Faults (bs.mapM f) P := by
  induction bs with
  | nil => exact faults_pure
  | cons b rest ih =>
    rw [List.mapM_cons]
    exact (h b List.mem_cons_self).bind fun _ =>
      (ih fun c hc => h c (List.mem_cons_of_mem b hc)).bind fun _ => faults_pure

/-- What holds of faults that are not contained. -/
def Escaping (P : Fault → Prop) (f : Fault) : Prop := f.category = .attribute → P f

/-- Faults of fields are contained, but for operations that data do not have. -/
lemma Faults.checked {id : BlockId} {b : Block} {x : Compile α} (h : Faults x (Escaping P)) :
    Faults (checked id b x) P := by
  intro c f hf
  unfold Compile.checked at hf
  change ((ExceptT.tryCatch x _).run c).1 = _ at hf
  simp only [ExceptT.tryCatch, ExceptT.run, ExceptT.mk, Bind.bind, StateT.bind] at hf
  rcases hx : x.run c with ⟨r, c'⟩
  rw [show x c = (r, c') from hx] at hf
  cases r with
  | ok a => cases hf
  | error e =>
    cases e with
    | structural e => cases hf
    | fault f' =>
      by_cases hcategory : f'.category = .attribute
      · simp only [hcategory, beq_self_eq_true, if_true] at hf
        cases hf
        exact h c f (by rw [hx]) hcategory
      · simp only [beq_iff_eq, hcategory, if_false] at hf
        cases hf

/-! ## Fields -/

variable {id : BlockId} {b : Block}

/-- A choice lets no fault escape. -/
lemma faults_chosen [Choice α] (d : Datum) : Faults (chosen α id d) P := by
  unfold chosen
  split
  · exact faults_pure
  · exact faults_reject

/-- A datum that denotes no integer is of the wrong type or has the wrong value. -/
lemma escaping_toInteger {d : Datum} {f : Fault} (h : d.toInteger = .error f) : Escaping P f := by
  unfold Datum.toInteger at h
  split at h
  case h_4 => split at h <;> cases h; exact nofun
  case h_5 | h_6 => cases h; exact nofun
  all_goals cases h

/-- A count lets only faults escape that are none of its attributes. -/
lemma faults_countIn (b : Block) (name : String) : Faults (countIn b name) (Escaping P) :=
  (faults_ofFault fun _ => escaping_toInteger).bind fun _ => faults_pure

/-- Only texts can be spelled. -/
lemma spelled_cases (d quote : Datum) :
    (IsText d ∧ ∃ t, IsText t ∧ Render.spelled d quote = .ok t) ∨ ¬ IsText d ∧
      Render.spelled d quote = .error (.fault (.noOperation d.typeWord "replace")) := by
  by_cases htext : IsText d
  · obtain ⟨ps, rfl⟩ := htext
    exact .inl ⟨⟨ps, rfl⟩, _, ⟨_, rfl⟩, spelled_ofPoints ps quote⟩
  · refine .inr ⟨htext, ?_⟩
    cases d with
    | text s => exact absurd (isText_text s) htext
    | surrogates t => exact absurd ⟨_, (Datum.ofPoints_surrogates t).symm⟩ htext
    | _ => rfl

/-- A text that is to be spelled anew can be spelled if it is a text. -/
lemma faults_textLiteral (ht : b.type = .string) (hspoils : ∀ f, b.Spoils f → P f) :
    Faults (textLiteral b) (Escaping P) := by
  unfold textLiteral
  extract_lets raw
  cases hraw : raw.isTruthy with
  | true => exact faults_pure
  | false =>
    rcases spelled_cases ((b.field? "value").getD "") ((b.field? "quote").getD "\"") with
      ⟨-, t, -, hs⟩ | ⟨htext, hs⟩
    · simp only [hs]
      exact faults_pure
    · simp only [hs]
      exact faults_throw fun _ => hspoils _ (.spelling ht hraw rfl htext)

/-- The names in a text can be told apart if it is a text. -/
lemma faults_declaredNames (ht : b.type = .globalStmt ∨ b.type = .nonlocalStmt)
    (hspoils : ∀ f, b.Spoils f → P f) : Faults (declaredNames b) (Escaping P) := by
  refine (faults_ofFault fun f hf _ => ?_).bind fun _ => faults_pure
  unfold Datum.textFor at hf
  split at hf
  · cases hf
  · cases hf
    exact hspoils _ (.names ht rfl fun htext => by simp_all [← Datum.isSome_points?, IsText])

/-! ## Slots -/

/-- What stands in for a missing expression lets no fault escape. -/
lemma faults_placeholder : Faults placeholder P := faults_freshInfo.bind fun _ => faults_pure

section Slots

variable {slots : Slots} (h : ∀ s, Faults (slots s) (Escaping P))

include h

/-- What a slot must hold lets only the faults of the slot escape. -/
lemma faults_required (s : String) : Faults (required slots s) (Escaping P) := by
  refine (h s).bind fun o => ?_
  cases o with
  | none => exact faults_placeholder
  | some e => exact faults_pure

/-- What numbered slots must hold lets only the faults of the slots escape. -/
lemma faults_requiredAll (stem : String) (n : ℕ) :
    Faults (requiredAll slots stem n) (Escaping P) :=
  faults_mapM fun s _ => faults_required h s

/-- Parameters let only the faults of the slots escape. -/
lemma faults_params (b : Block) (hints : Bool) : Faults (params id b slots hints) (Escaping P) := by
  have hhint : ∀ i, Faults (hintAt slots hints i) (Escaping P) := by
    intro i
    unfold hintAt
    split
    · exact h _
    · exact faults_pure
  exact (faults_countIn b _).bind fun _ => faults_mapM fun i _ => faults_freshInfo.bind fun _ =>
    (hhint i).bind fun _ => (h _).bind fun _ => (faults_chosen _).bind fun _ => faults_pure

/-- Keyword arguments let only the faults of the slots escape. -/
lemma faults_keywords (b : Block) : Faults (keywords b slots) (Escaping P) :=
  (faults_countIn b _).bind fun _ => faults_mapM fun _ _ => faults_freshInfo.bind fun _ =>
    (faults_required h _).bind fun _ => faults_pure

/-- Entries of a dictionary let only the faults of the slots escape. -/
lemma faults_entries (b : Block) : Faults (entries b slots) (Escaping P) :=
  (faults_countIn b _).bind fun _ => faults_mapM fun _ _ => faults_freshInfo.bind fun _ =>
    (h _).bind fun _ => (faults_required h _).bind fun _ => faults_pure

/-- Comprehension clauses let only the faults of the slots escape. -/
lemma faults_clauses (b : Block) : Faults (clauses b slots) (Escaping P) :=
  (faults_countIn b _).bind fun _ => faults_mapM fun _ _ => faults_freshInfo.bind fun _ =>
    (faults_countIn b _).bind fun _ => (faults_requiredAll h _ _).bind fun _ =>
    (faults_required h _).bind fun _ => (faults_required h _).bind fun _ => faults_pure

/-- The key of a comprehension lets only the faults of the slots escape. -/
lemma faults_keyOf (kind : ComprehensionKind) : Faults (keyOf slots kind) (Escaping P) := by
  unfold keyOf
  split
  · exact (faults_required h _).map
  · exact faults_pure

/-- The parts of a formatted string let only the faults of the slots escape. -/
lemma faults_parts (b : Block) : Faults (parts id b slots) (Escaping P) := by
  refine (faults_countIn b _).bind fun _ => faults_mapM fun _ _ => faults_freshInfo.bind fun _ =>
    (faults_chosen _).bind fun kind => ?_
  cases kind with
  | literal => exact faults_pure
  | expr => exact (faults_required h _).bind fun _ => faults_pure

/-- The contexts of a statement let only the faults of the slots escape. -/
lemma faults_contexts (b : Block) : Faults (contexts slots b) (Escaping P) :=
  (faults_countIn b _).bind fun _ => faults_mapM fun _ _ => faults_freshInfo.bind fun _ =>
    (faults_required h _).bind fun _ => faults_pure

/-- A call with a block of its own lets only the faults of the slots escape. -/
lemma faults_builtinCall (builtin : BuiltinCall) (b : Block) (filled : String → Bool) :
    Faults (builtinCall builtin id b filled slots) (Escaping P) := by
  have hcallee : ∀ d, Faults (callee builtin d id) (Escaping P) := by
    intro d
    unfold callee
    split
    · exact faults_pure
    · exact faults_reject
  have hcount : Faults (argumentCount builtin b filled) (Escaping P) := by
    unfold argumentCount
    split
    · exact faults_countIn b _
    · refine faults_ofFault fun f hf => ?_
      unfold BuiltinCall.arityFor at hf
      split at hf <;> cases hf
      exact nofun
  exact faults_freshInfo.bind fun _ => (hcallee _).bind fun _ => faults_freshInfo.bind fun _ =>
    hcount.bind fun _ => (faults_mapM fun s _ => faults_required h s).bind fun _ => faults_pure

/-! ## Expressions -/

/-- The faults of a block for an expression that escape are those that it spoils. -/
lemma faults_exprOf (hspoils : ∀ f, b.Spoils f → P f) (filled : String → Bool) :
    Faults (exprOf id b filled slots) (Escaping P) := by
  have hslot := faults_required h
  have hslots := faults_requiredAll h
  unfold exprOf
  cases ht : b.type with
  | identifier | number | bool | none => exact faults_freshInfo.bind fun _ => faults_pure
  | string =>
    exact (faults_textLiteral ht hspoils).bind fun _ => faults_freshInfo.bind fun _ => faults_pure
  | binary =>
    exact faults_freshInfo.bind fun _ => (hslot _).bind fun _ => (faults_chosen _).bind fun _ =>
      (hslot _).bind fun _ => faults_pure
  | unary =>
    exact faults_freshInfo.bind fun _ => (faults_chosen _).bind fun _ => (hslot _).bind fun _ =>
      faults_pure
  | boolOp =>
    exact faults_freshInfo.bind fun _ => (faults_countIn b _).bind fun _ => (hslots _ _).bind
      fun _ => (faults_chosen _).bind fun _ => faults_pure
  | compare =>
    exact faults_freshInfo.bind fun _ => (hslot _).bind fun _ => (faults_countIn b _).bind fun _ =>
      (faults_mapM fun _ _ => faults_chosen _).bind fun _ => (hslots _ _).bind fun _ => faults_pure
  | conditional =>
    exact faults_freshInfo.bind fun _ => (hslot _).bind fun _ => (hslot _).bind fun _ =>
      (hslot _).bind fun _ => faults_pure
  | lambda =>
    exact faults_freshInfo.bind fun _ => (faults_params h b _).bind fun _ => (hslot _).bind
      fun _ => faults_pure
  | call =>
    exact faults_freshInfo.bind fun _ => (hslot _).bind fun _ => (faults_countIn b _).bind fun _ =>
      (hslots _ _).bind fun _ => (faults_keywords h b).bind fun _ => faults_pure
  | tuple | list | set =>
    exact (faults_countIn b _).bind fun _ => (hslots _ _).bind fun _ => faults_freshInfo.bind
      fun _ => faults_pure
  | dict => exact faults_freshInfo.bind fun _ => (faults_entries h b).bind fun _ => faults_pure
  | member | walrus => exact faults_freshInfo.bind fun _ => (hslot _).bind fun _ => faults_pure
  | subscript =>
    exact faults_freshInfo.bind fun _ => (hslot _).bind fun _ => (hslot _).bind fun _ =>
      faults_pure
  | slice =>
    exact faults_freshInfo.bind fun _ => (h _).bind fun _ => (h _).bind fun _ => (h _).bind
      fun _ => faults_pure
  | grouped | yieldFrom | await =>
    exact (hslot _).bind fun _ => faults_freshInfo.bind fun _ => faults_pure
  | comprehension =>
    exact faults_freshInfo.bind fun _ => (faults_chosen _).bind fun kind => (hslot _).bind fun _ =>
      (faults_keyOf h kind).bind fun _ => (faults_clauses h b).bind fun _ => faults_pure
  | fstring => exact faults_freshInfo.bind fun _ => (faults_parts h b).bind fun _ => faults_pure
  | yield => exact (h _).bind fun _ => faults_freshInfo.bind fun _ => faults_pure
  | random | round | range | len | input | typeConvert | enumerate | zip | sorted | reversed |
    mathFunc | isInstance | typeCheck | printStmt | waitStmt => exact faults_builtinCall h _ b filled
  | _ => exact faults_reject

end Slots

/-! ## Statements -/

/-- Imported names let only the faults of their block escape. -/
lemma faults_importedNames (b : Block) : Faults (importedNames b) (Escaping P) :=
  (faults_countIn b _).bind fun _ => faults_mapM fun _ _ => faults_freshInfo.bind fun _ =>
    faults_pure

section Bodies

variable {slots : Slots} {bodies : Bodies} {cases : ℤ → Compile (List (MatchCase Stmt))}
  (h : ∀ s, Faults (slots s) (Escaping P))
  (hbodies : ∀ s level, Faults (bodies s level) (Escaping P))

include hbodies

/-- A body that may be there lets only the faults of the body escape. -/
lemma faults_optionalBody (filled : String → Bool) (depth : ℤ) (b : Block) (flag slot : String) :
    Faults (optionalBody filled bodies depth b flag slot) (Escaping P) := by
  unfold optionalBody
  split
  · exact faults_pure
  · exact (hbodies _ _).map

include h

/-- Handlers let only the faults of slots and bodies escape. -/
lemma faults_handlers (depth : ℤ) (b : Block) :
    Faults (handlers slots bodies depth b) (Escaping P) :=
  (faults_countIn b _).bind fun _ => faults_mapM fun _ _ => faults_freshInfo.bind fun _ =>
    (h _).bind fun _ => (hbodies _ _).bind fun _ => faults_pure

/-- The faults of a statement block that escape are those that it spoils. -/
lemma faults_stmtOf (hcases : ∀ depth, Faults (cases depth) (Escaping P))
    (hspoils : ∀ f, b.Spoils f → P f) (filled : String → Bool) (depth : ℤ) :
    Faults (stmtOf id b filled slots bodies cases depth) (Escaping P) := by
  have hslot := faults_required h
  have hslots := faults_requiredAll h
  have hoptional := faults_optionalBody hbodies filled depth b
  unfold stmtOf
  cases ht : b.type with
  | whileStmt =>
    exact faults_freshInfo.bind fun _ => (hslot _).bind fun _ => (hbodies _ _).bind fun _ =>
      (hoptional _ _).bind fun _ => faults_pure
  | forStmt =>
    exact faults_freshInfo.bind fun _ => (hslot _).bind fun _ => (hslot _).bind fun _ =>
      (hbodies _ _).bind fun _ => (hoptional _ _).bind fun _ => faults_pure
  | matchStmt =>
    refine faults_freshInfo.bind fun _ => (hslot _).bind fun _ => ?_
    dsimp only
    split
    · exact faults_reject_bind
    · exact (hcases _).bind fun _ => faults_pure
  | functionDef =>
    exact faults_freshInfo.bind fun _ => (faults_params h b _).bind fun _ =>
      (hbodies _ _).bind fun _ => (faults_countIn b _).bind fun _ => (hslots _ _).bind fun _ =>
      (h _).bind fun _ => faults_pure
  | classDef =>
    exact faults_freshInfo.bind fun _ => (faults_countIn b _).bind fun _ => (hslots _ _).bind
      fun _ => (hbodies _ _).bind fun _ => (faults_countIn b _).bind fun _ =>
      (hslots _ _).bind fun _ => faults_pure
  | varSet =>
    exact faults_freshInfo.bind fun _ => faults_freshInfo.bind fun _ => (hslot _).bind fun _ =>
      faults_pure
  | assign =>
    exact faults_freshInfo.bind fun _ => (faults_countIn b _).bind fun _ => (hslots _ _).bind
      fun _ => (hslot _).bind fun _ => faults_pure
  | annAssign =>
    exact faults_freshInfo.bind fun _ => (hslot _).bind fun _ => (hslot _).bind fun _ =>
      (h _).bind fun _ => faults_pure
  | augAssign =>
    exact faults_freshInfo.bind fun _ => (hslot _).bind fun _ => (faults_chosen _).bind fun _ =>
      (hslot _).bind fun _ => faults_pure
  | exprStmt => exact (hslot _).bind fun _ => faults_freshInfo.bind fun _ => faults_pure
  | passStmt | breakStmt | continueStmt => exact faults_freshInfo.bind fun _ => faults_pure
  | returnStmt => exact (h _).bind fun _ => faults_freshInfo.bind fun _ => faults_pure
  | importStmt =>
    exact faults_freshInfo.bind fun _ => (faults_importedNames b).bind fun _ => faults_pure
  | tryStmt =>
    exact faults_freshInfo.bind fun _ => (hbodies _ _).bind fun _ =>
      (faults_handlers h hbodies depth b).bind fun _ => (hoptional _ _).bind fun _ =>
      (hoptional _ _).bind fun _ => faults_pure
  | withStmt =>
    exact faults_freshInfo.bind fun _ => (faults_contexts h b).bind fun _ =>
      (hbodies _ _).bind fun _ => faults_pure
  | assertStmt =>
    exact faults_freshInfo.bind fun _ => (hslot _).bind fun _ => (h _).bind fun _ => faults_pure
  | raiseStmt =>
    exact faults_freshInfo.bind fun _ => (h _).bind fun _ => (h _).bind fun _ => faults_pure
  | deleteStmt =>
    exact faults_freshInfo.bind fun _ => (faults_countIn b _).bind fun _ => (hslots _ _).bind
      fun _ => faults_pure
  | globalStmt =>
    exact (faults_declaredNames (.inl ht) hspoils).bind fun _ => faults_freshInfo.bind fun _ =>
      faults_pure
  | nonlocalStmt =>
    exact (faults_declaredNames (.inr ht) hspoils).bind fun _ => faults_freshInfo.bind fun _ =>
      faults_pure
  | printStmt | waitStmt =>
    exact faults_freshInfo.bind fun _ => (faults_builtinCall h _ b filled).bind fun _ => faults_pure
  | _ => exact faults_reject

end Bodies

/-! ## Trees -/

/-- The faults of all blocks of a tree have the property. -/
def Covered (P : Fault → Prop) (t : BlockTree) : Prop := t.All fun _ b => ∀ f, b.Spoils f → P f

/-- An expression lets only those faults escape that its blocks cover. -/
lemma faults_expr {t : BlockTree} (h : Covered P t) : Faults (expr t) P := by
  induction t with
  | nothing => exact faults_placeholder
  | node id b slot next ihslot ihnext =>
    obtain ⟨hspoils, hslots, -⟩ := h
    rw [expr]
    refine (faults_exprOf (fun s => ?_) hspoils _).checked
    split
    · exact (ihslot s (hslots s)).map.mono fun _ hP _ => hP
    · exact faults_pure

/-- An expression that may be there lets only those faults escape that its blocks cover. -/
lemma faults_optional {t : BlockTree} (h : Covered P t) : Faults (optional t) P := by
  unfold optional
  split
  · exact (faults_expr h).map
  · exact faults_pure

/-- A pattern lets only those faults escape that its blocks cover. -/
lemma faults_pattern {t : BlockTree} (h : Covered P t) : Faults (pattern t) P := by
  unfold pattern
  cases t with
  | nothing => exact faults_freshInfo.bind fun _ => faults_pure
  | node id b slot next =>
    dsimp only
    split
    · split <;> exact faults_freshInfo.bind fun _ => faults_pure
    all_goals first
      | exact faults_reject
      | exact faults_freshInfo.bind fun _ => (faults_expr h).bind fun _ => faults_pure

/-- Statements and cases, in one induction on the tree. -/
lemma faults_chain {t : BlockTree} (h : Covered P t) :
    (∀ depth current, Faults (statements t depth current) P) ∧
      ∀ depth, Faults (cases t depth) P := by
  induction t with
  | nothing => exact ⟨fun _ _ => faults_pure, fun _ => faults_pure⟩
  | node id b slot next ihslot ihnext =>
    obtain ⟨hspoils, hslots, hnext⟩ := h
    obtain ⟨hstatements, hcases⟩ := ihnext hnext
    have hslot : ∀ s, Faults (optional (slot s)) P := fun s => faults_optional (hslots s)
    have hrequired : ∀ s, Faults (required (fun s => optional (slot s)) s) P := by
      intro s
      refine (hslot s).bind fun o => ?_
      cases o with
      | none => exact faults_placeholder
      | some e => exact faults_pure
    have hbody : ∀ s level, Faults (do return (⟨← statements (slot s) level none, level⟩ :
        Suite Stmt)) P := fun s level => ((ihslot s (hslots s)).1 level none).bind fun _ =>
      faults_pure
    refine ⟨fun depth current => ?_, fun depth => ?_⟩
    · unfold statements
      dsimp only
      split
      · exact faults_freshInfo.bind fun _ => (hrequired _).bind fun _ => (hbody _ _).bind fun _ =>
          (hstatements _ _).bind fun _ => faults_pure
      · exact faults_freshInfo.bind fun _ => (hrequired _).bind fun _ => (hbody _ _).bind fun _ =>
          hstatements _ _
      · exact (hbody _ _).bind fun _ => (hstatements _ _).bind fun _ => faults_pure
      · exact faults_reject
      · exact faults_reject
      · exact faults_reject
      · refine (faults_stmtOf (fun s => (hslot s).mono fun _ hP _ => hP)
          (fun s level => (hbody s level).mono fun _ hP _ => hP)
          (fun level => ((ihslot "CASES" (hslots _)).2 level).mono fun _ hP _ => hP)
          hspoils _ _).checked.bind fun _ => (hstatements _ _).bind fun _ => faults_pure
    · unfold cases
      have hcase : Faults (do
          let info ← freshInfo
          let p ← pattern (slot "PATTERN")
          let body ← statements (slot "BODY") (depth + 2) none
          return (⟨p, ⟨body, depth + 2⟩, info⟩ : MatchCase Stmt) :: (← cases next depth)) P :=
        faults_freshInfo.bind fun _ => (faults_pattern (hslots _)).bind fun _ =>
          ((ihslot "BODY" (hslots _)).1 _ _).bind fun _ => (hcases _).bind fun _ => faults_pure
      split
      · exact faults_reject_bind
      · exact hcase

end Compile

namespace Workspace

open Compile

/-- Faults that escape come from blocks of the workspace. -/
lemma faults_program (ws : Workspace) (indentWidth : ℤ) :
    Faults (program ws indentWidth) fun f => ∃ id b, ws.block? id = some b ∧ b.Spoils f := by
  set P : Fault → Prop := fun f => ∃ id b, ws.block? id = some b ∧ b.Spoils f with hP
  have htree : ∀ o, Faults (statements (ws.tree o) 0 none) P := fun o =>
    (faults_chain (.mono (fun id b hb f hf => ⟨id, b, hb, hf⟩) (ws.all_treeWithin _ o))).1 0 none
  have htop : Faults (topStatements ws) P := by
    unfold topStatements
    match ws.ofType .syncError with
    | _ :: _ => exact faults_reject_bind
    | [] =>
      dsimp only
      match ws.ofType .start with
      | _ :: _ :: _ => exact faults_reject
      | [entry] =>
        match looseStatements ws with
        | _ :: _ => exact faults_reject_bind
        | [] => exact htree _
      | [] => exact (faults_mapM fun _ _ => htree _).bind fun _ => faults_pure
  exact htop.bind fun ss => (gives_spaced none ss).faults.bind fun _ => faults_freshInfo.bind
    fun _ => faults_pure

/-- Reading a workspace ends in a program or a structural error, unless a block of the workspace
spoils it. -/
theorem compile_contains_faults (ws : Workspace) (counter : IdCounter) (indentWidth : ℤ) :
    (∃ p, (ws.compile counter indentWidth).1 = .ok p) ∨
      (∃ e, (ws.compile counter indentWidth).1 = .error (.structural e)) ∨
      ∃ f id b, (ws.compile counter indentWidth).1 = .error (.fault f) ∧
        ws.block? id = some b ∧ b.Spoils f := by
  cases hr : (ws.compile counter indentWidth).1 with
  | ok p => exact .inl ⟨p, rfl⟩
  | error e =>
    cases e with
    | structural e => exact .inr (.inl ⟨e, rfl⟩)
    | fault f =>
      obtain ⟨id, b, hb, hf⟩ := ws.faults_program indentWidth counter f hr
      exact .inr (.inr ⟨f, id, b, rfl, hb, hf⟩)

end Workspace

/-! ## Blocks that are spoiled -/

namespace Compile

variable {α β : Type} {b : Block} {f : Fault}

/-- A fault for an operation that data do not have is passed on, and nothing is read after it. -/
lemma run_checked_throw_bind (hf : f.category = .attribute) (id : BlockId) (b : Block)
    (g : β → Compile α) (c : IdCounter) :
    ((checked id b (throw (.fault f) >>= g)).run c).1 = .error (.fault f) := by
  have hpassed : checked id b (throw (.fault f) >>= g) = throw (CompileError.fault f) := by
    unfold checked
    change (if f.category == .attribute then (throw (.fault f) : Compile α) else _) = _
    rw [if_pos (by simpa using hf)]
  rw [hpassed]
  rfl

/-- A text block that is spoiled cannot be read, whatever its slots hold. -/
theorem run_exprOf_of_spoils (h : b.Spoils f) (ht : b.type = .string) (id : BlockId)
    (filled : String → Bool) (slots : Slots) (c : IdCounter) :
    ((checked id b (exprOf id b filled slots)).run c).1 = .error (.fault f) := by
  cases h with
  | names hnames => simp [ht] at hnames
  | spelling _ hraw hd htext =>
    subst hd
    have hspell : textLiteral b = throw (.fault (.noOperation ((b.field? "value").getD "").typeWord
        "replace")) := by
      unfold textLiteral
      rcases spelled_cases ((b.field? "value").getD "") ((b.field? "quote").getD "\"") with
        ⟨hd, -⟩ | ⟨-, hs⟩
      · exact absurd hd htext
      · simp [hraw, hs]
    unfold exprOf
    simp only [ht, hspell]
    exact run_checked_throw_bind rfl id b _ c

/-- A declaration that is spoiled cannot be read. -/
theorem run_stmtOf_of_spoils (h : b.Spoils f) (ht : b.type ≠ .string) (id : BlockId)
    (filled : String → Bool) (slots : Slots) (bodies : Bodies)
    (cases : ℤ → Compile (List (MatchCase Stmt))) (depth : ℤ) (c : IdCounter) :
    ((checked id b (stmtOf id b filled slots bodies cases depth)).run c).1 = .error (.fault f) := by
  cases h with
  | spelling hstring => exact absurd hstring ht
  | names hnames hd htext =>
    subst hd
    have hfault : ((b.field? "names").getD "").textFor "split" =
        .error (.noOperation ((b.field? "names").getD "").typeWord "split") := by
      unfold Datum.textFor
      split
      case h_1 ps hps => exact absurd ⟨ps, (Datum.points?_eq_some ps).mp hps⟩ htext
      · rfl
    have hdeclared : declaredNames b = throw (.fault (.noOperation
        ((b.field? "names").getD "").typeWord "split")) := by
      unfold declaredNames
      rw [hfault]
      rfl
    unfold stmtOf
    rcases hnames with ht | ht
    · simp only [ht, hdeclared]
      exact run_checked_throw_bind rfl id b _ c
    · simp only [ht, hdeclared]
      exact run_checked_throw_bind rfl id b _ c

end Compile

namespace Workspace

/-- A declaration whose names are a number. -/
def numberedNames : Workspace :=
  Operation.applyAll {} [.create "global_stmt" none {}, .setField "n1" "names" (.int 1)]

/-- The names of a declaration can be set to a number, and then reading ends in neither a program
nor a structural error. -/
theorem fault_escapes_numberedNames : numberedNames.Reachable ∧
    ∃ f, (numberedNames.compile {} 4).1 = .error (.fault f) ∧
      f.message = "'int' object has no attribute 'split'" := by
  have hescapes : (match (numberedNames.compile {} 4).1 with
      | .error (.fault f) => f.message == "'int' object has no attribute 'split'"
      | _ => false) = true := by decide +kernel
  refine ⟨⟨false, 0, _, rfl⟩, ?_⟩
  split at hescapes
  · exact ⟨_, ‹_›, by simpa using hescapes⟩
  · cases hescapes

end Workspace

end BlockText

import BlockText.Proofs.Compile.Containment
import BlockText.Proofs.Datum.Identities

/-!
# Identities of compiled programs

Every node that is read off a block gets the next identity, and so does every node that stands for
something missing. `Compile.Numbers` follows the counter through a reading: it never goes back, also
when reading fails, and the nodes of the result have the identities that were handed out in between,
each of them once. So the nodes of a compiled program have distinct identities, which come after all
that the counter has seen.
-/

namespace BlockText

open Syntax

/-- The fields of the block hold no nodes. -/
def Block.Plain (b : Block) : Prop := ∀ name d, b.field? name = some d → d.nodesIn = []

namespace Block.Plain

variable {b : Block} (h : b.Plain)

include h

/-- A field of a plain block, or what stands in for it, holds no nodes. -/
lemma getD (name : String) {d : Datum} (hd : d.nodesIn = []) :
    ((b.field? name).getD d).nodesIn = [] := by
  cases hf : b.field? name with
  | none => exact hd
  | some d' => exact h name d' hf

/-- A field of a plain block holds no nodes. -/
lemma field (name : String) : (b.field name).nodesIn = [] := h.getD name rfl

/-- A field of a plain block, or what stands in for an empty one, holds no nodes. -/
lemma orElse (name : String) {d : Datum} (hd : d.nodesIn = []) :
    ((b.field name).orElse d).nodesIn = [] := by
  unfold Datum.orElse
  split
  · exact hd
  · exact h.field name

end Block.Plain

namespace Compile

open Datum

variable {α β : Type}

/-- The counter does not go back, and if reading succeeds, the result and the identities that were
handed out on the way have a property. -/
def Numbers (x : Compile α) (good : α → Multiset ℤ → Prop) : Prop :=
  ∀ c, c.last ≤ (x.run c).2.last ∧
    ∀ a, (x.run c).1 = .ok a → good a (handedOut c.last (x.run c).2.last)

/-- No identity is handed out, and a result has a property. -/
def Quiet (x : Compile α) (good : α → Prop) : Prop := Numbers x fun a ids => ids = 0 ∧ good a

variable {good : α → Multiset ℤ → Prop}

/-! ## Rules -/

/-- A value that is there already uses no identities. -/
lemma numbers_pure {a : α} (h : good a 0) : Numbers (pure a) good := by
  intro c
  refine ⟨le_rfl, ?_⟩
  rintro _ ⟨⟩
  change good a (handedOut c.last c.last)
  rwa [handedOut_self]

/-- A failure uses no identities. -/
lemma numbers_throw {e : CompileError} : Numbers (throw e : Compile α) good :=
  fun _ => ⟨le_rfl, nofun⟩

/-- A structural error uses no identities. -/
lemma numbers_reject {kind : StructuralErrorKind} {detail : String} {id : BlockId} :
    Numbers (reject kind detail id : Compile α) good := numbers_throw

/-- Nothing is read after an error. -/
lemma numbers_reject_bind {kind : StructuralErrorKind} {detail : String} {id : BlockId}
    {f : β → Compile α} : Numbers (reject kind detail id >>= f) good :=
  fun _ => ⟨le_rfl, nofun⟩

/-- What is known of a result and of its identities may be weakened. -/
lemma Numbers.mono {x : Compile α} {good' : α → Multiset ℤ → Prop} (h : Numbers x good)
    (himp : ∀ a ids, good a ids → good' a ids) : Numbers x good' :=
  fun c => ⟨(h c).1, fun a ha => himp a _ ((h c).2 a ha)⟩

/-- One reading after another: the second one hands out identities after those of the first. -/
lemma Numbers.bind {x : Compile β} {f : β → Compile α} {mid : β → Multiset ℤ → Prop}
    (h : Numbers x mid) (hf : ∀ b ids, mid b ids → Numbers (f b) fun a more => good a (ids + more)) :
    Numbers (x >>= f) good := by
  intro c
  obtain ⟨hle, hmid⟩ := h c
  rw [ExceptT.run_bind]
  simp only [Bind.bind, StateT.bind]
  rcases hx : x.run c with ⟨r, c'⟩
  rw [hx] at hle hmid
  cases r with
  | error e => exact ⟨hle, nofun⟩
  | ok b =>
    obtain ⟨hle', hgood⟩ := hf b _ (hmid b rfl) c'
    refine ⟨hle.trans hle', fun a ha => ?_⟩
    rw [← handedOut_add hle hle']
    exact hgood a ha

/-- A reading that hands out nothing comes first. -/
lemma Quiet.bind {x : Compile β} {f : β → Compile α} {mid : β → Prop} (h : Quiet x mid)
    (hf : ∀ b, mid b → Numbers (f b) good) : Numbers (x >>= f) good := by
  refine Numbers.bind h fun b ids hb => ?_
  obtain ⟨rfl, hmid⟩ := hb
  simp only [zero_add]
  exact hf b hmid

/-- A result may be brought into another form, with the same identities. -/
lemma Numbers.map {x : Compile β} {f : β → α} (h : Numbers x fun b => good (f b)) :
    Numbers (f <$> x) good := by
  rw [map_eq_pure_bind]
  refine h.bind fun b ids hb => numbers_pure ?_
  rwa [add_zero]

/-- A fresh identity is handed out, and reading goes on. -/
lemma numbers_fresh_bind {f : Info → Compile α}
    (hf : ∀ info, Numbers (f info) fun a more => good a ({info.id} + more)) :
    Numbers (freshInfo >>= f) good := by
  have hfresh : Numbers freshInfo fun info ids => ids = {info.id} := by
    intro c
    refine ⟨(lt_add_one c.last).le, ?_⟩
    rintro _ ⟨⟩
    exact handedOut_succ c.last
  refine hfresh.bind fun info ids hids => ?_
  rw [hids]
  exact hf info

/-- Reporting faults of fields in other words does not change what is handed out. -/
lemma Numbers.checked {id : BlockId} {b : Block} {x : Compile α} (h : Numbers x good) :
    Numbers (checked id b x) good := by
  intro c
  have hc := h c
  unfold Compile.checked
  change c.last ≤ ((ExceptT.tryCatch x _).run c).2.last ∧
    ∀ a, ((ExceptT.tryCatch x _).run c).1 = .ok a →
      good a (handedOut c.last ((ExceptT.tryCatch x _).run c).2.last)
  simp only [ExceptT.tryCatch, ExceptT.run, ExceptT.mk, Bind.bind, StateT.bind]
  rcases hx : x.run c with ⟨r, c'⟩
  rw [hx] at hc
  rw [show x c = (r, c') from hx]
  cases r with
  | ok a => exact hc
  | error e =>
    cases e with
    | structural e => exact ⟨hc.1, nofun⟩
    | fault f =>
      dsimp only
      cases f.category == .attribute with
      | true => exact ⟨hc.1, nofun⟩
      | false => exact ⟨hc.1, nofun⟩

/-- Reading items one after another, where the identities of a list are those of its members. -/
lemma Numbers.mapM {f : β → Compile α} {one : α → Multiset ℤ → Prop}
    {all : List α → Multiset ℤ → Prop} (bs : List β) (h : ∀ b, Numbers (f b) one) (hnil : all [] 0)
    (hcons : ∀ a as ids more, one a ids → all as more → all (a :: as) (ids + more)) :
    Numbers (bs.mapM f) all := by
  induction bs with
  | nil => exact numbers_pure hnil
  | cons b rest ih =>
    rw [List.mapM_cons]
    refine (h b).bind fun a ids ha => ih.bind fun as more has => numbers_pure ?_
    rw [add_zero]
    exact hcons a as ids more ha has

/-- The results for the members of a list bear the identities that were used for each. -/
lemma numbers_mapM {f : β → Compile α} {document : α → Datum} (bs : List β)
    (h : ∀ b, Numbers (f b) fun a => Bears (document a)) :
    Numbers (bs.mapM f) fun as => BearsAll (as.map document) :=
  .mapM bs h .nil fun _ _ _ _ => .cons

/-! ## Fields -/

variable {id : BlockId} {b : Block}

/-- A value that is there already is read quietly. -/
lemma quiet_pure {a : α} {P : α → Prop} (h : P a) : Quiet (pure a) P := numbers_pure ⟨rfl, h⟩

/-- A fault that stops reading is quiet. -/
lemma quiet_ofFault (x : Except Fault α) : Quiet (ofFault x) fun _ => True := by
  cases x with
  | ok a => exact quiet_pure trivial
  | error f => exact numbers_throw

/-- A choice is read quietly. -/
lemma quiet_chosen [Choice α] (d : Datum) : Quiet (chosen α id d) fun _ => True := by
  unfold chosen
  split
  · exact quiet_pure trivial
  · exact numbers_reject

/-- A count is read quietly. -/
lemma quiet_countIn (b : Block) (name : String) : Quiet (countIn b name) fun _ => True :=
  (quiet_ofFault _).bind fun _ _ => quiet_pure trivial

/-- Choices are read quietly one after another. -/
lemma quiet_mapM_chosen [Choice α] (f : β → Datum) (bs : List β) :
    Quiet (bs.mapM fun x => chosen α id (f x)) fun _ => True := by
  induction bs with
  | nil => exact quiet_pure trivial
  | cons x rest ih =>
    rw [List.mapM_cons]
    exact (quiet_chosen _).bind fun _ _ => ih.bind fun _ _ => quiet_pure trivial

/-- The text of a literal is read quietly and holds no nodes. -/
lemma quiet_textLiteral (hb : b.Plain) : Quiet (textLiteral b) fun d => d.nodesIn = [] := by
  unfold textLiteral
  extract_lets raw
  split
  · exact quiet_pure (hb.field "raw")
  · rcases spelled_cases ((b.field? "value").getD "") ((b.field? "quote").getD "\"") with
      ⟨-, _, ⟨ps, rfl⟩, hs⟩ | ⟨-, hs⟩
    · simp only [hs]
      exact quiet_pure (nodesIn_ofPoints ps)
    · simp only [hs]
      exact numbers_throw

/-- Declared names are read quietly and hold no nodes. -/
lemma quiet_declaredNames (b : Block) :
    Quiet (declaredNames b) fun names => ∀ d ∈ names, d.nodesIn = [] := by
  refine (quiet_ofFault _).bind fun names _ => quiet_pure fun d hd => ?_
  obtain ⟨name, -, hname⟩ := List.mem_filterMap.mp hd
  split at hname
  · cases hname
  · cases hname
    exact nodesIn_ofPoints name

/-- The value of a number holds no nodes. -/
lemma nodesIn_numberLiteral (b : Block) : (numberLiteral b).nodesIn = [] := by
  unfold numberLiteral
  extract_lets spelling
  split
  · rfl
  · exact nodesIn_ofPoints spelling

/-! ## Slots -/

/-- What stands in for a missing expression bears the identity that was used for it. -/
lemma numbers_placeholder : Numbers placeholder fun e => Bears e.toDatum :=
  numbers_fresh_bind fun info => numbers_pure (bears_identifier rfl info)

section Slots

variable {slots : Slots} (h : ∀ s, Numbers (slots s) fun o => Bears (optionalDatum o))

include h

/-- What a slot must hold bears the identities that were used for it. -/
lemma numbers_required (s : String) : Numbers (required slots s) fun e => Bears e.toDatum := by
  refine (h s).bind fun o ids ho => ?_
  cases o with
  | none =>
    have hzero : ids = 0 := ho.unique (bears_zero rfl)
    rw [hzero]
    simpa only [zero_add] using numbers_placeholder
  | some e => exact numbers_pure (by rwa [add_zero])

/-- What numbered slots must hold bears the identities that were used for them. -/
lemma numbers_requiredAll (stem : String) (n : ℕ) :
    Numbers (requiredAll slots stem n) fun es => BearsAll (exprData es) := by
  simp only [exprData_eq_map]
  exact numbers_mapM _ fun s => numbers_required h s

/-- Parameters bear the identities that were used for them. -/
lemma numbers_params (hb : b.Plain) (hints : Bool) :
    Numbers (params id b slots hints) fun ps => BearsAll (paramData ps) := by
  have hhint : ∀ i, Numbers (hintAt slots hints i) fun o => Bears (optionalDatum o) := by
    intro i
    unfold hintAt
    split
    · exact h _
    · exact numbers_pure (bears_zero rfl)
  simp only [paramData_eq_map]
  refine (quiet_countIn b _).bind fun n _ => numbers_mapM _ fun i => numbers_fresh_bind fun info =>
    (hhint i).bind fun hint hs hhint => (h _).bind fun preset ps hpreset =>
    (quiet_chosen _).bind fun kind _ => numbers_pure ?_
  exact .node info rfl rfl (.cons (bears_zero (hb.getD _ rfl)) (.cons hhint (.cons hpreset
    (.cons (bears_zero rfl) .nil)))) (by abel)

/-- Keyword arguments bear the identities that were used for them. -/
lemma numbers_keywords (hb : b.Plain) :
    Numbers (keywords b slots) fun ks => BearsAll (keywordData ks) := by
  simp only [keywordData_eq_map]
  refine (quiet_countIn b _).bind fun n _ => numbers_mapM _ fun i => numbers_fresh_bind fun info =>
    (numbers_required h _).bind fun e ids he => numbers_pure ?_
  exact .node info rfl rfl (.cons (bears_zero (hb.orElse _ rfl)) (.cons he .nil)) (by abel)

/-- Entries of a dictionary bear the identities that were used for them. -/
lemma numbers_entries (b : Block) :
    Numbers (entries b slots) fun es => BearsAll (entryData es) := by
  simp only [entryData_eq_map]
  refine (quiet_countIn b _).bind fun n _ => numbers_mapM _ fun i => numbers_fresh_bind fun info =>
    (h _).bind fun key ks hkey => (numbers_required h _).bind fun e ids he => numbers_pure ?_
  exact .node info rfl rfl (.cons hkey (.cons he .nil)) (by abel)

/-- Comprehension clauses bear the identities that were used for them. -/
lemma numbers_clauses (b : Block) :
    Numbers (clauses b slots) fun cs => BearsAll (clauseData cs) := by
  simp only [clauseData_eq_map]
  refine (quiet_countIn b _).bind fun n _ => numbers_mapM _ fun i => numbers_fresh_bind fun info =>
    (quiet_countIn b _).bind fun m _ => (numbers_requiredAll h _ _).bind fun ifs is hifs =>
    (numbers_required h _).bind fun target ts htarget =>
    (numbers_required h _).bind fun iter us hiter => numbers_pure ?_
  exact .node info rfl rfl (.cons htarget (.cons hiter (.cons (.list hifs)
    (.cons (bears_zero rfl) .nil)))) (by abel)

/-- The key of a comprehension bears the identities that were used for it. -/
lemma numbers_keyOf (kind : ComprehensionKind) :
    Numbers (keyOf slots kind) fun o => Bears (optionalDatum o) := by
  unfold keyOf
  split
  · refine Numbers.map (f := some) ?_
    exact numbers_required h _
  · exact numbers_pure (bears_zero rfl)

/-- The parts of a formatted string bear the identities that were used for them. -/
lemma numbers_parts (hb : b.Plain) :
    Numbers (parts id b slots) fun ps => BearsAll (partData ps) := by
  simp only [partData_eq_map]
  refine (quiet_countIn b _).bind fun n _ => numbers_mapM _ fun i => numbers_fresh_bind fun info =>
    (quiet_chosen _).bind fun kind _ => ?_
  cases kind with
  | literal =>
    refine numbers_pure ?_
    exact .node info rfl rfl (.cons (bears_zero rfl) (.cons (bears_zero (hb.getD _ rfl))
      (.cons (bears_zero rfl) (.cons (bears_zero rfl) (.cons (bears_zero rfl) .nil))))) (by abel)
  | expr =>
    refine (numbers_required h _).bind fun e ids he => numbers_pure ?_
    exact .node info rfl rfl (.cons (bears_zero rfl) (.cons (bears_zero rfl) (.cons he
      (.cons (bears_zero (hb.getD _ rfl)) (.cons (bears_zero (hb.getD _ rfl)) .nil))))) (by abel)

/-- The contexts of a statement bear the identities that were used for them. -/
lemma numbers_contexts (hb : b.Plain) :
    Numbers (contexts slots b) fun items => BearsAll (items.map WithItem.toDatum) := by
  refine (quiet_countIn b _).bind fun n _ => numbers_mapM _ fun i => numbers_fresh_bind fun info =>
    (numbers_required h _).bind fun e ids he => numbers_pure ?_
  exact .node info rfl rfl (.cons he (.cons (bears_zero (hb.orElse _ rfl)) .nil)) (by abel)

/-- The call that a block of its own stands for bears the identities that were used for it. -/
lemma numbers_builtinCall (builtin : BuiltinCall) (b : Block) (filled : String → Bool) :
    Numbers (builtinCall builtin id b filled slots) fun e => Bears e.toDatum := by
  have hcallee : ∀ d, Quiet (callee builtin d id) fun _ => True := by
    intro d
    unfold callee
    split
    · exact quiet_pure trivial
    · exact numbers_reject
  have hcount : Quiet (argumentCount builtin b filled) fun _ => True := by
    unfold argumentCount
    split
    · exact quiet_countIn b _
    · exact quiet_ofFault _
  refine numbers_fresh_bind fun info => (hcallee _).bind fun name _ => numbers_fresh_bind fun inner =>
    hcount.bind fun n _ => (numbers_mapM _ fun s => numbers_required h s).bind fun args as hargs =>
    numbers_pure ?_
  rw [← exprData_eq_map] at hargs
  rw [Expr.toDatum]
  exact .node info rfl rfl (.cons (bears_identifier rfl inner)
    (.cons (.list hargs) (.cons (bears_zero rfl) .nil))) (by abel)

/-- The nodes of an expression have the identities that were handed out for it. -/
lemma numbers_exprOf (hb : b.Plain) (filled : String → Bool) :
    Numbers (exprOf id b filled slots) fun e => Bears e.toDatum := by
  have hslot := numbers_required h
  have hslots := numbers_requiredAll h
  unfold exprOf
  cases ht : b.type with
  | identifier =>
    exact numbers_fresh_bind fun info => numbers_pure (bears_identifier (hb.orElse _ rfl) info)
  | number =>
    exact numbers_fresh_bind fun info =>
      numbers_pure (bears_literal (nodesIn_numberLiteral b) rfl info)
  | string =>
    exact (quiet_textLiteral hb).bind fun raw hraw => numbers_fresh_bind fun info =>
      numbers_pure (bears_literal hraw (hb.getD _ rfl) info)
  | bool =>
    refine numbers_fresh_bind fun info => numbers_pure (bears_literal ?_ rfl info)
    split
    · rfl
    · rfl
  | none => exact numbers_fresh_bind fun info => numbers_pure (bears_literal rfl rfl info)
  | binary =>
    refine numbers_fresh_bind fun info => (hslot _).bind fun left ls hl => (quiet_chosen _).bind
      fun op _ => (hslot _).bind fun right rs hr => numbers_pure ?_
    rw [Expr.toDatum]
    exact .node info rfl rfl (.cons hl (.cons (bears_zero rfl) (.cons hr .nil))) (by abel)
  | unary =>
    refine numbers_fresh_bind fun info => (quiet_chosen _).bind fun op _ => (hslot _).bind
      fun e ids he => numbers_pure ?_
    rw [Expr.toDatum]
    exact .node info rfl rfl (.cons (bears_zero rfl) (.cons he .nil)) (by abel)
  | boolOp =>
    refine numbers_fresh_bind fun info => (quiet_countIn b _).bind fun n _ => (hslots _ _).bind
      fun es ids hes => (quiet_chosen _).bind fun op _ => numbers_pure ?_
    rw [Expr.toDatum]
    exact .node info rfl rfl (.cons (bears_zero rfl) (.cons (.list hes) .nil)) (by abel)
  | compare =>
    refine numbers_fresh_bind fun info => (hslot _).bind fun left ls hl => (quiet_countIn b _).bind
      fun n _ => (quiet_mapM_chosen _ _).bind fun ops _ => (hslots _ _).bind fun es ids hes =>
      numbers_pure ?_
    have hops : BearsAll (ops.map spelled) 0 := by
      refine bearsAll_zero fun d hd => ?_
      obtain ⟨op, -, rfl⟩ := List.mem_map.mp hd
      rfl
    rw [Expr.toDatum]
    exact .node info rfl rfl (.cons hl (.cons (.list hops) (.cons (.list hes) .nil))) (by abel)
  | conditional =>
    refine numbers_fresh_bind fun info => (hslot _).bind fun test ts htest => (hslot _).bind
      fun body bs hbody => (hslot _).bind fun orelse es horelse => numbers_pure ?_
    rw [Expr.toDatum]
    exact .node info rfl rfl (.cons htest (.cons hbody (.cons horelse .nil))) (by abel)
  | lambda =>
    refine numbers_fresh_bind fun info => (numbers_params h hb _).bind fun ps ids hps =>
      (hslot _).bind fun body bs hbody => numbers_pure ?_
    rw [Expr.toDatum]
    exact .node info rfl rfl (.cons (.list hps) (.cons hbody .nil)) (by abel)
  | call =>
    refine numbers_fresh_bind fun info => (hslot _).bind fun func fs hfunc => (quiet_countIn b _).bind
      fun n _ => (hslots _ _).bind fun args as hargs => (numbers_keywords h hb).bind
      fun ks ids hks => numbers_pure ?_
    rw [Expr.toDatum]
    exact .node info rfl rfl (.cons hfunc (.cons (.list hargs) (.cons (.list hks) .nil))) (by abel)
  | tuple | list | set =>
    refine (quiet_countIn b _).bind fun n _ => (hslots _ _).bind fun es ids hes =>
      numbers_fresh_bind fun info => numbers_pure ?_
    rw [Expr.toDatum]
    exact .node info rfl rfl (.cons (.list hes) .nil) (by abel)
  | dict =>
    refine numbers_fresh_bind fun info => (numbers_entries h b).bind fun es ids hes => numbers_pure ?_
    rw [Expr.toDatum]
    exact .node info rfl rfl (.cons (.list hes) .nil) (by abel)
  | member =>
    refine numbers_fresh_bind fun info => (hslot _).bind fun e ids he => numbers_pure ?_
    rw [Expr.toDatum]
    exact .node info rfl rfl (.cons he (.cons (bears_zero (hb.orElse _ rfl)) .nil)) (by abel)
  | walrus =>
    refine numbers_fresh_bind fun info => (hslot _).bind fun e ids he => numbers_pure ?_
    rw [Expr.toDatum]
    exact .node info rfl rfl (.cons (bears_zero (hb.orElse _ rfl)) (.cons he .nil)) (by abel)
  | subscript =>
    refine numbers_fresh_bind fun info => (hslot _).bind fun value vs hvalue => (hslot _).bind
      fun index is hindex => numbers_pure ?_
    rw [Expr.toDatum]
    exact .node info rfl rfl (.cons hvalue (.cons hindex .nil)) (by abel)
  | slice =>
    refine numbers_fresh_bind fun info => (h _).bind fun lower ls hlower => (h _).bind
      fun upper us hupper => (h _).bind fun step ss hstep => numbers_pure ?_
    rw [Expr.toDatum]
    exact .node info rfl rfl (.cons hlower (.cons hupper (.cons hstep .nil))) (by abel)
  | grouped | yieldFrom | await =>
    refine (hslot _).bind fun e ids he => numbers_fresh_bind fun info => numbers_pure ?_
    rw [Expr.toDatum]
    exact .node info rfl rfl (.cons he .nil) (by abel)
  | comprehension =>
    refine numbers_fresh_bind fun info => (quiet_chosen _).bind fun kind _ => (hslot _).bind
      fun element es helement => (numbers_keyOf h kind).bind fun key ks hkey =>
      (numbers_clauses h b).bind fun cs ids hcs => numbers_pure ?_
    rw [Expr.toDatum]
    exact .node info rfl rfl (.cons (bears_zero rfl) (.cons helement (.cons (.list hcs)
      (.cons hkey .nil)))) (by abel)
  | fstring =>
    refine numbers_fresh_bind fun info => (numbers_parts h hb).bind fun ps ids hps => numbers_pure ?_
    rw [Expr.toDatum]
    exact .node info rfl rfl (.cons (.list hps) (.cons (bears_zero (hb.getD _ rfl)) .nil)) (by abel)
  | yield =>
    refine (h _).bind fun e ids he => numbers_fresh_bind fun info => numbers_pure ?_
    rw [Expr.toDatum]
    exact .node info rfl rfl (.cons he .nil) (by abel)
  | random | round | range | len | input | typeConvert | enumerate | zip | sorted | reversed |
    mathFunc | isInstance | typeCheck | printStmt | waitStmt => exact numbers_builtinCall h _ b filled
  | _ => exact numbers_reject

end Slots

/-! ## Statements -/

/-- Imported names bear the identities that were used for them. -/
lemma numbers_importedNames (hb : b.Plain) :
    Numbers (importedNames b) fun names => BearsAll (names.map ImportName.toDatum) := by
  refine (quiet_countIn b _).bind fun n _ => numbers_mapM _ fun i => numbers_fresh_bind fun info =>
    numbers_pure ?_
  exact .node info rfl rfl (.cons (bears_zero (hb.getD _ rfl)) (.cons (bears_zero (hb.orElse _ rfl))
    .nil)) (by abel)

section Bodies

variable {slots : Slots} {bodies : Bodies} {cases : ℤ → Compile (List (MatchCase Stmt))}
  (h : ∀ s, Numbers (slots s) fun o => Bears (optionalDatum o))
  (hbodies : ∀ s level, Numbers (bodies s level) fun body => Bears body.toDatum)

include hbodies

/-- A body that may be there bears the identities that were used for it. -/
lemma numbers_optionalBody (filled : String → Bool) (depth : ℤ) (b : Block) (flag slot : String) :
    Numbers (optionalBody filled bodies depth b flag slot) fun o => Bears (optionalSuite o) := by
  unfold optionalBody
  split
  · exact numbers_pure bears_optionalSuite_none
  · exact Numbers.map (f := some) ((hbodies _ _).mono fun _ _ => bears_optionalSuite_some)

include h

/-- Handlers bear the identities that were used for them. -/
lemma numbers_handlers (hb : b.Plain) (depth : ℤ) :
    Numbers (handlers slots bodies depth b) fun hs => BearsAll (handlerData hs) := by
  simp only [handlerData_eq_map]
  refine (quiet_countIn b _).bind fun n _ => numbers_mapM _ fun i => numbers_fresh_bind fun info =>
    (h _).bind fun type ts htype => (hbodies _ _).bind fun body bs hbody => numbers_pure ?_
  exact .node info rfl rfl (.cons htype (.cons (bears_zero (hb.orElse _ rfl)) (.cons hbody .nil)))
    (by abel)

/-- The nodes of a statement have the identities that were handed out for it. -/
lemma numbers_stmtOf (hcases : ∀ depth, Numbers (cases depth) fun cs => BearsAll (caseData cs))
    (hb : b.Plain) (filled : String → Bool) (depth : ℤ) :
    Numbers (stmtOf id b filled slots bodies cases depth) fun s => Bears s.toDatum := by
  have hslot := numbers_required h
  have hslots := numbers_requiredAll h
  have hoptional := numbers_optionalBody hbodies filled depth b
  unfold stmtOf
  cases ht : b.type with
  | whileStmt =>
    refine numbers_fresh_bind fun info => (hslot _).bind fun test ts htest => (hbodies _ _).bind
      fun body bs hbody => (hoptional _ _).bind fun orelse es horelse => numbers_pure ?_
    rw [Stmt.toDatum]
    exact .node info rfl rfl (.cons htest (.cons hbody (.cons horelse .nil))) (by abel)
  | forStmt =>
    refine numbers_fresh_bind fun info => (hslot _).bind fun target ts htarget => (hslot _).bind
      fun iter is hiter => (hbodies _ _).bind fun body bs hbody => (hoptional _ _).bind
      fun orelse es horelse => numbers_pure ?_
    rw [Stmt.toDatum]
    exact .node info rfl rfl (.cons htarget (.cons hiter (.cons hbody (.cons horelse
      (.cons (bears_zero rfl) .nil))))) (by abel)
  | matchStmt =>
    refine numbers_fresh_bind fun info => (hslot _).bind fun subject ss hsubject => ?_
    dsimp only
    split
    · exact numbers_reject_bind
    · refine (hcases _).bind fun cs ids hcs => numbers_pure ?_
      rw [Stmt.toDatum]
      exact .node info rfl rfl (.cons hsubject (.cons (.list hcs) .nil)) (by abel)
  | functionDef =>
    refine numbers_fresh_bind fun info => (numbers_params h hb _).bind fun ps is hps =>
      (hbodies _ _).bind fun body bs hbody => (quiet_countIn b _).bind fun n _ => (hslots _ _).bind
      fun ds js hds => (h _).bind fun returns rs hreturns => numbers_pure ?_
    rw [Stmt.toDatum]
    exact .node info rfl rfl (.cons (bears_zero (hb.orElse _ rfl)) (.cons (.list hps) (.cons hbody
      (.cons (.list hds) (.cons hreturns (.cons (bears_zero rfl) .nil)))))) (by abel)
  | classDef =>
    refine numbers_fresh_bind fun info => (quiet_countIn b _).bind fun n _ => (hslots _ _).bind
      fun bases is hbases => (hbodies _ _).bind fun body bs hbody => (quiet_countIn b _).bind
      fun m _ => (hslots _ _).bind fun ds js hds => numbers_pure ?_
    rw [Stmt.toDatum]
    exact .node info rfl rfl (.cons (bears_zero (hb.orElse _ rfl)) (.cons (.list hbases)
      (.cons hbody (.cons (.list hds) .nil)))) (by abel)
  | varSet =>
    refine numbers_fresh_bind fun info => numbers_fresh_bind fun inner => (hslot _).bind
      fun value vs hvalue => numbers_pure ?_
    have htarget := bears_identifier (hb.orElse "name" (d := missingName) rfl) inner
    rw [Stmt.toDatum]
    exact .node info rfl rfl (.cons (.list (.cons htarget .nil)) (.cons hvalue .nil)) (by abel)
  | assign =>
    refine numbers_fresh_bind fun info => (quiet_countIn b _).bind fun n _ => (hslots _ _).bind
      fun targets ts htargets => (hslot _).bind fun value vs hvalue => numbers_pure ?_
    rw [Stmt.toDatum]
    exact .node info rfl rfl (.cons (.list htargets) (.cons hvalue .nil)) (by abel)
  | annAssign =>
    refine numbers_fresh_bind fun info => (hslot _).bind fun target ts htarget => (hslot _).bind
      fun hint hs hhint => (h _).bind fun value vs hvalue => numbers_pure ?_
    rw [Stmt.toDatum]
    exact .node info rfl rfl (.cons htarget (.cons hhint (.cons hvalue .nil))) (by abel)
  | augAssign =>
    refine numbers_fresh_bind fun info => (hslot _).bind fun target ts htarget =>
      (quiet_chosen _).bind fun op _ => (hslot _).bind fun value vs hvalue => numbers_pure ?_
    rw [Stmt.toDatum]
    exact .node info rfl rfl (.cons htarget (.cons (bears_zero rfl) (.cons hvalue .nil))) (by abel)
  | exprStmt =>
    refine (hslot _).bind fun e ids he => numbers_fresh_bind fun info => numbers_pure ?_
    rw [Stmt.toDatum]
    exact .node info rfl rfl (.cons he .nil) (by abel)
  | passStmt | breakStmt | continueStmt =>
    refine numbers_fresh_bind fun info => numbers_pure ?_
    rw [Stmt.toDatum]
    exact .node info rfl rfl .nil (by abel)
  | returnStmt =>
    refine (h _).bind fun e ids he => numbers_fresh_bind fun info => numbers_pure ?_
    rw [Stmt.toDatum]
    exact .node info rfl rfl (.cons he .nil) (by abel)
  | importStmt =>
    refine numbers_fresh_bind fun info => (numbers_importedNames hb).bind fun names ids hnames =>
      numbers_pure ?_
    rw [Stmt.toDatum]
    exact .node info rfl rfl (.cons (bears_zero (hb.getD _ rfl)) (.cons (.list hnames)
      (.cons (bears_zero rfl) .nil))) (by abel)
  | tryStmt =>
    refine numbers_fresh_bind fun info => (hbodies _ _).bind fun body bs hbody =>
      (numbers_handlers h hbodies hb depth).bind fun hs ids hhs => (hoptional _ _).bind
      fun orelse es horelse => (hoptional _ _).bind fun final fs hfinal => numbers_pure ?_
    rw [Stmt.toDatum]
    exact .node info rfl rfl (.cons hbody (.cons (.list hhs) (.cons horelse (.cons hfinal .nil))))
      (by abel)
  | withStmt =>
    refine numbers_fresh_bind fun info => (numbers_contexts h hb).bind fun items ids hitems =>
      (hbodies _ _).bind fun body bs hbody => numbers_pure ?_
    rw [Stmt.toDatum]
    exact .node info rfl rfl (.cons (.list hitems) (.cons hbody (.cons (bears_zero rfl) .nil)))
      (by abel)
  | assertStmt =>
    refine numbers_fresh_bind fun info => (hslot _).bind fun test ts htest => (h _).bind
      fun msg ms hmsg => numbers_pure ?_
    rw [Stmt.toDatum]
    exact .node info rfl rfl (.cons htest (.cons hmsg .nil)) (by abel)
  | raiseStmt =>
    refine numbers_fresh_bind fun info => (h _).bind fun exception es hexception => (h _).bind
      fun cause cs hcause => numbers_pure ?_
    rw [Stmt.toDatum]
    exact .node info rfl rfl (.cons hexception (.cons hcause .nil)) (by abel)
  | deleteStmt =>
    refine numbers_fresh_bind fun info => (quiet_countIn b _).bind fun n _ => (hslots _ _).bind
      fun targets ts htargets => numbers_pure ?_
    rw [Stmt.toDatum]
    exact .node info rfl rfl (.cons (.list htargets) .nil) (by abel)
  | globalStmt | nonlocalStmt =>
    refine (quiet_declaredNames b).bind fun names hnames => numbers_fresh_bind fun info =>
      numbers_pure ?_
    rw [Stmt.toDatum]
    exact .node info rfl rfl (.cons (.list (bearsAll_zero hnames)) .nil) (by abel)
  | printStmt | waitStmt =>
    refine numbers_fresh_bind fun info => (numbers_builtinCall h _ b filled).bind fun e ids he =>
      numbers_pure ?_
    rw [Stmt.toDatum]
    exact .node info rfl rfl (.cons he .nil) (by abel)
  | _ => exact numbers_reject

end Bodies

/-! ## Trees -/

/-- The fields of all blocks of the tree hold no nodes. -/
def PlainTree (t : BlockTree) : Prop := t.All fun _ b => b.Plain

variable {t : BlockTree}

/-- An expression bears the identities that were used for it. -/
lemma numbers_expr (ht : PlainTree t) : Numbers (expr t) fun e => Bears e.toDatum := by
  induction t with
  | nothing => exact numbers_placeholder
  | node id b slot next ihslot ihnext =>
    obtain ⟨hb, hslots, -⟩ := ht
    rw [expr]
    refine (numbers_exprOf (fun s => ?_) hb _).checked
    split
    · refine Numbers.map (f := some) ?_
      exact ihslot s (hslots s)
    · exact numbers_pure (bears_zero rfl)

/-- An expression that may be there bears the identities that were used for it. -/
lemma numbers_optional (ht : PlainTree t) :
    Numbers (optional t) fun o => Bears (optionalDatum o) := by
  unfold optional
  split
  · refine Numbers.map (f := some) ?_
    exact numbers_expr ht
  · exact numbers_pure (bears_zero rfl)

/-- A pattern bears the identities that were used for it. -/
lemma numbers_pattern (ht : PlainTree t) : Numbers (pattern t) fun p => Bears p.toDatum := by
  have hwildcard : ∀ info : Info, Bears (Pattern.wildcard info).toDatum {info.id} := by
    intro info
    rw [Pattern.toDatum]
    exact .node info rfl rfl .nil (by abel)
  unfold pattern
  cases t with
  | nothing => exact numbers_fresh_bind fun info => numbers_pure (hwildcard info)
  | node id b slot next =>
    have hliteral : Numbers (do
        let info ← freshInfo
        return Pattern.literal (← expr (.node id b slot next)) info) fun p => Bears p.toDatum := by
      refine numbers_fresh_bind fun info => (numbers_expr ht).bind fun e ids he => numbers_pure ?_
      rw [Pattern.toDatum]
      exact .node info rfl rfl (.cons he .nil) (by abel)
    dsimp only
    split
    · split
      · exact numbers_fresh_bind fun info => numbers_pure (hwildcard info)
      · refine numbers_fresh_bind fun info => numbers_pure ?_
        rw [Pattern.toDatum]
        exact .node info rfl rfl (.cons (bears_zero (ht.1.orElse _ rfl)) .nil) (by abel)
    · exact hliteral
    · exact hliteral
    · exact hliteral
    · exact hliteral
    · exact numbers_reject

/-! ## Chains -/

/-- The nodes of a conditional that is still open have these identities. -/
inductive Pending : Option OpenIf → Multiset ℤ → Prop
  | none : Pending none 0
  | some {o : OpenIf} {ts bs es : Multiset ℤ} (test : Bears o.test.toDatum ts)
    (body : Bears o.body.toDatum bs) (elifs : BearsAll (elifData o.elifs) es) :
    Pending (some o) ({o.info.id} + (ts + (bs + es)))

/-- A conditional statement that is closed bears its own identities and those of its last body. -/
lemma bears_close {o : OpenIf} {orelse : Option (Suite Stmt)} {ids es : Multiset ℤ}
    (h : Pending (some o) ids) (horelse : Bears (optionalSuite orelse) es) :
    Bears (o.close orelse).toDatum (ids + es) := by
  cases h with
  | some htest hbody helifs =>
    rw [OpenIf.close, Stmt.toDatum]
    exact .node o.info rfl rfl (.cons htest (.cons hbody (.cons (.list helifs)
      (.cons horelse .nil)))) (by abel)

/-- An open conditional statement is closed with the identities that it has. -/
lemma bearsAll_closing {current : Option OpenIf} {ids : Multiset ℤ} (h : Pending current ids) :
    BearsAll (stmtData (closing current)) ids := by
  cases current with
  | none =>
    cases h
    exact bearsAll_stmtData_nil
  | some o =>
    have hclosed := bearsAll_stmtData_cons (bears_close h bears_optionalSuite_none)
      bearsAll_stmtData_nil
    rwa [add_zero, add_zero] at hclosed

/-- Statements and cases, in one induction on the tree.  A chain also contains the conditional that
was open before it. -/
lemma numbers_chain (ht : PlainTree t) :
    (∀ depth current ids, Pending current ids → Numbers (statements t depth current) fun ss more =>
        BearsAll (stmtData ss) (ids + more)) ∧
      ∀ depth, Numbers (cases t depth) fun cs => BearsAll (caseData cs) := by
  induction t with
  | nothing =>
    refine ⟨fun depth current ids hcurrent => numbers_pure ?_, fun depth => numbers_pure ?_⟩
    · rw [add_zero]
      exact bearsAll_closing hcurrent
    · rw [caseData]
      exact .nil
  | node id b slot next ihslot ihnext =>
    obtain ⟨hb, hslots, hnext⟩ := ht
    obtain ⟨hstatements, hcases⟩ := ihnext hnext
    have hslot : ∀ s, Numbers (optional (slot s)) fun o => Bears (optionalDatum o) := fun s =>
      numbers_optional (hslots s)
    have hrequired := numbers_required hslot
    have hinner : ∀ s level, Numbers (statements (slot s) level none) fun ss =>
        BearsAll (stmtData ss) := by
      intro s level
      simpa only [zero_add] using (ihslot s (hslots s)).1 level none 0 .none
    have hbody : ∀ s level, Numbers (do return (⟨← statements (slot s) level none, level⟩ :
        Suite Stmt)) fun body => Bears body.toDatum := by
      intro s level
      refine (hinner s level).bind fun ss ids hss => numbers_pure ?_
      rw [add_zero]
      exact bears_suite hss
    refine ⟨fun depth current ids hcurrent => ?_, fun depth => ?_⟩
    · unfold statements
      dsimp only
      split
      · refine numbers_fresh_bind fun info => (hrequired _).bind fun test ts htest =>
          (hbody _ _).bind fun body bs hbody => ?_
        have helifs : BearsAll (elifData []) 0 := by
          rw [elifData]
          exact .nil
        refine (hstatements _ _ _ (.some htest hbody helifs)).bind fun ss more hss =>
          numbers_pure ?_
        have hall := bearsAll_stmtData_append (bearsAll_closing hcurrent) hss
        exact hall.of_eq (by abel)
      · rename_i o _
        cases hcurrent with
        | some htest' hbody' helifs' =>
          refine numbers_fresh_bind fun info => (hrequired _).bind fun test ts htest =>
            (hbody _ _).bind fun body bs hbody => ?_
          have hlast : Bears (ElifClause.toDatum ⟨test, body, info⟩) ({info.id} + (ts + bs)) :=
            .node info rfl rfl (.cons htest (.cons hbody .nil)) (by abel)
          have helifs := helifs'.append (.cons hlast .nil)
          rw [elifData_eq_map, ← List.map_singleton, ← List.map_append, ← elifData_eq_map] at helifs
          have hpending := Pending.some (o := { o with elifs := o.elifs ++ [⟨test, body, info⟩] })
            htest' hbody' helifs
          refine (hstatements _ _ _ hpending).mono fun ss more hss => ?_
          exact hss.of_eq (by abel)
      · refine (hbody _ _).bind fun body bs hbody => (hstatements _ _ _ .none).bind
          fun ss more hss => numbers_pure ?_
        have hclosed := bears_close hcurrent (bears_optionalSuite_some hbody)
        exact (bearsAll_stmtData_cons hclosed hss).of_eq (by abel)
      · exact numbers_reject
      · exact numbers_reject
      · exact numbers_reject
      · refine (numbers_stmtOf hslot hbody (fun level => (ihslot "CASES" (hslots _)).2 level) hb _
          _).checked.bind fun s is hs => (hstatements _ _ _ .none).bind fun ss more hss =>
          numbers_pure ?_
        have hall := bearsAll_stmtData_append (bearsAll_closing hcurrent)
          (bearsAll_stmtData_cons hs hss)
        exact hall.of_eq (by abel)
    · unfold cases
      have hcase : Numbers (do
          let info ← freshInfo
          let p ← pattern (slot "PATTERN")
          let body ← statements (slot "BODY") (depth + 2) none
          return (⟨p, ⟨body, depth + 2⟩, info⟩ : MatchCase Stmt) :: (← cases next depth))
          fun cs => BearsAll (caseData cs) := by
        refine numbers_fresh_bind fun info => (numbers_pattern (hslots _)).bind fun p ps hp =>
          (hinner _ _).bind fun ss ids hss => (hcases _).bind fun cs more hcs => numbers_pure ?_
        rw [caseData]
        have hfirst : Bears (.record .matchCase [p.toDatum, suiteDatum ss (depth + 2), info.toDatum])
            ({info.id} + (ps + ids)) :=
          .node info rfl rfl (.cons hp (.cons (bears_suite hss) .nil)) (by abel)
        exact (BearsAll.cons hfirst hcs).of_eq (by abel)
      split
      · exact numbers_reject_bind
      · exact hcase

/-! ## Programs -/

/-- Empty lines between statements are nodes of their own. -/
lemma numbers_spaced (after : Option Bool) {ss : List Stmt} {ids : Multiset ℤ}
    (h : BearsAll (stmtData ss) ids) : Numbers (spaced after ss) fun lines more =>
      BearsAll (stmtData lines) (ids + more) := by
  induction ss generalizing after ids with
  | nil =>
    refine numbers_pure ?_
    rwa [add_zero]
  | cons s rest ih =>
    rw [stmtData] at h
    obtain ⟨first, others, hfirst, hothers, rfl⟩ := h.of_cons
    have hempty : ∀ info : Info, Bears (Stmt.empty .generated info).toDatum {info.id} := by
      intro info
      rw [Stmt.toDatum]
      exact .node info rfl rfl (.cons (bears_zero rfl) .nil) (by abel)
    have hline : Numbers emptyLine fun line more => BearsAll (stmtData [line]) more := by
      refine numbers_fresh_bind fun info => numbers_pure ?_
      exact bearsAll_stmtData_cons (hempty info) bearsAll_stmtData_nil
    -- Whatever the gap is, it comes in front of the statement.
    have hgap : ∀ gap more, BearsAll (stmtData gap) more → Numbers (do
        return gap ++ s :: (← spaced (some (isDefinition s)) rest)) fun lines others' =>
          BearsAll (stmtData lines) (first + others + (more + others')) := by
      intro gap more hgap
      refine (ih _ hothers).bind fun lines others' hlines => numbers_pure ?_
      exact (bearsAll_stmtData_append hgap (bearsAll_stmtData_cons hfirst hlines)).of_eq
        (by abel)
    have hnone := hgap [] 0 bearsAll_stmtData_nil
    simp only [zero_add] at hnone
    unfold spaced
    cases after with
    | none => exact hnone
    | some before =>
      dsimp only
      split
      · refine hline.bind fun line more hline' => hline.bind fun line' more' hline'' => ?_
        have hboth := hgap [line, line'] _ (bearsAll_stmtData_append hline' hline'')
        exact hboth.mono fun lines others' hlines => by rwa [← add_assoc more]
      · exact hnone

/-- The nodes of a program have the identities that were handed out for it. -/
lemma numbers_program {ws : Workspace} (hws : ∀ id b, ws.block? id = some b → b.Plain)
    (indentWidth : ℤ) : Numbers (program ws indentWidth) fun p => Bears p.toDatum := by
  have htree : ∀ o, Numbers (statements (ws.tree o) 0 none) fun ss => BearsAll (stmtData ss) := by
    intro o
    have hplain : PlainTree (ws.tree o) := .mono (fun id b hb => hws id b hb) (ws.all_treeWithin _ o)
    simpa only [zero_add] using (numbers_chain hplain).1 0 none 0 .none
  have htop : Numbers (topStatements ws) fun ss => BearsAll (stmtData ss) := by
    unfold topStatements
    cases ws.ofType .syncError with
    | cons _ _ => exact numbers_reject_bind
    | nil =>
      dsimp only
      cases ws.ofType .start with
      | nil =>
        have hchains : Numbers ((looseStatements ws).mapM fun entry =>
            statements (ws.tree (some entry.1)) 0 none) fun chains =>
            BearsAll (stmtData chains.flatten) :=
          .mapM _ (fun _ => htree _) bearsAll_stmtData_nil fun _ _ _ _ => bearsAll_stmtData_append
        refine hchains.bind fun chains ids hchains => numbers_pure ?_
        rwa [add_zero]
      | cons entry others =>
        cases others with
        | cons _ _ => exact numbers_reject
        | nil =>
          cases looseStatements ws with
          | cons _ _ => exact numbers_reject_bind
          | nil => exact htree _
  refine htop.bind fun ss ids hss => (numbers_spaced none hss).bind fun lines more hlines =>
    numbers_fresh_bind fun info => numbers_pure ?_
  rw [Program.toDatum]
  exact .node info rfl rfl (.cons (bears_suite hlines) (.cons (bears_zero rfl) (.cons (bears_zero rfl)
    (.cons (bears_zero rfl) .nil)))) (by abel)

end Compile

end BlockText

import BlockText.Proofs.Datum.Identities
import BlockText.Source.Reading

/-!
# Identities of programs that are read

Reading a text hands out identities one after the other, and every one of them goes to a node of the
program: `Numbers` follows the identity that was handed out last. The order in which the nodes of a
construct are reached is not always that of its parts, so the identities of a program are those from
one up to the number of its nodes in some order (`identities_ofSource`); the program itself comes
first.
-/

namespace BlockText.Source

open Datum Syntax

variable {α β : Type}

/-- If reading succeeds, it hands out identities after the last one, and the result has a property
together with them. -/
def Numbers (x : Reading α) (good : α → Multiset ℤ → Prop) : Prop :=
  ∀ s a s', x.run s = .ok (a, s') → s.last ≤ s'.last ∧ good a (handedOut s.last s'.last)

variable {good : α → Multiset ℤ → Prop}

/-! ## Rules -/

/-- A value that is there already uses no identities. -/
lemma numbers_pure {a : α} (h : good a 0) : Numbers (pure a) good := by
  rintro s _ _ ⟨⟩
  exact ⟨le_rfl, by rwa [handedOut_self]⟩

/-- An error uses no identities. -/
lemma numbers_throw {e : ParseError} : Numbers (throw e : Reading α) good := nofun

/-- What is known of a result and of its identities may be weakened. -/
lemma Numbers.mono {x : Reading α} {good' : α → Multiset ℤ → Prop} (h : Numbers x good)
    (himp : ∀ a ids, good a ids → good' a ids) : Numbers x good' := by
  intro s a s' hx
  obtain ⟨hle, hgood⟩ := h s a s' hx
  exact ⟨hle, himp a _ hgood⟩

/-- One reading after another succeeds if both do. -/
lemma exists_run_of_bind {x : Reading β} {f : β → Reading α} {s s' : ReadState} {a : α}
    (h : (x >>= f).run s = .ok (a, s')) :
    ∃ b s₁, x.run s = .ok (b, s₁) ∧ (f b).run s₁ = .ok (a, s') := by
  rw [StateT.run_bind] at h
  cases hx : x.run s with
  | error e =>
    rw [hx] at h
    cases h
  | ok r =>
    rw [hx] at h
    exact ⟨r.1, r.2, rfl, h⟩

/-- One reading after another: the second one hands out identities after those of the first. -/
lemma Numbers.bind {x : Reading β} {f : β → Reading α} {mid : β → Multiset ℤ → Prop}
    (h : Numbers x mid) (hf : ∀ b ids, mid b ids → Numbers (f b) fun a more => good a (ids + more)) :
    Numbers (x >>= f) good := by
  intro s a s' hrun
  obtain ⟨b, s₁, hx, hrest⟩ := exists_run_of_bind hrun
  obtain ⟨hle, hmid⟩ := h s b s₁ hx
  obtain ⟨hle', hgood⟩ := hf b _ hmid s₁ a s' hrest
  refine ⟨hle.trans hle', ?_⟩
  rwa [handedOut_add hle hle'] at hgood

/-- Reading items one after another, where the identities of a list are those of its members. -/
lemma Numbers.mapM {f : β → Reading α} {one : α → Multiset ℤ → Prop}
    {all : List α → Multiset ℤ → Prop} (bs : List β) (h : ∀ b, Numbers (f b) one) (hnil : all [] 0)
    (hcons : ∀ a as ids more, one a ids → all as more → all (a :: as) (ids + more)) :
    Numbers (bs.mapM f) all := by
  induction bs with
  | nil => exact numbers_pure hnil
  | cons b rest ih =>
    rw [List.mapM_cons]
    refine (h b).bind fun a ids ha => ih.bind fun as more has => numbers_pure ?_
    rw [add_zero]
    exact hcons a as ids more ha has

namespace Manuscript

variable (m : Manuscript)

/-- One identity is handed out. -/
lemma numbers_infoFor (span : Option Span) :
    Numbers (m.infoFor span) fun info ids => ids = {info.id} := by
  rintro s _ _ ⟨⟩
  exact ⟨(lt_add_one s.last).le, handedOut_succ s.last⟩

/-- One identity is handed out, and reading goes on. -/
lemma numbers_infoFor_bind {span : Option Span} {f : Info → Reading α}
    (hf : ∀ info, Numbers (f info) fun a more => good a ({info.id} + more)) :
    Numbers (m.infoFor span >>= f) good := by
  refine (m.numbers_infoFor span).bind fun info ids hids => ?_
  rw [hids]
  exact hf info

/-- A node uses the next identity, and what follows those after it. -/
lemma numbers_infoAt_bind {r : Range} {f : Info → Reading α}
    (hf : ∀ info, Numbers (f info) fun a more => good a ({info.id} + more)) :
    Numbers (m.infoAt r >>= f) good := m.numbers_infoFor_bind hf

/-- A construct without blocks uses no identities. -/
lemma numbers_unsupported {r : Range} {what : String} :
    Numbers (m.unsupported r what : Reading α) good := numbers_throw

/-! ## Expressions -/

/-- A constant bears its identity and those of the parts that it may have. -/
lemma numbers_constant (c : Constant) (r : Range) (info : Info) :
    Numbers (m.constant c r info) fun e more => Bears e.toDatum ({info.id} + more) := by
  have hliteral : ∀ (kind : LiteralKind) (raw value : Datum), raw.nodesIn = [] → value.nodesIn = [] →
      Numbers (pure (Syntax.Expr.literal kind raw value info)) fun e more =>
        Bears e.toDatum ({info.id} + more) := fun kind raw value hraw hvalue =>
    numbers_pure (bears_literal hraw hvalue info)
  unfold constant
  extract_lets raw
  cases c with
  | none => exact hliteral _ _ _ rfl rfl
  | bool b => exact hliteral _ _ _ rfl rfl
  | number => exact hliteral _ _ _ rfl rfl
  | string value =>
    refine hliteral _ _ _ ?_ (nodesIn_ofPoints value)
    split
    · exact nodesIn_ofPoints _
    · rfl
  | bytes => exact hliteral _ _ _ rfl rfl
  | ellipsis => exact m.numbers_unsupported

/-- A parameter bears its identity and those of its annotation and its default. -/
lemma bears_param {p : Param Syntax.Expr} {hs ps : Multiset ℤ} (hname : p.name.nodesIn = [])
    (hhint : Bears (optionalDatum p.hint) hs) (hpreset : Bears (optionalDatum p.preset) ps) :
    Bears p.toDatum ({p.info.id} + (hs + ps)) :=
  .node p.info rfl rfl (.cons (bears_zero hname) (.cons hhint (.cons hpreset (.cons (bears_zero rfl)
    .nil)))) (by abel)

/-- A parameter in front of others bears its identities besides theirs. -/
lemma bearsAll_paramData_cons {p : Param Syntax.Expr} {ps : List (Param Syntax.Expr)}
    {ids ids' : Multiset ℤ} (h : Bears p.toDatum ids) (h' : BearsAll (paramData ps) ids') :
    BearsAll (paramData (p :: ps)) (ids + ids') := by
  rw [paramData_eq_map] at h' ⊢
  exact .cons h h'

/-- One parameter bears its identities. -/
lemma bearsAll_paramData_singleton {p : Param Syntax.Expr} {ids : Multiset ℤ}
    (h : Bears p.toDatum ids) : BearsAll (paramData [p]) ids := by
  rw [paramData_eq_map]
  exact (BearsAll.cons h .nil).of_eq (add_zero ids)

/-- Parameters behind others bear their identities besides those. -/
lemma bearsAll_paramData_append {ps ps' : List (Param Syntax.Expr)} {ids ids' : Multiset ℤ}
    (h : BearsAll (paramData ps) ids) (h' : BearsAll (paramData ps') ids') :
    BearsAll (paramData (ps ++ ps')) (ids + ids') := by
  rw [paramData_eq_map] at h h' ⊢
  rw [List.map_append]
  exact h.append h'

mutual

/-- The nodes of an expression have the identities that were handed out for it. -/
theorem numbers_expr : (e : Expr) → Numbers (m.expr e) fun e' => Bears e'.toDatum
  | .name id r => by
    rw [expr]
    exact m.numbers_infoAt_bind fun info => numbers_pure (bears_identifier rfl info)
  | .constant c r => by
    rw [expr]
    exact m.numbers_infoAt_bind fun info => m.numbers_constant c r info
  | .binary l op e r => by
    rw [expr]
    refine m.numbers_infoAt_bind fun info => (numbers_expr l).bind fun left ls hl =>
      (numbers_expr e).bind fun right rs hr => numbers_pure ?_
    rw [Expr.toDatum]
    exact .node info rfl rfl (.cons hl (.cons (bears_zero rfl) (.cons hr .nil))) (by abel)
  | .unary op e r => by
    rw [expr]
    refine m.numbers_infoAt_bind fun info => (numbers_expr e).bind fun operand os ho =>
      numbers_pure ?_
    rw [Expr.toDatum]
    exact .node info rfl rfl (.cons (bears_zero rfl) (.cons ho .nil)) (by abel)
  | .boolOp op es r => by
    rw [expr]
    refine m.numbers_infoAt_bind fun info => (numbers_exprs es).bind fun values vs hvalues =>
      numbers_pure ?_
    rw [Expr.toDatum]
    exact .node info rfl rfl (.cons (bears_zero rfl) (.cons (.list hvalues) .nil)) (by abel)
  | .compare l ops es r => by
    rw [expr]
    refine m.numbers_infoAt_bind fun info => (numbers_expr l).bind fun left ls hl =>
      (numbers_exprs es).bind fun others os hothers => numbers_pure ?_
    have hops : BearsAll (ops.map spelled) 0 := by
      refine bearsAll_zero fun d hd => ?_
      obtain ⟨op, -, rfl⟩ := List.mem_map.mp hd
      rfl
    rw [Expr.toDatum]
    exact .node info rfl rfl (.cons hl (.cons (.list hops) (.cons (.list hothers) .nil))) (by abel)
  | .lambda ⟨positional, plain, variadic, named, mapping⟩ e r => by
    rw [expr]
    refine m.numbers_infoAt_bind fun info => ?_
    cases positional with
    | cons a rest => exact m.numbers_unsupported
    | nil =>
      refine (numbers_presets plain).bind fun first fs hfirst =>
        (numbers_starParam variadic _).bind fun second ss hsecond =>
        (numbers_presets named).bind fun third ts hthird =>
        (numbers_mappingParam mapping).bind fun fourth gs hfourth =>
        (numbers_expr e).bind fun body bs hbody => numbers_pure ?_
      have hparams := bearsAll_paramData_append (bearsAll_paramData_append
        (bearsAll_paramData_append hfirst hsecond) hthird) hfourth
      rw [Expr.toDatum]
      exact .node info rfl rfl (.cons (.list hparams) (.cons hbody .nil)) (by abel)
  | .conditional t b e r => by
    rw [expr]
    refine m.numbers_infoAt_bind fun info => (numbers_expr t).bind fun test ts htest =>
      (numbers_expr b).bind fun body bs hbody => (numbers_expr e).bind fun orelse es horelse =>
      numbers_pure ?_
    rw [Expr.toDatum]
    exact .node info rfl rfl (.cons htest (.cons hbody (.cons horelse .nil))) (by abel)
  | .call f args ks r => by
    rw [expr]
    refine m.numbers_infoAt_bind fun info => (numbers_expr f).bind fun func fs hfunc =>
      (numbers_callArgs args).bind fun list ls hlist => (numbers_keywordArgs ks).bind
      fun keywords ids hkeywords => numbers_pure ?_
    rw [Expr.toDatum]
    exact .node info rfl rfl (.cons hfunc (.cons (.list hlist) (.cons (.list hkeywords) .nil)))
      (by abel)
  | .tuple es r | .list es r | .set es r => by
    rw [expr]
    refine m.numbers_infoAt_bind fun info => (numbers_exprs es).bind fun items is hitems =>
      numbers_pure ?_
    rw [Expr.toDatum]
    exact .node info rfl rfl (.cons (.list hitems) .nil) (by abel)
  | .dict es r => by
    rw [expr]
    refine m.numbers_infoAt_bind fun info => (numbers_entries es).bind fun items is hitems =>
      numbers_pure ?_
    rw [Expr.toDatum]
    exact .node info rfl rfl (.cons (.list hitems) .nil) (by abel)
  | .attribute e attr r => by
    rw [expr]
    refine m.numbers_infoAt_bind fun info => (numbers_expr e).bind fun value vs hvalue =>
      numbers_pure ?_
    rw [Expr.toDatum]
    exact .node info rfl rfl (.cons hvalue (.cons (bears_zero rfl) .nil)) (by abel)
  | .subscript e i r => by
    rw [expr]
    refine m.numbers_infoAt_bind fun info => (numbers_expr e).bind fun value vs hvalue =>
      (numbers_expr i).bind fun index is hindex => numbers_pure ?_
    rw [Expr.toDatum]
    exact .node info rfl rfl (.cons hvalue (.cons hindex .nil)) (by abel)
  | .slice l u s r => by
    rw [expr]
    refine m.numbers_infoAt_bind fun info => (numbers_maybe l).bind fun lower ls hlower =>
      (numbers_maybe u).bind fun upper us hupper => (numbers_maybe s).bind fun step ss hstep =>
      numbers_pure ?_
    rw [Expr.toDatum]
    exact .node info rfl rfl (.cons hlower (.cons hupper (.cons hstep .nil))) (by abel)
  | .comprehension kind k e cs r => by
    rw [expr]
    refine m.numbers_infoAt_bind fun info => (numbers_maybe k).bind fun key ks hkey =>
      (numbers_expr e).bind fun element es helement => (numbers_clauses cs).bind
      fun list ls hlist => numbers_pure ?_
    rw [Expr.toDatum]
    exact .node info rfl rfl (.cons (bears_zero rfl) (.cons helement (.cons (.list hlist)
      (.cons hkey .nil)))) (by abel)
  | .formatted ps r => by
    rw [expr]
    refine m.numbers_infoAt_bind fun info => (numbers_pieces r ps).bind fun parts is hparts =>
      numbers_pure ?_
    rw [Expr.toDatum]
    exact .node info rfl rfl (.cons (.list hparts) (.cons (bears_zero rfl) .nil)) (by abel)
  | .walrus target e r => by
    rw [expr]
    refine m.numbers_infoAt_bind fun info => (numbers_expr e).bind fun value vs hvalue =>
      numbers_pure ?_
    rw [Expr.toDatum]
    exact .node info rfl rfl (.cons (bears_zero rfl) (.cons hvalue .nil)) (by abel)
  | .yield e r => by
    rw [expr]
    refine m.numbers_infoAt_bind fun info => (numbers_maybe e).bind fun value vs hvalue =>
      numbers_pure ?_
    rw [Expr.toDatum]
    exact .node info rfl rfl (.cons hvalue .nil) (by abel)
  | .yieldFrom e r | .await e r => by
    rw [expr]
    refine m.numbers_infoAt_bind fun info => (numbers_expr e).bind fun value vs hvalue =>
      numbers_pure ?_
    rw [Expr.toDatum]
    exact .node info rfl rfl (.cons hvalue .nil) (by abel)
  | .starred e r => by
    rw [expr]
    exact m.numbers_unsupported

/-- An expression that may be there bears the identities that were used for it. -/
theorem numbers_maybe : (e : Option Expr) → Numbers (m.maybe e) fun o => Bears (optionalDatum o)
  | none => by
    rw [maybe]
    exact numbers_pure (bears_zero rfl)
  | some e => by
    rw [maybe]
    refine (numbers_expr e).bind fun e' ids he => numbers_pure ?_
    rwa [add_zero, optionalDatum]

/-- Expressions bear the identities that were used for them. -/
theorem numbers_exprs : (es : List Expr) → Numbers (m.exprs es) fun es' => BearsAll (exprData es')
  | [] => by
    rw [exprs]
    exact numbers_pure .nil
  | e :: rest => by
    rw [exprs]
    refine (numbers_expr e).bind fun first fs hfirst => (numbers_exprs rest).bind
      fun others os hothers => numbers_pure ?_
    rw [add_zero, exprData]
    exact .cons hfirst hothers

/-- Arguments bear the identities that were used for them. -/
theorem numbers_callArgs : (es : List Expr) →
    Numbers (m.callArgs es) fun es' => BearsAll (exprData es')
  | [] => by
    rw [callArgs]
    exact numbers_pure .nil
  | e :: rest => by
    have hcons : Numbers (do return (← m.expr e) :: (← m.callArgs rest)) fun es' =>
        BearsAll (exprData es') := by
      refine (numbers_expr e).bind fun first fs hfirst => (numbers_callArgs rest).bind
        fun others os hothers => numbers_pure ?_
      rw [add_zero, exprData]
      exact .cons hfirst hothers
    cases e with
    | starred e r =>
      rw [callArgs]
      exact m.numbers_unsupported
    | _ =>
      rw [callArgs]
      · exact hcons
      · exact nofun

/-- Keyword arguments bear the identities that were used for them. -/
theorem numbers_keywordArgs : (ks : List (KeywordArg Expr)) →
    Numbers (m.keywordArgs ks) fun ks' => BearsAll (keywordData ks')
  | [] => by
    rw [keywordArgs]
    exact numbers_pure .nil
  | ⟨name, e, r⟩ :: rest => by
    rw [keywordArgs]
    refine m.numbers_infoAt_bind fun info => (numbers_expr e).bind fun value vs hvalue =>
      (numbers_keywordArgs rest).bind fun others os hothers => numbers_pure ?_
    have hname : (Datum.ofText? name).nodesIn = [] := by cases name <;> rfl
    have hfirst : Bears (Keyword.toDatum ⟨Datum.ofText? name, value, info⟩) ({info.id} + vs) :=
      .node info rfl rfl (.cons (bears_zero hname) (.cons hvalue .nil)) (by abel)
    rw [keywordData]
    exact (BearsAll.cons hfirst hothers).of_eq (by abel)

/-- Entries of a dictionary bear the identities that were used for them. -/
theorem numbers_entries : (es : List (Entry Expr)) →
    Numbers (m.entries es) fun es' => BearsAll (entryData es')
  | [] => by
    rw [entries]
    exact numbers_pure .nil
  | ⟨k, e⟩ :: rest => by
    rw [entries]
    refine m.numbers_infoAt_bind fun info => (numbers_maybe k).bind fun key ks hkey =>
      (numbers_expr e).bind fun value vs hvalue => (numbers_entries rest).bind
      fun others os hothers => numbers_pure ?_
    have hfirst : Bears (DictEntry.toDatum ⟨key, value, info⟩) ({info.id} + (ks + vs)) :=
      .node info rfl rfl (.cons hkey (.cons hvalue .nil)) (by abel)
    rw [entryData]
    exact (BearsAll.cons hfirst hothers).of_eq (by abel)

/-- Comprehension clauses bear the identities that were used for them. -/
theorem numbers_clauses : (cs : List (ForClause Expr)) →
    Numbers (m.clauses cs) fun cs' => BearsAll (clauseData cs')
  | [] => by
    rw [clauses]
    exact numbers_pure .nil
  | ⟨t, i, cs, isAsync⟩ :: rest => by
    rw [clauses]
    refine m.numbers_infoAt_bind fun info => (numbers_expr t).bind fun target ts htarget =>
      (numbers_expr i).bind fun iter is hiter => (numbers_exprs cs).bind fun ifs js hifs =>
      (numbers_clauses rest).bind fun others os hothers => numbers_pure ?_
    have hfirst : Bears (Clause.toDatum ⟨target, iter, ifs, isAsync, info⟩)
        ({info.id} + (ts + (is + js))) :=
      .node info rfl rfl (.cons htarget (.cons hiter (.cons (.list hifs) (.cons (bears_zero rfl)
        .nil)))) (by abel)
    rw [clauseData]
    exact (BearsAll.cons hfirst hothers).of_eq (by abel)

/-- The parts of a formatted string bear the identities that were used for them. -/
theorem numbers_pieces (r : Range) : (ps : List (Piece Expr)) →
    Numbers (m.pieces r ps) fun ps' => BearsAll (partData ps')
  | [] => by
    rw [pieces]
    exact numbers_pure .nil
  | ⟨text, none, conversion, spec⟩ :: rest => by
    rw [pieces]
    refine m.numbers_infoAt_bind fun info => (numbers_pieces r rest).bind fun others os hothers =>
      numbers_pure ?_
    have hfirst : Bears (FormatPart.toDatum ⟨.literal, .ofPoints text, none, "", "", info⟩)
        {info.id} :=
      .node info rfl rfl (.cons (bears_zero rfl) (.cons (bears_zero (nodesIn_ofPoints text))
        (.cons (bears_zero rfl)
        (.cons (bears_zero rfl) (.cons (bears_zero rfl) .nil))))) (by abel)
    rw [partData]
    exact (BearsAll.cons hfirst hothers).of_eq (by abel)
  | ⟨text, some e, conversion, spec⟩ :: rest => by
    rw [pieces]
    refine m.numbers_infoAt_bind fun info => (numbers_expr e).bind fun value vs hvalue => ?_
    cases spec with
    | nested => exact m.numbers_unsupported
    | plain spec =>
      refine (numbers_pieces r rest).bind fun others os hothers => numbers_pure ?_
      have hfirst : Bears (FormatPart.toDatum ⟨.expr, "", some value, conversion, .ofPoints spec, info⟩)
          ({info.id} + vs) :=
        .node info rfl rfl (.cons (bears_zero rfl) (.cons (bears_zero rfl) (.cons hvalue
          (.cons (bears_zero rfl) (.cons (bears_zero (nodesIn_ofPoints spec)) .nil))))) (by abel)
      rw [partData]
      exact (BearsAll.cons hfirst hothers).of_eq (by abel)

/-- Parameters with defaults bear the identities that were used for them. -/
theorem numbers_presets : (ps : List (ArgDefault Expr)) →
    Numbers (m.presets ps) fun ps' => BearsAll (paramData ps')
  | [] => by
    rw [presets]
    exact numbers_pure .nil
  | ⟨⟨name, h, r⟩, p⟩ :: rest => by
    rw [presets]
    refine m.numbers_infoAt_bind fun info => (numbers_maybe h).bind fun hint hs hhint =>
      (numbers_maybe p).bind fun preset ps hpreset => (numbers_presets rest).bind
      fun others os hothers => numbers_pure ?_
    exact (bearsAll_paramData_cons (bears_param rfl hhint hpreset) hothers).of_eq (by abel)

/-- The parameter behind a star bears the identities that were used for it. -/
theorem numbers_starParam : (a : Option (Arg Expr)) → (isLast : Bool) →
    Numbers (m.starParam a isLast) fun ps => BearsAll (paramData ps)
  | some ⟨name, h, r⟩, isLast => by
    rw [starParam]
    refine m.numbers_infoAt_bind fun info => (numbers_maybe h).bind fun hint hs hhint =>
      numbers_pure ?_
    exact (bearsAll_paramData_singleton (bears_param rfl hhint (bears_zero rfl))).of_eq (by abel)
  | none, true => by
    rw [starParam]
    exact numbers_pure .nil
  | none, false => by
    rw [starParam]
    refine m.numbers_infoFor_bind fun info => numbers_pure ?_
    exact (bearsAll_paramData_singleton (bears_param rfl (bears_zero rfl) (bears_zero rfl))).of_eq
      (by abel)

/-- The parameter for further keywords bears the identities that were used for it. -/
theorem numbers_mappingParam : (a : Option (Arg Expr)) →
    Numbers (m.mappingParam a) fun ps => BearsAll (paramData ps)
  | none => by
    rw [mappingParam]
    exact numbers_pure .nil
  | some ⟨name, h, r⟩ => by
    rw [mappingParam]
    refine m.numbers_infoAt_bind fun info => (numbers_maybe h).bind fun hint hs hhint =>
      numbers_pure ?_
    exact (bearsAll_paramData_singleton (bears_param rfl hhint (bears_zero rfl))).of_eq (by abel)

end

/-- The parameters of a function bear the identities that were used for them. -/
lemma numbers_params (a : Arguments Expr) :
    Numbers (m.params a) fun ps => BearsAll (paramData ps) := by
  unfold params
  split
  · exact m.numbers_unsupported
  · refine (m.numbers_presets _).bind fun first fs hfirst =>
      (m.numbers_starParam _ _).bind fun second ss hsecond =>
      (m.numbers_presets _).bind fun third ts hthird =>
      (m.numbers_mappingParam _).bind fun fourth gs hfourth => numbers_pure ?_
    have hparams := bearsAll_paramData_append (bearsAll_paramData_append
      (bearsAll_paramData_append hfirst hsecond) hthird) hfourth
    exact hparams.of_eq (by abel)

/-! ## Patterns -/

/-- A pattern bears the identities that were used for it. -/
lemma numbers_pattern (p : Pattern) : Numbers (m.pattern p) fun p' => Bears p'.toDatum := by
  have hliteral : ∀ (info : Info) (e : Syntax.Expr) ids, Bears e.toDatum ids →
      Bears (Syntax.Pattern.literal e info).toDatum ({info.id} + ids) := by
    intro info e ids he
    rw [Pattern.toDatum]
    exact .node info rfl rfl (.cons he .nil) (by abel)
  unfold pattern
  refine m.numbers_infoAt_bind fun info => ?_
  split
  · refine numbers_pure ?_
    rw [Pattern.toDatum]
    exact .node info rfl rfl .nil (by abel)
  · refine numbers_pure ?_
    rw [Pattern.toDatum]
    exact .node info rfl rfl (.cons (bears_zero rfl) .nil) (by abel)
  · refine m.numbers_infoAt_bind fun inner => ?_
    split
    · exact numbers_pure (hliteral info _ _ (bears_literal rfl rfl inner))
    · refine numbers_pure (hliteral info _ _ (bears_literal ?_ rfl inner))
      split
      · rfl
      · rfl
  · refine m.numbers_infoAt_bind fun inner => ?_
    exact numbers_pure (hliteral info _ _ (bears_literal rfl rfl inner))
  · refine (m.numbers_expr _).bind fun e ids he => numbers_pure ?_
    rw [add_zero]
    exact hliteral info e ids he
  · exact m.numbers_unsupported

/-! ## Statements -/

/-- A comment that is claimed leaves the identity as it is. -/
lemma numbers_claimComment (info : Info) (line : ℕ) (after : Option ℕ) :
    Numbers (m.claimComment info line after) fun info' ids => info'.id = info.id ∧ ids = 0 := by
  intro s info' s' hrun
  have hkept : s'.last = s.last ∧ info'.id = info.id := by
    unfold claimComment at hrun
    cases hc : m.text.outline.commentOn? line with
    | none =>
      simp only [hc] at hrun
      cases hrun
      exact ⟨rfl, rfl⟩
    | some c =>
      simp only [hc] at hrun
      rw [StateT.run_bind, StateT.run_get, pure_bind] at hrun
      dsimp only at hrun
      split_ifs at hrun
      · cases hrun
        exact ⟨rfl, rfl⟩
      · cases hrun
        exact ⟨rfl, rfl⟩
  rw [hkept.1, handedOut_self]
  exact ⟨le_rfl, hkept.2, rfl⟩

/-- A comment may be claimed for what has been numbered. -/
lemma numbers_claimComment_infoFor {span : Option Span} (x : Info → Reading Info)
    (hx : ∀ info, x info = pure info ∨ ∃ line after, x info = m.claimComment info line after) :
    Numbers (m.infoFor span >>= x) fun info ids => ids = {info.id} := by
  refine m.numbers_infoFor_bind fun info => ?_
  rcases hx info with h | ⟨line, after, h⟩
  · rw [h]
    exact numbers_pure (add_zero _)
  · rw [h]
    refine (m.numbers_claimComment info line after).mono fun info' ids hinfo => ?_
    rw [hinfo.1, hinfo.2, add_zero]

/-- A statement uses the next identity, and what follows those after it. -/
lemma numbers_stmtInfo_bind {s : Stmt} {f : Info → Reading α}
    (hf : ∀ info, Numbers (f info) fun a more => good a ({info.id} + more)) :
    Numbers (m.stmtInfo s >>= f) good := by
  have hinfo : Numbers (m.stmtInfo s) fun info ids => ids = {info.id} := by
    unfold stmtInfo
    refine m.numbers_claimComment_infoFor _ fun info => ?_
    split
    · dsimp only
      split
      · exact .inr ⟨_, _, rfl⟩
      · exact .inl rfl
    · split
      · exact .inr ⟨_, _, rfl⟩
      · exact .inr ⟨_, _, rfl⟩
  refine hinfo.bind fun info ids hids => ?_
  rw [hids]
  exact hf info

/-- The empty statement of a line bears the identity that was used for it. -/
lemma numbers_gap (line : ℕ) : Numbers (m.gap line) fun s => Bears s.toDatum := by
  have hempty : ∀ info : Info, Bears (Syntax.Stmt.empty .source info).toDatum {info.id} := by
    intro info
    rw [Stmt.toDatum]
    exact .node info rfl rfl (.cons (bears_zero rfl) .nil) (by abel)
  unfold gap
  extract_lets text
  refine m.numbers_infoFor_bind fun info => ?_
  split
  · exact numbers_pure (hempty info)
  · rintro s _ _ ⟨⟩
    refine ⟨le_rfl, ?_⟩
    change Bears _ ({info.id} + handedOut s.last s.last)
    rw [handedOut_self, add_zero]
    exact hempty _

/-- The empty statements between two lines bear the identities that were used for them. -/
lemma numbers_gaps (first stop : ℕ) :
    Numbers (m.gaps first stop) fun ss => BearsAll (stmtData ss) :=
  .mapM _ (m.numbers_gap ·) bearsAll_stmtData_nil fun _ _ _ _ => bearsAll_stmtData_cons

/-- The empty statements in front of a statement bear the identities that were used for them. -/
lemma numbers_gapsBefore (s : Stmt) : Numbers (m.gapsBefore s) fun ss => BearsAll (stmtData ss) :=
  m.numbers_gaps _ _

/-- Imported names bear the identities that were used for them. -/
lemma numbers_aliases (names : List Alias) :
    Numbers (m.aliases names) fun ns => BearsAll (ns.map ImportName.toDatum) := by
  induction names with
  | nil =>
    rw [aliases]
    exact numbers_pure .nil
  | cons a rest ih =>
    rw [aliases]
    split
    · exact nofun
    · refine m.numbers_infoAt_bind fun info => ih.bind fun others os hothers => numbers_pure ?_
      have hname : (Datum.ofText? a.asName).nodesIn = [] := by cases a.asName <;> rfl
      have hfirst : Bears (ImportName.toDatum ⟨a.name, Datum.ofText? a.asName, info⟩) {info.id} :=
        .node info rfl rfl (.cons (bears_zero rfl) (.cons (bears_zero hname) .nil)) (by abel)
      exact (BearsAll.cons hfirst hothers).of_eq (by abel)

/-- The contexts of a statement bear the identities that were used for them. -/
lemma numbers_contexts (items : List Context) :
    Numbers (m.contexts items) fun ws => BearsAll (ws.map WithItem.toDatum) := by
  induction items with
  | nil =>
    rw [contexts]
    exact numbers_pure .nil
  | cons item rest ih =>
    have hitem : ∀ (info : Info) (e : Syntax.Expr) (name : Datum) ids, name.nodesIn = [] →
        Bears e.toDatum ids → Bears (WithItem.toDatum ⟨e, name, info⟩) ({info.id} + ids) :=
      fun info e name ids hname he =>
        .node info rfl rfl (.cons he (.cons (bears_zero hname) .nil)) (by abel)
    have hcons : ∀ (r : Range) (e : Expr) (name : Datum), name.nodesIn = [] → Numbers (do
        let info ← m.infoAt r
        let value ← m.expr e
        return (⟨value, name, info⟩ : WithItem) :: (← m.contexts rest)) fun ws =>
        BearsAll (ws.map WithItem.toDatum) := by
      intro r e name hname
      refine m.numbers_infoAt_bind fun info => (m.numbers_expr e).bind fun value vs hvalue =>
        ih.bind fun others os hothers => numbers_pure ?_
      exact (BearsAll.cons (hitem info value name vs hname hvalue) hothers).of_eq (by abel)
    rw [contexts.eq_def]
    split
    · exact numbers_pure .nil
    · rename_i heq
      cases heq
      exact hcons _ _ _ rfl
    · rename_i heq
      cases heq
      exact hcons _ _ _ rfl
    · exact m.numbers_unsupported

/-- No further conditions bear no identities. -/
lemma bearsAll_elifData_nil : BearsAll (elifData []) 0 := by
  rw [elifData]
  exact .nil

mutual

/-- The nodes of a statement have the identities that were handed out for it. -/
theorem numbers_stmt (depth : ℤ) : (s : Stmt) → Numbers (m.stmt depth s) fun s' => Bears s'.toDatum
  | .ifStmt t b e r => by
    rw [stmt]
    refine m.numbers_stmtInfo_bind fun info => (m.numbers_expr t).bind fun test ts htest =>
      (numbers_suite _ b).bind fun body bs hbody => (numbers_elseParts depth e).bind
      fun others ids hothers => numbers_pure ?_
    obtain ⟨es, os, helifs, horelse, rfl⟩ := hothers
    rw [Stmt.toDatum]
    exact .node info rfl rfl (.cons htest (.cons (bears_suite hbody) (.cons (.list helifs)
      (.cons horelse .nil)))) (by abel)
  | .whileStmt t b e r => by
    rw [stmt]
    refine m.numbers_stmtInfo_bind fun info => (m.numbers_expr t).bind fun test ts htest =>
      (numbers_suite _ b).bind fun body bs hbody => (numbers_maybeSuite _ e).bind
      fun orelse os horelse => numbers_pure ?_
    rw [Stmt.toDatum]
    exact .node info rfl rfl (.cons htest (.cons (bears_suite hbody) (.cons horelse .nil))) (by abel)
  | .forStmt t i b e isAsync r => by
    rw [stmt]
    refine m.numbers_stmtInfo_bind fun info => (m.numbers_expr t).bind fun target ts htarget =>
      (m.numbers_expr i).bind fun iter is hiter => (numbers_suite _ b).bind fun body bs hbody =>
      (numbers_maybeSuite _ e).bind fun orelse os horelse => numbers_pure ?_
    rw [Stmt.toDatum]
    exact .node info rfl rfl (.cons htarget (.cons hiter (.cons (bears_suite hbody) (.cons horelse
      (.cons (bears_zero rfl) .nil))))) (by abel)
  | .withStmt items b isAsync r => by
    rw [stmt]
    refine m.numbers_stmtInfo_bind fun info => (m.numbers_contexts items).bind fun list ls hlist =>
      (numbers_suite _ b).bind fun body bs hbody => numbers_pure ?_
    rw [Stmt.toDatum]
    exact .node info rfl rfl (.cons (.list hlist) (.cons (bears_suite hbody) (.cons (bears_zero rfl)
      .nil))) (by abel)
  | .matchStmt e cs r => by
    rw [stmt]
    refine m.numbers_stmtInfo_bind fun info => (m.numbers_expr e).bind fun value vs hvalue =>
      (numbers_cases depth cs).bind fun list ls hlist => numbers_pure ?_
    rw [Stmt.toDatum]
    exact .node info rfl rfl (.cons hvalue (.cons (.list hlist) .nil)) (by abel)
  | .functionDef name a b ds ret isAsync r => by
    rw [stmt]
    refine m.numbers_stmtInfo_bind fun info => (m.numbers_exprs ds).bind fun decorators js hds =>
      (m.numbers_params a).bind fun ps is hps => (m.numbers_maybe ret).bind
      fun returns rs hreturns => (numbers_suite _ b).bind fun body bs hbody => numbers_pure ?_
    rw [Stmt.toDatum]
    exact .node info rfl rfl (.cons (bears_zero rfl) (.cons (.list hps) (.cons (bears_suite hbody)
      (.cons (.list hds) (.cons hreturns (.cons (bears_zero rfl) .nil)))))) (by abel)
  | .classDef name bs ks b ds r => by
    rw [stmt]
    refine m.numbers_stmtInfo_bind fun info => ?_
    cases ks with
    | cons k rest => exact m.numbers_unsupported
    | nil =>
      refine (m.numbers_exprs ds).bind fun decorators js hds => (m.numbers_exprs bs).bind
        fun bases is hbases => (numbers_suite _ b).bind fun body ids hbody => numbers_pure ?_
      rw [Stmt.toDatum]
      exact .node info rfl rfl (.cons (bears_zero rfl) (.cons (.list hbases) (.cons
        (bears_suite hbody) (.cons (.list hds) .nil)))) (by abel)
  | .tryStmt b hs e f isStar r => by
    rw [stmt]
    split
    · exact m.numbers_unsupported
    · refine m.numbers_stmtInfo_bind fun info => (numbers_suite _ b).bind fun body bs hbody =>
        (numbers_handlers depth hs).bind fun list ls hlist => (numbers_maybeSuite _ e).bind
        fun orelse os horelse => (numbers_maybeSuite _ f).bind fun final fs hfinal =>
        numbers_pure ?_
      rw [Stmt.toDatum]
      exact .node info rfl rfl (.cons (bears_suite hbody) (.cons (.list hlist) (.cons horelse
        (.cons hfinal .nil)))) (by abel)
  | .assign ts e r => by
    rw [stmt]
    refine m.numbers_stmtInfo_bind fun info => (m.numbers_exprs ts).bind fun targets is htargets =>
      (m.numbers_expr e).bind fun value vs hvalue => numbers_pure ?_
    rw [Stmt.toDatum]
    exact .node info rfl rfl (.cons (.list htargets) (.cons hvalue .nil)) (by abel)
  | .annAssign t h e r => by
    rw [stmt]
    refine m.numbers_stmtInfo_bind fun info => (m.numbers_expr t).bind fun target ts htarget =>
      (m.numbers_expr h).bind fun hint hs hhint => (m.numbers_maybe e).bind
      fun value vs hvalue => numbers_pure ?_
    rw [Stmt.toDatum]
    exact .node info rfl rfl (.cons htarget (.cons hhint (.cons hvalue .nil))) (by abel)
  | .augAssign t op e r => by
    rw [stmt]
    refine m.numbers_stmtInfo_bind fun info => (m.numbers_expr t).bind fun target ts htarget =>
      (m.numbers_expr e).bind fun value vs hvalue => numbers_pure ?_
    rw [Stmt.toDatum]
    exact .node info rfl rfl (.cons htarget (.cons (bears_zero rfl) (.cons hvalue .nil))) (by abel)
  | .exprStmt e r => by
    rw [stmt]
    refine m.numbers_stmtInfo_bind fun info => (m.numbers_expr e).bind fun value vs hvalue =>
      numbers_pure ?_
    rw [Stmt.toDatum]
    exact .node info rfl rfl (.cons hvalue .nil) (by abel)
  | .passStmt r | .breakStmt r | .continueStmt r => by
    rw [stmt]
    refine m.numbers_stmtInfo_bind fun info => numbers_pure ?_
    rw [Stmt.toDatum]
    exact .node info rfl rfl .nil (by abel)
  | .returnStmt e r => by
    rw [stmt]
    refine m.numbers_stmtInfo_bind fun info => (m.numbers_maybe e).bind fun value vs hvalue =>
      numbers_pure ?_
    rw [Stmt.toDatum]
    exact .node info rfl rfl (.cons hvalue .nil) (by abel)
  | .importStmt names r | .fromStmt module names r => by
    rw [stmt]
    refine m.numbers_stmtInfo_bind fun info => (m.numbers_aliases names).bind fun list ls hlist =>
      numbers_pure ?_
    rw [Stmt.toDatum]
    exact .node info rfl rfl (.cons (bears_zero rfl) (.cons (.list hlist) (.cons (bears_zero rfl)
      .nil))) (by abel)
  | .assertStmt t e r => by
    rw [stmt]
    refine m.numbers_stmtInfo_bind fun info => (m.numbers_expr t).bind fun test ts htest =>
      (m.numbers_maybe e).bind fun msg ms hmsg => numbers_pure ?_
    rw [Stmt.toDatum]
    exact .node info rfl rfl (.cons htest (.cons hmsg .nil)) (by abel)
  | .raiseStmt e c r => by
    rw [stmt]
    refine m.numbers_stmtInfo_bind fun info => (m.numbers_maybe e).bind
      fun exception es hexception => (m.numbers_maybe c).bind fun cause cs hcause => numbers_pure ?_
    rw [Stmt.toDatum]
    exact .node info rfl rfl (.cons hexception (.cons hcause .nil)) (by abel)
  | .deleteStmt ts r => by
    rw [stmt]
    refine m.numbers_stmtInfo_bind fun info => (m.numbers_exprs ts).bind fun targets is htargets =>
      numbers_pure ?_
    rw [Stmt.toDatum]
    exact .node info rfl rfl (.cons (.list htargets) .nil) (by abel)
  | .globalStmt names r | .nonlocalStmt names r => by
    rw [stmt]
    refine m.numbers_stmtInfo_bind fun info => numbers_pure ?_
    have hnames : BearsAll (names.map Datum.text) 0 := by
      refine bearsAll_zero fun d hd => ?_
      obtain ⟨name, -, rfl⟩ := List.mem_map.mp hd
      rfl
    rw [Stmt.toDatum]
    exact .node info rfl rfl (.cons (.list hnames) .nil) (by abel)

/-- The statements of a body bear the identities that were used for them. -/
theorem numbers_suite (depth : ℤ) : (ss : List Stmt) →
    Numbers (m.suite depth ss) fun ss' => BearsAll (stmtData ss')
  | [] => by
    rw [suite]
    exact numbers_pure bearsAll_stmtData_nil
  | s :: rest => by
    rw [suite]
    refine (m.numbers_gapsBefore s).bind fun before bs hbefore => (numbers_stmt depth s).bind
      fun first fs hfirst => (numbers_suite depth rest).bind fun others os hothers =>
      numbers_pure ?_
    exact (bearsAll_stmtData_append hbefore (bearsAll_stmtData_cons hfirst hothers)).of_eq (by abel)

/-- A body that may be there bears the identities that were used for it. -/
theorem numbers_maybeSuite (depth : ℤ) : (ss : List Stmt) →
    Numbers (m.maybeSuite depth ss) fun o => Bears (optionalSuite o)
  | [] => by
    rw [maybeSuite]
    exact numbers_pure bears_optionalSuite_none
  | s :: rest => by
    rw [maybeSuite]
    refine (m.numbers_gapsBefore s).bind fun before bs hbefore => (numbers_stmt depth s).bind
      fun first fs hfirst => (numbers_suite depth rest).bind fun others os hothers =>
      numbers_pure ?_
    have hall := bearsAll_stmtData_append hbefore (bearsAll_stmtData_cons hfirst hothers)
    exact bears_optionalSuite_some (bears_suite (hall.of_eq (by abel)))

/-- Further conditions and a last body bear the identities that were used for them. -/
theorem numbers_elseParts (depth : ℤ) : (ss : List Stmt) →
    Numbers (m.elseParts depth ss) fun parts ids => ∃ es os, BearsAll (elifData parts.1) es ∧
      Bears (optionalSuite parts.2) os ∧ ids = es + os
  | [] => by
    rw [elseParts]
    exact numbers_pure ⟨0, 0, bearsAll_elifData_nil, bears_optionalSuite_none, (add_zero 0).symm⟩
  | s :: rest => by
    have hbody : Numbers (do
        let before ← m.gapsBefore s
        let first ← m.stmt (depth + 1) s
        let others ← m.suite (depth + 1) rest
        return (([], some ⟨before ++ first :: others, depth + 1⟩) :
          List (ElifClause Syntax.Stmt) × Option (Suite Syntax.Stmt)))
        fun parts ids => ∃ es os, BearsAll (elifData parts.1) es ∧
          Bears (optionalSuite parts.2) os ∧ ids = es + os := by
      refine (m.numbers_gapsBefore s).bind fun before bs hbefore => (numbers_stmt _ s).bind
        fun first fs hfirst => (numbers_suite _ rest).bind fun others os hothers =>
        numbers_pure ?_
      have hall := bearsAll_stmtData_append hbefore (bearsAll_stmtData_cons hfirst hothers)
      exact ⟨0, _, bearsAll_elifData_nil, bears_optionalSuite_some (bears_suite hall), by abel⟩
    cases rest with
    | cons s' rest' =>
      rw [elseParts]
      · exact hbody
      · exact nofun
    | nil =>
      cases s with
      | ifStmt t b e r =>
        rw [elseParts]
        split
        · refine m.numbers_infoAt_bind fun info => (m.numbers_expr t).bind fun test ts htest =>
            (numbers_suite _ b).bind fun body bs hbody => (numbers_elseParts depth e).bind
            fun others ids hothers => numbers_pure ?_
          obtain ⟨es, os, helifs, horelse, rfl⟩ := hothers
          have hfirst : Bears (ElifClause.toDatum ⟨test, ⟨body, depth + 1⟩, info⟩)
              ({info.id} + (ts + bs)) :=
            .node info rfl rfl (.cons htest (.cons (bears_suite hbody) .nil)) (by abel)
          rw [elifData]
          exact ⟨_, os, .cons hfirst helifs, horelse, by abel⟩
        · refine (m.numbers_gapsBefore _).bind fun before gs hbefore =>
            m.numbers_stmtInfo_bind fun info => (m.numbers_expr t).bind fun test ts htest =>
            (numbers_suite _ b).bind fun body bs hbody => (numbers_elseParts _ e).bind
            fun others ids hothers => numbers_pure ?_
          obtain ⟨es, os, helifs, horelse, rfl⟩ := hothers
          have hinner : Bears (Syntax.Stmt.ifStmt test ⟨body, depth + 2⟩ others.1 others.2
              info).toDatum ({info.id} + (ts + (bs + (es + os)))) := by
            rw [Stmt.toDatum]
            exact .node info rfl rfl (.cons htest (.cons (bears_suite hbody) (.cons (.list helifs)
              (.cons horelse .nil)))) (by abel)
          have hall := bearsAll_stmtData_append hbefore
            (bearsAll_stmtData_cons hinner bearsAll_stmtData_nil)
          exact ⟨0, _, bearsAll_elifData_nil, bears_optionalSuite_some (bears_suite hall), by abel⟩
      | _ =>
        rw [elseParts]
        · exact hbody
        · exact nofun

/-- Cases bear the identities that were used for them. -/
theorem numbers_cases (depth : ℤ) : (cs : List (Case Stmt)) →
    Numbers (m.cases depth cs) fun cs' => BearsAll (caseData cs')
  | [] => by
    rw [cases]
    refine numbers_pure ?_
    rw [caseData]
    exact .nil
  | ⟨p, some e, b⟩ :: rest => by
    rw [cases]
    exact m.numbers_unsupported
  | ⟨p, none, b⟩ :: rest => by
    rw [cases]
    refine m.numbers_infoFor_bind fun info => (m.numbers_pattern p).bind fun shape ss hshape =>
      (numbers_suite _ b).bind fun body bs hbody => (numbers_cases depth rest).bind
      fun others os hothers => numbers_pure ?_
    have hfirst : Bears (MatchCase.toDatum ⟨shape, ⟨body, depth + 2⟩, info⟩)
        ({info.id} + (ss + bs)) :=
      .node info rfl rfl (.cons hshape (.cons (bears_suite hbody) .nil)) (by abel)
    rw [caseData]
    exact (BearsAll.cons hfirst hothers).of_eq (by abel)

/-- Handlers bear the identities that were used for them. -/
theorem numbers_handlers (depth : ℤ) : (hs : List (Catch Stmt)) →
    Numbers (m.handlers depth hs) fun hs' => BearsAll (handlerData hs')
  | [] => by
    rw [handlers]
    refine numbers_pure ?_
    rw [handlerData]
    exact .nil
  | ⟨t, name, b, r⟩ :: rest => by
    rw [handlers]
    refine m.numbers_infoAt_bind fun info => (m.numbers_maybe t).bind fun type ts htype =>
      (numbers_suite _ b).bind fun body bs hbody => (numbers_handlers depth rest).bind
      fun others os hothers => numbers_pure ?_
    have hname : (Datum.ofText? name).nodesIn = [] := by cases name <;> rfl
    have hfirst : Bears (Handler.toDatum ⟨type, Datum.ofText? name, ⟨body, depth + 1⟩, info⟩)
        ({info.id} + (ts + bs)) :=
      .node info rfl rfl (.cons htype (.cons (bears_zero hname) (.cons (bears_suite hbody) .nil)))
        (by abel)
    rw [handlerData]
    exact (BearsAll.cons hfirst hothers).of_eq (by abel)

end

/-! ## Programs -/

/-- The nodes of a program have the identities that were handed out, and it has the first of
them. -/
lemma numbers_program (indentWidth : ℤ) (statements : List Stmt) (s : ReadState) (p : Program)
    (s' : ReadState) (h : (m.program indentWidth statements).run s = .ok (p, s')) :
    p.info.id = s.last + 1 ∧ s.last ≤ s'.last ∧ Bears p.toDatum (handedOut s.last s'.last) := by
  have hnumbers : Numbers (m.program indentWidth statements) fun p => Bears p.toDatum := by
    unfold program
    refine m.numbers_infoFor_bind fun info => (m.numbers_suite 0 statements).bind
      fun body bs hbody => (m.numbers_gaps _ _).bind fun after gs hafter => numbers_pure ?_
    rw [Program.toDatum]
    exact .node info rfl rfl (.cons (bears_suite (bearsAll_stmtData_append hbody hafter))
      (.cons (bears_zero rfl) (.cons (bears_zero rfl) (.cons (bears_zero rfl) .nil)))) (by abel)
  obtain ⟨hle, hbears⟩ := hnumbers s p s' h
  refine ⟨?_, hle, hbears⟩
  unfold program at h
  obtain ⟨info, s₁, hinfo, hbody⟩ := exists_run_of_bind h
  obtain ⟨body, s₂, -, hafter⟩ := exists_run_of_bind hbody
  obtain ⟨after, s₃, -, hprogram⟩ := exists_run_of_bind hafter
  cases hprogram
  cases hinfo
  rfl

end Manuscript

end BlockText.Source

namespace BlockText.Syntax

open Datum

/-- A program that was read comes from the statements and the outline of its text. -/
lemma exists_run_of_ofSource {source : String} {indentWidth : ℤ} {names : Text.CharacterNames}
    {p : Program} (h : Program.ofSource source indentWidth names = .ok p) :
    ∃ statements outline s', Source.parse names source.toList = .ok statements ∧
      Source.Outline.ofLines (Text.linesKeepingFeeds source.toList) = .ok outline ∧
      (Source.Manuscript.program ⟨⟨source, Text.linesKeepingFeeds source.toList, outline⟩,
        Source.physicalLines source.toList⟩ indentWidth statements).run {} = .ok (p, s') := by
  unfold Program.ofSource at h
  dsimp only at h
  split at h
  · cases h
  · cases hparse : Source.parse names source.toList with
    | error line =>
      rw [hparse] at h
      cases h
    | ok statements =>
      rw [hparse] at h
      cases houtline : Source.Outline.ofLines (Text.linesKeepingFeeds source.toList) with
      | error e =>
        rw [houtline] at h
        cases h
      | ok outline =>
        rw [houtline] at h
        refine ⟨statements, outline, ?_⟩
        simp only [Except.mapError, bind, Except.bind, pure, Except.pure] at h
        split at h
        · cases h
        · rename_i r hr
          cases h
          exact ⟨r.2, rfl, rfl, hr⟩

/-- Whichever characters have names, the identities of a program that was read are the numbers from
one to the number of its nodes, in some order, and the program itself has the first of them. -/
theorem identities_ofSource {source : String} {indentWidth : ℤ} {names : Text.CharacterNames}
    {p : Program} (h : Program.ofSource source indentWidth names = .ok p) :
    (∃ ids, p.toDatum.identities = .ok ids ∧
      ids.Perm ((List.range' 1 p.toDatum.nodes.length).map Int.ofNat)) ∧ p.info.id = 1 := by
  obtain ⟨statements, outline, s', -, -, hrun⟩ := exists_run_of_ofSource h
  obtain ⟨hid, hle, hbears⟩ := Source.Manuscript.numbers_program _ indentWidth statements _ p s' hrun
  refine ⟨?_, hid⟩
  change 0 ≤ s'.last at hle
  change Bears p.toDatum (handedOut 0 s'.last) at hbears
  obtain ⟨ids, hids, heq⟩ : ∃ ids : List ℤ, p.toDatum.identities = .ok ids ∧
      Multiset.ofList ids = handedOut 0 s'.last := hbears.identities p.info rfl rfl
  refine ⟨ids, hids, ?_⟩
  have hlength : (p.toDatum.nodes.length : ℤ) = s'.last := by
    have hnodes : p.toDatum.nodes.length = ids.length := by
      simpa only [List.length_map] using congrArg List.length (mapM_eq_ok_iff.mp hids)
    have hcard : ids.length = (handedOut 0 s'.last).card := by rw [← Multiset.coe_card, heq]
    rw [hnodes, hcard, card_handedOut hle, sub_zero]
  rw [← Multiset.coe_eq_coe, heq]
  refine (Multiset.Nodup.ext (nodup_handedOut _ _) ?_).mpr fun n => ?_
  · rw [Multiset.coe_nodup]
    exact (List.nodup_range').map Int.ofNat_injective
  · rw [mem_handedOut, ← hlength, Multiset.mem_coe, List.mem_map]
    refine ⟨fun hn => ⟨n.toNat, ?_, ?_⟩, ?_⟩
    · rw [List.mem_range'_1]
      omega
    · exact Int.toNat_of_nonneg hn.1.le
    · rintro ⟨k, hk, rfl⟩
      rw [List.mem_range'_1] at hk
      change (0 : ℤ) < k ∧ (k : ℤ) ≤ _
      omega

/-- A decorated function with a bare star among its parameters, a character that is escaped by its
name, a comprehension, whose key is reached before its element, and lines without code. -/
def decoratedSource : String :=
  "# first\n\n@wrapped\ndef f(*, a='\\N\x7bBULLET\x7d'):\n    return \x7bk: v for k, v in a\x7d\n"

/-- A table with the name of one character. -/
def bulletName : Text.CharacterNames := fun name =>
  if name = "BULLET".toList then some '•' else none

/-- A decorated function with a literal by name has the identities from one on, each once. -/
theorem identities_ofSource_decorated :
    ∃ p, Program.ofSource decoratedSource 4 bulletName = .ok p ∧ (∃ ids, p.toDatum.identities = .ok ids ∧
      ids.Perm ((List.range' 1 p.toDatum.nodes.length).map Int.ofNat)) ∧ p.info.id = 1 := by
  have hread : (Program.ofSource decoratedSource 4 bulletName).toOption.isSome = true := by
    decide +kernel
  cases hp : Program.ofSource decoratedSource 4 bulletName with
  | error e =>
    rw [hp] at hread
    cases hread
  | ok p => exact ⟨p, rfl, identities_ofSource hp⟩

end BlockText.Syntax

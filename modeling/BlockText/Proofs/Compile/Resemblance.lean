import BlockText.Proofs.Compile.Agreement

/-!
# Blocks that look the same

Blocks resemble each other if they have one type, the same fields and the same slots, and trees do
if the blocks at the same places do.  The names of blocks and the order in which a block lists its
fields and slots do not matter for this, nor for what is read.
-/

namespace BlockText

open Syntax Compile

/-- Two blocks have one type, the same values in their fields and the same slots for values. -/
structure Block.Resembles (b b' : Block) : Prop where
  type : b'.type = b.type
  field? : ∀ name, b'.field? name = b.field? name
  values : ∀ s, s ∈ b'.values ↔ s ∈ b.values

/-- Two trees have blocks that resemble each other at the same places. -/
inductive BlockTree.Resembles : BlockTree → BlockTree → Prop
  | nothing : Resembles .nothing .nothing
  | node {id id' : BlockId} {b b' : Block} {kids kids' : String → BlockTree}
      {next next' : BlockTree} (hblock : b.Resembles b') (hkids : ∀ s, Resembles (kids s) (kids' s))
      (hnext : Resembles next next') : Resembles (.node id b kids next) (.node id' b' kids' next')

/-- Trees that resemble each other are present together. -/
lemma BlockTree.Resembles.isPresent {t t' : BlockTree} (h : t.Resembles t') :
    t'.isPresent = t.isPresent := by
  cases h <;> rfl

namespace Block.Resembles

variable {b b' : Block} (h : b.Resembles b')
include h

/-! ## Reading one block -/

/-- Blocks that agree show the same fields. -/
lemma field (name : String) : b'.field name = b.field name := by
  rw [Block.field, Block.field, h.field?]

/-- Blocks that agree read the same name out of a field. -/
lemma nameIn (name : String) : nameIn b' name = nameIn b name := by
  rw [Compile.nameIn, Compile.nameIn, h.field]

/-- Blocks that agree read the same optional name out of a field. -/
lemma optionIn (name : String) : optionIn b' name = optionIn b name := by
  rw [Compile.optionIn, Compile.optionIn, h.field]

/-- Blocks that agree show the same counts. -/
lemma countIn (name : String) : countIn b' name = countIn b name := by
  rw [Compile.countIn, Compile.countIn, h.field?]

/-- Blocks that agree read the same builtin call. -/
lemma builtinCall (builtin : BuiltinCall) (id : BlockId) (filled : String → Bool) (slots : Slots) :
    builtinCall builtin id b' filled slots = builtinCall builtin id b filled slots := by
  have hfield : b'.field = b.field := funext h.field
  have harity : builtin.arityFor (b'.values.filter filled) =
      builtin.arityFor (b.values.filter filled) :=
    arityFor_congr builtin fun s => by rw [List.mem_filter, List.mem_filter, h.values]
  simp only [Compile.builtinCall, argumentCount, hfield, harity, h.countIn]

/-- What is read off a block as an expression. -/
lemma exprOf (id : BlockId) (filled : String → Bool) (slots : Slots) :
    exprOf id b' filled slots = exprOf id b filled slots := by
  simp only [Compile.exprOf, params, keywords, entries, clauses, parts, textLiteral, numberLiteral,
    h.type, h.field?, h.field, h.nameIn, h.optionIn, h.countIn, h.builtinCall]

/-- What is read off a block as a statement. -/
lemma stmtOf (id : BlockId) (filled : String → Bool) (slots : Slots) (bodies : Bodies)
    (cases : ℤ → Compile (List (MatchCase Stmt))) (depth : ℤ) :
    stmtOf id b' filled slots bodies cases depth = stmtOf id b filled slots bodies cases depth := by
  simp only [Compile.stmtOf, params, handlers, contexts, importedNames, declaredNames, optionalBody,
    h.type, h.field?, h.field, h.nameIn, h.optionIn, h.countIn, h.builtinCall]

end Block.Resembles

/-! ## Reading trees -/

namespace Compile

/-- The conditional without identities. -/
def OpenIf.bare (o : OpenIf) : OpenIf :=
  ⟨o.test.bare, o.body.bare, o.elifs.map ElifClause.bare, o.info.bare⟩

/-- Closing an open `if` and taking off the metadata commute. -/
lemma OpenIf.close_bare (o : OpenIf) (orelse : Option (Suite Stmt)) :
    (o.close orelse).bare = o.bare.close (orelse.map Suite.bare) := by
  simp [close, bare, Stmt.bare, Suite.bare]

/-- Closing what may be open and taking off the metadata commute. -/
lemma closing_bare (o : Option OpenIf) :
    (closing o).map Stmt.bare = closing (o.map OpenIf.bare) := by
  cases o <;> simp [closing, OpenIf.close_bare]

variable {t t' : BlockTree}

/-- Trees that resemble each other are read as expressions that agree. -/
lemma agree_expr (h : t.Resembles t') : Agree Expr.bare (expr t) (expr t') := by
  induction h with
  | nothing => exact agree_placeholder
  | node hblock hkids hnext ih _ =>
    unfold expr
    simp only [(hkids _).isPresent, hblock.exprOf]
    refine (SlotsAgree.exprOf (fun s => ?_) _ _).checked _ _ _ _
    split
    · exact (ih s).map fun e e' he => congrArg some he
    · exact agree_pure rfl

/-- Trees that resemble each other are read as optional expressions that agree. -/
lemma agree_optional (h : t.Resembles t') :
    Agree (Option.map Expr.bare) (optional t) (optional t') := by
  unfold optional
  rw [h.isPresent]
  split
  · exact (agree_expr h).map fun e e' he => congrArg some he
  · exact agree_pure rfl

/-- Trees that resemble each other are read as patterns that agree. -/
lemma agree_pattern (h : t.Resembles t') : Agree Pattern.bare (pattern t) (pattern t') := by
  have hexpr := agree_expr h
  cases h with
  | nothing =>
    exact agree_freshInfo.bind fun i i' hi => agree_pure (by simp only [Pattern.bare, hi])
  | @node _ _ b b' _ _ _ _ hblock _ _ =>
    unfold pattern
    simp only [hblock.type, hblock.nameIn]
    generalize b.type = type
    cases type with
    | identifier =>
      dsimp only
      split <;> exact agree_freshInfo.bind fun i i' hi =>
        agree_pure (by simp only [Pattern.bare, hi])
    | number | string | bool | none =>
      exact agree_freshInfo.bind fun i i' hi => hexpr.bind fun e e' he =>
        agree_pure (by simp only [Pattern.bare, hi, he])
    | _ => exact agree_reject _ _ _ _ _

/-! ### Chains

The statements of a chain and the cases in a slot are read by each other's help, so both are treated
in one induction. -/

/-- The trees are read in agreement, as chains of statements and as lists of cases. -/
structure ReadAlike (t t' : BlockTree) : Prop where
  statements : ∀ depth {o o' : Option OpenIf}, o.map OpenIf.bare = o'.map OpenIf.bare →
    Agree (List.map Stmt.bare) (statements t depth o) (statements t' depth o')
  cases : ∀ depth, Agree (List.map MatchCase.bare) (cases t depth) (cases t' depth)

/-- Plugs that resemble each other are read alike slot by slot. -/
lemma slotsAgree_of_resembles {kids kids' : String → BlockTree}
    (h : ∀ s, (kids s).Resembles (kids' s)) : SlotsAgree (slotsOf kids) (slotsOf kids') :=
  fun s => agree_optional (h s)

/-- Bodies that are read alike agree body by body. -/
lemma bodiesAgree_of_readAlike {kids kids' : String → BlockTree}
    (h : ∀ s, ReadAlike (kids s) (kids' s)) : BodiesAgree (bodiesOf kids) (bodiesOf kids') :=
  fun s level => ((h s).statements level rfl).bind fun ss ss' hss =>
    agree_pure (by simp only [Suite.bare, hss])

section Chain

variable {id id' : BlockId} {b b' : Block} {kids kids' : String → BlockTree}
  {next next' : BlockTree} {depth : ℤ} {o o' : Option OpenIf}
  (hblock : b.Resembles b') (hkids : ∀ s, (kids s).Resembles (kids' s))
  (hread : ∀ s, ReadAlike (kids s) (kids' s)) (hnext : ReadAlike next next')
include hblock hkids hread hnext

/-- A chain that starts with a statement of its own. -/
private lemma agree_statements_plain (hplain : isPlain b.type = true)
    (ho : o.map OpenIf.bare = o'.map OpenIf.bare) :
    Agree (List.map Stmt.bare) (statements (.node id b kids next) depth o)
      (statements (.node id' b' kids' next') depth o') := by
  rw [statements_plain hplain, statements_plain (hblock.type.symm ▸ hplain)]
  simp only [(hkids _).isPresent, hblock.stmtOf]
  refine ((bodiesAgree_of_readAlike hread).stmtOf (slotsAgree_of_resembles hkids)
    (hread "CASES").cases b _ depth).checked _ _ _ _ |>.bind fun s s' hs =>
    (hnext.statements depth rfl).bind fun ss ss' hss => agree_pure ?_
  simp only [List.map_append, List.map_cons, closing_bare, ho, hs, hss]

/-- A chain that starts with a condition. -/
private lemma agree_statements_if (ht : b.type = .ifStmt)
    (ho : o.map OpenIf.bare = o'.map OpenIf.bare) :
    Agree (List.map Stmt.bare) (statements (.node id b kids next) depth o)
      (statements (.node id' b' kids' next') depth o') := by
  rw [statements_if ht, statements_if (hblock.type.trans ht)]
  refine agree_freshInfo.bind fun i i' hi =>
    ((slotsAgree_of_resembles hkids).required _).bind fun test test' htest =>
    (bodiesAgree_of_readAlike hread _ _).bind fun body body' hbody =>
    (hnext.statements depth ?_).bind fun ss ss' hss => agree_pure ?_
  · simp only [Option.map, OpenIf.bare, hi, htest, hbody, List.map_nil]
  · simp only [List.map_append, closing_bare, ho, hss]

/-- A chain that starts with a further condition. -/
private lemma agree_statements_elif (ht : b.type = .elifStmt) {p p' : OpenIf}
    (hp : p.bare = p'.bare) :
    Agree (List.map Stmt.bare) (statements (.node id b kids next) depth (some p))
      (statements (.node id' b' kids' next') depth (some p')) := by
  obtain ⟨htest, hbody, helifs, hinfo⟩ := OpenIf.mk.inj hp
  rw [statements_elif ht, statements_elif (hblock.type.trans ht)]
  refine agree_freshInfo.bind fun i i' hi =>
    ((slotsAgree_of_resembles hkids).required _).bind fun t t' ht =>
    (bodiesAgree_of_readAlike hread _ _).bind fun c c' hc => hnext.statements depth ?_
  simp only [Option.map, OpenIf.bare, List.map_append, List.map_cons, List.map_nil, ElifClause.bare,
    htest, hbody, helifs, hinfo, ht, hc, hi]

omit hkids in
/-- A chain that starts with the last alternative. -/
private lemma agree_statements_else (ht : b.type = .elseStmt) {p p' : OpenIf}
    (hp : p.bare = p'.bare) :
    Agree (List.map Stmt.bare) (statements (.node id b kids next) depth (some p))
      (statements (.node id' b' kids' next') depth (some p')) := by
  rw [statements_else ht, statements_else (hblock.type.trans ht)]
  refine (bodiesAgree_of_readAlike hread _ _).bind fun c c' hc =>
    (hnext.statements depth rfl).bind fun ss ss' hss => agree_pure ?_
  simp only [List.map_cons, OpenIf.close_bare, Option.map, hp, hc, hss]

/-- What a chain starts with decides how it is read, on both sides in the same way. -/
private lemma agree_statements (ho : o.map OpenIf.bare = o'.map OpenIf.bare) :
    Agree (List.map Stmt.bare) (statements (.node id b kids next) depth o)
      (statements (.node id' b' kids' next') depth o') := by
  by_cases hplain : isPlain b.type = true
  · exact agree_statements_plain hblock hkids hread hnext hplain ho
  have htype : b.type = .ifStmt ∨ (b.type = .elifStmt ∨ b.type = .elseStmt) ∨
      b.type = .caseStmt := by
    simp only [isPlain, Bool.and_eq_true, bne_iff_ne, ne_eq] at hplain
    tauto
  have hsame := hblock.type
  rcases htype with ht | halternative | ht
  · exact agree_statements_if hblock hkids hread hnext ht ho
  · cases o with
    | some p =>
      cases o' with
      | none => cases ho
      | some p' =>
        rcases halternative with ht | ht
        · exact agree_statements_elif hblock hkids hread hnext ht (Option.some.inj ho)
        · exact agree_statements_else hblock hread hnext ht (Option.some.inj ho)
    | none =>
      cases o' with
      | some p' => cases ho
      | none =>
        rcases halternative with ht | ht <;> rw [ht] at hsame <;>
          simp only [statements, ht, hsame] <;> exact agree_reject _ _ _ _ _
  · rw [ht] at hsame
    simp only [statements, ht, hsame]
    exact agree_reject _ _ _ _ _

/-- The first block of a list of cases is a case on both sides, or on neither. -/
private lemma agree_cases : Agree (List.map MatchCase.bare) (cases (.node id b kids next) depth)
    (cases (.node id' b' kids' next') depth) := by
  have hcase : ∀ first second, Agree (List.map MatchCase.bare)
      (do
        let info ← freshInfo
        let p ← pattern (kids first)
        let body ← statements (kids second) (depth + 2) none
        return ⟨p, ⟨body, depth + 2⟩, info⟩ :: (← cases next depth))
      (do
        let info ← freshInfo
        let p ← pattern (kids' first)
        let body ← statements (kids' second) (depth + 2) none
        return ⟨p, ⟨body, depth + 2⟩, info⟩ :: (← cases next' depth)) := by
    intro first second
    refine agree_freshInfo.bind fun i i' hi => (agree_pattern (hkids _)).bind fun p p' hp =>
      ((hread _).statements _ rfl).bind fun ss ss' hss =>
      (hnext.cases depth).bind fun cs cs' hcs => agree_pure ?_
    simp only [List.map_cons, MatchCase.bare, Suite.bare, hi, hp, hss, hcs]
  simp only [Compile.cases, hblock.type]
  split
  · exact agree_reject_bind _ _ _ _ _
  · exact hcase "PATTERN" "BODY"

end Chain

/-- Trees that resemble each other are read in agreement. -/
theorem readAlike_of_resembles (h : t.Resembles t') : ReadAlike t t' := by
  induction h with
  | nothing =>
    refine ⟨fun depth o o' ho => agree_pure ?_, fun depth => agree_pure rfl⟩
    rw [closing_bare, closing_bare, ho]
  | node hblock hkids _ hread hnext =>
    exact ⟨fun _ _ _ ho => agree_statements hblock hkids hread hnext ho,
      fun _ => agree_cases hblock hkids hread hnext⟩

end Compile

end BlockText

import BlockText.Proofs.Source.Operators
import BlockText.Proofs.Source.Spelling
import BlockText.Proofs.Syntax.Likeness

/-!
# Trees read as formulas

A tree of the grammar is read as a formula if reading it gives the formula with its names in normal
form, up to information.  Trees whose parts are read as the parts of a formula are read as the
formula.
-/

namespace BlockText.Source

open Syntax Datum Reading Manuscript

/-- The tree is read as an expression like this one with its names in normal form. -/
def ReadsAs (m : Manuscript) (x : Expr) (e : Syntax.Expr) : Prop :=
  Succeeds (m.expr x) fun e' => e'.Alike e.normalized

variable {m : Manuscript} {x y z : Expr} {xs : List Expr} {e e₁ e₂ e₃ : Syntax.Expr}
  {es : List Syntax.Expr} {i : Info} {r : Range}

/-- A starred expression is read as nothing. -/
lemma ReadsAs.unstarred (h : ReadsAs m x e) (y : Expr) (r : Range) : x ≠ .starred y r := by
  rintro rfl
  obtain ⟨e', st, hrun, -⟩ := h {}
  simp [expr, unsupported, throw, throwThe, MonadExceptOf.throw] at hrun

-- Likeness is read off the records in every case.
attribute [local simp] Syntax.Alike core_record Tag.fields

/-! ## Lists -/

/-- Where each tree reads as its expression, the list of them does. -/
lemma ReadsAs.exprs (h : List.Forall₂ (ReadsAs m) xs es) :
    Succeeds (m.exprs xs) fun es' =>
      List.Forall₂ Syntax.Expr.Alike es' (Syntax.Expr.normalizedEach es) := by
  induction h with
  | nil =>
    rw [Manuscript.exprs, Syntax.Expr.normalizedEach]
    exact succeeds_pure .nil
  | cons hx _ ih =>
    rw [Manuscript.exprs, Syntax.Expr.normalizedEach]
    exact hx.bind fun e' he' => ih.bind fun es' hes' => succeeds_pure (.cons he' hes')

/-- Where each tree reads as its expression, the arguments of a call do. -/
lemma ReadsAs.callArgs (h : List.Forall₂ (ReadsAs m) xs es) :
    Succeeds (m.callArgs xs) fun es' =>
      List.Forall₂ Syntax.Expr.Alike es' (Syntax.Expr.normalizedEach es) := by
  induction h with
  | nil =>
    rw [Manuscript.callArgs, Syntax.Expr.normalizedEach]
    exact succeeds_pure .nil
  | @cons x e xs es hx _ ih =>
    rw [Manuscript.callArgs, Syntax.Expr.normalizedEach]
    · exact hx.bind fun e' he' => ih.bind fun es' hes' => succeeds_pure (.cons he' hes')
    · exact hx.unstarred

/-- Parameters that are names only are read as such. -/
lemma succeeds_presets {ps : List (Param Syntax.Expr)} {ns : List String}
    {as : List (ArgDefault Expr)} (hps : ∀ p ∈ ps, p.IsBareName)
    (hnames : List.Forall₂ (fun (p : Param Syntax.Expr) n => p.name = .text n) ps ns)
    (has : List.Forall₂ Grammar.IsBareArg ns as) :
    Succeeds (m.presets as) fun ps' =>
      List.Forall₂ (Syntax.Alike Param.toDatum) ps' (ps.map Param.normalized) := by
  induction hnames generalizing as with
  | nil =>
    cases has
    rw [Manuscript.presets]
    exact succeeds_pure .nil
  | @cons p n ps ns hname _ ih =>
    obtain ⟨name, hint, preset, kind, info⟩ := p
    obtain ⟨-, rfl, rfl, rfl⟩ := hps _ List.mem_cons_self
    obtain rfl : name = .text n := hname
    cases has with
    | @cons _ a _ as ha has =>
      obtain ⟨⟨name, hint, r⟩, preset⟩ := a
      obtain ⟨hname, hhint, hpreset⟩ := ha
      dsimp only at hname hhint hpreset
      subst hname hhint hpreset
      rw [Manuscript.presets]
      refine (m.succeeds_infoAt _).bind fun info' _ => ?_
      rw [Manuscript.maybe, pure_bind, pure_bind]
      refine (ih (fun q hq => hps q (List.mem_cons_of_mem _ hq)) has).bind fun ps' hps' => ?_
      refine succeeds_pure (.cons ?_ hps')
      simp [Param.toDatum, Param.normalized, normalizedName]

/-! ## Expressions -/

/-- A name reads as its identifier. -/
lemma readsAs_name (n : String) (r : Range) :
    ReadsAs m (.name (Text.normalForm n) r) (.identifier (.text n) i) := by
  rw [ReadsAs, expr, Syntax.Expr.normalized]
  refine (m.succeeds_infoAt r).map fun info _ => ?_
  simp [normalizedName]

/-- A number reads as the literal spelled there. -/
lemma readsAs_number {n : String} (h : m.spelling r = n) :
    ReadsAs m (.constant .number r) (.literal .number (.text n) .null i) := by
  rw [ReadsAs, expr, Syntax.Expr.normalized_literal]
  refine (m.succeeds_infoAt r).bind fun info _ => ?_
  rw [constant, h]
  refine succeeds_pure ?_
  simp

/-- A binary operation reads as one when its operands do. -/
lemma ReadsAs.binary {op : BinaryOp} (hx : ReadsAs m x e₁) (hy : ReadsAs m y e₂) :
    ReadsAs m (.binary x op y r) (.binary e₁ op e₂ i) := by
  rw [ReadsAs, expr, Syntax.Expr.normalized]
  refine (m.succeeds_infoAt r).bind fun info _ => hx.bind fun e₁' h₁ => hy.bind fun e₂' h₂ => ?_
  refine succeeds_pure ?_
  simpa using ⟨h₁, h₂⟩

/-- A unary operation reads as one when its operand does. -/
lemma ReadsAs.unary {op : UnaryOp} (hx : ReadsAs m x e) :
    ReadsAs m (.unary op x r) (.unary op e i) := by
  rw [ReadsAs, expr, Syntax.Expr.normalized]
  refine (m.succeeds_infoAt r).bind fun info _ => hx.bind fun e' he' => succeeds_pure ?_
  simpa using he'

/-- A boolean operation reads as one when its operands do. -/
lemma ReadsAs.boolOp {op : BoolOp} (h : List.Forall₂ (ReadsAs m) xs es) :
    ReadsAs m (.boolOp op xs r) (.boolOp op es i) := by
  rw [ReadsAs, expr, Syntax.Expr.normalized]
  refine (m.succeeds_infoAt r).bind fun info _ => (ReadsAs.exprs h).bind fun es' hes' => ?_
  refine succeeds_pure ?_
  simpa [exprData_eq_map] using coreList_map_congr hes'

/-- A comparison reads as one when its operands do. -/
lemma ReadsAs.compare {ops : List CompareOp} (hx : ReadsAs m x e)
    (h : List.Forall₂ (ReadsAs m) xs es) :
    ReadsAs m (.compare x ops xs r) (.compare e ops es i) := by
  rw [ReadsAs, expr, Syntax.Expr.normalized]
  refine (m.succeeds_infoAt r).bind fun info _ => hx.bind fun e' he' => ?_
  refine (ReadsAs.exprs h).bind fun es' hes' => succeeds_pure ?_
  simpa [exprData_eq_map] using ⟨he', coreList_map_congr hes'⟩

/-- A conditional reads as one when its three parts do. -/
lemma ReadsAs.conditional (hx : ReadsAs m x e₁) (hy : ReadsAs m y e₂) (hz : ReadsAs m z e₃) :
    ReadsAs m (.conditional x y z r) (.conditional e₁ e₂ e₃ i) := by
  rw [ReadsAs, expr, Syntax.Expr.normalized]
  refine (m.succeeds_infoAt r).bind fun info _ => hx.bind fun e₁' h₁ => ?_
  refine hy.bind fun e₂' h₂ => hz.bind fun e₃' h₃ => succeeds_pure ?_
  simpa using ⟨h₁, h₂, h₃⟩

/-- A lambda with bare parameters reads as one when its body does. -/
lemma ReadsAs.lambda {ps : List (Param Syntax.Expr)} {ns : List String}
    {as : List (ArgDefault Expr)} (hps : ∀ p ∈ ps, p.IsBareName)
    (hnames : List.Forall₂ (fun (p : Param Syntax.Expr) n => p.name = .text n) ps ns)
    (has : List.Forall₂ Grammar.IsBareArg ns as) (hx : ReadsAs m x e) :
    ReadsAs m (.lambda { plain := as } x r) (.lambda ps e i) := by
  have hnone : Succeeds (m.presets []) fun ps' => ps' = [] := by
    rw [Manuscript.presets]
    exact succeeds_pure rfl
  rw [ReadsAs, expr, Syntax.Expr.normalized]
  refine (m.succeeds_infoAt r).bind fun info _ => ?_
  refine (succeeds_presets hps hnames has).bind fun ps' hps' => ?_
  rw [List.isEmpty_nil, starParam, pure_bind, mappingParam]
  refine hnone.bind fun ps'' hps'' => ?_
  subst hps''
  rw [pure_bind]
  refine hx.bind fun e' he' => succeeds_pure ?_
  simpa [paramData_eq_map, -List.map_map] using ⟨coreList_map_congr hps', he'⟩

/-- An `await` reads as one when its operand does. -/
lemma ReadsAs.await (hx : ReadsAs m x e) : ReadsAs m (.await x r) (.await e i) := by
  rw [ReadsAs, expr, Syntax.Expr.normalized]
  refine (m.succeeds_infoAt r).bind fun info _ => hx.bind fun e' he' => succeeds_pure ?_
  simpa using he'

/-- A tuple reads as one when its items do. -/
lemma ReadsAs.tuple (h : List.Forall₂ (ReadsAs m) xs es) :
    ReadsAs m (.tuple xs r) (.tuple es i) := by
  rw [ReadsAs, expr, Syntax.Expr.normalized]
  refine (m.succeeds_infoAt r).bind fun info _ => (ReadsAs.exprs h).bind fun es' hes' => ?_
  refine succeeds_pure ?_
  simpa [exprData_eq_map] using coreList_map_congr hes'

/-- A list reads as one when its items do. -/
lemma ReadsAs.list (h : List.Forall₂ (ReadsAs m) xs es) :
    ReadsAs m (.list xs r) (.list es i) := by
  rw [ReadsAs, expr, Syntax.Expr.normalized]
  refine (m.succeeds_infoAt r).bind fun info _ => (ReadsAs.exprs h).bind fun es' hes' => ?_
  refine succeeds_pure ?_
  simpa [exprData_eq_map] using coreList_map_congr hes'

/-- A call reads as one when its function and its arguments do. -/
lemma ReadsAs.call (hx : ReadsAs m x e) (h : List.Forall₂ (ReadsAs m) xs es) :
    ReadsAs m (.call x xs [] r) (.call e es [] i) := by
  rw [ReadsAs, expr, Syntax.Expr.normalized]
  refine (m.succeeds_infoAt r).bind fun info _ => hx.bind fun e' he' => ?_
  refine (ReadsAs.callArgs h).bind fun es' hes' => ?_
  rw [keywordArgs, pure_bind]
  refine succeeds_pure ?_
  simpa [exprData_eq_map] using ⟨he', coreList_map_congr hes'⟩

/-- An attribute reads as one when its object does. -/
lemma ReadsAs.attribute {n : String} (hx : ReadsAs m x e) :
    ReadsAs m (.attribute x (Text.normalForm n) r) (.attribute e (.text n) i) := by
  rw [ReadsAs, expr, Syntax.Expr.normalized]
  refine (m.succeeds_infoAt r).bind fun info _ => hx.bind fun e' he' => succeeds_pure ?_
  simpa [normalizedName] using he'

/-- A subscript reads as one when its object and its index do. -/
lemma ReadsAs.subscript (hx : ReadsAs m x e₁) (hy : ReadsAs m y e₂) :
    ReadsAs m (.subscript x y r) (.subscript e₁ e₂ i) := by
  rw [ReadsAs, expr, Syntax.Expr.normalized]
  refine (m.succeeds_infoAt r).bind fun info _ => hx.bind fun e₁' h₁ => hy.bind fun e₂' h₂ => ?_
  refine succeeds_pure ?_
  simpa using ⟨h₁, h₂⟩

end BlockText.Source

import BlockText.Proofs.Build.Calls
import BlockText.Proofs.Workspace.Declarations

/-!
# Blocks of targets

A target binds the names of the identifiers in it, however deep tuples and lists nest.  Its blocks
bind the same names, and the blocks of any other expression bind none.
-/

namespace BlockText

open Syntax

/-- The expression can bind names: it is a name, or it lists targets. -/
def Syntax.Expr.isTarget : Expr → Bool
  | .identifier _ _ | .tuple _ _ | .list _ _ => true
  | _ => false

/-- Blocks of the type can bind names. -/
def BlockType.isTarget : BlockType → Bool
  | identifier | tuple | list => true
  | _ => false

lemma Syntax.Expr.boundNames_eq_nil {e : Expr} (h : e.isTarget = false) : e.boundNames = [] := by
  cases e with
  | identifier | tuple | list => cases h
  | _ => rw [boundNames] <;> simp

lemma BlockTree.boundNames_eq_nil {id : BlockId} {b : Block} {slot : String → BlockTree}
    {next : BlockTree} (h : b.type.isTarget = false) : (node id b slot next).boundNames = [] := by
  unfold boundNames
  cases ht : b.type with
  | identifier | tuple | list =>
    rw [ht] at h
    cases h
  | _ => rfl

namespace Compile

/-- A block that can bind names is read as an expression that can, if it is read at all. -/
lemma ends_expr_isTarget {id : BlockId} {b : Block} {slot : String → BlockTree} {next : BlockTree}
    (h : b.type.isTarget) :
    Ends (expr (.node id b slot next)) (fun e => e.isTarget) True := by
  have hany : ∀ {α : Type} (x : Compile α), Ends x (fun _ => True) True := by
    intro α x c
    split <;> trivial
  rw [expr]
  refine Ends.checked ?_
  cases ht : b.type with
  | identifier =>
    simp only [exprOf, ht]
    exact (hany _).bind fun _ _ => ends_pure rfl
  | tuple | list =>
    simp only [exprOf, ht]
    exact (hany _).bind fun _ _ => (hany _).bind fun _ _ => (hany _).bind fun _ _ => ends_pure rfl
  | _ =>
    rw [ht] at h
    cases h

end Compile

/-- Expressions that are alike both bind names, or both bind none. -/
lemma Syntax.Expr.Alike.isTarget {e e' : Expr} (h : e'.Alike e) (he : e.Sane)
    (he' : e'.isTarget) : e.isTarget := by
  have htag : ∀ {tag tag' : Tag} {ds ds' : List Datum},
      (Datum.record tag ds).core = (Datum.record tag' ds').core → tag.name = tag'.name := by
    intro tag tag' ds ds' heq
    simp only [Datum.core_record, Datum.object.injEq, List.cons.injEq, Prod.mk.injEq,
      Datum.text.injEq, true_and] at heq
    exact heq.1
  cases e with
  | identifier | tuple | list => rfl
  | stray d => exact he.elim
  | _ =>
    cases e' with
    | identifier | tuple | list =>
      simp only [Syntax.Alike, Expr.toDatum] at h
      exact absurd (htag h) (by decide)
    | _ => cases he'

/-- What shows an expression that binds no names binds none either. -/
lemma Compile.Reads.boundNames_eq_nil {t : BlockTree} {e : Expr} (h : Compile.Reads t e)
    (he : e.Sane) (hnot : e.isTarget = false) : t.boundNames = [] := by
  cases t with
  | nothing => rw [BlockTree.boundNames]
  | node id b slot next =>
    refine BlockTree.boundNames_eq_nil (Bool.eq_false_iff.mpr fun ht => ?_)
    obtain ⟨e', c', hrun, halike⟩ := h.2.exists_run {}
    have he' := (Compile.ends_expr_isTarget ht).of_run hrun
    rw [halike.isTarget he he'] at hnot
    cases hnot

namespace Edit

open Workspace Compile

/-- A tree that can be plugged in and binds the names that the expression binds. -/
def Binds (e : Expr) (t : BlockTree) : Prop :=
  IsValue t ∧ ∀ name, name ∈ t.boundNames ↔ name ∈ e.boundNames

/-- The block of a name binds it. -/
private lemma binds_identifier {name : Datum} {i : Info} (hname : IsName name) :
    Builds (exprBlock (.identifier name i)) (Binds (.identifier name i)) := by
  obtain ⟨name, -, rfl⟩ := hname
  intro ws hws
  rw [exprBlock, map_eq_pure_bind]
  refine yields_newBlock hws (by decide) (by decide) (by simp)
    ((fitting_text ⟨_, rfl⟩ rfl).cons fitting_nil) fun X b ws₁ h₁ ht _ hfield => ?_
  have hfield' : b.field? "name" = some (.ofPoints name) := hfield
  refine ⟨_, rfl, h₁, by simp [IsValue, Block.isExpression, Block.kind, ht, BlockType.kind], ?_⟩
  intro d
  simp only [BlockTree.boundNames, ht, hfield', Option.getD_some, Expr.boundNames]

/-- The block of a tuple or a list binds what the items bind. -/
private lemma binds_items {t : BlockType} {e : Expr} {es : List Expr}
    (hes : ∀ e ∈ es, Builds (exprBlock e) (Binds e)) (hitems : t = .tuple ∨ t = .list)
    (hblock : exprBlock e = do
      let id ← newBlock t [("item_count", count es.length)]
      plugAll id "ITEM" 0 es
      return some id)
    (hnames : e.boundNames = boundNamesIn es) : Builds (exprBlock e) (Binds e) := by
  have hfits : t ≠ .syncError ∧ t ≠ .string ∧ takes t "item_count" .count ∧ t.valueSlots = [] ∧
      t.kind = .expression := by
    rcases hitems with rfl | rfl <;> decide
  obtain ⟨hsync, hstring, htakes, hslots, hkind⟩ := hfits
  intro ws hws
  rw [hblock]
  refine yields_newBlock hws hsync hstring (by simp) ((fitting_count htakes).cons fitting_nil)
    fun X b ws₁ h₁ ht _ hcount => ?_
  refine yields_plugEach hws.forest h₁ hes (fun _ _ h => h.1)
    (mem_items h₁ ht (hitems.elim (.inr ∘ .inl) (.inr ∘ .inr ∘ .inl)) hcount) (fun _ _ => rfl)
    fun b₂ slot₂ ws₂ hes' k₂ h₂ => ?_
  have ht₂ : b₂.type = t := k₂.type.trans ht
  have hcount₂ : b₂.field? "item_count" = some (.int es.length) :=
    k₂.field _ _ (fun j => (indexed_ne (by decide) j).symm) hcount
  have hvalues : ∀ s, s ∈ b₂.values ↔ s ∈ indexed "ITEM" es.length := by
    intro s
    obtain ⟨shape, hshape, hhas⟩ := (proper_of_opened h₂).shaped
    have hown : t.shapeFor b₂.fields = .ok { values := indexed "ITEM" es.length } := by
      rcases hitems with rfl | rfl <;>
        simp [BlockType.shapeFor, countOf_of_entry hcount₂, bind, Except.bind, pure, Except.pure]
    rw [ht₂, hown] at hshape
    obtain rfl := Except.ok.inj hshape
    rw [hhas.values, ht₂, hslots, List.nil_append]
  refine ⟨_, rfl, h₂, by simp [IsValue, Block.isExpression, Block.kind, ht₂, hkind], fun d => ?_⟩
  have htop : d ∈ (BlockTree.node X b₂ slot₂ .nothing).boundNames ↔
      ∃ s ∈ b₂.values, d ∈ (slot₂ s).boundNames := by
    rw [← List.mem_flatMap]
    rcases hitems with rfl | rfl <;> simp only [BlockTree.boundNames, ht₂]
  have hall : (∃ s ∈ b₂.values, d ∈ (slot₂ s).boundNames) ↔
      ∃ j, ∃ hj : j < es.length, d ∈ es[j].boundNames := by
    constructor
    · rintro ⟨s, hs, hd⟩
      obtain ⟨j, hj, rfl⟩ := mem_indexed_iff.mp ((hvalues s).mp hs)
      exact ⟨j, hj, ((hes' j hj).2 d).mp hd⟩
    · rintro ⟨j, hj, hd⟩
      exact ⟨_, (hvalues _).mpr (mem_indexed hj), ((hes' j hj).2 d).mpr hd⟩
  rw [htop, hall, hnames, mem_boundNamesIn]
  constructor
  · rintro ⟨j, hj, hd⟩
    exact ⟨es[j], List.getElem_mem hj, hd⟩
  · rintro ⟨e, he, hd⟩
    obtain ⟨j, hj, rfl⟩ := List.getElem_of_mem he
    exact ⟨j, hj, hd⟩

/-- The blocks of a well-formed expression bind the names that it binds. -/
lemma builds_binds {e : Expr} (he : e.WellFormed) : Builds (exprBlock e) (Binds e) := by
  induction he with
  | @intro e sane parts ih =>
    have hnone : e.isTarget = false → Builds (exprBlock e) (Binds e) := by
      intro hnot ws hws
      refine (builds_of_wellFormed (.intro sane parts) ws hws).mono ?_
      rintro _ ws' ⟨t, rfl, hgrove, hvalue, hreads⟩
      refine ⟨t, rfl, hgrove, hvalue, fun name => ?_⟩
      rw [hreads.boundNames_eq_nil sane hnot, Expr.boundNames_eq_nil hnot]
    cases e with
    | identifier name i => exact binds_identifier sane
    | tuple es i =>
      have hes : ∀ e ∈ es, Builds (exprBlock e) (Binds e) := ih
      exact binds_items hes (.inl rfl) (by rw [exprBlock]) (by rw [Expr.boundNames])
    | list es i =>
      have hes : ∀ e ∈ es, Builds (exprBlock e) (Binds e) := ih
      exact binds_items hes (.inr rfl) (by rw [exprBlock]) (by rw [Expr.boundNames])
    | _ => exact hnone rfl

end Edit

end BlockText

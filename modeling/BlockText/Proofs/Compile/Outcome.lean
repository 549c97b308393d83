import BlockText.Proofs.Block.Slots
import BlockText.Proofs.Datum.Texts
import BlockText.Proofs.Syntax.Likeness
import BlockText.Workspace.Compile

/-!
# How reading ends

Reading succeeds or is refused.  `Compile.Ends` says what holds of the result if it succeeds and
which flaw explains a refusal, whatever the counter of identities; `Compile.Gives` says that it
succeeds.  The rules follow the steps of the readers.
-/

namespace BlockText.Compile

open Syntax

variable {α β : Type}

/-- If reading succeeds, the result has a property; if it is refused, there is a flaw. -/
def Ends (x : Compile α) (good : α → Prop) (flaw : Prop) : Prop :=
  ∀ c, match (x.run c).1 with
    | .ok a => good a
    | .error _ => flaw

/-- Reading succeeds, and the result has a property. -/
def Gives (x : Compile α) (good : α → Prop) : Prop := Ends x good False

variable {good : α → Prop} {flaw : Prop}

/-! ## Rules -/

/-- A result that is good ends well. -/
lemma ends_pure {a : α} (h : good a) : Ends (pure a) good flaw := fun _ => h

/-- An error ends well where there is a flaw to blame. -/
lemma ends_throw {e : CompileError} (h : flaw) : Ends (throw e : Compile α) good flaw := fun _ => h

/-- A rejection ends well where there is a flaw to blame. -/
lemma ends_reject {kind : StructuralErrorKind} {detail : String} {id : BlockId} (h : flaw) :
    Ends (reject kind detail id : Compile α) good flaw := fun _ => h

/-- An outcome may be described by less. -/
lemma Ends.mono {x : Compile α} {good' : α → Prop} {flaw' : Prop} (h : Ends x good flaw)
    (hgood : ∀ a, good a → good' a) (hflaw : flaw → flaw') : Ends x good' flaw' := by
  intro c
  have hc := h c
  split at hc
  · exact hgood _ hc
  · exact hflaw hc

/-- A run that succeeds. -/
lemma Ends.of_run {x : Compile α} (h : Ends x good flaw) {c c' : IdCounter} {a : α}
    (hx : x.run c = (.ok a, c')) : good a := by
  have hc := h c
  rwa [hx] at hc

/-- Without a flaw every run succeeds. -/
lemma Ends.exists_run {x : Compile α} (h : Ends x good flaw) (hflaw : ¬ flaw) (c : IdCounter) :
    ∃ a c', x.run c = (.ok a, c') ∧ good a := by
  have hc := h c
  rcases hx : x.run c with ⟨r, c'⟩
  rw [hx] at hc
  cases r with
  | ok a => exact ⟨a, c', rfl, hc⟩
  | error e => exact absurd hc hflaw

/-- A result may be described by less. -/
lemma Ends.imp {x : Compile α} {good' : α → Prop} (h : Ends x good flaw)
    (hgood : ∀ a, good a → good' a) : Ends x good' flaw := h.mono hgood id

/-- One reading after another. -/
lemma Ends.bind {x : Compile β} {f : β → Compile α} {mid : β → Prop} (h : Ends x mid flaw)
    (hf : ∀ b, mid b → Ends (f b) good flaw) : Ends (x >>= f) good flaw := by
  intro c
  have hc := h c
  rw [ExceptT.run_bind]
  simp only [Bind.bind, StateT.bind]
  rcases hx : x.run c with ⟨r, c'⟩
  rw [hx] at hc
  cases r with
  | ok b => exact hf b hc c'
  | error e => exact hc

/-- Mapping over a result maps over what is good. -/
lemma Ends.map {x : Compile β} {f : β → α} (h : Ends x (fun b => good (f b)) flaw) :
    Ends (f <$> x) good flaw := by
  rw [map_eq_pure_bind]
  exact h.bind fun b hb => ends_pure hb

/-- A fresh identity is there at any time. -/
lemma ends_freshInfo : Ends freshInfo (fun _ => True) flaw := fun _ => trivial

/-- Reporting faults of fields in other words leaves a flaw a flaw. -/
lemma Ends.checked {id : BlockId} {b : Block} {x : Compile α} (h : Ends x good flaw) :
    Ends (checked id b x) good flaw := by
  intro c
  have hc := h c
  unfold Compile.checked
  change match ((ExceptT.tryCatch x _).run c).1 with
    | .ok a => good a
    | .error _ => flaw
  simp only [ExceptT.tryCatch, ExceptT.run, ExceptT.mk, Bind.bind, StateT.bind]
  rcases hx : x.run c with ⟨r, c'⟩
  rw [hx] at hc
  rw [show x c = (r, c') from hx]
  cases r with
  | ok a => exact hc
  | error e =>
    cases e with
    | structural e => exact hc
    | fault f =>
      dsimp only
      cases f.category == .attribute with
      | true => exact hc
      | false => exact hc

/-- Reading items one after another. -/
lemma ends_mapM {f : β → Compile α} {R : β → α → Prop} {bs : List β}
    (h : ∀ b ∈ bs, Ends (f b) (R b) flaw) :
    Ends (bs.mapM f) (fun as => List.Forall₂ R bs as) flaw := by
  induction bs with
  | nil => exact ends_pure .nil
  | cons b rest ih =>
    rw [List.mapM_cons]
    exact (h b List.mem_cons_self).bind fun a ha =>
      (ih fun c hc => h c (List.mem_cons_of_mem b hc)).bind fun as has => ends_pure (.cons ha has)

/-! ### What reading can give -/

/-- Reading gives the result for some counter of identities. -/
def Returns (x : Compile α) (a : α) : Prop := ∃ c c', x.run c = (.ok a, c')

/-- If reading succeeds, its result is one that it can give. -/
lemma ends_returns (x : Compile α) : Ends x (Returns x) True := by
  intro c
  rcases hx : x.run c with ⟨r, c'⟩
  cases r with
  | ok a => exact ⟨c, c', hx⟩
  | error e => trivial

/-- A result has two properties if it has each of them. -/
lemma Ends.and {x : Compile α} {good' : α → Prop} (h : Ends x good flaw) (h' : Ends x good' True) :
    Ends x (fun a => good a ∧ good' a) flaw := by
  intro c
  have hc := h c
  have hc' := h' c
  rcases hx : x.run c with ⟨r, c'⟩
  rw [hx] at hc hc'
  cases r with
  | ok a => exact ⟨hc, hc'⟩
  | error e => exact hc

/-- If reading succeeds, its result is also one that it can give. -/
lemma Ends.returned {x : Compile α} (h : Ends x good flaw) :
    Ends x (fun a => good a ∧ Returns x a) flaw := h.and (ends_returns x)

/-- A member of a list that goes along another one belongs to a member of that one. -/
lemma exists_of_forall₂ {R : β → α → Prop} {bs : List β} {as : List α}
    (h : List.Forall₂ R bs as) : ∀ a ∈ as, ∃ b ∈ bs, R b a := by
  induction h with
  | nil => simp
  | cons hab _ ih =>
    refine List.forall_mem_cons.mpr ⟨⟨_, List.mem_cons_self, hab⟩, fun a ha => ?_⟩
    obtain ⟨b, hb, hba⟩ := ih a ha
    exact ⟨b, List.mem_cons_of_mem _ hb, hba⟩

/-- Reading items one after another, all in the same way. -/
lemma ends_mapM_all {f : β → Compile α} {bs : List β} (h : ∀ b ∈ bs, Ends (f b) good flaw) :
    Ends (bs.mapM f) (fun as => as.length = bs.length ∧ ∀ a ∈ as, good a) flaw := by
  refine (ends_mapM h).imp fun as has => ⟨has.length_eq.symm, fun a ha => ?_⟩
  obtain ⟨-, -, hgood⟩ := exists_of_forall₂ has a ha
  exact hgood

/-! ## Reading that succeeds -/

/-- Reading that succeeds needs no flaw. -/
lemma Gives.ends {x : Compile α} (h : Gives x good) : Ends x good flaw :=
  Ends.mono h (fun _ => id) False.elim

lemma gives_pure {a : α} (h : good a) : Gives (pure a) good := ends_pure h

/-- What is given may be described by less. -/
lemma Gives.mono {x : Compile α} {good' : α → Prop} (h : Gives x good)
    (himp : ∀ a, good a → good' a) : Gives x good' := Ends.mono h himp id

/-- What is given is passed on to the next step. -/
lemma Gives.bind {x : Compile β} {f : β → Compile α} {mid : β → Prop} (h : Gives x mid)
    (hf : ∀ b, mid b → Gives (f b) good) : Gives (x >>= f) good := Ends.bind h hf

/-- Mapping over what is given maps over what is good. -/
lemma Gives.map {x : Compile β} {f : β → α} (h : Gives x fun b => good (f b)) :
    Gives (f <$> x) good := Ends.map h

/-- Fresh metadata are always given. -/
lemma gives_freshInfo : Gives freshInfo fun _ => True := ends_freshInfo

/-- Faults of fields do not matter where there are none. -/
lemma Gives.checked {id : BlockId} {b : Block} {x : Compile α} (h : Gives x good) :
    Gives (checked id b x) good := Ends.checked h

/-- A run of a reading that succeeds. -/
lemma Gives.exists_run {x : Compile α} (h : Gives x good) (c : IdCounter) :
    ∃ a c', x.run c = (.ok a, c') ∧ good a := Ends.exists_run h id c

/-- The spelling of a value of a vocabulary is read as that value. -/
class Spelled (α : Type) [Choice α] : Prop where
  choice?_spelled : ∀ a : α, choice? α (spelled a) = some a

/-- A choice is given back from its own spelling. -/
lemma gives_chosen [Choice α] [Spelled α] (id : BlockId) (a : α) :
    Gives (chosen α id (spelled a)) (· = a) := by
  unfold chosen
  rw [Spelled.choice?_spelled]
  exact gives_pure rfl

instance : Spelled BinaryOp := ⟨fun a => by cases a <;> decide⟩
instance : Spelled UnaryOp := ⟨fun a => by cases a <;> decide⟩
instance : Spelled BoolOp := ⟨fun a => by cases a <;> decide⟩
instance : Spelled CompareOp := ⟨fun a => by cases a <;> decide⟩
instance : Spelled ParamKind := ⟨fun a => by cases a <;> decide⟩
instance : Spelled PartKind := ⟨fun a => by cases a <;> decide⟩
instance : Spelled ComprehensionKind := ⟨fun a => by cases a <;> decide⟩

/-- A count field that holds a number. -/
lemma gives_countIn {b : Block} {name : String} {n : ℕ} (h : b.field? name = some (.int n)) :
    Gives (countIn b name) (· = n) := by
  unfold countIn
  rw [h]
  exact gives_pure (by simp)

/-! ## Lists -/

/-- Reading items one after another. -/
lemma gives_mapM {γ : Type} {f : β → Compile α} {like : α → γ → Prop} {bs : List β} {cs : List γ}
    (h : List.Forall₂ (fun b c => Gives (f b) (like · c)) bs cs) :
    Gives (bs.mapM f) fun as => List.Forall₂ like as cs := by
  induction h with
  | nil => exact gives_pure .nil
  | cons hb _ ih =>
    rw [List.mapM_cons]
    exact hb.bind fun a ha => ih.bind fun as has => gives_pure (.cons ha has)

/-- Numbers from zero on beside the items of a list. -/
lemma forall₂_range {γ : Type} {R : ℕ → γ → Prop} (cs : List γ)
    (h : ∀ i (hi : i < cs.length), R i cs[i]) : List.Forall₂ R (List.range cs.length) cs := by
  rw [List.forall₂_iff_get]
  refine ⟨by simp, fun i hi hi' => ?_⟩
  simpa using h i hi'

/-- Reading items by their index. -/
lemma gives_mapM_range {γ : Type} {f : ℕ → Compile α} {like : α → γ → Prop} (cs : List γ)
    (h : ∀ i (hi : i < cs.length), Gives (f i) (like · cs[i])) :
    Gives ((List.range cs.length).mapM f) fun as => List.Forall₂ like as cs :=
  gives_mapM (forall₂_range cs h)

/-- Reading items by a name with their index. -/
lemma gives_mapM_indexed {γ : Type} {f : String → Compile α} {like : α → γ → Prop} (stem : String)
    (cs : List γ) (h : ∀ i (hi : i < cs.length), Gives (f s!"{stem}{i}") (like · cs[i])) :
    Gives ((indexed stem cs.length).mapM f) fun as => List.Forall₂ like as cs := by
  refine gives_mapM ?_
  rw [indexed, List.forall₂_map_left_iff]
  exact forall₂_range cs h

/-! ## Spellings -/

/-- A text is spelled code point by code point. -/
lemma spelled_ofPoints (ps : List CodePoint) (quote : Datum) :
    Render.spelled (.ofPoints ps) quote =
      .ok (.ofPoints (Text.spellPoints ps (Render.delimiter quote))) := by
  rcases Datum.ofPoints_cases ps with ⟨s, rfl, h⟩ | ⟨t, rfl, h⟩
  · rw [h, Render.spelled, ← Text.points_spell, Datum.ofPoints_points]
  · rw [h, Render.spelled]

end BlockText.Compile

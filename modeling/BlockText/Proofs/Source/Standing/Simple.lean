import BlockText.Proofs.Source.Standing.Patterns
import BlockText.Source.Grammar.Stmt

/-!
# Simple statements among tokens

A statement starts a line of code, or goes on with one behind a semicolon, and takes the tokens up
to its end.  What is in it lies in its range, its bodies lie behind their headers, and each header
begins a line; simple statements have no body.
-/

namespace BlockText.Source

open Rule Syntax

/-! ## Lines of code -/

/-- A line of code begins at a position: no token stands before it, or one that shows layout. -/
def OpensLine (T : Array Token) (i : ℕ) : Prop :=
  i = 0 ∨ ∃ k t, i = k + 1 ∧ T[k]? = some t ∧ t.isLayout = true

/-- The token that starts at a mark begins a line of code, but for tokens without line ends before
it. -/
def Leads (T : Array Token) (m : Mark) : Prop :=
  ∃ i k, i ≤ k ∧ OpensLine T i ∧ IsCode T k ∧ m = startAt T k ∧
    ∀ l, i ≤ l → l < k → ∃ t, T[l]? = some t ∧ t.isLayout = false ∧ '\n' ∉ t.text.toList

/-- A body of a statement: where the header that leads to it starts, where what it belongs to ends,
and its statements. -/
structure Branch where
  head : Mark
  stop : Mark
  body : List Stmt

/-- An imported name. -/
def Alias.part (a : Alias) : Part := ⟨a.range, []⟩

/-- A context with its target. -/
def Context.part (c : Context) : Part :=
  ⟨Manuscript.between c.value.range ((c.target.map Expr.range).getD c.value.range), [c.value]⟩

/-- A handler. -/
def Catch.part (c : Catch Stmt) : Part := ⟨c.range, c.type.toList⟩

/-- A case goes on to the end of its body. -/
def Case.range (c : Case Stmt) : Range :=
  ⟨c.pattern.range.start, (c.body.getLast?.map fun s => s.range.stop).getD c.pattern.range.stop⟩

/-- The body of a case, if some block can show the pattern. -/
def Case.branches (c : Case Stmt) : List Branch :=
  match c.pattern with
  | .other _ _ => []
  | _ => [⟨c.range.start, c.range.stop, c.body⟩]

/-- The start of the first decorator, or else a mark. -/
def headOf (ds : List Expr) (m : Mark) : Mark := (ds.head?.map fun d => d.range.start).getD m

namespace Stmt

/-- Where a statement starts: with its first decorator, if it has any. -/
def head (s : Stmt) : Mark := headOf (Manuscript.decoratorsOf s) s.range.start

/-- The place of a statement with its decorators. -/
def outer (s : Stmt) : Range := ⟨s.head, s.range.stop⟩

/-- The expressions right inside a statement. -/
def operands : Stmt → List Expr
  | .ifStmt t .. | .whileStmt t .. => [t]
  | .forStmt t i .. => [t, i]
  | .matchStmt e .. | .exprStmt e _ => [e]
  | .functionDef _ _ _ ds ret _ _ => ds ++ ret.toList
  | .classDef _ bs _ _ ds _ => ds ++ bs
  | .assign ts e _ => ts ++ [e]
  | .annAssign t h e _ => t :: h :: e.toList
  | .augAssign t _ e _ => [t, e]
  | .returnStmt e _ => e.toList
  | .assertStmt t e _ => t :: e.toList
  | .raiseStmt e c _ => e.toList ++ c.toList
  | .deleteStmt ts _ => ts
  | .withStmt .. | .tryStmt .. | .passStmt _ | .breakStmt _ | .continueStmt _ | .importStmt ..
  | .fromStmt .. | .globalStmt .. | .nonlocalStmt .. => []

/-- The parts of a statement. -/
def parts : Stmt → List Part
  | .functionDef _ a .. => a.parts
  | .withStmt items .. => items.map Context.part
  | .importStmt names _ | .fromStmt _ names _ => names.map Alias.part
  | .tryStmt _ hs .. => hs.map Catch.part
  | _ => []

/-- The cases of a statement. -/
def cases : Stmt → List (Case Stmt)
  | .matchStmt _ cs _ => cs
  | _ => []

/-- The bodies of a statement. -/
def branches : Stmt → List Branch
  | .ifStmt _ b e r | .whileStmt _ b e r | .forStmt _ _ b e _ r =>
    [⟨r.start, r.stop, b⟩, ⟨r.start, r.stop, e⟩]
  | .withStmt _ b _ r => [⟨r.start, r.stop, b⟩]
  | .functionDef _ _ b ds _ _ r | .classDef _ _ _ b ds r => [⟨headOf ds r.start, r.stop, b⟩]
  | .tryStmt b hs e f _ r =>
    [⟨r.start, r.stop, b⟩, ⟨r.start, r.stop, e⟩, ⟨r.start, r.stop, f⟩] ++
      hs.map fun h => ⟨h.range.start, h.range.stop, h.body⟩
  | .matchStmt _ cs _ => cs.flatMap Case.branches
  | _ => []

end Stmt

variable {T : Array Token} {i i' j j' k l : ℕ} {s : Stmt} {ss : List Stmt} {e : Expr}

/-- The header of a body begins a line of code, and the statements of the body stand behind a token
of it, on a later line if they are decorated. -/
structure Branch.Fits (T : Array Token) (b : Branch) : Prop where
  leads : Leads T b.head
  head_lt : ∀ s ∈ b.body, ∃ j, b.head.place < (stopBefore T j).place ∧
    (stopBefore T j).place ≤ s.head.place
  below : ∀ s ∈ b.body, Manuscript.decoratorsOf s ≠ [] → b.head.line < s.head.line
  stop_le : ∀ s ∈ b.body, s.range.stop.place ≤ b.stop.place

/-- A case stands below the first line of its statement, and its pattern ends inside it. -/
structure Case.Fits (outer : Range) (c : Case Stmt) : Prop where
  below : outer.start.line < c.range.start.line
  forward : c.pattern.range.start.place ≤ c.pattern.range.stop.place
  pattern_le : c.pattern.range.stop.place ≤ c.range.stop.place
  stop_le : c.range.stop.place ≤ outer.stop.place
  literal : ∀ e r, c.pattern = .literal e r → r = e.range ∧ e.IsNested

/-- What is right inside a statement lies inside it. -/
structure Stmt.Fits (T : Array Token) (s : Stmt) : Prop where
  head_le : s.head.place ≤ s.range.start.place
  forward : s.range.start.place ≤ s.range.stop.place
  operands : ∀ c ∈ s.operands, s.outer.Holds c.range ∧ c.IsNested
  parts : ∀ p ∈ s.parts, s.outer.Holds p.range ∧
    ∀ c ∈ p.operands, p.range.Holds c.range ∧ c.IsNested
  branches : ∀ b ∈ s.branches, b.Fits T
  cases : ∀ c ∈ s.cases, c.pattern.IsShown → c.Fits s.outer

/-- All that is inside a statement lies where it belongs. -/
inductive Stmt.IsNested (T : Array Token) : Stmt → Prop
  | intro {s : Stmt} (here : s.Fits T)
    (inside : ∀ b ∈ s.branches, ∀ c ∈ b.body, Stmt.IsNested T c) : Stmt.IsNested T s

/-- A statement stands among tokens. -/
structure Stmt.Stands (T : Array Token) (i : ℕ) (s : Stmt) (j : ℕ) : Prop where
  lt : i < j
  isCode : IsCode T i
  head_le : (startAt T i).place ≤ s.head.place
  stop_le : s.range.stop.place ≤ (stopBefore T j).place
  nested : s.IsNested T

/-- A statement stands somewhere between two positions. -/
def Stmt.Among (T : Array Token) (i : ℕ) (s : Stmt) (j : ℕ) : Prop :=
  ∃ k l, i ≤ k ∧ l ≤ j ∧ s.Stands T k l

namespace Stmt.Among

/-- A statement between inner positions is between outer ones. -/
lemma mono (h : s.Among T i j) (hi : i' ≤ i) (hj : j ≤ j') : s.Among T i' j' := by
  obtain ⟨k, l, hk, hl, hs⟩ := h
  exact ⟨k, l, hi.trans hk, hl.trans hj, hs⟩

/-- A statement does not end before it starts. -/
lemma le (h : s.Among T i j) : i ≤ j := by
  obtain ⟨k, l, hk, hl, hs⟩ := h
  exact (hk.trans hs.lt.le).trans hl

/-- A statement among tokens is nested. -/
lemma nested (h : s.Among T i j) : s.IsNested T := by
  obtain ⟨k, l, -, -, hs⟩ := h
  exact hs.nested

end Stmt.Among

/-- Statements stand one after another between two positions, and behind them a line begins. -/
structure Laid (T : Array Token) (i : ℕ) (ss : List Stmt) (j : ℕ) : Prop where
  le : i ≤ j
  among : ∀ s ∈ ss, s.Among T i j
  ordered : ss.Pairwise fun s s' => s.range.stop.place ≤ s'.range.stop.place
  opens : OpensLine T j

/-- No statements are laid out where a line starts. -/
lemma laid_nil (h : OpensLine T i) : Laid T i [] i := ⟨le_rfl, nofun, .nil, h⟩

/-- The parts of a nested statement fit into it. -/
lemma Stmt.IsNested.fits (h : s.IsNested T) : s.Fits T := by
  cases h with
  | intro here _ => exact here

/-- What stands behind a position ends behind it. -/
lemma Stmt.Among.stopBefore_le (h : s.Among T j k) (hT : InOrder T) :
    (stopBefore T j).place ≤ s.range.stop.place := by
  obtain ⟨k', l, hk, -, hs⟩ := h
  have hfits := hs.nested.fits
  exact ((hT.stopBefore_le_startAt hs.isCode hk).trans hs.head_le).trans
    (hfits.head_le.trans hfits.forward)

/-- A statement among tokens ends no later than they do. -/
lemma Stmt.Among.le_stopBefore (h : s.Among T i j) (hT : InOrder T) :
    s.range.stop.place ≤ (stopBefore T j).place := by
  obtain ⟨k, l, -, hl, hs⟩ := h
  exact hs.stop_le.trans (hT.stopBefore_mono hl)

/-- Statements that follow one another are laid out together. -/
lemma Laid.append {ss' : List Stmt} (h : Laid T i ss j) (h' : Laid T j ss' k) (hT : InOrder T) :
    Laid T i (ss ++ ss') k where
  le := h.le.trans h'.le
  among := List.forall_mem_append.mpr ⟨fun s hs => (h.among s hs).mono le_rfl h'.le,
    fun s hs => (h'.among s hs).mono h.le le_rfl⟩
  ordered := List.pairwise_append.mpr ⟨h.ordered, h'.ordered, fun s hs s' hs' =>
    ((h.among s hs).le_stopBefore hT).trans ((h'.among s' hs').stopBefore_le hT)⟩
  opens := h'.opens

/-- Statements one after another end one after another. -/
lemma pairwise_of_series (hT : InOrder T) (h : Series (fun i s j => s.Among T i j) i ss j) :
    ss.Pairwise fun s s' => s.range.stop.place ≤ s'.range.stop.place := by
  induction h with
  | nil => exact .nil
  | @cons i j k s ss first rest ih =>
    refine List.pairwise_cons.mpr ⟨fun s' hs' => ?_, ih⟩
    obtain ⟨k', l, hk, hl, hs'⟩ := (rest.mem fun _ _ _ h => h.le).2 s' hs'
    exact (first.le_stopBefore hT).trans ((hs'.mono hk hl).stopBefore_le hT)

/-- The statements of a body; decorated ones stand below what is before all of them. -/
structure IsBody (T : Array Token) (i : ℕ) (ss : List Stmt) (j : ℕ) : Prop extends
    Laid T i ss j where
  below : ∀ s ∈ ss, Manuscript.decoratorsOf s ≠ [] → (stopBefore T i).line < s.head.line

/-- A body is laid out behind an earlier position, too. -/
lemma IsBody.widen (h : IsBody T i ss j) (hT : InOrder T) (hi : i' ≤ i) : IsBody T i' ss j where
  le := hi.trans h.le
  among s hs := (h.among s hs).mono hi le_rfl
  ordered := h.ordered
  opens := h.opens
  below s hs hdecorated := (line_le_of_place_le (hT.stopBefore_mono hi)).trans_lt
    (h.below s hs hdecorated)

/-- The last statement of a body ends last. -/
lemma Laid.le_getLast (h : Laid T i ss j) {last : Stmt} (hlast : ss.getLast? = some last) :
    ∀ s ∈ ss, s.range.stop.place ≤ last.range.stop.place := by
  obtain ⟨front, rfl⟩ := List.getLast?_eq_some_iff.mp hlast
  intro s hs
  rcases List.mem_append.mp hs with hs | hs
  · exact (List.pairwise_append.mp h.ordered).2.2 s hs last (List.mem_singleton_self last)
  · rw [List.mem_singleton.mp hs]

/-- A body fits behind its header, and all in it lies where it belongs. -/
structure Branch.Stands (T : Array Token) (b : Branch) : Prop where
  fits : b.Fits T
  nested : ∀ s ∈ b.body, s.IsNested T

/-- A body with a header in front of it is a branch that ends where all its statements have. -/
lemma IsBody.branch_of_le (h : IsBody T i ss j) (hT : InOrder T) {m stop : Mark}
    (hleads : Leads T m) (hm : m.place < (stopBefore T i).place)
    (hstop : ∀ s ∈ ss, s.range.stop.place ≤ stop.place) : (⟨m, stop, ss⟩ : Branch).Stands T where
  fits := by
    refine ⟨hleads, fun s hs => ?_, fun s hs hdecorated => ?_, hstop⟩
    · obtain ⟨k, l, hk, hl, hs⟩ := h.among s hs
      exact ⟨i, hm, (hT.stopBefore_le_startAt hs.isCode hk).trans hs.head_le⟩
    · exact (line_le_of_place_le hm.le).trans_lt (h.below s hs hdecorated)
  nested s hs := (h.among s hs).nested

/-- A body with a header in front of it is a branch up to the end of what was read. -/
lemma IsBody.branch (h : IsBody T i ss j) (hT : InOrder T) {m stop : Mark} (hleads : Leads T m)
    (hm : m.place < (stopBefore T i).place) (hstop : (stopBefore T j).place ≤ stop.place) :
    (⟨m, stop, ss⟩ : Branch).Stands T :=
  h.branch_of_le hT hleads hm fun s hs => ((h.among s hs).le_stopBefore hT).trans hstop

/-- A statement without decorators from one token to another stands there if all in it stands
between them. -/
lemma Stmt.stands_of_parts (hT : InOrder T) (hplain : Manuscript.decoratorsOf s = [])
    (hrange : s.range = tokenRange T i j) (hi : IsCode T i) (hij : i < j)
    (hoperands : ∀ c ∈ s.operands, c.Among T i j) (hparts : ∀ p ∈ s.parts, p.Among T i j)
    (hbranches : ∀ b ∈ s.branches, b.Stands T)
    (hcases : ∀ c ∈ s.cases, c.pattern.IsShown → c.Fits (tokenRange T i j)) : s.Stands T i j := by
  have hhead : s.head = startAt T i := by
    rw [Stmt.head, hplain, hrange]
    rfl
  have houter : s.outer = tokenRange T i j := by
    rw [Stmt.outer, hhead, hrange]
    rfl
  refine ⟨hij, hi, hhead ▸ le_rfl, hrange ▸ le_rfl, .intro ⟨?_, ?_, ?_, ?_, ?_, ?_⟩ ?_⟩
  · rw [hhead, hrange]
    exact le_rfl
  · rw [hrange]
    exact hT.startAt_le_stopBefore hi hij
  · intro c hc
    obtain ⟨k, l, hk, hl, hc⟩ := hoperands c hc
    exact ⟨houter ▸ hc.spans.holds hT hi hk hl, hc.nested⟩
  · intro p hp
    obtain ⟨k, l, hk, hl, hp⟩ := hparts p hp
    exact ⟨houter ▸ hp.spans.holds hT hi hk hl, hp.operands⟩
  · exact fun b hb => (hbranches b hb).fits
  · exact fun c hc hshown => houter ▸ hcases c hc hshown
  · exact fun b hb => (hbranches b hb).nested

/-- A statement on a line. -/
lemma Stmt.stands_simple (hT : InOrder T) (hplain : Manuscript.decoratorsOf s = [])
    (hrange : s.range = tokenRange T i j) (hi : IsCode T i) (hij : i < j)
    (hoperands : ∀ c ∈ s.operands, c.Among T i j) (hparts : ∀ p ∈ s.parts, p.Among T i j)
    (hbranches : s.branches = []) (hcases : s.cases = []) : s.Stands T i j :=
  stands_of_parts hT hplain hrange hi hij hoperands hparts (by simp [hbranches]) (by simp [hcases])

namespace Grammar

variable {α : Type} {g : Grammar} {Q : α → ℕ → Prop}

/-! ## Simple statements -/

/-- A statement on a line, which is no definition. -/
def IsSimple (T : Array Token) (i : ℕ) (s : Stmt) (j : ℕ) : Prop :=
  s.Stands T i j ∧ Manuscript.decoratorsOf s = []

/-- A statement from one token to another with nothing but expressions in it. -/
lemma isSimple_of_operands (hT : InOrder T) (hplain : Manuscript.decoratorsOf s = [])
    (hrange : s.range = tokenRange T i j) (hi : IsCode T i) (hij : i < j)
    (hoperands : ∀ c ∈ s.operands, c.Among T i j) (hparts : s.parts = [])
    (hbranches : s.branches = []) (hcases : s.cases = []) : IsSimple T i s j :=
  ⟨Stmt.stands_simple hT hplain hrange hi hij hoperands (by simp [hparts]) hbranches hcases, hplain⟩

/-- A statement from one token to another with nothing but imported names in it. -/
lemma isSimple_of_aliases (hT : InOrder T) {names : List Alias}
    (hplain : Manuscript.decoratorsOf s = []) (hrange : s.range = tokenRange T i j)
    (hi : IsCode T i) (hij : i < j) (hnames : ∀ a ∈ names, a.part.Among T i j)
    (hoperands : s.operands = []) (hparts : s.parts = names.map Alias.part)
    (hbranches : s.branches = []) (hcases : s.cases = []) : IsSimple T i s j := by
  refine ⟨Stmt.stands_simple hT hplain hrange hi hij (by simp [hoperands]) ?_ hbranches hcases,
    hplain⟩
  rw [hparts]
  exact List.forall_mem_map.mpr hnames

section

variable (hg : g.Nests) (hT : InOrder T)

include hg hT

/-- More targets, and the value behind them. -/
lemma gives_assignRest (fuel : ℕ) {m : ℕ} {targets : List Expr} (hmi : m ≤ i)
    (htargets : ∀ e ∈ targets, e.Among T m i) :
    (assignRest g fuel targets).Gives T i fun p j =>
      i ≤ j ∧ ∀ e ∈ p.1 ++ [p.2], e.Among T m j := by
  induction fuel generalizing i targets with
  | zero => exact gives_fail
  | succ fuel ih =>
    refine gives_op_bind fun _ => (gives_assigned hg hT _).bind fun e j he => ?_
    have hlt := he.spans.lt
    have hmore : ∀ c ∈ targets ++ [e], c.Among T m j := by
      refine List.forall_mem_append.mpr ⟨fun c hc => (htargets c hc).mono le_rfl (by omega), ?_⟩
      exact List.forall_mem_singleton.mpr (he.among.mono (by omega) le_rfl)
    refine gives_if_atOp ?_ (gives_pure ⟨by omega, hmore⟩)
    split
    · exact (ih (by omega) hmore).mono fun p k hp => ⟨by omega, hp.2⟩
    · exact gives_diagnosing_bind gives_fail

/-- An expression statement or an assignment is simple. -/
lemma gives_expressionStmt (i : ℕ) : (expressionStmt g).Gives T i (IsSimple T i) := by
  refine gives_start_bind ((gives_starExpressions hg hT i).bind fun e j he => ?_)
  have hi := he.spans.isCode
  have hij := he.spans.lt
  refine gives_peek_bind fun t _ => gives_ite (fun _ => ?_) fun _ => gives_ite (fun _ => ?_)
    fun _ => ?_
  · refine gives_advance_bind ((hg.expression hT).bind fun hint k hhint => ?_)
    have hlt := hhint.spans.lt
    extract_lets rest
    have hrest : ∀ value l, k ≤ l → (∀ c ∈ value, c.Among T k l) →
        (rest value).Gives T l (IsSimple T i) := by
      refine fun value l hkl hvalue => gives_rangeFrom_bind (gives_pure ?_)
      refine isSimple_of_operands hT rfl rfl hi (by omega) ?_ rfl rfl rfl
      refine List.forall_mem_cons.mpr ⟨he.among.mono le_rfl (by omega), ?_⟩
      refine List.forall_mem_cons.mpr ⟨hhint.among.mono (by omega) hkl, fun c hc => ?_⟩
      exact (hvalue c (Option.mem_toList.mp hc)).mono (by omega) le_rfl
    refine gives_if_tryOp (fun _ => ?_) (hrest none k le_rfl nofun)
    refine (gives_assigned hg hT _).map_bind fun value l hvalue => ?_
    have hlt := hvalue.spans.lt
    refine hrest _ l (by omega) fun _ h => ?_
    exact Option.some.inj h ▸ hvalue.among.mono (by omega) le_rfl
  · refine gives_tokensLeft_bind fun n => ?_
    refine (gives_assignRest hg hT n hij.le (List.forall_mem_singleton.mpr he.among)).bind
      fun p k hp => gives_rangeFrom_bind (gives_pure ?_)
    exact isSimple_of_operands hT rfl rfl hi (by omega) hp.2 rfl rfl rfl
  · split
    · refine gives_advance_bind ((gives_assigned hg hT _).bind fun value k hvalue =>
        gives_rangeFrom_bind (gives_pure ?_))
      have hlt := hvalue.spans.lt
      refine isSimple_of_operands hT rfl rfl hi (by omega) ?_ rfl rfl rfl
      refine List.forall_mem_cons.mpr ⟨he.among.mono le_rfl (by omega), ?_⟩
      exact List.forall_mem_singleton.mpr (hvalue.among.mono (by omega) le_rfl)
    · refine gives_diagnosing_bind (gives_rangeFrom_bind (gives_pure ?_))
      exact isSimple_of_operands hT rfl rfl hi hij (List.forall_mem_singleton.mpr he.among) rfl rfl
        rfl

/-- Raising an exception is a simple statement. -/
lemma gives_raiseStmt (i : ℕ) : (raiseStmt g).Gives T i (IsSimple T i) := by
  refine gives_start_bind (gives_word_bind fun hi =>
    (gives_optional_among (hg.expression hT)).bind fun o j ho => ?_)
  obtain ⟨hij, ho⟩ := ho
  cases o with
  | none =>
    exact gives_rangeFrom_bind
      (gives_pure (isSimple_of_operands hT rfl rfl hi (by omega) nofun rfl rfl rfl))
  | some e =>
    have he := ho e rfl
    dsimp only
    have hrest : ∀ cause k, j ≤ k → (∀ c ∈ cause, c.Among T j k) →
        (do return .raiseStmt (some e) cause (← rangeFrom (startAt T i)) : Rule Stmt).Gives T k
          (IsSimple T i) := by
      refine fun cause k hjk hcause => gives_rangeFrom_bind (gives_pure ?_)
      refine isSimple_of_operands hT rfl rfl hi (by omega) ?_ rfl rfl rfl
      refine List.forall_mem_cons.mpr ⟨he.mono (by omega) hjk, fun c hc => ?_⟩
      exact (hcause c (Option.mem_toList.mp hc)).mono (by omega) le_rfl
    refine gives_if_tryWord (fun _ => ?_) (hrest none j le_rfl nofun)
    refine (hg.expression hT).map_bind fun cause k hcause => ?_
    have hlt := hcause.spans.lt
    refine hrest _ k (by omega) fun _ h => ?_
    exact Option.some.inj h ▸ hcause.among.mono (by omega) le_rfl

/-- An assertion is a simple statement. -/
lemma gives_assertStmt (i : ℕ) : (assertStmt g).Gives T i (IsSimple T i) := by
  refine gives_start_bind (gives_word_bind fun hi => (hg.expression hT).bind fun test j htest => ?_)
  have hij := htest.spans.lt
  extract_lets rest
  have hrest : ∀ msg k, j ≤ k → (∀ c ∈ msg, c.Among T j k) →
      (rest msg).Gives T k (IsSimple T i) := by
    refine fun msg k hjk hmsg => gives_rangeFrom_bind (gives_pure ?_)
    refine isSimple_of_operands hT rfl rfl hi (by omega) ?_ rfl rfl rfl
    refine List.forall_mem_cons.mpr ⟨htest.among.mono (by omega) hjk, fun c hc => ?_⟩
    exact (hmsg c (Option.mem_toList.mp hc)).mono (by omega) le_rfl
  refine gives_if_tryOp (fun _ => ?_) (hrest none j le_rfl nofun)
  refine (hg.expression hT).map_bind fun msg k hmsg => ?_
  have hlt := hmsg.spans.lt
  refine hrest _ k (by omega) fun _ h => ?_
  exact Option.some.inj h ▸ hmsg.among.mono (by omega) le_rfl

/-- Deleting targets is a simple statement. -/
lemma gives_deleteStmt (i : ℕ) : (deleteStmt g).Gives T i (IsSimple T i) := by
  refine gives_start_bind (gives_word_bind fun hi => ?_)
  extract_lets target
  have htarget : ∀ i, target.Gives T i fun e => e.Stands T i := fun i =>
    (hg.primary hT).bind fun e j he => gives_ite (fun _ => gives_pure he) fun _ =>
      gives_diagnosing_bind gives_fail
  refine (htarget _).bind fun first j hfirst => (gives_commaElements htarget).bind
    fun rest k hrest => gives_atOp_bind fun _ _ => gives_atKind_bind fun _ _ => ?_
  have hij := hfirst.spans.lt
  refine gives_ite (fun _ => gives_rangeFrom_bind (gives_pure ?_)) fun _ => gives_fail
  refine isSimple_of_operands hT rfl rfl hi (by omega) ?_ rfl rfl rfl
  exact List.forall_mem_cons.mpr ⟨hfirst.among.mono (by omega) hrest.1,
    fun e he => (hrest.2 e he).mono (by omega) le_rfl⟩

/-- Returning a value is a simple statement. -/
lemma gives_returnStmt {t : Token} (ht : T[i]? = some t) (hlayout : t.isLayout = false) : (do
      advance
      let value ← optional (starExpressions g)
      return .returnStmt value (← rangeFrom t.start) : Rule Stmt).Gives T i (IsSimple T i) := by
  rw [← startAt_eq ht]
  refine gives_advance_bind ((gives_optional_among (gives_starExpressions hg hT _)).bind
    fun value j hvalue => gives_rangeFrom_bind (gives_pure ?_))
  have hij := hvalue.1
  refine isSimple_of_operands hT rfl rfl ⟨t, ht, hlayout⟩ (by omega) (fun c hc => ?_) rfl rfl rfl
  exact (hvalue.2 c (Option.mem_toList.mp hc)).mono (by omega) le_rfl

/-- Yielding a value is a simple statement. -/
lemma gives_yieldStmt {t : Token} (ht : T[i]? = some t) : (do
      let e ← yieldExpr g
      diagnosing (do if ← atOp "=" then complain e.range.start.line)
      return .exprStmt e (← rangeFrom t.start) : Rule Stmt).Gives T i (IsSimple T i) := by
  rw [← startAt_eq ht]
  refine (gives_yieldExpr hg hT i).bind fun e j he => gives_diagnosing_bind (gives_rangeFrom_bind
    (gives_pure ?_))
  exact isSimple_of_operands hT rfl rfl he.spans.isCode he.spans.lt
    (List.forall_mem_singleton.mpr he.among) rfl rfl rfl

end

section

variable (hT : InOrder T)

include hT

/-- A statement that is a word. -/
lemma gives_wordStmt {t : Token} (ht : T[i]? = some t) (hlayout : t.isLayout = false)
    (hplain : Manuscript.decoratorsOf s = []) (hrange : s.range = ⟨t.start, t.stop⟩)
    (hoperands : s.operands = []) (hparts : s.parts = []) (hbranches : s.branches = [])
    (hcases : s.cases = []) : (do advance; return s : Rule Stmt).Gives T i (IsSimple T i) := by
  refine gives_advance_bind (gives_pure (isSimple_of_operands hT hplain ?_ ⟨t, ht, hlayout⟩
    (Nat.lt_succ_self i) (by simp [hoperands]) hparts hbranches hcases))
  rw [hrange, tokenRange, startAt_eq ht, stopBefore_succ ht hlayout]

omit hT in
/-- Names one after another. -/
lemma gives_identifiers (sep : String) (i : ℕ) :
    (separated identifier sep).Gives T i fun _ j => IsCode T i ∧ i < j := by
  have hmore : ∀ i, (many (do discard (op sep); identifier)).Gives T i fun _ j => i ≤ j :=
    fun i => gives_many_le fun i => gives_op_bind fun _ => gives_identifier.mono
      fun _ _ h => by omega
  exact gives_identifier_bind fun t hi _ => (hmore _).bind fun rest j hj =>
    gives_pure ⟨hi, hj⟩

/-- A word and names behind it are a simple statement. -/
lemma gives_namesStmt {w : String} {make : List String → Range → Stmt}
    (hplain : ∀ names r, Manuscript.decoratorsOf (make names r) = [])
    (hrange : ∀ names r, (make names r).range = r)
    (hoperands : ∀ names r, (make names r).operands = [])
    (hparts : ∀ names r, (make names r).parts = [])
    (hbranches : ∀ names r, (make names r).branches = [])
    (hcases : ∀ names r, (make names r).cases = []) (i : ℕ) :
    (do
      let p ← namesAfter w
      return make p.1 p.2 : Rule Stmt).Gives T i (IsSimple T i) := by
  have hnames : (namesAfter w).Gives T i fun p j =>
      IsCode T i ∧ i < j ∧ p.2 = tokenRange T i j :=
    gives_start_bind (gives_word_bind fun hi => (gives_identifiers "," _).bind fun names j hj =>
      gives_rangeFrom_bind (gives_pure ⟨hi, by omega, rfl⟩))
  refine hnames.bind fun p j hp => gives_pure ?_
  obtain ⟨hi, hij, hp⟩ := hp
  exact isSimple_of_operands hT (hplain _ _) ((hrange _ _).trans hp) hi hij
    (by simp [hoperands]) (hparts _ _) (hbranches _ _) (hcases _ _)

omit hT in
/-- The other name of an import moves on. -/
lemma gives_asName (i : ℕ) : asName.Gives T i fun _ j => i ≤ j :=
  gives_if_tryWord (fun _ => gives_identifier_bind fun _ _ _ => gives_pure (by omega))
    (gives_pure le_rfl)

omit hT in
/-- Imported names one after another. -/
lemma gives_aliases {name : Rule Alias} (h : ∀ i, name.Gives T i fun a j => a.part.Among T i j)
    (i : ℕ) : (separated name ",").Gives T i fun names j =>
      i < j ∧ ∀ a ∈ names, a.part.Among T i j := by
  have hmore : ∀ i, (many (do discard (op ","); name)).Gives T i
      (Series (fun i (a : Alias) j => a.part.Among T i j) i) := fun i => gives_many fun i =>
    gives_op_bind fun _ => (h (i + 1)).mono fun a j ha => ha.mono (Nat.le_succ i) le_rfl
  refine (h i).bind fun first j hfirst => (hmore j).bind fun rest k hrest => gives_pure ?_
  obtain ⟨hjk, hmem⟩ := hrest.mem fun _ _ _ ha => ha.lt.le
  refine ⟨hfirst.lt.trans_le hjk, List.forall_mem_cons.mpr ⟨hfirst.mono le_rfl hjk, ?_⟩⟩
  intro a ha
  obtain ⟨k', l, hk, hl, ha⟩ := hmem a ha
  exact ha.mono (hfirst.lt.le.trans hk) hl

/-- An imported name from one token to another. -/
lemma among_alias {a : Alias} (hrange : a.range = tokenRange T i j) (hi : IsCode T i)
    (hij : i < j) : a.part.Among T i j := by
  refine ⟨i, j, le_rfl, le_rfl, ?_, nofun⟩
  rw [Alias.part, hrange]
  exact hT.spans hi hij

/-- An import is a simple statement. -/
lemma gives_importStmt (i : ℕ) : importStmt.Gives T i (IsSimple T i) := by
  have hname : ∀ i, (do
      let s ← start
      let name ← moduleName
      let other ← asName
      return (⟨name, other, ← rangeFrom s⟩ : Alias) : Rule Alias).Gives T i
        fun a j => a.part.Among T i j := by
    intro i
    have hmodule : moduleName.Gives T i fun _ j => IsCode T i ∧ i < j :=
      (gives_identifiers "." i).bind fun parts j hj => gives_pure hj
    refine gives_start_bind (hmodule.bind fun name j hj => (gives_asName j).bind fun other k hk =>
      gives_rangeFrom_bind (gives_pure ?_))
    exact among_alias hT rfl hj.1 (hj.2.trans_le hk)
  refine gives_start_bind (gives_word_bind fun hi => (gives_aliases hname _).bind
    fun names j hnames => gives_rangeFrom_bind (gives_pure ?_))
  exact isSimple_of_aliases hT rfl rfl hi (by omega)
    (fun a ha => (hnames.2 a ha).mono (by omega) le_rfl) rfl rfl rfl rfl

/-- Imported names are among the tokens from which they were read. -/
lemma gives_importedNames (i : ℕ) : importedNames.Gives T i fun names j =>
    i < j ∧ ∀ a ∈ names, a.part.Among T i j := by
  have hname : ∀ i, importedName.Gives T i fun a j => a.part.Among T i j := by
    refine fun i => gives_identifier_bind fun t hi hrange => (gives_asName _).bind
      fun other j hj => gives_rangeFrom_bind (gives_pure ?_)
    have hstart : t.start = startAt T i := congrArg Range.start hrange
    exact among_alias hT (by rw [hstart]; rfl) hi hj
  refine gives_peek_bind fun t ht => gives_ite (fun _ => ?_) fun _ => gives_ite (fun hop => ?_)
    fun _ => ?_
  · refine gives_advance_bind ((gives_aliases hname _).bind fun names j hnames =>
      gives_tryOp_discard_bind fun k hk => gives_op_bind fun _ => gives_pure ⟨by omega, ?_⟩)
    exact fun a ha => (hnames.2 a ha).mono (by omega) (by omega)
  · have hlayout := isLayout_of_isOp hop
    refine gives_advance_bind (gives_pure ⟨Nat.lt_succ_self i, List.forall_mem_singleton.mpr ?_⟩)
    refine among_alias hT ?_ ⟨t, ht, hlayout⟩ (Nat.lt_succ_self i)
    rw [tokenRange, startAt_eq ht, stopBefore_succ ht hlayout]
  · exact (gives_aliases hname i).bind fun names j hnames => gives_if_atOp gives_fail
      (gives_pure hnames)

/-- An import from a module is a simple statement. -/
lemma gives_fromStmt (i : ℕ) : fromStmt.Gives T i (IsSimple T i) := by
  have hdots : ∀ i, leadingDots.Gives T i fun _ j => i ≤ j := fun i =>
    (gives_many_le fun i => gives_take.mono fun _ _ h => by omega).bind fun dots j hj =>
      gives_pure hj
  have hmodule : ∀ i, moduleName.Gives T i fun _ j => i ≤ j := fun i =>
    (gives_identifiers "." i).bind fun parts j hj => gives_pure hj.2.le
  refine gives_start_bind (gives_word_bind fun hi => (hdots _).bind fun dots j hj => ?_)
  extract_lets rest
  have hrest : ∀ module k, j ≤ k → (rest module).Gives T k (IsSimple T i) := by
    refine fun module k hjk => gives_word_bind fun _ => (gives_importedNames hT _).bind
      fun names l hnames => gives_rangeFrom_bind (gives_pure ?_)
    exact isSimple_of_aliases hT rfl rfl hi (by omega)
      (fun a ha => (hnames.2 a ha).mono (by omega) le_rfl) rfl rfl rfl rfl
  exact gives_atWord_bind fun b => gives_ite (fun _ => hrest "" j le_rfl) fun _ =>
    (hmodule j).bind hrest

end

section

variable (hg : g.Nests) (hT : InOrder T)

include hg hT

/-- Every statement on a line is simple. -/
lemma gives_simpleStmt (i : ℕ) : (simpleStmt g).Gives T i (IsSimple T i) := by
  refine gives_peek_bind fun t ht => ?_
  dsimp only
  refine gives_ite (fun _ => gives_expressionStmt hg hT i) fun hname => ?_
  have hlayout : t.isLayout = false := by
    have hkind : t.kind = .name := by simpa using hname
    simp [Token.isLayout, hkind]
  refine gives_ite (fun _ => gives_returnStmt hg hT ht hlayout) fun _ =>
    gives_ite (fun _ => gives_importStmt hT i) fun _ =>
    gives_ite (fun _ => gives_fromStmt hT i) fun _ =>
    gives_ite (fun _ => gives_raiseStmt hg hT i) fun _ =>
    gives_ite (fun _ => gives_wordStmt hT ht hlayout rfl rfl rfl rfl rfl rfl) fun _ =>
    gives_ite (fun _ => gives_deleteStmt hg hT i) fun _ =>
    gives_ite (fun _ => gives_yieldStmt hg hT ht) fun _ =>
    gives_ite (fun _ => gives_assertStmt hg hT i) fun _ =>
    gives_ite (fun _ => gives_wordStmt hT ht hlayout rfl rfl rfl rfl rfl rfl) fun _ =>
    gives_ite (fun _ => gives_wordStmt hT ht hlayout rfl rfl rfl rfl rfl rfl) fun _ =>
    gives_ite (fun _ => ?_) fun _ => gives_ite (fun _ => ?_) fun _ => gives_expressionStmt hg hT i
  · exact gives_namesStmt hT (fun _ _ => rfl) (fun _ _ => rfl) (fun _ _ => rfl) (fun _ _ => rfl)
      (fun _ _ => rfl) (fun _ _ => rfl) i
  · exact gives_namesStmt hT (fun _ _ => rfl) (fun _ _ => rfl) (fun _ _ => rfl) (fun _ _ => rfl)
      (fun _ _ => rfl) (fun _ _ => rfl) i

omit hg hT in
/-- Behind a token of layout a line starts. -/
lemma opensLine_succ {t : Token} (ht : T[i]? = some t) (hlayout : t.isLayout = true) :
    OpensLine T (i + 1) := .inr ⟨i, t, rfl, ht, hlayout⟩

/-- Statements on one line are laid out, and none has decorators. -/
lemma gives_simpleStmts (i : ℕ) : (simpleStmts g).Gives T i fun ss j =>
    Laid T i ss j ∧ ∀ s ∈ ss, Manuscript.decoratorsOf s = [] := by
  have hmany : ∀ i, (many (do
      discard (op ";")
      if ← atKind .newline then fail else simpleStmt g)).Gives T i
      (Series (fun i s j => s.Among T i j ∧ Manuscript.decoratorsOf s = []) i) := by
    refine fun i => gives_many fun i => gives_op_bind fun _ => gives_atKind_bind fun _ _ =>
      gives_ite (fun _ => gives_fail) fun _ => (gives_simpleStmt hg hT _).mono fun s j hs => ?_
    exact ⟨⟨i + 1, j, Nat.le_succ i, le_rfl, hs.1⟩, hs.2⟩
  refine (gives_simpleStmt hg hT i).bind fun first j hfirst => (hmany j).bind fun rest k hrest =>
    gives_tryOp_discard_bind fun l hkl => gives_kind_bind fun t ht hkind => gives_pure ?_
  have hseries : Series (fun i s j => s.Among T i j ∧ Manuscript.decoratorsOf s = []) i
      (first :: rest) k := .cons ⟨⟨i, j, le_rfl, le_rfl, hfirst.1⟩, hfirst.2⟩ hrest
  obtain ⟨hik, hmem⟩ := hseries.mem fun _ _ _ h => h.1.le
  have hall : ∀ s ∈ first :: rest, s.Among T i k ∧ Manuscript.decoratorsOf s = [] := by
    intro s hs
    obtain ⟨k', l', hk, hl, hs⟩ := hmem s hs
    exact ⟨hs.1.mono hk hl, hs.2⟩
  refine ⟨⟨by omega, fun s hs => (hall s hs).1.mono le_rfl (by omega), ?_, ?_⟩,
    fun s hs => (hall s hs).2⟩
  · exact pairwise_of_series hT (hseries.imp fun _ _ _ h => h.1)
  · exact opensLine_succ ht (by simp [Token.isLayout, hkind])

end

end Grammar

end BlockText.Source

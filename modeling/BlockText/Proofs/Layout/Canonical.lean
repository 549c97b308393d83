import BlockText.Proofs.Layout.Nesting

/-!
# Canonical text has the nesting of its program

Rendering a statement and taking its nesting go side by side (`Beside`): they read the same headers
in the same order, so both succeed or both fail in the same way. At every step the lines so far show
the nesting so far (`Shows`); a header comes with the lines of its suite (`Heads`), since what
stands after it on its line is only put there once all lines of its statement are known.

The main statement is that the rule of indentation reads off canonical text the nesting of the
program (`read_pretty`).
-/

namespace BlockText

open Syntax

namespace Render

/-! ## Computations side by side -/

section Beside

variable {α β γ δ : Type} {R : α → β → Prop} {S : γ → δ → Prop}

/-- Both computations give results, which belong together, or both fail in the same way. -/
inductive Beside (R : α → β → Prop) : Result α → Result β → Prop
  | ok {a : α} {b : β} (h : R a b) : Beside R (.ok a) (.ok b)
  | error (e : RenderError) : Beside R (.error e) (.error e)

/-- Computations stay side by side when they go on side by side. -/
lemma Beside.bind {x : Result α} {y : Result β} {f : α → Result γ} {g : β → Result δ}
    (h : Beside R x y) (hfg : ∀ a b, R a b → Beside S (f a) (g b)) :
    Beside S (x >>= f) (y >>= g) := by
  cases h with
  | ok h => exact hfg _ _ h
  | error e => exact .error e

/-- Computations that begin in the same way are side by side if they go on so. -/
lemma beside_bind_same {f : α → Result γ} {g : α → Result δ} (x : Result α)
    (hfg : ∀ a, Beside S (f a) (g a)) : Beside S (x >>= f) (x >>= g) := by
  cases x with
  | ok a => exact hfg a
  | error e => exact .error e

/-- Results side by side. -/
lemma beside_pure {a : α} {b : β} (h : R a b) : Beside R (pure a : Result α) (pure b : Result β) :=
  .ok h

/-- A computation beside one that succeeds does so, too. -/
lemma Beside.exists_ok {x : Result α} {b : β} (h : Beside R x (.ok b)) :
    ∃ a, x = .ok a ∧ R a b := by
  cases h with
  | ok h => exact ⟨_, rfl, h⟩

/-- Computations side by side fail with the same errors. -/
lemma Beside.error_iff {x : Result α} {y : Result β} (h : Beside R x y) (e : RenderError) :
    x = .error e ↔ y = .error e := by
  cases h with
  | ok h => exact ⟨nofun, nofun⟩
  | error e' => exact ⟨fun he => by cases he; rfl, fun he => by cases he; rfl⟩

end Beside

/-! ## What stands around code -/

variable {width : ℤ} {depth : ℕ}

/-- Nothing stands above code that was read. -/
lemma leadingLines_of_aroundCode {info : Info} (h : info.AroundCode) (pad : String) :
    leadingLines pad info.leading = [] := by
  rw [h.1]
  rfl

/-- Without code nothing stands in front of a line. -/
lemma leadingLines_of_withoutCode {info : Info} (h : info.WithoutCode) (pad : String) :
    leadingLines pad info.leading = [] := by
  rw [h.1]
  rfl

/-- Nothing behind a line is a tail. -/
lemma isTail_empty : IsTail "" := by
  intro h
  cases h

/-- What stands after code that was read stays on the line of the code. -/
lemma isTail_lineEnd {info : Info} (h : info.AroundCode) : IsTail (lineEnd info.trailing) := by
  obtain ⟨-, hnone | ⟨gap, comment, hsome, hgap, -, hcomment⟩⟩ := h
  · rw [hnone]
    exact isTail_empty
  · have htext : trailingText info.trailing = gap ++ comment := by
      rw [hsome]
      simp [trailingText, String.join]
    have hbreak : '\n' ∉ (gap ++ comment).toList := by
      rw [String.toList_append, List.mem_append]
      rintro (hmem | hmem)
      · exact (hgap _ hmem).2 rfl
      · exact hcomment hmem
    rw [lineEnd, htext]
    intro hmem
    split at hmem
    · cases hmem
    · split at hmem
      · exact hbreak hmem
      · rw [String.toList_append, List.mem_append] at hmem
        rcases hmem with hmem | hmem
        · exact absurd hmem (by decide)
        · exact hbreak hmem

/-! ## Headers with their suites -/

/-- The first line is a header at a depth, the others show its suite. -/
def Heads (width : ℤ) (depth : ℕ) (header : String) (lines : List String) (suite : List Nested) :
    Prop :=
  ∃ inner, lines = (padding width depth ++ header) :: inner ∧ Shows width (depth + 1) inner suite

/-- A header without anything after it. -/
lemma Heads.shows (hwidth : 1 ≤ width) {header : String} {lines : List String}
    {suite : List Nested} (h : Heads width depth header lines suite) :
    Shows width depth lines [.mk header "" suite] := by
  obtain ⟨inner, rfl, hinner⟩ := h
  have hshows := Shows.suite hwidth header isTail_empty hinner
  rwa [String.append_empty] at hshows

/-- What is appended to a line that stands after others. -/
lemma appendToLine_append (above : List String) (line : String) (rest : List String)
    (text : String) :
    appendToLine (above ++ line :: rest) above.length text = above ++ (line ++ text) :: rest := by
  rw [appendToLine]
  induction above with
  | nil => rfl
  | cons first above ih =>
    rw [List.cons_append, List.length_cons, List.modify_succ_cons, ih, List.cons_append]

/-- A header with what stands after it, between the lines above it and those after its suite. -/
lemma Heads.around (hwidth : 1 ≤ width) {header : String} {above lines more : List String}
    {suite before after : List Nested} {info : Info} (hinfo : info.AroundCode)
    (habove : Shows width depth above before) (h : Heads width depth header lines suite)
    (hmore : Shows width depth more after) :
    Shows width depth (around (padding width depth) info above.length (above ++ (lines ++ more)))
      (before ++ .mk header (lineEnd info.trailing) suite :: after) := by
  obtain ⟨inner, rfl, hinner⟩ := h
  rw [Render.around, leadingLines_of_aroundCode hinfo, List.cons_append, appendToLine_append,
    List.nil_append]
  apply habove.append
  exact Shows.append (Shows.suite hwidth header (isTail_lineEnd hinfo) hinner) hmore

/-- A header that no line stands above. -/
lemma Heads.around_first (hwidth : 1 ≤ width) {header : String} {lines more : List String}
    {suite after : List Nested} {info : Info} (hinfo : info.AroundCode)
    (h : Heads width depth header lines suite) (hmore : Shows width depth more after) :
    Shows width depth (Render.around (padding width depth) info 0 (lines ++ more))
      (.mk header (lineEnd info.trailing) suite :: after) :=
  h.around hwidth hinfo shows_nil hmore

/-! ## Bodies -/

/-- The statement is rendered beside its nesting, at any depth. -/
def Laid (width : ℤ) (s : Stmt) : Prop :=
  ∀ depth, Beside (Shows width depth) (stmtLines width depth s) (stmtNested s)

variable {body : List Stmt}

/-- The lines of statements show the nested lines of the statements. -/
lemma beside_stmtsLines (h : ∀ s ∈ body, Laid width s) (depth : ℕ) :
    Beside (Shows width depth) (stmtsLines width depth body) (stmtsNested body) := by
  induction body with
  | nil =>
    rw [stmtsLines, stmtsNested]
    exact .ok shows_nil
  | cons s rest ih =>
    obtain ⟨hs, hrest⟩ := List.forall_mem_cons.mp h
    rw [stmtsLines, stmtsNested]
    apply (hs depth).bind
    intro lines nested hlines
    apply (ih hrest).bind
    intro others nested' hothers
    exact beside_pure (hlines.append hothers)

/-- Lines without code give no nesting. -/
lemma stmtsNested_of_all_empty (h : body.all isEmptyStmt = true) : stmtsNested body = .ok [] := by
  induction body with
  | nil => rw [stmtsNested]
  | cons s rest ih =>
    rw [List.all_cons, Bool.and_eq_true] at h
    have hs : stmtNested s = .ok [] := by
      cases s with
      | empty _ _ => rw [stmtNested]
      | _ => cases h.1
    rw [stmtsNested, hs, ih h.2]
    rfl

/-- The line `pass` above lines. -/
lemma shows_passing (hwidth : 1 ≤ width) {lines : List String} (h : Shows width depth lines []) :
    Shows width depth ((padding width depth ++ "pass") :: lines) [passing] := by
  have hshows := Shows.append (shows_line hwidth "pass" isTail_empty) h
  rwa [String.append_empty] at hshows

/-- A body with statements is rendered as they are, below a header. -/
lemma clause_cons (depth : ℕ) (header : String) (s : Stmt) (rest : List Stmt) :
    clause width depth header (s :: rest) = stmtsLines width (depth + 1) (s :: rest) >>= fun lines =>
      pure (if (s :: rest).all isEmptyStmt then
        (padding width depth ++ header) :: (padding width (depth + 1) ++ "pass") :: lines
      else (padding width depth ++ header) :: lines) := by
  rw [clause, stmtsLines]
  simp only [bind_assoc, pure_bind]

/-- The suite of a body with statements is theirs. -/
lemma suiteNested_cons (s : Stmt) (rest : List Stmt) :
    suiteNested (s :: rest) = stmtsNested (s :: rest) >>= fun nested =>
      pure (if (s :: rest).all isEmptyStmt then [passing] else nested) := by
  rw [suiteNested, stmtsNested]
  simp only [bind_assoc, pure_bind]

/-- A header and the lines of its body show the nested lines of both. -/
lemma beside_clause (hwidth : 1 ≤ width) (h : ∀ s ∈ body, Laid width s) (depth : ℕ)
    (header : String) :
    Beside (Heads width depth header) (clause width depth header body) (suiteNested body) := by
  cases body with
  | nil =>
    rw [clause, suiteNested]
    exact .ok ⟨_, rfl, shows_passing hwidth shows_nil⟩
  | cons s rest =>
    have hall := beside_stmtsLines h (depth + 1)
    rw [clause_cons, suiteNested_cons]
    by_cases hempty : (s :: rest).all isEmptyStmt = true
    · -- The lines without code stay below `pass`.
      rw [stmtsNested_of_all_empty hempty] at hall ⊢
      obtain ⟨lines, hlines, hshows⟩ := hall.exists_ok
      rw [hlines]
      simp only [hempty, if_true]
      exact beside_pure ⟨_, rfl, shows_passing hwidth hshows⟩
    · apply hall.bind
      intro lines nested hshows
      rw [if_neg hempty, if_neg hempty]
      exact beside_pure ⟨_, rfl, hshows⟩

/-- The bodies of a statement are laid out. -/
def BodiesLaid (width : ℤ) (s : Stmt) : Prop :=
  ∀ body ∈ s.suites, ∀ t ∈ body.2.statements, Laid width t

/-- A clause that may be there shows its nested lines. -/
lemma beside_optionalClause (hwidth : 1 ≤ width) {o : Option (Suite Stmt)}
    (h : ∀ suite ∈ o, ∀ s ∈ suite.statements, Laid width s) (depth : ℕ) (header : String) :
    Beside (Shows width depth) (optionalClause width depth header o) (optionalNested header o) := by
  match o with
  | none =>
    rw [optionalClause, optionalNested]
    exact .ok shows_nil
  | some ⟨body, level⟩ =>
    have hclause := beside_clause hwidth (h _ rfl) depth header
    rw [optionalClause, optionalNested, ← bind_pure (clause width depth header body)]
    apply hclause.bind
    intro lines suite hheads
    exact beside_pure (hheads.shows hwidth)

/-- One more clause in front of others. -/
lemma beside_clauses (hwidth : 1 ≤ width) (head : Result String) (header : String → String)
    (h : ∀ s ∈ body, Laid width s) {more : Result (List String)} {others : Result (List Nested)}
    (hmore : Beside (Shows width depth) more others) :
    Beside (Shows width depth)
      (do
        let text ← head
        let lines ← clause width depth (header text) body
        return lines ++ (← more))
      (do
        let text ← head
        let first ← suiteNested body
        return .mk (header text) "" first :: (← others)) := by
  apply beside_bind_same
  intro text
  apply (beside_clause hwidth h depth _).bind
  intro lines suite hheads
  apply hmore.bind
  intro lines' nested hlines
  exact beside_pure ((hheads.shows hwidth).append hlines)

/-- The lines of further conditions show their nested lines. -/
lemma beside_elifLines (hwidth : 1 ≤ width) {elifs : List (ElifClause Stmt)}
    (h : ∀ c ∈ elifs, ∀ s ∈ c.body.statements, Laid width s) (depth : ℕ) :
    Beside (Shows width depth) (elifLines width depth elifs) (elifNested elifs) := by
  induction elifs with
  | nil =>
    rw [elifLines, elifNested]
    exact .ok shows_nil
  | cons c rest ih =>
    obtain ⟨test, ⟨body, level⟩, info⟩ := c
    obtain ⟨hbody, hrest⟩ := List.forall_mem_cons.mp h
    rw [elifLines, elifNested]
    exact beside_clauses hwidth _ _ hbody (ih hrest)

/-- The lines of cases show their nested lines. -/
lemma beside_caseLines (hwidth : 1 ≤ width) {cases : List (MatchCase Stmt)}
    (h : ∀ c ∈ cases, ∀ s ∈ c.body.statements, Laid width s) (depth : ℕ) :
    Beside (Shows width depth) (caseLines width depth cases) (caseNested cases) := by
  induction cases with
  | nil =>
    rw [caseLines, caseNested]
    exact .ok shows_nil
  | cons c rest ih =>
    obtain ⟨p, ⟨body, level⟩, info⟩ := c
    obtain ⟨hbody, hrest⟩ := List.forall_mem_cons.mp h
    rw [caseLines, caseNested]
    exact beside_clauses hwidth _ _ hbody (ih hrest)

/-- The lines of handlers show their nested lines. -/
lemma beside_handlerLines (hwidth : 1 ≤ width) {handlers : List (Handler Stmt)}
    (h : ∀ c ∈ handlers, ∀ s ∈ c.body.statements, Laid width s) (depth : ℕ) :
    Beside (Shows width depth) (handlerLines width depth handlers) (handlerNested handlers) := by
  induction handlers with
  | nil =>
    rw [handlerLines, handlerNested]
    exact .ok shows_nil
  | cons c rest ih =>
    obtain ⟨type, name, ⟨body, level⟩, info⟩ := c
    obtain ⟨hbody, hrest⟩ := List.forall_mem_cons.mp h
    rw [handlerLines, handlerNested]
    exact beside_clauses hwidth _ _ hbody (ih hrest)

/-! ## Statements -/

/-- A line of code between what stands around it shows the code and its tail. -/
lemma beside_append (hwidth : 1 ≤ width) (pre tail : String) (htail : IsTail tail) (d : Datum) :
    Beside (fun line code => Shows width depth [line ++ tail] [.mk code tail []])
      (append (padding width depth ++ pre) d) (append pre d) := by
  have hline (t : String) : Shows width depth [padding width depth ++ pre ++ t ++ tail]
      [.mk (pre ++ t) tail []] := by
    have hshows : Shows width depth [padding width depth ++ (pre ++ t) ++ tail]
        [.mk (pre ++ t) tail []] := shows_line hwidth (pre ++ t) htail
    rwa [← String.append_assoc] at hshows
  cases d with
  | text t => exact .ok (hline t)
  | surrogates t => exact .ok (hline _)
  | _ => exact .error _

/-- The lines of a simple statement show its nested lines. -/
lemma beside_simpleLines (hwidth : 1 ≤ width) (s : Stmt) {info : Info} (hinfo : info.AroundCode)
    (depth : ℕ) :
    Beside (Shows width depth) (simpleLines (padding width depth) s info)
      (simpleNested s info) := by
  rw [simpleLines, simpleNested, leadingLines_of_aroundCode hinfo]
  apply beside_bind_same
  intro code
  rw [← String.append_empty (s := padding width depth)]
  apply (beside_append hwidth "" _ (isTail_lineEnd hinfo) code).bind
  intro line code hshows
  exact beside_pure hshows

/-- The lines of decorators show their nested lines, one for each. -/
lemma beside_decoratorLines (hwidth : 1 ≤ width) (decorators : List Expr) (depth : ℕ) :
    Beside (fun lines nested => lines.length = decorators.length ∧ Shows width depth lines nested)
      (decoratorLines (padding width depth) decorators) (decoratorNested decorators) := by
  rw [decoratorLines, decoratorNested]
  induction decorators with
  | nil => exact .ok ⟨rfl, shows_nil⟩
  | cons d rest ih =>
    rw [List.mapM_cons, List.mapM_cons, bind_assoc, bind_assoc]
    apply beside_bind_same
    intro code
    rw [bind_assoc]
    apply (beside_append hwidth "@" "" isTail_empty code).bind
    intro line code hline
    rw [pure_bind]
    apply ih.bind
    rintro lines nested ⟨hlength, hlines⟩
    rw [String.append_empty] at hline
    exact beside_pure ⟨congrArg Nat.succ hlength, hline.append hlines⟩

/-- A header with its suite and the clauses after it. -/
lemma beside_compound (hwidth : 1 ≤ width) {info : Info} (hinfo : info.AroundCode)
    (h : ∀ s ∈ body, Laid width s) (header : String) {more : Result (List String)}
    {others : Result (List Nested)} (hmore : Beside (Shows width depth) more others) :
    Beside (Shows width depth)
      (do
        let first ← clause width depth header body
        let last ← more
        return around (padding width depth) info 0 (first ++ last))
      (do
        let first ← suiteNested body
        let last ← others
        return .mk header (lineEnd info.trailing) first :: last) := by
  apply (beside_clause hwidth h depth header).bind
  intro lines suite hheads
  apply hmore.bind
  intro lines' nested hlines
  exact beside_pure (hheads.around_first hwidth hinfo hlines)

/-- A definition below its decorators. -/
lemma beside_definition (hwidth : 1 ≤ width) {info : Info} (hinfo : info.AroundCode)
    (h : ∀ s ∈ body, Laid width s) (header : String) (decorators : List Expr) :
    Beside (Shows width depth)
      (do
        let above ← decoratorLines (padding width depth) decorators
        let lines ← clause width depth header body
        return around (padding width depth) info decorators.length (above ++ lines))
      (do
        let above ← decoratorNested decorators
        return above ++ [.mk header (lineEnd info.trailing) (← suiteNested body)]) := by
  apply (beside_decoratorLines hwidth decorators depth).bind
  rintro above nested ⟨hlength, habove⟩
  apply (beside_clause hwidth h depth header).bind
  intro lines suite hheads
  have hshows := hheads.around hwidth hinfo habove shows_nil
  rw [List.append_nil, hlength] at hshows
  exact beside_pure hshows

/-- A statement is laid out if its bodies are. -/
lemma laid_of_bodies (hwidth : 1 ≤ width) {s : Stmt}
    (hinfo : if isEmptyStmt s then s.info.WithoutCode else s.info.AroundCode)
    (h : BodiesLaid width s) : Laid width s := by
  intro depth
  have hbody : ∀ k (suite : Suite Stmt), (k, suite) ∈ s.suites →
      ∀ t ∈ suite.statements, Laid width t := fun k suite hsuite => h (k, suite) hsuite
  have hoptional : ∀ k (o : Option (Suite Stmt)), (∀ suite ∈ o, (k, suite) ∈ s.suites) →
      ∀ suite ∈ o, ∀ t ∈ suite.statements, Laid width t :=
    fun k o ho suite hsuite => h (k, suite) (ho suite hsuite)
  cases s with
  | empty _ info =>
    have hwithout : info.WithoutCode := hinfo
    rw [stmtLines, stmtNested, leadingLines_of_withoutCode hwithout]
    exact .ok (shows_emptyLine hwidth hwithout)
  | stray d =>
    rw [stmtLines, stmtNested]
    split
    · exact .error _
    · exact .error _
  | ifStmt test suite elifs orelse info =>
    obtain ⟨body, level⟩ := suite
    have helifs : ∀ c ∈ elifs, ∀ t ∈ c.body.statements, Laid width t := by
      intro c hc
      exact hbody 1 c.body (by simpa [Stmt.suites] using .inr (.inl ⟨c, hc, rfl⟩))
    have helse := hoptional 1 orelse fun suite hsuite => by
      simp [Stmt.suites, Option.mem_def.mp hsuite]
    rw [stmtLines, stmtNested]
    apply beside_bind_same
    intro head
    apply (beside_clause hwidth (hbody 1 ⟨body, level⟩ (by simp [Stmt.suites])) depth _).bind
    intro lines first hheads
    apply (beside_elifLines hwidth helifs depth).bind
    intro more nested hmore
    apply (beside_optionalClause hwidth helse depth _).bind
    intro last nested' hlast
    rw [List.append_assoc]
    exact beside_pure (hheads.around_first hwidth hinfo (hmore.append hlast))
  | whileStmt test suite orelse info =>
    obtain ⟨body, level⟩ := suite
    have helse := hoptional 1 orelse fun suite hsuite => by
      simp [Stmt.suites, Option.mem_def.mp hsuite]
    rw [stmtLines, stmtNested]
    apply beside_bind_same
    intro head
    exact beside_compound hwidth hinfo (hbody 1 ⟨body, level⟩ (by simp [Stmt.suites])) _
      (beside_optionalClause hwidth helse depth _)
  | forStmt target iter suite orelse isAsync info =>
    obtain ⟨body, level⟩ := suite
    have helse := hoptional 1 orelse fun suite hsuite => by
      simp [Stmt.suites, Option.mem_def.mp hsuite]
    rw [stmtLines, stmtNested]
    apply beside_bind_same
    intro bound
    apply beside_bind_same
    intro source
    exact beside_compound hwidth hinfo (hbody 1 ⟨body, level⟩ (by simp [Stmt.suites])) _
      (beside_optionalClause hwidth helse depth _)
  | matchStmt subject cases info =>
    have hcases : ∀ c ∈ cases, ∀ t ∈ c.body.statements, Laid width t := by
      intro c hc
      exact hbody 2 c.body (by simpa [Stmt.suites] using ⟨c, hc, rfl⟩)
    rw [stmtLines, stmtNested]
    apply beside_bind_same
    intro head
    apply (beside_caseLines hwidth hcases (depth + 1)).bind
    intro lines suite hlines
    have hheads : Heads width depth ("match " ++ head ++ ":") (_ :: lines) suite :=
      ⟨lines, rfl, hlines⟩
    have hshows := hheads.around_first hwidth hinfo shows_nil
    simp only [List.append_nil, ← String.append_assoc] at hshows
    exact beside_pure hshows
  | functionDef name ps suite decorators returns isAsync info =>
    obtain ⟨body, level⟩ := suite
    rw [stmtLines, stmtNested]
    apply beside_bind_same
    intro head
    exact beside_definition hwidth hinfo (hbody 1 ⟨body, level⟩ (by simp [Stmt.suites])) head _
  | classDef name bases suite decorators info =>
    obtain ⟨body, level⟩ := suite
    rw [stmtLines, stmtNested]
    apply beside_bind_same
    intro head
    exact beside_definition hwidth hinfo (hbody 1 ⟨body, level⟩ (by simp [Stmt.suites])) head _
  | tryStmt suite handlers orelse final info =>
    obtain ⟨body, level⟩ := suite
    have hhandlers : ∀ c ∈ handlers, ∀ t ∈ c.body.statements, Laid width t := by
      intro c hc
      exact hbody 1 c.body (by simpa [Stmt.suites] using .inr (.inl ⟨c, hc, rfl⟩))
    have helse := hoptional 1 orelse fun suite hsuite => by
      simp [Stmt.suites, Option.mem_def.mp hsuite]
    have hfinal := hoptional 1 final fun suite hsuite => by
      simp [Stmt.suites, Option.mem_def.mp hsuite]
    rw [stmtLines, stmtNested]
    apply (beside_clause hwidth (hbody 1 ⟨body, level⟩ (by simp [Stmt.suites])) depth _).bind
    intro lines first hheads
    apply (beside_handlerLines hwidth hhandlers depth).bind
    intro more nested hmore
    apply (beside_optionalClause hwidth helse depth _).bind
    intro other nested' hother
    apply (beside_optionalClause hwidth hfinal depth _).bind
    intro last nested'' hlast
    rw [List.append_assoc, List.append_assoc, List.append_assoc]
    exact beside_pure (hheads.around_first hwidth hinfo (hmore.append (hother.append hlast)))
  | withStmt items suite isAsync info =>
    obtain ⟨body, level⟩ := suite
    rw [stmtLines, stmtNested]
    apply beside_bind_same
    intro contexts
    apply beside_bind_same
    intro list
    apply (beside_clause hwidth (hbody 1 ⟨body, level⟩ (by simp [Stmt.suites])) depth _).bind
    intro lines first hheads
    have hshows := hheads.around_first hwidth hinfo shows_nil
    rw [List.append_nil] at hshows
    exact beside_pure hshows
  | _ =>
    rw [stmtLines, stmtNested]
    exact beside_simpleLines hwidth _ hinfo depth

/-- Every statement whose comments are recorded as they are read is rendered beside its nesting. -/
lemma laid_of_triviaRead (hwidth : 1 ≤ width) {s : Stmt} (h : s.TriviaRead) : Laid width s := by
  induction h with
  | intro own _ ih => exact laid_of_bodies hwidth own ih

/-! ## Programs -/

/-- If there is a result, it has a line. -/
def HasLine (r : Result (List Nested)) : Prop := ∀ nested, r = .ok nested → nested ≠ []

/-- What is laid out in steps has a line if its last step gives one. -/
lemma HasLine.bind {α : Type} {x : Result α} {f : α → Result (List Nested)}
    (h : ∀ a, HasLine (f a)) : HasLine (x >>= f) := by
  intro nested hnested
  cases x with
  | ok a => exact h a nested hnested
  | error e => cases hnested

/-- Nested lines that are there are lines. -/
lemma hasLine_pure {nested : List Nested} (h : nested ≠ []) : HasLine (pure nested) := by
  intro nested' heq
  rwa [← Except.ok.inj heq]

/-- A statement that is no line without code has a line. -/
lemma hasLine_stmtNested {s : Stmt} (h : isEmptyStmt s = false) : HasLine (stmtNested s) := by
  cases s with
  | empty _ _ => cases h
  | stray d =>
    rw [stmtNested]
    split
    · exact nofun
    · exact nofun
  | ifStmt _ _ _ _ _ | whileStmt _ _ _ _ | forStmt _ _ _ _ _ _ | matchStmt _ _ _
  | functionDef _ _ _ _ _ _ _ | classDef _ _ _ _ _ | tryStmt _ _ _ _ _ | withStmt _ _ _ _ =>
    rw [stmtNested]
    repeat refine HasLine.bind fun _ => ?_
    exact hasLine_pure (by simp)
  | _ =>
    rw [stmtNested, simpleNested]
    repeat refine HasLine.bind fun _ => ?_
    exact hasLine_pure (by simp)

/-- A body with more than empty statements has a line. -/
lemma hasLine_stmtsNested (h : body.all isEmptyStmt = false) : HasLine (stmtsNested body) := by
  induction body with
  | nil => cases h
  | cons s rest ih =>
    rw [stmtsNested]
    intro nested hnested
    cases hs : stmtNested s with
    | error e =>
      rw [hs] at hnested
      cases hnested
    | ok first =>
      cases hrest : stmtsNested rest with
      | error e =>
        rw [hs, hrest] at hnested
        cases hnested
      | ok others =>
        rw [hs, hrest] at hnested
        rw [← Except.ok.inj hnested, ne_eq, List.append_eq_nil_iff]
        rintro ⟨rfl, rfl⟩
        rw [List.all_cons, Bool.and_eq_false_iff] at h
        rcases h with h | h
        · exact hasLine_stmtNested h _ hs rfl
        · exact ih h _ hrest rfl

/-- Every suite has a line. -/
lemma hasLine_suiteNested (body : List Stmt) : HasLine (suiteNested body) := by
  cases body with
  | nil =>
    rw [suiteNested]
    exact hasLine_pure (List.cons_ne_nil _ _)
  | cons s rest =>
    by_cases hempty : (s :: rest).all isEmptyStmt = true
    · rw [suiteNested_cons, stmtsNested_of_all_empty hempty]
      simp only [hempty, if_true]
      exact hasLine_pure (List.cons_ne_nil _ _)
    · have hlines := hasLine_stmtsNested (Bool.eq_false_iff.mpr hempty)
      rw [suiteNested_cons]
      simp only [hempty]
      rwa [← bind_pure (stmtsNested (s :: rest))] at hlines

/-- The lines of code in lines that each end with a line break. -/
lemma codeLines_join {lines : List String} (hne : lines ≠ [])
    (hbreaks : ∀ line ∈ lines, '\n' ∉ line.toList) :
    Layout.codeLines (Text.join "\n" lines ++ "\n") =
      (lines.map String.toList).filterMap Layout.codeLine? := by
  have hsplit : Text.splitAt '\n' (Text.join "\n" lines ++ "\n").toList =
      lines.map String.toList ++ [[]] := by
    rw [String.toList_append]
    induction lines with
    | nil => exact absurd rfl hne
    | cons line rest ih =>
      obtain ⟨hline, hrest⟩ := List.forall_mem_cons.mp hbreaks
      by_cases hnil : rest = []
      · subst hnil
        rw [Text.join, String.intercalate_singleton]
        exact Text.splitAt_append hline []
      · have hjoin : (Text.join "\n" (line :: rest)).toList =
            line.toList ++ '\n' :: (Text.join "\n" rest).toList := by
          rw [Text.join, String.intercalate_cons_of_ne_nil hnil]
          simp [Text.join]
        rw [hjoin, List.append_assoc, List.cons_append, Text.splitAt_append hline,
          ih hnil hrest, List.map_cons, List.cons_append]
  rw [Layout.codeLines, hsplit, List.filterMap_append, List.filterMap_cons_none codeLine?_nil,
    List.filterMap_nil, List.append_nil]

/-- Canonical text is made beside the nesting of its program. -/
lemma beside_pretty {p : Program} (hwidth : 1 ≤ p.indentWidth)
    (htrivia : ∀ s ∈ p.body.statements, s.TriviaRead) :
    Beside (fun text nested => (∀ n ∈ nested, n.Legible) →
      Layout.read text = some (nested.map Nested.nest)) p.pretty p.nesting := by
  have hlines := beside_stmtsLines (fun s hs => laid_of_triviaRead hwidth (htrivia s hs)) 0
  rw [Program.nesting, ← bind_pure (stmtsNested p.body.statements), Program.pretty]
  apply hlines.bind
  intro lines nested hshows
  have hread : ∀ text : String, Layout.codeLines text =
      (lines.map String.toList).filterMap Layout.codeLine? → (∀ n ∈ nested, n.Legible) →
        Layout.read text = some (nested.map Nested.nest) := by
    intro text htext hlegible
    rw [← nestsOf_eq_map]
    have hpos : 0 < p.indentWidth.toNat := by omega
    apply Layout.read_eq_of_lines hpos
    rw [htext, (hshows hlegible).2]
  match lines with
  | [] => exact beside_pure (hread "" rfl)
  | line :: rest =>
    refine beside_pure fun hlegible => hread _ ?_ hlegible
    exact codeLines_join (List.cons_ne_nil line rest) (hshows hlegible).1

end Render

namespace Syntax.Program

/-- Canonical text fails only where a header or a simple statement has no text, every suite has a
line, and if headers and simple statements are lines of code, then the rule of indentation reads the
nesting of the program off the canonical text. -/
theorem read_pretty {p : Program} (hwidth : 1 ≤ p.indentWidth)
    (htrivia : ∀ s ∈ p.body.statements, s.TriviaRead) :
    (∀ e, p.pretty = .error e ↔ p.nesting = .error e) ∧
      (∀ body suite, Render.suiteNested body = .ok suite → suite ≠ []) ∧
      ∀ nested, p.nesting = .ok nested → (∀ n ∈ nested, n.Legible) →
        ∃ text, p.pretty = .ok text ∧ Layout.read text = some (nested.map Render.Nested.nest) := by
  have hbeside := Render.beside_pretty hwidth htrivia
  refine ⟨hbeside.error_iff, Render.hasLine_suiteNested, fun nested hnested hlegible => ?_⟩
  rw [hnested] at hbeside
  obtain ⟨text, htext, hread⟩ := hbeside.exists_ok
  exact ⟨text, htext, hread hlegible⟩

/-- A condition with nothing but a comment in its body, and a loop below `else`. -/
def commented : Program where
  body := ⟨[
    .ifStmt (.identifier "a" {}) ⟨[.empty .source { trailing := [⟨.comment, "# later"⟩] }], 1⟩ []
      (some ⟨[.whileStmt (.identifier "b" {}) ⟨[.breakStmt {}], 2⟩ none
        { trailing := [⟨.rawWhitespace, ""⟩, ⟨.comment, "# wait"⟩] }], 1⟩) {}], 0⟩
  indentWidth := 2

/-- The rule of indentation reads `pass` where there is only a comment. -/
theorem read_pretty_commented : 1 ≤ commented.indentWidth ∧
    (∀ s ∈ commented.body.statements, s.TriviaRead) ∧
      ∃ nested, commented.nesting = .ok nested ∧ (∀ n ∈ nested, n.Legible) ∧
        nested.map Render.Nested.nest = [.mk "if a:" [.mk "pass" []],
          .mk "else:" [.mk "while b:  # wait" [.mk "break" []]]] ∧
        ∃ text, commented.pretty = .ok text ∧
          Layout.read text = some (nested.map Render.Nested.nest) := by
  have hwidth : 1 ≤ commented.indentWidth := by decide
  have hbreak : (Stmt.breakStmt {}).TriviaRead := .intro ⟨rfl, .inl rfl⟩ (List.forall_mem_nil _)
  have hempty : (Stmt.empty .source { trailing := [⟨.comment, "# later"⟩] }).TriviaRead :=
    .intro ⟨rfl, .inr ⟨_, rfl, by simp [IsComment]⟩⟩ (List.forall_mem_nil _)
  have hloop : (Stmt.whileStmt (.identifier "b" {}) ⟨[.breakStmt {}], 2⟩ none
      { trailing := [⟨.rawWhitespace, ""⟩, ⟨.comment, "# wait"⟩] }).TriviaRead :=
    .intro ⟨rfl, .inr ⟨_, _, rfl, by simp [IsComment]⟩⟩ (by simpa [Stmt.suites] using hbreak)
  have htrivia : ∀ s ∈ commented.body.statements, s.TriviaRead := by
    rw [commented, List.forall_mem_singleton]
    exact .intro ⟨rfl, .inl rfl⟩ (by simpa [Stmt.suites] using ⟨hempty, hloop⟩)
  have hnested : commented.nesting = .ok [.mk "if a:" "" [Render.passing],
      .mk "else:" "" [.mk "while b:" "  # wait" [.mk "break" "" []]]] := by
    rfl
  have hlegible : ∀ n ∈ [Render.Nested.mk "if a:" "" [Render.passing],
      .mk "else:" "" [.mk "while b:" "  # wait" [.mk "break" "" []]]], n.Legible := by
    have hcode : ∀ code ∈ ["if a:", "pass", "else:", "while b:", "break"], Render.IsCode code := by
      simp [Render.IsCode, Text.isBlank, Text.Ranges.contains, Text.blankRanges]
    have hpass : Render.passing.Legible := .intro (hcode _ (by decide)) (List.forall_mem_nil _)
    have hinner : (Render.Nested.mk "break" "" []).Legible :=
      .intro (hcode _ (by decide)) (List.forall_mem_nil _)
    have hwhile : (Render.Nested.mk "while b:" "  # wait" [.mk "break" "" []]).Legible :=
      .intro (hcode _ (by decide)) (List.forall_mem_singleton.mpr hinner)
    rw [List.forall_mem_cons, List.forall_mem_singleton]
    exact ⟨.intro (hcode _ (by decide)) (List.forall_mem_singleton.mpr hpass),
      .intro (hcode _ (by decide)) (List.forall_mem_singleton.mpr hwhile)⟩
  exact ⟨hwidth, htrivia, _, hnested, hlegible, rfl,
    (read_pretty hwidth htrivia).2.2 _ hnested hlegible⟩

end Syntax.Program

end BlockText

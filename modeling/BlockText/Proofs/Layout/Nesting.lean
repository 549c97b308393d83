import BlockText.Proofs.Layout.Indentation
import BlockText.Proofs.Syntax.WellFormed
import BlockText.Render.Program

/-!
# What canonical text shows of a program

A program has a nesting of its own (`Program.nesting`): every statement that is no empty line gives
its header or its text, a compound statement further headers, each of them with a suite, and a suite
without statements `pass`.  Nothing in it says in which line or column anything stands.

The canonical text of the program, read by the rule of indentation, gives this nesting, provided
that every header and simple statement is a line of code (`IsCode`) and that comments are recorded
as reading a text records them (`Stmt.TriviaRead`). Lines are compared with the nesting suite by
suite (`Shows`), along the way in which the statements are rendered.
-/

namespace BlockText

open Syntax

namespace Syntax

/-! ## Comments as they are read -/

/-- The text of a comment: it starts with its mark and stays on one line. -/
def IsComment (s : String) : Prop := s.toList.head? = some '#' ∧ '\n' ∉ s.toList

/-- What is recorded around code: nothing, or a comment after it and the white space between. -/
def Info.AroundCode (i : Info) : Prop :=
  i.leading = [] ∧ (i.trailing = [] ∨ ∃ gap comment,
    i.trailing = [⟨.rawWhitespace, gap⟩, ⟨.comment, comment⟩] ∧
      (∀ c ∈ gap.toList, Text.isBlank c = true ∧ c ≠ '\n') ∧ IsComment comment)

/-- What is recorded on a line without code: nothing, or a comment. -/
def Info.WithoutCode (i : Info) : Prop :=
  i.leading = [] ∧ (i.trailing = [] ∨
    ∃ comment, i.trailing = [⟨.comment, comment⟩] ∧ IsComment comment)

namespace Stmt

/-- What is known about a statement. -/
def info : Stmt → Info
  | ifStmt _ _ _ _ i | whileStmt _ _ _ i | forStmt _ _ _ _ _ i | matchStmt _ _ i
  | functionDef _ _ _ _ _ _ i | classDef _ _ _ _ i | assign _ _ i | annAssign _ _ _ i
  | augAssign _ _ _ i | exprStmt _ i | passStmt i | returnStmt _ i | breakStmt i | continueStmt i
  | importStmt _ _ _ i | tryStmt _ _ _ _ i | withStmt _ _ _ i | assertStmt _ _ i | raiseStmt _ _ i
  | deleteStmt _ i | globalStmt _ i | nonlocalStmt _ i | empty _ i => i
  | stray _ => {}

/-- Comments and white space at a statement and at all statements in it are recorded as reading a
text records them. -/
inductive TriviaRead : Stmt → Prop
  | intro {s : Stmt}
    (own : if Render.isEmptyStmt s then s.info.WithoutCode else s.info.AroundCode)
    (inner : ∀ body ∈ s.suites, ∀ t ∈ body.2.statements, TriviaRead t) : TriviaRead s

end Stmt

end Syntax

namespace Render

/-! ## The nesting of a program -/

/-- A line of a program: its code, what stands after the code, and the lines of its suite. -/
inductive Nested
  | mk (code tail : String) (suite : List Nested)

mutual

/-- The line as it is read. -/
def Nested.nest : Nested → Layout.Nest
  | .mk code tail suite => .mk (code ++ tail) (nestsOf suite)

/-- The lines as they are read. -/
def nestsOf : List Nested → List Layout.Nest
  | [] => []
  | n :: rest => n.nest :: nestsOf rest

end

/-- The suite of a body without statements. -/
def passing : Nested := .mk "pass" "" []

/-- The line of a statement that has no body. -/
def simpleNested (s : Stmt) (info : Info) : Result (List Nested) := do
  let code ← append "" (← simple s)
  return [.mk code (lineEnd info.trailing) []]

/-- The lines of decorators. -/
def decoratorNested (decorators : List Expr) : Result (List Nested) :=
  decorators.mapM fun d => do return .mk (← append "@" (← operand d)) "" []

mutual

/-- The lines of a statement: headers with their suites, or the statement itself. -/
def stmtNested : Stmt → Result (List Nested)
  | .empty _ _ => .ok []
  | .ifStmt test ⟨body, _⟩ elifs orelse info => do
    let head ← shown test
    let first ← suiteNested body
    let more ← elifNested elifs
    let last ← optionalNested "else:" orelse
    return .mk ("if " ++ head ++ ":") (lineEnd info.trailing) first :: more ++ last
  | .whileStmt test ⟨body, _⟩ orelse info => do
    let head ← shown test
    let first ← suiteNested body
    let last ← optionalNested "else:" orelse
    return .mk ("while " ++ head ++ ":") (lineEnd info.trailing) first :: last
  | .forStmt target iter ⟨body, _⟩ orelse isAsync info => do
    let bound ← shownTop target
    let source ← shownTop iter
    let first ← suiteNested body
    let last ← optionalNested "else:" orelse
    return .mk ((if isAsync then "async for " else "for ") ++ bound ++ " in " ++ source ++ ":")
      (lineEnd info.trailing) first :: last
  | .matchStmt subject cases info => do
    let head ← shownTop subject
    return [.mk ("match " ++ head ++ ":") (lineEnd info.trailing) (← caseNested cases)]
  | .functionDef name ps ⟨body, _⟩ decorators returns isAsync info => do
    let head ← functionHeader name ps returns isAsync
    let above ← decoratorNested decorators
    return above ++ [.mk head (lineEnd info.trailing) (← suiteNested body)]
  | .classDef name bases ⟨body, _⟩ decorators info => do
    let head ← classHeader name bases
    let above ← decoratorNested decorators
    return above ++ [.mk head (lineEnd info.trailing) (← suiteNested body)]
  | .tryStmt ⟨body, _⟩ handlers orelse final info => do
    let first ← suiteNested body
    let more ← handlerNested handlers
    let other ← optionalNested "else:" orelse
    let last ← optionalNested "finally:" final
    return .mk "try:" (lineEnd info.trailing) first :: more ++ other ++ last
  | .withStmt items ⟨body, _⟩ isAsync info => do
    let list ← joined ", " (← items.mapM withItem)
    let first ← suiteNested body
    return [.mk ((if isAsync then "async with " else "with ") ++ list ++ ":")
      (lineEnd info.trailing) first]
  | .stray d =>
    if d.isNode then .error (.unsupported "statement" d.typeWord)
    else fail (.noOperation d.typeWord "meta")
  | s@(.assign _ _ info) | s@(.annAssign _ _ _ info) | s@(.augAssign _ _ _ info)
  | s@(.exprStmt _ info) | s@(.passStmt info) | s@(.returnStmt _ info) | s@(.breakStmt info)
  | s@(.continueStmt info) | s@(.importStmt _ _ _ info) | s@(.assertStmt _ _ info)
  | s@(.raiseStmt _ _ info) | s@(.deleteStmt _ info) | s@(.globalStmt _ info)
  | s@(.nonlocalStmt _ info) => simpleNested s info

/-- The lines of statements. -/
def stmtsNested : List Stmt → Result (List Nested)
  | [] => .ok []
  | s :: rest => do
    let first ← stmtNested s
    return first ++ (← stmtsNested rest)

/-- The suite of a body: its statements, or `pass` if there are none. -/
def suiteNested : List Stmt → Result (List Nested)
  | [] => .ok [passing]
  | s :: rest => do
    let first ← stmtNested s
    let others ← stmtsNested rest
    return if (s :: rest).all isEmptyStmt then [passing] else first ++ others

/-- A header and its suite that may be left out. -/
def optionalNested (header : String) : Option (Suite Stmt) → Result (List Nested)
  | none => .ok []
  | some ⟨body, _⟩ => do return [.mk header "" (← suiteNested body)]

/-- Further conditions. -/
def elifNested : List (ElifClause Stmt) → Result (List Nested)
  | [] => .ok []
  | ⟨test, ⟨body, _⟩, _⟩ :: rest => do
    let head ← shown test
    let first ← suiteNested body
    return .mk ("elif " ++ head ++ ":") "" first :: (← elifNested rest)

/-- Cases of a `match` statement. -/
def caseNested : List (MatchCase Stmt) → Result (List Nested)
  | [] => .ok []
  | ⟨p, ⟨body, _⟩, _⟩ :: rest => do
    let head ← pattern p
    let first ← suiteNested body
    return .mk ("case " ++ head ++ ":") "" first :: (← caseNested rest)

/-- Handlers of a `try` statement. -/
def handlerNested : List (Handler Stmt) → Result (List Nested)
  | [] => .ok []
  | ⟨type, name, ⟨body, _⟩, _⟩ :: rest => do
    let head ← handlerHeader type name
    let first ← suiteNested body
    return .mk head "" first :: (← handlerNested rest)

end

end Render

/-- The lines of a program, nested as its statements are. -/
def Syntax.Program.nesting (p : Program) : Render.Result (List Render.Nested) :=
  Render.stmtsNested p.body.statements

namespace Render

/-! ## Lines of code -/

/-- A text that is a line of code: there is something in it, it stays on one line, and it starts
neither with white space nor as a comment does. -/
def IsCode (code : String) : Prop :=
  code ≠ "" ∧ '\n' ∉ code.toList ∧ ∀ c ∈ code.toList.head?, Text.isBlank c = false ∧ c ≠ '#'

/-- The headers and the simple statements are lines of code. -/
inductive Nested.Legible : Nested → Prop
  | intro {code tail : String} {suite : List Nested} (isCode : IsCode code)
    (inner : ∀ n ∈ suite, Legible n) : Legible (.mk code tail suite)

/-- What can stand after code on its line. -/
def IsTail (tail : String) : Prop := '\n' ∉ tail.toList

/-- The indentation of a line at a depth, in columns. -/
lemma toList_padding {width : ℤ} (hwidth : 1 ≤ width) (depth : ℕ) :
    (padding width depth).toList = List.replicate (width.toNat * depth) ' ' := by
  rw [padding, Text.repeated, String.toList_ofList]
  congr 1
  have hnat : (width.toNat : ℤ) = width := Int.toNat_of_nonneg (by omega)
  rw [← hnat, ← Int.natCast_mul, Int.toNat_natCast, Int.toNat_natCast]

/-- Spaces are as many columns as they are. -/
lemma outlineColumn_replicate (n : ℕ) : Source.outlineColumn (List.replicate n ' ') = n := by
  have hfold : ∀ (n column : ℕ), (List.replicate n ' ').foldl (fun column c =>
      if c == '\t' then (column / 8 + 1) * 8 else if c == '\x0c' then 0 else column + 1) column =
        column + n := by
    intro n
    induction n with
    | zero => exact fun _ => rfl
    | succ n ih =>
      intro column
      rw [List.replicate_succ, List.foldl_cons, ih]
      simp only [show (' ' == '\t') = false from rfl, show (' ' == '\x0c') = false from rfl]
      simp only [Bool.false_eq_true, if_false]
      omega
  rw [Source.outlineColumn, hfold, Nat.zero_add]

lemma isSpacing_eq_false {c : Char} (h : Text.isBlank c = false) : Source.isSpacing c = false := by
  rw [← Bool.not_eq_true] at h ⊢
  intro hc
  rw [Source.isSpacing, Bool.or_eq_true, Bool.or_eq_true, beq_iff_eq, beq_iff_eq, beq_iff_eq] at hc
  rcases hc with (rfl | rfl) | rfl <;> exact h rfl

/-- Padding, code and what stands after it are a line of code. -/
lemma codeLine?_padded {width : ℤ} (hwidth : 1 ≤ width) (depth : ℕ) {code tail : String}
    (hcode : IsCode code) :
    Layout.codeLine? (padding width depth ++ code ++ tail).toList =
      some (width.toNat * depth, code ++ tail) := by
  obtain ⟨hne, -, hhead⟩ := hcode
  obtain ⟨c, rest, hcs⟩ : ∃ c rest, code.toList = c :: rest :=
    List.exists_cons_of_ne_nil fun h => hne (String.toList_inj.mp h)
  obtain ⟨hblank, hhash⟩ := hhead c (by rw [hcs]; rfl)
  have hspacing := isSpacing_eq_false hblank
  have hreturn : c ≠ '\r' := by
    rintro rfl
    cases hblank
  have hblanks : (List.replicate (width.toNat * depth) ' ' ++ c :: (rest ++ tail.toList)).takeWhile
      Source.isSpacing = List.replicate (width.toNat * depth) ' ' := by
    have hall : ∀ x ∈ List.replicate (width.toNat * depth) ' ', Source.isSpacing x = true :=
      fun x hx => by rw [List.eq_of_mem_replicate hx]; rfl
    rw [List.takeWhile_append_of_pos hall, List.takeWhile_cons_of_neg (by simp [hspacing]),
      List.append_nil]
  have htext : (padding width depth ++ code ++ tail).toList =
      List.replicate (width.toNat * depth) ' ' ++ c :: (rest ++ tail.toList) := by
    rw [String.toList_append, String.toList_append, toList_padding hwidth, hcs, List.append_assoc,
      List.cons_append]
  have hback : String.ofList (c :: (rest ++ tail.toList)) = code ++ tail := by
    rw [← String.toList_inj, String.toList_ofList, String.toList_append, hcs, List.cons_append]
  simp only [Layout.codeLine?, htext, hblanks, List.drop_left, outlineColumn_replicate, hback]
  rw [if_neg]
  simpa using ⟨hhash, hreturn⟩

/-- A blank line is no line of code. -/
lemma codeLine?_nil : Layout.codeLine? [] = none := rfl

/-- Nor is a comment. -/
lemma codeLine?_comment {width : ℤ} (hwidth : 1 ≤ width) (depth : ℕ) {comment : String}
    (hcomment : IsComment comment) :
    Layout.codeLine? (padding width depth ++ comment).toList = none := by
  obtain ⟨rest, hcs⟩ : ∃ rest, comment.toList = '#' :: rest := by
    have hhead := hcomment.1
    cases h : comment.toList with
    | nil => rw [h] at hhead; cases hhead
    | cons c rest =>
      rw [h] at hhead
      exact ⟨rest, by rw [Option.some.inj hhead]⟩
  have hblanks : (List.replicate (width.toNat * depth) ' ' ++ '#' :: rest).takeWhile
      Source.isSpacing = List.replicate (width.toNat * depth) ' ' := by
    have hall : ∀ x ∈ List.replicate (width.toNat * depth) ' ', Source.isSpacing x = true :=
      fun x hx => by rw [List.eq_of_mem_replicate hx]; rfl
    rw [List.takeWhile_append_of_pos hall, List.takeWhile_cons_of_neg (by decide),
      List.append_nil]
  rw [String.toList_append, toList_padding hwidth, hcs]
  simp only [Layout.codeLine?, hblanks, List.drop_left]
  rfl

/-! ## Lines beside a nesting -/

/-- Lines at a depth show nested lines: among them are the lines of code of the nesting laid out
there, and nothing else is code. -/
def Shows (width : ℤ) (depth : ℕ) (lines : List String) (nested : List Nested) : Prop :=
  (∀ n ∈ nested, n.Legible) → (∀ line ∈ lines, '\n' ∉ line.toList) ∧
    (lines.map String.toList).filterMap Layout.codeLine? =
      Layout.linesOf width.toNat depth (nestsOf nested)

@[simp] lemma nestsOf_nil : nestsOf [] = [] := by
  rw [nestsOf]

lemma nestsOf_append (ns ms : List Nested) : nestsOf (ns ++ ms) = nestsOf ns ++ nestsOf ms := by
  induction ns with
  | nil => rw [List.nil_append, nestsOf_nil, List.nil_append]
  | cons n rest ih => rw [List.cons_append, nestsOf, nestsOf, ih, List.cons_append]

lemma nestsOf_eq_map (ns : List Nested) : nestsOf ns = ns.map Nested.nest := by
  induction ns with
  | nil => rw [nestsOf_nil, List.map_nil]
  | cons n rest ih => rw [nestsOf, ih, List.map_cons]

variable {width : ℤ} {depth : ℕ} {lines lines' : List String} {nested nested' : List Nested}

lemma shows_nil : Shows width depth [] [] := by
  intro _
  rw [nestsOf_nil, Layout.linesOf_nil]
  exact ⟨nofun, rfl⟩

lemma Shows.append (h : Shows width depth lines nested) (h' : Shows width depth lines' nested') :
    Shows width depth (lines ++ lines') (nested ++ nested') := by
  intro hlegible
  obtain ⟨hbreaks, hlines⟩ := h fun n hn => hlegible n (List.mem_append_left _ hn)
  obtain ⟨hbreaks', hlines'⟩ := h' fun n hn => hlegible n (List.mem_append_right _ hn)
  refine ⟨fun line hline => ?_, ?_⟩
  · rcases List.mem_append.mp hline with hline | hline
    · exact hbreaks line hline
    · exact hbreaks' line hline
  · rw [List.map_append, List.filterMap_append, hlines, hlines', nestsOf_append, Layout.linesOf_append]

variable (hwidth : 1 ≤ width)
include hwidth

/-- Spaces are no line breaks. -/
lemma not_mem_padding (depth : ℕ) : '\n' ∉ (padding width depth).toList := by
  rw [toList_padding hwidth]
  intro h
  cases List.eq_of_mem_replicate h

/-- A line of code and the lines of its suite. -/
lemma Shows.suite (code : String) {tail : String} (htail : IsTail tail) {suite : List Nested}
    (h : Shows width (depth + 1) lines suite) :
    Shows width depth ((padding width depth ++ code ++ tail) :: lines) [.mk code tail suite] := by
  intro hlegible
  obtain ⟨hcode, hsuite⟩ := hlegible _ List.mem_cons_self
  obtain ⟨hbreaks, hlines⟩ := h hsuite
  refine ⟨List.forall_mem_cons.mpr ⟨?_, hbreaks⟩, ?_⟩
  · rw [String.toList_append, String.toList_append, List.mem_append, List.mem_append]
    rintro ((hmem | hmem) | hmem)
    · exact not_mem_padding hwidth depth hmem
    · exact hcode.2.1 hmem
    · exact htail hmem
  · rw [List.map_cons, List.filterMap_cons_some (codeLine?_padded hwidth depth hcode), hlines,
      nestsOf, nestsOf,
      Nested.nest, Layout.linesOf_cons, Layout.linesOf_nil, List.append_nil]

/-- A line of code that has no suite. -/
lemma shows_line (code : String) {tail : String} (htail : IsTail tail) :
    Shows width depth [padding width depth ++ code ++ tail] [.mk code tail []] :=
  Shows.suite hwidth code htail shows_nil

/-- A line without code. -/
lemma shows_emptyLine {info : Info} (h : info.WithoutCode) :
    Shows width depth [emptyLine (padding width depth) info.trailing] [] := by
  intro _
  obtain ⟨-, hnone | ⟨comment, hcomment, hmark⟩⟩ := h
  · have hline : emptyLine (padding width depth) info.trailing = "" := by
      rw [hnone]
      rfl
    rw [hline, nestsOf_nil, Layout.linesOf_nil]
    exact ⟨by simp, rfl⟩
  · -- Blanks at the end of a comment are trimmed, its mark is not.
    have htext : trailingText info.trailing = comment := by
      rw [hcomment]
      simp [trailingText, String.join]
    have hmark' : IsComment (Text.trim comment) := by
      obtain ⟨rest, hcs⟩ : ∃ rest, comment.toList = '#' :: rest := by
        cases hlist : comment.toList with
        | nil => have := hmark.1; rw [hlist] at this; cases this
        | cons c rest =>
          have := hmark.1
          rw [hlist] at this
          exact ⟨rest, by rw [Option.some.inj this]⟩
      refine ⟨?_, fun hmem => hmark.2 (Text.mem_of_mem_trim hmem)⟩
      have hstart : comment.toList.dropWhile Text.isBlank = '#' :: rest := by
        rw [hcs, List.dropWhile_cons_of_neg (by decide)]
      rw [Text.trim, String.toList_ofList, Text.trimChars, Text.trimBy, hstart]
      rw [List.reverse_cons, List.dropWhile_append]
      split
      · rfl
      · rw [List.reverse_append]
        rfl
    have hline : emptyLine (padding width depth) info.trailing =
        padding width depth ++ Text.trim comment := by
      rw [emptyLine, htext]
      refine if_neg fun hempty => ?_
      have := hmark'.1
      rw [String.isEmpty_iff.mp hempty] at this
      cases this
    rw [hline, nestsOf_nil, Layout.linesOf_nil, List.map_singleton,
      List.filterMap_cons_none (codeLine?_comment hwidth depth hmark')]
    refine ⟨List.forall_mem_singleton.mpr ?_, rfl⟩
    rw [String.toList_append, List.mem_append]
    exact not_or.mpr ⟨not_mem_padding hwidth depth, hmark'.2⟩

end Render

end BlockText

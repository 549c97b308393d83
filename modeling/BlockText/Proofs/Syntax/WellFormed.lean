import BlockText.Block.Type
import BlockText.Proofs.Datum.Texts
import BlockText.Syntax.Stmt

/-!
# Well-formed programs

What reading a text guarantees about the program: names are there, literals are spelled as their
kind asks for, parts that belong together come together, and every suite knows how deep it is.  A
tree is well-formed if this holds at its top and its parts are well-formed.
-/

namespace BlockText.Syntax

/-! ## Leaves -/

/-- The datum is a text. -/
def IsText (d : Datum) : Prop := ∃ ps, d = .ofPoints ps

/-- The datum is a name. -/
def IsName (d : Datum) : Prop := ∃ ps, ps ≠ [] ∧ d = .ofPoints ps

/-- A text of characters is a text. -/
lemma isText_text (s : String) : IsText (.text s) := Datum.exists_ofPoints s

/-- A text of characters that is not empty is a name. -/
lemma isName_text {s : String} (h : s ≠ "") : IsName (.text s) :=
  ⟨Text.points s, by simpa using h, (Datum.ofPoints_points s).symm⟩

/-- A name that may be missing: nothing, or a text that is not empty. -/
def IsOptionalName (d : Datum) : Prop := d = .null ∨ IsName d

/-- A name in a declaration: no comma, and no blanks around it. -/
def IsDeclaredName (d : Datum) : Prop :=
  ∃ ps, ps ≠ [] ∧ .char ',' ∉ ps ∧ Text.trimPoints ps = ps ∧ d = .ofPoints ps

/-- The spelling and the value of a literal fit its kind. -/
def IsLiteral : LiteralKind → Datum → Datum → Prop
  | .number, raw, value =>
    (∃ ps, ps ≠ [] ∧ Text.trimPoints ps = ps ∧ raw = .ofPoints ps) ∧ value = .null
  | .string, raw, value => IsName raw ∧ IsText value
  | .bool, raw, value => ∃ v : Bool, raw = .text (if v then "True" else "False") ∧ value = .bool v
  | .none, raw, value => raw = .text "None" ∧ value = .null

/-- A part of a formatted string is a text, or an expression with how to show it. -/
def FormatPart.Sane (p : FormatPart Expr) : Prop :=
  IsText p.text ∧ IsText p.conversion ∧ IsText p.formatSpec ∧
    match p.kind with
    | .literal => p.expr = none ∧ p.conversion = "" ∧ p.formatSpec = ""
    | .expr => p.expr.isSome ∧ p.text = ""

/-! ## Expressions -/

namespace Expr

/-- The expressions that stand directly in an expression. -/
def parts : Expr → List Expr
  | identifier _ _ | literal _ _ _ _ | stray _ => []
  | binary l _ r _ => [l, r]
  | unary _ e _ | .attribute e _ _ | grouped e _ | walrus _ e _ | yieldFrom e _ | await e _ => [e]
  | boolOp _ es _ | tuple es _ | list es _ | set es _ => es
  | compare l _ es _ => l :: es
  | lambda ps body _ => body :: ps.flatMap fun p => p.hint.toList ++ p.preset.toList
  | conditional t b e _ => [t, b, e]
  | call f args ks _ => f :: args ++ ks.map (·.value)
  | dict ds _ => ds.flatMap fun d => d.key.toList ++ [d.value]
  | subscript e index _ => [e, index]
  | slice lower upper step _ => lower.toList ++ upper.toList ++ step.toList
  | comprehension _ e cs key _ =>
    e :: key.toList ++ cs.flatMap fun c => c.target :: c.iter :: c.ifs
  | fstring ps _ _ => ps.flatMap fun p => p.expr.toList
  | yield e _ => e.toList

/-- What holds at the top of a well-formed expression. -/
def Sane : Expr → Prop
  | identifier name _ => IsName name
  | literal kind raw value _ => IsLiteral kind raw value
  | compare _ ops es _ => ops.length = es.length
  | lambda ps _ _ => ∀ p ∈ ps, IsText p.name ∧ p.hint = none
  | call _ _ ks _ => ∀ k ∈ ks, IsOptionalName k.name
  | .attribute _ attr _ => IsName attr
  | comprehension kind _ _ key _ => key.isSome ↔ kind = .dict
  | fstring ps quote _ => IsText quote ∧ ∀ p ∈ ps, p.Sane
  | walrus target _ _ => IsName target
  | stray _ => False
  | _ => True

/-- The expression and all its parts are as reading a text gives them. -/
inductive WellFormed : Expr → Prop
  | intro {e : Expr} (sane : e.Sane) (parts : ∀ part ∈ e.parts, WellFormed part) : WellFormed e

end Expr

/-! ## Statements -/

/-- A pattern is a wildcard, a name or a literal. -/
def Pattern.Sane : Pattern → Prop
  | .wildcard _ => True
  | .capture name _ => IsName name ∧ name ≠ "_"
  | .literal (.literal kind raw value _) _ => IsLiteral kind raw value
  | .literal _ _ | .stray _ => False

namespace Stmt

/-- The expressions that stand directly in a statement. -/
def exprs : Stmt → List Expr
  | ifStmt t _ elifs _ _ => t :: elifs.map (·.test)
  | whileStmt t _ _ _ => [t]
  | forStmt target iter _ _ _ _ => [target, iter]
  | matchStmt subject _ _ => [subject]
  | functionDef _ ps _ decorators returns _ _ =>
    (ps.flatMap fun p => p.hint.toList ++ p.preset.toList) ++ decorators ++ returns.toList
  | classDef _ bases _ decorators _ => bases ++ decorators
  | assign targets value _ => value :: targets
  | annAssign target hint value _ => target :: hint :: value.toList
  | augAssign target _ value _ => [target, value]
  | exprStmt e _ => [e]
  | returnStmt value _ => value.toList
  | tryStmt _ handlers _ _ _ => handlers.flatMap fun h => h.type.toList
  | withStmt items _ _ _ => items.map (·.context)
  | assertStmt t msg _ => t :: msg.toList
  | raiseStmt exception cause _ => exception.toList ++ cause.toList
  | deleteStmt targets _ => targets
  | passStmt _ | breakStmt _ | continueStmt _ | importStmt _ _ _ _ | globalStmt _ _
  | nonlocalStmt _ _ | empty _ _ | stray _ => []

/-- The suites that stand directly in a statement, each with how much deeper it is. -/
def suites : Stmt → List (ℤ × Suite Stmt)
  | ifStmt _ body elifs orelse _ =>
    (1, body) :: elifs.map (fun c => (1, c.body)) ++ orelse.toList.map ((1, ·))
  | whileStmt _ body orelse _ | forStmt _ _ body orelse _ _ =>
    (1, body) :: orelse.toList.map ((1, ·))
  | matchStmt _ cases _ => cases.map fun c => (2, c.body)
  | functionDef _ _ body _ _ _ _ | classDef _ _ body _ _ | withStmt _ body _ _ => [(1, body)]
  | tryStmt body handlers orelse final _ =>
    (1, body) :: handlers.map (fun h => (1, h.body)) ++ orelse.toList.map ((1, ·)) ++
      final.toList.map ((1, ·))
  | _ => []

/-- What holds at the top of a well-formed statement. -/
def Sane : Stmt → Prop
  | matchStmt _ cases _ => cases ≠ [] ∧ ∀ c ∈ cases, c.pattern.Sane
  | functionDef name ps _ _ _ _ _ => IsName name ∧ ∀ p ∈ ps, IsText p.name
  | classDef name _ _ _ _ => IsName name
  | importStmt module names _ _ =>
    IsText module ∧ ∀ n ∈ names, IsText n.name ∧ IsOptionalName n.asName
  | tryStmt _ handlers _ _ _ => ∀ h ∈ handlers, IsOptionalName h.name
  | withStmt items _ _ _ => ∀ item ∈ items, IsOptionalName item.name
  | globalStmt names _ | nonlocalStmt names _ => ∀ d ∈ names, IsDeclaredName d
  | stray _ => False
  | _ => True

/-- The statement at a depth and all its parts are as reading a text gives them. -/
inductive WellFormed : ℤ → Stmt → Prop
  | intro {depth : ℤ} {s : Stmt} (sane : s.Sane) (exprs : ∀ e ∈ s.exprs, e.WellFormed)
      (level : ∀ body ∈ s.suites, body.2.level = depth + body.1)
      (suites : ∀ body ∈ s.suites, ∀ inner ∈ body.2.statements,
        WellFormed (depth + body.1) inner) : WellFormed depth s

end Stmt

/-- The program is as reading a text gives it. -/
structure Program.WellFormed (p : Program) : Prop where
  level : p.body.level = 0
  statements : ∀ s ∈ p.body.statements, s.WellFormed 0

end BlockText.Syntax

/-!
## What a program declares

Assignments, loops and annotated assignments declare the names that their targets bind, and a
function declares its parameters and itself. A target binds a name directly or by a tuple or a list
of targets. Nothing else declares anything: no function without a name, no clause, no context and no
handler.
-/

namespace BlockText.Syntax

/-- Something that is declared: a variable, or a function with its number of parameters. -/
inductive Declaration
  | variable (name : Datum)
  | function (name : Datum) (arity : ℕ)

mutual

/-- The names that a target binds. -/
def Expr.boundNames : Expr → List Datum
  | .identifier name _ => [name]
  | .tuple es _ | .list es _ => boundNamesIn es
  | _ => []

/-- The names that targets bind. -/
def boundNamesIn : List Expr → List Datum
  | [] => []
  | e :: rest => e.boundNames ++ boundNamesIn rest

end

lemma mem_boundNamesIn {es : List Expr} {d : Datum} :
    d ∈ boundNamesIn es ↔ ∃ e ∈ es, d ∈ e.boundNames := by
  induction es with
  | nil => simp [boundNamesIn]
  | cons e rest ih => rw [boundNamesIn, List.mem_append, ih, List.exists_mem_cons_iff]

namespace Stmt

/-- What a statement declares itself. -/
def introduced : Stmt → List Declaration
  | assign targets _ _ => (boundNamesIn targets).map .variable
  | forStmt target _ _ _ _ _ | annAssign target _ _ _ => target.boundNames.map .variable
  | functionDef name ps _ _ _ _ _ =>
    .function name ps.length :: ps.map fun p => .variable p.name
  | _ => []

/-- What a statement and the statements in it declare, at any depth. -/
inductive Declares : Stmt → Declaration → Prop
  | here {s : Stmt} {d : Declaration} (h : d ∈ s.introduced) : Declares s d
  | inside {s t : Stmt} {d : Declaration} {body : ℤ × Suite Stmt} (hbody : body ∈ s.suites)
    (ht : t ∈ body.2.statements) (h : Declares t d) : Declares s d

lemma declares_iff {s : Stmt} {d : Declaration} : s.Declares d ↔
    d ∈ s.introduced ∨ ∃ body ∈ s.suites, ∃ t ∈ body.2.statements, t.Declares d := by
  constructor
  · intro h
    cases h with
    | here h => exact .inl h
    | inside hbody ht h => exact .inr ⟨_, hbody, _, ht, h⟩
  · rintro (h | ⟨body, hbody, t, ht, h⟩)
    · exact .here h
    · exact .inside hbody ht h

end Stmt

/-- What one of the statements declares. -/
def DeclaredIn (ss : List Stmt) (d : Declaration) : Prop := ∃ s ∈ ss, s.Declares d

lemma not_declaredIn_nil (d : Declaration) : ¬ DeclaredIn [] d := by
  rintro ⟨s, hs, -⟩
  cases hs

lemma declaredIn_cons {s : Stmt} {ss : List Stmt} {d : Declaration} :
    DeclaredIn (s :: ss) d ↔ s.Declares d ∨ DeclaredIn ss d :=
  List.exists_mem_cons_iff _ _ _

/-- What a program declares. -/
def Program.Declares (p : Program) (d : Declaration) : Prop := DeclaredIn p.body.statements d

end BlockText.Syntax

/-!
## The rows of a program

A program shows its code in rows.  A row is what stands in one suite, in order: its statements, with
the further alternatives of a conditional right after it, and without empty lines.  The cases of a
`match` statement are a row of their own.
-/

namespace BlockText.Syntax

/-- A member of a row. -/
inductive Construct
  | statement (s : Stmt)
  | elif (clause : ElifClause Stmt)
  | orelse (body : Suite Stmt)
  | case (c : MatchCase Stmt)

/-- The types of blocks that a statement is read off. -/
def Stmt.types : Stmt → List BlockType
  | ifStmt .. => [.ifStmt]
  | whileStmt .. => [.whileStmt]
  | forStmt .. => [.forStmt]
  | matchStmt .. => [.matchStmt]
  | functionDef .. => [.functionDef]
  | classDef .. => [.classDef]
  | assign .. => [.varSet, .assign]
  | annAssign .. => [.annAssign]
  | augAssign .. => [.augAssign]
  | exprStmt .. => [.exprStmt, .printStmt, .waitStmt]
  | passStmt .. => [.passStmt]
  | returnStmt .. => [.returnStmt]
  | breakStmt .. => [.breakStmt]
  | continueStmt .. => [.continueStmt]
  | importStmt .. => [.importStmt]
  | tryStmt .. => [.tryStmt]
  | withStmt .. => [.withStmt]
  | assertStmt .. => [.assertStmt]
  | raiseStmt .. => [.raiseStmt]
  | deleteStmt .. => [.deleteStmt]
  | globalStmt .. => [.globalStmt]
  | nonlocalStmt .. => [.nonlocalStmt]
  | empty .. | stray .. => []

namespace Stmt

/-- What a statement adds to the row in which it stands. -/
def constructs : Stmt → List Construct
  | empty _ _ => []
  | ifStmt t body elifs orelse i =>
    .statement (.ifStmt t body elifs orelse i) :: elifs.map .elif ++ orelse.toList.map .orelse
  | s => [.statement s]

end Stmt

mutual

/-- The rows within a statement. -/
def Stmt.inner : Stmt → List (List Construct)
  | .ifStmt _ body elifs orelse _ => body.rows ++ elifRows elifs ++ optionalRows orelse
  | .whileStmt _ body orelse _ => body.rows ++ optionalRows orelse
  | .forStmt _ _ body orelse _ _ => body.rows ++ optionalRows orelse
  | .matchStmt _ cases _ => cases.map .case :: caseRows cases
  | .functionDef _ _ body _ _ _ _ => body.rows
  | .classDef _ _ body _ _ => body.rows
  | .tryStmt body handlers orelse final _ =>
    body.rows ++ handlerRows handlers ++ optionalRows orelse ++ optionalRows final
  | .withStmt _ body _ _ => body.rows
  | _ => []

/-- The rows within some statements. -/
def innerRows : List Stmt → List (List Construct)
  | [] => []
  | s :: rest => s.inner ++ innerRows rest

/-- The row of a suite and all rows within it. -/
def Suite.rows : Suite Stmt → List (List Construct)
  | ⟨ss, _⟩ => ss.flatMap Stmt.constructs :: innerRows ss

/-- The rows of an optional suite. -/
def optionalRows : Option (Suite Stmt) → List (List Construct)
  | none => []
  | some body => body.rows

/-- The rows within some alternatives. -/
def elifRows : List (ElifClause Stmt) → List (List Construct)
  | [] => []
  | ⟨_, body, _⟩ :: rest => body.rows ++ elifRows rest

/-- The rows within some cases. -/
def caseRows : List (MatchCase Stmt) → List (List Construct)
  | [] => []
  | ⟨_, body, _⟩ :: rest => body.rows ++ caseRows rest

/-- The rows within some handlers. -/
def handlerRows : List (Handler Stmt) → List (List Construct)
  | [] => []
  | ⟨_, _, body, _⟩ :: rest => body.rows ++ handlerRows rest

end

/-- The rows of a program. -/
def Program.rows (p : Program) : List (List Construct) := p.body.rows

@[simp] lemma innerRows_append (ss ss' : List Stmt) :
    innerRows (ss ++ ss') = innerRows ss ++ innerRows ss' := by
  induction ss with
  | nil => rfl
  | cons s rest ih => rw [List.cons_append, innerRows, innerRows, ih, List.append_assoc]

@[simp] lemma elifRows_append (cs cs' : List (ElifClause Stmt)) :
    elifRows (cs ++ cs') = elifRows cs ++ elifRows cs' := by
  induction cs with
  | nil => rfl
  | cons c rest ih => rw [List.cons_append, elifRows, elifRows, ih, List.append_assoc]

lemma elifRows_eq (cs : List (ElifClause Stmt)) :
    elifRows cs = cs.flatMap fun c => c.body.rows := by
  induction cs with
  | nil => rfl
  | cons c rest ih => rw [elifRows, ih, List.flatMap_cons]

lemma handlerRows_eq (hs : List (Handler Stmt)) :
    handlerRows hs = hs.flatMap fun h => h.body.rows := by
  induction hs with
  | nil => rfl
  | cons h rest ih => rw [handlerRows, ih, List.flatMap_cons]

lemma optionalRows_eq (o : Option (Suite Stmt)) :
    optionalRows o = o.toList.flatMap fun body => body.rows := by
  cases o with
  | none => rfl
  | some body => simp [optionalRows]

/-- The statement has cases. -/
def Stmt.isMatch : Stmt → Bool
  | .matchStmt _ _ _ => true
  | _ => false

/-- The rows within a statement without cases are those of its suites. -/
lemma Stmt.inner_eq {s : Stmt} (h : s.isMatch = false) :
    s.inner = s.suites.flatMap fun body => body.2.rows := by
  cases s <;> simp only [Stmt.inner, Stmt.suites, elifRows_eq, handlerRows_eq, optionalRows_eq,
    List.flatMap_cons, List.flatMap_append, List.flatMap_map, List.flatMap_nil, List.append_nil,
    List.cons_append, List.append_assoc]
  case matchStmt => cases h

end BlockText.Syntax

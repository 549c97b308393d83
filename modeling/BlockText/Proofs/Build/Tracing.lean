import BlockText.Block.Builtin
import BlockText.Proofs.Build.Calls
import BlockText.Proofs.Build.Deeds
import BlockText.Syntax.Stmt

/-!
# Deeds and origins

The deeds of building a program are accounted for by what its blocks come from. `Accounts` says that
blocks are made for the origins of a list, in order; that only expressions and patterns are plugged
in, each into a block that belongs to the same text; and that exactly the blocks with a text of
their own are noted, with that text.

The deeds of a construct are those of its parts, one after another.  While the parts of a block are
built, its own text is not noted yet, and parts are plugged into a block that is already there; so
accounts are kept relative to the blocks around and to the notes that are due.
-/

/-!
## What the blocks of a program come from

Showing a program makes one block after another: first the block of a statement, then those of what
stands in it.  An `Origin` says what a block comes from.  Statements, further conditions and cases
have a text of their own; an expression or a pattern belongs to the innermost of them around it; the
block of a last alternative comes from none of these.

`Program.origins` lists the origins of all blocks of a program in the order in which they are made,
apart from the start block.  Some nodes have no block: empty lines, a single name that is assigned
to, and the name of a function whose call has a block of its own.
-/

namespace BlockText.Syntax

/-- What a block is for. -/
inductive Role
  /-- A statement, a further condition or a case. -/
  | unit
  /-- An expression or a pattern. -/
  | part
  /-- The last alternative of a conditional. -/
  | alternative
  deriving DecidableEq

/-- What a block comes from. -/
structure Origin where
  role : Role
  type : BlockType
  /-- The text of the innermost statement, further condition or case that it belongs to. -/
  span : Option Span

namespace Origin

/-- A block for an expression or a pattern. -/
def part (span : Option Span) (type : BlockType) : Origin := ⟨.part, type, span⟩

/-- A block for a statement, a further condition or a case. -/
def unit (type : BlockType) (info : Info) : Origin := ⟨.unit, type, info.span⟩

/-- A block for a last alternative. -/
def alternative : Origin := ⟨.alternative, .elseStmt, none⟩

end Origin

/-! ### Expressions and patterns -/

/-- The type of the blocks of literals. -/
def LiteralKind.blockType : LiteralKind → BlockType
  | .number => .number
  | .string => .string
  | .bool => .bool
  | .none => .none

/-- The type of the block of a pattern, which is a literal or a name. -/
def Pattern.blockType : Pattern → BlockType
  | .literal (.literal kind _ _ _) _ => kind.blockType
  | _ => .identifier

section

variable (span : Option Span)

mutual

/-- The origins of the blocks of an expression. -/
def Expr.origins : Expr → List Origin
  | .identifier _ _ => [.part span .identifier]
  | .literal kind _ _ _ => [.part span kind.blockType]
  | .binary l _ r _ => .part span .binary :: (l.origins ++ r.origins)
  | .unary _ e _ => .part span .unary :: e.origins
  | .boolOp _ es _ => .part span .boolOp :: exprsOrigins es
  | .compare l ops es _ => .part span .compare :: (l.origins ++ comparisonsOrigins ops es)
  | .lambda ps body _ => .part span .lambda :: (paramsOrigins false ps ++ body.origins)
  | .conditional t b e _ => .part span .conditional :: (t.origins ++ b.origins ++ e.origins)
  | .call f args ks _ =>
    match BuiltinCall.match? f args.length (!ks.isEmpty) false with
    | some b => .part span b.type :: exprsOrigins args
    | none => .part span .call :: (f.origins ++ exprsOrigins args ++ keywordsOrigins ks)
  | .tuple es _ => .part span .tuple :: exprsOrigins es
  | .list es _ => .part span .list :: exprsOrigins es
  | .set es _ => .part span .set :: exprsOrigins es
  | .dict entries _ => .part span .dict :: entriesOrigins entries
  | .attribute e _ _ => .part span .member :: e.origins
  | .subscript e index _ => .part span .subscript :: (e.origins ++ index.origins)
  | .slice lower upper step _ =>
    .part span .slice :: (optionOrigins lower ++ optionOrigins upper ++ optionOrigins step)
  | .comprehension _ e cs key _ =>
    .part span .comprehension :: (e.origins ++ optionOrigins key ++ clausesOrigins cs)
  | .grouped e _ => .part span .grouped :: e.origins
  | .fstring parts _ _ => .part span .fstring :: formatOrigins parts
  | .walrus _ e _ => .part span .walrus :: e.origins
  | .yield e _ => .part span .yield :: optionOrigins e
  | .yieldFrom e _ => .part span .yieldFrom :: e.origins
  | .await e _ => .part span .await :: e.origins
  | .stray _ => []

/-- The origins of the blocks of an optional expression. -/
def optionOrigins : Option Expr → List Origin
  | some e => e.origins
  | none => []

/-- The origins of the blocks of several expressions. -/
def exprsOrigins : List Expr → List Origin
  | [] => []
  | e :: rest => e.origins ++ exprsOrigins rest

/-- The origins of the blocks of the right sides of comparisons, one for each operator. -/
def comparisonsOrigins : List CompareOp → List Expr → List Origin
  | _ :: ops, e :: rest => e.origins ++ comparisonsOrigins ops rest
  | _, _ => []

/-- The origins of the blocks of parameters, with their types if `hints` is set. -/
def paramsOrigins (hints : Bool) : List (Param Expr) → List Origin
  | [] => []
  | ⟨_, hint, preset, _, _⟩ :: rest =>
    (if hints then optionOrigins hint else []) ++ optionOrigins preset ++ paramsOrigins hints rest

/-- The origins of the blocks of keyword arguments. -/
def keywordsOrigins : List (Keyword Expr) → List Origin
  | [] => []
  | ⟨_, value, _⟩ :: rest => value.origins ++ keywordsOrigins rest

/-- The origins of the blocks of entries of a dictionary. -/
def entriesOrigins : List (DictEntry Expr) → List Origin
  | [] => []
  | ⟨key, value, _⟩ :: rest => optionOrigins key ++ value.origins ++ entriesOrigins rest

/-- The origins of the blocks of clauses of a comprehension. -/
def clausesOrigins : List (Clause Expr) → List Origin
  | [] => []
  | ⟨target, iter, ifs, _, _⟩ :: rest =>
    target.origins ++ iter.origins ++ exprsOrigins ifs ++ clausesOrigins rest

/-- The origins of the blocks of parts of a formatted string. -/
def formatOrigins : List (FormatPart Expr) → List Origin
  | [] => []
  | ⟨_, _, e, _, _, _⟩ :: rest => optionOrigins e ++ formatOrigins rest

end

/-- The origins of the blocks of contexts. -/
def contextsOrigins (items : List WithItem) : List Origin :=
  exprsOrigins span (items.map (·.context))

end

/-! ### Statements -/

/-- The origins of the blocks of an assignment, apart from its value. -/
def targetsOrigins (targets : List Expr) (info : Info) : List Origin :=
  match targets with
  | [.identifier _ _] => [.unit .varSet info]
  | _ => .unit .assign info :: exprsOrigins info.span targets

/-- The call of a statement that has a block of its own, with its arguments. -/
def statementCall? : Expr → Option (BuiltinCall × List Expr)
  | .call f args ks _ =>
    (BuiltinCall.match? f args.length (!ks.isEmpty) true).map fun b => (b, args)
  | _ => none

/-- The origins of the blocks of an expression as a statement. -/
def exprStmtOrigins (e : Expr) (info : Info) : List Origin :=
  match statementCall? e with
  | some (b, args) => .unit b.type info :: exprsOrigins info.span args
  | none => .unit .exprStmt info :: e.origins info.span

mutual

/-- The origins of the blocks of a statement. -/
def Stmt.origins : Stmt → List Origin
  | .ifStmt t ⟨body, _⟩ elifs orelse info =>
    .unit .ifStmt info ::
      (t.origins info.span ++ stmtsOrigins body ++ elifsOrigins elifs ++ elseOrigins orelse)
  | .whileStmt t ⟨body, _⟩ orelse info =>
    .unit .whileStmt info ::
      (t.origins info.span ++ stmtsOrigins body ++ suiteOrigins orelse)
  | .forStmt target iter ⟨body, _⟩ orelse _ info =>
    .unit .forStmt info :: (target.origins info.span ++ iter.origins info.span ++
      stmtsOrigins body ++ suiteOrigins orelse)
  | .matchStmt subject cases info =>
    .unit .matchStmt info :: (subject.origins info.span ++ casesOrigins cases)
  | .functionDef _ ps ⟨body, _⟩ decorators returns _ info =>
    .unit .functionDef info :: (paramsOrigins info.span true ps ++
      exprsOrigins info.span decorators ++ optionOrigins info.span returns ++ stmtsOrigins body)
  | .classDef _ bases ⟨body, _⟩ decorators info =>
    .unit .classDef info :: (exprsOrigins info.span bases ++ exprsOrigins info.span decorators ++
      stmtsOrigins body)
  | .assign targets value info => targetsOrigins targets info ++ value.origins info.span
  | .annAssign target hint value info =>
    .unit .annAssign info :: (target.origins info.span ++ hint.origins info.span ++
      optionOrigins info.span value)
  | .augAssign target _ value info =>
    .unit .augAssign info :: (target.origins info.span ++ value.origins info.span)
  | .exprStmt e info => exprStmtOrigins e info
  | .passStmt info => [.unit .passStmt info]
  | .breakStmt info => [.unit .breakStmt info]
  | .continueStmt info => [.unit .continueStmt info]
  | .returnStmt value info => .unit .returnStmt info :: optionOrigins info.span value
  | .importStmt _ _ _ info => [.unit .importStmt info]
  | .tryStmt ⟨body, _⟩ handlers orelse final info =>
    .unit .tryStmt info :: (stmtsOrigins body ++ handlersOrigins info.span handlers ++
      suiteOrigins orelse ++ suiteOrigins final)
  | .withStmt items ⟨body, _⟩ _ info =>
    .unit .withStmt info :: (contextsOrigins info.span items ++ stmtsOrigins body)
  | .assertStmt t msg info =>
    .unit .assertStmt info :: (t.origins info.span ++ optionOrigins info.span msg)
  | .raiseStmt exception cause info =>
    .unit .raiseStmt info :: (optionOrigins info.span exception ++ optionOrigins info.span cause)
  | .deleteStmt targets info => .unit .deleteStmt info :: exprsOrigins info.span targets
  | .globalStmt _ info => [.unit .globalStmt info]
  | .nonlocalStmt _ info => [.unit .nonlocalStmt info]
  | .empty _ _ | .stray _ => []

/-- The origins of the blocks of several statements. -/
def stmtsOrigins : List Stmt → List Origin
  | [] => []
  | s :: rest => s.origins ++ stmtsOrigins rest

/-- The origins of the blocks of a suite that may be missing. -/
def suiteOrigins : Option (Suite Stmt) → List Origin
  | some ⟨body, _⟩ => stmtsOrigins body
  | none => []

/-- The origins of the blocks of further conditions. -/
def elifsOrigins : List (ElifClause Stmt) → List Origin
  | [] => []
  | ⟨t, ⟨body, _⟩, info⟩ :: rest =>
    .unit .elifStmt info :: (t.origins info.span ++ stmtsOrigins body ++ elifsOrigins rest)

/-- The origins of the blocks of a last alternative. -/
def elseOrigins : Option (Suite Stmt) → List Origin
  | some ⟨body, _⟩ => .alternative :: stmtsOrigins body
  | none => []

/-- The origins of the blocks of cases. -/
def casesOrigins : List (MatchCase Stmt) → List Origin
  | [] => []
  | ⟨p, ⟨body, _⟩, info⟩ :: rest =>
    .unit .caseStmt info :: .part info.span p.blockType ::
      (stmtsOrigins body ++ casesOrigins rest)

/-- The origins of the blocks of handlers, which have no block themselves. -/
def handlersOrigins (span : Option Span) : List (Handler Stmt) → List Origin
  | [] => []
  | ⟨type, _, ⟨body, _⟩, _⟩ :: rest =>
    optionOrigins span type ++ stmtsOrigins body ++ handlersOrigins span rest

end

/-- The origins of the blocks of a program, in the order in which they are made. -/
def Program.origins (p : Program) : List Origin := stmtsOrigins p.body.statements

/-- Every statement, further condition and case of the program has a text. -/
def Program.Spanned (p : Program) : Prop :=
  ∀ o ∈ p.origins, o.role = .unit → o.span.isSome

end BlockText.Syntax

namespace BlockText.Edit

open Syntax Workspace

variable {α β : Type}

/-! ## Accounts -/

/-- The note that is entered for a block. -/
def noteOf (e : BlockId × Origin) : List (BlockId × Span) :=
  match e.2.role with
  | .unit => e.2.span.toList.map (e.1, ·)
  | .part | .alternative => []

/-- The block into which expressions and patterns that belong to a text can be plugged. -/
def holderOf (e : BlockId × Origin) : List (BlockId × Option Span) :=
  match e.2.role with
  | .unit | .part => [(e.1, e.2.span)]
  | .alternative => []

/-- The deeds make the blocks of a list and plug them into each other or into blocks around, and
they note what is due and the texts of the blocks. -/
structure Accounts (around : List (BlockId × Option Span)) (L : List (BlockId × Origin))
    (due : List (BlockId × Span)) (ds : List Deed) : Prop where
  made : made ds = L.map fun e => (e.1, e.2.type)
  kind : ∀ e ∈ L, e.2.role = .part → e.2.type.kind = .expression
  /-- A block that is plugged in and the one that holds it belong to the same text. -/
  plugged : ∀ child holder, .plugged child holder ∈ ds → ∃ o, (child, o) ∈ L ∧ o.role = .part ∧
    (holder, o.span) ∈ around ++ L.flatMap holderOf
  notes : ∀ n, n ∈ notes ds ↔ n ∈ due ∨ n ∈ L.flatMap noteOf

namespace Accounts

variable {around around' : List (BlockId × Option Span)} {L L' : List (BlockId × Origin)}
  {due : List (BlockId × Span)} {ds ds' : List Deed}

lemma nil (around : List (BlockId × Option Span)) : Accounts around [] [] [] :=
  ⟨rfl, by simp, by simp, by simp⟩

/-- An account of blocks that need none around. -/
lemma weaken (h : Accounts [] L due ds) (around : List (BlockId × Option Span)) :
    Accounts around L due ds where
  made := h.made
  kind := h.kind
  plugged c p hcp := by
    obtain ⟨o, hc, ho, hp⟩ := h.plugged c p hcp
    exact ⟨o, hc, ho, List.mem_append_right _ hp⟩
  notes := h.notes

/-- One account after another. -/
lemma append (h : Accounts around L [] ds) (h' : Accounts around L' due ds') :
    Accounts around (L ++ L') due (ds ++ ds') where
  made := by rw [made_append, h.made, h'.made, List.map_append]
  kind e he := by
    rw [List.mem_append] at he
    exact he.elim (h.kind e) (h'.kind e)
  plugged c p hcp := by
    rw [List.mem_append] at hcp
    rw [List.flatMap_append]
    rcases hcp with hcp | hcp
    · obtain ⟨o, hc, ho, hp⟩ := h.plugged c p hcp
      rw [List.mem_append] at hp
      exact ⟨o, List.mem_append_left _ hc, ho, by simp only [List.mem_append]; tauto⟩
    · obtain ⟨o, hc, ho, hp⟩ := h'.plugged c p hcp
      rw [List.mem_append] at hp
      exact ⟨o, List.mem_append_right _ hc, ho, by simp only [List.mem_append]; tauto⟩
  notes n := by
    rw [notes_append, List.mem_append, h.notes, h'.notes, List.flatMap_append, List.mem_append]
    simp only [List.not_mem_nil, false_or]
    tauto

/-- An expression or a pattern is plugged into a block around. -/
lemma plug {id holder : BlockId} {o : Origin} (h : Accounts around L due ds) (hid : (id, o) ∈ L)
    (ho : o.role = .part) (hholder : (holder, o.span) ∈ around) :
    Accounts around L due (ds ++ [.plugged id holder]) where
  made := by rw [made_append, h.made, made_cons_plugged, made_nil, List.append_nil]
  kind := h.kind
  plugged c p hcp := by
    rw [List.mem_append, List.mem_singleton, Deed.plugged.injEq] at hcp
    rcases hcp with hcp | ⟨rfl, rfl⟩
    · exact h.plugged c p hcp
    · exact ⟨o, hid, ho, List.mem_append_left _ hholder⟩
  notes n := by rw [notes_append, notes_cons_plugged, notes_nil, List.append_nil, h.notes]

/-- The account of a block with everything that is built while it is around. -/
lemma cons {e : BlockId × Origin} (hkind : e.2.role = .part → e.2.type.kind = .expression)
    (h : Accounts (holderOf e) L (noteOf e) ds) :
    Accounts around (e :: L) [] (.made e.1 e.2.type :: ds) where
  made := by rw [made_cons_made, h.made, List.map_cons]
  kind := List.forall_mem_cons.mpr ⟨hkind, h.kind⟩
  plugged c p hcp := by
    simp only [List.mem_cons, reduceCtorEq, false_or] at hcp
    obtain ⟨o, hc, ho, hp⟩ := h.plugged c p hcp
    exact ⟨o, List.mem_cons_of_mem _ hc, ho, List.mem_append_right _ hp⟩
  notes n := by
    rw [notes_cons_made, h.notes, List.flatMap_cons, List.mem_append]
    simp

end Accounts

/-! ## Edits with their accounts -/

/-- The edit comes down to deeds that account for blocks with the given origins, and it ends with a
good result. -/
def Does (around : List (BlockId × Option Span)) (due : List (BlockId × Span))
    (origins : List Origin) (good : α → Prop) (x : Edit α) : Prop :=
  Traced (fun a ds => good a ∧ ∃ L : List (BlockId × Origin), L.map (·.2) = origins ∧
    Accounts around L due ds) x

/-- The edit builds blocks with the given origins. -/
abbrev Stands (origins : List Origin) (x : Edit α) : Prop := Does [] [] origins (fun _ => True) x

/-- The edit builds blocks with the given origins for a block that belongs to a text. -/
abbrev Plugs (id : BlockId) (span : Option Span) (origins : List Origin) (x : Edit Unit) : Prop :=
  Does [(id, span)] [] origins (fun _ => True) x

/-- The edit builds the blocks of an expression, and its result is one of them. -/
def Roots (span : Option Span) (origins : List Origin) (x : Edit (Option BlockId)) : Prop :=
  Traced (fun root ds => ∃ L : List (BlockId × Origin), L.map (·.2) = origins ∧
    Accounts [] L [] ds ∧ ∀ id ∈ root, ∃ type, (id, .part span type) ∈ L) x

section

variable {around : List (BlockId × Option Span)} {due : List (BlockId × Span)}
  {origins origins' : List Origin} {good : α → Prop} {span : Option Span} {type : BlockType}
  {info : Info} {id : BlockId} {y : Edit α}

lemma Does.of_eq {x : Edit α} (h : Does around due origins good x) (heq : origins = origins') :
    Does around due origins' good x := heq ▸ h

lemma Roots.of_eq {x : Edit (Option BlockId)} (h : Roots span origins x)
    (heq : origins = origins') : Roots span origins' x := heq ▸ h

lemma does_pure {a : α} (h : good a) : Does around [] [] good (pure a) :=
  traced_pure ⟨h, [], rfl, .nil around⟩

lemma does_throw (e : WorkspaceError) : Does around due origins good (throw e : Edit α) :=
  traced_throw e

/-- The blocks of one step and then those of the next. -/
lemma Does.bind {x : Edit β} {f : β → Edit α} (hx : Does around [] origins (fun _ => True) x)
    (hf : ∀ b, Does around due origins' good (f b)) :
    Does around due (origins ++ origins') good (x >>= f) := by
  refine Traced.bind hx ?_
  rintro b ds ⟨-, L, rfl, h⟩
  refine (hf b).mono ?_
  rintro a ds' ⟨hgood, L', rfl, h'⟩
  exact ⟨hgood, L ++ L', List.map_append, h.append h'⟩

/-- Blocks that need none around can be built anywhere. -/
lemma Stands.weaken {x : Edit α} (h : Stands origins x) :
    Does around [] origins (fun _ => True) x := by
  refine Traced.mono h ?_
  rintro a ds ⟨hgood, L, rfl, hL⟩
  exact ⟨hgood, L, rfl, hL.weaken around⟩

/-- Makes a block and builds the rest with it around. -/
lemma Does.make {x : Edit BlockId} {f : BlockId → Edit α} {o : Origin} (hx : Makes o.type x)
    (hkind : o.role = .part → o.type.kind = .expression)
    (hf : ∀ id, Does (holderOf (id, o)) (noteOf (id, o)) origins good (f id)) :
    Does around [] (o :: origins) good (x >>= f) := by
  refine Traced.bind hx ?_
  rintro id _ rfl
  refine (hf id).mono ?_
  rintro a ds ⟨hgood, L, rfl, h⟩
  exact ⟨hgood, (id, o) :: L, rfl, h.cons (e := (id, o)) hkind⟩

/-- Makes the block of an expression and builds the rest with it around. -/
lemma Roots.make {x : Edit BlockId} {f : BlockId → Edit (Option BlockId)} (hx : Makes type x)
    (hkind : type.kind = .expression)
    (hf : ∀ id, Does [(id, span)] [] origins (· = some id) (f id)) :
    Roots span (.part span type :: origins) (x >>= f) := by
  refine Traced.bind hx ?_
  rintro id _ rfl
  refine (hf id).mono ?_
  rintro _ ds ⟨rfl, L, rfl, h⟩
  refine ⟨(id, .part span type) :: L, rfl, h.cons (e := (id, .part span type)) fun _ => hkind, ?_⟩
  rintro _ ⟨⟩
  exact ⟨type, List.mem_cons_self⟩

/-- The block of an expression without parts. -/
lemma Makes.roots {x : Edit BlockId} (hx : Makes type x) (hkind : type.kind = .expression) :
    Roots span [.part span type] (some <$> x) := by
  rw [map_eq_pure_bind]
  exact Roots.make hx hkind fun id => does_pure rfl

lemma roots_none : Roots span [] (pure none) :=
  traced_pure ⟨[], rfl, .nil [], by simp⟩

/-- Builds an expression, plugs it into a block around and goes on. -/
lemma Does.value {slot : String} {x : Edit (Option BlockId)} (hx : Roots span origins x)
    (hy : Does [(id, span)] due origins' good y) :
    Does [(id, span)] due (origins ++ origins') good (do plug id slot (← x); y) := by
  refine Traced.bind hx ?_
  rintro root ds ⟨L, rfl, h, hroot⟩
  refine Traced.bind (traced_plug id slot root) ?_
  rintro _ _ rfl
  refine hy.mono ?_
  rintro a ds' ⟨hgood, L', rfl, h'⟩
  have hplug : Accounts [(id, span)] L []
      (ds ++ root.toList.map fun c => Deed.plugged c id) := by
    cases root with
    | none => simpa using h.weaken _
    | some c =>
      obtain ⟨type, hc⟩ := hroot c rfl
      exact (h.weaken _).plug hc rfl List.mem_cons_self
  refine ⟨hgood, L ++ L', List.map_append, ?_⟩
  rw [← List.append_assoc]
  exact hplug.append h'

/-- Builds a pattern, plugs it into a block around and goes on. -/
lemma Does.pattern {slot : String} {x : Edit BlockId} (hx : Makes type x)
    (hkind : type.kind = .expression) (hy : Does [(id, span)] due origins good y) :
    Does [(id, span)] due (.part span type :: origins) good (do
      let _ ← connectValue id slot (← x)
      y) := by
  refine Traced.bind hx ?_
  rintro c _ rfl
  refine Traced.bind (traced_connectValue id slot c) ?_
  rintro _ _ rfl
  refine hy.mono ?_
  rintro a ds ⟨hgood, L, rfl, h⟩
  have hc : Accounts [(id, span)] [(c, .part span type)] [] [.made c type] :=
    (Accounts.nil _).cons (e := (c, .part span type)) fun _ => hkind
  exact ⟨hgood, (c, .part span type) :: L, rfl,
    (hc.plug List.mem_cons_self rfl List.mem_cons_self).append h⟩

/-- Builds statements, puts them into a slot and goes on. -/
lemma Does.statements {slot : String} {x : Edit (Option BlockId)} (hx : Stands origins x)
    (hy : Does around due origins' good y) :
    Does around due (origins ++ origins') good (do fill id slot (← x); y) :=
  Does.bind hx.weaken fun first => (quiet_fill id slot first).bind fun _ => hy

/-- Sets a field and goes on. -/
lemma Does.set {name : String} {value : Datum} (hy : Does around due origins good y) :
    Does around due origins good (do setField id name value; y) :=
  (quiet_setField id name value).bind fun _ => hy

/-- Notes the text of a block and goes on. -/
lemma Does.record (hy : Does around [] origins good y) :
    Does around (noteOf (id, .unit type info)) origins good (do recordSpan id info; y) := by
  refine Traced.bind (traced_recordSpan id info) ?_
  rintro _ _ rfl
  refine hy.mono ?_
  rintro a ds ⟨hgood, L, rfl, h⟩
  refine ⟨hgood, L, rfl, ?_, h.kind, fun c p hcp => ?_, fun n => ?_⟩
  · cases info.span <;> simp [h.made]
  · refine h.plugged c p ?_
    simpa using hcp
  · cases hspan : info.span <;> simp [noteOf, Origin.unit, hspan, h.notes n]

/-- Notes the text of a block and ends. -/
lemma does_finish {a : α} : Does around (noteOf (id, .unit type info)) [] (fun _ => True) (do
    recordSpan id info
    return a) :=
  Does.record (does_pure trivial)

end

end BlockText.Edit

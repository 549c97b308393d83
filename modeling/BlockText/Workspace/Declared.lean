import BlockText.Workspace.Query

/-!
# Declared names

The variables and functions that the blocks declare, sorted and without repetitions.  Variables
are the names in the targets of assignments and loops and the parameters of functions.  A field
may hold any datum: equal data count once, and only data with an order between them can be sorted.
-/

namespace BlockText

namespace Datum

/-- A set or a table can hold the datum: it has no parts. -/
def isHashable : Datum → Bool
  | list _ | object _ | record _ _ => false
  | _ => true

/-- `a` comes before `b`; only two texts or two numbers are in order. -/
def precedes (a b : Datum) : Except Fault Bool :=
  match a.points?, b.points? with
  | some ps, some qs => .ok (ps < qs)
  | _, _ =>
    match a.number?, b.number? with
    | some m, some n => .ok (m.lt n)
    | _, _ => .error (.notOrdered a.typeWord b.typeWord)

end Datum

/-- Adds an item to a list unless an equal one is in it. -/
def insertNew {α : Type} (same : α → α → Bool) (a : α) (xs : List α) : List α :=
  if xs.any (same a) then xs else xs ++ [a]

/-- Puts an item into a sorted list. -/
def insertSorted {α : Type} (less : α → α → Except Fault Bool) (a : α) :
    List α → Except Fault (List α)
  | [] => .ok [a]
  | b :: rest => do
    if ← less a b then return a :: b :: rest
    else return b :: (← insertSorted less a rest)

/-- The list in increasing order. -/
def sorted {α : Type} (less : α → α → Except Fault Bool) : List α → Except Fault (List α)
  | [] => .ok []
  | a :: rest => do insertSorted less a (← sorted less rest)

/-- Adds a name to the declared ones unless it is empty. -/
def declare (names : List Datum) (name : Datum) : Except Fault (List Datum) :=
  if name.isFalsy then .ok names
  else if name.isHashable then .ok (insertNew Datum.equiv name names)
  else .error (.notHashable name.typeWord)

namespace Workspace

/-- The name fields of the identifiers in a target, looking into tuples and lists; `fuel` bounds
the nesting. -/
def targetNames (ws : Workspace) : Nat → BlockId → List Datum
  | 0, _ => []
  | fuel + 1, id =>
    match ws.block? id with
    | none => []
    | some b =>
      match b.type with
      | .identifier => [(b.field? "name").getD ""]
      | .tuple | .list =>
        b.values.flatMap fun slot =>
          match ws.held? id slot with
          | some child => ws.targetNames fuel child
          | none => []
      | _ => []

/-- The names in what a slot holds. -/
def namesIn (ws : Workspace) (id : BlockId) (slot : String) : List Datum :=
  match ws.held? id slot with
  | some child => ws.targetNames ws.blocks.length child
  | none => []

/-- The name fields of the variables that one block declares. -/
def variablesOf (ws : Workspace) (id : BlockId) (b : Block) : Except Fault (List Datum) :=
  match b.type with
  | .varSet => .ok [b.field "name"]
  | .assign =>
    .ok ((b.values.filter fun slot => Text.startsWith slot "TARGET".toList).flatMap (ws.namesIn id))
  | .forStmt | .annAssign => .ok (ws.namesIn id "TARGET")
  | .functionDef => do
    let n ← b.itemCount
    return (indexed "PARAM" n.toNat).map fun name => (b.field? name).getD ""
  | _ => .ok []

/-- The declared variables. -/
def declaredVariables (ws : Workspace) : Except Fault (List Datum) := do
  let found ← ws.blocks.foldlM (fun names (id, b) => do
    (← ws.variablesOf id b).foldlM declare names) []
  sorted Datum.precedes found

/-- Two functions with equal names and numbers of parameters. -/
def sameFunction (f g : Datum × Int) : Bool := f.1.equiv g.1 && f.2 == g.2

/-- The order of functions: by name, then by number of parameters. -/
def functionPrecedes (f g : Datum × Int) : Except Fault Bool :=
  if f.1.equiv g.1 then .ok (f.2 < g.2) else f.1.precedes g.1

/-- The declared functions with their numbers of parameters. -/
def declaredFunctions (ws : Workspace) : Except Fault (List (Datum × Int)) := do
  let found ← ws.blocks.foldlM (fun found (_, b) => do
    let name := b.field "name"
    if b.type == .functionDef && name.isTruthy then
      let n ← b.itemCount
      if name.isHashable then return insertNew sameFunction (name, n) found
      else throw (.notHashable name.typeWord)
    else return found) []
  sorted functionPrecedes found

end Workspace

end BlockText

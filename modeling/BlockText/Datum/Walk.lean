import BlockText.Datum.Codec

/-!
# Walking a document

A node is a record with an information record.  Suites and lists are looked through: their nodes
count as children of the node that holds them.  `nodes` lists a document's nodes in pre-order
with an explicit stack of what is still to visit.
-/

namespace BlockText.Datum

/-- The information record of a node; it is the last field of the classes that have one. -/
def info? : Datum → Option (List Datum)
  | record tag fields =>
    if tag.fields.any (·.name == "meta") then
      match fields.getLast? with
      | some (record .info info) => some info
      | _ => none
    else none
  | _ => none

/-- The datum is a record with an information record. -/
def isNode (d : Datum) : Bool := d.info?.isSome

/-- The class name of a record. -/
def className (d : Datum) : String := d.typeWord

/-- The identity in the information record of a node. -/
def id? (d : Datum) : Option Datum := d.info?.bind (·.head?)

/-- The fields of a record other than its information. -/
def content : Datum → List Datum
  | record tag fields => if tag.fields.any (·.name == "meta") then fields.dropLast else fields
  | _ => []

mutual

/-- The nearest nodes in a datum: itself, or those in the lists and suites that it is made of. -/
def nodesIn : Datum → List Datum
  | list xs => nodesInAll xs
  | record .suite (list xs :: _) => nodesInAll xs
  | record tag fields => if (record tag fields).isNode then [record tag fields] else []
  | _ => []

/-- The nearest nodes in several data. -/
def nodesInAll : List Datum → List Datum
  | [] => []
  | d :: rest => nodesIn d ++ nodesInAll rest

end

/-- The child nodes of a record. -/
def children (d : Datum) : List Datum := nodesInAll d.content

mutual

/-- The number of data in lists and records. -/
def weight : Datum → Nat
  | list xs => weightAll xs + 1
  | record _ fields => weightAll fields + 1
  | _ => 1

/-- The weight of several data. -/
def weightAll : List Datum → Nat
  | [] => 0
  | d :: rest => weight d + weightAll rest

end

@[simp] theorem weightAll_nil : weightAll [] = 0 := by rw [weightAll]

@[simp] theorem weightAll_cons (d : Datum) (rest : List Datum) :
    weightAll (d :: rest) = weight d + weightAll rest := by rw [weightAll]

@[simp] theorem weightAll_append (xs ys : List Datum) :
    weightAll (xs ++ ys) = weightAll xs + weightAll ys := by
  induction xs with
  | nil => simp
  | cons d rest ih => simp [ih]; omega

@[simp] theorem weight_list (xs : List Datum) : weight (list xs) = weightAll xs + 1 := by
  rw [weight]

@[simp] theorem weight_record (tag : Tag) (fields : List Datum) :
    weight (record tag fields) = weightAll fields + 1 := by rw [weight]

/-- Leaving the last document out adds no weight. -/
theorem weightAll_dropLast_le (xs : List Datum) : weightAll xs.dropLast ≤ weightAll xs := by
  induction xs with
  | nil => simp
  | cons d rest ih =>
    cases rest with
    | nil => simp
    | cons e more => simp only [List.dropLast_cons_cons, weightAll_cons] at *; omega

mutual

/-- The nodes in a document weigh no more than it. -/
theorem weightAll_nodesIn_le (d : Datum) : weightAll (nodesIn d) ≤ weight d := by
  rw [nodesIn.eq_def]
  split
  · rename_i xs
    have := weightAll_nodesInAll_le xs
    simp; omega
  · rename_i xs rest
    have := weightAll_nodesInAll_le xs
    simp; omega
  · split <;> simp
  · simp

/-- The nodes in a list weigh no more than it. -/
theorem weightAll_nodesInAll_le (xs : List Datum) : weightAll (nodesInAll xs) ≤ weightAll xs := by
  match xs with
  | [] => simp [nodesInAll]
  | d :: rest =>
    have := weightAll_nodesIn_le d
    have := weightAll_nodesInAll_le rest
    simp [nodesInAll]; omega

end

/-- The children of a node weigh less than the node, so walks end. -/
theorem weightAll_children_lt (d : Datum) : weightAll d.children < weight d := by
  have h := weightAll_nodesInAll_le d.content
  have hc : weightAll d.content < weight d := by
    cases d with
    | record tag fields =>
      have := weightAll_dropLast_le fields
      simp only [content, weight_record]
      split <;> omega
    | _ => simp [content, weight]
  exact Nat.lt_of_le_of_lt h hc

/-- The statements of a suite. -/
def statements : Datum → List Datum
  | record _ (list xs :: _) => xs
  | _ => []

/-- The statements of a node weigh less than the node, so walks end. -/
theorem weightAll_statements_lt (d : Datum) : weightAll d.statements < weight d := by
  unfold statements
  split
  · simp; omega
  · cases d <;> simp [weight]

/-- The datum is a suite. -/
def isSuite : Datum → Bool
  | record .suite _ => true
  | _ => false

/-- Visits what is on the stack, top first: a suite gives way to its statements, anything else is
visited and gives way to its children. -/
def visit : List Datum → List Datum
  | [] => []
  | d :: rest =>
    if d.isSuite then visit (d.statements ++ rest) else d :: visit (d.children ++ rest)
termination_by stack => weightAll stack
decreasing_by
  · have := weightAll_statements_lt d
    simp; omega
  · have := weightAll_children_lt d
    simp; omega

/-- The nodes of a document in pre-order, itself included; a suite stands for its statements. -/
def nodes (root : Datum) : List Datum := visit [root]

/-- The identity of a visited node as a number. -/
def identity (d : Datum) : Except Fault Int :=
  match d.info? with
  | some (int n :: _) => .ok n
  | some (other :: _) => .error (.notOrdered other.typeWord "int")
  | some [] => .error (.noOperation "NodeMeta" "id")
  | none => .error (.noOperation d.typeWord "meta")

/-- The identities of all nodes in pre-order. -/
def identities (root : Datum) : Except Fault (List Int) :=
  root.nodes.mapM identity

/-- The largest identity, or zero if there is no node. -/
def maxIdentity (root : Datum) : Except Fault Int := do
  match ← root.identities with
  | [] => return 0
  | n :: rest => return rest.foldl max n

/-- The start and end offsets of the span of a node. -/
def spanOffsets? (d : Datum) : Option (Int × Int) :=
  match d.info? with
  | some (_ :: record .span [record .position [_, _, int start], record .position [_, _, int stop]] :: _) =>
    some (start, stop)
  | _ => none

/-- Parents and children, in walking order, for which the child's span leaves the parent's. -/
def spanViolations (root : Datum) : List (Datum × Datum) :=
  root.nodes.flatMap fun parent =>
    match parent.spanOffsets? with
    | none => []
    | some (start, stop) =>
      parent.children.filterMap fun child =>
        match child.spanOffsets? with
        | some (first, last) =>
          if start ≤ first && last ≤ stop then none else some (parent, child)
        | none => none

end BlockText.Datum

import BlockText.Proofs.Datum.Identities

/-!
# A walk is a recursive traversal

`preorder` collects the nodes of a document by recursion over everything that it consists of. A walk
with a stack looks for nodes in fewer places: it looks through lists, through the statements of
suites and through the fields of nodes other than their information, and what stands in a suite at
the root it visits without looking. In a tree, where nodes stand in no other places, both find the
same nodes in the same order (`nodes_eq_preorder`).
-/

namespace BlockText.Datum

/-! ## Recursive traversal -/

mutual

/-- The nodes that a datum consists of, every one before those in its fields. -/
def preorder : Datum → List Datum
  | list items => preorderAll items
  | object entries => preorderEntries entries
  | record tag fields =>
    if (record tag fields).isNode then record tag fields :: preorderAll fields
    else preorderAll fields
  | _ => []

/-- The nodes that several data consist of. -/
def preorderAll : List Datum → List Datum
  | [] => []
  | d :: rest => preorder d ++ preorderAll rest

/-- The nodes that the entries of an object consist of. -/
def preorderEntries : List (String × Datum) → List Datum
  | [] => []
  | (_, d) :: rest => preorder d ++ preorderEntries rest

end

/-- A datum in which nodes stand where a walk looks for them.  Every node knows its identity. -/
inductive Holds : Datum → Prop
  /-- There are no nodes. -/
  | bare {d : Datum} (h : preorder d = []) : Holds d
  | list {items : List Datum} (h : ∀ d ∈ items, Holds d) : Holds (.list items)
  | suite {items more : List Datum} (h : ∀ d ∈ items, Holds d) (hmore : preorderAll more = []) :
    Holds (.record .suite (.list items :: more))
  | node {tag : Tag} {content more : List Datum} {id : ℤ} (htag : tag.bearsInfo = true)
    (h : ∀ d ∈ content, Holds d) (hmore : preorderAll more = []) :
    Holds (.record tag (content ++ [.record .info (.int id :: more)]))

/-- A node, or a suite of trees. -/
inductive IsSyntaxTree : Datum → Prop
  | node {tag : Tag} {fields : List Datum} (htag : tag.bearsInfo = true)
    (hnode : (record tag fields).isNode = true) (h : Holds (.record tag fields)) :
    IsSyntaxTree (.record tag fields)
  | suite {items more : List Datum} (h : ∀ d ∈ items, IsSyntaxTree d) (hmore : preorderAll more = []) :
    IsSyntaxTree (.record .suite (.list items :: more))

variable {d : Datum} {ds : List Datum}

lemma preorderAll_append (ds ds' : List Datum) :
    preorderAll (ds ++ ds') = preorderAll ds ++ preorderAll ds' := by
  induction ds with
  | nil => rfl
  | cons d rest ih => rw [List.cons_append, preorderAll, preorderAll, ih, List.append_assoc]

lemma preorder_of_not_isNode {tag : Tag} {fields : List Datum}
    (h : (record tag fields).isNode = false) : preorder (.record tag fields) = preorderAll fields := by
  rw [preorder, h, if_neg Bool.false_ne_true]

lemma preorder_suite {items more : List Datum} (hmore : preorderAll more = []) :
    preorder (.record .suite (.list items :: more)) = preorderAll items := by
  rw [preorder_of_not_isNode rfl, preorderAll, preorder, hmore, List.append_nil]

/-- A node comes before what is in its fields, and its information holds no nodes. -/
lemma preorder_node {tag : Tag} {content more : List Datum} {id : ℤ} (htag : tag.bearsInfo = true)
    (hmore : preorderAll more = []) :
    preorder (.record tag (content ++ [.record .info (.int id :: more)])) =
      .record tag (content ++ [.record .info (.int id :: more)]) :: preorderAll content := by
  have hnode : (record tag (content ++ [.record .info (.int id :: more)])).isNode = true := by
    rw [isNode, info?_record htag List.getLast?_concat, Option.isSome_some]
  have hinfo : preorder (.record .info (.int id :: more)) = [] := by
    rw [preorder_of_not_isNode rfl, preorderAll, preorder.eq_def, hmore, List.append_nil]
  rw [preorder, if_pos hnode, preorderAll_append, preorderAll, hinfo, preorderAll, List.append_nil,
    List.append_nil]

/-! ## The walk -/

mutual

/-- Where there are no nodes, none are looked for in vain. -/
lemma nodesIn_eq_nil : (d : Datum) → preorder d = [] → nodesIn d = []
  | .null, _ | .bool _, _ | .int _, _ | .float _, _ | .text _, _ | .surrogates _, _
  | .object _, _ => by rw [nodesIn.eq_def]
  | .list items, h => by
    rw [preorder] at h
    rw [nodesIn]
    exact nodesInAll_eq_nil items h
  | .record tag fields, h => by
    rw [preorder] at h
    split at h
    · cases h
    · rename_i hnode
      rw [nodesIn.eq_def]
      split
      · rename_i heq
        cases heq
      · rename_i items more heq
        cases heq
        rw [preorderAll, preorder] at h
        exact nodesInAll_eq_nil items (List.append_eq_nil_iff.mp h).1
      · rename_i heq
        cases heq
        rw [if_neg hnode]
      · rfl

lemma nodesInAll_eq_nil : (ds : List Datum) → preorderAll ds = [] → nodesInAll ds = []
  | [], _ => by rw [nodesInAll]
  | d :: rest, h => by
    rw [preorderAll, List.append_eq_nil_iff] at h
    rw [nodesInAll, nodesIn_eq_nil d h.1, nodesInAll_eq_nil rest h.2, List.append_nil]

end

/-- What is found in every one of several data is found in all of them. -/
lemma visit_nodesInAll (h : ∀ d ∈ ds, visit (nodesIn d) = preorder d) :
    visit (nodesInAll ds) = preorderAll ds := by
  induction ds with
  | nil => rw [nodesInAll, preorderAll, visit]
  | cons d rest ih =>
    obtain ⟨hd, hrest⟩ := List.forall_mem_cons.mp h
    rw [nodesInAll, visit_append, preorderAll, hd, ih hrest]

/-- The nodes that are looked for and those below them are all that there are. -/
lemma Holds.visit_nodesIn (h : d.Holds) : visit (nodesIn d) = preorder d := by
  induction h with
  | bare h => rw [nodesIn_eq_nil _ h, visit, h]
  | list h ih =>
    rw [nodesIn, preorder]
    exact visit_nodesInAll ih
  | suite h hmore ih =>
    rw [nodesIn, preorder_suite hmore]
    exact visit_nodesInAll ih
  | node htag h hmore ih =>
    rw [nodesIn_record htag List.getLast?_concat, visit_record htag, List.dropLast_concat,
      visit_nodesInAll ih, preorder_node htag hmore]

/-- A walk through a tree visits its nodes in the order of the traversal. -/
lemma IsSyntaxTree.visit_singleton (h : d.IsSyntaxTree) : visit [d] = preorder d := by
  induction h with
  | node htag hnode h =>
    rw [← h.visit_nodesIn, nodesIn, if_pos hnode]
    rintro items more rfl
    cases htag
  | @suite items more h hmore ih =>
    have hitems : visit items = preorderAll items := by
      clear h hmore
      induction items with
      | nil => rw [visit, preorderAll]
      | cons d rest ih' =>
        obtain ⟨hd, hrest⟩ := List.forall_mem_cons.mp ih
        rw [← List.singleton_append, visit_append, hd, ih' hrest, List.singleton_append, preorderAll]
    have hsuite : (record .suite (.list items :: more)).isSuite = true := rfl
    rw [visit, if_pos hsuite, List.append_nil, statements, hitems, preorder_suite hmore]

/-! ## Identities -/

/-- Every node that a datum consists of knows its identity. -/
lemma Holds.exists_identity (h : d.Holds) : ∀ node ∈ preorder d, ∃ n, identity node = .ok n := by
  have hall : ∀ ds : List Datum, (∀ d ∈ ds, ∀ node ∈ preorder d, ∃ n, identity node = .ok n) →
      ∀ node ∈ preorderAll ds, ∃ n, identity node = .ok n := by
    intro ds hds node hnode
    induction ds with
    | nil => cases hnode
    | cons d rest ih =>
      obtain ⟨hd, hrest⟩ := List.forall_mem_cons.mp hds
      rw [preorderAll, List.mem_append] at hnode
      exact hnode.elim (hd node) (ih hrest)
  induction h with
  | bare h =>
    rw [h]
    exact nofun
  | list h ih =>
    rw [preorder]
    exact hall _ ih
  | suite h hmore ih =>
    rw [preorder_suite hmore]
    exact hall _ ih
  | @node tag content more id htag h hmore ih =>
    rw [preorder_node htag hmore, List.forall_mem_cons]
    refine ⟨⟨id, ?_⟩, hall _ ih⟩
    rw [identity, info?_record htag List.getLast?_concat]

lemma IsSyntaxTree.exists_identity (h : d.IsSyntaxTree) :
    ∀ node ∈ preorder d, ∃ n, identity node = .ok n := by
  induction h with
  | node htag hnode h => exact h.exists_identity
  | @suite items more h hmore ih =>
    rw [preorder_suite hmore]
    clear h hmore
    intro node hnode
    induction items with
    | nil => cases hnode
    | cons d rest ih' =>
      obtain ⟨hd, hrest⟩ := List.forall_mem_cons.mp ih
      rw [preorderAll, List.mem_append] at hnode
      exact hnode.elim (hd node) (ih' hrest)

/-- Data that all have a number as their identity have a list of identities. -/
lemma exists_mapM_identity (h : ∀ d ∈ ds, ∃ n, identity d = .ok n) :
    ∃ ids, ds.mapM identity = .ok ids ∧ ds.map identity = ids.map .ok := by
  induction ds with
  | nil => exact ⟨[], rfl, rfl⟩
  | cons d rest ih =>
    obtain ⟨⟨n, hn⟩, hrest⟩ := List.forall_mem_cons.mp h
    obtain ⟨ids, -, hids⟩ := ih hrest
    have hmap : (d :: rest).map identity = (n :: ids).map .ok := by
      rw [List.map_cons, List.map_cons, hn, hids]
    exact ⟨n :: ids, mapM_eq_ok_iff.mpr hmap, hmap⟩

lemma foldl_max_mem (ns : List ℤ) (first : ℤ) : ns.foldl max first ∈ first :: ns := by
  induction ns generalizing first with
  | nil => exact List.mem_singleton_self first
  | cons m rest ih =>
    rw [List.foldl_cons]
    rcases List.mem_cons.mp (ih (max first m)) with h | h
    · rw [h]
      rcases max_choice first m with h' | h' <;> simp [h']
    · exact List.mem_cons_of_mem _ (List.mem_cons_of_mem _ h)

/-- **A walk through a tree is its recursive traversal**: it meets the nodes of the tree and nothing
else, each as often as it occurs, in pre-order. So the largest identity that it finds is that of
some node and no node has a larger one; without nodes it is zero. -/
theorem nodes_eq_preorder (h : d.IsSyntaxTree) : d.nodes = d.preorder ∧
    ∃ m, d.maxIdentity = .ok m ∧ (d.preorder = [] → m = 0) ∧
      (∀ node ∈ d.preorder, ∃ n ≤ m, node.identity = .ok n) ∧
      (d.preorder ≠ [] → ∃ node ∈ d.preorder, node.identity = .ok m) := by
  have hnodes : d.nodes = d.preorder := h.visit_singleton
  obtain ⟨ids, hids, hmap⟩ := exists_mapM_identity h.exists_identity
  have hmem : ∀ n, (∃ node ∈ d.preorder, node.identity = .ok n) ↔ n ∈ ids := by
    intro n
    rw [← List.mem_map, hmap, List.mem_map]
    simp
  refine ⟨hnodes, ?_⟩
  cases ids with
  | nil =>
    have hmax : d.maxIdentity = .ok 0 := by
      rw [maxIdentity, identities, hnodes, hids]
      rfl
    have hnil : d.preorder = [] := List.map_eq_nil_iff.mp hmap
    rw [hnil]
    exact ⟨0, hmax, fun _ => rfl, nofun, fun hne => absurd rfl hne⟩
  | cons n rest =>
    have hmax : d.maxIdentity = .ok (rest.foldl max n) := by
      rw [maxIdentity, identities, hnodes, hids]
      rfl
    have hle : ∀ k ∈ n :: rest, k ≤ rest.foldl max n :=
      List.forall_mem_cons.mpr (le_foldl_max rest n)
    refine ⟨_, hmax, fun hnil => ?_, fun node hnode => ?_,
      fun _ => (hmem _).mpr (foldl_max_mem rest n)⟩
    · rw [hnil] at hmap
      cases hmap
    · obtain ⟨k, hk⟩ := h.exists_identity node hnode
      exact ⟨k, hle k ((hmem k).mp ⟨node, hnode, hk⟩), hk⟩

/-! ## A suite at the root -/

/-- A suite with a suite in it, and a node with lists in lists and a suite in them. -/
def nestedSuite : Datum :=
  let leaf (id : ℤ) : Datum := .record .passStmt [.record .info [.int id]]
  .record .suite [.list [leaf 4, .record .suite [.list [leaf 9]],
    .record .deleteStmt
      [.list [.list [leaf 7, .null], .record .suite [.list [leaf 2]]], .record .info [.int 5]]]]

theorem nodes_nestedSuite : nestedSuite.IsSyntaxTree ∧ nestedSuite.nodes = nestedSuite.preorder ∧
    nestedSuite.preorder.map id? = [4, 9, 5, 7, 2].map (some ∘ int) ∧
    nestedSuite.maxIdentity = .ok 9 := by
  have hleaf : ∀ id : ℤ, Holds (.record .passStmt [.record .info [.int id]]) := fun id =>
    @Holds.node .passStmt [] [] id rfl nofun rfl
  have htree : ∀ id : ℤ, IsSyntaxTree (.record .passStmt [.record .info [.int id]]) := fun id =>
    .node rfl rfl (hleaf id)
  have hdelete : Holds (.record .deleteStmt
      [.list [.list [.record .passStmt [.record .info [.int 7]], .null],
        .record .suite [.list [.record .passStmt [.record .info [.int 2]]]]],
        .record .info [.int 5]]) := by
    refine @Holds.node .deleteStmt [_] [] 5 rfl (List.forall_mem_singleton.mpr (.list ?_)) rfl
    simp only [List.forall_mem_cons, List.not_mem_nil, false_implies, implies_true, and_true]
    refine ⟨.list ?_, .suite ?_ rfl⟩
    · simp [hleaf, Holds.bare (d := .null) rfl]
    · simp [hleaf]
  have h : nestedSuite.IsSyntaxTree := by
    refine .suite ?_ rfl
    simp only [List.forall_mem_cons, List.not_mem_nil, false_implies, implies_true, and_true]
    exact ⟨htree 4, .suite (by simp [htree]) rfl, .node rfl rfl hdelete⟩
  obtain ⟨hnodes, m, hm, -, hle, hattained⟩ := nodes_eq_preorder h
  exact ⟨h, hnodes, rfl, by decide +kernel⟩

end BlockText.Datum

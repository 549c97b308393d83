import Mathlib
import BlockText.Datum.Walk
import BlockText.Proofs.Datum.Texts
import BlockText.Proofs.Syntax.Likeness

/-!
# The identities in a document

A walk visits a node and then the nodes in its parts, so the identities that it meets are that of
the node and those in its parts. `Bears` says which identities the nodes in a datum have, each as
often as there are nodes that have it; its rules follow the ways in which data are put together. The
identities themselves are handed out one after the other, so those of a stretch are the numbers
between two counts (`handedOut`).
-/

namespace BlockText

open Syntax

/-! ## Identities one after the other -/

/-- The identities that are handed out while the count goes from one number to another. -/
noncomputable def handedOut (first last : ℤ) : Multiset ℤ := (Finset.Ioc first last).val

/-- The identities that were handed out are those behind the first counter up to the last. -/
@[simp] lemma mem_handedOut {first last n : ℤ} :
    n ∈ handedOut first last ↔ first < n ∧ n ≤ last := by
  rw [handedOut, Finset.mem_val, Finset.mem_Ioc]

/-- No identity is handed out twice. -/
lemma nodup_handedOut (first last : ℤ) : (handedOut first last).Nodup := Finset.nodup _

/-- Without a step of the counter nothing is handed out. -/
@[simp] lemma handedOut_self (n : ℤ) : handedOut n n = 0 := by simp [handedOut]

/-- A step of the counter hands out one identity. -/
lemma handedOut_succ (n : ℤ) : handedOut n (n + 1) = {n + 1} := by
  refine (Multiset.Nodup.ext (nodup_handedOut _ _) (Multiset.nodup_singleton _)).mpr fun m => ?_
  rw [mem_handedOut, Multiset.mem_singleton]
  omega

/-- As many identities are handed out as the counter has moved. -/
lemma card_handedOut {first last : ℤ} (h : first ≤ last) :
    ((handedOut first last).card : ℤ) = last - first := by
  rw [handedOut, Finset.card_val, Int.card_Ioc]
  omega

/-- Identities are handed out in stretches. -/
lemma handedOut_add {first mid last : ℤ} (h : first ≤ mid) (h' : mid ≤ last) :
    handedOut first mid + handedOut mid last = handedOut first last := by
  have hdisjoint : Disjoint (handedOut first mid) (handedOut mid last) := by
    rw [Multiset.disjoint_left]
    intro n hn hn'
    rw [mem_handedOut] at hn hn'
    omega
  have hnodup : (handedOut first mid + handedOut mid last).Nodup :=
    Multiset.nodup_add.mpr ⟨nodup_handedOut _ _, nodup_handedOut _ _, hdisjoint⟩
  refine (Multiset.Nodup.ext hnodup (nodup_handedOut _ _)).mpr fun n => ?_
  rw [Multiset.mem_add, mem_handedOut, mem_handedOut, mem_handedOut]
  omega

/-- The largest of some identities is not less than any of them. -/
lemma le_foldl_max (ns : List ℤ) (first : ℤ) :
    first ≤ ns.foldl max first ∧ ∀ n ∈ ns, n ≤ ns.foldl max first := by
  induction ns generalizing first with
  | nil => exact ⟨le_rfl, nofun⟩
  | cons m rest ih =>
    obtain ⟨hle, hrest⟩ := ih (max first m)
    refine ⟨(le_max_left _ _).trans hle, fun n hn => ?_⟩
    rcases List.mem_cons.mp hn with rfl | hn
    · exact (le_max_right _ _).trans hle
    · exact hrest n hn

/-- The records of the class have information. -/
def Tag.bearsInfo : Tag → Bool
  | .trivia | .position | .span | .tokenRange | .info | .suite => false
  | _ => true

/-- The classes with information are those that have a field for it. -/
lemma Tag.any_meta (tag : Tag) : (tag.fields.any fun f => f.name == "meta") = tag.bearsInfo := by
  cases tag
  all_goals simp [fields, bearsInfo]

namespace Datum

/-! ## Walking -/

/-- A walk visits first what stands first. -/
lemma visit_append (xs ys : List Datum) : visit (xs ++ ys) = visit xs ++ visit ys := by
  fun_induction visit xs with
  | case1 => rfl
  | case2 d rest h ih => rw [List.cons_append, visit, if_pos h, ← List.append_assoc, ih]
  | case3 d rest h ih =>
    rw [List.cons_append, visit, if_neg h, ← List.append_assoc, ih, List.cons_append]

/-- A record of a class with information whose last field is information is a node. -/
lemma info?_record {tag : Tag} {fields : List Datum} {info : List Datum} (htag : tag.bearsInfo = true)
    (hi : fields.getLast? = some (.record .info info)) : (record tag fields).info? = some info := by
  rw [info?, Tag.any_meta, if_pos htag, hi]

/-- There are no nodes in a text. -/
lemma nodesIn_ofPoints (ps : List CodePoint) : (ofPoints ps).nodesIn = [] := by
  rcases ofPoints_cases ps with ⟨s, rfl, h⟩ | ⟨t, rfl, h⟩ <;> rw [h] <;> rfl

/-- A node stands for itself. -/
lemma nodesIn_record {tag : Tag} {fields : List Datum} {info : List Datum}
    (htag : tag.bearsInfo = true) (hi : fields.getLast? = some (.record .info info)) :
    nodesIn (record tag fields) = [record tag fields] := by
  have hnode : (record tag fields).isNode = true := by
    rw [isNode, info?_record htag hi, Option.isSome_some]
  have htag' : tag ≠ .suite := by
    rintro rfl
    cases htag
  rw [nodesIn, if_pos hnode]
  exact fun items more heq => absurd heq htag'

/-- A node is visited before what is in its parts. -/
lemma visit_record {tag : Tag} {fields : List Datum} (htag : tag.bearsInfo = true) :
    visit [record tag fields] = record tag fields :: visit (nodesInAll fields.dropLast) := by
  have hsuite : ¬ (record tag fields).isSuite = true := by
    cases tag with
    | suite => cases htag
    | _ => exact Bool.false_ne_true
  rw [visit, if_neg hsuite, List.append_nil, children, content, Tag.any_meta, if_pos htag]

/-- The nodes in a datum are among those in the data to which it belongs. -/
lemma visit_nodesIn_subset {d : Datum} {ds : List Datum} (h : d ∈ ds) :
    visit (nodesIn d) ⊆ visit (nodesInAll ds) := by
  induction ds with
  | nil => cases h
  | cons e rest ih =>
    rw [nodesInAll, visit_append]
    rcases List.mem_cons.mp h with rfl | h
    · exact List.subset_append_left _ _
    · exact List.subset_append_of_subset_right _ (ih h)

/-- What is on the stack is visited. -/
lemma visit_singleton_subset {d : Datum} {stack : List Datum} (h : d ∈ stack) :
    visit [d] ⊆ visit stack := by
  obtain ⟨above, below, rfl⟩ := List.append_of_mem h
  have hsplit : visit (above ++ d :: below) = visit above ++ (visit [d] ++ visit below) := by
    rw [← visit_append, ← visit_append, List.singleton_append]
  rw [hsplit]
  exact List.subset_append_of_subset_right _ (List.subset_append_left _ _)

/-! ## Identities of the nodes in a datum -/

/-- The nodes in the datum have these identities. -/
def Bears (d : Datum) (ids : Multiset ℤ) : Prop :=
  Multiset.ofList ((visit (nodesIn d)).map identity) = ids.map .ok

/-- The nodes in the data have these identities. -/
def BearsAll (ds : List Datum) (ids : Multiset ℤ) : Prop :=
  Multiset.ofList ((visit (nodesInAll ds)).map identity) = ids.map .ok

variable {d : Datum} {ds : List Datum} {ids ids' : Multiset ℤ}

/-- The identities that are borne may be written in another way. -/
lemma BearsAll.of_eq (h : BearsAll ds ids) (heq : ids = ids') : BearsAll ds ids' := heq ▸ h

/-- No data bear no identities. -/
lemma BearsAll.nil : BearsAll [] 0 := by
  rw [BearsAll, nodesInAll, visit]
  rfl

/-- A datum and others bear the identities of both. -/
lemma BearsAll.cons (h : Bears d ids) (h' : BearsAll ds ids') :
    BearsAll (d :: ds) (ids + ids') := by
  rw [BearsAll, nodesInAll, visit_append, List.map_append, ← Multiset.coe_add, h, h',
    Multiset.map_add]

/-- Data behind others bear the identities of both. -/
lemma BearsAll.append {ds' : List Datum} (h : BearsAll ds ids) (h' : BearsAll ds' ids') :
    BearsAll (ds ++ ds') (ids + ids') := by
  have hnodes : nodesInAll (ds ++ ds') = nodesInAll ds ++ nodesInAll ds' := by
    clear h
    induction ds with
    | nil => rfl
    | cons d rest ih => rw [List.cons_append, nodesInAll, nodesInAll, ih, List.append_assoc]
  rw [BearsAll, hnodes, visit_append, List.map_append, ← Multiset.coe_add, h, h', Multiset.map_add]

/-- There are no identities where there are no nodes. -/
lemma bears_zero (h : nodesIn d = []) : Bears d 0 := by
  rw [Bears, h, visit]
  rfl

/-- Data without nodes bear no identities. -/
lemma bearsAll_zero (h : ∀ d ∈ ds, nodesIn d = []) : BearsAll ds 0 := by
  induction ds with
  | nil => exact .nil
  | cons d rest ih =>
    obtain ⟨hd, hrest⟩ := List.forall_mem_cons.mp h
    exact .cons (bears_zero hd) (ih hrest)

/-- A list bears the identities of its members. -/
lemma Bears.list (h : BearsAll ds ids) : Bears (.list ds) ids := by
  rwa [Bears, nodesIn]

/-- The nodes in a datum have their identities and no others. -/
lemma Bears.unique (h : Bears d ids) (h' : Bears d ids') : ids = ids' :=
  Multiset.map_injective (fun _ _ heq => Except.ok.inj heq) (h.symm.trans h')

/-- A suite is looked through. -/
lemma Bears.suite {level : ℤ} (h : BearsAll ds ids) :
    Bears (.record .suite [.list ds, .int level]) ids := by
  rwa [Bears, nodesIn]

/-- A node has its own identity besides those in its parts. -/
lemma Bears.node {tag : Tag} {fields : List Datum} (i : Info) (htag : tag.bearsInfo = true)
    (hi : fields.getLast? = some i.toDatum) (h : BearsAll fields.dropLast ids)
    (heq : ids' = {i.id} + ids) : Bears (.record tag fields) ids' := by
  have hid : identity (record tag fields) = .ok i.id := by
    rw [identity, info?_record htag hi]
  rw [Bears, nodesIn_record htag hi, visit_record htag, List.map_cons, hid, ← Multiset.cons_coe, h, heq,
    Multiset.map_add, Multiset.map_singleton, Multiset.singleton_add]

/-- A name bears its identity. -/
lemma bears_identifier {name : Datum} (h : name.nodesIn = []) (i : Info) :
    Bears (Expr.identifier name i).toDatum {i.id} := by
  rw [Expr.toDatum]
  exact .node i rfl rfl (.cons (bears_zero h) .nil) (by abel)

/-- A literal bears its identity. -/
lemma bears_literal {kind : LiteralKind} {raw value : Datum} (hraw : raw.nodesIn = [])
    (hvalue : value.nodesIn = []) (i : Info) :
    Bears (Expr.literal kind raw value i).toDatum {i.id} := by
  rw [Expr.toDatum]
  exact .node i rfl rfl (.cons (bears_zero rfl) (.cons (bears_zero hraw) (.cons (bears_zero hvalue)
    .nil))) (by abel)

/-! ## Statements -/

/-- No statements bear no identities. -/
lemma bearsAll_stmtData_nil : BearsAll (stmtData []) 0 := by
  rw [stmtData]
  exact .nil

/-- A statement in front of others bears its identities besides theirs. -/
lemma bearsAll_stmtData_cons {s : Stmt} {ss : List Stmt} (h : Bears s.toDatum ids)
    (h' : BearsAll (stmtData ss) ids') : BearsAll (stmtData (s :: ss)) (ids + ids') := by
  rw [stmtData]
  exact .cons h h'

/-- Statements behind others bear their identities besides those. -/
lemma bearsAll_stmtData_append {ss ss' : List Stmt} (h : BearsAll (stmtData ss) ids)
    (h' : BearsAll (stmtData ss') ids') : BearsAll (stmtData (ss ++ ss')) (ids + ids') := by
  rw [stmtData_eq_map, List.map_append, ← stmtData_eq_map, ← stmtData_eq_map]
  exact h.append h'

/-- A body bears the identities of its statements. -/
lemma bears_suite {ss : List Stmt} {level : ℤ} (h : BearsAll (stmtData ss) ids) :
    Bears (Suite.toDatum ⟨ss, level⟩) ids := by
  rw [Suite.toDatum, suiteDatum]
  exact .suite h

/-- A body that is not there bears no identities. -/
lemma bears_optionalSuite_none : Bears (optionalSuite none) 0 := by
  rw [optionalSuite]
  exact bears_zero rfl

/-- A body that is there bears its identities. -/
lemma bears_optionalSuite_some {body : Suite Stmt} (h : Bears body.toDatum ids) :
    Bears (optionalSuite (some body)) ids := by
  rwa [optionalSuite]

/-! ## Walks through a node -/

/-- Data that are walked without a fault have their identities in the order of the walk. -/
lemma exists_eq_map_ok {ds : List Datum} {f : Datum → Except Fault ℤ} {ids : Multiset ℤ}
    (h : Multiset.ofList (ds.map f) = ids.map .ok) :
    ∃ found : List ℤ, ds.map f = found.map .ok ∧ Multiset.ofList found = ids := by
  induction ds generalizing ids with
  | nil =>
    have hzero : ids = 0 := Multiset.map_eq_zero.mp h.symm
    exact ⟨[], rfl, hzero.symm⟩
  | cons d rest ih =>
    rw [List.map_cons, ← Multiset.cons_coe] at h
    have hmem : f d ∈ ids.map Except.ok := h ▸ Multiset.mem_cons_self _ _
    obtain ⟨n, hn, hfd⟩ := Multiset.mem_map.mp hmem
    obtain ⟨others, rfl⟩ := Multiset.exists_cons_of_mem hn
    rw [Multiset.map_cons, hfd, Multiset.cons_inj_right] at h
    obtain ⟨found, hfound, rfl⟩ := ih h
    exact ⟨n :: found, by rw [List.map_cons, List.map_cons, hfd, hfound], rfl⟩

/-- Results are collected if all of them are there. -/
lemma mapM_eq_ok_iff {ds : List Datum} {f : Datum → Except Fault ℤ} {found : List ℤ} :
    ds.mapM f = .ok found ↔ ds.map f = found.map .ok := by
  induction ds generalizing found with
  | nil => cases found <;> simp [pure, Except.pure]
  | cons d rest ih =>
    rw [List.mapM_cons, List.map_cons]
    cases hd : f d with
    | error e => cases found <;> simp [bind, Except.bind]
    | ok n =>
      cases hrest : rest.mapM f with
      | error e =>
        cases found <;> simp_all [bind, Except.bind]
      | ok others => cases found <;> simp_all [bind, Except.bind, pure, Except.pure]

/-- The identities in the first datum and those in the others. -/
lemma BearsAll.of_cons (h : BearsAll (d :: ds) ids) :
    ∃ first others, Bears d first ∧ BearsAll ds others ∧ ids = first + others := by
  rw [BearsAll, nodesInAll, visit_append] at h
  obtain ⟨found, hfound, rfl⟩ := exists_eq_map_ok h
  rw [List.map_append, eq_comm, List.map_eq_append_iff] at hfound
  obtain ⟨first, others, rfl, hfirst, hothers⟩ := hfound
  refine ⟨first, others, ?_, ?_, (Multiset.coe_add _ _).symm⟩
  · rw [Bears, ← hfirst, Multiset.map_coe]
  · rw [BearsAll, ← hothers, Multiset.map_coe]

/-- A walk through a node meets the identities that the node bears. -/
lemma Bears.identities {tag : Tag} {fields : List Datum} (i : Info) (htag : tag.bearsInfo = true)
    (hi : fields.getLast? = some i.toDatum) (h : Bears (.record tag fields) ids) :
    ∃ found : List ℤ, (record tag fields).identities = .ok found ∧ Multiset.ofList found = ids := by
  rw [Bears, nodesIn_record htag hi] at h
  obtain ⟨found, hfound, hids⟩ := exists_eq_map_ok h
  exact ⟨found, mapM_eq_ok_iff.mpr hfound, hids⟩

/-! ## Identities that stand in a datum -/

/-- The identity stands somewhere in the datum, at any depth. -/
inductive Occurs (n : ℤ) : Datum → Prop
  | here {more : List Datum} : Occurs n (.record .info (.int n :: more))
  | field {tag : Tag} {fields : List Datum} {d : Datum} (hd : d ∈ fields) (h : Occurs n d) :
    Occurs n (.record tag fields)
  | item {items : List Datum} {d : Datum} (hd : d ∈ items) (h : Occurs n d) : Occurs n (.list items)
  | entry {entries : List (String × Datum)} {e : String × Datum} (he : e ∈ entries)
    (h : Occurs n e.2) : Occurs n (.object entries)

/-- No identity occurs in nothing. -/
@[simp] lemma not_occurs_null (n : ℤ) : ¬ Occurs n .null := nofun

/-- No identity occurs in a truth value. -/
@[simp] lemma not_occurs_bool (n : ℤ) (b : Bool) : ¬ Occurs n (.bool b) := nofun

/-- No identity occurs in a number. -/
@[simp] lemma not_occurs_int (n m : ℤ) : ¬ Occurs n (.int m) := nofun

/-- No identity occurs in a text. -/
@[simp] lemma not_occurs_text (n : ℤ) (s : String) : ¬ Occurs n (.text s) := nofun

/-- An identity occurs in a list if it does in a member. -/
@[simp] lemma occurs_list_iff {n : ℤ} {items : List Datum} :
    Occurs n (.list items) ↔ ∃ d ∈ items, Occurs n d := by
  refine ⟨fun h => ?_, fun ⟨d, hd, h⟩ => .item hd h⟩
  cases h with
  | item hd h => exact ⟨_, hd, h⟩

/-- An identity occurs in a node if it does in a field. -/
lemma occurs_record_iff {n : ℤ} {tag : Tag} {fields : List Datum} (htag : tag ≠ .info) :
    Occurs n (.record tag fields) ↔ ∃ d ∈ fields, Occurs n d := by
  refine ⟨fun h => ?_, fun ⟨d, hd, h⟩ => .field hd h⟩
  cases h with
  | here => exact absurd rfl htag
  | field hd h => exact ⟨_, hd, h⟩

/-- Information stands at the end of records of the classes that have it, and such records stand in
records of these classes, in lists and in the statements of suites. -/
inductive Annotated : Datum → Prop
  | blank {d : Datum} (h : ∀ n, ¬ Occurs n d) : Annotated d
  | list {items : List Datum} (h : ∀ d ∈ items, Annotated d) : Annotated (.list items)
  | suite {items : List Datum} {level : Datum} (h : ∀ d ∈ items, Annotated d)
    (hlevel : ∀ n, ¬ Occurs n level) : Annotated (.record .suite [.list items, level])
  | node {tag : Tag} {content more : List Datum} {id : ℤ} (htag : tag.bearsInfo = true)
    (h : ∀ d ∈ content, Annotated d) (hmore : ∀ d ∈ more, ∀ n, ¬ Occurs n d) :
    Annotated (.record tag (content ++ [.record .info (.int id :: more)]))

/-- Nodes whose parts have information in its place have it there themselves. -/
lemma annotated_node {tag : Tag} {content : List Datum} (i : Info) (htag : tag.bearsInfo = true)
    (h : ∀ d ∈ content, Annotated d) : Annotated (.record tag (content ++ [i.toDatum])) := by
  have htrivia : ∀ (ts : List Trivia) n, ¬ Occurs n (.list (ts.map Trivia.toDatum)) := by
    intro ts n
    simp [Trivia.toDatum, spelled, occurs_record_iff]
  have hspan : ∀ n, ¬ Occurs n (optionally Span.toDatum i.span) := by
    intro n
    cases i.span <;>
      simp [optionally, Span.toDatum, Position.toDatum, occurs_record_iff]
  have htokens : ∀ n, ¬ Occurs n (optionally TokenRange.toDatum i.tokens) := by
    intro n
    cases i.tokens <;> simp [optionally, TokenRange.toDatum, occurs_record_iff]
  refine .node htag h fun d hd n => ?_
  simp only [List.mem_cons, List.not_mem_nil, or_false] at hd
  rcases hd with rfl | rfl | rfl | rfl
  · exact hspan n
  · exact htokens n
  · exact htrivia _ n
  · exact htrivia _ n

/-- The identities of the nodes in a datum are all that stand in it. -/
lemma Annotated.exists_visited {n : ℤ} (h : d.Annotated) (hn : Occurs n d) :
    ∃ node ∈ visit (nodesIn d), identity node = .ok n := by
  induction h with
  | blank h => exact absurd hn (h n)
  | list h ih =>
    cases hn with
    | item hd hn =>
      obtain ⟨node, hnode, hid⟩ := ih _ hd hn
      refine ⟨node, ?_, hid⟩
      rw [nodesIn]
      exact visit_nodesIn_subset hd hnode
  | suite h hlevel ih =>
    cases hn with
    | field hd hn =>
      rcases List.mem_pair.mp hd with rfl | rfl
      · cases hn with
        | item hd hn =>
          obtain ⟨node, hnode, hid⟩ := ih _ hd hn
          refine ⟨node, ?_, hid⟩
          rw [nodesIn]
          exact visit_nodesIn_subset hd hnode
      · exact absurd hn (hlevel n)
  | @node tag content more id htag h hmore ih =>
    have hlast : (content ++ [Datum.record .info (.int id :: more)]).getLast? =
        some (.record .info (.int id :: more)) := List.getLast?_concat
    rw [nodesIn_record htag hlast, visit_record htag, List.dropLast_concat]
    generalize hfields : content ++ [Datum.record .info (.int id :: more)] = fields at hn
    cases hn with
    | here => cases htag
    | field hd hn =>
      subst hfields
      rcases List.mem_append.mp hd with hd | hd
      · obtain ⟨node, hnode, hid⟩ := ih _ hd hn
        exact ⟨node, List.mem_cons_of_mem _ (visit_nodesIn_subset hd hnode), hid⟩
      · refine ⟨_, List.mem_cons_self, ?_⟩
        rw [identity, info?_record htag hlast]
        rw [List.mem_singleton.mp hd] at hn
        cases hn with
        | here => rfl
        | field hd hn =>
          rcases List.mem_cons.mp hd with rfl | hd
          · cases hn
          · exact absurd hn (hmore _ hd n)

/-- If a walk through a document meets no fault, it meets all identities that stand in it. -/
lemma Annotated.exists_met {n : ℤ} (h : d.Annotated) (hn : Occurs n d)
    (hmet : ∀ node ∈ visit [d], ∃ m, identity node = .ok m) :
    ∃ node ∈ visit [d], identity node = .ok n := by
  induction h with
  | blank h => exact absurd hn (h n)
  | @list items h ih =>
    -- A list at the top is no node.
    obtain ⟨m, hm⟩ := hmet (.list items) (by simp [visit, isSuite])
    cases hm
  | @suite items level h hlevel ih =>
    have hvisit : visit [Datum.record .suite [.list items, level]] = visit items := by
      simp [visit, isSuite, statements]
    rw [hvisit] at hmet ⊢
    cases hn with
    | field hd hn =>
      rcases List.mem_pair.mp hd with rfl | rfl
      · cases hn with
        | item hd hn =>
          have hsub := visit_singleton_subset hd
          obtain ⟨node, hnode, hid⟩ := ih _ hd hn fun node hnode => hmet node (hsub hnode)
          exact ⟨node, hsub hnode, hid⟩
      · exact absurd hn (hlevel n)
  | @node tag content more id htag h hmore =>
    have hlast : (content ++ [Datum.record .info (.int id :: more)]).getLast? =
        some (.record .info (.int id :: more)) := List.getLast?_concat
    have hannotated : Annotated (.record tag (content ++ [.record .info (.int id :: more)])) :=
      .node htag h hmore
    have hvisited := hannotated.exists_visited hn
    rwa [nodesIn_record htag hlast] at hvisited

/-- The identities that a walk through a document finds are all that stand in it. -/
theorem Annotated.mem_identities {n : ℤ} {found : List ℤ} (h : d.Annotated) (hn : Occurs n d)
    (hfound : d.identities = .ok found) : n ∈ found := by
  have hmap : (visit [d]).map identity = found.map .ok := mapM_eq_ok_iff.mp hfound
  have hmet : ∀ node ∈ visit [d], ∃ m, identity node = .ok m := by
    intro node hnode
    have hmem : identity node ∈ found.map Except.ok := hmap ▸ List.mem_map_of_mem hnode
    obtain ⟨m, -, hm⟩ := List.mem_map.mp hmem
    exact ⟨m, hm.symm⟩
  obtain ⟨node, hnode, hid⟩ := h.exists_met hn hmet
  have hmem : identity node ∈ found.map Except.ok := hmap ▸ List.mem_map_of_mem hnode
  rw [hid] at hmem
  obtain ⟨m, hm, heq⟩ := List.mem_map.mp hmem
  cases heq
  exact hm

end Datum

end BlockText

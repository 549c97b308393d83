import BlockText.Proofs.Build.Tracing
import BlockText.Proofs.Syntax.Reading

/-!
# Programs that share a document

In a document the two halves of a surrogate pair look like the one character that the pair stands
for. Joining puts that character wherever the halves stand side by side. What is joined is written
as it was before, and nothing is left to join, so structured data are written alike exactly if they
are the same once joined (`toJson_eq_iff_joined_eq`).

Joining changes texts only: the places of a program, and the blocks that are made for it, stay what
they are. So programs that share a document have the same origins (`origins_eq_of_toJson_eq`),
although their texts may differ.
-/

namespace BlockText

/-! ## Texts -/

namespace Text

open Datum

instance : DecidableRel IsPair := fun p q =>
  match p, q with
  | .surrogate i, .surrogate j => inferInstanceAs (Decidable ((i : ℕ) < 0x400 ∧ 0x400 ≤ (j : ℕ)))
  | .char _, _ | .surrogate _, .char _ => isFalse id

/-- The character that a pair of surrogates stands for. -/
def pairPoint (p q : CodePoint) : CodePoint :=
  .ofCode (0x10000 + ((p.code - 0xD800) * 0x400 + (q.code - 0xDC00)))

/-- The code points with a character in place of every pair of surrogates. -/
def joinPairs : List CodePoint → List CodePoint
  | p :: q :: rest =>
    if IsPair p q then pairPoint p q :: joinPairs rest else p :: joinPairs (q :: rest)
  | ps => ps

variable {p q : CodePoint} {ps : List CodePoint}

/-- The character of a pair is none of the first 65536. -/
lemma exists_pairPoint (h : IsPair p q) :
    ∃ c : Char, pairPoint p q = .char c ∧ 0x10000 ≤ c.toNat := by
  cases p <;> cases q <;> try exact h.elim
  next i j =>
    obtain ⟨hi, hj⟩ : (i : ℕ) < 0x400 ∧ 0x400 ≤ (j : ℕ) := h
    simp only [pairPoint, CodePoint.code]
    rw [CodePoint.ofCode, dif_neg (by omega)]
    refine ⟨_, rfl, ?_⟩
    rw [Char.toNat_ofNat, if_pos (.inr ⟨by omega, by omega⟩)]
    omega

/-- The character of a pair is written as the pair is. -/
lemma jsonPoint_pairPoint (h : IsPair p q) :
    jsonPoint (pairPoint p q) = jsonPoint p ++ jsonPoint q := by
  cases p <;> cases q <;> try exact h.elim
  next i j =>
    have hsecond : ∀ n : ℕ, 0xD800 + n - 0xDC00 = n - 0x400 := by omega
    rw [← jsonPoint_pair h, pairPoint, CodePoint.code, CodePoint.code, Nat.add_sub_cancel_left,
      hsecond]

/-- Joining pairs does not change how a text is written. -/
lemma flatMap_jsonPoint_joinPairs (ps : List CodePoint) :
    (joinPairs ps).flatMap jsonPoint = ps.flatMap jsonPoint := by
  fun_induction joinPairs ps with
  | case1 p q rest h ih => simp [jsonPoint_pairPoint h, ih]
  | case2 p q rest h ih => rw [List.flatMap_cons, ih, ← List.flatMap_cons]
  | case3 ps => rfl

/-- A joined text starts as the text does, or with a character. -/
lemma head_joinPairs (q : CodePoint) (rest : List CodePoint) :
    ∃ r more, joinPairs (q :: rest) = r :: more ∧ (r = q ∨ ∃ c, r = .char c) := by
  cases rest with
  | nil => exact ⟨q, [], by rw [joinPairs]; simp, .inl rfl⟩
  | cons q' rest =>
    rw [joinPairs]
    split
    · next h =>
      obtain ⟨c, hc, -⟩ := exists_pairPoint h
      exact ⟨_, _, rfl, .inr ⟨c, hc⟩⟩
    · exact ⟨_, _, rfl, .inl rfl⟩

/-- No pairs are left to join. -/
lemma unpairedPoints_joinPairs (ps : List CodePoint) : UnpairedPoints (joinPairs ps) := by
  fun_induction joinPairs ps with
  | case1 p q rest h ih =>
    obtain ⟨c, hc, -⟩ := exists_pairPoint h
    rw [hc]
    exact List.isChain_cons.mpr ⟨fun _ _ => id, ih⟩
  | case2 p q rest h ih =>
    obtain ⟨r, more, hjoined, hr⟩ := head_joinPairs q rest
    rw [hjoined] at ih ⊢
    refine List.isChain_cons_cons.mpr ⟨?_, ih⟩
    rcases hr with rfl | ⟨c, rfl⟩
    · exact h
    · cases p <;> exact id
  | case3 ps h =>
    cases ps with
    | nil => exact .nil
    | cons p rest =>
      cases rest with
      | nil => exact .singleton p
      | cons q rest => exact absurd rfl (h p q rest)

/-- A text of characters below 65536 is no other text joined. -/
lemma joinPairs_eq_points {s : String} (hs : ∀ c ∈ s.toList, c.toNat < 0x10000)
    (h : joinPairs ps = points s) : ps = points s := by
  have hfixed : (∀ c : Char, .char c ∈ joinPairs ps → c.toNat < 0x10000) → joinPairs ps = ps := by
    clear h hs
    fun_induction joinPairs ps with
    | case1 p q rest h _ =>
      obtain ⟨c, hc, hle⟩ := exists_pairPoint h
      intro hlt
      exact absurd (hlt c (hc ▸ List.mem_cons_self)) (by omega)
    | case2 p q rest h ih =>
      intro hlt
      rw [ih fun c hc => hlt c (List.mem_cons_of_mem _ hc)]
    | case3 ps => exact fun _ => rfl
  rw [← h, hfixed]
  intro c hc
  rw [h, points, List.mem_map] at hc
  obtain ⟨c', hc', heq⟩ := hc
  exact CodePoint.char.inj heq ▸ hs c' hc'

end Text

/-! ## Data -/

namespace Datum

mutual

/-- The datum with all pairs of surrogates joined. -/
def joined : Datum → Datum
  | surrogates t => ofPoints (Text.joinPairs t.points)
  | list items => list (joinedList items)
  | object entries => object (joinedEntries entries)
  | record tag fields => record tag (joinedList fields)
  | d => d

/-- The items with all pairs of surrogates joined. -/
def joinedList : List Datum → List Datum
  | [] => []
  | d :: rest => joined d :: joinedList rest

/-- The entries with all pairs of surrogates joined. -/
def joinedEntries : List (String × Datum) → List (String × Datum)
  | [] => []
  | (key, d) :: rest => (key, joined d) :: joinedEntries rest

end

/-- A list is joined member by member. -/
@[simp] lemma joinedList_eq_map (ds : List Datum) : joinedList ds = ds.map joined := by
  induction ds with
  | nil => rw [joinedList, List.map_nil]
  | cons d rest ih => rw [joinedList, List.map_cons, ih]

mutual

/-- Joining pairs does not change how a datum is written. -/
theorem toJson_joined : (d : Datum) → d.joined.toJson = d.toJson
  | null | bool _ | int _ | float _ | text _ => rfl
  | surrogates t => by
    rw [joined, toJson_ofPoints, toJson, jsonString, jsonString, Text.flatMap_jsonPoint_joinPairs]
  | list items => by rw [joined, toJson, toJson, toJsonList_joinedList items]
  | object entries => by rw [joined, toJson, toJson, toJsonEntries_joinedEntries entries]
  | record tag fields => by rw [joined, toJson, toJson, toJsonFields_joinedList _ fields]

/-- Joining pairs does not change how items are written. -/
theorem toJsonList_joinedList : (ds : List Datum) → toJsonList (joinedList ds) = toJsonList ds
  | [] => by rw [joinedList]
  | d :: rest => by rw [joinedList, toJsonList, toJsonList, toJson_joined d, toJsonList_joinedList rest]

/-- Joining pairs does not change how entries are written. -/
theorem toJsonEntries_joinedEntries : (entries : List (String × Datum)) →
    toJsonEntries (joinedEntries entries) = toJsonEntries entries
  | [] => by rw [joinedEntries]
  | (key, d) :: rest => by
    rw [joinedEntries, toJsonEntries, toJsonEntries, toJson_joined d,
      toJsonEntries_joinedEntries rest]

/-- Joining pairs does not change how fields are written. -/
theorem toJsonFields_joinedList : (names : List String) → (ds : List Datum) →
    toJsonFields names (joinedList ds) = toJsonFields names ds
  | [], ds => by cases ds <;> simp [toJsonFields, joinedList]
  | _ :: _, [] => by rw [joinedList]
  | name :: names, d :: rest => by
    rw [joinedList, toJsonFields, toJsonFields, toJson_joined d, toJsonFields_joinedList names rest]

end

/-- A text of code points without pairs has none as a datum. -/
lemma unpaired_ofPoints {ps : List CodePoint} (h : UnpairedPoints ps) : (ofPoints ps).Unpaired := by
  rcases ofPoints_cases ps with ⟨s, rfl, heq⟩ | ⟨t, rfl, heq⟩ <;> rw [heq]
  · exact trivial
  · exact h

mutual

/-- No pairs are left to join. -/
theorem unpaired_joined : (d : Datum) → d.joined.Unpaired
  | null | bool _ | int _ | float _ | text _ => trivial
  | surrogates t => unpaired_ofPoints (Text.unpairedPoints_joinPairs t.points)
  | list items => unpairedList_joinedList items
  | object entries => unpairedEntries_joinedEntries entries
  | record _ fields => unpairedList_joinedList fields

/-- No pairs are left to join in items. -/
theorem unpairedList_joinedList : (ds : List Datum) → UnpairedList (joinedList ds)
  | [] => trivial
  | d :: rest => ⟨unpaired_joined d, unpairedList_joinedList rest⟩

/-- No pairs are left to join in entries. -/
theorem unpairedEntries_joinedEntries : (entries : List (String × Datum)) →
    UnpairedEntries (joinedEntries entries)
  | [] => trivial
  | (_, d) :: rest => ⟨unpaired_joined d, unpairedEntries_joinedEntries rest⟩

end

mutual

/-- Joining keeps data structured. -/
theorem structured_joined : (d : Datum) → d.Structured → d.joined.Structured
  | null, _ | bool _, _ | int _, _ | text _, _ => trivial
  | surrogates t, _ => structured_ofPoints _
  | list items, h => structuredList_joinedList items h
  | record tag fields, h =>
    ⟨by rw [joinedList_eq_map, List.length_map]; exact h.1, structuredList_joinedList fields h.2⟩

/-- Joining keeps items structured. -/
theorem structuredList_joinedList : (ds : List Datum) → StructuredList ds →
    StructuredList (joinedList ds)
  | [], _ => trivial
  | d :: rest, h => ⟨structured_joined d h.1, structuredList_joinedList rest h.2⟩

end

/-- A text of characters below 65536 is no other datum joined. -/
lemma joined_eq_text {d : Datum} {s : String} (hs : ∀ c ∈ s.toList, c.toNat < 0x10000)
    (h : d.joined = .text s) : d = .text s := by
  cases d with
  | surrogates t =>
    rw [joined, ofPoints_eq_text] at h
    have hpoints := Text.joinPairs_eq_points hs h
    rw [← ofPoints_surrogates, hpoints, ofPoints_points]
  | text s' => exact h
  | _ => cases h

/-- Structured data are written alike exactly if they are the same once joined. -/
theorem toJson_eq_iff_joined_eq {x y : Datum} (hx : x.Structured) (hy : y.Structured) :
    x.toJson = y.toJson ↔ x.joined = y.joined := by
  refine ⟨fun h => ?_, fun h => by rw [← toJson_joined x, h, toJson_joined]⟩
  refine (structured_joined x hx).eq_of_toJson_eq (structured_joined y hy) (unpaired_joined x)
    (unpaired_joined y) ?_
  rw [toJson_joined, toJson_joined, h]

end Datum

/-! ## Expressions -/

namespace Syntax

open Datum

mutual

/-- The expression with all pairs of surrogates joined. -/
def Expr.joined : Expr → Expr
  | .identifier name i => .identifier name.joined i
  | .literal kind raw value i => .literal kind raw.joined value.joined i
  | .binary l op r i => .binary l.joined op r.joined i
  | .unary op e i => .unary op e.joined i
  | .boolOp op es i => .boolOp op (exprsJoined es) i
  | .compare l ops es i => .compare l.joined ops (exprsJoined es) i
  | .lambda ps body i => .lambda (paramsJoined ps) body.joined i
  | .conditional t b e i => .conditional t.joined b.joined e.joined i
  | .call f args ks i => .call f.joined (exprsJoined args) (keywordsJoined ks) i
  | .tuple es i => .tuple (exprsJoined es) i
  | .list es i => .list (exprsJoined es) i
  | .set es i => .set (exprsJoined es) i
  | .dict entries i => .dict (entriesJoined entries) i
  | .attribute e attr i => .attribute e.joined attr.joined i
  | .subscript e index i => .subscript e.joined index.joined i
  | .slice lower upper step i =>
    .slice (optionJoined lower) (optionJoined upper) (optionJoined step) i
  | .comprehension kind e cs key i =>
    .comprehension kind e.joined (clausesJoined cs) (optionJoined key) i
  | .grouped e i => .grouped e.joined i
  | .fstring parts quote i => .fstring (partsJoined parts) quote.joined i
  | .walrus target e i => .walrus target.joined e.joined i
  | .yield e i => .yield (optionJoined e) i
  | .yieldFrom e i => .yieldFrom e.joined i
  | .await e i => .await e.joined i
  | .stray d => .stray d.joined

/-- An optional expression, joined. -/
def optionJoined : Option Expr → Option Expr
  | some e => some e.joined
  | none => none

/-- Several expressions, joined. -/
def exprsJoined : List Expr → List Expr
  | [] => []
  | e :: rest => e.joined :: exprsJoined rest

/-- Parameters, joined. -/
def paramsJoined : List (Param Expr) → List (Param Expr)
  | [] => []
  | ⟨name, hint, preset, kind, i⟩ :: rest =>
    ⟨name.joined, optionJoined hint, optionJoined preset, kind, i⟩ :: paramsJoined rest

/-- Keyword arguments, joined. -/
def keywordsJoined : List (Keyword Expr) → List (Keyword Expr)
  | [] => []
  | ⟨name, e, i⟩ :: rest => ⟨name.joined, e.joined, i⟩ :: keywordsJoined rest

/-- Dictionary entries, joined. -/
def entriesJoined : List (DictEntry Expr) → List (DictEntry Expr)
  | [] => []
  | ⟨key, e, i⟩ :: rest => ⟨optionJoined key, e.joined, i⟩ :: entriesJoined rest

/-- Comprehension clauses, joined. -/
def clausesJoined : List (Clause Expr) → List (Clause Expr)
  | [] => []
  | ⟨target, iter, ifs, isAsync, i⟩ :: rest =>
    ⟨target.joined, iter.joined, exprsJoined ifs, isAsync, i⟩ :: clausesJoined rest

/-- Parts of a formatted string, joined. -/
def partsJoined : List (FormatPart Expr) → List (FormatPart Expr)
  | [] => []
  | ⟨kind, d, e, conversion, spec, i⟩ :: rest =>
    ⟨kind, d.joined, optionJoined e, conversion.joined, spec.joined, i⟩ :: partsJoined rest

end

/-- The spelling of a choice has no pair to be joined. -/
@[simp] lemma joined_spelled {α : Type} [Choice α] (a : α) : (spelled a).joined = spelled a := rfl

/-- Metadata have no pair to be joined. -/
@[simp] lemma joined_info (i : Info) : i.toDatum.joined = i.toDatum := by
  have hspan : (optionally Span.toDatum i.span).joined = optionally Span.toDatum i.span := by
    cases i.span <;> rfl
  have htokens : (optionally TokenRange.toDatum i.tokens).joined =
      optionally TokenRange.toDatum i.tokens := by
    cases i.tokens <;> rfl
  have htrivia : ∀ ts : List Trivia, (ts.map Trivia.toDatum).map Datum.joined =
      ts.map Trivia.toDatum := fun ts => by
    rw [List.map_map]
    rfl
  simp [Info.toDatum, Datum.joined, hspan, htokens, -List.map_map, htrivia]

section Documents

attribute [local simp] Expr.joined Expr.toDatum Datum.joined

mutual

/-- The document of a joined expression is the joined document. -/
theorem Expr.toDatum_joined : (e : Expr) → e.joined.toDatum = e.toDatum.joined
  | .identifier _ _ | .literal _ _ _ _ | .stray _ => by simp
  | .binary l _ r _ => by simp [Expr.toDatum_joined l, Expr.toDatum_joined r]
  | .unary _ e _ | .attribute e _ _ | .grouped e _ | .walrus _ e _ | .yieldFrom e _
  | .await e _ => by simp [Expr.toDatum_joined e]
  | .boolOp _ es _ | .tuple es _ | .list es _ | .set es _ => by simp [exprData_joined es]
  | .compare l _ es _ => by simp [Expr.toDatum_joined l, exprData_joined es]
  | .lambda ps body _ => by simp [paramData_joined ps, Expr.toDatum_joined body]
  | .conditional t b e _ => by
    simp [Expr.toDatum_joined t, Expr.toDatum_joined b, Expr.toDatum_joined e]
  | .call f args ks _ => by
    simp [Expr.toDatum_joined f, exprData_joined args, keywordData_joined ks]
  | .dict ds _ => by simp [entryData_joined ds]
  | .subscript e index _ => by simp [Expr.toDatum_joined e, Expr.toDatum_joined index]
  | .slice lower upper step _ => by
    simp [optionalDatum_joined lower, optionalDatum_joined upper, optionalDatum_joined step]
  | .comprehension _ e cs key _ => by
    simp [Expr.toDatum_joined e, clauseData_joined cs, optionalDatum_joined key]
  | .fstring ps _ _ => by simp [partData_joined ps]
  | .yield e _ => by simp [optionalDatum_joined e]

/-- The document of a joined optional expression is the joined document. -/
theorem optionalDatum_joined : (o : Option Expr) →
    optionalDatum (optionJoined o) = (optionalDatum o).joined
  | none => rfl
  | some e => Expr.toDatum_joined e

/-- The documents of joined expressions are the joined documents. -/
theorem exprData_joined : (es : List Expr) →
    exprData (exprsJoined es) = (exprData es).map Datum.joined
  | [] => rfl
  | e :: rest => by
    rw [exprsJoined, exprData, exprData, Expr.toDatum_joined e, exprData_joined rest, List.map_cons]

/-- The documents of joined parameters are the joined documents. -/
theorem paramData_joined : (ps : List (Param Expr)) →
    paramData (paramsJoined ps) = (paramData ps).map Datum.joined
  | [] => rfl
  | ⟨_, hint, preset, _, _⟩ :: rest => by
    simp [paramsJoined, paramData, optionalDatum_joined hint, optionalDatum_joined preset,
      paramData_joined rest]

/-- The documents of joined keyword arguments are the joined documents. -/
theorem keywordData_joined : (ks : List (Keyword Expr)) →
    keywordData (keywordsJoined ks) = (keywordData ks).map Datum.joined
  | [] => rfl
  | ⟨_, e, _⟩ :: rest => by
    simp [keywordsJoined, keywordData, Expr.toDatum_joined e, keywordData_joined rest]

/-- The documents of joined dictionary entries are the joined documents. -/
theorem entryData_joined : (ds : List (DictEntry Expr)) →
    entryData (entriesJoined ds) = (entryData ds).map Datum.joined
  | [] => rfl
  | ⟨key, e, _⟩ :: rest => by
    simp [entriesJoined, entryData, optionalDatum_joined key, Expr.toDatum_joined e,
      entryData_joined rest]

/-- The documents of joined clauses are the joined documents. -/
theorem clauseData_joined : (cs : List (Clause Expr)) →
    clauseData (clausesJoined cs) = (clauseData cs).map Datum.joined
  | [] => rfl
  | ⟨target, iter, ifs, _, _⟩ :: rest => by
    simp [clausesJoined, clauseData, Expr.toDatum_joined target, Expr.toDatum_joined iter,
      exprData_joined ifs, clauseData_joined rest]

/-- The documents of joined parts of a formatted string are the joined documents. -/
theorem partData_joined : (ps : List (FormatPart Expr)) →
    partData (partsJoined ps) = (partData ps).map Datum.joined
  | [] => rfl
  | ⟨_, _, e, _, _, _⟩ :: rest => by
    simp [partsJoined, partData, optionalDatum_joined e, partData_joined rest]

end

end Documents

section Parts

attribute [local simp] Expr.joined Expr.parts

@[simp] lemma optionJoined_eq_map (o : Option Expr) : optionJoined o = o.map Expr.joined := by
  cases o <;> rfl

@[simp] lemma exprsJoined_eq_map (es : List Expr) : exprsJoined es = es.map Expr.joined := by
  induction es with
  | nil => rfl
  | cons e rest ih => rw [exprsJoined, ih, List.map_cons]

private lemma toList_map {α β : Type} (f : α → β) (o : Option α) :
    (o.map f).toList = o.toList.map f := by
  cases o <;> rfl

/-- The expressions of joined parameters are the joined expressions. -/
lemma parts_paramsJoined (ps : List (Param Expr)) :
    ((paramsJoined ps).flatMap fun p => p.hint.toList ++ p.preset.toList) =
      (ps.flatMap fun p => p.hint.toList ++ p.preset.toList).map Expr.joined := by
  induction ps with
  | nil => rfl
  | cons p rest ih => simp [paramsJoined, ih, toList_map]

/-- The parts of a joined expression are the joined parts. -/
lemma Expr.parts_joined (e : Expr) : e.joined.parts = e.parts.map Expr.joined := by
  cases e with
  | call f args ks i =>
    have hks : (keywordsJoined ks).map (·.value) = (ks.map (·.value)).map Expr.joined := by
      induction ks with
      | nil => rfl
      | cons k rest ih => simp [keywordsJoined, ih]
    simp [hks]
  | lambda ps body i => simp [parts_paramsJoined]
  | dict ds i =>
    have hds : ((entriesJoined ds).flatMap fun d => d.key.toList ++ [d.value]) =
        (ds.flatMap fun d => d.key.toList ++ [d.value]).map Expr.joined := by
      induction ds with
      | nil => rfl
      | cons d rest ih => simp [entriesJoined, ih, toList_map]
    simp [hds]
  | comprehension kind e cs key i =>
    have hcs : ((clausesJoined cs).flatMap fun c => c.target :: c.iter :: c.ifs) =
        (cs.flatMap fun c => c.target :: c.iter :: c.ifs).map Expr.joined := by
      induction cs with
      | nil => rfl
      | cons c rest ih => simp [clausesJoined, ih]
    simp [hcs, toList_map]
  | fstring ps quote i =>
    have hps : ((partsJoined ps).flatMap fun p => p.expr.toList) =
        (ps.flatMap fun p => p.expr.toList).map Expr.joined := by
      induction ps with
      | nil => rfl
      | cons p rest ih => simp [partsJoined, ih, toList_map]
    simp [hps]
  | _ => simp [toList_map]

end Parts

/-- A well-formed expression is read off its document once joined. -/
lemma Expr.WellFormed.isRead_joined {e : Expr} (h : e.WellFormed) : e.joined.IsRead := by
  induction h with
  | @intro e sane _ ih =>
    refine Expr.isRead_of_parts ?_ ?_
    · intro d hd
      cases e with
      | stray _ => exact sane
      | _ => simp [Expr.joined] at hd
    · rw [Expr.parts_joined]
      exact List.forall_mem_map.mpr ih

/-! ## Statements -/

/-- The pattern with all pairs of surrogates joined. -/
def Pattern.joined : Pattern → Pattern
  | .wildcard i => .wildcard i
  | .capture name i => .capture name.joined i
  | .literal e i => .literal e.joined i
  | .stray d => .stray d.joined

/-- The context with all pairs of surrogates joined. -/
def WithItem.joined (w : WithItem) : WithItem := ⟨w.context.joined, w.name.joined, w.info⟩

/-- The imported name with all pairs of surrogates joined. -/
def ImportName.joined (n : ImportName) : ImportName := ⟨n.name.joined, n.asName.joined, n.info⟩

mutual

/-- The statement with all pairs of surrogates joined. -/
def Stmt.joined : Stmt → Stmt
  | .ifStmt t ⟨body, n⟩ elifs orelse i =>
    .ifStmt t.joined ⟨stmtsJoined body, n⟩ (elifsJoined elifs) (suiteJoined orelse) i
  | .whileStmt t ⟨body, n⟩ orelse i =>
    .whileStmt t.joined ⟨stmtsJoined body, n⟩ (suiteJoined orelse) i
  | .forStmt target iter ⟨body, n⟩ orelse isAsync i =>
    .forStmt target.joined iter.joined ⟨stmtsJoined body, n⟩ (suiteJoined orelse) isAsync i
  | .matchStmt subject cases i => .matchStmt subject.joined (casesJoined cases) i
  | .functionDef name ps ⟨body, n⟩ decorators returns isAsync i =>
    .functionDef name.joined (paramsJoined ps) ⟨stmtsJoined body, n⟩ (exprsJoined decorators)
      (optionJoined returns) isAsync i
  | .classDef name bases ⟨body, n⟩ decorators i =>
    .classDef name.joined (exprsJoined bases) ⟨stmtsJoined body, n⟩ (exprsJoined decorators) i
  | .assign targets value i => .assign (exprsJoined targets) value.joined i
  | .annAssign target hint value i =>
    .annAssign target.joined hint.joined (optionJoined value) i
  | .augAssign target op value i => .augAssign target.joined op value.joined i
  | .exprStmt e i => .exprStmt e.joined i
  | .passStmt i => .passStmt i
  | .returnStmt value i => .returnStmt (optionJoined value) i
  | .breakStmt i => .breakStmt i
  | .continueStmt i => .continueStmt i
  | .importStmt module names isFrom i =>
    .importStmt module.joined (names.map ImportName.joined) isFrom i
  | .tryStmt ⟨body, n⟩ handlers orelse final i =>
    .tryStmt ⟨stmtsJoined body, n⟩ (handlersJoined handlers) (suiteJoined orelse)
      (suiteJoined final) i
  | .withStmt items ⟨body, n⟩ isAsync i =>
    .withStmt (items.map WithItem.joined) ⟨stmtsJoined body, n⟩ isAsync i
  | .assertStmt t msg i => .assertStmt t.joined (optionJoined msg) i
  | .raiseStmt exception cause i => .raiseStmt (optionJoined exception) (optionJoined cause) i
  | .deleteStmt targets i => .deleteStmt (exprsJoined targets) i
  | .globalStmt names i => .globalStmt (names.map Datum.joined) i
  | .nonlocalStmt names i => .nonlocalStmt (names.map Datum.joined) i
  | .empty origin i => .empty origin i
  | .stray d => .stray d.joined

/-- Several statements, joined. -/
def stmtsJoined : List Stmt → List Stmt
  | [] => []
  | s :: rest => s.joined :: stmtsJoined rest

/-- A suite that may be missing, joined. -/
def suiteJoined : Option (Suite Stmt) → Option (Suite Stmt)
  | some ⟨body, n⟩ => some ⟨stmtsJoined body, n⟩
  | none => none

/-- Further conditions, joined. -/
def elifsJoined : List (ElifClause Stmt) → List (ElifClause Stmt)
  | [] => []
  | ⟨t, ⟨body, n⟩, i⟩ :: rest => ⟨t.joined, ⟨stmtsJoined body, n⟩, i⟩ :: elifsJoined rest

/-- Cases, joined. -/
def casesJoined : List (MatchCase Stmt) → List (MatchCase Stmt)
  | [] => []
  | ⟨p, ⟨body, n⟩, i⟩ :: rest => ⟨p.joined, ⟨stmtsJoined body, n⟩, i⟩ :: casesJoined rest

/-- Handlers, joined. -/
def handlersJoined : List (Handler Stmt) → List (Handler Stmt)
  | [] => []
  | ⟨type, name, ⟨body, n⟩, i⟩ :: rest =>
    ⟨optionJoined type, name.joined, ⟨stmtsJoined body, n⟩, i⟩ :: handlersJoined rest

end

/-- The suite with all pairs of surrogates joined. -/
def Suite.joined (body : Suite Stmt) : Suite Stmt := ⟨stmtsJoined body.statements, body.level⟩

/-- The document of a joined pattern is the joined document. -/
lemma Pattern.toDatum_joined (p : Pattern) : p.joined.toDatum = p.toDatum.joined := by
  cases p <;> simp [Pattern.joined, Pattern.toDatum, Datum.joined, Expr.toDatum_joined]

/-- The documents of joined names that are imported are the joined documents. -/
lemma toDatum_importNames (names : List ImportName) :
    (names.map ImportName.joined).map ImportName.toDatum =
      (names.map ImportName.toDatum).map Datum.joined := by
  simp [ImportName.joined, ImportName.toDatum, Datum.joined]

/-- The documents of joined contexts are the joined documents. -/
lemma toDatum_withItems (items : List WithItem) :
    (items.map WithItem.joined).map WithItem.toDatum =
      (items.map WithItem.toDatum).map Datum.joined := by
  simp [WithItem.joined, WithItem.toDatum, Datum.joined, Expr.toDatum_joined]

section Documents

attribute [local simp] Stmt.joined Stmt.toDatum Datum.joined Expr.toDatum_joined exprData_joined
  paramData_joined optionalDatum_joined suiteDatum
attribute [-simp] exprsJoined_eq_map optionJoined_eq_map

mutual

/-- The document of a joined statement is the joined document. -/
theorem Stmt.toDatum_joined : (s : Stmt) → s.joined.toDatum = s.toDatum.joined
  | .ifStmt _ ⟨body, _⟩ elifs orelse _ => by
    simp [stmtData_joined body, elifData_joined elifs, optionalSuite_joined orelse]
  | .whileStmt _ ⟨body, _⟩ orelse _ | .forStmt _ _ ⟨body, _⟩ orelse _ _ => by
    simp [stmtData_joined body, optionalSuite_joined orelse]
  | .matchStmt _ cases _ => by simp [caseData_joined cases]
  | .functionDef _ _ ⟨body, _⟩ _ _ _ _ | .classDef _ _ ⟨body, _⟩ _ _ => by
    simp [stmtData_joined body]
  | .withStmt items ⟨body, _⟩ _ _ => by
    simp [-List.map_map, stmtData_joined body, toDatum_withItems]
  | .tryStmt ⟨body, _⟩ handlers orelse final _ => by
    simp [stmtData_joined body, handlerData_joined handlers, optionalSuite_joined orelse,
      optionalSuite_joined final]
  | .importStmt _ names _ _ => by simp [-List.map_map, toDatum_importNames]
  | .assign _ _ _ | .annAssign _ _ _ _ | .augAssign _ _ _ _ | .exprStmt _ _ | .passStmt _
  | .returnStmt _ _ | .breakStmt _ | .continueStmt _ | .assertStmt _ _ _ | .raiseStmt _ _ _
  | .deleteStmt _ _ | .globalStmt _ _ | .nonlocalStmt _ _ | .empty _ _ | .stray _ => by simp

/-- The documents of joined statements are the joined documents. -/
theorem stmtData_joined : (ss : List Stmt) →
    stmtData (stmtsJoined ss) = (stmtData ss).map Datum.joined
  | [] => by rw [stmtsJoined, stmtData, List.map_nil]
  | s :: rest => by
    rw [stmtsJoined, stmtData, stmtData, Stmt.toDatum_joined s, stmtData_joined rest, List.map_cons]

/-- The document of a joined suite that may be missing is the joined document. -/
theorem optionalSuite_joined : (o : Option (Suite Stmt)) →
    optionalSuite (suiteJoined o) = (optionalSuite o).joined
  | none => by
    rw [suiteJoined, optionalSuite]
    rfl
  | some ⟨body, _⟩ => by simp [suiteJoined, optionalSuite, stmtData_joined body]

/-- The documents of joined further conditions are the joined documents. -/
theorem elifData_joined : (cs : List (ElifClause Stmt)) →
    elifData (elifsJoined cs) = (elifData cs).map Datum.joined
  | [] => by rw [elifsJoined, elifData, List.map_nil]
  | ⟨_, ⟨body, _⟩, _⟩ :: rest => by
    simp [elifsJoined, elifData, stmtData_joined body, elifData_joined rest]

/-- The documents of joined cases are the joined documents. -/
theorem caseData_joined : (cs : List (MatchCase Stmt)) →
    caseData (casesJoined cs) = (caseData cs).map Datum.joined
  | [] => by rw [casesJoined, caseData, List.map_nil]
  | ⟨_, ⟨body, _⟩, _⟩ :: rest => by
    have hrest := caseData_joined rest
    rw [caseData_eq_map, caseData_eq_map] at hrest
    rw [casesJoined, caseData_eq_map, caseData_eq_map, List.map_cons, List.map_cons, List.map_cons,
      hrest]
    rw [MatchCase.toDatum, MatchCase.toDatum, Pattern.toDatum_joined]
    simp [Suite.toDatum, stmtData_joined body]

/-- The documents of joined handlers are the joined documents. -/
theorem handlerData_joined : (hs : List (Handler Stmt)) →
    handlerData (handlersJoined hs) = (handlerData hs).map Datum.joined
  | [] => by rw [handlersJoined, handlerData, List.map_nil]
  | ⟨_, _, ⟨body, _⟩, _⟩ :: rest => by
    simp [handlersJoined, handlerData, stmtData_joined body, handlerData_joined rest]

end

end Documents

/-- The document of a joined suite is the joined document. -/
lemma Suite.toDatum_joined (body : Suite Stmt) : body.joined.toDatum = body.toDatum.joined := by
  simp [Suite.toDatum, Suite.joined, suiteDatum, Datum.joined, stmtData_joined]

section Parts

attribute [local simp] Stmt.joined Stmt.exprs Stmt.suites Suite.joined

@[simp] lemma stmtsJoined_eq_map (ss : List Stmt) : stmtsJoined ss = ss.map Stmt.joined := by
  induction ss with
  | nil => rw [stmtsJoined, List.map_nil]
  | cons s rest ih => rw [stmtsJoined, ih, List.map_cons]

lemma suiteJoined_eq_map (o : Option (Suite Stmt)) : suiteJoined o = o.map Suite.joined := by
  cases o <;> simp [suiteJoined]

/-- A further condition, joined. -/
def ElifClause.joined (c : ElifClause Stmt) : ElifClause Stmt :=
  ⟨c.test.joined, c.body.joined, c.info⟩

/-- A case, joined. -/
def MatchCase.joined (c : MatchCase Stmt) : MatchCase Stmt :=
  ⟨c.pattern.joined, c.body.joined, c.info⟩

/-- A handler, joined. -/
def Handler.joined (h : Handler Stmt) : Handler Stmt :=
  ⟨h.type.map Expr.joined, h.name.joined, h.body.joined, h.info⟩

lemma elifsJoined_eq_map (cs : List (ElifClause Stmt)) :
    elifsJoined cs = cs.map ElifClause.joined := by
  induction cs with
  | nil => rw [elifsJoined, List.map_nil]
  | cons c rest ih => simp [elifsJoined, ElifClause.joined, ih]

lemma casesJoined_eq_map (cs : List (MatchCase Stmt)) :
    casesJoined cs = cs.map MatchCase.joined := by
  induction cs with
  | nil => rw [casesJoined, List.map_nil]
  | cons c rest ih => simp [casesJoined, MatchCase.joined, ih]

lemma handlersJoined_eq_map (hs : List (Handler Stmt)) :
    handlersJoined hs = hs.map Handler.joined := by
  induction hs with
  | nil => rw [handlersJoined, List.map_nil]
  | cons h rest ih => simp [handlersJoined, Handler.joined, ih]

/-- The expressions of a joined statement are the joined expressions. -/
lemma Stmt.exprs_joined (s : Stmt) : s.joined.exprs = s.exprs.map Expr.joined := by
  cases s with
  | ifStmt t body elifs orelse i =>
    obtain ⟨body, n⟩ := body
    simp [elifsJoined_eq_map, ElifClause.joined]
  | functionDef name ps body decorators returns isAsync i =>
    obtain ⟨body, n⟩ := body
    simp [parts_paramsJoined, toList_map]
  | tryStmt body handlers orelse final i =>
    obtain ⟨body, n⟩ := body
    simp [handlersJoined_eq_map, Handler.joined, List.flatMap_map, List.map_flatMap, toList_map]
  | withStmt items body isAsync i =>
    obtain ⟨body, n⟩ := body
    simp [WithItem.joined]
  | whileStmt _ body _ _ | forStmt _ _ body _ _ _ | classDef _ _ body _ _ =>
    obtain ⟨body, n⟩ := body
    simp
  | _ => simp [toList_map]

/-- The suites of a joined statement are the joined suites. -/
lemma Stmt.suites_joined (s : Stmt) :
    s.joined.suites = s.suites.map fun body => (body.1, body.2.joined) := by
  cases s with
  | ifStmt t body elifs orelse i =>
    obtain ⟨body, n⟩ := body
    simp [elifsJoined_eq_map, ElifClause.joined, suiteJoined_eq_map, toList_map, Function.comp_def]
  | whileStmt _ body orelse _ | forStmt _ _ body orelse _ _ =>
    obtain ⟨body, n⟩ := body
    simp [suiteJoined_eq_map, toList_map]
  | matchStmt subject cases i => simp [casesJoined_eq_map, MatchCase.joined]
  | functionDef _ _ body _ _ _ _ | classDef _ _ body _ _ | withStmt _ body _ _ =>
    obtain ⟨body, n⟩ := body
    simp
  | tryStmt body handlers orelse final i =>
    obtain ⟨body, n⟩ := body
    simp [handlersJoined_eq_map, Handler.joined, suiteJoined_eq_map, toList_map, Function.comp_def]
  | _ => simp

end Parts

/-- A well-formed pattern is read off its document once joined. -/
lemma Pattern.Sane.isRead_joined {p : Pattern} (h : p.Sane) : p.joined.IsRead := by
  cases p with
  | wildcard i => exact Sane.isRead (p := .wildcard i) trivial
  | capture name i => simp [joined, IsRead, toDatum, ofDatum]
  | literal e i =>
    cases e with
    | literal kind raw value i' => exact isRead_literal kind raw.joined value.joined i' i
    | _ => exact h.elim
  | stray d => exact h.elim

/-- A well-formed statement is read off its document once joined. -/
lemma Stmt.WellFormed.isRead_joined {depth : ℤ} {s : Stmt} (h : s.WellFormed depth) :
    s.joined.IsRead := by
  induction h with
  | @intro depth s sane exprs _ _ ih =>
    refine Stmt.isRead_of_parts ?_ ?_ ?_ ?_
    · intro d hd
      cases s with
      | stray _ => exact sane
      | _ => simp [Stmt.joined] at hd
    · intro subject cases i heq c hc
      cases s with
      | matchStmt subject' cases' i' =>
        obtain ⟨-, rfl, -⟩ := by simpa [Stmt.joined] using heq
        rw [casesJoined_eq_map, List.mem_map] at hc
        obtain ⟨c', hc', rfl⟩ := hc
        exact (sane.2 c' hc').isRead_joined
      | _ => simp [Stmt.joined] at heq
    · rw [Stmt.exprs_joined]
      exact List.forall_mem_map.mpr fun e he => (exprs e he).isRead_joined
    · rw [Stmt.suites_joined]
      refine List.forall_mem_map.mpr fun body hbody => ?_
      rw [Suite.IsRead, Suite.joined, stmtsJoined_eq_map]
      exact List.forall_mem_map.mpr (ih body hbody)

/-! ## Origins -/

section Origins

/-- The names that are called by blocks of their own stay what they are. -/
private lemma callees_below : ∀ b ∈ BuiltinCall.all, ∀ name ∈ b.callees, ∀ c ∈ name.toList,
    c.toNat < 0x10000 := by
  simp [BuiltinCall.all]

/-- A joined call has the same block of its own. -/
lemma match?_joined (f : Expr) (n : ℕ) (hasKeywords isStatement : Bool) :
    BuiltinCall.match? f.joined n hasKeywords isStatement =
      BuiltinCall.match? f n hasKeywords isStatement := by
  have hname : ∀ name i, f.joined = .identifier (.text name) i →
      (∃ b ∈ BuiltinCall.all, name ∈ b.callees) → f = .identifier (.text name) i := by
    rintro name i heq ⟨b, hb, hmem⟩
    cases f with
    | identifier d j =>
      obtain ⟨hd, rfl⟩ := Expr.identifier.inj heq
      rw [joined_eq_text (callees_below b hb name hmem) hd]
    | _ => cases heq
  cases hf : BuiltinCall.match? f n hasKeywords isStatement with
  | some b =>
    obtain ⟨name, i, rfl, -⟩ := BuiltinCall.of_match? hf
    exact hf
  | none =>
    cases hjoined : BuiltinCall.match? f.joined n hasKeywords isStatement with
    | none => rfl
    | some b =>
      obtain ⟨name, i, heq, -, hb, -, hmem, -⟩ := BuiltinCall.of_match? hjoined
      rw [heq, ← hname name i heq ⟨b, hb, hmem⟩, hf] at hjoined
      cases hjoined

/-- Joining keeps the number of expressions. -/
private lemma length_exprsJoined (es : List Expr) : (exprsJoined es).length = es.length := by
  rw [exprsJoined_eq_map, List.length_map]

/-- Joining keeps whether there are keyword arguments. -/
private lemma isEmpty_keywordsJoined (ks : List (Keyword Expr)) :
    (keywordsJoined ks).isEmpty = ks.isEmpty := by
  cases ks <;> rfl

attribute [local simp] Expr.joined Expr.origins
attribute [-simp] exprsJoined_eq_map optionJoined_eq_map stmtsJoined_eq_map

section

variable (span : Option Span)

mutual

/-- A joined expression has the same origins. -/
theorem Expr.origins_joined : (e : Expr) → e.joined.origins span = e.origins span
  | .identifier _ _ | .literal _ _ _ _ | .stray _ => by simp
  | .binary l _ r _ => by simp [Expr.origins_joined l, Expr.origins_joined r]
  | .unary _ e _ | .attribute e _ _ | .grouped e _ | .walrus _ e _ | .yieldFrom e _
  | .await e _ => by simp [Expr.origins_joined e]
  | .boolOp _ es _ | .tuple es _ | .list es _ | .set es _ => by simp [exprsOrigins_joined es]
  | .compare l ops es _ => by simp [Expr.origins_joined l, comparisonsOrigins_joined ops es]
  | .lambda ps body _ => by simp [paramsOrigins_joined false ps, Expr.origins_joined body]
  | .conditional t b e _ => by simp [Expr.origins_joined t, Expr.origins_joined b, Expr.origins_joined e]
  | .call f args ks _ => by
    rw [Expr.joined, Expr.origins, Expr.origins, match?_joined, length_exprsJoined,
      isEmpty_keywordsJoined, exprsOrigins_joined args,
      Expr.origins_joined f, keywordsOrigins_joined ks]
  | .dict ds _ => by simp [entriesOrigins_joined ds]
  | .subscript e index _ => by simp [Expr.origins_joined e, Expr.origins_joined index]
  | .slice lower upper step _ => by
    simp [optionOrigins_joined lower, optionOrigins_joined upper, optionOrigins_joined step]
  | .comprehension _ e cs key _ => by
    simp [Expr.origins_joined e, clausesOrigins_joined cs, optionOrigins_joined key]
  | .fstring ps _ _ => by simp [formatOrigins_joined ps]
  | .yield e _ => by simp [optionOrigins_joined e]

/-- An optional expression has the same origins once joined. -/
theorem optionOrigins_joined : (o : Option Expr) →
    optionOrigins span (optionJoined o) = optionOrigins span o
  | none => rfl
  | some e => Expr.origins_joined e

/-- Several expressions have the same origins once joined. -/
theorem exprsOrigins_joined : (es : List Expr) →
    exprsOrigins span (exprsJoined es) = exprsOrigins span es
  | [] => rfl
  | e :: rest => by
    rw [exprsJoined, exprsOrigins, exprsOrigins, Expr.origins_joined e, exprsOrigins_joined rest]

/-- The right sides of comparisons have the same origins once joined. -/
theorem comparisonsOrigins_joined : (ops : List CompareOp) → (es : List Expr) →
    comparisonsOrigins span ops (exprsJoined es) = comparisonsOrigins span ops es
  | [], es => by cases es <;> rfl
  | _ :: _, [] => rfl
  | _ :: ops, e :: rest => by
    rw [exprsJoined, comparisonsOrigins, comparisonsOrigins, Expr.origins_joined e,
      comparisonsOrigins_joined ops rest]

/-- Parameters have the same origins once joined. -/
theorem paramsOrigins_joined (hints : Bool) : (ps : List (Param Expr)) →
    paramsOrigins span hints (paramsJoined ps) = paramsOrigins span hints ps
  | [] => rfl
  | ⟨_, hint, preset, _, _⟩ :: rest => by
    rw [paramsJoined, paramsOrigins, paramsOrigins, optionOrigins_joined hint,
      optionOrigins_joined preset, paramsOrigins_joined hints rest]

/-- Keyword arguments have the same origins once joined. -/
theorem keywordsOrigins_joined : (ks : List (Keyword Expr)) →
    keywordsOrigins span (keywordsJoined ks) = keywordsOrigins span ks
  | [] => rfl
  | ⟨_, e, _⟩ :: rest => by
    rw [keywordsJoined, keywordsOrigins, keywordsOrigins, Expr.origins_joined e,
      keywordsOrigins_joined rest]

/-- Dictionary entries have the same origins once joined. -/
theorem entriesOrigins_joined : (ds : List (DictEntry Expr)) →
    entriesOrigins span (entriesJoined ds) = entriesOrigins span ds
  | [] => rfl
  | ⟨key, e, _⟩ :: rest => by
    rw [entriesJoined, entriesOrigins, entriesOrigins, optionOrigins_joined key,
      Expr.origins_joined e, entriesOrigins_joined rest]

/-- Clauses of a comprehension have the same origins once joined. -/
theorem clausesOrigins_joined : (cs : List (Clause Expr)) →
    clausesOrigins span (clausesJoined cs) = clausesOrigins span cs
  | [] => rfl
  | ⟨target, iter, ifs, _, _⟩ :: rest => by
    rw [clausesJoined, clausesOrigins, clausesOrigins, Expr.origins_joined target,
      Expr.origins_joined iter, exprsOrigins_joined ifs, clausesOrigins_joined rest]

/-- Parts of a formatted string have the same origins once joined. -/
theorem formatOrigins_joined : (ps : List (FormatPart Expr)) →
    formatOrigins span (partsJoined ps) = formatOrigins span ps
  | [] => rfl
  | ⟨_, _, e, _, _, _⟩ :: rest => by
    rw [partsJoined, formatOrigins, formatOrigins, optionOrigins_joined e,
      formatOrigins_joined rest]

end

/-- Contexts have the same origins once joined. -/
lemma contextsOrigins_joined (items : List WithItem) :
    contextsOrigins span (items.map WithItem.joined) = contextsOrigins span items := by
  have hcontexts : (items.map WithItem.joined).map (·.context) =
      exprsJoined (items.map (·.context)) := by
    rw [exprsJoined_eq_map, List.map_map, List.map_map]
    rfl
  rw [contextsOrigins, hcontexts, exprsOrigins_joined, contextsOrigins]

end

/-- Targets have the same origins once joined. -/
lemma targetsOrigins_joined (targets : List Expr) (info : Info) :
    targetsOrigins (exprsJoined targets) info = targetsOrigins targets info := by
  have hothers := exprsOrigins_joined info.span targets
  cases targets with
  | nil => rfl
  | cons e rest =>
    cases rest with
    | nil =>
      rw [exprsJoined, exprsJoined] at hothers ⊢
      cases e <;> first | rfl | exact congrArg (Origin.unit .assign info :: ·) hothers
    | cons e' rest =>
      rw [targetsOrigins.eq_2, targetsOrigins.eq_2, hothers]
      all_goals simp [exprsJoined]

/-- An expression as a statement has the same origins once joined. -/
lemma exprStmtOrigins_joined (e : Expr) (info : Info) :
    exprStmtOrigins e.joined info = exprStmtOrigins e info := by
  have hcall : statementCall? e.joined =
      (statementCall? e).map fun call => (call.1, exprsJoined call.2) := by
    cases e with
    | call f args ks i =>
      simp [statementCall?, match?_joined, length_exprsJoined, isEmpty_keywordsJoined,
        Function.comp_def]
    | _ => rfl
  rw [exprStmtOrigins, exprStmtOrigins, hcall, Expr.origins_joined]
  cases statementCall? e with
  | none => rfl
  | some call => simp [exprsOrigins_joined]

/-- The pattern has a block of the same type once joined. -/
lemma Pattern.blockType_joined (p : Pattern) : p.joined.blockType = p.blockType := by
  cases p with
  | literal e i => cases e <;> rfl
  | _ => rfl

attribute [local simp] Stmt.joined Stmt.origins Expr.origins_joined exprsOrigins_joined
  optionOrigins_joined paramsOrigins_joined targetsOrigins_joined exprStmtOrigins_joined
  contextsOrigins_joined

mutual

/-- A joined statement has the same origins. -/
theorem Stmt.origins_joined : (s : Stmt) → s.joined.origins = s.origins
  | .ifStmt _ ⟨body, _⟩ elifs orelse _ => by
    simp [stmtsOrigins_joined body, elifsOrigins_joined elifs, elseOrigins_joined orelse]
  | .whileStmt _ ⟨body, _⟩ orelse _ | .forStmt _ _ ⟨body, _⟩ orelse _ _ => by
    simp [stmtsOrigins_joined body, suiteOrigins_joined orelse]
  | .matchStmt _ cases _ => by simp [casesOrigins_joined cases]
  | .functionDef _ _ ⟨body, _⟩ _ _ _ _ | .classDef _ _ ⟨body, _⟩ _ _
  | .withStmt _ ⟨body, _⟩ _ _ => by simp [stmtsOrigins_joined body]
  | .tryStmt ⟨body, _⟩ handlers orelse final _ => by
    simp [stmtsOrigins_joined body, handlersOrigins_joined _ handlers, suiteOrigins_joined orelse,
      suiteOrigins_joined final]
  | .importStmt _ _ _ _ | .assign _ _ _ | .annAssign _ _ _ _ | .augAssign _ _ _ _ | .exprStmt _ _
  | .passStmt _ | .returnStmt _ _ | .breakStmt _ | .continueStmt _ | .assertStmt _ _ _
  | .raiseStmt _ _ _ | .deleteStmt _ _ | .globalStmt _ _ | .nonlocalStmt _ _ | .empty _ _
  | .stray _ => by simp

/-- Several statements have the same origins once joined. -/
theorem stmtsOrigins_joined : (ss : List Stmt) → stmtsOrigins (stmtsJoined ss) = stmtsOrigins ss
  | [] => by rw [stmtsJoined]
  | s :: rest => by
    rw [stmtsJoined, stmtsOrigins, stmtsOrigins, Stmt.origins_joined s, stmtsOrigins_joined rest]

/-- A suite that may be missing has the same origins once joined. -/
theorem suiteOrigins_joined : (o : Option (Suite Stmt)) →
    suiteOrigins (suiteJoined o) = suiteOrigins o
  | none => by rw [suiteJoined]
  | some ⟨body, _⟩ => by rw [suiteJoined, suiteOrigins, suiteOrigins, stmtsOrigins_joined body]

/-- Further conditions have the same origins once joined. -/
theorem elifsOrigins_joined : (cs : List (ElifClause Stmt)) →
    elifsOrigins (elifsJoined cs) = elifsOrigins cs
  | [] => by rw [elifsJoined]
  | ⟨t, ⟨body, _⟩, _⟩ :: rest => by
    rw [elifsJoined, elifsOrigins, elifsOrigins, Expr.origins_joined, stmtsOrigins_joined body,
      elifsOrigins_joined rest]

/-- A last alternative has the same origins once joined. -/
theorem elseOrigins_joined : (o : Option (Suite Stmt)) →
    elseOrigins (suiteJoined o) = elseOrigins o
  | none => by rw [suiteJoined]
  | some ⟨body, _⟩ => by rw [suiteJoined, elseOrigins, elseOrigins, stmtsOrigins_joined body]

/-- Cases have the same origins once joined. -/
theorem casesOrigins_joined : (cs : List (MatchCase Stmt)) →
    casesOrigins (casesJoined cs) = casesOrigins cs
  | [] => by rw [casesJoined]
  | ⟨p, ⟨body, _⟩, _⟩ :: rest => by
    rw [casesJoined, casesOrigins, casesOrigins, Pattern.blockType_joined, stmtsOrigins_joined body,
      casesOrigins_joined rest]

/-- Handlers have the same origins once joined. -/
theorem handlersOrigins_joined (span : Option Span) : (hs : List (Handler Stmt)) →
    handlersOrigins span (handlersJoined hs) = handlersOrigins span hs
  | [] => by rw [handlersJoined]
  | ⟨_, _, ⟨body, _⟩, _⟩ :: rest => by
    rw [handlersJoined, handlersOrigins, handlersOrigins, optionOrigins_joined,
      stmtsOrigins_joined body, handlersOrigins_joined span rest]

end

end Origins

/-- Programs that share a document have the same origins, although their texts may differ. -/
theorem Program.WellFormed.origins_eq_of_toJson_eq {p q : Program} (hp : p.WellFormed)
    (hq : q.WellFormed) (h : p.body.toDatum.toJson = q.body.toDatum.toJson) :
    p.origins = q.origins := by
  have hread : ∀ {p : Program}, p.WellFormed → suiteOf p.body.joined.toDatum = some p.body.joined := by
    intro p hp
    refine Suite.IsRead.suiteOf_toDatum ?_
    rw [Suite.IsRead, Suite.joined, stmtsJoined_eq_map]
    exact List.forall_mem_map.mpr fun s hs => (hp.statements s hs).isRead_joined
  have hdocument : p.body.joined.toDatum = q.body.joined.toDatum := by
    rw [Suite.toDatum_joined, Suite.toDatum_joined]
    exact (toJson_eq_iff_joined_eq hp.structured_body hq.structured_body).mp h
  have hbody : p.body.joined = q.body.joined :=
    Option.some.inj (by rw [← hread hp, ← hread hq, hdocument])
  have hstatements := congrArg (fun body => stmtsOrigins body.statements) hbody
  simp only [Suite.joined, stmtsOrigins_joined] at hstatements
  rw [Program.origins, hstatements, Program.origins]

end Syntax

end BlockText

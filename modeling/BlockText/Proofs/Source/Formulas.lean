import BlockText.Proofs.Render.Bare
import BlockText.Proofs.Source.Lexemes
import BlockText.Source.Grammar.Expr

/-!
# Formulas

A formula is an expression of names and decimal numbers, made with operators, conditions, anonymous
functions, `await`, tuples, lists, calls, attributes and subscripts.  Its words are those of its
text: an operand that binds less strongly than its place requires stands in parentheses.
-/

namespace BlockText.Syntax

/-- A name that is reserved nowhere. -/
structure IsFreeName (n : String) : Prop where
  isName : Source.isName n.toList = true
  not_keyword : n ∉ Source.keywords
  not_softKeyword : n ∉ Source.Grammar.softKeywords

/-- A parameter that is a name only. -/
def Param.IsBareName (p : Param Expr) : Prop :=
  (∃ n, p.name = .text n ∧ IsFreeName n) ∧ p.hint = none ∧ p.preset = none ∧ p.kind = .normal

namespace Expr

/-- The expression is a number. -/
def IsNumber : Expr → Prop
  | .literal .. => True
  | _ => False

/-- The expression is a formula. -/
inductive IsFormula : Expr → Prop
  | identifier {n : String} {i : Info} (name : IsFreeName n) : IsFormula (.identifier (.text n) i)
  | number {n : String} {i : Info} (decimal : Source.isDecimal n.toList = true)
    (short : Source.Grammar.isOverlong n.toList = false) :
    IsFormula (.literal .number (.text n) .null i)
  | binary {l r : Expr} {op : BinaryOp} {i : Info} (left : IsFormula l) (right : IsFormula r) :
    IsFormula (.binary l op r i)
  | unary {e : Expr} {op : UnaryOp} {i : Info} (operand : IsFormula e) : IsFormula (.unary op e i)
  | boolOp {op : BoolOp} {es : List Expr} {i : Info} (several : 2 ≤ es.length)
    (values : ∀ e ∈ es, IsFormula e) : IsFormula (.boolOp op es i)
  | compare {l : Expr} {ops : List CompareOp} {es : List Expr} {i : Info} (some : ops ≠ [])
    (each : ops.length = es.length) (left : IsFormula l) (others : ∀ e ∈ es, IsFormula e) :
    IsFormula (.compare l ops es i)
  | conditional {t b e : Expr} {i : Info} (test : IsFormula t) (body : IsFormula b)
    (orelse : IsFormula e) : IsFormula (.conditional t b e i)
  | lambda {ps : List (Param Expr)} {e : Expr} {i : Info} (params : ∀ p ∈ ps, p.IsBareName)
    (body : IsFormula e) : IsFormula (.lambda ps e i)
  | await {e : Expr} {i : Info} (operand : IsFormula e) : IsFormula (.await e i)
  | tuple {es : List Expr} {i : Info} (elements : ∀ e ∈ es, IsFormula e) : IsFormula (.tuple es i)
  | list {es : List Expr} {i : Info} (elements : ∀ e ∈ es, IsFormula e) : IsFormula (.list es i)
  | call {f : Expr} {es : List Expr} {i : Info} (func : IsFormula f)
    (args : ∀ e ∈ es, IsFormula e) : IsFormula (.call f es [] i)
  | attributed {e : Expr} {n : String} {i : Info} (notNumber : ¬ e.IsNumber) (value : IsFormula e)
    (name : IsFreeName n) : IsFormula (.attribute e (.text n) i)
  | subscript {e index : Expr} {i : Info} (value : IsFormula e) (place : IsFormula index) :
    IsFormula (.subscript e index i)

end Expr

/-- A name in its normal form. -/
def normalizedName : Datum → Datum
  | .text n => .text (Text.normalForm n)
  | d => d

/-- A parameter with its name in normal form. -/
def Param.normalized (p : Param Expr) : Param Expr := { p with name := normalizedName p.name }

namespace Expr

mutual

/-- A formula with its names in normal form. -/
def normalized : Expr → Expr
  | .identifier d i => .identifier (normalizedName d) i
  | .binary l op r i => .binary (normalized l) op (normalized r) i
  | .unary op e i => .unary op (normalized e) i
  | .boolOp op es i => .boolOp op (normalizedEach es) i
  | .compare l ops es i => .compare (normalized l) ops (normalizedEach es) i
  | .conditional t b e i => .conditional (normalized t) (normalized b) (normalized e) i
  | .lambda ps e i => .lambda (ps.map Param.normalized) (normalized e) i
  | .await e i => .await (normalized e) i
  | .tuple es i => .tuple (normalizedEach es) i
  | .list es i => .list (normalizedEach es) i
  | .call f es ks i => .call (normalized f) (normalizedEach es) ks i
  | .attribute e d i => .attribute (normalized e) (normalizedName d) i
  | .subscript e index i => .subscript (normalized e) (normalized index) i
  | e => e

/-- Formulas with their names in normal form. -/
def normalizedEach : List Expr → List Expr
  | [] => []
  | e :: rest => normalized e :: normalizedEach rest

end

attribute [simp] normalized normalizedEach

/-- A literal has no names. -/
lemma normalized_literal (kind : LiteralKind) (raw value : Datum) (i : Info) :
    normalized (.literal kind raw value i) = .literal kind raw value i := by
  simp

end Expr

end BlockText.Syntax

namespace BlockText.Source

open Syntax Render

/-! ## Levels -/

/-- The level of the grammar that reads an expression. -/
def level (e : Syntax.Expr) : ℕ := (strength e).toNat

/-- The level of the grammar that reads a binary operation. -/
def binaryLevel (op : BinaryOp) : ℕ := (binaryStrength op).toNat

/-- The levels of the operands of a binary operator. -/
def sideLevels : BinaryOp → ℕ × ℕ
  | .pow => (14, 12)
  | op => (binaryLevel op, binaryLevel op + 1)

/-- The level of the operand of a unary operator. -/
def unaryLevel (op : UnaryOp) : ℕ := (unaryOpStrength op).toNat

/-- The level of a chain of a short-circuit operator. -/
def boolLevel (op : BoolOp) : ℕ := (boolStrength op).toNat

section Levels

variable {l r e : Syntax.Expr} {es : List Syntax.Expr} {i : Info}

@[simp] lemma level_identifier (d : Datum) : level (.identifier d i) = 16 := rfl

@[simp] lemma level_literal (kind : LiteralKind) (raw value : Datum) :
    level (.literal kind raw value i) = 16 := rfl

@[simp] lemma level_binary (op : BinaryOp) : level (.binary l op r i) = binaryLevel op := rfl

@[simp] lemma level_unary (op : UnaryOp) : level (.unary op e i) = unaryLevel op := rfl

@[simp] lemma level_boolOp (op : BoolOp) : level (.boolOp op es i) = boolLevel op := rfl

@[simp] lemma level_compare (ops : List CompareOp) : level (.compare l ops es i) = 5 := rfl

@[simp] lemma level_conditional : level (.conditional l r e i) = 1 := rfl

@[simp] lemma level_lambda (ps : List (Param Syntax.Expr)) : level (.lambda ps e i) = 0 := rfl

@[simp] lemma level_await : level (.await e i) = 14 := rfl

@[simp] lemma level_tuple : level (.tuple es i) = 16 := rfl

@[simp] lemma level_list : level (.list es i) = 16 := rfl

@[simp] lemma level_call (ks : List (Keyword Syntax.Expr)) : level (.call e es ks i) = 15 := rfl

@[simp] lemma level_attribute (d : Datum) : level (.attribute e d i) = 15 := rfl

@[simp] lemma level_subscript : level (.subscript l r i) = 15 := rfl

end Levels

variable {e : Syntax.Expr}

/-- Binary operators bind more strongly than comparisons and less strongly than `await`. -/
lemma binaryStrength_bounds (op : BinaryOp) : 6 ≤ binaryStrength op ∧ binaryStrength op ≤ 13 := by
  cases op <;> decide

/-- Unary operators bind at least as strongly as negation. -/
lemma unaryOpStrength_bounds (op : UnaryOp) :
    4 ≤ unaryOpStrength op ∧ unaryOpStrength op ≤ 12 := by
  cases op <;> decide

/-- Short-circuit operators bind less strongly than negation. -/
lemma boolStrength_bounds (op : BoolOp) : 2 ≤ boolStrength op ∧ boolStrength op ≤ 3 := by
  cases op <;> decide

/-- Formulas have no negative strength. -/
lemma strength_nonneg (he : e.IsFormula) : 0 ≤ strength e := by
  cases he with
  | @binary l r op => exact Int.le_trans (by decide) (binaryStrength_bounds op).1
  | @unary e op => exact Int.le_trans (by decide) (unaryOpStrength_bounds op).1
  | @boolOp op => exact Int.le_trans (by decide) (boolStrength_bounds op).1
  | _ => simp [strength, compareStrength, conditionalStrength, lambdaStrength, awaitStrength,
      postfixStrength, atomStrength]

/-- An operand needs parentheses if its level is below that of its place. -/
lemma strength_lt_iff (he : e.IsFormula) (r : ℕ) : strength e < r ↔ level e < r := by
  have hpos := strength_nonneg he
  unfold level
  omega

/-! ## Words -/

/-- The words of a comparison operator. -/
def compareWords : CompareOp → List Word
  | .is => [.name "is"]
  | .isNot => [.name "is", .name "not"]
  | .isIn => [.name "in"]
  | .notIn => [.name "not", .name "in"]
  | op => [.op (Choice.spelling op)]

/-- The word of a unary operator. -/
def unaryWord : UnaryOp → Word
  | .not => .name "not"
  | op => .op (Choice.spelling op)

/-- The words of an operand in a place that requires a level. -/
def placed (e : Syntax.Expr) (required : ℕ) (ws : List Word) : List Word :=
  if level e < required then .op "(" :: ws ++ [.op ")"] else ws

/-- Words with a word between neighbours. -/
def joinWords (sep : Word) : List (List Word) → List Word
  | [] => []
  | ws :: rest => ws ++ rest.flatMap (sep :: ·)

/-- Words of items with commas between them; a single item keeps its comma. -/
def tupleWords : List (List Word) → List Word
  | [ws] => ws ++ [.op ","]
  | wss => joinWords (.op ",") wss

/-- The word of a parameter. -/
def paramWords (p : Param Syntax.Expr) : List Word :=
  match p.name with
  | .text n => [.name n]
  | _ => []

mutual

/-- The words of a formula without outer parentheses. -/
def words : Syntax.Expr → List Word
  | .identifier (.text n) _ => [.name n]
  | .literal _ (.text n) _ _ => [.number n]
  | .binary l op r _ =>
    placed l (sideLevels op).1 (words l) ++ .op (Choice.spelling op) ::
      placed r (sideLevels op).2 (words r)
  | .unary op e _ => unaryWord op :: placed e (unaryLevel op) (words e)
  | .boolOp op es _ =>
    joinWords (.name (Choice.spelling op)) (wordsEach (boolLevel op + 1) es)
  | .compare l ops es _ => placed l 6 (words l) ++ comparedWords ops es
  | .conditional t b e _ =>
    placed b 2 (words b) ++ .name "if" :: placed t 2 (words t) ++
      .name "else" :: placed e 1 (words e)
  | .lambda ps e _ =>
    .name "lambda" :: joinWords (.op ",") (ps.map paramWords) ++ .op ":" :: words e
  | .await e _ => .name "await" :: placed e 15 (words e)
  | .tuple es _ => .op "(" :: tupleWords (wordsEach 0 es) ++ [.op ")"]
  | .list es _ => .op "[" :: joinWords (.op ",") (wordsEach 0 es) ++ [.op "]"]
  | .call f es _ _ =>
    placed f 15 (words f) ++ .op "(" :: joinWords (.op ",") (wordsEach 0 es) ++ [.op ")"]
  | .attribute e (.text n) _ => placed e 15 (words e) ++ [.op ".", .name n]
  | .subscript e (.tuple (x :: xs) _) _ =>
    placed e 15 (words e) ++ .op "[" :: tupleWords (wordsEach 0 (x :: xs)) ++ [.op "]"]
  | .subscript e index _ => placed e 15 (words e) ++ .op "[" :: words index ++ [.op "]"]
  | _ => []

/-- The words of operands in places that require a level. -/
def wordsEach (required : ℕ) : List Syntax.Expr → List (List Word)
  | [] => []
  | e :: rest => placed e required (words e) :: wordsEach required rest

/-- The words of the operators of a comparison, each with the operand after it. -/
def comparedWords : List CompareOp → List Syntax.Expr → List Word
  | op :: ops, e :: es => compareWords op ++ placed e 6 (words e) ++ comparedWords ops es
  | _, _ => []

end

/-- The words of a formula in the place of a statement. -/
def lineWords : Syntax.Expr → List Word
  | .tuple (x :: xs) _ => tupleWords (wordsEach 0 (x :: xs))
  | e => words e

/-- Each operand has its words, in parentheses where it needs them. -/
lemma wordsEach_eq_map (required : ℕ) (es : List Syntax.Expr) :
    wordsEach required es = es.map fun e => placed e required (words e) := by
  induction es with
  | nil => rw [wordsEach, List.map_nil]
  | cons e rest ih => rw [wordsEach, List.map_cons, ih]

/-- An index has the words of a line between its brackets. -/
lemma words_subscript (e index : Syntax.Expr) (i : Info) :
    words (.subscript e index i) =
      placed e 15 (words e) ++ .op "[" :: lineWords index ++ [.op "]"] := by
  unfold lineWords
  split
  · rw [words]
  · next hnot =>
    rw [words]
    exact hnot

/-- On a line only tuples have other words than elsewhere. -/
lemma lineWords_of_not (h : ¬ IsFilledTuple e) : lineWords e = words e := by
  unfold lineWords
  split
  · exact absurd ⟨_, _, _, rfl⟩ h
  · rfl

/-- The words on a line are words of the formula. -/
lemma mem_words_of_mem_lineWords {w : Word} (h : w ∈ lineWords e) : w ∈ words e := by
  unfold lineWords at h
  split at h
  · rw [words]
    simp [h]
  · exact h

/-- An operand that binds strongly enough stands without parentheses. -/
lemma placed_of_le {required : ℕ} (h : required ≤ level e) (ws : List Word) :
    placed e required ws = ws := if_neg (by omega)

/-- An operand that binds too weakly stands in parentheses. -/
lemma placed_of_lt {required : ℕ} (h : level e < required) (ws : List Word) :
    placed e required ws = .op "(" :: ws ++ [.op ")"] := if_pos h

/-- Where nothing is required no parentheses are needed. -/
@[simp] lemma placed_zero (e : Syntax.Expr) (ws : List Word) : placed e 0 ws = ws :=
  placed_of_le (Nat.zero_le _) ws

/-! ## Spoken words -/

/-- The operators in formulas. -/
def formulaOperators : List String :=
  ["+", "-", "*", "/", "//", "%", "**", "@", "<<", ">>", "&", "|", "^", "~", "==", "!=", "<", "<=",
   ">", ">=", "(", ")", "[", "]", ",", ".", ":"]

/-- The word is a name, a decimal number or an operator that formulas have. -/
def Word.Spoken (w : Word) : Prop :=
  (w.kind = .name ∧ isName w.text.toList = true) ∨
    (w.kind = .number ∧ isDecimal w.text.toList = true) ∨
    (w.kind = .operator ∧ w.text ∈ formulaOperators)

/-- A name is spoken. -/
lemma Word.spoken_name {n : String} (h : isName n.toList = true) : (Word.name n).Spoken :=
  .inl ⟨rfl, h⟩

/-- An operator of formulas is spoken. -/
lemma Word.spoken_op {o : String} (h : o ∈ formulaOperators) : (Word.op o).Spoken :=
  .inr (.inr ⟨rfl, h⟩)

/-- Parentheses are spoken. -/
lemma spoken_placed {ws : List Word} (h : ∀ w ∈ ws, w.Spoken) (e : Syntax.Expr) (required : ℕ) :
    ∀ w ∈ placed e required ws, w.Spoken := by
  unfold placed
  split
  · have hopen : (Word.op "(").Spoken := Word.spoken_op (by decide)
    have hclose : (Word.op ")").Spoken := Word.spoken_op (by decide)
    simpa [or_imp, forall_and, hopen, hclose] using h
  · exact h

/-- Words with a spoken word between them are spoken. -/
lemma spoken_joinWords {sep : Word} (hsep : sep.Spoken) {wss : List (List Word)}
    (h : ∀ ws ∈ wss, ∀ w ∈ ws, w.Spoken) : ∀ w ∈ joinWords sep wss, w.Spoken := by
  cases wss with
  | nil => simp [joinWords]
  | cons ws rest =>
    intro w hw
    rw [joinWords, List.mem_append, List.mem_flatMap] at hw
    rcases hw with hw | ⟨vs, hvs, hw⟩
    · exact h ws List.mem_cons_self w hw
    · rcases List.mem_cons.mp hw with rfl | hw
      · exact hsep
      · exact h vs (List.mem_cons_of_mem _ hvs) w hw

/-- The words of a tuple are spoken if those of its elements are. -/
lemma spoken_tupleWords {wss : List (List Word)} (h : ∀ ws ∈ wss, ∀ w ∈ ws, w.Spoken) :
    ∀ w ∈ tupleWords wss, w.Spoken := by
  have hcomma : (Word.op ",").Spoken := Word.spoken_op (by decide)
  unfold tupleWords
  split
  · simpa [or_imp, forall_and, hcomma] using h
  · exact spoken_joinWords hcomma h

/-- The words of operands are spoken if those of the formulas are. -/
lemma spoken_wordsEach {es : List Syntax.Expr} (h : ∀ e ∈ es, ∀ w ∈ words e, w.Spoken)
    (required : ℕ) : ∀ ws ∈ wordsEach required es, ∀ w ∈ ws, w.Spoken := by
  rw [wordsEach_eq_map]
  intro ws hws
  obtain ⟨e, he, rfl⟩ := List.mem_map.mp hws
  exact spoken_placed (h e he) e required

/-- Comparison operators are spoken. -/
lemma spoken_compareWords (op : CompareOp) : ∀ w ∈ compareWords op, w.Spoken := by
  intro w hw
  have hname : ∀ n ∈ ["is", "not", "in"], (Word.name n).Spoken := fun n hn =>
    Word.spoken_name (by revert n; decide)
  cases op <;> simp only [compareWords, List.mem_cons, List.not_mem_nil, or_false] at hw
  case isNot | notIn =>
    rcases hw with rfl | rfl <;> exact hname _ (by decide)
  case is | isIn =>
    subst hw
    exact hname _ (by decide)
  all_goals
    subst hw
    exact Word.spoken_op (by decide)

/-- The words behind a first operand are spoken if those of the other operands are. -/
lemma spoken_comparedWords {es : List Syntax.Expr} (h : ∀ e ∈ es, ∀ w ∈ words e, w.Spoken)
    (ops : List CompareOp) : ∀ w ∈ comparedWords ops es, w.Spoken := by
  induction es generalizing ops with
  | nil => cases ops <;> simp [comparedWords]
  | cons e es ih =>
    cases ops with
    | nil => simp [comparedWords]
    | cons op ops =>
      intro w hw
      rw [comparedWords, List.mem_append, List.mem_append] at hw
      rcases hw with (hw | hw) | hw
      · exact spoken_compareWords op w hw
      · exact spoken_placed (h e List.mem_cons_self) e 6 w hw
      · exact ih (fun e' he' => h e' (List.mem_cons_of_mem _ he')) ops w hw

/-- The words of a formula are names, decimal numbers and operators. -/
theorem spoken_words (he : e.IsFormula) :
    ∀ w ∈ words e, w.Spoken := by
  have hname : ∀ n ∈ ["if", "else", "lambda", "await", "not", "and", "or"], (Word.name n).Spoken :=
    fun n hn => Word.spoken_name (by revert n; decide)
  have hop : ∀ o ∈ formulaOperators, (Word.op o).Spoken := fun o ho => Word.spoken_op ho
  induction he with
  | identifier hn =>
    intro w hw
    rw [words, List.mem_singleton] at hw
    exact hw ▸ Word.spoken_name hn.isName
  | number hn _ =>
    intro w hw
    rw [words, List.mem_singleton] at hw
    exact hw ▸ .inr (.inl ⟨rfl, hn⟩)
  | @binary l r op _ _ _ ihl ihr =>
    have hsign : (Word.op (Choice.spelling op)).Spoken := hop _ (by cases op <;> decide)
    simpa [words, or_imp, forall_and, hsign] using ⟨spoken_placed ihl l _, spoken_placed ihr r _⟩
  | @unary e op _ _ ih =>
    have hsign : (unaryWord op).Spoken := by
      cases op with
      | not => exact hname _ (by decide)
      | _ => exact hop _ (by decide)
    simpa [words, hsign] using spoken_placed ih e _
  | @boolOp op es _ _ _ ih =>
    have hword : (Word.name (Choice.spelling op)).Spoken := hname _ (by cases op <;> decide)
    rw [words]
    exact spoken_joinWords hword (spoken_wordsEach ih _)
  | @compare l ops es _ _ _ _ _ ihl ih =>
    simpa [words, or_imp, forall_and] using ⟨spoken_placed ihl l 6, spoken_comparedWords ih ops⟩
  | @conditional t b e _ _ _ _ iht ihb ihe =>
    simpa [words, or_imp, forall_and, hname "if", hname "else"] using
      ⟨spoken_placed ihb b 2, spoken_placed iht t 2, spoken_placed ihe e 1⟩
  | @lambda ps e _ hps _ ih =>
    have hparams : ∀ ws ∈ ps.map paramWords, ∀ w ∈ ws, w.Spoken := by
      intro ws hws w hw
      obtain ⟨p, hp, rfl⟩ := List.mem_map.mp hws
      obtain ⟨⟨n, hn, hv⟩, -⟩ := hps p hp
      rw [paramWords, hn, List.mem_singleton] at hw
      exact hw ▸ Word.spoken_name hv.isName
    simpa [words, or_imp, forall_and, hname "lambda", hop ":" (by decide)] using
      ⟨spoken_joinWords (hop "," (by decide)) hparams, ih⟩
  | @await e _ _ ih =>
    simpa [words, hname "await"] using spoken_placed ih e 15
  | tuple _ ih =>
    simpa [words, or_imp, forall_and, hop "(" (by decide), hop ")" (by decide)] using
      spoken_tupleWords (spoken_wordsEach ih 0)
  | list _ ih =>
    simpa [words, or_imp, forall_and, hop "[" (by decide), hop "]" (by decide)] using
      spoken_joinWords (hop "," (by decide)) (spoken_wordsEach ih 0)
  | @call f es _ _ _ ihf ih =>
    simpa [words, or_imp, forall_and, hop "(" (by decide), hop ")" (by decide)] using
      ⟨spoken_placed ihf f 15, spoken_joinWords (hop "," (by decide)) (spoken_wordsEach ih 0)⟩
  | @attributed e n _ _ _ hn ih =>
    simpa [words, or_imp, forall_and, hop "." (by decide), Word.spoken_name hn.isName] using
      spoken_placed ih e 15
  | @subscript e index _ _ _ ihe ih =>
    rw [words_subscript]
    simpa [or_imp, forall_and, hop "[" (by decide), hop "]" (by decide)] using
      ⟨spoken_placed ihe e 15, fun w hw => ih w (mem_words_of_mem_lineWords hw)⟩

end BlockText.Source

import BlockText.Proofs.Text.Split
import BlockText.Source.Lexer
import BlockText.Source.Outline

/-!
# The nesting that indentation shows

Indentation alone tells how lines are nested. `Layout.read` follows the rule of indentation and
looks at nothing else: blank lines and lines that hold only a comment do not count, a line that is
further in than the lines before it opens the suite of the line above it, and a line that is further
out closes suites until it stands in a column in which a suite began.

A nesting can be laid out again, every suite one step further in than its line.  The main statement
is that reading takes back what was laid out (`read_eq_of_lines`), whatever blank lines and comments
stand in between.  The rule closes the suites at the end of a nesting only when the next line
comes, so the lemma about steps says which of them are still open (`exists_steps_lines`).
-/

namespace BlockText.Layout

/-! ## The rule of indentation -/

/-- A line with the lines of its suite. -/
inductive Nest
  | mk (line : String) (suite : List Nest)

/-- What a text is to the rule of indentation: lines, and where suites begin and end. -/
inductive Step
  | line (text : String)
  | indent
  | dedent
  deriving DecidableEq

/-- The column and the text of a line of code; nothing for a line without code. -/
def codeLine? (cs : List Char) : Option (ℕ × String) :=
  let blanks := cs.takeWhile Source.isSpacing
  match cs.drop blanks.length with
  | [] => none
  | c :: rest =>
    if c == '#' || c == '\r' then none
    else some (Source.outlineColumn blanks, String.ofList (c :: rest))

/-- The lines of code in a text. -/
def codeLines (text : String) : List (ℕ × String) :=
  (Text.splitAt '\n' text.toList).filterMap codeLine?

/-- The steps of lines of code, from the columns of the open suites on, innermost first; `none` for
a line that stands in none of the columns that it could stand in. -/
def steps : List ℕ → List (ℕ × String) → Option (List Step)
  | columns, [] => some (columns.map fun _ => .dedent)
  | columns, (column, text) :: rest =>
    if columns.head?.getD 0 < column then
      ([.indent, .line text] ++ ·) <$> steps (column :: columns) rest
    else
      match Source.closeOutlineIndents column columns with
      | none => none
      | some outer =>
        (List.replicate (columns.length - outer.length) .dedent ++ [.line text] ++ ·) <$>
          steps outer rest

/-- What is known from the end of a text up to a place in it: what follows in the suite of that
place, what follows in the suites around it, innermost first, and the suite that begins there, if
one does. -/
structure Following where
  here : List Nest
  around : List (List Nest)
  suite : Option (List Nest)

/-- What is known one step earlier. -/
def Following.before : Step → Following → Option Following
  | .line text, ⟨here, around, suite⟩ =>
    some ⟨.mk text (suite.getD []) :: here, around, none⟩
  | .indent, ⟨suite, here :: around, none⟩ => some ⟨here, around, some suite⟩
  | .dedent, ⟨here, around, none⟩ => some ⟨[], here :: around, none⟩
  | _, _ => none

/-- What follows in steps, read from their end. -/
def following : List Step → Option Following
  | [] => some ⟨[], [], none⟩
  | s :: rest => following rest >>= Following.before s

/-- The nesting of steps. -/
def nesting (steps : List Step) : Option (List Nest) :=
  match following steps with
  | some ⟨nests, [], none⟩ => some nests
  | _ => none

/-- The nesting of the lines of a text. -/
def read (text : String) : Option (List Nest) := steps [] (codeLines text) >>= nesting

/-! ## Nestings laid out -/

mutual

/-- The lines of a nested line at a depth, each suite `width` columns further in than its line. -/
def Nest.lines (width depth : ℕ) : Nest → List (ℕ × String)
  | .mk line suite => (width * depth, line) :: linesOf width (depth + 1) suite

/-- The lines of nested lines at a depth. -/
def linesOf (width depth : ℕ) : List Nest → List (ℕ × String)
  | [] => []
  | n :: rest => n.lines width depth ++ linesOf width depth rest

end

mutual

/-- The steps of a nested line: its suite, if it has one, begins after it and ends. -/
def Nest.steps : Nest → List Step
  | .mk line [] => [.line line]
  | .mk line (n :: suite) => [.line line, .indent] ++ (n.steps ++ stepsOf suite) ++ [.dedent]

/-- The steps of nested lines. -/
def stepsOf : List Nest → List Step
  | [] => []
  | n :: rest => n.steps ++ stepsOf rest

end

@[simp] lemma linesOf_nil (width depth : ℕ) : linesOf width depth [] = [] := by
  rw [linesOf]

lemma linesOf_cons (width depth : ℕ) (line : String) (suite rest : List Nest) :
    linesOf width depth (.mk line suite :: rest) =
      (width * depth, line) :: (linesOf width (depth + 1) suite ++ linesOf width depth rest) := by
  rw [linesOf, Nest.lines, List.cons_append]

lemma linesOf_append (width depth : ℕ) (ns ms : List Nest) :
    linesOf width depth (ns ++ ms) = linesOf width depth ns ++ linesOf width depth ms := by
  induction ns with
  | nil => rw [List.nil_append, linesOf_nil, List.nil_append]
  | cons n rest ih => rw [List.cons_append, linesOf, linesOf, ih, List.append_assoc]

@[simp] lemma stepsOf_nil : stepsOf [] = [] := by
  rw [stepsOf]

lemma stepsOf_append (ns ms : List Nest) : stepsOf (ns ++ ms) = stepsOf ns ++ stepsOf ms := by
  induction ns with
  | nil => rw [List.nil_append, stepsOf_nil, List.nil_append]
  | cons n rest ih => rw [List.cons_append, stepsOf, stepsOf, ih, List.append_assoc]

lemma stepsOf_cons_leaf (line : String) (rest : List Nest) :
    stepsOf (.mk line [] :: rest) = .line line :: stepsOf rest := by
  rw [stepsOf, Nest.steps, List.singleton_append]

lemma stepsOf_cons {suite : List Nest} (hsuite : suite ≠ []) (line : String) (rest : List Nest) :
    stepsOf (.mk line suite :: rest) =
      [.line line, .indent] ++ stepsOf suite ++ [.dedent] ++ stepsOf rest := by
  obtain ⟨n, others, rfl⟩ := List.exists_cons_of_ne_nil hsuite
  rw [stepsOf, stepsOf, Nest.steps]

/-! ## From steps to nestings -/

/-- What follows nested lines follows their steps. -/
lemma following_stepsOf (ns : List Nest) {rest : List Step} {here : List Nest}
    {around : List (List Nest)} (hrest : following rest = some ⟨here, around, none⟩) :
    following (stepsOf ns ++ rest) = some ⟨ns ++ here, around, none⟩ := by
  match ns with
  | [] => rwa [stepsOf_nil]
  | .mk line suite :: others =>
    have hothers := following_stepsOf others hrest
    by_cases hsuite : suite = []
    · subst hsuite
      rw [stepsOf_cons_leaf, List.cons_append, following, hothers]
      rfl
    · -- The suite is read before the line that it belongs to, from the end of the suite on.
      have hdedent : following (.dedent :: (stepsOf others ++ rest)) =
          some ⟨[], (others ++ here) :: around, none⟩ := by
        rw [following, hothers]
        rfl
      have hinner := following_stepsOf suite hdedent
      rw [List.append_nil] at hinner
      rw [stepsOf_cons hsuite]
      simp only [List.cons_append, List.nil_append, List.append_assoc]
      rw [following, following, hinner]
      rfl

/-- The nesting of the steps of nested lines. -/
lemma nesting_stepsOf (ns : List Nest) : nesting (stepsOf ns) = some ns := by
  have hend : following [] = some ⟨[], [], none⟩ := rfl
  have h := following_stepsOf ns hend
  rw [List.append_nil, List.append_nil] at h
  rw [nesting, h]

/-! ## From lines to steps -/

/-- The columns of the open suites at a depth, innermost first. -/
def columnsAt (width : ℕ) : ℕ → List ℕ
  | 0 => []
  | depth + 1 => width * (depth + 1) :: columnsAt width depth

@[simp] lemma length_columnsAt (width depth : ℕ) : (columnsAt width depth).length = depth := by
  induction depth with
  | zero => rfl
  | succ depth ih => rw [columnsAt, List.length_cons, ih]

lemma head_columnsAt (width depth : ℕ) : (columnsAt width depth).head?.getD 0 = width * depth := by
  cases depth with
  | zero => rfl
  | succ depth => rfl

/-- Suites close down to any depth. -/
lemma closeOutlineIndents_columnsAt {width : ℕ} (hwidth : 0 < width) (depth more : ℕ) :
    Source.closeOutlineIndents (width * depth) (columnsAt width (depth + more)) =
      some (columnsAt width depth) := by
  have hmem : ∀ d more, width * (d + 1) ∈ columnsAt width (d + 1 + more) := by
    intro d more
    induction more with
    | zero => exact List.mem_cons_self
    | succ more ih => exact List.mem_cons_of_mem _ ih
  induction more with
  | zero =>
    cases depth with
    | zero => rfl
    | succ depth => rw [Nat.add_zero, columnsAt, Source.closeOutlineIndents, if_neg (lt_irrefl _)]
  | succ more ih =>
    have hlt : width * depth < width * (depth + more + 1) :=
      Nat.mul_lt_mul_of_pos_left (by omega) hwidth
    have hfound : ((columnsAt width (depth + more)).contains (width * depth) ||
        width * depth == 0) = true := by
      rw [Bool.or_eq_true, List.contains_iff_mem, beq_iff_eq]
      cases depth with
      | zero => exact .inr rfl
      | succ d => exact .inl (hmem d more)
    rw [← Nat.add_assoc, columnsAt, Source.closeOutlineIndents, if_pos hlt, if_pos hfound, ih]

/-- The steps between a line at one depth and the next line at another one. -/
def shift (before after : ℕ) : List Step :=
  if before < after then [.indent] else List.replicate (before - after) .dedent

/-- A line that is at most one step further in than the line before it. -/
lemma steps_line {width : ℕ} (hwidth : 0 < width) {before after : ℕ} (h : after ≤ before + 1)
    (line : String) (rest : List (ℕ × String)) :
    steps (columnsAt width before) ((width * after, line) :: rest) =
      (shift before after ++ [.line line] ++ ·) <$> steps (columnsAt width after) rest := by
  rw [steps, head_columnsAt, shift]
  by_cases hlt : before < after
  · obtain rfl : after = before + 1 := by omega
    rw [if_pos (Nat.mul_lt_mul_of_pos_left hlt hwidth), if_pos hlt]
    rfl
  · obtain ⟨more, rfl⟩ := Nat.exists_eq_add_of_le (Nat.le_of_not_lt hlt)
    have hle : width * after ≤ width * (after + more) := Nat.mul_le_mul_left _ (Nat.le_add_right _ _)
    rw [if_neg (Nat.not_lt.mpr hle), if_neg hlt, closeOutlineIndents_columnsAt hwidth]
    simp only [length_columnsAt]

/-- Nested lines that are not empty are taken step by step, up to the end of the suites that their
last line is in. -/
lemma exists_steps_lines {width : ℕ} (hwidth : 0 < width) {ns : List Nest} (hns : ns ≠ [])
    (depth : ℕ) : ∃ front inner, stepsOf ns = front ++ List.replicate inner .dedent ∧
      ∀ before rest, depth ≤ before + 1 →
        steps (columnsAt width before) (linesOf width depth ns ++ rest) =
          (shift before depth ++ front ++ ·) <$> steps (columnsAt width (depth + inner)) rest := by
  match ns with
  | [] => exact absurd rfl hns
  | .mk line suite :: others =>
    -- The line with its suite first, and then what stands beside it.
    have hfirst : ∃ front inner, stepsOf [.mk line suite] = front ++ List.replicate inner .dedent ∧
        ∀ before rest, depth ≤ before + 1 →
          steps (columnsAt width before) (linesOf width depth [.mk line suite] ++ rest) =
            (shift before depth ++ front ++ ·) <$>
              steps (columnsAt width (depth + inner)) rest := by
      by_cases hsuite : suite = []
      · subst hsuite
        refine ⟨[.line line], 0, by rw [stepsOf_cons_leaf]; rfl, fun before rest h => ?_⟩
        rw [linesOf_cons, linesOf_nil, linesOf_nil]
        exact steps_line hwidth h line rest
      · obtain ⟨front, inner, hsteps, hlines⟩ := exists_steps_lines hwidth hsuite (depth + 1)
        refine ⟨[.line line, .indent] ++ front, inner + 1, ?_, fun before rest h => ?_⟩
        · rw [stepsOf_cons hsuite, hsteps, stepsOf_nil, List.append_nil, List.replicate_succ']
          simp only [List.append_assoc]
        · have hin : shift depth (depth + 1) = [.indent] := if_pos (Nat.lt_succ_self depth)
          rw [linesOf_cons, linesOf_nil, List.append_nil, List.cons_append,
            steps_line hwidth h, hlines depth rest le_rfl, hin, Nat.add_right_comm, Nat.add_assoc]
          simp only [Functor.map_map, List.append_assoc, List.cons_append, List.nil_append]
    by_cases hothers : others = []
    · subst hothers
      exact hfirst
    · obtain ⟨front, inner, hsteps, hlines⟩ := hfirst
      obtain ⟨front', inner', hsteps', hlines'⟩ := exists_steps_lines hwidth hothers depth
      refine ⟨front ++ List.replicate inner .dedent ++ front', inner', ?_, fun before rest h => ?_⟩
      · rw [← List.singleton_append, stepsOf_append, hsteps, hsteps']
        simp only [List.append_assoc]
      · have hback : shift (depth + inner) depth = List.replicate inner .dedent := by
          rw [shift, if_neg (by omega), Nat.add_sub_cancel_left]
        rw [← List.singleton_append, linesOf_append, List.append_assoc, hlines before _ h,
          hlines' (depth + inner) rest (by omega), hback]
        simp only [Functor.map_map, List.append_assoc]

/-- The steps of nested lines that are laid out. -/
lemma steps_linesOf {width : ℕ} (hwidth : 0 < width) (ns : List Nest) :
    steps [] (linesOf width 0 ns) = some (stepsOf ns) := by
  by_cases hns : ns = []
  · subst hns
    rw [linesOf_nil, stepsOf_nil]
    rfl
  · obtain ⟨front, inner, hsteps, hlines⟩ := exists_steps_lines hwidth hns 0
    have h := hlines 0 [] (Nat.zero_le _)
    have hshift : shift 0 0 = [] := rfl
    rw [List.append_nil, steps, hshift, List.map_const', length_columnsAt, Nat.zero_add] at h
    rw [hsteps]
    exact h

/-- Reading takes back what was laid out. -/
theorem read_eq_of_lines {width : ℕ} (hwidth : 0 < width) {ns : List Nest} {text : String}
    (htext : codeLines text = linesOf width 0 ns) : read text = some ns := by
  rw [read, htext, steps_linesOf hwidth]
  exact nesting_stepsOf ns

end BlockText.Layout

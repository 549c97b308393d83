import BlockText.Source.Token
import BlockText.Text.CharacterName

/-!
# Grammar rules

A rule reads tokens from a position on.  It succeeds, misses (another rule may be tried at the
same position) or stops with a complaint that nothing can undo.  Rules keep track of the furthest
token they have looked at, which is where a text that fits no rule is at fault.

A text that fits no rule is read a second time with diagnosis: rules then also look for frequent
mistakes and complain about them where they were made.
-/

namespace BlockText.Source

/-- What a rule reads. -/
structure Input where
  stream : TokenStream
  /-- Rules look for frequent mistakes. -/
  diagnose : Bool
  /-- Which characters have names. -/
  names : Text.CharacterNames

/-- A definite error. -/
structure Complaint where
  line : Nat
  /-- The characters form no token. -/
  isLexical : Bool

/-- The outcome of a rule; `far` is the furthest token looked at. -/
inductive Reply (α : Type)
  | done (value : α) (pos far : Nat)
  | miss (far : Nat)
  | stop (complaint : Complaint) (far : Nat)

/-- A rule: from the input, a position and the furthest token so far to an outcome. -/
def Rule (α : Type) := Input → Nat → Nat → Reply α

namespace Rule

variable {α β : Type}

instance : Monad Rule where
  pure a := fun _ pos far => .done a pos far
  bind p f := fun input pos far =>
    match p input pos far with
    | .done a pos far => f a input pos far
    | .miss far => .miss far
    | .stop c far => .stop c far

instance : Inhabited (Rule α) := ⟨fun _ _ far => .miss far⟩

/-- Misses. -/
def fail : Rule α := fun _ _ far => .miss far

/-- Stops with an error on a line. -/
def complain (line : Nat) : Rule α := fun _ _ far => .stop ⟨line, false⟩ far

/-- Tries a second rule where the first one misses. -/
def or (p q : Rule α) : Rule α := fun input pos far =>
  match p input pos far with
  | .miss far => q input pos far
  | reply => reply

instance : OrElse (Rule α) := ⟨fun p q => p.or (q ())⟩

/-- The current token. -/
def peek : Rule Token := fun input pos far =>
  let far := max far pos
  match input.stream.tokens[pos]? with
  | some t => .done t pos far
  | none =>
    match input.stream.failure with
    | some f => .stop ⟨f.line, true⟩ far
    | none => .miss far

/-- Moves to the next token. -/
def advance : Rule Unit := fun _ pos far => .done () (pos + 1) far

/-- The position. -/
def position : Rule Nat := fun _ pos far => .done pos pos far

/-- The furthest token looked at. -/
def furthest : Rule Nat := fun _ pos far => .done far pos far

/-- What is read. -/
def input : Rule Input := fun input pos far => .done input pos far

/-- Takes the current token if it satisfies a condition. -/
def take (p : Token → Bool) : Rule Token := do
  let t ← peek
  if p t then
    advance
    return t
  else fail

/-- Takes an operator. -/
def op (s : String) : Rule Token := take (·.isOp s)

/-- Takes an operator that must stand here: any other token is an error. -/
def require (s : String) : Rule Token := do
  let t ← peek
  if t.isOp s then
    advance
    return t
  else complain t.start.line

/-- Takes a word. -/
def word (s : String) : Rule Token := take (·.isWord s)

/-- The current token is this operator. -/
def atOp (s : String) : Rule Bool := do return (← peek).isOp s

/-- The current token is one of these operators. -/
def atOps (ops : List String) : Rule Bool := do
  let t ← peek
  return ops.any t.isOp

/-- The current token is this word. -/
def atWord (s : String) : Rule Bool := do return (← peek).isWord s

/-- The current token is of a kind. -/
def atKind (k : TokenKind) : Rule Bool := do return (← peek).kind == k

/-- Takes a token of a kind. -/
def kind (k : TokenKind) : Rule Token := take (·.kind == k)

/-- A rule, or nothing. -/
def optional (p : Rule α) : Rule (Option α) := (some <$> p).or (pure none)

/-- Takes an operator if it is there. -/
def tryOp (s : String) : Rule Bool := do
  if ← atOp s then
    advance
    return true
  else return false

/-- Takes a word if it is there. -/
def tryWord (s : String) : Rule Bool := do
  if ← atWord s then
    advance
    return true
  else return false

/-- The outcome of a rule without moving. -/
def ahead (p : Rule α) : Rule Bool := fun input pos far =>
  match p input pos far with
  | .done _ _ far => .done true pos far
  | .miss far => .done false pos far
  | .stop c far => .stop c far

/-- Applies a rule as often as it succeeds, at most `fuel` times. -/
def repeatUpTo (p : Rule α) : Nat → Rule (List α)
  | 0 => pure []
  | fuel + 1 => do
    match ← optional p with
    | none => return []
    | some a => return a :: (← repeatUpTo p fuel)

/-- More steps than tokens are left. -/
def tokensLeft : Rule Nat := fun input pos far =>
  .done (input.stream.tokens.size + 1 - pos) pos far

/-- Applies a rule as often as it succeeds; it must take tokens. -/
def many (p : Rule α) : Rule (List α) := do repeatUpTo p (← tokensLeft)

/-- Applies a rule once or more. -/
def many1 (p : Rule α) : Rule (List α) := do
  let first ← p
  return first :: (← many p)

/-- Continues a value as long as a rule succeeds, at most `fuel` times. -/
def extendUpTo (step : α → Rule α) : Nat → α → Rule α
  | 0, a => pure a
  | fuel + 1, a => do
    match ← optional (step a) with
    | none => return a
    | some a => extendUpTo step fuel a

/-- Continues a value as long as a rule succeeds; it must take tokens. -/
def extend (step : α → Rule α) (a : α) : Rule α := do extendUpTo step (← tokensLeft) a

/-- One or more, with an operator between neighbours. -/
def separated (p : Rule α) (sep : String) : Rule (List α) := do
  let first ← p
  return first :: (← many (do discard (op sep); p))

/-- The start of the current token. -/
def start : Rule Mark := do return (← peek).start

/-- The end of the last token before a position that is more than layout. -/
def stopBefore (tokens : Array Token) : Nat → Mark
  | 0 => default
  | pos + 1 =>
    match tokens[pos]? with
    | some t => if t.isLayout then stopBefore tokens pos else t.stop
    | none => stopBefore tokens pos

/-- From a mark to the end of what was read. -/
def rangeFrom (start : Mark) : Rule Range := fun input pos far =>
  .done ⟨start, stopBefore input.stream.tokens pos⟩ pos far

/-- With diagnosis, looks for a mistake without moving. -/
def diagnosing (p : Rule Unit) : Rule Unit := fun input pos far =>
  if input.diagnose then
    match p input pos far with
    | .stop c far => .stop c far
    | .done _ _ far | .miss far => .done () pos far
  else .done () pos far

/-- A rule without diagnosis. -/
def undiagnosed (p : Rule α) : Rule α := fun input pos far =>
  p { input with diagnose := false } pos far

end Rule

/-- The line that a text is finally faulted for: a lexical error further on takes precedence, and
so does a bracket left open on an earlier line than the token looked at last. -/
def finalLine (stream : TokenStream) (c : Complaint) (far : Nat) : Nat :=
  if c.isLexical then c.line
  else
    match stream.failure with
    | none => c.line
    | some f =>
      if f.isOwnError then f.line
      else
        match f.openLine, stream.tokens[far]? with
        | some opened, some t => if t.start.line > opened then opened else c.line
        | some opened, none => if f.line > opened then opened else c.line
        | none, _ => c.line

/-- The line of a text that fits no rule: that of the furthest token.  Diagnosis may have looked
at a later one. -/
def missLine (stream : TokenStream) (far later : Nat) : Nat :=
  match stream.tokens[far]? with
  | some t =>
    match t.kind with
    | .indent | .dedent => ((stream.tokens[later]?).getD t).start.line
    | _ => finalLine stream ⟨t.start.line, false⟩ later
  | none => (stream.failure.map (·.line)).getD 1

/-- Applies a rule to a stream: its value, or the line of the error. -/
def Rule.run {α : Type} (rule : Rule α) (names : Text.CharacterNames) (stream : TokenStream) :
    Except Nat α :=
  match rule ⟨stream, false, names⟩ 0 0 with
  | .done a _ _ => .ok a
  | .stop c far => .error (finalLine stream c far)
  | .miss far =>
    match rule ⟨stream, true, names⟩ 0 far with
    | .stop c later => .error (finalLine stream c later)
    | .miss later => .error (missLine stream far later)
    | .done _ _ later => .error (missLine stream far later)

end BlockText.Source

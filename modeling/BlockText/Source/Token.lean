import BlockText.Source.Mark

/-!
# Tokens of the grammar

A token has a kind, its text and its place.  Indentation shows as tokens of its own.  Where no
token can be read the stream ends in a failure.
-/

namespace BlockText.Source

/-- What a token is. -/
inductive TokenKind
  | name
  | number
  | string
  | operator
  | newline
  | indent
  | dedent
  | endMarker
  deriving DecidableEq

/-- A token.  `level` counts the brackets that are open after it. -/
structure Token where
  kind : TokenKind
  text : String
  start : Mark
  stop : Mark
  level : Nat

/-- Why no further token can be read. -/
structure LexFailure where
  /-- The line to report when the grammar needs the token. -/
  line : Nat
  /-- The failure is an error of its own, also when the grammar has failed before it. -/
  isOwnError : Bool
  /-- The line of the innermost open bracket. -/
  openLine : Option Nat

/-- A stream of tokens. -/
structure TokenStream where
  tokens : Array Token
  failure : Option LexFailure

/-- Names that the grammar reserves. -/
def keywords : List String :=
  ["False", "None", "True", "and", "as", "assert", "async", "await", "break", "class", "continue",
   "def", "del", "elif", "else", "except", "finally", "for", "from", "global", "if", "import",
   "in", "is", "lambda", "nonlocal", "not", "or", "pass", "raise", "return", "try", "while",
   "with", "yield"]

namespace Token

/-- The token is a name that the grammar does not reserve. -/
def isIdentifier (t : Token) : Bool := t.kind == .name && !keywords.contains t.text

/-- The token is this reserved or special name. -/
def isWord (t : Token) (word : String) : Bool := t.kind == .name && t.text == word

/-- The token is this operator. -/
def isOp (t : Token) (op : String) : Bool := t.kind == .operator && t.text == op

/-- The token shows layout only. -/
def isLayout (t : Token) : Bool :=
  match t.kind with
  | .newline | .indent | .dedent | .endMarker => true
  | _ => false

end Token

end BlockText.Source

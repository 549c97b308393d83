import BlockText.Render.Program
import BlockText.Source.Reading

/-!
# The language behind a session

A service reads texts and writes programs.  It may fail in any way; what is shown of a failure is
its text, or its name if it has none.
-/

namespace BlockText

open Syntax

/-- Why a service gives no answer. -/
inductive ServiceError
  /-- The text is no program. -/
  | rejected (error : ParseError)
  /-- Anything else. -/
  | failed (name text : String)

namespace ServiceError

/-- The text of a failure to read. -/
def readingMessage : ServiceError → String
  | rejected e => e.text
  | failed name text => if text.isEmpty then name else text

/-- The text of a failure to write. -/
def writingMessage : ServiceError → String
  | rejected e => if e.text.isEmpty then "ParseError" else e.text
  | failed name text => if text.isEmpty then name else text

/-- A fault as the failure of a service. -/
def ofFault (f : Fault) : ServiceError :=
  match f.category with
  | .value => failed "ValueError" f.message
  | .key => failed "KeyError" f.message
  | .type => failed "TypeError" f.message
  | .attribute => failed "AttributeError" f.message

end ServiceError

/-- Reads texts and writes programs. -/
structure LanguageService where
  parse : String → Except ServiceError Program
  generate : Program → Render.Mode → Except ServiceError String

namespace LanguageService

/-- Reads a text; a null character is not an error of the text but a failure. -/
def read (indentWidth : Int) (names : Text.CharacterNames) (source : String) :
    Except ServiceError Program :=
  match Program.ofSource source indentWidth names with
  | .ok p => .ok p
  | .error e =>
    if e.kind == .nullCharacter then .error (.failed "ValueError" e.message)
    else .error (.rejected e)

/-- Writes a program. -/
def write (p : Program) (mode : Render.Mode) : Except ServiceError String :=
  match p.render mode with
  | .ok text => .ok text
  | .error (.fault f) => .error (.ofFault f)
  | .error e => .error (.failed "GenerationError" e.message)

/-- The service that does the work itself. -/
def direct (indentWidth : Int) (names : Text.CharacterNames := Text.named?) : LanguageService where
  parse := read indentWidth names
  generate := write

end LanguageService

end BlockText

import BlockText.Render.Program
import BlockText.Text.Case
import BlockText.Text.Literal

/-!
# Settings

The settings of an editing session, and how they are read from environment variables.
-/

namespace BlockText

open Syntax

/-- The settings of a session. -/
structure Settings where
  /-- How long typing must rest before the text is read. -/
  textDelay : Int := 400
  /-- How long block changes must rest before they are written; zero means at once. -/
  graphDelay : Int := 0
  /-- Block changes that arrive while busy are remembered instead of dropped. -/
  coalesceGraph : Bool := false
  indentWidth : Int := 4
  mode : Render.Mode := .lossless
  logLevel : String := "INFO"
  host : String := "0.0.0.0"
  port : Int := 3001

namespace Settings

/-- Why environment variables are no settings. -/
inductive EnvError
  | notInteger (key raw : String)
  | tooSmall (key : String) (minimum value : Int)
  | notTruth (key raw : String)
  | notMode (key shown : String)

/-- The wording of an error. -/
def EnvError.message : EnvError → String
  | notInteger key raw => key ++ " must be an integer, got " ++ Text.quoted raw
  | tooSmall key minimum value => s!"{key} must be >= {minimum}, got {value}"
  | notTruth key raw => key ++ " must be a boolean, got " ++ Text.quoted raw
  | notMode key shown => key ++ " must be 'lossless' or 'pretty', got " ++ Text.quoted shown

/-- Environment variables: names and values. -/
abbrev Env := List (String × String)

/-- The name of the variable for a setting. -/
def envName (name : String) : String := "BLOCKSYNC_" ++ name

/-- An integer setting; a blank value counts as none. -/
def integerFrom (env : Env) (name : String) (default : Int) (minimum : Int := 0) :
    Except EnvError Int :=
  match entryAt? env (envName name) with
  | none => .ok default
  | some raw =>
    if (Text.trim raw).isEmpty then .ok default
    else
      match Text.readInteger? raw with
      | none => .error (.notInteger (envName name) raw)
      | some n => if n < minimum then .error (.tooSmall (envName name) minimum n) else .ok n

/-- Spellings of yes. -/
def trueWords : List String := ["1", "true", "yes", "on"]

/-- Spellings of no. -/
def falseWords : List String := ["0", "false", "no", "off", ""]

/-- A setting that is on or off. -/
def truthFrom (env : Env) (name : String) (default : Bool) : Except EnvError Bool :=
  match entryAt? env (envName name) with
  | none => .ok default
  | some raw =>
    let word := Text.lower (Text.trim raw)
    if trueWords.contains word then .ok true
    else if falseWords.contains word then .ok false
    else .error (.notTruth (envName name) raw)

/-- The wanted text of programs. -/
def modeFrom (env : Env) (default : Render.Mode) : Except EnvError Render.Mode :=
  match entryAt? env (envName "RENDER_MODE") with
  | none => .ok default
  | some raw =>
    let word := Text.lower (Text.trim raw)
    match Choice.ofSpelling? Render.Mode word with
    | some mode => .ok mode
    | none => .error (.notMode (envName "RENDER_MODE") word)

/-- The settings that environment variables describe. -/
def ofEnv (env : Env) : Except EnvError Settings := do
  let defaults : Settings := {}
  let mode ← modeFrom env defaults.mode
  let textDelay ← integerFrom env "TEXT_DEBOUNCE_MS" defaults.textDelay
  let graphDelay ← integerFrom env "GRAPH_DEBOUNCE_MS" defaults.graphDelay
  let coalesceGraph ← truthFrom env "COALESCE_GRAPH_SYNC" defaults.coalesceGraph
  let indentWidth ← integerFrom env "INDENT_WIDTH" defaults.indentWidth 1
  let level := (entryAt? env (envName "LOG_LEVEL")).getD defaults.logLevel
  let port ← integerFrom env "PORT" defaults.port 1
  return {
    textDelay, graphDelay, coalesceGraph, indentWidth, mode, port
    logLevel := Text.upper (Text.trim level)
    host := (entryAt? env (envName "HOST")).getD defaults.host }

end Settings

end BlockText

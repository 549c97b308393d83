import BlockText.Api.Body
import BlockText.Sync.Session
import BlockText.Workspace.Snapshot

/-!
# Requests and replies

What a client can ask of a session, and how it is answered: with content, or with the reason why
the request is refused.
-/

namespace BlockText

open Syntax

/-- A request of a client. -/
inductive ClientRequest
  | parse (source : String)
  | generate (program : Datum) (mode : Option String)
  | readGraph
  | readText
  | writeText (text : String)
  | flush
  | select (block : Option BlockId)
  | create (type : String) (position : Option (List (String × Decimal)))
  | delete (block : BlockId)
  | connect (parent : BlockId) (slot : String) (child : BlockId)
  | disconnect (block : BlockId)
  | setField (block : BlockId) (name : String) (value : Datum)
  | setPosition (block : BlockId) (spot : Point)

/-- The request with a name; nothing if its body is not as it should be. -/
def ClientRequest.read? (route : String) (block name : String) (body : Datum) :
    Option ClientRequest :=
  match route, body with
  | "get_session_graph", _ => some .readGraph
  | "get_session_text", _ => some .readText
  | "flush_session", _ => some .flush
  | "delete_node", _ => some (.delete block)
  | _, .object _ =>
    match route with
    | "parse" => (Body.text? body "source").map .parse
    | "generate" => do
      return .generate (← Body.object? body "program") (← Body.optionalText? body "mode")
    | "set_session_text" => (Body.text? body "text").map .writeText
    | "select_node" => (Body.optionalText? body "nodeId").map .select
    | "create_node" => do
      return .create (← Body.text? body "type") (← Body.optionalNumbers? body "position")
    | "connect" => do
      return .connect (← Body.text? body "parentId") (← Body.text? body "slot")
        (← Body.text? body "childId")
    | "disconnect" => (Body.text? body "nodeId").map .disconnect
    | "set_field" => (body.get? "value").map (.setField block name)
    | "set_position" => do
      return .setPosition block ⟨← Body.number? body "x", ← Body.number? body "y"⟩
    | _ => none
  | _, _ => none

/-- What goes wrong behind a request without being its fault. -/
inductive Crash
  | edit (error : WorkspaceError)
  | service (error : ServiceError)

/-- The answer to a request. -/
inductive Reply
  | content (status : Nat) (body : Datum)
  | noContent
  | refused (status : Nat) (detail : Datum)
  | invalid
  | crashed (crash : Crash)

namespace Reply

/-- An answer that only says that all is well. -/
def fine (status : Nat := 200) : Reply := .content status (.object [("ok", .bool true)])

/-- An error message and the line it is about. -/
def problem (message : String) (line : Option Int) : Reply :=
  .refused 422 (.object [("error", .text message), ("line", SyncEvent.optional line)])

/-- There is no such block. -/
def missing : Reply := .refused 404 "Node not found"

end Reply

/-- Whose fault an error of the workspace is. -/
inductive Blame
  /-- A block does not exist. -/
  | lookup
  /-- A value is not as it should be. -/
  | value
  | other
  deriving DecidableEq

/-- Whose fault an error of the workspace is. -/
def WorkspaceError.blame : WorkspaceError → Blame
  | notFound _ => .lookup
  | noBlock _ _ => .other
  | fault f =>
    match f.category with
    | .value => .value
    | .key => .lookup
    | .type | .attribute => .other
  | _ => .value

namespace Session

/-- Answers with what an edit gives; some errors are the fault of the request. -/
def serveEdit {α : Type} (x : Edit α) (good : α → Reply) (bad : WorkspaceError → Option Reply)
    (s : Session) : Reply × Session :=
  match s.edit x with
  | (.ok a, s) => (good a, s)
  | (.error e, s) => ((bad e).getD (.crashed (.edit e)), s)

/-- A missing block is the fault of the request. -/
def orMissing (e : WorkspaceError) : Option Reply :=
  if e.blame == .lookup then some .missing else none

/-- A bad value is the fault of the request. -/
def orBad (e : WorkspaceError) : Option Reply :=
  if e.blame == .value then some (.refused 400 (.text e.message)) else none

/-- Reads a text for a client. -/
def serveParse (source : String) (s : Session) : Reply :=
  match s.language.parse source with
  | .ok p => .content 200 p.toDatum
  | .error (.rejected e) => .problem e.text e.line
  | .error e => .crashed (.service e)

/-- Writes the program of a document for a client. -/
def generateFrom (document : Datum) (mode : Render.Mode) (s : Session) : Reply :=
  match Datum.ofPlain document with
  | .error f =>
    if f.category == .attribute then .crashed (.service (.ofFault f))
    else .refused 422 (.text ("malformed program: " ++ f.message))
  | .ok d =>
    match Program.ofDatum? d with
    | none => .crashed (.service (.failed "AttributeError" ""))
    | some p =>
      match s.language.generate p mode with
      | .ok text => .content 200 (.object [("text", .text text)])
      | .error (.failed "GenerationError" text) => .problem text (errorLine? text)
      | .error e => .crashed (.service e)

/-- Writes the program of a document in a mode that is given by its name. -/
def serveGenerate (document : Datum) (mode : Option String) (s : Session) : Reply :=
  match mode.filter (!·.isEmpty) with
  | none => s.generateFrom document s.settings.mode
  | some name =>
    match choice? Render.Mode (.text name) with
    | some mode => s.generateFrom document mode
    | none => .refused 422 (.text ("unknown render mode " ++ Text.quoted name))

/-- Creates a block for a client.  A position needs both coordinates. -/
def serveCreate (type : String) (position : Option (List (String × Decimal))) (s : Session) :
    Reply × Session :=
  let entries := (position.filter (!·.isEmpty)).getD [("x", 0), ("y", 0)]
  match entryAt? entries "x", entryAt? entries "y" with
  | none, _ => (.refused 400 "'x'", s)
  | some _, none => (.refused 400 "'y'", s)
  | some x, some y =>
    s.serveEdit (Edit.createNamed type none ⟨x, y⟩)
      (fun id => .content 201 (.object [("id", .text id), ("type", .text type)]))
      fun e =>
        if e.blame == .other then none else some (.refused 400 (.text e.message))

/-- Connects two blocks at whatever slot has the name. -/
def connectAt (parent : BlockId) (slot : String) (child : BlockId) : Edit Edge := do
  let p ← Edit.require parent
  if slot == "next" || p.hasStatementSlot slot then Edit.connectStatement parent slot child
  else Edit.connectValue parent slot child

/-- Answers a request. -/
def serve (request : ClientRequest) (s : Session) : Reply × Session :=
  match request with
  | .parse source => (s.serveParse source, s)
  | .generate document mode => (s.serveGenerate document mode, s)
  | .readGraph => (.content 200 s.workspace.snapshot, s)
  | .readText => (.content 200 s.textState, s)
  | .writeText text => (.fine 202, s.setText text .user)
  | .flush =>
    let t := s.flush
    match t.failures.drop s.failures.length with
    | (_, e) :: _ => (.crashed (.edit e), t)
    | [] => (.content 200 t.textState, t)
  | .select block =>
    let (reply, s) := s.serveEdit (Edit.select block) (fun _ => .noContent) orMissing
    match reply with
    | .noContent => (.content 200 s.textState, s)
    | reply => (reply, s)
  | .create type position => s.serveCreate type position
  | .delete block => s.serveEdit (Edit.delete block) (fun _ => .noContent) orMissing
  | .connect parent slot child =>
    s.serveEdit (connectAt parent slot child) (fun _ => .fine) fun e =>
      if e.blame == .lookup then
        some (.refused 404 (.text ("Node not found: " ++ Text.quoted e.message)))
      else orBad e
  | .disconnect block => s.serveEdit (Edit.unplug block) (fun _ => .fine) orMissing
  | .setField block name value =>
    if s.workspace.has block then
      s.serveEdit (Edit.setField block name value) (fun _ => .noContent) orBad
    else (.missing, s)
  | .setPosition block spot => s.serveEdit (Edit.move block spot) (fun _ => .noContent) orMissing

end Session

end BlockText

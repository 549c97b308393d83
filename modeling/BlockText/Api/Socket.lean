import BlockText.Sync.Session

/-!
# Messages over a socket

Clients that stay connected send changes of the text and of the selection, and are told about
everything that happens.  A message that makes no sense is ignored.
-/

namespace BlockText

/-- A message of a client. -/
inductive ClientMessage
  | connect
  | disconnect
  | textChange (data : Datum)
  | select (data : Datum)

/-- The message with a name. -/
def ClientMessage.read? (name : String) (data : Datum) : Option ClientMessage :=
  match name with
  | "connect" => some .connect
  | "disconnect" => some .disconnect
  | "text_change" => some (.textChange data)
  | "select" => some (.select data)
  | _ => none

/-- A message to one client, or to all. -/
structure ServerMessage where
  name : String
  payload : Datum
  recipient : Option String := none

/-- The message about an event. -/
def ServerMessage.ofEvent (e : SyncEvent) : ServerMessage := ⟨"sync", e.toDatum, none⟩

namespace Session

/-- Selects a block if it exists. -/
def selectKnown (block : Option BlockId) (s : Session) : Session :=
  if block.all s.workspace.has then (s.edit (Edit.select block)).2 else s

/-- Receives a message of a client; what the client alone is told is the result. -/
def receive (client : String) (message : ClientMessage) (s : Session) :
    List ServerMessage × Session :=
  match message with
  | .connect => ([⟨"session", s.textState, some client⟩], s)
  | .disconnect => ([], s)
  | .textChange data =>
    match data.get? "text" with
    | some (.text text) => ([], s.setText text .user)
    | _ => ([], s)
  | .select data =>
    match (data.get? "nodeId").getD .null with
    | .null => ([], s.selectKnown none)
    | .text block => ([], s.selectKnown (some block))
    | _ => ([], s)

end Session

end BlockText

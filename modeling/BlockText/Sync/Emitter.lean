import BlockText.Datum.Basic

/-!
# Listeners

Events go to all listeners in the order in which they were registered.  A listener that is
registered twice is told twice, and one that fails does not keep the others from being told.
-/

namespace BlockText

/-- The registered listeners by name. -/
structure Emitter where
  listeners : List String := []
  deriving DecidableEq

namespace Emitter

/-- Registers a listener. -/
def on (e : Emitter) (name : String) : Emitter := ⟨e.listeners ++ [name]⟩

/-- Withdraws the first registration of a listener, if there is one. -/
def off (e : Emitter) (name : String) : Emitter := ⟨e.listeners.erase name⟩

/-- Who is told about an event, and what. -/
def fire (e : Emitter) (payload : Datum) : List (String × Datum) :=
  e.listeners.map (·, payload)

end Emitter

end BlockText

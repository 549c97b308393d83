import BlockText.Datum.Walk
import BlockText.Syntax.Info

/-!
# Fresh identities

A counter hands out identities for nodes that come from blocks.  Reconciling it with a document
moves it past every identity in the document, so that nodes from the text and nodes from blocks
never share one.
-/

namespace BlockText

/-- The counter: the identity that was handed out or seen last. -/
structure IdCounter where
  last : Int := 0
  deriving DecidableEq

namespace IdCounter

/-- The next identity and the counter after it. -/
def fresh (c : IdCounter) : Int × IdCounter :=
  (c.last + 1, ⟨c.last + 1⟩)

/-- Information that holds nothing but a fresh identity. -/
def freshInfo (c : IdCounter) : Syntax.Info × IdCounter :=
  let (id, c) := c.fresh
  ({ id }, c)

/-- The counter moved up to an identity, never back. -/
def advance (c : IdCounter) (seen : Int) : IdCounter :=
  if seen > c.last then ⟨seen⟩ else c

/-- The counter moved past every identity in a document. -/
def reconcile (c : IdCounter) (document : Datum) : Except Fault IdCounter := do
  return c.advance (← document.maxIdentity)

end IdCounter

end BlockText

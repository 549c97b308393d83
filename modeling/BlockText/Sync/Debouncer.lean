/-!
# Calls that settle

A debouncer passes a call on once no other has come for a while.  Time is counted in
milliseconds; a timer that is due fires at its own deadline.
-/

namespace BlockText

/-- A delay and, while its timer is armed, the deadline and what the last call passed. -/
structure Debouncer (α : Type) where
  delay : Nat
  armed : Option (Nat × α) := none

namespace Debouncer

variable {α : Type}

/-- A call has not been passed on yet. -/
def isPending (d : Debouncer α) : Bool := d.armed.isSome

/-- A call replaces the one before and starts the delay again. -/
def call (d : Debouncer α) (now : Nat) (a : α) : Debouncer α :=
  { d with armed := some (now + d.delay, a) }

/-- Forgets the last call. -/
def cancel (d : Debouncer α) : Debouncer α := { d with armed := none }

/-- Passes the last call on right away, if it is pending. -/
def flush (d : Debouncer α) : Option α × Debouncer α :=
  (d.armed.map (·.2), d.cancel)

/-- Passes the last call on if its deadline has come; the result has the deadline with it. -/
def expire (d : Debouncer α) (now : Nat) : Option (Nat × α) × Debouncer α :=
  match d.armed with
  | some (deadline, a) => if deadline ≤ now then (some (deadline, a), d.cancel) else (none, d)
  | none => (none, d)

end Debouncer

end BlockText

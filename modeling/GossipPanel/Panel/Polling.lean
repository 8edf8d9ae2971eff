/-!
# Polling the node

Tokens that keep exactly one polling chain alive.

* A tick carries a generation; while one is in flight no other starts.
* A timer carries a number; only the timer armed last may start a tick.
* A tick asked for while one is in flight is remembered and runs right after.
-/

namespace GossipPanel.Panel

/-- Whether the node can be reached. -/
inductive Connection where
  | connecting
  | connected
  | disconnected (reason : String)
  deriving DecidableEq, Repr

namespace Connection

/-- The last tick failed. -/
def isDisconnected : Connection → Bool
  | disconnected _ => true
  | _ => false

/-- The word shown for a connection. -/
def label : Connection → String
  | connecting => "connecting"
  | connected => "connected"
  | disconnected _ => "disconnected"

end Connection

/-- What happens after a failed tick. -/
inductive ReconnectPolicy where
  /-- Polling goes on. -/
  | auto
  /-- Polling waits for the user. -/
  | manual
  deriving DecidableEq, Repr

/-- The tokens of the polling chain. -/
structure Polling where
  /-- Generation of the latest tick. -/
  generation : UInt64 := 0
  /-- Generation of the tick in flight. -/
  inFlight : Option UInt64 := none
  /-- Number of the latest timer. -/
  lastTimer : UInt64 := 0
  /-- The timer that may start a tick. -/
  armed : Option UInt64 := none
  /-- A tick was asked for while one was in flight. -/
  requested : Bool := false
  deriving DecidableEq, Repr

namespace Polling

/-- A tick is in flight. -/
def isFetching (p : Polling) : Bool :=
  p.inFlight.isSome

/-- Starts a tick and disarms the timer, or remembers the request while a tick is in flight. -/
def beginTick (p : Polling) : Option UInt64 × Polling :=
  match p.inFlight with
  | some _ => (none, { p with requested := true })
  | none =>
    let g := p.generation + 1
    (some g, { p with generation := g, inFlight := some g, armed := none, requested := false })

/-- Ends the tick in flight; `none` for any other generation. -/
def finish? (p : Polling) (generation : UInt64) : Option Polling :=
  if p.inFlight = some generation then some { p with inFlight := none } else none

def takeRequest (p : Polling) : Bool × Polling :=
  (p.requested, { p with requested := false })

/-- Arms a new timer; an older one may no longer start a tick. -/
def armTimer (p : Polling) : UInt64 × Polling :=
  let t := p.lastTimer + 1
  (t, { p with lastTimer := t, armed := some t })

/-- Uses up the armed timer; `none` for any other. -/
def fire? (p : Polling) (timer : UInt64) : Option Polling :=
  if p.armed = some timer then some { p with armed := none } else none

/-! ## Ticks never overlap -/

theorem beginTick_of_inFlight {p : Polling} {g : UInt64} (h : p.inFlight = some g) :
    p.beginTick = (none, { p with requested := true }) := by
  simp [beginTick, h]

theorem beginTick_of_idle {p : Polling} (h : p.inFlight = none) :
    p.beginTick = (some (p.generation + 1),
      { p with
        generation := p.generation + 1, inFlight := some (p.generation + 1), armed := none,
        requested := false }) := by
  simp [beginTick, h]

end Polling

end GossipPanel.Panel

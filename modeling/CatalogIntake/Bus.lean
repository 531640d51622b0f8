import CatalogIntake.Chunk

/-!
The chunk bus in memory: a buffer of limited size, a line of senders that wait for room, and the
number of chunks that are not settled yet. A chunk whose handling failed goes back into the line,
up to five deliveries. Each operation is one step.
-/

namespace CatalogIntake

structure Delivery where
  messageId : Option Int
  attempts : Int
  chunk : Chunk
  deriving DecidableEq, Repr

/-- A delivery on its way into the buffer; a publisher waits under its ticket. -/
structure Waiting where
  ticket : Option Nat
  delivery : Delivery
  deriving DecidableEq, Repr

/-- `outstanding` counts the chunks in the line, in the buffer, handed out or on their way back. -/
structure Bus where
  capacity : Nat
  closed : Bool
  outstanding : Nat
  buffer : List Delivery
  line : List Waiting
  deriving Repr

namespace Bus

def maxAttempts : Int := 5

def ofCapacity (capacity : Nat) : Bus := ⟨max capacity 1, false, 0, [], []⟩

def close (bus : Bus) : Bus := { bus with closed := true }

def isDrained (bus : Bus) : Bool := bus.closed && bus.outstanding == 0

def hasRoom (bus : Bus) : Bool := bus.line.isEmpty && bus.buffer.length < bus.capacity

def enter (bus : Bus) (w : Waiting) : Bus :=
  if bus.hasRoom then { bus with buffer := bus.buffer ++ [w.delivery] }
  else { bus with line := bus.line ++ [w] }

/-- What became of a publish: in the buffer, in the line, or turned away by a closed bus. -/
inductive Admission
  | accepted
  | waiting
  | refused
  deriving DecidableEq, Repr

def publish (bus : Bus) (ticket : Nat) (chunk : Chunk) : Admission × Bus :=
  if bus.closed then (.refused, bus)
  else
    let counted := { bus with outstanding := bus.outstanding + 1 }
    let next := counted.enter ⟨some ticket, ⟨none, 0, chunk⟩⟩
    (if bus.hasRoom then .accepted else .waiting, next)

/-- What a receiver gets; with a delivery goes the ticket of the publisher let in for it. -/
inductive Received
  | finished
  | nothing
  | delivery (d : Delivery) (admitted : Option Nat)
  deriving Repr

/-- Lets the first of the line into the buffer if there is room; its ticket is returned. -/
def letIn (bus : Bus) : Option Nat × Bus :=
  match bus.line with
  | w :: line =>
    if bus.buffer.length < bus.capacity then
      (w.ticket, { bus with buffer := bus.buffer ++ [w.delivery], line })
    else (none, bus)
  | [] => (none, bus)

/-- Takes the first delivery of the buffer; its place goes to the first of the line. -/
def receive (bus : Bus) : Received × Bus :=
  if bus.isDrained then (.finished, bus)
  else match bus.buffer with
    | [] => (.nothing, bus)
    | d :: buffer =>
      let (admitted, next) := { bus with buffer }.letIn
      (.delivery { d with attempts := d.attempts + 1 } admitted, next)

def settle (bus : Bus) : Bus := { bus with outstanding := bus.outstanding - 1 }

def ack (bus : Bus) : Bus := bus.settle

def nack (bus : Bus) (d : Delivery) : Bus :=
  if d.attempts ≥ maxAttempts then bus.settle else bus.enter ⟨none, d⟩

end Bus

end CatalogIntake

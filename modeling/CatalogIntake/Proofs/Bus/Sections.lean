import CatalogIntake.Proofs.Bus

/-!
The operations on the bus taken apart where they let others run: a place in the buffer that has
become free is filled later, by whoever was promised it, and a chunk that is returned is sent again
by a task of its own. The whole operations are these parts, one right after the other.
-/

namespace CatalogIntake.Bus

def handOut (bus : Bus) : Received × Bus :=
  if bus.isDrained then (.finished, bus)
  else match bus.buffer with
    | [] => (.nothing, bus)
    | d :: buffer => (.delivery { d with attempts := d.attempts + 1 } none, { bus with buffer })

/-- Lets one of the line into the buffer. The free places are promised to the first of the line,
who may take them in any order. -/
def letInAt (bus : Bus) (place : Nat) : Option Bus :=
  match bus.line[place]? with
  | some w =>
    if bus.buffer.length + place < bus.capacity then
      some { bus with buffer := bus.buffer ++ [w.delivery], line := bus.line.eraseIdx place }
    else none
  | none => none

def giveBack (bus : Bus) (d : Delivery) : Option Delivery × Bus :=
  if d.attempts ≥ maxAttempts then (none, bus.settle) else (some d, bus)

theorem enter_eq (bus : Bus) (w : Waiting) :
    bus.enter w = if bus.hasRoom = true then { bus with buffer := bus.buffer ++ [w.delivery] }
      else { bus with line := bus.line ++ [w] } := rfl

/-- A chunk that is not turned away counts, and is in the buffer or at the end of the line. -/
theorem publish_eq {bus : Bus} (isOpen : bus.closed = false) (ticket : Nat) (chunk : Chunk) :
    bus.publish ticket chunk =
      if bus.hasRoom = true then
        (.accepted, { bus with
          outstanding := bus.outstanding + 1
          buffer := bus.buffer ++ [⟨none, 0, chunk⟩] })
      else
        (.waiting, { bus with
          outstanding := bus.outstanding + 1
          line := bus.line ++ [⟨some ticket, none, 0, chunk⟩] }) := by
  have hroom : hasRoom { bus with outstanding := bus.outstanding + 1 } = bus.hasRoom := rfl
  rw [publish, if_neg (by simp [isOpen])]
  dsimp only
  rw [enter, hroom]
  split <;> rfl

theorem letIn_eq (bus : Bus) : bus.letIn.2 = (bus.letInAt 0).getD bus := by
  unfold letIn letInAt
  cases hline : bus.line with
  | nil => simp
  | cons first rest =>
    by_cases hroom : bus.buffer.length < bus.capacity <;> simp [hroom]

/-- A chunk is received: it is handed out, and then the first of the line is let in. -/
theorem receive_eq (bus : Bus) :
    bus.receive = match bus.handOut with
      | (.delivery d _, next) => (.delivery d next.letIn.1, next.letIn.2)
      | (other, next) => (other, next) := by
  unfold receive handOut
  cases bus.isDrained with
  | true => rfl
  | false => cases bus.buffer <;> rfl

/-- A chunk is returned: it is given back, and then sent again. -/
theorem nack_eq (bus : Bus) (d : Delivery) :
    bus.nack d = match bus.giveBack d with
      | (some d, next) => next.enter ⟨none, d⟩
      | (none, next) => next := by
  unfold nack giveBack
  by_cases h : d.attempts ≥ maxAttempts <;> simp [h]

end CatalogIntake.Bus

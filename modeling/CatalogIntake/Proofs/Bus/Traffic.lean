import CatalogIntake.Proofs.Bus.Sections

/-!
The bus among publishers and receivers, any number of them. Each chunk that the bus has taken gets
a number, and where it is and what has become of it is kept in lists beside the bus. A move is what
somebody does without letting others run in between.
-/

namespace CatalogIntake

/-- A delivery of the chunk with this number. -/
structure Parcel where
  number : Nat
  delivery : Delivery
  deriving DecidableEq

def Parcel.again (q : Parcel) : Parcel :=
  ⟨q.number, { q.delivery with attempts := q.delivery.attempts + 1 }⟩

@[simp] theorem Parcel.number_again (q : Parcel) : q.again.number = q.number := rfl

@[simp] theorem Parcel.attempts_again (q : Parcel) :
    q.again.delivery.attempts = q.delivery.attempts + 1 := rfl

@[simp] theorem Parcel.chunk_again (q : Parcel) : q.again.delivery.chunk = q.delivery.chunk := rfl

/-- A parcel in the line, of a publisher who waits under a ticket or of a task. -/
structure Queued where
  ticket : Option Nat
  parcel : Parcel
  deriving DecidableEq

def Queued.waiting (q : Queued) : Waiting := ⟨q.ticket, q.parcel.delivery⟩

/-- Where the chunks are, and by their numbers what has happened to them, in this order. -/
structure Manifest where
  line : List Queued := []
  buffer : List Parcel := []
  held : List Parcel := []
  /-- With tasks that have not run yet. -/
  returning : List Parcel := []
  accepted : List Chunk := []
  entered : List Nat := []
  handedOut : List Nat := []
  acked : List Nat := []
  dropped : List Nat := []

structure Traffic extends Manifest where
  bus : Bus

namespace Traffic

def opening (capacity : Nat) : Traffic where
  bus := .ofCapacity capacity

def parcelOf (t : Traffic) (chunk : Chunk) : Parcel := ⟨t.accepted.length, ⟨none, 0, chunk⟩⟩

def publish (t : Traffic) (ticket : Nat) (chunk : Chunk) : Traffic :=
  match t.bus.publish ticket chunk with
  | (.refused, _) => t
  | (.accepted, bus) =>
    { t with
      bus
      buffer := t.buffer ++ [t.parcelOf chunk]
      accepted := t.accepted ++ [chunk]
      entered := t.entered ++ [t.accepted.length] }
  | (.waiting, bus) =>
    { t with
      bus
      line := t.line ++ [⟨some ticket, t.parcelOf chunk⟩]
      accepted := t.accepted ++ [chunk] }

def handOut? (t : Traffic) : Option (Parcel × Traffic) :=
  match t.bus.handOut, t.buffer with
  | (.delivery d _, bus), first :: buffer =>
    some (⟨first.number, d⟩,
      { t with
        bus
        buffer
        held := t.held ++ [⟨first.number, d⟩]
        handedOut := t.handedOut ++ [first.number] })
  | _, _ => none

def settle? (t : Traffic) (q : Parcel) (acknowledges : Bool) : Option Traffic :=
  if q ∈ t.held then
    let held := t.held.erase q
    if acknowledges then
      some { t with bus := t.bus.ack, held, acked := t.acked ++ [q.number] }
    else match t.bus.giveBack q.delivery with
      | (none, bus) => some { t with bus, held, dropped := t.dropped ++ [q.number] }
      | (some d, bus) => some { t with bus, held, returning := t.returning ++ [⟨q.number, d⟩] }
  else none

def resend? (t : Traffic) (q : Parcel) : Option Traffic :=
  if q ∈ t.returning then
    let bus := t.bus.enter ⟨none, q.delivery⟩
    let returning := t.returning.erase q
    if t.bus.hasRoom then
      some { t with
        bus
        returning
        buffer := t.buffer ++ [q]
        entered := t.entered ++ [q.number] }
    else some { t with bus, returning, line := t.line ++ [⟨none, q⟩] }
  else none

def letIn? (t : Traffic) (place : Nat) : Option Traffic :=
  match t.bus.letInAt place, t.line[place]? with
  | some bus, some q =>
    some { t with
      bus
      line := t.line.eraseIdx place
      buffer := t.buffer ++ [q.parcel]
      entered := t.entered ++ [q.parcel.number] }
  | _, _ => none

inductive Move
  | publish (ticket : Nat) (chunk : Chunk)
  | receive
  | ack (parcel : Parcel)
  | nack (parcel : Parcel)
  | resend (parcel : Parcel)
  | letIn (place : Nat)
  | close

/-- There is no move with a parcel that is not where it would have to be. A receiver for whom there
is nothing yet, or nothing any more, changes nothing. -/
def act (t : Traffic) : Move → Option Traffic
  | .publish ticket chunk => some (t.publish ticket chunk)
  | .receive => some ((t.handOut?.map (·.2)).getD t)
  | .ack q => t.settle? q true
  | .nack q => t.settle? q false
  | .resend q => t.resend? q
  | .letIn place => t.letIn? place
  | .close => some { t with bus := t.bus.close }

def run (t : Traffic) : List Move → Option Traffic
  | [] => some t
  | m :: moves => (t.act m).bind (run · moves)

def blocked (t : Traffic) : List Parcel :=
  (t.line.filter (·.ticket.isSome)).map (·.parcel)

def pending (t : Traffic) : List Parcel :=
  (t.line.filter (·.ticket.isNone)).map (·.parcel) ++ t.returning

def waiting (t : Traffic) : List Parcel := t.line.map (·.parcel) ++ t.buffer ++ t.returning

def parcels (t : Traffic) : List Parcel := t.waiting ++ t.held

def settled (t : Traffic) : List Nat := t.acked ++ t.dropped

end Traffic

end CatalogIntake

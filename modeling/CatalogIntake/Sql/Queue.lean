import CatalogIntake.Bus
import CatalogIntake.Settings.Basic
import CatalogIntake.Sql.Errors

/-!
The durable chunk queue. A claim stamps the oldest visible message, which stays claimed until it is
deleted, released, or its time runs out. A message that holds no chunk is deleted.
-/

namespace CatalogIntake.Sql.Queue

open Text

def publish (settings : QueueSettings) (chunk : Chunk) : Script (Outcome Unit) :=
  Script.request .publishMessage (.insertMessage settings.routingKey chunk) fun _ => .ok ()

/-- A message as a claim returns it, its payload as the database driver has read it. -/
structure Message where
  id : Int
  attempts : Int
  payload : Json

def messageOfRow : Row → Outcome Message
  | [id, attempts, payload] => do
    return ⟨← Jobs.value Json.int64 id, ← Jobs.value Json.int32 attempts, payload⟩
  | _ => .fail (.database .malformedRow)

def delete (id : Int) : Script (Outcome Unit) :=
  Script.request .deleteMessage (.deleteMessage id) fun _ => .ok ()

def claimMessage (settings : QueueSettings) : Script (Outcome (Option Message)) :=
  let statement := .claimMessage settings.routingKey settings.visibilityTimeoutSeconds
  Script.request .claimMessage statement fun reply =>
    match reply.first? with
    | none => .ok none
    | some row => Outcome.during .claimMessage ((messageOfRow row).map some)

/-- Claims until a message holds a chunk; `fuel` bounds the messages that are discarded. -/
def claim (settings : QueueSettings) : Nat → Script (Outcome (Option Delivery))
  | 0 => .done (.ok none)
  | fuel + 1 => do
    match ← claimMessage settings with
    | .error f => return .error f
    | .ok none => return .ok none
    | .ok (some message) =>
      match Chunk.decode message.payload with
      | .ok chunk => return .ok (some ⟨some message.id, message.attempts, chunk⟩)
      | .error _ =>
        match ← delete message.id with
        | .error f => return .error f
        | .ok () => claim settings fuel

def depth (settings : QueueSettings) : Script (Outcome Int) :=
  Script.request .readDepth (.countMessages settings.routingKey) fun reply =>
    (Errors.countOfReply reply).during .readDepth

def ack (d : Delivery) : Script (Outcome Unit) :=
  match d.messageId with
  | some id => delete id
  | none => .done (.ok ())

def nack (d : Delivery) (reason : String) : Script (Outcome Unit) :=
  match d.messageId with
  | some id =>
    Script.request .releaseMessage (.releaseMessage id (boundedErrorMessage reason)) fun _ => .ok ()
  | none => .done (.ok ())

end CatalogIntake.Sql.Queue

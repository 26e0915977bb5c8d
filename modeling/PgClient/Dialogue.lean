/-
Both ends of a session: the client's, and a server that answers it.

The server reads what is written as soon as the link has taken it, and answers message
by message; what it answers can be read at once. How much the link takes at a time is
limited, and it takes nothing when the server has gone away.
-/

import PgClient.Transport

namespace PgClient

/-- A server, by what it does about each message. -/
class Server (σ : Type) where
  answer : Frame → σ → List Arrival × σ
  /-- Whether the server keeps the link from taking anything for the moment. -/
  holdsUp : σ → Bool × σ

structure Dialogue (σ : Type) where
  conn : Conn
  server : σ
  /-- How many bytes the link takes at a time. -/
  capacity : Nat
  /-- How many waits are seen to their end. -/
  patience : Nat
  severed : Bool := false
  /-- What the server has read and does not make up a whole message yet. -/
  partly : Bytes := []
  /-- The messages that the server has received. -/
  received : List Frame := []

namespace Dialogue

variable {α σ : Type} [Server σ]

def arrive (arrivals : List Arrival) (dialogue : Dialogue σ) : Dialogue σ :=
  let link := dialogue.conn.link
  { dialogue with
    conn := { dialogue.conn with
      link := { link with arrivals := link.arrivals ++ arrivals } } }

/-- The server reads all whole messages of `input`. -/
def receive (input : Bytes) (dialogue : Dialogue σ) : Dialogue σ :=
  match found : Frame.next input with
  | .ok (some (frame, rest)) =>
      have := Frame.next_length found
      let (arrivals, server) := Server.answer frame dialogue.server
      let dialogue :=
        { dialogue with server, received := dialogue.received ++ [frame] }
      receive rest (dialogue.arrive arrivals)
  | _ => { dialogue with partly := input }
termination_by input.length
decreasing_by
  simp only [Frame.headLength] at this
  omega

def serve (dialogue : Dialogue σ) : Dialogue σ :=
  let link := dialogue.conn.link
  let conn := { dialogue.conn with link := { link with delivered := [] } }
  receive (dialogue.partly ++ link.delivered) { dialogue with conn }

/-- A step of the client, after which the server reads what was written. -/
def during (step : Conn → α × Conn) (dialogue : Dialogue σ) : α × Dialogue σ :=
  let uptakes : List Uptake :=
    if dialogue.severed then [.failed (.system "BrokenPipe")]
    else [.accepted dialogue.capacity, .refused]
  let (value, conn) := step { dialogue.conn with link := { dialogue.conn.link with uptakes } }
  (value, ({ dialogue with conn } : Dialogue σ).serve)

/-- A step of the client that writes nothing. -/
def silently (step : Conn → α × Conn) (dialogue : Dialogue σ) : α × Dialogue σ :=
  let (value, conn) := step dialogue.conn
  (value, { dialogue with conn })

def flush (dialogue : Dialogue σ) : Except Error Bool × Dialogue σ :=
  match Server.holdsUp dialogue.server with
  | (true, server) => (.ok true, { dialogue with server })
  | (false, server) => { dialogue with server }.during Conn.flush

def finish (dialogue : Dialogue σ) : Dialogue σ :=
  (dialogue.during fun conn => ((), conn.finish)).2

/-- Writing is possible at any time, reading when something has arrived. -/
def await (wait : Wait) (dialogue : Dialogue σ) : Option Ready × Dialogue σ :=
  let readable := !dialogue.conn.link.arrivals.isEmpty
  let seen : Option Ready :=
    match wait with
    | .readable => if readable then some { readable := true, writable := false } else none
    | .writable => some { readable := false, writable := true }
    | .either => some { readable, writable := true }
  (seen, dialogue)

end Dialogue

instance {σ : Type} [Server σ] : Transport (Dialogue σ) where
  send command := Dialogue.silently (Conn.send command)
  flush := Dialogue.flush
  consumeInput := Dialogue.during Conn.consumeInput
  isBusy dialogue := dialogue.conn.isBusy
  takeResult := Dialogue.silently Conn.takeResult
  takeResults := Dialogue.silently Conn.takeResults
  checkOpen dialogue := dialogue.conn.checkOpen
  await := Dialogue.await
  patience dialogue := dialogue.patience
  transactionStatus dialogue := dialogue.conn.transactionStatus
  clientEncoding dialogue := dialogue.conn.clientEncoding
  isClosed dialogue := dialogue.conn.isClosed
  finish := Dialogue.finish
  record event dialogue := { dialogue with conn := dialogue.conn.record event }

end PgClient

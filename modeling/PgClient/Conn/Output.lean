/-
The sending side of a session: commands, what they leave to be written, and the end.

Messages are put one behind the other and go out in that order, however little of
them is taken at a time.
-/

import PgClient.Conn.Basic

namespace PgClient.Conn

def enqueue (messages : List FrontendMessage) (conn : Conn) : Except Defect Unit × Conn :=
  let (outcome, outbox) := FrontendMessage.appendAll messages conn.outbox
  (outcome, { conn with outbox })

/-! ### Commands -/

/-- A command may be sent when the answer to the one before it has come to its end
and has been taken. -/
def checkSendable (conn : Conn) : Except Error Unit :=
  if conn.isClosed then .error .connectionClosed
  else if conn.inFlight || !conn.results.isEmpty then
    .error (Error.ofProtocol .commandInProgress)
  else .ok ()

def dispatched (command : Command) (conn : Conn) : Conn :=
  { conn with
    inFlight := true
    describing := command.describes
    extended := command.isExtended
    lastStatus := .active }

def send (command : Command) (conn : Conn) : Except Failure Unit × Conn :=
  match conn.checkSendable with
  | .error error => (.error (.error error), conn)
  | .ok () =>
      match (conn.record (.sent command)).enqueue command.messages with
      | (.error defect, conn) => (.error (.defect defect), conn)
      | (.ok (), conn) => (.ok (), conn.dispatched command)

/-! ### Writing -/

def settlePush (pushed : Link.Pushed) (conn : Conn) : Conn :=
  { conn with
    outbox := pushed.left
    link := { conn.link with
      uptakes := pushed.uptakes
      delivered := conn.link.delivered ++ pushed.taken } }

/-- Writes what can be written at once, and says whether something is left. -/
def flush (conn : Conn) : Except Error Bool × Conn :=
  if conn.outbox.isEmpty then (.ok false, conn)
  else if conn.isClosed then (.error .connectionClosed, conn)
  else
    let pushed := Link.push conn.outbox conn.link.uptakes
    let conn := conn.settlePush pushed
    match pushed.ending with
    | .complete => (.ok false, conn)
    | .refused => (.ok true, conn)
    | .nothingTaken => (.error (Error.ofIo .writeZero), conn.breakWith .writeZero)
    | .failed fault => (.error (Error.ofIo fault), conn.breakWith fault)

/-- Writes everything, on a link where a refusal means that a deadline has passed.
Nothing stays to be written, whatever has become of it. -/
def flushFully (conn : Conn) : Except Error Unit × Conn :=
  if conn.isClosed then (.error .connectionClosed, conn)
  else
    let pushed := Link.push conn.outbox conn.link.uptakes
    let conn := { conn.settlePush pushed with outbox := [] }
    let failed (fault : IoFault) := (.error (Error.ofIo fault), conn.breakWith fault)
    match pushed.ending with
    | .complete => (.ok (), conn)
    | .refused => failed (.system "WouldBlock")
    | .nothingTaken => failed .incompleteWrite
    | .failed fault => failed fault

/-! ### The end -/

def terminate : Bytes :=
  (FrontendMessage.append .terminate []).2

/-- Takes leave of the server. The last message would be swallowed by one that has
been written in part, so it goes out only when nothing is left to be written; it is
offered once, and a server that does not take it is not waited for. -/
def finish (conn : Conn) : Conn :=
  if conn.released then conn
  else
    let link :=
      if !conn.broken && conn.outbox.isEmpty then conn.link.offer terminate else conn.link
    { conn with
      link
      released := true
      inbox := []
      outbox := []
      results := {}
      inFlight := false
      lastStatus := .unknown }

end PgClient.Conn

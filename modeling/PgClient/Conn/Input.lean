/-
The receiving side of a session: what each message of the server does to it.

Everything that can be read is read before any of it is looked at. Messages are
then taken off the front one after the other, and what makes up no whole message
stays for the next time.
-/

import PgClient.Conn.Output

namespace PgClient.Conn

/-! ### Messages -/

/-- A notice is told and otherwise left alone. -/
def receiveNotice (body : Bytes) (conn : Conn) : Except ProtocolFault Conn :=
  match Diagnostic.parse body with
  | .error fault => .error fault
  | .ok report => .ok (conn.record (.notice report))

def queue (result : QueryResult) (conn : Conn) : Conn :=
  { conn with results := conn.results.push result }

/-- The fields of a portal are a result of their own; those of a command begin one. -/
def receiveFields (count : UInt16) (body : Bytes) (conn : Conn) : Except ProtocolFault Conn :=
  match Field.readMany count.toNat body with
  | .error fault => .error fault
  | .ok fields =>
      if conn.describing then .ok (conn.queue { status := .commandOk, fields })
      else .ok { conn with builder := some { fields } }

def receiveRow (columns : UInt16) (body : Bytes) (conn : Conn) : Except ProtocolFault Conn :=
  match conn.builder with
  | none => .error (.misplaced .dataRow .undescribedResult)
  | some builder =>
      match builder.push columns body with
      | .error fault => .error fault
      | .ok builder => .ok { conn with builder := some builder }

def receiveCompletion (tag : String) (conn : Conn) : Conn :=
  let result :=
    match conn.builder with
    | some builder => builder.finish tag
    | none => { status := .commandOk, tag := some tag }
  { conn.queue result with builder := none }

/-- An error ends the result that was being received, and is one itself. -/
def receiveError (body : Bytes) (conn : Conn) : Except ProtocolFault Conn :=
  match Diagnostic.parse body with
  | .error fault => .error fault
  | .ok report =>
      .ok { conn.queue (.fatal report) with builder := none }

def receiveReady (indicator : UInt8) (conn : Conn) : Conn :=
  { conn.setStatus indicator with
    inFlight := false
    describing := false
    builder := none }

def copyRefusal : FrontendMessage :=
  .copyFail "COPY is not supported by this client"

/-- Rows that the server wants to be sent are refused. The message that ended the
command is lost on a server that waits for rows, so it is sent once more. -/
def refuseCopy (conn : Conn) : Conn :=
  let messages := if conn.extended then [copyRefusal, .sync] else [copyRefusal]
  ((conn.record .copyRefused).enqueue messages).2

def handle (message : BackendMessage) (conn : Conn) : Except ProtocolFault Conn :=
  match message with
  | .rowDescription count body => conn.receiveFields count body
  | .noData =>
      if conn.describing then .ok (conn.queue { status := .commandOk }) else .ok conn
  | .dataRow columns body => conn.receiveRow columns body
  | .commandComplete tag => .ok (conn.receiveCompletion tag)
  | .emptyQueryResponse => .ok (conn.queue { status := .emptyQuery })
  | .errorResponse body => conn.receiveError body
  | .readyForQuery indicator => .ok (conn.receiveReady indicator)
  | .noticeResponse body => conn.receiveNotice body
  | .notificationResponse processId channel payload =>
      .ok (conn.record (.notified processId channel payload))
  | .parameterStatus name value => .ok (conn.setParameter name value)
  | .backendKeyData key => .ok { conn with keyData := some key }
  | .copyInResponse _ _ => .ok conn.refuseCopy
  | .copyBothResponse _ _ => .ok conn.refuseCopy
  | .authentication _ => .error (.misplaced .authentication .query)
  | .negotiateProtocolVersion _ _ _ => .error (.misplaced .negotiateProtocolVersion .query)
  | .copyOutResponse _ _ | .copyData _ | .copyDone => .ok conn
  | .parseComplete | .bindComplete | .closeComplete => .ok conn
  | .parameterDescription _ _ | .portalSuspended => .ok conn

def handleFrame (frame : Frame) (conn : Conn) : Except ProtocolFault Conn :=
  match BackendMessage.decode frame.first frame.body with
  | .error fault => .error fault
  | .ok message => conn.handle message

/-! ### Reading -/

/-- Takes in all whole messages of `input`, and keeps what follows them. What cannot be
understood breaks the session. -/
def parse (input : Bytes) (conn : Conn) : Except ProtocolFault Unit × Conn :=
  match found : Frame.next input with
  | .error fault => (.error fault, { conn with inbox := input, broken := true })
  | .ok none => (.ok (), { conn with inbox := input })
  | .ok (some (frame, rest)) =>
      match conn.handleFrame frame with
      | .error fault => (.error fault, { conn with inbox := rest, broken := true })
      | .ok conn =>
          have := Frame.next_length found
          parse rest conn
termination_by input.length
decreasing_by
  simp only [Frame.headLength] at this
  omega

def readAll (conn : Conn) : Except Error Unit × Conn :=
  let gathered := Link.gather conn.link.arrivals
  let conn :=
    { conn with
      inbox := conn.inbox ++ gathered.bytes
      link := { conn.link with arrivals := gathered.arrivals } }
  match gathered.fault with
  | some fault => (.error (Error.ofIo fault), conn.breakWith fault)
  | none => (.ok (), conn)

/-- Reads and takes in whatever has arrived. What there is to answer is written as soon
as it is known. -/
def consumeInput (conn : Conn) : Except Error Unit × Conn :=
  if conn.isClosed then (.error .connectionClosed, conn)
  else
    match conn.readAll with
    | (.error error, conn) => (.error error, conn)
    | (.ok (), conn) =>
        match conn.parse conn.inbox with
        | (.error fault, conn) => (.error (Error.ofProtocol fault), conn)
        | (.ok (), conn) =>
            match conn.flush with
            | (.error error, conn) => (.error error, conn)
            | (.ok _, conn) => (.ok (), conn)

end PgClient.Conn

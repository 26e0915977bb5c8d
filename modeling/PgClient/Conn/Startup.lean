/-
The opening of a session: who the client is, and what the server then reports.

The opening has two stages. In the first the client answers what it is asked until the
server is content; in the second the server reports on itself until it is ready. The
link blocks meanwhile, so that each message is waited for, and a read that finds
nothing is tried again. A server that falls silent for good leaves the opening without
an end, which is an outcome of its own here.
-/

import PgClient.Auth.Hashed
import PgClient.Auth.Scram
import PgClient.Config
import PgClient.Conn.Input

namespace PgClient.Conn

/-! ### Waiting for a message -/

inductive Receipt
  | frame (frame : Frame)
  | malformed (fault : ProtocolFault)
  | failed (fault : IoFault)
  | silent
deriving Repr, DecidableEq

structure Received where
  receipt : Receipt
  inbox : Bytes
  arrivals : List Arrival
deriving Repr, DecidableEq

def awaitFrame (inbox : Bytes) (arrivals : List Arrival) : Received :=
  match Frame.next inbox with
  | .error fault => ⟨.malformed fault, inbox, arrivals⟩
  | .ok (some (frame, rest)) => ⟨.frame frame, rest, arrivals⟩
  | .ok none =>
      match arrivals with
      | [] => ⟨.silent, inbox, []⟩
      | .blocked :: later => awaitFrame inbox later
      | .failed fault :: later => ⟨.failed fault, inbox, later⟩
      | .data [] :: later => ⟨.failed .serverClosed, inbox, later⟩
      | .data bytes :: later => awaitFrame (inbox ++ bytes) later

def toArrive : List Arrival → Nat
  | [] => 0
  | .data bytes :: later => bytes.length + toArrive later
  | _ :: later => toArrive later

def pending (inbox : Bytes) (arrivals : List Arrival) : Nat :=
  inbox.length + toArrive arrivals

/-- A message takes bytes off the input. -/
theorem awaitFrame_pending {inbox rest : Bytes} {arrivals later : List Arrival} {frame : Frame}
    (received : awaitFrame inbox arrivals = ⟨.frame frame, rest, later⟩) :
    pending rest later < pending inbox arrivals := by
  induction arrivals generalizing inbox with
  | nil =>
      unfold awaitFrame at received
      split at received
      · simp at received
      · rename_i found
        have := Frame.next_length found
        simp only [Received.mk.injEq] at received
        simp only [Frame.headLength] at this
        obtain ⟨_, rfl, rfl⟩ := received
        simp only [pending]
        omega
      · simp at received
  | cons arrival arrivals ih =>
      unfold awaitFrame at received
      split at received
      · simp at received
      · rename_i found
        have := Frame.next_length found
        simp only [Received.mk.injEq] at received
        simp only [Frame.headLength] at this
        obtain ⟨_, rfl, rfl⟩ := received
        simp only [pending]
        omega
      · split at received
        · simp at received
        · rename_i same
          injection same with head tail
          subst head tail
          have := ih received
          simpa [pending, toArrive] using this
        · simp at received
        · simp at received
        · rename_i same
          injection same with head tail
          subst head tail
          have := ih received
          simp only [pending, toArrive, List.length_append] at this ⊢
          omega

/-! ### Answering the server -/

inductive Stage
  /-- How many nonces have been drawn, and the exchange that was begun last. -/
  | authenticating (drawn : Nat) (exchange : Option Scram.Client)
  | settling
deriving Repr, DecidableEq

inductive Progress
  | next (stage : Stage)
  | established
  | failed (failure : Failure)
deriving Repr, DecidableEq

def Progress.ofError (error : Error) : Progress :=
  .failed (.error error)

/-- Whether a list of mechanisms, each ended by a zero byte, offers the one that the
client has. The list ends at an empty name or with its bytes. -/
def offersScram (mechanisms : Bytes) : Except ProtocolFault Bool :=
  if mechanisms.isEmpty then .ok false
  else
    match read : Reader.text mechanisms with
    | .error fault => .error fault
    | .ok (name, rest) =>
        have := Reader.text_length read
        if name.isEmpty then .ok false
        else
          match offersScram rest with
          | .error fault => .error fault
          | .ok further => .ok (name == Scram.mechanism || further)
termination_by mechanisms.length

/-- Sends one message, and goes on in a stage when it has been taken. -/
def reply (message : FrontendMessage) (stage : Stage) (conn : Conn) : Progress × Conn :=
  match conn.enqueue [message] with
  | (.error defect, conn) => (.failed (.defect defect), conn)
  | (.ok (), conn) =>
      match conn.flushFully with
      | (.error error, conn) => (.ofError error, conn)
      | (.ok (), conn) => (.next stage, conn)

def unsupported (method : String) : Progress :=
  .ofError { kind := .unsupportedAuth method }

def authenticate (config : Config) (nonces : Nat → String) (drawn : Nat)
    (exchange : Option Scram.Client) (request : AuthenticationRequest) (conn : Conn) :
    Progress × Conn :=
  let same := Stage.authenticating drawn exchange
  match request with
  | .ok => (.next .settling, conn)
  | .cleartextPassword => conn.reply (.password config.password) same
  | .md5Password salt =>
      conn.reply (.password (Auth.hashedPassword config.user config.password salt)) same
  | .sasl mechanisms =>
      match offersScram mechanisms with
      | .error fault => (.ofError (Error.ofProtocol fault), conn)
      | .ok false => (unsupported ("sasl without " ++ Scram.mechanism), conn)
      | .ok true =>
          let client : Scram.Client := { password := config.password, nonce := nonces drawn }
          conn.reply (.saslInitialResponse Scram.mechanism client.first)
            (.authenticating (drawn + 1) (some client))
  | .saslContinue data =>
      match exchange with
      | none => (.ofError (Error.ofAuth .continueBeforeStart), conn)
      | some client =>
          match client.answer Scram.sha256 data with
          | .error error => (.ofError error, conn)
          | .ok (response, client) =>
              conn.reply (.saslResponse response) (.authenticating drawn (some client))
  | .saslFinal data =>
      match exchange with
      | none => (.ofError (Error.ofAuth .finalBeforeStart), conn)
      | some client =>
          match client.verify Scram.sha256 data with
          | .error error => (.ofError error, conn)
          | .ok () => (.next same, conn)
  | other => (unsupported other.method, conn)

def refused (body : Bytes) : Progress :=
  match Diagnostic.parse body with
  | .error fault => .ofError (Error.ofProtocol fault)
  | .ok report => .ofError (Error.ofDatabase report)

def noticed (body : Bytes) (stage : Stage) (conn : Conn) : Progress × Conn :=
  match conn.receiveNotice body with
  | .error fault => (.ofError (Error.ofProtocol fault), conn)
  | .ok conn => (.next stage, conn)

def misplaced (message : BackendMessage) (phase : Phase) : Progress :=
  .ofError (Error.ofProtocol (.misplaced message.tag phase))

def advance (config : Config) (nonces : Nat → String) (stage : Stage) (message : BackendMessage)
    (conn : Conn) : Progress × Conn :=
  match stage with
  | .authenticating drawn exchange =>
      match message with
      | .authentication request => authenticate config nonces drawn exchange request conn
      | .errorResponse body => (refused body, conn)
      | .noticeResponse body => conn.noticed body stage
      | other => (misplaced other .authentication, conn)
  | .settling =>
      match message with
      | .readyForQuery indicator => (.established, conn.setStatus indicator)
      | .backendKeyData key => (.next stage, { conn with keyData := some key })
      | .parameterStatus name value => (.next stage, conn.setParameter name value)
      | .noticeResponse body => conn.noticed body stage
      | .errorResponse body => (refused body, conn)
      | .negotiateProtocolVersion minor _ _ => (.next stage, conn.record (.negotiated minor))
      | other => (misplaced other .startup, conn)

/-! ### The whole opening -/

inductive Opening
  | established
  | failed (failure : Failure)
  | silent
deriving Repr, DecidableEq

def Opening.ofError (error : Error) : Opening :=
  .failed (.error error)

def keepInput (inbox : Bytes) (arrivals : List Arrival) (conn : Conn) : Conn :=
  { conn with inbox, link := { conn.link with arrivals } }

/-- Takes in messages until the opening ends. What cannot be understood ends it, but
only a length that cannot be one leaves the session broken. -/
def converse (config : Config) (nonces : Nat → String) (inbox : Bytes)
    (arrivals : List Arrival) (stage : Stage) (conn : Conn) : Opening × Conn :=
  match received : awaitFrame inbox arrivals with
  | ⟨.silent, inbox, arrivals⟩ => (.silent, conn.keepInput inbox arrivals)
  | ⟨.failed fault, inbox, arrivals⟩ =>
      (.ofError (Error.ofIo fault), (conn.keepInput inbox arrivals).breakWith fault)
  | ⟨.malformed fault, inbox, arrivals⟩ =>
      (.ofError (Error.ofProtocol fault), { conn.keepInput inbox arrivals with broken := true })
  | ⟨.frame frame, inbox, arrivals⟩ =>
      match BackendMessage.decode frame.first frame.body with
      | .error fault => (.ofError (Error.ofProtocol fault), conn.keepInput inbox arrivals)
      | .ok message =>
          match advance config nonces stage message conn with
          | (.failed failure, conn) => (.failed failure, conn.keepInput inbox arrivals)
          | (.established, conn) => (.established, conn.keepInput inbox arrivals)
          | (.next stage, conn) =>
              have := awaitFrame_pending received
              converse config nonces inbox arrivals stage conn
termination_by pending inbox arrivals

def startupMessage (config : Config) : StartupMessage :=
  { user := config.user
    database := some config.database
    parameters :=
      ("client_encoding", "UTF8") ::
        (match config.applicationName with
          | some name => [("application_name", name)]
          | none => []) }

def startup (config : Config) (nonces : Nat → String) (conn : Conn) : Opening × Conn :=
  match (startupMessage config).append conn.outbox with
  | (.error defect, outbox) => (.failed (.defect defect), { conn with outbox })
  | (.ok (), outbox) =>
      match { conn with outbox }.flushFully with
      | (.error error, conn) => (.ofError error, conn)
      | (.ok (), conn) =>
          converse config nonces conn.inbox conn.link.arrivals (.authenticating 0 none) conn

/-- Opens a session with the server that a config names. An opening that fails takes
leave of the server. No time at all is no deadline that a link could have. -/
def connect (config : Config) (nonces : Nat → String) (dial : Address → Except IoFault Link) :
    Opening × Conn :=
  match dial config.address with
  | .error fault => (.ofError (Error.ofIo fault), { released := true })
  | .ok link =>
      if config.connectTimeout = some 0 then
        (.ofError (Error.ofIo .zeroTimeout), { link, released := true })
      else
        match startup config nonces { link } with
        | (.failed failure, conn) => (.failed failure, conn.finish)
        | other => other

end PgClient.Conn

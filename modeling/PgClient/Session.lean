/-
Sessions that run one command at a time.

A command holds the session from its first message to its last result. However the
command ends, the session is then either ready for the next or closed: a deadline that
passes, a task that is given up and misuse on the way leave an answer unread, and so
they end the session.

Outside autocommit, a command that finds no transaction open starts one.
-/

import PgClient.Exchange.RoundTrip
import PgClient.Exchange.Waiting

namespace PgClient

structure Session (τ : Type) where
  transport : τ
  /-- How many milliseconds a command may take. -/
  timeout : Option Nat := none
  closed : Bool
  autocommit : Bool := false

/-! ### Transactions -/

/-- An exchange after the one that starts a transaction. -/
structure Transactional (γ : Type) where
  start : Option RoundTrip
  inner : γ

namespace Transactional

variable {α γ τ : Type} [Exchange γ α] [Transport τ]

def goOn (ready : Ready) (inner : γ) (transport : τ) : Turn α (Transactional γ) τ :=
  match Exchange.resume ready inner transport with
  | ⟨step, inner, transport⟩ => ⟨step, { start := none, inner }, transport⟩

def resume (ready : Ready) (exchange : Transactional γ) (transport : τ) :
    Turn α (Transactional γ) τ :=
  match exchange.start with
  | none => goOn ready exchange.inner transport
  | some start =>
      match start.resume ready transport with
      | ⟨.wait wait, start, transport⟩ =>
          ⟨.wait wait, { exchange with start := some start }, transport⟩
      | ⟨.failed failure, start, transport⟩ =>
          ⟨.failed failure, { exchange with start := some start }, transport⟩
      | ⟨.done result, _, transport⟩ =>
          match result.check with
          | .error error => ⟨.ofError error, { exchange with start := none }, transport⟩
          | .ok _ => goOn .nothing exchange.inner transport

end Transactional

instance {α γ : Type} [Exchange γ α] : Exchange (Transactional γ) α where
  resume := Transactional.resume

namespace Session

variable {α γ τ : Type} [Exchange γ α] [Transport τ]

def ofTransport (transport : τ) (timeout : Option Nat) : Session τ :=
  { transport, timeout, closed := Transport.isClosed transport }

def transactionStatus (session : Session τ) : TransactionStatus :=
  Transport.transactionStatus session.transport

def clientEncoding (session : Session τ) : String :=
  Transport.clientEncoding session.transport

def checkOpen (session : Session τ) : Except Error Unit :=
  if session.closed then .error .connectionClosed else .ok ()

/-- Sets a transaction before an exchange where there is none and one is wanted. -/
def inTransaction (session : Session τ) (inner : γ) : Transactional γ :=
  { start :=
      if !session.autocommit && session.transactionStatus = .idle then
        some (.unsent (.query "BEGIN"))
      else none
    inner }

/-! ### Running an exchange -/

def cutShort (event : Event) (session : Session τ) : Session τ :=
  { session with transport := Transport.finish (Transport.record event session.transport) }

/-- Draws the consequences of the way in which a command ended. -/
def settle (outcome : Except Failure α) (session : Session τ) : Session τ :=
  match outcome with
  | .error (.error error) =>
      let session := if error.isTimeout then session.cutShort .timedOut else session
      { session with closed := session.closed || Transport.isClosed session.transport }
  | .error _ => { session.cutShort .abandoned with closed := true }
  | .ok _ => { session with closed := session.closed || Transport.isClosed session.transport }

omit [Exchange γ α] in
/-- A part of a session that does not change when it is cut short or marked as closed is not
changed by how a command ended. -/
theorem settle_part {β : Type} (part : Session τ → β)
    (cut : ∀ event session, part (cutShort event session) = part session)
    (marked : ∀ session closed, part { session with closed } = part session)
    (outcome : Except Failure α) (session : Session τ) :
    part (settle outcome session) = part session := by
  cases outcome with
  | ok value => exact marked _ _
  | error failure =>
      cases failure with
      | defect defect => exact (marked _ _).trans (cut _ _)
      | abandoned => exact (marked _ _).trans (cut _ _)
      | error error =>
          refine (marked _ _).trans ?_
          split
          · exact cut _ _
          · rfl

structure Answered (α γ τ : Type) where
  outcome : Except Failure α
  exchange : γ
  session : Session τ

def run (manner : Manner) (exchange : γ) (session : Session τ) : Answered α γ τ :=
  match Waiting.run manner session.timeout exchange session.transport with
  | ⟨outcome, exchange, transport⟩ =>
      ⟨outcome, exchange, settle outcome { session with transport }⟩

/-- The result of a round trip as the value of a call: an error of the server is an
error of the call. -/
def checked (outcome : Except Failure QueryResult) : Except Failure QueryResult :=
  match outcome with
  | .error failure => .error failure
  | .ok result =>
      match result.check with
      | .error error => .error (.error error)
      | .ok result => .ok result

/-! ### Calls -/

def execute (manner : Manner) (sql : String) (parameters : List Parameter)
    (session : Session τ) : Except Failure QueryResult × Session τ :=
  match session.checkOpen with
  | .error error => (.error (.error error), session)
  | .ok () =>
      let trip := RoundTrip.unsent (Command.ofQuery sql parameters)
      match session.run manner (session.inTransaction trip) with
      | ⟨outcome, _, session⟩ => (checked outcome, session)

def endTransaction (manner : Manner) (sql : String) (session : Session τ) :
    Except Failure Unit × Session τ :=
  match session.checkOpen with
  | .error error => (.error (.error error), session)
  | .ok () =>
      if session.transactionStatus = .idle then (.ok (), session)
      else
        match session.run manner (RoundTrip.unsent (.query sql)) with
        | ⟨outcome, _, session⟩ => ((checked outcome).map fun _ => (), session)

def commit (manner : Manner) (session : Session τ) : Except Failure Unit × Session τ :=
  session.endTransaction manner "COMMIT"

def rollback (manner : Manner) (session : Session τ) : Except Failure Unit × Session τ :=
  session.endTransaction manner "ROLLBACK"

def setAutocommit (autocommit : Bool) (session : Session τ) :
    Except Failure Unit × Session τ :=
  match session.checkOpen with
  | .error error => (.error (.error error), session)
  | .ok () =>
      if session.transactionStatus ≠ .idle then
        (.error (.error (Error.ofState .transactionOpen)), session)
      else (.ok (), { session with autocommit })

def setTimeout (timeout : Option Nat) (session : Session τ) : Session τ :=
  { session with timeout }

def close (session : Session τ) : Session τ :=
  let transport :=
    if session.closed then session.transport
    else Transport.record .closing session.transport
  { session with transport := Transport.finish transport, closed := true }

def display (flavour : Flavour) (session : Session τ) : String :=
  let name :=
    match flavour with
    | .blocking => "Connection"
    | .async => "AsyncConnection"
  name ++ " \x7b closed: " ++ (if session.closed then "true" else "false") ++ ", .. \x7d"

end Session

end PgClient

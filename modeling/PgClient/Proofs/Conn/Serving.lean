/-
A session and its server over a whole history.

The owner of a session sends commands, writes, reads and takes results in any order,
and between any two of these something may arrive. The server answers each command
with messages of which the last one, and no other, says that it is ready. It may tell
of notices, notifications and parameters at any time. What arrives is held against the
answers only by its bytes, so it may be cut anywhere.
-/

import PgClient.Proofs.Conn.Effect
import PgClient.Proofs.Conn.Traffic

namespace PgClient

/-! ### The server -/

structure Answer where
  /-- What is said before the answer begins, be it before the command is sent. -/
  asides : List Frame
  messages : List Frame
  ready : Frame
  aside : ∀ frame ∈ asides, frame.isAside = true
  unready : ∀ frame ∈ messages, frame.isReady = false
  ends : ready.isReady = true
  fits : ∀ frame ∈ asides ++ messages ++ [ready], frame.Fits

namespace Answer

def frames (answer : Answer) : List Frame :=
  answer.asides ++ answer.messages ++ [answer.ready]

def results (answer : Answer) (describing : Bool) : List QueryResult :=
  Frame.results describing none answer.messages

end Answer

def answered (answers : Nat → Answer) : Nat → List Frame
  | 0 => []
  | count + 1 => answered answers count ++ (answers count).frames

/-- All that a server may have sent when so many commands have been sent to it. -/
def sayable (answers : Nat → Answer) (count : Nat) : List Frame :=
  answered answers count ++ (answers count).asides

/-! ### The session -/

structure Served where
  command : Command
  results : List QueryResult := []
deriving Repr, DecidableEq

structure History where
  conn : Conn
  /-- Everything that has arrived since the session was opened. -/
  arrived : Bytes
  /-- The results that were taken before any command was accepted. -/
  stray : List QueryResult := []
  /-- All commands but the latest, the oldest first. -/
  past : List Served := []
  latest : Option Served := none

/-- What the owner of a session does, or what happens to it. -/
inductive Occurrence
  | send (command : Command)
  | flush
  | consume
  | take
  | arrive (arrivals : List Arrival)

namespace History

def accepted (history : History) : Nat :=
  history.past.length + history.latest.toList.length

def start (conn : Conn) : History :=
  { conn, arrived := conn.unread }

def accept (command : Command) (conn : Conn) (history : History) : History :=
  { history with
    conn
    past := history.past ++ history.latest.toList
    latest := some { command } }

def handOut (result : QueryResult) (conn : Conn) (history : History) : History :=
  match history.latest with
  | none => { history with conn, stray := history.stray ++ [result] }
  | some served =>
      { history with
        conn
        latest := some { served with results := served.results ++ [result] } }

def receive (arrivals : List Arrival) (history : History) : History :=
  { history with
    conn :=
      { history.conn with
        link := { history.conn.link with arrivals := history.conn.link.arrivals ++ arrivals } }
    arrived := history.arrived ++ Link.carried arrivals }

/-- One step of a history. There is none where writing or reading fails, and none where
something arrives that the server does not say. -/
def step (answers : Nat → Answer) (history : History) : Occurrence → Option History
  | .send command =>
      match history.conn.send command with
      | (.ok (), conn) => some (history.accept command conn)
      | (.error _, conn) => some { history with conn }
  | .flush =>
      match history.conn.flush with
      | (.ok _, conn) => some { history with conn }
      | (.error _, _) => none
  | .consume =>
      match history.conn.consumeInput with
      | (.ok (), conn) => some { history with conn }
      | (.error _, _) => none
  | .take =>
      match history.conn.takeResult with
      | (some result, conn) => some (history.handOut result conn)
      | (none, conn) => some { history with conn }
  | .arrive arrivals =>
      let history := history.receive arrivals
      if history.arrived <+: Frame.stream (sayable answers history.accepted) then some history
      else none

def run (answers : Nat → Answer) (history : History) : List Occurrence → Option History
  | [] => some history
  | event :: events =>
      match history.step answers event with
      | none => none
      | some history => history.run answers events

end History

end PgClient

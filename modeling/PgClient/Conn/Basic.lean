/-
A session with a server as one end of it sees it.

The state holds what has been read and not yet understood, what has been written
and not yet taken, where the command under way stands, and what the server has
said about itself. A session is closed when it is broken or when its link has been
given up, and neither is ever undone.
-/

import PgClient.Journal
import PgClient.Link
import PgClient.Queue
import PgClient.Result.QueryResult
import PgClient.TransactionStatus

namespace PgClient

structure Conn where
  link : Link := {}
  /-- What has been read and does not make up a whole message yet. -/
  inbox : Bytes := []
  /-- What is still to be taken by the link. -/
  outbox : Bytes := []
  /-- Something went wrong that leaves the two ends at odds. -/
  broken : Bool := false
  released : Bool := false
  /-- A command has been sent, and the server is not ready for another. -/
  inFlight : Bool := false
  describing : Bool := false
  extended : Bool := false
  builder : Option ResultBuilder := none
  results : Queue QueryResult := {}
  lastStatus : TransactionStatus := .idle
  parameters : List (String × String) := []
  keyData : Option KeyData := none
  /-- What has been told, the latest first. -/
  journal : List Event := []

namespace Conn

def isClosed (conn : Conn) : Bool :=
  conn.broken || conn.released

def isBusy (conn : Conn) : Bool :=
  conn.inFlight && conn.results.isEmpty && !conn.broken

def transactionStatus (conn : Conn) : TransactionStatus :=
  if conn.isClosed then .unknown else conn.lastStatus

/-- What the server reported last under a name. -/
def parameter? (conn : Conn) (name : String) : Option String :=
  conn.parameters.lookup name

/-- The encoding that the server reported, or the one that stands for none. -/
def clientEncoding (conn : Conn) : String :=
  (conn.parameter? "client_encoding").getD "SQL_ASCII"

def backendPid (conn : Conn) : Option UInt32 :=
  conn.keyData.map KeyData.processId

def record (event : Event) (conn : Conn) : Conn :=
  { conn with journal := event :: conn.journal }

/-- Puts a value in the place of the last one of its name, or at the end. -/
def assign (name value : String) : List (String × String) → List (String × String)
  | [] => [(name, value)]
  | entry :: rest =>
      if entry.1 = name then (entry.1, value) :: rest else entry :: assign name value rest

def setParameter (name value : String) (conn : Conn) : Conn :=
  { conn with parameters := assign name value conn.parameters }

def setStatus (indicator : UInt8) (conn : Conn) : Conn :=
  { conn with lastStatus := .ofIndicator indicator }

def breakWith (fault : IoFault) (conn : Conn) : Conn :=
  { conn.record (.broken fault) with
    broken := true
    inFlight := false
    lastStatus := .unknown }

def takeResult (conn : Conn) : Option QueryResult × Conn :=
  match conn.results.take? with
  | none => (none, conn)
  | some (result, results) => (some result, { conn with results })

def takeResults (conn : Conn) : List QueryResult × Conn :=
  (conn.results.toList, { conn with results := {} })

def checkOpen (conn : Conn) : Except Error Unit :=
  if conn.isClosed then .error .connectionClosed else .ok ()

end Conn

end PgClient

/-
Commands: what a client asks of an open session, and the messages that ask it.
-/

import PgClient.Wire.Frontend

namespace PgClient

inductive Command
  | query (sql : String)
  | queryWith (sql : String) (parameters : List Parameter)
  | describePortal (name : String)
deriving Repr, DecidableEq

namespace Command

/-- Statements without parameters where there are none to send. -/
def ofQuery (sql : String) (parameters : List Parameter) : Command :=
  if parameters.isEmpty then query sql else queryWith sql parameters

/-- A portal, as opposed to a prepared statement. -/
def portalKind : UInt8 := 'P'.toUInt8

/-- The messages of a command. Those that name no portal mean the one without a name. -/
def messages : Command → List FrontendMessage
  | query sql => [.query sql]
  | queryWith sql parameters =>
      [.parse "" sql parameters, .bind "" "" parameters, .describe portalKind "",
        .execute "" 0, .sync]
  | describePortal name => [.describe portalKind name, .sync]

def describes : Command → Bool
  | describePortal _ => true
  | _ => false

/-- Whether the server goes on only at a message that says so. -/
def isExtended : Command → Bool
  | query _ => false
  | _ => true

end Command

end PgClient

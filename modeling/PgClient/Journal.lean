/-
What is told about a session beside what its calls return.
-/

import PgClient.Command
import PgClient.Error

namespace PgClient

/-- How a session is driven: calls that block the caller, or tasks that are suspended. -/
inductive Flavour
  | blocking
  | async
deriving Repr, DecidableEq

inductive Level
  | debug
  | info
  | warning
deriving Repr, DecidableEq

def Level.name : Level → String
  | debug => "DEBUG"
  | info => "INFO"
  | warning => "WARN"

inductive Event
  | sent (command : Command)
  | notice (report : Diagnostic)
  | notified (processId : UInt32) (channel payload : String)
  | copyRefused
  | negotiated (minor : UInt32)
  | broken (fault : IoFault)
  | timedOut
  | abandoned
  | closing
  | cursorLeftOpen (name : String) (flavour : Flavour)
  | cursorNotClosed (name : String) (error : Error)
deriving Repr, DecidableEq

namespace Event

def level : Event → Level
  | sent _ => .debug
  | notice _ => .info
  | notified _ _ _ => .debug
  | copyRefused => .debug
  | negotiated _ => .debug
  | broken _ => .warning
  | timedOut => .warning
  | abandoned => .warning
  | closing => .debug
  | cursorLeftOpen _ _ => .warning
  | cursorNotClosed _ _ => .warning

/-- How a cursor ought to be closed. -/
def closeCall : Flavour → String
  | .blocking => "`close()`"
  | .async => "`close().await`"

def text : Event → String
  | sent (.query sql) => "query: " ++ sql
  | sent (.queryWith sql parameters) =>
      "query: " ++ sql ++ ", " ++ toString parameters.length ++ " parameter(s)"
  | sent (.describePortal name) => "describe portal: " ++ name
  | notice report => report.display
  | notified processId channel payload =>
      "notification from pid " ++ toString processId.toNat ++ " on `" ++ channel ++ "`: " ++
        payload
  | copyRefused => "copy from stdin is not supported, aborting"
  | negotiated minor => "server supports protocol minor version " ++ toString minor.toNat
  | broken fault => "connection broken: " ++ fault.message
  | timedOut => timeoutMessage ++ ", closing the connection"
  | abandoned => "command abandoned before completion, closing the connection"
  | closing => "closing connection"
  | cursorLeftOpen name flavour =>
      "named cursor `" ++ name ++ "` dropped while open, call " ++ closeCall flavour ++
        " to release the server portal"
  | cursorNotClosed name error => "failed to close cursor `" ++ name ++ "`: " ++ error.message

end Event

end PgClient

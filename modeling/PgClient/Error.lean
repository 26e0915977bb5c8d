/-
The errors that calls return: their causes, and the wording of each.
-/

import PgClient.Config.Url
import PgClient.Defect
import PgClient.Diagnostic
import PgClient.Text.Base64
import PgClient.Value.Column

namespace PgClient

inductive IoFault
  /-- Reading came to the end of what the server sends. -/
  | serverClosed
  /-- A write that took nothing. -/
  | writeZero
  /-- A write that was to take everything and did not. -/
  | incompleteWrite
  /-- A wait of no time at all was asked for. -/
  | zeroTimeout
  | system (kind : String)
  | other (reason : String)
deriving Repr, DecidableEq

namespace IoFault

def kind : IoFault → String
  | serverClosed => "UnexpectedEof"
  | writeZero => "WriteZero"
  | incompleteWrite => "WriteZero"
  | zeroTimeout => "InvalidInput"
  | system kind => kind
  | other _ => "Other"

/-- The reason; what the operating system says of its own failures is not repeated. -/
def reason? : IoFault → Option String
  | serverClosed => some "server closed the connection unexpectedly"
  | writeZero => some "write zero"
  | incompleteWrite => some "failed to write whole buffer"
  | zeroTimeout => some "cannot set a 0 duration timeout"
  | system _ => none
  | other reason => some reason

def message (fault : IoFault) : String :=
  fault.reason?.getD "os error"

end IoFault

inductive StateFault
  | cursorClosed
  | cursorNotExecuted
  | cursorAlreadyExecuted
  | connectionClosed
  | transactionOpen
deriving Repr, DecidableEq

namespace StateFault

def name : StateFault → String
  | cursorClosed => "CursorClosed"
  | cursorNotExecuted => "CursorNotExecuted"
  | cursorAlreadyExecuted => "CursorAlreadyExecuted"
  | connectionClosed => "ConnectionClosed"
  | transactionOpen => "TransactionOpen"

def message : StateFault → String
  | cursorClosed => "the cursor is closed"
  | cursorNotExecuted => "the cursor has not been executed"
  | cursorAlreadyExecuted => "the cursor has already been executed"
  | connectionClosed => "the connection is closed"
  | transactionOpen => "operation not allowed inside a transaction"

end StateFault

inductive ArgumentFault
  | badScrollMode (mode : String)
  | other (reason : String)
deriving Repr, DecidableEq

def ArgumentFault.message : ArgumentFault → String
  | badScrollMode mode =>
      "bad scroll mode `" ++ mode ++ "`, expected `relative` or `absolute`"
  | other reason => reason

/-- Why client and server do not come to trust each other. -/
inductive AuthFault
  | continueBeforeStart
  | finalBeforeStart
  | invalidSalt (fault : Base64.Fault)
  | invalidIterations (fault : Integer.Fault)
  | incompleteServerFirst
  | foreignNonce
  | rejected (reason : String)
  | invalidServerFinal
  | invalidSignature (fault : Base64.Fault)
  | finalBeforeFirst
  | signatureMismatch
  | other (reason : String)
deriving Repr, DecidableEq

def AuthFault.reason : AuthFault → String
  | continueBeforeStart => "SASL continue before SASL start"
  | finalBeforeStart => "SASL final before SASL start"
  | invalidSalt fault => "invalid salt: " ++ fault.message
  | invalidIterations fault => "invalid iterations: " ++ fault.message
  | incompleteServerFirst => "incomplete server-first-message"
  | foreignNonce => "server nonce does not extend client nonce"
  | rejected reason => "server rejected exchange: " ++ reason
  | invalidServerFinal => "invalid server-final-message"
  | invalidSignature fault => "invalid server signature: " ++ fault.message
  | finalBeforeFirst => "server-final-message before server-first-message"
  | signatureMismatch => "server signature mismatch"
  | other reason => reason

def timeoutMessage : String := "timed out waiting for the server"

inductive ErrorKind
  | config (fault : Config.Fault)
  | io (fault : IoFault)
  | protocol (fault : ProtocolFault)
  | database (report : Diagnostic)
  | state (fault : StateFault)
  | invalidArgument (fault : ArgumentFault)
  | timeout
  | unsupportedAuth (method : String)
  | auth (fault : AuthFault)
  | decode (fault : DecodeFault)
  | utf8 (fault : Utf8.Fault)
deriving Repr, DecidableEq

namespace ErrorKind

def name : ErrorKind → String
  | config _ => "Config"
  | io _ => "Io"
  | protocol _ => "Protocol"
  | database _ => "Database"
  | state _ => "State"
  | invalidArgument _ => "InvalidArgument"
  | timeout => "Timeout"
  | unsupportedAuth _ => "UnsupportedAuth"
  | auth _ => "Auth"
  | decode _ => "Decode"
  | utf8 _ => "Utf8"

def message : ErrorKind → String
  | config fault => fault.message
  | io fault => fault.message
  | protocol fault => fault.message
  | database report => report.display
  | state fault => fault.message
  | invalidArgument fault => fault.message
  | timeout => timeoutMessage
  | unsupportedAuth method => "unsupported authentication method: " ++ method
  | auth fault => "authentication failed: " ++ fault.reason
  | decode fault => fault.message
  | utf8 fault => fault.message

/-- What is underneath an error, for somebody who looks for its cause. -/
def cause : ErrorKind → String
  | config fault => Quoted.plain fault.message
  | io _ => ""
  | protocol fault => fault.message
  | database report => report.record
  | state fault => fault.name
  | invalidArgument fault => Quoted.plain fault.message
  | timeout => Quoted.plain timeoutMessage
  | unsupportedAuth method => Quoted.plain (unsupportedAuth method).message
  | auth fault => Quoted.plain fault.reason
  | decode fault => Quoted.plain fault.message
  | utf8 _ => ""

end ErrorKind

/-- A cause, and where a caller wants to say so, what it was doing. -/
structure Error where
  kind : ErrorKind
  context : String := ""
deriving Repr, DecidableEq

namespace Error

def message (error : Error) : String :=
  if error.context.isEmpty then error.kind.message
  else error.context ++ ": " ++ error.kind.message

/-- Whether the connection is of no further use. -/
def isConnection (error : Error) : Bool :=
  match error.kind with
  | .io _ => true
  | .timeout => true
  | _ => false

/-- Whether a deadline passed while the server was waited for. -/
def isTimeout (error : Error) : Bool :=
  match error.kind with
  | .timeout => true
  | _ => false

def report? (error : Error) : Option Diagnostic :=
  match error.kind with
  | .database report => some report
  | _ => none

def errorClass? (error : Error) : Option ErrorClass :=
  error.report?.map Diagnostic.errorClass

def source? (error : Error) : Option String :=
  match error.kind with
  | .io fault => some fault.message
  | .database report => some report.display
  | _ => none

/-! ### Errors of one cause -/

def ofProtocol (fault : ProtocolFault) : Error :=
  { kind := .protocol fault }

def ofState (fault : StateFault) : Error :=
  { kind := .state fault }

def ofIo (fault : IoFault) : Error :=
  { kind := .io fault }

def ofDatabase (report : Diagnostic) : Error :=
  { kind := .database report }

def ofAuth (fault : AuthFault) : Error :=
  { kind := .auth fault }

def connectionClosed : Error :=
  ofState .connectionClosed

def timedOut : Error :=
  { kind := .timeout }

end Error

inductive Failure
  | error (error : Error)
  | defect (defect : Defect)
  /-- The caller gave up on it. -/
  | abandoned
deriving Repr, DecidableEq

end PgClient

/-
What a session is opened with: who asks for it, where the server listens, and how
long to wait for it.
-/

namespace PgClient

structure Config where
  user : String := "postgres"
  password : String := ""
  /-- The directory of a socket file; it goes before the host when there is one. -/
  socketDirectory : Option String := none
  host : String := "localhost"
  port : UInt16 := 5432
  database : String := "postgres"
  applicationName : Option String := none
  /-- How many seconds opening the session may take. -/
  connectTimeout : Option Nat := none
  /-- How many seconds each command may take. -/
  timeout : Option Nat := none
deriving Repr, DecidableEq

inductive Address
  | socketFile (path : String)
  | host (name : String) (port : UInt16)
deriving Repr, DecidableEq

namespace Config

/-- The socket file of a port in a directory, whatever slashes end its name. -/
def socketPath (directory : String) (port : UInt16) : String :=
  let trimmed := (directory.toList.reverse.dropWhile (· == '/')).reverse
  String.ofList trimmed ++ "/.s.PGSQL." ++ toString port.toNat

def address (config : Config) : Address :=
  match config.socketDirectory with
  | some directory => .socketFile (socketPath directory config.port)
  | none => .host config.host config.port

end Config

end PgClient

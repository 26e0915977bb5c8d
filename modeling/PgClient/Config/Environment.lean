/-
The config that the environment of a process asks for.

A variable of its own goes before the url, and the url before what holds without
either. A url that cannot be read counts as absent.
-/

import PgClient.Config.Url

namespace PgClient.Config

abbrev Environment := String → Option String

/-- The url of the environment, when it can be read. -/
def urlOf (environment : Environment) : Option Config :=
  match environment "DATABASE_URL" with
  | none => none
  | some url => (ofUrl url).toOption

def ofEnvironment (environment : Environment) : Config :=
  let url := urlOf environment
  let setting (name : String) (fromUrl : Config → String) (otherwise : String) : String :=
    (environment name).getD ((url.map fromUrl).getD otherwise)
  let user := setting "PGUSER" Config.user "postgres"
  let host := setting "PGHOST" Config.host "localhost"
  { user
    password := setting "PGPASS" Config.password ""
    host
    database := setting "PGDATABASE" Config.database user
    socketDirectory :=
      if host.toList.head? = some '/' then some host else url.bind Config.socketDirectory
    port :=
      match environment "PGPORT" with
      | some port => (readPort port.toList).toOption.getD 5432
      | none => (url.map Config.port).getD 5432
    applicationName := url.bind Config.applicationName
    connectTimeout := url.bind Config.connectTimeout
    timeout := url.bind Config.timeout }

end PgClient.Config

/-
Which source decides what of the config that an environment asks for.

A variable that is set goes before what the url says, and the url before the defaults. One
thing does not follow that order: a directory that the query of the url names goes before a
host that is set, unless that host is a directory too. The address that is dialled comes from
the host and the directory together, and is stated as such.
-/

import PgClient.Config.Environment
import PgClient.Conn.Startup
import PgClient.Proofs.Config.Exact

namespace PgClient

/-- The address that a name stands for. One that begins with a slash is that of a directory. -/
def Address.named (name : String) (port : UInt16) : Address :=
  if name.toList.head? = some '/' then .socketFile (Config.socketPath name port)
  else .host name port

namespace Config

open Integer (Decimal)

/-! ### The url of an environment -/

/-- The url that an environment gives, where it gives a text that is one. -/
def Gives (environment : Environment) : Option Url → Prop
  | some url => environment "DATABASE_URL" = some url.text
  | none => ∀ url : Url, environment "DATABASE_URL" ≠ some url.text

def saidBy (url : Option Url) : Provided :=
  (url.map Url.provided).getD {}

variable {environment : Environment} {url : Option Url}

private theorem exists_gives (environment : Environment) : ∃ url, Gives environment url := by
  by_cases written : ∃ url : Url, environment "DATABASE_URL" = some url.text
  · obtain ⟨url, isUrl⟩ := written
    exact ⟨some url, isUrl⟩
  · exact ⟨none, fun url isUrl => written ⟨url, isUrl⟩⟩

private theorem urlOf_of_gives (gives : Gives environment url) :
    urlOf environment = url.map fun url => url.provided.config := by
  unfold urlOf
  cases url with
  | some url =>
      have isUrl : environment "DATABASE_URL" = some url.text := gives
      rw [isUrl]
      dsimp only
      rw [ofUrl_text]
      rfl
  | none =>
      cases given : environment "DATABASE_URL" with
      | none => rfl
      | some text =>
          dsimp only
          cases read : ofUrl text with
          | error fault => rfl
          | ok config =>
              obtain ⟨url, written⟩ := exists_url_of_ofUrl read
              exact absurd (by rw [given, written]) (gives url)

/-- A directory of the query begins with a slash. -/
theorem head?_of_socketDirectory {directory : String}
    (isSaid : (saidBy url).socketDirectory = some directory) :
    directory.toList.head? = some '/' := by
  cases url with
  | none => cases isSaid
  | some url =>
      have among : directory ∈ url.settings.filterMap Setting.directory? :=
        List.mem_of_getLast? isSaid
      obtain ⟨setting, _, isDirectory⟩ := List.mem_filterMap.mp among
      cases setting with
      | host place =>
          rw [Setting.directory?] at isDirectory
          split at isDirectory
          · rename_i slash
            cases isDirectory
            exact slash
          · cases isDirectory
      | _ => cases isDirectory

/-! ### What is set, what is said, and the rest -/

def placeOf (environment : Environment) (url : Option Url) : String :=
  ((environment "PGHOST").or (saidBy url).host).getD "localhost"

structure Precedence (environment : Environment) (url : Option Url) (config : Config) : Prop where
  user : config.user = ((environment "PGUSER").or (saidBy url).user).getD "postgres"
  password : config.password = ((environment "PGPASS").or (saidBy url).password).getD ""
  host : config.host = placeOf environment url
  /-- Where neither names a database it has the name of the user, of the one of the url if
  there is a url. -/
  database : config.database = ((environment "PGDATABASE").or (saidBy url).database).getD
    (if url.isSome then (saidBy url).user.getD "postgres" else config.user)
  portSet : ∀ port : Decimal 16, environment "PGPORT" = some port.text →
    config.port = UInt16.ofNat port.number
  /-- A port that cannot be read is not looked for in the url. -/
  portUnreadable : ∀ text, environment "PGPORT" = some text →
    (∀ port : Decimal 16, text ≠ port.text) → config.port = 5432
  portUnset : environment "PGPORT" = none → config.port = (saidBy url).port.getD 5432
  applicationName : config.applicationName = (saidBy url).applicationName
  connectTimeout : config.connectTimeout = (saidBy url).connectTimeout
  timeout : config.timeout = (saidBy url).timeout
  /-- A directory that is said goes before a host, wherever the host comes from. -/
  address : config.address = Address.named
    (if (placeOf environment url).toList.head? = some '/' then placeOf environment url
      else (saidBy url).socketDirectory.getD (placeOf environment url)) config.port
  /-- So a host that is set is dialled only where it is a directory or none is said. -/
  addressSet : ∀ host, environment "PGHOST" = some host →
    (config.address = Address.named host config.port ↔
      host.toList.head? = some '/' ∨ (saidBy url).socketDirectory = none)
  /-- No other address is dialled. -/
  dialled : ∀ nonces dial other, dial config.address = other config.address →
    Conn.connect config nonces dial = Conn.connect config nonces other

/-- The config in terms of what the url says. -/
theorem ofEnvironment_eq (gives : Gives environment url) :
    ofEnvironment environment =
      let user := ((environment "PGUSER").or (saidBy url).user).getD "postgres"
      let host := placeOf environment url
      { user
        password := ((environment "PGPASS").or (saidBy url).password).getD ""
        host
        socketDirectory :=
          if host.toList.head? = some '/' then some host else (saidBy url).socketDirectory
        port :=
          match environment "PGPORT" with
          | some port => (readPort port.toList).toOption.getD 5432
          | none => (saidBy url).port.getD 5432
        database := ((environment "PGDATABASE").or (saidBy url).database).getD
          (if url.isSome then (saidBy url).user.getD "postgres" else user)
        applicationName := (saidBy url).applicationName
        connectTimeout := (saidBy url).connectTimeout
        timeout := (saidBy url).timeout } := by
  unfold ofEnvironment placeOf
  rw [urlOf_of_gives gives]
  simp only [Option.getD_or]
  cases url with
  | none => rfl
  | some url => rfl

private theorem ofEnvironment_address (gives : Gives environment url) :
    (ofEnvironment environment).address = Address.named
      (if (placeOf environment url).toList.head? = some '/' then placeOf environment url
        else (saidBy url).socketDirectory.getD (placeOf environment url))
      (ofEnvironment environment).port := by
  rw [ofEnvironment_eq gives]
  dsimp only [address, Address.named]
  by_cases slash : (placeOf environment url).toList.head? = some '/'
  · simp only [if_pos slash]
  · simp only [if_neg slash]
    cases isSaid : (saidBy url).socketDirectory with
    | none => rw [Option.getD_none, if_neg slash]
    | some directory => rw [Option.getD_some, if_pos (head?_of_socketDirectory isSaid)]

private theorem address_named_iff (gives : Gives environment url) {host : String}
    (isSet : environment "PGHOST" = some host) :
    (ofEnvironment environment).address = Address.named host (ofEnvironment environment).port ↔
      host.toList.head? = some '/' ∨ (saidBy url).socketDirectory = none := by
  have place : placeOf environment url = host := by rw [placeOf, isSet]; rfl
  rw [ofEnvironment_address gives, place]
  by_cases slash : host.toList.head? = some '/'
  · rw [if_pos slash]
    exact iff_of_true rfl (.inl slash)
  · rw [if_neg slash]
    cases isSaid : (saidBy url).socketDirectory with
    | none => exact iff_of_true rfl (.inr rfl)
    | some directory =>
        have isDirectory := head?_of_socketDirectory isSaid
        rw [Option.getD_some, Address.named, Address.named, if_pos isDirectory, if_neg slash]
        constructor
        · intro same
          cases same
        · rintro (isSlash | none)
          · exact absurd isSlash slash
          · cases none

private theorem readPort_unreadable {text : String}
    (unreadable : ∀ port : Decimal 16, text ≠ port.text) :
    (readPort text.toList).toOption = none := by
  cases read : readPort text.toList with
  | error fault => rfl
  | ok port =>
      obtain ⟨decimal, spelled⟩ := exists_port read
      exact absurd (String.toList_inj.mp spelled.symm) (unreadable decimal)

/-- Of every environment: the url that it gives, if it gives one, and with that url what
decides what. -/
theorem ofEnvironment_precedence (environment : Environment) :
    (∃ url, Gives environment url) ∧
      ∀ url, Gives environment url → Precedence environment url (ofEnvironment environment) := by
  refine ⟨exists_gives environment, ?_⟩
  intro url gives
  have whole := ofEnvironment_eq gives
  refine
    { user := by rw [whole]
      password := by rw [whole]
      host := by rw [whole]
      database := by rw [whole]
      portSet := ?_
      portUnreadable := ?_
      portUnset := ?_
      applicationName := by rw [whole]
      connectTimeout := by rw [whole]
      timeout := by rw [whole]
      address := ofEnvironment_address gives
      addressSet := fun host isSet => address_named_iff gives isSet
      dialled := ?_ }
  · intro port isSet
    rw [whole, isSet]
    dsimp only
    rw [readPort_text]
    rfl
  · intro text isSet unreadable
    rw [whole, isSet]
    dsimp only
    rw [readPort_unreadable unreadable]
    rfl
  · intro unset
    rw [whole, unset]
  · intro nonces dial other same
    unfold Conn.connect
    rw [same]

def bobsUrl : Url where
  scheme := .postgres
  userinfo := some
    { user := "bob"
      password := some "secret"
      userFree := by decide
      passwordFree := by decide }
  host := "h"
  port := some (Decimal.ofNat 5433 (by decide))
  path := some "app"
  query := none
  hostFree := by decide
  pathFree := by decide
  anonymous := nofun
  queryFull := nofun
  queryFree := nofun

theorem ofEnvironment_precedence_besideUrl :
    let environment : Environment := fun name =>
      if name = "PGHOST" then some "db.local"
      else if name = "PGUSER" then some "alice"
      else if name = "DATABASE_URL" then some "postgres://bob:secret@h:5433/app"
      else none
    let config := ofEnvironment environment
    Gives environment (some bobsUrl) ∧ config.user = "alice" ∧ config.password = "secret" ∧
      config.port = 5433 ∧ config.database = "app" ∧
      config.address = Address.named "db.local" config.port := by
  intro environment config
  have written : environment "DATABASE_URL" = some bobsUrl.text := by decide +kernel
  have gives : Gives environment (some bobsUrl) := written
  have precedence := (ofEnvironment_precedence environment).2 (some bobsUrl) gives
  refine ⟨gives, precedence.user, precedence.password, ?_, precedence.database, ?_⟩
  · exact precedence.portUnset rfl
  · exact (precedence.addressSet "db.local" rfl).mpr (.inr rfl)

/-- A host that is set is not dialled where the url names a directory. -/
theorem ofEnvironment_not_named :
    let environment : Environment := fun name =>
      if name = "PGHOST" then some "db.local"
      else if name = "DATABASE_URL" then some "postgres://bob@h/app?host=/run"
      else none
    let config := ofEnvironment environment
    environment "PGHOST" = some "db.local" ∧
      Address.named "db.local" config.port = .host "db.local" 5432 ∧
      config.host = "db.local" ∧ config.user = "bob" ∧
      config.address = .socketFile "/run/.s.PGSQL.5432" := by
  decide +kernel

end Config

end PgClient

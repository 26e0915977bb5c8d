/-
The form of a url, and what it says of a config.

A url is a scheme, a user with or without a password, a host, a port, a path and a query, and
all but the scheme may be missing. Each part may hold any character but those that would end
it. A text of this form is read as a config, which is what the parts say, with the defaults for
what they leave out.
-/

import PgClient.Proofs.Config.Settings

namespace PgClient.Config

open Integer (Decimal)

/-! ### Urls -/

inductive Scheme
  | postgres
  | postgresql

def Scheme.text : Scheme → String
  | postgres => "postgres"
  | postgresql => "postgresql"

structure Userinfo where
  user : String
  password : Option String
  userFree : Free [':', '@', '?'] user
  passwordFree : ∀ text ∈ password, Free ['@', '?'] text

structure Url where
  scheme : Scheme
  userinfo : Option Userinfo
  host : String
  port : Option (Decimal 16)
  path : Option String
  /-- What stands between the ampersands: a setting, or nothing. -/
  query : Option (List (Option Setting))
  hostFree : Free ['/', ':', '?'] host
  pathFree : ∀ name ∈ path, Free ['?'] name
  /-- Where there is no user, nothing else may look as if it ended one. -/
  anonymous : userinfo = none → Free ['@'] host ∧ ∀ name ∈ path, Free ['@'] name
  queryFull : ∀ pieces ∈ query, pieces ≠ []
  queryFree : ∀ pieces ∈ query, ∀ setting, some setting ∈ pieces → Free ['&'] setting.value

def behind (mark : Char) : Option String → String
  | none => ""
  | some text => mark.toString ++ text

def Userinfo.text (userinfo : Userinfo) : String :=
  userinfo.user ++ behind ':' userinfo.password

namespace Url

def server (url : Url) : String :=
  url.host ++ behind ':' (url.port.map Decimal.text) ++ behind '/' url.path

def front (url : Url) : String :=
  match url.userinfo with
  | none => url.server
  | some userinfo => userinfo.text ++ "@" ++ url.server

def text (url : Url) : String :=
  url.scheme.text ++ "://" ++ url.front ++ behind '?' (url.query.map queryText)

def settings (url : Url) : List Setting :=
  (url.query.getD []).reduceOption

end Url

/-- What is said of a config, and no more. -/
structure Provided where
  user : Option String := none
  password : Option String := none
  socketDirectory : Option String := none
  host : Option String := none
  port : Option UInt16 := none
  database : Option String := none
  applicationName : Option String := none
  connectTimeout : Option Nat := none
  timeout : Option Nat := none

/-- The config with the defaults for what is left out. The database of a user who names none has
the name of the user. -/
def Provided.config (provided : Provided) : Config :=
  let user := provided.user.getD "postgres"
  { user
    password := provided.password.getD ""
    socketDirectory := provided.socketDirectory
    host := provided.host.getD "localhost"
    port := provided.port.getD 5432
    database := provided.database.getD user
    applicationName := provided.applicationName
    connectTimeout := provided.connectTimeout
    timeout := provided.timeout }

/-- A host that the query sets goes before the one in front of it. -/
def Url.provided (url : Url) : Provided where
  user := url.userinfo.map Userinfo.user
  password := url.userinfo.bind Userinfo.password
  socketDirectory := latest Setting.directory? url.settings
  host := (latest Setting.host? url.settings).or
    (if url.host = "" then none else some url.host)
  port := url.port.map fun port => UInt16.ofNat port.number
  database := url.path.filter (· ≠ "")
  applicationName := latest Setting.applicationName? url.settings
  connectTimeout := latest Setting.connectTimeout? url.settings
  timeout := latest Setting.timeout? url.settings

/-! ### Urls read -/

theorem toList_behind (front : String) (mark : Char) (text : Option String) :
    (front ++ behind mark text).toList = joined mark front.toList (text.map String.toList) := by
  cases text with
  | none =>
      rw [behind, String.append_empty]
      rfl
  | some text => simp [behind, joined]

namespace Url

def parts (url : Url) : Parts where
  userinfo := url.userinfo.map fun userinfo => userinfo.text.toList
  host := url.host.toList
  port := (url.port.map Decimal.text).map String.toList
  path := url.path.map String.toList
  query := (url.query.map queryText).map String.toList

private theorem toList_server (url : Url) : url.server.toList = url.parts.server := by
  rw [server, toList_behind, toList_behind]
  rfl

theorem toList_text (url : Url) :
    url.text.toList = url.scheme.text.toList ++ ("://".toList ++ url.parts.text) := by
  have toList_front : url.front.toList = url.parts.front := by
    unfold front Parts.front parts
    cases url.userinfo with
    | none => exact url.toList_server
    | some userinfo =>
        simp only [String.toList_append, List.append_assoc, Option.map_some, toList_server]
        rfl
  unfold text
  rw [String.append_assoc, String.append_assoc, String.toList_append, String.toList_append,
    toList_behind, toList_front]
  rfl

/-- No digit is a mark of a url. -/
theorem port_free (url : Url) {mark : Char} (notDigit : mark.isDigit = false)
    (notPlus : mark ≠ '+') : ∀ rest ∈ url.parts.port, mark ∉ rest := by
  intro rest isPort
  obtain ⟨text, hasPort, rfl⟩ := Option.map_eq_some_iff.mp isPort
  obtain ⟨port, _, rfl⟩ := Option.map_eq_some_iff.mp hasPort
  exact port.isNumeral.not_mem notDigit notPlus

private theorem path_free (url : Url) {mark : Char} (free : ∀ name ∈ url.path, mark ∉ name.toList) :
    ∀ rest ∈ url.parts.path, mark ∉ rest := by
  intro rest isPath
  obtain ⟨name, isName, rfl⟩ := Option.map_eq_some_iff.mp isPath
  exact free name isName

/-- What is in neither the host nor the path, and in no port either, is not behind the user. -/
theorem server_free (url : Url) {mark : Char} (notDigit : mark.isDigit = false)
    (noMark : mark ∉ [':', '/', '+']) (inHost : mark ∉ url.host.toList)
    (inPath : ∀ name ∈ url.path, mark ∉ name.toList) : mark ∉ url.parts.server := by
  simp only [List.mem_cons, List.not_mem_nil, or_false, not_or] at noMark
  apply not_mem_joined noMark.2.1 _ (url.path_free inPath)
  exact not_mem_joined noMark.1 inHost (url.port_free notDigit noMark.2.2)

private theorem userinfo_free (userinfo : Userinfo) {mark : Char} (notColon : mark ≠ ':')
    (inUser : mark ∉ userinfo.user.toList)
    (inPassword : ∀ text ∈ userinfo.password, mark ∉ text.toList) :
    mark ∉ userinfo.text.toList := by
  unfold Userinfo.text
  rw [toList_behind]
  apply not_mem_joined notColon inUser
  intro rest isPassword
  obtain ⟨text, isText, rfl⟩ := Option.map_eq_some_iff.mp isPassword
  exact inPassword text isText

private theorem separate (url : Url) : url.parts.Separate where
  host := url.hostFree ':' (by decide)
  hostAndPort :=
    not_mem_joined (by decide) (url.hostFree '/' (by decide)) (url.port_free rfl (by decide))
  userinfo := by
    intro text isText
    obtain ⟨userinfo, _, rfl⟩ := Option.map_eq_some_iff.mp isText
    exact userinfo_free userinfo (by decide) (userinfo.userFree '@' (by decide))
      fun password isPassword => userinfo.passwordFree password isPassword '@' (by decide)
  anonymous := by
    intro missing
    obtain ⟨inHost, inPath⟩ := url.anonymous (Option.map_eq_none_iff.mp missing)
    exact url.server_free rfl (by decide) (inHost '@' (by decide))
      fun name isName => inPath name isName '@' (by decide)
  front := by
    have inServer : '?' ∉ url.parts.server :=
      url.server_free rfl (by decide) (url.hostFree '?' (by decide))
        fun name isName => url.pathFree name isName '?' (by decide)
    unfold Parts.front
    split
    · exact inServer
    · rename_i text isText
      obtain ⟨userinfo, _, rfl⟩ := Option.map_eq_some_iff.mp isText
      have inUserinfo := userinfo_free userinfo (by decide) (userinfo.userFree '?' (by decide))
        fun password isPassword => userinfo.passwordFree password isPassword '?' (by decide)
      rw [List.mem_append, List.mem_cons, not_or, not_or]
      exact ⟨inUserinfo, by decide, inServer⟩

end Url

/-! ### What is read -/

private theorem setUser_userinfo (userinfo : Option Userinfo) :
    setUser {} (userinfo.map fun userinfo => userinfo.text.toList) =
      { user := (userinfo.map Userinfo.user).getD "postgres"
        password := (userinfo.bind Userinfo.password).getD "" } := by
  cases userinfo with
  | none => rfl
  | some userinfo =>
      rw [Option.map_some, setUser, Userinfo.text, toList_behind]
      cases given : userinfo.password with
      | none =>
          rw [Option.map_none, joined, Split.once_eq_none (userinfo.userFree ':' (by decide))]
          simp [given]
      | some password =>
          rw [Option.map_some, joined, Split.once_append (userinfo.userFree ':' (by decide))]
          simp [given]

private theorem databaseOf_path (user : String) (path : Option String) :
    databaseOf user (path.map String.toList) = (path.filter (· ≠ "")).getD user := by
  cases path with
  | none => rfl
  | some name =>
      by_cases empty : name = ""
      · rw [empty]
        rfl
      · have notEmpty : ¬(name.toList.isEmpty = true) := by
          rw [List.isEmpty_iff, String.toList_eq_nil_iff]
          exact empty
        have kept : (some name).filter (fun text => decide (text ≠ "")) = some name :=
          Option.filter_some_pos (decide_eq_true empty)
        rw [Option.map_some, databaseOf, if_neg notEmpty, String.ofList_toList, kept]
        rfl

theorem readPort_text (port : Decimal 16) :
    readPort port.text.toList = .ok (UInt16.ofNat port.number) := by
  rw [readPort, port.readNat_text]

def Parts.place (parts : Parts) : String :=
  if parts.host.isEmpty then "localhost" else String.ofList parts.host

def Parts.plain (parts : Parts) (port : UInt16) : Config :=
  let config := setUser {} parts.userinfo
  { config with
    database := databaseOf config.user parts.path
    host := parts.place
    port }

def portOf : Option (List Char) → Except Fault UInt16
  | none => .ok 5432
  | some port => readPort port

def takeQuery (config : Config) : Option (List Char) → Except Fault Config
  | none => .ok config
  | some query => setPairs config (Split.every '&' query)

/-- The port is read before the query. -/
theorem ofParts_eq (parts : Parts) :
    ofParts parts = portOf parts.port >>= fun port => takeQuery (parts.plain port) parts.query := by
  have kept : (setUser {} parts.userinfo).host = "localhost" ∧
      (setUser {} parts.userinfo).port = 5432 := by
    unfold setUser
    split
    · exact ⟨rfl, rfl⟩
    · split <;> exact ⟨rfl, rfl⟩
  unfold ofParts Parts.plain Parts.place
  dsimp only
  rw [kept.1, kept.2]
  cases parts.port with
  | none =>
      cases parts.query with
      | none => rfl
      | some query => rfl
  | some port =>
      cases parts.query with
      | none => rfl
      | some query => rfl

private theorem place_parts (url : Url) :
    url.parts.place = (if url.host = "" then none else some url.host).getD "localhost" := by
  unfold Parts.place
  by_cases empty : url.host = ""
  · have isEmpty : url.parts.host.isEmpty = true := by rw [Url.parts, empty]; rfl
    rw [if_pos isEmpty, if_pos empty]
    rfl
  · have notEmpty : ¬(url.parts.host.isEmpty = true) := by
      rw [List.isEmpty_iff, Url.parts, String.toList_eq_nil_iff]
      exact empty
    rw [if_neg notEmpty, if_neg empty]
    exact String.ofList_toList

private theorem plain_parts (url : Url) (port : UInt16) :
    (url.parts.plain port).withSettings url.settings =
      { url.provided.config with port } := by
  have user : setUser {} url.parts.userinfo =
      { user := (url.userinfo.map Userinfo.user).getD "postgres"
        password := (url.userinfo.bind Userinfo.password).getD "" } :=
    setUser_userinfo url.userinfo
  have database : ∀ user, databaseOf user url.parts.path =
      (url.path.filter (· ≠ "")).getD user :=
    fun user => databaseOf_path user url.path
  simp only [Parts.plain, user, database, place_parts, withSettings, Url.provided,
    Provided.config, Option.or_none, Option.getD_or]

/-- A url that has its form is read as what it says. -/
theorem ofParts_parts (url : Url) : ofParts url.parts = .ok url.provided.config := by
  have port : portOf url.parts.port = .ok url.provided.config.port := by
    unfold Url.parts Url.provided Provided.config
    cases url.port with
    | none => rfl
    | some port => exact readPort_text port
  have plain := plain_parts url url.provided.config.port
  rw [ofParts_eq, port]
  dsimp only [bind, Except.bind]
  cases given : url.query with
  | none =>
      have noQuery : url.parts.query = none := by rw [Url.parts, given]; rfl
      have noSettings : url.settings = [] := by rw [Url.settings, given]; rfl
      rw [noSettings] at plain
      rw [noQuery]
      exact congrArg Except.ok plain
  | some pieces =>
      have query : url.parts.query = some (queryText pieces).toList := by
        rw [Url.parts, given]
        rfl
      have settings : url.settings = pieces.reduceOption := by
        rw [Url.settings, given]
        rfl
      rw [settings] at plain
      rw [query, takeQuery, every_queryText (url.queryFull pieces given)
        (url.queryFree pieces given), setPairs_pieces, plain]

theorem isKnownScheme_iff {text : List Char} :
    isKnownScheme text = true ↔ ∃ scheme : Scheme, scheme.text.toList = text := by
  unfold isKnownScheme
  rw [Bool.or_eq_true, beq_iff_eq, beq_iff_eq]
  constructor
  · rintro (rfl | rfl)
    · exact ⟨.postgres, rfl⟩
    · exact ⟨.postgresql, rfl⟩
  · rintro ⟨scheme, rfl⟩
    cases scheme with
    | postgres => exact .inl rfl
    | postgresql => exact .inr rfl

/-- A text that has the form of a url is read as what the url says. -/
theorem ofUrl_text (url : Url) : ofUrl url.text = .ok url.provided.config := by
  have found : Split.onceRun "://".toList url.text.toList =
      some (url.scheme.text.toList, url.parts.text) := by
    rw [url.toList_text]
    cases url.scheme with
    | postgres => rfl
    | postgresql => rfl
  rw [ofUrl, found]
  dsimp only
  rw [if_pos (isKnownScheme_iff.mpr ⟨url.scheme, rfl⟩), Parts.ofText_text url.separate,
    ofParts_parts]

end PgClient.Config

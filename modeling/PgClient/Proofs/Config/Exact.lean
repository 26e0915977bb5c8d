/-
Urls as they are read, exactly.

Whatever is read as a config has the form of a url. Its parts are found at the marks, so that
none of them holds the mark that would end it, and a port or a query is read only where it is
made of what its form allows.
-/

import PgClient.Proofs.Config.Form

namespace PgClient.Config

open Integer (Decimal)

/-! ### Parts without marks -/

private theorem Parts.not_mem_of_server {parts : Parts} {mark : Char}
    (absent : mark ∉ parts.server) :
    mark ∉ parts.host ∧ ∀ path ∈ parts.path, mark ∉ path := by
  unfold Parts.server at absent
  rw [mem_joined, mem_joined, not_or, not_or] at absent
  constructor
  · exact absent.1.1
  · intro path isPath inPath
    exact absent.2 ⟨path, isPath, .inr inPath⟩

namespace Parts.Separate

variable {parts : Parts}

private theorem host_free (separate : parts.Separate) :
    Free ['/', ':', '?'] (String.ofList parts.host) := by
  have noSlash := separate.hostAndPort
  rw [mem_joined, not_or] at noSlash
  apply free_ofList
  simp only [List.forall_mem_cons, List.not_mem_nil]
  exact ⟨noSlash.1, separate.host, (not_mem_of_server separate.server).1, nofun⟩

private theorem path_free {mark : Char} (absent : mark ∉ parts.server) :
    ∀ name ∈ parts.path.map String.ofList, Free [mark] name := by
  intro name isName
  obtain ⟨path, isPath, rfl⟩ := Option.map_eq_some_iff.mp isName
  apply free_ofList
  simp only [List.forall_mem_cons, List.not_mem_nil]
  exact ⟨(not_mem_of_server absent).2 path isPath, nofun⟩

private theorem anonymous_free (separate : parts.Separate) (missing : parts.userinfo = none) :
    Free ['@'] (String.ofList parts.host) ∧
      ∀ name ∈ parts.path.map String.ofList, Free ['@'] name := by
  have noUser := separate.anonymous missing
  refine ⟨?_, path_free noUser⟩
  apply free_ofList
  simp only [List.forall_mem_cons, List.not_mem_nil]
  exact ⟨(not_mem_of_server noUser).1, nofun⟩

end Parts.Separate

/-! ### Parts that are read -/

theorem exists_port {text : List Char} {port : UInt16} (read : readPort text = .ok port) :
    ∃ decimal : Decimal 16, decimal.text.toList = text := by
  unfold readPort at read
  split at read
  · rename_i isRead
    obtain ⟨decimal, spelled, _⟩ := Decimal.exists_of_readNat isRead
    exact ⟨decimal, spelled⟩
  · cases read

private theorem map_toList_ofList (text : Option (List Char)) :
    (text.map String.ofList).map String.toList = text := by
  cases text with
  | none => rfl
  | some text => rw [Option.map_some, Option.map_some, String.toList_ofList]

private theorem exists_userinfo {text : List Char} (noAt : '@' ∉ text) (noQuery : '?' ∉ text) :
    ∃ userinfo : Userinfo, userinfo.text.toList = text := by
  cases cut : cutOff ':' text with
  | mk user password =>
  obtain ⟨noColon, whole⟩ := cutOff_eq_iff.mp cut
  rw [whole, mem_joined, not_or] at noAt noQuery
  have userFree : Free [':', '@', '?'] (String.ofList user) := by
    apply free_ofList
    simp only [List.forall_mem_cons, List.not_mem_nil]
    exact ⟨noColon, noAt.1, noQuery.1, nofun⟩
  have passwordFree : ∀ text ∈ password.map String.ofList, Free ['@', '?'] text := by
    intro text isText
    obtain ⟨rest, isRest, rfl⟩ := Option.map_eq_some_iff.mp isText
    apply free_ofList
    simp only [List.forall_mem_cons, List.not_mem_nil]
    exact ⟨fun member => noAt.2 ⟨rest, isRest, .inr member⟩,
      fun member => noQuery.2 ⟨rest, isRest, .inr member⟩, nofun⟩
  refine ⟨⟨String.ofList user, password.map String.ofList, userFree, passwordFree⟩, ?_⟩
  unfold Userinfo.text
  rw [toList_behind, map_toList_ofList, whole]
  exact congrArg (joined ':' · password) String.toList_ofList

/-- The user of parts that are found, where there is one. -/
theorem Parts.Separate.exists_userinfo? {parts : Parts} (separate : parts.Separate) :
    ∃ userinfo : Option Userinfo,
      (userinfo.map fun userinfo => userinfo.text.toList) = parts.userinfo := by
  cases given : parts.userinfo with
  | none => exact ⟨none, rfl⟩
  | some text =>
      have inFront := separate.front
      rw [Parts.front, given, List.mem_append, not_or] at inFront
      obtain ⟨userinfo, written⟩ := exists_userinfo (separate.userinfo text given) inFront.1
      exact ⟨some userinfo, congrArg some written⟩

/-- The port and the query of what is read are read themselves. -/
theorem reads_of_ofParts {parts : Parts} {config : Config} (read : ofParts parts = .ok config) :
    ∃ port, portOf parts.port = .ok port ∧
      takeQuery (parts.plain port) parts.query = .ok config := by
  rw [ofParts_eq] at read
  cases portRead : portOf parts.port with
  | error fault =>
      rw [portRead] at read
      cases read
  | ok port =>
      rw [portRead] at read
      exact ⟨port, rfl, read⟩

private theorem exists_port? {parts : Parts} {config : Config} (read : ofParts parts = .ok config) :
    ∃ port : Option (Decimal 16),
      (port.map Decimal.text).map String.toList = parts.port := by
  obtain ⟨number, isRead, _⟩ := reads_of_ofParts read
  cases given : parts.port with
  | none => exact ⟨none, rfl⟩
  | some text =>
      rw [given] at isRead
      obtain ⟨port, written⟩ := exists_port isRead
      exact ⟨some port, congrArg some written⟩

private theorem exists_query? {parts : Parts} {config : Config}
    (read : ofParts parts = .ok config) :
    ∃ query : Option (List (Option Setting)),
      (query.map queryText).map String.toList = parts.query ∧ (∀ pieces ∈ query, pieces ≠ []) ∧
        ∀ pieces ∈ query, ∀ setting, some setting ∈ pieces → Free ['&'] setting.value := by
  obtain ⟨number, _, isRead⟩ := reads_of_ofParts read
  cases given : parts.query with
  | none => exact ⟨none, rfl, nofun, nofun⟩
  | some text =>
      rw [given] at isRead
      obtain ⟨pieces, written, full, free⟩ := exists_query isRead
      refine ⟨some pieces, congrArg some written, ?_, ?_⟩
      · rintro _ ⟨⟩
        exact full
      · rintro _ ⟨⟩
        exact free

/-- Parts that are found and read are those of a url. -/
theorem exists_url {parts : Parts} {config : Config} (separate : parts.Separate)
    (read : ofParts parts = .ok config) (scheme : Scheme) :
    ∃ url : Url, url.scheme = scheme ∧ url.parts = parts := by
  obtain ⟨userinfo, isUserinfo⟩ := separate.exists_userinfo?
  obtain ⟨port, isPort⟩ := exists_port? read
  obtain ⟨query, isQuery, full, free⟩ := exists_query? read
  have anonymous : userinfo = none → Free ['@'] (String.ofList parts.host) ∧
      ∀ name ∈ parts.path.map String.ofList, Free ['@'] name := by
    rintro rfl
    exact separate.anonymous_free isUserinfo.symm
  refine ⟨⟨scheme, userinfo, String.ofList parts.host, port, parts.path.map String.ofList, query,
    separate.host_free, Parts.Separate.path_free separate.server, anonymous, full, free⟩, rfl, ?_⟩
  simp only [Url.parts, isUserinfo, String.toList_ofList, isPort, map_toList_ofList, isQuery]

/-! ### Urls -/

theorem exists_url_of_ofUrl {text : String} {config : Config} (read : ofUrl text = .ok config) :
    ∃ url : Url, url.text = text := by
  unfold ofUrl at read
  split at read
  · cases read
  · rename_i scheme rest found
    split at read
    · rename_i known
      obtain ⟨known, isScheme⟩ := isKnownScheme_iff.mp known
      obtain ⟨whole, separate⟩ := Parts.text_ofText rest
      obtain ⟨url, same, parts⟩ := exists_url separate read known
      refine ⟨url, String.toList_inj.mp ?_⟩
      rw [url.toList_text, same, isScheme, parts, whole, Split.onceRun_eq_some found]
    · cases read

/-- Every url is read, as what it says, and nothing but urls is read. -/
theorem ofUrl_exact :
    (∀ url : Url, ofUrl url.text = .ok url.provided.config) ∧
      ∀ text config, ofUrl text = .ok config →
        ∃ url : Url, url.text = text ∧ url.provided.config = config := by
  refine ⟨ofUrl_text, ?_⟩
  intro text config read
  obtain ⟨url, written⟩ := exists_url_of_ofUrl read
  rw [← written, ofUrl_text] at read
  injection read with same
  exact ⟨url, written, same⟩

/-- Parts with each other's marks in them. -/
example :
    (ofUrl "postgresql://a/b:c:/d@h:00080/x@y:/z?host=/run&host=w&&timeout=3&host=/tmp").toOption =
      some
        { user := "a/b"
          password := "c:/d"
          host := "w"
          port := 80
          database := "x@y:/z"
          socketDirectory := some "/tmp"
          timeout := some 3 } := by
  decide +kernel

end PgClient.Config

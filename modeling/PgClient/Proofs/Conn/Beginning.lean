/-
The beginning of a session as its server reads it.

A server takes as much of the first message as its length tells: the version, and then names
and values in turn, each up to a zero byte, until a name is empty. What it reads is what the
client was told to ask for just when no text of the configuration holds a zero byte. A text
that does is taken as it is: it ends early, and what is left of it is read as settings.
-/

import PgClient.Config.Url
import PgClient.Proofs.Conn.Proven

namespace PgClient

/-! ### The server's side -/

namespace StartupMessage

def settings? (bytes : Bytes) : Option (List (String × String) × Bytes) :=
  match named : Reader.text bytes with
  | .error _ => none
  | .ok (name, behindName) =>
      if name.isEmpty then some ([], behindName)
      else
        match valued : Reader.text behindName with
        | .error _ => none
        | .ok (value, rest) =>
            have := Reader.text_length named
            have := Reader.text_length valued
            (settings? rest).map fun further => ((name, value) :: further.1, further.2)
termination_by bytes.length

structure Reading where
  version : UInt32
  settings : List (String × String)
deriving Repr, DecidableEq

def content? (content : Bytes) : Option Reading :=
  match Bytes.uint32? content with
  | none => none
  | some (version, settings) =>
      match settings? settings with
      | some (settings, []) => some { version, settings }
      | _ => none

/-- The first message and what follows it. The settings end where the message does. -/
def read? (input : Bytes) : Option (Reading × Bytes) :=
  match Bytes.uint32? input with
  | none => none
  | some (length, behindLength) =>
      if length.toNat < 4 then none
      else
        match Bytes.take? (length.toNat - 4) behindLength with
        | none => none
        | some (content, rest) => (content? content).map fun reading => (reading, rest)

/-! ### Settings -/

variable {pairs : List (String × String)} {bytes between rest : Bytes} {name value : String}

private theorem settings?_of_end (named : Reader.text bytes = .ok (name, rest))
    (empty : name.isEmpty = true) : settings? bytes = some ([], rest) := by
  rw [settings?]
  split
  · rename_i failed
    rw [named] at failed
    cases failed
  · rename_i same
    rw [named] at same
    cases same
    rw [if_pos empty]

private theorem settings?_of_pair (named : Reader.text bytes = .ok (name, between))
    (notEmpty : name.isEmpty = false) (valued : Reader.text between = .ok (value, rest)) :
    settings? bytes =
      (settings? rest).map fun further => ((name, value) :: further.1, further.2) := by
  rw [settings?]
  split
  · rename_i failed
    rw [named] at failed
    cases failed
  · rename_i same
    rw [named] at same
    cases same
    rw [if_neg (by simp [notEmpty])]
    split
    · rename_i failed
      rw [valued] at failed
      cases failed
    · rename_i same
      rw [valued] at same
      cases same
      rfl

def spell (pair : String × String) : Bytes :=
  FrontendMessage.textBytes pair.1 ++ FrontendMessage.textBytes pair.2

/-- Settings are read up to the empty name, whatever follows it. -/
theorem settings?_spelled (named : ∀ pair ∈ pairs, pair.1.isEmpty = false)
    (zeroFree : ∀ pair ∈ pairs, ZeroFree pair.1 ∧ ZeroFree pair.2) :
    settings? (pairs.flatMap spell ++ 0 :: rest) = some (pairs, rest) := by
  induction pairs with
  | nil =>
      have ends : Reader.text (0 :: rest) = .ok ("", rest) :=
        Reader.text_append "" (by decide) rest
      exact settings?_of_end ends rfl
  | cons pair pairs ih =>
      obtain ⟨nameFree, valueFree⟩ := zeroFree pair List.mem_cons_self
      have further := ih (fun pair member => named pair (List.mem_cons_of_mem _ member))
        (fun pair member => zeroFree pair (List.mem_cons_of_mem _ member))
      have nameRead : ∀ behind, Reader.text (FrontendMessage.textBytes pair.1 ++ behind) =
          .ok (pair.1, behind) := Reader.text_append pair.1 nameFree
      have valueRead : ∀ behind, Reader.text (FrontendMessage.textBytes pair.2 ++ behind) =
          .ok (pair.2, behind) := Reader.text_append pair.2 valueFree
      rw [List.flatMap_cons, spell, List.append_assoc, List.append_assoc,
        settings?_of_pair (nameRead _) (named pair List.mem_cons_self) (valueRead _), further]
      rfl

/-- No text that is read holds a zero byte. -/
theorem zeroFree_of_settings? (read : settings? bytes = some (pairs, rest)) :
    ∀ pair ∈ pairs, ZeroFree pair.1 ∧ ZeroFree pair.2 := by
  fun_induction settings? bytes generalizing pairs rest with
  | case1 => cases read
  | case2 =>
      cases read
      exact nofun
  | case3 => cases read
  | case4 bytes name behindName named notEmpty value between valued _ _ ih =>
      obtain ⟨⟨others, left⟩, further, same⟩ := Option.map_eq_some_iff.mp read
      injection same with same _
      subst same
      exact List.forall_mem_cons.mpr
        ⟨⟨(Reader.text_eq_ok named).1, (Reader.text_eq_ok valued).1⟩, ih further⟩

/-! ### Whole messages -/

private theorem content?_of_settings (version : UInt32) (bytes : Bytes) :
    content? (Bytes.ofUInt32 version ++ bytes) =
      match settings? bytes with
      | some (settings, []) => some { version, settings }
      | _ => none := by
  rw [content?, Bytes.uint32?_ofUInt32]

/-- A message that is too long is given up with no length in front of it. -/
theorem append_unfit {message : StartupMessage} (tooLong : ¬message.Fits) (buffer : Bytes) :
    message.append buffer =
      (.error .oversizedMessage, buffer ++ (Bytes.ofUInt32 0 ++ message.content)) := by
  have refused : FrontendMessage.count32 (4 + message.content.length) =
      .error .oversizedMessage := if_neg tooLong
  unfold append
  dsimp only
  rw [refused]

private theorem read?_bytes {message : StartupMessage} (fits : message.Fits) (rest : Bytes) :
    read? (message.bytes ++ rest) =
      (content? message.content).map fun reading => (reading, rest) := by
  have length : (UInt32.ofNat (4 + message.content.length)).toNat = 4 + message.content.length := by
    rw [UInt32.toNat_ofNat']
    exact Nat.mod_eq_of_lt fits
  have enough : ¬4 + message.content.length < 4 := by omega
  rw [read?, bytes, List.append_assoc, Bytes.uint32?_ofUInt32]
  dsimp only
  rw [length, if_neg enough, Nat.add_sub_cancel_left, Bytes.take?_append]

private theorem read?_iff {message : StartupMessage} (fits : message.Fits) {reading : Reading} :
    read? (message.bytes ++ rest) = some (reading, rest) ↔
      content? message.content = some reading := by
  rw [read?_bytes fits]
  constructor
  · intro read
    obtain ⟨other, found, same⟩ := Option.map_eq_some_iff.mp read
    injection same with same
    rw [found, same]
  · intro found
    rw [found]
    rfl

/-- The settings are read as they are if none of their texts holds a zero byte, and otherwise
they are not. -/
theorem content?_iff {message : StartupMessage}
    (named : ∀ pair ∈ message.pairs, pair.1.isEmpty = false) :
    content? message.content = some { version, settings := message.pairs } ↔
      ∀ pair ∈ message.pairs, ZeroFree pair.1 ∧ ZeroFree pair.2 := by
  have spelled : message.content = Bytes.ofUInt32 version ++ (message.pairs.flatMap spell ++ [0]) :=
    rfl
  rw [spelled, content?_of_settings]
  constructor
  · intro read
    split at read
    · rename_i settings found
      injection read with same
      injection same with _ same
      subst same
      exact zeroFree_of_settings? found
    · cases read
  · intro zeroFree
    rw [settings?_spelled named zeroFree]

end StartupMessage

/-! ### What a configuration asks for -/

namespace Config

def settings (config : Config) : List (String × String) :=
  [("user", config.user), ("database", config.database), ("client_encoding", "UTF8")] ++
    config.applicationName.toList.map fun name => ("application_name", name)

def ZeroFree (config : Config) : Prop :=
  PgClient.ZeroFree config.user ∧ PgClient.ZeroFree config.database ∧
    ∀ name ∈ config.applicationName, PgClient.ZeroFree name

instance (config : Config) : Decidable config.ZeroFree :=
  inferInstanceAs (Decidable (_ ∧ _ ∧ _))

private theorem pairs_startupMessage (config : Config) :
    (Conn.startupMessage config).pairs = config.settings := by
  unfold Conn.startupMessage StartupMessage.pairs settings
  cases config.applicationName with
  | none => rfl
  | some name => rfl

private theorem settings_named (config : Config) :
    ∀ pair ∈ config.settings, pair.1.isEmpty = false := by
  unfold settings
  cases config.applicationName with
  | none => simp
  | some name => simp

private theorem zeroFree_iff (config : Config) :
    (∀ pair ∈ config.settings, PgClient.ZeroFree pair.1 ∧ PgClient.ZeroFree pair.2) ↔
      config.ZeroFree := by
  have names : PgClient.ZeroFree "user" ∧ PgClient.ZeroFree "database" ∧
      PgClient.ZeroFree "client_encoding" ∧ PgClient.ZeroFree "UTF8" ∧
        PgClient.ZeroFree "application_name" := by decide
  unfold settings ZeroFree
  cases config.applicationName with
  | none => simp [names]
  | some name => simp [names]

end Config

namespace Conn

open StartupMessage (read?)

/-- What a server reads at the beginning of a session are the settings of the configuration,
and it ends where the message does, if and only if none of their texts holds a zero byte. The
beginning is written as a whole and before anything else; one too long for its length is not
written at all. -/
theorem startup_read_iff (config : Config) :
    ((startupMessage config).Fits →
      (startupMessage config).append [] = (.ok (), (startupMessage config).bytes) ∧
      ∀ rest,
        read? ((startupMessage config).bytes ++ rest) =
            some ({ version := 196608, settings := config.settings }, rest) ↔
          config.ZeroFree) ∧
    (∀ nonces link conn, startup config nonces { link } = (.established, conn) →
      ∃ answers, conn.link.delivered =
        link.delivered ++ ((startupMessage config).bytes ++ answers)) ∧
    (¬(startupMessage config).Fits → ∀ nonces link,
      (startup config nonces { link }).1 = .failed (.defect .oversizedMessage) ∧
        (startup config nonces { link }).2.link = link) := by
  refine ⟨?_, ?_, ?_⟩
  · intro fits
    have asked := config.pairs_startupMessage
    have named : ∀ pair ∈ (startupMessage config).pairs, pair.1.isEmpty = false := by
      rw [asked]
      exact config.settings_named
    have understood := StartupMessage.content?_iff named
    rw [asked, config.zeroFree_iff] at understood
    refine ⟨StartupMessage.append_fits fits [], fun rest => ?_⟩
    rw [StartupMessage.read?_iff fits]
    exact understood
  · intro nonces link conn established
    obtain ⟨login, _, delivered⟩ := startup_login established
    rw [List.append_assoc] at delivered
    exact ⟨_, delivered⟩
  · intro tooLong nonces link
    unfold startup
    rw [StartupMessage.append_unfit tooLong]
    exact ⟨rfl, rfl⟩

/-- A name may hold what would end a setting in a statement or a url. -/
theorem startup_read_iff_quoted :
    let config : Config := { user := "o'b; \"c\"=&", applicationName := some "" }
    (startupMessage config).Fits ∧ config.ZeroFree ∧
      read? (startupMessage config).bytes =
        some ({ version := 196608, settings :=
          [("user", "o'b; \"c\"=&"), ("database", "postgres"), ("client_encoding", "UTF8"),
            ("application_name", "")] }, []) := by
  intro config
  have fits : (startupMessage config).Fits := by
    unfold StartupMessage.Fits
    decide +kernel
  have zeroFree : config.ZeroFree := by decide +kernel
  have read := (((startup_read_iff config).1 fits).2 []).mpr zeroFree
  rw [List.append_nil] at read
  exact ⟨fits, zeroFree, read⟩

/-- Settings that a url is made to carry in the name of its user. -/
def smuggling : Config :=
  { user := "bob\x00database\x00secret", database := "app", host := "h" }

/-- The url is accepted, and the server is asked for another database first. -/
theorem startup_smuggles :
    (Config.ofUrl "postgres://bob\x00database\x00secret@h/app").toOption = some smuggling ∧
      (startupMessage smuggling).append [] = (.ok (), (startupMessage smuggling).bytes) ∧
      read? (startupMessage smuggling).bytes =
        some ({ version := 196608, settings :=
          [("user", "bob"), ("database", "secret"), ("database", "app"),
            ("client_encoding", "UTF8")] }, []) ∧
      read? (startupMessage smuggling).bytes ≠
        some ({ version := 196608, settings := smuggling.settings }, []) := by
  have fits : (startupMessage smuggling).Fits := by
    unfold StartupMessage.Fits
    decide +kernel
  refine ⟨?_, StartupMessage.append_fits fits [], ?_, ?_⟩
  · decide +kernel
  · decide +kernel
  · decide +kernel

end Conn

end PgClient

/-
What the query of a url sets.

The pieces between the ampersands are settings, each a key and a value, and pieces of which
nothing is made. They are taken in from the left, so that of each kind the last one counts. A
query is taken in exactly where it is made of such pieces.
-/

import PgClient.Proofs.Config.Parts
import PgClient.Proofs.Text.Decimal

namespace PgClient.Config

open Integer (Decimal)

inductive Setting
  | applicationName (name : String)
  | host (place : String)
  | connectTimeout (seconds : Decimal 64)
  | timeout (seconds : Decimal 64)

namespace Setting

def key : Setting → String
  | applicationName _ => "application_name"
  | host _ => "host"
  | connectTimeout _ => "connect_timeout"
  | timeout _ => "timeout"

def value : Setting → String
  | applicationName name => name
  | host place => place
  | connectTimeout seconds => seconds.text
  | timeout seconds => seconds.text

def text (setting : Setting) : String :=
  setting.key ++ "=" ++ setting.value

/-! A host that begins with a slash is a directory, and otherwise a host. -/

def directory? : Setting → Option String
  | host place => if place.toList.head? = some '/' then some place else none
  | _ => none

def host? : Setting → Option String
  | host place => if place.toList.head? = some '/' then none else some place
  | _ => none

def applicationName? : Setting → Option String
  | applicationName name => some name
  | _ => none

def connectTimeout? : Setting → Option Nat
  | connectTimeout seconds => some seconds.number
  | _ => none

def timeout? : Setting → Option Nat
  | timeout seconds => some seconds.number
  | _ => none

end Setting

def latest {α : Type} (value? : Setting → Option α) (settings : List Setting) : Option α :=
  (settings.filterMap value?).getLast?

private theorem latest_nil {α : Type} (value? : Setting → Option α) : latest value? [] = none := rfl

private theorem latest_cons {α : Type} (value? : Setting → Option α) (setting : Setting)
    (settings : List Setting) :
    latest value? (setting :: settings) = (latest value? settings).or (value? setting) := by
  unfold latest
  cases found : value? setting with
  | none => rw [List.filterMap_cons_none found, Option.or_none]
  | some value =>
      rw [List.filterMap_cons_some found, List.getLast?_cons]
      cases (settings.filterMap value?).getLast? with
      | none => rfl
      | some last => rfl

/-- What settings come to, one after the other: of each kind the last. -/
def withSettings (config : Config) (settings : List Setting) : Config :=
  { config with
    host := (latest Setting.host? settings).getD config.host
    socketDirectory := (latest Setting.directory? settings).or config.socketDirectory
    applicationName := (latest Setting.applicationName? settings).or config.applicationName
    connectTimeout := (latest Setting.connectTimeout? settings).or config.connectTimeout
    timeout := (latest Setting.timeout? settings).or config.timeout }

private theorem withSettings_cons (config : Config) (setting : Setting) (settings : List Setting) :
    config.withSettings (setting :: settings) =
      (config.withSettings [setting]).withSettings settings := by
  simp only [withSettings, latest_cons, latest_nil, Option.none_or, Option.or_assoc,
    Option.getD_or]

private theorem withSettings_singleton (config : Config) (setting : Setting) :
    config.withSettings [setting] =
      { config with
        host := setting.host?.getD config.host
        socketDirectory := setting.directory?.or config.socketDirectory
        applicationName := setting.applicationName?.or config.applicationName
        connectTimeout := setting.connectTimeout?.or config.connectTimeout
        timeout := setting.timeout?.or config.timeout } := by
  simp only [withSettings, latest_cons, latest_nil, Option.none_or]

private theorem readSeconds_text (seconds : Decimal 64) :
    readSeconds seconds.text.toList = .ok seconds.number := by
  rw [readSeconds, seconds.readNat_text]

private theorem setKey_setting (config : Config) (setting : Setting) :
    setKey config setting.key.toList setting.value.toList =
      .ok (config.withSettings [setting]) := by
  rw [withSettings_singleton, setKey, String.ofList_toList]
  cases setting with
  | applicationName name =>
      simp only [Setting.key, Setting.value, String.ofList_toList]
      rfl
  | host place =>
      simp only [Setting.key, Setting.value, String.ofList_toList, Setting.host?,
        Setting.directory?]
      by_cases slash : place.toList.head? = some '/'
      · simp only [if_pos slash]
        rfl
      · simp only [if_neg slash]
        rfl
  | connectTimeout seconds =>
      simp only [Setting.key, Setting.value, readSeconds_text]
      rfl
  | timeout seconds =>
      simp only [Setting.key, Setting.value, readSeconds_text]
      rfl

/-- Where something is made of a number of seconds, the number was spelled out. -/
theorem exists_seconds {text : List Char} {further : Nat → Except Fault Config} {after : Config}
    (read : readSeconds text >>= further = .ok after) :
    ∃ seconds : Decimal 64, seconds.text.toList = text := by
  cases isRead : Integer.readNat 64 text with
  | error fault =>
      rw [readSeconds, isRead] at read
      cases read
  | ok number =>
      obtain ⟨seconds, spelled, _⟩ := Decimal.exists_of_readNat isRead
      exact ⟨seconds, spelled⟩

/-- Nothing else is taken in. -/
theorem exists_setting {config after : Config} {key value : List Char}
    (set : setKey config key value = .ok after) :
    ∃ setting : Setting, setting.key.toList = key ∧ setting.value.toList = value := by
  have isKey : ∀ {name : String}, String.ofList key = name → name.toList = key := by
    rintro _ rfl
    exact String.toList_ofList
  unfold setKey at set
  split at set
  · rename_i same
    exact ⟨.host (String.ofList value), isKey same, String.toList_ofList⟩
  · rename_i same
    exact ⟨.applicationName (String.ofList value), isKey same, String.toList_ofList⟩
  · rename_i same
    obtain ⟨seconds, spelled⟩ := exists_seconds set
    exact ⟨.connectTimeout seconds, isKey same, spelled⟩
  · rename_i same
    obtain ⟨seconds, spelled⟩ := exists_seconds set
    exact ⟨.timeout seconds, isKey same, spelled⟩
  · cases set

/-! Between two ampersands there is a setting or nothing. -/

private theorem Setting.key_marks (setting : Setting) :
    '=' ∉ setting.key.toList ∧ '&' ∉ setting.key.toList := by
  cases setting <;> simp only [Setting.key] <;> decide

def piece : Option Setting → String
  | none => ""
  | some setting => setting.text

private theorem Setting.toList_text (setting : Setting) :
    setting.text.toList = setting.key.toList ++ '=' :: setting.value.toList := by
  rw [Setting.text, String.toList_append, String.toList_append, List.append_assoc]
  rfl

theorem setPairs_pieces (config : Config) (pieces : List (Option Setting)) :
    setPairs config (pieces.map fun one => (piece one).toList) =
      .ok (config.withSettings pieces.reduceOption) := by
  induction pieces generalizing config with
  | nil => rfl
  | cons one pieces ih =>
      cases one with
      | none => exact ih config
      | some setting =>
          have notEmpty : ¬(setting.text.toList.isEmpty = true) := by
            rw [setting.toList_text, List.isEmpty_iff]
            exact List.append_ne_nil_of_right_ne_nil _ (List.cons_ne_nil _ _)
          rw [List.map_cons, setPairs, piece, if_neg notEmpty, setting.toList_text,
            Split.once_append setting.key_marks.1]
          dsimp only
          rw [setKey_setting]
          dsimp only
          rw [ih, ← withSettings_cons]
          rfl

private theorem exists_pieces {config after : Config} {pairs : List (List Char)}
    (taken : setPairs config pairs = .ok after) :
    ∃ pieces : List (Option Setting), (pieces.map fun one => (piece one).toList) = pairs := by
  induction pairs generalizing config with
  | nil => exact ⟨[], rfl⟩
  | cons pair pairs ih =>
      rw [setPairs] at taken
      split at taken
      · rename_i empty
        obtain ⟨pieces, spelled⟩ := ih taken
        refine ⟨none :: pieces, ?_⟩
        rw [List.map_cons, spelled, List.isEmpty_iff.mp empty]
        rfl
      · split at taken
        · cases taken
        · rename_i key value found
          split at taken
          · cases taken
          · rename_i next set
            obtain ⟨pieces, spelled⟩ := ih taken
            obtain ⟨setting, isKey, isValue⟩ := exists_setting set
            refine ⟨some setting :: pieces, ?_⟩
            rw [List.map_cons, spelled, piece, setting.toList_text, isKey, isValue,
              ← (Split.once_eq_some found).1]

/-! ### Queries -/

def queryText (pieces : List (Option Setting)) : String :=
  String.intercalate "&" (pieces.map piece)

theorem every_queryText {pieces : List (Option Setting)} (full : pieces ≠ [])
    (free : ∀ setting, some setting ∈ pieces → Free ['&'] setting.value) :
    Split.every '&' (queryText pieces).toList = pieces.map fun one => (piece one).toList := by
  have absent : ∀ text ∈ pieces.map fun one => (piece one).toList, '&' ∉ text := by
    intro text member
    obtain ⟨one, among, rfl⟩ := List.mem_map.mp member
    cases one with
    | none => exact List.not_mem_nil
    | some setting =>
        rw [piece, Setting.toList_text, List.mem_append, List.mem_cons, not_or, not_or]
        exact ⟨setting.key_marks.2, by decide, free setting among '&' (by decide)⟩
  have notNil : (pieces.map fun one => (piece one).toList) ≠ [] :=
    fun nil => full (List.map_eq_nil_iff.mp nil)
  rw [Split.every_eq_splitOn, queryText, String.toList_intercalate, List.map_map]
  exact List.splitOn_intercalate '&' absent notNil

theorem exists_query {text : List Char} {before after : Config}
    (taken : setPairs before (Split.every '&' text) = .ok after) :
    ∃ pieces : List (Option Setting), (queryText pieces).toList = text ∧ pieces ≠ [] ∧
      ∀ setting, some setting ∈ pieces → Free ['&'] setting.value := by
  obtain ⟨pieces, spelled⟩ := exists_pieces taken
  refine ⟨pieces, ?_, ?_, ?_⟩
  · rw [queryText, String.toList_intercalate, List.map_map]
    change ['&'].intercalate (pieces.map fun one => (piece one).toList) = text
    rw [spelled, Split.every_eq_splitOn, List.intercalate_splitOn]
  · rintro rfl
    exact Split.every_ne_nil '&' text spelled.symm
  · intro setting among mark isMark inValue
    have written : setting.text.toList ∈ Split.every '&' text := by
      rw [← spelled]
      exact List.mem_map.mpr ⟨some setting, among, rfl⟩
    apply Split.not_mem_of_mem_every written
    rw [← List.mem_singleton.mp isMark, setting.toList_text]
    exact List.mem_append_right _ (List.mem_cons_of_mem _ inValue)

end PgClient.Config

/-
What becomes of a portal.

The record of what was asked tells whether a declaration has been granted, and what the last
description that has succeeded told. The state and the description of a portal are what
these two make them, however the exchanges on it have ended.
-/

import PgClient.Proofs.Cursor.Granted

namespace PgClient

variable {τ : Type} [Transport τ]

/-! ### What is told of a portal -/

namespace Asked

variable {declaration command : Command} {name : String} {result : QueryResult}
  {earlier log : List Asked}

def fields? (name : String) (asked : Asked) : Option (List Field) :=
  if asked.command = .describePortal name then asked.success?.map (·.fields) else none

/-- What the last description that has succeeded told of the portal. -/
def lastFields (name : String) (log : List Asked) : Option (List Field) :=
  log.findSome? (fields? name)

def grants (command : Command) (log : List Asked) : Bool :=
  log.any fun asked => asked.command = command && asked.success?.isSome

private theorem lastFields_cons (asked : Asked) :
    lastFields name (asked :: log) = (asked.fields? name).or (lastFields name log) := by
  unfold lastFields
  rw [List.findSome?_cons]
  cases asked.fields? name with
  | none => rfl
  | some fields => rfl

theorem lastFields_append (later : List Asked) :
    lastFields name (later ++ log) = (lastFields name later).or (lastFields name log) := by
  unfold lastFields
  exact List.findSome?_append

private theorem lastFields_denied (denied : Denied command earlier log) :
    lastFields name log = lastFields name earlier := by
  rcases denied with rfl | ⟨asked, rfl, _, failed⟩
  · rfl
  · rw [lastFields_cons, fields?, failed]
    simp only [Option.map_none, ite_self, Option.none_or]

private theorem grants_denied (denied : Denied command earlier log) :
    grants declaration log = grants declaration earlier := by
  rcases denied with rfl | ⟨asked, rfl, _, failed⟩
  · rfl
  · rw [grants, List.any_cons, failed, Option.isSome_none, Bool.and_false, Bool.false_or]
    rfl

private theorem lastFields_granted (granted : Granted (.describePortal name) result earlier log) :
    lastFields name log = some result.fields := by
  obtain ⟨asked, rfl, isCommand, succeeded⟩ := granted
  rw [lastFields_cons, fields?, if_pos isCommand, succeeded]
  rfl

private theorem lastFields_cons_of_ne {asked : Asked}
    (other : asked.command ≠ .describePortal name) :
    lastFields name (asked :: log) = lastFields name log := by
  rw [lastFields_cons, fields?, if_neg other, Option.none_or]

private theorem lastFields_granted_of_ne (granted : Granted command result earlier log)
    (other : command ≠ .describePortal name) :
    lastFields name log = lastFields name earlier := by
  obtain ⟨asked, rfl, rfl, _⟩ := granted
  exact lastFields_cons_of_ne other

private theorem grants_granted (granted : Granted declaration result earlier log) :
    grants declaration log = true := by
  obtain ⟨asked, rfl, isCommand, succeeded⟩ := granted
  rw [grants, List.any_cons, succeeded]
  simp only [isCommand, decide_true, Option.isSome_some, Bool.and_self, Bool.true_or]

private theorem grants_granted_of_ne (granted : Granted command result earlier log)
    (other : command ≠ declaration) :
    grants declaration log = grants declaration earlier := by
  obtain ⟨asked, rfl, rfl, _⟩ := granted
  rw [grants, List.any_cons]
  simp only [other, decide_false, Bool.false_and, Bool.false_or]
  rfl

end Asked

open Asked (lastFields grants)

def declaration (name query : String) (parameters : List Parameter) (options : DeclareOptions) :
    Command :=
  .ofQuery (CursorStatement.declare name options query).sql parameters

private theorem ofQuery_ne_describePortal (sql name : String) (parameters : List Parameter) :
    Command.ofQuery sql parameters ≠ .describePortal name := by
  unfold Command.ofQuery
  split
  · nofun
  · nofun

theorem declare_front (name query : String) (options : DeclareOptions) :
    ∃ rest, (CursorStatement.declare name options query).sql = "declare " ++ rest := by
  unfold CursorStatement.sql
  simp only [String.append_assoc]
  exact ⟨_, rfl⟩

private theorem declare_ne_begin (name query : String) (options : DeclareOptions) :
    (CursorStatement.declare name options query).sql ≠ "BEGIN" := by
  intro same
  obtain ⟨rest, front⟩ := declare_front name query options
  rw [front] at same
  have letters := congrArg String.toList same
  rw [String.toList_append] at letters
  have first : "declare ".toList.head? = "BEGIN".toList.head? := by
    rw [← letters]
    rfl
  exact absurd first (by decide)

private theorem startCommand_ne_declaration (name query : String) (parameters : List Parameter)
    (options : DeclareOptions) :
    Transactional.startCommand ≠ declaration name query parameters options := by
  unfold Transactional.startCommand declaration Command.ofQuery
  split
  · intro same
    injection same with same
    exact declare_ne_begin name query options same.symm
  · nofun

/-! ### What becomes of a portal -/

/-- The state and the description follow from what was granted. -/
structure Portal.Heeds (declared : Bool) (log : List Asked) (before after : Portal) : Prop where
  name : after.name = before.name
  state : after.state =
    if (lastFields before.name log).isSome then .described
    else if declared then .declared else before.state
  description : after.description = (lastFields before.name log).or before.description

namespace Portal.Heeds

variable {declared : Bool} {log : List Asked} {before after : Portal}

private theorem of_untold (untold : lastFields before.name log = none)
    (name : after.name = before.name)
    (state : after.state = if declared then .declared else before.state)
    (description : after.description = before.description) : before.Heeds declared log after := by
  refine ⟨name, ?_, ?_⟩
  · rw [untold]
    exact state
  · rw [untold]
    exact description

private theorem of_told {fields : List Field} (told : lastFields before.name log = some fields)
    (name : after.name = before.name) (state : after.state = .described)
    (description : after.description = some fields) : before.Heeds declared log after := by
  refine ⟨name, ?_, ?_⟩
  · rw [told]
    exact state
  · rw [told]
    exact description

end Portal.Heeds

private theorem Transactional.begun_unknown {name : String} {earlier : List Asked}
    (begun : Begun earlier) :
    lastFields name earlier = none := by
  rcases begun with rfl | ⟨result, granted⟩
  · rfl
  · exact Asked.lastFields_granted_of_ne granted nofun

private theorem Transactional.begun_undeclared {name : String} {earlier : List Asked}
    (query : String) (parameters : List Parameter) (options : DeclareOptions)
    (begun : Begun earlier) :
    grants (declaration name query parameters options) earlier = false := by
  rcases begun with rfl | ⟨result, granted⟩
  · rfl
  · exact Asked.grants_granted_of_ne granted (startCommand_ne_declaration _ _ _ _)

section Executing

variable {query : String} {parameters : List Parameter} {options : DeclareOptions}
  {portal : Portal} {earlier log : List Asked} {outcome : Except Failure Unit}

/-- What a declaration, be it after the start of a transaction, has come to. -/
structure Portal.Executed (declaration : Command) (outcome : Except Failure Unit)
    (log : List Asked) (before after : Portal) : Prop where
  heeds : Heeds (grants declaration log) log before after
  described : (lastFields before.name log).isSome = true →
    grants declaration log = true ∧ outcome = .ok ()

private theorem Portal.Executed.of_untold {declaration : Command} {before after : Portal}
    {granted : Bool} (untold : lastFields before.name log = none)
    (isGranted : grants declaration log = granted) (name : after.name = before.name)
    (state : after.state = if granted then .declared else before.state)
    (description : after.description = before.description) :
    before.Executed declaration outcome log after := by
  subst isGranted
  refine ⟨.of_untold untold name state description, ?_⟩
  intro told
  rw [untold] at told
  cases told

private theorem Declaring.executed_of_over {declaring : Declaring}
    (ended : Over (declaration portal.name query parameters options) portal earlier outcome
      declaring log)
    (unknown : lastFields portal.name earlier = none)
    (undeclared : grants (declaration portal.name query parameters options) earlier = false) :
    portal.Executed (declaration portal.name query parameters options) outcome log
      declaring.portal := by
  have isNoDescription : declaration portal.name query parameters options ≠
      .describePortal portal.name := ofQuery_ne_describePortal _ _ _
  cases ended with
  | denied denied =>
      have fields := (Asked.lastFields_denied denied).trans unknown
      have acknowledgement := (Asked.grants_denied denied).trans undeclared
      exact .of_untold fields acknowledgement rfl rfl rfl
  | undescribed granted denied =>
      have fields := ((Asked.lastFields_denied denied).trans
        (Asked.lastFields_granted_of_ne granted isNoDescription)).trans unknown
      have acknowledgement := (Asked.grants_denied denied).trans
        (Asked.grants_granted granted)
      exact .of_untold fields acknowledgement rfl rfl rfl
  | described granted known =>
      have fields := Asked.lastFields_granted known
      have acknowledgement := (Asked.grants_granted_of_ne known isNoDescription.symm).trans
        (Asked.grants_granted granted)
      exact ⟨.of_told fields rfl rfl rfl, fun _ => ⟨acknowledgement, rfl⟩⟩

theorem Transactional.executed_of_over {trip : RoundTrip} {exchange : Transactional Declaring}
    (ended : Over ⟨portal, false, trip⟩
      (Declaring.Over (declaration portal.name query parameters options) portal) outcome exchange
      log) :
    portal.Executed (declaration portal.name query parameters options) outcome log
      exchange.inner.portal := by
  cases ended with
  | denied denied =>
      have fields : lastFields portal.name log = none := Asked.lastFields_denied denied
      have acknowledgement :
          grants (declaration portal.name query parameters options) log = false :=
        Asked.grants_denied denied
      exact .of_untold fields acknowledgement rfl rfl rfl
  | within begun ended =>
      exact Declaring.executed_of_over ended (begun_unknown begun)
        (begun_undeclared query parameters options begun)

end Executing

section Working

variable {portal known : Portal} {missing : Bool} {log : List Asked}

private theorem Working.heeds_of_known (knows : Known portal [] missing known log) :
    portal.Heeds false log known := by
  cases knows with
  | already => exact ⟨rfl, rfl, rfl⟩
  | described granted =>
      exact .of_told (Asked.lastFields_granted granted) rfl rfl rfl

/-- What follows the description, if it does not describe the portal, leaves that as it is. -/
theorem Working.heeds_later {earlier : List Asked} (heeds : portal.Heeds false earlier known)
    (same : lastFields portal.name log = lastFields portal.name earlier)
    (last : Option QueryResult) :
    portal.Heeds false log { known with lastResult := last } := by
  refine ⟨heeds.name, ?_, ?_⟩
  · rw [same]
    exact heeds.state
  · rw [same]
    exact heeds.description

theorem Working.heeds_of_over {fetching : Bool} {statement : Option Command} {after : Portal}
    {outcome : Except Failure (List Row)}
    (ended : Over portal missing statement fetching [] outcome after log)
    (plain : statement ≠ some (.describePortal portal.name)) : portal.Heeds false log after := by
  cases ended with
  | undescribed isMissing denied =>
      have fields : lastFields portal.name log = none := Asked.lastFields_denied denied
      exact .of_untold fields rfl rfl rfl
  | described isMissing alone granted =>
      exact .of_told (Asked.lastFields_granted granted) rfl rfl rfl
  | denied isStatement knows denied =>
      exact heeds_later (heeds_of_known knows) (Asked.lastFields_denied denied) _
  | @granted result command known between log isStatement knows granted =>
      have other : command ≠ .describePortal portal.name := by
        rintro rfl
        exact plain isStatement
      have fields := Asked.lastFields_granted_of_ne granted other
      cases fetching with
      | false => exact heeds_later (heeds_of_known knows) fields _
      | true => exact heeds_later (heeds_of_known knows) fields _

end Working

end PgClient

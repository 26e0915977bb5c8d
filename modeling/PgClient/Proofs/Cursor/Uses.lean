/-
Uses of a cursor.

A cursor is used for one of five operations, in some manner, and with the session as it is
by then. A use that the state of the cursor does not allow is refused and does nothing at
all. Any other can be watched, and then what becomes of the portal is told by what was
asked.
-/

import PgClient.Proofs.Cursor.Heeded

namespace PgClient

variable {τ : Type} [Transport τ]

namespace Cursor

inductive Operation
  | execute (query : String) (parameters : List Parameter) (options : DeclareOptions)
  | describe
  | fetch (count : Option Nat)
  | scroll (value : Int64) (mode : ScrollMode)
  | close

structure Performed (τ : Type) where
  outcome : Except Failure Unit
  cursor : Cursor
  session : Session τ

namespace Operation

/-- Why a cursor in this state does not allow the operation. -/
def refusal? (state : CursorState) : Operation → Option StateFault
  | close => none
  | execute _ _ _ =>
      match state with
      | .unbound => none
      | .closed => some .cursorClosed
      | _ => some .cursorAlreadyExecuted
  | describe | fetch _ | scroll _ _ =>
      match state with
      | .unbound => some .cursorNotExecuted
      | .closed => some .cursorClosed
      | _ => none

/-- What a call has come to, but for its rows. -/
def report {α : Type} (told : Except Failure α × Cursor × Session τ) : Performed τ :=
  ⟨told.1.map fun _ => (), told.2.1, told.2.2⟩

def perform (manner : Manner) (cursor : Cursor) (session : Session τ) : Operation → Performed τ
  | execute query parameters options =>
      report (cursor.execute manner query parameters options session)
  | describe => report (cursor.describe manner session)
  | fetch count => report (cursor.fetch manner count session)
  | scroll value mode => report (cursor.scroll manner value mode session)
  | close => report (cursor.close manner session)

def statement? (name : String) : Operation → Option CursorStatement
  | fetch count => some (.fetch name count)
  | scroll value mode => some (.move name mode value.toInt)
  | _ => none

def describes (state : CursorState) : Operation → Bool
  | describe => true
  | _ => state = .declared

def isFetch : Operation → Bool
  | fetch _ => true
  | _ => false

def place (told : Except Failure (List Row)) (position : Int64) (operation : Operation) : Int64 :=
  match told, operation with
  | .error _, _ => position
  | .ok rows, fetch _ => position + Int64.ofNat rows.length
  | .ok _, scroll value .relative => position + value
  | .ok _, scroll value .absolute => value
  | .ok _, execute _ _ _ => 0
  | .ok _, _ => position

/-- What has come of an operation that works on a portal. -/
structure Works (operation : Operation) (cursor : Cursor) (told : Except Failure (List Row))
    (log : List Asked) (outcome : Except Failure Unit) (after : Cursor) : Prop where
  ended : Working.Over cursor.portal (operation.describes cursor.state)
    ((operation.statement? cursor.name).map fun statement => .query statement.sql)
    operation.isFetch [] told after.portal log
  outcome : outcome = told.map fun _ => ()
  position : after.position = operation.place told cursor.position

end Operation

/-- An operation, the manner in which it is called, and the session as it is by then. -/
structure Use (τ : Type) where
  manner : Manner
  operation : Operation
  session : Session τ

namespace Use

/-- The session, with a record that is kept from here on. -/
def watched (use : Use τ) : Session (Observed τ) :=
  { use.session with transport := { transport := use.session.transport } }

def performed (use : Use τ) (cursor : Cursor) : Performed τ :=
  use.operation.perform use.manner cursor use.session

def asked (use : Use τ) (cursor : Cursor) : List Asked :=
  (use.operation.perform use.manner cursor use.watched).session.transport.log

end Use

/-! ### Refusals -/

section Refusals

variable {cursor : Cursor} {fault : StateFault}

private theorem checkUnbound_refused {query : String} {parameters : List Parameter}
    {options : DeclareOptions}
    (refused : (Operation.execute query parameters options).refusal? cursor.state = some fault) :
    cursor.portal.checkUnbound = .error (Error.ofState fault) := by
  unfold Portal.checkUnbound
  change Operation.refusal? cursor.portal.state _ = _ at refused
  cases state : cursor.portal.state with
  | unbound =>
      rw [state] at refused
      cases refused
  | _ =>
      rw [state] at refused
      cases refused
      rfl

private theorem checkUnbound_allowed (unbound : cursor.state = .unbound) :
    cursor.portal.checkUnbound = .ok () := by
  have isUnbound : cursor.portal.state = .unbound := unbound
  unfold Portal.checkUnbound
  rw [isUnbound]

theorem checkOpen_allowed (allowed : Operation.describe.refusal? cursor.state = none) :
    cursor.portal.checkOpen = .ok () := by
  unfold Portal.checkOpen
  change Operation.refusal? cursor.portal.state _ = _ at allowed
  cases state : cursor.portal.state with
  | declared => rfl
  | described => rfl
  | _ =>
      rw [state] at allowed
      cases allowed

theorem checkOpen_refused (refused : Operation.describe.refusal? cursor.state = some fault) :
    cursor.portal.checkOpen = .error (Error.ofState fault) := by
  unfold Portal.checkOpen
  change Operation.refusal? cursor.portal.state _ = _ at refused
  cases state : cursor.portal.state with
  | unbound =>
      rw [state] at refused
      cases refused
      rfl
  | closed =>
      rw [state] at refused
      cases refused
      rfl
  | _ =>
      rw [state] at refused
      cases refused

private theorem Operation.perform_refused {operation : Operation} (manner : Manner)
    (session : Session τ) (refused : operation.refusal? cursor.state = some fault) :
    operation.perform manner cursor session =
      ⟨.error (.error (Error.ofState fault)), cursor, session⟩ := by
  cases operation with
  | execute query parameters options =>
      have stopped := checkUnbound_refused refused
      simp only [perform, Cursor.execute, Portal.declare, stopped]
      rfl
  | describe =>
      have stopped := checkOpen_refused refused
      simp only [perform, Cursor.describe, Portal.describe, stopped, work]
      rfl
  | fetch count =>
      have stopped := checkOpen_refused refused
      simp only [perform, Cursor.fetch, Portal.fetch, Portal.work, stopped, work]
      rfl
  | scroll value mode =>
      have stopped := checkOpen_refused refused
      simp only [perform, Cursor.scroll, Portal.scroll, Portal.work, stopped, work]
      rfl
  | close => cases refused

end Refusals

/-! ### Uses that are watched -/

section Watched

variable {cursor : Cursor} {session : Session (Observed τ)}

/-- The portal that is to be declared has been declared and described as far as the record
tells. -/
theorem execute_over (manner : Manner) (query : String) (parameters : List Parameter)
    (options : DeclareOptions) (unbound : cursor.state = .unbound)
    (fresh : session.transport.log = []) :
    let command := declaration cursor.name query parameters options
    let portal := { cursor.portal with hold := options.hold }
    let told := cursor.execute manner query parameters options session
    ∃ exchange, Transactional.Over ⟨portal, false, .unsent command⟩ (Declaring.Over command portal)
        told.1 exchange told.2.2.transport.log ∧
      told.2.1.portal = exchange.inner.portal := by
  let command := declaration cursor.name query parameters options
  let portal := { cursor.portal with hold := options.hold }
  let declaring : Declaring := { portal, trip := .unsent command }
  have allowed : cursor.portal.declare query parameters options = .ok declaring := by
    unfold Portal.declare
    rw [checkUnbound_allowed unbound]
    rfl
  unfold execute
  simp only [allowed]
  cases session.checkOpen with
  | error error => exact ⟨⟨none, declaring⟩, .denied (.inl fresh), rfl⟩
  | ok checked =>
      have begins (earlier : List Asked) :
          Declaring.Going command portal earlier ⟨portal, false, .unsent command⟩ earlier :=
        .declaring .unsent
      have ended := Session.run_tells (Transactional.tells begins (Declaring.tells command portal))
        manner (session.inTransaction declaring) session
        (Transactional.going_inTransaction declaring fresh begins)
      dsimp only
      generalize session.run manner (session.inTransaction declaring) = answered at ended ⊢
      obtain ⟨outcome, exchange, after⟩ := answered
      cases outcome with
      | error failure => exact ⟨exchange, ended, rfl⟩
      | ok done => exact ⟨exchange, ended, rfl⟩

private theorem executed_of_over {query : String} {parameters : List Parameter}
    {options : DeclareOptions} {hold : Bool} {trip : RoundTrip} {outcome : Except Failure Unit}
    {exchange : Transactional Declaring} {log : List Asked} {after : Portal}
    (ended : Transactional.Over ⟨{ cursor.portal with hold }, false, trip⟩
      (Declaring.Over (declaration cursor.name query parameters options)
        { cursor.portal with hold }) outcome exchange log)
    (same : after = exchange.inner.portal) :
    cursor.portal.Executed (declaration cursor.name query parameters options) outcome log
      after := by
  obtain ⟨⟨name, state, description⟩, described⟩ := Transactional.executed_of_over ended
  rw [same]
  exact ⟨⟨name, state, description⟩, described⟩

private theorem work_over (manner : Manner) {working : Working} {missing fetching : Bool}
    {statement : Option Command} (own : working.portal = cursor.portal)
    (going : Working.Going cursor.portal missing statement fetching session.transport.log working
      session.transport.log) :
    let told := cursor.work manner (.ok working) session
    Working.Over cursor.portal missing statement fetching session.transport.log told.1
        told.2.1.portal told.2.2.transport.log ∧
      told.2.1 = { cursor with portal := told.2.1.portal } := by
  have tells := Working.tells (τ := τ) cursor.portal missing statement fetching
    session.transport.log
  unfold work
  cases session.checkOpen with
  | error error =>
      have cut := tells.cut (.error error) working session.transport.log going
      rw [own] at cut
      exact ⟨cut, rfl⟩
  | ok checked => exact ⟨session.run_tells tells manner working going, rfl⟩

theorem workOn_over (manner : Manner) (session : Session (Observed τ))
    (statement : CursorStatement) (fetching : Bool)
    (allowed : Operation.describe.refusal? cursor.state = none) :
    let told := cursor.work manner (cursor.portal.work statement fetching) session
    Working.Over cursor.portal (cursor.state = .declared) (some (.query statement.sql)) fetching
        session.transport.log told.1 told.2.1.portal told.2.2.transport.log ∧
      told.2.1 = { cursor with portal := told.2.1.portal } := by
  unfold Portal.work
  rw [checkOpen_allowed allowed]
  apply work_over manner
  · rfl
  · by_cases declared : cursor.portal.state = .declared
    · rw [if_pos declared]
      exact .describing (decide_eq_true declared) .unsent
    · have known : decide (cursor.state = .declared) = false := decide_eq_false declared
      rw [if_neg declared, known]
      exact .working rfl .already .unsent

private theorem perform_works (manner : Manner) {operation : Operation}
    (noClose : operation ≠ .close)
    (noExecute : ∀ query parameters options, operation ≠ .execute query parameters options)
    (allowed : operation.refusal? cursor.state = none) (fresh : session.transport.log = []) :
    let performed := operation.perform manner cursor session
    ∃ told, operation.Works cursor told performed.session.transport.log performed.outcome
      performed.cursor := by
  cases operation with
  | close => exact absurd rfl noClose
  | execute query parameters options => exact absurd rfl (noExecute query parameters options)
  | describe =>
      have describing : cursor.portal.describe =
          .ok ⟨cursor.portal, some cursor.portal.describeTrip, none, false⟩ := by
        unfold Portal.describe
        rw [checkOpen_allowed allowed]
      have ended : let told := cursor.work manner cursor.portal.describe session
          Working.Over cursor.portal true none false session.transport.log told.1
              told.2.1.portal told.2.2.transport.log ∧
            told.2.1 = { cursor with portal := told.2.1.portal } := by
        rw [describing]
        exact work_over manner rfl (.describing rfl .unsent)
      rw [fresh] at ended
      simp only [Operation.perform, Operation.report, Cursor.describe]
      generalize cursor.work manner cursor.portal.describe session = told at ended ⊢
      obtain ⟨outcome, next, after⟩ := told
      obtain ⟨ended, same⟩ := ended
      have place : next.position = _ := congrArg Cursor.position same
      refine ⟨outcome, ?_⟩
      cases outcome with
      | error failure => exact ⟨ended, rfl, place⟩
      | ok rows => exact ⟨ended, rfl, place⟩
  | fetch count =>
      have ended :=
        workOn_over manner session (.fetch cursor.portal.name count) true allowed
      rw [fresh] at ended
      simp only [Operation.perform, Operation.report, Cursor.fetch, Portal.fetch]
      generalize cursor.work manner _ session = told at ended ⊢
      obtain ⟨outcome, next, after⟩ := told
      obtain ⟨ended, same⟩ := ended
      have place : next.position = _ := congrArg Cursor.position same
      refine ⟨outcome, ?_⟩
      cases outcome with
      | error failure => exact ⟨ended, rfl, place⟩
      | ok rows => exact ⟨ended, rfl, congrArg (· + Int64.ofNat rows.length) place⟩
  | scroll value mode =>
      have ended :=
        workOn_over manner session (.move cursor.portal.name mode value.toInt) false allowed
      rw [fresh] at ended
      simp only [Operation.perform, Operation.report, Cursor.scroll, Portal.scroll]
      generalize cursor.work manner _ session = told at ended ⊢
      obtain ⟨outcome, next, after⟩ := told
      obtain ⟨ended, same⟩ := ended
      have place : next.position = _ := congrArg Cursor.position same
      refine ⟨outcome, ?_⟩
      cases outcome with
      | error failure => exact ⟨ended, rfl, place⟩
      | ok rows =>
          cases mode with
          | relative => exact ⟨ended, rfl, congrArg (· + value) place⟩
          | absolute => exact ⟨ended, rfl, rfl⟩

end Watched

/-! ### Uses of any session -/

section Uses

variable {σ : Type} [Transport σ] {view : σ → τ}

def Performed.through (view : σ → τ) (performed : Performed σ) : Performed τ :=
  ⟨performed.outcome, performed.cursor, performed.session.through view⟩

private theorem Operation.perform_through (isView : Transport.IsView view) (manner : Manner)
    (cursor : Cursor) (session : Session σ) (operation : Operation) :
    operation.perform manner cursor (session.through view) =
      (operation.perform manner cursor session).through view := by
  unfold perform
  cases operation with
  | execute query parameters options =>
      dsimp only
      rw [execute_through isView]
      rfl
  | describe =>
      dsimp only
      rw [describe_through isView]
      rfl
  | fetch count =>
      dsimp only
      rw [fetch_through isView]
      rfl
  | scroll value mode =>
      dsimp only
      rw [scroll_through isView]
      rfl
  | close =>
      dsimp only
      rw [close_through isView]
      rfl

variable {use : Use τ} {cursor : Cursor}

/-- A use is the same where it is watched. -/
theorem Use.performed_watched :
    use.performed cursor =
      (use.operation.perform use.manner cursor use.watched).through Observed.transport :=
  Operation.perform_through Observed.transport_isView use.manner cursor use.watched use.operation

theorem Use.executes {query : String} {parameters : List Parameter} {options : DeclareOptions}
    (isExecute : use.operation = .execute query parameters options)
    (unbound : cursor.state = .unbound) :
    let command := declaration cursor.name query parameters options
    let portal := { cursor.portal with hold := options.hold }
    ∃ exchange, Transactional.Over ⟨portal, false, .unsent command⟩ (Declaring.Over command portal)
        (use.performed cursor).outcome exchange (use.asked cursor) ∧
      (use.performed cursor).cursor.portal = exchange.inner.portal := by
  have fresh : use.watched.transport.log = [] := rfl
  have ended := execute_over use.manner query parameters options unbound fresh
  rw [performed_watched, asked, isExecute]
  simp only [Operation.perform, Operation.report, Performed.through]
  generalize cursor.execute use.manner query parameters options use.watched = told at ended ⊢
  obtain ⟨failure | done, next, after⟩ := told
  · exact ended
  · exact ended

theorem Use.executed {query : String} {parameters : List Parameter} {options : DeclareOptions}
    (isExecute : use.operation = .execute query parameters options)
    (unbound : cursor.state = .unbound) :
    cursor.portal.Executed (declaration cursor.name query parameters options)
      (use.performed cursor).outcome (use.asked cursor) (use.performed cursor).cursor.portal := by
  obtain ⟨exchange, ended, same⟩ := Use.executes isExecute unbound
  exact executed_of_over ended same

theorem Use.works (noClose : use.operation ≠ .close)
    (noExecute : ∀ query parameters options, use.operation ≠ .execute query parameters options)
    (allowed : use.operation.refusal? cursor.state = none) :
    ∃ told, use.operation.Works cursor told (use.asked cursor) (use.performed cursor).outcome
      (use.performed cursor).cursor := by
  rw [performed_watched, asked]
  exact perform_works use.manner noClose noExecute allowed rfl

theorem Use.heeds (noClose : use.operation ≠ .close)
    (noExecute : ∀ query parameters options, use.operation ≠ .execute query parameters options)
    (allowed : use.operation.refusal? cursor.state = none) :
    cursor.portal.Heeds false (use.asked cursor) (use.performed cursor).cursor.portal := by
  obtain ⟨told, works⟩ := Use.works noClose noExecute allowed
  apply Working.heeds_of_over works.ended
  cases use.operation.statement? cursor.name with
  | none => nofun
  | some statement => nofun

theorem Use.performed_refused {fault : StateFault}
    (refused : use.operation.refusal? cursor.state = some fault) :
    use.performed cursor = ⟨.error (.error (Error.ofState fault)), cursor, use.session⟩ :=
  Operation.perform_refused use.manner use.session refused

theorem Use.asked_refused {fault : StateFault}
    (refused : use.operation.refusal? cursor.state = some fault) : use.asked cursor = [] := by
  unfold asked
  rw [Operation.perform_refused use.manner use.watched refused]
  rfl

theorem Use.closed (isClose : use.operation = .close) :
    (use.performed cursor).cursor.state = .closed := by
  have discarded : (cursor.portal.close use.session.transactionStatus).2.state = .closed := rfl
  unfold performed
  rw [isClose]
  simp only [Operation.perform, Operation.report, Cursor.close]
  generalize cursor.portal.close use.session.transactionStatus = closing at discarded ⊢
  obtain ⟨none | closing, portal⟩ := closing
  · exact discarded
  · exact discarded

theorem Use.closed_again (isClose : use.operation = .close) (closed : cursor.state = .closed) :
    (use.performed cursor).outcome = .ok () ∧ (use.performed cursor).session = use.session := by
  have isClosed : cursor.portal.state = .closed := closed
  unfold performed
  rw [isClose]
  simp only [Operation.perform, Operation.report, Cursor.close, Portal.close, Portal.isOpen,
    isClosed]
  exact ⟨rfl, rfl⟩

end Uses

end Cursor

end PgClient

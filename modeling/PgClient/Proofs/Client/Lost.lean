/-
Whether a client has to connect again.

A call that fails leaves its session open or closed, and the error tells which. Most errors
are no reason to connect again: the statement was wrong, or the call was out of place. An
error of the link and a deadline are; so is a message of the server that cannot be understood,
though an error that says so does not count as one of the connection.
-/

import PgClient.Proofs.Client.BetweenCalls
import PgClient.Proofs.Session.Lost

namespace PgClient

/-! ### Calls on a session -/

namespace Session

variable {session : Session Conn}

namespace Judged

variable {α β : Type}

private theorem ok (value : α) : Judged (.ok value) session := by
  intro error failed
  cases failed

private theorem map {outcome : Except Failure α} (judged : Judged outcome session)
    (change : α → β) :
    Judged (outcome.map change) session := by
  intro error failed
  cases outcome with
  | ok value => cases failed
  | error failure =>
      cases failed
      exact judged error rfl

/-- A call that has not come to use the session leaves it open. -/
theorem unused (isOpen : session.closed = false) {error : Error} (harmless : ¬error.Loses) :
    Judged (.error (.error error) : Except Failure α) session := by
  rintro other ⟨⟩
  refine ⟨fun closed => ?_, fun loses => absurd loses harmless⟩
  rw [isOpen] at closed
  cases closed

private theorem misuse (isOpen : session.closed = false) (fault : StateFault) :
    Judged (.error (.error (Error.ofState fault)) : Except Failure α) session :=
  unused isOpen (Error.not_loses_ofState fault)

end Judged

private theorem checkOpen_of_open (isOpen : session.closed = false) :
    session.checkOpen = .ok () := by
  unfold checkOpen
  rw [isOpen]
  rfl

/-- Of a call that runs statements the answer decides. -/
theorem Judged.checked {γ : Type} [Exchange γ QueryResult] [Composed γ QueryResult]
    (counts : Composed.check γ = QueryResult.check) {outcome : Except Failure QueryResult}
    (judged : Judged (passed γ outcome) session) : Judged (checked outcome) session := by
  rw [← passed_of_check counts outcome]
  exact judged

/-- Any other call has come to its value. -/
theorem Judged.whole {α γ : Type} [Exchange γ α] [Composed γ α]
    (counts : Composed.check γ = .ok) {outcome : Except Failure α}
    (judged : Judged (passed γ outcome) session) : Judged outcome session := by
  have same : passed γ outcome = outcome := by
    cases outcome with
    | error failure => rfl
    | ok value => simp only [passed, counts]
  rw [← same]
  exact judged

variable (manner : Manner) (tidy : session.Tidy) (isOpen : session.closed = false)

include tidy isOpen

private theorem execute_judged (sql : String) (parameters : List Parameter) :
    Judged (session.execute manner sql parameters).1 (session.execute manner sql parameters).2 := by
  unfold execute
  rw [checkOpen_of_open isOpen]
  exact (run_judged manner _ tidy isOpen (session.inTransaction_fresh (RoundTrip.fresh _))).checked
    rfl

private theorem endTransaction_judged (sql : String) :
    Judged (session.endTransaction manner sql).1 (session.endTransaction manner sql).2 := by
  unfold endTransaction
  rw [checkOpen_of_open isOpen]
  dsimp only
  split
  · exact .ok ()
  · exact ((run_judged manner _ tidy isOpen (RoundTrip.fresh _)).checked rfl).map _

omit tidy in
private theorem setAutocommit_judged (autocommit : Bool) :
    Judged (session.setAutocommit autocommit).1 (session.setAutocommit autocommit).2 := by
  unfold setAutocommit
  rw [checkOpen_of_open isOpen]
  dsimp only
  split
  · exact .misuse isOpen _
  · exact .ok ()

end Session

/-! ### Calls on a cursor -/

namespace Portal

variable {portal : Portal} {error : Error}

private theorem checkOpen_fault (refused : portal.checkOpen = .error error) :
    ∃ fault, error = Error.ofState fault := by
  unfold checkOpen at refused
  split at refused
  · cases refused
  · cases refused
  · cases refused
    exact ⟨_, rfl⟩
  · cases refused
    exact ⟨_, rfl⟩

private theorem checkUnbound_fault (refused : portal.checkUnbound = .error error) :
    ∃ fault, error = Error.ofState fault := by
  unfold checkUnbound at refused
  split at refused
  · cases refused
  · cases refused
    exact ⟨_, rfl⟩
  · cases refused
    exact ⟨_, rfl⟩
  · cases refused
    exact ⟨_, rfl⟩

private theorem declare_fault {query : String} {parameters : List Parameter}
    {options : DeclareOptions} (refused : portal.declare query parameters options = .error error) :
    ∃ fault, error = Error.ofState fault := by
  unfold declare at refused
  split at refused
  · rename_i notUnbound
    cases refused
    exact checkUnbound_fault notUnbound
  · cases refused

private theorem describe_fault (refused : portal.describe = .error error) :
    ∃ fault, error = Error.ofState fault := by
  unfold describe at refused
  split at refused
  · rename_i notOpen
    cases refused
    exact checkOpen_fault notOpen
  · cases refused

private theorem work_fault {statement : CursorStatement} {fetching : Bool}
    (refused : portal.work statement fetching = .error error) :
    ∃ fault, error = Error.ofState fault := by
  unfold work at refused
  split at refused
  · rename_i notOpen
    cases refused
    exact checkOpen_fault notOpen
  · cases refused

end Portal

namespace Cursor

open Session (Judged checkOpen_of_open run_judged)

variable {session : Session Conn} (manner : Manner) (cursor : Cursor) (tidy : session.Tidy)
  (isOpen : session.closed = false)

include tidy isOpen

private theorem execute_judged (query : String) (parameters : List Parameter)
    (options : DeclareOptions) :
    Judged (cursor.execute manner query parameters options session).1
      (cursor.execute manner query parameters options session).2.2 := by
  unfold execute
  split
  · rename_i refused
    obtain ⟨fault, rfl⟩ := Portal.declare_fault refused
    exact .misuse isOpen fault
  · rename_i declaring declared
    rw [checkOpen_of_open isOpen]
    dsimp only
    have judged := (run_judged manner _ tidy isOpen
      (session.inTransaction_fresh (Portal.declare_fresh declared))).whole rfl
    split
    · rename_i failed
      rw [failed] at judged
      exact judged
    · exact .ok ()

private theorem work_judged (asked : Except Error Working)
    (faulty : ∀ error, asked = .error error → ∃ fault, error = Error.ofState fault)
    (fresh : ∀ working, asked = .ok working → Composed.Fresh working) :
    Judged (cursor.work manner asked session).1 (cursor.work manner asked session).2.2 := by
  unfold work
  split
  · obtain ⟨fault, rfl⟩ := faulty _ rfl
    exact .misuse isOpen fault
  · rw [checkOpen_of_open isOpen]
    exact (run_judged manner _ tidy isOpen (fresh _ rfl)).whole rfl

private theorem describe_judged :
    Judged (cursor.describe manner session).1 (cursor.describe manner session).2.2 := by
  have judged := work_judged manner cursor tidy isOpen cursor.portal.describe
    (fun _ => Portal.describe_fault) (fun _ => Portal.describe_fresh)
  unfold describe
  split
  · rename_i worked
    rw [worked] at judged
    rintro error ⟨⟩
    exact judged error rfl
  · exact .ok ()

private theorem fetch_judged (count : Option Nat) :
    Judged (cursor.fetch manner count session).1 (cursor.fetch manner count session).2.2 := by
  have judged := work_judged manner cursor tidy isOpen (cursor.portal.fetch count)
    (fun _ => Portal.work_fault) (fun _ => Portal.work_fresh)
  unfold fetch
  split
  · rename_i worked
    rw [worked] at judged
    exact judged
  · exact .ok _

private theorem scroll_judged (value : Int64) (mode : ScrollMode) :
    Judged (cursor.scroll manner value mode session).1
      (cursor.scroll manner value mode session).2.2 := by
  have judged := work_judged manner cursor tidy isOpen
    (cursor.portal.scroll value.toInt mode) (fun _ => Portal.work_fault)
    (fun _ => Portal.work_fresh)
  unfold scroll
  split
  · rename_i worked
    rw [worked] at judged
    rintro error ⟨⟩
    exact judged error rfl
  · exact .ok ()

private theorem scrollNamed_judged (value : Int64) (mode : String) :
    Judged (cursor.scrollNamed manner value mode session).1
      (cursor.scrollNamed manner value mode session).2.2 := by
  unfold scrollNamed
  split
  · rename_i unnamed
    apply Judged.unused isOpen
    unfold ScrollMode.ofName at unnamed
    split at unnamed
    · cases unnamed
    · split at unnamed
      · cases unnamed
      · cases unnamed
        rintro (connection | ⟨_, protocol, _⟩)
        · cases connection
        · cases protocol
  · exact scroll_judged manner cursor tidy isOpen value _

private theorem close_judged :
    Judged (cursor.close manner session).1 (cursor.close manner session).2.2 := by
  unfold close
  split
  · exact .ok ()
  · rename_i closing portal asked
    exact (run_judged manner _ tidy isOpen (Portal.close_fresh asked)).whole rfl

end Cursor

/-- What a pull hands out is judged as the fetch behind it. -/
theorem Rows.next_judged (rows : Rows) (cursor : Cursor) {session : Session Conn}
    (tidy : session.Tidy) (isOpen : session.closed = false) :
    Session.Judged (Handle.pulled (rows.next cursor session)).outcome
      (rows.next cursor session).session := by
  have judged := Cursor.fetch_judged .blocking cursor tidy isOpen (some cursor.iterationSize)
  unfold next
  split
  · exact .ok _
  · split
    · exact .ok _
    · dsimp only
      split
      · rename_i fetched
        rw [fetched] at judged
        rintro error ⟨⟩
        exact judged error rfl
      · split
        · exact .ok _
        · exact .ok _

private theorem Rows.nextAsync_judged (givenUpAt : Option Nat) (rows : Rows) (cursor : Cursor)
    {session : Session Conn} (tidy : session.Tidy) (isOpen : session.closed = false) :
    Session.Judged (Handle.pulled (rows.nextAsync givenUpAt cursor session)).outcome
      (rows.nextAsync givenUpAt cursor session).session := by
  have judged : Session.Judged
      (cursor.fetchMany (.async givenUpAt) cursor.iterationSize session).1
      (cursor.fetchMany (.async givenUpAt) cursor.iterationSize session).2.2 :=
    Cursor.fetch_judged (.async givenUpAt) cursor tidy isOpen _
  unfold nextAsync
  split
  · exact .ok _
  · split
    · exact .ok _
    · split
      · rename_i fetched
        rw [fetched] at judged
        rintro error ⟨⟩
        exact judged error rfl
      · dsimp only
        split
        · exact .ok _
        · exact .ok _

/-! ### Calls of a client -/

private theorem Handle.perform_judged (manner : Manner) (call : CursorCall) (handle : Handle)
    {session : Session Conn} (tidy : session.Tidy) (isOpen : session.closed = false) :
    Session.Judged (handle.perform manner call session).outcome
      (handle.perform manner call session).session := by
  obtain ⟨cursor, rows⟩ := handle
  cases call with
  | create name => exact .ok _
  | adopt name => exact .ok _
  | setIterationSize size => exact .ok _
  | setArraySize size => exact .ok _
  | iterate => exact .ok _
  | drop insideTask => exact .ok _
  | execute query parameters options =>
      exact (Cursor.execute_judged manner cursor tidy isOpen query parameters options).map _
  | prepare query parameters options =>
      unfold perform
      dsimp only
      split
      · rename_i refused
        obtain ⟨fault, rfl⟩ := Portal.declare_fault refused
        exact .misuse isOpen fault
      · intro error failed
        cases failed
  | describe => exact (Cursor.describe_judged manner cursor tidy isOpen).map _
  | fetchOne => exact ((Cursor.fetch_judged manner cursor tidy isOpen (some 1)).map _).map _
  | fetchMany size => exact (Cursor.fetch_judged manner cursor tidy isOpen _).map _
  | fetchAll => exact (Cursor.fetch_judged manner cursor tidy isOpen none).map _
  | scroll value mode => exact (Cursor.scroll_judged manner cursor tidy isOpen value mode).map _
  | scrollNamed value mode =>
      exact (Cursor.scrollNamed_judged manner cursor tidy isOpen value mode).map _
  | close => exact (Cursor.close_judged manner cursor tidy isOpen).map _
  | next =>
      cases manner with
      | blocking => exact rows.next_judged cursor tidy isOpen
      | async givenUpAt => exact rows.nextAsync_judged givenUpAt cursor tidy isOpen

namespace Client

private theorem perform_judged (manner : Manner) (call : Call) {client : Client Conn}
    (tidy : client.session.Tidy) (isOpen : client.session.closed = false) :
    Session.Judged (client.perform manner call).outcome
      (client.perform manner call).client.session := by
  cases call with
  | execute sql parameters =>
      exact (Session.execute_judged manner tidy isOpen sql parameters).map _
  | commit => exact (Session.endTransaction_judged manner tidy isOpen _).map _
  | rollback => exact (Session.endTransaction_judged manner tidy isOpen _).map _
  | setAutocommit autocommit => exact (Session.setAutocommit_judged isOpen autocommit).map _
  | setTimeout timeout => exact .ok _
  | close => exact .ok _
  | cursor number call => exact (client.handles number).perform_judged manner call tidy isOpen

/-- After any calls in any manner, over a session that has been opened, whatever the server
sends and however much the link takes: when a call on the open session fails, the session is
closed afterwards if and only if the error is one of the connection, or says that the server
has sent what cannot be understood. -/
theorem run_lost {config : Config} {nonces : Nat → String}
    {dial : Address → Except IoFault Link} {conn : Conn}
    (established : Conn.connect config nonces dial = (.established, conn))
    (timeout : Option Nat) (calls : List (Manner × Call)) (manner : Manner) (call : Call)
    (isOpen : ((ofTransport conn timeout).run calls).client.session.closed = false)
    {error : Error}
    (failed : (((ofTransport conn timeout).run calls).client.perform manner call).outcome =
      .error (.error error)) :
    (((ofTransport conn timeout).run calls).client.perform manner call).client.session.closed =
        true ↔
      error.isConnection = true ∨
        ∃ fault, error.kind = .protocol fault ∧ fault.BlamesServer := by
  exact perform_judged manner call (run_tidy established timeout calls) isOpen error failed

def Performed.error? {τ : Type} (performed : Performed τ) : Option Error :=
  match performed.outcome with
  | .error (.error error) => some error
  | _ => none

private theorem Performed.outcome_of_error? {τ : Type} {performed : Performed τ} {error : Error}
    (failed : performed.error? = some error) : performed.outcome = .error (.error error) := by
  unfold error? at failed
  split at failed
  · rename_i outcome
    cases failed
    exact outcome
  · cases failed

/-- A server that lets everybody in, completes a statement, and answers the next one with a row
of which it has not told the columns. -/
def rowOfNothing (_ : Address) : Except IoFault Link :=
  let message (first : Char) (body : Bytes) : Bytes := Frame.bytes { first := first.toUInt8, body }
  let ready : Bytes := message 'Z' ['I'.toUInt8]
  .ok
    { arrivals :=
        [.data (message 'R' [0, 0, 0, 0] ++ ready), .data (message 'C' [66, 0] ++ ready), .blocked,
          .data (message 'D' [0, 0] ++ message 'C' [66, 0] ++ ready), .blocked]
      reports := List.replicate 2 (some { readable := true, writable := true }) }

/-- The row costs the session, and the error says so. -/
theorem run_lost_rowOfNothing :
    let opened := (Conn.connect {} (fun _ => "") rowOfNothing).2
    let before := ((ofTransport opened none).run
      [(.blocking, .setAutocommit true), (.async none, .execute "select 1" [])]).client
    let performed := before.perform .blocking (.execute "select 2" [])
    let error := Error.ofProtocol (.misplaced .dataRow .undescribedResult)
    Conn.connect {} (fun _ => "") rowOfNothing = (.established, opened) ∧
      before.session.closed = false ∧ performed.outcome = .error (.error error) ∧
      (performed.client.session.closed = true ↔ error.isConnection = true ∨
        ∃ fault, error.kind = .protocol fault ∧ fault.BlamesServer) := by
  intro opened before performed error
  have established : Conn.connect {} (fun _ => "") rowOfNothing = (.established, opened) :=
    Prod.ext (by decide +kernel) rfl
  have isOpen : before.session.closed = false := by decide +kernel
  have failed : performed.outcome = .error (.error error) :=
    Performed.outcome_of_error? (by decide +kernel)
  exact ⟨established, isOpen, failed, run_lost established none _ _ _ isOpen failed⟩

/-- The error of a row of nothing is none of the connection, though the session is closed
with it. -/
theorem lost_not_isConnection :
    let opened := (Conn.connect {} (fun _ => "") rowOfNothing).2
    let before := ((ofTransport opened none).run
      [(.blocking, .setAutocommit true), (.async none, .execute "select 1" [])]).client
    let performed := before.perform .blocking (.execute "select 2" [])
    let error := Error.ofProtocol (.misplaced .dataRow .undescribedResult)
    Conn.connect {} (fun _ => "") rowOfNothing = (.established, opened) ∧
      before.session.closed = false ∧ performed.outcome = .error (.error error) ∧
      ¬(performed.client.session.closed = true ↔ error.isConnection = true) := by
  intro opened before performed error
  have established : Conn.connect {} (fun _ => "") rowOfNothing = (.established, opened) :=
    Prod.ext (by decide +kernel) rfl
  have closed : performed.client.session.closed = true := by decide +kernel
  have harmless : error.isConnection = false := rfl
  have failed : performed.outcome = .error (.error error) :=
    Performed.outcome_of_error? (by decide +kernel)
  refine ⟨established, by decide +kernel, failed, ?_⟩
  rw [closed, harmless]
  decide

end Client

end PgClient

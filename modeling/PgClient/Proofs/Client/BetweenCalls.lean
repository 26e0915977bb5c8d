/-
A session between two calls of its client.

Whatever was called before, and however the calls ended, the session knows whether it
is closed, and is ready for a command if it is not.
-/

import PgClient.Proofs.Client.Calls
import PgClient.Proofs.Conn.Opening
import PgClient.Proofs.Session.Tidy

namespace PgClient

/-! ### Outcomes -/

namespace FairOutcome

variable {α β : Type}

private theorem error {error : Error} (fair : ¬error.IsOverlap) :
    FairOutcome (.error (.error error) : Except Failure α) :=
  of_failure fair

private theorem map {outcome : Except Failure α} (fair : FairOutcome outcome) (change : α → β) :
    FairOutcome (outcome.map change) := by
  cases outcome with
  | ok value => exact .ok _
  | error failure => exact of_failure (fair failure rfl)

private theorem checked {outcome : Except Failure QueryResult} (fair : FairOutcome outcome) :
    FairOutcome (Session.checked outcome) := by
  unfold Session.checked
  split
  · exact fair
  · split
    · rename_i checked
      exact .error (QueryResult.check_error checked)
    · exact .ok _

end FairOutcome

def Session.Kept {α : Type} (outcome : Except Failure α) (session : Session Conn) : Prop :=
  session.Tidy ∧ FairOutcome outcome

/-! ### Calls on a session -/

namespace Session

variable {session : Session Conn}

private theorem Kept.map {α β : Type} {change : α → β} {outcome : Except Failure α}
    (kept : Kept outcome session) : Kept (outcome.map change) session :=
  ⟨kept.1, kept.2.map change⟩

private theorem checkOpen_error {error : Error} (refused : session.checkOpen = .error error) :
    ¬error.IsOverlap := by
  unfold checkOpen at refused
  split at refused
  · cases refused
    exact Error.not_isOverlap_connectionClosed
  · cases refused

private theorem open_of_checkOpen (allowed : session.checkOpen = .ok ()) :
    session.closed = false := by
  unfold checkOpen at allowed
  split at allowed
  · cases allowed
  · rename_i isOpen
    exact Bool.not_eq_true _ ▸ isOpen

private theorem execute_kept (manner : Manner) (sql : String) (parameters : List Parameter)
    (tidy : session.Tidy) :
    Kept (session.execute manner sql parameters).1 (session.execute manner sql parameters).2 := by
  unfold execute
  split
  · rename_i refused
    exact ⟨tidy, .error (checkOpen_error refused)⟩
  · rename_i allowed
    obtain ⟨after, fair⟩ := run_tidy manner
      (session.inTransaction (RoundTrip.unsent (Command.ofQuery sql parameters))) tidy
      (open_of_checkOpen allowed)
    exact ⟨after, fair.checked⟩

private theorem endTransaction_kept (manner : Manner) (sql : String) (tidy : session.Tidy) :
    Kept (session.endTransaction manner sql).1 (session.endTransaction manner sql).2 := by
  unfold endTransaction
  split
  · rename_i refused
    exact ⟨tidy, .error (checkOpen_error refused)⟩
  · rename_i allowed
    split
    · exact ⟨tidy, .ok ()⟩
    · obtain ⟨after, fair⟩ :=
        run_tidy manner (RoundTrip.unsent (.query sql)) tidy (open_of_checkOpen allowed)
      exact ⟨after, fair.checked.map _⟩

private theorem setAutocommit_kept (autocommit : Bool) (tidy : session.Tidy) :
    Kept (session.setAutocommit autocommit).1 (session.setAutocommit autocommit).2 := by
  unfold setAutocommit
  split
  · rename_i refused
    exact ⟨tidy, .error (checkOpen_error refused)⟩
  · split
    · refine ⟨tidy, .error ?_⟩
      intro overlap
      cases overlap
    · exact ⟨⟨tidy.closed_iff, tidy.quiet⟩, .ok ()⟩

private theorem close_tidy (session : Session Conn) : session.close.Tidy :=
  .of_closed rfl (Conn.finish_isClosed _)

theorem transactionStatus_of_closed (tidy : session.Tidy) (closed : session.closed = true) :
    session.transactionStatus = .unknown := by
  have isClosed : session.transport.isClosed = true := tidy.closed_iff.symm.trans closed
  change session.transport.transactionStatus = .unknown
  rw [Conn.transactionStatus, if_pos isClosed]

theorem tell_tidy (event : Event) (tidy : session.Tidy) :
    ({ session with transport := Transport.record event session.transport } :
      Session Conn).Tidy :=
  ⟨tidy.closed_iff, tidy.quiet⟩

end Session

/-! ### Calls on a cursor -/

namespace Portal

private theorem checkOpen_error {portal : Portal} {error : Error}
    (refused : portal.checkOpen = .error error) : ¬error.IsOverlap := by
  intro overlap
  unfold checkOpen at refused
  split at refused
  · cases refused
  · cases refused
  · cases refused
    cases overlap
  · cases refused
    cases overlap

private theorem work_error {portal : Portal} {statement : CursorStatement} {fetching : Bool}
    {error : Error} (refused : portal.work statement fetching = .error error) :
    ¬error.IsOverlap := by
  unfold work at refused
  split at refused
  · rename_i notOpen
    cases refused
    exact checkOpen_error notOpen
  · cases refused

private theorem describe_error {portal : Portal} {error : Error}
    (refused : portal.describe = .error error) : ¬error.IsOverlap := by
  unfold describe at refused
  split at refused
  · rename_i notOpen
    cases refused
    exact checkOpen_error notOpen
  · cases refused

private theorem declare_error {portal : Portal} {query : String} {parameters : List Parameter}
    {options : DeclareOptions} {error : Error}
    (refused : portal.declare query parameters options = .error error) : ¬error.IsOverlap := by
  intro overlap
  unfold declare at refused
  split at refused
  · rename_i notUnbound
    cases refused
    unfold checkUnbound at notUnbound
    split at notUnbound
    · cases notUnbound
    · cases notUnbound
      cases overlap
    · cases notUnbound
      cases overlap
    · cases notUnbound
      cases overlap
  · cases refused

/-- Nothing is left to be done for a portal on a server of which nothing is expected. -/
theorem close_of_unknown (portal : Portal) : (portal.close .unknown).1 = none := by
  have unexpected : portal.isExpected .unknown = false := rfl
  simp only [close, unexpected, Bool.and_false, Bool.false_eq_true, if_false]

end Portal

namespace Cursor

variable {session : Session Conn}

private theorem execute_kept (manner : Manner) (query : String) (parameters : List Parameter)
    (options : DeclareOptions) (cursor : Cursor) (tidy : session.Tidy) :
    Session.Kept (cursor.execute manner query parameters options session).1
      (cursor.execute manner query parameters options session).2.2 := by
  unfold execute
  split
  · rename_i refused
    exact ⟨tidy, .error (Portal.declare_error refused)⟩
  · rename_i declaring declared
    split
    · rename_i refused
      exact ⟨tidy, .error (Session.checkOpen_error refused)⟩
    · rename_i allowed
      have kept := Session.run_tidy manner (session.inTransaction declaring) tidy
        (Session.open_of_checkOpen allowed)
      split
      · rename_i failed
        rw [failed] at kept
        exact kept
      · rename_i succeeded
        rw [succeeded] at kept
        exact kept

private theorem work_kept (manner : Manner) (asked : Except Error Working) (cursor : Cursor)
    (fair : ∀ error, asked = .error error → ¬error.IsOverlap) (tidy : session.Tidy) :
    Session.Kept (cursor.work manner asked session).1 (cursor.work manner asked session).2.2 := by
  unfold work
  split
  · exact ⟨tidy, .error (fair _ rfl)⟩
  · rename_i working
    split
    · rename_i refused
      exact ⟨tidy, .error (Session.checkOpen_error refused)⟩
    · rename_i allowed
      exact Session.run_tidy manner working tidy (Session.open_of_checkOpen allowed)

private theorem describe_kept (manner : Manner) (cursor : Cursor) (tidy : session.Tidy) :
    Session.Kept (cursor.describe manner session).1 (cursor.describe manner session).2.2 := by
  have kept := cursor.work_kept manner cursor.portal.describe
    (fun error => Portal.describe_error) tidy
  unfold describe
  split
  · rename_i worked
    rw [worked] at kept
    exact ⟨kept.1, .of_failure (kept.2 _ rfl)⟩
  · rename_i worked
    rw [worked] at kept
    exact ⟨kept.1, .ok ()⟩

private theorem fetch_kept (manner : Manner) (count : Option Nat) (cursor : Cursor)
    (tidy : session.Tidy) :
    Session.Kept (cursor.fetch manner count session).1 (cursor.fetch manner count session).2.2 := by
  have kept := cursor.work_kept manner (cursor.portal.fetch count)
    (fun error => Portal.work_error) tidy
  unfold fetch
  split
  · rename_i worked
    rw [worked] at kept
    exact kept
  · rename_i worked
    rw [worked] at kept
    exact ⟨kept.1, .ok _⟩

private theorem fetchOne_kept (manner : Manner) (cursor : Cursor) (tidy : session.Tidy) :
    Session.Kept (cursor.fetchOne manner session).1 (cursor.fetchOne manner session).2.2 := by
  have kept := cursor.fetch_kept manner (some 1) tidy
  exact ⟨kept.1, kept.2.map List.head?⟩

private theorem scroll_kept (manner : Manner) (value : Int64) (mode : ScrollMode) (cursor : Cursor)
    (tidy : session.Tidy) :
    Session.Kept (cursor.scroll manner value mode session).1
      (cursor.scroll manner value mode session).2.2 := by
  have kept := cursor.work_kept manner (cursor.portal.scroll value.toInt mode)
    (fun error => Portal.work_error) tidy
  unfold scroll
  split
  · rename_i worked
    rw [worked] at kept
    exact ⟨kept.1, .of_failure (kept.2 _ rfl)⟩
  · rename_i worked
    rw [worked] at kept
    exact ⟨kept.1, .ok ()⟩

private theorem scrollNamed_kept (manner : Manner) (value : Int64) (mode : String) (cursor : Cursor)
    (tidy : session.Tidy) :
    Session.Kept (cursor.scrollNamed manner value mode session).1
      (cursor.scrollNamed manner value mode session).2.2 := by
  unfold scrollNamed
  split
  · rename_i unnamed
    refine ⟨tidy, .error ?_⟩
    intro overlap
    unfold ScrollMode.ofName at unnamed
    split at unnamed
    · cases unnamed
    · split at unnamed
      · cases unnamed
      · cases unnamed
        cases overlap
  · rename_i mode named
    exact cursor.scroll_kept manner value mode tidy

/-- A portal is released through an open session only: of a server that a closed one
had, nothing is expected. -/
theorem open_of_close {status : TransactionStatus} {portal discarded : Portal}
    {closing : Closing} (unknown : session.closed = true → status = .unknown)
    (asked : portal.close status = (some closing, discarded)) : session.closed = false := by
  cases closed : session.closed with
  | false => rfl
  | true =>
      have nothing := portal.close_of_unknown
      rw [← unknown closed, asked] at nothing
      cases nothing

private theorem close_kept (manner : Manner) (cursor : Cursor) (tidy : session.Tidy) :
    Session.Kept (cursor.close manner session).1 (cursor.close manner session).2.2 := by
  unfold close
  split
  · exact ⟨tidy, .ok ()⟩
  · rename_i closing portal asked
    exact Session.run_tidy manner closing tidy
      (open_of_close (Session.transactionStatus_of_closed tidy) asked)

private theorem drop_tidy (flavour : Flavour) (insideTask : Bool) (cursor : Cursor)
    (tidy : session.Tidy) : (cursor.drop flavour insideTask session).Tidy := by
  unfold drop
  split
  · exact tidy
  · have told := Session.tell_tidy (.cursorLeftOpen cursor.name flavour) tidy
    dsimp only
    split
    · exact told
    · split
      · exact told
      · rename_i closing portal asked
        have kept := Session.run_tidy .blocking closing told
          (open_of_close (fun closed => if_pos closed) asked)
        split
        · rename_i failed
          rw [failed] at kept
          exact Session.tell_tidy _ kept.1
        · rename_i outcome exchange after _ ended
          rw [ended] at kept
          exact kept.1

end Cursor

namespace Rows

variable {session : Session Conn}

private theorem next_kept (rows : Rows) (cursor : Cursor) (tidy : session.Tidy) :
    Session.Kept (Handle.pulled (rows.next cursor session)).outcome
      (rows.next cursor session).session := by
  have kept := cursor.fetch_kept .blocking (some cursor.iterationSize) tidy
  unfold next
  split
  · exact ⟨tidy, .ok _⟩
  · split
    · exact ⟨tidy, .ok _⟩
    · dsimp only
      split
      · rename_i fetched
        rw [fetched] at kept
        exact ⟨kept.1, .of_failure (kept.2 _ rfl)⟩
      · rename_i fetched
        rw [fetched] at kept
        split
        · exact ⟨kept.1, .ok _⟩
        · exact ⟨kept.1, .ok _⟩

private theorem nextAsync_kept (givenUpAt : Option Nat) (rows : Rows) (cursor : Cursor)
    (tidy : session.Tidy) :
    Session.Kept (Handle.pulled (rows.nextAsync givenUpAt cursor session)).outcome
      (rows.nextAsync givenUpAt cursor session).session := by
  have kept : Session.Kept
      (cursor.fetchMany (.async givenUpAt) cursor.iterationSize session).1
      (cursor.fetchMany (.async givenUpAt) cursor.iterationSize session).2.2 :=
    cursor.fetch_kept (.async givenUpAt) _ tidy
  unfold nextAsync
  split
  · exact ⟨tidy, .ok _⟩
  · split
    · exact ⟨tidy, .ok _⟩
    · split
      · rename_i fetched
        rw [fetched] at kept
        exact ⟨kept.1, .of_failure (kept.2 _ rfl)⟩
      · rename_i fetched
        rw [fetched] at kept
        dsimp only
        split
        · exact ⟨kept.1, .ok _⟩
        · exact ⟨kept.1, .ok _⟩

end Rows

/-! ### Calls of a client -/

private theorem Handle.perform_kept (manner : Manner) (call : CursorCall) (handle : Handle)
    {session : Session Conn} (tidy : session.Tidy) :
    Session.Kept (handle.perform manner call session).outcome
      (handle.perform manner call session).session := by
  obtain ⟨cursor, rows⟩ := handle
  cases call with
  | create name => exact ⟨tidy, .ok _⟩
  | adopt name => exact ⟨tidy, .ok _⟩
  | setIterationSize size => exact ⟨tidy, .ok _⟩
  | setArraySize size => exact ⟨tidy, .ok _⟩
  | iterate => exact ⟨tidy, .ok _⟩
  | execute query parameters options =>
      exact (cursor.execute_kept manner query parameters options tidy).map
  | prepare query parameters options =>
      unfold perform
      dsimp only
      split
      · rename_i refused
        exact ⟨tidy, .error (Portal.declare_error refused)⟩
      · exact ⟨tidy, .of_failure trivial⟩
  | describe => exact (cursor.describe_kept manner tidy).map
  | fetchOne => exact (cursor.fetchOne_kept manner tidy).map
  | fetchMany size => exact (cursor.fetch_kept manner _ tidy).map
  | fetchAll => exact (cursor.fetch_kept manner none tidy).map
  | scroll value mode => exact (cursor.scroll_kept manner value mode tidy).map
  | scrollNamed value mode => exact (cursor.scrollNamed_kept manner value mode tidy).map
  | close => exact (cursor.close_kept manner tidy).map
  | drop insideTask => exact ⟨cursor.drop_tidy manner.flavour insideTask tidy, .ok _⟩
  | next =>
      cases manner with
      | blocking => exact rows.next_kept cursor tidy
      | async givenUpAt => exact rows.nextAsync_kept givenUpAt cursor tidy

namespace Client

theorem perform_kept (manner : Manner) (call : Call) {client : Client Conn}
    (tidy : client.session.Tidy) :
    Session.Kept (client.perform manner call).outcome
      (client.perform manner call).client.session := by
  cases call with
  | execute sql parameters => exact (Session.execute_kept manner sql parameters tidy).map
  | commit => exact (Session.endTransaction_kept manner _ tidy).map
  | rollback => exact (Session.endTransaction_kept manner _ tidy).map
  | setAutocommit autocommit => exact (Session.setAutocommit_kept autocommit tidy).map
  | setTimeout timeout => exact ⟨⟨tidy.closed_iff, tidy.quiet⟩, .ok _⟩
  | close => exact ⟨client.session.close_tidy, .ok _⟩
  | cursor number call => exact (client.handles number).perform_kept manner call tidy

theorem run_kept (calls : List (Manner × Call)) {client : Client Conn}
    (tidy : client.session.Tidy) :
    (client.run calls).client.session.Tidy ∧
      ∀ outcome ∈ (client.run calls).outcomes, FairOutcome outcome := by
  induction calls generalizing client with
  | nil =>
      refine ⟨tidy, ?_⟩
      intro outcome member
      cases member
  | cons head rest ih =>
      obtain ⟨manner, call⟩ := head
      obtain ⟨after, fair⟩ := client.perform_kept manner call tidy
      obtain ⟨further, others⟩ := ih after
      refine ⟨further, ?_⟩
      intro outcome member
      rcases List.mem_cons.mp member with same | later
      · rw [same]
        exact fair
      · exact others outcome later

/-- What every run of calls over a session that has been opened leaves. -/
theorem run_tidy {config : Config} {nonces : Nat → String}
    {dial : Address → Except IoFault Link} {conn : Conn}
    (established : Conn.connect config nonces dial = (.established, conn))
    (timeout : Option Nat) (calls : List (Manner × Call)) :
    ((Client.ofTransport conn timeout).run calls).client.session.Tidy := by
  have unused := Conn.connect_unused established
  have first : (Client.ofTransport conn timeout).session.Tidy :=
    .ofTransport timeout (.inr ⟨unused.inFlight, unused.results⟩)
  exact (run_kept calls first).1

/-- Over a session that has been opened, and after any calls in any manner, whatever the
server sends and however much the link takes: the flag of the session tells whether the
link is closed, and if it is not, no command is under way and no result is left. No
call is ever refused because of another. -/
theorem run_closed_or_quiet {config : Config} {nonces : Nat → String}
    {dial : Address → Except IoFault Link} {conn : Conn}
    (established : Conn.connect config nonces dial = (.established, conn))
    (timeout : Option Nat) (calls : List (Manner × Call)) :
    let course := (Client.ofTransport conn timeout).run calls
    let session := course.client.session
    session.closed = session.transport.isClosed ∧
      (session.closed = false →
        session.transport.inFlight = false ∧ session.transport.results.toList = []) ∧
      ∀ error, .error (.error error) ∈ course.outcomes →
        error.kind ≠ .protocol .commandInProgress := by
  have unused := Conn.connect_unused established
  have first : (Client.ofTransport conn timeout).session.Tidy :=
    .ofTransport timeout (.inr ⟨unused.inFlight, unused.results⟩)
  obtain ⟨tidy, fair⟩ := run_kept calls first
  refine ⟨tidy.closed_iff, tidy.quiet, ?_⟩
  intro error member
  exact fair _ member _ rfl

/-- A server that lets everybody in, and says twice that a command is complete. -/
def twiceComplete (_ : Address) : Except IoFault Link :=
  let message (first : Char) (body : Bytes) : Bytes := Frame.bytes { first := first.toUInt8, body }
  let complete : Bytes := message 'C' [66, 0] ++ message 'Z' ['T'.toUInt8]
  .ok
    { arrivals :=
        [.data (message 'R' [0, 0, 0, 0] ++ message 'Z' ['I'.toUInt8]), .data complete,
          .blocked, .data complete]
      reports := List.replicate 2 (some { readable := true, writable := true }) }

/-- A statement in a transaction of its own is answered; of the next one the task is
given up while it waits. -/
theorem run_closed_or_quiet_twiceComplete :
    let opened := (Conn.connect {} (fun _ => "") twiceComplete).2
    let calls : List (Manner × Call) :=
      [(.blocking, .execute "select 1" []), (.async (some 0), .execute "select 2" [])]
    Conn.connect {} (fun _ => "") twiceComplete = (.established, opened) ∧
      let course := (Client.ofTransport opened none).run calls
      let session := course.client.session
      session.closed = session.transport.isClosed ∧
        (session.closed = false →
          session.transport.inFlight = false ∧ session.transport.results.toList = []) ∧
        ∀ error, .error (.error error) ∈ course.outcomes →
          error.kind ≠ .protocol .commandInProgress := by
  have established : Conn.connect {} (fun _ => "") twiceComplete =
      (.established, (Conn.connect {} (fun _ => "") twiceComplete).2) :=
    Prod.ext (by decide +kernel) rfl
  exact ⟨established, run_closed_or_quiet established none _⟩

end Client

end PgClient

/-
A client whose session is closed.

It does not matter what has closed the session, and what is called afterwards: it stays
closed, and nothing more is read from the link or written to it. Whatever needs the server
is refused for that reason and no other, unless the state of a cursor forbids it already.
A cursor is closed without asking, since nothing is expected of a server that has gone, and
the session can be closed once more to no effect.
-/

import PgClient.Proofs.Client.BetweenCalls
import PgClient.Proofs.Conn.Departure

namespace PgClient

private theorem Conn.finish_released (conn : Conn) : conn.finish.released = true := by
  unfold finish
  split
  · assumption
  · rfl

/-! ### A closed session -/

namespace Session

/-- The session is closed for good, and its link is as it was left. -/
structure Shut (left : Link) (session : Session Conn) : Prop where
  closed : session.closed = true
  isClosed : session.transport.isClosed = true
  link : session.transport.link = left

def denial {α : Type} : Except Error α → Error
  | .error error => error
  | .ok _ => .connectionClosed

variable {left : Link} {session : Session Conn}

namespace Shut

private theorem of_tidy (tidy : session.Tidy) (closed : session.closed = true) :
    session.Shut session.transport.link :=
  ⟨closed, tidy.closed_iff.symm.trans closed, rfl⟩

private theorem checkOpen (shut : session.Shut left) :
    session.checkOpen = .error .connectionClosed := by
  rw [Session.checkOpen, if_pos shut.closed]

private theorem transactionStatus (shut : session.Shut left) :
    session.transactionStatus = .unknown := by
  change session.transport.transactionStatus = .unknown
  rw [Conn.transactionStatus, if_pos shut.isClosed]

private theorem tell (shut : session.Shut left) (event : Event) :
    Shut left { session with transport := Transport.record event session.transport } :=
  ⟨shut.closed, shut.isClosed, shut.link⟩

private theorem execute (shut : session.Shut left) (manner : Manner) (sql : String)
    (parameters : List Parameter) :
    session.execute manner sql parameters = (.error (.error .connectionClosed), session) := by
  rw [Session.execute, shut.checkOpen]

private theorem endTransaction (shut : session.Shut left) (manner : Manner) (sql : String) :
    session.endTransaction manner sql = (.error (.error .connectionClosed), session) := by
  rw [Session.endTransaction, shut.checkOpen]

private theorem setAutocommit (shut : session.Shut left) (autocommit : Bool) :
    session.setAutocommit autocommit = (.error (.error .connectionClosed), session) := by
  rw [Session.setAutocommit, shut.checkOpen]

/-! ### Closing it again -/

private theorem close (shut : session.Shut left) : session.close.Shut left := by
  refine ⟨rfl, Conn.finish_isClosed _, ?_⟩
  change (Conn.finish (if session.closed then session.transport else _)).link = left
  rw [if_pos shut.closed, Conn.finish_of_closed shut.isClosed]
  exact shut.link

/-- Nothing is told that has not been told before. -/
theorem close_journal (shut : session.Shut left) :
    session.close.transport.journal = session.transport.journal := by
  change (Conn.finish (if session.closed then session.transport else _)).journal = _
  rw [if_pos shut.closed, Conn.finish]
  split
  · rfl
  · rfl

private theorem close_of_released (shut : session.Shut left)
    (released : session.transport.released = true) : session.close = session := by
  have finished : session.transport.finish = session.transport := by
    rw [Conn.finish, if_pos released]
  rw [Session.close, if_pos shut.closed]
  change { session with transport := session.transport.finish, closed := true } = session
  rw [finished, ← shut.closed]

end Shut

end Session

/-! ### Its cursors -/

namespace Portal

open Session (denial)

private theorem checkUnbound_of_unbound {portal : Portal} (unbound : portal.state = .unbound) :
    portal.checkUnbound = .ok () := by
  rw [checkUnbound, unbound]

private theorem declare_denial (query : String) (parameters : List Parameter)
    (options : DeclareOptions) (portal : Portal) :
    denial (portal.declare query parameters options) = denial portal.checkUnbound := by
  unfold declare
  cases portal.checkUnbound with
  | error error => rfl
  | ok _ => rfl

private theorem describe_denial (portal : Portal) :
    denial portal.describe = denial portal.checkOpen := by
  unfold describe
  cases portal.checkOpen with
  | error error => rfl
  | ok _ => rfl

private theorem work_denial (statement : CursorStatement) (fetching : Bool) (portal : Portal) :
    denial (portal.work statement fetching) = denial portal.checkOpen := by
  unfold work
  cases portal.checkOpen with
  | error error => rfl
  | ok _ => rfl

private theorem close_unknown (portal : Portal) : portal.close .unknown = (none, portal.discard) :=
  Prod.ext portal.close_of_unknown rfl

end Portal

namespace Cursor

open Session (denial)

variable {left : Link} {session : Session Conn}

private theorem execute_shut (shut : session.Shut left) (manner : Manner) (query : String)
    (parameters : List Parameter) (options : DeclareOptions) (cursor : Cursor) :
    ∃ after, cursor.execute manner query parameters options session =
      (.error (.error (denial cursor.portal.checkUnbound)), after, session) := by
  rw [← cursor.portal.declare_denial query parameters options]
  unfold execute
  cases cursor.portal.declare query parameters options with
  | error error => exact ⟨cursor, rfl⟩
  | ok declaring =>
      dsimp only
      rw [shut.checkOpen]
      exact ⟨_, rfl⟩

private theorem work_shut (shut : session.Shut left) (manner : Manner)
    (asked : Except Error Working) (cursor : Cursor) :
    cursor.work manner asked session = (.error (.error (denial asked)), cursor, session) := by
  unfold work
  cases asked with
  | error error => rfl
  | ok working =>
      dsimp only
      rw [shut.checkOpen]
      rfl

private theorem describe_shut (shut : session.Shut left) (manner : Manner) (cursor : Cursor) :
    cursor.describe manner session =
      (.error (.error (denial cursor.portal.checkOpen)), cursor, session) := by
  rw [describe, work_shut shut, Portal.describe_denial]

private theorem fetch_shut (shut : session.Shut left) (manner : Manner) (count : Option Nat)
    (cursor : Cursor) :
    cursor.fetch manner count session =
      (.error (.error (denial cursor.portal.checkOpen)), cursor, session) := by
  rw [fetch, work_shut shut, Portal.fetch, Portal.work_denial]

private theorem fetchMany_shut (shut : session.Shut left) (manner : Manner) (size : Nat)
    (cursor : Cursor) :
    cursor.fetchMany manner size session =
      (.error (.error (denial cursor.portal.checkOpen)), cursor, session) :=
  cursor.fetch_shut shut manner _

private theorem fetchOne_shut (shut : session.Shut left) (manner : Manner) (cursor : Cursor) :
    cursor.fetchOne manner session =
      (.error (.error (denial cursor.portal.checkOpen)), cursor, session) := by
  rw [fetchOne, fetch_shut shut]
  rfl

private theorem scroll_shut (shut : session.Shut left) (manner : Manner) (value : Int64)
    (mode : ScrollMode) (cursor : Cursor) :
    cursor.scroll manner value mode session =
      (.error (.error (denial cursor.portal.checkOpen)), cursor, session) := by
  rw [scroll, work_shut shut, Portal.scroll, Portal.work_denial]

/-- A mode of no such name is told first. -/
theorem scrollNamed_shut (shut : session.Shut left) (manner : Manner) (value : Int64)
    (mode : String) (cursor : Cursor) :
    cursor.scrollNamed manner value mode session =
      (.error (.error (denial (ScrollMode.ofName mode >>= fun _ => cursor.portal.checkOpen))),
        cursor, session) := by
  unfold scrollNamed
  cases ScrollMode.ofName mode with
  | error error => rfl
  | ok mode => exact scroll_shut shut manner value mode cursor

/-- Of a server that has gone nothing is expected, so nothing is asked of it. -/
theorem close_shut (shut : session.Shut left) (manner : Manner) (cursor : Cursor) :
    cursor.close manner session =
      (.ok (), { cursor with portal := cursor.portal.discard }, session) := by
  rw [close, shut.transactionStatus, Portal.close_unknown]

private theorem drop_shut (shut : session.Shut left) (flavour : Flavour) (insideTask : Bool)
    (cursor : Cursor) : (cursor.drop flavour insideTask session).Shut left := by
  -- What is dropped open is told to the log, and the link knows nothing of the log.
  have told := shut.tell (.cursorLeftOpen cursor.name flavour)
  unfold drop
  split
  · exact shut
  · dsimp only
    split
    · exact told
    · rw [if_pos shut.closed, Portal.close_unknown]
      exact told

end Cursor

namespace Rows

open Session (denial)

variable {left : Link} {session : Session Conn}

def Fetches (rows : Rows) : Prop :=
  rows.batch = [] ∧ rows.finished = false

private theorem next_shut (shut : session.Shut left) (rows : Rows) (cursor : Cursor) :
    (rows.next cursor session).session = session ∧
      (rows.Fetches → (rows.next cursor session).item =
        some (.error (.error (denial cursor.portal.checkOpen)))) := by
  have fetched := cursor.fetch_shut shut .blocking (some cursor.iterationSize)
  unfold next Fetches
  cases rows.batch with
  | cons row batch => exact ⟨rfl, fun fetches => nomatch fetches.1⟩
  | nil =>
      cases rows.finished with
      | true => exact ⟨rfl, fun fetches => nomatch fetches.2⟩
      | false =>
          simp only [Bool.false_eq_true, if_false, fetched]
          exact ⟨trivial, fun _ => trivial⟩

private theorem nextAsync_shut (shut : session.Shut left) (givenUpAt : Option Nat) (rows : Rows)
    (cursor : Cursor) :
    (rows.nextAsync givenUpAt cursor session).session = session ∧
      (rows.Fetches → (rows.nextAsync givenUpAt cursor session).item =
        some (.error (.error (denial cursor.portal.checkOpen)))) := by
  have fetched := cursor.fetchMany_shut shut (.async givenUpAt) cursor.iterationSize
  unfold nextAsync Fetches ready
  cases rows.batch with
  | cons row batch => exact ⟨rfl, fun fetches => nomatch fetches.1⟩
  | nil =>
      cases rows.finished with
      | true => exact ⟨rfl, fun fetches => nomatch fetches.2⟩
      | false =>
          simp only [Bool.false_eq_true, if_false, fetched]
          exact ⟨trivial, fun _ => trivial⟩

end Rows

namespace Handle

variable {left : Link} {session : Session Conn}

/-- The call needs the server, and the state of the cursor allows it. -/
def Asks (handle : Handle) : CursorCall → Prop
  | .execute _ _ _ => handle.cursor.portal.checkUnbound = .ok ()
  | .describe => handle.cursor.portal.checkOpen = .ok ()
  | .fetchOne => handle.cursor.portal.checkOpen = .ok ()
  | .fetchMany _ => handle.cursor.portal.checkOpen = .ok ()
  | .fetchAll => handle.cursor.portal.checkOpen = .ok ()
  | .scroll _ _ => handle.cursor.portal.checkOpen = .ok ()
  | .scrollNamed _ mode =>
      (∃ known, ScrollMode.ofName mode = .ok known) ∧ handle.cursor.portal.checkOpen = .ok ()
  | .next => handle.rows.Fetches ∧ handle.cursor.portal.checkOpen = .ok ()
  | _ => False

/-- What a call on a closed session comes to: it is refused for that if it is allowed. -/
structure Answers (left : Link) (allowed : Prop) (performed : Performed Conn) : Prop where
  shut : performed.session.Shut left
  refused : allowed → performed.outcome = .error (.error .connectionClosed)

private theorem Answers.of_denial {α : Type} (shut : session.Shut left) (rows : Rows)
    (reply : α → Reply) (asked : Except Error Unit) (after : Cursor) :
    Answers left (asked = .ok ())
      (answer rows reply (.error (.error (Session.denial asked)), after, session)) := by
  refine ⟨shut, ?_⟩
  intro allowed
  rw [allowed]
  rfl

private theorem Answers.unneeded {performed : Performed Conn} (shut : performed.session.Shut left) :
    Answers left False performed :=
  ⟨shut, False.elim⟩

private theorem pulled_answers (shut : session.Shut left) {rows : Rows} {cursor : Cursor}
    {pull : Rows.Pulled Conn} (same : pull.session = session)
    (item : rows.Fetches →
      pull.item = some (.error (.error (Session.denial cursor.portal.checkOpen)))) :
    Answers left (rows.Fetches ∧ cursor.portal.checkOpen = .ok ()) (pulled pull) := by
  constructor
  · change pull.session.Shut left
    rw [same]
    exact shut
  · rintro ⟨fetches, isOpen⟩
    unfold pulled
    rw [item fetches, isOpen]
    rfl

private theorem perform_answers (shut : session.Shut left) (manner : Manner) (call : CursorCall)
    (handle : Handle) :
    Answers left (handle.Asks call) (handle.perform manner call session) := by
  obtain ⟨cursor, rows⟩ := handle
  unfold perform
  cases call with
  | create name => exact .unneeded shut
  | adopt name => exact .unneeded shut
  | setIterationSize size => exact .unneeded shut
  | setArraySize size => exact .unneeded shut
  | iterate => exact .unneeded shut
  | execute query parameters options =>
      obtain ⟨after, same⟩ := cursor.execute_shut shut manner query parameters options
      dsimp only
      rw [same]
      exact .of_denial shut rows _ cursor.portal.checkUnbound after
  | prepare query parameters options =>
      dsimp only
      split
      · exact .unneeded shut
      · exact .unneeded shut
  | describe =>
      dsimp only
      rw [Cursor.describe_shut shut]
      exact .of_denial shut rows _ cursor.portal.checkOpen cursor
  | fetchOne =>
      dsimp only
      rw [Cursor.fetchOne_shut shut]
      exact .of_denial shut rows _ cursor.portal.checkOpen cursor
  | fetchMany size =>
      dsimp only
      rw [Cursor.fetchMany_shut shut]
      exact .of_denial shut rows _ cursor.portal.checkOpen cursor
  | fetchAll =>
      dsimp only
      rw [Cursor.fetchAll, Cursor.fetch_shut shut]
      exact .of_denial shut rows _ cursor.portal.checkOpen cursor
  | scroll value mode =>
      dsimp only
      rw [Cursor.scroll_shut shut]
      exact .of_denial shut rows _ cursor.portal.checkOpen cursor
  | scrollNamed value mode =>
      dsimp only
      rw [Cursor.scrollNamed_shut shut]
      have answers := Answers.of_denial shut rows (fun _ : Unit => .done)
        (ScrollMode.ofName mode >>= fun _ => cursor.portal.checkOpen) cursor
      refine ⟨answers.shut, ?_⟩
      rintro ⟨⟨known, named⟩, isOpen⟩
      apply answers.refused
      rw [named]
      exact isOpen
  | close =>
      dsimp only
      rw [Cursor.close_shut shut]
      exact .unneeded shut
  | drop insideTask => exact .unneeded (cursor.drop_shut shut manner.flavour insideTask)
  | next =>
      cases manner with
      | blocking =>
          obtain ⟨same, item⟩ := rows.next_shut shut cursor
          exact pulled_answers shut same item
      | async givenUpAt =>
          obtain ⟨same, item⟩ := rows.nextAsync_shut shut givenUpAt cursor
          exact pulled_answers shut same item

end Handle

/-! ### Calls of a client -/

namespace Client

variable {left : Link} {client : Client Conn}

def Asks (client : Client Conn) : Call → Prop
  | .execute _ _ => True
  | .commit => True
  | .rollback => True
  | .setAutocommit _ => True
  | .setTimeout _ => False
  | .close => False
  | .cursor number call => (client.handles number).Asks call

private theorem perform_answers (shut : client.session.Shut left) (manner : Manner) (call : Call) :
    (client.perform manner call).client.session.Shut left ∧
      (client.Asks call →
        (client.perform manner call).outcome = .error (.error .connectionClosed)) := by
  unfold perform
  cases call with
  | execute sql parameters =>
      dsimp only
      rw [shut.execute]
      exact ⟨shut, fun _ => rfl⟩
  | commit =>
      dsimp only
      rw [Session.commit, shut.endTransaction]
      exact ⟨shut, fun _ => rfl⟩
  | rollback =>
      dsimp only
      rw [Session.rollback, shut.endTransaction]
      exact ⟨shut, fun _ => rfl⟩
  | setAutocommit autocommit =>
      dsimp only
      rw [shut.setAutocommit]
      exact ⟨shut, fun _ => rfl⟩
  | setTimeout timeout => exact ⟨⟨shut.closed, shut.isClosed, shut.link⟩, False.elim⟩
  | close => exact ⟨shut.close, False.elim⟩
  | cursor number call =>
      have answers := (client.handles number).perform_answers shut manner call
      exact ⟨answers.shut, answers.refused⟩

private theorem run_shut (later : List (Manner × Call)) (shut : client.session.Shut left) :
    (client.run later).client.session.Shut left := by
  induction later generalizing client with
  | nil => exact shut
  | cons head later ih =>
      obtain ⟨manner, call⟩ := head
      exact ih (perform_answers shut manner call).1

structure ClosedCursor (number : Nat) (before : Client Conn) (performed : Performed Conn) :
    Prop where
  outcome : performed.outcome = .ok .done
  state : (performed.client.handles number).cursor.state = .closed
  session : performed.client.session = before.session

/-- Closing has changed nothing that can be seen, and once the link has been given up it
changes nothing at all. -/
structure ClosedAgain (before : Client Conn) (performed : Performed Conn) : Prop where
  outcome : performed.outcome = .ok .done
  handles : performed.client.handles = before.handles
  journal : performed.client.session.transport.journal = before.session.transport.journal
  released : before.session.transport.released = true → performed.client = before
  final : ∀ manner, performed.client.perform manner .close = performed

private theorem perform_cursorClose (shut : client.session.Shut left) (manner : Manner)
    (number : Nat) :
    ClosedCursor number client (client.perform manner (.cursor number .close)) := by
  unfold perform Handle.perform
  dsimp only
  rw [Cursor.close_shut shut]
  refine ⟨rfl, ?_, rfl⟩
  change (if number = number then _ else client.handles number).cursor.state = .closed
  rw [if_pos rfl]
  rfl

private theorem perform_close (shut : client.session.Shut left) (manner : Manner) :
    ClosedAgain client (client.perform manner .close) := by
  refine ⟨rfl, rfl, shut.close_journal, ?_, ?_⟩
  · intro released
    change { client with session := client.session.close } = client
    rw [shut.close_of_released released]
  · intro other
    have released : client.session.close.transport.released = true := Conn.finish_released _
    change Performed.mk _ { client with session := client.session.close.close } = _
    rw [shut.close.close_of_released released]
    rfl

/-- Once any calls in any manner have left a session closed, whatever has closed it, any
further calls leave it closed and its link as it was. Its transaction is unknown; every call
that needs the server and is not forbidden by the state of a cursor fails for that reason;
cursors can be closed, and so can the session, to no effect. -/
theorem run_stays_closed {config : Config} {nonces : Nat → String}
    {dial : Address → Except IoFault Link} {conn : Conn}
    (established : Conn.connect config nonces dial = (.established, conn))
    (timeout : Option Nat) {calls : List (Manner × Call)}
    (closed : ((Client.ofTransport conn timeout).run calls).client.session.closed = true)
    (later : List (Manner × Call)) :
    let before := ((Client.ofTransport conn timeout).run calls).client
    let client := (before.run later).client
    client.session.closed = true ∧ client.session.transactionStatus = .unknown ∧
      client.session.transport.link = before.session.transport.link ∧
      (∀ manner call, client.Asks call →
        (client.perform manner call).outcome = .error (.error .connectionClosed)) ∧
      (∀ manner number,
        ClosedCursor number client (client.perform manner (.cursor number .close))) ∧
      ∀ manner, ClosedAgain client (client.perform manner .close) := by
  have unused := Conn.connect_unused established
  have first : (Client.ofTransport conn timeout).session.Tidy :=
    .ofTransport timeout (.inr ⟨unused.inFlight, unused.results⟩)
  obtain ⟨tidy, _⟩ := run_kept calls first
  have shut := run_shut later (Session.Shut.of_tidy tidy closed)
  refine ⟨shut.closed, shut.transactionStatus, shut.link, ?_, ?_, ?_⟩
  · intro manner call asks
    exact (perform_answers shut manner call).2 asks
  · intro manner number
    exact perform_cursorClose shut manner number
  · intro manner
    exact perform_close shut manner

def hangsUp (_ : Address) : Except IoFault Link :=
  let message (first : Char) (body : Bytes) : Bytes := Frame.bytes { first := first.toUInt8, body }
  .ok
    { arrivals := [.data (message 'R' [0, 0, 0, 0] ++ message 'Z' ['I'.toUInt8]), .data []]
      reports := [some { readable := true, writable := true }] }

/-- The server hangs up on the declaration of a cursor. Another cursor is adopted and used
and closed after that, and then the session is; and the declaration is tried again. -/
theorem run_stays_closed_hangsUp :
    let opened := (Conn.connect {} (fun _ => "") hangsUp).2
    let before := ((Client.ofTransport opened none).run
      [(.blocking, .cursor 1 (.execute "select 1" [] {}))]).client
    let client := (before.run
      [(.async none, .cursor 2 (.adopt "other")), (.async (some 0), .cursor 2 .fetchAll),
        (.blocking, .cursor 2 .close), (.blocking, .close)]).client
    Conn.connect {} (fun _ => "") hangsUp = (.established, opened) ∧
      before.session.closed = true ∧ client.session.closed = true ∧
      client.session.transactionStatus = .unknown ∧
      client.session.transport.link = before.session.transport.link ∧
      (client.perform .blocking (.cursor 1 (.execute "select 1" [] {}))).outcome =
        .error (.error .connectionClosed) := by
  have established : Conn.connect {} (fun _ => "") hangsUp =
      (.established, (Conn.connect {} (fun _ => "") hangsUp).2) :=
    Prod.ext (by decide +kernel) rfl
  have closed : ((Client.ofTransport (Conn.connect {} (fun _ => "") hangsUp).2 none).run
      [(.blocking, .cursor 1 (.execute "select 1" [] {}))]).client.session.closed = true := by
    decide +kernel
  obtain ⟨stays, status, link, refused, _⟩ := run_stays_closed established none closed
    [(.async none, .cursor 2 (.adopt "other")), (.async (some 0), .cursor 2 .fetchAll),
      (.blocking, .cursor 2 .close), (.blocking, .close)]
  refine ⟨established, closed, stays, status, link, refused _ _ ?_⟩
  apply Portal.checkUnbound_of_unbound
  decide +kernel

end Client

end PgClient

/-
Clients over transports that show the same.

All calls of a client come down to exchanges and to what the operations of a transport tell.
So where one transport can be taken for another, a client takes the same course over both,
whatever is called.
-/

import PgClient.Proofs.Client.Calls
import PgClient.Proofs.Exchange.Attested

namespace PgClient

variable {σ τ : Type} [Transport σ] [Transport τ] {view : σ → τ}

/-! ### Calls on a session -/

namespace Session

/-- What a call on a session has told, seen in the session that the other is taken for. -/
def told {α : Type} (view : σ → τ) (called : α × Session σ) : α × Session τ :=
  (called.1, called.2.through view)

variable (isView : Transport.IsView view) (manner : Manner) (session : Session σ)

include isView

private theorem transactionStatus_through :
    (session.through view).transactionStatus = session.transactionStatus :=
  isView.transactionStatus session.transport

private theorem execute_through (sql : String) (parameters : List Parameter) :
    (session.through view).execute manner sql parameters =
      told view (session.execute manner sql parameters) := by
  have checked : (session.through view).checkOpen = session.checkOpen := rfl
  unfold execute
  rw [checked]
  cases session.checkOpen with
  | error error => rfl
  | ok checked =>
      dsimp only
      rw [inTransaction_through isView, run_through isView]
      rcases session.run manner
        (session.inTransaction (RoundTrip.unsent (Command.ofQuery sql parameters))) with
        ⟨outcome, exchange, after⟩
      rfl

private theorem endTransaction_through (sql : String) :
    (session.through view).endTransaction manner sql =
      told view (session.endTransaction manner sql) := by
  have checked : (session.through view).checkOpen = session.checkOpen := rfl
  unfold endTransaction
  rw [checked, transactionStatus_through isView]
  cases session.checkOpen with
  | error error => rfl
  | ok checked =>
      dsimp only
      by_cases idle : session.transactionStatus = .idle
      · rw [if_pos idle, if_pos idle]
        rfl
      · rw [if_neg idle, if_neg idle, run_through isView]
        rcases session.run manner (RoundTrip.unsent (.query sql)) with ⟨outcome, exchange, after⟩
        rfl

private theorem setAutocommit_through (autocommit : Bool) :
    (session.through view).setAutocommit autocommit =
      told view (session.setAutocommit autocommit) := by
  have checked : (session.through view).checkOpen = session.checkOpen := rfl
  unfold setAutocommit
  rw [checked, transactionStatus_through isView]
  cases session.checkOpen with
  | error error => rfl
  | ok checked =>
      dsimp only
      by_cases busy : session.transactionStatus ≠ .idle
      · rw [if_pos busy, if_pos busy]
        rfl
      · rw [if_neg busy, if_neg busy]
        rfl

private theorem close_through : (session.through view).close = session.close.through view := by
  unfold close
  cases closed : session.closed with
  | true => simp only [through, closed, if_true, isView.finish]
  | false => simp only [through, closed, Bool.false_eq_true, if_false, isView.record, isView.finish]

end Session

/-! ### Calls on a cursor -/

namespace Cursor

variable (isView : Transport.IsView view) (manner : Manner) (cursor : Cursor)
  (session : Session σ)

include isView

private theorem fetchOne_through :
    cursor.fetchOne manner (session.through view) = told view (cursor.fetchOne manner session) := by
  unfold fetchOne
  rw [fetch_through isView]
  rcases cursor.fetch manner (some 1) session with ⟨outcome, next, after⟩
  rfl

private theorem scrollNamed_through (value : Int64) (mode : String) :
    cursor.scrollNamed manner value mode (session.through view) =
      told view (cursor.scrollNamed manner value mode session) := by
  unfold scrollNamed
  cases ScrollMode.ofName mode with
  | error error => rfl
  | ok mode => exact scroll_through isView manner cursor session value mode

private theorem tell_through (event : Event) :
    ({ session.through view with
      transport := Transport.record event (session.through view).transport } : Session τ) =
      ({ session with transport := Transport.record event session.transport } :
        Session σ).through view :=
  congrArg (fun transport => ({ session.through view with transport } : Session τ))
    (isView.record event session.transport)

private theorem drop_through (flavour : Flavour) (insideTask : Bool) :
    cursor.drop flavour insideTask (session.through view) =
      (cursor.drop flavour insideTask session).through view := by
  unfold drop
  by_cases shut : (!cursor.portal.isOpen) = true
  · rw [if_pos shut, if_pos shut]
  · rw [if_neg shut, if_neg shut]
    dsimp only
    rw [tell_through isView]
    generalize ({ session with
      transport := Transport.record (.cursorLeftOpen cursor.name flavour) session.transport } :
        Session σ) = warned
    by_cases left : (flavour = .async || insideTask) = true
    · rw [if_pos left, if_pos left]
    · rw [if_neg left, if_neg left]
      have closed : (session.through view).closed = session.closed := rfl
      rw [Session.transactionStatus_through isView, closed]
      rcases cursor.portal.close _ with ⟨none | closing, portal⟩
      · rfl
      · dsimp only
        rw [Session.run_through isView]
        rcases warned.run .blocking closing with ⟨(error | defect | _) | done, exchange, after⟩
        · exact tell_through isView after _
        · rfl
        · rfl
        · rfl

end Cursor

namespace Rows

def Pulled.through (view : σ → τ) (pulled : Pulled σ) : Pulled τ :=
  { item := pulled.item
    rows := pulled.rows
    cursor := pulled.cursor
    session := pulled.session.through view }

variable (isView : Transport.IsView view) (rows : Rows) (cursor : Cursor) (session : Session σ)

include isView

theorem next_through :
    rows.next cursor (session.through view) = (rows.next cursor session).through view := by
  obtain ⟨batch, finished⟩ := rows
  cases batch with
  | cons row batch => rfl
  | nil =>
      unfold next
      dsimp only
      cases finished with
      | true => rfl
      | false =>
          rw [if_neg Bool.false_ne_true, if_neg Bool.false_ne_true, Cursor.fetch_through isView]
          rcases cursor.fetch .blocking (some cursor.iterationSize) session with
            ⟨failure | batch, cursor, after⟩
          · rfl
          · dsimp only [Cursor.told]
            cases batch with
            | nil => rfl
            | cons row batch => rfl

theorem nextAsync_through (givenUpAt : Option Nat) :
    rows.nextAsync givenUpAt cursor (session.through view) =
      (rows.nextAsync givenUpAt cursor session).through view := by
  obtain ⟨batch, finished⟩ := rows
  cases batch with
  | cons row batch => rfl
  | nil =>
      unfold nextAsync ready
      dsimp only
      cases finished with
      | true => rfl
      | false =>
          rw [if_neg Bool.false_ne_true, if_neg Bool.false_ne_true]
          unfold Cursor.fetchMany
          rw [Cursor.fetch_through isView]
          rcases cursor.fetch (.async givenUpAt) _ session with ⟨failure | batch, cursor, after⟩
          · rfl
          · dsimp only [Cursor.told]
            cases batch with
            | nil => rfl
            | cons row batch => rfl

end Rows

/-! ### Calls of a client -/

namespace Handle

def Performed.through (view : σ → τ) (performed : Performed σ) : Performed τ :=
  { outcome := performed.outcome
    handle := performed.handle
    session := performed.session.through view }

omit [Transport σ] [Transport τ] in
private theorem answer_through {α : Type} (rows : Rows) (reply : α → Reply)
    (called : Except Failure α × Cursor × Session σ) :
    answer rows reply (Cursor.told view called) = (answer rows reply called).through view :=
  rfl

private theorem perform_through (isView : Transport.IsView view) (manner : Manner)
    (call : CursorCall) (handle : Handle) (session : Session σ) :
    handle.perform manner call (session.through view) =
      (handle.perform manner call session).through view := by
  unfold perform
  cases call with
  | create name => rfl
  | adopt name => rfl
  | setIterationSize size => rfl
  | setArraySize size => rfl
  | iterate => rfl
  | execute query parameters options =>
      dsimp only
      rw [Cursor.execute_through isView, answer_through]
  | prepare query parameters options =>
      dsimp only
      cases handle.cursor.portal.declare query parameters options with
      | error error => rfl
      | ok declaring => rfl
  | describe =>
      dsimp only
      rw [Cursor.describe_through isView, answer_through]
  | fetchOne =>
      dsimp only
      rw [Cursor.fetchOne_through isView, answer_through]
  | fetchMany size =>
      dsimp only [Cursor.fetchMany]
      rw [Cursor.fetch_through isView, answer_through]
  | fetchAll =>
      dsimp only [Cursor.fetchAll]
      rw [Cursor.fetch_through isView, answer_through]
  | scroll value mode =>
      dsimp only
      rw [Cursor.scroll_through isView, answer_through]
  | scrollNamed value mode =>
      dsimp only
      rw [Cursor.scrollNamed_through isView, answer_through]
  | close =>
      dsimp only
      rw [Cursor.close_through isView, answer_through]
  | drop insideTask =>
      dsimp only
      rw [Cursor.drop_through isView]
      rfl
  | next =>
      cases manner with
      | blocking =>
          dsimp only
          rw [Rows.next_through isView]
          rfl
      | async givenUpAt =>
          dsimp only
          rw [Rows.nextAsync_through isView]
          rfl

end Handle

namespace Client

def through (view : σ → τ) (client : Client σ) : Client τ :=
  { session := client.session.through view
    handles := client.handles }

def Performed.through (view : σ → τ) (performed : Performed σ) : Performed τ :=
  { outcome := performed.outcome
    client := performed.client.through view }

def Course.through (view : σ → τ) (course : Course σ) : Course τ :=
  { outcomes := course.outcomes
    client := course.client.through view }

variable (isView : Transport.IsView view)

include isView

theorem ofTransport_through (transport : σ) (timeout : Option Nat) :
    ofTransport (view transport) timeout = (ofTransport transport timeout).through view := by
  unfold ofTransport Session.ofTransport
  rw [isView.isClosed]
  rfl

theorem perform_through (manner : Manner) (call : Call) (client : Client σ) :
    (client.through view).perform manner call = (client.perform manner call).through view := by
  have session : (client.through view).session = client.session.through view := rfl
  unfold perform
  cases call with
  | execute sql parameters =>
      dsimp only
      rw [session, Session.execute_through isView]
      rfl
  | commit =>
      dsimp only [Session.commit]
      rw [session, Session.endTransaction_through isView]
      rfl
  | rollback =>
      dsimp only [Session.rollback]
      rw [session, Session.endTransaction_through isView]
      rfl
  | setAutocommit autocommit =>
      dsimp only
      rw [session, Session.setAutocommit_through isView]
      rfl
  | setTimeout timeout => rfl
  | close =>
      dsimp only
      rw [session, Session.close_through isView]
      rfl
  | cursor number call =>
      have handle : (client.through view).handles = client.handles := rfl
      dsimp only
      rw [session, handle, Handle.perform_through isView]
      rcases (client.handles number).perform manner call client.session with
        ⟨outcome, next, after⟩
      rfl

/-- The same is told of all calls. -/
theorem run_through (calls : List (Manner × Call)) (client : Client σ) :
    (client.through view).run calls = (client.run calls).through view := by
  induction calls generalizing client with
  | nil => rfl
  | cons head rest ih =>
      obtain ⟨manner, call⟩ := head
      unfold run
      rw [perform_through isView]
      rcases client.perform manner call with ⟨outcome, next⟩
      dsimp only [Performed.through]
      rw [ih]
      rfl

theorem through_run (calls : List (Manner × Call)) (client : Client σ) :
    (client.run calls).client.through view = ((client.through view).run calls).client :=
  (congrArg Course.client (run_through isView calls client)).symm

omit isView in
/-- A client that is watched takes the course that it takes otherwise. -/
theorem run_watched (conn : Conn) (timeout : Option Nat) (calls : List (Manner × Call)) :
    ((ofTransport (Attested.ofConn conn) timeout).run calls).client.through Attested.conn =
      ((ofTransport conn timeout).run calls).client := by
  rw [through_run Attested.conn_isView, ← ofTransport_through Attested.conn_isView]
  rfl

end Client

end PgClient

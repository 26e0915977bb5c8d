/-
What a commit that succeeds has done.

Where the server has said last that no transaction is open, a commit succeeds and does
nothing. Anywhere else it succeeds exactly if the statement was sent, once and alone, and the
server has answered it to its end with something that is no error. Of what the server says
that it did nothing is asked: where a transaction has failed a server rolls it back and says
so, and the commit succeeds all the same.
-/

import PgClient.Proofs.Client.BetweenCalls
import PgClient.Proofs.Client.View
import PgClient.Proofs.Session.Granted
import PgClient.Proofs.Wire.Report

namespace PgClient

/-! ### The statement that ends a transaction -/

namespace Session

variable {session : Session Attested}

private theorem endTransaction_of_closed (manner : Manner) (sql : String)
    (closed : session.closed = true) :
    session.endTransaction manner sql = (.error (.error .connectionClosed), session) := by
  unfold endTransaction checkOpen
  rw [closed]
  rfl

private theorem endTransaction_of_idle (manner : Manner) (sql : String)
    (isOpen : session.closed = false) (idle : session.transactionStatus = .idle) :
    session.endTransaction manner sql = (.ok (), session) := by
  unfold endTransaction checkOpen
  rw [isOpen]
  exact if_pos idle

/-- In a transaction, sound or not, the call is what its round trip comes to. -/
theorem endTransaction_of_begun (manner : Manner) (sql : String) (isOpen : session.closed = false)
    (begun : session.transactionStatus ≠ .idle) :
    session.endTransaction manner sql =
      ((checked (session.run manner (RoundTrip.unsent (.query sql))).outcome).map fun _ => (),
        (session.run manner (RoundTrip.unsent (.query sql))).session) := by
  unfold endTransaction checkOpen
  rw [isOpen]
  exact if_neg begun

private theorem endTransaction_ok_iff (manner : Manner) (sql : String)
    (tidy : (session.through Attested.conn).Tidy) (isOpen : session.closed = false)
    (begun : session.transactionStatus ≠ .idle) :
    (session.endTransaction manner sql).1 = .ok () ↔
      ∃ submission, Obtains (.query sql) submission session
        (session.endTransaction manner sql).2 := by
  have told := run_told
    (RoundTrip.tells (.query sql) (session.transport.trace.map Submission.asked)) manner
    (.unsent (.query sql)) session .unsent
  rw [endTransaction_of_begun manner sql isOpen begun]
  dsimp only
  cases outcome : checked (session.run manner (RoundTrip.unsent (.query sql))).outcome with
  | ok result =>
      refine ⟨fun _ => ?_, fun _ => rfl⟩
      exact run_obtains (Dispatches.roundTrip _) (RoundTrip.fresh _) tidy isOpen
        (told.granted outcome) ((passed_of_check rfl _).trans outcome)
  | error failure =>
      constructor
      · nofun
      · rintro ⟨submission, obtains⟩
        have log := congrArg (List.map Submission.asked) obtains.grown
        rcases told.denied outcome with same | ⟨asked, added, _, failed⟩
        · have longer := congrArg List.length (same.symm.trans log)
          change (session.transport.trace.map Submission.asked).length = _ at longer
          rw [List.length_map, List.length_map, List.length_cons] at longer
          omega
        · obtain ⟨rfl, _⟩ := List.cons_eq_cons.mp (added.symm.trans log)
          have succeeded := obtains.succeeded
          rw [failed] at succeeded
          cases succeeded

end Session

/-! ### After any calls -/

namespace Client

/-- What a commit comes to, told from the record of a client that is watched. -/
structure Commits (manner : Manner) (client : Client Conn) (watched : Client Attested) :
    Prop where
  /-- Watching changes nothing. -/
  watches : watched.through Attested.conn = client
  performs :
    (watched.perform manner .commit).through Attested.conn = client.perform manner .commit
  refused : client.session.closed = true →
    watched.perform manner .commit = ⟨.error (.error .connectionClosed), watched⟩
  /-- Where no transaction is open nothing is sent. -/
  unneeded : client.session.closed = false → client.session.transactionStatus = .idle →
    watched.perform manner .commit = ⟨.ok .done, watched⟩
  /-- It takes no more to succeed than an answer without an error. -/
  succeeds : client.session.closed = false → client.session.transactionStatus ≠ .idle →
    ((watched.perform manner .commit).outcome = .ok .done ↔
      ∃ submission, Session.Obtains (.query "COMMIT") submission watched.session
        (watched.perform manner .commit).client.session)

/-- After any calls in any manner, over a session that has been opened, whatever the server
sends and however much the link takes: a commit succeeds in silence where no transaction is
open, and anywhere else exactly if it was sent and answered to the end without an error. -/
theorem run_commits {config : Config} {nonces : Nat → String}
    {dial : Address → Except IoFault Link} {conn : Conn}
    (established : Conn.connect config nonces dial = (.established, conn))
    (timeout : Option Nat) (calls : List (Manner × Call)) (manner : Manner) :
    Commits manner ((ofTransport conn timeout).run calls).client
      ((ofTransport (Attested.ofConn conn) timeout).run calls).client := by
  have watches := run_watched conn timeout calls
  have tidy := run_tidy established timeout calls
  generalize ((ofTransport (Attested.ofConn conn) timeout).run calls).client = watched at watches ⊢
  generalize ((ofTransport conn timeout).run calls).client = client at watches tidy ⊢
  subst watches
  have performed : watched.perform manner .commit =
      ⟨(watched.session.endTransaction manner "COMMIT").1.map fun _ => .done,
        { watched with session := (watched.session.endTransaction manner "COMMIT").2 }⟩ :=
    rfl
  refine ⟨rfl, (perform_through Attested.conn_isView manner .commit watched).symm, ?_, ?_, ?_⟩
  · intro closed
    rw [performed, Session.endTransaction_of_closed manner "COMMIT" closed]
    rfl
  · intro isOpen idle
    rw [performed, Session.endTransaction_of_idle manner "COMMIT" isOpen idle]
    rfl
  · intro isOpen begun
    rw [performed, ← Session.endTransaction_ok_iff manner "COMMIT" tidy isOpen begun]
    cases (watched.session.endTransaction manner "COMMIT").1 with
    | ok done => exact ⟨fun _ => rfl, fun _ => rfl⟩
    | error failure => exact ⟨nofun, nofun⟩

/-- A server that lets everybody in, starts a transaction, and then answers two statements. -/
def answering (first second : Bytes) (_ : Address) : Except IoFault Link :=
  let message (first : Char) (body : Bytes) : Bytes := Frame.bytes { first := first.toUInt8, body }
  let ready (indicator : Char) : Bytes := message 'Z' [indicator.toUInt8]
  .ok
    { arrivals :=
        [.data (message 'R' [0, 0, 0, 0] ++ ready 'I'),
          .data (message 'C' (Bytes.endedByZero (Utf8.encode "BEGIN")) ++ ready 'T'), .blocked,
          .data first, .blocked, .data second, .blocked]
      reports := List.replicate 3 (some { readable := true, writable := true }) }

def committing : Address → Except IoFault Link :=
  let message (first : Char) (body : Bytes) : Bytes := Frame.bytes { first := first.toUInt8, body }
  answering
    (message 'C' (Bytes.endedByZero (Utf8.encode "INSERT 0 1")) ++ message 'Z' ['T'.toUInt8])
    (message 'C' (Bytes.endedByZero (Utf8.encode "COMMIT")) ++ message 'Z' ['I'.toUInt8])

def rollingBack : Address → Except IoFault Link :=
  let message (first : Char) (body : Bytes) : Bytes := Frame.bytes { first := first.toUInt8, body }
  let failed : Diagnostic :=
    { severity := "ERROR", code := "22012", message := "division by zero" }
  answering (message 'E' failed.bytes ++ message 'Z' ['E'.toUInt8])
    (message 'C' (Bytes.endedByZero (Utf8.encode "ROLLBACK")) ++ message 'Z' ['I'.toUInt8])

def tags (client : Client Attested) : List (Command × List (Option String)) :=
  client.session.transport.trace.map fun submission =>
    (submission.command, submission.taken.map QueryResult.tag)

theorem run_commits_committing :
    let opened := (Conn.connect {} (fun _ => "") committing).2
    let calls : List (Manner × Call) := [(.blocking, .execute "insert into t values (1)" [])]
    let client := ((ofTransport opened none).run calls).client
    let watched := ((ofTransport (Attested.ofConn opened) none).run calls).client
    Conn.connect {} (fun _ => "") committing = (.established, opened) ∧
      client.session.closed = false ∧ client.session.transactionStatus = .inTransaction ∧
      (watched.perform (.async none) .commit).outcome.isOk = true ∧
      (watched.perform (.async none) .commit).client.tags.head? =
        some (.query "COMMIT", [some "COMMIT"]) ∧
      Commits (.async none) client watched := by
  intro opened calls client watched
  have established : Conn.connect {} (fun _ => "") committing = (.established, opened) :=
    Prod.ext (by decide +kernel) rfl
  exact ⟨established, by decide +kernel, by decide +kernel, by decide +kernel, by decide +kernel,
    run_commits established none calls (.async none)⟩

/-- The transaction has failed and is rolled back, and the commit succeeds. -/
theorem commit_rolled_back :
    let opened := (Conn.connect {} (fun _ => "") rollingBack).2
    let calls : List (Manner × Call) := [(.blocking, .execute "select 1 / 0" [])]
    let client := ((ofTransport (Attested.ofConn opened) none).run calls).client
    let committed := client.perform .blocking .commit
    Conn.connect {} (fun _ => "") rollingBack = (.established, opened) ∧
      client.session.transactionStatus = .inError ∧
      committed.outcome.isOk = true ∧
      committed.client.tags.head? = some (.query "COMMIT", [some "ROLLBACK"]) := by
  intro opened calls client committed
  have established : Conn.connect {} (fun _ => "") rollingBack = (.established, opened) :=
    Prod.ext (by decide +kernel) rfl
  exact ⟨established, by decide +kernel⟩

end Client

end PgClient

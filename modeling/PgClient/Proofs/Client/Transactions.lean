/-
Transactions that a client does not ask for.

Outside autocommit a statement is executed in a transaction, and a call that finds none open
starts one first. Whatever was called before and whatever the server has said, the statement
goes out behind the start of a transaction, and not before that has been answered to its end
without an error; or it goes out alone, where none is wanted or one is open. The mode itself
changes only where no transaction is open.
-/

import PgClient.Proofs.Client.Autocommit
import PgClient.Proofs.Client.BetweenCalls
import PgClient.Proofs.Client.View
import PgClient.Proofs.Session.Opened

namespace PgClient

open Transactional (startCommand)

def Call.statement? {τ : Type} (client : Client τ) : Call → Option (List Command)
  | .execute sql parameters => some [.ofQuery sql parameters]
  | .cursor number (.execute query parameters options) =>
      let name := (client.handles number).cursor.name
      some [declaration name query parameters options, .describePortal name]
  | _ => none

namespace Client

/-- What a call does, told from the record of a client that is watched. -/
structure Transacts (manner : Manner) (call : Call) (client : Client Conn)
    (watched : Client Attested) : Prop where
  /-- Watching changes nothing. -/
  watches : watched.through Attested.conn = client
  performs :
    (watched.perform manner call).through Attested.conn = client.perform manner call
  /-- The session stands where the server has said last. -/
  reported : client.session.closed = false →
    ∀ latest ∈ watched.session.transport.trace.head?,
      latest.reported? = some client.session.transactionStatus
  /-- The mode changes where no transaction is open, when that is asked for. -/
  mode : (client.perform manner call).client.session.autocommit = client.session.autocommit ∨
    client.session.transactionStatus = .idle ∧
      call = .setAutocommit (client.perform manner call).client.session.autocommit
  /-- Where a start is answered by a transaction being open, a call that executes a statement
  puts it to no session without one. -/
  opens : ∀ statement, call.statement? client = some statement →
    ∃ parts, Session.Opens manner statement watched.session parts
        (watched.perform manner call).outcome (watched.perform manner call).client.session ∧
      (client.session.autocommit = false →
        (∀ part ∈ parts, part.command = startCommand → part.met.transactionStatus = .idle →
          part.Drained → part.reported? = some .inTransaction) →
        ∀ front part back, parts = front ++ part :: back →
          front.length = client.session.opening.length → part.met.transactionStatus ≠ .idle)

private theorem perform_opens (manner : Manner) (call : Call) (client : Client Attested)
    {statement : List Command} (executes : call.statement? client = some statement) :
    ∃ parts, Session.Opens manner statement client.session parts
      (client.perform manner call).outcome (client.perform manner call).client.session := by
  have passes {α β : Type} (change : α → β) (outcome : Except Failure α) :
      ∀ failure, outcome = .error failure → outcome.map change = .error failure := by
    intro failure failed
    rw [failed]
    rfl
  cases call with
  | execute sql parameters =>
      cases executes
      obtain ⟨parts, opens⟩ := Session.execute_opens manner sql parameters client.session
      exact ⟨parts, opens.congr (passes Reply.result _)⟩
  | cursor number call =>
      cases call with
      | execute query parameters options =>
          cases executes
          obtain ⟨parts, opens⟩ := Cursor.execute_opens manner query parameters options
            (client.handles number).cursor client.session
          exact ⟨parts, opens.congr (passes (fun _ => Reply.done) _)⟩
      | _ => cases executes
  | _ => cases executes

/-- After any calls in any manner, over a session that has been opened, whatever the server
sends and however much the link takes: a call that executes a statement outside autocommit
and outside a transaction starts one first. The statement follows when that has been answered
to its end without an error, and if the start fails, the call comes to what the start comes
to. No transaction is started in autocommit or in a transaction. -/
theorem run_transacts {config : Config} {nonces : Nat → String}
    {dial : Address → Except IoFault Link} {conn : Conn}
    (established : Conn.connect config nonces dial = (.established, conn))
    (timeout : Option Nat) (calls : List (Manner × Call)) (manner : Manner) (call : Call) :
    Transacts manner call ((ofTransport conn timeout).run calls).client
      ((ofTransport (Attested.ofConn conn) timeout).run calls).client := by
  have watches := run_watched conn timeout calls
  have tidy := run_tidy established timeout calls
  generalize ((ofTransport (Attested.ofConn conn) timeout).run calls).client = watched at watches ⊢
  generalize ((ofTransport conn timeout).run calls).client = client at watches tidy ⊢
  subst watches
  refine ⟨rfl, (perform_through Attested.conn_isView manner call watched).symm, ?_,
    perform_autocommit manner call _, ?_⟩
  · intro isOpen latest isLatest
    have lawful := watched.session.transport.lawful
    obtain ⟨earlier, trace⟩ := List.head?_eq_some_iff.mp isLatest
    rw [trace] at lawful
    have stillOpen := tidy.closed_iff.symm.trans isOpen
    exact ((lawful.1 stillOpen).of_quiet stillOpen (tidy.quiet isOpen)).2
  · intro statement executes
    obtain ⟨parts, opens⟩ := perform_opens manner call watched executes
    refine ⟨parts, opens, ?_⟩
    intro wanted serves front part back split length
    exact opens.inside wanted serves split length

/-- A server that lets everybody in, completes a statement, and then says three times that a
transaction is open. -/
def keepingOpen (_ : Address) : Except IoFault Link :=
  let message (first : Char) (body : Bytes) : Bytes := Frame.bytes { first := first.toUInt8, body }
  let ready (indicator : Char) : Bytes := message 'Z' [indicator.toUInt8]
  let complete (indicator : Char) : Bytes := message 'C' [66, 0] ++ ready indicator
  .ok
    { arrivals :=
        [.data (message 'R' [0, 0, 0, 0] ++ ready 'I'), .data (complete 'I'), .blocked,
          .data (complete 'T'), .blocked, .data (complete 'T'), .blocked,
          .data (message 'n' [] ++ ready 'T')]
      reports := List.replicate 4 (some { readable := true, writable := true }) }

/-- In autocommit a statement goes out alone; then a cursor declares its portal in a
transaction that has been started first. -/
theorem run_transacts_keepingOpen :
    let opened := (Conn.connect {} (fun _ => "") keepingOpen).2
    let calls : List (Manner × Call) :=
      [(.blocking, .setAutocommit true), (.async none, .execute "select 1" []),
        (.blocking, .setAutocommit false)]
    let call : Call := .cursor 1 (.execute "select 2" [] {})
    let client := ((ofTransport opened none).run calls).client
    let watched := ((ofTransport (Attested.ofConn opened) none).run calls).client
    Conn.connect {} (fun _ => "") keepingOpen = (.established, opened) ∧
      (watched.perform .blocking call).client.session.transport.trace.map Submission.command =
        [.describePortal "porta_cursor_1",
          declaration "porta_cursor_1" "select 2" [] {}, startCommand, .query "select 1"] ∧
      Transacts .blocking call client watched := by
  intro opened calls call client watched
  have established : Conn.connect {} (fun _ => "") keepingOpen = (.established, opened) :=
    Prod.ext (by decide +kernel) rfl
  exact ⟨established, by decide +kernel, run_transacts established none calls .blocking call⟩

end Client

end PgClient

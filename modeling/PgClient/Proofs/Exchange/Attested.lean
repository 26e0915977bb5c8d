/-
Watching what a session hears.

Beside a session a record is kept of each command that it accepted: of the session that the
command was put to, of what the server has said since, and of the results that were taken.
The record bears out itself, since a command is accepted only where the answer to the one
before it has been heard to its end and taken. It changes nothing, and tells at least what
the record of commands and results tells.
-/

import PgClient.Proofs.Conn.Departure
import PgClient.Proofs.Conn.Heard
import PgClient.Proofs.Exchange.Observed

namespace PgClient

open BackendMessage (latest latest_append status? failure?)

/-! ### The record -/

/-- A command that was accepted, and what has followed it. -/
structure Submission where
  command : Command
  /-- The session that the command was put to. -/
  met : Conn
  /-- What the server has said since. -/
  heard : List BackendMessage := []
  taken : List QueryResult := []
  /-- Nothing more can come. -/
  ended : Bool := false

namespace Submission

def asked (submission : Submission) : Asked :=
  { command := submission.command
    results := submission.taken
    ended := submission.ended }

def reported? (submission : Submission) : Option TransactionStatus :=
  latest status? submission.heard

def hear (messages : List BackendMessage) : List Submission → List Submission
  | [] => []
  | submission :: earlier =>
      { submission with heard := submission.heard ++ messages } :: earlier

def take (results : List QueryResult) (ended : Bool) : List Submission → List Submission
  | [] => []
  | submission :: earlier =>
      { submission with taken := submission.taken ++ results, ended } :: earlier

private theorem map_asked_hear (messages : List BackendMessage) (trace : List Submission) :
    (hear messages trace).map asked = trace.map asked := by
  cases trace with
  | nil => rfl
  | cons submission earlier => rfl

private theorem map_asked_take (results : List QueryResult) (ended : Bool)
    (trace : List Submission) :
    (take results ended trace).map asked = Asked.note results ended (trace.map asked) := by
  cases trace with
  | nil => rfl
  | cons submission earlier => rfl

private theorem hear_nil (trace : List Submission) : hear [] trace = trace := by
  cases trace with
  | nil => rfl
  | cons submission earlier => rw [hear, List.append_nil]

/-- The record of the command tells where the session stands that follows it. -/
structure Explains (submission : Submission) (conn : Conn) : Prop where
  inFlight : conn.inFlight = !submission.heard.any BackendMessage.isReady
  status : conn.lastStatus = submission.reported?.getD .active
  failures : (submission.taken ++ conn.results.toList).filter QueryResult.isFatal =
    submission.heard.filterMap failure?

/-- The latest command explains the session as long as that is open, and each command was
put to a session that could accept it, which the one before explains. -/
def Lawful : List Submission → Conn → Prop
  | [], _ => True
  | submission :: earlier, conn =>
      (conn.isClosed = false → submission.Explains conn) ∧
        submission.met.checkSendable = .ok () ∧ Lawful earlier submission.met

namespace Lawful

variable {trace : List Submission} {conn after : Conn} {messages : List BackendMessage}

private theorem hear (lawful : Lawful trace conn)
    (heard : after.isClosed = false → conn.isClosed = false ∧ conn.Hears messages after) :
    Lawful (Submission.hear messages trace) after := by
  cases trace with
  | nil => trivial
  | cons submission earlier =>
      obtain ⟨explains, accepted, before⟩ := lawful
      refine ⟨?_, accepted, before⟩
      intro isOpen
      obtain ⟨wasOpen, hears⟩ := heard isOpen
      have known := explains wasOpen
      refine ⟨?_, ?_, ?_⟩
      · rw [hears.inFlight, known.inFlight, List.any_append, Bool.not_or]
      · rw [hears.status, known.status, reported?, reported?, latest_append]
        cases latest status? messages with
        | none => rfl
        | some status => rfl
      · have failures := known.failures
        rw [List.filter_append] at failures ⊢
        rw [hears.failures, ← List.append_assoc, failures, List.filterMap_append]

/-- What passes without a word of the server leaves the record as it is. -/
theorem silent (lawful : Lawful trace conn)
    (heard : after.isClosed = false → conn.isClosed = false ∧ conn.Hears [] after) :
    Lawful trace after := by
  have whole := lawful.hear heard
  rw [hear_nil] at whole
  exact whole

private theorem take (lawful : Lawful trace conn) {results : List QueryResult}
    {rest : Queue QueryResult} (ended : Bool)
    (split : conn.results.toList = results ++ rest.toList) :
    Lawful (Submission.take results ended trace) { conn with results := rest } := by
  cases trace with
  | nil => trivial
  | cons submission earlier =>
      obtain ⟨explains, accepted, before⟩ := lawful
      refine ⟨?_, accepted, before⟩
      intro isOpen
      have known := explains isOpen
      refine ⟨known.inFlight, known.status, ?_⟩
      have failures := known.failures
      rw [split, ← List.append_assoc] at failures
      exact failures

private theorem send (lawful : Lawful trace conn) {command : Command}
    (sent : conn.send command = (.ok (), after)) :
    Lawful ({ command, met := conn } :: trace) after := by
  obtain ⟨isOpen, quiet, outbox, journal, same⟩ := Conn.send_ok sent
  have accepted : conn.checkSendable = .ok () := by
    rw [Conn.checkSendable_of_settled (.inr quiet), isOpen]
    rfl
  refine ⟨?_, accepted, lawful⟩
  intro _
  subst same
  refine ⟨rfl, rfl, ?_⟩
  change (conn.results.toList).filter QueryResult.isFatal = []
  rw [quiet.2]
  rfl

private theorem refused (lawful : Lawful trace conn) {command : Command} {failure : Failure}
    (sent : conn.send command = (.error failure, after)) : Lawful trace after := by
  obtain ⟨outbox, journal, same⟩ := Conn.send_refused sent
  subst same
  exact lawful.silent fun isOpen => ⟨isOpen, .silence rfl rfl rfl⟩

end Lawful

end Submission

/-- A session with the record of it, the latest command first. -/
structure Attested where
  conn : Conn
  trace : List Submission
  lawful : Submission.Lawful trace conn

namespace Conn

/-- What has not become of a session was not there before. -/
theorem open_of_perform {conn : Conn} (deed : Deed)
    (isOpen : (conn.perform deed).isClosed = false) :
    conn.isClosed = false := by
  cases closed : conn.isClosed with
  | false => rfl
  | true =>
      rw [(perform_of_closed closed deed).1] at isOpen
      cases isOpen

end Conn

namespace Attested

open Submission (Lawful map_asked_hear map_asked_take)

def ofConn (conn : Conn) : Attested :=
  { conn
    trace := []
    lawful := trivial }

def pass (attested : Attested) (conn : Conn)
    (silent : conn.isClosed = false →
      attested.conn.isClosed = false ∧ attested.conn.Hears [] conn) : Attested :=
  { conn
    trace := attested.trace
    lawful := attested.lawful.silent silent }

def send (command : Command) (attested : Attested) : Except Failure Unit × Attested :=
  match sent : attested.conn.send command with
  | (.error failure, conn) =>
      (.error failure,
        { conn
          trace := attested.trace
          lawful := attested.lawful.refused sent })
  | (.ok (), conn) =>
      (.ok (),
        { conn
          trace := { command, met := attested.conn } :: attested.trace
          lawful := attested.lawful.send sent })

def flush (attested : Attested) : Except Error Bool × Attested :=
  (attested.conn.flush.1,
    attested.pass attested.conn.flush.2 fun isOpen =>
      ⟨Conn.open_of_perform .flush isOpen, Conn.flush_hears isOpen⟩)

def consumeInput (attested : Attested) : Except Error Unit × Attested :=
  (attested.conn.consumeInput.1,
    { conn := attested.conn.consumeInput.2
      trace := Submission.hear attested.conn.hears attested.trace
      lawful := attested.lawful.hear fun isOpen =>
        ⟨Conn.open_of_perform .consume isOpen, Conn.consumeInput_hears isOpen⟩ })

def takeResult (attested : Attested) : Option QueryResult × Attested :=
  match taken : attested.conn.results.take? with
  | none =>
      (none,
        { conn := attested.conn
          trace := Submission.take [] (!attested.conn.isBusy) attested.trace
          lawful := attested.lawful.take _ rfl })
  | some (result, results) =>
      (some result,
        { conn := { attested.conn with results }
          trace := Submission.take [result] false attested.trace
          lawful := attested.lawful.take _ (Queue.toList_of_take? taken) })

def takeResults (attested : Attested) : List QueryResult × Attested :=
  (attested.conn.results.toList,
    { conn := attested.conn.takeResults.2
      trace :=
        Submission.take attested.conn.results.toList (!attested.conn.takeResults.2.isBusy)
          attested.trace
      lawful := attested.lawful.take _ (List.append_nil _).symm })

instance : Transport Attested where
  send := send
  flush := flush
  consumeInput := consumeInput
  isBusy attested := attested.conn.isBusy
  takeResult := takeResult
  takeResults := takeResults
  checkOpen attested := attested.conn.checkOpen
  await wait attested :=
    ((Transport.await wait attested.conn).1,
      attested.pass (Transport.await wait attested.conn).2 fun isOpen =>
        ⟨isOpen, .silence rfl rfl rfl⟩)
  patience attested := Transport.patience attested.conn
  transactionStatus attested := attested.conn.transactionStatus
  clientEncoding attested := attested.conn.clientEncoding
  isClosed attested := attested.conn.isClosed
  finish attested :=
    attested.pass attested.conn.finish fun isOpen => by
      rw [Conn.finish_isClosed] at isOpen
      cases isOpen
  record event attested :=
    attested.pass (attested.conn.record event) fun isOpen => ⟨isOpen, .silence rfl rfl rfl⟩

/-! ### What can be seen of it -/

def observed (attested : Attested) : Observed Conn :=
  { transport := attested.conn
    log := attested.trace.map Submission.asked }

private theorem observed_send (command : Command) (attested : Attested) :
    (observed attested).send command = Prod.map id observed (attested.send command) := by
  have sends : Transport.send command (observed attested).transport = attested.conn.send command :=
    rfl
  unfold Observed.send send
  rw [sends]
  split
  · rename_i failure conn sent
    split
    · rename_i same
      cases sent.symm.trans same
      rfl
    · rename_i same
      cases sent.symm.trans same
  · rename_i conn sent
    split
    · rename_i same
      cases sent.symm.trans same
    · rename_i same
      cases sent.symm.trans same
      rfl

private theorem observed_takeResult (attested : Attested) :
    (observed attested).takeResult = Prod.map id observed attested.takeResult := by
  have takes : Transport.takeResult (observed attested).transport = attested.conn.takeResult := rfl
  unfold Observed.takeResult takeResult
  rw [takes]
  split
  rename_i result transport taken
  unfold Conn.takeResult at taken
  split
  · rename_i none
    rw [none] at taken
    cases taken
    exact Prod.ext rfl (congrArg (Observed.mk attested.conn) (map_asked_take ..).symm)
  · rename_i first results some
    rw [some] at taken
    cases taken
    exact Prod.ext rfl
      (congrArg (Observed.mk { attested.conn with results }) (map_asked_take ..).symm)

theorem observed_isView : Transport.IsView observed where
  send := observed_send
  flush _ := rfl
  consumeInput _ :=
    Prod.ext rfl (congrArg (Observed.mk _) (map_asked_hear ..).symm)
  isBusy _ := rfl
  takeResult := observed_takeResult
  takeResults _ :=
    Prod.ext rfl (congrArg (Observed.mk _) (map_asked_take ..).symm)
  checkOpen _ := rfl
  await _ _ := rfl
  patience _ := rfl
  transactionStatus _ := rfl
  isClosed _ := rfl
  finish _ := rfl
  record _ _ := rfl

/-- Watching changes nothing. -/
theorem conn_isView : Transport.IsView Attested.conn :=
  Observed.transport_isView.comp observed_isView

end Attested

end PgClient

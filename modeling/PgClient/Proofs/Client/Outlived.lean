/-
Letting go of a cursor whose transaction may be over.

A cursor that was declared without hold is gone from the server when its transaction is. What
is done about it when it is closed, or dropped, goes by where the session stands at that
moment: in an open and sound transaction the statement that closes a portal of its name goes
out, and nothing with it; anywhere else nothing does. Whether that transaction is the one that
the cursor was declared in is not asked. So a cursor that has outlived its transaction is let
go in silence only for as long as no other has been started.
-/

import PgClient.Proofs.Client.BetweenCalls
import PgClient.Proofs.Client.Bound
import PgClient.Proofs.Client.View
import PgClient.Proofs.Exchange.Conclusion
import PgClient.Proofs.Session.Opened
import PgClient.Proofs.Wire.Report

namespace PgClient

/-! ### The statement that closes -/

namespace Closing

variable {τ : Type} [Transport τ] {command : Command}

theorem dispatches (command : Command) :
    Dispatches ({ existence := none, release := .unsent command } : Closing) command
      { existence := none, release := .dispatched } where
  refused {_ _ transport after failure} ready sends := by
    obtain ⟨left, failed⟩ := (Dispatches.roundTrip command).refused ready sends
    have resumed : (RoundTrip.unsent command).resume ready transport =
        ⟨.failed failure, left, after⟩ := failed
    refine ⟨{ existence := none, release := left }, ?_⟩
    change Closing.resume ready _ transport = _
    simp only [Closing.resume, letGo, resumed]
  accepted {_ _ transport after} ready sends := by
    have resumed : (RoundTrip.unsent command).resume ready transport =
        RoundTrip.dispatched.resume .nothing after :=
      (Dispatches.roundTrip command).accepted ready sends
    change Closing.resume ready _ transport = Closing.resume .nothing _ after
    simp only [Closing.resume, letGo, resumed]

def Going (command : Command) (earlier : List Asked) (exchange : Closing) (log : List Asked) :
    Prop :=
  exchange.existence = none ∧ RoundTrip.Asking command earlier exchange.release log

def Over (command : Command) (earlier : List Asked) :
    Except Failure Unit → Closing → List Asked → Prop
  | .ok _, _, log => ∃ result, Granted command result earlier log
  | .error _, _, log => Denied command earlier log

theorem tells (command : Command) (earlier : List Asked) :
    Tells τ (Going command earlier) (Over command earlier) where
  turn ready exchange observed going := by
    obtain ⟨existence, release⟩ := exchange
    obtain ⟨rfl, asking⟩ := going
    have goes := RoundTrip.resume_goes ready asking
    change (Closing.resume ready _ observed).Leads _ _
    unfold Closing.resume letGo
    dsimp only at goes ⊢
    generalize release.resume ready observed = turn at goes ⊢
    cases goes with
    | waits asking => exact ⟨rfl, asking⟩
    | failed denied => exact denied
    | @done result next after heard =>
        dsimp only
        cases checked : result.check with
        | error error => exact heard.denied checked
        | ok passed => exact ⟨passed, heard.granted checked⟩
  cut _ _ _ going := going.2.denied

private theorem pursues (command : Command) :
    Pursues τ ({ existence := none, release := .unsent command } : Closing) [command] := by
  intro manner timeout patience observed
  have told := Waiting.drive_tells (tells command observed.log) manner timeout patience
    { existence := none, release := .unsent command } observed ⟨rfl, .unsent⟩
  generalize Waiting.drive manner timeout patience
    ({ existence := none, release := .unsent command } : Closing) observed = ended at told ⊢
  obtain ⟨outcome, closing, after⟩ := ended
  cases outcome with
  | error failure => exact .of_denied told
  | ok released =>
      obtain ⟨result, granted⟩ := told
      exact .of_granted granted (.still [])

end Closing

namespace Portal

variable {portal : Portal}

private theorem isExpected_unheld (unheld : portal.hold = false) (own : portal.adopted = false)
    (status : TransactionStatus) : portal.isExpected status = decide (status = .inTransaction) := by
  unfold isExpected
  rw [unheld, own]
  cases status with
  | _ => rfl

theorem close_of_expected {status : TransactionStatus} (isOpen : portal.isOpen = true)
    (own : portal.adopted = false) (expected : portal.isExpected status = true) :
    portal.close status = (some ⟨none, statementTrip (.close portal.name)⟩, portal.discard) := by
  unfold close
  rw [isOpen, expected, own]
  rfl

theorem close_of_unexpected {status : TransactionStatus}
    (unexpected : (portal.isOpen && portal.isExpected status) = false) :
    portal.close status = (none, portal.discard) := by
  unfold close
  rw [unexpected]
  rfl

private theorem close_unexpected (unheld : portal.hold = false) (own : portal.adopted = false)
    {status : TransactionStatus} (gone : ¬(portal.isOpen = true ∧ status = .inTransaction)) :
    portal.close status = (none, portal.discard) := by
  apply close_of_unexpected
  rw [isExpected_unheld unheld own, Bool.and_eq_false_iff, decide_eq_false_iff_not]
  cases isOpen : portal.isOpen with
  | false => exact .inl rfl
  | true => exact .inr fun inside => gone ⟨isOpen, inside⟩

end Portal

/-! ### What a session makes of it -/

namespace Attested

variable {attested : Attested}

/-- A session that is ready for a command stands where the server has said last. -/
theorem reported (isOpen : attested.conn.isClosed = false) (quiet : attested.conn.Quiet)
    {latest : Submission} (isLatest : latest ∈ attested.trace.head?) :
    latest.reported? = some attested.conn.transactionStatus := by
  have lawful := attested.lawful
  obtain ⟨earlier, trace⟩ := List.head?_eq_some_iff.mp isLatest
  rw [trace] at lawful
  exact ((lawful.1 isOpen).of_quiet isOpen quiet).2

/-- A session that is ready for a command accepts one that fits. -/
theorem send_of_fits {command : Command} (isOpen : attested.conn.isClosed = false)
    (quiet : attested.conn.Quiet) (fits : command.Fits) :
    ∃ after, Transport.send command attested = (.ok (), after) := by
  have accepted := Conn.send_of_fits isOpen quiet fits
  change ∃ after, attested.send command = (.ok (), after)
  unfold send
  split
  · rename_i refused
    cases refused.symm.trans accepted
  · exact ⟨_, rfl⟩

end Attested

namespace Session

def OnlyTold {τ : Type} [Transport τ] (before after : Session τ) : Prop :=
  after = before ∨
    ∃ event, after = { before with transport := Transport.record event before.transport }

def Closes (name : String) (before after : Session Attested) : Prop :=
  ∃ closing, after.transport.trace = closing :: before.transport.trace ∧
    closing.command = .query (CursorStatement.close name).sql

/-- An exchange of one command that is accepted adds this command to the record. -/
theorem run_once {α γ : Type} [Exchange γ α] [Uniform γ α] {exchange sent : γ}
    {command : Command} {session : Session Attested} {after : Attested}
    (dispatches : Dispatches exchange command sent) (pursues : Pursues Conn exchange [command])
    (accepted : Transport.send command session.transport = (.ok (), after)) (manner : Manner) :
    ∃ submission, (session.run manner exchange).session.transport.trace =
      submission :: session.transport.trace ∧ submission.command = command := by
  have onward : (session.run manner exchange).session.transport.Onward command
      session.transport.conn session.transport.trace := by
    have begun : after.Onward command session.transport.conn session.transport.trace :=
      ⟨[], _, Attested.send_accepted accepted, rfl, rfl⟩
    have driven := (Attested.onward_keeps command session.transport.conn
      session.transport.trace).drive manner session.timeout
        (Transport.patience session.transport + 1) sent begun
    rw [← dispatches.drive_accepted accepted, ← Waiting.run_eq_drive] at driven
    obtain ⟨later, first, grown, known⟩ := driven
    refine ⟨later, first, ?_, known⟩
    rw [← grown]
    exact settle_trace ..
  obtain ⟨later, first, grown, isCommand, _⟩ := onward
  have follows := run_pursued pursues manner (session.through Attested.observed)
  rw [run_log, grown] at follows
  have parts : later ++ first :: session.transport.trace =
      (first :: later.reverse).reverse ++ session.transport.trace := by
    rw [List.reverse_cons, List.reverse_reverse, List.append_assoc]
    rfl
  rw [parts] at follows
  have few := (Pursued.of_parts follows).1.length_le
  rw [List.length_map, List.length_cons, List.length_reverse, List.length_singleton] at few
  obtain rfl := List.eq_nil_of_length_eq_zero (Nat.le_zero.mp (Nat.le_of_succ_le_succ few))
  exact ⟨first, grown, isCommand⟩

variable {session : Session Attested}

/-- A session that is in a transaction is open, and accepts the statement. -/
theorem run_closing (tidy : (session.through Attested.conn).Tidy)
    (inside : session.transactionStatus = .inTransaction) {name : String}
    (fits : (Command.query (CursorStatement.close name).sql).Fits) (manner : Manner) :
    session.Closes name
      (session.run manner
        (⟨none, Portal.statementTrip (.close name)⟩ : Closing)).session := by
  have isOpen : session.transport.conn.isClosed = false := by
    cases closed : session.transport.conn.isClosed with
    | false => rfl
    | true =>
        have unknown : session.transactionStatus = .unknown := by
          change session.transport.conn.transactionStatus = _
          rw [Conn.transactionStatus, closed]
          rfl
        cases unknown.symm.trans inside
  have quiet : session.transport.conn.Quiet := tidy.quiet (tidy.closed_iff.trans isOpen)
  obtain ⟨after, accepted⟩ := Attested.send_of_fits isOpen quiet fits
  exact run_once (Closing.dispatches _) (Closing.pursues _) accepted manner

end Session

/-! ### Letting go of a cursor -/

namespace Cursor

variable {cursor : Cursor} {session : Session Attested}

/-- The statement that closes it would be sent. -/
def Disturbs (cursor : Cursor) (session : Session Attested) : Prop :=
  cursor.portal.isOpen = true ∧ session.transactionStatus = .inTransaction

variable (unheld : cursor.portal.hold = false) (own : cursor.portal.adopted = false)

include unheld own

private theorem close_silent (silent : ¬cursor.Disturbs session) (manner : Manner) :
    cursor.close manner session =
      (.ok (), { cursor with portal := cursor.portal.discard }, session) := by
  unfold close
  rw [Portal.close_unexpected unheld own silent]

omit unheld in
private theorem close_disturbs (disturbs : cursor.Disturbs session)
    (tidy : (session.through Attested.conn).Tidy)
    (fits : (Command.query (CursorStatement.close cursor.name).sql).Fits) (manner : Manner) :
    session.Closes cursor.name (cursor.close manner session).2.2 := by
  obtain ⟨isOpen, inside⟩ := disturbs
  unfold close
  rw [inside, Portal.close_of_expected isOpen own rfl]
  exact Session.run_closing tidy inside fits manner

omit own unheld in
/-- A cursor of a task is told of, and so is one that is dropped inside of a task. -/
theorem drop_leaves {flavour : Flavour} {insideTask : Bool}
    (leaves : flavour = .async ∨ insideTask = true) :
    session.OnlyTold (cursor.drop flavour insideTask session) := by
  unfold drop
  split
  · exact .inl rfl
  · dsimp only
    rw [if_pos (by simpa using leaves)]
    exact .inr ⟨_, rfl⟩

private theorem drop_silent (silent : ¬cursor.Disturbs session) (flavour : Flavour)
    (insideTask : Bool) :
    session.OnlyTold (cursor.drop flavour insideTask session) := by
  have told : ∀ status, status = .unknown ∨ status = session.transactionStatus →
      ¬(cursor.portal.isOpen = true ∧ status = .inTransaction) := by
    rintro status (rfl | rfl)
    · rintro ⟨_, impossible⟩
      cases impossible
    · exact silent
  unfold drop
  split
  · exact .inl rfl
  · dsimp only
    split
    · exact .inr ⟨_, rfl⟩
    · rw [Portal.close_unexpected unheld own]
      · exact .inr ⟨_, rfl⟩
      · apply told
        split
        · exact .inl rfl
        · exact .inr rfl

omit unheld in
private theorem drop_disturbs (disturbs : cursor.Disturbs session)
    (tidy : (session.through Attested.conn).Tidy)
    (fits : (Command.query (CursorStatement.close cursor.name).sql).Fits) :
    session.Closes cursor.name (cursor.drop .blocking false session) := by
  obtain ⟨isOpen, inside⟩ := disturbs
  let told : Session Attested :=
    { session with
      transport := Transport.record (.cursorLeftOpen cursor.name .blocking) session.transport }
  have stillTidy : (told.through Attested.conn).Tidy := Session.tell_tidy _ tidy
  have closes : told.Closes cursor.name
      (told.run .blocking (⟨none, Portal.statementTrip (.close cursor.name)⟩ : Closing)).session :=
    Session.run_closing stillTidy inside fits .blocking
  have asked : cursor.portal.close
      (if session.closed then .unknown else told.transactionStatus) =
        (some ⟨none, Portal.statementTrip (.close cursor.name)⟩, cursor.portal.discard) := by
    cases closed : session.closed with
    | true => cases (Session.transactionStatus_of_closed tidy closed).symm.trans inside
    | false =>
        change cursor.portal.close session.transactionStatus = _
        rw [inside, Portal.close_of_expected isOpen own rfl]
        rfl
  unfold drop
  rw [isOpen]
  dsimp only
  rw [if_neg (by decide), if_neg (by decide), asked]
  dsimp only
  generalize told.run .blocking
    (⟨none, Portal.statementTrip (.close cursor.name)⟩ : Closing) = answered at closes ⊢
  obtain ⟨failure | done, exchange, after⟩ := answered
  · cases failure with
    | error error => exact closes
    | defect defect => exact closes
    | abandoned => exact closes
  · exact closes

end Cursor

/-! ### After any calls -/

namespace Client

/-- What is done about the cursor of this number when it is let go. -/
structure LetsGo (number : Nat) (client : Client Attested) : Prop where
  /-- The session stands where the server has said last. -/
  reported : client.session.closed = false →
    ∀ latest ∈ client.session.transport.trace.head?,
      latest.reported? = some client.session.transactionStatus
  /-- Where no sound transaction is open, closing the cursor succeeds and leaves the session as
  it was. -/
  closesSilently : ¬(client.handles number).cursor.Disturbs client.session → ∀ manner,
    (client.perform manner (.cursor number .close)).outcome = .ok .done ∧
      (client.perform manner (.cursor number .close)).client.session = client.session
  dropsSilently : ¬(client.handles number).cursor.Disturbs client.session →
    ∀ manner insideTask, client.session.OnlyTold
      (client.perform manner (.cursor number (.drop insideTask))).client.session
  /-- A cursor that cannot block is left to itself. -/
  leaves : ∀ manner insideTask, manner.flavour = .async ∨ insideTask = true →
    client.session.OnlyTold
      (client.perform manner (.cursor number (.drop insideTask))).client.session
  /-- In a transaction, whichever it is, the portal of the name is closed. -/
  disturbs : (client.handles number).cursor.Disturbs client.session →
    (Command.query (CursorStatement.close (client.handles number).cursor.name).sql).Fits →
      (∀ manner, client.session.Closes (client.handles number).cursor.name
        (client.perform manner (.cursor number .close)).client.session) ∧
      client.session.Closes (client.handles number).cursor.name
        (client.perform .blocking (.cursor number (.drop false))).client.session

private theorem letsGo {number : Nat} {client : Client Attested}
    (tidy : (client.session.through Attested.conn).Tidy)
    (unheld : (client.handles number).cursor.portal.hold = false)
    (own : (client.handles number).cursor.portal.adopted = false) : client.LetsGo number where
  reported isOpen latest isLatest :=
    Attested.reported (tidy.closed_iff.symm.trans isOpen) (tidy.quiet isOpen) isLatest
  closesSilently silent manner := by
    have closed := Cursor.close_silent unheld own silent manner
    constructor
    · change ((client.handles number).cursor.close manner client.session).1.map _ = _
      rw [closed]
      rfl
    · change ((client.handles number).cursor.close manner client.session).2.2 = _
      rw [closed]
  dropsSilently silent manner insideTask :=
    Cursor.drop_silent unheld own silent manner.flavour insideTask
  leaves _ _ leaves := Cursor.drop_leaves leaves
  disturbs disturbs fits :=
    ⟨Cursor.close_disturbs own disturbs tidy fits, Cursor.drop_disturbs own disturbs tidy fits⟩

theorem perform_execute {τ : Type} [Transport τ] (manner : Manner) (number : Nat) (query : String)
    (parameters : List Parameter) (options : DeclareOptions) (start : Client τ) :
    ((start.perform manner (.cursor number (.execute query parameters options))).client.handles
        number).cursor =
      ((start.handles number).cursor.execute manner query parameters options
        start.session).2.1 := by
  change (if number = number then _ else _ : Handle).cursor = _
  rw [if_pos rfl]

/-- A cursor that has been declared is so under its own name and as it was asked to be, and by
itself. -/
theorem declared_own {τ : Type} [Transport τ] {manner : Manner} {number : Nat} {query : String}
    {parameters : List Parameter} {options : DeclareOptions} {start : Client τ}
    (own : (start.handles number).cursor.portal.Own)
    (unbound : (start.handles number).cursor.state = .unbound) :
    let executing : Call := .cursor number (.execute query parameters options)
    let declared := (start.perform manner executing).client
    (declared.handles number).cursor.state ≠ .unbound →
      (declared.handles number).cursor.name = (start.handles number).cursor.name ∧
        (declared.handles number).cursor.portal.hold = options.hold ∧
        (declared.handles number).cursor.portal.adopted = false := by
  intro executing declared bound
  have handle := perform_execute manner number query parameters options start
  rw [handle] at bound ⊢
  rcases Cursor.execute_later manner (start.handles number).cursor start.session query
    parameters options with unchanged | ⟨_, later⟩
  · rw [unchanged] at bound
    exact absurd unbound bound
  · exact ⟨later.name, later.hold, later.adopted.trans (own unbound)⟩

/-- After any calls in any manner, over a session that has been opened, a cursor is declared
without hold; any calls follow that leave it its handle. Then it is let go: where the server
has said last that a transaction is open, be it one that was started since, the statement that
closes a portal of its name goes out alone, and anywhere else nothing goes out. -/
theorem run_letsGo {config : Config} {nonces : Nat → String}
    {dial : Address → Except IoFault Link} {conn : Conn}
    (established : Conn.connect config nonces dial = (.established, conn))
    (timeout : Option Nat) (calls : List (Manner × Call)) (manner : Manner) (number : Nat)
    (query : String) (parameters : List Parameter) {options : DeclareOptions}
    (withoutHold : options.hold = false) {later : List (Manner × Call)}
    (same : ∀ entry ∈ later, entry.2.renews number = false) :
    let executing : Call := .cursor number (.execute query parameters options)
    let start := ((ofTransport (Attested.ofConn conn) timeout).run calls).client
    let declared := (start.perform manner executing).client
    let client := (declared.run later).client
    (start.handles number).cursor.state = .unbound →
      (declared.handles number).cursor.state ≠ .unbound →
      client.through Attested.conn =
          ((((ofTransport conn timeout).run calls).client.perform manner executing).client.run
            later).client ∧
        (client.handles number).cursor.name = (start.handles number).cursor.name ∧
        client.LetsGo number := by
  intro executing start declared client unbound bound
  have whole : client.through Attested.conn =
      ((((ofTransport conn timeout).run calls).client.perform manner executing).client.run
        later).client := by
    have isView := Attested.conn_isView
    have ofConn : ofTransport conn timeout =
        (ofTransport (Attested.ofConn conn) timeout).through Attested.conn :=
      ofTransport_through isView (Attested.ofConn conn) timeout
    rw [ofConn, run_through isView, Course.through, perform_through isView, Performed.through,
      run_through isView]
    rfl
  have tidy : (client.session.through Attested.conn).Tidy := by
    have kept :=
      (run_kept later (perform_kept manner executing (run_tidy established timeout calls)).1).1
    rw [← whole] at kept
    exact kept
  have own : (start.handles number).cursor.portal.Own :=
    ofTransport_lasting Portal.own_lasting (Attested.ofConn conn) timeout calls number
  obtain ⟨name, hold, alone⟩ := declared_own own unbound bound
  have kept := run_later same bound
  have unheld := (kept.hold.trans hold).trans withoutHold
  exact ⟨whole, kept.name.trans name, letsGo tidy unheld (kept.adopted.trans alone)⟩

/-- A server that lets everybody in. It starts a transaction, declares and describes a cursor,
ends the transaction and starts another, in which it runs a statement. Of the cursor it knows
nothing then. -/
def forgetful (_ : Address) : Except IoFault Link :=
  let message (first : Char) (body : Bytes) : Bytes := Frame.bytes { first := first.toUInt8, body }
  let ready (indicator : Char) : Bytes := message 'Z' [indicator.toUInt8]
  let complete (indicator : Char) : Bytes := message 'C' [66, 0] ++ ready indicator
  let unknown : Diagnostic :=
    { severity := "ERROR", code := "34000", message := "cursor does not exist" }
  .ok
    { arrivals :=
        [.data (message 'R' [0, 0, 0, 0] ++ ready 'I'), .data (complete 'T'), .blocked,
          .data (complete 'T'), .blocked, .data (message 'n' [] ++ ready 'T'), .blocked,
          .data (complete 'I'), .blocked, .data (complete 'T'), .blocked, .data (complete 'T'),
          .blocked, .data (message 'E' unknown.bytes ++ ready 'E'), .blocked]
      reports := List.replicate 7 (some { readable := true, writable := true }) }

def meanwhile : List (Manner × Call) :=
  [(.async none, .commit), (.blocking, .execute "insert into t values (1)" [])]

theorem run_letsGo_forgetful :
    let opened := (Conn.connect {} (fun _ => "") forgetful).2
    let start := ((ofTransport (Attested.ofConn opened) none).run []).client
    let declared := (start.perform .blocking (.cursor 1 (.execute "select 1" [] {}))).client
    let client := (declared.run meanwhile).client
    Conn.connect {} (fun _ => "") forgetful = (.established, opened) ∧
      (start.handles 1).cursor.state = .unbound ∧ (declared.handles 1).cursor.state ≠ .unbound ∧
      (∀ entry ∈ meanwhile, entry.2.renews 1 = false) ∧
      (client.handles 1).cursor.name = "porta_cursor_1" ∧ client.LetsGo 1 := by
  intro opened start declared client
  have established : Conn.connect {} (fun _ => "") forgetful = (.established, opened) :=
    Prod.ext (by decide +kernel) rfl
  have unbound : (start.handles 1).cursor.state = .unbound := by decide +kernel
  have bound : (declared.handles 1).cursor.state ≠ .unbound := by decide +kernel
  have same : ∀ entry ∈ meanwhile, entry.2.renews 1 = false := by decide
  obtain ⟨_, name, letsGo⟩ :=
    run_letsGo established none [] .blocking 1 "select 1" [] rfl same unbound bound
  have named : (start.handles 1).cursor.name = "porta_cursor_1" := by decide +kernel
  exact ⟨established, unbound, bound, same, name.trans named, letsGo⟩

def told (client : Client Attested) : List (Command × Option TransactionStatus) :=
  client.session.transport.trace.map fun submission => (submission.command, submission.reported?)

/-- The server has said since that no transaction is open, and the cursor is closed in another
transaction. The server is asked to close a portal that is gone, and that transaction is lost
with its error. -/
theorem close_not_silent :
    let opened := (Conn.connect {} (fun _ => "") forgetful).2
    let start := ofTransport (Attested.ofConn opened) none
    let declared := (start.perform .blocking (.cursor 1 (.execute "select 1" [] {}))).client
    let client := (declared.run meanwhile).client
    let closed := client.perform .blocking (.cursor 1 .close)
    Conn.connect {} (fun _ => "") forgetful = (.established, opened) ∧
      (declared.handles 1).cursor.state = .described ∧
      (declared.handles 1).cursor.portal.hold = false ∧
      client.told = [(.query "insert into t values (1)", some .inTransaction),
        (.query "BEGIN", some .inTransaction), (.query "COMMIT", some .idle)] ++ declared.told ∧
      closed.client.told =
        (.query "close \"porta_cursor_1\"", some .inError) :: client.told ∧
      closed.outcome.isOk = false ∧ closed.client.session.transactionStatus = .inError := by
  intro opened start declared client closed
  have established : Conn.connect {} (fun _ => "") forgetful = (.established, opened) :=
    Prod.ext (by decide +kernel) rfl
  exact ⟨established, by decide +kernel⟩

end Client

end PgClient

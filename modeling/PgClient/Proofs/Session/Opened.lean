/-
Statements in a transaction.

A call that executes a statement where a transaction is wanted and none is open starts one
first. The record of such a call begins with the session as the call has found it. The
statement is put to a session that has heard the answer to the start to its end, without an
error, and stands where that answer has said.
-/

import PgClient.Proofs.Session.Dispatched
import PgClient.Proofs.Session.Pursued

namespace PgClient

open Transactional (startCommand)

/-! ### Answers that have been drained -/

namespace Submission

/-- The answer has been heard until the server was ready, and there is no error in it. -/
structure Drained (submission : Submission) : Prop where
  ready : submission.heard.any BackendMessage.isReady = true
  unfailing : ∀ body, .errorResponse body ∉ submission.heard
  taken : ∀ result ∈ submission.taken, result.isFatal = false

variable {submission next : Submission} {earlier trace : List Submission} {conn : Conn}

/-- A command that has succeeded has brought no error. -/
theorem not_fatal_of_success (succeeded : submission.asked.success?.isSome = true) :
    ∀ result ∈ submission.taken, result.isFatal = false := by
  have answered : ∃ result, QueryResult.conclusion? submission.taken = some result ∧
      (result.check.toOption).isSome = true := by
    obtain ⟨passed, success⟩ := Option.isSome_iff_exists.mp succeeded
    obtain ⟨result, answer, checked⟩ := Option.bind_eq_some_iff.mp success
    unfold Asked.answer? at answer
    split at answer
    · exact ⟨result, answer, by rw [checked]; rfl⟩
    · cases answer
  obtain ⟨result, concluded, passes⟩ := answered
  unfold QueryResult.conclusion? at concluded
  cases found : submission.taken.find? QueryResult.isFatal with
  | none =>
      intro other member
      exact Bool.eq_false_iff.mpr (List.find?_eq_none.mp found other member)
  | some failure =>
      rw [found] at concluded
      have same : failure = result := Option.some.inj concluded
      subst same
      have isFatal : failure.isFatal = true := List.find?_some found
      have fatal : failure.status = .fatalError := beq_iff_eq.mp isFatal
      unfold QueryResult.check at passes
      rw [fatal] at passes
      cases passes

/-- A session that is ready for a command has heard the answer to the one before, and stands
where that has said. -/
theorem Explains.of_quiet (explains : submission.Explains conn) (isOpen : conn.isClosed = false)
    (quiet : conn.Quiet) :
    submission.heard.any BackendMessage.isReady = true ∧
      submission.reported? = some conn.transactionStatus := by
  have ready : submission.heard.any BackendMessage.isReady = true := by
    have flying := explains.inFlight
    rw [quiet.1] at flying
    cases ready : submission.heard.any BackendMessage.isReady with
    | true => rfl
    | false =>
        rw [ready] at flying
        cases flying
  obtain ⟨status, said⟩ :=
    Option.isSome_iff_exists.mp (BackendMessage.isSome_latest_status ready)
  have reported : submission.reported? = some status := said
  have same := explains.status
  rw [reported] at same
  refine ⟨ready, ?_⟩
  rw [reported, Conn.transactionStatus, isOpen, same]
  rfl

/-- A session that is ready for a command has drained the answer to one that has succeeded,
and stands where the answer has said. -/
theorem Explains.drained (explains : submission.Explains conn) (isOpen : conn.isClosed = false)
    (quiet : conn.Quiet) (succeeded : submission.asked.success?.isSome = true) :
    submission.Drained ∧ submission.reported? = some conn.transactionStatus := by
  obtain ⟨ready, reported⟩ := explains.of_quiet isOpen quiet
  have taken := not_fatal_of_success succeeded
  have failures := explains.failures
  rw [quiet.2, List.append_nil] at failures
  have none : submission.taken.filter QueryResult.isFatal = [] :=
    List.filter_eq_nil_iff.mpr fun result member => by simp [taken result member]
  exact ⟨⟨ready, BackendMessage.not_error_of_failures (failures.symm.trans none), taken⟩, reported⟩

/-- So was the session that the next command was put to. -/
theorem Lawful.drained (lawful : Lawful (next :: submission :: earlier) conn)
    (succeeded : submission.asked.success?.isSome = true) :
    submission.Drained ∧ submission.reported? = some next.met.transactionStatus := by
  obtain ⟨_, accepted, explains, _, _⟩ := lawful
  obtain ⟨isOpen, quiet⟩ := Conn.checkSendable_ok accepted
  exact (explains isOpen).drained isOpen quiet succeeded

/-- What came before was lawful when it was the latest. -/
theorem Lawful.of_append {front : List Submission} (lawful : Lawful (front ++ trace) conn) :
    ∃ before, Lawful trace before := by
  induction front generalizing conn with
  | nil => exact ⟨conn, lawful⟩
  | cons submission front ih => exact ih lawful.2.2

end Submission

namespace Attested

/-- The command was put to this session, and the record has gone on from there. -/
def Onward (command : Command) (conn : Conn) (earlier : List Submission) (attested : Attested) :
    Prop :=
  ∃ later first, attested.trace = later ++ first :: earlier ∧ first.command = command ∧
    first.met = conn

section

variable {command : Command} {conn : Conn} {earlier trace : List Submission}

/-- Only the latest entry changes, and neither its command nor the session it was put to. -/
theorem onward_hear (messages : List BackendMessage)
    (onward : ∃ later first, trace = later ++ first :: earlier ∧ first.command = command ∧
      first.met = conn) :
    ∃ later first, Submission.hear messages trace = later ++ first :: earlier ∧
      first.command = command ∧ first.met = conn := by
  obtain ⟨later, first, rfl, isCommand, met⟩ := onward
  cases later with
  | nil => exact ⟨[], _, rfl, isCommand, met⟩
  | cons latest later => exact ⟨_ :: later, first, rfl, isCommand, met⟩

private theorem onward_take (results : List QueryResult) (ended : Bool)
    (onward : ∃ later first, trace = later ++ first :: earlier ∧ first.command = command ∧
      first.met = conn) :
    ∃ later first, Submission.take results ended trace = later ++ first :: earlier ∧
      first.command = command ∧ first.met = conn := by
  obtain ⟨later, first, rfl, isCommand, met⟩ := onward
  cases later with
  | nil => exact ⟨[], _, rfl, isCommand, met⟩
  | cons latest later => exact ⟨_ :: later, first, rfl, isCommand, met⟩

theorem onward_keeps (command : Command) (conn : Conn) (earlier : List Submission) :
    Transport.Keeps (Onward command conn earlier) where
  send other attested onward := by
    change Onward command conn earlier (attested.send other).2
    unfold send
    split
    · exact onward
    · obtain ⟨later, first, grown, known⟩ := onward
      exact ⟨_ :: later, first, congrArg _ grown, known⟩
  flush _ onward := onward
  consumeInput _ onward := onward_hear _ onward
  takeResult attested onward := by
    change Onward command conn earlier attested.takeResult.2
    unfold takeResult
    split
    · exact onward_take _ _ onward
    · exact onward_take _ _ onward
  takeResults _ onward := onward_take _ _ onward
  await _ _ onward := onward
  finish _ onward := onward
  record _ _ onward := onward

end

theorem send_refused {command : Command} {attested after : Attested} {failure : Failure}
    (sends : Transport.send command attested = (.error failure, after)) :
    after.trace = attested.trace := by
  change attested.send command = _ at sends
  unfold send at sends
  split at sends
  · cases sends
    rfl
  · cases sends

theorem send_accepted {command : Command} {attested after : Attested}
    (sends : Transport.send command attested = (.ok (), after)) :
    after.trace = { command, met := attested.conn } :: attested.trace := by
  change attested.send command = _ at sends
  unfold send at sends
  split at sends
  · cases sends
  · cases sends
    rfl

end Attested

/-! ### Calls -/

namespace Session

variable {α γ : Type} [Exchange γ α] {inner sent : γ} {script : List Command} {command : Command}
  {session : Session Attested}

omit [Exchange γ α] in
theorem settle_trace (outcome : Except Failure α) (session : Session Attested) :
    (settle outcome session).transport.trace = session.transport.trace :=
  settle_part (fun session : Session Attested => session.transport.trace) (fun _ _ => rfl)
    (fun _ _ => rfl) outcome session

omit [Exchange γ α] in
private theorem concluded_trace (session : Session Attested) (ended : Ended α γ Attested) :
    (session.concluded ended).session.transport.trace = ended.transport.trace :=
  settle_trace ended.outcome _

/-- Either nothing has been added to the record, or what has been added begins with the first
command and the session as it was. -/
theorem drive_onward [Uniform γ α] (dispatches : Dispatches inner command sent) (manner : Manner)
    (timeout : Option Nat) (patience : Nat) (attested : Attested) :
    (Waiting.drive manner timeout patience inner attested).transport.trace = attested.trace ∨
      (Waiting.drive manner timeout patience inner attested).transport.Onward command
        attested.conn attested.trace := by
  cases patience with
  | zero => exact .inl rfl
  | succ patience =>
      cases sends : Transport.send command attested with
      | mk outcome after =>
          cases outcome with
          | error failure =>
              obtain ⟨left, failed⟩ := dispatches.drive_refused sends
              rw [failed]
              exact .inl (Attested.send_refused sends)
          | ok done =>
              rw [dispatches.drive_accepted sends]
              exact .inr ((Attested.onward_keeps command attested.conn attested.trace).drive manner
                timeout _ sent ⟨[], _, Attested.send_accepted sends, rfl, rfl⟩)

/-- A record that has grown has grown by parts, of which the first was put to the session as
it was. -/
theorem drive_grows [Uniform γ α] (dispatches : Dispatches inner command sent) (manner : Manner)
    (timeout : Option Nat) (patience : Nat) (attested : Attested) :
    ∃ parts : List Submission,
      (Waiting.drive manner timeout patience inner attested).transport.trace =
        parts.reverse ++ attested.trace ∧
      ∀ part ∈ parts.head?, part.met = attested.conn := by
  rcases drive_onward dispatches manner timeout patience attested with
    same | ⟨later, first, grown, _, met⟩
  · refine ⟨[], same, ?_⟩
    intro part isFirst
    cases isFirst
  · refine ⟨first :: later.reverse, ?_, ?_⟩
    · rw [List.reverse_cons, List.reverse_reverse, List.append_assoc]
      exact grown
    · intro part isFirst
      cases isFirst
      exact met

theorem run_grows [Uniform γ α] (dispatches : Dispatches inner command sent) (manner : Manner)
    (session : Session Attested) :
    ∃ parts : List Submission,
      (session.run manner inner).session.transport.trace =
        parts.reverse ++ session.transport.trace ∧
      ∀ part ∈ parts.head?, part.met = session.transport.conn := by
  have grows := drive_grows dispatches manner session.timeout
    (Transport.patience session.transport + 1) session.transport
  rw [← Waiting.run_eq_drive] at grows
  unfold run
  generalize Waiting.run manner session.timeout inner session.transport = ended at grows ⊢
  dsimp only
  rw [settle_trace]
  exact grows

/-- What a call that executes a statement has done, where the record has grown by these
parts. -/
structure Opens (manner : Manner) (script : List Command) (session : Session Attested)
    (parts : List Submission) (outcome : Except Failure α) (after : Session Attested) : Prop where
  grown : after.transport.trace = parts.reverse ++ session.transport.trace
  /-- The statement comes behind the start of a transaction, if that is wanted. -/
  commands : parts.map Submission.command <+: session.opening ++ script
  first : ∀ part ∈ parts.head?, part.met = session.transport.conn
  /-- Nothing follows a command before its answer has been drained. -/
  drained : ∀ front part next back, parts = front ++ part :: next :: back →
    part.Drained ∧ part.reported? = some next.met.transactionStatus
  /-- What follows the start is put to the session that the start alone leaves. -/
  started : session.begins = true → ∀ start next back, parts = start :: next :: back →
    next.met = (session.run manner (RoundTrip.unsent startCommand)).session.transport.conn
  /-- A call whose start fails comes to what the start alone comes to. -/
  failed : session.begins = true → parts ≠ [] → ∀ failure,
    checked (session.run manner (RoundTrip.unsent startCommand)).outcome = .error failure →
      parts.map Submission.command = [startCommand] ∧ outcome = .error failure ∧
        after = (session.run manner (RoundTrip.unsent startCommand)).session

namespace Opens

variable {parts : List Submission} {outcome : Except Failure α} {manner : Manner}
  {after : Session Attested}

/-- Nothing was sent. -/
theorem nothing (manner : Manner) (script : List Command) (session : Session Attested)
    (outcome : Except Failure α) : Opens manner script session [] outcome session where
  grown := rfl
  commands := List.nil_prefix
  first part isFirst := by cases isFirst
  drained _ _ _ _ split :=
    absurd split.symm (List.append_ne_nil_of_right_ne_nil _ nofun)
  started _ _ _ _ split := absurd split nofun
  failed _ some := absurd rfl some

/-- The same can be said where a failure is passed on as it is. -/
theorem congr {β : Type} {other : Except Failure β}
    (opens : Opens manner script session parts outcome after)
    (passes : ∀ failure, outcome = .error failure → other = .error failure) :
    Opens manner script session parts other after where
  grown := opens.grown
  commands := opens.commands
  first := opens.first
  drained := opens.drained
  started := opens.started
  failed begins some failure alone := by
    obtain ⟨commands, failed, same⟩ := opens.failed begins some failure alone
    exact ⟨commands, passes failure failed, same⟩

/-- Where a start is answered by a transaction being open, no statement is put to a session
without one. -/
theorem inside (opens : Opens manner script session parts outcome after)
    (wanted : session.autocommit = false)
    (serves : ∀ part ∈ parts, part.command = startCommand →
      part.met.transactionStatus = .idle → part.Drained → part.reported? = some .inTransaction)
    {front back : List Submission} {part : Submission} (split : parts = front ++ part :: back)
    (length : front.length = session.opening.length) : part.met.transactionStatus ≠ .idle := by
  have commands := opens.commands
  have first := opens.first
  have status : session.transactionStatus = session.transport.conn.transactionStatus := rfl
  unfold opening at commands length
  cases begins : session.begins with
  | false =>
      rw [begins, if_neg Bool.false_ne_true, List.length_nil] at length
      cases List.eq_nil_of_length_eq_zero length
      subst split
      intro idle
      rw [first part rfl, ← status] at idle
      rw [Session.begins, wanted, idle] at begins
      cases begins
  | true =>
      rw [begins, if_pos rfl] at length commands
      obtain ⟨start, rfl⟩ := List.length_eq_one_iff.mp length
      subst split
      obtain ⟨left, whole⟩ := commands
      have isStart : start.command = startCommand := (List.cons_eq_cons.mp whole).1
      obtain ⟨drained, reported⟩ := opens.drained [] start part back rfl
      have idle : start.met.transactionStatus = .idle := by
        rw [first start rfl, ← status]
        exact of_decide_eq_true (Bool.and_eq_true_iff.mp begins).2
      rw [serves start List.mem_cons_self isStart idle drained] at reported
      rw [← Option.some.inj reported]
      nofun

end Opens

end Session

/-- The parts by which a record has grown along a script. -/
theorem Pursued.of_parts {script : List Command} {parts earlier : List Submission}
    (pursued : Pursued (earlier.map Submission.asked) script
      ((parts.reverse ++ earlier).map Submission.asked)) :
    parts.map Submission.command <+: script ∧
      ∀ front part next back, parts = front ++ part :: next :: back →
        part.asked.success?.isSome = true := by
  obtain ⟨asked, grown, begins, passed⟩ := pursued.exists_parts
  rw [List.map_append] at grown
  have same : asked = parts.map Submission.asked := by
    have reversed := List.append_cancel_right grown
    rw [List.map_reverse] at reversed
    exact (List.reverse_inj.mp reversed).symm
  subst same
  rw [List.map_map] at begins
  refine ⟨begins, ?_⟩
  intro front part next back split
  subst split
  exact passed (front.map Submission.asked) part.asked next.asked (back.map Submission.asked)
    (by rw [List.map_append]; rfl)

namespace Session

variable {α γ : Type} [Exchange γ α] [Uniform γ α] {inner sent : γ} {script : List Command}
  {command : Command}

/-- The record of commands and results is a part of the whole record. -/
theorem run_log (manner : Manner) (exchange : γ) (session : Session Attested) :
    ((session.through Attested.observed).run manner exchange).session.transport.log =
      (session.run manner exchange).session.transport.trace.map Submission.asked :=
  congrArg (fun answered => answered.session.transport.log)
    (run_through Attested.observed_isView manner exchange session)

/-- What the record of commands and results tells of an exchange. -/
theorem run_told {Going : γ → List Asked → Prop} {Over : Except Failure α → γ → List Asked → Prop}
    (tells : Tells Conn Going Over) (manner : Manner) (exchange : γ) (session : Session Attested)
    (going : Going exchange (session.transport.trace.map Submission.asked)) :
    let answered := session.run manner exchange
    Over answered.outcome answered.exchange
      (answered.session.transport.trace.map Submission.asked) := by
  have told := run_tells tells manner exchange (session.through Attested.observed) going
  rw [run_through Attested.observed_isView] at told
  exact told

omit [Uniform γ α] in
private theorem inTransaction_dispatches (dispatches : Dispatches inner command sent)
    (session : Session Attested) :
    ∃ first sent, Dispatches (session.inTransaction inner) first sent := by
  rw [inTransaction_eq]
  cases session.begins with
  | false => exact ⟨command, _, dispatches.unstarted⟩
  | true => exact ⟨startCommand, _, (Dispatches.roundTrip startCommand).started inner⟩

/-- What a start has added to the record alone is the start. -/
theorem start_parts {manner : Manner} {session : Session Attested} {parts : List Submission}
    (grown : (session.run manner (RoundTrip.unsent startCommand)).session.transport.trace =
      parts.reverse ++ session.transport.trace) :
    parts.map Submission.command <+: [startCommand] := by
  have follows := run_pursued (RoundTrip.pursues startCommand) manner
    (session.through Attested.observed)
  rw [run_log, grown] at follows
  exact (Pursued.of_parts follows).1

/-- A command that was granted is all that has been added to the record. -/
theorem alone_of_granted {before after parts : List Submission} {result : QueryResult}
    (granted : Granted command result (before.map Submission.asked) (after.map Submission.asked))
    (grown : after = parts.reverse ++ before) : ∃ submission, parts = [submission] := by
  obtain ⟨asked, log, _⟩ := granted
  have length := congrArg List.length log
  rw [grown, List.length_map, List.length_append, List.length_reverse, List.length_cons,
    List.length_map] at length
  exact List.length_eq_one_iff.mp (by omega)

private theorem start_of_granted {manner : Manner} {session : Session Attested}
    {parts : List Submission} {result : QueryResult}
    (granted : checked (session.run manner (RoundTrip.unsent startCommand)).outcome = .ok result)

    (grown : (session.run manner (RoundTrip.unsent startCommand)).session.transport.trace =
      parts.reverse ++ session.transport.trace) :
    ∃ start, parts = [start] := by
  have told := run_told
    (RoundTrip.tells startCommand (session.transport.trace.map Submission.asked)) manner
    (.unsent startCommand) session .unsent
  exact alone_of_granted (told.granted granted) grown

/-- What follows a start that was granted is put to the session that the start alone leaves. -/
theorem met_of_granted (dispatches : Dispatches inner command sent) {manner : Manner}
    {session : Session Attested} {result : QueryResult} {start next : Submission}
    {back : List Submission}
    (granted : checked (session.run manner (RoundTrip.unsent startCommand)).outcome = .ok result)
    (grown :
      (session.run manner ({ start := some (.unsent startCommand), inner } :
          Transactional γ)).session.transport.trace =
        (start :: next :: back).reverse ++ session.transport.trace) :
    next.met = (session.run manner (RoundTrip.unsent startCommand)).session.transport.conn := by
  obtain ⟨manner', patience, whole⟩ := run_of_start_granted inner granted
  obtain ⟨first, alone, _⟩ := run_grows (Dispatches.roundTrip startCommand) manner session
  obtain ⟨others, rest, met⟩ := drive_grows dispatches manner' session.timeout patience
    (session.run manner (RoundTrip.unsent startCommand)).session.transport
  obtain ⟨begun, rfl⟩ := start_of_granted granted alone
  have split : start :: next :: back = begun :: others := by
    rw [whole, concluded_trace] at grown
    have last : (Waiting.drive manner' session.timeout patience inner
        (session.run manner (RoundTrip.unsent startCommand)).session.transport).transport.trace =
          (start :: next :: back).reverse ++ session.transport.trace := grown
    rw [rest, alone, ← List.append_assoc, ← List.reverse_append] at last
    exact (List.reverse_inj.mp (List.append_cancel_right last)).symm
  obtain ⟨_, rfl⟩ := List.cons_eq_cons.mp split
  exact met next rfl

omit [Uniform γ α] in
/-- A call whose start fails comes to what the start alone comes to. -/
theorem inTransaction_of_failed (inner : γ) {manner : Manner} {session : Session Attested}
    {failure : Failure} (wanted : session.begins = true)
    (alone : checked (session.run manner (RoundTrip.unsent startCommand)).outcome =
      .error failure) :
    (session.run manner (session.inTransaction inner)).outcome = .error failure ∧
      (session.run manner (session.inTransaction inner)).session =
        (session.run manner (RoundTrip.unsent startCommand)).session := by
  obtain ⟨start, whole⟩ := run_of_start_failed inner alone
  rw [inTransaction_eq, wanted, if_pos rfl, whole]
  exact ⟨rfl, rfl⟩

private theorem inTransaction_opens (pursues : Pursues Conn inner script)
    (dispatches : Dispatches inner command sent) (manner : Manner) (session : Session Attested) :
    ∃ parts, Opens manner script session parts
      (session.run manner (session.inTransaction inner)).outcome
      (session.run manner (session.inTransaction inner)).session := by
  obtain ⟨_, _, begins⟩ := inTransaction_dispatches dispatches session
  obtain ⟨parts, grown, first⟩ := run_grows begins manner session
  have follows := inTransaction_pursued pursues manner (session.through Attested.observed)
  rw [inTransaction_through Attested.observed_isView, run_log, grown] at follows
  obtain ⟨commands, passed⟩ := Pursued.of_parts follows
  refine ⟨parts, grown, commands, first, ?_, ?_, ?_⟩
  · intro front part next back split
    have lawful := (session.run manner (session.inTransaction inner)).session.transport.lawful
    have succeeded := passed front part next back split
    rw [grown, split] at lawful
    simp only [List.reverse_append, List.reverse_cons, List.append_assoc,
      List.cons_append, List.nil_append] at lawful
    obtain ⟨_, latest⟩ := lawful.of_append
    exact latest.drained succeeded
  · intro wanted start next back split
    subst split
    cases alone : checked (session.run manner (RoundTrip.unsent startCommand)).outcome with
    | ok result =>
        rw [inTransaction_eq, wanted, if_pos rfl] at grown
        exact met_of_granted dispatches alone grown
    | error failure =>
        obtain ⟨_, same⟩ := inTransaction_of_failed inner wanted alone
        rw [same] at grown
        have few := (start_parts grown).length_le
        simp only [List.length_map, List.length_cons, List.length_nil] at few
        omega
  · intro wanted some failure alone
    obtain ⟨failed, same⟩ := inTransaction_of_failed inner wanted alone
    rw [same] at grown
    refine ⟨?_, failed, same⟩
    cases parts with
    | nil => exact absurd rfl some
    | cons part others =>
        obtain ⟨isStart, none⟩ := List.cons_prefix_cons.mp (start_parts grown)
        rw [List.map_cons, isStart, List.prefix_nil.mp none]

theorem execute_opens (manner : Manner) (sql : String) (parameters : List Parameter)
    (session : Session Attested) :
    ∃ parts, Opens manner [Command.ofQuery sql parameters] session parts
      (session.execute manner sql parameters).1 (session.execute manner sql parameters).2 := by
  unfold execute
  cases session.checkOpen with
  | error error => exact ⟨[], .nothing ..⟩
  | ok checked =>
      obtain ⟨parts, opens⟩ := inTransaction_opens
        (RoundTrip.pursues (Command.ofQuery sql parameters)) (Dispatches.roundTrip _) manner session
      refine ⟨parts, opens.congr ?_⟩
      intro failure failed
      change Session.checked (session.run manner (session.inTransaction _)).outcome = _
      rw [failed]
      rfl

end Session

/-- The exchange that declares a portal. -/
theorem Portal.declaring_of_declare {portal : Portal} {query : String}
    {parameters : List Parameter} {options : DeclareOptions} {declaring : Declaring}
    (declared : portal.declare query parameters options = .ok declaring) :
    declaring =
      { portal := { portal with hold := options.hold }
        trip := .unsent (declaration portal.name query parameters options) } := by
  unfold declare at declared
  split at declared
  · cases declared
  · cases declared
    rfl

theorem Cursor.execute_opens (manner : Manner) (query : String) (parameters : List Parameter)
    (options : DeclareOptions) (cursor : Cursor) (session : Session Attested) :
    ∃ parts, Session.Opens manner
      [declaration cursor.name query parameters options, .describePortal cursor.name] session parts
      (cursor.execute manner query parameters options session).1
      (cursor.execute manner query parameters options session).2.2 := by
  unfold execute
  cases declared : cursor.portal.declare query parameters options with
  | error error => exact ⟨[], .nothing ..⟩
  | ok declaring =>
      cases session.checkOpen with
      | error error => exact ⟨[], .nothing ..⟩
      | ok checked =>
          have made := Portal.declaring_of_declare declared
          have pursues : Pursues Conn declaring
              [declaration cursor.name query parameters options, .describePortal cursor.name] := by
            rw [made]
            exact Declaring.pursues (declaration cursor.name query parameters options) _
          have dispatches : ∃ sent, Dispatches declaring
              (declaration cursor.name query parameters options) sent := by
            rw [made]
            exact ⟨_, (Dispatches.roundTrip _).declaring _⟩
          obtain ⟨sent, dispatches⟩ := dispatches
          obtain ⟨parts, opens⟩ := Session.inTransaction_opens pursues dispatches manner session
          refine ⟨parts, ?_⟩
          dsimp only at opens ⊢
          generalize session.run manner (session.inTransaction declaring) = answered at opens ⊢
          obtain ⟨outcome, exchange, after⟩ := answered
          cases outcome with
          | error failure => exact opens
          | ok done => exact opens

end PgClient

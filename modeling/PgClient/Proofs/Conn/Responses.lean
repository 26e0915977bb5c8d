/-
A response that is written by a server and taken in by a session gives the results that the
server had to tell.

The messages of each outcome are taken in by a session that has gathered no rows, and
leave it so with one result more. What is gathered when an error comes up is in no
result.
-/

import PgClient.Proofs.Conn.Opening
import PgClient.Proofs.Conn.Pieces
import PgClient.Proofs.Conn.Settled
import PgClient.Proofs.Result.Response

namespace PgClient.Conn

variable {conn after : Conn}

/-! ### Messages one after the other -/

private theorem takeAll_append {frames others : List Frame}
    (taken : conn.takeAll frames = .ok after) :
    conn.takeAll (frames ++ others) = after.takeAll others := by
  induction frames generalizing conn with
  | nil =>
      cases taken
      rfl
  | cons frame frames ih =>
      obtain ⟨next, first, rest⟩ := takeAll_cons_ok taken
      rw [List.cons_append, takeAll, first]
      exact ih rest

def takeMessages (messages : List BackendMessage) (conn : Conn) : Except ProtocolFault Conn :=
  conn.takeAll (messages.map BackendMessage.frame)

private theorem takeMessages_append {messages others : List BackendMessage}
    (taken : conn.takeMessages messages = .ok after) :
    conn.takeMessages (messages ++ others) = after.takeMessages others := by
  rw [takeMessages, List.map_append]
  exact takeAll_append taken

private theorem takeMessages_cons {message : BackendMessage} {messages : List BackendMessage}
    (writable : message.Writable) (handled : conn.handle message = .ok after) :
    conn.takeMessages (message :: messages) = after.takeMessages messages := by
  have first : conn.handleFrame message.frame = .ok after := by
    rw [handleFrame, BackendMessage.decode_frame writable]
    exact handled
  rw [takeMessages, List.map_cons, takeAll, first]
  rfl

private theorem takeMessages_singleton {message : BackendMessage} (writable : message.Writable)
    (handled : conn.handle message = .ok after) : conn.takeMessages [message] = .ok after := by
  rw [takeMessages_cons writable handled]
  rfl

def queueAll (results : List QueryResult) (conn : Conn) : Conn :=
  { conn with results := results.foldl Queue.push conn.results }

private theorem toList_queueAll (results : List QueryResult) :
    (conn.queueAll results).results.toList = conn.results.toList ++ results := by
  induction results generalizing conn with
  | nil => exact (List.append_nil _).symm
  | cons result results ih =>
      have rest := @ih (conn.queue result)
      rw [toList_queue, List.append_assoc, List.singleton_append] at rest
      exact rest

/-! ### Tables -/

variable {table : Table}

private theorem count_toNat {count : Nat} (bound : count ≤ 65535) :
    (UInt16.ofNat count).toNat = count := by
  rw [UInt16.toNat_ofNat']
  omega

private theorem takeMessages_rows {builder : ResultBuilder} {rows : List (List (Option Bytes))}
    (present : conn.builder = some builder) (columns : builder.fields.length ≤ 65535)
    (shape : ∀ row ∈ rows, row.length = builder.fields.length)
    (values : ∀ row ∈ rows, ∀ value ∈ row, ResultBuilder.IsShort value) :
    conn.takeMessages (rows.map Table.rowMessage) =
      .ok { conn with
        builder := some { builder with
          rows := (rows.map fun values => { fields := builder.fields, values }).reverse ++
            builder.rows } } := by
  -- The rows are gathered with the last one in front.
  induction rows generalizing conn builder with
  | nil =>
      have same : conn = { conn with builder := some builder } := by rw [← present]
      exact congrArg Except.ok same
  | cons row rows ih =>
      let longer : ResultBuilder :=
        { builder with rows := { fields := builder.fields, values := row } :: builder.rows }
      have size := shape row List.mem_cons_self
      have count : (UInt16.ofNat row.length).toNat = builder.fields.length := by
        rw [size, count_toNat columns]
      have read := ResultBuilder.readValues_append (values row List.mem_cons_self) []
      rw [List.append_nil] at read
      have pushed : builder.push (UInt16.ofNat row.length)
          (row.flatMap ResultBuilder.valueBytes) = .ok longer := by
        rw [ResultBuilder.push, if_neg (fun differs => differs count), count, ← size, read]
      have handled : conn.handle (Table.rowMessage row) =
          .ok { conn with builder := some longer } := by
        simp only [Table.rowMessage, handle, receiveRow, present, pushed]
      have writable : (Table.rowMessage row).Writable := trivial
      have others := @ih { conn with builder := some longer } longer rfl columns
        (fun other member => shape other (List.mem_cons_of_mem _ member))
        (fun other member => values other (List.mem_cons_of_mem _ member))
      rw [List.map_cons, takeMessages_cons writable handled, others]
      simp only [longer, List.map_cons, List.reverse_cons, List.append_assoc,
        List.singleton_append]

private theorem handle_description {fields : List Field} (columns : fields.length ≤ 65535)
    (names : ∀ field ∈ fields, ZeroFree field.name) :
    conn.handle (Table.description fields) =
      if conn.describing then .ok (conn.queue { status := .commandOk, fields })
      else .ok { conn with builder := some { fields } } := by
  have read := Field.readMany_append names []
  rw [List.append_nil] at read
  simp only [Table.description, handle, receiveFields, count_toNat columns, read]

private theorem takeMessages_table (wellFormed : table.WellFormed)
    (asked : conn.describing = false) :
    conn.takeMessages table.messages =
      .ok { conn with
        builder := some { fields := table.fields, rows := table.resultRows.reverse } } := by
  have described : conn.handle (Table.description table.fields) =
      .ok { conn with builder := some { fields := table.fields } } := by
    rw [handle_description wellFormed.columns wellFormed.names, asked]
    rfl
  have writable : (Table.description table.fields).Writable := trivial
  rw [Table.messages, takeMessages_cons writable described]
  rw [takeMessages_rows rfl wellFormed.columns wellFormed.shape wellFormed.values]
  simp only [Table.resultRows, List.append_nil]

/-! ### Statements -/

/-- A result that is queued leaves no rows gathered where there were none. -/
theorem queue_resting (resting : conn.builder = none) (result : QueryResult) :
    ({ conn with results := conn.results.push result, builder := none } : Conn) =
      conn.queue result := by
  rw [← resting]
  rfl

private theorem takeMessages_outcome {outcome : Outcome} (wellFormed : outcome.WellFormed)
    (asked : conn.describing = false) (resting : conn.builder = none) :
    conn.takeMessages outcome.messages = .ok (conn.queue outcome.result) := by
  cases outcome with
  | rows table tag =>
      obtain ⟨tableFormed, tagFormed⟩ := wellFormed
      have rows := takeMessages_table tableFormed asked
      have writable : (BackendMessage.commandComplete tag).Writable := tagFormed
      rw [Outcome.messages, takeMessages_append rows, takeMessages_singleton writable rfl]
      apply congrArg Except.ok
      rw [← queue_resting resting]
      simp only [receiveCompletion, queue, ResultBuilder.finish, List.reverse_reverse,
        Outcome.result]
  | done tag =>
      have writable : (BackendMessage.commandComplete tag).Writable := wellFormed
      have handled : conn.handle (.commandComplete tag) =
          .ok (conn.queue { status := .commandOk, tag := some tag }) := by
        rw [← queue_resting resting]
        simp only [handle, receiveCompletion, queue, resting]
      exact takeMessages_singleton writable handled
  | nothing => exact takeMessages_singleton trivial rfl

private theorem takeMessages_outcomes {outcomes : List Outcome}
    (wellFormed : ∀ outcome ∈ outcomes, outcome.WellFormed) (asked : conn.describing = false)
    (resting : conn.builder = none) :
    conn.takeMessages (outcomes.flatMap Outcome.messages) =
      .ok (conn.queueAll (outcomes.map Outcome.result)) := by
  induction outcomes generalizing conn with
  | nil => rfl
  | cons outcome outcomes ih =>
      have first := takeMessages_outcome (wellFormed outcome List.mem_cons_self) asked resting
      have others := @ih (conn.queue outcome.result)
        (fun other member => wellFormed other (List.mem_cons_of_mem _ member)) asked resting
      rw [List.flatMap_cons, takeMessages_append first, others]
      rfl

private theorem takeMessages_mishap {mishap : Mishap} (wellFormed : mishap.WellFormed)
    (asked : conn.describing = false) (resting : conn.builder = none) :
    conn.takeMessages mishap.messages = .ok (conn.queue mishap.result) := by
  obtain ⟨lostFormed, reportFormed⟩ := wellFormed
  -- Whatever rows have been gathered are dropped.
  have failed : ∀ gathered : Option ResultBuilder,
      ({ conn with builder := gathered } : Conn).takeMessages
          [.errorResponse mishap.report.bytes] =
        .ok (conn.queue mishap.result) := by
    intro gathered
    have handled : ({ conn with builder := gathered } : Conn).handle
        (.errorResponse mishap.report.bytes) = .ok (conn.queue mishap.result) := by
      rw [← queue_resting resting]
      simp only [handle, receiveError, Diagnostic.parse_bytes reportFormed]
      rfl
    exact takeMessages_singleton trivial handled
  unfold Mishap.messages
  cases lost : mishap.lost with
  | none =>
      have same : conn = { conn with builder := none } := by rw [← resting]
      have taken := failed none
      rw [← same] at taken
      exact taken
  | some table =>
      have rows := takeMessages_table (lostFormed table lost) asked
      dsimp only
      rw [takeMessages_append rows]
      exact failed _

/-! ### Responses -/

private theorem takeMessages_response {response : Response} (wellFormed : response.WellFormed)
    (asked : conn.describing = response.describes) (resting : conn.builder = none) :
    conn.takeMessages response.messages = .ok (conn.queueAll response.results) := by
  cases response with
  | statements outcomes mishap =>
      obtain ⟨outcomesFormed, mishapFormed⟩ := wellFormed
      have first := takeMessages_outcomes outcomesFormed asked resting
      rw [Response.messages, takeMessages_append first]
      cases mishap with
      | none =>
          simp only [Response.results, Option.toList_none, List.map_nil, List.append_nil]
          rfl
      | some error =>
          have failed := @takeMessages_mishap (conn.queueAll (outcomes.map Outcome.result)) error
            (mishapFormed error rfl) asked resting
          rw [Option.toList_some, List.flatMap_singleton, failed]
          simp only [Response.results, Option.toList_some, List.map_singleton, queueAll,
            List.foldl_append]
          rfl
  | portal fields =>
      cases fields with
      | none =>
          have handled : conn.handle .noData = .ok (conn.queue { status := .commandOk }) := by
            rw [handle, asked]
            rfl
          exact takeMessages_singleton trivial handled
      | some fields =>
          obtain ⟨columns, names⟩ := wellFormed fields rfl
          have handled : conn.handle (Table.description fields) =
              .ok (conn.queue { status := .commandOk, fields }) := by
            rw [handle_description columns names, asked]
            rfl
          have writable : (Table.description fields).Writable := trivial
          exact takeMessages_singleton writable handled

/-! ### The whole input path -/

structure Awaiting (describing : Bool) (conn : Conn) : Prop where
  live : conn.Live
  inFlight : conn.inFlight = true
  describing : conn.describing = describing
  builder : conn.builder = none
  results : conn.results.toList = []
  inbox : conn.inbox = []

private theorem send_awaiting {before : Conn} {command : Command}
    (sent : before.send command = (.ok (), conn))
    (willing : ∀ uptake ∈ before.link.uptakes, uptake.isWilling = true)
    (resting : before.builder = none) (understood : before.inbox = []) :
    conn.Awaiting command.describes := by
  obtain ⟨isOpen, quiet, outbox, journal, rfl⟩ := send_ok sent
  exact ⟨⟨isOpen, willing⟩, rfl, rfl, resting, quiet.2, understood⟩

private theorem parse_response {response : Response} {indicator : UInt8}
    (wellFormed : response.WellFormed) (fits : ∀ frame ∈ response.frames indicator, frame.Fits)
    (asked : conn.describing = response.describes) (resting : conn.builder = none) :
    conn.parse (Frame.stream (response.frames indicator)) =
      (.ok (), { (conn.queueAll response.results).receiveReady indicator with inbox := [] }) := by
  have taken : conn.takeAll (response.frames indicator) =
      .ok ((conn.queueAll response.results).receiveReady indicator) := by
    have messages := takeMessages_response wellFormed asked resting
    have ready : (BackendMessage.readyForQuery indicator).Writable := trivial
    have ends : (conn.queueAll response.results).takeMessages [.readyForQuery indicator] =
        .ok ((conn.queueAll response.results).receiveReady indicator) :=
      takeMessages_singleton ready rfl
    rw [← ends]
    exact takeMessages_append messages
  have parsed := @parse_stream [] conn _ _ fits taken
  rw [List.append_nil] at parsed
  rw [parsed, parse_of_partial rfl]

/-- A response that is received in any pieces gives its results in their order, and ends the
command. -/
theorem consumeEach_response {command : Command} {response : Response} {indicator : UInt8}
    {first : List Bytes} {rest : List (List Bytes)} (awaiting : conn.Awaiting command.describes)
    (asked : command.describes = response.describes) (wellFormed : response.WellFormed)
    (fits : ∀ frame ∈ response.frames indicator, frame.Fits)
    (solid : ∀ piece ∈ first :: rest, ∀ read ∈ piece, read ≠ [])
    (written : ((first :: rest).map List.flatten).flatten =
      Frame.stream (response.frames indicator)) :
    let course := conn.consumeEach (first :: rest)
    course.1 = .ok () ∧ course.2.results.toList = response.results ∧ course.2.inFlight = false ∧
      course.2.isClosed = false ∧
      course.2.transactionStatus = TransactionStatus.ofIndicator indicator := by
  intro course
  have parsed := parse_response wellFormed fits (awaiting.describing.trans asked) awaiting.builder
  have follows := consumeEach_follows awaiting.live solid
  rw [written, digest, awaiting.inbox, List.nil_append, parse_gist, parsed] at follows
  obtain ⟨succeeds, isOpen, same⟩ := follows.succeeds
  have results : course.2.results.toList = response.results := by
    have queued := congrArg (fun gist => gist.results.toList) same
    have all := @toList_queueAll conn response.results
    rw [awaiting.results, List.nil_append] at all
    exact queued.trans all
  have status : course.2.lastStatus = TransactionStatus.ofIndicator indicator :=
    congrArg Conn.lastStatus same
  refine ⟨succeeds, results, congrArg Conn.inFlight same, isOpen, ?_⟩
  rw [transactionStatus, isOpen, status]
  rfl

def almostEmpty : Table where
  fields := [.ofType "a" .text]
  rows := [[none], [some []]]

private theorem almostEmpty_wellFormed : almostEmpty.WellFormed where
  names := by decide
  columns := by decide
  shape := by decide
  values := by
    intro row present value member
    simp only [almostEmpty, List.mem_cons, List.not_mem_nil, or_false] at present
    rcases present with rfl | rfl
    · rw [List.mem_singleton.mp member]
      trivial
    · rw [List.mem_singleton.mp member]
      exact Nat.succ_pos _

/-- A table, a command and no statement, and then an error that cuts a table short. -/
def mixed : Response :=
  .statements [.rows almostEmpty "SELECT 2", .done "SET", .nothing]
    (some { lost := some almostEmpty, report := { code := "22012", position := some 7 } })

private theorem mixed_wellFormed : mixed.WellFormed := by
  constructor
  · intro outcome member
    simp only [List.mem_cons, List.not_mem_nil, or_false] at member
    rcases member with rfl | rfl | rfl
    · have tag : ZeroFree "SELECT 2" := by decide
      exact ⟨almostEmpty_wellFormed, tag⟩
    · have tag : ZeroFree "SET" := by decide
      exact tag
    · trivial
  · intro mishap same
    cases same
    constructor
    · intro table lost
      cases lost
      exact almostEmpty_wellFormed
    · unfold Diagnostic.Writable
      decide +kernel

theorem consumeEach_response_mixed :
    let opened := (connect {} (fun _ => "") welcoming).2
    let asked := (opened.send (.query "")).2
    let bytes := Frame.stream (mixed.frames 'E'.toUInt8)
    let course := asked.consumeEach [[bytes.take 7], [bytes.drop 7]]
    asked.Awaiting false ∧ course.1 = .ok () ∧ course.2.results.toList = mixed.results ∧
      course.2.inFlight = false ∧ course.2.isClosed = false ∧
      course.2.transactionStatus = TransactionStatus.ofIndicator 'E'.toUInt8 := by
  intro opened asked bytes course
  have established : connect {} (fun _ => "") welcoming = (.established, opened) :=
    Prod.ext (by decide +kernel) rfl
  have accepted : (opened.send (.query "")).1.isOk = true := by decide +kernel
  have sent : opened.send (.query "") = (.ok (), asked) := by
    cases outcome : (opened.send (.query "")).1 with
    | error failure =>
        rw [outcome] at accepted
        cases accepted
    | ok done => exact Prod.ext outcome rfl
  have awaiting : asked.Awaiting (Command.query "").describes :=
    send_awaiting sent (by decide +kernel) (connect_unused established).builder
      (by decide +kernel)
  refine ⟨awaiting, consumeEach_response awaiting rfl mixed_wellFormed ?_ ?_ ?_⟩
  · decide +kernel
  · decide +kernel
  · decide +kernel

end PgClient.Conn

/-
Where a session stands, told from its history.

A command that is sent and a message that is taken in are all that can change whether a
command is under way, what the server has said of the transaction, and what it has reported
of itself. So a session that is open stands where its history leaves it, and every call
keeps it there. A session that is closed has nothing to be waited for any more.
-/

import PgClient.Proofs.Conn.Gist
import PgClient.Proofs.Conn.Heard
import PgClient.Proofs.Conn.Pieces
import PgClient.Proofs.Conn.Proven
import PgClient.Proofs.Wire.Division

namespace PgClient

/-! ### Histories -/

inductive Happening
  | sent (command : Command)
  | heard (message : BackendMessage)
deriving Repr, DecidableEq

namespace Happening

def message? : Happening → Option BackendMessage
  | sent _ => none
  | heard message => some message

def messages (history : List Happening) : List BackendMessage :=
  history.filterMap message?

/-- Whether a command is under way after it, where it decides that. -/
def turn? : Happening → Option Bool
  | sent _ => some true
  | heard message => if message.isReady then some false else none

def underWay (history : List Happening) : Bool :=
  (history.reverse.findSome? turn?).getD false

private theorem messages_append (history later : List Happening) :
    messages (history ++ later) = messages history ++ messages later :=
  List.filterMap_append

private theorem messages_sent (history : List Happening) (command : Command) :
    messages (history ++ [.sent command]) = messages history := by
  rw [messages_append]
  exact List.append_nil _

private theorem messages_heard (taken : List BackendMessage) :
    messages (taken.map heard) = taken := by
  unfold messages
  rw [List.filterMap_map]
  exact List.filterMap_some

private theorem underWay_concat (history : List Happening) (last : Happening) :
    underWay (history ++ [last]) = last.turn?.getD (underWay history) := by
  unfold underWay
  rw [List.reverse_append, List.reverse_singleton, List.singleton_append, List.findSome?_cons]
  cases last.turn? with
  | none => rfl
  | some turn => rfl

end Happening

namespace BackendMessage

/-- A server is ready exactly where it says how the session stands. -/
theorem isSome_status (message : BackendMessage) : message.status?.isSome = message.isReady := by
  cases message with
  | _ => rfl

/-- A server never says that a command is under way. -/
theorem latest_status_ne_active {messages : List BackendMessage} {status : TransactionStatus}
    (told : latest status? messages = some status) : status ≠ .active := by
  obtain ⟨message, _, said⟩ := List.exists_of_findSome?_eq_some told
  cases message with
  | readyForQuery indicator =>
      injection said with same
      subst same
      unfold TransactionStatus.ofIndicator
      split
      · exact nofun
      · split
        · exact nofun
        · split
          · exact nofun
          · exact nofun
  | _ => cases said

private theorem lookup_report (message : BackendMessage) (name : String)
    (parameters : List (String × String)) :
    (message.report parameters).lookup name =
      (message.parameter? name).or (parameters.lookup name) := by
  cases message with
  | parameterStatus reported value =>
      rw [report, Conn.lookup_assign, parameter?]
      split
      · rfl
      · rfl
  | _ => rfl

private theorem nodup_report (message : BackendMessage) {parameters : List (String × String)}
    (distinct : (parameters.map Prod.fst).Nodup) :
    ((message.report parameters).map Prod.fst).Nodup := by
  cases message with
  | parameterStatus reported value => exact Conn.nodup_assign reported value distinct
  | _ => exact distinct

end BackendMessage

namespace Conn

open BackendMessage (latest latest_concat status?)
open Happening (messages underWay messages_append messages_sent messages_heard underWay_concat)

variable {history : List Happening} {message : BackendMessage} {conn after : Conn}
  {input rest : Bytes}

def happenings (conn : Conn) : Deed → List Happening
  | .send command =>
      match (conn.send command).1 with
      | .ok () => [.sent command]
      | .error _ => []
  | .consume => conn.hears.map .heard
  | .flush | .takeResult | .takeResults | .finish => []

def chronicle : List Deed → Conn → List Happening
  | [], _ => []
  | deed :: deeds, conn => conn.happenings deed ++ chronicle deeds (conn.perform deed)

private theorem handleFrame_ok {frame : Frame} (taken : conn.handleFrame frame = .ok after) :
    ∃ message, BackendMessage.decode frame.first frame.body = .ok message ∧
      conn.handle message = .ok after := by
  unfold handleFrame at taken
  cases decoded : BackendMessage.decode frame.first frame.body with
  | error fault =>
      rw [decoded] at taken
      cases taken
  | ok message =>
      rw [decoded] at taken
      exact ⟨message, rfl, taken⟩

/-! ### What the history decides -/

structure Stands (history : List Happening) (conn : Conn) : Prop where
  inFlight : conn.inFlight = underWay history
  active : conn.inFlight = true → conn.lastStatus = .active
  ready : conn.inFlight = false → latest status? (messages history) = some conn.lastStatus
  distinct : (conn.parameters.map Prod.fst).Nodup
  parameters : ∀ name,
    conn.parameter? name = latest (BackendMessage.parameter? name) (messages history)

namespace Stands

/-- The rest of a session has no part in where it stands. -/
theorem same (stands : Stands history conn) (inFlight : after.inFlight = conn.inFlight)
    (status : after.lastStatus = conn.lastStatus)
    (parameters : after.parameters = conn.parameters) : Stands history after := by
  refine ⟨?_, ?_, ?_, ?_, ?_⟩
  · rw [inFlight]
    exact stands.inFlight
  · rw [inFlight, status]
    exact stands.active
  · rw [inFlight, status]
    exact stands.ready
  · rw [parameters]
    exact stands.distinct
  · unfold parameter?
    rw [parameters]
    exact stands.parameters

private theorem dispatched (stands : Stands history conn) (command : Command) :
    Stands (history ++ [.sent command]) (conn.dispatched command) := by
  refine ⟨?_, fun _ => rfl, nofun, stands.distinct, ?_⟩
  · rw [underWay_concat]
    rfl
  · rw [messages_sent]
    exact stands.parameters

/-- A message that says where the session stands ends the command, and no other does. -/
theorem handle (stands : Stands history conn) (taken : conn.handle message = .ok after) :
    Stands (history ++ [.heard message]) after := by
  have heard : messages (history ++ [.heard message]) = messages history ++ [message] :=
    messages_append history [.heard message]
  have flying := (handle_effect taken).inFlight
  obtain ⟨status, parameters⟩ := handle_reports taken
  have kept : (after.parameters.map Prod.fst).Nodup ∧ ∀ name, after.parameter? name =
      latest (BackendMessage.parameter? name) (messages (history ++ [.heard message])) := by
    constructor
    · rw [parameters]
      exact message.nodup_report stands.distinct
    · intro name
      rw [heard, latest_concat, ← stands.parameters name, parameter?, parameters]
      exact message.lookup_report name conn.parameters
  cases ready : message.status? with
  | none =>
      have still : message.isReady = false := by
        rw [← message.isSome_status, ready]
        rfl
      have same : after.inFlight = conn.inFlight := by
        rw [flying, still]
        exact Bool.and_true _
      rw [ready] at status
      refine ⟨?_, ?_, ?_, kept.1, kept.2⟩
      · rw [underWay_concat, same, stands.inFlight, Happening.turn?, still]
        rfl
      · rw [same, status]
        exact stands.active
      · rw [same, status, heard, latest_concat, ready]
        exact stands.ready
  | some said =>
      have ends : message.isReady = true := by
        rw [← message.isSome_status, ready]
        rfl
      have landed : after.inFlight = false := by
        rw [flying, ends]
        exact Bool.and_false _
      rw [ready] at status
      refine ⟨?_, ?_, ?_, kept.1, kept.2⟩
      · rw [underWay_concat, landed, Happening.turn?, ends]
        rfl
      · intro active
        rw [landed] at active
        cases active
      · intro _
        rw [heard, latest_concat, ready, status]
        rfl

private theorem parse (stands : Stands history conn) (parsed : conn.parse input = (.ok (), after)) :
    Stands (history ++ (conn.heard input).map .heard) after := by
  -- The history grows by one message with each frame that the input shrinks by.
  induction input, conn using parse.induct generalizing history with
  | case1 input conn fault found =>
      rw [parse_of_fault found] at parsed
      cases parsed
  | case2 input conn found =>
      rw [parse_of_partial found] at parsed
      cases parsed
      rw [heard_of_partial found, List.map_nil, List.append_nil]
      exact stands.same rfl rfl rfl
  | case3 input conn frame rest found fault refused =>
      rw [parse_of_refused found refused] at parsed
      cases parsed
  | case4 input conn frame rest found next taken _ ih =>
      rw [parse_of_taken found taken] at parsed
      obtain ⟨message, decoded, handled⟩ := handleFrame_ok taken
      have standing := ih (stands.handle handled) parsed
      rw [List.append_assoc, List.singleton_append, ← List.map_cons] at standing
      rw [heard_of_frame found taken, decoded]
      exact standing

end Stands

/-! ### Calls -/

private theorem Says.append {spoken : List BackendMessage} (spells : Says spoken input rest)
    (more : Bytes) : Says spoken (input ++ more) (rest ++ more) := by
  induction spells with
  | nothing => exact .nothing
  | more fits decoded _ ih =>
      rw [List.append_assoc]
      exact .more fits decoded ih

/-- All whole messages of the input are taken in, and what is left is less than one. -/
theorem parse_spells (parsed : conn.parse input = (.ok (), after)) :
    Says (conn.heard input) input after.inbox ∧ Frame.Incomplete after.inbox := by
  induction input, conn using parse.induct with
  | case1 input conn fault found =>
      rw [parse_of_fault found] at parsed
      cases parsed
  | case2 input conn found =>
      rw [parse_of_partial found] at parsed
      cases parsed
      rw [heard_of_partial found]
      exact ⟨.nothing, Frame.incomplete_of_next found⟩
  | case3 input conn frame rest found fault refused =>
      rw [parse_of_refused found refused] at parsed
      cases parsed
  | case4 input conn frame rest found next taken _ ih =>
      rw [parse_of_taken found taken] at parsed
      obtain ⟨message, decoded, _⟩ := handleFrame_ok taken
      obtain ⟨whole, fits⟩ := Frame.next_eq_some found
      obtain ⟨spells, incomplete⟩ := ih parsed
      rw [heard_of_frame found taken, decoded, whole]
      exact ⟨.more fits decoded spells, incomplete⟩

/-- The ends of a flush: nothing is tried, something has gone or had to wait, or the link
has failed. -/
theorem flush_cases (conn : Conn) :
    conn.flush.2 = conn ∨ ∃ pushed : Link.Pushed, conn.flush.2 = conn.settlePush pushed ∨
      ∃ fault, conn.flush.2 = (conn.settlePush pushed).breakWith fault := by
  unfold flush
  split
  · exact .inl rfl
  · split
    · exact .inl rfl
    · refine .inr ⟨Link.push conn.outbox conn.link.uptakes, ?_⟩
      dsimp only
      split
      · exact .inl rfl
      · exact .inl rfl
      · exact .inr ⟨_, rfl⟩
      · exact .inr ⟨_, rfl⟩

/-- Consuming input that succeeds goes through the messages that were there. -/
theorem consumeInput_heard (consumed : conn.consumeInput = (.ok (), after)) :
    ∃ parsed pending, conn.hears = conn.gathering.heard conn.gathering.inbox ∧
      conn.gathering.parse conn.gathering.inbox = (.ok (), parsed) ∧
        parsed.flush = (.ok pending, after) := by
  obtain ⟨isOpen, parsed, pending, reading, flushed⟩ := consumeInput_ok consumed
  have fine : (Link.gather conn.link.arrivals).fault = none := by
    cases ending : (Link.gather conn.link.arrivals).fault with
    | none => rfl
    | some fault =>
        simp only [consumeInput, isOpen, Bool.false_eq_true, if_false, readAll, ending] at consumed
        cases consumed
  refine ⟨parsed, pending, ?_, reading, flushed⟩
  simp only [hears, isOpen, Bool.false_eq_true, if_false, fine]

private theorem consumeInput_incomplete (consumed : conn.consumeInput = (.ok (), after)) :
    Frame.Incomplete after.inbox := by
  obtain ⟨parsed, pending, _, reading, flushed⟩ := consumeInput_heard consumed
  obtain ⟨pushed, _, same⟩ := flush_ok flushed
  rw [same]
  exact (parse_spells reading).2

/-- What was taken in stands between what was unread and what still is. -/
theorem consumeInput_spells (consumed : conn.consumeInput = (.ok (), after)) :
    Says conn.hears conn.unread after.unread := by
  obtain ⟨parsed, pending, told, reading, flushed⟩ := consumeInput_heard consumed
  obtain ⟨pushed, _, same⟩ := flush_ok flushed
  have link : parsed.link = conn.gathering.link := by
    have kept : (conn.gathering.parse conn.gathering.inbox).2.link = conn.gathering.link :=
      parse_link
    rw [reading] at kept
    exact kept
  have left : after.unread = parsed.inbox ++ Link.carried conn.gathering.link.arrivals := by
    rw [same, ← link]
    rfl
  rw [told, ← gathering_unread conn, left]
  exact (parse_spells reading).1.append _

/-! ### A session that is open -/

theorem isClosed_course (closed : conn.isClosed = true) (deeds : List Deed) :
    (conn.course deeds).isClosed = true := by
  let Closed (conn : Conn) : Prop := conn.isClosed = true
  have stays : ∀ conn deed, Closed conn → Closed (conn.perform deed) :=
    fun _ deed closed => (perform_of_closed closed deed).1
  exact course_keeps stays closed deeds

/-- What a session keeps while it is open: it stands where its history leaves it, and has
taken in what its server has said first. -/
structure Keeps (source : Bytes) (history : List Happening) (conn : Conn) : Prop where
  stands : Stands history conn
  spells : Says (messages history) source conn.unread

namespace Keeps

variable {source : Bytes}

private theorem same (keeps : Keeps source history conn) (inFlight : after.inFlight = conn.inFlight)
    (status : after.lastStatus = conn.lastStatus) (parameters : after.parameters = conn.parameters)
    (unread : after.unread = conn.unread) : Keeps source (history ++ []) after := by
  rw [List.append_nil]
  refine ⟨keeps.stands.same inFlight status parameters, ?_⟩
  rw [unread]
  exact keeps.spells

private theorem send (keeps : Keeps source history conn) (command : Command) :
    Keeps source (history ++ conn.happenings (.send command)) (conn.send command).2 := by
  cases sent : conn.send command with
  | mk outcome after =>
      cases outcome with
      | ok =>
          have told : conn.happenings (.send command) = [.sent command] := by
            simp only [happenings, sent]
          obtain ⟨_, _, outbox, journal, rfl⟩ := send_ok sent
          have before : Keeps source (history ++ []) { conn with outbox, journal } :=
            keeps.same rfl rfl rfl rfl
          rw [List.append_nil] at before
          rw [told]
          refine ⟨before.stands.dispatched command, ?_⟩
          rw [messages_sent]
          exact before.spells
      | error failure =>
          have told : conn.happenings (.send command) = [] := by
            simp only [happenings, sent]
          obtain ⟨outbox, journal, rfl⟩ := send_refused sent
          rw [told]
          exact keeps.same rfl rfl rfl rfl

private theorem flush (keeps : Keeps source history conn) (isOpen : conn.flush.2.isClosed = false) :
    Keeps source (history ++ []) conn.flush.2 := by
  rcases flush_cases conn with same | ⟨pushed, gone | ⟨fault, failed⟩⟩
  · rw [same]
    exact keeps.same rfl rfl rfl rfl
  · rw [gone]
    exact keeps.same rfl rfl rfl rfl
  · rw [failed, breakWith_isClosed] at isOpen
    cases isOpen

private theorem consume (keeps : Keeps source history conn)
    (isOpen : conn.consumeInput.2.isClosed = false) :
    Keeps source (history ++ conn.happenings .consume) conn.consumeInput.2 := by
  cases consumed : conn.consumeInput with
  | mk outcome after =>
      rw [consumed] at isOpen
      cases outcome with
      | error error =>
          rw [(consumeInput_error consumed).1] at isOpen
          cases isOpen
      | ok =>
          obtain ⟨parsed, pending, told, reading, flushed⟩ := consumeInput_heard consumed
          obtain ⟨pushed, _, rfl⟩ := flush_ok flushed
          have begun : Stands history conn.gathering := keeps.stands.same rfl rfl rfl
          constructor
          · rw [happenings, told]
            exact (begun.parse reading).same rfl rfl rfl
          · rw [messages_append, happenings, messages_heard]
            exact keeps.spells.trans (consumeInput_spells consumed)

private theorem perform (keeps : Keeps source history conn) (deed : Deed)
    (isOpen : (conn.perform deed).isClosed = false) :
    Keeps source (history ++ conn.happenings deed) (conn.perform deed) := by
  cases deed with
  | send command => exact keeps.send command
  | flush => exact keeps.flush isOpen
  | consume => exact keeps.consume isOpen
  | takeResult =>
      rcases takeResult_cases conn with none | ⟨result, results, taken, _⟩
      · rw [Conn.perform, none]
        exact keeps.same rfl rfl rfl rfl
      · rw [Conn.perform, taken]
        exact keeps.same rfl rfl rfl rfl
  | takeResults => exact keeps.same rfl rfl rfl rfl
  | finish =>
      rw [Conn.perform, finish_isClosed] at isOpen
      cases isOpen

private theorem course (keeps : Keeps source history conn) (deeds : List Deed)
    (isOpen : (conn.course deeds).isClosed = false) :
    Keeps source (history ++ conn.chronicle deeds) (conn.course deeds) := by
  induction deeds generalizing history conn with
  | nil =>
      rw [chronicle, List.append_nil]
      exact keeps
  | cons deed deeds ih =>
      have wasOpen : (conn.perform deed).isClosed = false := by
        rw [← Bool.not_eq_true]
        intro closed
        rw [Conn.course, isClosed_course closed] at isOpen
        cases isOpen
      have further := ih (keeps.perform deed wasOpen) isOpen
      rw [List.append_assoc] at further
      exact further

end Keeps

/-! ### A session that is closed -/

def Ends (conn : Conn) : Prop :=
  conn.isClosed = true → conn.broken = true ∨ conn.inFlight = false

private theorem Ends.flush (ends : conn.Ends) : conn.flush.2.Ends := by
  rcases flush_cases conn with same | ⟨pushed, gone | ⟨fault, failed⟩⟩
  · rw [same]
    exact ends
  · rw [gone]
    exact ends
  · rw [failed]
    exact fun _ => .inl rfl

private theorem Ends.consumeInput (ends : conn.Ends) : conn.consumeInput.2.Ends := by
  apply consumeInput_cases conn
  · exact fun _ => ends
  · intro _ fault _ _
    exact .inl rfl
  · intro _ _ fault parsed reading _
    exact .inl (parse_error reading).1
  · intro isOpen _ parsed reading
    have stillOpen : parsed.isClosed = false := by
      rw [parse_isClosed reading]
      exact isOpen
    have before : parsed.Ends := by
      intro closed
      rw [stillOpen] at closed
      cases closed
    exact before.flush

private theorem Ends.perform (ends : conn.Ends) (deed : Deed) : (conn.perform deed).Ends := by
  cases deed with
  | send command =>
      rw [Conn.perform]
      cases sent : conn.send command with
      | mk outcome after =>
          cases outcome with
          | ok =>
              obtain ⟨isOpen, _, outbox, journal, rfl⟩ := send_ok sent
              intro closed
              have impossible : conn.isClosed = true := closed
              rw [isOpen] at impossible
              cases impossible
          | error failure =>
              obtain ⟨outbox, journal, rfl⟩ := send_refused sent
              exact ends
  | flush => exact ends.flush
  | consume => exact ends.consumeInput
  | takeResult =>
      rcases takeResult_cases conn with none | ⟨result, results, taken, _⟩
      · rw [Conn.perform, none]
        exact ends
      · rw [Conn.perform, taken]
        exact ends
  | takeResults => exact ends
  | finish =>
      rw [Conn.perform, finish]
      split
      · exact ends
      · exact fun _ => .inr rfl

private theorem Ends.idle (ends : conn.Ends) (closed : conn.isClosed = true) :
    conn.isBusy = false ∧ conn.transactionStatus = .unknown := by
  constructor
  · rcases ends closed with broken | landed
    · rw [isBusy, broken]
      exact Bool.and_false _
    · rw [isBusy, landed]
      rfl
  · rw [transactionStatus, if_pos closed]

/-! ### Whole lives -/

variable {config : Config} {nonces : Nat → String} {link : Link}

private theorem startup_keeps
    (established : startup config nonces { link } = (.established, conn)) :
    ∃ login : Login config nonces,
      Keeps (Link.carried link.arrivals) (login.script.map .heard) conn := by
  obtain ⟨login, spells, attends, status⟩ := startup_attends established
  have landed := attends.unused.inFlight
  have unused : underWay (login.script.map .heard) = false := by
    rw [Login.script, List.map_append, List.map_singleton, underWay_concat]
    rfl
  refine ⟨login, ⟨?_, ?_, ?_, attends.distinct, ?_⟩, ?_⟩
  · rw [landed, unused]
  · intro active
    rw [landed] at active
    cases active
  · intro _
    rw [messages_heard, Login.script, latest_concat, status]
    rfl
  · rw [messages_heard]
    exact attends.parameters
  · rw [messages_heard]
    exact spells

/-- What an open session shows of where it stands. -/
theorem Stands.shown (stands : Stands history conn) (isOpen : conn.isClosed = false) :
    (conn.transactionStatus = .active ↔ conn.inFlight = true) ∧
      (conn.inFlight = false →
        latest status? (messages history) = some conn.transactionStatus) ∧
      (conn.isBusy = true ↔ conn.inFlight = true ∧ conn.results.toList = []) := by
  have status : conn.transactionStatus = conn.lastStatus := by
    rw [transactionStatus, isOpen]
    rfl
  have whole : conn.broken = false := (Bool.or_eq_false_iff.mp isOpen).1
  rw [status]
  refine ⟨⟨?_, stands.active⟩, stands.ready, ?_⟩
  · intro active
    cases flying : conn.inFlight with
    | true => rfl
    | false =>
        exact absurd active (BackendMessage.latest_status_ne_active (stands.ready flying))
  · rw [isBusy, whole, Bool.not_false, Bool.and_true, Bool.and_eq_true, Queue.isEmpty_iff]

/-- A session that was opened stands, as long as it is open, where the messages of its login,
the commands that were sent and the messages that were taken in leave it; and whatever it has
read has been taken in up to the last whole message. Once it is closed it is never waited for
again and knows of no transaction. -/
theorem course_stands (established : startup config nonces { link } = (.established, conn)) :
    ∃ login : Login config nonces, ∀ deeds,
      let after := conn.course deeds
      let history := login.script.map .heard ++ conn.chronicle deeds
      (after.isClosed = false →
        Says (messages history) (Link.carried link.arrivals) after.unread ∧
        after.inFlight = underWay history ∧
        (after.transactionStatus = .active ↔ after.inFlight = true) ∧
        (after.inFlight = false →
          latest status? (messages history) = some after.transactionStatus) ∧
        (after.isBusy = true ↔ after.inFlight = true ∧ after.results.toList = []) ∧
        (after.parameters.map Prod.fst).Nodup ∧
        ∀ name, after.parameter? name =
          latest (BackendMessage.parameter? name) (messages history)) ∧
      (∀ next, after.consumeInput = (.ok (), next) → Frame.Incomplete next.inbox) ∧
      (after.isClosed = true → ∀ later,
        (after.course later).isClosed = true ∧ (after.course later).isBusy = false ∧
          (after.course later).transactionStatus = .unknown) := by
  obtain ⟨login, keeps⟩ := startup_keeps established
  have unused : conn.Unused := startup_unused ⟨rfl, rfl, rfl, rfl, rfl, rfl⟩ established
  have ends : conn.Ends := by
    intro closed
    rw [unused.isClosed] at closed
    cases closed
  refine ⟨login, fun deeds => ⟨?_, ?_, ?_⟩⟩
  · intro isOpen
    have kept := keeps.course deeds isOpen
    obtain ⟨active, ready, busy⟩ := kept.stands.shown isOpen
    exact ⟨kept.spells, kept.stands.inFlight, active, ready, busy, kept.stands.distinct,
      kept.stands.parameters⟩
  · exact fun next consumed => consumeInput_incomplete consumed
  · intro closed later
    have closedLater := isClosed_course closed later
    have endsLater : ((conn.course deeds).course later).Ends := by
      rw [← course_append]
      exact course_keeps (fun _ deed ends => ends.perform deed) ends (deeds ++ later)
    obtain ⟨idle, unknown⟩ := endsLater.idle closedLater
    exact ⟨closedLater, idle, unknown⟩

/-- A server that reports the same parameter twice, and once more while a command is under
way that it then answers in a transaction. -/
def revising : Link where
  arrivals :=
    [.data (Frame.stream (List.map BackendMessage.frame
      [.authentication .ok, .parameterStatus "a" "1", .parameterStatus "a" "2",
        .readyForQuery 'I'.toUInt8])),
      .data (Frame.stream (List.map BackendMessage.frame
        [.parameterStatus "a" "3", .commandComplete "BEGIN", .readyForQuery 'T'.toUInt8]))]

theorem course_stands_revising :
    ∃ conn, startup {} (fun _ => "") { link := revising } = (.established, conn) ∧
      (conn.course [.send (.query "begin")]).transactionStatus = .active ∧
      ∃ login : Login {} (fun _ => ""),
        let deeds := [.send (.query "begin"), .consume]
        let history := login.script.map .heard ++ conn.chronicle deeds
        latest status? (messages history) = some .inTransaction ∧
          latest (BackendMessage.parameter? "a") (messages history) = some "3" := by
  have established : startup {} (fun _ => "") { link := revising } =
      (.established, (startup {} (fun _ => "") { link := revising }).2) :=
    Prod.ext (by decide +kernel) rfl
  obtain ⟨login, stands⟩ := course_stands established
  refine ⟨_, established, by decide +kernel, login, ?_⟩
  obtain ⟨_, _, _, ready, _, _, parameters⟩ :=
    (stands [.send (.query "begin"), .consume]).1 (by decide +kernel)
  constructor
  · rw [ready (by decide +kernel)]
    decide +kernel
  · rw [← parameters "a"]
    decide +kernel

end Conn
end PgClient

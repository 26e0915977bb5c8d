/-
What a session has heard of its server.

The messages that a call takes in are all that can change whether a command is under way,
what the server has reported last, and which errors wait to be taken. So these three can
be told from what was heard.
-/

import PgClient.Proofs.Conn.Course
import PgClient.Proofs.Conn.Effect
import PgClient.Proofs.Conn.Settled

namespace PgClient

/-! ### What messages say -/

namespace BackendMessage

def latest {α : Type} (read : BackendMessage → Option α) (messages : List BackendMessage) :
    Option α :=
  messages.reverse.findSome? read

variable {α : Type} (read : BackendMessage → Option α)

theorem latest_append (messages later : List BackendMessage) :
    latest read (messages ++ later) = (latest read later).or (latest read messages) := by
  unfold latest
  rw [List.reverse_append, List.findSome?_append]

private theorem latest_singleton (message : BackendMessage) :
    latest read [message] = read message := by
  unfold latest
  rw [List.reverse_singleton, List.findSome?_singleton]

theorem latest_concat (messages : List BackendMessage) (message : BackendMessage) :
    latest read (messages ++ [message]) = (read message).or (latest read messages) := by
  rw [latest_append, latest_singleton]

def status? : BackendMessage → Option TransactionStatus
  | readyForQuery indicator => some (.ofIndicator indicator)
  | _ => none

def report (parameters : List (String × String)) : BackendMessage → List (String × String)
  | parameterStatus name value => Conn.assign name value parameters
  | _ => parameters

def failure? : BackendMessage → Option QueryResult
  | errorResponse body => some (.fatal ((Diagnostic.parse body).toOption.getD {}))
  | _ => none

/-- A server that is ready has said where the session stands. -/
theorem isSome_latest_status {messages : List BackendMessage}
    (ready : messages.any isReady = true) : (latest status? messages).isSome = true := by
  obtain ⟨message, member, isReady⟩ := List.any_eq_true.mp ready
  unfold latest
  rw [List.isSome_findSome?, List.any_eq_true]
  refine ⟨message, List.mem_reverse.mpr member, ?_⟩
  cases message with
  | readyForQuery indicator => rfl
  | _ => cases isReady

theorem not_error_of_failures {messages : List BackendMessage}
    (fine : messages.filterMap failure? = []) (body : Bytes) : .errorResponse body ∉ messages := by
  intro member
  have silent := List.filterMap_eq_nil_iff.mp fine _ member
  cases silent

end BackendMessage

namespace Conn

open BackendMessage (latest latest_append latest_singleton status? failure?)

/-- Only these messages have been taken in between. -/
structure Hears (messages : List BackendMessage) (before after : Conn) : Prop where
  inFlight : after.inFlight = (before.inFlight && !messages.any BackendMessage.isReady)
  status : after.lastStatus = (latest status? messages).getD before.lastStatus
  failures : after.results.toList.filter QueryResult.isFatal =
    before.results.toList.filter QueryResult.isFatal ++ messages.filterMap failure?

namespace Hears

variable {messages later : List BackendMessage} {before between after : Conn}

/-- Nothing was heard, and none of the three has changed. -/
theorem silence (inFlight : after.inFlight = before.inFlight)
    (status : after.lastStatus = before.lastStatus)
    (results : after.results.toList = before.results.toList) : Hears [] before after := by
  refine ⟨?_, status, ?_⟩
  · rw [inFlight]
    exact (Bool.and_true _).symm
  · rw [results]
    exact (List.append_nil _).symm

private theorem trans (first : Hears messages before between) (second : Hears later between after) :
    Hears (messages ++ later) before after := by
  refine ⟨?_, ?_, ?_⟩
  · rw [second.inFlight, first.inFlight, List.any_append, Bool.not_or, Bool.and_assoc]
  · rw [second.status, first.status, latest_append]
    cases latest status? later with
    | none => rfl
    | some status => rfl
  · rw [second.failures, first.failures, List.filterMap_append, List.append_assoc]

end Hears

/-! ### One message -/

variable {message : BackendMessage} {conn after : Conn}

/-- Only what a message reports changes where the session stands and what it knows of the
server. -/
theorem handle_reports (taken : conn.handle message = .ok after) :
    after.lastStatus = message.status?.getD conn.lastStatus ∧
      after.parameters = message.report conn.parameters := by
  cases message with
  | rowDescription count body =>
      simp only [handle, receiveFields] at taken
      split at taken
      · cases taken
      · split at taken
        · cases taken
          exact ⟨rfl, rfl⟩
        · cases taken
          exact ⟨rfl, rfl⟩
  | dataRow columns body =>
      simp only [handle, receiveRow] at taken
      split at taken
      · cases taken
      · split at taken
        · cases taken
        · cases taken
          exact ⟨rfl, rfl⟩
  | errorResponse body =>
      simp only [handle, receiveError] at taken
      split at taken
      · cases taken
      · cases taken
        exact ⟨rfl, rfl⟩
  | noticeResponse body =>
      simp only [handle, receiveNotice] at taken
      split at taken
      · cases taken
      · cases taken
        exact ⟨rfl, rfl⟩
  | noData =>
      simp only [handle] at taken
      split at taken
      · cases taken
        exact ⟨rfl, rfl⟩
      · cases taken
        exact ⟨rfl, rfl⟩
  | authentication request => cases taken
  | negotiateProtocolVersion minor count names => cases taken
  | _ =>
      cases taken
      exact ⟨rfl, rfl⟩

/-- Of the results that a message completes, only an error of the server is one. -/
theorem yields_failures (taken : conn.handle message = .ok after) (describing : Bool)
    (begun : Option ResultBuilder) :
    (message.yields describing begun).filter QueryResult.isFatal = message.failure?.toList := by
  cases message with
  | errorResponse body =>
      simp only [handle, receiveError] at taken
      split at taken
      · cases taken
      · rename_i report read
        simp only [BackendMessage.yields, read, failure?]
        rfl
  | rowDescription count body =>
      simp only [BackendMessage.yields]
      cases Field.readMany count.toNat body with
      | error fault => rfl
      | ok fields =>
          cases describing with
          | false => rfl
          | true => rfl
  | noData =>
      cases describing with
      | false => rfl
      | true => rfl
  | commandComplete tag =>
      cases begun with
      | none => rfl
      | some builder => rfl
  | _ => rfl

private theorem handle_hears (taken : conn.handle message = .ok after) :
    Hears [message] conn after := by
  have effect := handle_effect taken
  refine ⟨?_, ?_, ?_⟩
  · rw [effect.inFlight, List.any_cons, List.any_nil, Bool.or_false]
  · rw [(handle_reports taken).1, latest_singleton]
  · rw [effect.results, List.filter_append, yields_failures taken]
    cases failure : message.failure? with
    | none => rw [List.filterMap_cons_none failure]; rfl
    | some result => rw [List.filterMap_cons_some failure]; rfl

/-! ### A call -/

def heard (input : Bytes) (conn : Conn) : List BackendMessage :=
  match found : Frame.next input with
  | .ok (some (frame, rest)) =>
      match conn.handleFrame frame with
      | .error _ => []
      | .ok next =>
          have := Frame.next_length found
          (BackendMessage.decode frame.first frame.body).toOption.toList ++ heard rest next
  | _ => []
termination_by input.length
decreasing_by
  simp only [Frame.headLength] at this
  omega

def hears (conn : Conn) : List BackendMessage :=
  if conn.isClosed then []
  else
    match (Link.gather conn.link.arrivals).fault with
    | some _ => []
    | none => conn.gathering.heard conn.gathering.inbox

theorem heard_of_partial {input : Bytes} (found : Frame.next input = .ok none) :
    conn.heard input = [] := by
  rw [heard]
  split
  · rename_i same
    rw [found] at same
    cases same
  · rfl

theorem heard_of_frame {input rest : Bytes} {frame : Frame} {next : Conn}
    (found : Frame.next input = .ok (some (frame, rest)))
    (taken : conn.handleFrame frame = .ok next) :
    conn.heard input =
      (BackendMessage.decode frame.first frame.body).toOption.toList ++ next.heard rest := by
  rw [heard]
  split
  · rename_i same
    rw [found] at same
    cases same
    simp only [taken]
  · rename_i other
    exact absurd found (other frame rest)

private theorem handleFrame_hears {frame : Frame} (taken : conn.handleFrame frame = .ok after) :
    Hears (BackendMessage.decode frame.first frame.body).toOption.toList conn after := by
  unfold handleFrame at taken
  cases read : BackendMessage.decode frame.first frame.body with
  | error fault =>
      rw [read] at taken
      cases taken
  | ok message =>
      rw [read] at taken
      exact handle_hears taken

private theorem parse_hears {input : Bytes} (parsed : conn.parse input = (.ok (), after)) :
    Hears (conn.heard input) conn after := by
  induction input, conn using parse.induct with
  | case1 input conn fault found =>
      rw [parse_of_fault found] at parsed
      cases parsed
  | case2 input conn found =>
      rw [parse_of_partial found] at parsed
      cases parsed
      rw [heard_of_partial found]
      exact .silence rfl rfl rfl
  | case3 input conn frame rest found fault refused =>
      rw [parse_of_refused found refused] at parsed
      cases parsed
  | case4 input conn frame rest found next taken _ ih =>
      rw [parse_of_taken found taken] at parsed
      rw [heard_of_frame found taken]
      exact (handleFrame_hears taken).trans (ih parsed)

theorem flush_hears (isOpen : conn.flush.2.isClosed = false) : Hears [] conn conn.flush.2 := by
  cases flushed : conn.flush with
  | mk outcome after =>
      rw [flushed] at isOpen
      cases outcome with
      | error error =>
          rw [(flush_error flushed).1] at isOpen
          cases isOpen
      | ok pending =>
          obtain ⟨pushed, _, same⟩ := flush_ok flushed
          cases same
          exact .silence rfl rfl rfl

/-- What is left of a session that stays open can be told from what it has heard. -/
theorem consumeInput_hears :
    conn.consumeInput.2.isClosed = false → Hears conn.hears conn conn.consumeInput.2 := by
  let Holds (after : Conn) : Prop := after.isClosed = false → Hears conn.hears conn after
  change Holds conn.consumeInput.2
  apply consumeInput_cases conn
  · intro closed isOpen
    rw [closed] at isOpen
    cases isOpen
  · intro _ fault _ isOpen
    rw [breakWith_isClosed] at isOpen
    cases isOpen
  · intro _ _ fault parsed reading isOpen
    have closed : parsed.isClosed = true := by
      unfold isClosed
      rw [(parse_error reading).1]
      rfl
    rw [closed] at isOpen
    cases isOpen
  · intro wasOpen fine parsed reading isOpen
    have told : conn.hears = conn.gathering.heard conn.gathering.inbox := by
      simp only [hears, wasOpen, Bool.false_eq_true, if_false, fine]
    have whole := (parse_hears reading).trans (flush_hears isOpen)
    rw [List.append_nil, ← told] at whole
    exact ⟨whole.inFlight, whole.status, whole.failures⟩

end Conn

end PgClient

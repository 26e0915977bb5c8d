/-
What a session has written, held against the messages that it has put there to be written.

Messages come from commands, from refusals of what a server wants to be sent, from the
answers of an opening, and from taking leave. They are entered in a ledger in the order in
which they are put. What the link has taken is at any time the beginning of the entered
messages, one behind the other, and as long as the session is open, what it has not taken
is the rest. Taking leave is entered when there is no rest, and nothing is entered or
written after it.
-/

import PgClient.Proofs.Conn.Conversation
import PgClient.Proofs.Conn.Course
import PgClient.Proofs.Conn.Effect
import PgClient.Proofs.Conn.Settled

namespace PgClient

open FrontendMessage (stream fitting)

/-! ### Entries -/

def Conn.copyAnswer (extended : Bool) : List FrontendMessage :=
  if extended then [copyRefusal, .sync] else [copyRefusal]

def BackendMessage.refusal (extended : Bool) : BackendMessage → List FrontendMessage
  | copyInResponse _ _ | copyBothResponse _ _ => Conn.copyAnswer extended
  | _ => []

def Frame.refusal (extended : Bool) (frame : Frame) : List FrontendMessage :=
  match BackendMessage.decode frame.first frame.body with
  | .error _ => []
  | .ok message => message.refusal extended

/-- Of each message of the command the session puts all there, or nothing. -/
structure Command.AllOrNothing (command : Command) : Prop where
  few : command.parameters.length ≤ 65535
  decided : ∀ message ∈ command.messages, message.AllOrNothing

/-- One attempt to write adds the beginning of the output, or nothing. -/
theorem Link.offer_delivered (output : Bytes) (link : Link) :
    ∃ taken, taken <+: output ∧ (link.offer output).delivered = link.delivered ++ taken := by
  unfold offer
  split
  · exact ⟨output, List.prefix_rfl, rfl⟩
  · exact ⟨output.take _, List.take_prefix _ _, rfl⟩
  · exact ⟨[], List.nil_prefix, (List.append_nil _).symm⟩

namespace Conn

def refusals (input : Bytes) (conn : Conn) : List FrontendMessage :=
  match found : Frame.next input with
  | .ok (some (frame, rest)) =>
      match conn.handleFrame frame with
      | .error _ => []
      | .ok next =>
          have := Frame.next_length found
          frame.refusal conn.extended ++ refusals rest next
  | _ => []
termination_by input.length
decreasing_by
  simp only [Frame.headLength] at this
  omega

def farewell (conn : Conn) : List FrontendMessage :=
  if !conn.released && !conn.broken && conn.outbox.isEmpty then [.terminate] else []

def adds (conn : Conn) : Deed → List FrontendMessage
  | .send command =>
      match conn.checkSendable with
      | .error _ => []
      | .ok () => fitting command.messages
  | .consume =>
      if conn.isClosed then []
      else
        match (Link.gather conn.link.arrivals).fault with
        | some _ => []
        | none => conn.gathering.refusals conn.gathering.inbox
  | .finish => conn.farewell
  | .flush | .takeResult | .takeResults => []

def additions : List Deed → Conn → List FrontendMessage
  | [], _ => []
  | deed :: deeds, conn => conn.adds deed ++ additions deeds (conn.perform deed)

/-! ### Taking in -/

variable {conn after : Conn} {frame : Frame}

theorem refusals_of_partial {input : Bytes} (found : Frame.next input = .ok none) :
    conn.refusals input = [] := by
  rw [refusals]
  split
  · rename_i same
    rw [found] at same
    cases same
  · rfl

theorem refusals_of_fault {input : Bytes} {fault : ProtocolFault}
    (found : Frame.next input = .error fault) : conn.refusals input = [] := by
  rw [refusals]
  split
  · rename_i same
    rw [found] at same
    cases same
  · rfl

theorem refusals_of_frame {input rest : Bytes}
    (found : Frame.next input = .ok (some (frame, rest))) :
    conn.refusals input =
      match conn.handleFrame frame with
      | .error _ => []
      | .ok next => frame.refusal conn.extended ++ next.refusals rest := by
  rw [refusals]
  split
  · rename_i same
    rw [found] at same
    cases same
    rfl
  · rename_i other
    exact absurd found (other frame rest)

private theorem copyAnswer_whole (extended : Bool) :
    ∀ message ∈ copyAnswer extended, message.body.whole = true := by
  cases extended with
  | false => decide
  | true => decide

private theorem copyAnswer_fits (extended : Bool) :
    ∀ message ∈ copyAnswer extended, message.fits = true := by
  cases extended with
  | false => decide
  | true => decide

private theorem refuseCopy_outbox (conn : Conn) :
    conn.refuseCopy.outbox = conn.outbox ++ stream (copyAnswer conn.extended) := by
  have appended := FrontendMessage.appendAll_ok (copyAnswer_whole conn.extended)
    (copyAnswer_fits conn.extended) conn.outbox
  change (FrontendMessage.appendAll (copyAnswer conn.extended) conn.outbox).2 = _
  rw [appended]

private theorem handle_outbox {message : BackendMessage} (taken : conn.handle message = .ok after) :
    after.outbox = conn.outbox ++ stream (message.refusal conn.extended) := by
  have unchanged : conn.outbox = conn.outbox ++ stream [] := (List.append_nil _).symm
  cases message with
  | copyInResponse format body =>
      cases taken
      exact refuseCopy_outbox conn
  | copyBothResponse format body =>
      cases taken
      exact refuseCopy_outbox conn
  | rowDescription count body =>
      simp only [handle, receiveFields] at taken
      split at taken
      · cases taken
      · split at taken
        · cases taken
          exact unchanged
        · cases taken
          exact unchanged
  | dataRow columns body =>
      simp only [handle, receiveRow] at taken
      split at taken
      · cases taken
      · split at taken
        · cases taken
        · cases taken
          exact unchanged
  | errorResponse body =>
      simp only [handle, receiveError] at taken
      split at taken
      · cases taken
      · cases taken
        exact unchanged
  | noticeResponse body =>
      simp only [handle, receiveNotice] at taken
      split at taken
      · cases taken
      · cases taken
        exact unchanged
  | noData =>
      simp only [handle] at taken
      split at taken
      · cases taken
        exact unchanged
      · cases taken
        exact unchanged
  | authentication request => cases taken
  | negotiateProtocolVersion minor count names => cases taken
  | _ =>
      cases taken
      exact unchanged

theorem handleFrame_outbox (taken : conn.handleFrame frame = .ok after) :
    after.outbox = conn.outbox ++ stream (frame.refusal conn.extended) := by
  unfold handleFrame at taken
  unfold Frame.refusal
  cases read : BackendMessage.decode frame.first frame.body with
  | error fault =>
      rw [read] at taken
      cases taken
  | ok message =>
      rw [read] at taken
      exact handle_outbox taken

/-- Taking in input writes nothing, and puts its answers behind what is to be written. -/
theorem parse_outbox (input : Bytes) (conn : Conn) :
    (conn.parse input).2.link = conn.link ∧
      (conn.parse input).2.outbox = conn.outbox ++ stream (conn.refusals input) := by
  have unchanged (conn : Conn) : conn.outbox = conn.outbox ++ stream [] :=
    (List.append_nil _).symm
  induction input, conn using parse.induct with
  | case1 input conn fault found =>
      rw [parse_of_fault found, refusals_of_fault found]
      exact ⟨rfl, unchanged conn⟩
  | case2 input conn found =>
      rw [parse_of_partial found, refusals_of_partial found]
      exact ⟨rfl, unchanged conn⟩
  | case3 input conn frame rest found fault refused =>
      rw [parse_of_refused found refused, refusals_of_frame found, refused]
      exact ⟨rfl, unchanged conn⟩
  | case4 input conn frame rest found next taken _ ih =>
      rw [parse_of_taken found taken, refusals_of_frame found, taken]
      obtain ⟨sameLink, grown⟩ := ih
      constructor
      · rw [sameLink, (handleFrame_effect taken).link]
      · rw [grown, handleFrame_outbox taken, FrontendMessage.stream_append, List.append_assoc]

/-! ### The ledger -/

/-- The link has taken the beginning of what was entered, and while the session is open
the rest waits to be written. -/
structure Ledger (start : Bytes) (entered : List FrontendMessage) (conn : Conn) : Prop where
  delivered : conn.link.delivered <+: start ++ stream entered
  whole : conn.isClosed = false → conn.link.delivered ++ conn.outbox = start ++ stream entered

/-- What is left of that where more may wait to be written than was entered: if nothing waits, all
that was entered has been taken. -/
structure Closing (start : Bytes) (entered : List FrontendMessage) (conn : Conn) : Prop where
  delivered : conn.link.delivered <+: start ++ stream entered
  empty : conn.isClosed = false → conn.outbox = [] → conn.link.delivered = start ++ stream entered

namespace Ledger

variable {start : Bytes} {entered : List FrontendMessage}

theorem of_balance (balance : conn.link.delivered ++ conn.outbox = start ++ stream entered) :
    Ledger start entered conn :=
  ⟨⟨conn.outbox, balance⟩, fun _ => balance⟩

/-- Entries are put behind the rest, and nothing is written meanwhile. -/
theorem enter {more : List FrontendMessage} (ledger : Ledger start entered conn)
    (isOpen : conn.isClosed = false) (link : after.link = conn.link)
    (outbox : after.outbox = conn.outbox ++ stream more) :
    Ledger start (entered ++ more) after := by
  apply of_balance
  calc after.link.delivered ++ after.outbox
      = (conn.link.delivered ++ conn.outbox) ++ stream more := by
        rw [link, outbox, List.append_assoc]
    _ = start ++ stream entered ++ stream more := by rw [ledger.whole isOpen]
    _ = start ++ stream (entered ++ more) := by
        rw [FrontendMessage.stream_append, List.append_assoc]

/-- Writing moves bytes from the front of the rest to the end of what was taken. -/
theorem settlePush (ledger : Ledger start entered conn) (isOpen : conn.isClosed = false) :
    Ledger start entered (conn.settlePush (Link.push conn.outbox conn.link.uptakes)) := by
  apply of_balance
  have whole := Link.push_whole conn.outbox conn.link.uptakes
  simp only [Conn.settlePush]
  rw [List.append_assoc, whole]
  exact ledger.whole isOpen

/-- Of a session that is closed it only counts what was taken. -/
theorem close (ledger : Ledger start entered conn) (closed : after.isClosed = true)
    (same : after.link.delivered = conn.link.delivered) : Ledger start entered after := by
  constructor
  · rw [same]
    exact ledger.delivered
  · intro isOpen
    rw [closed] at isOpen
    cases isOpen

private theorem flush (ledger : Ledger start entered conn) : Ledger start entered conn.flush.2 := by
  unfold Conn.flush
  split
  · exact ledger
  · split
    · exact ledger
    · rename_i isOpen
      have pushed := ledger.settlePush (Bool.not_eq_true _ ▸ isOpen)
      dsimp only
      split
      · exact pushed
      · exact pushed
      · exact pushed.close (breakWith_isClosed _ _) rfl
      · exact pushed.close (breakWith_isClosed _ _) rfl

private theorem send (ledger : Ledger start entered conn) {command : Command}
    (wholly : command.AllOrNothing) :
    Ledger start (entered ++ conn.adds (.send command)) (conn.send command).2 := by
  unfold Conn.send adds
  cases sendable : conn.checkSendable with
  | error error =>
      dsimp only
      rw [List.append_nil]
      exact ledger
  | ok =>
      have isOpen := (checkSendable_ok sendable).1
      have appended :=
        FrontendMessage.appendAll_fitting (Command.messages_whole wholly.few) conn.outbox
      rw [FrontendMessage.remnant_eq_nil wholly.decided, List.append_nil] at appended
      dsimp only
      split
      · rename_i queued
        cases congrArg Prod.snd queued
        exact ledger.enter isOpen rfl appended
      · rename_i queued
        cases congrArg Prod.snd queued
        exact ledger.enter isOpen rfl appended

private theorem gathering (ledger : Ledger start entered conn) :
    Ledger start entered conn.gathering :=
  ⟨ledger.delivered, ledger.whole⟩

private theorem consumeInput (ledger : Ledger start entered conn) :
    Ledger start (entered ++ conn.adds .consume) conn.consumeInput.2 := by
  have grown := parse_outbox conn.gathering.inbox conn.gathering
  apply consumeInput_cases conn
  · intro closed
    rw [adds, if_pos closed, List.append_nil]
    exact ledger
  · intro isOpen fault failed
    rw [adds, if_neg (by simp [isOpen]), failed, List.append_nil]
    exact ledger.gathering.close (breakWith_isClosed _ _) rfl
  · intro isOpen fine fault parsed reading
    rw [reading] at grown
    rw [adds, if_neg (by simp [isOpen]), fine]
    exact ledger.gathering.enter isOpen grown.1 grown.2
  · intro isOpen fine parsed reading
    rw [reading] at grown
    rw [adds, if_neg (by simp [isOpen]), fine]
    exact (ledger.gathering.enter isOpen grown.1 grown.2).flush

theorem closing (ledger : Ledger start entered conn) : Closing start entered conn where
  delivered := ledger.delivered
  empty isOpen nothing := by
    have whole := ledger.whole isOpen
    rw [nothing, List.append_nil] at whole
    exact whole

/-- Leave is taken of a server that has taken everything, in one attempt. -/
theorem of_finish (closing : Closing start entered conn) :
    Ledger start (entered ++ conn.farewell) conn.finish := by
  unfold Conn.finish farewell
  by_cases released : conn.released = true
  · rw [if_pos released, if_neg (by simp [released]), List.append_nil]
    refine ⟨closing.delivered, fun isOpen => ?_⟩
    rw [isClosed, released, Bool.or_true] at isOpen
    cases isOpen
  · rw [if_neg released]
    by_cases done : (!conn.broken && conn.outbox.isEmpty) = true
    · rw [Bool.and_assoc, done, Bool.and_true, if_pos (by simp [released])]
      simp only [Bool.and_eq_true, Bool.not_eq_true', List.isEmpty_iff] at done
      obtain ⟨unbroken, empty⟩ := done
      have isOpen : conn.isClosed = false := by simp [isClosed, unbroken, released]
      obtain ⟨taken, begins, grown⟩ := conn.link.offer_delivered terminate
      constructor
      · change (conn.link.offer terminate).delivered <+: _
        rw [grown, closing.empty isOpen empty, FrontendMessage.stream_append, ← List.append_assoc]
        exact (List.prefix_append_right_inj _).mpr begins
      · intro stillOpen
        cases (Bool.or_true _).symm.trans stillOpen
    · rw [Bool.and_assoc, if_neg (by simp [done]), if_neg done, List.append_nil]
      refine ⟨closing.delivered, fun isOpen => ?_⟩
      cases (Bool.or_true _).symm.trans isOpen

theorem perform (ledger : Ledger start entered conn) {deed : Deed}
    (wholly : ∀ command, deed = .send command → command.AllOrNothing) :
    Ledger start (entered ++ conn.adds deed) (conn.perform deed) := by
  cases deed with
  | send command => exact ledger.send (wholly command rfl)
  | flush =>
      rw [adds, List.append_nil]
      exact ledger.flush
  | consume => exact ledger.consumeInput
  | finish => exact of_finish ledger.closing
  | takeResult =>
      rw [adds, List.append_nil]
      rcases takeResult_cases conn with none | ⟨result, results, taken, _⟩
      · rw [Conn.perform, none]
        exact ledger
      · rw [Conn.perform, taken]
        exact ⟨ledger.delivered, ledger.whole⟩
  | takeResults =>
      rw [adds, List.append_nil]
      exact ⟨ledger.delivered, ledger.whole⟩

end Ledger

end Conn

end PgClient

/-
What taking in a message comes to.

A message completes some results and leaves some rows gathered, and which these are
depends on the message, on whether fields were asked for, and on the rows gathered so
far. Nothing else of a session bears on it, so the results of a run of messages can be
told without a session.
-/

import PgClient.Proofs.Conn.Intake

namespace PgClient

namespace BackendMessage

def yields (describing : Bool) (begun : Option ResultBuilder) : BackendMessage → List QueryResult
  | rowDescription count body =>
      match Field.readMany count.toNat body with
      | .error _ => []
      | .ok fields => if describing then [{ status := .commandOk, fields }] else []
  | noData => if describing then [{ status := .commandOk }] else []
  | commandComplete tag =>
      match begun with
      | some builder => [builder.finish tag]
      | none => [{ status := .commandOk, tag := some tag }]
  | emptyQueryResponse => [{ status := .emptyQuery }]
  | errorResponse body =>
      match Diagnostic.parse body with
      | .error _ => []
      | .ok report => [.fatal report]
  | _ => []

def leaves (describing : Bool) (begun : Option ResultBuilder) :
    BackendMessage → Option ResultBuilder
  | rowDescription count body =>
      match Field.readMany count.toNat body with
      | .error _ => begun
      | .ok fields => if describing then begun else some { fields }
  | dataRow columns body =>
      match begun with
      | none => none
      | some builder => (builder.push columns body).toOption
  | commandComplete _ => none
  | errorResponse _ => none
  | readyForQuery _ => none
  | _ => begun

def isReady : BackendMessage → Bool
  | readyForQuery _ => true
  | _ => false

end BackendMessage

namespace Conn

/-- A message has completed some results, has left some rows gathered, and has ended the
command under way if it says so. The rest of what the session owes its owner is as it was. -/
structure Effect (yielded : List QueryResult) (left : Option ResultBuilder) (ready : Bool)
    (before after : Conn) : Prop where
  results : after.results.toList = before.results.toList ++ yielded
  builder : after.builder = left
  inFlight : after.inFlight = (before.inFlight && !ready)
  describing : after.describing = (before.describing && !ready)
  extended : after.extended = before.extended
  inbox : after.inbox = before.inbox
  link : after.link = before.link
  isClosed : after.isClosed = before.isClosed

def EffectOf (message : BackendMessage) (before after : Conn) : Prop :=
  Effect (message.yields before.describing before.builder)
    (message.leaves before.describing before.builder) message.isReady before after

variable {message : BackendMessage} {conn after : Conn}

theorem toList_queue (result : QueryResult) :
    (conn.queue result).results.toList = conn.results.toList ++ [result] :=
  Queue.toList_push conn.results result

private theorem Effect.under_way {yielded : List QueryResult} {results : Queue QueryResult}
    {builder : Option ResultBuilder} {outbox : Bytes} {parameters : List (String × String)}
    {keyData : Option KeyData} {journal : List Event}
    (queued : results.toList = conn.results.toList ++ yielded) :
    Effect yielded builder false conn
      { conn with results, builder, outbox, parameters, keyData, journal } where
  results := queued
  builder := rfl
  inFlight := (Bool.and_true _).symm
  describing := (Bool.and_true _).symm
  extended := rfl
  inbox := rfl
  link := rfl
  isClosed := rfl

/-- What does not touch the results leaves everything as it was. -/
theorem Effect.elsewhere {outbox : Bytes} {parameters : List (String × String)}
    {keyData : Option KeyData} {journal : List Event} :
    Effect [] conn.builder false conn { conn with outbox, parameters, keyData, journal } :=
  Effect.under_way (List.append_nil _).symm

/-! ### One message -/

private theorem receiveFields_effect {count : UInt16} {body : Bytes}
    (received : conn.receiveFields count body = .ok after) :
    EffectOf (.rowDescription count body) conn after := by
  unfold receiveFields at received
  unfold EffectOf BackendMessage.yields BackendMessage.leaves
  cases read : Field.readMany count.toNat body with
  | error fault =>
      rw [read] at received
      cases received
  | ok fields =>
      rw [read] at received
      simp only [read]
      by_cases describing : conn.describing = true
      · simp only [if_pos describing] at received ⊢
        cases received
        exact .under_way (toList_queue _)
      · simp only [if_neg describing] at received ⊢
        cases received
        exact .under_way (List.append_nil _).symm

private theorem receiveRow_effect {columns : UInt16} {body : Bytes}
    (received : conn.receiveRow columns body = .ok after) :
    EffectOf (.dataRow columns body) conn after := by
  unfold receiveRow at received
  unfold EffectOf BackendMessage.leaves
  cases present : conn.builder with
  | none =>
      rw [present] at received
      cases received
  | some builder =>
      rw [present] at received
      cases pushed : builder.push columns body with
      | error fault =>
          simp only [pushed] at received
          cases received
      | ok builder =>
          simp only [pushed] at received
          cases received
          simp only [pushed]
          exact .under_way (List.append_nil _).symm

private theorem receiveCompletion_effect (tag : String) :
    EffectOf (.commandComplete tag) conn (conn.receiveCompletion tag) := by
  unfold EffectOf BackendMessage.yields receiveCompletion
  cases conn.builder with
  | none => exact .under_way (toList_queue _)
  | some builder => exact .under_way (toList_queue _)

private theorem receiveError_effect {body : Bytes} (received : conn.receiveError body = .ok after) :
    EffectOf (.errorResponse body) conn after := by
  unfold receiveError at received
  unfold EffectOf BackendMessage.yields
  cases parsed : Diagnostic.parse body with
  | error fault =>
      rw [parsed] at received
      cases received
  | ok report =>
      rw [parsed] at received
      cases received
      simp only [parsed]
      exact .under_way (toList_queue _)

private theorem receiveNotice_effect {body : Bytes}
    (received : conn.receiveNotice body = .ok after) :
    EffectOf (.noticeResponse body) conn after := by
  unfold receiveNotice at received
  split at received
  · cases received
  · cases received
    exact .elsewhere

private theorem receiveReady_effect (indicator : UInt8) :
    EffectOf (.readyForQuery indicator) conn (conn.receiveReady indicator) where
  results := (List.append_nil _).symm
  builder := rfl
  inFlight := (Bool.and_false _).symm
  describing := (Bool.and_false _).symm
  extended := rfl
  inbox := rfl
  link := rfl
  isClosed := rfl

theorem handle_effect (taken : conn.handle message = .ok after) :
    EffectOf message conn after := by
  cases message with
  | rowDescription count body => exact receiveFields_effect taken
  | dataRow columns body => exact receiveRow_effect taken
  | errorResponse body => exact receiveError_effect taken
  | noticeResponse body => exact receiveNotice_effect taken
  | commandComplete tag =>
      cases taken
      exact receiveCompletion_effect tag
  | readyForQuery indicator =>
      cases taken
      exact receiveReady_effect indicator
  | emptyQueryResponse =>
      cases taken
      exact .under_way (toList_queue _)
  | noData =>
      unfold EffectOf BackendMessage.yields
      by_cases describing : conn.describing = true
      · simp only [handle, if_pos describing] at taken ⊢
        cases taken
        exact .under_way (toList_queue _)
      · simp only [handle, if_neg describing] at taken ⊢
        cases taken
        exact .elsewhere
  | authentication request => cases taken
  | negotiateProtocolVersion minor count names => cases taken
  | _ =>
      cases taken
      exact .elsewhere

end Conn

/-! ### A run of messages -/

namespace BackendMessage

private theorem tag_of_ofBody {tag : Tag} {body : Bytes} {message : BackendMessage}
    (read : ofBody tag body = .ok message) : message.tag = tag := by
  cases tag
  all_goals
    simp only [ofBody, bind, pure, Except.bind, Except.pure] at read
    repeat' split at read
    all_goals cases read
    all_goals rfl

theorem first_of_decode {first : UInt8} {body : Bytes} {message : BackendMessage}
    (read : decode first body = .ok message) : message.tag.byte = first := by
  unfold decode at read
  split at read
  · cases read
  · rename_i tag found
    rw [tag_of_ofBody read]
    exact Tag.byte_of_ofByte? found

private theorem isReady_eq (message : BackendMessage) :
    message.isReady = (message.tag.byte == Tag.readyForQuery.byte) := by
  cases message <;> rfl

end BackendMessage

namespace Frame

def yields (describing : Bool) (begun : Option ResultBuilder) (frame : Frame) :
    List QueryResult :=
  match BackendMessage.decode frame.first frame.body with
  | .error _ => []
  | .ok message => message.yields describing begun

def leaves (describing : Bool) (begun : Option ResultBuilder) (frame : Frame) :
    Option ResultBuilder :=
  match BackendMessage.decode frame.first frame.body with
  | .error _ => none
  | .ok message => message.leaves describing begun

def isReady (frame : Frame) : Bool :=
  frame.first == Tag.readyForQuery.byte

/-- A server may say this at any time, also when nothing was asked of it. -/
def isAside (frame : Frame) : Bool :=
  [Tag.noticeResponse.byte, Tag.notificationResponse.byte, Tag.parameterStatus.byte].contains
    frame.first

def results (describing : Bool) (begun : Option ResultBuilder) : List Frame → List QueryResult
  | [] => []
  | frame :: frames =>
      frame.yields describing begun ++ results describing (frame.leaves describing begun) frames

variable {frame : Frame} {describing : Bool} {begun : Option ResultBuilder}

theorem ready_of_decode {message : BackendMessage} (ready : frame.isReady = true)
    (read : BackendMessage.decode frame.first frame.body = .ok message) :
    ∃ indicator, message = .readyForQuery indicator := by
  have same := message.isReady_eq
  rw [BackendMessage.first_of_decode read] at same
  cases message with
  | readyForQuery indicator => exact ⟨indicator, rfl⟩
  | _ => exact absurd (same.trans ready) Bool.false_ne_true

theorem yields_of_isReady (ready : frame.isReady = true) : frame.yields describing begun = [] := by
  unfold yields
  split
  · rfl
  · rename_i message read
    obtain ⟨indicator, rfl⟩ := ready_of_decode ready read
    rfl

theorem leaves_of_isReady (ready : frame.isReady = true) :
    frame.leaves describing begun = none := by
  unfold leaves
  split
  · rfl
  · rename_i message read
    obtain ⟨indicator, rfl⟩ := ready_of_decode ready read
    rfl

theorem not_isReady_of_isAside (aside : frame.isAside = true) : frame.isReady = false := by
  simp only [isAside, List.contains_cons, Bool.or_eq_true, beq_iff_eq] at aside
  unfold isReady
  rcases aside with notice | notified | status | impossible
  · rw [notice]
    rfl
  · rw [notified]
    rfl
  · rw [status]
    rfl
  · cases impossible

private theorem silent_of_decode {message : BackendMessage} (aside : frame.isAside = true)
    (read : BackendMessage.decode frame.first frame.body = .ok message) :
    message.yields describing begun = [] ∧ message.leaves describing begun = begun := by
  rw [isAside, ← BackendMessage.first_of_decode read] at aside
  cases message with
  | noticeResponse body => exact ⟨rfl, rfl⟩
  | notificationResponse processId channel payload => exact ⟨rfl, rfl⟩
  | parameterStatus name value => exact ⟨rfl, rfl⟩
  | _ => exact absurd aside Bool.false_ne_true

theorem yields_of_isAside (aside : frame.isAside = true) : frame.yields describing begun = [] := by
  unfold yields
  split
  · rfl
  · rename_i message read
    exact (silent_of_decode aside read).1

theorem leaves_of_isAside (aside : frame.isAside = true) :
    frame.leaves describing none = none := by
  unfold leaves
  split
  · rfl
  · rename_i message read
    exact (silent_of_decode aside read).2

end Frame

theorem Conn.handleFrame_effect {frame : Frame} {conn after : Conn}
    (taken : conn.handleFrame frame = .ok after) :
    Effect (frame.yields conn.describing conn.builder)
      (frame.leaves conn.describing conn.builder) frame.isReady conn after := by
  unfold handleFrame at taken
  unfold Frame.yields Frame.leaves Frame.isReady
  cases read : BackendMessage.decode frame.first frame.body with
  | error fault =>
      rw [read] at taken
      cases taken
  | ok message =>
      rw [read] at taken
      rw [← BackendMessage.first_of_decode read, ← BackendMessage.isReady_eq]
      exact handle_effect taken

theorem Conn.takeAll_link {frames : List Frame} {conn after : Conn}
    (taken : conn.takeAll frames = .ok after) : after.link = conn.link := by
  induction frames generalizing conn with
  | nil =>
      cases taken
      rfl
  | cons frame frames ih =>
      obtain ⟨next, first, rest⟩ := takeAll_cons_ok taken
      rw [ih rest, (handleFrame_effect first).link]

end PgClient

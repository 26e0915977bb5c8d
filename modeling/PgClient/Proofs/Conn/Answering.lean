/-
Consuming an answer that can be understood.

Whether a session can take in a message is told by the message and by the rows that are
gathered so far. An answer of such messages, on a link that does not fail, is consumed
without an error, however it is cut. Each call that reads something brings the session
nearer to the end of the answer, and one that finds all of it takes it in to the end.
-/

import PgClient.Proofs.Conn.Attribution
import PgClient.Proofs.Conn.Ledger
import PgClient.Proofs.Conn.Pieces

namespace PgClient

open FrontendMessage (stream)

/-! ### Messages that can be taken in -/

/-- The message makes sense where these rows are gathered. -/
def BackendMessage.isSound (begun : Option ResultBuilder) : BackendMessage → Bool
  | rowDescription count body => (Field.readMany count.toNat body).isOk
  | dataRow columns body =>
      match begun with
      | none => false
      | some builder => (builder.push columns body).isOk
  | errorResponse body => (Diagnostic.parse body).isOk
  | noticeResponse body => (Diagnostic.parse body).isOk
  | authentication _ => false
  | negotiateProtocolVersion _ _ _ => false
  | _ => true

namespace Frame

def isSound (begun : Option ResultBuilder) (frame : Frame) : Bool :=
  match BackendMessage.decode frame.first frame.body with
  | .error _ => false
  | .ok message => message.isSound begun

def allSound : Bool → Option ResultBuilder → List Frame → Bool
  | _, _, [] => true
  | describing, begun, frame :: frames =>
      frame.isSound begun &&
        allSound (describing && !frame.isReady) (frame.leaves describing begun) frames

end Frame

namespace Conn

variable {conn after : Conn} {frame : Frame} {frames left : List Frame}

private theorem handle_sound {message : BackendMessage}
    (sound : message.isSound conn.builder = true) :
    ∃ after, conn.handle message = .ok after := by
  cases message with
  | rowDescription count body =>
      obtain ⟨fields, read⟩ := Except.exists_of_isOk sound
      simp only [handle, receiveFields, read]
      split
      · exact ⟨_, rfl⟩
      · exact ⟨_, rfl⟩
  | dataRow columns body =>
      simp only [BackendMessage.isSound] at sound
      split at sound
      · cases sound
      · rename_i builder present
        obtain ⟨grown, pushed⟩ := Except.exists_of_isOk sound
        simp only [handle, receiveRow, present, pushed]
        exact ⟨_, rfl⟩
  | errorResponse body =>
      obtain ⟨report, read⟩ := Except.exists_of_isOk sound
      simp only [handle, receiveError, read]
      exact ⟨_, rfl⟩
  | noticeResponse body =>
      obtain ⟨report, read⟩ := Except.exists_of_isOk sound
      simp only [handle, receiveNotice, read]
      exact ⟨_, rfl⟩
  | noData =>
      simp only [handle]
      split
      · exact ⟨_, rfl⟩
      · exact ⟨_, rfl⟩
  | authentication request => cases sound
  | negotiateProtocolVersion minor count names => cases sound
  | _ => exact ⟨_, rfl⟩

private theorem handleFrame_sound (sound : frame.isSound conn.builder = true) :
    ∃ after, conn.handleFrame frame = .ok after := by
  unfold Frame.isSound at sound
  unfold handleFrame
  cases read : BackendMessage.decode frame.first frame.body with
  | error fault =>
      rw [read] at sound
      cases sound
  | ok message =>
      rw [read] at sound
      exact handle_sound sound

/-- What can be said of a session before some frames can be said of it behind the first. -/
theorem sound_of_handleFrame
    (sound : Frame.allSound conn.describing conn.builder (frame :: frames) = true)
    (taken : conn.handleFrame frame = .ok after) :
    Frame.allSound after.describing after.builder frames = true := by
  have effect := handleFrame_effect taken
  rw [effect.describing, effect.builder]
  exact (Bool.and_eq_true_iff.mp sound).2

private theorem takeAll_sound
    (sound : Frame.allSound conn.describing conn.builder (frames ++ left) = true) :
    ∃ after, conn.takeAll frames = .ok after ∧
      Frame.allSound after.describing after.builder left = true := by
  induction frames generalizing conn with
  | nil => exact ⟨conn, rfl, sound⟩
  | cons frame frames ih =>
      obtain ⟨next, taken⟩ := handleFrame_sound (Bool.and_eq_true_iff.mp sound).1
      obtain ⟨after, others, still⟩ := ih (sound_of_handleFrame sound taken)
      refine ⟨after, ?_, still⟩
      rw [takeAll, taken]
      exact others

private theorem takeAll_outbox (taken : conn.takeAll frames = .ok after) :
    after.extended = conn.extended ∧
      after.outbox = conn.outbox ++ stream (frames.flatMap (Frame.refusal conn.extended)) := by
  induction frames generalizing conn with
  | nil =>
      cases taken
      exact ⟨rfl, (List.append_nil _).symm⟩
  | cons frame frames ih =>
      obtain ⟨next, first, others⟩ := takeAll_cons_ok taken
      have kept : next.extended = conn.extended := (handleFrame_effect first).extended
      obtain ⟨same, grown⟩ := ih others
      refine ⟨same.trans kept, ?_⟩
      rw [grown, kept, handleFrame_outbox first, List.flatMap_cons,
        FrontendMessage.stream_append, List.append_assoc]

end Conn

namespace Frame

variable {frame : Frame} {extended : Bool}

private theorem refusal_of_isAside (aside : frame.isAside = true) :
    frame.refusal extended = [] := by
  unfold refusal
  split
  · rfl
  · rename_i message read
    rw [isAside, ← BackendMessage.first_of_decode read] at aside
    cases message with
    | copyInResponse format body => exact absurd aside Bool.false_ne_true
    | copyBothResponse format body => exact absurd aside Bool.false_ne_true
    | _ => rfl

theorem refusal_of_isReady (ready : frame.isReady = true) : frame.refusal extended = [] := by
  unfold refusal
  split
  · rfl
  · rename_i message read
    obtain ⟨indicator, rfl⟩ := ready_of_decode ready read
    rfl

theorem refusals_asides {asides : List Frame} (aside : ∀ frame ∈ asides, frame.isAside = true) :
    asides.flatMap (refusal extended) = [] := by
  apply List.flatMap_eq_nil_iff.mpr
  intro frame member
  exact refusal_of_isAside (aside frame member)

end Frame

/-! ### Input that begins a stream -/

private theorem Frame.next_ok_of_prefix {input : Bytes} {frames : List Frame}
    (fits : ∀ frame ∈ frames, frame.Fits) (begins : input <+: Frame.stream frames) :
    ∃ front, Frame.next input = .ok front := by
  cases found : Frame.next input with
  | ok front => exact ⟨front, rfl⟩
  | error fault =>
      obtain ⟨tail, whole⟩ := begins
      have grown := Frame.next_more_of_fault found tail
      rw [whole] at grown
      cases frames with
      | nil => cases grown
      | cons first others =>
          rw [Frame.stream_cons, Frame.next_append first (fits first List.mem_cons_self)] at grown
          cases grown

namespace Conn

variable {conn : Conn} {left : List Frame}

private theorem parse_sound {input : Bytes} (fits : ∀ frame ∈ left, frame.Fits)
    (begins : input <+: Frame.stream left)
    (sound : Frame.allSound conn.describing conn.builder left = true) :
    ∃ after, conn.parse input = (.ok (), after) := by
  induction input, conn using parse.induct generalizing left with
  | case1 input conn fault found =>
      obtain ⟨some, fine⟩ := Frame.next_ok_of_prefix fits begins
      rw [found] at fine
      cases fine
  | case2 input conn found => exact ⟨_, parse_of_partial found⟩
  | case3 input conn frame rest found fault refused =>
      obtain ⟨_, others, rfl, _⟩ := Frame.next_of_prefix fits begins found
      obtain ⟨next, taken⟩ := handleFrame_sound (Bool.and_eq_true_iff.mp sound).1
      rw [refused] at taken
      cases taken
  | case4 input conn frame rest found next taken _ ih =>
      obtain ⟨_, others, rfl, onward⟩ := Frame.next_of_prefix fits begins found
      rw [parse_of_taken found taken]
      apply ih _ onward (sound_of_handleFrame sound taken)
      intro other member
      exact fits other (List.mem_cons_of_mem _ member)

/-- Taking in input stops where no whole message is left. -/
theorem parse_stops {input : Bytes} {after : Conn} (parsed : conn.parse input = (.ok (), after)) :
    Frame.next after.inbox = .ok none := by
  induction input, conn using parse.induct with
  | case1 input conn fault found =>
      rw [parse_of_fault found] at parsed
      cases parsed
  | case2 input conn found =>
      rw [parse_of_partial found] at parsed
      cases parsed
      exact found
  | case3 input conn frame rest found fault refused =>
      rw [parse_of_refused found refused] at parsed
      cases parsed
  | case4 input conn frame rest found next taken _ ih =>
      rw [parse_of_taken found taken] at parsed
      exact ih parsed

theorem consumeInput_of_parse {parsed after : Conn} {pending : Bool}
    (isOpen : conn.isClosed = false) (fine : (Link.gather conn.link.arrivals).fault = none)
    (reading : conn.gathering.parse conn.gathering.inbox = (.ok (), parsed))
    (flushed : parsed.flush = (.ok pending, after)) : conn.consumeInput = (.ok (), after) := by
  unfold consumeInput readAll
  simp only [gathering] at reading
  rw [if_neg (by simp [isOpen])]
  simp only [fine, reading, flushed]

end Conn

private theorem Frame.stream_eq_nil {frames : List Frame} (fits : ∀ frame ∈ frames, frame.Fits)
    (stopped : Frame.next (Frame.stream frames) = .ok none) : frames = [] := by
  cases frames with
  | nil => rfl
  | cons frame frames =>
      rw [Frame.stream_cons, Frame.next_append frame (fits frame List.mem_cons_self)] at stopped
      cases stopped

/-! ### Links that do not fail -/

def Arrival.isPlain : Arrival → Bool
  | data bytes => !bytes.isEmpty
  | blocked => true
  | failed _ => false

namespace Link

def delays (link : Link) : Nat :=
  link.arrivals.length + link.uptakes.length

theorem gather_plain {arrivals : List Arrival}
    (plain : ∀ arrival ∈ arrivals, arrival.isPlain = true) :
    (gather arrivals).fault = none ∧
      ∀ arrival ∈ (gather arrivals).arrivals, arrival.isPlain = true := by
  fun_induction gather arrivals with
  | case1 => exact ⟨rfl, plain⟩
  | case2 later =>
      exact ⟨rfl, fun arrival member => plain arrival (List.mem_cons_of_mem _ member)⟩
  | case3 fault later => cases plain _ List.mem_cons_self
  | case4 later => cases plain _ List.mem_cons_self
  | case5 bytes later _ further ih =>
      exact ih fun arrival member => plain arrival (List.mem_cons_of_mem _ member)

theorem gather_length (arrivals : List Arrival) :
    arrivals = [] ∨ (gather arrivals).arrivals.length < arrivals.length := by
  fun_induction gather arrivals with
  | case1 => exact .inl rfl
  | case2 later => exact .inr (Nat.lt_succ_self _)
  | case3 fault later => exact .inr (Nat.lt_succ_self _)
  | case4 later => exact .inr (Nat.lt_succ_self _)
  | case5 bytes later _ further ih =>
      right
      rcases ih with none | fewer
      · subst none
        exact Nat.zero_lt_succ _
      · exact Nat.lt_succ_of_lt fewer

private theorem push_length (output : Bytes) (uptakes : List Uptake) :
    (push output uptakes).uptakes.length ≤ uptakes.length ∧
      ((push output uptakes).ending = .refused →
        (push output uptakes).uptakes.length < uptakes.length) := by
  fun_induction push output uptakes with
  | case1 output => exact ⟨Nat.le_refl _, by simp⟩
  | case2 output uptake later isEmpty => exact ⟨Nat.le_refl _, by simp⟩
  | case3 output later isEmpty => exact ⟨Nat.le_succ _, fun _ => Nat.lt_succ_self _⟩
  | case4 output later isEmpty fault => exact ⟨Nat.le_succ _, by simp⟩
  | case5 output later isEmpty => exact ⟨Nat.le_succ _, by simp⟩
  | case6 output later isEmpty count front back parts further ih =>
      exact ⟨Nat.le_succ_of_le ih.1, fun refused => Nat.lt_succ_of_lt (ih.2 refused)⟩

end Link

/-! ### A session in the middle of an answer -/

/-- On a link that does not fail, `left` is what is still to be taken in, and `total` what
will have been put there to be written when nothing is left. -/
structure Midway (due taken : List QueryResult) (total : Bytes) (left : List Frame)
    (conn : Conn) : Prop where
  live : conn.Live
  plain : ∀ arrival ∈ conn.link.arrivals, arrival.isPlain = true
  stand : Stand due taken left conn
  unread : conn.unread = Frame.stream left
  fits : ∀ frame ∈ left, frame.Fits
  sound : Frame.allSound conn.describing conn.builder left = true
  written : conn.link.delivered ++ conn.outbox ++
    stream (left.flatMap (Frame.refusal conn.extended)) = total

/-- Nothing that was put there to be written is given up, and nothing that was taken by
the link is taken back. -/
structure Conn.Grows (before after : Conn) : Prop where
  delivered : before.link.delivered <+: after.link.delivered
  put : before.link.delivered ++ before.outbox <+: after.link.delivered ++ after.outbox

private theorem Conn.Grows.trans {first second third : Conn} (grows : first.Grows second)
    (further : second.Grows third) : first.Grows third where
  delivered := grows.delivered.trans further.delivered
  put := grows.put.trans further.put

namespace Midway

variable {due taken : List QueryResult} {total : Bytes} {left : List Frame} {conn : Conn}

theorem flush (midway : Midway due taken total left conn) :
    ∃ pending after, conn.flush = (.ok pending, after) ∧ Midway due taken total left after ∧
      conn.Grows after ∧ after.link.delays ≤ conn.link.delays ∧
      (pending = true → after.link.delays < conn.link.delays) ∧
      (pending = false → after.outbox = []) := by
  unfold Conn.flush
  split
  · rename_i nothing
    exact ⟨false, conn, rfl, midway, ⟨List.prefix_rfl, List.prefix_rfl⟩, Nat.le_refl _, by simp,
      fun _ => List.isEmpty_iff.mp nothing⟩
  · rw [if_neg (by simp [midway.live.isOpen])]
    obtain ⟨ending, willing⟩ := Link.push_willing midway.live.willing conn.outbox
    have whole := Link.push_whole conn.outbox conn.link.uptakes
    obtain ⟨fewer, fewerStill⟩ := Link.push_length conn.outbox conn.link.uptakes
    have still : Midway due taken total left
        (conn.settlePush (Link.push conn.outbox conn.link.uptakes)) := by
      refine ⟨⟨midway.live.isOpen, willing⟩, midway.plain, midway.stand.congr rfl rfl rfl rfl,
        midway.unread, midway.fits, midway.sound, ?_⟩
      rw [← midway.written]
      simp only [Conn.settlePush]
      rw [List.append_assoc conn.link.delivered, whole]
    have grows : conn.Grows (conn.settlePush (Link.push conn.outbox conn.link.uptakes)) := by
      constructor
      · exact List.prefix_append _ _
      · refine ⟨[], ?_⟩
        simp only [Conn.settlePush]
        rw [List.append_nil, List.append_assoc conn.link.delivered, whole]
    rcases ending with complete | refused
    · refine ⟨false, _, by simp only [complete], still, grows, ?_, by simp, fun _ => ?_⟩
      · exact Nat.add_le_add_left fewer _
      · exact Link.push_complete complete
    · refine ⟨true, _, by simp only [refused], still, grows, ?_, fun _ => ?_, by simp⟩
      · exact Nat.add_le_add_left fewer _
      · exact Nat.add_lt_add_left (fewerStill refused) _

/-- Reading brings what is unread nearer, and changes nothing else. -/
theorem gathering (midway : Midway due taken total left conn) :
    Midway due taken total left conn.gathering where
  live := ⟨midway.live.isOpen, midway.live.willing⟩
  plain := (Link.gather_plain midway.plain).2
  stand := midway.stand.congr rfl rfl rfl rfl
  unread := conn.gathering_unread.trans midway.unread
  fits := midway.fits
  sound := midway.sound
  written := midway.written

/-- What has come in is taken in as far as it makes up whole frames. -/
theorem parse (midway : Midway due taken total left conn) :
    ∃ parsed rest, conn.parse conn.inbox = (.ok (), parsed) ∧
      Midway due taken total rest parsed ∧ conn.Grows parsed ∧ parsed.link = conn.link ∧
      Frame.next parsed.inbox = .ok none ∧ rest <:+ left := by
  have begins : conn.inbox <+: Frame.stream left := ⟨_, midway.unread⟩
  obtain ⟨parsed, reading⟩ := Conn.parse_sound midway.fits begins midway.sound
  obtain ⟨frames, rest, handled, split, consumed, cut, all, same⟩ :=
    Conn.parse_of_prefix midway.fits begins reading
  subst split
  have moved : handled.link = conn.link := Conn.takeAll_link all
  have link : parsed.link = conn.link := by
    rw [same]
    exact moved
  obtain ⟨still, others, stillSound⟩ := Conn.takeAll_sound midway.sound
  rw [all] at others
  cases others
  obtain ⟨extended, outbox⟩ := Conn.takeAll_outbox all
  have ahead : Midway due taken total rest parsed :=
    { live := by
        refine ⟨(Conn.parse_isClosed reading).trans midway.live.isOpen, ?_⟩
        rw [link]
        exact midway.live.willing
      plain := by
        rw [link]
        exact midway.plain
      stand := by
        rw [same]
        exact (midway.stand.takeAll all).congr rfl rfl rfl rfl
      unread := by
        have whole := midway.unread
        rw [Conn.unread, consumed, List.append_assoc, Frame.stream_append] at whole
        rw [Conn.unread, link]
        exact List.append_cancel_left whole
      fits := fun frame member => midway.fits frame (List.mem_append_right _ member)
      sound := by
        rw [same]
        exact stillSound
      written := by
        rw [same]
        change handled.link.delivered ++ handled.outbox ++
          stream (rest.flatMap (Frame.refusal handled.extended)) = total
        rw [moved, extended, outbox, ← midway.written, List.flatMap_append,
          FrontendMessage.stream_append]
        simp only [List.append_assoc] }
  have grows : conn.Grows parsed := by
    have delivered : parsed.link.delivered = conn.link.delivered := congrArg Link.delivered link
    constructor
    · exact delivered ▸ List.prefix_rfl
    · rw [delivered, same]
      change conn.link.delivered ++ conn.outbox <+: conn.link.delivered ++ handled.outbox
      rw [outbox, ← List.append_assoc]
      exact List.prefix_append _ _
  exact ⟨parsed, rest, reading, ahead, grows, link, Conn.parse_stops reading,
    List.suffix_append frames rest⟩

/-- Where all has come in and no whole frame is left, the answer is at its end. -/
theorem left_of_stopped (midway : Midway due taken total left conn)
    (nothing : conn.link.arrivals = []) (stopped : Frame.next conn.inbox = .ok none) :
    left = [] := by
  have everything := midway.unread
  rw [Conn.unread, nothing, Link.carried, List.append_nil] at everything
  rw [everything] at stopped
  exact Frame.stream_eq_nil midway.fits stopped

/-- One call has taken in the whole messages of what arrives before the next pause. -/
structure Stops (due taken : List QueryResult) (total : Bytes) (left rest : List Frame)
    (conn after : Conn) : Prop where
  consumed : conn.consumeInput = (.ok (), after)
  midway : Midway due taken total rest after
  grows : conn.Grows after
  suffix : rest <:+ left
  arrivals : after.link.arrivals = (Link.gather conn.link.arrivals).arrivals
  delays : after.link.delays ≤
    (Link.gather conn.link.arrivals).arrivals.length + conn.link.uptakes.length
  stopped : Frame.next after.inbox = .ok none

theorem exists_stops (midway : Midway due taken total left conn) :
    ∃ after rest, Stops due taken total left rest conn after := by
  obtain ⟨parsed, rest, reading, ahead, grows, link, stopped, suffix⟩ := midway.gathering.parse
  obtain ⟨pending, after, flushed, still, growsFurther, fewer, _⟩ := ahead.flush
  obtain ⟨pushed, _, rfl⟩ := Conn.flush_ok flushed
  have grown : conn.Grows parsed := ⟨grows.delivered, grows.put⟩
  rw [Link.delays, link] at fewer
  exact ⟨_, rest,
    { consumed := Conn.consumeInput_of_parse midway.live.isOpen
        (Link.gather_plain midway.plain).1 reading flushed
      midway := still
      grows := grown.trans growsFurther
      suffix
      arrivals := congrArg Link.arrivals link
      delays := fewer
      stopped }⟩

theorem consumeInput (midway : Midway due taken total left conn) :
    ∃ after rest, conn.consumeInput = (.ok (), after) ∧ Midway due taken total rest after ∧
      conn.Grows after ∧ after.link.delays ≤ conn.link.delays ∧
      (rest = [] ∨ after.link.delays < conn.link.delays) := by
  obtain ⟨after, rest, stops⟩ := midway.exists_stops
  refine ⟨after, rest, stops.consumed, stops.midway, stops.grows, ?_⟩
  have fewer := stops.delays
  rcases Link.gather_length conn.link.arrivals with none | less
  · have nothing : after.link.arrivals = [] := by
      rw [stops.arrivals, none]
      rfl
    rw [none] at fewer
    refine ⟨?_, .inl (stops.midway.left_of_stopped nothing stops.stopped)⟩
    exact Nat.le_trans fewer (Nat.add_le_add_right (Nat.zero_le _) _)
  · have strictly : after.link.delays < conn.link.delays :=
      Nat.lt_of_le_of_lt fewer (Nat.add_lt_add_right less _)
    exact ⟨Nat.le_of_lt strictly, .inr strictly⟩

/-- Results that are taken were due, and are no longer waiting. -/
theorem takeResults (midway : Midway due taken total left conn) :
    Midway due (taken ++ conn.results.toList) total left conn.takeResults.2 := by
  refine ⟨⟨midway.live.isOpen, midway.live.willing⟩, midway.plain, ?_, midway.unread, midway.fits,
    midway.sound, midway.written⟩
  cases midway.stand with
  | answering inFlight unready ends aside results =>
      refine .answering inFlight unready ends aside ?_
      rw [← results]
      simp only [Conn.takeResults, Queue.toList_empty, List.append_nil]
  | resting inFlight describing builder aside results =>
      refine .resting inFlight describing builder aside ?_
      rw [← results]
      simp only [Conn.takeResults, Queue.toList_empty, List.append_nil]

end Midway

end PgClient

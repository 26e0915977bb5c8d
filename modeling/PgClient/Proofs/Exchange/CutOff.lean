/-
A server that answers a command and closes its end.

All that can be read is read at once, and looked at afterwards. So what comes of an answer
with nothing behind it goes by when the client gets to see that there is nothing more. If it
has to wait in between, it has taken in the answer, and the command has come to its result.
If the end is there as soon as the last of the answer, reading fails, nothing of what was read
with it is looked at, and all that the command comes to is that the server has closed the
connection.
-/

import PgClient.Proofs.Conn.Gist
import PgClient.Proofs.Exchange.Conclusion
import PgClient.Proofs.Exchange.View

namespace PgClient

open FrontendMessage (stream)

/-! ### Reading up to the end -/

namespace Link

variable {arrivals : List Arrival}

private theorem gather_cons {bytes : Bytes} (some : bytes ≠ []) (later : List Arrival) :
    gather (.data bytes :: later) =
      { gather later with bytes := bytes ++ (gather later).bytes } := by
  cases bytes with
  | nil => exact absurd rfl some
  | cons byte bytes => rfl

private theorem blocked_mem_of_data {bytes : Bytes} {later : List Arrival}
    (pauses : .blocked ∈ .data bytes :: later) : .blocked ∈ later := by
  rcases List.mem_cons.mp pauses with first | member
  · cases first
  · exact member

/-- Reading does not get past a pause. -/
theorem gather_append (plain : ∀ arrival ∈ arrivals, arrival.isPlain = true)
    (pauses : .blocked ∈ arrivals) (further : List Arrival) :
    gather (arrivals ++ further) =
      { gather arrivals with arrivals := (gather arrivals).arrivals ++ further } := by
  fun_induction gather arrivals with
  | case1 => cases pauses
  | case2 later => rfl
  | case3 fault later => cases plain _ List.mem_cons_self
  | case4 later => cases plain _ List.mem_cons_self
  | case5 bytes later some rest ih =>
      have others := ih (fun arrival member => plain arrival (List.mem_cons_of_mem _ member))
        (blocked_mem_of_data pauses)
      rw [List.cons_append, gather_cons some, others]

/-- What is read without a pause up to the end is lost with it. -/
theorem gather_ended (plain : ∀ arrival ∈ arrivals, arrival.isPlain = true)
    (straight : .blocked ∉ arrivals) (beyond : List Arrival) :
    (gather (arrivals ++ .data [] :: beyond)).fault = some .serverClosed := by
  fun_induction gather arrivals with
  | case1 => rfl
  | case2 later => exact absurd List.mem_cons_self straight
  | case3 fault later => cases plain _ List.mem_cons_self
  | case4 later => cases plain _ List.mem_cons_self
  | case5 bytes later some rest ih =>
      have others := ih (fun arrival member => plain arrival (List.mem_cons_of_mem _ member))
        fun member => straight (List.mem_cons_of_mem _ member)
      rw [List.cons_append, gather_cons some]
      exact others

def awaited : List Arrival → Bytes
  | [] => []
  | .data bytes :: later => if .blocked ∈ later then bytes ++ awaited later else []
  | .blocked :: later => awaited later
  | .failed _ :: later => awaited later

private theorem awaited_of_straight (straight : .blocked ∉ arrivals) : awaited arrivals = [] := by
  induction arrivals with
  | nil => rfl
  | cons arrival later ih =>
      have straightYet : .blocked ∉ later := fun member => straight (List.mem_cons_of_mem _ member)
      cases arrival with
      | data bytes => exact if_neg straightYet
      | blocked => exact absurd List.mem_cons_self straight
      | failed fault => exact ih straightYet

/-- What is read up to a pause comes before the last one. -/
theorem gather_awaited (plain : ∀ arrival ∈ arrivals, arrival.isPlain = true)
    (pauses : .blocked ∈ arrivals) :
    (gather arrivals).bytes ++ awaited (gather arrivals).arrivals = awaited arrivals := by
  fun_induction gather arrivals with
  | case1 => cases pauses
  | case2 later => rfl
  | case3 fault later => cases plain _ List.mem_cons_self
  | case4 later => cases plain _ List.mem_cons_self
  | case5 bytes later some rest ih =>
      have pausesYet := blocked_mem_of_data pauses
      have others := ih (fun arrival member => plain arrival (List.mem_cons_of_mem _ member))
        pausesYet
      rw [awaited, if_pos pausesYet, ← others, List.append_assoc]

end Link

namespace Conn

variable {conn after : Conn}

/-- The session where more arrives behind what it finds. -/
def followedBy (further : List Arrival) (conn : Conn) : Conn :=
  { conn with link := { conn.link with arrivals := conn.link.arrivals ++ further } }

variable (further : List Arrival)

private theorem flush_followedBy :
    (conn.followedBy further).flush = (conn.flush.1, conn.flush.2.followedBy further) := by
  unfold flush
  have outbox : (conn.followedBy further).outbox = conn.outbox := rfl
  have closed : (conn.followedBy further).isClosed = conn.isClosed := rfl
  have uptakes : (conn.followedBy further).link.uptakes = conn.link.uptakes := rfl
  rw [outbox, closed, uptakes]
  by_cases empty : conn.outbox.isEmpty = true
  · simp only [if_pos empty]
  · simp only [if_neg empty]
    by_cases isClosed : conn.isClosed = true
    · simp only [if_pos isClosed]
    · simp only [if_neg isClosed]
      cases (Link.push conn.outbox conn.link.uptakes).ending with
      | complete => rfl
      | refused => rfl
      | nothingTaken => rfl
      | failed fault => rfl

private theorem flush_atOnce (isOpen : conn.isClosed = false)
    (atOnce : (Link.push conn.outbox conn.link.uptakes).ending = .complete) :
    ∃ pushed : Link.Pushed, conn.flush = (.ok false, conn.settlePush pushed) := by
  unfold flush
  by_cases empty : conn.outbox.isEmpty = true
  · rw [if_pos empty]
    refine ⟨⟨.complete, [], conn.outbox, conn.link.uptakes⟩, ?_⟩
    simp [settlePush]
  · rw [if_neg empty, if_neg (Bool.eq_false_iff.mp isOpen)]
    dsimp only
    rw [atOnce]
    exact ⟨_, rfl⟩

private theorem parse_followedBy (input : Bytes) :
    (conn.followedBy further).parse input =
      ((conn.parse input).1, (conn.parse input).2.followedBy further) := by
  have elsewhere : conn.followedBy further =
      conn.rehouse { conn.link with arrivals := conn.link.arrivals ++ further } conn.inbox [] :=
    rfl
  have kept : (conn.parse input).2.link = conn.link := parse_link
  rw [elsewhere, parse_rehouse, followedBy, kept]
  rfl

private theorem gathering_followedBy
    (plain : ∀ arrival ∈ conn.link.arrivals, arrival.isPlain = true)
    (pauses : .blocked ∈ conn.link.arrivals) :
    (conn.followedBy further).gathering = conn.gathering.followedBy further := by
  unfold gathering followedBy
  dsimp only
  rw [Link.gather_append plain pauses]

/-- What follows on a pause makes no difference to what is read before. -/
theorem consumeInput_followedBy (plain : ∀ arrival ∈ conn.link.arrivals, arrival.isPlain = true)
    (pauses : .blocked ∈ conn.link.arrivals) (consumed : conn.consumeInput = (.ok (), after)) :
    (conn.followedBy further).consumeInput = (.ok (), after.followedBy further) := by
  obtain ⟨isOpen, parsed, pending, reading, flushed⟩ := consumeInput_ok consumed
  have stillOpen : (conn.followedBy further).isClosed = false := isOpen
  have fine : (Link.gather (conn.followedBy further).link.arrivals).fault = none := by
    change (Link.gather (conn.link.arrivals ++ further)).fault = none
    rw [Link.gather_append plain pauses]
    exact (Link.gather_plain plain).1
  have readingThen : (conn.followedBy further).gathering.parse
      (conn.followedBy further).gathering.inbox = (.ok (), parsed.followedBy further) := by
    rw [gathering_followedBy further plain pauses, parse_followedBy]
    have inbox : (conn.gathering.followedBy further).inbox = conn.gathering.inbox := rfl
    rw [inbox, reading]
  have flushedThen : (parsed.followedBy further).flush =
      (.ok pending, after.followedBy further) := by
    rw [flush_followedBy, flushed]
  exact consumeInput_of_parse stillOpen fine readingThen flushedThen

/-- Without a pause before the end, reading fails. -/
theorem consumeInput_ended (isOpen : conn.isClosed = false)
    (plain : ∀ arrival ∈ conn.link.arrivals, arrival.isPlain = true)
    (straight : .blocked ∉ conn.link.arrivals) (beyond : List Arrival) :
    ∃ after, (conn.followedBy (.data [] :: beyond)).consumeInput =
      (.error (Error.ofIo .serverClosed), after) ∧ after.isClosed = true := by
  have stillOpen : ¬(conn.followedBy (.data [] :: beyond)).isClosed = true := by
    change ¬conn.isClosed = true
    rw [isOpen]
    nofun
  have ended : (Link.gather (conn.followedBy (.data [] :: beyond)).link.arrivals).fault =
      some .serverClosed := Link.gather_ended plain straight beyond
  unfold consumeInput readAll
  rw [if_neg stillOpen]
  dsimp only
  rw [ended]
  exact ⟨_, rfl, rfl⟩

end Conn

/-! ### What has been read of an answer -/

/-- What was not looked at before, with what is read, are messages and what is not looked at
behind them. -/
theorem Midway.Stops.read {due taken : List QueryResult} {total : Bytes}
    {left rest done : List Frame} {conn after : Conn}
    (stops : Midway.Stops due taken total left rest conn after)
    (midway : Midway due taken total left conn) (parts : done ++ rest = left) :
    conn.inbox ++ (Link.gather conn.link.arrivals).bytes = Frame.stream done ++ after.inbox := by
  have whole := midway.unread
  rw [← parts, Frame.stream_append, ← stops.midway.unread, Conn.unread, Conn.unread,
    stops.arrivals, ← Link.gather_carried] at whole
  simp only [← List.append_assoc] at whole
  exact List.append_cancel_right whole

private theorem Answer.frames_ne_nil (answer : Answer) : answer.frames ≠ [] :=
  List.append_ne_nil_of_right_ne_nil _ nofun

structure Rest (rest later : List Frame) : Prop where
  ends : ∀ frame ∈ rest.getLast?, frame.isReady = true
  aside : ∀ frame ∈ later, frame.isAside = true

private theorem Answer.isRest (answer : Answer) {later : List Frame}
    (aside : ∀ frame ∈ later, frame.isAside = true) : Rest answer.frames later := by
  refine ⟨?_, aside⟩
  intro frame isLast
  rw [Answer.frames, List.getLast?_concat] at isLast
  cases isLast
  exact answer.ends

/-- Behind the first of these messages there is again the rest of the answer. -/
theorem Rest.split {rest later done left : List Frame} (isRest : Rest rest later)
    (parts : done ++ left = rest ++ later) :
    ∃ further beside, left = further ++ beside ∧ Rest further beside ∧
      ∀ behind, Frame.stream rest <+: Frame.stream done ++ behind ↔
        Frame.stream further <+: behind := by
  rcases List.append_eq_append_iff.mp parts with ⟨further, rfl, rfl⟩ | ⟨past, rfl, rfl⟩
  · refine ⟨further, _, rfl, ⟨?_, isRest.aside⟩, ?_⟩
    · intro frame isLast
      apply isRest.ends
      rw [List.getLast?_append, isLast]
      rfl
    · intro behind
      rw [Frame.stream_append, List.prefix_append_right_inj]
  · refine ⟨[], _, rfl, ⟨nofun, ?_⟩, ?_⟩
    · exact fun frame member => isRest.aside frame (List.mem_append_right _ member)
    · intro behind
      rw [Frame.stream_append, List.append_assoc]
      exact iff_of_true (List.prefix_append _ _) List.nil_prefix

def Conn.InTime (frames : List Frame) (conn : Conn) : Prop :=
  .blocked ∈ conn.link.arrivals ∧
    Frame.stream frames <+: conn.inbox ++ Link.awaited conn.link.arrivals

instance (frames : List Frame) (conn : Conn) : Decidable (conn.InTime frames) :=
  inferInstanceAs (Decidable (_ ∧ _))

/-- The client is in the middle of an answer of which this is left. -/
structure Nearing (due taken : List QueryResult) (total : Bytes) (rest later : List Frame)
    (conn : Conn) : Prop where
  midway : Midway due taken total (rest ++ later) conn
  isRest : Rest rest later

namespace Nearing

variable {due taken : List QueryResult} {total : Bytes} {rest later : List Frame} {conn : Conn}

private theorem inFlight_iff (nearing : Nearing due taken total rest later conn) :
    conn.inFlight = true ↔ rest ≠ [] := by
  rw [nearing.midway.stand.inFlight_iff]
  constructor
  · rintro ⟨frame, member, ready⟩ rfl
    rw [Frame.not_isReady_of_isAside (nearing.isRest.aside frame member)] at ready
    cases ready
  · intro some
    refine ⟨rest.getLast some, List.mem_append_left _ (List.getLast_mem some), ?_⟩
    exact nearing.isRest.ends _ (List.getLast?_eq_some_getLast some)

private theorem takeResults (nearing : Nearing due taken total rest later conn) :
    Nearing due (taken ++ conn.results.toList) total rest later conn.takeResults.2 :=
  ⟨nearing.midway.takeResults, nearing.isRest⟩

private theorem flush (nearing : Nearing due taken total rest later conn) :
    ∃ pending after, conn.flush = (.ok pending, after) ∧ conn.Grows after ∧
      Nearing due taken total rest later after ∧ (after.InTime rest ↔ conn.InTime rest) ∧
      after.link.delays ≤ conn.link.delays ∧
      (pending = true → after.link.delays < conn.link.delays) ∧
      (pending = false → after.outbox = []) := by
  obtain ⟨pending, after, flushed, still, grows, bounds⟩ := nearing.midway.flush
  obtain ⟨pushed, _, rfl⟩ := Conn.flush_ok flushed
  exact ⟨pending, _, flushed, grows, ⟨still, nearing.isRest⟩, Iff.rfl, bounds⟩

/-- Where no whole message is left to be looked at, the rest of an answer has not come in. -/
theorem not_prefix_of_stopped (nearing : Nearing due taken total rest later conn)
    (stopped : Frame.next conn.inbox = .ok none) (some : rest ≠ []) :
    ¬Frame.stream rest <+: conn.inbox := by
  rintro ⟨behind, whole⟩
  obtain ⟨frame, others, rfl⟩ := List.exists_cons_of_ne_nil some
  have fits : frame.Fits := nearing.midway.fits frame (List.mem_append_left _ List.mem_cons_self)
  rw [← whole, Frame.stream_cons, List.append_assoc, Frame.next_append frame fits] at stopped
  cases stopped

/-- Each time the client waits it takes in what can be taken in of the answer, and whether
all of the answer is in time can be told from what is left. -/
theorem consumeInput (nearing : Nearing due taken total rest later conn)
    (pauses : .blocked ∈ conn.link.arrivals) :
    ∃ after further beside, conn.consumeInput = (.ok (), after) ∧ conn.Grows after ∧
      Nearing due taken total further beside after ∧ after.link.delays < conn.link.delays ∧
      (conn.InTime rest ↔ further = [] ∨ after.InTime further) := by
  obtain ⟨after, left, stops⟩ := nearing.midway.exists_stops
  obtain ⟨done, parts⟩ := stops.suffix
  obtain ⟨further, beside, rfl, isRest, same⟩ := nearing.isRest.split parts
  have nearer : Nearing due taken total further beside after := ⟨stops.midway, isRest⟩
  have fewer : after.link.delays < conn.link.delays := by
    have less := (Link.gather_length conn.link.arrivals).resolve_left (List.ne_nil_of_mem pauses)
    exact Nat.lt_of_le_of_lt stops.delays (Nat.add_lt_add_right less _)
  -- What comes in time is what is taken in now, and what still comes in time behind it.
  have come : conn.inbox ++ Link.awaited conn.link.arrivals =
      Frame.stream done ++ (after.inbox ++ Link.awaited after.link.arrivals) := by
    rw [← Link.gather_awaited nearing.midway.plain pauses, stops.arrivals, ← List.append_assoc,
      stops.read nearing.midway parts, List.append_assoc]
  refine ⟨after, further, beside, stops.consumed, stops.grows, nearer, fewer, ?_⟩
  unfold Conn.InTime
  rw [come, same]
  constructor
  · rintro ⟨-, begins⟩
    by_cases none : further = []
    · exact .inl none
    · refine .inr ⟨?_, begins⟩
      -- Without another pause no more comes in time, and no whole message is left over.
      refine Decidable.byContradiction fun straight => ?_
      rw [Link.awaited_of_straight straight, List.append_nil] at begins
      exact nearer.not_prefix_of_stopped stops.stopped none begins
  · rintro (rfl | ⟨-, begins⟩)
    · exact ⟨pauses, List.nil_prefix⟩
    · exact ⟨pauses, begins⟩

end Nearing

/-! ### Answers that come in time -/

namespace RoundTrip

variable {due taken : List QueryResult} {sent total : Bytes} {rest later : List Frame}
  {conn : Conn} {turn : Turn QueryResult RoundTrip Conn}

private theorem collect_followedBy (further : List Arrival) (gathering : Gathering) (conn : Conn) :
    collect gathering (conn.followedBy further) =
      (collect gathering conn).through (Conn.followedBy further) := by
  unfold collect
  have taken : Transport.takeResults (conn.followedBy further) =
      ((Transport.takeResults conn).1,
        (Transport.takeResults conn).2.followedBy further) := rfl
  rw [taken]
  rcases Transport.takeResults conn with ⟨results, after⟩
  have busy : Transport.isBusy (after.followedBy further) = Transport.isBusy after := rfl
  dsimp only
  rw [busy]
  by_cases isBusy : Transport.isBusy after = true
  · simp only [if_pos isBusy]
    rfl
  · simp only [if_neg isBusy]
    cases (results.foldl Gathering.add gathering).outcome with
    | none => rfl
    | some result => rfl

private theorem resume_fetching {after : Conn} {further : List Arrival}
    (consumed : Transport.consumeInput (conn.followedBy further) =
      (.ok (), after.followedBy further)) (ready : Ready) (gathering : Gathering) :
    resume ready (.fetching gathering) (conn.followedBy further) =
      (collect gathering after).through (Conn.followedBy further) := by
  unfold resume
  simp only [consumed]
  exact collect_followedBy further gathering after

private theorem Concluded.through (concluded : Concluded due sent total turn)
    (further : List Arrival) :
    Concluded due sent total (turn.through (Conn.followedBy further)) :=
  ⟨concluded.step, concluded.isOpen, concluded.isIdle, concluded.quiet, concluded.sent,
    concluded.written⟩

private theorem Concluded.ended (concluded : Concluded due sent total turn) (wait : Wait) :
    turn.step ≠ .wait wait := by
  rw [concluded.step]
  obtain ⟨result, ended⟩ | ⟨failure, ended⟩ := conclusion_cases due
  · rw [ended]
    nofun
  · rw [ended]
    nofun

/-- Whatever follows on it, an answer that is fetched and comes in time counts. -/
theorem takeUp_inTime (nearing : Nearing due taken total rest later conn)
    (gone : sent <+: conn.link.delivered) (inTime : conn.InTime rest) {again : Nat}
    (enough : conn.link.delays ≤ again) (ready : Nat → Ready) (further : List Arrival) :
    Concluded due sent total
      (takeUp ready again (RoundTrip.fetching (taken.foldl Gathering.add {}))
        (conn.followedBy further)) := by
  induction again generalizing ready taken rest later conn with
  | zero =>
      obtain ⟨none, _⟩ := Nat.add_eq_zero_iff.mp (Nat.le_zero.mp enough)
      exact absurd (List.length_eq_zero_iff.mp none) (List.ne_nil_of_mem inTime.1)
  | succ again ih =>
      obtain ⟨after, onward, beside, consumed, grows, nearer, fewer, same⟩ :=
        nearing.consumeInput inTime.1
      have resumed : Exchange.resume (ready 0)
          (RoundTrip.fetching (taken.foldl Gathering.add {})) (conn.followedBy further) = _ :=
        resume_fetching
          (Conn.consumeInput_followedBy further nearing.midway.plain inTime.1 consumed) (ready 0) _
      have gone := gone.trans grows.delivered
      -- Either the answer has come to its end, or what is left of it is in time as well.
      by_cases all : onward = []
      · have idle : after.inFlight = false :=
          Bool.eq_false_iff.mpr fun flying => nearer.inFlight_iff.mp flying all
        have concluded := (collect_concluded nearer.midway gone idle).through further
        rw [takeUp_of_ended resumed concluded.ended]
        exact concluded
      · have flying := nearer.inFlight_iff.mpr all
        rw [collect_of_busy ((isBusy_takeResults nearer.midway).trans flying)] at resumed
        rw [takeUp_of_wait resumed rfl]
        exact ih nearer.takeResults gone ((same.mp inTime).resolve_left all)
          (Nat.le_of_lt_succ (Nat.lt_of_lt_of_le fewer enough)) _

/-! ### Answers that come too late -/

/-- Some of the answer is still to be taken in, and not all of that is in time. -/
inductive Late : Conn → Prop
  | intro {due taken : List QueryResult} {total : Bytes} {rest later : List Frame} {conn : Conn}
      (nearing : Nearing due taken total rest later conn) (some : rest ≠ [])
      (late : ¬conn.InTime rest) : Late conn

namespace Late

private theorem isBusy (late : Late conn) : conn.takeResults.2.isBusy = true := by
  obtain ⟨nearing, some, _⟩ := late
  exact (isBusy_takeResults nearing.midway).trans (nearing.inFlight_iff.mpr some)

private theorem takeResults (late : Late conn) : Late conn.takeResults.2 := by
  obtain ⟨nearing, some, late⟩ := late
  exact ⟨nearing.takeResults, some, late⟩

private theorem flush (late : Late conn) :
    ∃ pending after, conn.flush = (.ok pending, after) ∧ Late after ∧
      after.link.delays ≤ conn.link.delays ∧
      (pending = true → after.link.delays < conn.link.delays) := by
  obtain ⟨nearing, some, late⟩ := late
  obtain ⟨pending, after, flushed, _, still, same, less, fewer, _⟩ := nearing.flush
  exact ⟨pending, after, flushed, ⟨still, some, mt same.mp late⟩, less, fewer⟩

/-- Waiting does not make up for it. -/
theorem consumeInput (late : Late conn) (pauses : .blocked ∈ conn.link.arrivals)
    (further : List Arrival) :
    ∃ after, Transport.consumeInput (conn.followedBy further) =
        (.ok (), after.followedBy further) ∧
      Late after ∧ after.link.delays < conn.link.delays := by
  obtain ⟨nearing, some, late⟩ := late
  obtain ⟨after, onward, beside, consumed, _, nearer, fewer, same⟩ := nearing.consumeInput pauses
  obtain ⟨more, lateYet⟩ := not_or.mp (mt same.mpr late)
  exact ⟨after, Conn.consumeInput_followedBy further nearing.midway.plain pauses consumed,
    ⟨nearer, more, lateYet⟩, fewer⟩

private theorem consumeInput_ended (late : Late conn) (straight : .blocked ∉ conn.link.arrivals)
    (beyond : List Arrival) :
    ∃ after, Transport.consumeInput (conn.followedBy (.data [] :: beyond)) =
      (.error (Error.ofIo .serverClosed), after) ∧ after.isClosed = true := by
  obtain ⟨nearing, _, _⟩ := late
  exact Conn.consumeInput_ended nearing.midway.live.isOpen nearing.midway.plain straight beyond

end Late

/-- All that a round trip comes to is that the server has closed the connection. -/
structure CutOff (turn : Turn QueryResult RoundTrip Conn) : Prop where
  step : turn.step = .ofError (Error.ofIo .serverClosed)
  lost : turn.transport.isClosed = true

private theorem CutOff.ended (cut : CutOff turn) (wait : Wait) : turn.step ≠ .wait wait := by
  rw [cut.step]
  nofun

inductive Awaits : RoundTrip → Prop
  | sending : Awaits (.sending .waiting)
  | fetching (gathering : Gathering) : Awaits (.fetching gathering)

inductive Misses (beyond : List Arrival) (before : Nat) : Turn QueryResult RoundTrip Conn → Prop
  | cut {turn : Turn QueryResult RoundTrip Conn} (cutOff : CutOff turn) : Misses beyond before turn
  | waits {wait : Wait} {trip : RoundTrip} {conn : Conn} (awaits : Awaits trip) (late : Late conn)
      (fewer : trip.delays conn < before) :
      Misses beyond before ⟨.wait wait, trip, conn.followedBy (.data [] :: beyond)⟩

variable {beyond : List Arrival} {before : Nat}

private theorem Misses.mono {after : Nat} (misses : Misses beyond before turn)
    (enough : before ≤ after) :
    Misses beyond after turn := by
  cases misses with
  | cut cutOff => exact .cut cutOff
  | waits awaits late fewer => exact .waits awaits late (Nat.lt_of_lt_of_le fewer enough)

private theorem collect_misses (late : Late conn) (fewer : conn.link.delays < before)
    (gathering : Gathering) :
    Misses beyond before (collect gathering (conn.followedBy (.data [] :: beyond))) := by
  have waits : collect gathering conn =
      ⟨.wait .readable, .fetching (conn.results.toList.foldl Gathering.add gathering),
        conn.takeResults.2⟩ := if_pos late.isBusy
  rw [collect_followedBy, waits]
  exact .waits (.fetching _) late.takeResults fewer

/-- What sending comes to that goes on by writing. -/
theorem goOnSending_misses {ready : Ready} {stage : Sending} {start : Conn} (late : Late conn)
    (fewer : conn.link.delays < before)
    (resumed : stage.resume ready start =
      Sending.write .waiting (conn.followedBy (.data [] :: beyond))) :
    Misses beyond before (goOnSending ready stage start) := by
  obtain ⟨pending, after, flushed, lateYet, less, strictly⟩ := late.flush
  have written : Transport.flush (conn.followedBy (.data [] :: beyond)) =
      (.ok pending, after.followedBy (.data [] :: beyond)) := by
    change Conn.flush _ = _
    rw [Conn.flush_followedBy, flushed]
  unfold goOnSending
  rw [resumed, Sending.write, written]
  cases pending with
  | true => exact .waits .sending lateYet (Nat.lt_of_le_of_lt (strictly rfl) fewer)
  | false => exact collect_misses lateYet (Nat.lt_of_le_of_lt less fewer) {}

private theorem resume_misses {trip : RoundTrip} (awaits : Awaits trip) (late : Late conn)
    (ready : Ready) :
    Misses beyond (trip.delays conn)
      (resume ready trip (conn.followedBy (.data [] :: beyond))) := by
  cases awaits with
  | sending =>
      change Misses beyond (conn.link.delays + 1) (goOnSending ready .waiting _)
      by_cases readable : ready.readable = true
      · by_cases pauses : .blocked ∈ conn.link.arrivals
        · obtain ⟨after, consumed, lateYet, fewer⟩ := late.consumeInput pauses (.data [] :: beyond)
          refine goOnSending_misses lateYet (Nat.lt_succ_of_lt fewer) ?_
          simp only [Sending.resume, if_pos readable, consumed]
        · obtain ⟨after, failed, closed⟩ := late.consumeInput_ended pauses beyond
          refine .cut ?_
          simp only [goOnSending, Sending.resume, if_pos readable, failed]
          exact ⟨rfl, closed⟩
      · refine goOnSending_misses late (Nat.lt_succ_self _) ?_
        simp only [Sending.resume, if_neg readable]
  | fetching gathering =>
      by_cases pauses : .blocked ∈ conn.link.arrivals
      · obtain ⟨after, consumed, lateYet, fewer⟩ := late.consumeInput pauses (.data [] :: beyond)
        rw [resume_fetching consumed, ← collect_followedBy]
        exact collect_misses lateYet fewer gathering
      · obtain ⟨after, failed, closed⟩ := late.consumeInput_ended pauses beyond
        refine .cut ?_
        simp only [resume, failed]
        exact ⟨rfl, closed⟩

/-- A round trip that is taken up as often as it can have to wait is cut off. -/
theorem takeUp_misses {again : Nat} {ready : Nat → Ready} {trip : RoundTrip} {start : Conn}
    (misses : Misses beyond again (Exchange.resume (ready 0) trip start)) :
    CutOff (takeUp ready again trip start) := by
  induction again generalizing ready trip start with
  | zero =>
      generalize resumed : Exchange.resume (ready 0) trip start = turn at misses
      cases misses with
      | cut cutOff =>
          rw [takeUp_of_ended resumed cutOff.ended]
          exact cutOff
      | waits awaits late fewer => exact absurd fewer (Nat.not_lt_zero _)
  | succ again ih =>
      generalize resumed : Exchange.resume (ready 0) trip start = turn at misses
      cases misses with
      | cut cutOff =>
          rw [takeUp_of_ended resumed cutOff.ended]
          exact cutOff
      | waits awaits late fewer =>
          rw [takeUp_of_wait resumed rfl]
          exact ih ((resume_misses awaits late (ready 1)).mono (Nat.le_of_lt_succ fewer))

/-! ### From a command to its outcome -/

variable {command : Command} {answer : Answer}

private theorem nearing_of_expects (expects : conn.Expects command answer later) :
    Nearing (answer.yields command.describes conn.builder) []
      (conn.sentWith command ++ stream (answer.refusals command.isExtended)) answer.frames later
      (conn.asked command) :=
  ⟨expects.midway, answer.isRest expects.aside⟩

private theorem resume_unsent (expects : conn.Expects command answer later) (fits : command.Fits)
    (ready : Ready) (further : List Arrival) :
    Exchange.resume ready (RoundTrip.unsent command) (conn.followedBy further) =
      goOnSending .nothing .fresh ((conn.asked command).followedBy further) := by
  have sends : Transport.send command (conn.followedBy further) =
      (.ok (), (conn.asked command).followedBy further) :=
    Conn.send_of_fits expects.live.isOpen expects.quiet fits
  change RoundTrip.resume _ _ _ = _
  simp only [resume, sends]

/-- A command that the link takes at once is gone when the client waits for the answer. -/
theorem resume_atOnce (expects : conn.Expects command answer later) (fits : command.Fits)
    (atOnce : (Link.push (conn.asked command).outbox conn.link.uptakes).ending = .complete)
    (ready : Ready) (further : List Arrival) :
    ∃ after taken, Exchange.resume ready (RoundTrip.unsent command) (conn.followedBy further) =
        ⟨.wait .readable, .fetching (taken.foldl Gathering.add {}), after.followedBy further⟩ ∧
      conn.sentWith command <+: after.link.delivered ∧
      (after.InTime answer.frames ↔ conn.InTime answer.frames) ∧
      after.link.delays ≤ conn.link.delays ∧
      Nearing (answer.yields command.describes conn.builder) taken
        (conn.sentWith command ++ stream (answer.refusals command.isExtended)) answer.frames later
        after := by
  obtain ⟨pending, after, flushed, grows, nearing, same, less, _, emptied⟩ :=
    (nearing_of_expects expects).flush
  obtain ⟨pushed, written⟩ := Conn.flush_atOnce expects.midway.live.isOpen atOnce
  have complete : pending = false := by
    rw [written] at flushed
    cases flushed
    rfl
  subst complete
  have put := grows.put
  rw [emptied rfl, List.append_nil] at put
  have whole : conn.sentWith command =
      (conn.asked command).link.delivered ++ (conn.asked command).outbox := List.append_assoc _ _ _
  have writes : Transport.flush ((conn.asked command).followedBy further) =
      (.ok false, after.followedBy further) := by
    change Conn.flush _ = _
    rw [Conn.flush_followedBy, flushed]
  have flying := nearing.inFlight_iff.mpr answer.frames_ne_nil
  have waits : collect ([].foldl Gathering.add {}) after = _ :=
    collect_of_busy ((isBusy_takeResults nearing.midway).trans flying)
  refine ⟨after.takeResults.2, [] ++ after.results.toList, ?_, whole ▸ put, same, less,
    nearing.takeResults⟩
  rw [resume_unsent expects fits]
  simp only [goOnSending, Sending.resume, Sending.write, writes]
  rw [collect_followedBy]
  exact congrArg (Turn.through _) waits

/-- A server answers a command and then closes its end. If not all of the answer has come by
the last time that the client has to wait, the answer is lost, however the command goes out
and whatever the round trip is taken up with. If all of it has, the command comes to the
results of the answer; to wait for the command itself might take the client past that. -/
theorem takeUp_cutOff (expects : conn.Expects command answer later) (fits : command.Fits)
    (beyond : List Arrival) (ready : Nat → Ready) {again : Nat}
    (enough : conn.link.delays < again) :
    let turn : Turn QueryResult RoundTrip Conn :=
      takeUp ready again (RoundTrip.unsent command) (conn.followedBy (.data [] :: beyond))
    (¬conn.InTime answer.frames → CutOff turn) ∧
      (conn.InTime answer.frames →
        (Link.push (conn.asked command).outbox conn.link.uptakes).ending = .complete →
        Concluded (answer.yields command.describes conn.builder) (conn.sentWith command)
          (conn.sentWith command ++ stream (answer.refusals command.isExtended)) turn) := by
  intro turn
  constructor
  · intro late
    apply takeUp_misses
    rw [resume_unsent expects fits]
    exact goOnSending_misses ⟨nearing_of_expects expects, answer.frames_ne_nil, late⟩ enough rfl
  · intro inTime atOnce
    obtain ⟨fewer, rfl⟩ := Nat.exists_eq_add_one_of_ne_zero (Nat.ne_zero_of_lt enough)
    obtain ⟨after, taken, resumed, gone, same, less, nearing⟩ :=
      resume_atOnce expects fits atOnce (ready 0) (.data [] :: beyond)
    have onward : turn = _ := takeUp_of_wait resumed rfl fewer
    rw [onward]
    exact takeUp_inTime nearing gone (same.mpr inTime)
      (Nat.le_trans less (Nat.le_of_lt_succ enough)) _ _

/-- The client has to wait in the middle of the answer, and then behind it, or not again. -/
theorem takeUp_cutOff_inParts :
    let bytes := Frame.stream History.twoCommands.frames
    let begun : List Arrival := [.data (bytes.take 20), .blocked, .data (bytes.drop 20)]
    let waiting : Conn := { link := { arrivals := begun ++ [.blocked] } }
    let hasty : Conn := { link := { arrivals := begun, uptakes := [.accepted 3, .refused] } }
    let command : Command := .query "a; b"
    let due := History.twoCommands.yields command.describes none
    let sent := stream command.messages
    let refused := stream (History.twoCommands.refusals command.isExtended)
    let turn (conn : Conn) : Turn QueryResult RoundTrip Conn :=
      takeUp (fun _ => .nothing) 8 (RoundTrip.unsent command) (conn.followedBy [.data []])
    (waiting.InTime History.twoCommands.frames ∧
      Concluded due sent (sent ++ refused) (turn waiting)) ∧
      ¬hasty.InTime History.twoCommands.frames ∧ CutOff (turn hasty) := by
  intro bytes begun waiting hasty command due sent refused turn
  have sound : Frame.allSound command.describes none (History.twoCommands.frames ++ []) = true := by
    decide +kernel
  have waitingExpects : waiting.Expects command History.twoCommands [] :=
    ⟨⟨rfl, nofun⟩, ⟨rfl, rfl⟩, by decide +kernel, by decide +kernel, nofun, nofun, sound⟩
  have hastyExpects : hasty.Expects command History.twoCommands [] :=
    ⟨⟨rfl, by decide⟩, ⟨rfl, rfl⟩, by decide +kernel, by decide +kernel, nofun, nofun, sound⟩
  have fits : command.Fits := ⟨by decide, by decide +kernel⟩
  have inTime : waiting.InTime History.twoCommands.frames := by decide +kernel
  have late : ¬hasty.InTime History.twoCommands.frames := by decide +kernel
  have enough : waiting.link.delays < 8 := by decide
  have enoughInHaste : hasty.link.delays < 8 := by decide
  exact ⟨⟨inTime, (takeUp_cutOff waitingExpects fits [] _ enough).2 inTime rfl⟩, late,
    (takeUp_cutOff hastyExpects fits [] _ enoughInHaste).1 late⟩

/-- The same bytes arrive in the same order, and then the server closes its end. If the
client gets to see this together with the answer, it is told nothing of its result. -/
theorem takeUp_loses_answer :
    let bytes := Frame.stream History.twoCommands.frames
    let step (arrivals : List Arrival) : Step QueryResult :=
      (takeUp (fun _ => .nothing) 8 (RoundTrip.unsent (.query "a; b"))
        ({ link := { arrivals } } : Conn)).step
    step [.data bytes, .blocked, .data []] = .done { status := .commandOk, tag := some "B" } ∧
      step [.data bytes, .data []] = .ofError (Error.ofIo .serverClosed) := by
  decide +kernel

end RoundTrip

end PgClient

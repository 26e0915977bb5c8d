/-
Copying, which is always refused.

A server may ask for rows to be copied, or send copied rows, in the middle of any answer.
What it sends is passed over, and what it asks for is refused at once. Two sessions are held
side by side: they are at the same point of the same command, and what the one reads is what
the other reads without the messages about copying. The one has refused each request that it
has come to, and otherwise they end as one.
-/

import PgClient.Proofs.Conn.Arriving
import PgClient.Proofs.Conn.Course
import PgClient.Proofs.Conn.Ledger
import PgClient.Proofs.Conn.Undisturbed

namespace PgClient

open FrontendMessage (stream)

/-! ### Any input -/

namespace Frame

def Frameless (bytes : Bytes) : Prop :=
  ∀ frame rest, next bytes ≠ .ok (some (frame, rest))

/-- Some input as the whole frames at its front, and what follows the last of them. -/
structure Division (input : Bytes) where
  frames : List Frame
  tail : Bytes
  fits : ∀ frame ∈ frames, frame.Fits
  frameless : Frameless tail
  whole : input = stream frames ++ tail

def Division.cons {input rest : Bytes} {frame : Frame}
    (found : next input = .ok (some (frame, rest))) (behind : Division rest) : Division input where
  frames := frame :: behind.frames
  tail := behind.tail
  fits := by
    intro other member
    rcases List.mem_cons.mp member with rfl | later
    · exact (next_eq_some found).2
    · exact behind.fits other later
  frameless := behind.frameless
  whole := by
    rw [(next_eq_some found).1, stream_cons, List.append_assoc, ← behind.whole]

def divide (input : Bytes) : Division input :=
  match found : next input with
  | .error fault => ⟨[], input, List.forall_mem_nil _, by simp [Frameless, found], rfl⟩
  | .ok none => ⟨[], input, List.forall_mem_nil _, by simp [Frameless, found], rfl⟩
  | .ok (some (frame, rest)) =>
      have := next_length found
      (divide rest).cons found
termination_by input.length
decreasing_by
  simp only [headLength] at this
  omega

end Frame

/-! ### Messages about copying -/

def BackendMessage.isCopy : BackendMessage → Bool
  | copyInResponse _ _ | copyBothResponse _ _ | copyOutResponse _ _ => true
  | copyData _ | copyDone => true
  | _ => false

namespace Frame

def isCopy (frame : Frame) : Bool :=
  match BackendMessage.decode frame.first frame.body with
  | .error _ => false
  | .ok message => message.isCopy

def withoutCopy (frames : List Frame) : List Frame :=
  frames.filter fun frame => !frame.isCopy

variable {frame : Frame} {extended : Bool}

private theorem refusal_of_not_isCopy (other : frame.isCopy = false) :
    frame.refusal extended = [] := by
  unfold isCopy at other
  unfold refusal
  cases read : BackendMessage.decode frame.first frame.body with
  | error fault => rfl
  | ok message =>
      rw [read] at other
      cases message with
      | copyInResponse format body => cases other
      | copyBothResponse format body => cases other
      | _ => rfl

end Frame

def Event.isRefusal : Event → Bool
  | copyRefused => true
  | _ => false

namespace Conn

/-- The session apart from where it stands on the link, what it has to write, and its having
told of refusals. -/
def unrefused (conn : Conn) : Conn :=
  { conn with
    link := {}
    inbox := []
    outbox := []
    journal := conn.journal.filter fun event => !event.isRefusal }

variable {conn after heard plain : Conn}

/-- What is about copying changes nothing else. -/
theorem handle_copy {message : BackendMessage} (copy : message.isCopy = true) (conn : Conn) :
    ∃ after, conn.handle message = .ok after ∧ after.unrefused = conn.unrefused := by
  cases message with
  | copyInResponse format body => exact ⟨_, rfl, rfl⟩
  | copyBothResponse format body => exact ⟨_, rfl, rfl⟩
  | copyOutResponse format body => exact ⟨_, rfl, rfl⟩
  | copyData data => exact ⟨_, rfl, rfl⟩
  | copyDone => exact ⟨_, rfl, rfl⟩
  | _ => cases copy

/-- What is not about copying depends on nothing that refusals change. -/
theorem handle_unrefused {message : BackendMessage} (other : message.isCopy = false)
    (conn : Conn) : conn.unrefused.handle message = (conn.handle message).map unrefused := by
  cases message with
  | rowDescription count body =>
      simp only [handle, receiveFields]
      cases Field.readMany count.toNat body with
      | error fault => rfl
      | ok fields =>
          change (if conn.describing then _ else _) = _
          dsimp only
          split
          · rfl
          · rfl
  | dataRow columns body =>
      simp only [handle, receiveRow]
      dsimp only [unrefused]
      cases conn.builder with
      | none => rfl
      | some builder =>
          dsimp only
          cases builder.push columns body with
          | error fault => rfl
          | ok builder => rfl
  | errorResponse body =>
      simp only [handle, receiveError]
      cases Diagnostic.parse body with
      | error fault => rfl
      | ok report => rfl
  | noticeResponse body =>
      simp only [handle, receiveNotice]
      cases Diagnostic.parse body with
      | error fault => rfl
      | ok report => rfl
  | noData =>
      simp only [handle]
      change (if conn.describing then _ else _) = _
      split
      · rfl
      · rfl
  | copyInResponse format body => cases other
  | copyBothResponse format body => cases other
  | copyOutResponse format body => cases other
  | copyData data => cases other
  | copyDone => cases other
  | _ => rfl

private theorem handleFrame_copy {frame : Frame} (copy : frame.isCopy = true) (conn : Conn) :
    ∃ after, conn.handleFrame frame = .ok after ∧ after.unrefused = conn.unrefused := by
  unfold Frame.isCopy at copy
  unfold handleFrame
  cases read : BackendMessage.decode frame.first frame.body with
  | error fault =>
      rw [read] at copy
      cases copy
  | ok message =>
      rw [read] at copy
      exact handle_copy copy conn

private theorem handleFrame_unrefused {frame : Frame} (other : frame.isCopy = false) (conn : Conn) :
    conn.unrefused.handleFrame frame = (conn.handleFrame frame).map unrefused := by
  unfold Frame.isCopy at other
  unfold handleFrame
  cases read : BackendMessage.decode frame.first frame.body with
  | error fault => rfl
  | ok message =>
      rw [read] at other
      exact handle_unrefused other conn

/-- What is not about copying is taken in by both of two sessions, or by neither. -/
theorem handleFrame_alike {frame : Frame} (other : frame.isCopy = false)
    (same : heard.unrefused = plain.unrefused) :
    (∃ fault, heard.handleFrame frame = .error fault ∧ plain.handleFrame frame = .error fault) ∨
      ∃ next nextToo, heard.handleFrame frame = .ok next ∧
        plain.handleFrame frame = .ok nextToo ∧ next.unrefused = nextToo.unrefused := by
  have alike : (heard.handleFrame frame).map unrefused =
      (plain.handleFrame frame).map unrefused := by
    rw [← handleFrame_unrefused other, same, handleFrame_unrefused other]
  cases handled : heard.handleFrame frame with
  | error fault =>
      cases handledToo : plain.handleFrame frame with
      | error otherFault =>
          rw [handled, handledToo] at alike
          cases alike
          exact .inl ⟨fault, rfl, rfl⟩
      | ok next =>
          rw [handled, handledToo] at alike
          cases alike
  | ok next =>
      cases handledToo : plain.handleFrame frame with
      | error fault =>
          rw [handled, handledToo] at alike
          cases alike
      | ok nextToo =>
          rw [handled, handledToo] at alike
          injection alike with onward
          exact .inr ⟨next, nextToo, rfl, rfl, onward⟩

/-! ### A whole answer -/

def admitted : List Frame → Conn → List Frame
  | [], _ => []
  | frame :: frames, conn =>
      match conn.handleFrame frame with
      | .error _ => []
      | .ok next => frame :: next.admitted frames

private theorem admitted_of_taken {frame : Frame} {frames : List Frame}
    (taken : conn.handleFrame frame = .ok after) :
    conn.admitted (frame :: frames) = frame :: after.admitted frames := by
  rw [admitted, taken]

private theorem admitted_of_refused {frame : Frame} {frames : List Frame} {fault : ProtocolFault}
    (refused : conn.handleFrame frame = .error fault) : conn.admitted (frame :: frames) = [] := by
  rw [admitted, refused]

private theorem admitted_subset (frames : List Frame) (conn : Conn) :
    ∀ frame ∈ conn.admitted frames, frame ∈ frames := by
  induction frames generalizing conn with
  | nil => exact fun frame member => member
  | cons first others ih =>
      cases handled : conn.handleFrame first with
      | error fault =>
          rw [admitted_of_refused handled]
          exact fun frame member => absurd member List.not_mem_nil
      | ok next =>
          rw [admitted_of_taken handled]
          intro frame member
          rcases List.mem_cons.mp member with rfl | later
          · exact List.mem_cons_self
          · exact List.mem_cons_of_mem _ (ih next frame later)

private theorem parse_frameless {tail : Bytes} (frameless : Frame.Frameless tail) (conn : Conn) :
    (∃ fault, Frame.next tail = .error fault ∧
      conn.parse tail = (.error fault, { conn with inbox := tail, broken := true })) ∨
    Frame.next tail = .ok none ∧ conn.parse tail = (.ok (), { conn with inbox := tail }) := by
  cases found : Frame.next tail with
  | error fault => exact .inl ⟨fault, rfl, parse_of_fault found⟩
  | ok front =>
      cases front with
      | none => exact .inr ⟨rfl, parse_of_partial found⟩
      | some read => exact absurd found (frameless read.1 read.2)

/-- Answers are put there for the frames that are taken in, and where input is taken in
without a fault, that is all of them. -/
theorem refusals_stream {frames : List Frame} {tail : Bytes} (frameless : Frame.Frameless tail)
    (fits : ∀ frame ∈ frames, frame.Fits) (conn : Conn) :
    conn.refusals (Frame.stream frames ++ tail) =
        (conn.admitted frames).flatMap (Frame.refusal conn.extended) ∧
      ((conn.parse (Frame.stream frames ++ tail)).1 = .ok () → conn.admitted frames = frames) := by
  induction frames generalizing conn with
  | nil =>
      refine ⟨?_, fun _ => rfl⟩
      rcases parse_frameless frameless conn with ⟨fault, found, _⟩ | ⟨found, _⟩
      · exact refusals_of_fault found
      · exact refusals_of_partial found
  | cons frame frames ih =>
      have found := Frame.next_append frame (fits frame List.mem_cons_self)
        (Frame.stream frames ++ tail)
      rw [Frame.stream_cons, List.append_assoc, refusals_of_frame found]
      cases handled : conn.handleFrame frame with
      | error fault =>
          rw [admitted_of_refused handled, parse_of_refused found handled]
          refine ⟨rfl, ?_⟩
          intro impossible
          cases impossible
      | ok next =>
          obtain ⟨refusals, all⟩ := ih (fun other member =>
            fits other (List.mem_cons_of_mem _ member)) next
          have extended : next.extended = conn.extended := (handleFrame_effect handled).extended
          rw [admitted_of_taken handled, parse_of_taken found handled]
          constructor
          · dsimp only
            rw [refusals, extended, List.flatMap_cons]
          · intro fine
            rw [all fine]

/-- What is not about copying is not answered. -/
theorem refusals_withoutCopy (frames : List Frame) (extended : Bool) (conn : Conn) :
    (conn.admitted (Frame.withoutCopy frames)).flatMap (Frame.refusal extended) = [] := by
  apply List.flatMap_eq_nil_iff.mpr
  intro frame member
  obtain ⟨_, other⟩ := List.mem_filter.mp (admitted_subset _ _ frame member)
  exact Frame.refusal_of_not_isCopy (by simpa using other)

/-- Input ends the same for two sessions if the one has messages about copying in it that the
other has not. What is left in the end begins no frame that was taken away. -/
theorem parse_withoutCopy {frames : List Frame} {tail : Bytes} (frameless : Frame.Frameless tail)
    (fits : ∀ frame ∈ frames, frame.Fits) (same : heard.unrefused = plain.unrefused) :
    let noisy := heard.parse (Frame.stream frames ++ tail)
    let quiet := plain.parse (Frame.stream (Frame.withoutCopy frames) ++ tail)
    noisy.1 = quiet.1 ∧ noisy.2.unrefused = quiet.2.unrefused ∧
      (noisy.1 = .ok () → noisy.2.inbox = tail ∧ quiet.2.inbox = tail) := by
  intro noisy quiet
  induction frames generalizing heard plain with
  | nil =>
      have atEnd := parse_frameless frameless heard
      have atEndToo := parse_frameless frameless plain
      simp only [noisy, quiet, Frame.withoutCopy, List.filter_nil, Frame.stream, List.flatMap_nil,
        List.nil_append]
      rcases atEnd with ⟨fault, found, parsed⟩ | ⟨found, parsed⟩
      · rw [parsed, parse_of_fault found]
        refine ⟨rfl, congrArg (fun conn : Conn => { conn with broken := true }) same, ?_⟩
        intro impossible
        cases impossible
      · rw [parsed, parse_of_partial found]
        exact ⟨rfl, same, fun _ => ⟨rfl, rfl⟩⟩
  | cons frame frames ih =>
      have fitsLater : ∀ other ∈ frames, other.Fits := fun other member =>
        fits other (List.mem_cons_of_mem _ member)
      have found := Frame.next_append frame (fits frame List.mem_cons_self)
        (Frame.stream frames ++ tail)
      simp only [noisy, quiet]
      rw [Frame.stream_cons, List.append_assoc]
      cases copy : frame.isCopy with
      | true =>
          -- Only the one session sees it.
          obtain ⟨next, handled, unchanged⟩ := handleFrame_copy copy heard
          have dropped : Frame.withoutCopy (frame :: frames) = Frame.withoutCopy frames :=
            List.filter_cons_of_neg (by simp [copy])
          rw [dropped, parse_of_taken found handled]
          exact ih fitsLater (unchanged.trans same)
      | false =>
          have kept : Frame.withoutCopy (frame :: frames) = frame :: Frame.withoutCopy frames :=
            List.filter_cons_of_pos (by simp [copy])
          have foundToo := Frame.next_append frame (fits frame List.mem_cons_self)
            (Frame.stream (Frame.withoutCopy frames) ++ tail)
          rw [kept, Frame.stream_cons, List.append_assoc]
          rcases handleFrame_alike copy same with ⟨fault, handled, handledToo⟩ |
            ⟨next, nextToo, handled, handledToo, onward⟩
          · rw [parse_of_refused found handled, parse_of_refused foundToo handledToo]
            refine ⟨rfl, congrArg (fun conn : Conn => { conn with broken := true }) same, ?_⟩
            intro impossible
            cases impossible
          · rw [parse_of_taken found handled, parse_of_taken foundToo handledToo]
            exact ih fitsLater onward

/-! ### While the command is under way -/

theorem parse_extended (input : Bytes) (conn : Conn) :
    (conn.parse input).2.extended = conn.extended := by
  induction input, conn using parse.induct with
  | case1 input conn fault found => rw [parse_of_fault found]
  | case2 input conn found => rw [parse_of_partial found]
  | case3 input conn frame rest found fault refused => rw [parse_of_refused found refused]
  | case4 input conn frame rest found next taken _ ih =>
      rw [parse_of_taken found taken, ih, (handleFrame_effect taken).extended]

private theorem flush_extended (conn : Conn) : conn.flush.2.extended = conn.extended := by
  unfold flush
  split
  · rfl
  · split
    · rfl
    · dsimp only
      split
      · rfl
      · rfl
      · rfl
      · rfl

/-- The way a command was sent is remembered until another is. -/
theorem perform_extended {deed : Deed} (unsent : ∀ command, deed ≠ .send command) (conn : Conn) :
    (conn.perform deed).extended = conn.extended := by
  cases deed with
  | send command => exact absurd rfl (unsent command)
  | flush => exact flush_extended conn
  | consume =>
      refine @consumeInput_cases (fun after => after.extended = conn.extended) conn
        (fun _ => rfl) (fun _ _ _ => rfl) ?_ ?_
      · intro isOpen fine fault parsed reading
        have kept := parse_extended conn.gathering.inbox conn.gathering
        rw [reading] at kept
        exact kept
      · intro isOpen fine parsed reading
        have kept := parse_extended conn.gathering.inbox conn.gathering
        rw [reading] at kept
        exact (flush_extended parsed).trans kept
  | takeResult =>
      rcases takeResult_cases conn with none | ⟨result, results, taken, _⟩
      · rw [perform, none]
      · rw [perform, taken]
  | takeResults => rfl
  | finish =>
      change conn.finish.extended = conn.extended
      unfold finish
      split
      · rfl
      · rfl

private theorem course_extended {deeds : List Deed}
    (unsent : ∀ deed ∈ deeds, ∀ command, deed ≠ .send command) (conn : Conn) :
    (conn.course deeds).extended = conn.extended := by
  induction deeds generalizing conn with
  | nil => rfl
  | cons deed deeds ih =>
      rw [course, ih fun later member => unsent later (List.mem_cons_of_mem _ member)]
      exact perform_extended (unsent deed List.mem_cons_self) conn

def written (conn : Conn) : Bytes :=
  conn.link.delivered ++ conn.outbox

variable (conn) in
/-- Wherever the input is cut, the session does what it does about all of it, and puts there to
be written what it has to answer. -/
theorem Served.answers {bytes tail : Bytes} {frames : List Frame} {uptakes : List Uptake}
    {pieces : List (List Bytes)} (served : Served bytes uptakes pieces)
    (isOpen : conn.isClosed = false) (frameless : Frame.Frameless tail)
    (fits : ∀ frame ∈ frames, frame.Fits)
    (whole : conn.inbox ++ bytes = Frame.stream frames ++ tail) :
    let run := (conn.offering uptakes).consumeEach pieces
    let reference := conn.parse (Frame.stream frames ++ tail)
    run.1 = reference.1.mapError Error.ofProtocol ∧ run.2.unrefused = reference.2.unrefused ∧
      run.2.written = conn.written ++
        stream ((conn.admitted frames).flatMap (Frame.refusal conn.extended)) ∧
      (run.1 = .ok () → conn.admitted frames = frames ∧ reference.1 = .ok () ∧
        run.2.inbox = reference.2.inbox) := by
  intro run reference
  obtain ⟨refusals, all⟩ := refusals_stream frameless fits conn
  obtain ⟨moved, grown⟩ := parse_outbox (Frame.stream frames ++ tail) conn
  have follows : Follows (reference.1, reference.2.gist) run := by
    have whollyFollows := served.follows isOpen
    rw [digest, whole, parse_gist] at whollyFollows
    exact whollyFollows
  have written : reference.2.written = conn.written ++
      stream ((conn.admitted frames).flatMap (Frame.refusal conn.extended)) := by
    change reference.2.link.delivered ++ reference.2.outbox = _
    rw [moved, grown, refusals, ← List.append_assoc]
    rfl
  rw [← written]
  clear_value run
  generalize reference.1 = outcome at follows all
  cases follows with
  | ok same live =>
      have unrefused := congrArg Conn.unrefused same
      have outbox := congrArg Conn.outbox same
      have inbox := congrArg Conn.inbox same
      exact ⟨rfl, unrefused, outbox, fun _ => ⟨all rfl, rfl, inbox⟩⟩
  | error same =>
      have unrefused := congrArg Conn.unrefused same
      have outbox := congrArg Conn.outbox same
      refine ⟨rfl, unrefused, outbox, ?_⟩
      intro impossible
      cases impossible

/-- A command is under way, and its answer is heard, in any pieces. Whatever the answer is,
each request to copy that is taken in is refused once, in the place where it stands: with the
failure of the copying, and behind it the message that ends a command, if and only if the
command was sent with one. Nothing else is put there to be written. The session ends as it does
where it hears the answer without the messages about copying, with the same results. -/
theorem answer_withoutCopy {command : Command} {start asked : Conn} {deeds : List Deed}
    {bytes inbox others : Bytes} {uptakes otherUptakes : List Uptake}
    {pieces otherPieces : List (List Bytes)} (sent : start.send command = (.ok (), asked))
    (unsent : ∀ deed ∈ deeds, ∀ other, deed ≠ .send other)
    (isOpen : (asked.course deeds).isClosed = false)
    (without : inbox ++ others =
      Frame.stream
          (Frame.withoutCopy (Frame.divide ((asked.course deeds).inbox ++ bytes)).frames) ++
        (Frame.divide ((asked.course deeds).inbox ++ bytes)).tail)
    (served : Served bytes uptakes pieces) (servedPlain : Served others otherUptakes otherPieces) :
    let conn := asked.course deeds
    let answer := Frame.divide (conn.inbox ++ bytes)
    let heard := (conn.offering uptakes).consumeEach pieces
    let plain := (({ conn with inbox } : Conn).offering otherUptakes).consumeEach otherPieces
    heard.2.written = conn.written ++
        stream ((conn.admitted answer.frames).flatMap (Frame.refusal command.isExtended)) ∧
      plain.2.written = conn.written ∧ heard.1 = plain.1 ∧
      heard.2.unrefused = plain.2.unrefused ∧
      (heard.1 = .ok () → conn.admitted answer.frames = answer.frames ∧
        heard.2.inbox = answer.tail ∧ plain.2.inbox = answer.tail) := by
  intro conn answer heard plain
  obtain ⟨_, _, outbox, journal, dispatched⟩ := send_ok sent
  have extended : conn.extended = command.isExtended := by
    rw [course_extended unsent asked, dispatched]
    rfl
  have fitsPlain : ∀ frame ∈ Frame.withoutCopy answer.frames, frame.Fits := fun frame member =>
    answer.fits frame (List.mem_filter.mp member).1
  obtain ⟨outcome, unrefused, written, settled⟩ :=
    served.answers conn isOpen answer.frameless answer.fits answer.whole
  obtain ⟨outcomePlain, unrefusedPlain, writtenPlain, settledPlain⟩ :=
    servedPlain.answers { conn with inbox } isOpen answer.frameless fitsPlain without
  have start : conn.unrefused = ({ conn with inbox } : Conn).unrefused := rfl
  obtain ⟨agreed, alike, left⟩ := parse_withoutCopy answer.frameless answer.fits start
  rw [refusals_withoutCopy] at writtenPlain
  have same : heard.1 = plain.1 := outcome.trans ((congrArg _ agreed).trans outcomePlain.symm)
  refine ⟨?_, ?_, same, ?_, ?_⟩
  · rw [← extended]
    exact written
  · exact writtenPlain.trans (List.append_nil _)
  · exact unrefused.trans (alike.trans unrefusedPlain.symm)
  · intro fine
    obtain ⟨all, understood, inboxHeard⟩ := settled fine
    obtain ⟨_, _, inboxPlain⟩ := settledPlain (same.symm.trans fine)
    obtain ⟨endHeard, endPlain⟩ := left understood
    exact ⟨all, inboxHeard.trans endHeard, inboxPlain.trans endPlain⟩

/-- Both kinds of request stand in an answer of one row, the second of them behind the row. The
first is cut in two, and of what it is answered only some bytes are taken at once. -/
theorem answer_withoutCopy_twoRequests :
    let command := Command.queryWith "values (1)" []
    let asked := (({} : Conn).send command).2
    let columns := (BackendMessage.rowDescription 0 []).frame
    let row := (BackendMessage.dataRow 0 []).frame
    let done := [(BackendMessage.commandComplete "SELECT 1").frame,
      (BackendMessage.readyForQuery 73).frame]
    let bytes := Frame.stream ([columns, (BackendMessage.copyInResponse 0 []).frame, row,
      (BackendMessage.copyBothResponse 0 []).frame, (BackendMessage.copyData [1]).frame] ++ done)
    let heard := (asked.offering [.refused, .accepted 3]).consumeEach
      [[bytes.take 9, [bytes.getD 9 0]], [bytes.drop 10]]
    let others := Frame.stream ([columns, row] ++ done)
    let plain := (asked.offering []).consumeEach [[others]]
    asked.inbox = [] ∧ heard.2.written = asked.written ++
        stream [copyRefusal, .sync, copyRefusal, .sync] ∧ plain.2.written = asked.written ∧
      heard.1 = plain.1 ∧ heard.2.unrefused = plain.2.unrefused ∧ plain.1.isOk = true ∧
      heard.2.results.toList.map QueryResult.tag = [some "SELECT 1"] := by
  intro command asked columns row done bytes heard others plain
  have sent : ({} : Conn).send command = (.ok (), asked) := rfl
  have refusals : (asked.admitted (Frame.divide bytes).frames).flatMap
      (Frame.refusal command.isExtended) = [copyRefusal, .sync, copyRefusal, .sync] := by
    decide +kernel
  have unsent : ∀ deed ∈ ([] : List Deed), ∀ other, deed ≠ .send other := List.forall_mem_nil _
  have without : [] ++ others = Frame.stream (Frame.withoutCopy (Frame.divide bytes).frames) ++
      (Frame.divide bytes).tail := by decide +kernel
  have served : Served bytes [.refused, .accepted 3]
      [[bytes.take 9, [bytes.getD 9 0]], [bytes.drop 10]] :=
    ⟨by decide, by decide +kernel, by decide, by decide +kernel⟩
  have servedPlain : Served others [] [[others]] := ⟨by decide, by decide +kernel, nofun, rfl⟩
  obtain ⟨written, unwritten, same, unrefused, _⟩ :=
    answer_withoutCopy sent unsent rfl without served servedPlain
  refine ⟨rfl, ?_, unwritten, same, unrefused, by decide +kernel, by decide +kernel⟩
  rw [← refusals]
  exact written

end Conn

end PgClient

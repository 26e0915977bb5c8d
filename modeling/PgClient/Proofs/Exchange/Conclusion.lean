/-
How a round trip ends.

A round trip over a link that does not fail comes to its end, and how it ends is told by
the results of the answer and by nothing else: not by where the answer was cut, how much
was written at a time, or which readiness the round trip was taken up with. Each time it
has to wait, less can still be put off than before.
-/

import PgClient.Proofs.Conn.Answering
import PgClient.Proofs.Exchange.Gathered

namespace PgClient

open FrontendMessage (stream fitting)

/-! ### Taking up -/

def takeUp {α γ τ : Type} [Exchange γ α] [Transport τ] (ready : Nat → Ready) (again : Nat)
    (exchange : γ) (transport : τ) : Turn α γ τ :=
  let turn := Exchange.resume (ready 0) exchange transport
  match again, turn.step with
  | again + 1, .wait _ => takeUp (fun count => ready (count + 1)) again turn.exchange turn.transport
  | _, _ => turn

section

variable {α γ τ : Type} [Exchange γ α] [Transport τ] {ready : Nat → Ready} {exchange : γ}
  {transport : τ} {turn : Turn α γ τ}

theorem takeUp_of_wait {wait : Wait}
    (resumed : Exchange.resume (ready 0) exchange transport = turn)
    (waiting : turn.step = .wait wait)
    (again : Nat) :
    takeUp ready (again + 1) exchange transport =
      takeUp (fun count => ready (count + 1)) again turn.exchange turn.transport := by
  rw [takeUp.eq_def]
  rw [resumed]
  simp only [waiting]

/-- What has come to its end is not taken up again. -/
theorem takeUp_of_ended (resumed : Exchange.resume (ready 0) exchange transport = turn)
    (ended : ∀ wait, turn.step ≠ .wait wait) (again : Nat) :
    takeUp ready again exchange transport = turn := by
  unfold takeUp
  rw [resumed]
  dsimp only
  split
  · rename_i waiting
    exact absurd waiting (ended _)
  · rfl

/-- However often an exchange is taken up, it is left as the last time has left it. -/
theorem takeUp_last (ready : Nat → Ready) (again : Nat) (exchange : γ) (transport : τ) :
    ∃ (seen : Ready) (last : γ) (before : τ),
      takeUp ready again exchange transport = Exchange.resume seen last before := by
  induction again generalizing ready exchange transport with
  | zero => exact ⟨ready 0, exchange, transport, rfl⟩
  | succ again ih =>
      cases stepped : (Exchange.resume (ready 0) exchange transport).step with
      | wait wait =>
          rw [takeUp_of_wait rfl stepped]
          exact ih _ _ _
      | done value =>
          exact ⟨_, _, _, takeUp_of_ended rfl (fun _ waiting => nomatch stepped ▸ waiting) _⟩
      | failed failure =>
          exact ⟨_, _, _, takeUp_of_ended rfl (fun _ waiting => nomatch stepped ▸ waiting) _⟩

end

/-! ### Sending -/

namespace Sending

variable {due : List QueryResult} {sent total : Bytes} {left : List Frame} {conn : Conn}

inductive Advances (due : List QueryResult) (sent total : Bytes) (before : Nat) :
    Turn Unit Sending Conn → Prop
  | waiting {left : List Frame} {after : Conn} (still : Midway due [] total left after)
      (put : sent <+: after.link.delivered ++ after.outbox) (fewer : after.link.delays < before) :
      Advances due sent total before ⟨.wait .either, .waiting, after⟩
  | done {left : List Frame} {after : Conn} (still : Midway due [] total left after)
      (gone : sent <+: after.link.delivered) (less : after.link.delays ≤ before) :
      Advances due sent total before ⟨.done (), .done, after⟩

private theorem write_advances {before : Nat} (midway : Midway due [] total left conn)
    (put : sent <+: conn.link.delivered ++ conn.outbox) (enough : conn.link.delays ≤ before) :
    Advances due sent total before (write .waiting conn) := by
  obtain ⟨pending, after, flushed, still, grows, less, fewer, emptied⟩ := midway.flush
  have flushed : Transport.flush conn = (.ok pending, after) := flushed
  have put := put.trans grows.put
  unfold write
  rw [flushed]
  cases pending with
  | true => exact .waiting still put (Nat.lt_of_lt_of_le (fewer rfl) enough)
  | false =>
      rw [emptied rfl, List.append_nil] at put
      exact .done still put (Nat.le_trans less enough)

private theorem resume_advances (ready : Ready) {stage : Sending} (onward : stage ≠ .done)
    (midway : Midway due [] total left conn)
    (put : sent <+: conn.link.delivered ++ conn.outbox) :
    Advances due sent total conn.link.delays (stage.resume ready conn) := by
  cases stage with
  | done => exact absurd rfl onward
  | fresh => exact write_advances midway put (Nat.le_refl _)
  | waiting =>
      unfold resume
      by_cases readable : ready.readable = true
      · obtain ⟨after, rest, consumed, still, grows, less, _⟩ := midway.consumeInput
        have consumed : Transport.consumeInput conn = (.ok (), after) := consumed
        simp only [if_pos readable, consumed]
        exact write_advances still (put.trans grows.put) less
      · simp only [if_neg readable]
        exact write_advances midway put (Nat.le_refl _)

end Sending

/-! ### A round trip in the middle of an answer -/

namespace RoundTrip

variable {due taken : List QueryResult} {sent total : Bytes} {left : List Frame} {conn : Conn}
  {trip : RoundTrip} {before : Nat}

/-- A round trip that waits has put there what it sends, and has counted the results that
it took. When it takes results, what it sends is gone. -/
inductive Waits (sent : Bytes) : (taken : List QueryResult) → RoundTrip → Conn → Prop
  | sending {conn : Conn} (put : sent <+: conn.link.delivered ++ conn.outbox) :
      Waits sent [] (.sending .waiting) conn
  | fetching {conn : Conn} (taken : List QueryResult) (gone : sent <+: conn.link.delivered) :
      Waits sent taken (.fetching (taken.foldl Gathering.add {})) conn

/-- Some results end a round trip in any case. -/
theorem conclusion_cases (results : List QueryResult) :
    (∃ result, conclusion results = .done result) ∨
      ∃ failure, conclusion results = .failed failure := by
  unfold conclusion
  split
  · exact .inl ⟨_, rfl⟩
  · exact .inr ⟨_, rfl⟩

/-- How often a round trip can still have to wait. -/
def delays (conn : Conn) : RoundTrip → Nat
  | .fetching _ => conn.link.delays
  | _ => conn.link.delays + 1

/-- A round trip has ended with these results. The session is ready for the next one, what
was sent is gone, and nothing but what was to be written has been put there. -/
structure Concluded (due : List QueryResult) (sent total : Bytes)
    (turn : Turn QueryResult RoundTrip Conn) : Prop where
  step : turn.step = conclusion due
  isOpen : turn.transport.isClosed = false
  isIdle : turn.transport.isBusy = false
  quiet : turn.transport.Quiet
  sent : sent <+: turn.transport.link.delivered
  written : turn.transport.link.delivered ++ turn.transport.outbox = total

def Proceeds (due : List QueryResult) (sent total : Bytes) (before : Nat)
    (turn : Turn QueryResult RoundTrip Conn) : Prop :=
  (∃ wait taken left, turn.step = .wait wait ∧ Waits sent taken turn.exchange turn.transport ∧
    Midway due taken total left turn.transport ∧
      turn.exchange.delays turn.transport < before) ∨
    Concluded due sent total turn

private theorem Proceeds.mono {later : Nat} {turn : Turn QueryResult RoundTrip Conn}
    (proceeds : Proceeds due sent total before turn) (enough : before ≤ later) :
    Proceeds due sent total later turn := by
  rcases proceeds with ⟨wait, taken, left, waiting, waits, midway, fewer⟩ | concluded
  · exact .inl ⟨wait, taken, left, waiting, waits, midway, Nat.lt_of_lt_of_le fewer enough⟩
  · exact .inr concluded

theorem collect_of_busy (busy : conn.takeResults.2.isBusy = true) :
    collect (taken.foldl Gathering.add {}) conn =
      ⟨.wait .readable, .fetching ((taken ++ conn.results.toList).foldl Gathering.add {}),
        conn.takeResults.2⟩ := by
  rw [List.foldl_append]
  exact if_pos busy

private theorem collect_of_idle (idle : conn.takeResults.2.isBusy = false) :
    collect (taken.foldl Gathering.add {}) conn =
      ⟨conclusion (taken ++ conn.results.toList), .done, conn.takeResults.2⟩ := by
  have counted := @Gathering.outcome_foldl (taken ++ conn.results.toList)
  rw [List.foldl_append] at counted
  have cleared : Transport.takeResults conn = (conn.results.toList, conn.takeResults.2) := rfl
  have still : ¬ Transport.isBusy conn.takeResults.2 = true := Bool.eq_false_iff.mp idle
  rw [collect, cleared]
  dsimp only
  rw [if_neg still, counted, conclusion]
  cases QueryResult.conclusion? (taken ++ conn.results.toList) with
  | none => rfl
  | some result => rfl

/-- When its results have been taken, a session is busy for as long as its command is under
way. -/
theorem isBusy_takeResults (midway : Midway due taken total left conn) :
    conn.takeResults.2.isBusy = conn.inFlight := by
  have none : conn.takeResults.2.results.toList = [] := Queue.toList_empty
  have isEmpty := (Queue.isEmpty_iff _).mpr none
  have unbroken : conn.takeResults.2.broken = false :=
    (Bool.or_eq_false_iff.mp midway.live.isOpen).1
  have inFlight : conn.takeResults.2.inFlight = conn.inFlight := rfl
  simp only [Conn.isBusy, isEmpty, unbroken, inFlight, Bool.not_false, Bool.and_true]

theorem collect_concluded (midway : Midway due taken total left conn)
    (gone : sent <+: conn.link.delivered) (idle : conn.inFlight = false) :
    Concluded due sent total (collect (taken.foldl Gathering.add {}) conn) := by
  have emptied := midway.takeResults
  have isIdle := (isBusy_takeResults midway).trans idle
  rw [collect_of_idle isIdle]
  have quiet : conn.takeResults.2.Quiet := ⟨idle, Queue.toList_empty⟩
  obtain ⟨paid, _, _, aside⟩ := emptied.stand.of_quiet quiet
  have whole := emptied.written
  rw [Frame.refusals_asides aside] at whole
  refine ⟨?_, emptied.live.isOpen, isIdle, quiet, gone, ?_⟩
  · rw [paid]
  · rw [← whole]
    exact (List.append_nil _).symm

private theorem collect_proceeds (midway : Midway due taken total left conn)
    (gone : sent <+: conn.link.delivered) (fewer : left = [] ∨ conn.link.delays < before) :
    Proceeds due sent total before (collect (taken.foldl Gathering.add {}) conn) := by
  cases inFlight : conn.inFlight with
  | true =>
      rw [collect_of_busy ((isBusy_takeResults midway).trans inFlight)]
      obtain ⟨frame, member, _⟩ := midway.stand.inFlight_iff.mp inFlight
      have more : left ≠ [] := List.ne_nil_of_mem member
      exact .inl ⟨_, _, left, rfl, .fetching _ gone, midway.takeResults, fewer.resolve_left more⟩
  | false => exact .inr (collect_concluded midway gone inFlight)

private theorem goOnSending_proceeds (ready : Ready) {stage : Sending} (onward : stage ≠ .done)
    (midway : Midway due [] total left conn)
    (put : sent <+: conn.link.delivered ++ conn.outbox) :
    Proceeds due sent total (conn.link.delays + 1) (goOnSending ready stage conn) := by
  have advances := Sending.resume_advances ready onward midway put
  unfold goOnSending
  generalize stage.resume ready conn = turn at advances ⊢
  cases advances with
  | waiting still put fewer =>
      exact .inl ⟨_, [], _, rfl, .sending put, still, Nat.succ_lt_succ fewer⟩
  | done still gone less => exact collect_proceeds still gone (.inr (Nat.lt_succ_of_le less))

private theorem resume_proceeds (ready : Ready) (waits : Waits sent taken trip conn)
    (midway : Midway due taken total left conn) :
    Proceeds due sent total (trip.delays conn) (resume ready trip conn) := by
  cases waits with
  | sending put => exact goOnSending_proceeds ready nofun midway put
  | fetching taken gone =>
      obtain ⟨after, rest, consumed, still, grows, _, read⟩ := midway.consumeInput
      have consumed : Transport.consumeInput conn = (.ok (), after) := consumed
      unfold resume
      simp only [consumed]
      exact collect_proceeds still (gone.trans grows.delivered) read

/-- A round trip that is taken up as often as it can have to wait has ended. -/
theorem takeUp_concludes {again : Nat} {ready : Nat → Ready}
    (proceeds : Proceeds due sent total again (Exchange.resume (ready 0) trip conn)) :
    Concluded due sent total (takeUp ready again trip conn) := by
  induction again generalizing ready trip conn with
  | zero =>
      rcases proceeds with ⟨_, _, _, _, _, _, less⟩ | concluded
      · exact absurd less (Nat.not_lt_zero _)
      · exact concluded
  | succ again ih =>
      unfold takeUp
      rcases proceeds with ⟨wait, taken, left, waiting, waits, midway, less⟩ | concluded
      · simp only [waiting]
        exact ih ((resume_proceeds (ready 1) waits midway).mono (Nat.le_of_lt_succ less))
      · obtain ⟨value, ended⟩ | ⟨failure, ended⟩ := conclusion_cases due
        · simp only [concluded.step, ended]
          exact concluded
        · simp only [concluded.step, ended]
          exact concluded

end RoundTrip

/-! ### From a command to its outcome -/

/-- The wire has room for the parameters of the command and for each of its texts and values. -/
def Command.Fits (command : Command) : Prop :=
  command.parameters.length ≤ 65535 ∧ ∀ message ∈ command.messages, message.fits = true

namespace Answer

def yields (answer : Answer) (describing : Bool) (begun : Option ResultBuilder) :
    List QueryResult :=
  Frame.results describing begun (answer.asides ++ answer.messages)

def refusals (answer : Answer) (extended : Bool) : List FrontendMessage :=
  answer.messages.flatMap (Frame.refusal extended)

end Answer

namespace Conn

variable {command : Command} {answer : Answer} {later : List Frame} {conn : Conn}

/-- Nothing is asked of the session, its link does not fail, and the answer to the next
command, with what the server says of its own accord behind it, can be understood. -/
structure Expects (command : Command) (answer : Answer) (later : List Frame) (conn : Conn) :
    Prop where
  live : conn.Live
  quiet : conn.Quiet
  plain : ∀ arrival ∈ conn.link.arrivals, arrival.isPlain = true
  unread : conn.unread = Frame.stream (answer.frames ++ later)
  aside : ∀ frame ∈ later, frame.isAside = true
  fits : ∀ frame ∈ later, frame.Fits
  sound : Frame.allSound command.describes conn.builder (answer.frames ++ later) = true

def sentWith (command : Command) (conn : Conn) : Bytes :=
  conn.link.delivered ++ conn.outbox ++ stream command.messages

def asked (command : Command) (conn : Conn) : Conn :=
  dispatched command { conn.record (.sent command) with
    outbox := conn.outbox ++ stream command.messages }

private theorem checkSendable_of_quiet (isOpen : conn.isClosed = false) (quiet : conn.Quiet) :
    conn.checkSendable = .ok () := by
  have empty := (Queue.isEmpty_iff conn.results).mpr quiet.2
  unfold checkSendable
  simp only [isOpen, quiet.1, empty]
  rfl

theorem send_of_fits (isOpen : conn.isClosed = false) (quiet : conn.Quiet) (fits : command.Fits) :
    conn.send command = (.ok (), conn.asked command) := by
  have appended := FrontendMessage.appendAll_ok (Command.messages_whole fits.1) fits.2 conn.outbox
  unfold send enqueue
  rw [checkSendable_of_quiet isOpen quiet]
  simp only [record, appended]
  rfl

private theorem Expects.frames_eq : answer.frames ++ later =
    (answer.asides ++ answer.messages) ++ answer.ready :: later := by
  simp only [Answer.frames, List.append_assoc, List.singleton_append]

private theorem Expects.refusals_eq (expects : conn.Expects command answer later)
    (extended : Bool) :
    (answer.frames ++ later).flatMap (Frame.refusal extended) = answer.refusals extended := by
  simp only [Answer.frames, List.flatMap_append, List.flatMap_singleton]
  rw [Frame.refusals_asides answer.aside, Frame.refusal_of_isReady answer.ends,
    Frame.refusals_asides expects.aside, List.nil_append, List.append_nil, List.append_nil]
  rfl

theorem Expects.midway (expects : conn.Expects command answer later) :
    Midway (answer.yields command.describes conn.builder) []
      (conn.sentWith command ++ stream (answer.refusals command.isExtended))
      (answer.frames ++ later) (conn.asked command) where
  live := ⟨expects.live.isOpen, expects.live.willing⟩
  plain := expects.plain
  stand := by
    rw [Expects.frames_eq]
    refine .answering rfl ?_ answer.ends expects.aside ?_
    · intro frame member
      rcases List.mem_append.mp member with aside | message
      · exact Frame.not_isReady_of_isAside (answer.aside frame aside)
      · exact answer.unready frame message
    · change [] ++ conn.results.toList ++ _ = _
      rw [expects.quiet.2]
      rfl
  unread := expects.unread
  fits := by
    intro frame member
    rcases List.mem_append.mp member with said | member
    · exact answer.fits frame said
    · exact expects.fits frame member
  sound := expects.sound
  written := by
    change conn.link.delivered ++ (conn.outbox ++ stream command.messages) ++
      stream ((answer.frames ++ later).flatMap (Frame.refusal command.isExtended)) = _
    rw [expects.refusals_eq, ← List.append_assoc]
    rfl

end Conn

namespace RoundTrip

variable {command : Command} {answer : Answer} {later : List Frame} {conn : Conn}

/-- Over a link that does not fail, a round trip ends as the results of the answer tell,
whatever the cuts in the answer, the parts in which it writes, and the readiness it is
taken up with; and it has sent its command once. -/
theorem takeUp_concluded (expects : conn.Expects command answer later) (fits : command.Fits)
    (ready : Nat → Ready) {again : Nat} (enough : conn.link.delays < again) :
    Concluded (answer.yields command.describes conn.builder) (conn.sentWith command)
      (conn.sentWith command ++ stream (answer.refusals command.isExtended))
      (takeUp ready again (.unsent command) conn) := by
  apply takeUp_concludes
  have sends : Transport.send command conn = (.ok (), conn.asked command) :=
    Conn.send_of_fits expects.live.isOpen expects.quiet fits
  have resumed : Exchange.resume (ready 0) (.unsent command) conn =
      goOnSending .nothing .fresh (conn.asked command) := by
    change RoundTrip.resume (ready 0) (.unsent command) conn = _
    simp only [resume, sends]
  have put : conn.sentWith command <+:
      (conn.asked command).link.delivered ++ (conn.asked command).outbox := by
    change _ <+: conn.link.delivered ++ (conn.outbox ++ stream command.messages)
    rw [← List.append_assoc]
    exact List.prefix_rfl
  have onward : Sending.fresh ≠ .done := nofun
  rw [resumed]
  exact (goOnSending_proceeds .nothing onward expects.midway put).mono enough

/-- The answer comes in pieces, the command goes out in parts, and each turn but the
second is taken for no reason. -/
theorem takeUp_concluded_inParts :
    let bytes := Frame.stream History.twoCommands.frames
    let conn : Conn :=
      { link :=
        { arrivals := [.blocked, .data (bytes.take 20), .blocked, .data (bytes.drop 20)]
          uptakes := [.refused, .accepted 3, .refused] } }
    let command : Command := .queryWith "a; b" [{ oid := 25, value := some [97] }]
    let ready (count : Nat) : Ready := if count = 1 then ⟨true, false⟩ else .nothing
    let last : QueryResult := { status := .commandOk, tag := some "B" }
    conn.Expects command History.twoCommands [] ∧ command.Fits ∧ conn.link.delays < 8 ∧
      conclusion (History.twoCommands.yields command.describes conn.builder) = .done last ∧
      Concluded (History.twoCommands.yields command.describes conn.builder)
        (conn.sentWith command)
        (conn.sentWith command ++ stream (History.twoCommands.refusals command.isExtended))
        (takeUp ready 8 (.unsent command) conn) := by
  intro bytes conn command ready last
  have expects : conn.Expects command History.twoCommands [] :=
    { live := ⟨rfl, by decide⟩
      quiet := ⟨rfl, rfl⟩
      plain := by decide +kernel
      unread := by decide +kernel
      aside := nofun
      fits := nofun
      sound := by decide +kernel }
  have fits : command.Fits := ⟨by decide, by decide +kernel⟩
  have enough : conn.link.delays < 8 := by decide
  refine ⟨expects, fits, enough, by decide +kernel, ?_⟩
  exact takeUp_concluded expects fits ready enough

/-! ### Commands that do not fit -/

private theorem append_uncounted (name sql : String) {parameters : List Parameter}
    (many : 65535 < parameters.length) (buffer : Bytes) :
    ∃ defect left, FrontendMessage.append (.parse name sql parameters) buffer =
      (.error defect, left) := by
  cases counted : FrontendMessage.length (.parse name sql parameters) with
  | error defect => exact ⟨defect, _, FrontendMessage.append_of_unfit counted buffer⟩
  | ok length =>
      have cut : (FrontendMessage.body (.parse name sql parameters)).whole = false := by
        simp only [FrontendMessage.body, FrontendMessage.withCount, FrontendMessage.count16]
        rw [if_neg (by omega)]
      rw [FrontendMessage.append_of_length counted, cut]
      exact ⟨_, _, rfl⟩

/-- More parameters than can be counted end a round trip before it has waited. -/
theorem takeUp_uncounted (sql : String) {parameters : List Parameter} {conn : Conn}
    (many : 65535 < parameters.length) (isOpen : conn.isClosed = false) (quiet : conn.Quiet)
    (ready : Nat → Ready) (again : Nat) :
    ∃ defect, (takeUp ready again (unsent (.queryWith sql parameters)) conn).step =
      .failed (.defect defect) := by
  obtain ⟨defect, left, cut⟩ := append_uncounted "" sql many conn.outbox
  have sends : ∃ after, Transport.send (.queryWith sql parameters) conn =
      (.error (.defect defect), after) := by
    change ∃ after, conn.send (.queryWith sql parameters) = _
    unfold Conn.send Conn.enqueue
    rw [Conn.checkSendable_of_quiet isOpen quiet]
    simp only [Command.messages, FrontendMessage.appendAll, Conn.record, cut]
    exact ⟨_, rfl⟩
  obtain ⟨after, sends⟩ := sends
  have resumed : Exchange.resume (ready 0) (unsent (.queryWith sql parameters)) conn =
      ⟨.failed (.defect defect), unsent (.queryWith sql parameters), after⟩ := by
    change RoundTrip.resume (ready 0) (unsent (.queryWith sql parameters)) conn = _
    simp only [resume, sends]
  refine ⟨defect, ?_⟩
  rw [takeUp_of_ended resumed _ again]
  intro wait waiting
  cases waiting

/-- The wire has no count for so many parameters, and the round trip comes to no outcome
whatever is said to it. -/
theorem takeUp_not_concluded :
    let command : Command := .queryWith "q" (List.replicate 65536 { oid := 23, value := some [49] })
    let conn : Conn := { link := { arrivals := [.data (Frame.stream History.twoCommands.frames)] } }
    conn.Expects command History.twoCommands [] ∧
      ∀ ready again, ¬Concluded (History.twoCommands.yields command.describes conn.builder)
        (conn.sentWith command)
        (conn.sentWith command ++ stream (History.twoCommands.refusals command.isExtended))
        (takeUp ready again (.unsent command) conn) := by
  intro command conn
  have expects : conn.Expects command History.twoCommands [] :=
    { live := ⟨rfl, nofun⟩
      quiet := ⟨rfl, rfl⟩
      plain := by decide +kernel
      unread := by decide +kernel
      aside := nofun
      fits := nofun
      sound := by
        change Frame.allSound false none _ = true
        decide +kernel }
  refine ⟨expects, ?_⟩
  intro ready again concluded
  have many :
      65535 < (List.replicate 65536 ({ oid := 23, value := some [49] } : Parameter)).length := by
    rw [List.length_replicate]
    omega
  obtain ⟨defect, failed⟩ :=
    takeUp_uncounted "q" many expects.live.isOpen expects.quiet ready again
  have ended := concluded.step.symm.trans failed
  have outcome : conclusion (History.twoCommands.yields false none) =
      .done { status := .commandOk, tag := some "B" } := by
    decide +kernel
  cases outcome.symm.trans ended

end RoundTrip

end PgClient

/-
Losing a session.

A command may fail and leave the session as good as before, or the session is lost with it.
A session is lost when the link fails, when a deadline passes, and when what the server has
sent cannot be understood; the error tells which of these it was. No other error costs the
session, and none of these leaves it.
-/

import PgClient.Proofs.Conn.Course
import PgClient.Proofs.Conn.Effect
import PgClient.Proofs.Exchange.Gathered
import PgClient.Proofs.Exchange.Regime
import PgClient.Proofs.Session.Tidy

namespace PgClient

/-- The session is lost with the command: for its link or its deadline, or since something that
the server has sent cannot be understood. -/
def Error.Loses (error : Error) : Prop :=
  error.isConnection = true ∨ ∃ fault, error.kind = .protocol fault ∧ fault.BlamesServer

namespace Error

private theorem loses_ofIo (fault : IoFault) : (ofIo fault).Loses :=
  .inl rfl

private theorem loses_ofProtocol {fault : ProtocolFault} (blame : fault.BlamesServer) :
    (ofProtocol fault).Loses :=
  .inr ⟨fault, rfl, blame⟩

theorem not_loses_ofState (fault : StateFault) : ¬(ofState fault).Loses := by
  rintro (connection | ⟨_, protocol, _⟩)
  · cases connection
  · cases protocol

private theorem not_loses_ofDatabase (report : Diagnostic) : ¬(ofDatabase report).Loses := by
  rintro (connection | ⟨_, protocol, _⟩)
  · cases connection
  · cases protocol

private theorem loses_of_isTimeout {error : Error} (timeout : error.isTimeout = true) :
    error.Loses := by
  obtain ⟨kind, context⟩ := error
  cases kind with
  | timeout => exact .inl rfl
  | _ => cases timeout

private theorem not_loses_noResult : ¬(ofProtocol .noResult).Loses := by
  rintro (connection | ⟨fault, protocol, blame⟩)
  · cases connection
  · cases protocol
    exact blame

end Error

/-! ### Results that a session hands out -/

/-- No message of a server makes a result that stands for a bad response. -/
theorem BackendMessage.yields_status (describing : Bool) (begun : Option ResultBuilder)
    (message : BackendMessage) :
    ∀ result ∈ message.yields describing begun, result.status ≠ .badResponse := by
  intro result member
  cases message with
  | rowDescription count body =>
      simp only [yields] at member
      split at member
      · cases member
      · split at member
        · cases List.mem_singleton.mp member
          exact nofun
        · cases member
  | noData =>
      simp only [yields] at member
      split at member
      · cases List.mem_singleton.mp member
        decide
      · cases member
  | commandComplete tag =>
      cases begun with
      | none =>
          cases List.mem_singleton.mp member
          exact nofun
      | some builder =>
          cases List.mem_singleton.mp member
          exact nofun
  | emptyQueryResponse =>
      cases List.mem_singleton.mp member
      decide
  | errorResponse body =>
      simp only [yields] at member
      split at member
      · cases member
      · cases List.mem_singleton.mp member
        exact nofun
  | _ => cases member

/-- An error of the server leaves the session as it is. -/
theorem QueryResult.not_loses_of_check {result : QueryResult} {error : Error}
    (intact : result.status ≠ .badResponse) (checked : result.check = .error error) :
    ¬error.Loses := by
  unfold check at checked
  split at checked
  · cases checked
    exact Error.not_loses_ofDatabase _
  · rename_i bad
    exact absurd bad intact
  · cases checked

namespace Conn

/-- The session is open, and no result that waits to be taken stands for a bad response. -/
structure Sane (conn : Conn) : Prop where
  isOpen : conn.isClosed = false
  results : ∀ result ∈ conn.results.toList, result.status ≠ .badResponse

namespace Sane

variable {conn after : Conn}

private theorem of_quiet (isOpen : conn.isClosed = false) (quiet : conn.Quiet) : conn.Sane where
  isOpen := isOpen
  results := by
    rw [quiet.2]
    exact List.forall_mem_nil _

private theorem handleFrame (sane : conn.Sane) {frame : Frame}
    (taken : conn.handleFrame frame = .ok after) : after.Sane := by
  have effect := handleFrame_effect taken
  refine ⟨effect.isClosed.trans sane.isOpen, ?_⟩
  intro result member
  rw [effect.results] at member
  rcases List.mem_append.mp member with earlier | yielded
  · exact sane.results result earlier
  · unfold Frame.yields at yielded
    split at yielded
    · cases yielded
    · exact BackendMessage.yields_status _ _ _ result yielded

private theorem parse (sane : conn.Sane) {input : Bytes}
    (parsed : conn.parse input = (.ok (), after)) :
    after.Sane := by
  induction input, conn using Conn.parse.induct with
  | case1 input conn fault found =>
      rw [parse_of_fault found] at parsed
      cases parsed
  | case2 input conn found =>
      rw [parse_of_partial found] at parsed
      cases parsed
      exact ⟨sane.isOpen, sane.results⟩
  | case3 input conn frame rest found fault refused =>
      rw [parse_of_refused found refused] at parsed
      cases parsed
  | case4 input conn frame rest found next taken _ ih =>
      rw [parse_of_taken found taken] at parsed
      exact ih (sane.handleFrame taken) parsed

private theorem flush (sane : conn.Sane) {pending : Bool}
    (flushed : conn.flush = (.ok pending, after)) :
    after.Sane := by
  obtain ⟨pushed, _, rfl⟩ := flush_ok flushed
  exact ⟨sane.isOpen, sane.results⟩

private theorem flush_loses (sane : conn.Sane) {error : Error}
    (flushed : conn.flush = (.error error, after)) : after.isClosed = true ∧ error.Loses := by
  refine ⟨(flush_error flushed).1, ?_⟩
  unfold Conn.flush at flushed
  split at flushed
  · cases flushed
  · rw [if_neg (by simp [sane.isOpen])] at flushed
    dsimp only at flushed
    split at flushed
    · cases flushed
    · cases flushed
    · cases flushed
      exact Error.loses_ofIo _
    · cases flushed
      exact Error.loses_ofIo _

private theorem consumeInput (sane : conn.Sane) (consumed : conn.consumeInput = (.ok (), after)) :
    after.Sane := by
  obtain ⟨_, parsed, pending, reading, flushed⟩ := consumeInput_ok consumed
  have gathered : conn.gathering.Sane := ⟨sane.isOpen, sane.results⟩
  exact (gathered.parse reading).flush flushed

private theorem consumeInput_loses (sane : conn.Sane) {error : Error}
    (consumed : conn.consumeInput = (.error error, after)) :
    after.isClosed = true ∧ error.Loses := by
  refine ⟨(consumeInput_error consumed).1, ?_⟩
  have gathered : conn.gathering.Sane := ⟨sane.isOpen, sane.results⟩
  unfold Conn.consumeInput readAll at consumed
  rw [if_neg (by simp [sane.isOpen])] at consumed
  dsimp only at consumed
  cases ending : (Link.gather conn.link.arrivals).fault with
  | some fault =>
      rw [ending] at consumed
      cases consumed
      exact Error.loses_ofIo fault
  | none =>
      rw [ending] at consumed
      dsimp only at consumed
      split at consumed
      · rename_i fault broken parsed
        cases consumed
        exact Error.loses_ofProtocol (parse_error parsed).2
      · rename_i parsed reading
        split at consumed
        · rename_i flushed
          cases consumed
          exact ((gathered.parse reading).flush_loses flushed).2
        · cases consumed

end Sane

/-! ### Round trips -/

end Conn

/-- What results come to is one of them. -/
theorem QueryResult.conclusion?_mem {results : List QueryResult} {result : QueryResult}
    (concluded : conclusion? results = some result) : result ∈ results := by
  unfold conclusion? at concluded
  split at concluded
  · rename_i fatal found
    cases concluded
    exact List.mem_of_find?_eq_some found
  · exact (List.mem_filter.mp (List.mem_of_getLast? concluded)).1

def RoundTrip.Sane : RoundTrip → Prop
  | .fetching gathering =>
      ∃ results : List QueryResult, gathering = results.foldl Gathering.add {} ∧
        ∀ result ∈ results, result.status ≠ .badResponse
  | _ => True

/-- Whether the session is lost is told by the error, but for a deadline, after which it is
still to take leave. -/
def Failure.Tells (failure : Failure) (conn : Conn) : Prop :=
  ∀ error, failure = .error error → error.isTimeout = true ∨ (conn.isClosed = true ↔ error.Loses)

namespace Failure.Tells

variable {conn : Conn} {error : Error}

private theorem defect {defect : Defect} : Failure.Tells (.defect defect) conn := by
  intro error failed
  cases failed

private theorem abandoned : Failure.Tells .abandoned conn := by
  intro error failed
  cases failed

private theorem timedOut : Failure.Tells (.error .timedOut) conn := by
  rintro other ⟨⟩
  exact .inl rfl

private theorem lost (closed : conn.isClosed = true) (loses : error.Loses) :
    Failure.Tells (.error error) conn := by
  rintro other ⟨⟩
  exact .inr ⟨fun _ => loses, fun _ => closed⟩

private theorem left (isOpen : conn.isClosed = false) (harmless : ¬error.Loses) :
    Failure.Tells (.error error) conn := by
  rintro other ⟨⟩
  refine .inr ⟨fun closed => ?_, fun loses => absurd loses harmless⟩
  rw [isOpen] at closed
  cases closed

end Failure.Tells

namespace RoundTrip

abbrev Loses (turn : Turn QueryResult RoundTrip Conn) : Prop :=
  Meets (fun trip conn => conn.Sane ∧ trip.Sane)
    (fun conn => conn.isClosed = false ∧ conn.Quiet) Failure.Tells turn

variable {conn : Conn}

private theorem collect_loses (sane : conn.Sane) {results : List QueryResult}
    (counted : ∀ result ∈ results, result.status ≠ .badResponse) :
    Loses (collect (results.foldl Gathering.add {}) conn) := by
  have taken : Transport.takeResults conn = (conn.results.toList, conn.takeResults.2) := rfl
  have isOpen : conn.takeResults.2.isClosed = false := sane.isOpen
  have whole : ∀ result ∈ results ++ conn.results.toList, result.status ≠ .badResponse := by
    intro result member
    rcases List.mem_append.mp member with earlier | latest
    · exact counted result earlier
    · exact sane.results result latest
  unfold collect
  rw [taken]
  dsimp only
  rw [← List.foldl_append, Gathering.outcome_foldl]
  split
  · exact .waits trivial ⟨⟨isOpen, List.forall_mem_nil _⟩, _, rfl, whole⟩
  · rename_i notBusy
    have idle : conn.takeResults.2.Quiet :=
      (Conn.takeResults_settled (Bool.not_eq_true _ ▸ notBusy)).resolve_left (by simp [isOpen])
    split
    · rename_i result concluded
      have intact := whole result (QueryResult.conclusion?_mem concluded)
      cases checked : result.check with
      | error error =>
          exact .denied checked (.left isOpen (QueryResult.not_loses_of_check intact checked))
      | ok passed => exact .granted checked ⟨isOpen, idle⟩
    · exact .failed (.left isOpen Error.not_loses_noResult)

inductive Sends : Turn Unit Sending Conn → Prop
  | waits {wait : Wait} {stage : Sending} {after : Conn} (sane : after.Sane) :
      Sends ⟨.wait wait, stage, after⟩
  | done {stage : Sending} {after : Conn} (sane : after.Sane) : Sends ⟨.done (), stage, after⟩
  | failed {failure : Failure} {stage : Sending} {after : Conn} (tells : failure.Tells after) :
      Sends ⟨.failed failure, stage, after⟩

private theorem write_sends (sane : conn.Sane) (sending : Sending) :
    Sends (sending.write conn) := by
  unfold Sending.write
  cases flushed : Transport.flush conn with
  | mk outcome after =>
      cases outcome with
      | error error =>
          obtain ⟨closed, loses⟩ := sane.flush_loses flushed
          exact .failed (.lost closed loses)
      | ok pending =>
          cases pending with
          | true => exact .waits (sane.flush flushed)
          | false => exact .done (sane.flush flushed)

private theorem sending_sends (sane : conn.Sane) (ready : Ready) (stage : Sending) :
    Sends (stage.resume ready conn) := by
  cases stage with
  | done => exact .failed .defect
  | fresh => exact write_sends sane .waiting
  | waiting =>
      unfold Sending.resume
      dsimp only
      split
      · cases consumed : Transport.consumeInput conn with
        | mk outcome after =>
            cases outcome with
            | error error =>
                obtain ⟨closed, loses⟩ := sane.consumeInput_loses consumed
                exact .failed (.lost closed loses)
            | ok read => exact write_sends (sane.consumeInput consumed) .waiting
      · exact write_sends sane .waiting

private theorem goOnSending_loses (sane : conn.Sane) (ready : Ready) (stage : Sending) :
    Loses (goOnSending ready stage conn) := by
  have sends := sending_sends sane ready stage
  unfold goOnSending
  generalize stage.resume ready conn = turn at sends ⊢
  cases sends with
  | waits sane => exact .waits trivial ⟨sane, trivial⟩
  | done sane => exact collect_loses sane (List.forall_mem_nil _)
  | failed tells => exact .failed tells

/-- A command is sent over a session that is ready for it, unless it cannot be written. -/
theorem begin_loses (isOpen : conn.isClosed = false) (quiet : conn.Quiet) (ready : Ready)
    (command : Command) : Loses ((unsent command).resume ready conn) := by
  unfold resume
  dsimp only
  split
  · rename_i failure after sent
    cases failure with
    | error error =>
        obtain ⟨closed, _⟩ := Conn.send_error (.inr quiet) sent
        obtain ⟨_, _, rfl⟩ := Conn.send_refused sent
        cases closed.symm.trans isOpen
    | defect defect => exact .failed .defect
    | abandoned => exact .failed .abandoned
  · rename_i after sent
    obtain ⟨_, _, _, _, rfl⟩ := Conn.send_ok sent
    apply goOnSending_loses
    exact ⟨isOpen, (Conn.Sane.of_quiet isOpen quiet).results⟩

theorem resume_loses (sane : conn.Sane) {trip : RoundTrip} (underWay : trip.underWay)
    (counted : trip.Sane) (ready : Ready) : Loses (trip.resume ready conn) := by
  unfold resume
  cases trip with
  | unsent command => cases underWay
  | sending stage => exact goOnSending_loses sane ready stage
  | done => exact .failed .defect
  | fetching gathering =>
      obtain ⟨results, rfl, intact⟩ := counted
      dsimp only
      cases consumed : Transport.consumeInput conn with
      | mk outcome after =>
          cases outcome with
          | error error =>
              obtain ⟨closed, loses⟩ := sane.consumeInput_loses consumed
              exact .failed (.lost closed loses)
          | ok read => exact collect_loses (sane.consumeInput consumed) intact

end RoundTrip

def Conn.losing : Regime Conn where
  allows _ := True
  rests conn := conn.isClosed = false ∧ conn.Quiet
  goes trip conn := conn.Sane ∧ trip.Sane
  fails := Failure.Tells
  begins ready command _ _ rests := RoundTrip.begin_loses rests.1 rests.2 ready command
  continues ready _ _ underWay goes := RoundTrip.resume_loses goes.1 underWay goes.2 ready
  waits _ _ _ goes := ⟨⟨goes.1.isOpen, goes.1.results⟩, goes.2⟩
  refused _ conn error goes refused := by
    change conn.checkOpen = .error error at refused
    rw [Conn.checkOpen, goes.1.isOpen] at refused
    cases refused
  timedOut _ _ _ := .timedOut
  abandoned _ _ _ := .abandoned

/-! ### A session -/

namespace Session

variable {α γ : Type} [Exchange γ α] [Composed γ α]

def passed (γ : Type) [Exchange γ α] [Composed γ α] (outcome : Except Failure α) :
    Except Failure α :=
  match outcome with
  | .error failure => .error failure
  | .ok value =>
      match Composed.check γ value with
      | .error error => .error (.error error)
      | .ok value => .ok value

theorem passed_of_check {γ : Type} [Exchange γ QueryResult] [Composed γ QueryResult]
    (counts : Composed.check γ = QueryResult.check) (outcome : Except Failure QueryResult) :
    passed γ outcome = checked outcome := by
  cases outcome with
  | error failure => rfl
  | ok result =>
      simp only [passed, checked, counts]
      cases result.check with
      | error error => rfl
      | ok passed => rfl

/-- Whether the session is closed after the call is told by the error of the call. -/
def Judged (outcome : Except Failure α) (session : Session Conn) : Prop :=
  ∀ error, outcome = .error (.error error) → (session.closed = true ↔ error.Loses)

private theorem isClosed_of_cutShort (event : Event) (session : Session Conn) :
    ({ session.cutShort event with
      closed := session.closed || Transport.isClosed (session.cutShort event).transport } :
        Session Conn).closed = true := by
  have closed : Transport.isClosed (session.cutShort event).transport = true :=
    session.cutShort_isClosed event
  dsimp only
  rw [closed, Bool.or_true]

/-- Whatever exchange is run over an open session, whether the session is closed afterwards is
told by the error that the call comes to. -/
theorem run_judged (manner : Manner) (exchange : γ) {session : Session Conn}
    (tidy : session.Tidy) (isOpen : session.closed = false)
    (fresh : Composed.Fresh exchange) :
    Judged (passed γ (session.run manner exchange).outcome)
      (session.run manner exchange).session := by
  have pending : ∀ trip ∈ Composed.trips exchange, Conn.losing.Pending trip := by
    intro trip member
    obtain ⟨command, rfl⟩ := fresh trip member
    trivial
  have stands : Conn.losing.Stands (Composed.trips exchange) session.transport :=
    .inl ⟨⟨tidy.closed_iff.symm.trans isOpen, tidy.quiet isOpen⟩, pending⟩
  have ends := Regime.run_ends manner session.timeout exchange session.transport stands
  unfold run
  generalize Waiting.run manner session.timeout exchange session.transport = ended at ends ⊢
  obtain ⟨outcome, next, conn⟩ := ended
  intro error failed
  cases outcome with
  | ok value =>
      unfold passed at failed
      unfold Regime.Ends at ends
      dsimp only at failed ends
      cases checked : Composed.check γ value with
      | ok passed =>
          rw [checked] at failed
          cases failed
      | error other =>
          rw [checked] at failed ends
          cases failed
          have known := (ends error rfl).resolve_left
            (by simp [Composed.isTimeout_of_check (γ := γ) checked])
          unfold settle
          dsimp only
          rw [isOpen]
          exact known
  | error failure =>
      cases failed
      unfold settle
      dsimp only
      by_cases timeout : error.isTimeout = true
      · -- Leave is taken, since the answer may still be on its way.
        rw [if_pos timeout]
        have closed := isClosed_of_cutShort .timedOut { session with transport := conn }
        exact ⟨fun _ => Error.loses_of_isTimeout timeout, fun _ => closed⟩
      · rw [if_neg timeout, isOpen]
        exact (ends error rfl).resolve_left timeout

end Session

end PgClient

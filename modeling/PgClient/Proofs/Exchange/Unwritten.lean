/-
What is left to be written while nothing but input is waited for.

The results of a command are taken when all of it has been written. A server may then still
ask for rows to be copied; what it is answered is offered to the link at once, but if the link
refuses some of it, that stays where it is until there is input again. Only then does an
exchange wait for input with something to be written.
-/

import PgClient.Proofs.Conn.Refusal
import PgClient.Proofs.Exchange.Conclusion
import PgClient.Proofs.Exchange.Regime

namespace PgClient

open FrontendMessage (stream)

/-! ### Writing -/

namespace Link

private theorem push_left (output : Bytes) (uptakes : List Uptake) :
    (push output uptakes).left <:+ output :=
  ⟨(push output uptakes).taken, push_whole output uptakes⟩

private theorem push_uptakes (output : Bytes) (uptakes : List Uptake) :
    (push output uptakes).uptakes <:+ uptakes := by
  fun_induction push output uptakes with
  | case1 output => exact List.suffix_rfl
  | case2 output uptake later isEmpty => exact List.suffix_rfl
  | case3 output later isEmpty => exact List.suffix_cons _ _
  | case4 output later isEmpty fault => exact List.suffix_cons _ _
  | case5 output later isEmpty => exact List.suffix_cons _ _
  | case6 output later isEmpty count front back parts further ih =>
      exact ih.trans (List.suffix_cons _ _)

/-- Writing that is given up for now has ended with a refusal. -/
theorem push_refused {output : Bytes} {uptakes : List Uptake}
    (refused : (push output uptakes).ending = .refused) :
    ∃ earlier, uptakes = earlier ++ .refused :: (push output uptakes).uptakes := by
  fun_induction push output uptakes with
  | case1 output => cases refused
  | case2 output uptake later isEmpty => cases refused
  | case3 output later isEmpty => exact ⟨[], rfl⟩
  | case4 output later isEmpty fault => cases refused
  | case5 output later isEmpty => cases refused
  | case6 output later isEmpty count front back parts further ih =>
      obtain ⟨earlier, same⟩ := ih refused
      exact ⟨.accepted (count + 1) :: earlier, congrArg _ same⟩

private theorem await_uptakes (link : Link) : link.await.2.uptakes = link.uptakes := by
  unfold await
  split
  · rfl
  · rfl

end Link

namespace Conn

variable {conn after : Conn} {message : BackendMessage} {frame : Frame}

def refusalsTold (conn : Conn) : Nat :=
  conn.journal.countP Event.isRefusal

def copyAnswers (asked : Nat) (extended : Bool) : List FrontendMessage :=
  (List.replicate asked (copyAnswer extended)).flatten

private theorem copyAnswers_add (asked more : Nat) (extended : Bool) :
    copyAnswers (asked + more) extended =
      copyAnswers asked extended ++ copyAnswers more extended := by
  rw [copyAnswers, ← List.replicate_append_replicate, List.flatten_append]
  rfl

/-- So many requests to copy have been told and answered behind what was to be written. What is
left of all that is its end, and there is something left only where the link has just refused to
take it. -/
structure HasAnswered (asked : Nat) (conn after : Conn) : Prop where
  told : after.refusalsTold = conn.refusalsTold + asked
  extended : after.extended = conn.extended
  uptakes : after.link.uptakes <:+ conn.link.uptakes
  outbox : after.outbox <:+ conn.outbox ++ stream (copyAnswers asked conn.extended)
  refused : after.outbox ≠ [] →
    ∃ earlier, conn.link.uptakes = earlier ++ .refused :: after.link.uptakes

private theorem flush_hasAnswered {pending : Bool} (flushed : conn.flush = (.ok pending, after)) :
    HasAnswered 0 conn after := by
  have nothing : conn.outbox = conn.outbox ++ stream (copyAnswers 0 conn.extended) :=
    (List.append_nil _).symm
  unfold flush at flushed
  split at flushed
  · rename_i isEmpty
    have empty := List.isEmpty_iff.mp isEmpty
    cases flushed
    exact ⟨rfl, rfl, List.suffix_rfl, ⟨[], nothing⟩, fun left => absurd empty left⟩
  · split at flushed
    · cases flushed
    · have outbox : (Link.push conn.outbox conn.link.uptakes).left <:+
          conn.outbox ++ stream (copyAnswers 0 conn.extended) :=
        (Link.push_left conn.outbox conn.link.uptakes).trans ⟨[], nothing⟩
      have uptakes := Link.push_uptakes conn.outbox conn.link.uptakes
      dsimp only at flushed
      split at flushed
      · rename_i complete
        have empty := Link.push_complete complete
        cases flushed
        exact ⟨rfl, rfl, uptakes, outbox, fun left => absurd empty left⟩
      · rename_i refused
        cases flushed
        exact ⟨rfl, rfl, uptakes, outbox, fun _ => Link.push_refused refused⟩
      · cases flushed
      · cases flushed

private theorem flush_empties (flushed : conn.flush = (.ok false, after)) : after.outbox = [] := by
  unfold flush at flushed
  split at flushed
  · rename_i isEmpty
    cases flushed
    exact List.isEmpty_iff.mp isEmpty
  · split at flushed
    · cases flushed
    · dsimp only at flushed
      split at flushed
      · rename_i complete
        cases flushed
        exact Link.push_complete complete
      · cases flushed
      · cases flushed
      · cases flushed

/-! ### Reading -/

private theorem handle_told (taken : conn.handle message = .ok after) :
    ∃ asked, message.refusal conn.extended = copyAnswers asked conn.extended ∧
      after.refusalsTold = conn.refusalsTold + asked := by
  have untold : ∃ asked, [] = copyAnswers asked conn.extended ∧
      conn.refusalsTold = conn.refusalsTold + asked := ⟨0, rfl, rfl⟩
  have told : ∃ asked, copyAnswer conn.extended = copyAnswers asked conn.extended ∧
      conn.refuseCopy.refusalsTold = conn.refusalsTold + asked :=
    ⟨1, (List.append_nil _).symm, List.countP_cons_of_pos rfl⟩
  cases message with
  | copyInResponse format body =>
      cases taken
      exact told
  | copyBothResponse format body =>
      cases taken
      exact told
  | rowDescription count body =>
      simp only [handle, receiveFields] at taken
      split at taken
      · cases taken
      · split at taken
        · cases taken
          exact untold
        · cases taken
          exact untold
  | dataRow columns body =>
      simp only [handle, receiveRow] at taken
      split at taken
      · cases taken
      · split at taken
        · cases taken
        · cases taken
          exact untold
  | errorResponse body =>
      simp only [handle, receiveError] at taken
      split at taken
      · cases taken
      · cases taken
        exact untold
  | noticeResponse body =>
      simp only [handle, receiveNotice] at taken
      split at taken
      · cases taken
      · cases taken
        exact untold
  | noData =>
      simp only [handle] at taken
      split at taken
      · cases taken
        exact untold
      · cases taken
        exact untold
  | authentication request => cases taken
  | negotiateProtocolVersion minor count names => cases taken
  | _ =>
      cases taken
      exact untold

private theorem handleFrame_told (taken : conn.handleFrame frame = .ok after) :
    ∃ asked, frame.refusal conn.extended = copyAnswers asked conn.extended ∧
      after.refusalsTold = conn.refusalsTold + asked := by
  unfold handleFrame at taken
  unfold Frame.refusal
  cases read : BackendMessage.decode frame.first frame.body with
  | error fault =>
      rw [read] at taken
      cases taken
  | ok message =>
      rw [read] at taken
      exact handle_told taken

/-- Each request to copy that is taken in is told and answered. -/
theorem parse_told {input : Bytes} (parsed : conn.parse input = (.ok (), after)) :
    ∃ asked, conn.refusals input = copyAnswers asked conn.extended ∧
      after.refusalsTold = conn.refusalsTold + asked := by
  induction input, conn using parse.induct with
  | case1 input conn fault found =>
      rw [parse_of_fault found] at parsed
      cases parsed
  | case2 input conn found =>
      rw [parse_of_partial found] at parsed
      cases parsed
      exact ⟨0, refusals_of_partial found, rfl⟩
  | case3 input conn frame rest found fault refused =>
      rw [parse_of_refused found refused] at parsed
      cases parsed
  | case4 input conn frame rest found next taken _ ih =>
      rw [parse_of_taken found taken] at parsed
      obtain ⟨first, answered, told⟩ := handleFrame_told taken
      obtain ⟨others, answeredLater, toldLater⟩ := ih parsed
      rw [(handleFrame_effect taken).extended] at answeredLater
      refine ⟨first + others, ?_, ?_⟩
      · rw [refusals_of_frame found, taken, copyAnswers_add]
        dsimp only
        rw [answered, answeredLater]
      · rw [toldLater, told, Nat.add_assoc]

/-- What is read is answered, and offered to the link with what was to be written before. -/
theorem consumeInput_hasAnswered (consumed : conn.consumeInput = (.ok (), after)) :
    ∃ asked, HasAnswered asked conn after := by
  obtain ⟨_, parsed, pending, reading, flushed⟩ := consumeInput_ok consumed
  obtain ⟨asked, answered, told⟩ := parse_told reading
  obtain ⟨link, grown⟩ := parse_outbox conn.gathering.inbox conn.gathering
  have extended := parse_extended conn.gathering.inbox conn.gathering
  rw [reading] at link grown extended
  have offered := flush_hasAnswered flushed
  have uptakes : parsed.link.uptakes = conn.link.uptakes := by
    change parsed.link = conn.gathering.link at link
    rw [link]
    rfl
  refine ⟨asked, ?_, ?_, ?_, ?_, ?_⟩
  · rw [offered.told, told]
    rfl
  · exact offered.extended.trans extended
  · exact uptakes ▸ offered.uptakes
  · have parsedOutbox : parsed.outbox = conn.outbox ++ stream (copyAnswers asked conn.extended) :=
      grown.trans (congrArg (conn.outbox ++ stream ·) answered)
    rw [← parsedOutbox]
    exact offered.outbox.trans ⟨[], List.append_nil _⟩
  · exact uptakes ▸ offered.refused

/-! ### Since some start -/

structure Since (start conn : Conn) : Prop where
  told : start.refusalsTold ≤ conn.refusalsTold
  uptakes : conn.link.uptakes <:+ start.link.uptakes

/-- What is left to be written are answers to requests to copy, and the link has refused it when
it was last offered. -/
structure OwesAnswers (start conn : Conn) : Prop extends Since start conn where
  answers : ∃ asked, start.refusalsTold + asked ≤ conn.refusalsTold ∧
    conn.outbox <:+ stream (copyAnswers asked conn.extended)
  refused : conn.outbox ≠ [] →
    ∃ earlier, start.link.uptakes = earlier ++ .refused :: conn.link.uptakes

variable {start : Conn} {asked : Nat}

private theorem Since.same (since : Since start conn)
    (told : after.refusalsTold = conn.refusalsTold)
    (uptakes : after.link.uptakes = conn.link.uptakes) : Since start after :=
  ⟨told ▸ since.told, uptakes ▸ since.uptakes⟩

private theorem Since.hasAnswered (since : Since start conn) (has : HasAnswered asked conn after) :
    Since start after := by
  refine ⟨?_, has.uptakes.trans since.uptakes⟩
  rw [has.told]
  exact Nat.le_add_right_of_le since.told

private theorem Since.send {command : Command} (since : Since start conn)
    (sent : conn.send command = (.ok (), after)) : Since start after := by
  unfold Conn.send at sent
  split at sent
  · cases sent
  · split at sent
    · cases sent
    · rename_i queued
      cases sent
      cases congrArg Prod.snd queued
      exact ⟨since.told, since.uptakes⟩

/-- When all is written, nothing is owed. -/
theorem Since.owesAnswers (since : Since start conn) (empty : conn.outbox = []) :
    OwesAnswers start conn where
  toSince := since
  answers := ⟨0, since.told, empty ▸ List.nil_suffix⟩
  refused left := absurd empty left

private theorem OwesAnswers.same (owes : OwesAnswers start conn)
    (told : after.refusalsTold = conn.refusalsTold)
    (uptakes : after.link.uptakes = conn.link.uptakes) (outbox : after.outbox = conn.outbox)
    (extended : after.extended = conn.extended) : OwesAnswers start after := by
  refine ⟨owes.toSince.same told uptakes, ?_, ?_⟩
  · rw [told, outbox, extended]
    exact owes.answers
  · rw [outbox, uptakes]
    exact owes.refused

/-- New answers are owed behind those that are owed already. -/
theorem OwesAnswers.hasAnswered (owes : OwesAnswers start conn)
    (has : HasAnswered asked conn after) : OwesAnswers start after := by
  obtain ⟨before, counted, gone, whole⟩ := owes.answers
  refine ⟨owes.toSince.hasAnswered has, ⟨before + asked, ?_, ?_⟩, ?_⟩
  · rw [has.told, ← Nat.add_assoc]
    exact Nat.add_le_add_right counted asked
  · rw [copyAnswers_add, FrontendMessage.stream_append, has.extended, ← whole,
      List.append_assoc]
    exact has.outbox.trans (List.suffix_append gone _)
  · intro some
    obtain ⟨earlier, same⟩ := has.refused some
    obtain ⟨first, behind⟩ := owes.uptakes
    refine ⟨first ++ earlier, ?_⟩
    rw [← behind, same, List.append_assoc]

end Conn

/-! ### Round trips -/

namespace Sending

variable {start conn : Conn}

inductive Turns (start : Conn) : Turn Unit Sending Conn → Prop
  | waits {stage : Sending} {conn : Conn} (since : start.Since conn) :
      Turns start ⟨.wait .either, stage, conn⟩
  | failed {failure : Failure} {stage : Sending} {conn : Conn} :
      Turns start ⟨.failed failure, stage, conn⟩
  | done {stage : Sending} {conn : Conn} (since : start.Since conn) (written : conn.outbox = []) :
      Turns start ⟨.done (), stage, conn⟩

private theorem write_turns (stage : Sending) (since : start.Since conn) :
    Turns start (stage.write conn) := by
  unfold write
  split
  · exact .failed
  · rename_i after flushed
    exact .waits (since.hasAnswered (Conn.flush_hasAnswered flushed))
  · rename_i after flushed
    exact .done (since.hasAnswered (Conn.flush_hasAnswered flushed)) (Conn.flush_empties flushed)

private theorem resume_turns (ready : Ready) (stage : Sending) (since : start.Since conn) :
    Turns start (stage.resume ready conn) := by
  unfold resume
  split
  · exact .failed
  · exact write_turns _ since
  · split
    · split
      · exact .failed
      · rename_i after consumed
        obtain ⟨_, has⟩ := Conn.consumeInput_hasAnswered consumed
        exact write_turns _ (since.hasAnswered has)
    · exact write_turns _ since

end Sending

namespace RoundTrip

variable {start conn : Conn}

def Owing (start : Conn) (trip : RoundTrip) (conn : Conn) : Prop :=
  start.Since conn ∧ ∀ gathering, trip = .fetching gathering → start.OwesAnswers conn

abbrev Turns (start : Conn) : Turn QueryResult RoundTrip Conn → Prop :=
  Meets (Owing start) start.Since fun _ _ => True

private theorem Turns.done {result : QueryResult} {trip : RoundTrip} (since : start.Since conn) :
    Turns start ⟨.done result, trip, conn⟩ := by
  cases checked : result.check with
  | error error => exact .denied checked trivial
  | ok passed => exact .granted checked since

private theorem collect_turns (gathering : Gathering) (owes : start.OwesAnswers conn) :
    Turns start (collect gathering conn) := by
  have taken : start.OwesAnswers conn.takeResults.2 := owes.same rfl rfl rfl rfl
  unfold collect
  dsimp only
  split
  · exact .waits trivial ⟨taken.toSince, fun _ _ => taken⟩
  · split
    · exact Turns.done taken.toSince
    · exact .failed trivial

private theorem goOnSending_turns (ready : Ready) (stage : Sending) (since : start.Since conn) :
    Turns start (goOnSending ready stage conn) := by
  have turns := Sending.resume_turns ready stage since
  unfold goOnSending
  generalize stage.resume ready conn = turn at turns ⊢
  cases turns with
  | waits since =>
      refine .waits trivial ⟨since, ?_⟩
      intro gathering impossible
      cases impossible
  | failed => exact .failed trivial
  | done since written => exact collect_turns {} (since.owesAnswers written)

private theorem begin_turns (ready : Ready) (command : Command) (since : start.Since conn) :
    Turns start ((unsent command).resume ready conn) := by
  unfold resume
  dsimp only
  split
  · exact .failed trivial
  · rename_i after sent
    exact goOnSending_turns .nothing .fresh (since.send sent)

private theorem resume_turns (ready : Ready) {trip : RoundTrip} (underWay : trip.underWay)
    (goes : Owing start trip conn) : Turns start (trip.resume ready conn) := by
  obtain ⟨since, owes⟩ := goes
  unfold resume
  cases trip with
  | unsent command => cases underWay
  | sending stage => exact goOnSending_turns ready stage since
  | done => exact .failed trivial
  | fetching gathering =>
      dsimp only
      split
      · exact .failed trivial
      · rename_i after consumed
        obtain ⟨_, has⟩ := Conn.consumeInput_hasAnswered consumed
        exact collect_turns gathering ((owes gathering rfl).hasAnswered has)

end RoundTrip

def Conn.owing (start : Conn) : Regime Conn where
  allows _ := True
  rests := start.Since
  goes := RoundTrip.Owing start
  fails _ _ := True
  begins ready command _ _ rests := RoundTrip.begin_turns ready command rests
  continues ready _ _ underWay goes := RoundTrip.resume_turns ready underWay goes
  waits wait _ conn goes := by
    have uptakes : (Transport.await wait conn).2.link.uptakes = conn.link.uptakes :=
      Link.await_uptakes conn.link
    exact ⟨goes.1.same rfl uptakes, fun gathering fetching =>
      (goes.2 gathering fetching).same rfl uptakes rfl rfl⟩
  refused _ _ _ _ _ := trivial
  timedOut _ _ _ := trivial
  abandoned _ _ _ := trivial

/-! ### Waiting for nothing but input -/

def Turn.Gathers {α γ τ : Type} (trips : γ → List RoundTrip) (turn : Turn α γ τ) : Prop :=
  turn.step = .wait .readable →
    ∃ gathering later, trips turn.exchange = .fetching gathering :: later

private theorem Turn.Gathers.failed {α γ τ : Type} {trips : γ → List RoundTrip} {failure : Failure}
    {exchange : γ} {transport : τ} :
    (⟨.failed failure, exchange, transport⟩ : Turn α γ τ).Gathers trips := by
  intro waiting
  cases waiting

private theorem Turn.Gathers.done {α γ τ : Type} {trips : γ → List RoundTrip} {value : α}
    {exchange : γ} {transport : τ} :
    (⟨.done value, exchange, transport⟩ : Turn α γ τ).Gathers trips := by
  intro waiting
  cases waiting

/-- An exchange waits as the round trip does that it is in the midst of. -/
theorem Turn.Gathers.onward {α β γ τ : Type} {trips : γ → List RoundTrip} {trip : RoundTrip}
    {later : List RoundTrip} {exchange : γ} {wait : Wait} {before after : τ}
    (gathers : (⟨.wait wait, trip, before⟩ : Turn α RoundTrip τ).Gathers fun trip => [trip])
    (first : trips exchange = trip :: later) :
    (⟨.wait wait, exchange, after⟩ : Turn β γ τ).Gathers trips := by
  intro waiting
  cases waiting
  obtain ⟨gathering, _, same⟩ := gathers rfl
  cases same
  exact ⟨gathering, later, first⟩

/-- An exchange that waits for nothing but input only while it takes results. -/
class Fetches (γ : Type) {α : outParam Type} [Exchange γ α] [Composed γ α] : Prop where
  resume_gathers : ∀ {τ : Type} [Transport τ] (ready : Ready) (exchange : γ) (transport : τ),
    (Exchange.resume ready exchange transport).Gathers Composed.trips

section

variable {τ : Type} [Transport τ]

namespace Sending

variable {ready : Ready} {stage : Sending} {transport : τ} {wait : Wait}

private theorem write_waits (waits : (stage.write transport).step = .wait wait) :
    wait = .either := by
  unfold write at waits
  split at waits
  · cases waits
  · cases waits
    rfl
  · cases waits

/-- Sending waits for the link in both directions. -/
theorem resume_waits (waits : (stage.resume ready transport).step = .wait wait) :
    wait = .either := by
  unfold resume at waits
  split at waits
  · cases waits
  · exact write_waits waits
  · split at waits
    · split at waits
      · cases waits
      · exact write_waits waits
    · exact write_waits waits

end Sending

namespace RoundTrip

private theorem collect_gathers (gathering : Gathering) (transport : τ) :
    (collect gathering transport).Gathers fun trip => [trip] := by
  unfold collect
  dsimp only
  split
  · exact fun _ => ⟨_, [], rfl⟩
  · split
    · exact .done
    · exact .failed

private theorem goOnSending_gathers (ready : Ready) (stage : Sending) (transport : τ) :
    (goOnSending ready stage transport).Gathers fun trip => [trip] := by
  unfold goOnSending
  split
  · rename_i wait next after resumed
    intro waiting
    cases waiting
    cases Sending.resume_waits (congrArg Turn.step resumed)
  · exact .failed
  · exact collect_gathers {} _

private theorem resume_gathers (ready : Ready) (trip : RoundTrip) (transport : τ) :
    (trip.resume ready transport).Gathers fun trip => [trip] := by
  unfold resume
  cases trip with
  | unsent command =>
      dsimp only
      split
      · exact .failed
      · exact goOnSending_gathers _ _ _
  | sending stage => exact goOnSending_gathers _ _ _
  | fetching gathering =>
      dsimp only
      split
      · exact .failed
      · exact collect_gathers _ _
  | done => exact .failed

instance : Fetches RoundTrip where
  resume_gathers := resume_gathers

end RoundTrip

private theorem Transactional.resume_gathers {α γ : Type} [Exchange γ α] [Composed γ α] [Fetches γ]
    (ready : Ready) (exchange : Transactional γ) (transport : τ) :
    (exchange.resume ready transport).Gathers trips := by
  obtain ⟨start, inner⟩ := exchange
  unfold resume
  cases start with
  | none => exact Fetches.resume_gathers ready inner transport
  | some trip =>
      have gathers := trip.resume_gathers ready transport
      dsimp only
      generalize trip.resume ready transport = turn at gathers ⊢
      obtain ⟨step, next, after⟩ := turn
      cases step with
      | wait wait =>
          dsimp only
          exact gathers.onward rfl
      | failed failure => exact .failed
      | done result =>
          dsimp only
          split
          · exact .failed
          · exact Fetches.resume_gathers .nothing inner after

namespace Declaring

private theorem describe_gathers (ready : Ready) (exchange : Declaring) (transport : τ) :
    (exchange.describe ready transport).Gathers trips := by
  have gathers := exchange.trip.resume_gathers ready transport
  unfold describe
  generalize exchange.trip.resume ready transport = turn at gathers ⊢
  obtain ⟨step, next, after⟩ := turn
  cases step with
  | wait wait =>
      dsimp only
      exact gathers.onward rfl
  | failed failure => exact .failed
  | done result =>
      dsimp only
      split
      · exact .failed
      · exact .done

private theorem resume_gathers (ready : Ready) (exchange : Declaring) (transport : τ) :
    (exchange.resume ready transport).Gathers trips := by
  unfold Declaring.resume
  split
  · exact describe_gathers ready exchange transport
  · have gathers := exchange.trip.resume_gathers ready transport
    generalize exchange.trip.resume ready transport = turn at gathers ⊢
    obtain ⟨step, next, after⟩ := turn
    cases step with
    | wait wait =>
        dsimp only
        exact gathers.onward rfl
    | failed failure => exact .failed
    | done result =>
        dsimp only
        split
        · exact .failed
        · exact describe_gathers .nothing _ after

end Declaring

namespace Working

private theorem work_gathers (ready : Ready) (exchange : Working) (transport : τ)
    (described : exchange.description = none) :
    (exchange.work ready transport).Gathers trips := by
  obtain ⟨portal, description, statement, fetching⟩ := exchange
  subst described
  unfold work
  cases statement with
  | none => exact .done
  | some trip =>
      have gathers := trip.resume_gathers ready transport
      dsimp only
      generalize trip.resume ready transport = turn at gathers ⊢
      obtain ⟨step, next, after⟩ := turn
      cases step with
      | wait wait =>
          dsimp only
          exact gathers.onward rfl
      | failed failure => exact .failed
      | done result =>
          dsimp only
          split
          · exact .failed
          · cases fetching with
            | false => exact .done
            | true => exact .done

private theorem resume_gathers (ready : Ready) (exchange : Working) (transport : τ) :
    (exchange.resume ready transport).Gathers trips := by
  obtain ⟨portal, description, statement, fetching⟩ := exchange
  unfold Working.resume
  cases description with
  | none => exact work_gathers ready _ transport rfl
  | some trip =>
      have gathers := trip.resume_gathers ready transport
      dsimp only
      generalize trip.resume ready transport = turn at gathers ⊢
      obtain ⟨step, next, after⟩ := turn
      cases step with
      | wait wait =>
          dsimp only
          exact gathers.onward rfl
      | failed failure => exact .failed
      | done result =>
          dsimp only
          split
          · exact .failed
          · exact work_gathers .nothing _ after rfl

end Working

namespace Closing

private theorem letGo_gathers (ready : Ready) (exchange : Closing) (transport : τ)
    (certain : exchange.existence = none) :
    (exchange.letGo ready transport).Gathers trips := by
  obtain ⟨existence, release⟩ := exchange
  subst certain
  have gathers := release.resume_gathers ready transport
  unfold letGo
  dsimp only
  generalize release.resume ready transport = turn at gathers ⊢
  obtain ⟨step, next, after⟩ := turn
  cases step with
  | wait wait =>
      dsimp only
      exact gathers.onward rfl
  | failed failure => exact .failed
  | done result =>
      dsimp only
      split
      · exact .failed
      · exact .done

private theorem resume_gathers (ready : Ready) (exchange : Closing) (transport : τ) :
    (exchange.resume ready transport).Gathers trips := by
  obtain ⟨existence, release⟩ := exchange
  unfold Closing.resume
  cases existence with
  | none => exact letGo_gathers ready _ transport rfl
  | some trip =>
      have gathers := trip.resume_gathers ready transport
      dsimp only
      generalize trip.resume ready transport = turn at gathers ⊢
      obtain ⟨step, next, after⟩ := turn
      cases step with
      | wait wait =>
          dsimp only
          exact gathers.onward rfl
      | failed failure => exact .failed
      | done result =>
          dsimp only
          split
          · exact .failed
          · split
            · exact .done
            · exact letGo_gathers .nothing _ after rfl

end Closing

instance {α γ : Type} [Exchange γ α] [Composed γ α] [Fetches γ] : Fetches (Transactional γ) where
  resume_gathers := Transactional.resume_gathers

instance : Fetches Declaring where
  resume_gathers := Declaring.resume_gathers

instance : Fetches Working where
  resume_gathers := Working.resume_gathers

instance : Fetches Closing where
  resume_gathers := Closing.resume_gathers

end

/-! ### Any exchange -/

section

variable {α γ : Type} [Exchange γ α] [Composed γ α]

private theorem Regime.takeUp_keeps {τ : Type} [Transport τ] {regime : Regime τ} {exchange : γ}
    {transport : τ} (stands : regime.Stands (Composed.trips exchange) transport)
    (ready : Nat → Ready) (again : Nat) :
    regime.Keeps Composed.trips (Composed.check γ) (takeUp ready again exchange transport) := by
  induction again generalizing ready exchange transport with
  | zero => exact Composed.resume_keeps regime (ready 0) exchange transport stands
  | succ again ih =>
      have kept := Composed.resume_keeps regime (ready 0) exchange transport stands
      cases stepped : (Exchange.resume (ready 0) exchange transport).step with
      | wait wait =>
          rw [takeUp_of_wait rfl stepped]
          unfold Keeps at kept
          rw [stepped] at kept
          exact ih (.inr kept) _
      | done value =>
          rw [takeUp_of_ended rfl fun _ waiting => nomatch stepped ▸ waiting]
          exact kept
      | failed failure =>
          rw [takeUp_of_ended rfl fun _ waiting => nomatch stepped ▸ waiting]
          exact kept

/-- Nothing of the exchange has been sent yet, or it is a round trip whose command was put there
by somebody else. -/
def Composed.Unwritten (exchange : γ) : Prop :=
  Composed.Fresh exchange ∨ Composed.trips exchange = [RoundTrip.dispatched]

private theorem Composed.Unwritten.stands {exchange : γ} (unwritten : Composed.Unwritten exchange)
    (conn : Conn) : conn.owing.Stands (Composed.trips exchange) conn := by
  have since : conn.Since conn := ⟨Nat.le_refl _, List.suffix_rfl⟩
  rcases unwritten with fresh | dispatched
  · refine .inl ⟨since, ?_⟩
    intro trip member
    obtain ⟨command, rfl⟩ := fresh trip member
    exact trivial
  · refine .inr ⟨_, _, dispatched, trivial, ⟨since, ?_⟩, List.forall_mem_nil _⟩
    intro gathering impossible
    cases impossible

variable [Fetches γ]

private theorem takeUp_owesAnswers {exchange : γ} (unwritten : Composed.Unwritten exchange)
    (conn : Conn) {ready : Nat → Ready} {again : Nat}
    (waiting : (takeUp ready again exchange conn).step = .wait .readable) :
    conn.OwesAnswers (takeUp ready again exchange conn).transport := by
  have kept := Regime.takeUp_keeps (unwritten.stands conn) ready again
  unfold Regime.Keeps at kept
  rw [waiting] at kept
  obtain ⟨trip, _, trips, _, goes, _⟩ := kept
  obtain ⟨seen, last, before, resumed⟩ := takeUp_last ready again exchange conn
  rw [resumed] at waiting trips
  obtain ⟨gathering, _, fetching⟩ := Fetches.resume_gathers seen last before waiting
  rw [fetching] at trips
  cases trips
  exact goes.2 gathering rfl

/-- Whenever an exchange waits for nothing but input, all that may be left to be written is the
end of what some requests to copy are answered that the server has made since the exchange
began, and the link has refused it when it was last offered. So all has been written if the
server has not asked for rows to be copied, or if the link has taken what it was offered. -/
theorem takeUp_unwritten {exchange : γ} (unwritten : Composed.Unwritten exchange) (conn : Conn)
    (ready : Nat → Ready) (again : Nat)
    (waiting : (takeUp ready again exchange conn).step = .wait .readable) :
    let after := (takeUp ready again exchange conn).transport
    (∃ asked, conn.refusalsTold + asked ≤ after.refusalsTold ∧
        after.outbox <:+ stream (Conn.copyAnswers asked after.extended)) ∧
      (after.outbox ≠ [] →
        ∃ earlier, conn.link.uptakes = earlier ++ .refused :: after.link.uptakes) ∧
      (after.refusalsTold = conn.refusalsTold ∨ .refused ∉ conn.link.uptakes →
        after.outbox = []) := by
  intro after
  have owes : conn.OwesAnswers after := takeUp_owesAnswers unwritten conn waiting
  refine ⟨owes.answers, owes.refused, ?_⟩
  rintro (untold | unrefused)
  · obtain ⟨asked, counted, outbox⟩ := owes.answers
    have none : asked = 0 := by omega
    subst none
    exact List.suffix_nil.mp outbox
  · by_cases left : after.outbox = []
    · exact left
    · obtain ⟨earlier, same⟩ := owes.refused left
      rw [same] at unrefused
      exact absurd (List.mem_append_right _ List.mem_cons_self) unrefused

end

/-- A transaction is started, and `BEGIN` is written in two parts. Its answer is not there yet. -/
theorem takeUp_unwritten_begin :
    let conn : Conn := { link := { uptakes := [.accepted 3, .refused] } }
    let exchange := (Session.ofTransport conn none).inTransaction (RoundTrip.unsent (.query ""))
    let turn := takeUp (fun _ => ⟨false, true⟩) 1 exchange conn
    turn.step = .wait .readable ∧ turn.transport.outbox = [] ∧
      turn.transport.link.delivered = stream [.query "BEGIN"] := by
  intro conn exchange turn
  have waiting : turn.step = .wait .readable := by decide +kernel
  have unwritten : Composed.Unwritten exchange :=
    .inl (Session.inTransaction_fresh _ (RoundTrip.fresh _))
  obtain ⟨_, _, written⟩ := takeUp_unwritten unwritten conn _ _ waiting
  exact ⟨waiting, written (.inl (by decide +kernel)), by decide +kernel⟩

/-- A server asks for rows, and the link takes ten bytes of what it is answered. The exchange
waits for the server, and the server for the rest of the answer. -/
theorem takeUp_leaves_copyRefusal :
    let request := (BackendMessage.copyInResponse 0 []).frame
    let link : Link :=
      { arrivals := [.data (Frame.stream [request])]
        uptakes := [.accepted 1000, .accepted 10, .refused] }
    let turn := takeUp (fun _ => ⟨true, false⟩) 1 (RoundTrip.unsent (.query "copy t from stdin"))
      ({ link } : Conn)
    turn.step = .wait .readable ∧
      turn.transport.outbox = (stream [Conn.copyRefusal]).drop 10 ∧
      turn.transport.outbox.length = 32 := by
  decide +kernel

end PgClient

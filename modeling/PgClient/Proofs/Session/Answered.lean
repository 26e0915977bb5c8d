/-
Commands that are answered.

A session that is ready for a command accepts each that fits, and is ready again when the
command has succeeded. So a call whose commands fit fails only where one of them was sent and
has not succeeded, and the record tells so.
-/

import PgClient.Proofs.Exchange.Conclusion
import PgClient.Proofs.Session.Dispatched
import PgClient.Proofs.Session.Lost

namespace PgClient

def Unanswered (log : List Asked) : Prop :=
  ∃ asked ∈ log, asked.success? = none

instance (log : List Asked) : Decidable (Unanswered log) :=
  inferInstanceAs (Decidable (∃ asked ∈ log, asked.success? = none))

/-! ### The record never gets shorter -/

theorem Transport.Keeps.resume {α γ τ : Type} [Exchange γ α] [Uniform γ α] [Transport τ]
    {Holds : τ → Prop} (keeps : Transport.Keeps Holds) (ready : Ready) (exchange : γ)
    {transport : τ} (holds : Holds transport) :
    Holds (Exchange.resume ready exchange transport).transport := by
  let _ := keeps.restricted
  have same := Uniform.resume_through keeps.restricted_isView ready exchange ⟨transport, holds⟩
  exact (congrArg (fun turn => Holds turn.transport) same).mpr (Subtype.property _)

namespace Observed

variable {τ : Type} [Transport τ]

private theorem length_note (results : List QueryResult) (ended : Bool) (log : List Asked) :
    (Asked.note results ended log).length = log.length := by
  cases log with
  | nil => rfl
  | cons asked earlier => rfl

private theorem length_keeps (count : Nat) :
    Transport.Keeps fun observed : Observed τ => count ≤ observed.log.length where
  send command observed long := by
    change count ≤ (observed.send command).2.log.length
    unfold send
    rcases Transport.send command observed.transport with ⟨failure | sent, after⟩
    · exact long
    · exact Nat.le_succ_of_le long
  flush _ long := long
  consumeInput _ long := long
  takeResult observed long := by
    change count ≤ (Asked.note _ _ observed.log).length
    rw [length_note]
    exact long
  takeResults observed long := by
    change count ≤ (Asked.note _ _ observed.log).length
    rw [length_note]
    exact long
  await _ _ long := long
  finish _ long := long
  record _ _ long := long

end Observed

/-! ### Round trips -/

namespace RoundTrip

variable {trip : RoundTrip} {command : Command} {earlier log : List Asked}

/-- The command of the round trip has been sent, over a session that has not been lost. -/
structure Watched (trip : RoundTrip) (observed : Observed Conn) : Prop where
  underWay : trip.underWay
  sane : observed.transport.Sane
  counted : trip.Sane
  asking : ∃ command earlier, Asking command earlier trip observed.log

private theorem Watched.unanswered {observed : Observed Conn} (watched : trip.Watched observed) :
    Unanswered observed.log := by
  obtain ⟨command, earlier, asking⟩ := watched.asking
  have underWay := watched.underWay
  generalize observed.log = log at asking ⊢
  cases asking with
  | unsent => cases underWay
  | sending stage => exact ⟨_, List.mem_cons_self, rfl⟩
  | fetching results => exact ⟨_, List.mem_cons_self, rfl⟩

private theorem Asking.length (underWay : trip.underWay)
    (asking : Asking command earlier trip log) :
    earlier.length < log.length := by
  cases asking with
  | unsent => cases underWay
  | sending stage => exact Nat.lt_succ_self _
  | fetching results => exact Nat.lt_succ_self _

/-- What becomes of the session that is watched, and what the record tells, put together. -/
theorem meets_of_goes {turn : Turn QueryResult RoundTrip (Observed Conn)}
    (loses : Loses (turn.through Observed.transport)) (goes : Goes command earlier turn)
    (sent : earlier.length < turn.transport.log.length) :
    Meets Watched (fun observed => observed.transport.isClosed = false ∧ observed.transport.Quiet)
      (fun _ observed => Unanswered observed.log) turn := by
  cases goes with
  | waits asking =>
      cases loses with
      | waits underWay kept => exact .waits underWay ⟨underWay, kept.1, kept.2, _, _, asking⟩
  | failed denied =>
      refine .failed ?_
      rcases denied with same | ⟨asked, added, _, unsuccessful⟩
      · rw [same] at sent
        exact absurd sent (Nat.lt_irrefl _)
      · exact ⟨asked, by rw [added]; exact List.mem_cons_self, unsuccessful⟩
  | @done result next after heard =>
      cases checked : result.check with
      | error error =>
          obtain ⟨asked, added, _, answer⟩ := heard
          refine .denied checked ⟨asked, by rw [added]; exact List.mem_cons_self, ?_⟩
          rw [Asked.success?, answer, Option.bind_some, checked]
          rfl
      | ok passed =>
          cases loses with
          | denied failed _ => cases failed.symm.trans checked
          | granted _ rested => exact .granted checked rested

variable {observed : Observed Conn}

private theorem resume_meets (watched : trip.Watched observed) (ready : Ready) :
    Meets Watched (fun observed => observed.transport.isClosed = false ∧ observed.transport.Quiet)
      (fun _ observed => Unanswered observed.log) (trip.resume ready observed) := by
  obtain ⟨underWay, sane, counted, command, earlier, asking⟩ := watched
  have loses := resume_loses sane underWay counted ready
  rw [resume_through Observed.transport_isView ready trip observed] at loses
  exact meets_of_goes loses (resume_goes ready asking)
    ((Observed.length_keeps (earlier.length + 1)).resume ready trip (asking.length underWay))

private theorem begin_meets (isOpen : observed.transport.isClosed = false)
    (quiet : observed.transport.Quiet) (fits : command.Fits) (ready : Ready) :
    Meets Watched (fun observed => observed.transport.isClosed = false ∧ observed.transport.Quiet)
      (fun _ observed => Unanswered observed.log) ((unsent command).resume ready observed) := by
  have loses := begin_loses isOpen quiet ready command
  rw [resume_through Observed.transport_isView ready (unsent command) observed] at loses
  refine meets_of_goes loses (resume_goes ready .unsent) ?_
  have accepted : Transport.send command observed =
      (.ok (), ⟨observed.transport.asked command, { command } :: observed.log⟩) := by
    rw [Observed.send_eq, Observed.send]
    have sends : Transport.send command observed.transport =
        (.ok (), observed.transport.asked command) := Conn.send_of_fits isOpen quiet fits
    rw [sends]
  have same : (unsent command).resume ready observed = dispatched.resume .nothing _ :=
    (Dispatches.roundTrip command).accepted ready accepted
  rw [same]
  exact (Observed.length_keeps (observed.log.length + 1)).resume .nothing dispatched
    (Nat.le_refl (observed.log.length + 1))

end RoundTrip

/-- Over an open session that is ready for a command, commands that fit may be sent. -/
def Conn.answering : Regime (Observed Conn) where
  allows := Command.Fits
  rests observed := observed.transport.isClosed = false ∧ observed.transport.Quiet
  goes := RoundTrip.Watched
  fails _ observed := Unanswered observed.log
  begins ready _ _ fits rests := RoundTrip.begin_meets rests.1 rests.2 fits ready
  continues ready _ _ _ watched := RoundTrip.resume_meets watched ready
  waits _ _ _ watched :=
    { watched with sane := ⟨watched.sane.isOpen, watched.sane.results⟩ }
  refused _ _ _ watched _ := watched.unanswered
  timedOut _ _ watched := watched.unanswered
  abandoned _ _ watched := watched.unanswered

/-! ### Calls -/

namespace Session

structure Ready (session : Session (Observed Conn)) : Prop where
  isOpen : session.closed = false
  live : session.transport.transport.isClosed = false
  quiet : session.transport.transport.Quiet

end Session

end PgClient

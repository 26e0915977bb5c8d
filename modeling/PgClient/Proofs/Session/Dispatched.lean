/-
Exchanges that begin with a command.

Such an exchange sends its command at once, over the session as it finds it. If the command
is refused the exchange has failed; if it is accepted the exchange goes on as one of which
the command has been sent. From then on whatever every operation of the transport keeps is
kept to the end.
-/

import PgClient.Proofs.Exchange.Attested
import PgClient.Proofs.Session.Starting

namespace PgClient

variable {α γ τ : Type} [Exchange γ α] [Transport τ]

/-! ### The first command -/

/-- The exchange sends the command first, and goes on as the other one when it is sent. -/
structure Dispatches (exchange : γ) (command : Command) (sent : γ) : Prop where
  refused : ∀ {τ : Type} [Transport τ] {transport after : τ} {failure : Failure} (ready : Ready),
    Transport.send command transport = (.error failure, after) →
      ∃ left, Exchange.resume ready exchange transport = ⟨.failed failure, left, after⟩
  accepted : ∀ {τ : Type} [Transport τ] {transport after : τ} (ready : Ready),
    Transport.send command transport = (.ok (), after) →
      Exchange.resume ready exchange transport = Exchange.resume .nothing sent after

namespace Dispatches

variable {inner sent : γ} {command : Command}

theorem roundTrip (command : Command) :
    Dispatches (RoundTrip.unsent command) command .dispatched where
  refused ready sends := by
    refine ⟨.unsent command, ?_⟩
    change RoundTrip.resume ready (.unsent command) _ = _
    unfold RoundTrip.resume
    simp only [sends]
  accepted ready sends := by
    change RoundTrip.resume ready (.unsent command) _ = RoundTrip.goOnSending .nothing .fresh _
    unfold RoundTrip.resume
    simp only [sends]

/-- What starts a transaction is sent first. -/
theorem started {start next : RoundTrip} (dispatches : Dispatches start command next)
    (inner : γ) :
    Dispatches ({ start := some start, inner } : Transactional γ) command
      { start := some next, inner } where
  refused {_ _ _ after _} ready sends := by
    obtain ⟨left, failed⟩ := dispatches.refused ready sends
    exact ⟨_, Waiting.resume_unable failed⟩
  accepted {_ _ transport after} ready sends := by
    have resumed : start.resume ready transport = next.resume .nothing after :=
      dispatches.accepted ready sends
    change Transactional.resume ready _ transport = Transactional.resume .nothing _ after
    simp only [Transactional.resume, resumed]

theorem unstarted (dispatches : Dispatches inner command sent) :
    Dispatches ({ start := none, inner } : Transactional γ) command
      { start := none, inner := sent } where
  refused ready sends := by
    obtain ⟨left, failed⟩ := dispatches.refused ready sends
    refine ⟨{ start := none, inner := left }, ?_⟩
    rw [Waiting.resume_unstarted, Transactional.goOn, failed]
  accepted ready sends := by
    rw [Waiting.resume_unstarted, Waiting.resume_unstarted, Transactional.goOn,
      Transactional.goOn, dispatches.accepted ready sends]

theorem declaring {trip next : RoundTrip} (dispatches : Dispatches trip command next)
    (portal : Portal) :
    Dispatches ({ portal, trip } : Declaring) command { portal, trip := next } where
  refused {_ _ transport after failure} ready sends := by
    obtain ⟨left, failed⟩ := dispatches.refused ready sends
    have resumed : trip.resume ready transport = ⟨.failed failure, left, after⟩ := failed
    refine ⟨{ portal, trip := left }, ?_⟩
    change Declaring.resume ready _ transport = _
    simp only [Declaring.resume, resumed, Bool.false_eq_true, if_false]
  accepted {_ _ transport after} ready sends := by
    have resumed : trip.resume ready transport = next.resume .nothing after :=
      dispatches.accepted ready sends
    change Declaring.resume ready _ transport = Declaring.resume .nothing _ after
    simp only [Declaring.resume, resumed, Bool.false_eq_true, if_false]

variable {manner : Manner} {timeout : Option Nat} {patience : Nat} {transport after : τ}

theorem drive_refused {failure : Failure} (dispatches : Dispatches inner command sent)
    (sends : Transport.send command transport = (.error failure, after)) :
    ∃ left, Waiting.drive manner timeout (patience + 1) inner transport =
      ⟨.error failure, left, after⟩ := by
  obtain ⟨left, failed⟩ := dispatches.refused .nothing sends
  refine ⟨left, ?_⟩
  rw [Waiting.drive, Waiting.awaitTask, Waiting.poll, failed]

/-- Driving the exchange is driving the other one from where the command has been sent. -/
theorem drive_accepted (dispatches : Dispatches inner command sent)
    (sends : Transport.send command transport = (.ok (), after)) :
    Waiting.drive manner timeout (patience + 1) inner transport =
      Waiting.drive manner timeout (patience + 1) sent after := by
  have same := dispatches.accepted .nothing sends
  rw [Waiting.drive, Waiting.drive, Waiting.awaitTask, Waiting.awaitTask, Waiting.poll,
    Waiting.poll, same]

end Dispatches

/-! ### What every operation keeps -/

structure Transport.Keeps (Holds : τ → Prop) : Prop where
  send : ∀ command transport, Holds transport → Holds (Transport.send command transport).2
  flush : ∀ transport, Holds transport → Holds (Transport.flush transport).2
  consumeInput : ∀ transport, Holds transport → Holds (Transport.consumeInput transport).2
  takeResult : ∀ transport, Holds transport → Holds (Transport.takeResult transport).2
  takeResults : ∀ transport, Holds transport → Holds (Transport.takeResults transport).2
  await : ∀ wait transport, Holds transport → Holds (Transport.await wait transport).2
  finish : ∀ transport, Holds transport → Holds (Transport.finish transport)
  record : ∀ event transport, Holds transport → Holds (Transport.record event transport)

namespace Transport.Keeps

variable {Holds : τ → Prop}

/-- A transport of which something holds, and goes on to hold. -/
@[reducible]
def restricted (keeps : Keeps Holds) : Transport { transport : τ // Holds transport } where
  send command transport :=
    ((Transport.send command transport.1).1,
      ⟨(Transport.send command transport.1).2, keeps.send command transport.1 transport.2⟩)
  flush transport :=
    ((Transport.flush transport.1).1,
      ⟨(Transport.flush transport.1).2, keeps.flush transport.1 transport.2⟩)
  consumeInput transport :=
    ((Transport.consumeInput transport.1).1,
      ⟨(Transport.consumeInput transport.1).2, keeps.consumeInput transport.1 transport.2⟩)
  isBusy transport := Transport.isBusy transport.1
  takeResult transport :=
    ((Transport.takeResult transport.1).1,
      ⟨(Transport.takeResult transport.1).2, keeps.takeResult transport.1 transport.2⟩)
  takeResults transport :=
    ((Transport.takeResults transport.1).1,
      ⟨(Transport.takeResults transport.1).2, keeps.takeResults transport.1 transport.2⟩)
  checkOpen transport := Transport.checkOpen transport.1
  await wait transport :=
    ((Transport.await wait transport.1).1,
      ⟨(Transport.await wait transport.1).2, keeps.await wait transport.1 transport.2⟩)
  patience transport := Transport.patience transport.1
  transactionStatus transport := Transport.transactionStatus transport.1
  clientEncoding transport := Transport.clientEncoding transport.1
  isClosed transport := Transport.isClosed transport.1
  finish transport := ⟨Transport.finish transport.1, keeps.finish transport.1 transport.2⟩
  record event transport :=
    ⟨Transport.record event transport.1, keeps.record event transport.1 transport.2⟩

theorem restricted_isView (keeps : Keeps Holds) :
    @Transport.IsView _ τ keeps.restricted _ Subtype.val :=
  let _ := keeps.restricted
  { send := fun _ _ => rfl
    flush := fun _ => rfl
    consumeInput := fun _ => rfl
    isBusy := fun _ => rfl
    takeResult := fun _ => rfl
    takeResults := fun _ => rfl
    checkOpen := fun _ => rfl
    await := fun _ _ => rfl
    patience := fun _ => rfl
    transactionStatus := fun _ => rfl
    isClosed := fun _ => rfl
    finish := fun _ => rfl
    record := fun _ _ => rfl }

variable [Uniform γ α]

/-- What every operation keeps is kept however an exchange is driven. -/
theorem drive (keeps : Keeps Holds) (manner : Manner) (timeout : Option Nat) (patience : Nat)
    (exchange : γ) {transport : τ} (holds : Holds transport) :
    Holds (Waiting.drive manner timeout patience exchange transport).transport := by
  let _ := keeps.restricted
  have same := Waiting.awaitTask_through keeps.restricted_isView timeout patience
    manner.givenUpAt .nothing exchange ⟨transport, holds⟩
  exact (congrArg (fun ended => Holds ended.transport) same).mpr (Subtype.property _)

end Transport.Keeps

end PgClient

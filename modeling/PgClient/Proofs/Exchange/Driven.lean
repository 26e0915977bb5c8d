/-
What is known of an exchange from turn to turn, however it is driven.

A driver takes turns, waits between them, and stops where a turn is the last one, where it must
not wait, where its time is over, or where it is given up. What every turn and every wait keeps
leads to what is known at each of these ends. A blocking call is a task that is not given up, so
tasks are all there is to look at.
-/

import PgClient.Exchange.Waiting

namespace PgClient

variable {α γ τ : Type} [Exchange γ α] [Transport τ] {timeout : Option Nat}
  {Stands Going : γ → τ → Prop} {Over : Ended α γ τ → Prop}

def Turn.Reaches (Going : γ → τ → Prop) (Over : Ended α γ τ → Prop) (turn : Turn α γ τ) : Prop :=
  match turn.step with
  | .wait _ => Going turn.exchange turn.transport
  | .done value => Over ⟨.ok value, turn.exchange, turn.transport⟩
  | .failed failure => Over ⟨.error failure, turn.exchange, turn.transport⟩

/-- What is known before a turn, between turns, and at the end. -/
structure Waiting.Upholds (timeout : Option Nat) (Stands Going : γ → τ → Prop)
    (Over : Ended α γ τ → Prop) : Prop where
  turn : ∀ ready {exchange transport}, Stands exchange transport →
    (Exchange.resume ready exchange transport).Reaches Going Over
  waits : ∀ wait {exchange transport}, Going exchange transport →
    Going exchange (Transport.await wait transport).2
  again : ∀ {exchange transport}, Going exchange transport → Stands exchange transport
  refused : ∀ {exchange transport error}, Going exchange transport →
    Waiting.mayWait timeout transport = .error error →
      Over ⟨.error (.error error), exchange, transport⟩
  timedOut : ∀ {exchange transport}, Going exchange transport →
    Over ⟨.error (.error .timedOut), exchange, transport⟩
  abandoned : ∀ {exchange transport}, Going exchange transport →
    Over ⟨.error .abandoned, exchange, transport⟩

namespace Waiting.Upholds

/-- One turn of a task, where what follows a suspension ends as it should. -/
theorem awaitTask_turn (upholds : Upholds timeout Stands Going Over) {patience : Nat}
    (onward : ∀ givenUpAt ready {exchange transport}, Going exchange transport →
      Over (awaitTask timeout patience givenUpAt ready exchange transport))
    (givenUpAt : Option Nat) {ready : Ready} {exchange : γ} {transport : τ}
    (reaches : (Exchange.resume ready exchange transport).Reaches Going Over) :
    Over (awaitTask timeout (patience + 1) givenUpAt ready exchange transport) := by
  unfold awaitTask poll
  dsimp only
  generalize Exchange.resume ready exchange transport = turn at reaches ⊢
  obtain ⟨step, next, after⟩ := turn
  cases step with
  | done value => exact reaches
  | failed failure => exact reaches
  | wait wait =>
      have going : Going next after := reaches
      have later := upholds.waits wait going
      dsimp only
      cases allowed : mayWait timeout after with
      | error error => exact upholds.refused going allowed
      | ok _ =>
          dsimp only
          by_cases givenUp : givenUpAt = some 0
          · rw [if_pos givenUp]
            exact upholds.abandoned going
          · rw [if_neg givenUp]
            generalize Transport.await wait after = reported at later ⊢
            rcases reported with ⟨none | seen, awaited⟩
            · exact upholds.timedOut later
            · exact onward _ seen later

/-- From between two turns a task ends as it should, however many turns are left. -/
theorem awaitTask_going (upholds : Upholds timeout Stands Going Over) (patience : Nat)
    (givenUpAt : Option Nat) (ready : Ready) {exchange : γ} {transport : τ}
    (going : Going exchange transport) :
    Over (awaitTask timeout patience givenUpAt ready exchange transport) := by
  induction patience generalizing givenUpAt ready exchange transport with
  | zero => exact upholds.timedOut going
  | succ patience ih =>
      exact upholds.awaitTask_turn (fun givenUpAt ready _ _ => ih givenUpAt ready) givenUpAt
        (upholds.turn ready (upholds.again going))

/-- A task ends as it should once its first turn has been taken. -/
theorem awaitTask_reaches (upholds : Upholds timeout Stands Going Over) (patience : Nat)
    (givenUpAt : Option Nat) {ready : Ready} {exchange : γ} {transport : τ}
    (reaches : (Exchange.resume ready exchange transport).Reaches Going Over) :
    Over (awaitTask timeout (patience + 1) givenUpAt ready exchange transport) :=
  upholds.awaitTask_turn
    (fun givenUpAt ready _ _ => upholds.awaitTask_going patience givenUpAt ready) givenUpAt reaches

theorem run (upholds : Upholds timeout Stands Going Over) (manner : Manner) {exchange : γ}
    {transport : τ} (stands : Stands exchange transport) :
    Over (Waiting.run manner timeout exchange transport) := by
  rw [run_eq_awaitTask]
  exact upholds.awaitTask_reaches _ manner.givenUpAt (upholds.turn .nothing stands)

end Waiting.Upholds

end PgClient

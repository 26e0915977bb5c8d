/-
Two exchanges that are driven in the same way from the same place.

As long as each turn of one does what the turn of the other does, they wait for the same,
are cut off at the same place and fail alike. They part when one of them gets past a point
that it does not come back from.
-/

import PgClient.Proofs.Cursor.Bound
import PgClient.Proofs.Session.Starting

namespace PgClient

variable {α β γ δ τ : Type} [Exchange γ α] [Exchange δ β] [Transport τ]
  {Beside : γ → δ → Prop} {Past : δ → Prop}

/-- The turns do the same, and leave the exchanges beside each other, or the second is past its
point. -/
inductive Turn.Abreast (Beside : γ → δ → Prop) (Past : δ → Prop) :
    Turn α γ τ → Turn β δ τ → Prop
  | waits {wait : Wait} {one : γ} {other : δ} {transport : τ} (beside : Beside one other) :
      Abreast Beside Past ⟨.wait wait, one, transport⟩ ⟨.wait wait, other, transport⟩
  | failed {failure : Failure} {one : γ} {other : δ} {transport : τ} (beside : Beside one other) :
      Abreast Beside Past ⟨.failed failure, one, transport⟩ ⟨.failed failure, other, transport⟩
  | past {turn : Turn α γ τ} {other : Turn β δ τ} (past : Past other.exchange) :
      Abreast Beside Past turn other

inductive Ended.Abreast (Beside : γ → δ → Prop) (Past : δ → Prop) :
    Ended α γ τ → Ended β δ τ → Prop
  | failed {failure : Failure} {one : γ} {other : δ} {transport : τ} (beside : Beside one other) :
      Abreast Beside Past ⟨.error failure, one, transport⟩ ⟨.error failure, other, transport⟩
  | past {ended : Ended α γ τ} {other : Ended β δ τ} (past : Past other.exchange) :
      Abreast Beside Past ended other

/-- Exchanges that are beside each other stay so with each turn, until the second is past its
point for good. -/
structure Accompanies (τ : Type) [Transport τ] (Beside : γ → δ → Prop) (Past : δ → Prop) :
    Prop where
  turn : ∀ (ready : Ready) (one : γ) (other : δ) (transport : τ), Beside one other →
    (Exchange.resume ready one transport).Abreast Beside Past
      (Exchange.resume ready other transport)
  past : ∀ (ready : Ready) (other : δ) (transport : τ), Past other →
    Past (Exchange.resume ready other transport).exchange

namespace Waiting

private theorem awaitTask_abreast (accompanies : Accompanies τ Beside Past) (timeout : Option Nat)
    (patience : Nat) (givenUpAt : Option Nat) (ready : Ready) (one : γ) (other : δ)
    (transport : τ) (beside : Beside one other) :
    (awaitTask timeout patience givenUpAt ready one transport).Abreast Beside Past
      (awaitTask timeout patience givenUpAt ready other transport) := by
  induction patience generalizing givenUpAt ready one other transport with
  | zero => exact .failed beside
  | succ patience ih =>
      have abreast := accompanies.turn ready one other transport beside
      generalize first : Exchange.resume ready one transport = turn at abreast
      generalize second : Exchange.resume ready other transport = otherTurn at abreast
      cases abreast with
      | @waits wait one other after beside =>
          unfold awaitTask poll
          rw [first, second]
          dsimp only
          cases mayWait timeout after with
          | error error => exact .failed beside
          | ok allowed =>
              dsimp only
              by_cases givenUp : givenUpAt = some 0
              · rw [if_pos givenUp, if_pos givenUp]
                exact .failed beside
              · rw [if_neg givenUp, if_neg givenUp]
                rcases Transport.await wait after with ⟨none | seen, awaited⟩
                · exact .failed beside
                · exact ih _ seen one other awaited beside
      | failed beside =>
          unfold awaitTask poll
          rw [first, second]
          exact .failed beside
      | past past =>
          have upholds := upholds_exchange (τ := τ) timeout accompanies.past
          rw [← second] at past
          exact .past (upholds.awaitTask_reaches patience givenUpAt (reaches_exchange past))

end Waiting

/-- The calls fail alike, or the second exchange has got past its point. -/
theorem Session.run_abreast (accompanies : Accompanies τ Beside Past) (manner : Manner)
    {one : γ} {other : δ} (session : Session τ) (beside : Beside one other) :
    (∃ failure one' other' after, Beside one' other' ∧
      session.run manner one = ⟨.error failure, one', after⟩ ∧
        session.run manner other = ⟨.error failure, other', after⟩) ∨
      Past (session.run manner other).exchange := by
  have abreast : (Waiting.run manner session.timeout one session.transport).Abreast Beside Past
      (Waiting.run manner session.timeout other session.transport) := by
    rw [Waiting.run_eq_awaitTask, Waiting.run_eq_awaitTask]
    exact Waiting.awaitTask_abreast accompanies _ _ _ _ one other _ beside
  unfold run
  generalize Waiting.run manner session.timeout one session.transport = ended at abreast ⊢
  generalize Waiting.run manner session.timeout other session.transport = otherEnded at abreast ⊢
  cases abreast with
  | @failed failure one other transport beside =>
      refine .inl ⟨failure, one, other, _, beside, rfl, ?_⟩
      dsimp only
      rw [settle_congr]
  | past past => exact .inr past

end PgClient

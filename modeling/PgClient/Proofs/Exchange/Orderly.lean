/-
Exchanges that leave nothing of an answer behind.

An exchange either has its command under way, and then whatever the session holds of
the answer is its own, or it is about to send a command, and then the session has to be
settled. Every way out of a turn gives the session back settled, but for misuse and
for a wait that its owner does not go on with.
-/

import PgClient.Cursor.Portal
import PgClient.Exchange.Waiting
import PgClient.Proofs.Conn.Settled
import PgClient.Session

namespace PgClient

def Turn.Orderly {α γ : Type} (underWay : γ → Prop) (turn : Turn α γ Conn) : Prop :=
  match turn.step with
  | .wait _ => underWay turn.exchange
  | .done _ => turn.transport.Settled
  | .failed (.error error) => turn.transport.Settled ∧ ¬error.IsOverlap
  | .failed _ => True

/-- Exchanges of which every turn is orderly. -/
class Orderly (γ : Type) (α : outParam Type) [Exchange γ α] where
  /-- The command that the exchange is at has been sent. -/
  underWay : γ → Prop
  resume_orderly : ∀ (ready : Ready) (exchange : γ) (conn : Conn),
    underWay exchange ∨ conn.Settled →
      (Exchange.resume ready exchange conn).Orderly underWay

namespace Turn.Orderly

variable {α β γ δ : Type} {underWay : γ → Prop} {exchange : γ} {conn : Conn}

theorem of_wait {wait : Wait}
    (turn : Orderly underWay (⟨.wait wait, exchange, conn⟩ : Turn α γ Conn)) :
    underWay exchange :=
  turn

theorem of_done {value : α}
    (turn : Orderly underWay (⟨.done value, exchange, conn⟩ : Turn α γ Conn)) :
    conn.Settled :=
  turn

/-- A failure is as orderly in an exchange as it was in a part of it. -/
theorem failed {failure : Failure} {inner : δ} {innerUnderWay : δ → Prop}
    (turn : Orderly innerUnderWay (⟨.failed failure, inner, conn⟩ : Turn β δ Conn)) :
    Orderly underWay (⟨.failed failure, exchange, conn⟩ : Turn α γ Conn) := by
  cases failure with
  | error error => exact turn
  | defect defect => exact trivial
  | abandoned => exact trivial

end Turn.Orderly

/-! ### Round trips -/

namespace RoundTrip

def underWay : RoundTrip → Prop
  | .unsent _ => False
  | _ => True

private theorem collect_orderly (gathering : Gathering) (conn : Conn) :
    (collect gathering conn).Orderly underWay := by
  unfold collect
  dsimp only
  split
  · exact trivial
  · rename_i idle
    have settled := Conn.takeResults_settled (Bool.not_eq_true _ ▸ idle)
    split
    · exact settled
    · refine ⟨settled, ?_⟩
      intro overlap
      cases overlap

private theorem write_error {sending stage : Sending} {conn after : Conn} {failure : Failure}
    (wrote : sending.write conn = ⟨.failed failure, stage, after⟩) :
    ∃ error, failure = .error error ∧ after.isClosed = true ∧ ¬error.IsOverlap := by
  unfold Sending.write at wrote
  split at wrote
  · rename_i flushed
    cases wrote
    exact ⟨_, rfl, Conn.flush_error flushed⟩
  · cases wrote
  · cases wrote

private theorem sending_error {ready : Ready} {sending stage : Sending} {conn after : Conn}
    {error : Error} (resumed : sending.resume ready conn = ⟨.failed (.error error), stage, after⟩) :
    after.isClosed = true ∧ ¬error.IsOverlap := by
  unfold Sending.resume at resumed
  split at resumed
  · cases resumed
  · obtain ⟨_, same, ends⟩ := write_error resumed
    cases same
    exact ends
  · split at resumed
    · split at resumed
      · rename_i consumed
        cases resumed
        exact Conn.consumeInput_error consumed
      · obtain ⟨_, same, ends⟩ := write_error resumed
        cases same
        exact ends
    · obtain ⟨_, same, ends⟩ := write_error resumed
      cases same
      exact ends

private theorem goOnSending_orderly (ready : Ready) (stage : Sending) (conn : Conn) :
    (goOnSending ready stage conn).Orderly underWay := by
  unfold goOnSending
  split
  · exact trivial
  · rename_i failure stage after resumed
    cases failure with
    | error error =>
        obtain ⟨closed, fair⟩ := sending_error resumed
        exact ⟨.inl closed, fair⟩
    | defect defect => exact trivial
    | abandoned => exact trivial
  · exact collect_orderly _ _

private theorem resume_orderly (ready : Ready) (trip : RoundTrip) (conn : Conn)
    (fits : underWay trip ∨ conn.Settled) : (trip.resume ready conn).Orderly underWay := by
  unfold RoundTrip.resume
  split
  · rename_i command
    have settled : conn.Settled := fits.resolve_left id
    split
    · rename_i failure after sent
      cases failure with
      | error error =>
          obtain ⟨closed, fair⟩ := Conn.send_error settled sent
          exact ⟨.inl closed, fair⟩
      | defect defect => exact trivial
      | abandoned => exact trivial
    · exact goOnSending_orderly _ _ _
  · exact goOnSending_orderly _ _ _
  · split
    · rename_i consumed
      obtain ⟨closed, fair⟩ := Conn.consumeInput_error consumed
      exact ⟨.inl closed, fair⟩
    · exact collect_orderly _ _
  · exact trivial

end RoundTrip

instance : Orderly RoundTrip QueryResult where
  underWay := RoundTrip.underWay
  resume_orderly := RoundTrip.resume_orderly

theorem QueryResult.check_error {result : QueryResult} {error : Error}
    (checked : result.check = .error error) : ¬error.IsOverlap := by
  intro overlap
  unfold check at checked
  split at checked
  · cases checked
    cases overlap
  · cases checked
    cases overlap
  · cases checked

private theorem Turn.Orderly.of_check {α γ : Type} {underWay : γ → Prop} {exchange : γ}
    {conn : Conn} {result : QueryResult} {error : Error} (settled : conn.Settled)
    (checked : result.check = .error error) :
    Orderly underWay (⟨.ofError error, exchange, conn⟩ : Turn α γ Conn) :=
  ⟨settled, QueryResult.check_error checked⟩

/-! ### Exchanges of several round trips -/

namespace Transactional

variable {α γ : Type} [Exchange γ α] [Orderly γ α]

def underWay (exchange : Transactional γ) : Prop :=
  match exchange.start with
  | some start => RoundTrip.underWay start
  | none => Orderly.underWay exchange.inner

private theorem goOn_orderly (ready : Ready) (inner : γ) (conn : Conn)
    (fits : Orderly.underWay inner ∨ conn.Settled) :
    (goOn ready inner conn).Orderly underWay := by
  have turn := Orderly.resume_orderly ready inner conn fits
  unfold goOn
  cases resumed : Exchange.resume ready inner conn with
  | mk step inner conn =>
      rw [resumed] at turn
      cases step with
      | wait wait => exact turn.of_wait
      | done value => exact turn.of_done
      | failed failure => exact turn.failed

private theorem resume_orderly (ready : Ready) (exchange : Transactional γ) (conn : Conn)
    (fits : underWay exchange ∨ conn.Settled) :
    (exchange.resume ready conn).Orderly underWay := by
  obtain ⟨start, inner⟩ := exchange
  unfold Transactional.resume
  cases start with
  | none => exact goOn_orderly ready inner conn fits
  | some start =>
      have turn := RoundTrip.resume_orderly ready start conn fits
      dsimp only
      cases resumed : start.resume ready conn with
      | mk step start conn =>
          rw [resumed] at turn
          cases step with
          | wait wait => exact turn.of_wait
          | failed failure => exact turn.failed
          | done result =>
              dsimp only
              split
              · rename_i checked
                exact .of_check turn.of_done checked
              · -- The inner exchange begins where the first round trip has left the session.
                exact goOn_orderly .nothing inner conn (.inr turn.of_done)

instance : Orderly (Transactional γ) α where
  underWay := underWay
  resume_orderly := resume_orderly

end Transactional

namespace Declaring

def underWay (exchange : Declaring) : Prop :=
  RoundTrip.underWay exchange.trip

private theorem describe_orderly (ready : Ready) (exchange : Declaring) (conn : Conn)
    (fits : underWay exchange ∨ conn.Settled) :
    (exchange.describe ready conn).Orderly underWay := by
  have turn := RoundTrip.resume_orderly ready exchange.trip conn fits
  unfold describe
  cases resumed : exchange.trip.resume ready conn with
  | mk step trip conn =>
      rw [resumed] at turn
      cases step with
      | wait wait => exact turn.of_wait
      | failed failure => exact turn.failed
      | done result =>
          dsimp only
          split
          · rename_i checked
            exact .of_check turn.of_done checked
          · exact turn.of_done

private theorem resume_orderly (ready : Ready) (exchange : Declaring) (conn : Conn)
    (fits : underWay exchange ∨ conn.Settled) :
    (exchange.resume ready conn).Orderly underWay := by
  have turn := RoundTrip.resume_orderly ready exchange.trip conn fits
  unfold Declaring.resume
  split
  · exact describe_orderly ready exchange conn fits
  · cases resumed : exchange.trip.resume ready conn with
    | mk step trip conn =>
        rw [resumed] at turn
        cases step with
        | wait wait => exact turn.of_wait
        | failed failure => exact turn.failed
        | done result =>
            dsimp only
            split
            · rename_i checked
              exact .of_check turn.of_done checked
            · exact describe_orderly .nothing _ conn (.inr turn.of_done)

instance : Orderly Declaring Unit where
  underWay := underWay
  resume_orderly := resume_orderly

end Declaring

namespace Working

def underWay (exchange : Working) : Prop :=
  match exchange.description, exchange.statement with
  | some description, _ => RoundTrip.underWay description
  | none, some statement => RoundTrip.underWay statement
  | none, none => False

private theorem work_orderly (ready : Ready) (exchange : Working) (conn : Conn)
    (described : exchange.description = none) (fits : underWay exchange ∨ conn.Settled) :
    (exchange.work ready conn).Orderly underWay := by
  obtain ⟨portal, description, statement, fetching⟩ := exchange
  subst described
  unfold work
  cases statement with
  | none => exact fits.resolve_left id
  | some trip =>
      have turn := RoundTrip.resume_orderly ready trip conn fits
      dsimp only
      cases resumed : trip.resume ready conn with
      | mk step trip conn =>
          rw [resumed] at turn
          cases step with
          | wait wait => exact turn.of_wait
          | failed failure => exact turn.failed
          | done result =>
              dsimp only
              split
              · rename_i checked
                exact .of_check turn.of_done checked
              · split
                · exact turn.of_done
                · exact turn.of_done

private theorem resume_orderly (ready : Ready) (exchange : Working) (conn : Conn)
    (fits : underWay exchange ∨ conn.Settled) :
    (exchange.resume ready conn).Orderly underWay := by
  obtain ⟨portal, description, statement, fetching⟩ := exchange
  unfold Working.resume
  cases description with
  | none => exact work_orderly ready _ conn rfl fits
  | some trip =>
      have turn := RoundTrip.resume_orderly ready trip conn fits
      dsimp only
      cases resumed : trip.resume ready conn with
      | mk step trip conn =>
          rw [resumed] at turn
          cases step with
          | wait wait => exact turn.of_wait
          | failed failure => exact turn.failed
          | done result =>
              dsimp only
              split
              · rename_i checked
                exact .of_check turn.of_done checked
              · exact work_orderly .nothing _ conn rfl (.inr turn.of_done)

instance : Orderly Working (List Row) where
  underWay := underWay
  resume_orderly := resume_orderly

end Working

namespace Closing

def underWay (exchange : Closing) : Prop :=
  match exchange.existence with
  | some existence => RoundTrip.underWay existence
  | none => RoundTrip.underWay exchange.release

private theorem letGo_orderly (ready : Ready) (exchange : Closing) (conn : Conn)
    (exists_ : exchange.existence = none) (fits : underWay exchange ∨ conn.Settled) :
    (exchange.letGo ready conn).Orderly underWay := by
  obtain ⟨existence, release⟩ := exchange
  subst exists_
  have turn := RoundTrip.resume_orderly ready release conn fits
  unfold letGo
  dsimp only
  cases resumed : release.resume ready conn with
  | mk step release conn =>
      rw [resumed] at turn
      cases step with
      | wait wait => exact turn.of_wait
      | failed failure => exact turn.failed
      | done result =>
          dsimp only
          split
          · rename_i checked
            exact .of_check turn.of_done checked
          · exact turn.of_done

private theorem resume_orderly (ready : Ready) (exchange : Closing) (conn : Conn)
    (fits : underWay exchange ∨ conn.Settled) :
    (exchange.resume ready conn).Orderly underWay := by
  obtain ⟨existence, release⟩ := exchange
  unfold Closing.resume
  cases existence with
  | none => exact letGo_orderly ready _ conn rfl fits
  | some trip =>
      have turn := RoundTrip.resume_orderly ready trip conn fits
      dsimp only
      cases resumed : trip.resume ready conn with
      | mk step trip conn =>
          rw [resumed] at turn
          cases step with
          | wait wait => exact turn.of_wait
          | failed failure => exact turn.failed
          | done result =>
              dsimp only
              split
              · rename_i checked
                exact .of_check turn.of_done checked
              · split
                · exact turn.of_done
                · exact letGo_orderly .nothing _ conn rfl (.inr turn.of_done)

instance : Orderly Closing Unit where
  underWay := underWay
  resume_orderly := resume_orderly

end Closing

end PgClient

/-
A session before and after each of its commands.

Driving an exchange ends with its own value or error, and the link settled; or with a
deadline, an abandonment or misuse, and then the session takes leave of the server. So
a session that knows whether it is closed, and is ready for a command if it is not,
is such a session again after the next command.
-/

import PgClient.Proofs.Exchange.Driven
import PgClient.Proofs.Exchange.Orderly

namespace PgClient

/-! ### Driving an exchange -/

def Ended.Orderly {α γ : Type} (ended : Ended α γ Conn) : Prop :=
  match ended.outcome with
  | .ok _ => ended.transport.Settled
  | .error (.error error) =>
      (error.isTimeout = true ∨ ended.transport.Settled) ∧ ¬error.IsOverlap
  | .error _ => True

private theorem Error.not_isOverlap_timedOut : ¬Error.timedOut.IsOverlap := by
  intro overlap
  cases overlap

namespace Waiting

variable {α γ : Type} [Exchange γ α] [Orderly γ α]

private theorem mayWait_error {timeout : Option Nat} {conn : Conn} {error : Error}
    (refused : mayWait timeout conn = .error error) :
    (error.isTimeout = true ∨ conn.Settled) ∧ ¬error.IsOverlap := by
  unfold mayWait at refused
  split at refused
  · rename_i closed
    cases refused
    simp only [Transport.checkOpen, Conn.checkOpen] at closed
    split at closed
    · rename_i isClosed
      cases closed
      exact ⟨.inr (.inl isClosed), Error.not_isOverlap_connectionClosed⟩
    · cases closed
  · split at refused
    · cases refused
      exact ⟨.inl rfl, Error.not_isOverlap_timedOut⟩
    · cases refused

/-- Between two turns an exchange is under way, whatever becomes of the session. -/
theorem upholds_orderly (timeout : Option Nat) :
    Upholds timeout (fun exchange conn => Orderly.underWay exchange ∨ Conn.Settled conn)
      (fun exchange _ => Orderly.underWay exchange) (Ended.Orderly (γ := γ)) where
  turn ready {exchange conn} fits := by
    have orderly := Orderly.resume_orderly ready exchange conn fits
    generalize Exchange.resume ready exchange conn = turn at orderly ⊢
    obtain ⟨step, next, after⟩ := turn
    cases step with
    | done value => exact orderly.of_done
    | failed failure =>
        cases failure with
        | error error => exact ⟨.inr orderly.1, orderly.2⟩
        | defect defect => exact trivial
        | abandoned => exact trivial
    | wait wait => exact orderly.of_wait
  waits _ _ _ underWay := underWay
  again underWay := .inl underWay
  refused _ refused := mayWait_error refused
  timedOut _ := ⟨.inl rfl, Error.not_isOverlap_timedOut⟩
  abandoned _ := trivial

private theorem run_orderly (manner : Manner) (timeout : Option Nat) (exchange : γ) (conn : Conn)
    (settled : conn.Settled) : (run manner timeout exchange conn).Orderly :=
  (upholds_orderly timeout).run manner (.inr settled)

end Waiting

/-! ### One command of a session -/

def Failure.IsFair : Failure → Prop
  | .error reported => ¬reported.IsOverlap
  | _ => True

def FairOutcome {α : Type} (outcome : Except Failure α) : Prop :=
  ∀ failure, outcome = .error failure → failure.IsFair

namespace FairOutcome

variable {α : Type}

theorem ok (value : α) : FairOutcome (.ok value) := by
  intro failure failed
  cases failed

theorem of_failure {failure : Failure} (fair : failure.IsFair) :
    FairOutcome (.error failure : Except Failure α) := by
  intro other failed
  cases failed
  exact fair

end FairOutcome

namespace Session

/-- The session knows whether it is closed, and is ready for a command if it is not. -/
structure Tidy (session : Session Conn) : Prop where
  closed_iff : session.closed = session.transport.isClosed
  quiet : session.closed = false → session.transport.Quiet

namespace Tidy

variable {session : Session Conn}

private theorem settled (tidy : session.Tidy) : session.transport.Settled := by
  cases isClosed : session.closed with
  | true => exact .inl (tidy.closed_iff.symm.trans isClosed)
  | false => exact .inr (tidy.quiet isClosed)

/-- Only the two flags and what the link holds count. -/
theorem ofTransport {conn : Conn} (timeout : Option Nat) (settled : conn.Settled) :
    (Session.ofTransport conn timeout).Tidy := by
  refine ⟨rfl, ?_⟩
  intro isOpen
  have notClosed : conn.isClosed = false := isOpen
  exact settled.resolve_left (by rw [notClosed]; exact Bool.false_ne_true)

theorem of_closed (closed : session.closed = true)
    (isClosed : session.transport.isClosed = true) : session.Tidy := by
  refine ⟨closed.trans isClosed.symm, ?_⟩
  intro isOpen
  rw [closed] at isOpen
  cases isOpen

/-- An open session takes notice of its link being closed. -/
theorem of_settled (isOpen : session.closed = false) (settled : session.transport.Settled) :
    ({ session with closed := session.closed || Transport.isClosed session.transport } :
      Session Conn).Tidy := by
  refine ⟨by rw [isOpen]; rfl, ?_⟩
  intro stillOpen
  rw [isOpen, Bool.false_or] at stillOpen
  have notClosed : session.transport.isClosed = false := stillOpen
  exact settled.resolve_left (by rw [notClosed]; exact Bool.false_ne_true)

end Tidy

theorem cutShort_isClosed (event : Event) (session : Session Conn) :
    (session.cutShort event).transport.isClosed = true :=
  Conn.finish_isClosed _

/-- The way in which a command ended decides what is still to be done about it. -/
theorem settle_tidy {α γ : Type} {outcome : Except Failure α} {exchange : γ}
    {session : Session Conn}
    (isOpen : session.closed = false)
    (ended : Ended.Orderly ⟨outcome, exchange, session.transport⟩) :
    (settle outcome session).Tidy ∧ FairOutcome outcome := by
  cases outcome with
  | ok value => exact ⟨.of_settled isOpen ended, .ok value⟩
  | error failure =>
      cases failure with
      | error error =>
          obtain ⟨timeoutOrSettled, fair⟩ := ended
          refine ⟨?_, .of_failure fair⟩
          by_cases timeout : error.isTimeout = true
          · -- The answer may still be on its way, so the session has taken leave.
            simp only [settle, timeout, if_true]
            exact .of_settled isOpen (.inl (session.cutShort_isClosed _))
          · simp only [settle, timeout]
            exact .of_settled isOpen (timeoutOrSettled.resolve_left timeout)
      | defect defect =>
          exact ⟨.of_closed rfl (session.cutShort_isClosed _), .of_failure trivial⟩
      | abandoned =>
          exact ⟨.of_closed rfl (session.cutShort_isClosed _), .of_failure trivial⟩

theorem run_tidy {α γ : Type} [Exchange γ α] [Orderly γ α] (manner : Manner) (exchange : γ)
    {session : Session Conn} (tidy : session.Tidy) (isOpen : session.closed = false) :
    (session.run manner exchange).session.Tidy ∧
      FairOutcome (session.run manner exchange).outcome := by
  have ended := Waiting.run_orderly manner session.timeout exchange session.transport tidy.settled
  unfold run
  cases driven : Waiting.run manner session.timeout exchange session.transport with
  | mk outcome exchange transport =>
      rw [driven] at ended
      exact settle_tidy isOpen ended

end Session

end PgClient

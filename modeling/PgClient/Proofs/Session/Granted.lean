/-
Commands that a call has had granted.

A call of one command that succeeds has had it answered: the command was put to the session
as the call has found it, the answer has been heard until the server was ready, and there is
no error in it. The session is open then, and stands where the answer has said.
-/

import PgClient.Proofs.Session.Lost
import PgClient.Proofs.Session.Opened

namespace PgClient

namespace Session

/-- This is the one command between two sessions, and it has been granted. -/
structure Obtains (command : Command) (submission : Submission)
    (before after : Session Attested) : Prop where
  grown : after.transport.trace = submission :: before.transport.trace
  isCommand : submission.command = command
  met : submission.met = before.transport.conn
  succeeded : submission.asked.success?.isSome = true
  drained : submission.Drained
  isOpen : after.closed = false
  /-- The session stands where the answer has said. -/
  reported : submission.reported? = some after.transactionStatus

section

variable {α γ : Type} [Exchange γ α] {exchange sent : γ} {command : Command}
  {result : QueryResult}

/-- A call that succeeds leaves the session open, and ready for the next. -/
theorem run_open [Composed γ α] (manner : Manner) {session : Session Conn} (tidy : session.Tidy)
    (isOpen : session.closed = false) (fresh : Composed.Fresh exchange) {value : α}
    (succeeded : passed γ (session.run manner exchange).outcome = .ok value) :
    (session.run manner exchange).session.closed = false ∧
      (session.run manner exchange).session.transport.isClosed = false ∧
      (session.run manner exchange).session.transport.Quiet := by
  have pending : ∀ trip ∈ Composed.trips exchange, Conn.losing.Pending trip := by
    intro trip member
    obtain ⟨command, rfl⟩ := fresh trip member
    trivial
  have stands : Conn.losing.Stands (Composed.trips exchange) session.transport :=
    .inl ⟨⟨tidy.closed_iff.symm.trans isOpen, tidy.quiet isOpen⟩, pending⟩
  have ends := Regime.run_ends manner session.timeout exchange session.transport stands
  unfold run at succeeded ⊢
  generalize Waiting.run manner session.timeout exchange session.transport = ended
    at ends succeeded ⊢
  obtain ⟨outcome, next, conn⟩ := ended
  cases outcome with
  | error failure => cases succeeded
  | ok first =>
      unfold passed at succeeded
      unfold Regime.Ends at ends
      dsimp only at succeeded ends
      cases checked : Composed.check γ first with
      | error error =>
          rw [checked] at succeeded
          cases succeeded
      | ok passed =>
          rw [checked] at ends
          refine ⟨?_, ends.1, ends.2⟩
          change (session.closed || Conn.isClosed conn) = false
          rw [isOpen, ends.1]
          rfl

/-- A command that was granted is the only one that the call has put to the session. -/
theorem run_granted [Uniform γ α] (dispatches : Dispatches exchange command sent)
    {manner : Manner} {session : Session Attested}
    (granted : Granted command result (session.transport.trace.map Submission.asked)
      ((session.run manner exchange).session.transport.trace.map Submission.asked)) :
    ∃ submission, (session.run manner exchange).session.transport.trace =
        submission :: session.transport.trace ∧
      submission.command = command ∧ submission.met = session.transport.conn ∧
      submission.asked.success? = some result := by
  obtain ⟨parts, grown, first⟩ := run_grows dispatches manner session
  obtain ⟨submission, rfl⟩ := alone_of_granted granted grown
  obtain ⟨asked, log, isCommand, success⟩ := granted
  rw [grown] at log
  obtain ⟨same, _⟩ := List.cons_eq_cons.mp log
  subst same
  exact ⟨submission, grown, isCommand, first submission rfl, success⟩

/-- A call of one command that succeeds has obtained it. -/
theorem run_obtains [Composed γ α] [Uniform γ α] (dispatches : Dispatches exchange command sent)
    (fresh : Composed.Fresh exchange) {manner : Manner} {session : Session Attested}
    (tidy : (session.through Attested.conn).Tidy) (isOpen : session.closed = false) {value : α}
    (granted : Granted command result (session.transport.trace.map Submission.asked)
      ((session.run manner exchange).session.transport.trace.map Submission.asked))
    (succeeded : passed γ (session.run manner exchange).outcome = .ok value) :
    ∃ submission, Obtains command submission session (session.run manner exchange).session := by
  obtain ⟨submission, grown, isCommand, met, success⟩ := run_granted dispatches granted
  have whole := run_through Attested.conn_isView manner exchange session
  have succeeds : passed γ ((session.through Attested.conn).run manner exchange).outcome =
      .ok value := by
    rw [whole]
    exact succeeded
  obtain ⟨stillOpen, linked, quiet⟩ := run_open manner tidy isOpen fresh succeeds
  rw [whole] at stillOpen linked quiet
  have answered : submission.asked.success?.isSome = true := by
    rw [success]
    rfl
  have lawful := (session.run manner exchange).session.transport.lawful
  rw [grown] at lawful
  obtain ⟨drained, reported⟩ := (lawful.1 linked).drained linked quiet answered
  exact ⟨submission, grown, isCommand, met, answered, drained, stillOpen, reported⟩

end

end Session

end PgClient

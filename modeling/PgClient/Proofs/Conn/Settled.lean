/-
What the operations of a session leave of a command.

Between commands a session is settled: it is closed, or no command is under way and
every result has been taken. Reading and writing fail only with the session closed,
and a settled session never refuses a command because of another.
-/

import PgClient.Proofs.Conn.Intake
import PgClient.Proofs.Wire.Blame

namespace PgClient

def Error.IsOverlap (error : Error) : Prop :=
  error.kind = .protocol .commandInProgress

private theorem Error.not_isOverlap_of_blamesServer {fault : ProtocolFault}
    (blame : fault.BlamesServer) :
    ¬(Error.ofProtocol fault).IsOverlap := by
  intro overlap
  cases overlap
  exact blame

private theorem Error.not_isOverlap_ofIo (fault : IoFault) : ¬(Error.ofIo fault).IsOverlap := by
  intro overlap
  cases overlap

theorem Error.not_isOverlap_connectionClosed : ¬Error.connectionClosed.IsOverlap := by
  intro overlap
  cases overlap

namespace Conn

def Quiet (conn : Conn) : Prop :=
  conn.inFlight = false ∧ conn.results.toList = []

def Settled (conn : Conn) : Prop :=
  conn.isClosed = true ∨ conn.Quiet

/-! ### Ends -/

@[simp]
theorem breakWith_isClosed (fault : IoFault) (conn : Conn) :
    (conn.breakWith fault).isClosed = true := by
  simp [breakWith, isClosed]

@[simp]
theorem finish_isClosed (conn : Conn) : conn.finish.isClosed = true := by
  unfold finish
  split
  · rename_i released
    simp [isClosed, released]
  · simp [isClosed]

/-! ### Sending -/

/-- A settled session refuses a command only for being closed. -/
theorem checkSendable_of_settled {conn : Conn} (settled : conn.Settled) :
    conn.checkSendable =
      if conn.isClosed then .error .connectionClosed else .ok () := by
  unfold checkSendable
  split
  · rfl
  · rename_i isOpen
    have quiet : conn.Quiet := settled.resolve_left isOpen
    have empty : conn.results.isEmpty = true := (Queue.isEmpty_iff conn.results).mpr quiet.2
    simp [quiet.1, empty]

theorem send_error {command : Command} {conn after : Conn} {error : Error}
    (settled : conn.Settled) (sent : conn.send command = (.error (.error error), after)) :
    after.isClosed = true ∧ ¬error.IsOverlap := by
  unfold send at sent
  rw [checkSendable_of_settled settled] at sent
  by_cases closed : conn.isClosed = true
  · rw [if_pos closed] at sent
    cases sent
    exact ⟨closed, Error.not_isOverlap_connectionClosed⟩
  · rw [if_neg closed] at sent
    dsimp only at sent
    split at sent
    · cases sent
    · cases sent

theorem checkSendable_ok {conn : Conn} (sendable : conn.checkSendable = .ok ()) :
    conn.isClosed = false ∧ conn.Quiet := by
  unfold checkSendable at sendable
  split at sendable
  · cases sendable
  · rename_i isOpen
    split at sendable
    · cases sendable
    · rename_i idle
      simp only [Bool.or_eq_true, Bool.not_eq_true', not_or, Bool.not_eq_true,
        Bool.not_eq_false] at idle
      exact ⟨Bool.not_eq_true _ ▸ isOpen, idle.1, (Queue.isEmpty_iff _).mp idle.2⟩

/-- A command that is accepted finds the session ready for it. -/
theorem send_ok {command : Command} {conn after : Conn}
    (sent : conn.send command = (.ok (), after)) :
    conn.isClosed = false ∧ conn.Quiet ∧
      ∃ outbox journal, after = dispatched command { conn with outbox, journal } := by
  unfold send at sent
  split at sent
  · cases sent
  · rename_i sendable
    obtain ⟨isOpen, quiet⟩ := checkSendable_ok sendable
    split at sent
    · cases sent
    · rename_i next queued
      cases sent
      have same := congrArg Prod.snd queued
      subst same
      exact ⟨isOpen, quiet, _, _, rfl⟩

theorem send_refused {command : Command} {conn after : Conn} {failure : Failure}
    (sent : conn.send command = (.error failure, after)) :
    ∃ outbox journal, after = { conn with outbox, journal } := by
  unfold send at sent
  split at sent
  · cases sent
    exact ⟨conn.outbox, conn.journal, rfl⟩
  · split at sent
    · rename_i defect next queued
      cases sent
      have same := congrArg Prod.snd queued
      subst same
      exact ⟨_, _, rfl⟩
    · cases sent

/-! ### Writing -/

theorem flush_error {conn after : Conn} {error : Error}
    (flushed : conn.flush = (.error error, after)) :
    after.isClosed = true ∧ ¬error.IsOverlap := by
  unfold flush at flushed
  split at flushed
  · cases flushed
  · split at flushed
    · rename_i closed
      cases flushed
      exact ⟨closed, Error.not_isOverlap_connectionClosed⟩
    · dsimp only at flushed
      split at flushed
      · cases flushed
      · cases flushed
      · cases flushed
        exact ⟨breakWith_isClosed _ _, Error.not_isOverlap_ofIo _⟩
      · cases flushed
        exact ⟨breakWith_isClosed _ _, Error.not_isOverlap_ofIo _⟩

/-! ### Reading -/

private theorem receiveNotice_blaming (body : Bytes) (conn : Conn) :
    Blaming (conn.receiveNotice body) := by
  unfold receiveNotice
  split
  · rename_i fault failed
    exact .error (Diagnostic.parse_blaming body fault failed)
  · exact .ok _

private theorem receiveFields_blaming (count : UInt16) (body : Bytes) (conn : Conn) :
    Blaming (conn.receiveFields count body) := by
  unfold receiveFields
  split
  · rename_i fault failed
    exact .error (Field.readMany_blaming _ body fault failed)
  · split
    · exact .ok _
    · exact .ok _

private theorem receiveRow_blaming (columns : UInt16) (body : Bytes) (conn : Conn) :
    Blaming (conn.receiveRow columns body) := by
  unfold receiveRow
  split
  · exact .error trivial
  · rename_i builder present
    split
    · rename_i fault failed
      exact .error (builder.push_blaming columns body fault failed)
    · exact .ok _

private theorem receiveError_blaming (body : Bytes) (conn : Conn) :
    Blaming (conn.receiveError body) := by
  unfold receiveError
  split
  · rename_i fault failed
    exact .error (Diagnostic.parse_blaming body fault failed)
  · exact .ok _

private theorem handle_blaming (message : BackendMessage) (conn : Conn) :
    Blaming (conn.handle message) := by
  cases message with
  | rowDescription count body => exact conn.receiveFields_blaming count body
  | dataRow columns body => exact conn.receiveRow_blaming columns body
  | errorResponse body => exact conn.receiveError_blaming body
  | noticeResponse body => exact conn.receiveNotice_blaming body
  | authentication request => exact .error trivial
  | negotiateProtocolVersion minor count names => exact .error trivial
  | noData =>
      simp only [handle]
      split
      · exact .ok _
      · exact .ok _
  | _ => exact .ok _

private theorem handleFrame_blaming (frame : Frame) (conn : Conn) :
    Blaming (conn.handleFrame frame) := by
  unfold handleFrame
  split
  · rename_i fault failed
    exact .error (BackendMessage.decode_blaming frame.first frame.body fault failed)
  · exact conn.handle_blaming _

theorem parse_error {input : Bytes} {conn after : Conn} {fault : ProtocolFault}
    (parsed : conn.parse input = (.error fault, after)) :
    after.broken = true ∧ fault.BlamesServer := by
  induction input, conn using parse.induct with
  | case1 input conn found failed =>
      rw [parse_of_fault failed] at parsed
      cases parsed
      exact ⟨rfl, Frame.next_blaming input _ failed⟩
  | case2 input conn found =>
      rw [parse_of_partial found] at parsed
      cases parsed
  | case3 input conn frame rest found other refused =>
      rw [parse_of_refused found refused] at parsed
      cases parsed
      exact ⟨rfl, conn.handleFrame_blaming frame _ refused⟩
  | case4 input conn frame rest found next taken _ ih =>
      rw [parse_of_taken found taken] at parsed
      exact ih parsed

private theorem readAll_error {conn after : Conn} {error : Error}
    (read : conn.readAll = (.error error, after)) :
    after.isClosed = true ∧ ¬error.IsOverlap := by
  unfold readAll at read
  dsimp only at read
  split at read
  · cases read
    exact ⟨breakWith_isClosed _ _, Error.not_isOverlap_ofIo _⟩
  · cases read

theorem consumeInput_error {conn after : Conn} {error : Error}
    (consumed : conn.consumeInput = (.error error, after)) :
    after.isClosed = true ∧ ¬error.IsOverlap := by
  unfold consumeInput at consumed
  split at consumed
  · rename_i closed
    cases consumed
    exact ⟨closed, Error.not_isOverlap_connectionClosed⟩
  · split at consumed
    · rename_i read
      cases consumed
      exact readAll_error read
    · split at consumed
      · rename_i fault broken parsed
        cases consumed
        obtain ⟨isBroken, blame⟩ := parse_error parsed
        exact ⟨by simp [isClosed, isBroken], Error.not_isOverlap_of_blamesServer blame⟩
      · split at consumed
        · rename_i flushed
          cases consumed
          exact flush_error flushed
        · cases consumed

/-! ### Taking results -/

theorem takeResult_cases (conn : Conn) :
    conn.takeResult = (none, conn) ∨
      ∃ result results, conn.takeResult = (some result, { conn with results }) ∧
        conn.results.toList = result :: results.toList := by
  unfold takeResult
  cases waiting : conn.results.take? with
  | none => exact .inl rfl
  | some pair => exact .inr ⟨pair.1, pair.2, rfl, Queue.toList_of_take? waiting⟩

/-- A session that need not be waited for is settled once its results are taken. -/
theorem takeResults_settled {conn : Conn} (idle : conn.takeResults.2.isBusy = false) :
    conn.takeResults.2.Settled := by
  have empty : conn.takeResults.2.results.toList = [] := rfl
  have isEmpty := (Queue.isEmpty_iff _).mpr empty
  by_cases flying : conn.takeResults.2.inFlight = true
  · simp only [isBusy, flying, isEmpty, Bool.true_and, Bool.not_eq_false'] at idle
    exact .inl (by simp [isClosed, idle])
  · exact .inr ⟨Bool.not_eq_true _ ▸ flying, empty⟩

end Conn

end PgClient

/-
What can be had from a session that is closed.

Whatever has closed it, and whichever calls have been made since, it stays closed, and a
call that needs the link is refused without touching it. Writing is refused only where
something is left to be written: a session that broke with nothing to write, or that has
been given up since, says that all is written.
-/

import PgClient.Proofs.Conn.Standing

namespace PgClient.Conn

variable {conn : Conn}

/-! ### Single calls -/

private theorem send_of_closed (closed : conn.isClosed = true) (command : Command) :
    conn.send command = (.error (.error .connectionClosed), conn) := by
  rw [send, checkSendable, if_pos closed]

private theorem consumeInput_of_closed (closed : conn.isClosed = true) :
    conn.consumeInput = (.error .connectionClosed, conn) := by
  rw [consumeInput, if_pos closed]

private theorem flush_of_closed (closed : conn.isClosed = true) :
    conn.flush = (if conn.outbox = [] then .ok false else .error .connectionClosed, conn) := by
  rw [flush, if_pos closed]
  by_cases empty : conn.outbox = []
  · rw [if_pos (List.isEmpty_iff.mpr empty), if_pos empty]
  · rw [if_neg (by simpa using empty), if_neg empty]

/-! ### What is left to be written -/

/-- The output is thrown away when the session is given up, and at no other time. -/
theorem perform_outbox (closed : conn.isClosed = true) (deed : Deed) :
    (conn.perform deed).outbox =
        (if conn.released = false ∧ deed = .finish then [] else conn.outbox) ∧
      ((conn.perform deed).released = true ↔ conn.released = true ∨ deed = .finish) := by
  cases deed with
  | send command => simp [perform, send_of_closed closed]
  | flush => simp [perform, flush_of_closed closed]
  | consume => simp [perform, consumeInput_of_closed closed]
  | takeResult =>
      rcases takeResult_cases conn with none | ⟨result, results, taken, _⟩
      · simp [perform, none]
      · simp [perform, taken]
  | takeResults => simp [perform, takeResults]
  | finish =>
      rw [perform, finish]
      split
      · rename_i released
        simp [released]
      · rename_i kept
        simp [kept]

private theorem course_outbox (closed : conn.isClosed = true) (deeds : List Deed) :
    (conn.course deeds).outbox =
      if conn.released = false ∧ .finish ∈ deeds then [] else conn.outbox := by
  induction deeds generalizing conn with
  | nil => simp [course]
  | cons deed deeds ih =>
      obtain ⟨still, _⟩ := perform_of_closed closed deed
      obtain ⟨outbox, released⟩ := perform_outbox closed deed
      rw [course, ih still, outbox]
      by_cases gone : conn.released = true
      · have stillGone := released.mpr (.inl gone)
        simp [gone, stillGone]
      · by_cases finishing : deed = .finish
        · simp [gone, finishing]
        · have kept : (conn.perform deed).released = false := by
            rw [← Bool.not_eq_true, released]
            exact not_or.mpr ⟨gone, finishing⟩
          simp [gone, kept, finishing, Ne.symm finishing]

/-! ### Any calls -/

/-- After a session was closed, every command, every attempt to read and the question for
the link are refused, whatever was called in between, and the link is left alone. An attempt
to write is refused exactly where something had been left to be written when the session
closed and it has not been given up since; otherwise it says that nothing is left. -/
theorem course_refuses (closed : conn.isClosed = true) (deeds : List Deed) :
    let after := conn.course deeds
    after.isClosed = true ∧ after.link = conn.link ∧
      (∀ command, after.send command = (.error (.error .connectionClosed), after)) ∧
      after.consumeInput = (.error .connectionClosed, after) ∧
      after.checkOpen = .error .connectionClosed ∧
      after.flush =
        (if conn.outbox ≠ [] ∧ (conn.released = true ∨ .finish ∉ deeds) then
            .error .connectionClosed
          else .ok false,
          after) := by
  intro after
  have still : after.isClosed = true := isClosed_course closed deeds
  have link : after.link = conn.link := (course_of_closed closed deeds).2
  refine ⟨still, link, send_of_closed still, consumeInput_of_closed still, ?_, ?_⟩
  · rw [checkOpen, if_pos still]
  · rw [flush_of_closed still, course_outbox closed deeds]
    by_cases gone : conn.released = true
    · by_cases empty : conn.outbox = []
      · simp [gone, empty]
      · simp [gone, empty]
    · by_cases finished : .finish ∈ deeds
      · simp [gone, finished]
      · by_cases empty : conn.outbox = []
        · simp [finished, empty]
        · simp [finished, empty]

/-- A command is not written at once, and then the server is found to have gone. -/
def cutMidway : Conn :=
  ({ link := { arrivals := [.data []], uptakes := [.accepted 3, .refused] } } : Conn).course
    [.send (.query "select 1"), .flush, .consume]

theorem course_refuses_midway :
    cutMidway.isClosed = true ∧
      let after := cutMidway.course [.flush, .takeResults, .consume]
      after.link = cutMidway.link ∧ after.link.delivered = [81, 0, 0] ∧
        after.consumeInput = (.error .connectionClosed, after) ∧
        after.flush = (.error .connectionClosed, after) := by
  have closed : cutMidway.isClosed = true := by decide +kernel
  obtain ⟨_, link, _, consumed, _, flushed⟩ :=
    course_refuses closed [.flush, .takeResults, .consume]
  refine ⟨closed, link, ?_, consumed, ?_⟩
  · rw [link]
    decide +kernel
  · rw [flushed, if_pos (by decide +kernel)]

/-- The server has gone while nothing was to be written. The session is broken, and writing
does not fail as reading does. -/
theorem flush_of_broken :
    let broken := ({ link := { arrivals := [.data []] } } : Conn).course [.consume]
    broken.isClosed = true ∧ broken.checkOpen = .error .connectionClosed ∧
      broken.consumeInput = (.error .connectionClosed, broken) ∧
      broken.flush = (.ok false, broken) := by
  intro broken
  have closed : broken.isClosed = true := by decide
  exact ⟨closed, rfl, consumeInput_of_closed closed, rfl⟩

end PgClient.Conn

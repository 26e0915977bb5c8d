/-
What the owner of a session does with it, in any order and however long.
-/

import PgClient.Proofs.Conn.Traffic

namespace PgClient

inductive Deed
  | send (command : Command)
  | flush
  | consume
  | takeResult
  | takeResults
  | finish
deriving Repr, DecidableEq

namespace Conn

def perform (conn : Conn) : Deed → Conn
  | .send command => (conn.send command).2
  | .flush => conn.flush.2
  | .consume => conn.consumeInput.2
  | .takeResult => conn.takeResult.2
  | .takeResults => conn.takeResults.2
  | .finish => conn.finish

def course : List Deed → Conn → Conn
  | [], conn => conn
  | deed :: deeds, conn => course deeds (conn.perform deed)

theorem course_append (deeds later : List Deed) (conn : Conn) :
    conn.course (deeds ++ later) = (conn.course deeds).course later := by
  induction deeds generalizing conn with
  | nil => rfl
  | cons deed deeds ih => exact ih (conn.perform deed)

/-- What every deed keeps is kept all along. -/
theorem course_keeps {Holds : Conn → Prop}
    (keeps : ∀ conn deed, Holds conn → Holds (conn.perform deed)) {conn : Conn}
    (holds : Holds conn) (deeds : List Deed) : Holds (conn.course deeds) := by
  induction deeds generalizing conn with
  | nil => exact holds
  | cons deed deeds ih => exact ih (keeps conn deed holds)

/-- The ends that consuming input has: nothing is read from a closed session, reading fails,
what was read cannot be understood, or it is taken in and answered. -/
theorem consumeInput_cases {Holds : Conn → Prop} (conn : Conn)
    (closed : conn.isClosed = true → Holds conn)
    (failed : conn.isClosed = false → ∀ fault, (Link.gather conn.link.arrivals).fault = some fault →
      Holds (conn.gathering.breakWith fault))
    (misread : conn.isClosed = false → (Link.gather conn.link.arrivals).fault = none →
      ∀ fault parsed, conn.gathering.parse conn.gathering.inbox = (.error fault, parsed) →
        Holds parsed)
    (taken : conn.isClosed = false → (Link.gather conn.link.arrivals).fault = none →
      ∀ parsed, conn.gathering.parse conn.gathering.inbox = (.ok (), parsed) →
        Holds parsed.flush.2) :
    Holds conn.consumeInput.2 := by
  unfold consumeInput
  by_cases isClosed : conn.isClosed = true
  · rw [if_pos isClosed]
    exact closed isClosed
  · have isOpen : conn.isClosed = false := Bool.not_eq_true _ ▸ isClosed
    rw [if_neg isClosed]
    unfold readAll
    dsimp only
    cases ending : (Link.gather conn.link.arrivals).fault with
    | some fault => exact failed isOpen fault ending
    | none =>
        dsimp only
        cases reading : conn.gathering.parse conn.gathering.inbox with
        | mk outcome parsed =>
            simp only [gathering] at reading
            rw [reading]
            cases outcome with
            | error fault => exact misread isOpen ending fault parsed reading
            | ok =>
                have last := taken isOpen ending parsed reading
                dsimp only
                generalize parsed.flush = flushed at last ⊢
                obtain ⟨outcome, flushed⟩ := flushed
                cases outcome with
                | error error => exact last
                | ok pending => exact last

end Conn

end PgClient

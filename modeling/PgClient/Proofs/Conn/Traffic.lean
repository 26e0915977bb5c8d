/-
What a call that succeeds has moved.

Writing takes bytes off the front of what is to be written, and reading puts what has
arrived behind what is not understood yet. Neither loses a byte or makes one up.
-/

import PgClient.Conn.Input

namespace PgClient

namespace Link

def carried : List Arrival → Bytes
  | [] => []
  | .data bytes :: later => bytes ++ carried later
  | .blocked :: later => carried later
  | .failed _ :: later => carried later

theorem carried_append (arrivals later : List Arrival) :
    carried (arrivals ++ later) = carried arrivals ++ carried later := by
  induction arrivals with
  | nil => rfl
  | cons arrival arrivals ih =>
      cases arrival with
      | data bytes => simp [carried, ih]
      | blocked => exact ih
      | failed fault => exact ih

theorem gather_carried (arrivals : List Arrival) :
    (gather arrivals).bytes ++ carried (gather arrivals).arrivals = carried arrivals := by
  fun_induction gather arrivals with
  | case1 => rfl
  | case2 later => rfl
  | case3 fault later => rfl
  | case4 later => rfl
  | case5 bytes later _ further ih =>
      simp only [carried]
      rw [List.append_assoc, ih]

theorem push_whole (output : Bytes) (uptakes : List Uptake) :
    (push output uptakes).taken ++ (push output uptakes).left = output := by
  fun_induction push output uptakes with
  | case1 output => exact List.append_nil output
  | case2 output uptake later isEmpty => exact (List.isEmpty_iff.mp isEmpty).symm
  | case3 output later isEmpty => rfl
  | case4 output later isEmpty fault => rfl
  | case5 output later isEmpty => rfl
  | case6 output later isEmpty count front back parts further ih =>
      simp only [List.splitAt_eq, Prod.mk.injEq] at parts
      rw [List.append_assoc, ih, ← parts.1, ← parts.2]
      exact List.take_append_drop (count + 1) output

theorem push_complete {output : Bytes} {uptakes : List Uptake}
    (complete : (push output uptakes).ending = .complete) : (push output uptakes).left = [] := by
  fun_induction push output uptakes with
  | case1 output => rfl
  | case2 output uptake later isEmpty => rfl
  | case3 output later isEmpty => cases complete
  | case4 output later isEmpty fault => cases complete
  | case5 output later isEmpty => cases complete
  | case6 output later isEmpty count front back parts further ih => exact ih complete

end Link

namespace Conn

variable {conn after : Conn}

/-- What has been sent by the server and is not understood yet. -/
def unread (conn : Conn) : Bytes :=
  conn.inbox ++ Link.carried conn.link.arrivals

/-- A flush that does not fail has moved bytes from the outbox to the link, if anything. -/
theorem flush_ok {pending : Bool} (flushed : conn.flush = (.ok pending, after)) :
    ∃ pushed : Link.Pushed, pushed.taken ++ pushed.left = conn.outbox ∧
      after = conn.settlePush pushed := by
  unfold flush at flushed
  split at flushed
  · rename_i isEmpty
    cases flushed
    refine ⟨⟨.complete, [], conn.outbox, conn.link.uptakes⟩, rfl, ?_⟩
    simp [settlePush]
  · split at flushed
    · cases flushed
    · have whole := Link.push_whole conn.outbox conn.link.uptakes
      dsimp only at flushed
      split at flushed
      · cases flushed
        exact ⟨_, whole, rfl⟩
      · cases flushed
        exact ⟨_, whole, rfl⟩
      · cases flushed
      · cases flushed

def gathering (conn : Conn) : Conn :=
  { conn with
    inbox := conn.inbox ++ (Link.gather conn.link.arrivals).bytes
    link := { conn.link with arrivals := (Link.gather conn.link.arrivals).arrivals } }

theorem gathering_unread (conn : Conn) : conn.gathering.unread = conn.unread := by
  simp only [unread, gathering]
  rw [List.append_assoc, Link.gather_carried]

/-- A call that consumes input reads, takes in what it has read, and writes. -/
theorem consumeInput_ok (consumed : conn.consumeInput = (.ok (), after)) :
    conn.isClosed = false ∧
      ∃ parsed pending, conn.gathering.parse conn.gathering.inbox = (.ok (), parsed) ∧
        parsed.flush = (.ok pending, after) := by
  unfold consumeInput at consumed
  split at consumed
  · cases consumed
  · rename_i isOpen
    refine ⟨Bool.not_eq_true _ ▸ isOpen, ?_⟩
    unfold readAll at consumed
    dsimp only at consumed
    cases fault : (Link.gather conn.link.arrivals).fault with
    | some fault' =>
        simp only [fault] at consumed
        cases consumed
    | none =>
        simp only [fault] at consumed
        split at consumed
        · cases consumed
        · rename_i parsed reading
          split at consumed
          · cases consumed
          · rename_i pending last flushed
            cases consumed
            exact ⟨parsed, pending, reading, flushed⟩

end Conn

end PgClient

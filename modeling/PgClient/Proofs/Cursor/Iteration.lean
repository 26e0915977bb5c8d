/-
Going over all the rows.

An iteration asks for a portion of the rows when it has handed out the one before, until a
portion is smaller than was asked for, or one cannot be had. Where a server gives each time the
next of the rows that are left, all of them are handed out once and in their order, or all of
the portions before the one that failed and then its error; and nothing is asked after that.
-/

import PgClient.Proofs.Cursor.Fetched
import PgClient.Proofs.Session.Answered

namespace PgClient

namespace Rows

variable {τ : Type}

/-! ### What an iteration comes to -/

/-- Each portion is what comes next of the rows that are left. -/
def Serves (size : Nat) : List Row → List (List Row) → Prop
  | _, [] => True
  | left, portion :: later => portion = left.take size ∧ Serves size (left.drop size) later

instance decidableServes (size : Nat) : ∀ left portions, Decidable (Serves size left portions)
  | _, [] => .isTrue trivial
  | left, portion :: later =>
      have := decidableServes size (left.drop size) later
      inferInstanceAs (Decidable (portion = left.take size ∧ Serves size (left.drop size) later))

/-- All the rows that were left have been handed out, and every fetch was granted. -/
structure Whole (fetch : Command) (size : Nat) (left : List Row) (before : Cursor)
    (asked : List Asked) (gathered : Gathered τ) : Prop where
  items : gathered.items = left.map .ok
  fetches : Asked.count fetch asked = left.length / size + 1
  portions : (Asked.portions fetch asked).length = left.length / size + 1
  rowNumber : gathered.cursor.rowNumber = some (before.position + Int64.ofNat left.length)

variable [Transport τ]

/-- The portions that were granted have been handed out, all of them full, and then the error
of the fetch that brought none. -/
structure Cut (fetch : Command) (size : Nat) (left : List Row) (before : Cursor)
    (asked : List Asked) (gathered : Gathered τ) (granted : Nat) (failure : Failure) : Prop where
  items : gathered.items = (left.take (granted * size)).map .ok ++ [.error failure]
  full : granted * size ≤ left.length
  fetches : Asked.count fetch asked ≤ granted + 1
  portions : (Asked.portions fetch asked).length = granted
  position : gathered.cursor.position = before.position + Int64.ofNat (granted * size)
  failed : ∃ (last : Cursor) (reached : Session τ), last.fetchCommand size = fetch ∧
    last.fetch .blocking (some size) reached = (.error failure, gathered.cursor, gathered.session)

omit [Transport τ] in
/-- A full portion in front of an iteration over what is left after it. -/
theorem Whole.further {fetch : Command} {size : Nat} {left portion : List Row}
    {before next : Cursor} {first later : List Asked} {gathered : Gathered τ} (positive : 0 < size)
    (full : size ≤ left.length) (once : Asked.count fetch first = 1)
    (portions : Asked.portions fetch first = [portion])
    (position : next.position = before.position + Int64.ofNat size)
    (whole : Whole fetch size (left.drop size) next later gathered) :
    Whole fetch size left before (later ++ first)
      { gathered with items := (left.take size).map .ok ++ gathered.items } where
  items := by
    dsimp only
    rw [whole.items, ← List.map_append, List.take_append_drop]
  fetches := by
    rw [Asked.count_append, once, whole.fetches, List.length_drop,
      Nat.div_eq_sub_div positive full]
  portions := by
    rw [Asked.portions_append, portions, List.length_append, whole.portions, List.length_singleton,
      List.length_drop, Nat.div_eq_sub_div positive full, Nat.add_comm]
  rowNumber := by
    dsimp only
    rw [whole.rowNumber, position, Int64.add_assoc, ← Int64.ofNat_add, List.length_drop,
      Nat.add_sub_cancel' full]

private theorem Cut.further {fetch : Command} {size granted : Nat} {failure : Failure}
    {left portion : List Row} {before next : Cursor} {first later : List Asked}
    {gathered : Gathered τ} (full : size ≤ left.length) (once : Asked.count fetch first = 1)
    (portions : Asked.portions fetch first = [portion])
    (position : next.position = before.position + Int64.ofNat size)
    (cut : Cut fetch size (left.drop size) next later gathered granted failure) :
    Cut fetch size left before (later ++ first)
      { gathered with items := (left.take size).map .ok ++ gathered.items } (granted + 1)
      failure where
  items := by
    dsimp only
    rw [cut.items, ← List.append_assoc, ← List.map_append, Nat.add_mul, Nat.one_mul,
      Nat.add_comm (granted * size), List.take_add]
  full := by
    have others := cut.full
    rw [List.length_drop] at others
    rw [Nat.add_mul, Nat.one_mul]
    exact Nat.add_le_of_le_sub full others
  fetches := by
    rw [Asked.count_append, once]
    exact Nat.succ_le_succ cut.fetches
  portions := by
    rw [Asked.portions_append, portions, List.length_append, cut.portions, List.length_singleton,
      Nat.add_comm]
  position := by
    dsimp only
    rw [cut.position, position, Int64.add_assoc, ← Int64.ofNat_add, Nat.add_mul, Nat.one_mul,
      Nat.add_comm size]
  failed := cut.failed

/-! ### Many pulls -/

variable {cursor next : Cursor} {session after : Session τ} {size : Nat}

section Watched

variable {cursor : Cursor} {session : Session (Observed τ)}

end Watched

end Rows

/-! ### Portion by portion -/

namespace Cursor

def Fits (cursor : Cursor) (size : Nat) : Prop :=
  (cursor.fetchCommand size).Fits ∧ (Command.describePortal cursor.name).Fits

end Cursor

/-! ### All the portions -/

namespace Rows

/-- What an iteration comes to, of which all has been pulled. -/
structure Comes (size : Nat) (left : List Row) (before : Cursor) (session : Session (Observed Conn))
    (asked : List Asked) (gathered : Gathered (Observed Conn)) : Prop where
  ended : gathered.ended = true
  rows : gathered.rows = { finished := true }
  /-- A cursor that could fetch is cut short only by a command that has not succeeded. -/
  outcome : Whole (before.fetchCommand size) size left before asked gathered ∨
    ∃ granted failure,
      Cut (before.fetchCommand size) size left before asked gathered granted failure ∧
      (before.portal.isOpen = true → session.Ready → before.Fits size →
        Unanswered gathered.session.transport.log)

variable {size limit : Nat} {left portion : List Row} {before next : Cursor}
  {session after : Session (Observed Conn)} {asked first later : List Asked}

/-- Fewer rows were left than a portion has, and all of them have come. -/
theorem Comes.of_short (few : left.length < size)
    (portions : Asked.portions (before.fetchCommand size) asked = [left])
    (once : Asked.count (before.fetchCommand size) asked = 1)
    (rowNumber : next.rowNumber = some (before.position + Int64.ofNat left.length)) :
    Comes size left before session asked
      ⟨left.map .ok, true, { finished := true }, next, after⟩ := by
  refine ⟨rfl, rfl, .inl ⟨rfl, ?_, ?_, rowNumber⟩⟩
  · rw [Nat.div_eq_of_lt few]
    exact once
  · rw [Nat.div_eq_of_lt few, portions]
    rfl

end Rows

end PgClient

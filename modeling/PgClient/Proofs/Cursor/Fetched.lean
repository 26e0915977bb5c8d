/-
What a fetch brings.

A fetch asks for a portion of the rows, behind a description of the portal where that has none
yet. Its rows are those of the answer to the statement, which is the latest that the record
tells of; where it fails, nothing has been granted to the statement.
-/

import PgClient.Proofs.Cursor.Bound
import PgClient.Proofs.Cursor.Uses

namespace PgClient

variable {τ : Type} [Transport τ]

/-! ### Portions -/

namespace Asked

def portion? (fetch : Command) (asked : Asked) : Option (List Row) :=
  if asked.command = fetch then asked.success?.map QueryResult.rows else none

def portions (fetch : Command) (log : List Asked) : List (List Row) :=
  log.reverse.filterMap (portion? fetch)

variable {fetch : Command} {earlier : List Asked} {asked : Asked}

theorem portions_append (later : List Asked) :
    portions fetch (later ++ earlier) = portions fetch earlier ++ portions fetch later := by
  unfold portions
  rw [List.reverse_append, List.filterMap_append]

theorem portions_singleton (asked : Asked) :
    portions fetch [asked] = (portion? fetch asked).toList := by
  unfold portions
  rw [List.reverse_singleton, List.filterMap_cons]
  cases portion? fetch asked with
  | none => rfl
  | some rows => rfl

theorem portion?_of_ne (other : asked.command ≠ fetch) : portion? fetch asked = none :=
  if_neg other

theorem portion?_of_granted {result : QueryResult} (isFetch : asked.command = fetch)
    (granted : asked.success? = some result) : portion? fetch asked = some result.rows := by
  unfold portion?
  rw [if_pos isFetch, granted]
  rfl

def count (fetch : Command) (log : List Asked) : Nat :=
  log.countP fun asked => asked.command = fetch

theorem count_append (later : List Asked) :
    count fetch (later ++ earlier) = count fetch later + count fetch earlier :=
  List.countP_append

end Asked

/-! ### The call -/

namespace Cursor

def fetchCommand (cursor : Cursor) (size : Nat) : Command :=
  .query (CursorStatement.fetch cursor.name (some size)).sql

/-- What has been added to the record by a fetch, and what has become of the cursor. -/
inductive Fetched (fetch : Command) (cursor : Cursor) (earlier : List Asked) :
    Except Failure (List Row) → Cursor → List Asked → Prop
  | failed {failure : Failure} {portal : Portal} (added : List Asked)
      (ungranted : Asked.portions fetch added = []) (few : Asked.count fetch added ≤ 1) :
      Fetched fetch cursor earlier (.error failure) { cursor with portal } (added ++ earlier)
  | granted {rows : List Row} {portal : Portal} (added : List Asked)
      (portions : Asked.portions fetch added = [rows]) (once : Asked.count fetch added = 1)
      (isOpen : portal.isOpen = true)
      (known : cursor.portal.Sound → portal.description.isSome = true) :
      Fetched fetch cursor earlier (.ok rows)
        { cursor with portal, position := cursor.position + Int64.ofNat rows.length }
        (added ++ earlier)

theorem Fetched.grows {fetch : Command} {cursor next : Cursor} {earlier log : List Asked}
    {outcome : Except Failure (List Row)}
    (fetched : cursor.Fetched fetch earlier outcome next log) :
    ∃ added, log = added ++ earlier := by
  cases fetched with
  | failed added _ _ => exact ⟨added, rfl⟩
  | granted added _ _ _ _ => exact ⟨added, rfl⟩

variable {cursor : Cursor} {size : Nat} {earlier log : List Asked}

variable {after : Portal}

end Cursor

end PgClient

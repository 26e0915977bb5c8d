/-
Going over the rows of a cursor, a portion at a time.

The end is reached with the first portion that is smaller than was asked for, or with
an error, which is handed out once. After that nothing is asked of the server.
-/

import PgClient.Cursor.Basic

namespace PgClient

/-- The rows that have been fetched and not handed out, and whether more may follow. -/
structure Rows where
  batch : List Row := []
  finished : Bool := false
deriving Repr, DecidableEq

namespace Rows

variable {τ : Type} [Transport τ]

structure Pulled (τ : Type) where
  item : Option (Except Failure Row)
  rows : Rows
  cursor : Cursor
  session : Session τ

/-- Takes up a portion of which so many rows were asked for. -/
def refill (size : Nat) (batch : List Row) : Rows :=
  { batch, finished := batch.length < size }

/-! ### Blocking iteration -/

def next (rows : Rows) (cursor : Cursor) (session : Session τ) : Pulled τ :=
  match rows.batch with
  | row :: batch => ⟨some (.ok row), { rows with batch }, cursor, session⟩
  | [] =>
      if rows.finished then ⟨none, rows, cursor, session⟩
      else
        let size := cursor.iterationSize
        match cursor.fetch .blocking (some size) session with
        | (.error failure, cursor, session) =>
            ⟨some (.error failure), { rows with finished := true }, cursor, session⟩
        | (.ok batch, cursor, session) =>
            match refill size batch with
            | { batch := row :: batch, finished } =>
                ⟨some (.ok row), { batch, finished }, cursor, session⟩
            | { batch := [], finished } => ⟨none, { finished }, cursor, session⟩

/-! ### Streams -/

def ready (rows : Rows) : Option (Row × Rows) :=
  match rows.batch with
  | row :: batch => some (row, { rows with batch })
  | [] => none

/-- The next item of a stream, whose fetches are tasks. -/
def nextAsync (givenUpAt : Option Nat) (rows : Rows) (cursor : Cursor) (session : Session τ) :
    Pulled τ :=
  match rows.ready with
  | some (row, rows) => ⟨some (.ok row), rows, cursor, session⟩
  | none =>
      if rows.finished then ⟨none, rows, cursor, session⟩
      else
        match cursor.fetchMany (.async givenUpAt) cursor.iterationSize session with
        | (.error failure, cursor, session) =>
            ⟨some (.error failure), { rows with finished := true }, cursor, session⟩
        | (.ok batch, cursor, session) =>
            let rows := refill cursor.iterationSize batch
            match rows.ready with
            | some (row, rows) => ⟨some (.ok row), rows, cursor, session⟩
            | none => ⟨none, rows, cursor, session⟩

/-! ### Many pulls -/

def pull (flavour : Flavour) (rows : Rows) (cursor : Cursor) (session : Session τ) : Pulled τ :=
  match flavour with
  | .blocking => rows.next cursor session
  | .async => rows.nextAsync none cursor session

structure Gathered (τ : Type) where
  items : List (Except Failure Row)
  ended : Bool
  rows : Rows
  cursor : Cursor
  session : Session τ

def take (flavour : Flavour) : Nat → Rows → Cursor → Session τ → Gathered τ
  | 0, rows, cursor, session => ⟨[], false, rows, cursor, session⟩
  | limit + 1, rows, cursor, session =>
      match rows.pull flavour cursor session with
      | ⟨none, rows, cursor, session⟩ => ⟨[], true, rows, cursor, session⟩
      | ⟨some item, rows, cursor, session⟩ =>
          let further := take flavour limit rows cursor session
          { further with items := item :: further.items }

def display (rows : Rows) : String :=
  "RowStream \x7b done: " ++ (if rows.finished then "true" else "false") ++ ", .. \x7d"

end Rows

end PgClient

/-
Cursors: rows of a query, fetched from a session in portions.

A cursor follows a portal and counts the rows it has come past. Nothing is sent that
the state of the portal does not allow, and every call takes the session for itself
as long as it lasts.
-/

import PgClient.Cursor.Portal
import PgClient.Session
import PgClient.Text.Quoted

namespace PgClient

structure Cursor where
  portal : Portal
  /-- The row that the cursor is at, as far as the client can tell. -/
  position : Int64 := 0
  /-- How many rows an iteration fetches at a time. -/
  iterationSize : Nat := 100
  /-- How many rows are fetched where no number is given. -/
  arraySize : Nat := 1
deriving Repr, DecidableEq

namespace Cursor

variable {τ : Type} [Transport τ]

def ofName (name : String) : Cursor :=
  { portal := .ofName name }

def adopt (name : String) : Cursor :=
  { portal := .adopt name }

/-- A name that no other cursor has been given, out of a number that no other has. -/
def numberedName (number : Nat) : String :=
  "porta_cursor_" ++ toString number

/-- A cursor with a name of its own, after so many names have been made up, and how many there
are then. -/
def numbered (named : Nat) : Cursor × Nat :=
  (ofName (numberedName (named + 1)), named + 1)

def name (cursor : Cursor) : String :=
  cursor.portal.name

/-- Of the names that are made up, no two are the same. -/
theorem numbered_injective {named other : Nat}
    (same : (numbered named).1.name = (numbered other).1.name) : named = other := by
  have texts : "porta_cursor_" ++ Nat.repr (named + 1) = "porta_cursor_" ++ Nat.repr (other + 1) :=
    same
  have digits := congrArg String.toList ((String.append_right_inj _).mp texts)
  rw [Nat.toList_repr, Nat.toList_repr] at digits
  have numbers := congrArg (Nat.ofDigitChars 10 · 0) digits
  rw [Nat.ofDigitChars_ten_toDigits, Nat.ofDigitChars_ten_toDigits] at numbers
  exact Nat.succ.inj numbers

def state (cursor : Cursor) : CursorState :=
  cursor.portal.state

def description (cursor : Cursor) : Option (List Field) :=
  cursor.portal.description

def lastResult (cursor : Cursor) : Option QueryResult :=
  cursor.portal.lastResult

/-- The row that the cursor is at, once there is a description. -/
def rowNumber (cursor : Cursor) : Option Int64 :=
  cursor.description.map fun _ => cursor.position

def setIterationSize (size : Nat) (cursor : Cursor) : Cursor :=
  { cursor with iterationSize := max size 1 }

def setArraySize (size : Nat) (cursor : Cursor) : Cursor :=
  { cursor with arraySize := max size 1 }

/-! ### Calls -/

def execute (manner : Manner) (query : String) (parameters : List Parameter)
    (options : DeclareOptions) (cursor : Cursor) (session : Session τ) :
    Except Failure Unit × Cursor × Session τ :=
  match cursor.portal.declare query parameters options with
  | .error error => (.error (.error error), cursor, session)
  | .ok declaring =>
      match session.checkOpen with
      | .error error =>
          (.error (.error error), { cursor with portal := declaring.portal }, session)
      | .ok () =>
          match session.run manner (session.inTransaction declaring) with
          | ⟨.error failure, exchange, session⟩ =>
              (.error failure, { cursor with portal := exchange.inner.portal }, session)
          | ⟨.ok (), exchange, session⟩ =>
              (.ok (), { cursor with portal := exchange.inner.portal, position := 0 }, session)

def work (manner : Manner) (asked : Except Error Working) (cursor : Cursor)
    (session : Session τ) : Except Failure (List Row) × Cursor × Session τ :=
  match asked with
  | .error error => (.error (.error error), cursor, session)
  | .ok working =>
      match session.checkOpen with
      | .error error => (.error (.error error), cursor, session)
      | .ok () =>
          match session.run manner working with
          | ⟨outcome, working, session⟩ =>
              (outcome, { cursor with portal := working.portal }, session)

def describe (manner : Manner) (cursor : Cursor) (session : Session τ) :
    Except Failure Unit × Cursor × Session τ :=
  match cursor.work manner cursor.portal.describe session with
  | (.error failure, cursor, session) => (.error failure, cursor, session)
  | (.ok _, cursor, session) => (.ok (), cursor, session)

def fetch (manner : Manner) (count : Option Nat) (cursor : Cursor) (session : Session τ) :
    Except Failure (List Row) × Cursor × Session τ :=
  match cursor.work manner (cursor.portal.fetch count) session with
  | (.error failure, cursor, session) => (.error failure, cursor, session)
  | (.ok rows, cursor, session) =>
      (.ok rows, { cursor with position := cursor.position + Int64.ofNat rows.length }, session)

def fetchOne (manner : Manner) (cursor : Cursor) (session : Session τ) :
    Except Failure (Option Row) × Cursor × Session τ :=
  match cursor.fetch manner (some 1) session with
  | (outcome, cursor, session) => (outcome.map List.head?, cursor, session)

/-- Fetches so many rows; zero stands for the array size. -/
def fetchMany (manner : Manner) (size : Nat) (cursor : Cursor) (session : Session τ) :
    Except Failure (List Row) × Cursor × Session τ :=
  cursor.fetch manner (some (if size = 0 then cursor.arraySize else size)) session

def fetchAll (manner : Manner) (cursor : Cursor) (session : Session τ) :
    Except Failure (List Row) × Cursor × Session τ :=
  cursor.fetch manner none session

def moved (value : Int64) (mode : ScrollMode) (cursor : Cursor) : Cursor :=
  match mode with
  | .relative => { cursor with position := cursor.position + value }
  | .absolute => { cursor with position := value }

def scroll (manner : Manner) (value : Int64) (mode : ScrollMode) (cursor : Cursor)
    (session : Session τ) : Except Failure Unit × Cursor × Session τ :=
  match cursor.work manner (cursor.portal.scroll value.toInt mode) session with
  | (.error failure, cursor, session) => (.error failure, cursor, session)
  | (.ok _, cursor, session) => (.ok (), cursor.moved value mode, session)

def scrollNamed (manner : Manner) (value : Int64) (mode : String) (cursor : Cursor)
    (session : Session τ) : Except Failure Unit × Cursor × Session τ :=
  match ScrollMode.ofName mode with
  | .error error => (.error (.error error), cursor, session)
  | .ok mode => cursor.scroll manner value mode session

def close (manner : Manner) (cursor : Cursor) (session : Session τ) :
    Except Failure Unit × Cursor × Session τ :=
  match cursor.portal.close session.transactionStatus with
  | (none, portal) => (.ok (), { cursor with portal }, session)
  | (some closing, portal) =>
      match session.run manner closing with
      | ⟨outcome, _, session⟩ => (outcome, { cursor with portal }, session)

/-! ### Letting go of a cursor -/

/-- A cursor that is let go while open is told of. A blocking one is closed as well,
unless that would block a task. -/
def drop (flavour : Flavour) (insideTask : Bool) (cursor : Cursor) (session : Session τ) :
    Session τ :=
  if !cursor.portal.isOpen then session
  else
    let tell (event : Event) (session : Session τ) : Session τ :=
      { session with transport := Transport.record event session.transport }
    let session := tell (.cursorLeftOpen cursor.name flavour) session
    if flavour = .async || insideTask then session
    else
      let status := if session.closed then .unknown else session.transactionStatus
      match cursor.portal.close status with
      | (none, _) => session
      | (some closing, _) =>
          match session.run .blocking closing with
          | ⟨.error (.error error), _, session⟩ =>
              tell (.cursorNotClosed cursor.name error) session
          | ⟨_, _, session⟩ => session

/-! ### Texts -/

def display (flavour : Flavour) (cursor : Cursor) : String :=
  let type :=
    match flavour with
    | .blocking => "NamedCursor"
    | .async => "AsyncNamedCursor"
  let rowNumber :=
    match cursor.rowNumber with
    | some number => "Some(" ++ toString number.toInt ++ ")"
    | none => "None"
  type ++ " \x7b name: " ++ Quoted.quote cursor.name ++ ", state: " ++ cursor.state.name ++
    ", rownumber: " ++ rowNumber ++ " \x7d"

end Cursor

end PgClient

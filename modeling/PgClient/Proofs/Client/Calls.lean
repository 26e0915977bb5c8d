/-
A client that makes calls on one session, in any order and any manner.

Handles of both kinds share the session, and every call takes it for itself as long as
it lasts; so the calls of many threads and tasks come one after the other, and a run
is a list of them. Cursors are told apart by numbers. A task that is given up before
it has had the session does nothing but what its call does without it.
-/

import PgClient.Cursor.Rows

namespace PgClient

inductive CursorCall
  /-- A new cursor takes the place of the one of the same number. -/
  | create (name : String)
  | adopt (name : String)
  | setIterationSize (size : Nat)
  | setArraySize (size : Nat)
  | execute (query : String) (parameters : List Parameter) (options : DeclareOptions)
  /-- An execution that is given up before it has had the session. -/
  | prepare (query : String) (parameters : List Parameter) (options : DeclareOptions)
  | describe
  | fetchOne
  | fetchMany (size : Nat)
  | fetchAll
  | scroll (value : Int64) (mode : ScrollMode)
  | scrollNamed (value : Int64) (mode : String)
  /-- Begins to go over the rows. -/
  | iterate
  /-- Takes the next row of those that are gone over. -/
  | next
  | close
  | drop (insideTask : Bool)

inductive Call
  | execute (sql : String) (parameters : List Parameter)
  | commit
  | rollback
  | setAutocommit (autocommit : Bool)
  | setTimeout (timeout : Option Nat)
  | close
  | cursor (number : Nat) (call : CursorCall)

inductive Reply
  | done
  | result (result : QueryResult)
  | row (row : Option Row)
  | rows (rows : List Row)

/-- A cursor, and what has been fetched of the rows that are gone over. -/
structure Handle where
  cursor : Cursor
  rows : Rows := {}

structure Client (τ : Type) where
  session : Session τ
  /-- A number that no cursor has been created under stands for one with a name of its
  own. -/
  handles : Nat → Handle := fun number => { cursor := .ofName (Cursor.numberedName number) }

variable {τ : Type} [Transport τ]

/-! ### Calls on a cursor -/

namespace Handle

structure Performed (τ : Type) where
  outcome : Except Failure Reply
  handle : Handle
  session : Session τ

def become (handle : Handle) (session : Session τ) : Performed τ :=
  ⟨.ok .done, handle, session⟩

def answer {α : Type} (rows : Rows) (reply : α → Reply)
    (answered : Except Failure α × Cursor × Session τ) : Performed τ :=
  ⟨answered.1.map reply, { cursor := answered.2.1, rows }, answered.2.2⟩

def pulled (pull : Rows.Pulled τ) : Performed τ :=
  let outcome :=
    match pull.item with
    | none => .ok (.row none)
    | some (.ok row) => .ok (.row (some row))
    | some (.error failure) => .error failure
  ⟨outcome, { cursor := pull.cursor, rows := pull.rows }, pull.session⟩

def perform (manner : Manner) (call : CursorCall) (handle : Handle) (session : Session τ) :
    Performed τ :=
  let cursor := handle.cursor
  let rows := handle.rows
  let done : Unit → Reply := fun _ => .done
  match call with
  | .create name => become { cursor := .ofName name } session
  | .adopt name => become { cursor := .adopt name } session
  | .setIterationSize size => become { cursor := cursor.setIterationSize size, rows } session
  | .setArraySize size => become { cursor := cursor.setArraySize size, rows } session
  | .execute query parameters options =>
      answer rows done (cursor.execute manner query parameters options session)
  | .prepare query parameters options =>
      match cursor.portal.declare query parameters options with
      | .error error => ⟨.error (.error error), handle, session⟩
      | .ok declaring =>
          ⟨.error .abandoned, { cursor := { cursor with portal := declaring.portal }, rows },
            session⟩
  | .describe => answer rows done (cursor.describe manner session)
  | .fetchOne => answer rows .row (cursor.fetchOne manner session)
  | .fetchMany size => answer rows .rows (cursor.fetchMany manner size session)
  | .fetchAll => answer rows .rows (cursor.fetchAll manner session)
  | .scroll value mode => answer rows done (cursor.scroll manner value mode session)
  | .scrollNamed value mode => answer rows done (cursor.scrollNamed manner value mode session)
  | .iterate => become { cursor } session
  | .next =>
      match manner with
      | .blocking => pulled (rows.next cursor session)
      | .async givenUpAt => pulled (rows.nextAsync givenUpAt cursor session)
  | .close => answer rows done (cursor.close manner session)
  | .drop insideTask => become handle (cursor.drop manner.flavour insideTask session)

end Handle

/-! ### Calls on a session -/

namespace Client

structure Performed (τ : Type) where
  outcome : Except Failure Reply
  client : Client τ

def ofTransport (transport : τ) (timeout : Option Nat) : Client τ :=
  { session := .ofTransport transport timeout }

def setHandle (number : Nat) (handle : Handle) (client : Client τ) : Client τ :=
  { client with
    handles := fun other => if other = number then handle else client.handles other }

def answer {α : Type} (client : Client τ) (reply : α → Reply)
    (answered : Except Failure α × Session τ) : Performed τ :=
  ⟨answered.1.map reply, { client with session := answered.2 }⟩

def perform (manner : Manner) (call : Call) (client : Client τ) : Performed τ :=
  let session := client.session
  let done : Unit → Reply := fun _ => .done
  match call with
  | .execute sql parameters => client.answer .result (session.execute manner sql parameters)
  | .commit => client.answer done (session.commit manner)
  | .rollback => client.answer done (session.rollback manner)
  | .setAutocommit autocommit => client.answer done (session.setAutocommit autocommit)
  | .setTimeout timeout => client.answer done (.ok (), session.setTimeout timeout)
  | .close => client.answer done (.ok (), session.close)
  | .cursor number call =>
      match (client.handles number).perform manner call session with
      | ⟨outcome, handle, session⟩ =>
          ⟨outcome, { client with session }.setHandle number handle⟩

structure Course (τ : Type) where
  outcomes : List (Except Failure Reply)
  client : Client τ

def run : List (Manner × Call) → Client τ → Course τ
  | [], client => ⟨[], client⟩
  | (manner, call) :: rest, client =>
      match client.perform manner call with
      | ⟨outcome, client⟩ =>
          let further := run rest client
          { further with outcomes := outcome :: further.outcomes }

end Client

end PgClient

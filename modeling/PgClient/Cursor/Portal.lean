/-
The life of a portal of the server, as the client that reads from it follows it.

A portal is declared, then described, and at last closed. What is asked of it is
checked against its state before anything is sent, and the state moves on in the
middle of an exchange, as soon as the server has answered the part that it rests on.
-/

import PgClient.Cursor.Statement
import PgClient.Exchange.RoundTrip

namespace PgClient

inductive CursorState
  | unbound
  /-- The portal is there, and its columns are not known. -/
  | declared
  | described
  | closed
deriving Repr, DecidableEq

def CursorState.name : CursorState → String
  | unbound => "Unbound"
  | declared => "Declared"
  | described => "Described"
  | closed => "Closed"

structure Portal where
  name : String
  state : CursorState := .unbound
  /-- The columns, known once it has been described. -/
  description : Option (List Field) := none
  lastResult : Option QueryResult := none
  hold : Bool := false
  /-- Whether somebody else has declared it. -/
  adopted : Bool := false
deriving Repr, DecidableEq

namespace Portal

def ofName (name : String) : Portal :=
  { name }

def adopt (name : String) : Portal :=
  { name, state := .declared, adopted := true }

def isOpen (portal : Portal) : Bool :=
  portal.state = .declared || portal.state = .described

def checkOpen (portal : Portal) : Except Error Unit :=
  match portal.state with
  | .declared => .ok ()
  | .described => .ok ()
  | .unbound => .error (Error.ofState .cursorNotExecuted)
  | .closed => .error (Error.ofState .cursorClosed)

def checkUnbound (portal : Portal) : Except Error Unit :=
  match portal.state with
  | .unbound => .ok ()
  | .closed => .error (Error.ofState .cursorClosed)
  | .declared => .error (Error.ofState .cursorAlreadyExecuted)
  | .described => .error (Error.ofState .cursorAlreadyExecuted)

def describeTrip (portal : Portal) : RoundTrip :=
  .unsent (.describePortal portal.name)

def statementTrip (statement : CursorStatement) : RoundTrip :=
  .unsent (.query statement.sql)

def described (result : QueryResult) (portal : Portal) : Portal :=
  { portal with
    description := some result.fields
    lastResult := some result
    state := .described }

def discard (portal : Portal) : Portal :=
  { portal with state := .closed }

end Portal

/-! ### Declaring -/

structure Declaring where
  portal : Portal
  acknowledged : Bool := false
  trip : RoundTrip
deriving Repr, DecidableEq

namespace Declaring

variable {τ : Type} [Transport τ]

def describe (ready : Ready) (exchange : Declaring) (transport : τ) : Turn Unit Declaring τ :=
  match exchange.trip.resume ready transport with
  | ⟨.wait wait, trip, transport⟩ => ⟨.wait wait, { exchange with trip }, transport⟩
  | ⟨.failed failure, trip, transport⟩ => ⟨.failed failure, { exchange with trip }, transport⟩
  | ⟨.done result, trip, transport⟩ =>
      match result.check with
      | .error error => ⟨.ofError error, { exchange with trip }, transport⟩
      | .ok result =>
          ⟨.done (), { exchange with portal := exchange.portal.described result, trip },
            transport⟩

def resume (ready : Ready) (exchange : Declaring) (transport : τ) : Turn Unit Declaring τ :=
  if exchange.acknowledged then exchange.describe ready transport
  else
    match exchange.trip.resume ready transport with
    | ⟨.wait wait, trip, transport⟩ => ⟨.wait wait, { exchange with trip }, transport⟩
    | ⟨.failed failure, trip, transport⟩ =>
        ⟨.failed failure, { exchange with trip }, transport⟩
    | ⟨.done result, trip, transport⟩ =>
        match result.check with
        | .error error => ⟨.ofError error, { exchange with trip }, transport⟩
        | .ok _ =>
            let exchange : Declaring :=
              { portal := { exchange.portal with state := .declared }
                acknowledged := true
                trip := exchange.portal.describeTrip }
            exchange.describe .nothing transport

end Declaring

instance : Exchange Declaring Unit where
  resume := Declaring.resume

/-! ### Working on a portal -/

/-- A statement on a portal, after a description where that is still missing; or a
description alone. -/
structure Working where
  portal : Portal
  description : Option RoundTrip
  statement : Option RoundTrip
  /-- Whether the rows of the statement are kept as the last result. -/
  fetching : Bool
deriving Repr, DecidableEq

namespace Working

variable {τ : Type} [Transport τ]

def work (ready : Ready) (exchange : Working) (transport : τ) :
    Turn (List Row) Working τ :=
  match exchange.statement with
  | none => ⟨.done [], exchange, transport⟩
  | some trip =>
      match trip.resume ready transport with
      | ⟨.wait wait, trip, transport⟩ =>
          ⟨.wait wait, { exchange with statement := some trip }, transport⟩
      | ⟨.failed failure, trip, transport⟩ =>
          ⟨.failed failure, { exchange with statement := some trip }, transport⟩
      | ⟨.done result, trip, transport⟩ =>
          let exchange := { exchange with statement := some trip }
          match result.check with
          | .error error => ⟨.ofError error, exchange, transport⟩
          | .ok result =>
              if exchange.fetching then
                let portal := { exchange.portal with lastResult := some result }
                ⟨.done result.rows, { exchange with portal }, transport⟩
              else ⟨.done result.rows, exchange, transport⟩

def resume (ready : Ready) (exchange : Working) (transport : τ) :
    Turn (List Row) Working τ :=
  match exchange.description with
  | none => exchange.work ready transport
  | some trip =>
      match trip.resume ready transport with
      | ⟨.wait wait, trip, transport⟩ =>
          ⟨.wait wait, { exchange with description := some trip }, transport⟩
      | ⟨.failed failure, trip, transport⟩ =>
          ⟨.failed failure, { exchange with description := some trip }, transport⟩
      | ⟨.done result, trip, transport⟩ =>
          match result.check with
          | .error error =>
              ⟨.ofError error, { exchange with description := some trip }, transport⟩
          | .ok result =>
              let portal := exchange.portal.described result
              Working.work .nothing { exchange with portal, description := none } transport

end Working

instance : Exchange Working (List Row) where
  resume := Working.resume

/-! ### Closing -/

/-- The release of a portal, after asking whether it is there at all where that is not
certain. -/
structure Closing where
  existence : Option RoundTrip
  release : RoundTrip
deriving Repr, DecidableEq

namespace Closing

variable {τ : Type} [Transport τ]

def letGo (ready : Ready) (exchange : Closing) (transport : τ) : Turn Unit Closing τ :=
  match exchange.release.resume ready transport with
  | ⟨.wait wait, release, transport⟩ => ⟨.wait wait, { exchange with release }, transport⟩
  | ⟨.failed failure, release, transport⟩ =>
      ⟨.failed failure, { exchange with release }, transport⟩
  | ⟨.done result, release, transport⟩ =>
      match result.check with
      | .error error => ⟨.ofError error, { exchange with release }, transport⟩
      | .ok _ => ⟨.done (), { exchange with release }, transport⟩

def resume (ready : Ready) (exchange : Closing) (transport : τ) : Turn Unit Closing τ :=
  match exchange.existence with
  | none => exchange.letGo ready transport
  | some trip =>
      match trip.resume ready transport with
      | ⟨.wait wait, trip, transport⟩ =>
          ⟨.wait wait, { exchange with existence := some trip }, transport⟩
      | ⟨.failed failure, trip, transport⟩ =>
          ⟨.failed failure, { exchange with existence := some trip }, transport⟩
      | ⟨.done result, trip, transport⟩ =>
          match result.check with
          | .error error =>
              ⟨.ofError error, { exchange with existence := some trip }, transport⟩
          | .ok result =>
              let exchange := { exchange with existence := none }
              if result.rows.isEmpty then ⟨.done (), exchange, transport⟩
              else exchange.letGo .nothing transport

end Closing

instance : Exchange Closing Unit where
  resume := Closing.resume

/-! ### What may be asked of a portal -/

namespace Portal

/-- Declares the portal for a query. Only a portal that is not there yet can be. -/
def declare (query : String) (parameters : List Parameter) (options : DeclareOptions)
    (portal : Portal) : Except Error Declaring :=
  match portal.checkUnbound with
  | .error error => .error error
  | .ok () =>
      let sql := (CursorStatement.declare portal.name options query).sql
      .ok
        { portal := { portal with hold := options.hold }
          trip := .unsent (Command.ofQuery sql parameters) }

def describe (portal : Portal) : Except Error Working :=
  match portal.checkOpen with
  | .error error => .error error
  | .ok () =>
      .ok
        { portal
          description := some portal.describeTrip
          statement := none
          fetching := false }

/-- A statement on the portal, which is described first if it has not been. -/
def work (statement : CursorStatement) (fetching : Bool) (portal : Portal) :
    Except Error Working :=
  match portal.checkOpen with
  | .error error => .error error
  | .ok () =>
      .ok
        { portal
          description := if portal.state = .declared then some portal.describeTrip else none
          statement := some (statementTrip statement)
          fetching }

def fetch (count : Option Nat) (portal : Portal) : Except Error Working :=
  portal.work (.fetch portal.name count) true

def scroll (value : Int) (mode : ScrollMode) (portal : Portal) : Except Error Working :=
  portal.work (.move portal.name mode value) false

def existenceQuery : String :=
  "select 1 from pg_catalog.pg_cursors where name = $1"

/-- Whether the server can be expected to have the portal still: a transaction is open
and sound, or none is open and the portal does not depend on one. -/
def isExpected (status : TransactionStatus) (portal : Portal) : Bool :=
  match status with
  | .inTransaction => true
  | .idle => portal.hold || portal.adopted
  | _ => false

/-- Closes the portal for good, and gives what there is to do on the server. -/
def close (status : TransactionStatus) (portal : Portal) : Option Closing × Portal :=
  let exchange :=
    if portal.isOpen && portal.isExpected status then
      some
        { existence :=
            if portal.adopted then
              some (.unsent (.queryWith existenceQuery [Parameter.ofText portal.name]))
            else none
          release := statementTrip (.close portal.name) : Closing }
    else none
  (exchange, portal.discard)

end Portal

end PgClient

/-
What a server has to say to a command, and how it says it.

A command of statements is answered with the outcome of each, up to an error if there is
one; rows that were sent before the error are lost with it. A portal that is described is
answered with its fields or with there being none.
-/

import PgClient.Proofs.Result.Layout
import PgClient.Proofs.Wire.Report

namespace PgClient

/-! ### Tables -/

structure Table where
  fields : List Field
  rows : List (List (Option Bytes))
deriving Repr, DecidableEq

namespace Table

structure WellFormed (table : Table) : Prop where
  names : ∀ field ∈ table.fields, ZeroFree field.name
  columns : table.fields.length ≤ 65535
  shape : ∀ row ∈ table.rows, row.length = table.fields.length
  values : ∀ row ∈ table.rows, ∀ value ∈ row, ResultBuilder.IsShort value

def description (fields : List Field) : BackendMessage :=
  .rowDescription (UInt16.ofNat fields.length) (fields.flatMap Field.bytes)

def rowMessage (row : List (Option Bytes)) : BackendMessage :=
  .dataRow (UInt16.ofNat row.length) (row.flatMap ResultBuilder.valueBytes)

def messages (table : Table) : List BackendMessage :=
  description table.fields :: table.rows.map rowMessage

def resultRows (table : Table) : List Row :=
  table.rows.map fun values => { fields := table.fields, values }

end Table

/-! ### Statements -/

inductive Outcome
  | rows (table : Table) (tag : String)
  | done (tag : String)
  /-- There was no statement. -/
  | nothing
deriving Repr, DecidableEq

namespace Outcome

def WellFormed : Outcome → Prop
  | rows table tag => table.WellFormed ∧ ZeroFree tag
  | done tag => ZeroFree tag
  | nothing => True

def messages : Outcome → List BackendMessage
  | rows table tag => table.messages ++ [.commandComplete tag]
  | done tag => [.commandComplete tag]
  | nothing => [.emptyQueryResponse]

def result : Outcome → QueryResult
  | rows table tag =>
      { status := .tuplesOk, fields := table.fields, rows := table.resultRows, tag := some tag }
  | done tag => { status := .commandOk, tag := some tag }
  | nothing => { status := .emptyQuery }

end Outcome

/-- An error, and the rows that were being sent when it came up. -/
structure Mishap where
  lost : Option Table
  report : Diagnostic
deriving Repr, DecidableEq

namespace Mishap

def WellFormed (mishap : Mishap) : Prop :=
  (∀ table, mishap.lost = some table → table.WellFormed) ∧ mishap.report.Writable

def messages (mishap : Mishap) : List BackendMessage :=
  (match mishap.lost with
    | none => []
    | some table => table.messages) ++ [.errorResponse mishap.report.bytes]

def result (mishap : Mishap) : QueryResult :=
  { status := .fatalError, error := some mishap.report }

end Mishap

/-! ### Responses -/

inductive Response
  | statements (outcomes : List Outcome) (mishap : Option Mishap)
  | portal (fields : Option (List Field))
deriving Repr, DecidableEq

namespace Response

def describes : Response → Bool
  | statements _ _ => false
  | portal _ => true

def WellFormed : Response → Prop
  | statements outcomes mishap =>
      (∀ outcome ∈ outcomes, outcome.WellFormed) ∧
        ∀ error, mishap = some error → error.WellFormed
  | portal fields =>
      ∀ known, fields = some known →
        known.length ≤ 65535 ∧ ∀ field ∈ known, ZeroFree field.name

def messages : Response → List BackendMessage
  | statements outcomes mishap =>
      outcomes.flatMap Outcome.messages ++ mishap.toList.flatMap Mishap.messages
  | portal (some fields) => [Table.description fields]
  | portal none => [.noData]

def results : Response → List QueryResult
  | statements outcomes mishap => outcomes.map Outcome.result ++ mishap.toList.map Mishap.result
  | portal fields => [{ status := .commandOk, fields := fields.getD [] }]

def frames (indicator : UInt8) (response : Response) : List Frame :=
  (response.messages ++ [BackendMessage.readyForQuery indicator]).map BackendMessage.frame

end Response

end PgClient

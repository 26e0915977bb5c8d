/-
The outcome of one statement, as it is gathered from the messages of a server.
-/

import PgClient.Error
import PgClient.Result.Row
import PgClient.Text.Split
import PgClient.Wire.Backend

namespace PgClient

inductive ResultStatus
  | emptyQuery
  | commandOk
  | tuplesOk
  | copyOut
  | copyIn
  | badResponse
  | nonfatalError
  | fatalError
  | copyBoth
  | singleTuple
deriving Repr, DecidableEq

def ResultStatus.name : ResultStatus → String
  | emptyQuery => "EmptyQuery"
  | commandOk => "CommandOk"
  | tuplesOk => "TuplesOk"
  | copyOut => "CopyOut"
  | copyIn => "CopyIn"
  | badResponse => "BadResponse"
  | nonfatalError => "NonfatalError"
  | fatalError => "FatalError"
  | copyBoth => "CopyBoth"
  | singleTuple => "SingleTuple"

structure QueryResult where
  status : ResultStatus
  fields : List Field := []
  rows : List Row := []
  /-- What the server says it did, absent for descriptions and errors. -/
  tag : Option String := none
  error : Option Diagnostic := none
deriving Repr, DecidableEq

namespace QueryResult

def fatal (report : Diagnostic) : QueryResult :=
  { status := .fatalError, error := some report }

def isFatal (result : QueryResult) : Bool :=
  result.status == .fatalError

/-- The number after the last blank of the tag, if it is one. -/
def rowsAffected (result : QueryResult) : Option Nat :=
  match result.tag with
  | none => none
  | some tag =>
      match (Split.every ' ' tag.toList).getLast? with
      | none => none
      | some last => (Integer.readNat 64 last).toOption

/-- Where an error of the server turns from an outcome into an error. -/
def check (result : QueryResult) : Except Error QueryResult :=
  match result.status with
  | .fatalError => .error (Error.ofDatabase (result.error.getD {}))
  | .badResponse => .error (Error.ofProtocol (.malformed .badResponse))
  | _ => .ok result

end QueryResult

/-! ### Gathering rows -/

structure ResultBuilder where
  fields : List Field
  /-- The latest first. -/
  rows : List Row := []

namespace ResultBuilder

/-- A length and a value: no value for −1, and otherwise as many bytes as it says. -/
def readValue (bytes : Bytes) : Except ProtocolFault (Option Bytes × Bytes) :=
  match Bytes.uint32? bytes with
  | none => .error (.malformed .rowTooShort)
  | some (length, rest) =>
      if length = 0xFFFFFFFF then .ok (none, rest)
      else if 2147483648 ≤ length.toNat then .error (.malformed .valueOutOfRange)
      else
        match Bytes.take? length.toNat rest with
        | none => .error (.malformed .valueOutOfRange)
        | some (value, rest) => .ok (some value, rest)

def readValues : Nat → Bytes → Except ProtocolFault (List (Option Bytes))
  | 0, _ => .ok []
  | count + 1, bytes =>
      match readValue bytes with
      | .error fault => .error fault
      | .ok (value, rest) =>
          match readValues count rest with
          | .error fault => .error fault
          | .ok others => .ok (value :: others)

/-- Takes in a row, which has as many values as there are fields. -/
def push (builder : ResultBuilder) (columns : UInt16) (body : Bytes) :
    Except ProtocolFault ResultBuilder :=
  if columns.toNat ≠ builder.fields.length then .error (.malformed .rowLengthMismatch)
  else
    match readValues columns.toNat body with
    | .error fault => .error fault
    | .ok values =>
        .ok { builder with rows := { fields := builder.fields, values } :: builder.rows }

def finish (builder : ResultBuilder) (tag : String) : QueryResult :=
  { status := .tuplesOk
    fields := builder.fields
    rows := builder.rows.reverse
    tag := some tag }

end ResultBuilder

end PgClient

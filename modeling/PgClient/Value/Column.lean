/-
One value of a row with the name and the type of its column, and how it is read
into a type of the program.
-/

import PgClient.Number.Reading
import PgClient.Text.Quoted
import PgClient.Value.Parameter

namespace PgClient

/-- Why a value cannot be had, or not as the type asked for. -/
inductive DecodeFault
  | utf8 (fault : Utf8.Fault)
  | columnNotFound (name : String)
  | indexOutOfBounds (index : Nat)
  | oidMismatch (oid : Oid)
  | unreadable (value target : String)
  | null
deriving Repr, DecidableEq

def DecodeFault.message (fault : DecodeFault) : String :=
  "failed to decode value, " ++
    match fault with
    | utf8 fault => fault.message
    | columnNotFound name => "column not found: " ++ Quoted.quote name
    | indexOutOfBounds index => "index out of bounds: " ++ toString index
    | oidMismatch oid => "data type missmatch, found oid " ++ toString oid.toNat
    | unreadable value target => "cannot parse " ++ Quoted.quote value ++ " as " ++ target
    | null => "unexpected NULL value"

structure Column where
  name : String
  oid : Oid
  value : Option Bytes
deriving Repr, DecidableEq

namespace Scalar

/-- The value of a type that a text stands for. -/
def ofText? (type : ScalarType) (text : String) : Option Scalar :=
  let whole := (Integer.read type.bounds text.toList).toOption
  match type with
  | .bool =>
      if text = "t" then some (.bool true)
      else if text = "f" then some (.bool false)
      else none
  | .int2 => whole.map fun number => .int2 (Int16.ofInt number)
  | .int4 => whole.map fun number => .int4 (Int32.ofInt number)
  | .int8 => whole.map fun number => .int8 (Int64.ofInt number)
  | .oid => whole.map fun number => .oid (UInt32.ofNat number.toNat)
  | .float4 => (Reading.read? .single text.toList).map fun bits => .float4 (UInt32.ofNat bits)
  | .float8 => (Reading.read? .double text.toList).map fun bits => .float8 (UInt64.ofNat bits)
  | .text => some (.text text)

end Scalar

namespace Column

def bytes (column : Column) : Except DecodeFault Bytes :=
  match column.value with
  | none => .error .null
  | some value => .ok value

/-- Reads a value as a type. The type of the column is looked at before the value. -/
def decode (type : ScalarType) (column : Column) : Except DecodeFault Scalar :=
  if type.accepts column.oid then
    match column.bytes with
    | .error fault => .error fault
    | .ok bytes =>
        match Utf8.decode bytes with
        | .error fault => .error (.utf8 fault)
        | .ok text =>
            match Scalar.ofText? type text with
            | some scalar => .ok scalar
            | none => .error (.unreadable text type.label)
  else .error (.oidMismatch column.oid)

def decodeOption (type : ScalarType) (column : Column) : Except DecodeFault (Option Scalar) :=
  match column.value with
  | none => .ok none
  | some _ => (column.decode type).map some

end Column

end PgClient

/-
Rows: the values of one row beside the fields that all rows of a result share.

A column is asked for by its place or by its name; of several columns of one name
the first is meant.
-/

import PgClient.Result.Field
import PgClient.Value.Column

namespace PgClient

structure Row where
  fields : List Field
  values : List (Option Bytes)
deriving Repr, DecidableEq

inductive ColumnIndex
  | place (index : Nat)
  | named (name : String)
deriving Repr, DecidableEq

namespace ColumnIndex

def position (index : ColumnIndex) (fields : List Field) : Except DecodeFault Nat :=
  match index with
  | place index =>
      if index < fields.length then .ok index else .error (.indexOutOfBounds index)
  | named name =>
      match fields.findIdx? fun field => field.name == name with
      | some index => .ok index
      | none => .error (.columnNotFound name)

end ColumnIndex

namespace Row

def length (row : Row) : Nat :=
  row.values.length

/-- The value in a place; nothing for NULL and for a place that is not there. -/
def raw (row : Row) (index : Nat) : Option Bytes :=
  (row.values[index]?).join

def column (row : Row) (index : ColumnIndex) : Except DecodeFault Column :=
  match index.position row.fields with
  | .error fault => .error fault
  | .ok place =>
      match row.fields[place]?, row.values[place]? with
      | some field, some value => .ok { name := field.name, oid := field.typeOid, value }
      | _, _ => .error (.indexOutOfBounds place)

def get (row : Row) (index : ColumnIndex) (type : ScalarType) : Except DecodeFault Scalar :=
  match row.column index with
  | .error fault => .error fault
  | .ok column => column.decode type

def getOption (row : Row) (index : ColumnIndex) (type : ScalarType) :
    Except DecodeFault (Option Scalar) :=
  match row.column index with
  | .error fault => .error fault
  | .ok column => column.decodeOption type

def columns (row : Row) : List Column :=
  List.zipWith (fun field value => { name := field.name, oid := field.typeOid, value })
    row.fields row.values

/-! ### Tuples -/

/-- What one component of a tuple is read as. -/
structure Slot where
  type : ScalarType
  nullable : Bool
deriving Repr, DecidableEq

def slot (row : Row) (place : Nat) (slot : Slot) : Except DecodeFault (Option Scalar) :=
  if slot.nullable then row.getOption (.place place) slot.type
  else (row.get (.place place) slot.type).map some

/-- The first components of a row as a tuple; the first that cannot be read decides. -/
def tupleFrom (row : Row) : Nat → List Slot → Except DecodeFault (List (Option Scalar))
  | _, [] => .ok []
  | place, first :: rest =>
      match row.slot place first with
      | .error fault => .error fault
      | .ok value =>
          match row.tupleFrom (place + 1) rest with
          | .error fault => .error fault
          | .ok values => .ok (value :: values)

def tuple (row : Row) (slots : List Slot) : Except DecodeFault (List (Option Scalar)) :=
  row.tupleFrom 0 slots

/-- A row for a reader: the names and the values in quotes. -/
def display (row : Row) : String :=
  let entry (field : Field) (value : Option Bytes) : String :=
    let shown :=
      match value with
      | none => "NULL"
      | some value => Quoted.bytes value
    Quoted.quote field.name ++ ": " ++ shown
  "\x7b" ++ String.intercalate ", " (List.zipWith entry row.fields row.values) ++ "\x7d"

end Row

end PgClient

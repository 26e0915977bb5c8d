/-
The types of values that a program exchanges with a column, and the text that
stands for a value on the wire.

Text is the only format in use. A column may be narrower than the type it is read
into: each type lists the column types that never hold more than it can take.
-/

import PgClient.Number.Shortest
import PgClient.Text.Integer
import PgClient.Value.Oid

namespace PgClient

inductive ScalarType
  | bool
  | int2
  | int4
  | int8
  | oid
  | float4
  | float8
  | text
deriving Repr, DecidableEq

namespace ScalarType

/-- The column type that holds exactly these values. -/
def columnOid : ScalarType → Oid
  | bool => Oid.bool
  | int2 => Oid.int2
  | int4 => Oid.int4
  | int8 => Oid.int8
  | oid => Oid.oid
  | float4 => Oid.float4
  | float8 => Oid.float8
  | text => Oid.text

/-- The column types beside its own that a type can be read from. -/
def narrower : ScalarType → List Oid
  | int4 => [Oid.int2]
  | int8 => [Oid.int2, Oid.int4, Oid.oid]
  | float4 => [Oid.int2]
  | float8 => [Oid.float4, Oid.int2, Oid.int4, Oid.int8, Oid.numeric]
  | _ => []

/-- Whether a column can be read into a type. Any column can be read as its text. -/
def accepts (type : ScalarType) (oid : Oid) : Bool :=
  type == .text || oid == type.columnOid || type.narrower.contains oid

theorem accepts_columnOid (type : ScalarType) : type.accepts type.columnOid = true := by
  simp [accepts]

def label : ScalarType → String
  | bool => "bool"
  | int2 => "i16"
  | int4 => "i32"
  | int8 => "i64"
  | oid => "u32"
  | float4 => "f32"
  | float8 => "f64"
  | text => "String"

/-- What the whole numbers of a type can be; the types that are none admit none. -/
def bounds : ScalarType → Integer.Bounds
  | int2 => .signed 16
  | int4 => .signed 32
  | int8 => .signed 64
  | oid => .unsigned 32
  | _ => ⟨0, -1⟩

end ScalarType

/-- A value of one of the types. Floating point numbers are given by their bits. -/
inductive Scalar
  | bool (value : Bool)
  | int2 (value : Int16)
  | int4 (value : Int32)
  | int8 (value : Int64)
  | oid (value : UInt32)
  | float4 (bits : UInt32)
  | float8 (bits : UInt64)
  | text (value : String)
deriving DecidableEq

namespace Scalar

def type : Scalar → ScalarType
  | bool _ => .bool
  | int2 _ => .int2
  | int4 _ => .int4
  | int8 _ => .int8
  | oid _ => .oid
  | float4 _ => .float4
  | float8 _ => .float8
  | text _ => .text

/-- Numbers are written as the shortest decimal without exponent, and the values
that no decimal stands for by the server's words for them. -/
def spelling : Shortest.Spelling :=
  { notANumber := "NaN", infinity := "Infinity" }

def wireText : Scalar → String
  | bool value => if value then "t" else "f"
  | int2 value => toString value.toInt
  | int4 value => toString value.toInt
  | int8 value => toString value.toInt
  | oid value => toString value.toNat
  | float4 bits => Shortest.write spelling .single bits.toNat
  | float8 bits => Shortest.write spelling .double bits.toNat
  | text value => value

end Scalar

end PgClient

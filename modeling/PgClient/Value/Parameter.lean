/-
Parameters of a statement: a type and the text of a value, or no value.
-/

import PgClient.Text.Utf8
import PgClient.Value.Scalar

namespace PgClient

structure Parameter where
  oid : Oid
  /-- Nothing for NULL. -/
  value : Option Bytes
deriving Repr, DecidableEq

namespace Parameter

/-- A text goes out without a type, so that the server can take it as whatever the
place asks for; any other value goes out as its own. -/
def ofScalar (scalar : Scalar) : Parameter :=
  { oid :=
      match scalar.type with
      | .text => Oid.unspecified
      | type => type.columnOid
    value := some (Utf8.encode scalar.wireText) }

def null (oid : Oid) : Parameter :=
  { oid, value := none }

def ofOption (type : ScalarType) : Option Scalar → Parameter
  | some scalar => ofScalar scalar
  | none => null type.columnOid

def ofText (text : String) : Parameter :=
  ofScalar (.text text)

end Parameter

end PgClient

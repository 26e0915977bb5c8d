/-
Object identifiers of the column types that values are read from and written as.
-/

namespace PgClient

abbrev Oid := UInt32

namespace Oid

/-- Left to the server, which finds the type from the place of the parameter. -/
def unspecified : Oid := 0
def bool : Oid := 16
def int8 : Oid := 20
def int2 : Oid := 21
def int4 : Oid := 23
def text : Oid := 25
def oid : Oid := 26
def float4 : Oid := 700
def float8 : Oid := 701
def numeric : Oid := 1700

end Oid

end PgClient

/-
The columns of a result as the server describes them.
-/

import PgClient.Value.Oid
import PgClient.Wire.Reader

namespace PgClient

inductive Format
  | text
  | binary
deriving Repr, DecidableEq

namespace Format

def code : Format → UInt16
  | text => 0
  | binary => 1

/-- Any code but that of text is taken for binary. -/
def ofCode (code : UInt16) : Format :=
  if code = 0 then text else binary

def name : Format → String
  | text => "Text"
  | binary => "Binary"

end Format

structure Field where
  name : String
  tableOid : Oid
  columnId : Int16
  typeOid : Oid
  typeSize : Int16
  typeModifier : Int32
  format : Format
deriving Repr, DecidableEq

namespace Field

/-- A text column that belongs to no table. -/
def ofType (name : String) (typeOid : Oid) : Field :=
  { name
    tableOid := 0
    columnId := 0
    typeOid
    typeSize := -1
    typeModifier := -1
    format := .text }

/-- The numbers that follow the name of a field. -/
def attributes? (name : String) (bytes : Bytes) : Option (Field × Bytes) := do
  let (tableOid, bytes) ← Bytes.uint32? bytes
  let (columnId, bytes) ← Bytes.uint16? bytes
  let (typeOid, bytes) ← Bytes.uint32? bytes
  let (typeSize, bytes) ← Bytes.uint16? bytes
  let (typeModifier, bytes) ← Bytes.uint32? bytes
  let (format, bytes) ← Bytes.uint16? bytes
  let field : Field :=
    { name
      tableOid
      columnId := columnId.toInt16
      typeOid
      typeSize := typeSize.toInt16
      typeModifier := typeModifier.toInt32
      format := Format.ofCode format }
  return (field, bytes)

def readOne (bytes : Bytes) : Except ProtocolFault (Field × Bytes) :=
  match Reader.text bytes with
  | .error fault => .error fault
  | .ok (name, rest) =>
      match attributes? name rest with
      | none => .error (.malformed .descriptionTooShort)
      | some read => .ok read

def readMany : Nat → Bytes → Except ProtocolFault (List Field)
  | 0, _ => .ok []
  | count + 1, bytes =>
      match readOne bytes with
      | .error fault => .error fault
      | .ok (field, rest) =>
          match readMany count rest with
          | .error fault => .error fault
          | .ok others => .ok (field :: others)

def bytes (field : Field) : Bytes :=
  Bytes.endedByZero (Utf8.encode field.name) ++ (Bytes.ofUInt32 field.tableOid ++
    (Bytes.ofUInt16 field.columnId.toUInt16 ++ (Bytes.ofUInt32 field.typeOid ++
      (Bytes.ofUInt16 field.typeSize.toUInt16 ++ (Bytes.ofUInt32 field.typeModifier.toUInt32 ++
        Bytes.ofUInt16 field.format.code)))))

end Field

end PgClient

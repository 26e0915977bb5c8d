/-
Fields and rows are read from the layout that they are written in.

A value that is missing is written as a length that no value has, so it is not taken for
an empty one. A length is read as a number with a sign, so only values of less than two
gigabytes have a layout.
-/

import PgClient.Proofs.Wire.Layout
import PgClient.Result.QueryResult

namespace PgClient

/-! ### Fields -/

namespace Field

private theorem attributes?_append (field : Field) (rest : Bytes) :
    attributes? field.name
      (Bytes.ofUInt32 field.tableOid ++ (Bytes.ofUInt16 field.columnId.toUInt16 ++
        (Bytes.ofUInt32 field.typeOid ++ (Bytes.ofUInt16 field.typeSize.toUInt16 ++
          (Bytes.ofUInt32 field.typeModifier.toUInt32 ++
            (Bytes.ofUInt16 field.format.code ++ rest)))))) = some (field, rest) := by
  have format : Format.ofCode field.format.code = field.format := by
    cases field.format with
    | text => rfl
    | binary => rfl
  simp only [attributes?, Bytes.uint32?_ofUInt32, Bytes.uint16?_ofUInt16, Option.bind_eq_bind,
    Option.bind_some, format]
  rfl

private theorem readOne_append {field : Field} (zeroFree : ZeroFree field.name) (rest : Bytes) :
    readOne (field.bytes ++ rest) = .ok (field, rest) := by
  simp only [readOne, bytes, List.append_assoc, Reader.text_append field.name zeroFree,
    attributes?_append]

theorem readMany_append {fields : List Field} (zeroFree : ∀ field ∈ fields, ZeroFree field.name)
    (rest : Bytes) : readMany fields.length (fields.flatMap bytes ++ rest) = .ok fields := by
  induction fields with
  | nil => rfl
  | cons field fields ih =>
      have first := zeroFree field List.mem_cons_self
      have others := ih fun other member => zeroFree other (List.mem_cons_of_mem _ member)
      rw [List.flatMap_cons, List.append_assoc, List.length_cons, readMany, readOne_append first]
      dsimp only
      rw [others]

end Field

/-! ### Rows -/

namespace ResultBuilder

def valueBytes : Option Bytes → Bytes
  | none => Bytes.ofUInt32 0xFFFFFFFF
  | some value => Bytes.ofUInt32 (UInt32.ofNat value.length) ++ value

/-- The length of the value is not negative when it is read. -/
def IsShort : Option Bytes → Prop
  | none => True
  | some value => value.length < 2147483648

theorem readValue_append {value : Option Bytes} (short : IsShort value) (rest : Bytes) :
    readValue (valueBytes value ++ rest) = .ok (value, rest) := by
  cases value with
  | none => rw [readValue, valueBytes, Bytes.uint32?_ofUInt32]; rfl
  | some bytes =>
      have bound : bytes.length < 2147483648 := short
      have length : (UInt32.ofNat bytes.length).toNat = bytes.length := by
        rw [UInt32.toNat_ofNat']
        omega
      have notMissing : ¬UInt32.ofNat bytes.length = 0xFFFFFFFF := by
        intro same
        have number := congrArg UInt32.toNat same
        rw [length] at number
        have greatest : UInt32.toNat 0xFFFFFFFF = 4294967295 := rfl
        omega
      rw [readValue, valueBytes, List.append_assoc, Bytes.uint32?_ofUInt32]
      dsimp only
      rw [if_neg notMissing, length, if_neg (by omega), Bytes.take?_append]

theorem readValues_append {values : List (Option Bytes)}
    (short : ∀ value ∈ values, IsShort value) (rest : Bytes) :
    readValues values.length (values.flatMap valueBytes ++ rest) = .ok values := by
  induction values with
  | nil => rfl
  | cons value values ih =>
      have first := short value List.mem_cons_self
      have others := ih fun other member => short other (List.mem_cons_of_mem _ member)
      rw [List.flatMap_cons, List.append_assoc, List.length_cons, readValues,
        readValue_append first]
      dsimp only
      rw [others]

end ResultBuilder

end PgClient

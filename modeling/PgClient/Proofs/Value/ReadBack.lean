/-
What is written of a value is read as that value.

A whole number is written in decimal, and every type of whole numbers reads those that lie
within its bounds. Where a type accepts the column type of another its bounds contain those
of the other, so a number only changes its type on the way. Floating point numbers are left
out here.
-/

import PgClient.Proofs.Text.Decimal
import PgClient.Value.Column

namespace PgClient

namespace ScalarType

def isFloat : ScalarType → Bool
  | float4 | float8 => true
  | _ => false

def isWhole : ScalarType → Bool
  | int2 | int4 | int8 | oid => true
  | _ => false

/-- A type of whole numbers accepts only what it has room for. -/
theorem bounds_of_accepts {type narrower : ScalarType} (whole : type.isWhole = true)
    (alsoWhole : narrower.isWhole = true) (accepts : type.accepts narrower.columnOid = true) :
    type.bounds.least ≤ narrower.bounds.least ∧
      narrower.bounds.greatest ≤ type.bounds.greatest := by
  cases type <;> cases narrower <;> revert whole alsoWhole accepts <;> decide

private theorem bounds_zero {type : ScalarType} (whole : type.isWhole = true) :
    type.bounds.least ≤ 0 ∧ 0 ≤ type.bounds.greatest := by
  cases type <;> revert whole <;> decide

end ScalarType

/-! ### Whole numbers -/

namespace Scalar

def whole? : Scalar → Option Int
  | int2 value => some value.toInt
  | int4 value => some value.toInt
  | int8 value => some value.toInt
  | oid value => some value.toNat
  | _ => none

variable {scalar other : Scalar} {number : Int} {type : ScalarType} {text : String}

private theorem isWhole_of_whole? (whole : scalar.whole? = some number) :
    scalar.type.isWhole = true := by
  cases scalar with
  | int2 _ | int4 _ | int8 _ | oid _ => rfl
  | _ => cases whole

private theorem whole?_of_isWhole (whole : scalar.type.isWhole = true) :
    ∃ number, scalar.whole? = some number := by
  cases scalar with
  | int2 _ | int4 _ | int8 _ | oid _ => exact ⟨_, rfl⟩
  | _ => cases whole

private theorem wireText_of_whole? (whole : scalar.whole? = some number) :
    scalar.wireText = toString number := by
  cases scalar <;> cases whole <;> rfl

/-- The number of a value lies within the bounds of its type. -/
theorem bounds_of_whole? (whole : scalar.whole? = some number) :
    scalar.type.bounds.least ≤ number ∧ number ≤ scalar.type.bounds.greatest := by
  cases scalar with
  | int2 value =>
      cases whole
      exact ⟨value.le_toInt, Int.le_sub_one_of_lt value.toInt_lt⟩
  | int4 value =>
      cases whole
      exact ⟨value.le_toInt, Int.le_sub_one_of_lt value.toInt_lt⟩
  | int8 value =>
      cases whole
      exact ⟨value.le_toInt, Int.le_sub_one_of_lt value.toInt_lt⟩
  | oid value =>
      cases whole
      exact ⟨Int.natCast_nonneg _, Int.le_sub_one_of_lt (Int.ofNat_lt.mpr value.toNat_lt)⟩
  | _ => cases whole

/-- Values of one type that are the same number are the same. -/
theorem eq_of_whole? (whole : scalar.whole? = some number) (same : other.whole? = some number)
    (ofType : other.type = scalar.type) : other = scalar := by
  cases scalar with
  | int2 value =>
      cases other with
      | int2 otherValue =>
          cases whole
          injection same with same
          rw [Int16.toInt_inj.mp same]
      | _ => cases ofType
  | int4 value =>
      cases other with
      | int4 otherValue =>
          cases whole
          injection same with same
          rw [Int32.toInt_inj.mp same]
      | _ => cases ofType
  | int8 value =>
      cases other with
      | int8 otherValue =>
          cases whole
          injection same with same
          rw [Int64.toInt_inj.mp same]
      | _ => cases ofType
  | oid value =>
      cases other with
      | oid otherValue =>
          cases whole
          injection same with same
          rw [UInt32.toNat_inj.mp (Int.ofNat_inj.mp same)]
      | _ => cases ofType
  | _ => cases whole

/-- A type of whole numbers reads every number within its bounds. -/
theorem exists_ofText? (isWhole : type.isWhole = true) (least : type.bounds.least ≤ number)
    (greatest : number ≤ type.bounds.greatest) :
    ∃ read, ofText? type (toString number) = some read ∧ read.type = type ∧
      read.whole? = some number := by
  have digits : Integer.read type.bounds (toString number).toList = .ok number :=
    Integer.read_toString (ScalarType.bounds_zero isWhole) least greatest
  cases type with
  | int2 =>
      have value : (Int16.ofInt number).toInt = number :=
        Int16.toInt_ofInt_of_le least (Int.lt_of_le_sub_one greatest)
      refine ⟨.int2 (Int16.ofInt number), ?_, rfl, congrArg some value⟩
      rw [ofText?, digits]
      rfl
  | int4 =>
      have value : (Int32.ofInt number).toInt = number :=
        Int32.toInt_ofInt_of_le least (Int.lt_of_le_sub_one greatest)
      refine ⟨.int4 (Int32.ofInt number), ?_, rfl, congrArg some value⟩
      rw [ofText?, digits]
      rfl
  | int8 =>
      have value : (Int64.ofInt number).toInt = number :=
        Int64.toInt_ofInt_of_le least (Int.lt_of_le_sub_one greatest)
      refine ⟨.int8 (Int64.ofInt number), ?_, rfl, congrArg some value⟩
      rw [ofText?, digits]
      rfl
  | oid =>
      have notNegative : 0 ≤ number := least
      have below : number < 4294967296 := Int.lt_of_le_sub_one greatest
      have value : ((UInt32.ofNat number.toNat).toNat : Int) = number := by
        rw [UInt32.toNat_ofNat']
        omega
      refine ⟨.oid (UInt32.ofNat number.toNat), ?_, rfl, congrArg some value⟩
      rw [ofText?, digits]
      rfl
  | _ => cases isWhole

/-- A type reads the numbers of every type whose columns it accepts. -/
theorem exists_ofText?_of_accepts (whole : scalar.whole? = some number)
    (isWhole : type.isWhole = true) (accepts : type.accepts scalar.type.columnOid = true) :
    ∃ read, ofText? type scalar.wireText = some read ∧ read.type = type ∧
      read.whole? = some number := by
  obtain ⟨wider, alsoWider⟩ :=
    ScalarType.bounds_of_accepts isWhole (isWhole_of_whole? whole) accepts
  obtain ⟨least, greatest⟩ := bounds_of_whole? whole
  rw [wireText_of_whole? whole]
  exact exists_ofText? isWhole (Int.le_trans wider least) (Int.le_trans greatest alsoWider)

/-! ### Texts read back -/

private theorem ofText?_wireText (notFloat : scalar.type.isFloat = false) :
    ofText? scalar.type scalar.wireText = some scalar := by
  by_cases isWhole : scalar.type.isWhole = true
  · obtain ⟨number, whole⟩ := whole?_of_isWhole isWhole
    obtain ⟨read, isRead, ofType, same⟩ :=
      exists_ofText?_of_accepts whole isWhole scalar.type.accepts_columnOid
    rw [isRead, eq_of_whole? whole same ofType]
  · cases scalar with
    | bool value =>
        cases value with
        | false => rfl
        | true => rfl
    | text value => rfl
    | float4 bits => cases notFloat
    | float8 bits => cases notFloat
    | _ => exact absurd rfl isWhole

end Scalar

/-! ### Columns -/

namespace Column

variable {column : Column} {type : ScalarType} {text : String} {scalar : Scalar}

/-- A column whose type is accepted is read as the text that it holds is. -/
theorem decode_of_text (accepts : type.accepts column.oid = true)
    (holds : column.value = some (Utf8.encode text))
    (read : Scalar.ofText? type text = some scalar) : column.decode type = .ok scalar := by
  rw [decode, if_pos accepts, bytes, holds]
  dsimp only
  rw [Utf8.decode_encode]
  dsimp only
  rw [read]

private theorem decode_of_refused (refused : type.accepts column.oid = false) :
    column.decode type = .error (.oidMismatch column.oid) := by
  rw [decode, refused]
  rfl

private theorem decode_ofScalar (notFloat : type.isFloat = false) (ofType : scalar.type = type)
    (holds : column.value = (Parameter.ofScalar scalar).value)
    (accepts : type.accepts column.oid = true) : column.decode type = .ok scalar := by
  rw [← ofType] at notFloat accepts ⊢
  exact decode_of_text accepts holds (Scalar.ofText?_wireText notFloat)

end Column

/-- Values of a type, and of the types that are narrower, written and read. -/
structure ScalarType.ReadsBack (type : ScalarType) : Prop where
  /-- A column that the type accepts and that holds what is written of a value is read as the
  value. -/
  value : ∀ (scalar : Scalar) (column : Column), scalar.type = type →
    column.value = (Parameter.ofScalar scalar).value → type.accepts column.oid = true →
      column.decode type = .ok scalar
  /-- The same holds of a value that may be missing, and is NULL where it is. -/
  optional : ∀ (given : Option Scalar) (column : Column), (∀ scalar ∈ given, scalar.type = type) →
    column.value = (Parameter.ofOption type given).value → type.accepts column.oid = true →
      column.decodeOption type = .ok given
  /-- The number of a value of a type whose columns are accepted is read as the same number. -/
  widened : ∀ (scalar : Scalar) (number : Int) (column : Column), scalar.whole? = some number →
    type.isWhole = true → type.accepts scalar.type.columnOid = true →
      column.value = (Parameter.ofScalar scalar).value → type.accepts column.oid = true →
        ∃ read, column.decode type = .ok read ∧ read.type = type ∧ read.whole? = some number
  /-- A column that is not accepted is refused before its value is looked at. -/
  refused : ∀ column : Column, type.accepts column.oid = false →
    column.decode type = .error (.oidMismatch column.oid)

/-- Truth values, texts and whole numbers of any width are read back as they were written, and
numbers also by every wider type. -/
theorem ScalarType.readsBack {type : ScalarType} (notFloat : type.isFloat = false) :
    type.ReadsBack where
  value scalar column ofType holds accepts := Column.decode_ofScalar notFloat ofType holds accepts
  optional given column ofType holds accepts := by
    cases given with
    | none =>
        have missing : column.value = none := holds
        rw [Column.decodeOption, missing]
    | some scalar =>
        have present : column.value = some (Utf8.encode scalar.wireText) := holds
        have decoded := Column.decode_ofScalar notFloat (ofType scalar rfl) holds accepts
        rw [Column.decodeOption, present]
        dsimp only
        rw [decoded]
        rfl
  widened scalar number column whole isWhole narrower holds accepts := by
    obtain ⟨read, isRead, ofType, same⟩ :=
      Scalar.exists_ofText?_of_accepts whole isWhole narrower
    exact ⟨read, Column.decode_of_text accepts holds isRead, ofType, same⟩
  refused column refused := Column.decode_of_refused refused

/-- The least number of the widest type, and the greatest number of a column that it accepts
beside its own. -/
theorem ScalarType.readsBack_limits :
    let ofText (oid : Oid) (scalar : Scalar) : Column :=
      { name := "n", oid, value := (Parameter.ofScalar scalar).value }
    let least : Scalar := .int8 (-9223372036854775808)
    let greatest : Scalar := .oid 4294967295
    ScalarType.int8.isFloat = false ∧
      (ofText Oid.int8 least).decode .int8 = .ok least ∧
      (∃ read, (ofText Oid.oid greatest).decode .int8 = .ok read ∧ read.type = .int8 ∧
        read.whole? = some 4294967295) ∧
      ({ name := "n", oid := Oid.text, value := none } : Column).decode .int8 =
        .error (.oidMismatch Oid.text) := by
  intro ofText least greatest
  have notFloat : ScalarType.int8.isFloat = false := rfl
  have readsBack := ScalarType.readsBack notFloat
  refine ⟨notFloat, ?_, ?_, ?_⟩
  · exact readsBack.value least (ofText Oid.int8 least) rfl rfl rfl
  · exact readsBack.widened greatest 4294967295 (ofText Oid.oid greatest) rfl rfl rfl rfl rfl
  · exact readsBack.refused _ rfl

end PgClient

/-
Rows and descriptions are accepted exactly where they have their layout.

Each value of a row is a length with a sign and as many bytes as that counts, or a length of
minus one and nothing. Each entry of a description is a name that a zero byte ends, and eighteen
bytes of numbers. Both are looked for from the front, one after the other, and what follows the
last is of no account. What was read is written again as the bytes that it was read from, but
for the code of a binary format, of which there are many.
-/

import PgClient.Proofs.Conn.Intake
import PgClient.Proofs.Result.Guarded
import PgClient.Proofs.Result.Layout

namespace PgClient

/-! ### Values -/

private theorem toUInt32_of_notNegative {length : Int32} (notNegative : 0 ≤ length.toInt) :
    length.toUInt32 = UInt32.ofNat length.toInt.toNat := by
  have parts := BitVec.toInt_eq_toNat_cond length.toBitVec
  have number : length.toUInt32.toNat = length.toBitVec.toNat := rfl
  have signed : length.toInt = length.toBitVec.toInt := rfl
  have bound := length.toUInt32.toNat_lt
  apply UInt32.toNat_inj.mp
  rw [UInt32.toNat_ofNat', number]
  rw [signed] at notNegative ⊢
  split at parts <;> omega

namespace ResultBuilder

/-- So many values stand in front of the rest: each a length that is −1, or one that is not
negative and not more than what is left, and then so many bytes. -/
inductive Values : Nat → Bytes → Bytes → Prop
  | ended (rest : Bytes) : Values 0 rest rest
  | missing {count : Nat} {left rest : Bytes} (others : Values count left rest) :
      Values (count + 1) (Bytes.ofUInt32 (-1 : Int32).toUInt32 ++ left) rest
  | present {count : Nat} {length : Int32} {left rest : Bytes} (notNegative : 0 ≤ length.toInt)
      (within : length.toInt ≤ left.length)
      (others : Values count (left.drop length.toInt.toNat) rest) :
      Values (count + 1) (Bytes.ofUInt32 length.toUInt32 ++ left) rest

variable {count : Nat} {bytes left rest : Bytes} {value : Option Bytes}
  {values : List (Option Bytes)}

private theorem readValue_eq_ok (read : readValue bytes = .ok (value, rest)) :
    IsShort value ∧ bytes = valueBytes value ++ rest := by
  unfold readValue at read
  split at read
  · cases read
  · rename_i length left readLength
    rw [Bytes.uint32?_eq_some readLength]
    split at read
    · rename_i isMissing
      cases read
      rw [isMissing]
      exact ⟨trivial, rfl⟩
    · split at read
      · cases read
      · rename_i notNegative
        split at read
        · cases read
        · rename_i front after taken
          cases read
          obtain ⟨whole, size⟩ := Bytes.take?_eq_some taken
          have short : IsShort (some front) := by
            change front.length < 2147483648
            omega
          refine ⟨short, ?_⟩
          rw [valueBytes, whole, size, UInt32.ofNat_toNat, List.append_assoc]

private theorem readValues_eq_ok (read : readValues count bytes = .ok values) :
    (∀ value ∈ values, IsShort value) ∧ ∃ rest, bytes = values.flatMap valueBytes ++ rest := by
  induction count generalizing bytes values with
  | zero =>
      cases read
      exact ⟨nofun, bytes, rfl⟩
  | succ count ih =>
      rw [readValues] at read
      split at read
      · cases read
      · rename_i value left first
        split at read
        · cases read
        · rename_i others further
          cases read
          obtain ⟨short, written⟩ := readValue_eq_ok first
          obtain ⟨allShort, rest, whole⟩ := ih further
          refine ⟨List.forall_mem_cons.mpr ⟨short, allShort⟩, rest, ?_⟩
          rw [written, whole, List.flatMap_cons, List.append_assoc]

/-- A value that is written stands where it is written. -/
theorem Values.of_short (short : IsShort value) (others : Values count left rest) :
    Values (count + 1) (valueBytes value ++ left) rest := by
  cases value with
  | none => exact .missing others
  | some value =>
      have bound : value.length < 2147483648 := short
      have number : (Int32.ofInt value.length).toInt = value.length := by
        apply Int32.toInt_ofInt_of_le
        · omega
        · omega
      have length : UInt32.ofNat value.length = (Int32.ofInt value.length).toUInt32 := by
        rw [toUInt32_of_notNegative (by omega), number, Int.toNat_natCast]
      rw [valueBytes, length, List.append_assoc]
      apply Values.present
      · omega
      · rw [number, List.length_append]
        omega
      · rw [number, Int.toNat_natCast, List.drop_left]
        exact others

private theorem values_of_layout (short : ∀ value ∈ values, IsShort value) (rest : Bytes) :
    Values values.length (values.flatMap valueBytes ++ rest) rest := by
  induction values with
  | nil => exact .ended rest
  | cons value values ih =>
      obtain ⟨first, others⟩ := List.forall_mem_cons.mp short
      rw [List.flatMap_cons, List.append_assoc]
      exact .of_short first (ih others)

/-- What stands in front of the rest is how some values are written. -/
theorem Values.exists_layout (holds : Values count bytes rest) :
    ∃ values : List (Option Bytes), values.length = count ∧ (∀ value ∈ values, IsShort value) ∧
      bytes = values.flatMap valueBytes ++ rest := by
  induction holds with
  | ended rest => exact ⟨[], rfl, nofun, rfl⟩
  | missing others ih =>
      obtain ⟨values, size, short, whole⟩ := ih
      refine ⟨none :: values, ?_, List.forall_mem_cons.mpr ⟨trivial, short⟩, ?_⟩
      · rw [List.length_cons, size]
      · rw [whole, List.flatMap_cons, List.append_assoc]
        rfl
  | @present count length left rest notNegative within others ih =>
      obtain ⟨values, size, short, whole⟩ := ih
      have counted : (left.take length.toInt.toNat).length = length.toInt.toNat := by
        rw [List.length_take]
        omega
      have first : IsShort (some (left.take length.toInt.toNat)) := by
        have below := length.toInt_lt
        change (left.take length.toInt.toNat).length < 2147483648
        omega
      refine ⟨some (left.take length.toInt.toNat) :: values, ?_,
        List.forall_mem_cons.mpr ⟨first, short⟩, ?_⟩
      · rw [List.length_cons, size]
      · rw [List.flatMap_cons, valueBytes, counted, toUInt32_of_notNegative notNegative,
          List.append_assoc, List.append_assoc, ← whole, List.take_append_drop]

private theorem exists_readValues_iff :
    (∃ values, readValues count bytes = .ok values) ↔ ∃ rest, Values count bytes rest := by
  constructor
  · rintro ⟨values, read⟩
    obtain ⟨short, rest, whole⟩ := readValues_eq_ok read
    refine ⟨rest, ?_⟩
    rw [whole, ← readValues_length read]
    exact values_of_layout short rest
  · rintro ⟨rest, holds⟩
    obtain ⟨values, size, short, whole⟩ := holds.exists_layout
    refine ⟨values, ?_⟩
    rw [whole, ← size]
    exact readValues_append short rest

/-! ### Rows -/

variable {builder after : ResultBuilder} {columns : UInt16} {body : Bytes}

private theorem push_eq_ok_iff : builder.push columns body = .ok after ↔
    columns.toNat = builder.fields.length ∧ ∃ values, readValues columns.toNat body = .ok values ∧
      after = { builder with rows := { fields := builder.fields, values } :: builder.rows } := by
  unfold push
  by_cases mismatch : columns.toNat ≠ builder.fields.length
  · rw [if_pos mismatch]
    constructor
    · nofun
    · rintro ⟨same, _⟩
      exact absurd same mismatch
  · rw [if_neg mismatch]
    have same : columns.toNat = builder.fields.length := Decidable.not_not.mp mismatch
    cases readValues columns.toNat body with
    | error fault =>
        constructor
        · nofun
        · rintro ⟨_, values, read, _⟩
          cases read
    | ok values =>
        constructor
        · intro pushed
          cases pushed
          exact ⟨same, values, rfl, rfl⟩
        · rintro ⟨_, values, read, rfl⟩
          cases read
          rfl

/-- A row is taken in exactly where it has its layout. -/
structure Exact (builder : ResultBuilder) (columns : UInt16) (body : Bytes) : Prop where
  accepts : (∃ after, builder.push columns body = .ok after) ↔
    columns.toNat = builder.fields.length ∧ ∃ rest, Values columns.toNat body rest
  /-- One row is added, whose values are written as what stands in front of the rest. -/
  adds : ∀ after rest, builder.push columns body = .ok after → Values columns.toNat body rest →
    ∃ values, values.length = columns.toNat ∧ body = values.flatMap valueBytes ++ rest ∧
      after = { builder with rows := { fields := builder.fields, values } :: builder.rows }
  /-- A session that cannot take in a row has the rows that it had. -/
  keeps : ∀ (conn : Conn) (input behind : Bytes) (frame : Frame) (fault : ProtocolFault),
    conn.builder = some builder → Frame.next input = .ok (some (frame, behind)) →
      BackendMessage.decode frame.first frame.body = .ok (.dataRow columns body) →
        builder.push columns body = .error fault →
          (conn.parse input).1 = .error fault ∧ (conn.parse input).2.builder = some builder

private theorem exact (builder : ResultBuilder) (columns : UInt16) (body : Bytes) :
    builder.Exact columns body where
  accepts := by
    rw [← exists_readValues_iff]
    constructor
    · rintro ⟨after, pushed⟩
      obtain ⟨same, values, read, _⟩ := push_eq_ok_iff.mp pushed
      exact ⟨same, values, read⟩
    · rintro ⟨same, values, read⟩
      exact ⟨_, push_eq_ok_iff.mpr ⟨same, values, read, rfl⟩⟩
  adds after rest pushed holds := by
    obtain ⟨_, values, read, isAfter⟩ := push_eq_ok_iff.mp pushed
    obtain ⟨written, size, short, whole⟩ := holds.exists_layout
    have again := readValues_append short rest
    rw [size, ← whole, read] at again
    cases again
    exact ⟨values, size, whole, isAfter⟩
  keeps conn input behind frame fault holding found decoded failed := by
    have refused : conn.handleFrame frame = .error fault := by
      rw [Conn.handleFrame, decoded]
      change conn.receiveRow columns body = _
      rw [Conn.receiveRow, holding]
      dsimp only
      rw [failed]
    rw [Conn.parse_of_refused found refused]
    exact ⟨rfl, holding⟩

end ResultBuilder

/-! ### Fields -/

namespace Field

def numbers (code : UInt16) (field : Field) : Bytes :=
  Bytes.ofUInt32 field.tableOid ++ (Bytes.ofUInt16 field.columnId.toUInt16 ++
    (Bytes.ofUInt32 field.typeOid ++ (Bytes.ofUInt16 field.typeSize.toUInt16 ++
      (Bytes.ofUInt32 field.typeModifier.toUInt32 ++ Bytes.ofUInt16 code))))

def bytesAs (code : UInt16) (field : Field) : Bytes :=
  Bytes.endedByZero (Utf8.encode field.name) ++ field.numbers code

private theorem bytesAs_code (field : Field) : field.bytesAs field.format.code = field.bytes :=
  rfl

private theorem numbers_length (code : UInt16) (field : Field) : (field.numbers code).length = 18 :=
  rfl

inductive Entries : Nat → Bytes → Bytes → Prop
  | ended (rest : Bytes) : Entries 0 rest rest
  | entry {count : Nat} {name : String} {numbers left rest : Bytes} (zeroFree : ZeroFree name)
      (size : numbers.length = 18) (others : Entries count left rest) :
      Entries (count + 1) (Bytes.endedByZero (Utf8.encode name) ++ (numbers ++ left)) rest

variable {count : Nat} {name : String} {bytes rest : Bytes} {field : Field} {fields : List Field}

private theorem attributes?_eq_some (read : attributes? name bytes = some (field, rest)) :
    field.name = name ∧
      ∃ code, Format.ofCode code = field.format ∧ bytes = field.numbers code ++ rest := by
  simp only [attributes?, bind, Option.bind_eq_some_iff, pure] at read
  obtain ⟨⟨_, afterTable⟩, table, ⟨_, afterColumn⟩, column, ⟨_, afterType⟩, type,
    ⟨_, afterSize⟩, size, ⟨_, afterModifier⟩, modifier, ⟨code, afterFormat⟩, format, same⟩ := read
  cases same
  refine ⟨rfl, code, rfl, ?_⟩
  dsimp only at column type size modifier format
  rw [Bytes.uint32?_eq_some table, Bytes.uint16?_eq_some column, Bytes.uint32?_eq_some type,
    Bytes.uint16?_eq_some size, Bytes.uint32?_eq_some modifier, Bytes.uint16?_eq_some format]
  simp only [numbers, List.append_assoc]
  rfl

private theorem exists_attributes? (enough : 18 ≤ bytes.length) :
    ∃ field rest, attributes? name bytes = some (field, rest) := by
  obtain ⟨tableOid, afterTable, table, _⟩ :=
    Bytes.exists_uint32? (show 4 ≤ bytes.length by omega)
  obtain ⟨columnId, afterColumn, column, _⟩ :=
    Bytes.exists_uint16? (show 2 ≤ afterTable.length by omega)
  obtain ⟨typeOid, afterType, type, _⟩ :=
    Bytes.exists_uint32? (show 4 ≤ afterColumn.length by omega)
  obtain ⟨typeSize, afterSize, size, _⟩ :=
    Bytes.exists_uint16? (show 2 ≤ afterType.length by omega)
  obtain ⟨typeModifier, afterModifier, modifier, _⟩ :=
    Bytes.exists_uint32? (show 4 ≤ afterSize.length by omega)
  obtain ⟨format, afterFormat, formatted, _⟩ :=
    Bytes.exists_uint16? (show 2 ≤ afterModifier.length by omega)
  simp only [attributes?, table, column, type, size, modifier, formatted, Option.bind_eq_bind,
    Option.bind_some]
  exact ⟨_, _, rfl⟩

private theorem readOne_eq_ok (read : readOne bytes = .ok (field, rest)) :
    ZeroFree field.name ∧
      ∃ code, Format.ofCode code = field.format ∧ bytes = field.bytesAs code ++ rest := by
  unfold readOne at read
  split at read
  · cases read
  · rename_i name left named
    obtain ⟨zeroFree, whole⟩ := Reader.text_eq_ok named
    split at read
    · cases read
    · rename_i pair attributes
      cases read
      obtain ⟨rfl, code, isFormat, written⟩ := attributes?_eq_some attributes
      refine ⟨zeroFree, code, isFormat, ?_⟩
      rw [whole, written, bytesAs, List.append_assoc]

/-- An entry is read, and written again as it was, with the code of the format that it has. -/
theorem exists_readOne {numbers : Bytes} (zeroFree : ZeroFree name)
    (size : numbers.length = 18) (left : Bytes) :
    ∃ field code, readOne (Bytes.endedByZero (Utf8.encode name) ++ (numbers ++ left)) =
        .ok (field, left) ∧ Format.ofCode code = field.format ∧
      Bytes.endedByZero (Utf8.encode name) ++ numbers = field.bytesAs code := by
  have enough : 18 ≤ (numbers ++ left).length := by
    rw [List.length_append]
    omega
  have there : ∃ field rest, attributes? name (numbers ++ left) = some (field, rest) :=
    exists_attributes? enough
  obtain ⟨field, rest, read⟩ := there
  obtain ⟨rfl, code, isFormat, whole⟩ := attributes?_eq_some read
  obtain ⟨isNumbers, rfl⟩ := List.append_inj whole (size.trans (numbers_length code field).symm)
  refine ⟨field, code, ?_, isFormat, ?_⟩
  · rw [readOne, Reader.text_append field.name zeroFree]
    dsimp only
    rw [read]
  · rw [bytesAs, isNumbers]

private theorem entries_of_readMany (read : readMany count bytes = .ok fields) :
    ∃ rest, Entries count bytes rest := by
  induction count generalizing bytes fields with
  | zero => exact ⟨bytes, .ended bytes⟩
  | succ count ih =>
      rw [readMany] at read
      split at read
      · cases read
      · rename_i field left first
        split at read
        · cases read
        · rename_i others further
          obtain ⟨zeroFree, code, _, whole⟩ := readOne_eq_ok first
          obtain ⟨rest, holds⟩ := ih further
          refine ⟨rest, ?_⟩
          rw [whole, bytesAs, List.append_assoc]
          exact .entry zeroFree (numbers_length code field) holds

private theorem Entries.exists_fields (holds : Entries count bytes rest) :
    ∃ fields codes, readMany count bytes = .ok fields ∧ fields.length = count ∧
      codes.map Format.ofCode = fields.map format ∧
      bytes = (List.zipWith bytesAs codes fields).flatten ++ rest := by
  induction holds with
  | ended rest => exact ⟨[], [], rfl, rfl, rfl, rfl⟩
  | @entry count name numbers left rest zeroFree size others ih =>
      obtain ⟨fields, codes, read, length, formats, whole⟩ := ih
      obtain ⟨field, code, first, isFormat, written⟩ := exists_readOne zeroFree size left
      refine ⟨field :: fields, code :: codes, ?_, ?_, ?_, ?_⟩
      · rw [readMany, first]
        dsimp only
        rw [read]
      · rw [List.length_cons, length]
      · rw [List.map_cons, List.map_cons, isFormat, formats]
      · rw [List.zipWith_cons_cons, List.flatten_cons, List.append_assoc, ← whole, ← written,
          List.append_assoc]

/-- Where only the codes of formats occur that are written, the fields are written as they
were. -/
theorem flatten_bytesAs {codes : List UInt16}
    (formats : codes.map Format.ofCode = fields.map format)
    (plain : ∀ code ∈ codes, code ≤ 1) :
    (List.zipWith bytesAs codes fields).flatten = fields.flatMap Field.bytes := by
  induction fields generalizing codes with
  | nil =>
      rw [List.zipWith_nil_right]
      rfl
  | cons field fields ih =>
      cases codes with
      | nil => cases formats
      | cons code codes =>
          injection formats with isFormat others
          obtain ⟨small, allSmall⟩ := List.forall_mem_cons.mp plain
          have isCode : code = field.format.code := by
            rw [← isFormat]
            unfold Format.ofCode
            split
            · rename_i zero
              exact zero
            · rename_i notZero
              apply UInt16.toNat_inj.mp
              have number := UInt16.le_iff_toNat_le.mp small
              have positive : code.toNat ≠ 0 := fun zero => notZero (UInt16.toNat_inj.mp zero)
              change code.toNat = 1
              change code.toNat ≤ 1 at number
              omega
          rw [List.zipWith_cons_cons, List.flatten_cons, List.flatMap_cons, ih others allSmall,
            isCode, bytesAs_code]

/-- A description is read exactly where it has its layout. -/
structure Exact (count : UInt16) (body : Bytes) : Prop where
  accepts : (∃ fields, readMany count.toNat body = .ok fields) ↔
    ∃ rest, Entries count.toNat body rest
  /-- Its fields are written as what stands in front of the rest, each with the code of its
  format, which is zero for text, and has been taken for binary where it is any other. -/
  reads : ∀ fields rest, readMany count.toNat body = .ok fields → Entries count.toNat body rest →
    fields.length = count.toNat ∧ ∃ codes : List UInt16,
      (codes.map fun code => if code = 0 then .text else .binary) = fields.map format ∧
      body = (List.zipWith bytesAs codes fields).flatten ++ rest ∧
      ((∀ code ∈ codes, code ≤ 1) → body = fields.flatMap Field.bytes ++ rest)

private theorem exact (count : UInt16) (body : Bytes) : Exact count body where
  accepts := by
    constructor
    · rintro ⟨fields, read⟩
      exact entries_of_readMany read
    · rintro ⟨rest, holds⟩
      obtain ⟨fields, _, read, _⟩ := holds.exists_fields
      exact ⟨fields, read⟩
  reads fields rest read holds := by
    obtain ⟨others, codes, again, length, formats, whole⟩ := holds.exists_fields
    rw [read] at again
    cases again
    refine ⟨length, codes, formats, whole, ?_⟩
    intro plain
    rw [← flatten_bytesAs formats plain]
    exact whole

end Field

/-! ### Both -/

/-- A row is taken in, and a description read, exactly where the body of the message starts with
its layout, however many columns are counted and whatever follows. -/
theorem contents_exact (builder : ResultBuilder) (columns : UInt16) (row : Bytes) (count : UInt16)
    (description : Bytes) : builder.Exact columns row ∧ Field.Exact count description :=
  ⟨builder.exact columns row, Field.exact count description⟩

/-- The value of the second column is counted right once, and once as longer than the body. -/
example :
    let builder : ResultBuilder := { fields := [.ofType "a" .int4, .ofType "b" .text] }
    let pushed (length : UInt8) : Option (List Row) :=
      (builder.push 2 [255, 255, 255, 255, 0, 0, 0, length, 52, 50, 7]).toOption.map (·.rows)
    (pushed 2, pushed 4) =
      (some [{ fields := builder.fields, values := [none, some [52, 50]] }], none) := by
  decide +kernel

end PgClient

/-
Descriptions, rows and reports, read by readers that look first.

The bodies of these messages are read after the message itself has been understood. A
count goes in front of the fields of a description and of the values of a row; the fields
of a report go on to a zero byte or to the end. Each row is measured against its fields
as it is built.
-/

import PgClient.Proofs.Wire.Guarded

namespace PgClient

open Halt (proper)

/-! ### Fields -/

namespace Field

private theorem attributes?_short {name : String} {bytes : Bytes} (short : bytes.length < 18) :
    attributes? name bytes = none := by
  cases read : attributes? name bytes with
  | none => rfl
  | some pair =>
      simp only [attributes?, bind, Option.bind_eq_some_iff, pure] at read
      obtain ⟨⟨_, afterTable⟩, table, ⟨_, afterColumn⟩, column, ⟨_, afterType⟩, type,
        ⟨_, afterSize⟩, size, ⟨_, afterModifier⟩, modifier, ⟨_, afterFormat⟩, format, _⟩ := read
      have tableSize : bytes.length = afterTable.length + 4 := Bytes.uint32?_length table
      have columnSize : afterTable.length = afterColumn.length + 2 := Bytes.uint16?_length column
      have typeSize : afterColumn.length = afterType.length + 4 := Bytes.uint32?_length type
      have sizeSize : afterType.length = afterSize.length + 2 := Bytes.uint16?_length size
      have modifierSize : afterSize.length = afterModifier.length + 4 :=
        Bytes.uint32?_length modifier
      have formatSize : afterModifier.length = afterFormat.length + 2 :=
        Bytes.uint16?_length format
      omega

private theorem readMany_succ (count : Nat) (bytes : Bytes) :
    readMany (count + 1) bytes =
      readOne bytes >>= fun read =>
        readMany count read.2 >>= fun others => .ok (read.1 :: others) := by
  rw [readMany]
  cases readOne bytes with
  | error fault => rfl
  | ok read =>
      obtain ⟨field, rest⟩ := read
      dsimp only [bind, Except.bind]
      cases readMany count rest with
      | error fault => rfl
      | ok others => rfl

end Field

namespace Guarded

def field (bytes : Bytes) : Except Halt (Field × Bytes) := do
  let (name, bytes) ← text bytes
  Plain.need 18 .descriptionTooShort bytes
  let (tableOid, bytes) ← Plain.uint32 bytes
  let (columnId, bytes) ← Plain.uint16 bytes
  let (typeOid, bytes) ← Plain.uint32 bytes
  let (typeSize, bytes) ← Plain.uint16 bytes
  let (typeModifier, bytes) ← Plain.uint32 bytes
  let (format, bytes) ← Plain.uint16 bytes
  let field : Field :=
    { name
      tableOid
      columnId := columnId.toInt16
      typeOid
      typeSize := typeSize.toInt16
      typeModifier := typeModifier.toInt32
      format := Format.ofCode format }
  return (field, bytes)

def fields : Nat → Bytes → Except Halt (List Field)
  | 0, _ => .ok []
  | count + 1, bytes => do
      let (field, rest) ← field bytes
      let others ← fields count rest
      return field :: others

private theorem field_eq (bytes : Bytes) : field bytes = proper (Field.readOne bytes) := by
  unfold field Field.readOne
  rw [text_eq]
  cases Reader.text bytes with
  | error fault => rfl
  | ok read =>
      obtain ⟨name, rest⟩ := read
      change (Plain.need 18 .descriptionTooShort rest >>= _) = _
      dsimp only
      by_cases enough : 18 ≤ rest.length
      · obtain ⟨tableOid, afterTable, table, _⟩ :=
          Bytes.exists_uint32? (show 4 ≤ rest.length by omega)
        obtain ⟨columnId, afterColumn, column, _⟩ :=
          Bytes.exists_uint16? (show 2 ≤ afterTable.length by omega)
        obtain ⟨typeOid, afterType, type, _⟩ :=
          Bytes.exists_uint32? (show 4 ≤ afterColumn.length by omega)
        obtain ⟨typeSize, afterSize, size, _⟩ :=
          Bytes.exists_uint16? (show 2 ≤ afterType.length by omega)
        obtain ⟨typeModifier, afterModifier, modifier, _⟩ :=
          Bytes.exists_uint32? (show 4 ≤ afterSize.length by omega)
        obtain ⟨format, afterFormat, formatted, _⟩ :=
          Bytes.exists_uint16? (show 2 ≤ afterModifier.length by omega)
        simp only [need_ok enough, Plain.uint32, Plain.uint16, Field.attributes?, table, column,
          type, size, modifier, formatted, bind, Except.bind, Option.bind]
        rfl
      · have short : rest.length < 18 := by omega
        rw [need_short short, Field.attributes?_short short]
        rfl

theorem fields_eq (count : Nat) (bytes : Bytes) :
    fields count bytes = proper (Field.readMany count bytes) := by
  induction count generalizing bytes with
  | zero => rfl
  | succ count ih =>
      rw [Field.readMany_succ]
      exact Halt.bind_eq (field_eq bytes) fun read =>
        Halt.bind_eq (ih read.2) fun others => rfl

end Guarded

/-! ### Rows -/

namespace ResultBuilder

private theorem readValues_succ (count : Nat) (bytes : Bytes) :
    readValues (count + 1) bytes =
      readValue bytes >>= fun read =>
        readValues count read.2 >>= fun others => .ok (read.1 :: others) := by
  rw [readValues]
  cases readValue bytes with
  | error fault => rfl
  | ok read =>
      obtain ⟨value, rest⟩ := read
      dsimp only [bind, Except.bind]
      cases readValues count rest with
      | error fault => rfl
      | ok others => rfl

theorem readValues_length {count : Nat} {bytes : Bytes} {values : List (Option Bytes)}
    (read : readValues count bytes = .ok values) : values.length = count := by
  induction count generalizing bytes values with
  | zero =>
      cases read
      rfl
  | succ count ih =>
      rw [readValues] at read
      split at read
      · cases read
      · split at read
        · cases read
        · rename_i others further
          cases read
          rw [List.length_cons, ih further]

end ResultBuilder

namespace Guarded

def value (bytes : Bytes) : Except Halt (Option Bytes × Bytes) := do
  Plain.need 4 .rowTooShort bytes
  let (length, rest) ← Plain.uint32 bytes
  if length = 0xFFFFFFFF then return (none, rest)
  else if 2147483648 ≤ length.toNat ∨ rest.length < length.toNat then
    throw (.fault (.malformed .valueOutOfRange))
  else
    let (value, rest) ← Plain.split length.toNat rest
    return (some value, rest)

def values : Nat → Bytes → Except Halt (List (Option Bytes))
  | 0, _ => .ok []
  | count + 1, bytes => do
      let (value, rest) ← value bytes
      let others ← values count rest
      return value :: others

/-- Counts the values of a row against the fields that it shares. -/
def row (fields : List Field) (values : List (Option Bytes)) : Except Halt Row :=
  if values.length = fields.length then .ok { fields, values } else .error .uneven

def push (builder : ResultBuilder) (columns : UInt16) (body : Bytes) :
    Except Halt ResultBuilder :=
  if columns.toNat ≠ builder.fields.length then .error (.fault (.malformed .rowLengthMismatch))
  else do
    let values ← values columns.toNat body
    let row ← row builder.fields values
    return { builder with rows := row :: builder.rows }

private theorem value_eq (bytes : Bytes) :
    value bytes = proper (ResultBuilder.readValue bytes) := by
  unfold value ResultBuilder.readValue
  by_cases enough : 4 ≤ bytes.length
  · obtain ⟨length, rest, read, _⟩ := Bytes.exists_uint32? enough
    simp only [need_ok enough, Plain.uint32, read, bind, Except.bind]
    by_cases isNull : length = 0xFFFFFFFF
    · rw [if_pos isNull, if_pos isNull]
      rfl
    · rw [if_neg isNull, if_neg isNull]
      by_cases negative : 2147483648 ≤ length.toNat
      · rw [if_pos (Or.inl negative), if_pos negative]
        rfl
      · rw [if_neg negative]
        by_cases short : rest.length < length.toNat
        · rw [if_pos (Or.inr short), Bytes.take?_of_lt short]
          rfl
        · have inside : length.toNat ≤ rest.length := by omega
          rw [if_neg (by omega), Bytes.take?_of_le inside, Plain.split, if_neg short]
          rfl
  · have short : bytes.length < 4 := by omega
    rw [need_short short, Bytes.uint32?_eq_none_iff.mpr short]
    rfl

private theorem values_eq (count : Nat) (bytes : Bytes) :
    values count bytes = proper (ResultBuilder.readValues count bytes) := by
  induction count generalizing bytes with
  | zero => rfl
  | succ count ih =>
      rw [ResultBuilder.readValues_succ]
      exact Halt.bind_eq (value_eq bytes) fun read =>
        Halt.bind_eq (ih read.2) fun others => rfl

theorem push_eq (builder : ResultBuilder) (columns : UInt16) (body : Bytes) :
    push builder columns body = proper (builder.push columns body) := by
  unfold push ResultBuilder.push
  by_cases mismatch : columns.toNat ≠ builder.fields.length
  · rw [if_pos mismatch, if_pos mismatch]
    rfl
  · rw [if_neg mismatch, if_neg mismatch, values_eq]
    cases read : ResultBuilder.readValues columns.toNat body with
    | error fault => rfl
    | ok values =>
        have even : values.length = builder.fields.length := by
          rw [ResultBuilder.readValues_length read]
          exact Decidable.not_not.mp mismatch
        change (row builder.fields values >>= _) = _
        rw [row, if_pos even]
        rfl

end Guarded

/-! ### Reports -/

namespace Guarded

def reportFields : Nat → Bytes → Except Halt (List (UInt8 × String))
  | 0, _ => .error .unfinished
  | rounds + 1, body =>
      if body.isEmpty then .ok []
      else do
        let (code, rest) ← Plain.byte body
        if code = 0 then return []
        else
          let (text, rest) ← text rest
          Plain.less rest.length body.length
          let others ← reportFields rounds rest
          return (code, text) :: others

def report (body : Bytes) : Except Halt Diagnostic := do
  return Diagnostic.ofFields (← reportFields (body.length + 1) body)

/-- Each field uses up two bytes or more, so the rounds are enough. -/
theorem reportFields_eq {rounds : Nat} {body : Bytes} (enough : body.length < rounds) :
    reportFields rounds body = proper (Diagnostic.fields body) := by
  induction rounds generalizing body with
  | zero => contradiction
  | succ rounds ih =>
      cases body with
      | nil =>
          rw [Diagnostic.fields]
          rfl
      | cons code rest =>
          rw [Diagnostic.fields_cons, reportFields]
          change (if code = 0 then (.ok [] : Except Halt (List (UInt8 × String)))
            else text rest >>= _) = _
          by_cases zero : code = 0
          · rw [if_pos zero, if_pos zero]
            rfl
          · rw [if_neg zero, if_neg zero]
            apply Halt.bind_eq_of_ok (text_eq rest)
            intro read found
            have shorter : read.2.length < rest.length := Reader.text_length found
            rw [List.length_cons] at enough
            have left : read.2.length < rounds := by omega
            have fewer : read.2.length < (code :: rest).length := by
              rw [List.length_cons]
              omega
            simp only [Plain.less_ok fewer]
            exact Halt.bind_eq (ih left) fun others => rfl

theorem report_eq (body : Bytes) : report body = proper (Diagnostic.parse body) := by
  unfold report Diagnostic.parse
  rw [reportFields_eq (Nat.lt_succ_self _)]
  cases Diagnostic.fields body with
  | error fault => rfl
  | ok fields => rfl

end Guarded

end PgClient

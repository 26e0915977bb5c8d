/-
Lengths and counts on the wire, for messages of any size.

The length of a message is added up in words of 32 bits before it is written, and the length of
a value is read as a number with a sign. A message that is written has the right length, for a
sum that exceeds its word stops it; but a message of many parts is stopped by the sum and not as
one that is too large, and a value of two gigabytes has a negative length. What else is counted
is always right.
-/

import Mathlib.Data.List.Forall2
import PgClient.Proofs.Result.Layout
import PgClient.Proofs.Wire.Outgoing

namespace PgClient

namespace FrontendMessage

/-! ### Words with a sign -/

def signed (word : UInt32) : Int :=
  word.toInt32.toInt

private theorem toNat_ofNat_of_lt {count : Nat} (small : count < 4294967296) :
    (UInt32.ofNat count).toNat = count := by
  rw [UInt32.toNat_ofNat']
  omega

private theorem signed_ofNat {count : Nat} (small : count < 4294967296) :
    signed (UInt32.ofNat count) = count ↔ count < 2147483648 := by
  have same : signed (UInt32.ofNat count) = (UInt32.ofNat count).toBitVec.toInt := rfl
  have unsigned : (UInt32.ofNat count).toBitVec.toNat = count := toNat_ofNat_of_lt small
  rw [same, BitVec.toInt_eq_toNat_cond, unsigned]
  split
  · omega
  · omega

/-! ### What is counted -/

/-- A value stands behind its length, which is −1 if there is none. -/
def Measured (value : Option Bytes) (bytes : Bytes) : Prop :=
  ∃ length, bytes = Bytes.ofUInt32 length ++ value.getD [] ∧
    signed length = match value with
      | none => -1
      | some value => value.length

/-- The counts in a body are right: that of its parameters, that of the data of a mechanism, and
the length of each value that is bound. -/
def Tallies (message : FrontendMessage) (body : Bytes) : Prop :=
  match message with
  | saslInitialResponse mechanism data =>
      ∃ length, body = textBytes mechanism ++ (Bytes.ofUInt32 length ++ data) ∧
        length.toNat = data.length
  | parse name sql parameters =>
      ∃ count, body = textBytes name ++ textBytes sql ++ (Bytes.ofUInt16 count ++
          parameters.flatMap fun parameter => Bytes.ofUInt32 parameter.oid) ∧
        count.toNat = parameters.length
  | bind portal statement parameters =>
      ∃ count entries, body = textBytes portal ++ (textBytes statement ++ Bytes.ofUInt16 0) ++
          (Bytes.ofUInt16 count ++ (entries.flatten ++ Bytes.ofUInt16 0)) ∧
        count.toNat = parameters.length ∧
        List.Forall₂ (fun parameter entry => Measured parameter.value entry) parameters entries
  | _ => True

def bound : FrontendMessage → List Parameter
  | bind _ _ parameters => parameters
  | _ => []

private theorem ofUInt32_injective {word other : UInt32}
    (same : Bytes.ofUInt32 word = Bytes.ofUInt32 other) : word = other := by
  have read := Bytes.uint32?_ofUInt32 word []
  rw [same, Bytes.uint32?_ofUInt32] at read
  cases read
  rfl

private theorem valueBytes_split (parameter : Parameter) :
    valueBytes parameter =
      Bytes.ofUInt32 (match parameter.value with
        | none => 0xFFFFFFFF
        | some value => UInt32.ofNat value.length) ++ parameter.value.getD [] := by
  unfold valueBytes
  cases parameter.value with
  | none => rfl
  | some value => rfl

private theorem Measured.length {value : Option Bytes} {bytes : Bytes}
    (measured : Measured value bytes) :
    bytes.length = 4 + (value.getD []).length := by
  obtain ⟨length, rfl, _⟩ := measured
  rw [List.length_append, Bytes.ofUInt32_length]

/-- The length of a value has its own sign unless the value is too long for that. -/
theorem measured_iff {parameter : Parameter}
    (small : (valueBytes parameter).length < 4294967296) :
    Measured parameter.value (valueBytes parameter) ↔ ResultBuilder.IsShort parameter.value := by
  obtain ⟨oid, value⟩ := parameter
  cases value with
  | none =>
      have missing : Measured none (valueBytes ⟨oid, none⟩) :=
        ⟨0xFFFFFFFF, (List.append_nil _).symm, rfl⟩
      exact iff_of_true missing trivial
  | some value =>
      rw [valueBytes_split, List.length_append] at small
      have sign := signed_ofNat (Nat.lt_of_le_of_lt (Nat.le_add_left _ _) small)
      constructor
      · rintro ⟨length, same, read⟩
        obtain ⟨word, _⟩ := List.append_inj same rfl
        rw [← ofUInt32_injective word] at read
        exact sign.mp read
      · exact fun short => ⟨_, rfl, sign.mpr short⟩

private theorem valueBytes_le {parameters : List Parameter} {parameter : Parameter}
    (member : parameter ∈ parameters) :
    (valueBytes parameter).length ≤ (parameters.flatMap valueBytes).length := by
  obtain ⟨before, behind, rfl⟩ := List.append_of_mem member
  simp only [List.flatMap_append, List.flatMap_cons, List.length_append]
  omega

/-- Values that stand behind their lengths can be divided in one way only. -/
theorem entries_eq {parameters : List Parameter} {entries : List Bytes}
    (whole : entries.flatten = parameters.flatMap valueBytes)
    (measured : List.Forall₂ (fun parameter entry => Measured parameter.value entry)
      parameters entries) : entries = parameters.map valueBytes := by
  induction measured with
  | nil => rfl
  | @cons parameter entry parameters entries first others ih =>
      rw [List.flatten_cons, List.flatMap_cons] at whole
      have sameLength : entry.length = (valueBytes parameter).length := by
        rw [first.length, valueBytes_split, List.length_append, Bytes.ofUInt32_length]
      obtain ⟨sameEntry, rest⟩ := List.append_inj whole sameLength
      rw [List.map_cons, sameEntry, ih rest]

private theorem tallies_bind {portal statement : String} {parameters : List Parameter}
    (small : (parameters.flatMap valueBytes).length < 4294967296)
    (whole : (bind portal statement parameters).body.whole = true) :
    (bind portal statement parameters).Tallies (bind portal statement parameters).body.bytes ↔
      ∀ parameter ∈ parameters, ResultBuilder.IsShort parameter.value := by
  have each : ∀ parameter ∈ parameters,
      (Measured parameter.value (valueBytes parameter) ↔ ResultBuilder.IsShort parameter.value) :=
    fun parameter member => measured_iff (Nat.lt_of_le_of_lt (valueBytes_le member) small)
  obtain ⟨count, counted, written⟩ := withCount_of_whole whole
  constructor
  · rintro ⟨number, entries, same, _, measured⟩ parameter member
    have behind := List.append_cancel_left (written.symm.trans same)
    obtain ⟨_, behind⟩ := List.append_inj behind rfl
    have divided := entries_eq (List.append_cancel_right behind).symm measured
    rw [divided, List.forall₂_map_right_iff, List.forall₂_same] at measured
    exact (each parameter member).mp (measured parameter member)
  · intro short
    refine ⟨count, parameters.map valueBytes, ?_, counted, ?_⟩
    · rw [← List.flatMap_def]
      exact written
    · rw [List.forall₂_map_right_iff, List.forall₂_same]
      intro parameter member
      exact (each parameter member).mpr (short parameter member)

/-- Of a body that is written, all counts are right if no value that is bound is too long to have
a length with a sign, and only then. -/
theorem tallies_iff {message : FrontendMessage} (small : message.extent < 4294967292)
    (whole : message.body.whole = true) :
    message.Tallies message.body.bytes ↔
      ∀ parameter ∈ message.bound, ResultBuilder.IsShort parameter.value := by
  cases message with
  | bind portal statement parameters =>
      exact tallies_bind (by simp only [extent] at small; omega) whole
  | saslInitialResponse mechanism data =>
      change (textBytes mechanism ++ counted data).length < 4294967292 at small
      rw [List.length_append, counted_length] at small
      exact iff_of_true ⟨_, rfl, toNat_ofNat_of_lt (by omega)⟩ (List.forall_mem_nil _)
  | parse name sql parameters =>
      obtain ⟨count, counted, written⟩ := withCount_of_whole whole
      exact iff_of_true ⟨count, written, counted⟩ (List.forall_mem_nil _)
  | _ => exact iff_of_true trivial (List.forall_mem_nil _)

/-! ### Whole messages -/

/-- A message is put behind what is there if it has room and all of it is written. -/
theorem append_ok_iff {message : FrontendMessage} {buffer : Bytes} :
    (message.append buffer).1 = .ok () ↔
      message.extent < 4294967292 ∧ message.body.whole = true := by
  rw [← fits_iff]
  cases fits : message.fits with
  | true =>
      obtain ⟨length, counted⟩ := Except.exists_of_isOk fits
      rw [append_of_length counted]
      cases message.body.whole with
      | true => exact iff_of_true rfl ⟨rfl, rfl⟩
      | false => exact iff_of_false nofun nofun
  | false =>
      obtain ⟨defect, unfit⟩ := exists_unfit fits
      rw [append_of_unfit unfit]
      exact iff_of_false nofun nofun

/-- The length in front of a message that is written is the right one. -/
theorem append_of_whole {message : FrontendMessage} (small : message.extent < 4294967292)
    (whole : message.body.whole = true) (buffer : Bytes) :
    ∃ length : UInt32, message.append buffer =
        (.ok (), buffer ++ message.first :: (Bytes.ofUInt32 length ++ message.body.bytes)) ∧
      length.toNat = 4 + message.body.bytes.length := by
  obtain ⟨length, counted⟩ := Except.exists_of_isOk (fits_iff.mpr small)
  have counts := length_counts message
  rw [counted, ← extent_of_whole whole] at counts
  refine ⟨length, ?_, counts⟩
  rw [append_of_length counted, if_pos whole]

/-- A message that is not written is too large in one of its parts, or in their sum. -/
theorem append_refused {message : FrontendMessage} {defect : Defect} {buffer after : Bytes}
    (refused : message.append buffer = (.error defect, after)) :
    (∃ written, after = buffer ++ written) ∧
      (defect = .oversizedMessage ∨ defect = .overflow ∧ 4294967292 ≤ message.extent) := by
  cases counted : message.length with
  | ok length =>
      rw [append_of_length counted] at refused
      split at refused
      · cases refused
      · cases refused
        exact ⟨⟨_, rfl⟩, .inl rfl⟩
  | error other =>
      rw [append_of_unfit counted] at refused
      cases refused
      have counts := length_counts message
      rw [counted] at counts
      refine ⟨⟨_, rfl⟩, counts.1.imp id fun same => ⟨same, ?_⟩⟩
      have large := counts.2
      omega

end FrontendMessage

private theorem StartupMessage.refused_or_counted (message : StartupMessage) (buffer : Bytes) :
    (∃ written, message.append buffer = (.error .oversizedMessage, buffer ++ written)) ∨
      ∃ length : UInt32, message.append buffer =
          (.ok (), buffer ++ (Bytes.ofUInt32 length ++ message.content)) ∧
        length.toNat = 4 + message.content.length := by
  unfold StartupMessage.append FrontendMessage.count32
  dsimp only
  by_cases small : 4 + message.content.length < 4294967296
  · rw [if_pos small]
    exact .inr ⟨_, rfl, FrontendMessage.toNat_ofNat_of_lt small⟩
  · rw [if_neg small]
    exact .inl ⟨_, rfl⟩

namespace FrontendMessage

/-- A message is put behind what is there already if it has room and its parameters can be
counted, and then its length is the right one, as are the number of its parameters and the length
of the data of a mechanism; the lengths of its values are right as long as none of them has two
gigabytes. Otherwise it is refused as too large, or because the sum of its parts exceeds a word.
The first message of a session is refused as too large, or its length is right. -/
theorem append_counts (message : FrontendMessage) (startup : StartupMessage) (buffer : Bytes) :
    ((message.append buffer).1 = .ok () ↔
      message.extent < 4294967292 ∧ message.body.whole = true) ∧
    ((∃ written, message.append buffer = (.error .oversizedMessage, buffer ++ written)) ∨
      (4294967292 ≤ message.extent ∧
        ∃ written, message.append buffer = (.error .overflow, buffer ++ written)) ∨
      ∃ length : UInt32, message.append buffer =
          (.ok (), buffer ++ message.first :: (Bytes.ofUInt32 length ++ message.body.bytes)) ∧
        length.toNat = 4 + message.body.bytes.length ∧
        (message.Tallies message.body.bytes ↔
          ∀ parameter ∈ message.bound, ResultBuilder.IsShort parameter.value)) ∧
    ((∃ written, startup.append buffer = (.error .oversizedMessage, buffer ++ written)) ∨
      ∃ length : UInt32, startup.append buffer =
          (.ok (), buffer ++ (Bytes.ofUInt32 length ++ startup.content)) ∧
        length.toNat = 4 + startup.content.length) := by
  refine ⟨append_ok_iff, ?_, startup.refused_or_counted buffer⟩
  cases outcome : message.append buffer with
  | mk told after =>
      cases told with
      | ok done =>
          obtain ⟨small, whole⟩ := append_ok_iff.mp (congrArg Prod.fst outcome)
          obtain ⟨length, appended, counted⟩ := append_of_whole small whole buffer
          rw [← outcome]
          exact .inr (.inr ⟨length, appended, counted, tallies_iff small whole⟩)
      | error defect =>
          obtain ⟨⟨written, rfl⟩, rfl | ⟨rfl, large⟩⟩ := append_refused outcome
          · exact .inl ⟨written, rfl⟩
          · exact .inr (.inl ⟨large, written, rfl⟩)

/-! ### Large messages -/

def uniform (count length : Nat) : List Parameter :=
  List.replicate count ⟨25, some (List.replicate length 120)⟩

variable {count length : Nat}

theorem uniform_length : (uniform count length).length = count :=
  List.length_replicate

private theorem uniform_values :
    ((uniform count length).flatMap valueBytes).length = count * (4 + length) := by
  simp [uniform, List.length_flatMap, valueBytes, counted_length]

theorem uniform_extent :
    (bind "" "" (uniform count length)).extent = count * (4 + length) + 8 := by
  simp only [extent, uniform_values]
  change 1 + 1 + 2 + 2 + _ + 2 = _
  omega

private theorem uniform_whole (few : count ≤ 65535) :
    (bind "" "" (uniform count length)).body.whole = true := by
  apply withCount_of_le
  rw [uniform_length]
  exact few

private theorem uniform_size : (bind "" "" (uniform count length)).size =
    (valuesSize 0 (uniform count length) >>=
      fun values => sum 6 values >>= fun behind => sum behind 2) :=
  rfl

/-- The values can be counted as long as the names in front of them are left out. -/
theorem uniform_overflow (values : count * (4 + length) < 4294967296)
    (large : 4294967290 ≤ count * (4 + length)) :
    (bind "" "" (uniform count length)).size = .error .overflow := by
  have counts := valuesSize_counts 0 (uniform count length)
  rw [uniform_values, show (0 : UInt32).toNat = 0 from rfl, Nat.zero_add] at counts
  rw [uniform_size]
  cases sized : valuesSize 0 (uniform count length) with
  | error defect =>
      rw [sized] at counts
      exact absurd counts.2 (Nat.not_le.mpr values)
  | ok total =>
      rw [sized] at counts
      have same : total.toNat = count * (4 + length) := counts
      have exceeds : ¬(6 : UInt32).toNat + total.toNat < 4294967296 := by
        rw [same]
        change ¬6 + _ < _
        omega
      have stopped : sum 6 total = .error .overflow := if_neg exceeds
      change (sum 6 total >>= fun behind => sum behind 2) = _
      rw [stopped]
      rfl

/-- Parameters that exceed a word only together with the names, and a value that exceeds nothing
but the numbers with a sign. The first message is stopped by a sum, and is not told to be too
large; the second is written, with a value of negative length. -/
theorem append_overflows :
    let many := bind "" "" (uniform 65535 65533)
    let long := bind "" "" (uniform 1 2147483648)
    many.append [] = (.error .overflow, []) ∧
      (long.append []).1 = .ok () ∧ ¬long.Tallies long.body.bytes := by
  intro many long
  constructor
  · have refused : many.size = .error .overflow := uniform_overflow (by decide) (by decide)
    rw [append, refused]
  · have whole : long.body.whole = true := uniform_whole (by decide)
    have small : long.extent < 4294967292 := by
      rw [show long.extent = _ from uniform_extent]
      decide
    refine ⟨append_ok_iff.mpr ⟨small, whole⟩, ?_⟩
    rw [tallies_iff small whole]
    intro short
    have tooLong : (List.replicate 2147483648 (120 : UInt8)).length < 2147483648 :=
      short ⟨25, some (List.replicate 2147483648 120)⟩ (List.mem_replicate.mpr ⟨by decide, rfl⟩)
    rw [List.length_replicate] at tooLong
    exact absurd tooLong (Nat.lt_irrefl _)

end FrontendMessage

end PgClient

/-
Readers that look before they take.

The operations of a plain buffer know no faults: to take a number, to split or to skip is
only allowed when the bytes are there, and otherwise the program has come to a wrong end.
A reader that is made of them has to look first. Here the readers of messages are made in
this way, with the tests where a careful hand would put them, and each of them comes to
what the reader of the same name comes to. So no bytes that a server sends bring one of
them to a wrong end, and no test is missing.

A loop that goes on while there are bytes is given a number of rounds, and each round is
held to using some bytes up.
-/

import PgClient.Proofs.Wire.Layout
import PgClient.Result.QueryResult

namespace PgClient

/-- How reading from a plain buffer ends without a value. -/
inductive Halt
  /-- The bytes were looked at, and are not what they should be. -/
  | fault (fault : ProtocolFault)
  /-- More bytes were taken than there are. -/
  | overrun
  /-- A loop was not over after its rounds. -/
  | unfinished
  /-- A round of a loop left as much to read as there was before. -/
  | stalled
  /-- A row was built that has not one value for each of its fields. -/
  | uneven
deriving Repr, DecidableEq

def Halt.proper {α : Type} (outcome : Except ProtocolFault α) : Except Halt α :=
  outcome.mapError Halt.fault

/-- Steps that are proper one by one are proper one after the other. The second need only
be so for what the first can come to. -/
theorem Halt.bind_eq_of_ok {α β : Type} {guarded : Except Halt α}
    {outcome : Except ProtocolFault α} (same : guarded = proper outcome)
    {onward : α → Except Halt β} {next : α → Except ProtocolFault β}
    (further : ∀ value, outcome = .ok value → onward value = proper (next value)) :
    (guarded >>= onward) = proper (outcome >>= next) := by
  rw [same]
  cases reached : outcome with
  | error fault => rfl
  | ok value => exact further value reached

theorem Halt.bind_eq {α β : Type} {guarded : Except Halt α} {outcome : Except ProtocolFault α}
    (same : guarded = proper outcome) {onward : α → Except Halt β}
    {next : α → Except ProtocolFault β} (further : ∀ value, onward value = proper (next value)) :
    (guarded >>= onward) = proper (outcome >>= next) :=
  bind_eq_of_ok same fun value _ => further value

def Halt.caught {α : Type} : Except Halt α → Except Halt (Except ProtocolFault α)
  | .ok value => .ok (.ok value)
  | .error (.fault reason) => .ok (.error reason)
  | .error halt => .error halt

@[simp]
theorem Halt.caught_proper {α : Type} (outcome : Except ProtocolFault α) :
    caught (proper outcome) = .ok outcome := by
  cases outcome with
  | error fault => rfl
  | ok value => rfl

/-! ### Plain buffers -/

namespace Plain

def byte (bytes : Bytes) : Except Halt (UInt8 × Bytes) :=
  match bytes with
  | [] => .error .overrun
  | first :: rest => .ok (first, rest)

def uint16 (bytes : Bytes) : Except Halt (UInt16 × Bytes) :=
  match Bytes.uint16? bytes with
  | none => .error .overrun
  | some read => .ok read

def uint32 (bytes : Bytes) : Except Halt (UInt32 × Bytes) :=
  match Bytes.uint32? bytes with
  | none => .error .overrun
  | some read => .ok read

def split (count : Nat) (bytes : Bytes) : Except Halt (Bytes × Bytes) :=
  if bytes.length < count then .error .overrun else .ok (bytes.splitAt count)

def skip (count : Nat) (bytes : Bytes) : Except Halt Bytes :=
  if bytes.length < count then .error .overrun else .ok (bytes.drop count)

def need (count : Nat) (reason : Malformation) (bytes : Bytes) : Except Halt Unit :=
  if bytes.length < count then .error (.fault (.malformed reason)) else .ok ()

def less (after before : Nat) : Except Halt Unit :=
  if after < before then .ok () else .error .stalled

theorem less_ok {after before : Nat} (fewer : after < before) : less after before = .ok () :=
  if_pos fewer

end Plain

namespace Bytes

private theorem uint16?_eq_none_iff {bytes : Bytes} : uint16? bytes = none ↔ bytes.length < 2 := by
  match bytes with
  | [] => simp [uint16?]
  | [_] => simp [uint16?]
  | _ :: _ :: _ => simp [uint16?]

theorem uint32?_eq_none_iff {bytes : Bytes} : uint32? bytes = none ↔ bytes.length < 4 := by
  match bytes with
  | [] => simp [uint32?]
  | [_] => simp [uint32?]
  | [_, _] => simp [uint32?]
  | [_, _, _] => simp [uint32?]
  | _ :: _ :: _ :: _ :: _ => simp [uint32?]

theorem uint16?_length {bytes rest : Bytes} {value : UInt16}
    (read : uint16? bytes = some (value, rest)) : bytes.length = rest.length + 2 := by
  unfold uint16? at read
  split at read
  · cases read
    rfl
  · cases read

theorem uint32?_length {bytes rest : Bytes} {value : UInt32}
    (read : uint32? bytes = some (value, rest)) : bytes.length = rest.length + 4 := by
  unfold uint32? at read
  split at read
  · cases read
    rfl
  · cases read

theorem exists_uint16? {bytes : Bytes} (enough : 2 ≤ bytes.length) :
    ∃ value rest, uint16? bytes = some (value, rest) ∧ bytes.length = rest.length + 2 := by
  cases read : uint16? bytes with
  | none =>
      have short := uint16?_eq_none_iff.mp read
      omega
  | some pair => exact ⟨pair.1, pair.2, rfl, uint16?_length read⟩

theorem exists_uint32? {bytes : Bytes} (enough : 4 ≤ bytes.length) :
    ∃ value rest, uint32? bytes = some (value, rest) ∧ bytes.length = rest.length + 4 := by
  cases read : uint32? bytes with
  | none =>
      have short := uint32?_eq_none_iff.mp read
      omega
  | some pair => exact ⟨pair.1, pair.2, rfl, uint32?_length read⟩

theorem take?_of_le {count : Nat} {bytes : Bytes} (enough : count ≤ bytes.length) :
    take? count bytes = some (bytes.splitAt count) := by
  have size : (bytes.take count).length = count := by
    rw [List.length_take]
    omega
  simp only [take?, List.splitAt_eq]
  rw [if_pos size]

theorem take?_of_lt {count : Nat} {bytes : Bytes} (short : bytes.length < count) :
    take? count bytes = none := by
  have size : (bytes.take count).length ≠ count := by
    rw [List.length_take]
    omega
  simp only [take?, List.splitAt_eq]
  rw [if_neg size]

end Bytes

/-! ### Fields of a body -/

namespace Guarded

open Halt (proper)

theorem need_ok {count : Nat} {bytes : Bytes} (enough : count ≤ bytes.length)
    (reason : Malformation) : Plain.need count reason bytes = .ok () := by
  rw [Plain.need, if_neg (by omega)]

theorem need_short {count : Nat} {bytes : Bytes} (short : bytes.length < count)
    (reason : Malformation) :
    Plain.need count reason bytes = .error (.fault (.malformed reason)) := by
  rw [Plain.need, if_pos short]

def byte (bytes : Bytes) : Except Halt (UInt8 × Bytes) := do
  Plain.need 1 .bodyTooShort bytes
  Plain.byte bytes

def uint16 (bytes : Bytes) : Except Halt (UInt16 × Bytes) := do
  Plain.need 2 .bodyTooShort bytes
  Plain.uint16 bytes

def uint32 (bytes : Bytes) : Except Halt (UInt32 × Bytes) := do
  Plain.need 4 .bodyTooShort bytes
  Plain.uint32 bytes

/-- Two numbers behind one test. -/
def uint32Pair (bytes : Bytes) : Except Halt (UInt32 × UInt32 × Bytes) := do
  Plain.need 8 .bodyTooShort bytes
  let (first, rest) ← Plain.uint32 bytes
  let (second, rest) ← Plain.uint32 rest
  return (first, second, rest)

def zeroEnded (bytes : Bytes) : Except Halt (Bytes × Bytes) :=
  match bytes.findIdx? (· == 0) with
  | none => .error (.fault (.malformed .notTerminated))
  | some place => do
      let (front, rest) ← Plain.split place bytes
      let rest ← Plain.skip 1 rest
      return (front, rest)

def text (bytes : Bytes) : Except Halt (String × Bytes) := do
  let (front, rest) ← zeroEnded bytes
  match Utf8.decode front with
  | .error _ => throw (.fault (.malformed .notUtf8))
  | .ok text => return (text, rest)

private theorem byte_eq (bytes : Bytes) : byte bytes = proper (Reader.byte bytes) := by
  cases bytes with
  | nil => rfl
  | cons first rest => rfl

private theorem uint16_eq (bytes : Bytes) : uint16 bytes = proper (Reader.uint16 bytes) := by
  by_cases enough : 2 ≤ bytes.length
  · obtain ⟨value, rest, read, _⟩ := Bytes.exists_uint16? enough
    simp only [uint16, need_ok enough, Plain.uint16, Reader.uint16, read]
    rfl
  · have short : bytes.length < 2 := by omega
    simp only [uint16, need_short short, Reader.uint16, Bytes.uint16?_eq_none_iff.mpr short]
    rfl

private theorem uint32_eq (bytes : Bytes) : uint32 bytes = proper (Reader.uint32 bytes) := by
  by_cases enough : 4 ≤ bytes.length
  · obtain ⟨value, rest, read, _⟩ := Bytes.exists_uint32? enough
    simp only [uint32, need_ok enough, Plain.uint32, Reader.uint32, read]
    rfl
  · have short : bytes.length < 4 := by omega
    simp only [uint32, need_short short, Reader.uint32, Bytes.uint32?_eq_none_iff.mpr short]
    rfl

/-- The one test does for both: the fault is the same whichever number is missing. -/
theorem uint32Pair_eq {α : Type} {onward : UInt32 × UInt32 × Bytes → Except Halt α}
    (bytes : Bytes) (next : UInt32 → UInt32 → Bytes → Except ProtocolFault α)
    (further : ∀ first second rest,
      onward (first, second, rest) = proper (next first second rest)) :
    (uint32Pair bytes >>= onward) =
      proper (Reader.uint32 bytes >>= fun first =>
        Reader.uint32 first.2 >>= fun second => next first.1 second.1 second.2) := by
  by_cases enough : 8 ≤ bytes.length
  · obtain ⟨first, rest, read, size⟩ := Bytes.exists_uint32? (show 4 ≤ bytes.length by omega)
    obtain ⟨second, after, then_, _⟩ := Bytes.exists_uint32? (show 4 ≤ rest.length by omega)
    simp only [uint32Pair, need_ok enough, Plain.uint32, Reader.uint32, read, then_, bind,
      Except.bind]
    exact further first second after
  · have short : bytes.length < 8 := by omega
    simp only [uint32Pair, need_short short]
    by_cases first : 4 ≤ bytes.length
    · obtain ⟨value, rest, read, size⟩ := Bytes.exists_uint32? first
      have missing := Bytes.uint32?_eq_none_iff.mpr (show rest.length < 4 by omega)
      simp only [Reader.uint32, read, missing, bind, Except.bind]
      rfl
    · have missing := Bytes.uint32?_eq_none_iff.mpr (show bytes.length < 4 by omega)
      simp only [Reader.uint32, missing, bind, Except.bind]
      rfl

private theorem findIdx?_zero_eq_none {bytes : Bytes} (missing : bytes.findIdx? (· == 0) = none) :
    Bytes.untilZero? bytes = none := by
  have absent : ∀ byte ∈ bytes, (byte != 0) = true := by
    intro byte member
    have differs := List.findIdx?_eq_none_iff.mp missing byte member
    simpa using differs
  rw [← List.append_nil bytes, Bytes.untilZero?, List.dropWhile_append_of_pos absent]
  rfl

private theorem findIdx?_zero_eq_some {bytes : Bytes} {place : Nat}
    (found : bytes.findIdx? (· == 0) = some place) :
    place < bytes.length ∧
      Bytes.untilZero? bytes = some (bytes.take place, bytes.drop (place + 1)) := by
  obtain ⟨inside, isZero, before⟩ := List.findIdx?_eq_some_iff_getElem.mp found
  refine ⟨inside, ?_⟩
  have noZero : 0 ∉ bytes.take place := by
    intro member
    obtain ⟨index, small, same⟩ := List.mem_iff_getElem.mp member
    rw [List.length_take] at small
    rw [List.getElem_take] at same
    have differs := before index (by omega)
    rw [same] at differs
    exact absurd rfl differs
  have zero : bytes[place] = 0 := by simpa using isZero
  have whole : bytes = bytes.take place ++ 0 :: bytes.drop (place + 1) := by
    rw [← zero, List.getElem_cons_drop, List.take_append_drop]
  calc Bytes.untilZero? bytes
      = Bytes.untilZero? (bytes.take place ++ 0 :: bytes.drop (place + 1)) := by rw [← whole]
    _ = some (bytes.take place, bytes.drop (place + 1)) := Bytes.untilZero?_append noZero _

private theorem zeroEnded_eq (bytes : Bytes) :
    zeroEnded bytes = proper (Reader.zeroEnded bytes) := by
  unfold zeroEnded Reader.zeroEnded
  cases found : bytes.findIdx? (· == 0) with
  | none =>
      rw [findIdx?_zero_eq_none found]
      rfl
  | some place =>
      obtain ⟨inside, read⟩ := findIdx?_zero_eq_some found
      have left : ¬(bytes.drop place).length < 1 := by
        rw [List.length_drop]
        omega
      simp only [read, Plain.split, Plain.skip, List.splitAt_eq, bind, Except.bind,
        if_neg (show ¬bytes.length < place by omega), if_neg left, List.drop_drop]
      rfl

theorem text_eq (bytes : Bytes) : text bytes = proper (Reader.text bytes) := by
  unfold text Reader.text
  rw [zeroEnded_eq, Reader.zeroEnded]
  cases Bytes.untilZero? bytes with
  | none => rfl
  | some read =>
      obtain ⟨front, rest⟩ := read
      change (match Utf8.decode front with | .error _ => _ | .ok text => _) = _
      dsimp only
      cases Utf8.decode front with
      | error fault => rfl
      | ok text => rfl

/-! ### Frames -/

def frame (input : Bytes) : Except Halt (Option (Frame × Bytes)) :=
  if input.length < Frame.headLength then .ok none
  else do
    let (first, head) ← Plain.byte (input.take Frame.headLength)
    let (length, _) ← Plain.uint32 head
    if length.toNat < 4 then throw (.fault (.malformed .lengthTooSmall))
    else if input.length < 1 + length.toNat then return none
    else
      let (message, rest) ← Plain.split (1 + length.toNat) input
      let body ← Plain.skip Frame.headLength message
      return some ({ first, body }, rest)

theorem frame_eq (input : Bytes) : frame input = proper (Frame.next input) := by
  match input with
  | [] => rfl
  | [_] => rfl
  | [_, _] => rfl
  | [_, _, _] => rfl
  | [_, _, _, _] => rfl
  | first :: second :: third :: fourth :: fifth :: rest =>
      have long : ¬(first :: second :: third :: fourth :: fifth :: rest).length <
          Frame.headLength := by
        simp only [List.length_cons, Frame.headLength]
        omega
      unfold frame
      rw [if_neg long]
      simp only [Frame.headLength, List.take_succ_cons, List.take_zero, Plain.byte, Plain.uint32,
        Bytes.uint32?, Frame.next, bind, Except.bind]
      generalize UInt32.ofNat (((second.toNat * 256 + third.toNat) * 256 + fourth.toNat) * 256 +
        fifth.toNat) = length
      by_cases small : length.toNat < 4
      · rw [if_pos small, if_pos small]
        rfl
      · rw [if_neg small, if_neg small]
        obtain ⟨size, counted⟩ : ∃ size, length.toNat = 4 + size := ⟨length.toNat - 4, by omega⟩
        rw [counted]
        simp only [Bytes.take?, List.splitAt_eq, List.length_take, List.length_cons,
          Nat.add_sub_cancel_left]
        by_cases whole : size ≤ rest.length
        · have taken : min size rest.length = size := by omega
          have inside : ¬rest.length + 1 + 1 + 1 + 1 + 1 < 1 + (4 + size) := by omega
          rw [if_neg inside, if_pos taken]
          simp only [Plain.split, Plain.skip, List.length_cons, List.splitAt_eq,
            show 1 + (4 + size) = size + 5 by omega, List.take_succ_cons, List.drop_succ_cons]
          rw [if_neg (by omega)]
          rfl
        · have missing : ¬min size rest.length = size := by omega
          have cut : rest.length + 1 + 1 + 1 + 1 + 1 < 1 + (4 + size) := by omega
          rw [if_pos cut, if_neg missing]
          rfl

/-! ### Messages -/

def request (body : Bytes) : Except Halt AuthenticationRequest := do
  let (code, rest) ← uint32 body
  match code.toNat with
  | 0 => return .ok
  | 2 => return .kerberos
  | 3 => return .cleartextPassword
  | 5 =>
      let (salt, _) ← uint32 rest
      return .md5Password salt
  | 7 => return .gss
  | 8 => return .gssContinue rest
  | 9 => return .sspi
  | 10 => return .sasl rest
  | 11 => return .saslContinue rest
  | 12 => return .saslFinal rest
  | _ => throw (.fault (.unknownAuthentication code))

def message (tag : Tag) (body : Bytes) : Except Halt BackendMessage :=
  match tag with
  | .authentication => do return .authentication (← request body)
  | .backendKeyData => do
      let (processId, secretKey, _) ← uint32Pair body
      return .backendKeyData { processId, secretKey }
  | .bindComplete => .ok .bindComplete
  | .closeComplete => .ok .closeComplete
  | .commandComplete => do
      let (tag, _) ← text body
      return .commandComplete tag
  | .copyBothResponse => do
      let (format, rest) ← byte body
      return .copyBothResponse format rest
  | .copyData => .ok (.copyData body)
  | .copyDone => .ok .copyDone
  | .copyInResponse => do
      let (format, rest) ← byte body
      return .copyInResponse format rest
  | .copyOutResponse => do
      let (format, rest) ← byte body
      return .copyOutResponse format rest
  | .dataRow => do
      let (columns, rest) ← uint16 body
      return .dataRow columns rest
  | .errorResponse => .ok (.errorResponse body)
  | .emptyQueryResponse => .ok .emptyQueryResponse
  | .negotiateProtocolVersion => do
      let (minor, count, names) ← uint32Pair body
      return .negotiateProtocolVersion minor count names
  | .noData => .ok .noData
  | .noticeResponse => .ok (.noticeResponse body)
  | .notificationResponse => do
      let (processId, rest) ← uint32 body
      let (channel, rest) ← text rest
      let (payload, _) ← text rest
      return .notificationResponse processId channel payload
  | .parameterDescription => do
      let (count, oids) ← uint16 body
      return .parameterDescription count oids
  | .parameterStatus => do
      let (name, rest) ← text body
      let (value, _) ← text rest
      return .parameterStatus name value
  | .parseComplete => .ok .parseComplete
  | .portalSuspended => .ok .portalSuspended
  | .readyForQuery => do
      let (indicator, _) ← byte body
      return .readyForQuery indicator
  | .rowDescription => do
      let (fields, rest) ← uint16 body
      return .rowDescription fields rest

def decode (first : UInt8) (body : Bytes) : Except Halt BackendMessage :=
  match Tag.ofByte? first with
  | none => .error (.fault (.unexpected none first none))
  | some tag => message tag body

private theorem request_eq (body : Bytes) :
    request body = proper (AuthenticationRequest.ofBody body) := by
  apply Halt.bind_eq (uint32_eq body)
  rintro ⟨code, rest⟩
  dsimp only
  generalize code.toNat = number
  split
  case h_4 => exact Halt.bind_eq (uint32_eq rest) fun read => rfl
  case h_11 =>
    -- The number is none of those that are known, on the other side as well.
    simp_all
    rfl
  all_goals rfl

private theorem message_eq (tag : Tag) (body : Bytes) :
    message tag body = proper (BackendMessage.ofBody tag body) := by
  cases tag with
  | authentication => exact Halt.bind_eq (request_eq body) fun request => rfl
  | backendKeyData =>
      unfold message BackendMessage.ofBody
      apply uint32Pair_eq body
        (fun processId secretKey _ => .ok (BackendMessage.backendKeyData { processId, secretKey }))
      intro processId secretKey rest
      rfl
  | negotiateProtocolVersion =>
      unfold message BackendMessage.ofBody
      apply uint32Pair_eq body
        (fun minor count names => .ok (BackendMessage.negotiateProtocolVersion minor count names))
      intro minor count names
      rfl
  | commandComplete => exact Halt.bind_eq (text_eq body) fun read => rfl
  | copyBothResponse => exact Halt.bind_eq (byte_eq body) fun read => rfl
  | copyInResponse => exact Halt.bind_eq (byte_eq body) fun read => rfl
  | copyOutResponse => exact Halt.bind_eq (byte_eq body) fun read => rfl
  | readyForQuery => exact Halt.bind_eq (byte_eq body) fun read => rfl
  | dataRow => exact Halt.bind_eq (uint16_eq body) fun read => rfl
  | parameterDescription => exact Halt.bind_eq (uint16_eq body) fun read => rfl
  | rowDescription => exact Halt.bind_eq (uint16_eq body) fun read => rfl
  | notificationResponse =>
      exact Halt.bind_eq (uint32_eq body) fun processId =>
        Halt.bind_eq (text_eq processId.2) fun channel =>
          Halt.bind_eq (text_eq channel.2) fun payload => rfl
  | parameterStatus =>
      exact Halt.bind_eq (text_eq body) fun name =>
        Halt.bind_eq (text_eq name.2) fun value => rfl
  | _ => rfl

theorem decode_eq (first : UInt8) (body : Bytes) :
    decode first body = proper (BackendMessage.decode first body) := by
  unfold decode BackendMessage.decode
  cases Tag.ofByte? first with
  | none => rfl
  | some tag => exact message_eq tag body

end Guarded

end PgClient

/-
Messages of a server are read from the layout that they are written in.

A text ends at the first zero byte, so a text that holds one has no layout. Everything
else that a message consists of can be written.
-/

import PgClient.Wire.Backend
import PgClient.Wire.Frame

namespace PgClient

def ZeroFree (text : String) : Prop :=
  0 ∉ Utf8.encode text

instance (text : String) : Decidable (ZeroFree text) :=
  inferInstanceAs (Decidable (0 ∉ Utf8.encode text))

theorem Except.bind_of_ok {ε α β : Type} {outcome : Except ε α} {next : α → Except ε β} {value : α}
    (read : outcome = .ok value) : (outcome >>= next) = next value := by
  rw [read]
  rfl

/-! ### Fields of a body -/

namespace Reader

private theorem uint16_append (value : UInt16) (rest : Bytes) :
    uint16 (Bytes.ofUInt16 value ++ rest) = .ok (value, rest) := by
  rw [uint16, Bytes.uint16?_ofUInt16]

private theorem uint32_append (value : UInt32) (rest : Bytes) :
    uint32 (Bytes.ofUInt32 value ++ rest) = .ok (value, rest) := by
  rw [uint32, Bytes.uint32?_ofUInt32]

private theorem uint32_all (value : UInt32) : uint32 (Bytes.ofUInt32 value) = .ok (value, []) := by
  have read := uint32_append value []
  rw [List.append_nil] at read
  exact read

private theorem text_all {value : String} (zeroFree : ZeroFree value) :
    text (Bytes.endedByZero (Utf8.encode value)) = .ok (value, []) := by
  have read := text_append value zeroFree []
  rw [List.append_nil] at read
  exact read

theorem text_eq_ok {bytes rest : Bytes} {value : String}
    (read : text bytes = .ok (value, rest)) :
    ZeroFree value ∧ bytes = Bytes.endedByZero (Utf8.encode value) ++ rest := by
  unfold text at read
  split at read
  · cases read
  · rename_i front after found
    obtain ⟨whole, zeroFree⟩ := Bytes.untilZero?_eq_some found
    split at read
    · cases read
    · rename_i decoded
      cases read
      have same := Utf8.encode_of_decode decoded
      rw [ZeroFree, same]
      refine ⟨zeroFree, ?_⟩
      rw [whole, Bytes.endedByZero, List.append_assoc]
      rfl

end Reader

/-! ### Messages -/

private theorem AuthenticationRequest.ofBody_payload (request : AuthenticationRequest) :
    ofBody (Bytes.ofUInt32 request.code ++ request.payload) = .ok request := by
  unfold ofBody
  rw [Except.bind_of_ok (Reader.uint32_append request.code request.payload)]
  cases request with
  | md5Password salt =>
      change (Reader.uint32 (Bytes.ofUInt32 salt) >>= _) = _
      rw [Except.bind_of_ok (Reader.uint32_all salt)]
      rfl
  | _ => rfl

namespace BackendMessage

def Writable : BackendMessage → Prop
  | commandComplete tag => ZeroFree tag
  | notificationResponse _ channel payload => ZeroFree channel ∧ ZeroFree payload
  | parameterStatus name value => ZeroFree name ∧ ZeroFree value
  | _ => True

private theorem ofBody_body (message : BackendMessage) (writable : message.Writable) :
    ofBody message.tag message.body = .ok message := by
  cases message with
  | authentication request =>
      change (AuthenticationRequest.ofBody (Bytes.ofUInt32 request.code ++ request.payload) >>=
        _) = _
      rw [Except.bind_of_ok (AuthenticationRequest.ofBody_payload request)]
      rfl
  | backendKeyData key =>
      change (Reader.uint32 (Bytes.ofUInt32 key.processId ++ _) >>= _) = _
      rw [Except.bind_of_ok (Reader.uint32_append key.processId _)]
      change (Reader.uint32 (Bytes.ofUInt32 key.secretKey) >>= _) = _
      rw [Except.bind_of_ok (Reader.uint32_all key.secretKey)]
      rfl
  | commandComplete tag =>
      change (Reader.text (Bytes.endedByZero (Utf8.encode tag)) >>= _) = _
      rw [Except.bind_of_ok (Reader.text_all writable)]
      rfl
  | dataRow columns rest =>
      change (Reader.uint16 (Bytes.ofUInt16 columns ++ rest) >>= _) = _
      rw [Except.bind_of_ok (Reader.uint16_append columns rest)]
      rfl
  | negotiateProtocolVersion minor count names =>
      change (Reader.uint32 (Bytes.ofUInt32 minor ++ _) >>= _) = _
      rw [Except.bind_of_ok (Reader.uint32_append minor _)]
      change (Reader.uint32 (Bytes.ofUInt32 count ++ names) >>= _) = _
      rw [Except.bind_of_ok (Reader.uint32_append count names)]
      rfl
  | notificationResponse processId channel payload =>
      obtain ⟨channelFree, payloadFree⟩ := writable
      change (Reader.uint32 (Bytes.ofUInt32 processId ++ _) >>= _) = _
      rw [Except.bind_of_ok (Reader.uint32_append processId _)]
      change (Reader.text (Bytes.endedByZero (Utf8.encode channel) ++ _) >>= _) = _
      rw [Except.bind_of_ok (Reader.text_append channel channelFree _)]
      change (Reader.text (Bytes.endedByZero (Utf8.encode payload)) >>= _) = _
      rw [Except.bind_of_ok (Reader.text_all payloadFree)]
      rfl
  | parameterDescription count oids =>
      change (Reader.uint16 (Bytes.ofUInt16 count ++ oids) >>= _) = _
      rw [Except.bind_of_ok (Reader.uint16_append count oids)]
      rfl
  | parameterStatus name value =>
      obtain ⟨nameFree, valueFree⟩ := writable
      change (Reader.text (Bytes.endedByZero (Utf8.encode name) ++ _) >>= _) = _
      rw [Except.bind_of_ok (Reader.text_append name nameFree _)]
      change (Reader.text (Bytes.endedByZero (Utf8.encode value)) >>= _) = _
      rw [Except.bind_of_ok (Reader.text_all valueFree)]
      rfl
  | rowDescription count rest =>
      change (Reader.uint16 (Bytes.ofUInt16 count ++ rest) >>= _) = _
      rw [Except.bind_of_ok (Reader.uint16_append count rest)]
      rfl
  | _ => rfl

def frame (message : BackendMessage) : Frame :=
  { first := message.tag.byte, body := message.body }

theorem decode_frame {message : BackendMessage} (writable : message.Writable) :
    decode message.frame.first message.frame.body = .ok message := by
  simp only [decode, frame, Tag.ofByte?_byte]
  exact ofBody_body message writable

end BackendMessage

end PgClient

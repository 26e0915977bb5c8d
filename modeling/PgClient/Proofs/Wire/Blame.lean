/-
Whom a fault of the protocol is about.

Two faults are about the client: a command sent while another is under way, and a
command that comes to no result. All others are about what the server sent, and no
reader of its messages ever gives one of the first kind.
-/

import PgClient.Result.QueryResult
import PgClient.Wire.Frame

namespace PgClient

def ProtocolFault.BlamesServer : ProtocolFault → Prop
  | .unexpected _ _ _ => True
  | .unknownAuthentication _ => True
  | .malformed _ => True
  | .commandInProgress => False
  | .noResult => False

/-- Whatever fault an attempt to read ends in, it is about what the server sent. -/
def Blaming {α : Type} (outcome : Except ProtocolFault α) : Prop :=
  ∀ fault, outcome = .error fault → fault.BlamesServer

namespace Blaming

variable {α β : Type}

theorem ok (value : α) : Blaming (.ok value) := by
  intro fault failed
  cases failed

theorem error {fault : ProtocolFault} (blame : fault.BlamesServer) :
    Blaming (.error fault : Except ProtocolFault α) := by
  intro other failed
  cases failed
  exact blame

private theorem bind {outcome : Except ProtocolFault α} {next : α → Except ProtocolFault β}
    (first : Blaming outcome) (second : ∀ value, Blaming (next value)) :
    Blaming (outcome >>= next) := by
  cases outcome with
  | error fault => exact error (first fault rfl)
  | ok value => exact second value

end Blaming

/-! ### Fields of a body -/

namespace Reader

private theorem byte_blaming (bytes : Bytes) : Blaming (byte bytes) := by
  cases bytes with
  | nil => exact .error trivial
  | cons first rest => exact .ok (first, rest)

private theorem uint16_blaming (bytes : Bytes) : Blaming (uint16 bytes) := by
  unfold uint16
  split
  · exact .error trivial
  · exact .ok _

private theorem uint32_blaming (bytes : Bytes) : Blaming (uint32 bytes) := by
  unfold uint32
  split
  · exact .error trivial
  · exact .ok _

private theorem text_blaming (bytes : Bytes) : Blaming (text bytes) := by
  unfold text
  split
  · exact .error trivial
  · split
    · exact .error trivial
    · exact .ok _

end Reader

/-! ### Messages -/

private theorem AuthenticationRequest.ofBody_blaming (body : Bytes) : Blaming (ofBody body) := by
  apply (Reader.uint32_blaming body).bind
  rintro ⟨code, rest⟩
  dsimp only
  split
  case h_4 =>
    apply (Reader.uint32_blaming rest).bind
    intro read
    exact .ok _
  case h_11 => exact .error trivial
  all_goals exact .ok _

namespace BackendMessage

private theorem ofBody_blaming (tag : Tag) (body : Bytes) : Blaming (ofBody tag body) := by
  cases tag with
  | authentication =>
      exact (AuthenticationRequest.ofBody_blaming body).bind fun request => .ok _
  | backendKeyData =>
      exact (Reader.uint32_blaming body).bind fun processId =>
        (Reader.uint32_blaming processId.2).bind fun secretKey => .ok _
  | commandComplete => exact (Reader.text_blaming body).bind fun read => .ok _
  | copyBothResponse => exact (Reader.byte_blaming body).bind fun read => .ok _
  | copyInResponse => exact (Reader.byte_blaming body).bind fun read => .ok _
  | copyOutResponse => exact (Reader.byte_blaming body).bind fun read => .ok _
  | dataRow => exact (Reader.uint16_blaming body).bind fun read => .ok _
  | negotiateProtocolVersion =>
      exact (Reader.uint32_blaming body).bind fun minor =>
        (Reader.uint32_blaming minor.2).bind fun count => .ok _
  | notificationResponse =>
      exact (Reader.uint32_blaming body).bind fun processId =>
        (Reader.text_blaming processId.2).bind fun channel =>
          (Reader.text_blaming channel.2).bind fun payload => .ok _
  | parameterDescription => exact (Reader.uint16_blaming body).bind fun read => .ok _
  | parameterStatus =>
      exact (Reader.text_blaming body).bind fun name =>
        (Reader.text_blaming name.2).bind fun value => .ok _
  | readyForQuery => exact (Reader.byte_blaming body).bind fun read => .ok _
  | rowDescription => exact (Reader.uint16_blaming body).bind fun read => .ok _
  | bindComplete => exact .ok _
  | closeComplete => exact .ok _
  | copyData => exact .ok _
  | copyDone => exact .ok _
  | errorResponse => exact .ok _
  | emptyQueryResponse => exact .ok _
  | noData => exact .ok _
  | noticeResponse => exact .ok _
  | parseComplete => exact .ok _
  | portalSuspended => exact .ok _

theorem decode_blaming (first : UInt8) (body : Bytes) : Blaming (decode first body) := by
  unfold decode
  split
  · exact .error trivial
  · exact ofBody_blaming _ body

end BackendMessage

theorem Frame.next_blaming (input : Bytes) : Blaming (Frame.next input) := by
  unfold Frame.next
  split
  · exact .ok _
  · split
    · exact .ok _
    · split
      · exact .error trivial
      · split
        · exact .ok _
        · exact .ok _

/-! ### Contents of messages -/

private theorem Field.readOne_blaming (bytes : Bytes) : Blaming (readOne bytes) := by
  unfold readOne
  split
  · rename_i fault failed
    exact .error (Reader.text_blaming bytes fault failed)
  · split
    · exact .error trivial
    · exact .ok _

theorem Field.readMany_blaming (count : Nat) (bytes : Bytes) : Blaming (readMany count bytes) := by
  induction count generalizing bytes with
  | zero => exact .ok _
  | succ count ih =>
      unfold readMany
      split
      · rename_i fault failed
        exact .error (readOne_blaming bytes fault failed)
      · rename_i field rest read
        split
        · rename_i fault failed
          exact .error (ih rest fault failed)
        · exact .ok _

namespace ResultBuilder

private theorem readValue_blaming (bytes : Bytes) : Blaming (readValue bytes) := by
  unfold readValue
  split
  · exact .error trivial
  · split
    · exact .ok _
    · split
      · exact .error trivial
      · split
        · exact .error trivial
        · exact .ok _

private theorem readValues_blaming (count : Nat) (bytes : Bytes) :
    Blaming (readValues count bytes) := by
  induction count generalizing bytes with
  | zero => exact .ok _
  | succ count ih =>
      unfold readValues
      split
      · rename_i fault failed
        exact .error (readValue_blaming bytes fault failed)
      · rename_i value rest read
        split
        · rename_i fault failed
          exact .error (ih rest fault failed)
        · exact .ok _

theorem push_blaming (builder : ResultBuilder) (columns : UInt16) (body : Bytes) :
    Blaming (builder.push columns body) := by
  unfold push
  split
  · exact .error trivial
  · split
    · rename_i fault failed
      exact .error (readValues_blaming _ body fault failed)
    · exact .ok _

end ResultBuilder

namespace Diagnostic

private theorem fields_blaming (body : Bytes) : Blaming (fields body) := by
  induction body using fields.induct with
  | case1 => simpa only [fields] using Blaming.ok []
  | case2 rest => simpa only [fields, if_pos] using Blaming.ok []
  | case3 code rest nonzero fault failed =>
      rw [fields, if_neg nonzero]
      split
      · rename_i other same
        exact .error (Reader.text_blaming rest other same)
      · rename_i same
        rw [failed] at same
        cases same
  | case4 code rest nonzero text after read shorter fault failed ih =>
      rw [fields, if_neg nonzero]
      split
      · rename_i other same
        exact .error (Reader.text_blaming rest other same)
      · rename_i same
        rw [read] at same
        cases same
        rw [failed]
        exact .error (ih fault failed)
  | case5 code rest nonzero text after read shorter others found ih =>
      rw [fields, if_neg nonzero]
      split
      · rename_i other same
        exact .error (Reader.text_blaming rest other same)
      · rename_i same
        rw [read] at same
        cases same
        rw [found]
        exact .ok _

theorem parse_blaming (body : Bytes) : Blaming (parse body) := by
  unfold parse
  split
  · rename_i fault failed
    exact .error (fields_blaming body fault failed)
  · exact .ok _

end Diagnostic

end PgClient

/-
The messages that a server sends, by the byte that each begins with.
-/

namespace PgClient

inductive Tag
  | authentication
  | backendKeyData
  | bindComplete
  | closeComplete
  | commandComplete
  | copyBothResponse
  | copyData
  | copyDone
  | copyInResponse
  | copyOutResponse
  | dataRow
  | errorResponse
  | emptyQueryResponse
  | negotiateProtocolVersion
  | noData
  | noticeResponse
  | notificationResponse
  | parameterDescription
  | parameterStatus
  | parseComplete
  | portalSuspended
  | readyForQuery
  | rowDescription
deriving Repr, DecidableEq

namespace Tag

def all : List Tag :=
  [authentication, backendKeyData, bindComplete, closeComplete, commandComplete,
    copyBothResponse, copyData, copyDone, copyInResponse, copyOutResponse, dataRow,
    errorResponse, emptyQueryResponse, negotiateProtocolVersion, noData, noticeResponse,
    notificationResponse, parameterDescription, parameterStatus, parseComplete,
    portalSuspended, readyForQuery, rowDescription]

theorem mem_all (tag : Tag) : tag ∈ all := by
  cases tag <;> decide

def byte : Tag → UInt8
  | authentication => 'R'.toUInt8
  | backendKeyData => 'K'.toUInt8
  | bindComplete => '2'.toUInt8
  | closeComplete => '3'.toUInt8
  | commandComplete => 'C'.toUInt8
  | copyBothResponse => 'W'.toUInt8
  | copyData => 'd'.toUInt8
  | copyDone => 'c'.toUInt8
  | copyInResponse => 'G'.toUInt8
  | copyOutResponse => 'H'.toUInt8
  | dataRow => 'D'.toUInt8
  | errorResponse => 'E'.toUInt8
  | emptyQueryResponse => 'I'.toUInt8
  | negotiateProtocolVersion => 'v'.toUInt8
  | noData => 'n'.toUInt8
  | noticeResponse => 'N'.toUInt8
  | notificationResponse => 'A'.toUInt8
  | parameterDescription => 't'.toUInt8
  | parameterStatus => 'S'.toUInt8
  | parseComplete => '1'.toUInt8
  | portalSuspended => 's'.toUInt8
  | readyForQuery => 'Z'.toUInt8
  | rowDescription => 'T'.toUInt8

def name : Tag → String
  | authentication => "Authentication"
  | backendKeyData => "BackendKeyData"
  | bindComplete => "BindComplete"
  | closeComplete => "CloseComplete"
  | commandComplete => "CommandComplete"
  | copyBothResponse => "CopyBothResponse"
  | copyData => "CopyData"
  | copyDone => "CopyDone"
  | copyInResponse => "CopyInResponse"
  | copyOutResponse => "CopyOutResponse"
  | dataRow => "DataRow"
  | errorResponse => "ErrorResponse"
  | emptyQueryResponse => "EmptyQueryResponse"
  | negotiateProtocolVersion => "NegotiateProtocolVersion"
  | noData => "NoData"
  | noticeResponse => "NoticeResponse"
  | notificationResponse => "NotificationResponse"
  | parameterDescription => "ParameterDescription"
  | parameterStatus => "ParameterStatus"
  | parseComplete => "ParseComplete"
  | portalSuspended => "PortalSuspended"
  | readyForQuery => "ReadyForQuery"
  | rowDescription => "RowDescription"

def ofByte? (byte : UInt8) : Option Tag :=
  all.find? fun tag => tag.byte == byte

theorem ofByte?_byte (tag : Tag) : ofByte? tag.byte = some tag := by
  cases tag <;> decide

theorem byte_of_ofByte? {byte : UInt8} {tag : Tag} (found : ofByte? byte = some tag) :
    tag.byte = byte := by
  simpa using List.find?_some found

/-- The name of the message that begins with a byte, known or not. -/
def nameOfByte (byte : UInt8) : String :=
  match ofByte? byte with
  | some tag => tag.name
  | none => "Unknown"

end Tag

end PgClient

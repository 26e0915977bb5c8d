/-
The messages of a server: their fields, and how each is laid out in a body.

A body may be longer than its fields; what follows them is not looked at. The
writers give the layout that the readers read.
-/

import PgClient.Wire.Reader

namespace PgClient

/-- What a server asks of a client that has yet to show who it is. -/
inductive AuthenticationRequest
  | ok
  | kerberos
  | cleartextPassword
  | md5Password (salt : UInt32)
  | gss
  | gssContinue (data : Bytes)
  | sspi
  | sasl (mechanisms : Bytes)
  | saslContinue (data : Bytes)
  | saslFinal (data : Bytes)
deriving Repr, DecidableEq

namespace AuthenticationRequest

def method : AuthenticationRequest → String
  | ok => "ok"
  | kerberos => "kerberos v5"
  | cleartextPassword => "cleartext password"
  | md5Password _ => "md5 password"
  | gss => "gssapi"
  | gssContinue _ => "gssapi"
  | sspi => "sspi"
  | sasl _ => "sasl"
  | saslContinue _ => "sasl"
  | saslFinal _ => "sasl"

def code : AuthenticationRequest → UInt32
  | ok => 0
  | kerberos => 2
  | cleartextPassword => 3
  | md5Password _ => 5
  | gss => 7
  | gssContinue _ => 8
  | sspi => 9
  | sasl _ => 10
  | saslContinue _ => 11
  | saslFinal _ => 12

def payload : AuthenticationRequest → Bytes
  | md5Password salt => Bytes.ofUInt32 salt
  | gssContinue data => data
  | sasl mechanisms => mechanisms
  | saslContinue data => data
  | saslFinal data => data
  | _ => []

def ofBody (body : Bytes) : Except ProtocolFault AuthenticationRequest := do
  let (code, rest) ← Reader.uint32 body
  match code.toNat with
  | 0 => return ok
  | 2 => return kerberos
  | 3 => return cleartextPassword
  | 5 =>
      let (salt, _) ← Reader.uint32 rest
      return md5Password salt
  | 7 => return gss
  | 8 => return gssContinue rest
  | 9 => return sspi
  | 10 => return sasl rest
  | 11 => return saslContinue rest
  | 12 => return saslFinal rest
  | _ => throw (.unknownAuthentication code)

end AuthenticationRequest

/-- What a client needs to ask a server to cancel the command of a session. -/
structure KeyData where
  processId : UInt32
  secretKey : UInt32
deriving Repr, DecidableEq

/-- The messages of a server. Fields that are read only later are kept as bytes. -/
inductive BackendMessage
  | authentication (request : AuthenticationRequest)
  | backendKeyData (key : KeyData)
  | bindComplete
  | closeComplete
  | commandComplete (tag : String)
  | copyBothResponse (format : UInt8) (body : Bytes)
  | copyData (data : Bytes)
  | copyDone
  | copyInResponse (format : UInt8) (body : Bytes)
  | copyOutResponse (format : UInt8) (body : Bytes)
  | dataRow (columns : UInt16) (body : Bytes)
  | errorResponse (body : Bytes)
  | emptyQueryResponse
  | negotiateProtocolVersion (minor : UInt32) (count : UInt32) (names : Bytes)
  | noData
  | noticeResponse (body : Bytes)
  | notificationResponse (processId : UInt32) (channel payload : String)
  | parameterDescription (count : UInt16) (oids : Bytes)
  | parameterStatus (name value : String)
  | parseComplete
  | portalSuspended
  | readyForQuery (indicator : UInt8)
  | rowDescription (fields : UInt16) (body : Bytes)
deriving Repr, DecidableEq

namespace BackendMessage

def tag : BackendMessage → Tag
  | authentication _ => .authentication
  | backendKeyData _ => .backendKeyData
  | bindComplete => .bindComplete
  | closeComplete => .closeComplete
  | commandComplete _ => .commandComplete
  | copyBothResponse _ _ => .copyBothResponse
  | copyData _ => .copyData
  | copyDone => .copyDone
  | copyInResponse _ _ => .copyInResponse
  | copyOutResponse _ _ => .copyOutResponse
  | dataRow _ _ => .dataRow
  | errorResponse _ => .errorResponse
  | emptyQueryResponse => .emptyQueryResponse
  | negotiateProtocolVersion _ _ _ => .negotiateProtocolVersion
  | noData => .noData
  | noticeResponse _ => .noticeResponse
  | notificationResponse _ _ _ => .notificationResponse
  | parameterDescription _ _ => .parameterDescription
  | parameterStatus _ _ => .parameterStatus
  | parseComplete => .parseComplete
  | portalSuspended => .portalSuspended
  | readyForQuery _ => .readyForQuery
  | rowDescription _ _ => .rowDescription

/-! ### Reading -/

def ofBody (tag : Tag) (body : Bytes) : Except ProtocolFault BackendMessage :=
  match tag with
  | .authentication => do return authentication (← AuthenticationRequest.ofBody body)
  | .backendKeyData => do
      let (processId, rest) ← Reader.uint32 body
      let (secretKey, _) ← Reader.uint32 rest
      return backendKeyData { processId, secretKey }
  | .bindComplete => .ok bindComplete
  | .closeComplete => .ok closeComplete
  | .commandComplete => do
      let (tag, _) ← Reader.text body
      return commandComplete tag
  | .copyBothResponse => do
      let (format, rest) ← Reader.byte body
      return copyBothResponse format rest
  | .copyData => .ok (copyData body)
  | .copyDone => .ok copyDone
  | .copyInResponse => do
      let (format, rest) ← Reader.byte body
      return copyInResponse format rest
  | .copyOutResponse => do
      let (format, rest) ← Reader.byte body
      return copyOutResponse format rest
  | .dataRow => do
      let (columns, rest) ← Reader.uint16 body
      return dataRow columns rest
  | .errorResponse => .ok (errorResponse body)
  | .emptyQueryResponse => .ok emptyQueryResponse
  | .negotiateProtocolVersion => do
      let (minor, rest) ← Reader.uint32 body
      let (count, names) ← Reader.uint32 rest
      return negotiateProtocolVersion minor count names
  | .noData => .ok noData
  | .noticeResponse => .ok (noticeResponse body)
  | .notificationResponse => do
      let (processId, rest) ← Reader.uint32 body
      let (channel, rest) ← Reader.text rest
      let (payload, _) ← Reader.text rest
      return notificationResponse processId channel payload
  | .parameterDescription => do
      let (count, oids) ← Reader.uint16 body
      return parameterDescription count oids
  | .parameterStatus => do
      let (name, rest) ← Reader.text body
      let (value, _) ← Reader.text rest
      return parameterStatus name value
  | .parseComplete => .ok parseComplete
  | .portalSuspended => .ok portalSuspended
  | .readyForQuery => do
      let (indicator, _) ← Reader.byte body
      return readyForQuery indicator
  | .rowDescription => do
      let (fields, rest) ← Reader.uint16 body
      return rowDescription fields rest

def decode (first : UInt8) (body : Bytes) : Except ProtocolFault BackendMessage :=
  match Tag.ofByte? first with
  | none => .error (.unexpected none first none)
  | some tag => ofBody tag body

def decodeAs (expected : Tag) (first : UInt8) (body : Bytes) :
    Except ProtocolFault BackendMessage :=
  if first = expected.byte then ofBody expected body
  else .error (.unexpected (some expected.byte) first none)

/-! ### Writing -/

private def zeroEnded (text : String) : Bytes :=
  Bytes.endedByZero (Utf8.encode text)

def body : BackendMessage → Bytes
  | authentication request => Bytes.ofUInt32 request.code ++ request.payload
  | backendKeyData key => Bytes.ofUInt32 key.processId ++ Bytes.ofUInt32 key.secretKey
  | commandComplete tag => zeroEnded tag
  | copyBothResponse format body => format :: body
  | copyData data => data
  | copyInResponse format body => format :: body
  | copyOutResponse format body => format :: body
  | dataRow columns body => Bytes.ofUInt16 columns ++ body
  | errorResponse body => body
  | negotiateProtocolVersion minor count names =>
      Bytes.ofUInt32 minor ++ (Bytes.ofUInt32 count ++ names)
  | noticeResponse body => body
  | notificationResponse processId channel payload =>
      Bytes.ofUInt32 processId ++ (zeroEnded channel ++ zeroEnded payload)
  | parameterDescription count oids => Bytes.ofUInt16 count ++ oids
  | parameterStatus name value => zeroEnded name ++ zeroEnded value
  | readyForQuery indicator => [indicator]
  | rowDescription fields body => Bytes.ofUInt16 fields ++ body
  | _ => []

end BackendMessage

end PgClient

/-
What can be wrong with what a server sends, or with when a command is sent.
-/

import PgClient.Wire.Tag

namespace PgClient

inductive Malformation
  | bodyTooShort
  | notTerminated
  | notUtf8
  | lengthTooSmall
  | descriptionTooShort
  | rowLengthMismatch
  | rowTooShort
  | valueOutOfRange
  | badResponse
  | other (reason : String)
deriving Repr, DecidableEq

def Malformation.reason : Malformation → String
  | bodyTooShort => "message body too short"
  | notTerminated => "string is not nul terminated"
  | notUtf8 => "string is not valid utf8"
  | lengthTooSmall => "message length too small"
  | descriptionTooShort => "row description too short"
  | rowLengthMismatch => "data row length does not match row description"
  | rowTooShort => "data row too short"
  | valueOutOfRange => "data row value length out of range"
  | badResponse => "bad response from server"
  | other reason => reason

inductive Phase
  | authentication
  | startup
  | query
  | undescribedResult
  | named (name : String)
deriving Repr, DecidableEq

def Phase.name : Phase → String
  | authentication => "authentication"
  | startup => "startup phase"
  | query => "query"
  | undescribedResult => "result without description"
  | named name => name

inductive ProtocolFault
  | unexpected (expected : Option UInt8) (found : UInt8) (phase : Option Phase)
  | unknownAuthentication (code : UInt32)
  | malformed (reason : Malformation)
  | commandInProgress
  | noResult
deriving Repr, DecidableEq

namespace ProtocolFault

/-- A message that no part of the session `phase` allows. -/
def misplaced (tag : Tag) (phase : Phase) : ProtocolFault :=
  .unexpected none tag.byte (some phase)

def message : ProtocolFault → String
  | unexpected expected found phase =>
      let what :=
        match expected with
        | some expected =>
            "Expected message `" ++ Tag.nameOfByte expected ++ "` found `" ++
              Tag.nameOfByte found ++ "`"
        | none => "Unexpected message `" ++ Tag.nameOfByte found ++ "`"
      match phase with
      | some phase => what ++ " in `" ++ phase.name ++ "`"
      | none => what
  | unknownAuthentication code =>
      "Unknown authentication method code `" ++ toString code.toNat ++ "`"
  | malformed reason => "Malformed message: " ++ reason.reason
  | commandInProgress => "another command is already in progress"
  | noResult => "the command produced no result"

end ProtocolFault

end PgClient

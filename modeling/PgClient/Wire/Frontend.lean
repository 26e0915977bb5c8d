/-
The messages of a client, and the bytes that carry them.

The length in front of a body is added up from the fields before the body is
written, in words of 32 bits. A field too long for such a word, or a sum that is,
stops the message before any of it is written; the length counts itself as well, and
a sum that exceeds its word only by that is met behind the first byte. A number of
parameters too large for its word of 16 bits is met only on the way, when the head
and the names are out already.
-/

import PgClient.Defect
import PgClient.Value.Parameter
import PgClient.Wire.Frame

namespace PgClient

inductive FrontendMessage
  | password (secret : String)
  | saslInitialResponse (mechanism : String) (data : Bytes)
  | saslResponse (data : Bytes)
  | query (sql : String)
  | parse (name sql : String) (parameters : List Parameter)
  | bind (portal statement : String) (parameters : List Parameter)
  | describe (kind : UInt8) (name : String)
  | execute (portal : String) (rowLimit : UInt32)
  | sync
  | copyFail (reason : String)
  | terminate
deriving Repr, DecidableEq

namespace FrontendMessage

def first : FrontendMessage → UInt8
  | password _ => 'p'.toUInt8
  | saslInitialResponse _ _ => 'p'.toUInt8
  | saslResponse _ => 'p'.toUInt8
  | query _ => 'Q'.toUInt8
  | parse _ _ _ => 'P'.toUInt8
  | bind _ _ _ => 'B'.toUInt8
  | describe _ _ => 'D'.toUInt8
  | execute _ _ => 'E'.toUInt8
  | sync => 'S'.toUInt8
  | copyFail _ => 'f'.toUInt8
  | terminate => 'X'.toUInt8

/-! ### Sizes -/

def count16 (count : Nat) : Except Defect UInt16 :=
  if count < 65536 then .ok (UInt16.ofNat count) else .error .oversizedMessage

def count32 (count : Nat) : Except Defect UInt32 :=
  if count < 4294967296 then .ok (UInt32.ofNat count) else .error .oversizedMessage

def sum (first second : UInt32) : Except Defect UInt32 :=
  if first.toNat + second.toNat < 4294967296 then .ok (first + second) else .error .overflow

def textSize (text : String) : Except Defect UInt32 := do
  sum (← count32 text.utf8ByteSize) 1

def valueSize (parameter : Parameter) : Except Defect UInt32 := do
  match parameter.value with
  | some value => sum 4 (← count32 value.length)
  | none => return 4

/-- Adds the values to what has been added up of them already. -/
def valuesSize (sofar : UInt32) : List Parameter → Except Defect UInt32
  | [] => .ok sofar
  | parameter :: rest => do
      valuesSize (← sum sofar (← valueSize parameter)) rest

/-- The length of the body, as it is added up before the body is written. -/
def size : FrontendMessage → Except Defect UInt32
  | password secret => textSize secret
  | saslInitialResponse mechanism data => do
      sum (← sum (← textSize mechanism) 4) (← count32 data.length)
  | saslResponse data => count32 data.length
  | query sql => textSize sql
  | parse name sql parameters => do
      let texts ← sum (← textSize name) (← textSize sql)
      sum (← sum texts 2) (← count32 (parameters.length * 4))
  | bind portal statement parameters => do
      let values ← valuesSize 0 parameters
      let texts ← sum (← textSize portal) (← textSize statement)
      sum (← sum (← sum (← sum texts 2) 2) values) 2
  | describe _ name => do sum 1 (← textSize name)
  | execute portal _ => do sum (← textSize portal) 4
  | sync => .ok 0
  | copyFail reason => textSize reason
  | terminate => .ok 0

/-! ### Bodies -/

/-- A body, or as much of it as was written before a count turned out too large. -/
structure Written where
  bytes : Bytes
  whole : Bool
deriving Repr, DecidableEq

def textBytes (text : String) : Bytes :=
  Bytes.endedByZero (Utf8.encode text)

def counted (data : Bytes) : Bytes :=
  Bytes.ofUInt32 (UInt32.ofNat data.length) ++ data

/-- A length and a value; the length of no value is the greatest word, that is −1. -/
def valueBytes (parameter : Parameter) : Bytes :=
  match parameter.value with
  | some value => counted value
  | none => Bytes.ofUInt32 0xFFFFFFFF

/-- Writes a count of parameters and then `rest`, if the count fits. -/
def withCount (before : Bytes) (parameters : List Parameter) (rest : Bytes) : Written :=
  match count16 parameters.length with
  | .ok count => ⟨before ++ (Bytes.ofUInt16 count ++ rest), true⟩
  | .error _ => ⟨before, false⟩

def body : FrontendMessage → Written
  | password secret => ⟨textBytes secret, true⟩
  | saslInitialResponse mechanism data => ⟨textBytes mechanism ++ counted data, true⟩
  | saslResponse data => ⟨data, true⟩
  | query sql => ⟨textBytes sql, true⟩
  | parse name sql parameters =>
      withCount (textBytes name ++ textBytes sql) parameters
        (parameters.flatMap fun parameter => Bytes.ofUInt32 parameter.oid)
  | bind portal statement parameters =>
      withCount (textBytes portal ++ (textBytes statement ++ Bytes.ofUInt16 0)) parameters
        (parameters.flatMap valueBytes ++ Bytes.ofUInt16 0)
  | describe kind name => ⟨kind :: textBytes name, true⟩
  | execute portal rowLimit => ⟨textBytes portal ++ Bytes.ofUInt32 rowLimit, true⟩
  | sync => ⟨[], true⟩
  | copyFail reason => ⟨textBytes reason, true⟩
  | terminate => ⟨[], true⟩

/-- Appends a message to a buffer. A message that does not fit the wire leaves in
the buffer what was written of it. -/
def append (message : FrontendMessage) (buffer : Bytes) : Except Defect Unit × Bytes :=
  match message.size with
  | .error defect => (.error defect, buffer)
  | .ok size =>
      match sum 4 size with
      | .error defect => (.error defect, buffer ++ [message.first])
      | .ok length =>
          let written := message.body
          let buffer := buffer ++ message.first :: (Bytes.ofUInt32 length ++ written.bytes)
          (if written.whole then .ok () else .error .oversizedMessage, buffer)

/-- Appends messages up to the first that does not fit. -/
def appendAll : List FrontendMessage → Bytes → Except Defect Unit × Bytes
  | [], buffer => (.ok (), buffer)
  | message :: rest, buffer =>
      match message.append buffer with
      | (.error defect, buffer) => (.error defect, buffer)
      | (.ok (), buffer) => appendAll rest buffer

end FrontendMessage

/-! ### The first message of a session -/

/-- Who asks for a session on what, and with which settings. -/
structure StartupMessage where
  user : String
  database : Option String
  parameters : List (String × String)
deriving Repr, DecidableEq

namespace StartupMessage

def version : UInt32 := 196608

def pairs (message : StartupMessage) : List (String × String) :=
  ("user", message.user) ::
    ((match message.database with
      | some database => [("database", database)]
      | none => []) ++ message.parameters)

def content (message : StartupMessage) : Bytes :=
  Bytes.ofUInt32 version ++
    (message.pairs.flatMap (fun pair =>
      FrontendMessage.textBytes pair.1 ++ FrontendMessage.textBytes pair.2) ++ [0])

/-- Appends the message, which has a length but no kind in front. The length is put
in place last; where it does not fit, zero stays there. -/
def append (message : StartupMessage) (buffer : Bytes) : Except Defect Unit × Bytes :=
  let content := message.content
  match FrontendMessage.count32 (4 + content.length) with
  | .ok length => (.ok (), buffer ++ (Bytes.ofUInt32 length ++ content))
  | .error defect => (.error defect, buffer ++ (Bytes.ofUInt32 0 ++ content))

end StartupMessage

end PgClient

/-
SCRAM: client and server show each other that they know one password.

The client begins with a nonce. The server answers with a nonce that begins with
it, a salt and a number of iterations, from which the client makes a salted
password. Every key comes from that one, and both proofs are made over the
messages that went before, so that neither side can use them in another exchange.

The functions underneath are a parameter: nothing but the length of a keyed hash
matters to the exchange.
-/

import PgClient.Digest.Hmac
import PgClient.Error
import PgClient.Text.Blank
import PgClient.Text.Split

namespace PgClient.Scram

structure Primitives where
  hash : Bytes → Bytes
  mac : Bytes → Bytes → Bytes
  /-- The salted password, of a password, a salt and a number of iterations. -/
  stretch : Bytes → Bytes → Nat → Bytes
  mac_length : ∀ key message, (mac key message).length = 32

def sha256 : Primitives :=
  { hash := Sha256.digest
    mac := Hmac.mac
    stretch := Hmac.stretch
    mac_length := Hmac.mac_length }

def mechanism : String := "SCRAM-SHA-256"

/-! ### Keys -/

def clientKey (primitives : Primitives) (saltedPassword : Bytes) : Bytes :=
  primitives.mac saltedPassword (Utf8.encode "Client Key")

/-- What a server keeps of a client key. -/
def storedKey (primitives : Primitives) (saltedPassword : Bytes) : Bytes :=
  primitives.hash (clientKey primitives saltedPassword)

def serverKey (primitives : Primitives) (saltedPassword : Bytes) : Bytes :=
  primitives.mac saltedPassword (Utf8.encode "Server Key")

def serverSignature (primitives : Primitives) (saltedPassword authMessage : Bytes) : Bytes :=
  primitives.mac (serverKey primitives saltedPassword) authMessage

/-- The client key, hidden under a signature that the server can make as well. -/
def proof (primitives : Primitives) (saltedPassword authMessage : Bytes) : Bytes :=
  Hmac.xor (clientKey primitives saltedPassword)
    (primitives.mac (storedKey primitives saltedPassword) authMessage)

/-! ### The client's side -/

structure Agreement where
  saltedPassword : Bytes
  /-- The messages that the proofs are made over. -/
  authMessage : Bytes
deriving Repr, DecidableEq

structure Client where
  password : String
  nonce : String
  agreement : Option Agreement := none
deriving Repr, DecidableEq

/-- The first message without its head. The user is left out, since the session has
been asked for in a name already. -/
def Client.firstBare (client : Client) : Bytes :=
  Utf8.encode ("n=,r=" ++ client.nonce)

/-- The first message; its head says that the exchange is bound to no channel. -/
def Client.first (client : Client) : Bytes :=
  Utf8.encode "n,," ++ client.firstBare

/-- The attributes of a first message of the server, as far as they are read. -/
structure Attributes where
  nonce : Option (List Char) := none
  salt : Option Bytes := none
  iterations : Option Nat := none
deriving Repr, DecidableEq

/-- Takes in one part of a message; a later part of one kind replaces the earlier. -/
def Attributes.take (attributes : Attributes) (part : List Char) : Except AuthFault Attributes :=
  match part with
  | 'r' :: '=' :: nonce => .ok { attributes with nonce := some nonce }
  | 's' :: '=' :: salt =>
      match Base64.decode (Utf8.encode (String.ofList salt)) with
      | .error fault => .error (.invalidSalt fault)
      | .ok salt => .ok { attributes with salt := some salt }
  | 'i' :: '=' :: iterations =>
      match Integer.readNat 32 iterations with
      | .error fault => .error (.invalidIterations fault)
      | .ok iterations => .ok { attributes with iterations := some iterations }
  | _ => .ok attributes

def Attributes.takeAll : Attributes → List (List Char) → Except AuthFault Attributes
  | attributes, [] => .ok attributes
  | attributes, part :: rest =>
      match attributes.take part with
      | .error fault => .error fault
      | .ok attributes => attributes.takeAll rest

structure ServerFirst where
  nonce : List Char
  salt : Bytes
  iterations : Nat
deriving Repr, DecidableEq

def ServerFirst.read (text : List Char) : Except AuthFault ServerFirst :=
  match Attributes.takeAll {} (Split.every ',' text) with
  | .error fault => .error fault
  | .ok { nonce := some nonce, salt := some salt, iterations := some iterations } =>
      .ok { nonce, salt, iterations }
  | .ok _ => .error .incompleteServerFirst

/-- The last message of the client as far as its proof; the channel of the exchange
stands in it as it stood in the head of the first. -/
def finalWithoutProof (nonce : List Char) : Bytes :=
  Utf8.encode ("c=biws,r=" ++ String.ofList nonce)

def comma : Bytes := Utf8.encode ","

def authMessage (clientFirstBare serverFirst clientFinalWithoutProof : Bytes) : Bytes :=
  clientFirstBare ++ (comma ++ (serverFirst ++ (comma ++ clientFinalWithoutProof)))

def Client.answer (primitives : Primitives) (client : Client) (data : Bytes) :
    Except Error (Bytes × Client) :=
  match Utf8.decode data with
  | .error fault => .error { kind := .utf8 fault }
  | .ok text =>
      match ServerFirst.read text.toList with
      | .error fault => .error (Error.ofAuth fault)
      | .ok serverFirst =>
          if (Split.after? client.nonce.toList serverFirst.nonce).isNone then
            .error (Error.ofAuth .foreignNonce)
          else
            let saltedPassword :=
              primitives.stretch (Utf8.encode client.password) serverFirst.salt
                serverFirst.iterations
            let withoutProof := finalWithoutProof serverFirst.nonce
            let authMessage := authMessage client.firstBare data withoutProof
            let shown := Base64.encode (proof primitives saltedPassword authMessage)
            .ok (withoutProof ++ (Utf8.encode ",p=" ++ shown),
              { client with agreement := some { saltedPassword, authMessage } })

def Client.verify (primitives : Primitives) (client : Client) (data : Bytes) :
    Except Error Unit :=
  match Utf8.decode data with
  | .error fault => .error { kind := .utf8 fault }
  | .ok text =>
      match text.toList with
      | 'e' :: '=' :: reason => .error (Error.ofAuth (.rejected (String.ofList reason)))
      | 'v' :: '=' :: signature =>
          match Base64.decode (Utf8.encode (String.ofList (Blank.trimEnd signature))) with
          | .error fault => .error (Error.ofAuth (.invalidSignature fault))
          | .ok signature =>
              match client.agreement with
              | none => .error (Error.ofAuth .finalBeforeFirst)
              | some agreement =>
                  if signature =
                      serverSignature primitives agreement.saltedPassword agreement.authMessage then
                    .ok ()
                  else .error (Error.ofAuth .signatureMismatch)
      | _ => .error (Error.ofAuth .invalidServerFinal)

end PgClient.Scram

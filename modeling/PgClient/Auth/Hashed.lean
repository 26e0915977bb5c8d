/-
A password in the form that a server asks for when it sends a salt.
-/

import PgClient.Digest.Md5
import PgClient.Text.Utf8

namespace PgClient.Auth

def digits (bytes : Bytes) : Bytes :=
  Utf8.encode (String.ofList (Md5.hex (Md5.digest bytes)))

/-- The password is hashed with the name of the user, which a server may keep, and
the outcome once more with the salt, which is another for every session. -/
def hashedPassword (user password : String) (salt : UInt32) : String :=
  let kept := digits (Utf8.encode (password ++ user))
  "md5" ++ String.ofList (Md5.hex (Md5.digest (kept ++ Bytes.ofUInt32 salt)))

end PgClient.Auth

/-
Keyed hashing with SHA-256, and keys stretched from passwords.

The key fills a block, which is masked in two ways, one for the message and one
for the digest of the message. Both masked blocks are taken in once and kept, so
that many messages under one key cost two blocks each.
-/

import PgClient.Digest.Sha256

namespace PgClient.Hmac

/-- The two states that a key leads to. -/
structure Key where
  inner : Sha256.State
  outer : Sha256.State

def masked (block : Bytes) (mask : UInt8) : Sha256.State :=
  Sha256.compress Sha256.initial (block.map (· ^^^ mask))

/-- A key longer than a block is replaced by its digest. -/
def Key.ofBytes (key : Bytes) : Key :=
  let short := if key.length ≤ Sha256.blockLength then key else Sha256.digest key
  let block := short ++ List.replicate (Sha256.blockLength - short.length) 0
  ⟨masked block 0x36, masked block 0x5c⟩

def Key.apply (key : Key) (message : Bytes) : Bytes :=
  Sha256.finish key.outer Sha256.blockLength
    (Sha256.finish key.inner Sha256.blockLength message)

def mac (key message : Bytes) : Bytes :=
  (Key.ofBytes key).apply message

theorem mac_length (key message : Bytes) : (mac key message).length = 32 := rfl

/-! ### Stretching -/

def xor (left right : Bytes) : Bytes :=
  List.zipWith (· ^^^ ·) left right

/-- Adds further rounds to `sum`, each the hash of the one before it. -/
def iterate (key : Key) : Nat → Bytes → Bytes → Bytes
  | 0, _, sum => sum
  | count + 1, last, sum =>
      let next := key.apply last
      iterate key count next (xor sum next)

/-- The first block of a key stretched from a password. At least one round is made. -/
def stretch (password salt : Bytes) (iterations : Nat) : Bytes :=
  let key := Key.ofBytes password
  let first := key.apply (salt ++ Bytes.ofUInt32 1)
  iterate key (iterations - 1) first first

end PgClient.Hmac

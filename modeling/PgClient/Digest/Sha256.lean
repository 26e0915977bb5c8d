/-
SHA-256.

A message is padded to blocks of 64 bytes; each block is spread over 64 words,
and every word turns the eight words of the state once. A state can be kept and
continued, which is what a keyed hash does with the block of its key.
-/

import PgClient.Bytes

namespace PgClient.Sha256

structure State where
  a : UInt32
  b : UInt32
  c : UInt32
  d : UInt32
  e : UInt32
  f : UInt32
  g : UInt32
  h : UInt32

/-- The fractional parts of the square roots of the first eight primes. -/
def initial : State :=
  ⟨0x6a09e667, 0xbb67ae85, 0x3c6ef372, 0xa54ff53a,
    0x510e527f, 0x9b05688c, 0x1f83d9ab, 0x5be0cd19⟩

/-- The fractional parts of the cube roots of the first 64 primes. -/
def roundConstants : List UInt32 :=
  [
    0x428a2f98, 0x71374491, 0xb5c0fbcf, 0xe9b5dba5, 0x3956c25b, 0x59f111f1, 0x923f82a4, 0xab1c5ed5,
    0xd807aa98, 0x12835b01, 0x243185be, 0x550c7dc3, 0x72be5d74, 0x80deb1fe, 0x9bdc06a7, 0xc19bf174,
    0xe49b69c1, 0xefbe4786, 0x0fc19dc6, 0x240ca1cc, 0x2de92c6f, 0x4a7484aa, 0x5cb0a9dc, 0x76f988da,
    0x983e5152, 0xa831c66d, 0xb00327c8, 0xbf597fc7, 0xc6e00bf3, 0xd5a79147, 0x06ca6351, 0x14292967,
    0x27b70a85, 0x2e1b2138, 0x4d2c6dfc, 0x53380d13, 0x650a7354, 0x766a0abb, 0x81c2c92e, 0x92722c85,
    0xa2bfe8a1, 0xa81a664b, 0xc24b8b70, 0xc76c51a3, 0xd192e819, 0xd6990624, 0xf40e3585, 0x106aa070,
    0x19a4c116, 0x1e376c08, 0x2748774c, 0x34b0bcb5, 0x391c0cb3, 0x4ed8aa4a, 0x5b9cca4f, 0x682e6ff3,
    0x748f82ee, 0x78a5636f, 0x84c87814, 0x8cc70208, 0x90befffa, 0xa4506ceb, 0xbef9a3f7, 0xc67178f2]

def rotateRight (word : UInt32) (places : UInt32) : UInt32 :=
  (word >>> places) ||| (word <<< (32 - places))

/-! ### One block -/

/-- The words of a block, most significant byte first. -/
def wordsOf : Bytes → List UInt32
  | first :: second :: third :: fourth :: rest =>
      ((first.toUInt32 <<< 24) ||| (second.toUInt32 <<< 16) ||| (third.toUInt32 <<< 8) |||
        fourth.toUInt32) :: wordsOf rest
  | _ => []

/-- Continues the sixteen words at hand by as many words as asked for. -/
def schedule : Nat → List UInt32 → List UInt32
  | 0, window => window
  | _ + 1, [] => []
  | count + 1, oldest :: rest =>
      let second := rest.getD 0 0
      let tenth := rest.getD 8 0
      let fifteenth := rest.getD 13 0
      let low := rotateRight second 7 ^^^ rotateRight second 18 ^^^ (second >>> 3)
      let high := rotateRight fifteenth 17 ^^^ rotateRight fifteenth 19 ^^^ (fifteenth >>> 10)
      oldest :: schedule count (rest ++ [oldest + low + tenth + high])

def turn (state : State) (constant word : UInt32) : State :=
  let bigE := rotateRight state.e 6 ^^^ rotateRight state.e 11 ^^^ rotateRight state.e 25
  let choice := (state.e &&& state.f) ^^^ (~~~state.e &&& state.g)
  let first := state.h + bigE + choice + constant + word
  let bigA := rotateRight state.a 2 ^^^ rotateRight state.a 13 ^^^ rotateRight state.a 22
  let majority := (state.a &&& state.b) ^^^ (state.a &&& state.c) ^^^ (state.b &&& state.c)
  { a := first + bigA + majority
    b := state.a
    c := state.b
    d := state.c
    e := state.d + first
    f := state.e
    g := state.f
    h := state.g }

def turns : State → List UInt32 → List UInt32 → State
  | state, constant :: constants, word :: words => turns (turn state constant word) constants words
  | state, _, _ => state

def compress (state : State) (block : Bytes) : State :=
  let turned := turns state roundConstants (schedule 48 (wordsOf block))
  { a := state.a + turned.a
    b := state.b + turned.b
    c := state.c + turned.c
    d := state.d + turned.d
    e := state.e + turned.e
    f := state.f + turned.f
    g := state.g + turned.g
    h := state.h + turned.h }

/-! ### Messages -/

def blockLength : Nat := 64

def absorb : Nat → State → Bytes → State
  | 0, state, _ => state
  | count + 1, state, bytes =>
      let parts := bytes.splitAt blockLength
      absorb count (compress state parts.1) parts.2

def padding (length : Nat) : Bytes :=
  let zeros := (119 - length % 64) % 64
  0x80 :: (List.replicate zeros 0 ++ Bytes.ofUInt32 (UInt32.ofNat (length * 8 / 4294967296)) ++
    Bytes.ofUInt32 (UInt32.ofNat (length * 8)))

def State.bytes (state : State) : Bytes :=
  [state.a, state.b, state.c, state.d, state.e, state.f, state.g, state.h].flatMap Bytes.ofUInt32

/-- The digest of a message whose first `done` bytes the state has taken in. -/
def finish (state : State) (done : Nat) (message : Bytes) : Bytes :=
  let padded := message ++ padding (done + message.length)
  (absorb (padded.length / blockLength) state padded).bytes

def digest (message : Bytes) : Bytes :=
  finish initial 0 message

end PgClient.Sha256

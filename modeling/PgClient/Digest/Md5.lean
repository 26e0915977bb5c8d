/-
MD5, and digests in hexadecimal digits.
-/

import PgClient.Bytes

namespace PgClient.Md5

structure State where
  a : UInt32
  b : UInt32
  c : UInt32
  d : UInt32

def initial : State :=
  ⟨0x67452301, 0xefcdab89, 0x98badcfe, 0x10325476⟩

/-- The sizes of the sines of the first 64 whole numbers. -/
def sines : List UInt32 :=
  [
    0xd76aa478, 0xe8c7b756, 0x242070db, 0xc1bdceee, 0xf57c0faf, 0x4787c62a, 0xa8304613, 0xfd469501,
    0x698098d8, 0x8b44f7af, 0xffff5bb1, 0x895cd7be, 0x6b901122, 0xfd987193, 0xa679438e, 0x49b40821,
    0xf61e2562, 0xc040b340, 0x265e5a51, 0xe9b6c7aa, 0xd62f105d, 0x02441453, 0xd8a1e681, 0xe7d3fbc8,
    0x21e1cde6, 0xc33707d6, 0xf4d50d87, 0x455a14ed, 0xa9e3e905, 0xfcefa3f8, 0x676f02d9, 0x8d2a4c8a,
    0xfffa3942, 0x8771f681, 0x6d9d6122, 0xfde5380c, 0xa4beea44, 0x4bdecfa9, 0xf6bb4b60, 0xbebfbc70,
    0x289b7ec6, 0xeaa127fa, 0xd4ef3085, 0x04881d05, 0xd9d4d039, 0xe6db99e5, 0x1fa27cf8, 0xc4ac5665,
    0xf4292244, 0x432aff97, 0xab9423a7, 0xfc93a039, 0x655b59c3, 0x8f0ccc92, 0xffeff47d, 0x85845dd1,
    0x6fa87e4f, 0xfe2ce6e0, 0xa3014314, 0x4e0811a1, 0xf7537e82, 0xbd3af235, 0x2ad7d2bb, 0xeb86d391]

/-- How far each step of the four rounds turns its word, four steps at a time. -/
def places : List UInt32 :=
  let round (four : List UInt32) : List UInt32 := four ++ four ++ four ++ four
  round [7, 12, 17, 22] ++ round [5, 9, 14, 20] ++ round [4, 11, 16, 23] ++ round [6, 10, 15, 21]

def rotateLeft (word : UInt32) (places : UInt32) : UInt32 :=
  (word <<< places) ||| (word >>> (32 - places))

/-- The words of a block, least significant byte first. -/
def wordsOf : Bytes → List UInt32
  | first :: second :: third :: fourth :: rest =>
      (first.toUInt32 ||| (second.toUInt32 <<< 8) ||| (third.toUInt32 <<< 16) |||
        (fourth.toUInt32 <<< 24)) :: wordsOf rest
  | _ => []

/-- The mixture of one step, and the number of the word that it adds. -/
def mixture (state : State) (step : Nat) : UInt32 × Nat :=
  if step < 16 then ((state.b &&& state.c) ||| (~~~state.b &&& state.d), step)
  else if step < 32 then
    ((state.d &&& state.b) ||| (~~~state.d &&& state.c), (5 * step + 1) % 16)
  else if step < 48 then (state.b ^^^ state.c ^^^ state.d, (3 * step + 5) % 16)
  else (state.c ^^^ (state.b ||| ~~~state.d), 7 * step % 16)

def turn (words : Array UInt32) (state : State) (step : Nat) (sine place : UInt32) : State :=
  let (mixed, chosen) := mixture state step
  let sum := state.a + mixed + sine + words.getD chosen 0
  { a := state.d, b := state.b + rotateLeft sum place, c := state.b, d := state.c }

def turns (words : Array UInt32) : State → Nat → List UInt32 → List UInt32 → State
  | state, step, sine :: sines, place :: places =>
      turns words (turn words state step sine place) (step + 1) sines places
  | state, _, _, _ => state

def compress (state : State) (block : Bytes) : State :=
  let turned := turns (wordsOf block).toArray state 0 sines places
  { a := state.a + turned.a
    b := state.b + turned.b
    c := state.c + turned.c
    d := state.d + turned.d }

def absorb : Nat → State → Bytes → State
  | 0, state, _ => state
  | count + 1, state, bytes =>
      let parts := bytes.splitAt 64
      absorb count (compress state parts.1) parts.2

def littleEndian (word : UInt32) : Bytes :=
  (Bytes.ofUInt32 word).reverse

def padding (length : Nat) : Bytes :=
  let zeros := (119 - length % 64) % 64
  0x80 :: (List.replicate zeros 0 ++ littleEndian (UInt32.ofNat (length * 8)) ++
    littleEndian (UInt32.ofNat (length * 8 / 4294967296)))

def digest (message : Bytes) : Bytes :=
  let padded := message ++ padding message.length
  let state := absorb (padded.length / 64) initial padded
  [state.a, state.b, state.c, state.d].flatMap littleEndian

def hex (bytes : Bytes) : List Char :=
  bytes.flatMap fun byte => [Nat.digitChar (byte.toNat / 16), Nat.digitChar (byte.toNat % 16)]

end PgClient.Md5

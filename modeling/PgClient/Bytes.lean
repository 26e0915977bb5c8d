/-
Byte strings and what the wire is written in: big-endian integers of fixed
width and texts that end in a zero byte.

A reader takes its value from the front and hands back what follows it; it
gives `none` when the bytes do not hold the whole value. A writer gives the
bytes of one value. Reading what a writer wrote gives the value back whatever
follows it, and a value is read from nothing else; that is what the lemmas under
each pair say.
-/

namespace PgClient

abbrev Bytes := List UInt8

namespace Bytes

/-- The first `count` bytes and the rest, when there are that many. -/
def take? (count : Nat) (bytes : Bytes) : Option (Bytes × Bytes) :=
  let parts := bytes.splitAt count
  if parts.1.length = count then some parts else none

theorem take?_append (front rest : Bytes) :
    take? front.length (front ++ rest) = some (front, rest) := by
  simp [take?, List.splitAt_eq]

theorem take?_eq_some {count : Nat} {bytes front rest : Bytes}
    (taken : take? count bytes = some (front, rest)) :
    bytes = front ++ rest ∧ front.length = count := by
  simp only [take?, List.splitAt_eq] at taken
  split at taken
  · rename_i enough
    injection taken with same
    injection same with sameFront sameRest
    subst sameFront sameRest
    exact ⟨(List.take_append_drop count bytes).symm, enough⟩
  · contradiction

/-! ### Integers -/

def ofUInt16 (value : UInt16) : Bytes :=
  [UInt8.ofNat (value.toNat / 256), UInt8.ofNat value.toNat]

def ofUInt32 (value : UInt32) : Bytes :=
  [UInt8.ofNat (value.toNat / 16777216), UInt8.ofNat (value.toNat / 65536),
    UInt8.ofNat (value.toNat / 256), UInt8.ofNat value.toNat]

def uint16? : Bytes → Option (UInt16 × Bytes)
  | high :: low :: rest =>
      some (UInt16.ofNat (high.toNat * 256 + low.toNat), rest)
  | _ => none

def uint32? : Bytes → Option (UInt32 × Bytes)
  | first :: second :: third :: fourth :: rest =>
      some (UInt32.ofNat (((first.toNat * 256 + second.toNat) * 256 + third.toNat) * 256 +
        fourth.toNat), rest)
  | _ => none

theorem uint16?_ofUInt16 (value : UInt16) (rest : Bytes) :
    uint16? (ofUInt16 value ++ rest) = some (value, rest) := by
  have bound := value.toNat_lt
  simp only [ofUInt16, List.cons_append, List.nil_append, uint16?, UInt8.toNat_ofNat']
  congr 2
  apply UInt16.toNat_inj.mp
  rw [UInt16.toNat_ofNat']
  omega

theorem uint32?_ofUInt32 (value : UInt32) (rest : Bytes) :
    uint32? (ofUInt32 value ++ rest) = some (value, rest) := by
  have bound := value.toNat_lt
  simp only [ofUInt32, List.cons_append, List.nil_append, uint32?, UInt8.toNat_ofNat']
  congr 2
  apply UInt32.toNat_inj.mp
  rw [UInt32.toNat_ofNat']
  omega

theorem uint16?_eq_some {bytes rest : Bytes} {value : UInt16}
    (read : uint16? bytes = some (value, rest)) : bytes = ofUInt16 value ++ rest := by
  unfold uint16? at read
  split at read
  · rename_i high low after
    cases read
    have bounds := And.intro high.toNat_lt low.toNat_lt
    have value : (UInt16.ofNat (high.toNat * 256 + low.toNat)).toNat =
        high.toNat * 256 + low.toNat := by
      rw [UInt16.toNat_ofNat']
      omega
    simp only [ofUInt16, value, List.cons_append, List.nil_append, List.cons.injEq, and_true]
    constructor <;> apply UInt8.toNat_inj.mp <;> rw [UInt8.toNat_ofNat'] <;> omega
  · cases read

theorem uint32?_eq_some {bytes rest : Bytes} {value : UInt32}
    (read : uint32? bytes = some (value, rest)) : bytes = ofUInt32 value ++ rest := by
  unfold uint32? at read
  split at read
  · rename_i first second third fourth after
    cases read
    have bounds := And.intro (And.intro first.toNat_lt second.toNat_lt)
      (And.intro third.toNat_lt fourth.toNat_lt)
    have value : (UInt32.ofNat (((first.toNat * 256 + second.toNat) * 256 + third.toNat) * 256 +
        fourth.toNat)).toNat =
          ((first.toNat * 256 + second.toNat) * 256 + third.toNat) * 256 + fourth.toNat := by
      rw [UInt32.toNat_ofNat']
      omega
    simp only [ofUInt32, value, List.cons_append, List.nil_append, List.cons.injEq, and_true]
    refine ⟨?_, ?_, ?_, ?_⟩ <;> apply UInt8.toNat_inj.mp <;> rw [UInt8.toNat_ofNat'] <;> omega
  · cases read

theorem ofUInt16_length (value : UInt16) : (ofUInt16 value).length = 2 := rfl

theorem ofUInt32_length (value : UInt32) : (ofUInt32 value).length = 4 := rfl

/-! ### Texts that end in a zero byte -/

/-- The bytes before the first zero byte and those after it. -/
def untilZero? (bytes : Bytes) : Option (Bytes × Bytes) :=
  match bytes.dropWhile (· != 0) with
  | [] => none
  | _ :: rest => some (bytes.takeWhile (· != 0), rest)

theorem untilZero?_append {front : Bytes} (noZero : 0 ∉ front) (rest : Bytes) :
    untilZero? (front ++ 0 :: rest) = some (front, rest) := by
  have all : ∀ byte ∈ front, (byte != 0) = true := by
    intro byte member
    simp only [bne_iff_ne, ne_eq]
    intro zero
    exact noZero (zero ▸ member)
  simp [untilZero?, List.takeWhile_append_of_pos all, List.dropWhile_append_of_pos all]

theorem untilZero?_eq_some {bytes front rest : Bytes}
    (read : untilZero? bytes = some (front, rest)) : bytes = front ++ 0 :: rest ∧ 0 ∉ front := by
  have whole := List.takeWhile_append_dropWhile (p := (· != 0)) (l := bytes)
  have clean := List.all_takeWhile (p := (· != 0)) (l := bytes)
  unfold untilZero? at read
  split at read
  · contradiction
  · rename_i head tail same
    injection read with pair
    injection pair with sameFront sameRest
    have headZero : head = 0 := by
      have stop := List.head?_dropWhile_not (p := (· != 0)) bytes
      rw [same] at stop
      simpa using stop
    subst sameFront sameRest headZero
    refine ⟨by rw [← same]; exact whole.symm, ?_⟩
    intro zero
    have := List.all_eq_true.mp clean 0 zero
    simp at this

def endedByZero (text : Bytes) : Bytes :=
  text ++ [0]

theorem untilZero?_endedByZero {text : Bytes} (noZero : 0 ∉ text) (rest : Bytes) :
    untilZero? (endedByZero text ++ rest) = some (text, rest) := by
  rw [endedByZero, List.append_assoc]
  exact untilZero?_append noZero rest

end Bytes

end PgClient

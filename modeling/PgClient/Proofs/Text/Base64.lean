/-
What is written in base64 is read back.

A writer gives groups of four symbols, the last of them filled up with padding, and a
reader goes through the same groups. Written bytes are also a text by themselves, of
characters that are neither a comma nor white space.
-/

import PgClient.Text.Base64
import PgClient.Text.Blank
import PgClient.Text.Utf8

namespace PgClient.Base64

variable {value position : Nat} {tail : Tail} {byte : UInt8} {bytes : Bytes}

/-! ### Symbols -/

private theorem symbol_ne_padding (small : value < 64) : symbol value ≠ padding := by
  intro same
  have read := value?_symbol value small
  have unread : value? padding = none := by decide
  rw [same, unread] at read
  cases read

private theorem valueAt_symbol (small : value < 64) (offset : Nat) :
    valueAt offset (symbol value) = .ok value := by
  rw [valueAt, value?_symbol value small]

private theorem groupBytes_symbols (first second third : UInt8) :
    groupBytes (first.toNat / 4) (first.toNat % 4 * 16 + second.toNat / 16)
      (second.toNat % 16 * 4 + third.toNat / 64) (third.toNat % 64) = [first, second, third] := by
  have ofFirst := first.toNat_lt
  have ofSecond := second.toNat_lt
  have ofThird := third.toNat_lt
  have one : first.toNat / 4 * 4 + (first.toNat % 4 * 16 + second.toNat / 16) / 16 =
      first.toNat := by omega
  have two : (first.toNat % 4 * 16 + second.toNat / 16) % 16 * 16 +
      (second.toNat % 16 * 4 + third.toNat / 64) / 4 = second.toNat := by omega
  have three : (second.toNat % 16 * 4 + third.toNat / 64) % 4 * 64 + third.toNat % 64 =
      third.toNat := by omega
  rw [groupBytes, one, two, three, UInt8.ofNat_toNat, UInt8.ofNat_toNat, UInt8.ofNat_toNat]

/-! ### The last group -/

private theorem readTail_symbol (small : value < 64) (unfilled : tail.fill = 0)
    (start position : Nat) (rest : Bytes) :
    readTail start position tail (symbol value :: rest) =
      readTail start (position + 1)
        { tail with values := tail.values ++ [value], last := symbol value } rest := by
  rw [readTail, if_neg (symbol_ne_padding small), if_neg (by omega), valueAt_symbol small]

private theorem readTail_padding (late : 2 ≤ position) (start : Nat) (tail : Tail) (rest : Bytes) :
    readTail start position tail (padding :: rest) =
      readTail start (position + 1)
        { tail with
          fill := tail.fill + 1
          fillAt := if tail.fill = 0 then start + position else tail.fillAt } rest := by
  rw [readTail, if_pos rfl, if_neg (by omega)]

private theorem tailBytes_two {first second : Nat} (values : tail.values = [first, second])
    (filled : tail.fill = 2) (unused : second % 16 = 0) (start : Nat) :
    tailBytes start tail = .ok [UInt8.ofNat (first * 4 + second / 16)] := by
  unfold tailBytes
  rw [values, filled]
  exact if_neg (not_not_intro unused)

private theorem tailBytes_three {first second third : Nat}
    (values : tail.values = [first, second, third]) (filled : tail.fill = 1)
    (unused : third % 4 = 0) (start : Nat) :
    tailBytes start tail =
      .ok [UInt8.ofNat (first * 4 + second / 16), UInt8.ofNat (second % 16 * 16 + third / 4)] := by
  unfold tailBytes
  rw [values, filled]
  exact if_neg (not_not_intro unused)

private theorem tailBytes_four {first second third fourth : Nat}
    (values : tail.values = [first, second, third, fourth]) (unfilled : tail.fill = 0)
    (start : Nat) : tailBytes start tail = .ok (groupBytes first second third fourth) := by
  unfold tailBytes
  rw [values, unfilled]
  rfl

/-- A group with nothing behind it is the last one. -/
theorem readGroups_last {start : Nat} {first second third fourth : UInt8}
    (read : readTail start 0 {} [first, second, third, fourth] = .ok tail) :
    readGroups start [first, second, third, fourth] = tailBytes start tail := by
  change (readTail start 0 {} [first, second, third, fourth]).bind (tailBytes start) = _
  rw [read]
  rfl

private theorem readGroups_one (start : Nat) (first : UInt8) :
    readGroups start (encode [first]) = .ok [first] := by
  have bound := first.toNat_lt
  have whole : first.toNat / 4 * 4 + first.toNat % 4 * 16 / 16 = first.toNat := by omega
  have unused : first.toNat % 4 * 16 % 16 = 0 := by omega
  have read : readTail start 0 {} (encode [first]) =
      .ok ⟨[first.toNat / 4, first.toNat % 4 * 16], symbol (first.toNat % 4 * 16), 2,
        start + 2⟩ := by
    rw [encode, readTail_symbol (by omega) rfl, readTail_symbol (by omega) rfl,
      readTail_padding (by omega), readTail_padding (by omega), readTail]
    rfl
  rw [encode] at read ⊢
  rw [readGroups_last read, tailBytes_two rfl rfl unused, whole, UInt8.ofNat_toNat]

private theorem readGroups_two (start : Nat) (first second : UInt8) :
    readGroups start (encode [first, second]) = .ok [first, second] := by
  have ofFirst := first.toNat_lt
  have ofSecond := second.toNat_lt
  have one : first.toNat / 4 * 4 + (first.toNat % 4 * 16 + second.toNat / 16) / 16 =
      first.toNat := by omega
  have two : (first.toNat % 4 * 16 + second.toNat / 16) % 16 * 16 + second.toNat % 16 * 4 / 4 =
      second.toNat := by omega
  have unused : second.toNat % 16 * 4 % 4 = 0 := by omega
  have read : readTail start 0 {} (encode [first, second]) =
      .ok ⟨[first.toNat / 4, first.toNat % 4 * 16 + second.toNat / 16, second.toNat % 16 * 4],
        symbol (second.toNat % 16 * 4), 1, start + 3⟩ := by
    rw [encode, readTail_symbol (by omega) rfl, readTail_symbol (by omega) rfl,
      readTail_symbol (by omega) rfl, readTail_padding (by omega), readTail]
    rfl
  rw [encode] at read ⊢
  rw [readGroups_last read, tailBytes_three rfl rfl unused, one, two, UInt8.ofNat_toNat,
    UInt8.ofNat_toNat]

private theorem readGroups_three (start : Nat) (first second third : UInt8) :
    readGroups start (encode [first, second, third]) = .ok [first, second, third] := by
  have ofFirst := first.toNat_lt
  have ofSecond := second.toNat_lt
  have ofThird := third.toNat_lt
  have read : readTail start 0 {} (encode [first, second, third]) =
      .ok ⟨[first.toNat / 4, first.toNat % 4 * 16 + second.toNat / 16,
          second.toNat % 16 * 4 + third.toNat / 64, third.toNat % 64],
        symbol (third.toNat % 64), 0, 0⟩ := by
    rw [encode, encode, readTail_symbol (by omega) rfl, readTail_symbol (by omega) rfl,
      readTail_symbol (by omega) rfl, readTail_symbol (by omega) rfl, readTail]
    rfl
  rw [encode, encode] at read ⊢
  rw [readGroups_last read, tailBytes_four rfl rfl, groupBytes_symbols]

/-! ### Whole texts -/

private theorem exists_encode_cons (first : UInt8) (rest : Bytes) :
    ∃ next more, encode (first :: rest) = next :: more := by
  match rest with
  | [] => exact ⟨_, _, rfl⟩
  | [_] => exact ⟨_, _, rfl⟩
  | _ :: _ :: _ => exact ⟨_, _, rfl⟩

private theorem readGroups_encode (start : Nat) (bytes : Bytes) :
    readGroups start (encode bytes) = .ok bytes := by
  induction bytes using encode.induct generalizing start with
  | case1 => rfl
  | case2 first => exact readGroups_one start first
  | case3 first second => exact readGroups_two start first second
  | case4 first second third rest ih =>
      cases rest with
      | nil => exact readGroups_three start first second third
      | cons fourth others =>
          have ofFirst := first.toNat_lt
          have ofSecond := second.toNat_lt
          have ofThird := third.toNat_lt
          obtain ⟨next, more, follows⟩ := exists_encode_cons fourth others
          have further := ih (start + 4)
          rw [follows] at further
          rw [encode, follows, readGroups, valueAt_symbol (by omega), valueAt_symbol (by omega),
            valueAt_symbol (by omega), valueAt_symbol (by omega), further]
          exact congrArg (fun front => Except.ok (front ++ fourth :: others))
            (groupBytes_symbols first second third)

private theorem encode_length (bytes : Bytes) : (encode bytes).length % 4 = 0 := by
  induction bytes using encode.induct with
  | case1 => rfl
  | case2 first => simp [encode]
  | case3 first second => simp [encode]
  | case4 first second third rest ih =>
      rw [encode]
      simp only [List.length_cons]
      omega

private theorem strayByte_encode (bytes : Bytes) : strayByte (encode bytes) = none := by
  have whole := encode_length bytes
  unfold strayByte
  split
  · rw [if_neg]
    simp [whole]
  · rfl

theorem decode_encode (bytes : Bytes) : decode (encode bytes) = .ok bytes := by
  rw [decode, strayByte_encode, readGroups_encode]

/-! ### Written bytes as a text -/

inductive IsWritten : UInt8 → Prop
  | symbol {value : Nat} (small : value < 64) : IsWritten (symbol value)
  | padding : IsWritten padding

private theorem isWritten_of_mem (member : byte ∈ encode bytes) : IsWritten byte := by
  induction bytes using encode.induct with
  | case1 => cases member
  | case2 first =>
      have bound := first.toNat_lt
      simp only [encode, List.mem_cons, List.not_mem_nil, or_false] at member
      rcases member with same | same | same | same
      · exact same ▸ .symbol (by omega)
      · exact same ▸ .symbol (by omega)
      · exact same ▸ .padding
      · exact same ▸ .padding
  | case3 first second =>
      have ofFirst := first.toNat_lt
      have ofSecond := second.toNat_lt
      simp only [encode, List.mem_cons, List.not_mem_nil, or_false] at member
      rcases member with same | same | same | same
      · exact same ▸ .symbol (by omega)
      · exact same ▸ .symbol (by omega)
      · exact same ▸ .symbol (by omega)
      · exact same ▸ .padding
  | case4 first second third rest ih =>
      have ofFirst := first.toNat_lt
      have ofSecond := second.toNat_lt
      have ofThird := third.toNat_lt
      simp only [encode, List.mem_cons] at member
      rcases member with same | same | same | same | further
      · exact same ▸ .symbol (by omega)
      · exact same ▸ .symbol (by omega)
      · exact same ▸ .symbol (by omega)
      · exact same ▸ .symbol (by omega)
      · exact ih further

def letter (byte : UInt8) : Char := Char.ofNat byte.toNat

/-- What is known of a written byte once its character is looked at. -/
structure Plain (byte : UInt8) : Prop where
  encoded : String.utf8EncodeChar (letter byte) = [byte]
  ne_comma : letter byte ≠ ','
  visible : Blank.isBlank (letter byte) = false

instance (byte : UInt8) : Decidable (Plain byte) :=
  decidable_of_iff
    (String.utf8EncodeChar (letter byte) = [byte] ∧ letter byte ≠ ',' ∧
      Blank.isBlank (letter byte) = false)
    ⟨fun ⟨encoded, ne_comma, visible⟩ => ⟨encoded, ne_comma, visible⟩,
      fun plain => ⟨plain.encoded, plain.ne_comma, plain.visible⟩⟩

private theorem IsWritten.plain (written : IsWritten byte) : Plain byte := by
  have all : ∀ value : Fin 64, Plain (Base64.symbol value.val) := by decide
  cases written with
  | symbol small => exact all ⟨_, small⟩
  | padding => decide

def text (bytes : Bytes) : String :=
  String.ofList ((encode bytes).map letter)

theorem utf8_text (bytes : Bytes) : Utf8.encode (text bytes) = encode bytes := by
  have each : ∀ written : Bytes, (∀ byte ∈ written, IsWritten byte) →
      (written.map letter).flatMap String.utf8EncodeChar = written := by
    intro written all
    induction written with
    | nil => rfl
    | cons byte others ih =>
        have first := (all byte List.mem_cons_self).plain
        have rest := ih fun other member => all other (List.mem_cons_of_mem _ member)
        rw [List.map_cons, List.flatMap_cons, first.encoded, rest]
        rfl
  rw [Utf8.encode, text, String.toUTF8_eq_toByteArray, String.toByteArray_ofList, List.utf8Encode,
    each _ fun byte => isWritten_of_mem]
  simp

theorem plain_of_mem_text {char : Char} (member : char ∈ (text bytes).toList) :
    char ≠ ',' ∧ Blank.isBlank char = false := by
  rw [text, String.toList_ofList, List.mem_map] at member
  obtain ⟨byte, written, same⟩ := member
  have plain := (isWritten_of_mem written).plain
  exact same ▸ ⟨plain.ne_comma, plain.visible⟩

/-- A text is read from its characters, white space behind them left out. -/
theorem decode_text (bytes : Bytes) :
    decode (Utf8.encode (String.ofList (text bytes).toList)) = .ok bytes := by
  rw [String.ofList_toList, utf8_text, decode_encode]

theorem trimEnd_text (bytes : Bytes) : Blank.trimEnd (text bytes).toList = (text bytes).toList := by
  cases written : (text bytes).toList.reverse with
  | nil =>
      rw [List.reverse_eq_nil_iff.mp written]
      rfl
  | cons last before =>
      have whole := congrArg List.reverse written
      rw [List.reverse_reverse, List.reverse_cons] at whole
      have visible : Blank.isBlank last = false :=
        (plain_of_mem_text (whole ▸ List.mem_append_right _ List.mem_cons_self)).2
      rw [whole]
      exact Blank.trimEnd_append_visible _ visible

end PgClient.Base64

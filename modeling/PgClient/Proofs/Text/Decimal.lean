/-
A number that is written in decimal is read back.

Reading goes away from zero, so a number that fits never leaves its bounds on the way.
-/

import PgClient.Text.Integer

namespace PgClient.Integer

private theorem le_ofDigitChars (digits : List Char) (sofar : Nat) :
    sofar ≤ Nat.ofDigitChars 10 digits sofar := by
  induction digits generalizing sofar with
  | nil => exact Nat.le_of_eq Nat.ofDigitChars_nil.symm
  | cons digit digits ih =>
      rw [Nat.ofDigitChars_cons]
      have step := ih (10 * sofar + (digit.toNat - '0'.toNat))
      omega

/-- One more digit, on the side of the sign. -/
theorem next_eq (sign : Int) (sofar digit : Nat) :
    sign * sofar * 10 + sign * digit = sign * ((10 * sofar + digit : Nat) : Int) := by
  rw [Int.mul_assoc, ← Int.mul_add]
  congr 1
  omega

private theorem appendDigits_of_isDigit {bounds : Bounds} {sign : Int} {digits : List Char}
    {sofar : Nat} (isDigit : ∀ digit ∈ digits, digit.isDigit = true) (isSign : sign = 1 ∨ sign = -1)
    (zero : bounds.least ≤ 0 ∧ 0 ≤ bounds.greatest)
    (least : bounds.least ≤ sign * Nat.ofDigitChars 10 digits sofar)
    (greatest : sign * Nat.ofDigitChars 10 digits sofar ≤ bounds.greatest) :
    appendDigits bounds sign (sign * sofar) digits =
      .ok (sign * Nat.ofDigitChars 10 digits sofar) := by
  -- More digits only take the number further from zero, so the bounds of the whole number
  -- hold for every part of it.
  induction digits generalizing sofar with
  | nil => rw [appendDigits, Nat.ofDigitChars_nil]
  | cons digit digits ih =>
      have first := isDigit digit List.mem_cons_self
      have others : ∀ other ∈ digits, other.isDigit = true := by
        intro other member
        exact isDigit other (List.mem_cons_of_mem _ member)
      rw [Nat.ofDigitChars_cons] at least greatest ⊢
      have bound := le_ofDigitChars digits (10 * sofar + (digit.toNat - '0'.toNat))
      rw [appendDigits, digitValue, if_pos first]
      dsimp only
      rw [next_eq]
      have notTooLarge : ¬bounds.greatest <
          sign * ((10 * sofar + (digit.toNat - '0'.toNat) : Nat) : Int) := by
        rcases isSign with plus | minus
        · rw [plus] at greatest ⊢
          omega
        · rw [minus]
          omega
      have notTooSmall : ¬sign * ((10 * sofar + (digit.toNat - '0'.toNat) : Nat) : Int) <
          bounds.least := by
        rcases isSign with plus | minus
        · rw [plus]
          omega
        · rw [minus] at least ⊢
          omega
      rw [if_neg notTooLarge, if_neg notTooSmall]
      exact ih others least greatest

private theorem appendDigits_toDigits {bounds : Bounds} {sign : Int} {number : Nat}
    (isSign : sign = 1 ∨ sign = -1) (zero : bounds.least ≤ 0 ∧ 0 ≤ bounds.greatest)
    (least : bounds.least ≤ sign * number) (greatest : sign * number ≤ bounds.greatest) :
    appendDigits bounds sign 0 (Nat.toDigits 10 number) = .ok (sign * number) := by
  have same : Nat.ofDigitChars 10 (Nat.toDigits 10 number) 0 = number :=
    Nat.ofDigitChars_ten_toDigits
  have isDigit : ∀ digit ∈ Nat.toDigits 10 number, digit.isDigit = true := by
    intro digit member
    exact Nat.isDigit_of_mem_toDigits (by decide) (by decide) member
  rw [← same] at least greatest
  have read := appendDigits_of_isDigit isDigit isSign zero least greatest
  rw [same, Int.natCast_zero, Int.mul_zero] at read
  exact read

private theorem read_of_isDigit {bounds : Bounds} {digit : Char} {digits : List Char}
    (isDigit : digit.isDigit = true) :
    read bounds (digit :: digits) = appendDigits bounds 1 0 (digit :: digits) := by
  have notPlus : digit ≠ '+' := by
    rintro rfl
    exact absurd isDigit (by decide)
  have notMinus : digit ≠ '-' := by
    rintro rfl
    exact absurd isDigit (by decide)
  unfold read
  split
  · contradiction
  · rename_i plus
    injection plus with same
    exact absurd same notPlus
  · rename_i minus
    injection minus with same
    exact absurd same notMinus
  · rename_i plus
    injection plus with same
    exact absurd same notPlus
  · rename_i minus
    injection minus with same
    exact absurd same notMinus
  · rfl

/-- A number without a sign in front is read as one that is not negative. -/
theorem read_toDigits {bounds : Bounds} {number : Nat}
    (zero : bounds.least ≤ 0) (greatest : number ≤ bounds.greatest) :
    read bounds (Nat.toDigits 10 number) = .ok number := by
  have isDigit : ∀ digit ∈ Nat.toDigits 10 number, digit.isDigit = true := by
    intro digit member
    exact Nat.isDigit_of_mem_toDigits (by decide) (by decide) member
  have notEmpty : Nat.toDigits 10 number ≠ [] := Nat.toDigits_ne_nil
  have digits : appendDigits bounds 1 0 (Nat.toDigits 10 number) = .ok (1 * number) :=
    appendDigits_toDigits (.inl rfl) ⟨zero, by omega⟩ (by omega) (by omega)
  rw [Int.one_mul] at digits
  cases written : Nat.toDigits 10 number with
  | nil => exact absurd written notEmpty
  | cons digit others =>
      rw [written] at isDigit digits
      rw [read_of_isDigit (isDigit digit List.mem_cons_self), digits]

/-- A number that fits is read back, with the sign that is written in front of it. -/
theorem read_toString {bounds : Bounds} {number : Int}
    (zero : bounds.least ≤ 0 ∧ 0 ≤ bounds.greatest) (least : bounds.least ≤ number)
    (greatest : number ≤ bounds.greatest) :
    read bounds (toString number).toList = .ok number := by
  cases number with
  | ofNat number =>
      have written : (toString (Int.ofNat number)).toList = Nat.toDigits 10 number :=
        Nat.toList_repr
      rw [written]
      exact read_toDigits zero.1 greatest
  | negSucc before =>
      have written : (toString (Int.negSucc before)).toList =
          '-' :: Nat.toDigits 10 (before + 1) := by
        rw [← Nat.toList_repr]
        exact String.toList_append
      have value : Int.negSucc before = -1 * ((before + 1 : Nat) : Int) := by omega
      have negative : bounds.least < 0 := by omega
      have digits : appendDigits bounds (-1) 0 (Nat.toDigits 10 (before + 1)) =
          .ok (Int.negSucc before) := by
        rw [value] at least greatest ⊢
        exact appendDigits_toDigits (.inr rfl) zero least greatest
      rw [written]
      -- A minus sign alone would be no number, so the digits have to be looked at first.
      cases spelled : Nat.toDigits 10 (before + 1) with
      | nil => exact absurd spelled Nat.toDigits_ne_nil
      | cons digit others =>
          rw [spelled] at digits
          rw [read, if_pos negative, digits]
          exact nofun

theorem readNat_repr {bits number : Nat} (fits : number < Nat.pow 2 bits) :
    readNat bits number.repr.toList = .ok number := by
  have greatest : (number : Int) ≤ (Bounds.unsigned bits).greatest := by
    have bound : (number : Int) < (Nat.pow 2 bits : Nat) := Int.ofNat_lt.mpr fits
    exact Int.le_sub_one_of_lt bound
  rw [readNat, Nat.toList_repr, read_toDigits (Int.le_refl 0) greatest]
  rfl

/-! ### What is read at all -/

/-- The characters are a number in decimal: digits, with a plus sign in front of them or without
one. -/
def Numeral (text : List Char) (number : Nat) : Prop :=
  ∃ digits, (text = digits ∨ text = '+' :: digits) ∧ digits ≠ [] ∧
    (∀ digit ∈ digits, digit.isDigit = true) ∧ Nat.ofDigitChars 10 digits 0 = number

private theorem appendDigits_eq_ok {bounds : Bounds} {sign value : Int} {digits : List Char}
    {sofar : Nat} (least : bounds.least ≤ sign * sofar) (greatest : sign * sofar ≤ bounds.greatest)
    (appended : appendDigits bounds sign (sign * sofar) digits = .ok value) :
    (∀ digit ∈ digits, digit.isDigit = true) ∧ value = sign * Nat.ofDigitChars 10 digits sofar ∧
      bounds.least ≤ value ∧ value ≤ bounds.greatest := by
  induction digits generalizing sofar with
  | nil =>
      cases appended
      rw [Nat.ofDigitChars_nil]
      exact ⟨nofun, rfl, least, greatest⟩
  | cons digit digits ih =>
      by_cases isDigit : digit.isDigit = true
      · rw [appendDigits, digitValue, if_pos isDigit] at appended
        dsimp only at appended
        rw [next_eq] at appended
        split at appended
        · cases appended
        · rename_i notTooLarge
          split at appended
          · cases appended
          · rename_i notTooSmall
            obtain ⟨others, same, within⟩ :=
              ih (Int.not_lt.mp notTooSmall) (Int.not_lt.mp notTooLarge) appended
            rw [Nat.ofDigitChars_cons]
            exact ⟨List.forall_mem_cons.mpr ⟨isDigit, others⟩, same, within⟩
      · rw [appendDigits, digitValue, if_neg isDigit] at appended
        cases appended

private theorem appendDigits_unsigned_iff {bits : Nat} {value : Int} {digits : List Char} :
    appendDigits (.unsigned bits) 1 0 digits = .ok value ↔
      (∀ digit ∈ digits, digit.isDigit = true) ∧ value = Nat.ofDigitChars 10 digits 0 ∧
        Nat.ofDigitChars 10 digits 0 < Nat.pow 2 bits := by
  have positive : 0 < Nat.pow 2 bits := Nat.two_pow_pos bits
  have least : (Bounds.unsigned bits).least = 0 := rfl
  have greatest : (Bounds.unsigned bits).greatest = (Nat.pow 2 bits : Nat) - 1 := rfl
  have start : (1 : Int) * (0 : Nat) = 0 := rfl
  rw [← start]
  constructor
  · intro appended
    obtain ⟨isDigit, same, _, within⟩ := appendDigits_eq_ok (by omega) (by omega) appended
    refine ⟨isDigit, ?_, ?_⟩
    · omega
    · omega
  · rintro ⟨isDigit, same, fits⟩
    rw [same, appendDigits_of_isDigit isDigit (.inl rfl) (by omega) (by omega) (by omega),
      Int.one_mul]

/-- Where no number is negative, only a plus sign can stand in front of the digits. -/
theorem read_unsigned_iff {bits : Nat} {value : Int} {text : List Char} :
    read (.unsigned bits) text = .ok value ↔
      ∃ digits, (text = digits ∨ text = '+' :: digits) ∧ digits ≠ [] ∧
        appendDigits (.unsigned bits) 1 0 digits = .ok value := by
  constructor
  · intro read
    unfold Integer.read at read
    split at read
    · cases read
    · cases read
    · cases read
    · rename_i digits notAlone
      exact ⟨digits, .inr rfl, notAlone, read⟩
    · split at read
      · rename_i negative
        exact absurd negative (Int.lt_irrefl 0)
      · cases read
    · rename_i notEmpty _ _ _ _
      exact ⟨text, .inl rfl, notEmpty, read⟩
  · rintro ⟨digits, written, notEmpty, appended⟩
    cases digits with
    | nil => exact absurd rfl notEmpty
    | cons digit digits =>
        rcases written with plain | plus
        · have isDigit := (appendDigits_unsigned_iff.mp appended).1 digit List.mem_cons_self
          rw [plain, read_of_isDigit isDigit]
          exact appended
        · rw [plus]
          exact appended

/-- A number that is not negative is read exactly where it stands and fits. -/
theorem readNat_eq_ok_iff {bits number : Nat} {text : List Char} :
    readNat bits text = .ok number ↔ Numeral text number ∧ number < Nat.pow 2 bits := by
  rw [readNat]
  constructor
  · intro mapped
    cases isRead : read (.unsigned bits) text with
    | error fault =>
        rw [isRead] at mapped
        cases mapped
    | ok value =>
        rw [isRead] at mapped
        injection mapped with same
        obtain ⟨digits, written, notEmpty, appended⟩ := read_unsigned_iff.mp isRead
        obtain ⟨isDigit, isValue, fits⟩ := appendDigits_unsigned_iff.mp appended
        have isNumber : Nat.ofDigitChars 10 digits 0 = number := by omega
        rw [isNumber] at fits
        exact ⟨⟨digits, written, notEmpty, isDigit, isNumber⟩, fits⟩
  · rintro ⟨⟨digits, written, notEmpty, isDigit, isNumber⟩, fits⟩
    rw [← isNumber] at fits
    have appended := appendDigits_unsigned_iff.mpr ⟨isDigit, rfl, fits⟩
    rw [read_unsigned_iff.mpr ⟨digits, written, notEmpty, appended⟩, isNumber]
    rfl

/-! ### Numbers with their spelling -/

theorem Numeral.not_mem {text : List Char} {number : Nat} {mark : Char}
    (numeral : Numeral text number) (notDigit : mark.isDigit = false) (notPlus : mark ≠ '+') :
    mark ∉ text := by
  obtain ⟨digits, written, _, isDigit, _⟩ := numeral
  have notInDigits : mark ∉ digits := by
    intro member
    rw [isDigit mark member] at notDigit
    cases notDigit
  rcases written with plain | plus
  · rw [plain]
    exact notInDigits
  · rw [plus, List.mem_cons, not_or]
    exact ⟨notPlus, notInDigits⟩

/-- A number that so many bits can hold, in one of its spellings: with zeros in front or without,
and with a plus sign or without. -/
structure Decimal (bits : Nat) where
  text : String
  number : Nat
  isNumeral : Numeral text.toList number
  fits : number < Nat.pow 2 bits

namespace Decimal

variable {bits : Nat}

def ofNat (number : Nat) (fits : number < Nat.pow 2 bits) : Decimal bits where
  text := number.repr
  number := number
  isNumeral := (readNat_eq_ok_iff.mp (readNat_repr fits)).1
  fits := fits

theorem readNat_text (decimal : Decimal bits) :
    readNat bits decimal.text.toList = .ok decimal.number :=
  readNat_eq_ok_iff.mpr ⟨decimal.isNumeral, decimal.fits⟩

theorem exists_of_readNat {text : List Char} {number : Nat}
    (read : readNat bits text = .ok number) :
    ∃ decimal : Decimal bits, decimal.text.toList = text ∧ decimal.number = number := by
  obtain ⟨isNumeral, fits⟩ := readNat_eq_ok_iff.mp read
  refine ⟨⟨String.ofList text, number, ?_, fits⟩, String.toList_ofList, rfl⟩
  rw [String.toList_ofList]
  exact isNumeral

end Decimal

end PgClient.Integer

/-
A report says what its fields say, whatever the order that they come in.

The fields stand one after the other from the front of the body: each a code that is not
zero and a text that a zero byte ends. They end with the body, or where a zero byte stands
in the place of a code. Of the fields under one code the last is kept; those under a code
that stands for no part are read as well, and not kept.
-/

import PgClient.Proofs.Wire.Report

namespace PgClient.Diagnostic

/-! ### Fields -/

inductive Holds : Bytes → List (UInt8 × String) → Prop
  | ended : Holds [] []
  | stopped (behind : Bytes) : Holds (0 :: behind) []
  | field {code : UInt8} {text : String} {left : Bytes} {others : List (UInt8 × String)}
      (isCode : code ≠ 0) (zeroFree : ZeroFree text) (further : Holds left others) :
      Holds (code :: (Bytes.endedByZero (Utf8.encode text) ++ left)) ((code, text) :: others)

variable {body : Bytes} {fields others : List (UInt8 × String)}

private theorem holds_of_fields (read : Diagnostic.fields body = .ok fields) :
    Holds body fields := by
  fun_induction Diagnostic.fields body generalizing fields with
  | case1 =>
      cases read
      exact .ended
  | case2 behind =>
      cases read
      exact .stopped behind
  | case3 => cases read
  | case4 => cases read
  | case5 code rest isCode text left found _ others further ih =>
      cases read
      obtain ⟨zeroFree, whole⟩ := Reader.text_eq_ok found
      rw [whole]
      exact .field isCode zeroFree (ih further)

private theorem Holds.fields_eq (holds : Holds body fields) :
    Diagnostic.fields body = .ok fields := by
  induction holds with
  | ended => rw [Diagnostic.fields]
  | stopped behind => rw [fields_cons, if_pos rfl]
  | field isCode zeroFree further ih =>
      rw [fields_cons, if_neg isCode, Except.bind_of_ok (Reader.text_append _ zeroFree _),
        Except.bind_of_ok ih]

/-- What stands behind the fields is of no account, once a zero byte ends them. -/
theorem Holds.behind (holds : Holds body fields) (behind : Bytes) :
    Holds (body ++ 0 :: behind) fields := by
  induction holds with
  | ended => exact .stopped behind
  | stopped rest => exact .stopped (rest ++ 0 :: behind)
  | field isCode zeroFree further ih =>
      rw [List.cons_append, List.append_assoc]
      exact .field isCode zeroFree ih

private theorem Holds.parse_eq (holds : Holds body fields) :
    parse body = .ok (overlay fields {}) := by
  rw [parse, holds.fields_eq, ← ofFields_eq]

/-! ### The last field of a code -/

private theorem ofNat_toNat_inj {code other : UInt8} :
    Char.ofNat code.toNat = Char.ofNat other.toNat ↔ code = other := by
  have number : ∀ byte : UInt8, (Char.ofNat byte.toNat).toNat = byte.toNat := by
    intro byte
    have small := byte.toNat_lt
    have valid : byte.toNat.isValidChar := .inl (by omega)
    rw [Char.ofNat, dif_pos valid]
    rfl
  constructor
  · intro same
    apply UInt8.toNat_inj.mp
    rw [← number code, same, number other]
  · intro same
    rw [same]

variable {code : UInt8} {letter : Char} {text : String} {field : UInt8 × String}

private theorem last_cons_of_ne (differs : Char.ofNat field.1.toNat ≠ letter) :
    last letter (field :: fields) = last letter fields := by
  rw [last_cons, if_neg differs, Option.or_none]

private theorem last_eq_none_iff :
    last (Char.ofNat code.toNat) fields = none ↔ ∀ field ∈ fields, field.1 ≠ code := by
  induction fields with
  | nil => exact ⟨nofun, fun _ => rfl⟩
  | cons field fields ih =>
      rw [List.forall_mem_cons]
      by_cases same : field.1 = code
      · rw [last_cons, same, if_pos rfl]
        constructor
        · intro none
          rw [Option.or_eq_none_iff] at none
          exact nomatch none.2
        · intro differ
          exact absurd rfl differ.1
      · rw [last_cons_of_ne fun equal => same (ofNat_toNat_inj.mp equal), ih]
        constructor
        · intro differ
          exact ⟨same, differ⟩
        · intro differ
          exact differ.2

/-- The text stands under the code, and the code does not occur behind it. -/
theorem last_eq_some_iff :
    last (Char.ofNat code.toNat) fields = some text ↔
      ∃ front behind, fields = front ++ (code, text) :: behind ∧
        ∀ field ∈ behind, field.1 ≠ code := by
  constructor
  · intro found
    induction fields with
    | nil => cases found
    | cons field fields ih =>
        rw [last_cons] at found
        cases later : last (Char.ofNat code.toNat) fields with
        | some other =>
            rw [later] at found
            cases found
            obtain ⟨front, behind, whole, differ⟩ := ih later
            exact ⟨field :: front, behind, congrArg (field :: ·) whole, differ⟩
        | none =>
            rw [later, Option.none_or] at found
            split at found
            · rename_i same
              cases found
              refine ⟨[], fields, ?_, last_eq_none_iff.mp later⟩
              rw [← ofNat_toNat_inj.mp same]
              rfl
            · cases found
  · rintro ⟨front, behind, rfl, differ⟩
    rw [last_append, last_cons, last_eq_none_iff.mpr differ, if_pos rfl]
    rfl

/-- In whatever order distinct codes come, each has the same text. -/
theorem last_perm (same : fields.Perm others) (distinct : (fields.map Prod.fst).Nodup) :
    last letter fields = last letter others := by
  induction same with
  | nil => rfl
  | cons field same ih =>
      rw [List.map_cons, List.nodup_cons] at distinct
      rw [last_cons, last_cons, ih distinct.2]
  | swap one two fields =>
      have differ : two.1 ≠ one.1 := by
        intro equal
        rw [List.map_cons, List.map_cons, equal, List.nodup_cons] at distinct
        exact distinct.1 List.mem_cons_self
      by_cases isTwo : Char.ofNat two.1.toNat = letter
      · have notOne : Char.ofNat one.1.toNat ≠ letter := by
          intro isOne
          exact differ (ofNat_toNat_inj.mp (isTwo.trans isOne.symm))
        rw [last_cons, last_cons_of_ne notOne, last_cons_of_ne notOne, last_cons]
      · rw [last_cons_of_ne isTwo, last_cons, last_cons, last_cons_of_ne isTwo]
  | trans first second ihFirst ihSecond =>
      rw [ihFirst distinct, ihSecond ((first.map Prod.fst).nodup_iff.mp distinct)]

/-! ### Codes that stand for a part -/

def letters : List Char :=
  ['S', 'V', 'C', 'M', 'D', 'H', 'P', 'p', 'q', 'W', 's', 't', 'c', 'd', 'n', 'F', 'L', 'R']

def isKept (field : UInt8 × String) : Bool :=
  letters.contains (Char.ofNat field.1.toNat)

private theorem last_filter_isKept (kept : letter ∈ letters) :
    last letter (fields.filter isKept) = last letter fields := by
  induction fields with
  | nil => rfl
  | cons field fields ih =>
      by_cases isField : isKept field = true
      · rw [List.filter_cons_of_pos isField, last_cons, last_cons, ih]
      · rw [List.filter_cons_of_neg isField, ih, last_cons_of_ne]
        rintro rfl
        exact isField (List.contains_iff_mem.mpr kept)

private theorem overlay_congr (same : ∀ letter ∈ letters, last letter fields = last letter others)
    (report : Diagnostic) : overlay fields report = overlay others report := by
  simp (disch := decide) only [overlay, lastPlace, same]

/-! ### Places -/

/-- A place is the number that the text writes, and absent where that does not fit or the text
writes none. -/
theorem place_eq_some_iff {number : UInt32} :
    place text = some number ↔ Integer.Numeral text.toList number.toNat := by
  rw [place]
  constructor
  · intro placed
    split at placed
    · rename_i read
      injection placed with same
      obtain ⟨numeral, fits⟩ := Integer.readNat_eq_ok_iff.mp read
      rw [← same, UInt32.toNat_ofNat', Nat.mod_eq_of_lt fits]
      exact numeral
    · cases placed
  · intro numeral
    rw [Integer.readNat_eq_ok_iff.mpr ⟨numeral, number.toNat_lt⟩]
    exact congrArg some UInt32.ofNat_toNat

/-! ### The whole report -/

/-- A report that is read from the body says what its fields say. -/
structure Verbatim (body : Bytes) : Prop where
  /-- It is read exactly where the body holds fields, whatever their codes. -/
  accepts : (∃ report, parse body = .ok report) ↔ ∃ fields, Holds body fields
  tells : ∀ fields, Holds body fields → parse body = .ok (overlay fields {})
  /-- What counts under a code is the last field of it, -/
  given : ∀ fields code text, last (Char.ofNat code.toNat) fields = some text ↔
    ∃ front behind, fields = front ++ (code, text) :: behind ∧ ∀ field ∈ behind, field.1 ≠ code
  /-- and nothing, where there is none. -/
  absent : ∀ fields code, last (Char.ofNat code.toNat) fields = none ↔
    ∀ field ∈ fields, field.1 ≠ code
  places : ∀ (text : String) (number : UInt32),
    place text = some number ↔ Integer.Numeral text.toList number.toNat
  /-- No account is taken of what stands behind the zero byte, -/
  behind : ∀ fields behind, Holds body fields → parse (body ++ 0 :: behind) = parse body
  /-- nor of fields under a code that stands for no part. -/
  ignores : ∀ fields other others, Holds body fields → Holds other others →
    fields.filter isKept = others.filter isKept → parse other = parse body
  permuted : ∀ fields other others, Holds body fields → Holds other others →
    (fields.map Prod.fst).Nodup → fields.Perm others → parse other = parse body

/-- Whatever the body is, its fields are kept verbatim, or it is refused. -/
theorem parse_verbatim (body : Bytes) : Verbatim body where
  accepts := by
    constructor
    · rintro ⟨report, parsed⟩
      unfold parse at parsed
      split at parsed
      · cases parsed
      · rename_i fields read
        exact ⟨fields, holds_of_fields read⟩
    · rintro ⟨fields, holds⟩
      exact ⟨overlay fields {}, holds.parse_eq⟩
  tells fields holds := holds.parse_eq
  given fields code text := last_eq_some_iff
  absent fields code := last_eq_none_iff
  places text number := place_eq_some_iff
  behind fields behind holds := by
    rw [(holds.behind behind).parse_eq, holds.parse_eq]
  ignores fields other others holds otherHolds same := by
    rw [otherHolds.parse_eq, holds.parse_eq]
    apply congrArg Except.ok
    apply overlay_congr
    intro letter kept
    rw [← last_filter_isKept kept, ← same, last_filter_isKept kept]
  permuted fields other others holds otherHolds distinct same := by
    rw [otherHolds.parse_eq, holds.parse_eq]
    apply congrArg Except.ok
    apply overlay_congr
    intro letter _
    exact (last_perm same distinct).symm

/-- The severity is given twice, the line does not fit, and `X` stands for no part. -/
example :
    let fields : List (UInt8 × String) :=
      [(83, "LOG"), (88, "?"), (76, "4294967296"), (83, "WARNING"), (80, "+7")]
    (parse (fieldsBytes fields ++ [83])).toOption =
      some { severity := "WARNING", position := some 7 } := by
  decide +kernel

end PgClient.Diagnostic

/-
Reports of errors and notices are read from the layout that they are written in.

A report is what its fields say, whatever their order: under each code the last text
counts. A report that is written with one field for every part that is there is read
back as it was.
-/

import PgClient.Diagnostic
import PgClient.Proofs.Text.Decimal
import PgClient.Proofs.Wire.Layout

namespace PgClient.Diagnostic

/-! ### What the fields say -/

def last (code : Char) : List (UInt8 × String) → Option String
  | [] => none
  | field :: fields =>
      (last code fields).or (if Char.ofNat field.1.toNat = code then some field.2 else none)

theorem last_append (code : Char) (fields others : List (UInt8 × String)) :
    last code (fields ++ others) = (last code others).or (last code fields) := by
  induction fields with
  | nil => rw [List.nil_append, last, Option.or_none]
  | cons field fields ih => rw [List.cons_append, last, last, ih, Option.or_assoc]

/-- A place that was given last under a code, or the one that was known before. -/
def lastPlace (code : Char) (fields : List (UInt8 × String)) (known : Option UInt32) :
    Option UInt32 :=
  match last code fields with
  | some text => place text
  | none => known

def overlay (fields : List (UInt8 × String)) (report : Diagnostic) : Diagnostic where
  severity := (last 'S' fields).getD report.severity
  severityNonlocalized := (last 'V' fields).or report.severityNonlocalized
  code := (last 'C' fields).getD report.code
  message := (last 'M' fields).getD report.message
  detail := (last 'D' fields).or report.detail
  hint := (last 'H' fields).or report.hint
  position := lastPlace 'P' fields report.position
  internalPosition := lastPlace 'p' fields report.internalPosition
  internalQuery := (last 'q' fields).or report.internalQuery
  context := (last 'W' fields).or report.context
  schema := (last 's' fields).or report.schema
  table := (last 't' fields).or report.table
  column := (last 'c' fields).or report.column
  datatype := (last 'd' fields).or report.datatype
  constraint := (last 'n' fields).or report.constraint
  file := (last 'F' fields).or report.file
  line := lastPlace 'L' fields report.line
  routine := (last 'R' fields).or report.routine

/-- One field changes the part that its code stands for, and no other. -/
theorem set_eq (report : Diagnostic) (code : UInt8) (text : String) :
    report.set code text =
      let letter := Char.ofNat code.toNat
      { severity := if letter = 'S' then text else report.severity
        severityNonlocalized := if letter = 'V' then some text else report.severityNonlocalized
        code := if letter = 'C' then text else report.code
        message := if letter = 'M' then text else report.message
        detail := if letter = 'D' then some text else report.detail
        hint := if letter = 'H' then some text else report.hint
        position := if letter = 'P' then place text else report.position
        internalPosition := if letter = 'p' then place text else report.internalPosition
        internalQuery := if letter = 'q' then some text else report.internalQuery
        context := if letter = 'W' then some text else report.context
        schema := if letter = 's' then some text else report.schema
        table := if letter = 't' then some text else report.table
        column := if letter = 'c' then some text else report.column
        datatype := if letter = 'd' then some text else report.datatype
        constraint := if letter = 'n' then some text else report.constraint
        file := if letter = 'F' then some text else report.file
        line := if letter = 'L' then place text else report.line
        routine := if letter = 'R' then some text else report.routine } := by
  unfold set
  generalize Char.ofNat code.toNat = letter
  dsimp only
  split
  case h_19 => simp_all
  all_goals rfl

/-! ### Later fields count -/

variable (letter : Char) (field : UInt8 × String) (fields : List (UInt8 × String))

theorem last_cons :
    last letter (field :: fields) = (last letter fields).or
      (if Char.ofNat field.1.toNat = letter then some field.2 else none) :=
  rfl

/-- A part that takes the text found under a letter, or stays as it was known, may as well take the
first field before it looks at the others. -/
theorem part_cons {α : Type} (part : Option String → α → α) (taken : String → α)
    (found : ∀ text known, part (some text) known = taken text)
    (missing : ∀ known, part none known = known) (known : α) :
    part (last letter (field :: fields)) known =
      part (last letter fields)
        (if Char.ofNat field.1.toNat = letter then taken field.2 else known) := by
  rw [last_cons]
  cases last letter fields with
  | some text => rw [Option.some_or, found, found]
  | none =>
      rw [Option.none_or, missing]
      split
      · exact found _ _
      · exact missing _

private theorem lastPlace_eq (known : Option UInt32) :
    lastPlace letter fields known = (last letter fields).elim known place := by
  unfold lastPlace
  cases last letter fields with
  | some text => rfl
  | none => rfl

private theorem overlay_cons (report : Diagnostic) :
    overlay (field :: fields) report = overlay fields (report.set field.1 field.2) := by
  have text (letter : Char) :=
    part_cons letter field fields Option.getD id (fun _ _ => rfl) fun _ => rfl
  have optional (letter : Char) :=
    part_cons letter field fields Option.or some (fun _ _ => rfl) fun _ => rfl
  have number (letter : Char) := part_cons letter field fields
    (fun found known => found.elim known place) place (fun _ _ => rfl) fun _ => rfl
  rw [set_eq]
  simp only [overlay, lastPlace_eq, text, optional, number, id]

theorem ofFields_eq : ofFields fields = overlay fields {} := by
  -- The fold goes on from any report, not only from an empty one.
  have general : ∀ report : Diagnostic,
      fields.foldl (fun report field => report.set field.1 field.2) report =
        overlay fields report := by
    induction fields with
    | nil =>
        intro report
        rfl
    | cons field fields ih =>
        intro report
        rw [List.foldl_cons, ih, overlay_cons]
  exact general {}

/-! ### Writing a report -/

def optional (part : Char × Option String) : List (UInt8 × String) :=
  match part.2 with
  | none => []
  | some text => [(part.1.toUInt8, text)]

def number (place : Option UInt32) : Option String :=
  place.map fun place => place.toNat.repr

def parts (report : Diagnostic) : List (Char × Option String) :=
  [('S', some report.severity), ('V', report.severityNonlocalized), ('C', some report.code),
    ('M', some report.message), ('D', report.detail), ('H', report.hint),
    ('P', number report.position), ('p', number report.internalPosition),
    ('q', report.internalQuery), ('W', report.context), ('s', report.schema),
    ('t', report.table), ('c', report.column), ('d', report.datatype),
    ('n', report.constraint), ('F', report.file), ('L', number report.line),
    ('R', report.routine)]

def toFields (report : Diagnostic) : List (UInt8 × String) :=
  report.parts.flatMap optional

def fieldsBytes (fields : List (UInt8 × String)) : Bytes :=
  fields.flatMap (fun field => field.1 :: Bytes.endedByZero (Utf8.encode field.2)) ++ [0]

def bytes (report : Diagnostic) : Bytes :=
  fieldsBytes report.toFields

def Writable (report : Diagnostic) : Prop :=
  ∀ field ∈ report.toFields, ZeroFree field.2

/-! ### Reading it back -/

def IsCode (letter : Char) : Prop :=
  Char.ofNat letter.toUInt8.toNat = letter ∧ letter.toUInt8 ≠ 0

private theorem isCode_of_ascii {letter : Char} (ascii : letter.toNat < 256)
    (visible : letter.toNat ≠ 0) :
    IsCode letter := by
  have byte : letter.toUInt8.toNat = letter.toNat := by
    change letter.toNat.toUInt8.toNat = letter.toNat
    rw [Nat.toUInt8, UInt8.toNat_ofNat']
    omega
  constructor
  · rw [byte]
    exact Char.ofNat_toNat letter
  · intro zero
    rw [zero] at byte
    exact visible byte.symm

private theorem last_optional {letter other : Char} (isCode : IsCode other) (part : Option String) :
    last letter (optional (other, part)) = if other = letter then part else none := by
  cases part with
  | none =>
      split
      · rfl
      · rfl
  | some text => rw [optional, last, last, isCode.1, Option.none_or]

/-- The parts are found under their letters if each letter stands for one part. -/
theorem last_flatMap_optional {letter : Char} {parts : List (Char × Option String)}
    (isCode : ∀ part ∈ parts, IsCode part.1) (distinct : (parts.map Prod.fst).Nodup) :
    last letter (parts.flatMap optional) = (parts.lookup letter).join := by
  induction parts with
  | nil => rfl
  | cons part parts ih =>
      obtain ⟨other, text⟩ := part
      have first : IsCode other := isCode (other, text) List.mem_cons_self
      rw [List.map_cons, List.nodup_cons] at distinct
      have others := ih (fun part member => isCode part (List.mem_cons_of_mem _ member)) distinct.2
      rw [List.flatMap_cons, last_append, others, last_optional first, List.lookup_cons]
      by_cases same : other = letter
      · subst same
        have absent : parts.lookup other = none := by
          rw [List.lookup_eq_none_iff]
          intro part member
          apply bne_iff_ne.mpr
          intro equal
          have again : part.1 ∈ parts.map Prod.fst := List.mem_map_of_mem member
          rw [← equal] at again
          exact distinct.1 again
        rw [absent, if_pos rfl, BEq.refl]
        rfl
      · have differs : (letter == other) = false := beq_false_of_ne fun equal => same equal.symm
        rw [if_neg same, differs, Option.or_none]

private theorem letters_parts (report : Diagnostic) :
    report.parts.map Prod.fst = ['S', 'V', 'C', 'M', 'D', 'H', 'P', 'p', 'q', 'W', 's', 't', 'c',
      'd', 'n', 'F', 'L', 'R'] :=
  rfl

private theorem isCode_of_mem_parts {report : Diagnostic} {part : Char × Option String}
    (member : part ∈ report.parts) : IsCode part.1 := by
  have all : (report.parts.map Prod.fst).all
      (fun letter => letter.toNat < 256 && letter.toNat != 0) = true := rfl
  have one := List.all_eq_true.mp all part.1 (List.mem_map_of_mem member)
  rw [Bool.and_eq_true, decide_eq_true_iff, bne_iff_ne] at one
  exact isCode_of_ascii one.1 one.2

private theorem last_toFields (letter : Char) (report : Diagnostic) :
    last letter report.toFields = (report.parts.lookup letter).join := by
  apply last_flatMap_optional
  · intro part member
    exact isCode_of_mem_parts member
  · rw [letters_parts]
    decide

private theorem place_repr (number : UInt32) : place number.toNat.repr = some number := by
  rw [place, Integer.readNat_repr number.toNat_lt]
  exact congrArg some (UInt32.ofNat_toNat)

private theorem lastPlace_number {letter : Char} {fields : List (UInt8 × String)}
    {place : Option UInt32} (found : last letter fields = number place) :
    lastPlace letter fields none = place := by
  rw [lastPlace, found]
  cases place with
  | none => rfl
  | some place => exact place_repr place

private theorem ofFields_toFields (report : Diagnostic) : ofFields report.toFields = report := by
  have position : lastPlace 'P' report.toFields none = report.position :=
    lastPlace_number (last_toFields 'P' report)
  have internalPosition : lastPlace 'p' report.toFields none = report.internalPosition :=
    lastPlace_number (last_toFields 'p' report)
  have line : lastPlace 'L' report.toFields none = report.line :=
    lastPlace_number (last_toFields 'L' report)
  rw [ofFields_eq, overlay, position, internalPosition, line]
  simp only [last_toFields, Option.or_none]
  rfl

private theorem code_of_mem_toFields {report : Diagnostic} {field : UInt8 × String}
    (member : field ∈ report.toFields) : field.1 ≠ 0 := by
  obtain ⟨part, present, written⟩ := List.mem_flatMap.mp member
  have isCode := isCode_of_mem_parts present
  obtain ⟨letter, text⟩ := part
  cases text with
  | none => cases written
  | some text =>
      rw [List.mem_singleton.mp written]
      exact isCode.2

private theorem fields_append {fields : List (UInt8 × String)}
    (codes : ∀ field ∈ fields, field.1 ≠ 0) (zeroFree : ∀ field ∈ fields, ZeroFree field.2)
    (rest : Bytes) : Diagnostic.fields (fieldsBytes fields ++ rest) = .ok fields := by
  induction fields with
  | nil =>
      rw [fieldsBytes, List.flatMap_nil, List.nil_append, List.singleton_append, Diagnostic.fields]
      rfl
  | cons field fields ih =>
      have code := codes field List.mem_cons_self
      have text := Reader.text_append field.2 (zeroFree field List.mem_cons_self)
        (fieldsBytes fields ++ rest)
      have others := ih (fun other member => codes other (List.mem_cons_of_mem _ member))
        fun other member => zeroFree other (List.mem_cons_of_mem _ member)
      have written : fieldsBytes (field :: fields) ++ rest =
          field.1 :: (Bytes.endedByZero (Utf8.encode field.2) ++ (fieldsBytes fields ++ rest)) := by
        simp only [fieldsBytes, List.flatMap_cons, List.cons_append, List.append_assoc]
      rw [written, Diagnostic.fields, if_neg code]
      split
      · rename_i fault failed
        rw [text] at failed
        cases failed
      · rename_i value after read
        rw [text] at read
        cases read
        rw [others]

theorem parse_bytes {report : Diagnostic} (writable : report.Writable) :
    parse report.bytes = .ok report := by
  have read := fields_append (fun field member => code_of_mem_toFields member) writable []
  rw [List.append_nil] at read
  rw [parse, bytes, read]
  exact congrArg Except.ok (ofFields_toFields report)

end PgClient.Diagnostic

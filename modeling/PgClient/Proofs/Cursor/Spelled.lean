/-
A statement on a cursor says what it was built from, whatever the cursor is called.

The statement is read here from left to right: its keywords, its options, a number in
decimal, and the name of the cursor from its opening quote to the first quote that is not
written twice. In a declaration the query is all that follows the options; in the other
statements nothing follows the name.
-/

import PgClient.Cursor.Statement
import PgClient.Text.Split

namespace PgClient

/-! ### Words that may be missing -/

namespace Split

def optional (word text : List Char) : Bool × List Char :=
  match after? word text with
  | some rest => (true, rest)
  | none => (false, text)

private theorem optional_append (word text : List Char) :
    optional word (word ++ text) = (true, text) := by
  rw [optional, after?_append]

private theorem optional_of_absent {word text : List Char} (absent : after? word text = none) :
    optional word text = (false, text) := by
  rw [optional, absent]

end Split

/-! ### Parts of a statement -/

namespace CursorStatement

def natural? (text : List Char) : Option (Nat × List Char) :=
  match text.takeWhile Char.isDigit with
  | [] => none
  | digits => some (Nat.ofDigitChars 10 digits 0, text.dropWhile Char.isDigit)

def integer? (text : List Char) : Option (Int × List Char) :=
  match Split.optional ['-'] text with
  | (true, digits) => (natural? digits).map fun read => (-(read.1 : Int), read.2)
  | (false, digits) => (natural? digits).map fun read => ((read.1 : Int), read.2)

def name? (text : List Char) : Option (String × List Char) :=
  (Identifier.read text).map fun read => (String.ofList read.1, read.2)

def lastName? (text : List Char) : Option String :=
  match name? text with
  | some (name, []) => some name
  | _ => none

def count? (text : List Char) : Option (Option Nat × List Char) :=
  match Split.after? "all".toList text with
  | some rest => some (none, rest)
  | none => (natural? text).map fun read => (some read.1, read.2)

/-! ### Statements read -/

def declare? (text : List Char) : Option CursorStatement := do
  let (name, text) ← name? text
  let text ← Split.after? " ".toList text
  let (fixed, text) := Split.optional "no ".toList text
  let text ← Split.after? "scroll cursor ".toList text
  let (hold, text) := Split.optional "with hold ".toList text
  let query ← Split.after? "for ".toList text
  return .declare name { scrollable := !fixed, hold := hold } (String.ofList query)

def fetch? (text : List Char) : Option CursorStatement := do
  let (count, text) ← count? text
  let text ← Split.after? " from ".toList text
  let name ← lastName? text
  return .fetch name count

def move? (text : List Char) : Option CursorStatement := do
  let (absolute, text) := Split.optional "absolute ".toList text
  let (value, text) ← integer? text
  let text ← Split.after? " from ".toList text
  let name ← lastName? text
  return .move name (if absolute then .absolute else .relative) value

def close? (text : List Char) : Option CursorStatement :=
  (lastName? text).map .close

/-- What the text says, if it is a statement on a cursor. -/
def read (sql : String) : Option CursorStatement :=
  (Split.after? "declare ".toList sql.toList).bind declare? <|>
    (Split.after? "fetch forward ".toList sql.toList).bind fetch? <|>
      (Split.after? "move ".toList sql.toList).bind move? <|>
        (Split.after? "close ".toList sql.toList).bind close?

/-! ### Parts read back -/

private theorem natural?_repr (number : Nat) {rest : List Char}
    (apart : ∀ char, rest.head? = some char → char.isDigit = false) :
    natural? (number.repr.toList ++ rest) = some (number, rest) := by
  have isDigit : ∀ digit ∈ Nat.toDigits 10 number, digit.isDigit = true := by
    intro digit member
    exact Nat.isDigit_of_mem_toDigits (by decide) (by decide) member
  have ends : rest.takeWhile Char.isDigit = [] ∧ rest.dropWhile Char.isDigit = rest := by
    cases rest with
    | nil => exact ⟨rfl, rfl⟩
    | cons char rest =>
        rw [List.takeWhile_cons, List.dropWhile_cons, apart char rfl]
        exact ⟨rfl, rfl⟩
  rw [Nat.toList_repr, natural?, List.takeWhile_append_of_pos isDigit,
    List.dropWhile_append_of_pos isDigit, ends.1, ends.2, List.append_nil]
  cases written : Nat.toDigits 10 number with
  | nil => exact absurd written Nat.toDigits_ne_nil
  | cons digit digits =>
      dsimp only
      rw [← written, Nat.ofDigitChars_ten_toDigits]

/-- No word that begins with something else than a digit stands in front of a number. -/
theorem after?_repr {letter : Char} {word : List Char} (other : letter.isDigit = false)
    (number : Nat) (rest : List Char) :
    Split.after? (letter :: word) (number.repr.toList ++ rest) = none := by
  rw [Nat.toList_repr]
  cases written : Nat.toDigits 10 number with
  | nil => exact absurd written Nat.toDigits_ne_nil
  | cons digit digits =>
      have member : digit ∈ Nat.toDigits 10 number := by
        rw [written]
        exact List.mem_cons_self
      have isDigit : digit.isDigit = true :=
        Nat.isDigit_of_mem_toDigits (by decide) (by decide) member
      have differs : letter ≠ digit := by
        rintro rfl
        rw [isDigit] at other
        cases other
      rw [List.cons_append, Split.after?, if_neg differs]

private theorem after?_toString {letter : Char} {word : List Char} (other : letter.isDigit = false)
    (unsigned : letter ≠ '-') (number : Int) (rest : List Char) :
    Split.after? (letter :: word) ((toString number).toList ++ rest) = none := by
  cases number with
  | ofNat number => exact after?_repr other number rest
  | negSucc before =>
      have written : (toString (Int.negSucc before)).toList =
          '-' :: (before + 1).repr.toList := String.toList_append
      rw [written, List.cons_append, Split.after?, if_neg unsigned]

private theorem integer?_toString (number : Int) {rest : List Char}
    (apart : ∀ char, rest.head? = some char → char.isDigit = false) :
    integer? ((toString number).toList ++ rest) = some (number, rest) := by
  cases number with
  | ofNat number =>
      have written : (toString (Int.ofNat number)).toList = number.repr.toList := rfl
      rw [written, integer?, Split.optional_of_absent (after?_repr rfl number rest)]
      dsimp only
      rw [natural?_repr number apart]
      rfl
  | negSucc before =>
      have written : (toString (Int.negSucc before)).toList =
          ['-'] ++ (before + 1).repr.toList := String.toList_append
      rw [written, List.append_assoc, integer?, Split.optional_append]
      dsimp only
      rw [natural?_repr (before + 1) apart]
      rfl

private theorem name?_quote (name : String) {rest : List Char} (apart : rest.head? ≠ some '"') :
    name? ((Identifier.quote name).toList ++ rest) = some (name, rest) := by
  have spelled : (Identifier.quote name).toList ++ rest =
      '"' :: (Identifier.escape name.toList ++ '"' :: rest) := by
    rw [Identifier.quote, String.toList_ofList, List.append_assoc]
    rfl
  rw [spelled, name?, Identifier.read, Identifier.readOpen_escape _ _ apart, Option.map_some,
    String.ofList_toList]

private theorem lastName?_quote (name : String) :
    lastName? (Identifier.quote name).toList = some name := by
  have atEnd : ([] : List Char).head? ≠ some '"' := nofun
  have read := name?_quote name atEnd
  rw [List.append_nil] at read
  rw [lastName?, read]

private theorem count?_all (rest : List Char) :
    count? ("all".toList ++ rest) = some (none, rest) := by
  rw [count?, Split.after?_append]

private theorem count?_repr (number : Nat) {rest : List Char}
    (apart : ∀ char, rest.head? = some char → char.isDigit = false) :
    count? (number.repr.toList ++ rest) = some (some number, rest) := by
  have absent : Split.after? "all".toList (number.repr.toList ++ rest) = none :=
    after?_repr rfl number rest
  rw [count?, absent]
  dsimp only
  rw [natural?_repr number apart]
  rfl

/-! ### Statements read back -/

/-- The digits of a number end where the rest of the statement begins. -/
theorem apart_from (rest : List Char) :
    ∀ char, (" from ".toList ++ rest).head? = some char → char.isDigit = false := by
  intro char first
  cases first
  rfl

private theorem declare?_spelled (name : String) (options : DeclareOptions) (query : String) :
    declare? ((Identifier.quote name).toList ++ (" ".toList ++
      ((if options.scrollable then "" else "no ").toList ++ ("scroll cursor ".toList ++
        ((if options.hold then "with hold " else "").toList ++
          ("for ".toList ++ query.toList)))))) =
      some (.declare name options query) := by
  have blank : ∀ rest : List Char, (" ".toList ++ rest).head? ≠ some '"' := nofun
  have noScroll : ∀ rest,
      Split.optional "no ".toList ((if options.scrollable then "" else "no ").toList ++
        ("scroll cursor ".toList ++ rest)) =
        (!options.scrollable, "scroll cursor ".toList ++ rest) := by
    intro rest
    cases options.scrollable with
    | true => exact Split.optional_of_absent rfl
    | false => exact Split.optional_append _ _
  have withHold : ∀ rest,
      Split.optional "with hold ".toList ((if options.hold then "with hold " else "").toList ++
        ("for ".toList ++ rest)) = (options.hold, "for ".toList ++ rest) := by
    intro rest
    cases options.hold with
    | true => exact Split.optional_append _ _
    | false => exact Split.optional_of_absent rfl
  simp only [declare?, name?_quote name (blank _), Split.after?_append, noScroll, withHold,
    Option.bind_eq_bind, Option.bind_some, Option.pure_def, Bool.not_not, String.ofList_toList]

private theorem fetch?_all (name : String) :
    fetch? ("all".toList ++ (" from ".toList ++ (Identifier.quote name).toList)) =
      some (.fetch name none) := by
  simp only [fetch?, count?_all, Split.after?_append, lastName?_quote, Option.bind_eq_bind,
    Option.bind_some, Option.pure_def]

private theorem fetch?_count (name : String) (count : Nat) :
    fetch? (count.repr.toList ++ (" from ".toList ++ (Identifier.quote name).toList)) =
      some (.fetch name (some count)) := by
  simp only [fetch?, count?_repr count (apart_from _), Split.after?_append, lastName?_quote,
    Option.bind_eq_bind, Option.bind_some, Option.pure_def]

private theorem move?_relative (name : String) (value : Int) :
    move? ((toString value).toList ++ (" from ".toList ++ (Identifier.quote name).toList)) =
      some (.move name .relative value) := by
  have absent : Split.after? "absolute ".toList ((toString value).toList ++
      (" from ".toList ++ (Identifier.quote name).toList)) = none :=
    after?_toString rfl (by decide) value _
  simp only [move?, Split.optional_of_absent absent, integer?_toString value (apart_from _),
    Split.after?_append, lastName?_quote, Option.bind_eq_bind, Option.bind_some, Option.pure_def,
    Bool.false_eq_true, if_false]

private theorem move?_absolute (name : String) (value : Int) :
    move? ("absolute ".toList ++ ((toString value).toList ++
      (" from ".toList ++ (Identifier.quote name).toList))) =
      some (.move name .absolute value) := by
  simp only [move?, Split.optional_append, integer?_toString value (apart_from _),
    Split.after?_append, lastName?_quote, Option.bind_eq_bind, Option.bind_some, Option.pure_def,
    if_true]

private theorem close?_spelled (name : String) :
    close? (Identifier.quote name).toList = some (.close name) := by
  rw [close?, lastName?_quote, Option.map_some]

variable {text : String} {rest : List Char} {statement : CursorStatement}

/-! Each kind of statement is known by its first keyword. -/

private theorem read_of_declare (opens : text.toList = "declare ".toList ++ rest)
    (tells : declare? rest = some statement) : read text = some statement := by
  rw [read, opens, Split.after?_append, Option.bind_some, tells]
  rfl

private theorem read_of_fetch (opens : text.toList = "fetch forward ".toList ++ rest)
    (tells : fetch? rest = some statement) : read text = some statement := by
  have noDeclare : Split.after? "declare ".toList ("fetch forward ".toList ++ rest) = none := rfl
  rw [read, opens, noDeclare, Split.after?_append, Option.bind_some, tells]
  rfl

private theorem read_of_move (opens : text.toList = "move ".toList ++ rest)
    (tells : move? rest = some statement) : read text = some statement := by
  have noDeclare : Split.after? "declare ".toList ("move ".toList ++ rest) = none := rfl
  have noFetch : Split.after? "fetch forward ".toList ("move ".toList ++ rest) = none := rfl
  rw [read, opens, noDeclare, noFetch, Split.after?_append, Option.bind_some, tells]
  rfl

private theorem read_of_close (opens : text.toList = "close ".toList ++ rest)
    (tells : close? rest = some statement) : read text = some statement := by
  have noDeclare : Split.after? "declare ".toList ("close ".toList ++ rest) = none := rfl
  have noFetch : Split.after? "fetch forward ".toList ("close ".toList ++ rest) = none := rfl
  have noMove : Split.after? "move ".toList ("close ".toList ++ rest) = none := rfl
  rw [read, opens, noDeclare, noFetch, noMove, Split.after?_append, Option.bind_some, tells]
  rfl

/-- A statement is read back: its keywords, its options, its number and its name. -/
theorem read_sql (statement : CursorStatement) : read statement.sql = some statement := by
  cases statement with
  | declare name options query =>
      refine read_of_declare ?_ (declare?_spelled name options query)
      unfold sql
      simp only [String.toList_append, List.append_assoc]
  | fetch name count =>
      cases count with
      | none =>
          have words : "fetch forward all from ".toList =
              "fetch forward ".toList ++ ("all".toList ++ " from ".toList) := rfl
          refine read_of_fetch ?_ (fetch?_all name)
          unfold sql
          simp only [String.toList_append, words, List.append_assoc]
      | some count =>
          refine read_of_fetch ?_ (fetch?_count name count)
          unfold sql
          simp only [String.toList_append, List.append_assoc]
          rfl
  | move name mode value =>
      cases mode with
      | relative =>
          refine read_of_move ?_ (move?_relative name value)
          unfold sql
          simp only [String.toList_append, List.append_assoc, String.toList_empty,
            List.nil_append]
      | absolute =>
          refine read_of_move ?_ (move?_absolute name value)
          unfold sql
          simp only [String.toList_append, List.append_assoc]
  | close name =>
      refine read_of_close ?_ (close?_spelled name)
      unfold sql
      simp only [String.toList_append]

/-- Statements that differ in anything they were built from are written differently. -/
theorem spelled_injective :
    (∀ statement, read statement.sql = some statement) ∧ Function.Injective sql := by
  refine ⟨read_sql, ?_⟩
  intro one other same
  have read := read_sql one
  rw [same, read_sql other] at read
  injection read with same
  exact same.symm

end CursorStatement

end PgClient

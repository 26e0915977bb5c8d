/-
What a server reports of an error or a notice.

A report is a run of fields, each a code byte and a text, up to a zero byte or
the end of the body. Every text is read, also one under a code that has no
meaning here, and the last field of a code counts.
-/

import PgClient.ErrorClass
import PgClient.Text.Integer
import PgClient.Text.Quoted
import PgClient.Wire.Reader

namespace PgClient

structure Diagnostic where
  severity : String := ""
  severityNonlocalized : Option String := none
  code : String := ""
  message : String := ""
  detail : Option String := none
  hint : Option String := none
  position : Option UInt32 := none
  internalPosition : Option UInt32 := none
  internalQuery : Option String := none
  context : Option String := none
  schema : Option String := none
  table : Option String := none
  column : Option String := none
  datatype : Option String := none
  constraint : Option String := none
  file : Option String := none
  line : Option UInt32 := none
  routine : Option String := none
deriving Repr, DecidableEq

namespace Diagnostic

/-! ### Fields -/

/-- A place in a text or file, absent when it is not a number that fits. -/
def place (text : String) : Option UInt32 :=
  match Integer.readNat 32 text.toList with
  | .ok number => some (UInt32.ofNat number)
  | .error _ => none

def set (report : Diagnostic) (code : UInt8) (text : String) : Diagnostic :=
  match Char.ofNat code.toNat with
  | 'S' => { report with severity := text }
  | 'V' => { report with severityNonlocalized := some text }
  | 'C' => { report with code := text }
  | 'M' => { report with message := text }
  | 'D' => { report with detail := some text }
  | 'H' => { report with hint := some text }
  | 'P' => { report with position := place text }
  | 'p' => { report with internalPosition := place text }
  | 'q' => { report with internalQuery := some text }
  | 'W' => { report with context := some text }
  | 's' => { report with schema := some text }
  | 't' => { report with table := some text }
  | 'c' => { report with column := some text }
  | 'd' => { report with datatype := some text }
  | 'n' => { report with constraint := some text }
  | 'F' => { report with file := some text }
  | 'L' => { report with line := place text }
  | 'R' => { report with routine := some text }
  | _ => report

def fields (body : Bytes) : Except ProtocolFault (List (UInt8 × String)) :=
  match body with
  | [] => .ok []
  | code :: rest =>
      if code = 0 then .ok []
      else
        match read : Reader.text rest with
        | .error fault => .error fault
        | .ok (text, after) =>
            have := Reader.text_length read
            match fields after with
            | .error fault => .error fault
            | .ok others => .ok ((code, text) :: others)
termination_by body.length
decreasing_by
  simp only [List.length_cons]
  omega

theorem fields_cons (code : UInt8) (rest : Bytes) :
    fields (code :: rest) =
      if code = 0 then .ok []
      else
        Reader.text rest >>= fun read =>
          fields read.2 >>= fun others => .ok ((code, read.1) :: others) := by
  rw [fields]
  by_cases zero : code = 0
  · rw [if_pos zero, if_pos zero]
  · rw [if_neg zero, if_neg zero]
    split
    · rename_i fault read
      rw [read]
      rfl
    · rename_i text after read
      dsimp only
      rw [read]
      change _ = (fields after >>= _)
      cases fields after with
      | error fault => rfl
      | ok others => rfl

def ofFields (fields : List (UInt8 × String)) : Diagnostic :=
  fields.foldl (fun report field => report.set field.1 field.2) {}

def parse (body : Bytes) : Except ProtocolFault Diagnostic :=
  match fields body with
  | .error fault => .error fault
  | .ok fields => .ok (ofFields fields)

/-! ### Texts -/

def errorClass (report : Diagnostic) : ErrorClass :=
  ErrorClass.ofCode report.code

def display (report : Diagnostic) : String :=
  let detail :=
    match report.detail with
    | some detail => "\nDETAIL: " ++ detail
    | none => ""
  let hint :=
    match report.hint with
    | some hint => "\nHINT: " ++ hint
    | none => ""
  report.severity ++ ": " ++ report.message ++ detail ++ hint

def record (report : Diagnostic) : String :=
  let position :=
    match report.position with
    | some position => "Some(" ++ toString position.toNat ++ ")"
    | none => "None"
  "DbError \x7b severity: " ++ Quoted.quote report.severity ++ ", code: " ++
    Quoted.quote report.code ++ ", message: " ++ Quoted.quote report.message ++ ", detail: " ++
    Quoted.option report.detail ++ ", hint: " ++ Quoted.option report.hint ++ ", position: " ++
    position ++ ", .. \x7d"

end Diagnostic

end PgClient

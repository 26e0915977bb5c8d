/-
A text in double quotes, as it is shown to a reader of an error or of a record.

A quote and a backslash take a backslash, five controls have a letter of their
own, any other character that would not show is written by its code point in
lower case hexadecimal digits, and all else stands for itself.
-/

import PgClient.Text.Printable

namespace PgClient.Quoted

def hexDigits (number : Nat) : List Char :=
  Nat.toDigits 16 number

def escape (char : Char) : List Char :=
  if char = '"' then ['\\', '"']
  else if char = '\\' then ['\\', '\\']
  else if char = '\n' then ['\\', 'n']
  else if char = '\r' then ['\\', 'r']
  else if char = '\t' then ['\\', 't']
  else if char.toNat = 0 then ['\\', '0']
  else if Printable.isPrintable char then [char]
  else '\\' :: 'u' :: '\x7b' :: hexDigits char.toNat ++ ['\x7d']

def quote (text : String) : String :=
  String.ofList ('"' :: text.toList.flatMap escape ++ ['"'])

/-- A text in quotes with nothing escaped. -/
def plain (text : String) : String :=
  "\"" ++ text ++ "\""

def option (text : Option String) : String :=
  match text with
  | none => "None"
  | some text => "Some(" ++ quote text ++ ")"

/-! ### Bytes -/

def isGraphic (byte : UInt8) : Bool :=
  33 ≤ byte && byte ≤ 126

/-- Space, tab, line feed, form feed and carriage return. -/
def isBlank (byte : UInt8) : Bool :=
  byte == 32 || byte == 9 || byte == 10 || byte == 12 || byte == 13

/-- Visible ASCII stands for itself, any other byte is written in hexadecimal
digits without padding. -/
def escapeByte (byte : UInt8) : List Char :=
  if isGraphic byte || isBlank byte then [Char.ofNat byte.toNat]
  else '\\' :: 'x' :: hexDigits byte.toNat

def bytes (content : List UInt8) : String :=
  String.ofList ('b' :: '"' :: content.flatMap escapeByte ++ ['"'])

end PgClient.Quoted

/-
The statements that work on a cursor of the server.

The name of a cursor is always quoted, so that nothing in it can be taken for a part
of the statement.
-/

import PgClient.Error
import PgClient.Identifier

namespace PgClient

/-- Whether a move counts from where the cursor is or from the first row. -/
inductive ScrollMode
  | relative
  | absolute
deriving Repr, DecidableEq

namespace ScrollMode

def name : ScrollMode → String
  | relative => "relative"
  | absolute => "absolute"

def ofName (name : String) : Except Error ScrollMode :=
  if name = "relative" then .ok relative
  else if name = "absolute" then .ok absolute
  else .error { kind := .invalidArgument (.badScrollMode name) }

end ScrollMode

structure DeclareOptions where
  /-- Whether it can move backwards. -/
  scrollable : Bool := true
  /-- Whether it outlives its transaction. -/
  hold : Bool := false
deriving Repr, DecidableEq

inductive CursorStatement
  | declare (name : String) (options : DeclareOptions) (query : String)
  /-- So many rows from here on, or all that are left. -/
  | fetch (name : String) (count : Option Nat)
  | move (name : String) (mode : ScrollMode) (value : Int)
  | close (name : String)
deriving Repr, DecidableEq

def CursorStatement.sql : CursorStatement → String
  | declare name options query =>
      "declare " ++ Identifier.quote name ++ " " ++ (if options.scrollable then "" else "no ") ++
        "scroll cursor " ++ (if options.hold then "with hold " else "") ++ "for " ++ query
  | fetch name (some count) =>
      "fetch forward " ++ toString count ++ " from " ++ Identifier.quote name
  | fetch name none => "fetch forward all from " ++ Identifier.quote name
  | move name mode value =>
      "move " ++ (match mode with
        | .relative => ""
        | .absolute => "absolute ") ++ toString value ++ " from " ++ Identifier.quote name
  | close name => "close " ++ Identifier.quote name

end PgClient

/-
Broad categories of server errors, by the first two characters of the code.
-/

namespace PgClient

inductive ErrorClass
  | operational
  | programming
  | integrity
  | data
  | internal
  | notSupported
  | database
deriving Repr, DecidableEq

namespace ErrorClass

def name : ErrorClass → String
  | operational => "Operational"
  | programming => "Programming"
  | integrity => "Integrity"
  | data => "Data"
  | internal => "Internal"
  | notSupported => "NotSupported"
  | database => "Database"

/-- The code classes of each category but the last. -/
def codeClasses : ErrorClass → List String
  | operational =>
      ["08", "27", "28", "2F", "38", "39", "3B", "40", "53", "54", "55", "57", "58", "HV"]
  | notSupported => ["0A"]
  | programming => ["20", "21", "26", "34", "3D", "3F", "42", "44"]
  | data => ["22"]
  | integrity => ["23"]
  | internal => ["24", "25", "2B", "2D", "F0", "P0", "XX"]
  | database => []

/-- A code that is in no list, or too short to be in one, is of the last category. -/
def ofCode (code : String) : ErrorClass :=
  let codeClass := String.ofList (code.toList.take 2)
  ([operational, notSupported, programming, data, integrity, internal].find? fun category =>
    category.codeClasses.contains codeClass).getD database

end ErrorClass

end PgClient

/-
Where a session stands between transactions, as the server last said.
-/

namespace PgClient

inductive TransactionStatus
  | idle
  | active
  | inTransaction
  /-- The transaction has failed, and waits for its end. -/
  | inError
  | unknown
deriving Repr, DecidableEq

namespace TransactionStatus

def ofIndicator (indicator : UInt8) : TransactionStatus :=
  if indicator = 'I'.toUInt8 then idle
  else if indicator = 'T'.toUInt8 then inTransaction
  else if indicator = 'E'.toUInt8 then inError
  else unknown

def name : TransactionStatus → String
  | idle => "Idle"
  | active => "Active"
  | inTransaction => "InTransaction"
  | inError => "InError"
  | unknown => "Unknown"

end TransactionStatus

end PgClient

/-
Misuse that ends a call on the spot, as opposed to an error that it returns.
-/

namespace PgClient

inductive Defect
  /-- A length or a count does not fit the width that the wire has for it. -/
  | oversizedMessage
  /-- A sum does not fit the width that it is added up in. -/
  | overflow
  /-- A round trip that has ended is asked to go on. -/
  | resumedAfterCompletion
deriving Repr, DecidableEq

def Defect.message : Defect → String
  | oversizedMessage => "message size too large for protocol"
  | overflow => "attempt to add with overflow"
  | resumedAfterCompletion => "generator resumed after completion"

end PgClient

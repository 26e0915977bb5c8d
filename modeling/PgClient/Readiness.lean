/-
What an exchange waits for, and what it is told when the waiting ends.
-/

namespace PgClient

/-- The readiness that an exchange cannot go on without. -/
inductive Wait
  | readable
  | writable
  | either
deriving Repr, DecidableEq

structure Ready where
  readable : Bool
  writable : Bool
deriving Repr, DecidableEq

/-- Nothing was seen, which is what an exchange is told at its beginning. -/
def Ready.nothing : Ready :=
  { readable := false, writable := false }

end PgClient

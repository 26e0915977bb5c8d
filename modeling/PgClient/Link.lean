/-
The link to a server, as far as a session can tell what it is.

What the server sends arrives in pieces, between which reading would block. What
the session sends is taken a part at a time, or refused for the moment. A link
says in advance what will arrive, how much will be taken, and which readiness
will be seen; whatever a real one does is one of these courses.
-/

import PgClient.Error
import PgClient.Readiness

namespace PgClient

inductive Arrival
  /-- Some bytes; none of them means that the server sends no more. -/
  | data (bytes : Bytes)
  | blocked
  | failed (fault : IoFault)
deriving Repr, DecidableEq

inductive Uptake
  /-- As many bytes as that are taken, or all if there are fewer. -/
  | accepted (count : Nat)
  | refused
  | failed (fault : IoFault)
deriving Repr, DecidableEq

structure Link where
  /-- What reading will find; after that it blocks. -/
  arrivals : List Arrival := []
  /-- What writing will come to; after that all is taken. -/
  uptakes : List Uptake := []
  /-- What waiting will see, or that it sees nothing in time, as it does after that. -/
  reports : List (Option Ready) := []
  delivered : Bytes := []
deriving Repr, DecidableEq

namespace Link

/-! ### Reading -/

/-- What one attempt to read finds, the end of what the server sends being a fault. -/
def read (link : Link) : Arrival × Link :=
  match link.arrivals with
  | [] => (.blocked, link)
  | arrival :: rest =>
      (match arrival with
        | .data [] => .failed .serverClosed
        | other => other,
        { link with arrivals := rest })

/-- Everything that is read before reading blocks or fails. -/
structure Gathered where
  bytes : Bytes
  arrivals : List Arrival
  fault : Option IoFault
deriving Repr, DecidableEq

def gather : List Arrival → Gathered
  | [] => ⟨[], [], none⟩
  | .blocked :: rest => ⟨[], rest, none⟩
  | .failed fault :: rest => ⟨[], rest, some fault⟩
  | .data [] :: rest => ⟨[], rest, some .serverClosed⟩
  | .data bytes :: rest =>
      let further := gather rest
      { further with bytes := bytes ++ further.bytes }

/-! ### Writing -/

inductive Ending
  | complete
  | refused
  /-- A write took nothing, and did not ask to wait either. -/
  | nothingTaken
  | failed (fault : IoFault)
deriving Repr, DecidableEq

structure Pushed where
  ending : Ending
  taken : Bytes
  left : Bytes
  uptakes : List Uptake
deriving Repr, DecidableEq

def push (output : Bytes) : List Uptake → Pushed
  | [] => ⟨.complete, output, [], []⟩
  | uptake :: rest =>
      if output.isEmpty then ⟨.complete, [], [], uptake :: rest⟩
      else
        match uptake with
        | .refused => ⟨.refused, [], output, rest⟩
        | .failed fault => ⟨.failed fault, [], output, rest⟩
        | .accepted 0 => ⟨.nothingTaken, [], output, rest⟩
        | .accepted (count + 1) =>
            let (front, back) := output.splitAt (count + 1)
            let further := push back rest
            { further with taken := front ++ further.taken }

def offer (output : Bytes) (link : Link) : Link :=
  match link.uptakes with
  | [] => { link with delivered := link.delivered ++ output }
  | .accepted count :: rest =>
      { link with uptakes := rest, delivered := link.delivered ++ output.take count }
  | _ :: rest => { link with uptakes := rest }

/-! ### Waiting -/

/-- What is seen while waiting; nothing if a deadline passes before. -/
def await (link : Link) : Option Ready × Link :=
  match link.reports with
  | [] => (none, link)
  | report :: rest => (report, { link with reports := rest })

end Link

end PgClient

/-
The exchanges that all others are made of: sending, fetching one result, and a whole
round trip.

While output is pending, input is taken in as soon as there is some: a server that
stops reading until its own output is read would otherwise never go on.
-/

import PgClient.Exchange.Basic

namespace PgClient

/-! ### Sending -/

inductive Sending
  | fresh
  | waiting
  | done
deriving Repr, DecidableEq

namespace Sending

variable {τ : Type} [Transport τ]

def write (sending : Sending) (transport : τ) : Turn Unit Sending τ :=
  match Transport.flush transport with
  | (.error error, transport) => ⟨.ofError error, sending, transport⟩
  | (.ok true, transport) => ⟨.wait .either, .waiting, transport⟩
  | (.ok false, transport) => ⟨.done (), .done, transport⟩

def resume (ready : Ready) (sending : Sending) (transport : τ) : Turn Unit Sending τ :=
  match sending with
  | .done => ⟨.completed, .done, transport⟩
  | .fresh => write .waiting transport
  | .waiting =>
      if ready.readable then
        match Transport.consumeInput transport with
        | (.error error, transport) => ⟨.ofError error, .waiting, transport⟩
        | (.ok (), transport) => write .waiting transport
      else write .waiting transport

end Sending

instance : Exchange Sending Unit where
  resume := Sending.resume

/-! ### Fetching -/

inductive Fetching
  | fresh
  | reading
  | done
deriving Repr, DecidableEq

namespace Fetching

variable {τ : Type} [Transport τ]

/-- Takes the next result, if it need not be waited for. -/
def take (transport : τ) : Turn (Option QueryResult) Fetching τ :=
  if Transport.isBusy transport then ⟨.wait .readable, .reading, transport⟩
  else
    let (result, transport) := Transport.takeResult transport
    ⟨.done result, .done, transport⟩

def resume (fetching : Fetching) (transport : τ) : Turn (Option QueryResult) Fetching τ :=
  match fetching with
  | .fresh => take transport
  | .reading =>
      match Transport.consumeInput transport with
      | (.error error, transport) => ⟨.ofError error, .reading, transport⟩
      | (.ok (), transport) => take transport
  | .done => ⟨.completed, .done, transport⟩

end Fetching

instance : Exchange Fetching (Option QueryResult) where
  resume _ := Fetching.resume

/-! ### Round trips -/

/-- The results of a round trip so far: the first that is an error of the server, and
the last that is none. -/
structure Gathering where
  fatal : Option QueryResult := none
  last : Option QueryResult := none
deriving Repr, DecidableEq

namespace Gathering

/-- Takes in one result. A row that stands for itself is no outcome. -/
def add (gathering : Gathering) (result : QueryResult) : Gathering :=
  match result.status with
  | .fatalError => { gathering with fatal := gathering.fatal.or (some result) }
  | .singleTuple => gathering
  | _ => { gathering with last := some result }

def outcome (gathering : Gathering) : Option QueryResult :=
  gathering.fatal.or gathering.last

end Gathering

inductive RoundTrip
  | unsent (command : Command)
  | sending (sending : Sending)
  | fetching (gathering : Gathering)
  | done
deriving Repr, DecidableEq

namespace RoundTrip

variable {τ : Type} [Transport τ]

def dispatched : RoundTrip :=
  .sending .fresh

/-- Takes the results that are complete; when no more can come, the first error or the
last result is the outcome. -/
def collect (gathering : Gathering) (transport : τ) : Turn QueryResult RoundTrip τ :=
  let (results, transport) := Transport.takeResults transport
  let gathering := results.foldl Gathering.add gathering
  if Transport.isBusy transport then
    ⟨.wait .readable, .fetching gathering, transport⟩
  else
    match gathering.outcome with
    | some result => ⟨.done result, .done, transport⟩
    | none => ⟨.ofError (Error.ofProtocol .noResult), .done, transport⟩

def goOnSending (ready : Ready) (stage : Sending) (transport : τ) :
    Turn QueryResult RoundTrip τ :=
  match stage.resume ready transport with
  | ⟨.wait wait, stage, transport⟩ => ⟨.wait wait, .sending stage, transport⟩
  | ⟨.failed failure, stage, transport⟩ => ⟨.failed failure, .sending stage, transport⟩
  | ⟨.done (), _, transport⟩ => collect {} transport

def resume (ready : Ready) (trip : RoundTrip) (transport : τ) : Turn QueryResult RoundTrip τ :=
  match trip with
  | .unsent command =>
      match Transport.send command transport with
      | (.error failure, transport) => ⟨.failed failure, trip, transport⟩
      | (.ok (), transport) => goOnSending .nothing .fresh transport
  | .sending stage => goOnSending ready stage transport
  | .fetching gathering =>
      match Transport.consumeInput transport with
      | (.error error, transport) => ⟨.ofError error, trip, transport⟩
      | (.ok (), transport) => collect gathering transport
  | .done => ⟨.completed, .done, transport⟩

end RoundTrip

instance : Exchange RoundTrip QueryResult where
  resume := RoundTrip.resume

end PgClient

/-
Driving an exchange to its end, in two ways.

A blocking call waits where the exchange has to wait. A task is suspended there, and
taken up again when readiness is reported; its owner may give it up at any suspension.
Before either waits, the session has to be open and the time allowed must not be over.
-/

import PgClient.Exchange.Basic

namespace PgClient

/-- How a call is driven. A task may be given up, at the suspension of a number that
counts from zero. -/
inductive Manner
  | blocking
  | async (givenUpAt : Option Nat)
deriving Repr, DecidableEq

namespace Manner

def flavour : Manner → Flavour
  | blocking => .blocking
  | async _ => .async

def givenUpAt : Manner → Option Nat
  | blocking => none
  | async givenUpAt => givenUpAt

def ofFlavour : Flavour → Manner
  | .blocking => blocking
  | .async => async none

end Manner

structure Ended (α γ τ : Type) where
  outcome : Except Failure α
  exchange : γ
  transport : τ

namespace Waiting

variable {α γ τ : Type} [Exchange γ α] [Transport τ]

/-- Whether waiting makes sense: not without a link, and not when no time is allowed.
Times are in milliseconds. -/
def mayWait (timeout : Option Nat) (transport : τ) : Except Error Unit :=
  match Transport.checkOpen transport with
  | .error error => .error error
  | .ok () => if timeout = some 0 then .error .timedOut else .ok ()

/-! ### Blocking calls -/

def block (timeout : Option Nat) : Nat → Ready → γ → τ → Ended α γ τ
  | 0, _, exchange, transport => ⟨.error (.error .timedOut), exchange, transport⟩
  | patience + 1, ready, exchange, transport =>
      match Exchange.resume ready exchange transport with
      | ⟨.done value, exchange, transport⟩ => ⟨.ok value, exchange, transport⟩
      | ⟨.failed failure, exchange, transport⟩ => ⟨.error failure, exchange, transport⟩
      | ⟨.wait wait, exchange, transport⟩ =>
          match mayWait timeout transport with
          | .error error => ⟨.error (.error error), exchange, transport⟩
          | .ok () =>
              match Transport.await wait transport with
              | (none, transport) => ⟨.error (.error .timedOut), exchange, transport⟩
              | (some ready, transport) => block timeout patience ready exchange transport

/-! ### Tasks -/

inductive Poll (α : Type)
  | ready (outcome : Except Failure α)
  | pending (wait : Wait)

structure Polled (α γ τ : Type) where
  poll : Poll α
  exchange : γ
  transport : τ

/-- Takes a task from one suspension to the next. -/
def poll (timeout : Option Nat) (ready : Ready) (exchange : γ) (transport : τ) :
    Polled α γ τ :=
  let turn := Exchange.resume ready exchange transport
  let result :=
    match turn.step with
    | .done value => .ready (.ok value)
    | .failed failure => .ready (.error failure)
    | .wait wait =>
        match mayWait timeout turn.transport with
        | .error error => .ready (.error (.error error))
        | .ok () => .pending wait
  ⟨result, turn.exchange, turn.transport⟩

/-- Polls a task whenever readiness is reported, unless it is given up before. -/
def awaitTask (timeout : Option Nat) :
    Nat → Option Nat → Ready → γ → τ → Ended α γ τ
  | 0, _, _, exchange, transport => ⟨.error (.error .timedOut), exchange, transport⟩
  | patience + 1, givenUpAt, ready, exchange, transport =>
      let polled := poll timeout ready exchange transport
      match polled.poll with
      | .ready outcome => ⟨outcome, polled.exchange, polled.transport⟩
      | .pending wait =>
          if givenUpAt = some 0 then ⟨.error .abandoned, polled.exchange, polled.transport⟩
          else
            match Transport.await wait polled.transport with
            | (none, transport) => ⟨.error (.error .timedOut), polled.exchange, transport⟩
            | (some ready, transport) =>
                awaitTask timeout patience (givenUpAt.map (· - 1)) ready polled.exchange
                  transport

def run (manner : Manner) (timeout : Option Nat) (exchange : γ) (transport : τ) :
    Ended α γ τ :=
  let patience := Transport.patience transport + 1
  match manner with
  | .blocking => block timeout patience .nothing exchange transport
  | .async givenUpAt => awaitTask timeout patience givenUpAt .nothing exchange transport

/-! ### One way for both -/

/-- A task that is not given up is polled just where a blocking call goes on. -/
theorem awaitTask_none (timeout : Option Nat) (patience : Nat) (ready : Ready) (exchange : γ)
    (transport : τ) :
    awaitTask timeout patience none ready exchange transport =
      block timeout patience ready exchange transport := by
  induction patience generalizing ready exchange transport with
  | zero => rfl
  | succ patience ih =>
      unfold awaitTask block poll
      generalize Exchange.resume ready exchange transport = turn
      obtain ⟨step, exchange, transport⟩ := turn
      cases step with
      | done value => rfl
      | failed failure => rfl
      | wait wait =>
          dsimp only
          cases mayWait timeout transport with
          | error error => rfl
          | ok permitted =>
              dsimp only
              rw [if_neg (by nofun)]
              obtain ⟨report, transport⟩ := Transport.await wait transport
              cases report with
              | none => rfl
              | some ready => exact ih ready exchange transport

/-- A blocking call is a task that is not given up. -/
theorem run_eq_awaitTask (manner : Manner) (timeout : Option Nat) (exchange : γ) (transport : τ) :
    run manner timeout exchange transport =
      awaitTask timeout (Transport.patience transport + 1) manner.givenUpAt .nothing exchange
        transport := by
  cases manner with
  | blocking => exact (awaitTask_none ..).symm
  | async givenUpAt => rfl

end Waiting

end PgClient

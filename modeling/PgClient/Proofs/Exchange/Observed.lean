/-
Watching what is asked of a session.

Beside a transport a record is kept of each command that it accepted and of the results that
were taken for it. The record changes nothing: a watched transport shows the same as the one
that is watched. Whether a command succeeded can be told from the record, and a round trip
knows no more of it than that.
-/

import PgClient.Proofs.Exchange.Driven
import PgClient.Proofs.Exchange.Gathered
import PgClient.Proofs.Exchange.View

namespace PgClient

/-! ### The record -/

/-- A command that was accepted, and the results that were taken for it. -/
structure Asked where
  command : Command
  results : List QueryResult := []
  /-- Nothing more can come. -/
  ended : Bool := false
deriving Repr, DecidableEq

namespace Asked

def answer? (asked : Asked) : Option QueryResult :=
  if asked.ended then QueryResult.conclusion? asked.results else none

def success? (asked : Asked) : Option QueryResult :=
  asked.answer?.bind fun result => result.check.toOption

def note (results : List QueryResult) (ended : Bool) : List Asked → List Asked
  | [] => []
  | asked :: earlier => { asked with results := asked.results ++ results, ended } :: earlier

end Asked

/-- A transport with the record of it, the latest command first. -/
structure Observed (τ : Type) where
  transport : τ
  log : List Asked := []

namespace Observed

variable {τ : Type} [Transport τ]

def beside {α : Type} (observed : Observed τ) (told : α × τ) : α × Observed τ :=
  (told.1, { observed with transport := told.2 })

def send (command : Command) (observed : Observed τ) : Except Failure Unit × Observed τ :=
  match Transport.send command observed.transport with
  | (.error failure, transport) => (.error failure, { observed with transport })
  | (.ok (), transport) => (.ok (), { transport, log := { command } :: observed.log })

def takeResult (observed : Observed τ) : Option QueryResult × Observed τ :=
  match Transport.takeResult observed.transport with
  | (result, transport) =>
      let ended := result.isNone && !Transport.isBusy transport
      (result, { transport, log := Asked.note result.toList ended observed.log })

def takeResults (observed : Observed τ) : List QueryResult × Observed τ :=
  match Transport.takeResults observed.transport with
  | (results, transport) =>
      (results,
        { transport, log := Asked.note results (!Transport.isBusy transport) observed.log })

instance : Transport (Observed τ) where
  send := send
  flush observed := observed.beside (Transport.flush observed.transport)
  consumeInput observed := observed.beside (Transport.consumeInput observed.transport)
  isBusy observed := Transport.isBusy observed.transport
  takeResult := takeResult
  takeResults := takeResults
  checkOpen observed := Transport.checkOpen observed.transport
  await wait observed := observed.beside (Transport.await wait observed.transport)
  patience observed := Transport.patience observed.transport
  transactionStatus observed := Transport.transactionStatus observed.transport
  clientEncoding observed := Transport.clientEncoding observed.transport
  isClosed observed := Transport.isClosed observed.transport
  finish observed := { observed with transport := Transport.finish observed.transport }
  record event observed := { observed with transport := Transport.record event observed.transport }

theorem send_eq (command : Command) (observed : Observed τ) :
    Transport.send command observed = observed.send command :=
  rfl

private theorem flush_eq (observed : Observed τ) :
    Transport.flush observed = observed.beside (Transport.flush observed.transport) :=
  rfl

theorem consumeInput_eq (observed : Observed τ) :
    Transport.consumeInput observed = observed.beside (Transport.consumeInput observed.transport) :=
  rfl

private theorem takeResults_eq (observed : Observed τ) :
    Transport.takeResults observed = observed.takeResults :=
  rfl

private theorem isBusy_eq (observed : Observed τ) :
    Transport.isBusy observed = Transport.isBusy observed.transport :=
  rfl

/-- Watching changes nothing. -/
theorem transport_isView : Transport.IsView (Observed.transport (τ := τ)) where
  send command observed := by
    change _ = Prod.map id Observed.transport (observed.send command)
    unfold send
    rcases Transport.send command observed.transport with ⟨failure | sent, after⟩
    · rfl
    · rfl
  flush _ := rfl
  consumeInput _ := rfl
  isBusy _ := rfl
  takeResult _ := rfl
  takeResults _ := rfl
  checkOpen _ := rfl
  await _ _ := rfl
  patience _ := rfl
  transactionStatus _ := rfl
  isClosed _ := rfl
  finish _ := rfl
  record _ _ := rfl

end Observed

/-! ### Round trips -/

section Outcomes

variable {command : Command} {earlier log : List Asked} {result : QueryResult}

/-- The command was accepted, and its results come to this answer. -/
def Heard (command : Command) (answer : Option QueryResult) (earlier log : List Asked) : Prop :=
  ∃ asked, log = asked :: earlier ∧ asked.command = command ∧ asked.answer? = answer

def Granted (command : Command) (result : QueryResult) (earlier log : List Asked) : Prop :=
  ∃ asked, log = asked :: earlier ∧ asked.command = command ∧ asked.success? = some result

/-- The command was not accepted, or has not succeeded. -/
def Denied (command : Command) (earlier log : List Asked) : Prop :=
  log = earlier ∨ ∃ asked, log = asked :: earlier ∧ asked.command = command ∧ asked.success? = none

private theorem Heard.denied_of_none (heard : Heard command none earlier log) :
    Denied command earlier log := by
  obtain ⟨asked, same, isCommand, answer⟩ := heard
  refine .inr ⟨asked, same, isCommand, ?_⟩
  rw [Asked.success?, answer]
  rfl

theorem Heard.denied {error : Error} (heard : Heard command (some result) earlier log)
    (checked : result.check = .error error) : Denied command earlier log := by
  obtain ⟨asked, same, isCommand, answer⟩ := heard
  refine .inr ⟨asked, same, isCommand, ?_⟩
  rw [Asked.success?, answer, Option.bind_some, checked]
  rfl

theorem Heard.granted {checkedResult : QueryResult}
    (heard : Heard command (some result) earlier log)
    (checked : result.check = .ok checkedResult) :
    Granted command checkedResult earlier log := by
  obtain ⟨asked, same, isCommand, answer⟩ := heard
  refine ⟨asked, same, isCommand, ?_⟩
  rw [Asked.success?, answer, Option.bind_some, checked]
  rfl

end Outcomes

namespace RoundTrip

variable {τ : Type} [Transport τ] {command : Command} {earlier log : List Asked}

inductive Asking (command : Command) (earlier : List Asked) : RoundTrip → List Asked → Prop
  | unsent : Asking command earlier (.unsent command) earlier
  | sending (stage : Sending) : Asking command earlier (.sending stage) ({ command } :: earlier)
  | fetching (results : List QueryResult) :
      Asking command earlier (.fetching (results.foldl Gathering.add {}))
        ({ command, results } :: earlier)

inductive Goes (command : Command) (earlier : List Asked) :
    Turn QueryResult RoundTrip (Observed τ) → Prop
  | waits {wait : Wait} {trip : RoundTrip} {transport : Observed τ}
      (asking : Asking command earlier trip transport.log) :
      Goes command earlier ⟨.wait wait, trip, transport⟩
  | failed {failure : Failure} {trip : RoundTrip} {transport : Observed τ}
      (denied : Denied command earlier transport.log) :
      Goes command earlier ⟨.failed failure, trip, transport⟩
  | done {result : QueryResult} {trip : RoundTrip} {transport : Observed τ}
      (heard : Heard command (some result) earlier transport.log) :
      Goes command earlier ⟨.done result, trip, transport⟩

theorem Asking.denied {trip : RoundTrip} (asking : Asking command earlier trip log) :
    Denied command earlier log := by
  cases asking with
  | unsent => exact .inl rfl
  | sending stage => exact .inr ⟨_, rfl, rfl, rfl⟩
  | fetching results => exact .inr ⟨_, rfl, rfl, rfl⟩

/-- Where the results have been taken, the record tells what they come to. -/
theorem collect_goes {results : List QueryResult} (transport : τ) :
    Goes command earlier
      (collect (results.foldl Gathering.add {})
        (⟨transport, { command, results } :: earlier⟩ : Observed τ)) := by
  unfold collect
  rw [Observed.takeResults_eq, Observed.takeResults]
  rcases Transport.takeResults transport with ⟨others, after⟩
  have counted := @Gathering.outcome_foldl (results ++ others)
  dsimp only
  rw [Observed.isBusy_eq, ← List.foldl_append]
  cases Transport.isBusy after with
  | true => exact .waits (.fetching (results ++ others))
  | false =>
      rw [if_neg Bool.false_ne_true, counted]
      cases answer : QueryResult.conclusion? (results ++ others) with
      | none => exact .failed (Heard.denied_of_none ⟨_, rfl, rfl, answer⟩)
      | some result => exact .done ⟨_, rfl, rfl, answer⟩

private theorem write_log (sending : Sending) (observed : Observed τ) :
    (sending.write observed).transport.log = observed.log := by
  unfold Sending.write
  simp only [Observed.flush_eq, Observed.beside]
  rcases Transport.flush observed.transport with ⟨error | pending, after⟩
  · rfl
  · cases pending with
    | false => rfl
    | true => rfl

private theorem sending_log (ready : Ready) (stage : Sending) (observed : Observed τ) :
    (stage.resume ready observed).transport.log = observed.log := by
  cases stage with
  | done => rfl
  | fresh => exact write_log .waiting observed
  | waiting =>
      unfold Sending.resume
      by_cases readable : ready.readable = true
      · simp only [if_pos readable, Observed.consumeInput_eq, Observed.beside]
        rcases Transport.consumeInput observed.transport with ⟨error | consumed, after⟩
        · rfl
        · exact write_log .waiting _
      · simp only [if_neg readable]
        exact write_log .waiting observed

private theorem goOnSending_goes (ready : Ready) (stage : Sending) (transport : τ) :
    Goes command earlier
      (goOnSending ready stage (⟨transport, { command } :: earlier⟩ : Observed τ)) := by
  have unchanged := sending_log ready stage (⟨transport, { command } :: earlier⟩ : Observed τ)
  unfold goOnSending
  generalize stage.resume ready (⟨transport, { command } :: earlier⟩ : Observed τ) = turn
    at unchanged ⊢
  obtain ⟨step, next, ⟨after, log⟩⟩ := turn
  cases unchanged
  cases step with
  | wait wait => exact .waits (.sending next)
  | done sent => exact collect_goes after
  | failed failure => exact .failed (Asking.sending next).denied

theorem resume_goes (ready : Ready) {trip : RoundTrip} {observed : Observed τ}
    (asking : Asking command earlier trip observed.log) :
    Goes command earlier (trip.resume ready observed) := by
  obtain ⟨transport, log⟩ := observed
  cases asking with
  | unsent =>
      simp only [resume, Observed.send_eq, Observed.send]
      rcases Transport.send command transport with ⟨failure | sent, after⟩
      · exact .failed (.inl rfl)
      · exact goOnSending_goes .nothing .fresh after
  | sending stage => exact goOnSending_goes ready stage transport
  | fetching results =>
      simp only [resume, Observed.consumeInput_eq, Observed.beside]
      rcases Transport.consumeInput transport with ⟨error | read, after⟩
      · exact .failed (Asking.fetching results).denied
      · exact collect_goes after

end RoundTrip

/-! ### Whole calls -/

section Calls

variable {α γ τ : Type} [Exchange γ α] [Transport τ] {Going : γ → List Asked → Prop}
  {Over : Except Failure α → γ → List Asked → Prop}

def Turn.Leads (Going : γ → List Asked → Prop) (Over : Except Failure α → γ → List Asked → Prop)
    (turn : Turn α γ (Observed τ)) : Prop :=
  match turn.step with
  | .wait _ => Going turn.exchange turn.transport.log
  | .done value => Over (.ok value) turn.exchange turn.transport.log
  | .failed failure => Over (.error failure) turn.exchange turn.transport.log

/-- What the record tells of an exchange that goes on is kept by each of its turns, and an
exchange that goes on can be given up. -/
structure Tells (τ : Type) [Transport τ] (Going : γ → List Asked → Prop)
    (Over : Except Failure α → γ → List Asked → Prop) : Prop where
  turn : ∀ (ready : Ready) (exchange : γ) (observed : Observed τ), Going exchange observed.log →
    (Exchange.resume ready exchange observed).Leads Going Over
  cut : ∀ (failure : Failure) (exchange : γ) (log : List Asked), Going exchange log →
    Over (.error failure) exchange log

namespace Waiting

theorem upholds_tells (tells : Tells τ Going Over) (timeout : Option Nat) :
    Upholds timeout (fun exchange observed => Going exchange (Observed.log observed))
      (fun exchange observed => Going exchange observed.log)
      fun ended => Over ended.outcome ended.exchange (Observed.log (τ := τ) ended.transport) where
  turn ready {exchange observed} going := tells.turn ready exchange observed going
  waits _ _ _ going := going
  again going := going
  refused going _ := tells.cut _ _ _ going
  timedOut going := tells.cut _ _ _ going
  abandoned going := tells.cut _ _ _ going

end Waiting

theorem Session.settle_log (outcome : Except Failure α) (session : Session (Observed τ)) :
    (settle outcome session).transport.log = session.transport.log :=
  settle_part (fun session : Session (Observed τ) => session.transport.log) (fun _ _ => rfl)
    (fun _ _ => rfl) outcome session

/-- What the record tells of an exchange at its beginning it tells of it at its end, however
it is driven and however that ends. -/
theorem Session.run_tells (tells : Tells τ Going Over) (manner : Manner) (exchange : γ)
    (session : Session (Observed τ)) (going : Going exchange session.transport.log) :
    let answered := session.run manner exchange
    Over answered.outcome answered.exchange answered.session.transport.log := by
  have driven : let ended := Waiting.run manner session.timeout exchange session.transport
      Over ended.outcome ended.exchange ended.transport.log := by
    exact (Waiting.upholds_tells tells session.timeout).run manner going
  unfold run
  generalize Waiting.run manner session.timeout exchange session.transport = ended at driven ⊢
  obtain ⟨outcome, next, after⟩ := ended
  dsimp only at driven ⊢
  rw [settle_log]
  exact driven

end Calls

end PgClient

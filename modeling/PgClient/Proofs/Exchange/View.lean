/-
Exchanges over transports that show the same.

An exchange learns of a transport only what the operations of a transport tell. So where
one transport can be taken for another, under a view that goes with every operation, an
exchange takes the same course over both. A transport that is watched can be taken for the
one that is not.
-/

import PgClient.Cursor.Basic

namespace PgClient

variable {σ τ : Type} [Transport σ] [Transport τ]

/-! ### Views -/

/-- Every operation tells the same of a transport and of what it is taken for, and what it
leaves of the one is taken for what it leaves of the other. -/
structure Transport.IsView (view : σ → τ) : Prop where
  send : ∀ command transport,
    Transport.send command (view transport) =
      Prod.map id view (Transport.send command transport)
  flush : ∀ transport,
    Transport.flush (view transport) = Prod.map id view (Transport.flush transport)
  consumeInput : ∀ transport,
    Transport.consumeInput (view transport) = Prod.map id view (Transport.consumeInput transport)
  isBusy : ∀ transport, Transport.isBusy (view transport) = Transport.isBusy transport
  takeResult : ∀ transport,
    Transport.takeResult (view transport) = Prod.map id view (Transport.takeResult transport)
  takeResults : ∀ transport,
    Transport.takeResults (view transport) = Prod.map id view (Transport.takeResults transport)
  checkOpen : ∀ transport, Transport.checkOpen (view transport) = Transport.checkOpen transport
  await : ∀ wait transport,
    Transport.await wait (view transport) = Prod.map id view (Transport.await wait transport)
  patience : ∀ transport, Transport.patience (view transport) = Transport.patience transport
  transactionStatus : ∀ transport,
    Transport.transactionStatus (view transport) = Transport.transactionStatus transport
  isClosed : ∀ transport, Transport.isClosed (view transport) = Transport.isClosed transport
  finish : ∀ transport, Transport.finish (view transport) = view (Transport.finish transport)
  record : ∀ event transport,
    Transport.record event (view transport) = view (Transport.record event transport)

/-- What is taken for something that is taken for a third. -/
theorem Transport.IsView.comp {ρ : Type} [Transport ρ] {outer : σ → τ} {inner : ρ → σ}
    (outerIsView : Transport.IsView outer) (innerIsView : Transport.IsView inner) :
    Transport.IsView (outer ∘ inner) where
  send command transport := by
    rw [Function.comp, outerIsView.send, innerIsView.send]
    rfl
  flush transport := by
    rw [Function.comp, outerIsView.flush, innerIsView.flush]
    rfl
  consumeInput transport := by
    rw [Function.comp, outerIsView.consumeInput, innerIsView.consumeInput]
    rfl
  isBusy transport := (outerIsView.isBusy _).trans (innerIsView.isBusy transport)
  takeResult transport := by
    rw [Function.comp, outerIsView.takeResult, innerIsView.takeResult]
    rfl
  takeResults transport := by
    rw [Function.comp, outerIsView.takeResults, innerIsView.takeResults]
    rfl
  checkOpen transport := (outerIsView.checkOpen _).trans (innerIsView.checkOpen transport)
  await wait transport := by
    rw [Function.comp, outerIsView.await, innerIsView.await]
    rfl
  patience transport := (outerIsView.patience _).trans (innerIsView.patience transport)
  transactionStatus transport :=
    (outerIsView.transactionStatus _).trans (innerIsView.transactionStatus transport)
  isClosed transport := (outerIsView.isClosed _).trans (innerIsView.isClosed transport)
  finish transport := by
    rw [Function.comp, outerIsView.finish, innerIsView.finish]
    rfl
  record event transport := by
    rw [Function.comp, outerIsView.record, innerIsView.record]
    rfl

def Turn.through {α γ : Type} (view : σ → τ) (turn : Turn α γ σ) : Turn α γ τ :=
  ⟨turn.step, turn.exchange, view turn.transport⟩

/-- Exchanges that take the same course over transports that show the same. -/
class Uniform (γ : Type) (α : outParam Type) [Exchange γ α] : Prop where
  resume_through : ∀ {σ τ : Type} [Transport σ] [Transport τ] {view : σ → τ},
    Transport.IsView view → ∀ (ready : Ready) (exchange : γ) (transport : σ),
      Exchange.resume ready exchange (view transport) =
        (Exchange.resume ready exchange transport).through view

variable {view : σ → τ}

/-! ### Round trips -/

namespace RoundTrip

private theorem write_through (isView : Transport.IsView view) (sending : Sending) (transport : σ) :
    sending.write (view transport) = (sending.write transport).through view := by
  unfold Sending.write
  rw [isView.flush]
  rcases Transport.flush transport with ⟨pending | pending, after⟩
  · rfl
  · cases pending with
    | false => rfl
    | true => rfl

private theorem sending_through (isView : Transport.IsView view) (ready : Ready) (sending : Sending)
    (transport : σ) :
    sending.resume ready (view transport) = (sending.resume ready transport).through view := by
  cases sending with
  | done => rfl
  | fresh => exact write_through isView .waiting transport
  | waiting =>
      unfold Sending.resume
      by_cases readable : ready.readable = true
      · simp only [if_pos readable]
        rw [isView.consumeInput]
        rcases Transport.consumeInput transport with ⟨error | consumed, after⟩
        · rfl
        · exact write_through isView .waiting after
      · simp only [if_neg readable]
        exact write_through isView .waiting transport

private theorem collect_through (isView : Transport.IsView view) (gathering : Gathering)
    (transport : σ) :
    collect gathering (view transport) = (collect gathering transport).through view := by
  unfold collect
  rw [isView.takeResults]
  rcases Transport.takeResults transport with ⟨results, after⟩
  simp only [Prod.map, id, isView.isBusy]
  by_cases busy : Transport.isBusy after = true
  · simp only [if_pos busy]
    rfl
  · simp only [if_neg busy]
    cases (results.foldl Gathering.add gathering).outcome with
    | none => rfl
    | some result => rfl

private theorem goOnSending_through (isView : Transport.IsView view) (ready : Ready)
    (stage : Sending) (transport : σ) :
    goOnSending ready stage (view transport) =
      (goOnSending ready stage transport).through view := by
  unfold goOnSending
  rw [sending_through isView]
  rcases stage.resume ready transport with ⟨wait | value | failure, next, after⟩
  · rfl
  · exact collect_through isView {} after
  · rfl

theorem resume_through (isView : Transport.IsView view) (ready : Ready) (trip : RoundTrip)
    (transport : σ) :
    trip.resume ready (view transport) = (trip.resume ready transport).through view := by
  cases trip with
  | unsent command =>
      unfold RoundTrip.resume
      simp only [isView.send]
      rcases Transport.send command transport with ⟨failure | sent, after⟩
      · rfl
      · exact goOnSending_through isView .nothing .fresh after
  | sending stage => exact goOnSending_through isView ready stage transport
  | fetching gathering =>
      unfold RoundTrip.resume
      simp only [isView.consumeInput]
      rcases Transport.consumeInput transport with ⟨error | consumed, after⟩
      · rfl
      · exact collect_through isView gathering after
  | done => rfl

end RoundTrip

instance : Uniform RoundTrip QueryResult where
  resume_through := RoundTrip.resume_through

/-! ### Exchanges of several round trips -/

instance {α γ : Type} [Exchange γ α] [Uniform γ α] : Uniform (Transactional γ) α where
  resume_through isView ready exchange transport := by
    obtain ⟨start, inner⟩ := exchange
    change Transactional.resume ready _ _ = Turn.through _ (Transactional.resume ready _ _)
    unfold Transactional.resume Transactional.goOn
    cases start with
    | none =>
        simp only [Uniform.resume_through isView]
        rfl
    | some start =>
        simp only [RoundTrip.resume_through isView]
        rcases start.resume ready transport with ⟨wait | result | failure, next, after⟩
        · rfl
        · dsimp only [Turn.through]
          cases result.check with
          | error error => rfl
          | ok result =>
              simp only [Uniform.resume_through isView]
              rfl
        · rfl

namespace Declaring

private theorem describe_through (isView : Transport.IsView view) (ready : Ready)
    (exchange : Declaring) (transport : σ) :
    exchange.describe ready (view transport) =
      (exchange.describe ready transport).through view := by
  unfold describe
  simp only [RoundTrip.resume_through isView]
  rcases exchange.trip.resume ready transport with ⟨wait | result | failure, next, after⟩
  · rfl
  · dsimp only [Turn.through]
    cases result.check with
    | error error => rfl
    | ok result => rfl
  · rfl

instance : Uniform Declaring Unit where
  resume_through isView ready exchange transport := by
    change Declaring.resume ready _ _ = Turn.through _ (Declaring.resume ready _ _)
    unfold Declaring.resume
    by_cases acknowledged : exchange.acknowledged = true
    · simp only [if_pos acknowledged]
      exact describe_through isView ready exchange transport
    · simp only [if_neg acknowledged, RoundTrip.resume_through isView]
      rcases exchange.trip.resume ready transport with ⟨wait | result | failure, next, after⟩
      · rfl
      · dsimp only [Turn.through]
        cases result.check with
        | error error => rfl
        | ok result => exact describe_through isView .nothing _ after
      · rfl

end Declaring

namespace Working

private theorem work_through (isView : Transport.IsView view) (ready : Ready) (exchange : Working)
    (transport : σ) :
    exchange.work ready (view transport) = (exchange.work ready transport).through view := by
  obtain ⟨portal, description, statement, fetching⟩ := exchange
  unfold work
  cases statement with
  | none => rfl
  | some trip =>
      simp only [RoundTrip.resume_through isView]
      rcases trip.resume ready transport with ⟨wait | result | failure, next, after⟩
      · rfl
      · dsimp only [Turn.through]
        cases result.check with
        | error error => rfl
        | ok result =>
            cases fetching with
            | false => rfl
            | true => rfl
      · rfl

instance : Uniform Working (List Row) where
  resume_through isView ready exchange transport := by
    obtain ⟨portal, description, statement, fetching⟩ := exchange
    change Working.resume ready _ _ = Turn.through _ (Working.resume ready _ _)
    unfold Working.resume
    cases description with
    | none => exact work_through isView ready _ transport
    | some trip =>
        simp only [RoundTrip.resume_through isView]
        rcases trip.resume ready transport with ⟨wait | result | failure, next, after⟩
        · rfl
        · dsimp only [Turn.through]
          cases result.check with
          | error error => rfl
          | ok result => exact work_through isView .nothing _ after
        · rfl

end Working

namespace Closing

private theorem letGo_through (isView : Transport.IsView view) (ready : Ready) (exchange : Closing)
    (transport : σ) :
    exchange.letGo ready (view transport) = (exchange.letGo ready transport).through view := by
  unfold letGo
  simp only [RoundTrip.resume_through isView]
  rcases exchange.release.resume ready transport with ⟨wait | result | failure, next, after⟩
  · rfl
  · dsimp only [Turn.through]
    cases result.check with
    | error error => rfl
    | ok result => rfl
  · rfl

instance : Uniform Closing Unit where
  resume_through isView ready exchange transport := by
    obtain ⟨existence, release⟩ := exchange
    change Closing.resume ready _ _ = Turn.through _ (Closing.resume ready _ _)
    unfold Closing.resume
    cases existence with
    | none => exact letGo_through isView ready _ transport
    | some trip =>
        simp only [RoundTrip.resume_through isView]
        rcases trip.resume ready transport with ⟨wait | result | failure, next, after⟩
        · rfl
        · dsimp only [Turn.through]
          cases result.check with
          | error error => rfl
          | ok result =>
              dsimp only
              cases result.rows.isEmpty with
              | true => rfl
              | false => exact letGo_through isView .nothing _ after
        · rfl

end Closing

/-! ### Whole calls -/

def Ended.through {α γ : Type} (view : σ → τ) (ended : Ended α γ σ) : Ended α γ τ :=
  ⟨ended.outcome, ended.exchange, view ended.transport⟩

namespace Waiting

variable {α γ : Type} [Exchange γ α] [Uniform γ α]

private theorem mayWait_through (isView : Transport.IsView view) (timeout : Option Nat)
    (transport : σ) :
    mayWait timeout (view transport) = mayWait timeout transport := by
  unfold mayWait
  rw [isView.checkOpen]

theorem awaitTask_through (isView : Transport.IsView view) (timeout : Option Nat) (patience : Nat)
    (givenUpAt : Option Nat) (ready : Ready) (exchange : γ) (transport : σ) :
    awaitTask timeout patience givenUpAt ready exchange (view transport) =
      (awaitTask timeout patience givenUpAt ready exchange transport).through view := by
  induction patience generalizing givenUpAt ready exchange transport with
  | zero => rfl
  | succ patience ih =>
      unfold awaitTask poll
      simp only [Uniform.resume_through isView]
      rcases Exchange.resume ready exchange transport with ⟨wait | value | failure, next, after⟩
      · dsimp only [Turn.through]
        rw [mayWait_through isView]
        cases mayWait timeout after with
        | error error => rfl
        | ok allowed =>
            dsimp only
            by_cases givenUp : givenUpAt = some 0
            · simp only [if_pos givenUp]
              rfl
            · simp only [if_neg givenUp, isView.await]
              rcases Transport.await wait after with ⟨none | ready, later⟩
              · rfl
              · exact ih _ ready next later
      · rfl
      · rfl

theorem run_through (isView : Transport.IsView view) (manner : Manner) (timeout : Option Nat)
    (exchange : γ) (transport : σ) :
    run manner timeout exchange (view transport) =
      (run manner timeout exchange transport).through view := by
  rw [run_eq_awaitTask, run_eq_awaitTask, isView.patience]
  exact awaitTask_through isView ..

end Waiting

namespace Session

variable {α γ : Type} [Exchange γ α] [Uniform γ α]

def through (view : σ → τ) (session : Session σ) : Session τ :=
  { session with transport := view session.transport }

def Answered.through (view : σ → τ) (answered : Answered α γ σ) : Answered α γ τ :=
  ⟨answered.outcome, answered.exchange, answered.session.through view⟩

theorem inTransaction_through (isView : Transport.IsView view) (session : Session σ) (inner : γ) :
    (session.through view).inTransaction inner = session.inTransaction inner := by
  have status : (session.through view).transactionStatus = session.transactionStatus :=
    isView.transactionStatus session.transport
  unfold inTransaction
  rw [status]
  rfl

private theorem cutShort_through (isView : Transport.IsView view) (event : Event)
    (session : Session σ) :
    (session.through view).cutShort event = (session.cutShort event).through view := by
  unfold cutShort through
  rw [isView.record, isView.finish]

private theorem settle_through (isView : Transport.IsView view) (outcome : Except Failure α)
    (session : Session σ) :
    settle outcome (session.through view) = (settle outcome session).through view := by
  have noticed (session : Session σ) :
      ({ session.through view with
        closed := (session.through view).closed ||
          Transport.isClosed (session.through view).transport } : Session τ) =
      ({ session with
        closed := session.closed || Transport.isClosed session.transport } :
          Session σ).through view := by
    unfold through
    rw [isView.isClosed]
  cases outcome with
  | ok value => exact noticed session
  | error failure =>
      cases failure with
      | error error =>
          unfold settle
          by_cases timeout : error.isTimeout = true
          · simp only [if_pos timeout, cutShort_through isView]
            exact noticed _
          · simp only [if_neg timeout]
            exact noticed session
      | defect defect =>
          simp only [settle, cutShort_through isView]
          rfl
      | abandoned =>
          simp only [settle, cutShort_through isView]
          rfl

/-- A call takes the same course in a session over what its transport is taken for. -/
theorem run_through (isView : Transport.IsView view) (manner : Manner) (exchange : γ)
    (session : Session σ) :
    (session.through view).run manner exchange =
      Answered.through view (session.run manner exchange) := by
  unfold run
  change (match Waiting.run manner session.timeout exchange (view session.transport) with
    | ⟨outcome, exchange, transport⟩ =>
        (⟨outcome, exchange, settle outcome { session.through view with transport }⟩ :
          Answered α γ τ)) = _
  rw [Waiting.run_through isView]
  rcases Waiting.run manner session.timeout exchange session.transport with
    ⟨outcome, next, after⟩
  exact congrArg (Answered.mk outcome next)
    (settle_through isView outcome { session with transport := after })

end Session

/-! ### Calls on a cursor -/

namespace Cursor

variable (isView : Transport.IsView view) (manner : Manner) (cursor : Cursor)
  (session : Session σ)

def told {α : Type} (view : σ → τ) (called : α × Cursor × Session σ) : α × Cursor × Session τ :=
  (called.1, called.2.1, called.2.2.through view)

include isView

theorem execute_through (query : String) (parameters : List Parameter) (options : DeclareOptions) :
    cursor.execute manner query parameters options (session.through view) =
      told view (cursor.execute manner query parameters options session) := by
  unfold execute
  cases cursor.portal.declare query parameters options with
  | error error => rfl
  | ok declaring =>
      have checked : (session.through view).checkOpen = session.checkOpen := rfl
      dsimp only
      rw [checked]
      cases session.checkOpen with
      | error error => rfl
      | ok checked =>
          dsimp only
          rw [Session.inTransaction_through isView, Session.run_through isView]
          rcases session.run manner (session.inTransaction declaring) with
            ⟨failure | done, exchange, after⟩
          · rfl
          · rfl

private theorem work_through (asked : Except Error Working) :
    cursor.work manner asked (session.through view) =
      told view (cursor.work manner asked session) := by
  unfold work
  cases asked with
  | error error => rfl
  | ok working =>
      have checked : (session.through view).checkOpen = session.checkOpen := rfl
      dsimp only
      rw [checked]
      cases session.checkOpen with
      | error error => rfl
      | ok checked =>
          dsimp only
          rw [Session.run_through isView]
          rcases session.run manner working with ⟨outcome, exchange, after⟩
          rfl

theorem describe_through :
    cursor.describe manner (session.through view) = told view (cursor.describe manner session) := by
  unfold describe
  rw [work_through isView]
  rcases cursor.work manner cursor.portal.describe session with ⟨failure | rows, next, after⟩
  · rfl
  · rfl

theorem fetch_through (count : Option Nat) :
    cursor.fetch manner count (session.through view) =
      told view (cursor.fetch manner count session) := by
  unfold fetch
  rw [work_through isView]
  rcases cursor.work manner (cursor.portal.fetch count) session with ⟨failure | rows, next, after⟩
  · rfl
  · rfl

theorem scroll_through (value : Int64) (mode : ScrollMode) :
    cursor.scroll manner value mode (session.through view) =
      told view (cursor.scroll manner value mode session) := by
  unfold scroll
  rw [work_through isView]
  rcases cursor.work manner (cursor.portal.scroll value.toInt mode) session with
    ⟨failure | rows, next, after⟩
  · rfl
  · rfl

theorem close_through :
    cursor.close manner (session.through view) = told view (cursor.close manner session) := by
  have status : (session.through view).transactionStatus = session.transactionStatus :=
    isView.transactionStatus session.transport
  unfold close
  rw [status]
  rcases cursor.portal.close session.transactionStatus with ⟨none | closing, portal⟩
  · rfl
  · dsimp only
    rw [Session.run_through isView]
    rcases session.run manner closing with ⟨outcome, exchange, after⟩
    rfl

end Cursor

end PgClient

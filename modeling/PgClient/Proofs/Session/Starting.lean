/-
Calls that start a transaction.

An exchange that is driven after the one that starts a transaction is that other one first.
If that fails, so does the call, and what would have followed has not begun. If it does not,
what follows is driven from where it has left the session. An exchange that nothing comes
before is driven as it is.
-/

import PgClient.Session

namespace PgClient

variable {α γ τ : Type} [Exchange γ α] [Transport τ]

def Ended.within (ended : Ended α γ τ) : Ended α (Transactional γ) τ :=
  { outcome := ended.outcome
    exchange :=
      { start := none
        inner := ended.exchange }
    transport := ended.transport }

namespace Waiting

def drive (manner : Manner) (timeout : Option Nat) (patience : Nat) (exchange : γ)
    (transport : τ) : Ended α γ τ :=
  awaitTask timeout patience manner.givenUpAt .nothing exchange transport

theorem run_eq_drive (manner : Manner) (timeout : Option Nat) (exchange : γ) (transport : τ) :
    run manner timeout exchange transport =
      drive manner timeout (Transport.patience transport + 1) exchange transport :=
  run_eq_awaitTask ..

/-! ### Nothing before an exchange -/

theorem resume_unstarted (ready : Ready) (inner : γ) (transport : τ) :
    Exchange.resume ready ({ start := none, inner } : Transactional γ) transport =
      Transactional.goOn ready inner transport :=
  rfl

private theorem awaitTask_unstarted (timeout : Option Nat) (patience : Nat) (givenUpAt : Option Nat)
    (ready : Ready) (inner : γ) (transport : τ) :
    awaitTask timeout patience givenUpAt ready ({ start := none, inner } : Transactional γ)
        transport =
      (awaitTask timeout patience givenUpAt ready inner transport).within := by
  induction patience generalizing givenUpAt ready inner transport with
  | zero => rfl
  | succ patience ih =>
      unfold awaitTask poll
      rw [resume_unstarted, Transactional.goOn]
      rcases Exchange.resume ready inner transport with ⟨wait | value | failure, next, after⟩
      · dsimp only
        cases mayWait timeout after with
        | error error => rfl
        | ok allowed =>
            dsimp only
            by_cases givenUp : givenUpAt = some 0
            · rw [if_pos givenUp, if_pos givenUp]
              rfl
            · rw [if_neg givenUp, if_neg givenUp]
              rcases Transport.await wait after with ⟨none | ready, later⟩
              · rfl
              · exact ih _ ready next later
      · rfl
      · rfl

private theorem drive_unstarted (manner : Manner) (timeout : Option Nat) (patience : Nat)
    (inner : γ) (transport : τ) :
    drive manner timeout patience ({ start := none, inner } : Transactional γ) transport =
      (drive manner timeout patience inner transport).within :=
  awaitTask_unstarted ..

/-! ### A transaction before an exchange -/

/-- The end of a call that has to start a transaction first, where the start ends by itself
as `alone`: it fails as the start does, or is what the exchange comes to from there on. -/
inductive Sequel (timeout : Option Nat) (inner : γ) (alone : Ended QueryResult RoundTrip τ) :
    Ended α (Transactional γ) τ → Prop
  | failed {failure : Failure} {start : Option RoundTrip}
      (failed : Session.checked alone.outcome = .error failure) :
      Sequel timeout inner alone ⟨.error failure, { start, inner }, alone.transport⟩
  | goesOn {result : QueryResult} (manner : Manner) (patience : Nat)
      (granted : Session.checked alone.outcome = .ok result) :
      Sequel timeout inner alone (drive manner timeout patience inner alone.transport).within

section

variable {start next : RoundTrip} {inner : γ} {result passed : QueryResult} {error : Error}
  {ready : Ready} {transport after : τ}

private theorem resume_starting {wait : Wait}
    (waits : start.resume ready transport = ⟨.wait wait, next, after⟩) :
    Exchange.resume ready ({ start := some start, inner } : Transactional γ) transport =
      ⟨.wait wait, { start := some next, inner }, after⟩ := by
  change Transactional.resume ready _ transport = _
  simp only [Transactional.resume, waits]

theorem resume_unable {failure : Failure}
    (failed : start.resume ready transport = ⟨.failed failure, next, after⟩) :
    Exchange.resume ready ({ start := some start, inner } : Transactional γ) transport =
      ⟨.failed failure, { start := some next, inner }, after⟩ := by
  change Transactional.resume ready _ transport = _
  simp only [Transactional.resume, failed]

private theorem resume_denied (ended : start.resume ready transport = ⟨.done result, next, after⟩)
    (checked : result.check = .error error) :
    Exchange.resume ready ({ start := some start, inner } : Transactional γ) transport =
      ⟨.ofError error, { start := none, inner }, after⟩ := by
  change Transactional.resume ready _ transport = _
  simp only [Transactional.resume, ended, checked]

/-- The turn that ends the start is the first turn of the exchange. -/
theorem resume_started (ended : start.resume ready transport = ⟨.done result, next, after⟩)
    (checked : result.check = .ok passed) :
    Exchange.resume ready ({ start := some start, inner } : Transactional γ) transport =
      Exchange.resume .nothing ({ start := none, inner } : Transactional γ) after := by
  change Transactional.resume ready _ transport = _
  simp only [Transactional.resume, ended, checked]
  rfl

end

private theorem awaitTask_started (timeout : Option Nat) (patience : Nat) (givenUpAt : Option Nat)
    (ready : Ready) (start : RoundTrip) (inner : γ) (transport : τ) :
    Sequel timeout inner (awaitTask timeout patience givenUpAt ready start transport)
      (awaitTask timeout patience givenUpAt ready
        ({ start := some start, inner } : Transactional γ) transport) := by
  induction patience generalizing givenUpAt ready start transport with
  | zero => exact .failed rfl
  | succ patience ih =>
      have alone : Exchange.resume ready start transport = start.resume ready transport := rfl
      rcases resumed : start.resume ready transport with ⟨wait | result | failure, next, after⟩
      · rw [awaitTask, awaitTask, poll, poll, alone, resumed, resume_starting resumed]
        dsimp only
        cases mayWait timeout after with
        | error error => exact .failed rfl
        | ok allowed =>
            dsimp only
            by_cases givenUp : givenUpAt = some 0
            · rw [if_pos givenUp, if_pos givenUp]
              exact .failed rfl
            · rw [if_neg givenUp, if_neg givenUp]
              rcases Transport.await wait after with ⟨none | ready, later⟩
              · exact .failed rfl
              · exact ih _ ready next later
      · cases checked : result.check with
        | error error =>
            rw [awaitTask, awaitTask, poll, poll, alone, resumed, resume_denied resumed checked]
            exact .failed (by rw [Session.checked, checked])
        | ok passed =>
            have driven : awaitTask timeout (patience + 1) givenUpAt ready
                ({ start := some start, inner } : Transactional γ) transport =
                  (drive (.async givenUpAt) timeout (patience + 1) inner after).within := by
              rw [drive, Manner.givenUpAt, ← awaitTask_unstarted, awaitTask, awaitTask, poll, poll,
                resume_started resumed checked]
            rw [driven, awaitTask, poll, alone, resumed]
            exact .goesOn (.async givenUpAt) (patience + 1) (by rw [Session.checked, checked])
      · rw [awaitTask, awaitTask, poll, poll, alone, resumed, resume_unable resumed]
        exact .failed rfl

private theorem run_started (manner : Manner) (timeout : Option Nat) (start : RoundTrip) (inner : γ)
    (transport : τ) :
    Sequel timeout inner (run manner timeout start transport)
      (run manner timeout ({ start := some start, inner } : Transactional γ) transport) := by
  rw [run_eq_awaitTask, run_eq_awaitTask]
  exact awaitTask_started ..

end Waiting

/-! ### A session -/

/-- An error of a result is no deadline that has passed. -/
theorem QueryResult.isTimeout_of_check {result : QueryResult} {error : Error}
    (checked : result.check = .error error) : error.isTimeout = false := by
  unfold check at checked
  split at checked
  · cases checked
    rfl
  · cases checked
    rfl
  · cases checked

namespace Session

theorem settle_congr {β : Type} (failure : Failure) (session : Session τ) :
    settle (.error failure : Except Failure α) session =
      settle (.error failure : Except Failure β) session := by
  cases failure with
  | error error => rfl
  | defect defect => rfl
  | abandoned => rfl

/-- A call that fails with what its round trip has ended with leaves what that has left. -/
theorem settle_checked {outcome : Except Failure QueryResult} {failure : Failure}
    (failed : checked outcome = .error failure) (session : Session τ) :
    settle (.error failure : Except Failure α) session = settle outcome session := by
  cases outcome with
  | error other =>
      cases failed
      exact settle_congr failure session
  | ok result =>
      unfold checked at failed
      dsimp only at failed
      split at failed
      · rename_i error checked
        cases failed
        unfold settle
        dsimp only
        rw [QueryResult.isTimeout_of_check checked]
        rfl
      · cases failed

def concluded (session : Session τ) (ended : Ended α γ τ) : Answered α γ τ :=
  { outcome := ended.outcome
    exchange := ended.exchange
    session := settle ended.outcome { session with transport := ended.transport } }

/-- If the start fails, the call fails as it does and leaves what it has left, and the
exchange has not begun. -/
theorem run_of_start_failed (inner : γ) {manner : Manner} {start : RoundTrip}
    {session : Session τ} {failure : Failure}
    (failed : checked (session.run manner start).outcome = .error failure) :
    ∃ start' : Option RoundTrip,
      session.run manner ({ start := some start, inner } : Transactional γ) =
        { outcome := .error failure
          exchange := { start := start', inner }
          session := (session.run manner start).session } := by
  have sequel := Waiting.run_started manner session.timeout start inner session.transport
  unfold run at failed ⊢
  generalize Waiting.run manner session.timeout start session.transport = alone at sequel failed ⊢
  generalize Waiting.run manner session.timeout ({ start := some start, inner } : Transactional γ)
    session.transport = whole at sequel ⊢
  dsimp only at failed ⊢
  cases sequel with
  | @failed other start' same =>
      cases failed.symm.trans same
      refine ⟨start', ?_⟩
      rw [settle_checked failed]
  | goesOn manner patience granted => cases failed.symm.trans granted

/-- If the start does not fail, the exchange is driven from where it has left the session. -/
theorem run_of_start_granted (inner : γ) {manner : Manner} {start : RoundTrip}
    {session : Session τ} {result : QueryResult}
    (granted : checked (session.run manner start).outcome = .ok result) :
    ∃ manner' patience,
      session.run manner ({ start := some start, inner } : Transactional γ) =
        session.concluded
          (Waiting.drive manner' session.timeout patience inner
            (session.run manner start).session.transport).within := by
  have sequel := Waiting.run_started manner session.timeout start inner session.transport
  unfold run at granted ⊢
  generalize Waiting.run manner session.timeout start session.transport = alone
    at sequel granted ⊢
  generalize Waiting.run manner session.timeout ({ start := some start, inner } : Transactional γ)
    session.transport = whole at sequel ⊢
  dsimp only at granted ⊢
  cases sequel with
  | failed failed => cases granted.symm.trans failed
  | goesOn manner' patience same =>
      obtain ⟨outcome, trip, transport⟩ := alone
      cases outcome with
      | error failure => cases granted
      | ok first => exact ⟨manner', patience, rfl⟩

/-- Where nothing is started, a call is driven as its exchange is. -/
theorem run_unstarted (manner : Manner) (inner : γ) (session : Session τ) :
    session.run manner ({ start := none, inner } : Transactional γ) =
      session.concluded (Waiting.run manner session.timeout inner session.transport).within := by
  rw [Waiting.run_eq_drive, ← Waiting.drive_unstarted, ← Waiting.run_eq_drive]
  rfl

end Session

end PgClient

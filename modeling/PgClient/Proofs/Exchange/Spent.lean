/-
Exchanges that have come to their end.

What an exchange does when it is taken up once more after that hangs on the state it was left
in. A round trip that is done refuses, and so does all that ends with a round trip. A portal
that has only been described is left without any, and one that is not there any more is left
with the round trip that would have released it.
-/

import PgClient.Cursor.Portal
import PgClient.Proofs.Exchange.Conclusion
import PgClient.Proofs.Wire.Layout
import PgClient.Session

namespace PgClient

open FrontendMessage (stream)

/-! ### Ends -/

section

variable {α γ τ : Type} [Exchange γ α] [Transport τ]

/-- Taking up the exchange is a defect, which neither changes it nor touches the transport. -/
def Spent (exchange : γ) : Prop :=
  ∀ {τ : Type} [Transport τ] (ready : Ready) (transport : τ),
    Exchange.resume ready exchange transport = ⟨.completed, exchange, transport⟩

/-- An exchange goes on as another one while it waits, whatever happens to the transport in
the meantime. -/
inductive GoesOnAs : γ → γ → Prop
  | same (exchange : γ) : GoesOnAs exchange exchange
  | waits {τ : Type} [Transport τ] {ready : Ready} {exchange last : γ} {transport : τ} {wait : Wait}
      (waiting : (Exchange.resume ready exchange transport).step = .wait wait)
      (later : GoesOnAs (Exchange.resume ready exchange transport).exchange last) :
      GoesOnAs exchange last

def EndsIn (left : γ → Prop) (exchange : γ) : Prop :=
  ∀ last, GoesOnAs exchange last →
    ∀ {τ : Type} [Transport τ] (ready : Ready) (transport : τ) (value : α),
      (Exchange.resume ready last transport).step = .done value →
        left (Exchange.resume ready last transport).exchange

def Turn.Leaves (going left : γ → Prop) (turn : Turn α γ τ) : Prop :=
  match turn.step with
  | .wait _ => going turn.exchange
  | .done _ => left turn.exchange
  | .failed _ => True

variable {going left : γ → Prop} {exchange : γ}

/-- What every turn keeps while an exchange goes on tells how it ends. -/
theorem EndsIn.of_turns
    (turns : ∀ {τ : Type} [Transport τ] (ready : Ready) (exchange : γ) (transport : τ),
      going exchange → (Exchange.resume ready exchange transport).Leaves going left)
    (goes : going exchange) : EndsIn left exchange := by
  intro last onward τ _ ready transport value ended
  induction onward with
  | same exchange =>
      have leaves := turns ready exchange transport goes
      rw [Turn.Leaves, ended] at leaves
      exact leaves
  | @waits _ _ seen exchange _ before _ waiting _ ih =>
      have leaves := turns seen exchange before goes
      rw [Turn.Leaves, waiting] at leaves
      exact ih leaves ended

private theorem EndsIn.mono {other : γ → Prop} (ends : EndsIn left exchange)
    (implied : ∀ last, left last → other last) : EndsIn other exchange :=
  fun last onward _ _ ready transport value ended =>
    implied _ (ends last onward ready transport value ended)

/-- The next turn is one of those that the exchange can come to its end by. -/
theorem EndsIn.resume_leaves (ends : EndsIn left exchange) (ready : Ready) (transport : τ) :
    (Exchange.resume ready exchange transport).Leaves (EndsIn left) left := by
  unfold Turn.Leaves
  cases stepped : (Exchange.resume ready exchange transport).step with
  | wait wait => exact fun last onward => ends last (.waits stepped onward)
  | done value => exact ends exchange (.same exchange) ready transport value stepped
  | failed failure => exact trivial

end

/-! ### Round trips -/

namespace Sending

variable {τ : Type} [Transport τ]

private theorem write_leaves (stage : Sending) (transport : τ) :
    (stage.write transport).Leaves (fun _ => True) (· = .done) := by
  unfold write
  split
  · exact trivial
  · exact trivial
  · exact rfl

private theorem resume_leaves (ready : Ready) (stage : Sending) (transport : τ) :
    (stage.resume ready transport).Leaves (fun _ => True) (· = .done) := by
  unfold resume
  split
  · exact trivial
  · exact write_leaves _ _
  · split
    · split
      · exact trivial
      · exact write_leaves _ _
    · exact write_leaves _ _

private theorem endsIn_done (stage : Sending) : EndsIn (· = .done) stage :=
  .of_turns (fun ready stage transport _ => stage.resume_leaves ready transport) trivial

private theorem spent_done : Spent Sending.done :=
  fun _ _ => rfl

end Sending

namespace Fetching

variable {τ : Type} [Transport τ]

private theorem take_leaves (transport : τ) :
    (take transport).Leaves (fun _ => True) (· = .done) := by
  unfold take
  split
  · exact trivial
  · exact rfl

private theorem resume_leaves (fetching : Fetching) (transport : τ) :
    (fetching.resume transport).Leaves (fun _ => True) (· = .done) := by
  unfold resume
  split
  · exact take_leaves _
  · split
    · exact trivial
    · exact take_leaves _
  · exact trivial

private theorem endsIn_done (fetching : Fetching) : EndsIn (· = .done) fetching :=
  .of_turns (fun _ fetching transport _ => fetching.resume_leaves transport) trivial

private theorem spent_done : Spent Fetching.done :=
  fun _ _ => rfl

end Fetching

namespace RoundTrip

variable {τ : Type} [Transport τ]

private theorem collect_leaves (gathering : Gathering) (transport : τ) :
    (collect gathering transport).Leaves (fun _ => True) (· = .done) := by
  unfold collect
  dsimp only
  split
  · exact trivial
  · split
    · exact rfl
    · exact trivial

private theorem goOnSending_leaves (ready : Ready) (stage : Sending) (transport : τ) :
    (goOnSending ready stage transport).Leaves (fun _ => True) (· = .done) := by
  unfold goOnSending
  split
  · exact trivial
  · exact trivial
  · exact collect_leaves _ _

private theorem resume_leaves (ready : Ready) (trip : RoundTrip) (transport : τ) :
    (trip.resume ready transport).Leaves (fun _ => True) (· = .done) := by
  unfold resume
  split
  · split
    · exact trivial
    · exact goOnSending_leaves _ _ _
  · exact goOnSending_leaves _ _ _
  · split
    · exact trivial
    · exact collect_leaves _ _
  · exact trivial

private theorem endsIn_done (trip : RoundTrip) : EndsIn (· = .done) trip :=
  .of_turns (fun ready trip transport _ => trip.resume_leaves ready transport) trivial

private theorem spent_done : Spent RoundTrip.done :=
  fun _ _ => rfl

end RoundTrip

/-! ### Exchanges of several round trips -/

namespace Transactional

variable {α γ τ : Type} [Exchange γ α] [Transport τ] {left : γ → Prop}

private theorem goOn_leaves {inner : γ} (ends : EndsIn left inner) (ready : Ready) (transport : τ) :
    (goOn ready inner transport).Leaves (fun exchange => EndsIn left exchange.inner)
      (fun exchange => exchange.start = none ∧ left exchange.inner) := by
  have leaves := ends.resume_leaves ready transport
  unfold goOn
  generalize Exchange.resume ready inner transport = turn at leaves ⊢
  obtain ⟨step, next, after⟩ := turn
  cases step with
  | wait wait => exact leaves
  | failed failure => exact trivial
  | done value => exact ⟨rfl, leaves⟩

private theorem resume_leaves (ready : Ready) (exchange : Transactional γ) (transport : τ)
    (ends : EndsIn left exchange.inner) :
    (exchange.resume ready transport).Leaves (fun exchange => EndsIn left exchange.inner)
      (fun exchange => exchange.start = none ∧ left exchange.inner) := by
  unfold resume
  split
  · exact goOn_leaves ends ready transport
  · split
    · exact ends
    · exact trivial
    · split
      · exact trivial
      · exact goOn_leaves ends .nothing _

/-- A transaction makes no difference to how an exchange ends. -/
theorem endsIn {exchange : Transactional γ} (ends : EndsIn left exchange.inner) :
    EndsIn (fun last => last.start = none ∧ left last.inner) exchange :=
  .of_turns resume_leaves ends

private theorem spent_of_inner {exchange : Transactional γ} (started : exchange.start = none)
    (spent : Spent exchange.inner) : Spent exchange := by
  obtain ⟨start, inner⟩ := exchange
  subst started
  intro τ _ ready transport
  change goOn ready inner transport = _
  rw [goOn, spent ready transport]

end Transactional

namespace Declaring

variable {τ : Type} [Transport τ]

private theorem describe_leaves (ready : Ready) (exchange : Declaring) (transport : τ)
    (acknowledged : exchange.acknowledged = true) :
    (exchange.describe ready transport).Leaves (fun _ => True)
      (fun last => last.acknowledged = true ∧ last.trip = .done) := by
  have leaves := exchange.trip.resume_leaves ready transport
  unfold describe
  generalize exchange.trip.resume ready transport = turn at leaves ⊢
  obtain ⟨step, trip, after⟩ := turn
  cases step with
  | wait wait => exact trivial
  | failed failure => exact trivial
  | done result =>
      dsimp only
      split
      · exact trivial
      · exact ⟨acknowledged, leaves⟩

private theorem resume_leaves (ready : Ready) (exchange : Declaring) (transport : τ) :
    (exchange.resume ready transport).Leaves (fun _ => True)
      (fun last => last.acknowledged = true ∧ last.trip = .done) := by
  unfold resume
  split
  · rename_i acknowledged
    exact describe_leaves ready exchange transport acknowledged
  · split
    · exact trivial
    · exact trivial
    · split
      · exact trivial
      · exact describe_leaves .nothing _ _ rfl

private theorem endsIn (exchange : Declaring) :
    EndsIn (fun last : Declaring => last.acknowledged = true ∧ last.trip = .done) exchange :=
  .of_turns (fun ready exchange transport _ => exchange.resume_leaves ready transport) trivial

private theorem spent_of_done {exchange : Declaring} (acknowledged : exchange.acknowledged = true)
    (done : exchange.trip = .done) : Spent exchange := by
  obtain ⟨portal, _, trip⟩ := exchange
  subst acknowledged done
  exact fun _ _ => rfl

end Declaring

namespace Working

variable {τ : Type} [Transport τ]

def Finished (stated : Bool) (exchange : Working) : Prop :=
  exchange.description = none ∧ exchange.statement = if stated then some .done else none

private theorem work_leaves (ready : Ready) (exchange : Working) (transport : τ)
    (described : exchange.description = none) :
    (exchange.work ready transport).Leaves
      (fun next => next.statement.isSome = exchange.statement.isSome)
      (Finished exchange.statement.isSome) := by
  obtain ⟨portal, description, statement, fetching⟩ := exchange
  subst described
  unfold work
  cases statement with
  | none => exact ⟨rfl, rfl⟩
  | some trip =>
      have leaves := trip.resume_leaves ready transport
      dsimp only
      generalize trip.resume ready transport = turn at leaves ⊢
      obtain ⟨step, next, after⟩ := turn
      cases step with
      | wait wait => exact rfl
      | failed failure => exact trivial
      | done result =>
          have done : next = .done := leaves
          subst done
          dsimp only
          split
          · exact trivial
          · split
            · exact ⟨rfl, rfl⟩
            · exact ⟨rfl, rfl⟩

private theorem resume_leaves (ready : Ready) (exchange : Working) (transport : τ) :
    (exchange.resume ready transport).Leaves
      (fun next => next.statement.isSome = exchange.statement.isSome)
      (Finished exchange.statement.isSome) := by
  obtain ⟨portal, description, statement, fetching⟩ := exchange
  unfold resume
  cases description with
  | none => exact work_leaves ready _ transport rfl
  | some trip =>
      dsimp only
      split
      · exact rfl
      · exact trivial
      · split
        · exact trivial
        · exact work_leaves .nothing _ _ rfl

private theorem endsIn (exchange : Working) :
    EndsIn (Finished exchange.statement.isSome) exchange := by
  have turns : ∀ {τ : Type} [Transport τ] (ready : Ready) (next : Working) (transport : τ),
      next.statement.isSome = exchange.statement.isSome → (next.resume ready transport).Leaves
        (fun last => last.statement.isSome = exchange.statement.isSome)
        (Finished exchange.statement.isSome) := by
    intro τ _ ready next transport same
    rw [← same]
    exact next.resume_leaves ready transport
  exact .of_turns turns rfl

/-- A portal that is only described says that it has been, as often as it is taken up. -/
def Repeats (exchange : Working) : Prop :=
  ∀ {τ : Type} [Transport τ] (ready : Ready) (transport : τ),
    exchange.resume ready transport = ⟨.done [], exchange, transport⟩

private theorem spent_of_finished {exchange : Working} (finished : exchange.Finished true) :
    Spent exchange := by
  obtain ⟨portal, _, _, fetching⟩ := exchange
  obtain ⟨described, done⟩ := finished
  subst described done
  exact fun _ _ => rfl

private theorem repeats_of_finished {exchange : Working} (finished : exchange.Finished false) :
    Repeats exchange := by
  obtain ⟨portal, _, _, fetching⟩ := exchange
  obtain ⟨described, none⟩ := finished
  subst described none
  exact fun _ _ => rfl

end Working

namespace Closing

variable {τ : Type} [Transport τ] {start : Closing}

def Goes (start exchange : Closing) : Prop :=
  exchange.existence = none ∨
    start.existence.isSome = true ∧ exchange.release = start.release

def Finished (start exchange : Closing) : Prop :=
  exchange.existence = none ∧
    (exchange.release = .done ∨
      start.existence.isSome = true ∧ exchange.release = start.release)

private theorem letGo_leaves (ready : Ready) (exchange : Closing) (transport : τ)
    (certain : exchange.existence = none) :
    (exchange.letGo ready transport).Leaves (Goes start) (Finished start) := by
  have leaves := exchange.release.resume_leaves ready transport
  unfold letGo
  generalize exchange.release.resume ready transport = turn at leaves ⊢
  obtain ⟨step, release, after⟩ := turn
  cases step with
  | wait wait => exact .inl certain
  | failed failure => exact trivial
  | done result =>
      dsimp only
      split
      · exact trivial
      · exact ⟨certain, .inl leaves⟩

private theorem resume_leaves (ready : Ready) (exchange : Closing) (transport : τ)
    (goes : Goes start exchange) :
    (exchange.resume ready transport).Leaves (Goes start) (Finished start) := by
  obtain ⟨existence, release⟩ := exchange
  unfold resume
  cases existence with
  | none => exact letGo_leaves ready _ transport rfl
  | some trip =>
      have untouched := goes.resolve_left nofun
      dsimp only
      split
      · exact .inr untouched
      · exact trivial
      · split
        · exact trivial
        · split
          · exact ⟨rfl, .inr untouched⟩
          · exact letGo_leaves .nothing _ _ rfl

private theorem endsIn (exchange : Closing) : EndsIn (Finished exchange) exchange := by
  apply EndsIn.of_turns resume_leaves
  cases existence : exchange.existence with
  | none => exact .inl existence
  | some trip => exact .inr ⟨by rw [existence, Option.isSome_some], rfl⟩

private theorem spent_of_released {exchange : Closing} (certain : exchange.existence = none)
    (released : exchange.release = .done) : Spent exchange := by
  obtain ⟨_, _⟩ := exchange
  subst certain released
  exact fun _ _ => rfl

end Closing

/-! ### Taken up once more -/

/-- What is left when an exchange is done refuses to be taken up again, with two exceptions.
A portal that is described without a statement says again that it is done. Where a portal was
asked for and is not there, the release of it is left, and is sent if it is taken up. -/
theorem done_spent {α γ : Type} [Exchange γ α] (stage : Sending) (fetching : Fetching)
    (trip : RoundTrip) (transactional : Transactional γ) (declaring : Declaring)
    (working : Working) (closing : Closing) :
    EndsIn Spent stage ∧ EndsIn Spent fetching ∧ EndsIn Spent trip ∧
      (EndsIn Spent transactional.inner → EndsIn Spent transactional) ∧
      EndsIn Spent declaring ∧
      (if working.statement.isSome then EndsIn Spent working
        else EndsIn Working.Repeats working) ∧
      EndsIn (fun last => Spent last ∨ closing.existence.isSome = true ∧
        last = { existence := none, release := closing.release }) closing := by
  refine ⟨?_, ?_, ?_, ?_, ?_, ?_, ?_⟩
  · exact stage.endsIn_done.mono fun _ done => done ▸ Sending.spent_done
  · exact fetching.endsIn_done.mono fun _ done => done ▸ Fetching.spent_done
  · exact trip.endsIn_done.mono fun _ done => done ▸ RoundTrip.spent_done
  · intro inner
    exact (Transactional.endsIn inner).mono fun last finished =>
      Transactional.spent_of_inner finished.1 finished.2
  · exact declaring.endsIn.mono fun last finished =>
      Declaring.spent_of_done finished.1 finished.2
  · have ends := working.endsIn
    split
    · rename_i stated
      rw [stated] at ends
      exact ends.mono fun last finished => Working.spent_of_finished finished
    · rename_i unstated
      rw [Bool.eq_false_iff.mpr unstated] at ends
      exact ends.mono fun last finished => Working.repeats_of_finished finished
  · refine closing.endsIn.mono ?_
    rintro ⟨_, _⟩ ⟨rfl, released | ⟨asked, untouched⟩⟩
    · exact .inl (Closing.spent_of_released rfl released)
    · exact .inr ⟨asked, congrArg _ untouched⟩

/-- A portal is described; another one, which somebody else has declared, is closed, but is not
there. Either exchange is done after one wait. Taken up once more, the one is done again, and
the other sends a statement. -/
theorem resume_after_done :
    let answering (message : BackendMessage) : Conn :=
      { link := { arrivals :=
          [.data (Frame.stream [message.frame, (BackendMessage.readyForQuery 73).frame])] } }
    let ready : Ready := ⟨true, false⟩
    let described := Portal.adopt "c"
    let working : Working :=
      { portal := described, description := some described.describeTrip, statement := none,
        fetching := false }
    let worked := takeUp (fun _ => ready) 1 working (answering .noData)
    let workedAgain := Exchange.resume ready worked.exchange worked.transport
    let existence := Command.queryWith Portal.existenceQuery [Parameter.ofText "c"]
    let release := Portal.statementTrip (.close "c")
    let closing : Closing := { existence := some (.unsent existence), release }
    let closed := takeUp (fun _ => ready) 1 closing (answering (.commandComplete "SELECT 0"))
    let closedAgain := Exchange.resume ready closed.exchange closed.transport
    (described.describe = .ok working ∧ worked.step = .done [] ∧ workedAgain.step = .done []) ∧
      ((described.close .idle).1 = some closing ∧ closed.step = .done () ∧
        closedAgain.step = .wait .readable ∧
        closedAgain.transport.link.delivered =
          closed.transport.link.delivered ++ stream [.query "close \"c\""]) := by
  refine ⟨⟨rfl, ?_, ?_⟩, rfl, ?_, ?_, ?_⟩
  all_goals decide +kernel

end PgClient

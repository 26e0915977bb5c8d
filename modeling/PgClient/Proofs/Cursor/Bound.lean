/-
What a cursor is bound to.

A cursor is declared at most once. Whatever is called on it after that, it stays the cursor of
that portal, with the options of its declaration. Before that its options are those it was last
asked to be declared with. Once it is described there is a description.
-/

import PgClient.Cursor.Rows
import PgClient.Proofs.Exchange.Driven

namespace PgClient

variable {τ : Type} [Transport τ]

def Portal.Sound (portal : Portal) : Prop :=
  portal.state = .described → portal.description.isSome = true

/-- Later the portal is the same one, declared in the same way, and it has not come loose. -/
structure Portal.Later (before after : Portal) : Prop where
  name : after.name = before.name
  hold : after.hold = before.hold
  adopted : after.adopted = before.adopted
  bound : before.state ≠ .unbound → after.state ≠ .unbound
  sound : before.Sound → after.Sound

namespace Portal.Later

variable {before between after : Portal}

theorem refl (portal : Portal) : portal.Later portal :=
  ⟨rfl, rfl, rfl, id, id⟩

theorem trans (first : before.Later between) (second : between.Later after) :
    before.Later after where
  name := second.name.trans first.name
  hold := second.hold.trans first.hold
  adopted := second.adopted.trans first.adopted
  bound := second.bound ∘ first.bound
  sound := second.sound ∘ first.sound

private theorem described (result : QueryResult) (portal : Portal) :
    portal.Later (portal.described result) :=
  ⟨rfl, rfl, rfl, fun _ => nofun, fun _ _ => rfl⟩

private theorem discard (portal : Portal) : portal.Later portal.discard :=
  ⟨rfl, rfl, rfl, fun _ => nofun, fun _ => nofun⟩

end Portal.Later

/-! ### Exchanges -/

namespace Waiting

variable {α γ : Type} [Exchange γ α] {Holds : γ → Prop}

omit [Exchange γ α] [Transport τ] in
theorem reaches_exchange {turn : Turn α γ τ} (holds : Holds turn.exchange) :
    turn.Reaches (fun exchange _ => Holds exchange) fun ended => Holds ended.exchange := by
  obtain ⟨step, resumed, after⟩ := turn
  cases step <;> exact holds

/-- What every turn keeps of an exchange it has at its end. -/
theorem upholds_exchange (timeout : Option Nat)
    (kept : ∀ (ready : Ready) (exchange : γ) (transport : τ), Holds exchange →
      Holds (Exchange.resume ready exchange transport).exchange) :
    Upholds timeout (fun exchange (_ : τ) => Holds exchange) (fun exchange _ => Holds exchange)
      fun ended => Holds ended.exchange where
  turn ready {exchange transport} holds := reaches_exchange (kept ready exchange transport holds)
  waits _ _ _ holds := holds
  again holds := holds
  refused holds _ := holds
  timedOut holds := holds
  abandoned holds := holds

end Waiting

/-- What every turn keeps of an exchange is kept by the call that runs it. -/
theorem Session.run_exchange {α γ : Type} [Exchange γ α] (Holds : γ → Prop)
    (kept : ∀ (ready : Ready) (exchange : γ) (transport : τ), Holds exchange →
      Holds (Exchange.resume ready exchange transport).exchange)
    (manner : Manner) (exchange : γ) (session : Session τ) (holds : Holds exchange) :
    Holds (session.run manner exchange).exchange := by
  have driven :
      Holds (Waiting.run manner session.timeout exchange session.transport).exchange :=
    (Waiting.upholds_exchange session.timeout kept).run manner holds
  unfold run
  exact driven

private theorem Declaring.describe_later (ready : Ready) (exchange : Declaring) (transport : τ) :
    exchange.portal.Later (exchange.describe ready transport).exchange.portal := by
  unfold describe
  rcases exchange.trip.resume ready transport with ⟨wait | result | failure, trip, after⟩
  · exact .refl _
  · dsimp only
    cases result.check with
    | error error => exact .refl _
    | ok passed => exact .described passed _
  · exact .refl _

private theorem Declaring.resume_later (ready : Ready) (exchange : Declaring) (transport : τ) :
    exchange.portal.Later (exchange.resume ready transport).exchange.portal := by
  unfold Declaring.resume
  cases exchange.acknowledged with
  | true => exact describe_later ready exchange transport
  | false =>
      rw [if_neg Bool.false_ne_true]
      rcases exchange.trip.resume ready transport with ⟨wait | result | failure, trip, after⟩
      · exact .refl _
      · dsimp only
        cases result.check with
        | error error => exact .refl _
        | ok passed =>
            have declared : exchange.portal.Later { exchange.portal with state := .declared } :=
              ⟨rfl, rfl, rfl, fun _ => nofun, fun _ => nofun⟩
            exact declared.trans (describe_later .nothing
              ⟨{ exchange.portal with state := .declared }, true, exchange.portal.describeTrip⟩
              after)
      · exact .refl _

private theorem Transactional.resume_later (ready : Ready) (exchange : Transactional Declaring)
    (transport : τ) :
    exchange.inner.portal.Later (exchange.resume ready transport).exchange.inner.portal := by
  unfold Transactional.resume
  cases exchange.start with
  | none => exact Declaring.resume_later ready exchange.inner transport
  | some start =>
      dsimp only
      rcases start.resume ready transport with ⟨wait | result | failure, trip, after⟩
      · exact .refl _
      · dsimp only
        cases result.check with
        | error error => exact .refl _
        | ok passed => exact Declaring.resume_later .nothing exchange.inner after
      · exact .refl _

private theorem Working.work_later (ready : Ready) (exchange : Working) (transport : τ) :
    exchange.portal.Later (exchange.work ready transport).exchange.portal := by
  unfold work
  cases exchange.statement with
  | none => exact .refl _
  | some trip =>
      dsimp only
      rcases trip.resume ready transport with ⟨wait | result | failure, trip, after⟩
      · exact .refl _
      · dsimp only
        cases result.check with
        | error error => exact .refl _
        | ok passed =>
            dsimp only
            split
            · exact ⟨rfl, rfl, rfl, id, id⟩
            · exact .refl _
      · exact .refl _

private theorem Working.resume_later (ready : Ready) (exchange : Working) (transport : τ) :
    exchange.portal.Later (exchange.resume ready transport).exchange.portal := by
  unfold Working.resume
  cases exchange.description with
  | none => exact work_later ready exchange transport
  | some trip =>
      dsimp only
      rcases trip.resume ready transport with ⟨wait | result | failure, trip, after⟩
      · exact .refl _
      · dsimp only
        cases result.check with
        | error error => exact .refl _
        | ok passed =>
            exact (Portal.Later.described passed exchange.portal).trans (work_later .nothing
              { exchange with portal := exchange.portal.described passed, description := none }
              after)
      · exact .refl _

/-! ### Calls on a cursor -/

/-- Later the portal is the same one, and if it was bound before, declared in the same way. -/
def Portal.Keeps (before after : Portal) : Prop :=
  ∃ hold, (hold = before.hold ∨ before.state = .unbound) ∧
    ({ before with hold } : Portal).Later after

namespace Portal.Keeps

variable {before after : Portal}

theorem of_later (later : before.Later after) : before.Keeps after :=
  ⟨before.hold, .inl rfl, later⟩

theorem of_bound (keeps : before.Keeps after) (bound : before.state ≠ .unbound) :
    before.Later after := by
  obtain ⟨hold, same, later⟩ := keeps
  obtain rfl := same.resolve_right bound
  exact later

end Portal.Keeps

namespace Portal

variable {portal : Portal} {query : String} {parameters : List Parameter}
  {options : DeclareOptions} {declaring : Declaring}

theorem declare_allowed (declared : portal.declare query parameters options = .ok declaring) :
    portal.state = .unbound ∧ declaring.portal = { portal with hold := options.hold } := by
  unfold declare at declared
  split at declared
  · cases declared
  · rename_i allowed
    cases declared
    refine ⟨?_, rfl⟩
    unfold checkUnbound at allowed
    split at allowed
    · assumption
    · cases allowed
    · cases allowed
    · cases allowed

private theorem work_portal {statement : CursorStatement} {fetching : Bool} {working : Working}
    (asked : portal.work statement fetching = .ok working) : working.portal = portal := by
  unfold work at asked
  split at asked
  · cases asked
  · cases asked
    rfl

private theorem describe_portal {working : Working} (asked : portal.describe = .ok working) :
    working.portal = portal := by
  unfold describe at asked
  split at asked
  · cases asked
  · cases asked
    rfl

end Portal

namespace Cursor

variable (manner : Manner) (cursor : Cursor) (session : Session τ)

/-- A declaration is refused, and nothing changes, or it goes by the options that it was asked
for with. -/
theorem execute_later (query : String) (parameters : List Parameter) (options : DeclareOptions) :
    let executed := (cursor.execute manner query parameters options session).2.1
    executed = cursor ∨ cursor.portal.state = .unbound ∧
      ({ cursor.portal with hold := options.hold } : Portal).Later executed.portal := by
  unfold execute
  cases declared : cursor.portal.declare query parameters options with
  | error error => exact .inl rfl
  | ok declaring =>
      obtain ⟨unbound, portal⟩ := Portal.declare_allowed declared
      refine .inr ⟨unbound, ?_⟩
      rw [← portal]
      cases session.checkOpen with
      | error error => exact .refl _
      | ok checked =>
          have later := session.run_exchange
            (fun exchange : Transactional Declaring =>
              declaring.portal.Later exchange.inner.portal)
            (fun ready exchange transport later =>
              later.trans (Transactional.resume_later ready exchange transport))
            manner (session.inTransaction declaring) (.refl _)
          dsimp only
          generalize session.run manner (session.inTransaction declaring) = answered at later ⊢
          obtain ⟨failure | done, exchange, after⟩ := answered
          · exact later
          · exact later

theorem execute_keeps (query : String) (parameters : List Parameter) (options : DeclareOptions) :
    cursor.portal.Keeps (cursor.execute manner query parameters options session).2.1.portal := by
  rcases execute_later manner cursor session query parameters options with same | ⟨unbound, later⟩
  · rw [same]
    exact .of_later (.refl _)
  · exact ⟨options.hold, .inr unbound, later⟩

private theorem work_later (asked : Except Error Working)
    (own : ∀ working, asked = .ok working → working.portal = cursor.portal) :
    cursor.portal.Later (cursor.work manner asked session).2.1.portal := by
  unfold work
  cases asked with
  | error error => exact .refl _
  | ok working =>
      dsimp only
      cases session.checkOpen with
      | error error => exact .refl _
      | ok checked =>
          rw [← own working rfl]
          exact session.run_exchange
            (fun exchange : Working => working.portal.Later exchange.portal)
            (fun ready exchange transport later =>
              later.trans (Working.resume_later ready exchange transport))
            manner working (.refl _)

theorem describe_later :
    cursor.portal.Later (cursor.describe manner session).2.1.portal := by
  have later := work_later manner cursor session cursor.portal.describe
    (fun _ => Portal.describe_portal)
  unfold describe
  generalize cursor.work manner cursor.portal.describe session = worked at later ⊢
  obtain ⟨failure | rows, next, after⟩ := worked
  · exact later
  · exact later

theorem fetch_later (count : Option Nat) :
    cursor.portal.Later (cursor.fetch manner count session).2.1.portal := by
  have later := work_later manner cursor session (cursor.portal.fetch count)
    (fun _ => Portal.work_portal)
  unfold fetch
  generalize cursor.work manner (cursor.portal.fetch count) session = worked at later ⊢
  obtain ⟨failure | rows, next, after⟩ := worked
  · exact later
  · exact later

theorem scroll_later (value : Int64) (mode : ScrollMode) :
    cursor.portal.Later (cursor.scroll manner value mode session).2.1.portal := by
  have later := work_later manner cursor session (cursor.portal.scroll value.toInt mode)
    (fun _ => Portal.work_portal)
  unfold scroll
  generalize cursor.work manner (cursor.portal.scroll value.toInt mode) session = worked at later ⊢
  obtain ⟨failure | rows, next, after⟩ := worked
  · exact later
  · cases mode with
    | relative => exact later
    | absolute => exact later

theorem scrollNamed_later (value : Int64) (mode : String) :
    cursor.portal.Later (cursor.scrollNamed manner value mode session).2.1.portal := by
  unfold scrollNamed
  cases ScrollMode.ofName mode with
  | error error => exact .refl _
  | ok mode => exact scroll_later manner cursor session value mode

theorem close_later : cursor.portal.Later (cursor.close manner session).2.1.portal := by
  unfold close
  have discarded : (cursor.portal.close session.transactionStatus).2 = cursor.portal.discard := rfl
  rcases closed : cursor.portal.close session.transactionStatus with ⟨none | closing, portal⟩
  · rw [closed] at discarded
    cases discarded
    exact .discard _
  · rw [closed] at discarded
    cases discarded
    exact .discard _

end Cursor

theorem Rows.next_later (rows : Rows) (cursor : Cursor) (session : Session τ) :
    cursor.portal.Later (rows.next cursor session).cursor.portal := by
  have later := cursor.fetch_later .blocking session (some cursor.iterationSize)
  unfold next
  split
  · exact .refl _
  · split
    · exact .refl _
    · dsimp only
      generalize cursor.fetch .blocking (some cursor.iterationSize) session = fetched at later ⊢
      obtain ⟨failure | batch, fetched, after⟩ := fetched
      · exact later
      · dsimp only
        split
        · exact later
        · exact later

theorem Rows.nextAsync_later (givenUpAt : Option Nat) (rows : Rows) (cursor : Cursor)
    (session : Session τ) :
    cursor.portal.Later (rows.nextAsync givenUpAt cursor session).cursor.portal := by
  have later : cursor.portal.Later
      (cursor.fetchMany (.async givenUpAt) cursor.iterationSize session).2.1.portal :=
    Cursor.fetch_later ..
  unfold nextAsync
  split
  · exact .refl _
  · split
    · exact .refl _
    · generalize cursor.fetchMany (.async givenUpAt) cursor.iterationSize session = fetched
        at later ⊢
      obtain ⟨failure | batch, fetched, after⟩ := fetched
      · exact later
      · dsimp only
        split
        · exact later
        · exact later

end PgClient

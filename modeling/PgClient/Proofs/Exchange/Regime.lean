/-
Exchanges as round trips, one after the other.

Whatever a client does comes down to round trips, and how an exchange puts them together
does not depend on what is to be known about them. A regime says what holds of a transport
while nothing is under way, in the midst of a round trip, and when one has failed. It only has
to be kept by single round trips: then it is kept by every exchange, however it is driven.
-/

import PgClient.Proofs.Exchange.Driven
import PgClient.Proofs.Exchange.Orderly
import PgClient.Proofs.Session.Starting

namespace PgClient

/-! ### Regimes -/

/-- The ways in which a turn of a round trip ends, where an error of the server counts as a
failure. -/
inductive RoundTrip.Meets {τ : Type} (goes : RoundTrip → τ → Prop) (rests : τ → Prop)
    (fails : Failure → τ → Prop) : Turn QueryResult RoundTrip τ → Prop
  | waits {wait : Wait} {trip : RoundTrip} {transport : τ} (underWay : trip.underWay)
      (goesOn : goes trip transport) : Meets goes rests fails ⟨.wait wait, trip, transport⟩
  | failed {failure : Failure} {trip : RoundTrip} {transport : τ}
      (failed : fails failure transport) : Meets goes rests fails ⟨.failed failure, trip, transport⟩
  | denied {result : QueryResult} {error : Error} {trip : RoundTrip} {transport : τ}
      (checked : result.check = .error error) (failed : fails (.error error) transport) :
      Meets goes rests fails ⟨.done result, trip, transport⟩
  | granted {result passed : QueryResult} {trip : RoundTrip} {transport : τ}
      (checked : result.check = .ok passed) (rested : rests transport) :
      Meets goes rests fails ⟨.done result, trip, transport⟩

structure Regime (τ : Type) [Transport τ] where
  /-- The commands that may be sent. -/
  allows : Command → Prop
  /-- Nothing is under way. -/
  rests : τ → Prop
  /-- The command of the round trip has been sent. -/
  goes : RoundTrip → τ → Prop
  fails : Failure → τ → Prop
  begins : ∀ (ready : Ready) (command : Command) (transport : τ), allows command →
    rests transport → RoundTrip.Meets goes rests fails
      ((RoundTrip.unsent command).resume ready transport)
  continues : ∀ (ready : Ready) (trip : RoundTrip) (transport : τ), trip.underWay →
    goes trip transport → RoundTrip.Meets goes rests fails (trip.resume ready transport)
  waits : ∀ (wait : Wait) (trip : RoundTrip) (transport : τ), goes trip transport →
    goes trip (Transport.await wait transport).2
  /-- There is no waiting on what is closed. -/
  refused : ∀ (trip : RoundTrip) (transport : τ) (error : Error), goes trip transport →
    Transport.checkOpen transport = .error error → fails (.error error) transport
  timedOut : ∀ (trip : RoundTrip) (transport : τ), goes trip transport →
    fails (.error .timedOut) transport
  abandoned : ∀ (trip : RoundTrip) (transport : τ), goes trip transport →
    fails .abandoned transport

namespace Regime

variable {τ : Type} [Transport τ]

/-- The round trip has not begun, and its command is allowed. -/
def Pending (regime : Regime τ) : RoundTrip → Prop
  | .unsent command => regime.allows command
  | _ => False

def GoesOn (regime : Regime τ) (trips : List RoundTrip) (transport : τ) : Prop :=
  ∃ trip later, trips = trip :: later ∧ trip.underWay ∧ regime.goes trip transport ∧
    ∀ other ∈ later, regime.Pending other

def Stands (regime : Regime τ) (trips : List RoundTrip) (transport : τ) : Prop :=
  (regime.rests transport ∧ ∀ trip ∈ trips, regime.Pending trip) ∨ regime.GoesOn trips transport

/-- A turn ends as the regime says, where some values count as failures. -/
def Keeps {α γ : Type} (regime : Regime τ) (trips : γ → List RoundTrip)
    (check : α → Except Error α) (turn : Turn α γ τ) : Prop :=
  match turn.step with
  | .wait _ => regime.GoesOn (trips turn.exchange) turn.transport
  | .failed failure => regime.fails failure turn.transport
  | .done value =>
      match check value with
      | .error error => regime.fails (.error error) turn.transport
      | .ok _ => regime.rests turn.transport

variable {regime : Regime τ} {trip : RoundTrip} {later : List RoundTrip} {transport : τ}

/-- The first round trip is taken up as the regime says, and the others are still to come. -/
theorem Stands.first (stands : regime.Stands (trip :: later) transport) (ready : Ready) :
    RoundTrip.Meets regime.goes regime.rests regime.fails (trip.resume ready transport) ∧
      ∀ other ∈ later, regime.Pending other := by
  rcases stands with ⟨rests, pending⟩ | ⟨current, others, same, underWay, goes, pending⟩
  · refine ⟨?_, fun other member => pending other (List.mem_cons_of_mem _ member)⟩
    have allowed := pending trip List.mem_cons_self
    cases trip with
    | unsent command => exact regime.begins ready command transport allowed rests
    | sending stage => cases allowed
    | fetching gathering => cases allowed
    | done => cases allowed
  · cases same
    exact ⟨regime.continues ready trip transport underWay goes, pending⟩

end Regime

/-! ### Exchanges -/

/-- An exchange that makes round trips until one of them fails. -/
class Composed (γ : Type) (α : outParam Type) [Exchange γ α] where
  /-- The round trips that are left, the one that is under way included. -/
  trips : γ → List RoundTrip
  /-- Whether the value of the exchange counts as an error. -/
  check : α → Except Error α
  isTimeout_of_check : ∀ {value : α} {error : Error}, check value = .error error →
    error.isTimeout = false
  resume_keeps : ∀ {τ : Type} [Transport τ] (regime : Regime τ) (ready : Ready) (exchange : γ)
    (transport : τ), regime.Stands (trips exchange) transport →
      regime.Keeps trips check (Exchange.resume ready exchange transport)

def Composed.Fresh {α γ : Type} [Exchange γ α] [Composed γ α] (exchange : γ) : Prop :=
  ∀ trip ∈ Composed.trips exchange, ∃ command, trip = .unsent command

namespace RoundTrip

private theorem resume_keeps {τ : Type} [Transport τ] (regime : Regime τ) (ready : Ready)
    (trip : RoundTrip) (transport : τ) (stands : regime.Stands [trip] transport) :
    regime.Keeps (fun trip => [trip]) QueryResult.check (trip.resume ready transport) := by
  have meets := (stands.first ready).1
  generalize trip.resume ready transport = turn at meets ⊢
  cases meets with
  | waits underWay goes => exact ⟨_, [], rfl, underWay, goes, List.forall_mem_nil _⟩
  | failed fails => exact fails
  | denied checked fails =>
      unfold Regime.Keeps
      dsimp only
      rw [checked]
      exact fails
  | granted checked rests =>
      unfold Regime.Keeps
      dsimp only
      rw [checked]
      exact rests

instance : Composed RoundTrip QueryResult where
  trips trip := [trip]
  check := QueryResult.check
  isTimeout_of_check := QueryResult.isTimeout_of_check
  resume_keeps := resume_keeps

end RoundTrip

/-! ### Exchanges of several round trips -/

namespace Transactional

variable {α γ : Type} [Exchange γ α] [Composed γ α]

def trips (exchange : Transactional γ) : List RoundTrip :=
  exchange.start.toList ++ Composed.trips exchange.inner

private theorem goOn_keeps {τ : Type} [Transport τ] (regime : Regime τ) (ready : Ready) (inner : γ)
    (transport : τ) (stands : regime.Stands (Composed.trips inner) transport) :
    regime.Keeps trips (Composed.check γ) (goOn ready inner transport) := by
  have kept := Composed.resume_keeps regime ready inner transport stands
  unfold goOn
  generalize Exchange.resume ready inner transport = turn at kept ⊢
  obtain ⟨step, next, after⟩ := turn
  cases step with
  | wait wait => exact kept
  | failed failure => exact kept
  | done value => exact kept

private theorem resume_keeps {τ : Type} [Transport τ] (regime : Regime τ) (ready : Ready)
    (exchange : Transactional γ) (transport : τ)
    (stands : regime.Stands exchange.trips transport) :
    regime.Keeps trips (Composed.check γ) (exchange.resume ready transport) := by
  obtain ⟨start, inner⟩ := exchange
  unfold Transactional.resume
  cases start with
  | none => exact goOn_keeps regime ready inner transport stands
  | some start =>
      obtain ⟨meets, pending⟩ := stands.first ready
      dsimp only
      generalize start.resume ready transport = turn at meets ⊢
      cases meets with
      | waits underWay goes => exact ⟨_, _, rfl, underWay, goes, pending⟩
      | failed fails => exact fails
      | denied checked fails =>
          dsimp only
          rw [checked]
          exact fails
      | granted checked rests =>
          dsimp only
          rw [checked]
          exact goOn_keeps regime .nothing inner _ (.inl ⟨rests, pending⟩)

instance : Composed (Transactional γ) α where
  trips := trips
  check := Composed.check γ
  isTimeout_of_check := Composed.isTimeout_of_check (γ := γ)
  resume_keeps := resume_keeps

end Transactional

namespace Declaring

def trips (exchange : Declaring) : List RoundTrip :=
  exchange.trip :: if exchange.acknowledged then [] else [exchange.portal.describeTrip]

private theorem describe_keeps {τ : Type} [Transport τ] (regime : Regime τ) (ready : Ready)
    (exchange : Declaring) (transport : τ) (acknowledged : exchange.acknowledged = true)
    (stands : regime.Stands [exchange.trip] transport) :
    regime.Keeps trips .ok (exchange.describe ready transport) := by
  have meets := (stands.first ready).1
  unfold describe
  generalize exchange.trip.resume ready transport = turn at meets ⊢
  cases meets with
  | waits underWay goes =>
      refine ⟨_, _, rfl, underWay, goes, ?_⟩
      dsimp only
      rw [if_pos acknowledged]
      exact List.forall_mem_nil _
  | failed fails => exact fails
  | denied checked fails =>
      dsimp only
      rw [checked]
      exact fails
  | granted checked rests =>
      dsimp only
      rw [checked]
      exact rests

private theorem resume_keeps {τ : Type} [Transport τ] (regime : Regime τ) (ready : Ready)
    (exchange : Declaring) (transport : τ) (stands : regime.Stands exchange.trips transport) :
    regime.Keeps trips .ok (exchange.resume ready transport) := by
  unfold Declaring.resume
  unfold trips at stands
  by_cases acknowledged : exchange.acknowledged = true
  · rw [if_pos acknowledged] at stands ⊢
    exact describe_keeps regime ready exchange transport acknowledged stands
  · rw [if_neg acknowledged] at stands ⊢
    obtain ⟨meets, pending⟩ := stands.first ready
    generalize exchange.trip.resume ready transport = turn at meets ⊢
    cases meets with
    | waits underWay goes =>
        refine ⟨_, _, rfl, underWay, goes, ?_⟩
        dsimp only
        rw [if_neg acknowledged]
        exact pending
    | failed fails => exact fails
    | denied checked fails =>
        dsimp only
        rw [checked]
        exact fails
    | granted checked rests =>
        dsimp only
        rw [checked]
        exact describe_keeps regime .nothing _ _ rfl (.inl ⟨rests, pending⟩)

instance : Composed Declaring Unit where
  trips := trips
  check := .ok
  isTimeout_of_check := nofun
  resume_keeps := resume_keeps

end Declaring

namespace Working

def trips (exchange : Working) : List RoundTrip :=
  exchange.description.toList ++ exchange.statement.toList

private theorem work_keeps {τ : Type} [Transport τ] (regime : Regime τ) (ready : Ready)
    (exchange : Working) (transport : τ) (described : exchange.description = none)
    (stands : regime.Stands exchange.trips transport) :
    regime.Keeps trips .ok (exchange.work ready transport) := by
  obtain ⟨portal, description, statement, fetching⟩ := exchange
  subst described
  unfold work
  cases statement with
  | none =>
      rcases stands with ⟨rests, _⟩ | ⟨trip, later, same, _⟩
      · exact rests
      · cases same
  | some trip =>
      have meets := (stands.first ready).1
      dsimp only
      generalize trip.resume ready transport = turn at meets ⊢
      cases meets with
      | waits underWay goes => exact ⟨_, [], rfl, underWay, goes, List.forall_mem_nil _⟩
      | failed fails => exact fails
      | denied checked fails =>
          dsimp only
          rw [checked]
          exact fails
      | granted checked rests =>
          dsimp only
          rw [checked]
          cases fetching with
          | false => exact rests
          | true => exact rests

private theorem resume_keeps {τ : Type} [Transport τ] (regime : Regime τ) (ready : Ready)
    (exchange : Working) (transport : τ) (stands : regime.Stands exchange.trips transport) :
    regime.Keeps trips .ok (exchange.resume ready transport) := by
  obtain ⟨portal, description, statement, fetching⟩ := exchange
  unfold Working.resume
  cases description with
  | none => exact work_keeps regime ready _ transport rfl stands
  | some trip =>
      obtain ⟨meets, pending⟩ := stands.first ready
      dsimp only
      generalize trip.resume ready transport = turn at meets ⊢
      cases meets with
      | waits underWay goes => exact ⟨_, _, rfl, underWay, goes, pending⟩
      | failed fails => exact fails
      | denied checked fails =>
          dsimp only
          rw [checked]
          exact fails
      | granted checked rests =>
          dsimp only
          rw [checked]
          exact work_keeps regime .nothing _ _ rfl (.inl ⟨rests, pending⟩)

instance : Composed Working (List Row) where
  trips := trips
  check := .ok
  isTimeout_of_check := nofun
  resume_keeps := resume_keeps

end Working

namespace Closing

def trips (exchange : Closing) : List RoundTrip :=
  exchange.existence.toList ++ [exchange.release]

private theorem letGo_keeps {τ : Type} [Transport τ] (regime : Regime τ) (ready : Ready)
    (exchange : Closing) (transport : τ) (certain : exchange.existence = none)
    (stands : regime.Stands exchange.trips transport) :
    regime.Keeps trips .ok (exchange.letGo ready transport) := by
  obtain ⟨existence, release⟩ := exchange
  subst certain
  have meets := (stands.first ready).1
  unfold letGo
  dsimp only
  generalize release.resume ready transport = turn at meets ⊢
  cases meets with
  | waits underWay goes => exact ⟨_, [], rfl, underWay, goes, List.forall_mem_nil _⟩
  | failed fails => exact fails
  | denied checked fails =>
      dsimp only
      rw [checked]
      exact fails
  | granted checked rests =>
      dsimp only
      rw [checked]
      exact rests

private theorem resume_keeps {τ : Type} [Transport τ] (regime : Regime τ) (ready : Ready)
    (exchange : Closing) (transport : τ) (stands : regime.Stands exchange.trips transport) :
    regime.Keeps trips .ok (exchange.resume ready transport) := by
  obtain ⟨existence, release⟩ := exchange
  unfold Closing.resume
  cases existence with
  | none => exact letGo_keeps regime ready _ transport rfl stands
  | some trip =>
      obtain ⟨meets, pending⟩ := stands.first ready
      dsimp only
      generalize trip.resume ready transport = turn at meets ⊢
      cases meets with
      | waits underWay goes => exact ⟨_, _, rfl, underWay, goes, pending⟩
      | failed fails => exact fails
      | denied checked fails =>
          dsimp only
          rw [checked]
          exact fails
      | @granted result passed next after checked rests =>
          dsimp only
          rw [checked]
          dsimp only
          cases passed.rows.isEmpty with
          | true => exact rests
          | false => exact letGo_keeps regime .nothing _ _ rfl (.inl ⟨rests, pending⟩)

instance : Composed Closing Unit where
  trips := trips
  check := .ok
  isTimeout_of_check := nofun
  resume_keeps := resume_keeps

end Closing

/-! ### Before anything is sent -/

theorem RoundTrip.fresh (command : Command) : Composed.Fresh (RoundTrip.unsent command) := by
  intro trip member
  exact ⟨command, List.mem_singleton.mp member⟩

theorem Session.inTransaction_fresh {α γ τ : Type} [Exchange γ α] [Composed γ α] [Transport τ]
    (session : Session τ) {inner : γ} (fresh : Composed.Fresh inner) :
    Composed.Fresh (session.inTransaction inner) := by
  intro trip member
  rcases List.mem_append.mp member with start | later
  · unfold Session.inTransaction at start
    dsimp only at start
    split at start
    · exact ⟨_, List.mem_singleton.mp start⟩
    · cases start
  · exact fresh trip later

namespace Portal

variable {portal : Portal}

theorem declare_fresh {query : String} {parameters : List Parameter} {options : DeclareOptions}
    {declaring : Declaring} (asked : portal.declare query parameters options = .ok declaring) :
    Composed.Fresh declaring := by
  unfold declare at asked
  split at asked
  · cases asked
  · cases asked
    intro trip member
    rcases List.mem_cons.mp member with rfl | later
    · exact ⟨_, rfl⟩
    · exact ⟨_, List.mem_singleton.mp later⟩

theorem describe_fresh {working : Working} (asked : portal.describe = .ok working) :
    Composed.Fresh working := by
  unfold describe at asked
  split at asked
  · cases asked
  · cases asked
    intro trip member
    exact ⟨_, List.mem_singleton.mp member⟩

theorem work_fresh {statement : CursorStatement} {fetching : Bool} {working : Working}
    (asked : portal.work statement fetching = .ok working) : Composed.Fresh working := by
  unfold work at asked
  split at asked
  · cases asked
  · cases asked
    intro trip member
    rcases List.mem_append.mp member with description | isStatement
    · dsimp only at description
      split at description
      · exact ⟨_, List.mem_singleton.mp description⟩
      · cases description
    · exact ⟨_, List.mem_singleton.mp isStatement⟩

theorem close_fresh {status : TransactionStatus} {closing : Closing} {discarded : Portal}
    (asked : portal.close status = (some closing, discarded)) : Composed.Fresh closing := by
  unfold close at asked
  have same := congrArg Prod.fst asked
  dsimp only at same
  split at same
  · cases same
    intro trip member
    rcases List.mem_append.mp member with existence | release
    · dsimp only at existence
      split at existence
      · exact ⟨_, List.mem_singleton.mp existence⟩
      · cases existence
    · exact ⟨_, List.mem_singleton.mp release⟩
  · cases same

end Portal

/-! ### Driving an exchange -/

namespace Regime

variable {α γ τ : Type} [Exchange γ α] [Composed γ α] [Transport τ] {regime : Regime τ}

def Ends (regime : Regime τ) (ended : Ended α γ τ) : Prop :=
  match ended.outcome with
  | .error failure => regime.fails failure ended.transport
  | .ok value =>
      match Composed.check γ value with
      | .error error => regime.fails (.error error) ended.transport
      | .ok _ => regime.rests ended.transport

variable {trips : List RoundTrip} {transport : τ}

private theorem GoesOn.fails (goesOn : regime.GoesOn trips transport) :
    regime.fails (.error .timedOut) transport ∧ regime.fails .abandoned transport := by
  obtain ⟨trip, _, _, _, goes, _⟩ := goesOn
  exact ⟨regime.timedOut trip transport goes, regime.abandoned trip transport goes⟩

private theorem GoesOn.await (goesOn : regime.GoesOn trips transport) (wait : Wait) :
    regime.GoesOn trips (Transport.await wait transport).2 := by
  obtain ⟨trip, later, same, underWay, goes, pending⟩ := goesOn
  exact ⟨trip, later, same, underWay, regime.waits wait trip transport goes, pending⟩

private theorem GoesOn.mayWait {timeout : Option Nat} {error : Error}
    (goesOn : regime.GoesOn trips transport)
    (refused : Waiting.mayWait timeout transport = .error error) :
    regime.fails (.error error) transport := by
  unfold Waiting.mayWait at refused
  split at refused
  · rename_i shut
    cases refused
    obtain ⟨trip, _, _, _, goes, _⟩ := goesOn
    exact regime.refused trip transport _ goes shut
  · split at refused
    · cases refused
      exact goesOn.fails.1
    · cases refused

private theorem upholds (timeout : Option Nat) :
    Waiting.Upholds timeout
      (fun (exchange : γ) transport => regime.Stands (Composed.trips exchange) transport)
      (fun exchange transport => regime.GoesOn (Composed.trips exchange) transport)
      regime.Ends where
  turn ready {exchange transport} stands := by
    have kept := Composed.resume_keeps regime ready exchange transport stands
    generalize Exchange.resume ready exchange transport = turn at kept ⊢
    obtain ⟨step, next, after⟩ := turn
    cases step <;> exact kept
  waits wait _ _ goesOn := goesOn.await wait
  again goesOn := .inr goesOn
  refused goesOn refused := goesOn.mayWait refused
  timedOut goesOn := goesOn.fails.1
  abandoned goesOn := goesOn.fails.2

/-- However an exchange is driven, it ends as the regime says. -/
theorem run_ends (manner : Manner) (timeout : Option Nat) (exchange : γ) (transport : τ)
    (stands : regime.Stands (Composed.trips exchange) transport) :
    regime.Ends (Waiting.run manner timeout exchange transport) :=
  (upholds timeout).run manner stands

end Regime

end PgClient

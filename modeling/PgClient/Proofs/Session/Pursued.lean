/-
The commands of a call, in their order.

A call that executes a statement has a script: the command that starts a transaction, where
one has to be started, and then those of the statement. The record of the call follows the
script, and goes on to a command only when the one before has succeeded. So a statement is
not asked for before the transaction has been started.
-/

import PgClient.Proofs.Cursor.Heeded
import PgClient.Proofs.Session.Starting

namespace PgClient

variable {τ : Type} [Transport τ]

/-! ### Following a script -/

/-- The record has gone on by some commands of the script, in their order and each after the
one before has succeeded. -/
inductive Pursued : (earlier : List Asked) → (script : List Command) → (log : List Asked) → Prop
  | still {earlier : List Asked} (script : List Command) : Pursued earlier script earlier
  | latest {earlier : List Asked} (asked : Asked) (left : List Command) :
      Pursued earlier (asked.command :: left) (asked :: earlier)
  | further {earlier log : List Asked} {asked : Asked} {left : List Command}
      (succeeded : asked.success?.isSome = true) (pursued : Pursued (asked :: earlier) left log) :
      Pursued earlier (asked.command :: left) log

namespace Pursued

variable {command : Command} {script left : List Command} {earlier between log : List Asked}
  {result : QueryResult}

theorem of_denied (denied : Denied command earlier log) :
    Pursued earlier (command :: left) log := by
  rcases denied with rfl | ⟨asked, rfl, rfl, _⟩
  · exact .still _
  · exact .latest asked left

theorem of_granted (granted : Granted command result earlier between)
    (pursued : Pursued between left log) : Pursued earlier (command :: left) log := by
  obtain ⟨asked, rfl, rfl, succeeded⟩ := granted
  exact .further (by rw [succeeded]; rfl) pursued

private theorem of_heard {answer : Option QueryResult} (heard : Heard command answer earlier log) :
    Pursued earlier (command :: left) log := by
  obtain ⟨asked, rfl, rfl, _⟩ := heard
  exact .latest asked left

/-- The commands that were asked begin the script, and all but the last have succeeded. -/
theorem exists_parts (pursued : Pursued earlier script log) :
    ∃ parts : List Asked, log = parts.reverse ++ earlier ∧
      parts.map Asked.command <+: script ∧
      ∀ front asked next back, parts = front ++ asked :: next :: back →
        asked.success?.isSome = true := by
  induction pursued with
  | still script =>
      refine ⟨[], rfl, List.nil_prefix, ?_⟩
      intro front asked next back split
      exact absurd split.symm (List.append_ne_nil_of_right_ne_nil _ nofun)
  | @latest earlier asked left =>
      refine ⟨[asked], rfl, List.prefix_append [asked.command] left, ?_⟩
      intro front other next back split
      have lengths := congrArg List.length split
      simp only [List.length_append, List.length_cons, List.length_nil] at lengths
      omega
  | @further earlier log asked left succeeded _ ih =>
      obtain ⟨parts, grown, begins, passed⟩ := ih
      refine ⟨asked :: parts, ?_, List.cons_prefix_cons.mpr ⟨rfl, begins⟩, ?_⟩
      · rw [grown, List.reverse_cons, List.append_assoc]
        rfl
      · intro front other next back split
        cases front with
        | nil =>
            cases split
            exact succeeded
        | cons first front =>
            cases split
            exact passed front other next back rfl

end Pursued

/-! ### Exchanges -/

def Pursues {α γ : Type} [Exchange γ α] (τ : Type) [Transport τ] (exchange : γ)
    (script : List Command) : Prop :=
  ∀ (manner : Manner) (timeout : Option Nat) (patience : Nat) (observed : Observed τ),
    Pursued observed.log script
      (Waiting.drive manner timeout patience exchange observed).transport.log

namespace Waiting

variable {α γ : Type} [Exchange γ α] {Going : γ → List Asked → Prop}
  {Over : Except Failure α → γ → List Asked → Prop}

theorem drive_tells (tells : Tells τ Going Over) (manner : Manner) (timeout : Option Nat)
    (patience : Nat) (exchange : γ) (observed : Observed τ) (going : Going exchange observed.log) :
    let ended := drive manner timeout patience exchange observed
    Over ended.outcome ended.exchange ended.transport.log :=
  (upholds_tells tells timeout).awaitTask_going patience manner.givenUpAt .nothing going

end Waiting

namespace RoundTrip

variable {command : Command} {earlier : List Asked}

def Over (command : Command) (earlier : List Asked) :
    Except Failure QueryResult → RoundTrip → List Asked → Prop
  | .ok result, _, log => Heard command (some result) earlier log
  | .error _, _, log => Denied command earlier log

theorem tells (command : Command) (earlier : List Asked) :
    Tells τ (Asking command earlier) (Over command earlier) where
  turn ready trip observed asking := by
    have goes := resume_goes ready asking
    change (trip.resume ready observed).Leads _ _
    generalize trip.resume ready observed = turn at goes ⊢
    cases goes with
    | waits asking => exact asking
    | failed denied => exact denied
    | done heard => exact heard
  cut _ _ _ asking := asking.denied

/-- A round trip whose result counts has been granted, and another has not. -/
theorem Over.granted {outcome : Except Failure QueryResult} {trip : RoundTrip}
    {log : List Asked} {result : QueryResult} (told : Over command earlier outcome trip log)
    (checked : Session.checked outcome = .ok result) : Granted command result earlier log := by
  cases outcome with
  | error failure => cases checked
  | ok first =>
      unfold Session.checked at checked
      dsimp only at checked
      split at checked
      · cases checked
      · rename_i passed
        cases checked
        exact Heard.granted told passed

theorem Over.denied {outcome : Except Failure QueryResult} {trip : RoundTrip}
    {log : List Asked} {failure : Failure} (told : Over command earlier outcome trip log)
    (checked : Session.checked outcome = .error failure) : Denied command earlier log := by
  cases outcome with
  | error other => exact told
  | ok first =>
      unfold Session.checked at checked
      dsimp only at checked
      split at checked
      · rename_i passed
        exact Heard.denied told passed
      · cases checked

theorem pursues (command : Command) : Pursues τ (unsent command) [command] := by
  intro manner timeout patience observed
  have told := Waiting.drive_tells (tells command observed.log) manner timeout patience
    (unsent command) observed .unsent
  generalize Waiting.drive manner timeout patience (unsent command) observed = ended at told ⊢
  obtain ⟨outcome, trip, after⟩ := ended
  cases outcome with
  | error failure => exact .of_denied told
  | ok result => exact .of_heard told

end RoundTrip

theorem Declaring.pursues (command : Command) (portal : Portal) :
    Pursues τ ({ portal, trip := .unsent command } : Declaring)
      [command, .describePortal portal.name] := by
  intro manner timeout patience observed
  have told := Waiting.drive_tells (tells command portal observed.log) manner timeout patience
    { portal, trip := .unsent command } observed (.declaring .unsent)
  generalize Waiting.drive manner timeout patience
    ({ portal, trip := .unsent command } : Declaring) observed = ended at told ⊢
  obtain ⟨outcome, declaring, after⟩ := ended
  dsimp only at told ⊢
  cases told with
  | denied denied => exact .of_denied denied
  | undescribed granted denied => exact .of_granted granted (.of_denied denied)
  | described granted known => exact .of_granted granted (.of_granted known (.still []))

/-! ### Calls -/

namespace Session

open Transactional (startCommand)

def begins (session : Session τ) : Bool :=
  !session.autocommit && session.transactionStatus = .idle

def opening (session : Session τ) : List Command :=
  if session.begins then [startCommand] else []

variable {α γ : Type} [Exchange γ α] {inner : γ} {script : List Command}

theorem inTransaction_eq (session : Session τ) (inner : γ) :
    session.inTransaction inner =
      { start := if session.begins then some (.unsent startCommand) else none
        inner } :=
  rfl

omit [Exchange γ α] in
private theorem concluded_log (session : Session (Observed τ)) (ended : Ended α γ (Observed τ)) :
    (session.concluded ended).session.transport.log = ended.transport.log :=
  settle_log ended.outcome _

theorem run_pursued (pursues : Pursues τ inner script) (manner : Manner)
    (session : Session (Observed τ)) :
    Pursued session.transport.log script
      (session.run manner inner).session.transport.log := by
  have driven := pursues manner session.timeout (Transport.patience session.transport + 1)
    session.transport
  rw [← Waiting.run_eq_drive] at driven
  unfold run
  generalize Waiting.run manner session.timeout inner session.transport = ended at driven ⊢
  dsimp only
  rw [settle_log]
  exact driven

/-- The record of a call is that of its script, behind what has to be started first. -/
theorem inTransaction_pursued (pursues : Pursues τ inner script) (manner : Manner)
    (session : Session (Observed τ)) :
    Pursued session.transport.log (session.opening ++ script)
      (session.run manner (session.inTransaction inner)).session.transport.log := by
  rw [inTransaction_eq, opening]
  cases session.begins with
  | false =>
      rw [if_neg Bool.false_ne_true, if_neg Bool.false_ne_true, run_unstarted, concluded_log,
        Waiting.run_eq_drive]
      exact pursues manner session.timeout _ session.transport
  | true =>
      rw [if_pos rfl, if_pos rfl]
      have told := run_tells (RoundTrip.tells startCommand session.transport.log) manner
        (.unsent startCommand) session .unsent
      cases outcome : checked (session.run manner (RoundTrip.unsent startCommand)).outcome with
      | error failure =>
          obtain ⟨start, whole⟩ := run_of_start_failed inner outcome
          rw [whole]
          exact .of_denied (told.denied outcome)
      | ok result =>
          obtain ⟨manner', patience, whole⟩ := run_of_start_granted inner outcome
          rw [whole, concluded_log]
          exact .of_granted (told.granted outcome) (pursues manner' session.timeout patience _)

end Session

end PgClient

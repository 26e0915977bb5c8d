/-
Handles and the portals of their cursors.

Whatever is called, a handle stays with the portal that its cursor is bound to, until it is
given to another cursor. What holds of new portals and is kept by every call holds of all
portals of a client.
-/

import PgClient.Proofs.Client.Calls
import PgClient.Proofs.Cursor.Bound

namespace PgClient

variable {τ : Type} [Transport τ]

/-! ### Calls on a cursor -/

def CursorCall.renews : CursorCall → Bool
  | .create _ => true
  | .adopt _ => true
  | _ => false

private theorem Handle.perform_keeps (manner : Manner) {call : CursorCall}
    (same : call.renews = false) (handle : Handle) (session : Session τ) :
    handle.cursor.portal.Keeps (handle.perform manner call session).handle.cursor.portal := by
  obtain ⟨cursor, rows⟩ := handle
  unfold perform
  cases call with
  | create name => cases same
  | adopt name => cases same
  | setIterationSize size => exact .of_later (.refl _)
  | setArraySize size => exact .of_later (.refl _)
  | iterate => exact .of_later (.refl _)
  | drop insideTask => exact .of_later (.refl _)
  | execute query parameters options => exact Cursor.execute_keeps ..
  | prepare query parameters options =>
      dsimp only
      cases declared : cursor.portal.declare query parameters options with
      | error error => exact .of_later (.refl _)
      | ok declaring =>
          obtain ⟨unbound, portal⟩ := Portal.declare_allowed declared
          refine ⟨options.hold, .inr unbound, ?_⟩
          rw [← portal]
          exact .refl _
  | describe => exact .of_later (Cursor.describe_later ..)
  | fetchOne => exact .of_later (Cursor.fetch_later ..)
  | fetchMany size => exact .of_later (Cursor.fetch_later ..)
  | fetchAll => exact .of_later (Cursor.fetch_later ..)
  | scroll value mode => exact .of_later (Cursor.scroll_later ..)
  | scrollNamed value mode => exact .of_later (Cursor.scrollNamed_later ..)
  | close => exact .of_later (Cursor.close_later ..)
  | next =>
      cases manner with
      | blocking => exact .of_later (Rows.next_later ..)
      | async givenUpAt => exact .of_later (Rows.nextAsync_later ..)

/-! ### Calls of a client -/

def Call.renews (number : Nat) : Call → Bool
  | .cursor other call => other = number && call.renews
  | _ => false

namespace Client

variable {client : Client τ} {number : Nat}

private theorem perform_keeps (manner : Manner) {call : Call} (same : call.renews number = false)
    (client : Client τ) :
    (client.handles number).cursor.portal.Keeps
      ((client.perform manner call).client.handles number).cursor.portal := by
  cases call with
  | execute sql parameters => exact .of_later (.refl _)
  | commit => exact .of_later (.refl _)
  | rollback => exact .of_later (.refl _)
  | setAutocommit autocommit => exact .of_later (.refl _)
  | setTimeout timeout => exact .of_later (.refl _)
  | close => exact .of_later (.refl _)
  | cursor other call =>
      have performed : ((client.perform manner (.cursor other call)).client.handles number) =
          if number = other then
            ((client.handles other).perform manner call client.session).handle
          else client.handles number := rfl
      rw [performed]
      by_cases isOther : number = other
      · subst isOther
        rw [if_pos rfl]
        have fresh : call.renews = false := by
          rw [Call.renews, decide_eq_true rfl, Bool.true_and] at same
          exact same
        exact Handle.perform_keeps manner fresh (client.handles number) client.session
      · rw [if_neg isOther]
        exact .of_later (.refl _)

/-- Once its portal is bound, a cursor stays the cursor of that portal. -/
theorem run_later {calls : List (Manner × Call)}
    (same : ∀ entry ∈ calls, entry.2.renews number = false)
    (bound : (client.handles number).cursor.portal.state ≠ .unbound) :
    (client.handles number).cursor.portal.Later
      ((client.run calls).client.handles number).cursor.portal := by
  induction calls generalizing client with
  | nil => exact .refl _
  | cons entry calls ih =>
      obtain ⟨manner, call⟩ := entry
      have first :=
        (perform_keeps manner (same _ List.mem_cons_self) client).of_bound bound
      exact first.trans (ih (fun other member => same other (List.mem_cons_of_mem _ member))
        (first.bound bound))

end Client

/-! ### What holds of every cursor -/

namespace Portal

/-- A portal that has not been bound is nobody else's. -/
def Own (portal : Portal) : Prop :=
  portal.state = .unbound → portal.adopted = false

/-- What holds of a portal that no call has touched, and stays so whatever is called. -/
structure Lasting (Holds : Portal → Prop) : Prop where
  created : ∀ name, Holds (.ofName name)
  adopted : ∀ name, Holds (.adopt name)
  kept : ∀ {before after : Portal}, before.Keeps after → Holds before → Holds after

theorem own_lasting : Lasting Own where
  created _ _ := rfl
  adopted _ := nofun
  kept keeps own unbound := by
    obtain ⟨hold, _, later⟩ := keeps
    rw [later.adopted]
    apply own
    exact Decidable.byContradiction fun bound => later.bound bound unbound

end Portal

namespace Client

variable {client : Client τ} {Holds : Portal → Prop}

private theorem perform_lasting (lasting : Portal.Lasting Holds) (manner : Manner) (call : Call)
    (holds : ∀ number, Holds (client.handles number).cursor.portal) (number : Nat) :
    Holds ((client.perform manner call).client.handles number).cursor.portal := by
  cases same : call.renews number with
  | false => exact lasting.kept (perform_keeps manner same client) (holds number)
  | true =>
      cases call with
      | cursor other call =>
          unfold Call.renews at same
          obtain ⟨isNumber, renews⟩ := Bool.and_eq_true_iff.mp same
          obtain rfl := of_decide_eq_true isNumber
          have performed : ((client.perform manner (.cursor other call)).client.handles other) =
              if other = other then
                ((client.handles other).perform manner call client.session).handle
              else client.handles other := rfl
          rw [performed, if_pos rfl]
          cases call with
          | create name => exact lasting.created name
          | adopt name => exact lasting.adopted name
          | _ => cases renews
      | _ => cases same

private theorem run_lasting (lasting : Portal.Lasting Holds) (calls : List (Manner × Call))
    (holds : ∀ number, Holds (client.handles number).cursor.portal) (number : Nat) :
    Holds ((client.run calls).client.handles number).cursor.portal := by
  induction calls generalizing client with
  | nil => exact holds number
  | cons entry calls ih => exact ih (perform_lasting lasting entry.1 entry.2 holds)

/-- It holds of all portals of a client, whatever has been called. -/
theorem ofTransport_lasting (lasting : Portal.Lasting Holds) (transport : τ)
    (timeout : Option Nat) (calls : List (Manner × Call)) (number : Nat) :
    Holds (((ofTransport transport timeout).run calls).client.handles number).cursor.portal :=
  run_lasting lasting calls (fun _ => lasting.created _) number

end Client

end PgClient

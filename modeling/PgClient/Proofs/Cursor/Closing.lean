/-
What goes out when a cursor is closed.

To close a portal, the server may be asked whether it is there, and then be told to close it.
Nothing else is asked, and of what the cursor knows only its state changes.
-/

import PgClient.Proofs.Cursor.Uses

namespace PgClient

variable {τ : Type} [Transport τ]

/-! ### The exchange -/

def existenceCommand (name : String) : Command :=
  .queryWith Portal.existenceQuery [Parameter.ofText name]

namespace Closing

variable {existence release command : Command} {earlier log : List Asked}

def Only (existence release : Command) (log : List Asked) : Prop :=
  ∀ asked ∈ log, asked.command = existence ∨ asked.command = release

private theorem Only.cons {asked : Asked} (only : Only existence release earlier)
    (either : asked.command = existence ∨ asked.command = release) :
    Only existence release (asked :: earlier) := by
  intro other member
  rcases List.mem_cons.mp member with rfl | before
  · exact either
  · exact only other before

private theorem Only.denied (only : Only existence release earlier)
    (either : command = existence ∨ command = release) (denied : Denied command earlier log) :
    Only existence release log := by
  rcases denied with rfl | ⟨asked, rfl, rfl, _⟩
  · exact only
  · exact only.cons either

private theorem Only.heard {result : QueryResult} (only : Only existence release earlier)
    (either : command = existence ∨ command = release)
    (heard : Heard command (some result) earlier log) : Only existence release log := by
  obtain ⟨asked, rfl, rfl, _⟩ := heard
  exact only.cons either

inductive Releasing (existence release : Command) : Closing → List Asked → Prop
  | asking {trip : RoundTrip} {log : List Asked}
      (asking : RoundTrip.Asking existence [] trip log) :
      Releasing existence release ⟨some trip, .unsent release⟩ log
  | releasing {trip : RoundTrip} {between log : List Asked} (only : Only existence release between)
      (asking : RoundTrip.Asking release between trip log) :
      Releasing existence release ⟨none, trip⟩ log

private theorem letGo_leads (ready : Ready) {trip : RoundTrip} {between : List Asked}
    {observed : Observed τ} (only : Only existence release between)
    (asking : RoundTrip.Asking release between trip observed.log) :
    (letGo ready ⟨none, trip⟩ observed).Leads (Releasing existence release)
      fun _ _ => Only existence release := by
  have goes := RoundTrip.resume_goes ready asking
  unfold letGo
  dsimp only
  generalize trip.resume ready observed = turn at goes ⊢
  cases goes with
  | waits asking => exact .releasing only asking
  | failed denied => exact only.denied (.inr rfl) denied
  | @done result trip next heard =>
      dsimp only
      cases result.check with
      | error error => exact only.heard (.inr rfl) heard
      | ok passed => exact only.heard (.inr rfl) heard

private theorem only_tells (existence release : Command) :
    Tells τ (Releasing existence release) fun _ _ => Only existence release where
  turn ready exchange observed releasing := by
    have nothing : Only existence release [] := nofun
    change (Closing.resume ready _ observed).Leads _ _
    unfold Closing.resume
    generalize asked : observed.log = log at releasing
    cases releasing with
    | releasing only asking =>
        subst asked
        exact letGo_leads ready only asking
    | @asking trip log asking =>
        subst asked
        have goes := RoundTrip.resume_goes ready asking
        dsimp only
        generalize trip.resume ready observed = turn at goes ⊢
        cases goes with
        | waits asking => exact .asking asking
        | failed denied => exact nothing.denied (.inl rfl) denied
        | @done result trip next heard =>
            have only := nothing.heard (.inl rfl) heard
            dsimp only
            cases result.check with
            | error error => exact only
            | ok passed =>
                dsimp only
                split
                · exact only
                · exact letGo_leads .nothing only .unsent
  cut failure exchange log releasing := by
    have nothing : Only existence release [] := nofun
    cases releasing with
    | asking asking => exact nothing.denied (.inl rfl) asking.denied
    | releasing only asking => exact only.denied (.inr rfl) asking.denied

end Closing

/-! ### The call -/

namespace Cursor

/-- The closing of a portal asks whether that is there, and has it closed, and nothing else. -/
theorem close_only (manner : Manner) (cursor : Cursor) {session : Session (Observed τ)}
    (fresh : session.transport.log = []) :
    let told := cursor.close manner session
    Closing.Only (existenceCommand cursor.name) (.query (CursorStatement.close cursor.name).sql)
        told.2.2.transport.log ∧
      told.2.1 = { cursor with portal := cursor.portal.discard } := by
  have nothing : Closing.Only (existenceCommand cursor.name)
      (.query (CursorStatement.close cursor.name).sql) [] := nofun
  unfold Cursor.close Portal.close
  cases cursor.portal.isOpen && cursor.portal.isExpected session.transactionStatus with
  | false =>
      dsimp only
      rw [if_neg Bool.false_ne_true, fresh]
      exact ⟨nothing, rfl⟩
  | true =>
      dsimp only
      rw [if_pos rfl]
      refine ⟨?_, rfl⟩
      apply session.run_tells (Closing.only_tells _ _) manner
      rw [fresh]
      cases cursor.portal.adopted with
      | false => exact .releasing nothing .unsent
      | true => exact .asking .unsent

theorem Use.closes {use : Use τ} (cursor : Cursor) (isClose : use.operation = .close) :
    Closing.Only (existenceCommand cursor.name) (.query (CursorStatement.close cursor.name).sql)
        (use.asked cursor) ∧
      (use.performed cursor).cursor = { cursor with portal := cursor.portal.discard } := by
  rw [performed_watched, asked, isClose]
  exact close_only use.manner cursor rfl

end Cursor

end PgClient

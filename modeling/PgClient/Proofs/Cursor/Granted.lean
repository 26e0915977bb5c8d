/-
What a server has granted to a cursor.

The exchanges of a cursor consist of several round trips, and may end after any of them, or
in the middle of one. In each case the record of what was asked tells which of them
succeeded, and the portal is just what it can be by then: there when its declaration has
succeeded, and known when a description has.
-/

import PgClient.Proofs.Exchange.Observed

namespace PgClient

variable {τ : Type} [Transport τ]

/-! ### After a transaction has been started -/

namespace Transactional

variable {α γ : Type} [Exchange γ α] {inner : γ}
  {GoingFrom : List Asked → γ → List Asked → Prop}
  {OverFrom : List Asked → Except Failure α → γ → List Asked → Prop}

def startCommand : Command :=
  .query "BEGIN"

def Begun (earlier : List Asked) : Prop :=
  earlier = [] ∨ ∃ result, Granted startCommand result [] earlier

inductive Going (inner : γ) (GoingFrom : List Asked → γ → List Asked → Prop) :
    Transactional γ → List Asked → Prop
  | starting {trip : RoundTrip} {log : List Asked}
      (asking : RoundTrip.Asking startCommand [] trip log) :
      Going inner GoingFrom ⟨some trip, inner⟩ log
  | within {earlier log : List Asked} {inner' : γ} (begun : Begun earlier)
      (going : GoingFrom earlier inner' log) : Going inner GoingFrom ⟨none, inner'⟩ log

inductive Over (inner : γ) (OverFrom : List Asked → Except Failure α → γ → List Asked → Prop) :
    Except Failure α → Transactional γ → List Asked → Prop
  | denied {failure : Failure} {start : Option RoundTrip} {log : List Asked}
      (denied : Denied startCommand [] log) :
      Over inner OverFrom (.error failure) ⟨start, inner⟩ log
  | within {outcome : Except Failure α} {start : Option RoundTrip} {inner' : γ}
      {earlier log : List Asked} (begun : Begun earlier)
      (ended : OverFrom earlier outcome inner' log) :
      Over inner OverFrom outcome ⟨start, inner'⟩ log

/-- Before an exchange nothing was asked, whether a transaction is to be started or not. -/
theorem going_inTransaction {session : Session (Observed τ)} (inner : γ)
    (nothing : session.transport.log = []) (fresh : ∀ earlier, GoingFrom earlier inner earlier) :
    Going inner GoingFrom (session.inTransaction inner) session.transport.log := by
  unfold Session.inTransaction
  rw [nothing]
  split
  · exact .starting .unsent
  · exact .within (.inl rfl) (fresh [])

private theorem goOn_leads (tells : ∀ earlier, Tells τ (GoingFrom earlier) (OverFrom earlier))
    {earlier : List Asked} (begun : Begun earlier) (ready : Ready) {inner' : γ}
    {observed : Observed τ} (going : GoingFrom earlier inner' observed.log) :
    (goOn ready inner' observed).Leads (Going inner GoingFrom) (Over inner OverFrom) := by
  have leads := (tells earlier).turn ready inner' observed going
  unfold goOn
  generalize Exchange.resume ready inner' observed = turn at leads ⊢
  obtain ⟨step, next, after⟩ := turn
  cases step with
  | wait wait => exact .within begun leads
  | done value => exact .within begun leads
  | failed failure => exact .within begun leads

theorem tells (fresh : ∀ earlier, GoingFrom earlier inner earlier)
    (tells : ∀ earlier, Tells τ (GoingFrom earlier) (OverFrom earlier)) :
    Tells τ (Going inner GoingFrom) (Over inner OverFrom) where
  turn ready exchange observed going := by
    change (Transactional.resume ready exchange observed).Leads _ _
    unfold Transactional.resume
    generalize asked : observed.log = log at going
    cases going with
    | within begun going =>
        subst asked
        exact goOn_leads tells begun ready going
    | @starting trip log asking =>
        subst asked
        have goes := RoundTrip.resume_goes ready asking
        dsimp only
        generalize trip.resume ready observed = turn at goes ⊢
        cases goes with
        | waits asking => exact .starting asking
        | failed denied => exact .denied denied
        | @done result next after heard =>
            dsimp only
            cases checked : result.check with
            | error error => exact .denied (heard.denied checked)
            | ok result =>
                exact goOn_leads tells (.inr ⟨result, heard.granted checked⟩) .nothing (fresh _)
  cut failure exchange log going := by
    cases going with
    | starting asking => exact .denied asking.denied
    | within begun going => exact .within begun ((tells _).cut failure _ log going)

end Transactional

/-! ### Declaring -/

namespace Declaring

variable {declaration : Command} {portal : Portal} {earlier : List Asked}

inductive Going (declaration : Command) (portal : Portal) (earlier : List Asked) :
    Declaring → List Asked → Prop
  | declaring {trip : RoundTrip} {log : List Asked}
      (asking : RoundTrip.Asking declaration earlier trip log) :
      Going declaration portal earlier ⟨portal, false, trip⟩ log
  | describing {result : QueryResult} {trip : RoundTrip} {before log : List Asked}
      (granted : Granted declaration result earlier before)
      (asking : RoundTrip.Asking (.describePortal portal.name) before trip log) :
      Going declaration portal earlier ⟨{ portal with state := .declared }, true, trip⟩ log

inductive Over (declaration : Command) (portal : Portal) (earlier : List Asked) :
    Except Failure Unit → Declaring → List Asked → Prop
  | denied {failure : Failure} {acknowledged : Bool} {trip : RoundTrip} {log : List Asked}
      (denied : Denied declaration earlier log) :
      Over declaration portal earlier (.error failure) ⟨portal, acknowledged, trip⟩ log
  | undescribed {failure : Failure} {acknowledged : Bool} {trip : RoundTrip}
      {result : QueryResult} {before log : List Asked}
      (granted : Granted declaration result earlier before)
      (denied : Denied (.describePortal portal.name) before log) :
      Over declaration portal earlier (.error failure)
        ⟨{ portal with state := .declared }, acknowledged, trip⟩ log
  | described {acknowledged : Bool} {trip : RoundTrip} {result description : QueryResult}
      {before log : List Asked} (granted : Granted declaration result earlier before)
      (known : Granted (.describePortal portal.name) description before log) :
      Over declaration portal earlier (.ok ())
        ⟨({ portal with state := .declared } : Portal).described description, acknowledged, trip⟩
        log

private theorem describe_leads (ready : Ready) {result : QueryResult} {trip : RoundTrip}
    {before : List Asked} {observed : Observed τ}
    (granted : Granted declaration result earlier before)
    (asking : RoundTrip.Asking (.describePortal portal.name) before trip observed.log) :
    (describe ready ⟨{ portal with state := .declared }, true, trip⟩ observed).Leads
      (Going declaration portal earlier) (Over declaration portal earlier) := by
  have goes := RoundTrip.resume_goes ready asking
  unfold describe
  dsimp only
  generalize trip.resume ready observed = turn at goes ⊢
  cases goes with
  | waits asking => exact .describing granted asking
  | failed denied => exact .undescribed granted denied
  | @done description next after heard =>
      dsimp only
      cases checked : description.check with
      | error error => exact .undescribed granted (heard.denied checked)
      | ok description => exact .described granted (heard.granted checked)

theorem tells (declaration : Command) (portal : Portal) (earlier : List Asked) :
    Tells τ (Going declaration portal earlier) (Over declaration portal earlier) where
  turn ready exchange observed going := by
    change (Declaring.resume ready exchange observed).Leads _ _
    unfold Declaring.resume
    generalize asked : observed.log = log at going
    cases going with
    | describing granted asking =>
        subst asked
        exact describe_leads ready granted asking
    | @declaring trip log asking =>
        subst asked
        have goes := RoundTrip.resume_goes ready asking
        rw [if_neg Bool.false_ne_true]
        dsimp only
        generalize trip.resume ready observed = turn at goes ⊢
        cases goes with
        | waits asking => exact .declaring asking
        | failed denied => exact .denied denied
        | @done result next after heard =>
            dsimp only
            cases checked : result.check with
            | error error => exact .denied (heard.denied checked)
            | ok result => exact describe_leads .nothing (heard.granted checked) .unsent
  cut failure exchange log going := by
    cases going with
    | declaring asking => exact .denied asking.denied
    | describing granted asking => exact .undescribed granted asking.denied

end Declaring

/-! ### Working on a portal -/

namespace Working

variable {portal : Portal} {missing fetching : Bool} {statement : Option Command}
  {earlier : List Asked}

/-- What is known of the portal before the statement: where the description is missing, it has
been asked for and granted. -/
inductive Known (portal : Portal) (earlier : List Asked) : Bool → Portal → List Asked → Prop
  | already : Known portal earlier false portal earlier
  | described {result : QueryResult} {log : List Asked}
      (granted : Granted (.describePortal portal.name) result earlier log) :
      Known portal earlier true (portal.described result) log

inductive Going (portal : Portal) (missing : Bool) (statement : Option Command) (fetching : Bool)
    (earlier : List Asked) : Working → List Asked → Prop
  | describing {trip : RoundTrip} {log : List Asked} (isMissing : missing = true)
      (asking : RoundTrip.Asking (.describePortal portal.name) earlier trip log) :
      Going portal missing statement fetching earlier
        ⟨portal, some trip, statement.map RoundTrip.unsent, fetching⟩ log
  | working {command : Command} {trip : RoundTrip} {known : Portal} {between log : List Asked}
      (isStatement : statement = some command)
      (knows : Known portal earlier missing known between)
      (asking : RoundTrip.Asking command between trip log) :
      Going portal missing statement fetching earlier ⟨known, none, some trip, fetching⟩ log

inductive Over (portal : Portal) (missing : Bool) (statement : Option Command) (fetching : Bool)
    (earlier : List Asked) : Except Failure (List Row) → Portal → List Asked → Prop
  | undescribed {failure : Failure} {log : List Asked} (isMissing : missing = true)
      (denied : Denied (.describePortal portal.name) earlier log) :
      Over portal missing statement fetching earlier (.error failure) portal log
  | described {result : QueryResult} {log : List Asked} (isMissing : missing = true)
      (alone : statement = none)
      (granted : Granted (.describePortal portal.name) result earlier log) :
      Over portal missing statement fetching earlier (.ok []) (portal.described result) log
  | denied {failure : Failure} {command : Command} {known : Portal} {between log : List Asked}
      (isStatement : statement = some command)
      (knows : Known portal earlier missing known between)
      (denied : Denied command between log) :
      Over portal missing statement fetching earlier (.error failure) known log
  | granted {result : QueryResult} {command : Command} {known : Portal} {between log : List Asked}
      (isStatement : statement = some command)
      (knows : Known portal earlier missing known between)
      (granted : Granted command result between log) :
      Over portal missing statement fetching earlier (.ok result.rows)
        (if fetching then { known with lastResult := some result } else known) log

private theorem work_leads (ready : Ready) {command : Command} {trip : RoundTrip} {known : Portal}
    {between : List Asked} {observed : Observed τ} (isStatement : statement = some command)
    (knows : Known portal earlier missing known between)
    (asking : RoundTrip.Asking command between trip observed.log) :
    (work ready ⟨known, none, some trip, fetching⟩ observed).Leads
      (Going portal missing statement fetching earlier)
      (fun outcome working =>
        Over portal missing statement fetching earlier outcome working.portal) := by
  have goes := RoundTrip.resume_goes ready asking
  unfold work
  dsimp only
  generalize trip.resume ready observed = turn at goes ⊢
  cases goes with
  | waits asking => exact .working isStatement knows asking
  | failed denied => exact .denied isStatement knows denied
  | @done result trip next heard =>
      dsimp only
      cases checked : result.check with
      | error error => exact .denied isStatement knows (heard.denied checked)
      | ok passed =>
          have granted : Over portal missing statement fetching earlier (.ok passed.rows)
              (if fetching then { known with lastResult := some passed } else known) next.log :=
            .granted isStatement knows (heard.granted checked)
          cases fetching with
          | false => exact granted
          | true => exact granted

theorem tells (portal : Portal) (missing : Bool) (statement : Option Command)
    (fetching : Bool) (earlier : List Asked) :
    Tells τ (Going portal missing statement fetching earlier)
      (fun outcome working =>
        Over portal missing statement fetching earlier outcome working.portal) where
  turn ready exchange observed going := by
    change (Working.resume ready exchange observed).Leads _ _
    unfold Working.resume
    generalize asked : observed.log = log at going
    cases going with
    | working isStatement knows asking =>
        subst asked
        exact work_leads ready isStatement knows asking
    | @describing trip log isMissing asking =>
        subst asked
        have goes := RoundTrip.resume_goes ready asking
        dsimp only
        generalize trip.resume ready observed = turn at goes ⊢
        cases goes with
        | waits asking => exact .describing isMissing asking
        | failed denied => exact .undescribed isMissing denied
        | @done result next after heard =>
            dsimp only
            cases checked : result.check with
            | error error => exact .undescribed isMissing (heard.denied checked)
            | ok passed =>
                have granted := heard.granted checked
                cases statement with
                | none => exact .described isMissing rfl granted
                | some command =>
                    subst isMissing
                    exact work_leads .nothing rfl (.described granted) .unsent
  cut failure exchange log going := by
    cases going with
    | describing isMissing asking => exact .undescribed isMissing asking.denied
    | working isStatement knows asking => exact .denied isStatement knows asking.denied

end Working

end PgClient

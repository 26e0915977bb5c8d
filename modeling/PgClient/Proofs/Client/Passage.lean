/-
The way of a session through calls.

Whatever a client calls, all that its session goes through are exchanges of round trips of
which nothing was sent before, entries of the journal, changes of its settings, and its end.
So the record of the commands only ever grows: what has been recorded of a command between
two calls is what was recorded of it for good.
-/

import PgClient.Proofs.Client.BetweenCalls
import PgClient.Proofs.Client.View
import PgClient.Proofs.Exchange.Regime
import PgClient.Proofs.Session.Answered
import PgClient.Proofs.Session.Opened

namespace PgClient

/-! ### Calls on a session -/

namespace Session

variable {τ : Type} [Transport τ]

/-- The session has come to be the other one. -/
inductive Passes : Session τ → Session τ → Prop
  | still (session : Session τ) : Passes session session
  | runs {α γ : Type} [Exchange γ α] [Composed γ α] {before session : Session τ}
      (manner : Manner) {exchange : γ} (fresh : Composed.Fresh exchange)
      (passes : Passes before session) : Passes before (session.run manner exchange).session
  | tells {before session : Session τ} (event : Event) (passes : Passes before session) :
      Passes before { session with transport := Transport.record event session.transport }
  | sets {before session : Session τ} (timeout : Option Nat) (autocommit : Bool)
      (passes : Passes before session) : Passes before { session with timeout, autocommit }
  | closes {before session : Session τ} (passes : Passes before session) :
      Passes before session.close

private theorem Passes.trans {first between last : Session τ} (passes : first.Passes between)
    (further : between.Passes last) : first.Passes last := by
  induction further with
  | still _ => exact passes
  | runs manner fresh _ ih => exact .runs manner fresh (ih passes)
  | tells event _ ih => exact .tells event (ih passes)
  | sets timeout autocommit _ ih => exact .sets timeout autocommit (ih passes)
  | closes _ ih => exact .closes (ih passes)

private theorem run_passes {α γ : Type} [Exchange γ α] [Composed γ α] (manner : Manner)
    {exchange : γ} (fresh : Composed.Fresh exchange) (session : Session τ) :
    session.Passes (session.run manner exchange).session :=
  .runs manner fresh (.still session)

variable (manner : Manner) (session : Session τ)

private theorem execute_passes (sql : String) (parameters : List Parameter) :
    session.Passes (session.execute manner sql parameters).2 := by
  unfold execute
  cases session.checkOpen with
  | error error => exact .still session
  | ok checked => exact session.run_passes manner (session.inTransaction_fresh (RoundTrip.fresh _))

private theorem endTransaction_passes (sql : String) :
    session.Passes (session.endTransaction manner sql).2 := by
  unfold endTransaction
  cases session.checkOpen with
  | error error => exact .still session
  | ok checked =>
      dsimp only
      split
      · exact .still session
      · exact session.run_passes manner (RoundTrip.fresh _)

private theorem setAutocommit_passes (autocommit : Bool) :
    session.Passes (session.setAutocommit autocommit).2 := by
  unfold setAutocommit
  cases session.checkOpen with
  | error error => exact .still session
  | ok checked =>
      dsimp only
      split
      · exact .still session
      · exact .sets session.timeout autocommit (.still session)

end Session

/-! ### Calls on a cursor -/

namespace Cursor

variable {τ : Type} [Transport τ] (manner : Manner) (cursor : Cursor) (session : Session τ)

theorem execute_passes (query : String) (parameters : List Parameter)
    (options : DeclareOptions) :
    session.Passes (cursor.execute manner query parameters options session).2.2 := by
  unfold execute
  cases declared : cursor.portal.declare query parameters options with
  | error error => exact .still session
  | ok declaring =>
      cases session.checkOpen with
      | error error => exact .still session
      | ok checked =>
          have passes := session.run_passes manner
            (session.inTransaction_fresh (Portal.declare_fresh declared))
          dsimp only
          generalize session.run manner (session.inTransaction declaring) = answered at passes ⊢
          obtain ⟨outcome, exchange, after⟩ := answered
          cases outcome with
          | error failure => exact passes
          | ok done => exact passes

private theorem work_passes {asked : Except Error Working}
    (fresh : ∀ working, asked = .ok working → Composed.Fresh working) :
    session.Passes (cursor.work manner asked session).2.2 := by
  unfold work
  cases asked with
  | error error => exact .still session
  | ok working =>
      cases session.checkOpen with
      | error error => exact .still session
      | ok checked => exact session.run_passes manner (fresh working rfl)

private theorem describe_passes : session.Passes (cursor.describe manner session).2.2 := by
  have passes : session.Passes (cursor.work manner cursor.portal.describe session).2.2 :=
    cursor.work_passes manner session fun _ => Portal.describe_fresh
  unfold describe
  generalize cursor.work manner cursor.portal.describe session = worked at passes ⊢
  obtain ⟨failure | rows, next, after⟩ := worked
  · exact passes
  · exact passes

private theorem fetch_passes (count : Option Nat) :
    session.Passes (cursor.fetch manner count session).2.2 := by
  have passes : session.Passes (cursor.work manner (cursor.portal.fetch count) session).2.2 :=
    cursor.work_passes manner session fun _ => Portal.work_fresh
  unfold fetch
  generalize cursor.work manner (cursor.portal.fetch count) session = worked at passes ⊢
  obtain ⟨failure | rows, next, after⟩ := worked
  · exact passes
  · exact passes

private theorem scroll_passes (value : Int64) (mode : ScrollMode) :
    session.Passes (cursor.scroll manner value mode session).2.2 := by
  have passes :
      session.Passes (cursor.work manner (cursor.portal.scroll value.toInt mode) session).2.2 :=
    cursor.work_passes manner session fun _ => Portal.work_fresh
  unfold scroll
  generalize cursor.work manner (cursor.portal.scroll value.toInt mode) session = worked
    at passes ⊢
  obtain ⟨failure | rows, next, after⟩ := worked
  · exact passes
  · exact passes

private theorem scrollNamed_passes (value : Int64) (mode : String) :
    session.Passes (cursor.scrollNamed manner value mode session).2.2 := by
  unfold scrollNamed
  cases ScrollMode.ofName mode with
  | error error => exact .still session
  | ok mode => exact cursor.scroll_passes manner session value mode

theorem close_passes : session.Passes (cursor.close manner session).2.2 := by
  unfold close
  split
  · exact .still session
  · rename_i closing portal asked
    exact session.run_passes manner (Portal.close_fresh asked)

private theorem drop_passes (flavour : Flavour) (insideTask : Bool) :
    session.Passes (cursor.drop flavour insideTask session) := by
  unfold drop
  split
  · exact .still session
  · have told := Session.Passes.tells (.cursorLeftOpen cursor.name flavour) (.still session)
    dsimp only
    split
    · exact told
    · split
      · exact told
      · rename_i closing portal asked
        have passes := Session.Passes.runs .blocking (Portal.close_fresh asked) told
        split
        · rename_i failed
          rw [failed] at passes
          exact .tells _ passes
        · rename_i ended
          rw [ended] at passes
          exact passes

end Cursor

namespace Rows

variable {τ : Type} [Transport τ] (rows : Rows) (cursor : Cursor) (session : Session τ)

private theorem next_passes : session.Passes (rows.next cursor session).session := by
  have passes := cursor.fetch_passes .blocking session (some cursor.iterationSize)
  unfold next
  split
  · exact .still session
  · split
    · exact .still session
    · dsimp only
      split
      · rename_i fetched
        rw [fetched] at passes
        exact passes
      · rename_i fetched
        rw [fetched] at passes
        split
        · exact passes
        · exact passes

private theorem nextAsync_passes (givenUpAt : Option Nat) :
    session.Passes (rows.nextAsync givenUpAt cursor session).session := by
  have passes : session.Passes
      (cursor.fetchMany (.async givenUpAt) cursor.iterationSize session).2.2 :=
    cursor.fetch_passes (.async givenUpAt) session _
  unfold nextAsync
  split
  · exact .still session
  · split
    · exact .still session
    · split
      · rename_i fetched
        rw [fetched] at passes
        exact passes
      · rename_i fetched
        rw [fetched] at passes
        dsimp only
        split
        · exact passes
        · exact passes

end Rows

/-! ### Calls of a client -/

private theorem Handle.perform_passes {τ : Type} [Transport τ] (manner : Manner) (call : CursorCall)
    (handle : Handle) (session : Session τ) :
    session.Passes (handle.perform manner call session).session := by
  obtain ⟨cursor, rows⟩ := handle
  cases call with
  | create name => exact .still session
  | adopt name => exact .still session
  | setIterationSize size => exact .still session
  | setArraySize size => exact .still session
  | iterate => exact .still session
  | execute query parameters options =>
      exact cursor.execute_passes manner session query parameters options
  | prepare query parameters options =>
      unfold perform
      dsimp only
      split
      · exact .still session
      · exact .still session
  | describe => exact cursor.describe_passes manner session
  | fetchOne => exact cursor.fetch_passes manner session (some 1)
  | fetchMany size => exact cursor.fetch_passes manner session _
  | fetchAll => exact cursor.fetch_passes manner session none
  | scroll value mode => exact cursor.scroll_passes manner session value mode
  | scrollNamed value mode => exact cursor.scrollNamed_passes manner session value mode
  | close => exact cursor.close_passes manner session
  | drop insideTask => exact cursor.drop_passes session manner.flavour insideTask
  | next =>
      cases manner with
      | blocking => exact rows.next_passes cursor session
      | async givenUpAt => exact rows.nextAsync_passes cursor session givenUpAt

namespace Client

variable {τ : Type} [Transport τ]

theorem perform_passes (manner : Manner) (call : Call) (client : Client τ) :
    client.session.Passes (client.perform manner call).client.session := by
  cases call with
  | execute sql parameters => exact client.session.execute_passes manner sql parameters
  | commit => exact client.session.endTransaction_passes manner _
  | rollback => exact client.session.endTransaction_passes manner _
  | setAutocommit autocommit => exact client.session.setAutocommit_passes autocommit
  | setTimeout timeout => exact .sets timeout client.session.autocommit (.still _)
  | close => exact .closes (.still _)
  | cursor number call => exact (client.handles number).perform_passes manner call client.session

theorem run_passes (calls : List (Manner × Call)) (client : Client τ) :
    client.session.Passes (client.run calls).client.session := by
  induction calls generalizing client with
  | nil => exact .still _
  | cons entry calls ih => exact (client.perform_passes entry.1 entry.2).trans (ih _)

variable {client : Client Attested}

end Client

/-! ### The record of commands -/

namespace RoundTrip

variable {τ : Type} [Transport τ]

private theorem underWay_of_collect {gathering : Gathering} {transport after : τ} {wait : Wait}
    {next : RoundTrip} (waits : collect gathering transport = ⟨.wait wait, next, after⟩) :
    next.underWay := by
  unfold collect at waits
  dsimp only at waits
  split at waits
  · cases waits
    trivial
  · split at waits
    · cases waits
    · cases waits

private theorem underWay_of_sending {ready : Ready} {stage : Sending} {transport after : τ}
    {wait : Wait} {next : RoundTrip}
    (waits : goOnSending ready stage transport = ⟨.wait wait, next, after⟩) :
    next.underWay := by
  unfold goOnSending at waits
  split at waits
  · cases waits
    trivial
  · cases waits
  · exact underWay_of_collect waits

/-- A round trip that waits has sent its command. -/
theorem underWay_of_wait {ready : Ready} {trip : RoundTrip} {transport : τ} {wait : Wait}
    (waits : (trip.resume ready transport).step = .wait wait) :
    (trip.resume ready transport).exchange.underWay := by
  generalize resumed : trip.resume ready transport = turn at waits ⊢
  obtain ⟨step, next, after⟩ := turn
  cases waits
  unfold resume at resumed
  cases trip with
  | unsent command =>
      dsimp only at resumed
      split at resumed
      · cases resumed
      · exact underWay_of_sending resumed
  | sending stage => exact underWay_of_sending resumed
  | fetching gathering =>
      dsimp only at resumed
      split at resumed
      · cases resumed
      · exact underWay_of_collect resumed
  | done => cases resumed

end RoundTrip

namespace Attested

variable {recorded : List Submission} {attested : Attested}

private theorem tail_hear (messages : List BackendMessage) (trace : List Submission) :
    (Submission.hear messages trace).tail = trace.tail := by
  cases trace with
  | nil => rfl
  | cons submission earlier => rfl

private theorem tail_take (results : List QueryResult) (ended : Bool) (trace : List Submission) :
    (Submission.take results ended trace).tail = trace.tail := by
  cases trace with
  | nil => rfl
  | cons submission earlier => rfl

/-- What has been recorded before the latest command stays. -/
theorem tail_keeps (recorded : List Submission) :
    Transport.Keeps fun attested : Attested => recorded <:+ attested.trace.tail where
  send command attested kept := by
    change recorded <:+ (attested.send command).2.trace.tail
    unfold send
    split
    · exact kept
    · exact kept.trans (List.tail_suffix attested.trace)
  flush _ kept := kept
  consumeInput attested kept := by
    change recorded <:+ (Submission.hear attested.conn.hears attested.trace).tail
    rw [tail_hear]
    exact kept
  takeResult attested kept := by
    change recorded <:+ attested.takeResult.2.trace.tail
    unfold takeResult
    split
    · exact (tail_take ..).symm ▸ kept
    · exact (tail_take ..).symm ▸ kept
  takeResults attested kept := by
    change recorded <:+ (Submission.take _ _ attested.trace).tail
    rw [tail_take]
    exact kept
  await _ _ kept := kept
  finish _ kept := kept
  record _ _ kept := kept

private theorem suffix_of_tail (kept : recorded <:+ attested.trace.tail) :
    recorded <:+ attested.trace :=
  kept.trans (List.tail_suffix attested.trace)

def Grows (recorded : List Submission) : Turn QueryResult RoundTrip Attested → Prop :=
  RoundTrip.Meets (fun _ attested => recorded <:+ attested.trace.tail)
    (fun attested => recorded <:+ attested.trace) (fun _ attested => recorded <:+ attested.trace)

private theorem grows_of_tail {turn : Turn QueryResult RoundTrip Attested}
    (underWay : ∀ wait, turn.step = .wait wait → turn.exchange.underWay)
    (kept : recorded <:+ turn.transport.trace.tail) : Grows recorded turn := by
  obtain ⟨step, trip, after⟩ := turn
  cases step with
  | wait wait => exact .waits (underWay wait rfl) kept
  | failed failure => exact .failed (suffix_of_tail kept)
  | done result =>
      cases checked : result.check with
      | error error => exact .denied checked (suffix_of_tail kept)
      | ok passed => exact .granted checked (suffix_of_tail kept)

private theorem begin_grows (ready : Ready) (command : Command)
    (kept : recorded <:+ attested.trace) :
    Grows recorded ((RoundTrip.unsent command).resume ready attested) := by
  have dispatches := Dispatches.roundTrip command
  cases sends : Transport.send command attested with
  | mk outcome after =>
      cases outcome with
      | error failure =>
          obtain ⟨left, refused⟩ := dispatches.refused ready sends
          have failed : (RoundTrip.unsent command).resume ready attested =
              ⟨.failed failure, left, after⟩ := refused
          rw [failed]
          exact .failed ((send_refused sends).symm ▸ kept)
      | ok done =>
          have begun : recorded <:+ after.trace.tail := by
            rw [send_accepted sends]
            exact kept
          have goes : (RoundTrip.unsent command).resume ready attested =
              RoundTrip.dispatched.resume .nothing after := dispatches.accepted ready sends
          rw [goes]
          exact grows_of_tail (fun _ => RoundTrip.underWay_of_wait)
            ((tail_keeps recorded).resume .nothing RoundTrip.dispatched begun)

def growing (recorded : List Submission) : Regime Attested where
  allows _ := True
  rests attested := recorded <:+ attested.trace
  goes _ attested := recorded <:+ attested.trace.tail
  fails _ attested := recorded <:+ attested.trace
  begins ready command _ _ kept := begin_grows ready command kept
  continues ready trip _ _ kept :=
    grows_of_tail (fun _ => RoundTrip.underWay_of_wait)
      ((tail_keeps recorded).resume ready trip kept)
  waits _ _ _ kept := kept
  refused _ _ _ kept _ := suffix_of_tail kept
  timedOut _ _ kept := suffix_of_tail kept
  abandoned _ _ kept := suffix_of_tail kept

end Attested

namespace Session

private theorem run_grown {α γ : Type} [Exchange γ α] [Composed γ α] (manner : Manner)
    {exchange : γ} (fresh : Composed.Fresh exchange) (session : Session Attested) :
    session.transport.trace <:+ (session.run manner exchange).session.transport.trace := by
  have pending : ∀ trip ∈ Composed.trips exchange,
      (Attested.growing session.transport.trace).Pending trip := by
    intro trip member
    obtain ⟨command, rfl⟩ := fresh trip member
    trivial
  have ends := Regime.run_ends manner session.timeout exchange session.transport
    (.inl ⟨List.suffix_refl session.transport.trace, pending⟩)
  unfold run
  generalize Waiting.run manner session.timeout exchange session.transport = ended at ends ⊢
  obtain ⟨outcome, next, after⟩ := ended
  dsimp only
  rw [settle_trace]
  unfold Regime.Ends at ends
  cases outcome with
  | error failure => exact ends
  | ok value =>
      dsimp only at ends
      split at ends
      · exact ends
      · exact ends

/-- The record of the commands only ever grows. -/
theorem Passes.grown {before after : Session Attested} (passes : before.Passes after) :
    before.transport.trace <:+ after.transport.trace := by
  induction passes with
  | still session => exact List.suffix_refl _
  | runs manner fresh _ ih => exact ih.trans (run_grown manner fresh _)
  | tells event _ ih => exact ih
  | sets timeout autocommit _ ih => exact ih
  | @closes session after _ ih =>
      have same : after.close.transport.trace = after.transport.trace := by
        change (if after.closed then after.transport else _ : Attested).trace = _
        split
        · rfl
        · rfl
      rw [same]
      exact ih

end Session

end PgClient

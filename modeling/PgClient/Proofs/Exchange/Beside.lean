/-
Exchanges over two sessions side by side.

Where two sessions are the same but for what they are told on the side, they make one
transport: each operation is done on both, and tells what both of them tell. It can be
taken for the one session and for the other. So an exchange takes the same course over
both of them, and a client that makes the same calls on them is given the same answers.
-/

import PgClient.Proofs.Client.View
import PgClient.Proofs.Conn.Undisturbed

namespace PgClient

/-- Two sessions of which the one hears interjections that the other does not hear. -/
structure Twin where
  noisy : Conn
  plain : Conn
  undisturbed : noisy.Undisturbed plain

namespace Twin

open Conn (Disregards)

def both {α : Type} (operation : Conn → α × Conn) (disregards : Disregards operation)
    (twin : Twin) : α × Twin :=
  ((operation twin.noisy).1,
    { noisy := (operation twin.noisy).2
      plain := (operation twin.plain).2
      undisturbed := (disregards _ _ twin.undisturbed).2 })

instance : Transport Twin where
  send command := both (Conn.send command) (Conn.send_heedless command).disregards
  flush := both Conn.flush Conn.flush_heedless.disregards
  consumeInput := both Conn.consumeInput Conn.consumeInput_disregards
  isBusy twin := twin.noisy.isBusy
  takeResult := both Conn.takeResult Conn.takeResult_heedless.disregards
  takeResults := both Conn.takeResults Conn.takeResults_heedless.disregards
  checkOpen twin := twin.noisy.checkOpen
  await wait := both (Transport.await wait) (Conn.await_heedless wait).disregards
  patience twin := twin.noisy.link.reports.length
  transactionStatus twin := twin.noisy.transactionStatus
  clientEncoding twin := twin.noisy.clientEncoding
  isClosed twin := twin.noisy.isClosed
  finish twin := (both _ Conn.finish_heedless.disregards twin).2
  record event twin := (both _ (Conn.record_heedless event).disregards twin).2

private theorem noisy_isView : Transport.IsView noisy where
  send _ _ := rfl
  flush _ := rfl
  consumeInput _ := rfl
  isBusy _ := rfl
  takeResult _ := rfl
  takeResults _ := rfl
  checkOpen _ := rfl
  await _ _ := rfl
  patience _ := rfl
  transactionStatus _ := rfl
  isClosed _ := rfl
  finish _ := rfl
  record _ _ := rfl

private theorem both_plain {α : Type} {operation : Conn → α × Conn}
    (disregards : Disregards operation) (twin : Twin) :
    operation twin.plain = Prod.map id plain (both operation disregards twin) :=
  Prod.ext (disregards _ _ twin.undisturbed).1.symm rfl

private theorem plain_isView : Transport.IsView plain where
  send command := both_plain (Conn.send_heedless command).disregards
  flush := both_plain Conn.flush_heedless.disregards
  consumeInput := both_plain Conn.consumeInput_disregards
  isBusy twin := Conn.tell_alike Conn.isBusy (fun _ => rfl) twin.undisturbed.essence.symm
  takeResult := both_plain Conn.takeResult_heedless.disregards
  takeResults := both_plain Conn.takeResults_heedless.disregards
  checkOpen twin := Conn.tell_alike Conn.checkOpen (fun _ => rfl) twin.undisturbed.essence.symm
  await wait := both_plain (Conn.await_heedless wait).disregards
  patience twin :=
    Conn.tell_alike (fun conn => conn.link.reports.length) (fun _ => rfl)
      twin.undisturbed.essence.symm
  transactionStatus twin :=
    Conn.tell_alike Conn.transactionStatus (fun _ => rfl) twin.undisturbed.essence.symm
  isClosed twin := Conn.isClosed_of_essence twin.undisturbed.essence.symm
  finish _ := rfl
  record _ _ := rfl

end Twin

/-! ### Exchanges and calls -/

instance : Uniform Fetching (Option QueryResult) where
  resume_through {σ τ} _ _ view isView ready fetching transport := by
    have take (transport : σ) : Fetching.take (view transport) =
        (Fetching.take transport).through view := by
      unfold Fetching.take
      rw [isView.isBusy, isView.takeResult]
      by_cases busy : Transport.isBusy transport = true
      · simp only [if_pos busy]
        rfl
      · simp only [if_neg busy]
        rfl
    change Fetching.resume _ _ = Turn.through _ (Fetching.resume _ _)
    cases fetching with
    | fresh => exact take transport
    | done => rfl
    | reading =>
        unfold Fetching.resume
        simp only [isView.consumeInput]
        rcases Transport.consumeInput transport with ⟨error | consumed, after⟩
        · rfl
        · exact take after

structure Ended.Alike {α γ : Type} (noisy plain : Ended α γ Conn) : Prop where
  outcome : noisy.outcome = plain.outcome
  exchange : noisy.exchange = plain.exchange
  transport : noisy.transport.Undisturbed plain.transport

private theorem Waiting.run_undisturbed {α γ : Type} [Exchange γ α] [Uniform γ α]
    {noisy plain : Conn} (undisturbed : noisy.Undisturbed plain) (manner : Manner)
    (timeout : Option Nat) (exchange : γ) :
    Ended.Alike (run manner timeout exchange noisy) (run manner timeout exchange plain) := by
  -- Both courses are those that the two sessions take as one transport.
  let twin : Twin := ⟨noisy, plain, undisturbed⟩
  have seenNoisy := run_through Twin.noisy_isView manner timeout exchange twin
  have seenPlain := run_through Twin.plain_isView manner timeout exchange twin
  change run manner timeout exchange noisy = _ at seenNoisy
  change run manner timeout exchange plain = _ at seenPlain
  rw [seenNoisy, seenPlain]
  exact ⟨rfl, rfl, (run manner timeout exchange twin).transport.undisturbed⟩

/-- Clients that make the same calls are given the same answers, and their cursors are where
the other's are. -/
theorem Client.run_undisturbed {noisy plain : Conn} (undisturbed : noisy.Undisturbed plain)
    (timeout : Option Nat) (calls : List (Manner × Call)) :
    let course := (Client.ofTransport noisy timeout).run calls
    let other := (Client.ofTransport plain timeout).run calls
    course.outcomes = other.outcomes ∧ course.client.handles = other.client.handles ∧
      course.client.session.closed = other.client.session.closed ∧
      course.client.session.transport.Undisturbed other.client.session.transport := by
  let twin : Twin := ⟨noisy, plain, undisturbed⟩
  have startNoisy := ofTransport_through Twin.noisy_isView twin timeout
  have startPlain := ofTransport_through Twin.plain_isView twin timeout
  change Client.ofTransport noisy timeout = _ at startNoisy
  change Client.ofTransport plain timeout = _ at startPlain
  rw [startNoisy, startPlain, run_through Twin.noisy_isView, run_through Twin.plain_isView]
  exact ⟨rfl, rfl, rfl,
    ((Client.ofTransport twin timeout).run calls).client.session.transport.undisturbed⟩

/-! ### An answer with interjections -/

/-- Whatever a session hears of an answer, and whatever is done with it meanwhile: with
interjections it has the same results, stands at the same point and has written the same as
without them, and what is driven over it ends alike. The sessions differ in no more than what
they keep for others to look at, and in the interjections that are still to be heard. On a
link that goes on taking what is written, it does not matter either how the two inputs are
cut. -/
theorem answer_undisturbed {conn : Conn} {deliveries : List Delivery}
    (parted : (Speech.own conn.inbox ++ Delivery.carried deliveries).Parted) :
    let noisy := conn.hearing (deliveries.map Delivery.whole)
    let plain := conn.hearing (deliveries.filterMap Delivery.plain?)
    (∀ deeds,
      let heard := noisy.course deeds
      let unheard := plain.course deeds
      heard.results = unheard.results ∧ heard.inFlight = unheard.inFlight ∧
        heard.describing = unheard.describing ∧
        heard.transactionStatus = unheard.transactionStatus ∧
        heard.link.delivered = unheard.link.delivered ∧ heard.outbox = unheard.outbox ∧
        heard.Undisturbed unheard) ∧
    (∀ manner timeout,
      (∀ trip : RoundTrip, Ended.Alike (Waiting.run manner timeout trip noisy)
        (Waiting.run manner timeout trip plain)) ∧
      ∀ fetching : Fetching, Ended.Alike (Waiting.run manner timeout fetching noisy)
        (Waiting.run manner timeout fetching plain)) ∧
    ∀ uptakes others pieces otherPieces, conn.isClosed = false →
      Conn.Served (Delivery.carried deliveries).whole uptakes pieces →
      Conn.Served (Delivery.carried deliveries).plain others otherPieces →
        let heard := (conn.offering uptakes).consumeEach pieces
        let unheard := (conn.offering others).consumeEach otherPieces
        heard.1 = unheard.1 ∧ heard.2.gist.essence = unheard.2.gist.essence := by
  intro noisy plain
  have start : noisy.Undisturbed plain := Conn.hearing_undisturbed parted
  refine ⟨?_, ?_, ?_⟩
  · intro deeds heard unheard
    have alike : heard.Undisturbed unheard := Conn.course_undisturbed start deeds
    have same := alike.essence
    refine ⟨?_, ?_, ?_, ?_, ?_, ?_, alike⟩
    · exact Conn.tell_alike Conn.results (fun _ => rfl) same
    · exact Conn.tell_alike Conn.inFlight (fun _ => rfl) same
    · exact Conn.tell_alike Conn.describing (fun _ => rfl) same
    · exact Conn.tell_alike Conn.transactionStatus (fun _ => rfl) same
    · exact Conn.tell_alike (fun conn => conn.link.delivered) (fun _ => rfl) same
    · exact Conn.tell_alike Conn.outbox (fun _ => rfl) same
  · intro manner timeout
    constructor
    · intro trip
      exact Waiting.run_undisturbed start manner timeout trip
    · intro fetching
      exact Waiting.run_undisturbed start manner timeout fetching
  · intro uptakes others pieces otherPieces isOpen served servedPlain
    exact Conn.consumeEach_undisturbed isOpen parted served servedPlain

/-- The columns are followed by a notice that arrives in two pieces, of which the second
brings nothing else; the row is followed by a report of the server on itself. -/
def interrupted : List Delivery :=
  let notice := Speech.aside (BackendMessage.noticeResponse [0]).frame.bytes
  [.data (Speech.own (BackendMessage.rowDescription 0 []).frame.bytes ++ notice.take 4), .blocked,
    .data (notice.drop 4), .blocked,
    .data (Speech.own (BackendMessage.dataRow 0 []).frame.bytes ++
      (Speech.aside (BackendMessage.parameterStatus "TimeZone" "UTC").frame.bytes ++
        Speech.own (Frame.stream [(BackendMessage.commandComplete "SELECT 1").frame,
          (BackendMessage.readyForQuery 73).frame])))]

theorem answer_undisturbed_interrupted :
    let seen : Option Ready := some { readable := true, writable := false }
    let conn : Conn := { inFlight := true, link := { reports := [seen, seen] } }
    let noisy := Waiting.run .blocking none (RoundTrip.fetching {})
      (conn.hearing (interrupted.map Delivery.whole))
    let plain := Waiting.run .blocking none (RoundTrip.fetching {})
      (conn.hearing (interrupted.filterMap Delivery.plain?))
    (Speech.own conn.inbox ++ Delivery.carried interrupted).Parted ∧ Ended.Alike noisy plain ∧
      noisy.transport.parameters = [("TimeZone", "UTC")] ∧ plain.transport.parameters = [] := by
  intro seen conn noisy plain
  have parted : (Speech.own conn.inbox ++ Delivery.carried interrupted).Parted := by
    have whole : Speech.own conn.inbox ++ Delivery.carried interrupted =
        Speech.own (BackendMessage.rowDescription 0 []).frame.bytes ++
          (Speech.aside (BackendMessage.noticeResponse [0]).frame.bytes ++
            (Speech.own (BackendMessage.dataRow 0 []).frame.bytes ++
              (Speech.aside (BackendMessage.parameterStatus "TimeZone" "UTC").frame.bytes ++
                Speech.own (Frame.stream [(BackendMessage.commandComplete "SELECT 1").frame,
                  (BackendMessage.readyForQuery 73).frame])))) := by decide
    rw [whole]
    refine .frame (by decide) (.aside (by decide) ?_ (.frame (by decide)
      (.aside (by decide) ?_ (.rest _))))
    · exact BackendMessage.frame_isInterjection True.intro (by decide +kernel)
    · exact BackendMessage.frame_isInterjection ⟨by decide, by decide⟩ rfl
  refine ⟨parted, ((answer_undisturbed parted).2.1 .blocking none).1 _, ?_, ?_⟩
  · decide +kernel
  · decide +kernel

end PgClient

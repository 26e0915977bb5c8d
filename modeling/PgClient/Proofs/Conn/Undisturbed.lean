/-
Messages that are told on the side of an answer.

A server may put some messages between those of an answer: notices, notifications, reports
on itself, and confirmations that nothing waits for. Two sessions are held side by side
here. Both are at the same point and both are asked for the same; only, what the one reads
has such messages put into it, anywhere between two others. The bytes that have been put
in are marked, so that it does not matter where the pieces of the input end.
-/

import PgClient.Proofs.Conn.Essence
import PgClient.Proofs.Conn.Course
import PgClient.Proofs.Conn.Pieces
import PgClient.Proofs.Wire.Division
import PgClient.Proofs.Wire.Layout

namespace PgClient

/-! ### Interjections -/

namespace BackendMessage

/-- The message is only kept for others to look at, or confirms what nothing waits for. A
notice has to be one that can be understood. -/
def isInterjection : BackendMessage → Bool
  | noticeResponse body => (Diagnostic.parse body).isOk
  | notificationResponse _ _ _ => true
  | parameterStatus _ _ => true
  | backendKeyData _ => true
  | parseComplete => true
  | bindComplete => true
  | closeComplete => true
  | parameterDescription _ _ => true
  | portalSuspended => true
  | copyOutResponse _ _ => true
  | copyData _ => true
  | copyDone => true
  | _ => false

end BackendMessage

def Frame.IsInterjection (frame : Frame) : Prop :=
  ∃ message, BackendMessage.decode frame.first frame.body = .ok message ∧
    message.isInterjection = true

theorem BackendMessage.frame_isInterjection {message : BackendMessage}
    (writable : message.Writable) (interjection : message.isInterjection = true) :
    message.frame.IsInterjection :=
  ⟨message, decode_frame writable, interjection⟩

namespace Conn

private theorem handle_interjection {message : BackendMessage}
    (interjection : message.isInterjection = true) (conn : Conn) :
    ∃ after, conn.handle message = .ok after ∧ after.essence = conn.essence := by
  cases message with
  | noticeResponse body =>
      change (Diagnostic.parse body).isOk = true at interjection
      simp only [handle, receiveNotice]
      cases parsed : Diagnostic.parse body with
      | error fault =>
          rw [parsed] at interjection
          cases interjection
      | ok report => exact ⟨_, rfl, rfl⟩
  | notificationResponse processId channel payload => exact ⟨_, rfl, rfl⟩
  | parameterStatus name value => exact ⟨_, rfl, rfl⟩
  | backendKeyData key => exact ⟨_, rfl, rfl⟩
  | parseComplete => exact ⟨_, rfl, rfl⟩
  | bindComplete => exact ⟨_, rfl, rfl⟩
  | closeComplete => exact ⟨_, rfl, rfl⟩
  | parameterDescription count oids => exact ⟨_, rfl, rfl⟩
  | portalSuspended => exact ⟨_, rfl, rfl⟩
  | copyOutResponse format body => exact ⟨_, rfl, rfl⟩
  | copyData data => exact ⟨_, rfl, rfl⟩
  | copyDone => exact ⟨_, rfl, rfl⟩
  | _ => cases interjection

private theorem handleFrame_interjection {frame : Frame} (interjection : frame.IsInterjection)
    (conn : Conn) : ∃ after, conn.handleFrame frame = .ok after ∧ after.essence = conn.essence := by
  obtain ⟨message, read, interjection⟩ := interjection
  rw [handleFrame, read]
  exact handle_interjection interjection conn

end Conn

/-! ### Marked bytes -/

/-- Bytes of a server, each with a mark that tells whether it belongs to the answer or has
been put in between. -/
abbrev Speech := List (UInt8 × Bool)

namespace Speech

def whole (speech : Speech) : Bytes :=
  speech.map Prod.fst

def plain (speech : Speech) : Bytes :=
  (speech.filter Prod.snd).map Prod.fst

def own (bytes : Bytes) : Speech :=
  bytes.map fun byte => (byte, true)

def aside (bytes : Bytes) : Speech :=
  bytes.map fun byte => (byte, false)

/-- What has been put in are interjections, each of them between two messages of the answer,
in front of it, or behind as many messages of it as can be told. The answer may be anything,
and the last that has been put in may not be there as a whole yet. -/
inductive Parted : Speech → Prop
  | rest (bytes : Bytes) : Parted (own bytes)
  | begun {frame : Frame} {bytes missing : Bytes} (fits : frame.Fits)
      (whole : frame.bytes = bytes ++ missing) (partly : missing ≠ []) : Parted (aside bytes)
  | frame {frame : Frame} {later : Speech} (fits : frame.Fits) (parted : Parted later) :
      Parted (own frame.bytes ++ later)
  | aside {frame : Frame} {later : Speech} (fits : frame.Fits)
      (interjection : frame.IsInterjection) (parted : Parted later) :
      Parted (aside frame.bytes ++ later)

private theorem whole_append (front back : Speech) :
    (front ++ back).whole = front.whole ++ back.whole :=
  List.map_append

private theorem plain_append (front back : Speech) :
    (front ++ back).plain = front.plain ++ back.plain := by
  rw [plain, List.filter_append, List.map_append]
  rfl

private theorem whole_own (bytes : Bytes) : (own bytes).whole = bytes := by
  induction bytes with
  | nil => rfl
  | cons byte bytes ih => exact congrArg (byte :: ·) ih

private theorem plain_own (bytes : Bytes) : (own bytes).plain = bytes := by
  induction bytes with
  | nil => rfl
  | cons byte bytes ih => exact congrArg (byte :: ·) ih

private theorem whole_aside (bytes : Bytes) : (aside bytes).whole = bytes := by
  induction bytes with
  | nil => rfl
  | cons byte bytes ih => exact congrArg (byte :: ·) ih

private theorem plain_aside (bytes : Bytes) : (aside bytes).plain = [] := by
  induction bytes with
  | nil => rfl
  | cons byte bytes ih => exact ih

private theorem own_append (front back : Bytes) : own (front ++ back) = own front ++ own back :=
  List.map_append

private theorem own_eq_append {bytes : Bytes} {front back : Speech}
    (parts : own bytes = front ++ back) :
    ∃ first second, bytes = first ++ second ∧ front = own first ∧ back = own second := by
  obtain ⟨first, second, whole, sameFront, sameBack⟩ := List.map_eq_append_iff.mp parts
  exact ⟨first, second, whole, sameFront.symm, sameBack.symm⟩

private theorem aside_eq_append {bytes : Bytes} {front back : Speech}
    (parts : aside bytes = front ++ back) :
    ∃ first second, bytes = first ++ second ∧ front = aside first ∧ back = aside second := by
  obtain ⟨first, second, whole, sameFront, sameBack⟩ := List.map_eq_append_iff.mp parts
  exact ⟨first, second, whole, sameFront.symm, sameBack.symm⟩

/-- A piece of what begins with a message ends within the message or behind it. -/
theorem cut_or_behind {front back message later : Speech}
    (speech : front ++ back = message ++ later) :
    (∃ cut, cut ≠ [] ∧ message = front ++ cut) ∨
      ∃ behind, front = message ++ behind ∧ later = behind ++ back := by
  rcases List.append_eq_append_iff.mp speech with ⟨cut, whole, rest⟩ | ⟨behind, whole, rest⟩
  · by_cases nothing : cut = []
    · subst nothing
      rw [List.append_nil] at whole
      refine .inr ⟨[], ?_, rest.symm⟩
      rw [List.append_nil, whole]
    · exact .inl ⟨cut, nothing, whole⟩
  · exact .inr ⟨behind, whole, rest⟩

private theorem own_ne_nil {bytes : Bytes} (some : own bytes ≠ []) : bytes ≠ [] := by
  intro nothing
  subst nothing
  exact some rfl

private theorem aside_ne_nil {bytes : Bytes} (some : aside bytes ≠ []) : bytes ≠ [] := by
  intro nothing
  subst nothing
  exact some rfl

end Speech

/-! ### Taking in -/

namespace Conn

variable {noisy plain after : Conn}

private theorem handleFrame_refused {frame : Frame} {fault : ProtocolFault}
    (same : noisy.essence = plain.essence) (refused : noisy.handleFrame frame = .error fault) :
    plain.handleFrame frame = .error fault := by
  have alike := handleFrame_same same frame
  rw [refused] at alike
  cases handled : plain.handleFrame frame with
  | error other =>
      rw [handled] at alike
      cases alike
      rfl
  | ok other =>
      rw [handled] at alike
      cases alike

private theorem handleFrame_taken {frame : Frame} (same : noisy.essence = plain.essence)
    (taken : noisy.handleFrame frame = .ok after) :
    ∃ other, plain.handleFrame frame = .ok other ∧ after.essence = other.essence := by
  have alike := handleFrame_same same frame
  rw [taken] at alike
  cases handled : plain.handleFrame frame with
  | error fault =>
      rw [handled] at alike
      cases alike
  | ok other =>
      rw [handled] at alike
      injection alike with alike
      exact ⟨other, rfl, alike⟩

/-- Taking in the same comes to the same. -/
theorem parse_same (same : noisy.essence = plain.essence) (input : Bytes) :
    (noisy.parse input).1 = (plain.parse input).1 ∧
      (noisy.parse input).2.essence = (plain.parse input).2.essence ∧
      (noisy.parse input).2.inbox = (plain.parse input).2.inbox := by
  induction input, noisy using parse.induct generalizing plain with
  | case1 input noisy fault found =>
      rw [parse_of_fault found, parse_of_fault found]
      exact ⟨rfl, congrArg (fun conn : Conn => { conn with broken := true }) same, rfl⟩
  | case2 input noisy found =>
      rw [parse_of_partial found, parse_of_partial found]
      exact ⟨rfl, same, rfl⟩
  | case3 input noisy frame rest found fault refused =>
      rw [parse_of_refused found refused, parse_of_refused found (handleFrame_refused same refused)]
      exact ⟨rfl, congrArg (fun conn : Conn => { conn with broken := true }) same, rfl⟩
  | case4 input noisy frame rest found after taken _ ih =>
      obtain ⟨other, takenToo, alike⟩ := handleFrame_taken same taken
      rw [parse_of_taken found taken, parse_of_taken found takenToo]
      exact ih alike

structure TakenAlike (back : Speech) (noisy plain : Except ProtocolFault Unit × Conn) : Prop where
  outcome : noisy.1 = plain.1
  essence : noisy.2.essence = plain.2.essence
  left : noisy.1 = .ok () → ∃ front : Speech, (front ++ back).Parted ∧
    noisy.2.inbox = front.whole ∧ plain.2.inbox = front.plain

/-- A frame that is not complete yet is left. -/
theorem takenAlike_of_cut {front back : Speech} (parted : (front ++ back).Parted)
    (same : noisy.essence = plain.essence) (noisyCut : Frame.next front.whole = .ok none)
    (plainCut : Frame.next front.plain = .ok none) :
    TakenAlike back (noisy.parse front.whole) (plain.parse front.plain) := by
  rw [parse_of_partial noisyCut, parse_of_partial plainCut]
  exact ⟨rfl, same, fun _ => ⟨front, parted, rfl, rfl⟩⟩

end Conn

private theorem Frame.next_of_cut {frame : Frame} {front back : Bytes} (fits : frame.Fits)
    (whole : frame.bytes = front ++ back) (partly : back ≠ []) : next front = .ok none := by
  apply next_of_incomplete
  refine ⟨frame, fits, ⟨back, whole.symm⟩, ?_⟩
  intro same
  rw [same] at whole
  exact partly (List.self_eq_append_right.mp whole)

namespace Conn

variable {noisy plain : Conn}

/-- A message of the answer is taken in by both sessions, or by neither. -/
theorem takenAlike_of_frame {back behind : Speech} {frame : Frame} (fits : frame.Fits)
    (same : noisy.essence = plain.essence)
    (onward : ∀ {after other : Conn}, after.essence = other.essence →
      TakenAlike back (after.parse behind.whole) (other.parse behind.plain)) :
    TakenAlike back (noisy.parse (frame.bytes ++ behind.whole))
      (plain.parse (frame.bytes ++ behind.plain)) := by
  have foundNoisy := Frame.next_append frame fits behind.whole
  have foundPlain := Frame.next_append frame fits behind.plain
  cases handled : noisy.handleFrame frame with
  | error fault =>
      rw [parse_of_refused foundNoisy handled,
        parse_of_refused foundPlain (handleFrame_refused same handled)]
      refine ⟨rfl, congrArg (fun conn : Conn => { conn with broken := true }) same, ?_⟩
      intro impossible
      cases impossible
  | ok after =>
      obtain ⟨other, handledToo, alike⟩ := handleFrame_taken same handled
      rw [parse_of_taken foundNoisy handled, parse_of_taken foundPlain handledToo]
      exact onward alike

/-- Taking in an answer comes to the same with interjections and without. -/
theorem parse_parted {front back : Speech} (parted : (front ++ back).Parted)
    (same : noisy.essence = plain.essence) :
    TakenAlike back (noisy.parse front.whole) (plain.parse front.plain) := by
  -- On what has been put in; the piece that is there ends within its first message or behind it.
  generalize speech : front ++ back = all at parted
  induction parted generalizing front noisy plain with
  | rest bytes =>
      obtain ⟨first, second, _, rfl, rfl⟩ := Speech.own_eq_append speech.symm
      obtain ⟨outcome, essence, inbox⟩ := parse_same same first
      rw [Speech.whole_own, Speech.plain_own]
      refine ⟨outcome, essence, fun _ => ⟨Speech.own (noisy.parse first).2.inbox, ?_, ?_, ?_⟩⟩
      · rw [← Speech.own_append]
        exact .rest _
      · exact (Speech.whole_own _).symm
      · rw [Speech.plain_own, inbox]
  | @begun frame bytes missing fits whole partly =>
      obtain ⟨first, second, rfl, rfl, rfl⟩ := Speech.aside_eq_append speech.symm
      apply takenAlike_of_cut
      · rw [speech]
        exact .begun fits whole partly
      · exact same
      · rw [Speech.whole_aside]
        rw [List.append_assoc] at whole
        exact Frame.next_of_cut fits whole (List.append_ne_nil_of_right_ne_nil _ partly)
      · rw [Speech.plain_aside]
        rfl
  | @frame frame later fits parted ih =>
      rcases Speech.cut_or_behind speech with ⟨cut, some, whole⟩ | ⟨behind, rfl, rfl⟩
      · obtain ⟨first, second, bytes, rfl, rfl⟩ := Speech.own_eq_append whole
        have next := Frame.next_of_cut fits bytes (Speech.own_ne_nil some)
        apply takenAlike_of_cut
        · rw [speech]
          exact .frame fits parted
        · exact same
        · rw [Speech.whole_own]
          exact next
        · rw [Speech.plain_own]
          exact next
      · rw [Speech.whole_append, Speech.plain_append, Speech.whole_own, Speech.plain_own]
        apply takenAlike_of_frame fits same
        intro after other alike
        exact ih alike rfl
  | @aside frame later fits interjection parted ih =>
      rcases Speech.cut_or_behind speech with ⟨cut, some, whole⟩ | ⟨behind, rfl, rfl⟩
      · obtain ⟨first, second, bytes, rfl, rfl⟩ := Speech.aside_eq_append whole
        apply takenAlike_of_cut
        · rw [speech]
          exact .aside fits interjection parted
        · exact same
        · rw [Speech.whole_aside]
          exact Frame.next_of_cut fits bytes (Speech.aside_ne_nil some)
        · rw [Speech.plain_aside]
          rfl
      · -- Only the one session sees it, and it is the same in essence afterwards.
        rw [Speech.whole_append, Speech.plain_append, Speech.whole_aside, Speech.plain_aside,
          List.nil_append]
        obtain ⟨after, handled, alike⟩ := handleFrame_interjection interjection noisy
        rw [parse_of_taken (Frame.next_append frame fits behind.whole) handled]
        exact ih (alike.trans same) rfl

end Conn

/-! ### Arriving -/

inductive Delivery
  | data (speech : Speech)
  | blocked
  | failed (fault : IoFault)
deriving Repr, DecidableEq

namespace Delivery

def whole : Delivery → Arrival
  | data speech => .data speech.whole
  | blocked => .blocked
  | failed fault => .failed fault

/-- What arrives where nothing has been put in: a piece that has been put in as a whole does
not arrive. -/
def plain? : Delivery → Option Arrival
  | data speech =>
      if !speech.isEmpty && speech.plain.isEmpty then none else some (.data speech.plain)
  | blocked => some .blocked
  | failed fault => some (.failed fault)

def carried (deliveries : List Delivery) : Speech :=
  deliveries.flatMap fun
    | data speech => speech
    | _ => []

/-- An attempt to read everything goes as far with interjections as without. -/
theorem gather_alike (deliveries : List Delivery) :
    ∃ speech later fault,
      Link.gather (deliveries.map whole) = ⟨speech.whole, later.map whole, fault⟩ ∧
        Link.gather (deliveries.filterMap plain?) =
          ⟨speech.plain, later.filterMap plain?, fault⟩ ∧
        (fault = none → carried deliveries = speech ++ carried later) := by
  induction deliveries with
  | nil => exact ⟨[], [], none, rfl, rfl, fun _ => rfl⟩
  | cons delivery deliveries ih =>
      cases delivery with
      | blocked => exact ⟨[], deliveries, none, rfl, rfl, fun _ => rfl⟩
      | failed fault =>
          refine ⟨[], deliveries, some fault, rfl, rfl, ?_⟩
          intro impossible
          cases impossible
      | data speech =>
          cases speech with
          | nil =>
              -- A piece without bytes is the end of the input, and it is not dropped.
              refine ⟨[], deliveries, some .serverClosed, rfl, rfl, ?_⟩
              intro impossible
              cases impossible
          | cons byte speech =>
              obtain ⟨further, later, fault, noisy, plain, rest⟩ := ih
              refine ⟨(byte :: speech) ++ further, later, fault, ?_, ?_, ?_⟩
              · rw [Speech.whole_append]
                change Link.gather (.data (byte.1 :: Speech.whole speech) :: _) = _
                simp only [Link.gather, noisy]
                rfl
              · rw [Speech.plain_append]
                cases said : Speech.plain (byte :: speech) with
                | nil =>
                    have dropped : plain? (.data (byte :: speech)) = none := by
                      simp [plain?, said]
                    rw [List.filterMap_cons_none dropped, List.nil_append]
                    exact plain
                | cons first others =>
                    have kept : plain? (.data (byte :: speech)) =
                        some (.data (first :: others)) := by
                      simp [plain?, said]
                    rw [List.filterMap_cons_some kept]
                    simp only [Link.gather, plain]
              · intro none
                rw [carried, List.flatMap_cons, List.append_assoc, ← rest none]
                rfl

end Delivery

/-! ### Side by side -/

namespace Conn

/-- What is still to be read by two sessions is the same but for interjections. -/
structure HearAlike (front : Speech) (deliveries : List Delivery) (noisy plain : Conn) : Prop where
  parted : (front ++ Delivery.carried deliveries).Parted
  noisyInbox : noisy.inbox = front.whole
  plainInbox : plain.inbox = front.plain
  noisyArrivals : noisy.link.arrivals = deliveries.map Delivery.whole
  plainArrivals : plain.link.arrivals = deliveries.filterMap Delivery.plain?

/-- Two sessions are the same but for what they have been told on the side, and will be as
long as they read anything. -/
structure Undisturbed (noisy plain : Conn) : Prop where
  essence : noisy.essence = plain.essence
  input : noisy.isClosed = true ∨ ∃ front deliveries, HearAlike front deliveries noisy plain

def Disregards {α : Type} (operation : Conn → α × Conn) : Prop :=
  ∀ noisy plain, Undisturbed noisy plain → (operation noisy).1 = (operation plain).1 ∧
    Undisturbed (operation noisy).2 (operation plain).2

variable {noisy plain : Conn}

theorem Heedless.disregards {α : Type} {operation : Conn → α × Conn}
    (heedless : Heedless operation) : Disregards operation := by
  intro noisy plain undisturbed
  have same := heedless.same undisturbed.essence
  injection same with outcome essence
  refine ⟨outcome, essence, ?_⟩
  rcases heedless.input noisy with closed | ⟨isOpen, inbox, arrivals⟩
  · exact .inl closed
  · rcases heedless.input plain with closed | ⟨_, plainInbox, plainArrivals⟩
    · exact .inl ((isClosed_of_essence essence).trans closed)
    · rcases undisturbed.input with closed | ⟨front, deliveries, alike⟩
      · rw [isOpen] at closed
        cases closed
      · refine .inr ⟨front, deliveries, alike.parted, ?_, ?_, ?_, ?_⟩
        · rw [inbox, alike.noisyInbox]
        · rw [plainInbox, alike.plainInbox]
        · rw [arrivals, alike.noisyArrivals]
        · rw [plainArrivals, alike.plainArrivals]

def takeIn (conn : Conn) : Except Error Unit × Conn :=
  match conn.parse conn.inbox with
  | (.error fault, conn) => (.error (Error.ofProtocol fault), conn)
  | (.ok (), conn) =>
      match conn.flush with
      | (.error error, conn) => (.error error, conn)
      | (.ok _, conn) => (.ok (), conn)

private theorem takeIn_undisturbed (front : Speech) {deliveries : List Delivery}
    (same : noisy.essence = plain.essence) (alike : HearAlike front deliveries noisy plain) :
    noisy.takeIn.1 = plain.takeIn.1 ∧ Undisturbed noisy.takeIn.2 plain.takeIn.2 := by
  have taken := parse_parted alike.parted same
  have noisyLink : (noisy.parse front.whole).2.link = noisy.link := parse_link
  have plainLink : (plain.parse front.plain).2.link = plain.link := parse_link
  unfold takeIn
  rw [alike.noisyInbox, alike.plainInbox]
  cases parsed : noisy.parse front.whole with
  | mk outcome after =>
      cases parsedToo : plain.parse front.plain with
      | mk otherOutcome other =>
          rw [parsed] at taken noisyLink
          rw [parsedToo] at taken plainLink
          obtain ⟨agreed, essence, left⟩ := taken
          cases agreed
          cases outcome with
          | error fault =>
              have broken : after.broken = true := (parse_error parsed).1
              refine ⟨rfl, essence, .inl ?_⟩
              rw [isClosed, broken]
              rfl
          | ok done =>
              obtain ⟨rest, parted, noisyInbox, plainInbox⟩ := left rfl
              have between : Undisturbed after other := by
                refine ⟨essence, .inr ⟨rest, deliveries, parted, noisyInbox, plainInbox, ?_, ?_⟩⟩
                · exact (congrArg Link.arrivals noisyLink).trans alike.noisyArrivals
                · exact (congrArg Link.arrivals plainLink).trans alike.plainArrivals
              obtain ⟨written, further⟩ := flush_heedless.disregards _ _ between
              dsimp only
              generalize after.flush = flushed at written further
              generalize other.flush = flushedToo at written further
              obtain ⟨outcome, after⟩ := flushed
              obtain ⟨otherOutcome, other⟩ := flushedToo
              cases written
              cases outcome with
              | error error => exact ⟨rfl, further⟩
              | ok pending => exact ⟨rfl, further⟩

theorem consumeInput_disregards : Disregards consumeInput := by
  intro noisy plain undisturbed
  have closedAlike := isClosed_of_essence undisturbed.essence
  by_cases closed : noisy.isClosed = true
  · rw [consumeInput, if_pos closed, consumeInput, if_pos (closedAlike.symm.trans closed)]
    exact ⟨rfl, undisturbed⟩
  · obtain ⟨front, deliveries, alike⟩ := undisturbed.input.resolve_left closed
    obtain ⟨speech, later, fault, noisyRead, plainRead, rest⟩ := Delivery.gather_alike deliveries
    rw [consumeInput, if_neg closed, consumeInput, if_neg (by rw [← closedAlike]; exact closed),
      readAll, readAll, alike.noisyArrivals, alike.plainArrivals, noisyRead, plainRead]
    cases fault with
    | some fault =>
        refine ⟨rfl, ?_, .inl rfl⟩
        exact congrArg
          (fun conn : Conn =>
            { conn with broken := true, inFlight := false, lastStatus := .unknown })
          undisturbed.essence
    | none =>
        apply takeIn_undisturbed (front ++ speech)
        · exact undisturbed.essence
        · refine ⟨?_, ?_, ?_, rfl, rfl⟩
          · rw [List.append_assoc, ← rest rfl]
            exact alike.parted
          · rw [Speech.whole_append, ← alike.noisyInbox]
          · rw [Speech.plain_append, ← alike.plainInbox]

/-! ### However it is cut -/

structure Served (input : Bytes) (uptakes : List Uptake) (pieces : List (List Bytes)) : Prop where
  some : pieces ≠ []
  solid : ∀ piece ∈ pieces, ∀ read ∈ piece, read ≠ []
  willing : ∀ uptake ∈ uptakes, uptake.isWilling = true
  whole : (pieces.map List.flatten).flatten = input

private theorem Follows.essence {reference : Except ProtocolFault Unit × Conn}
    {run : Except Error Unit × Conn} (follows : Follows reference run) :
    run.1 = reference.1.mapError Error.ofProtocol ∧
      run.2.gist.essence = reference.2.essence := by
  cases follows with
  | ok same live => exact ⟨rfl, congrArg Conn.essence same⟩
  | error same =>
      have alike := congrArg Conn.essence same
      exact ⟨rfl, alike⟩

theorem Served.follows {conn : Conn} {input : Bytes} {uptakes : List Uptake}
    {pieces : List (List Bytes)} (served : Served input uptakes pieces)
    (isOpen : conn.isClosed = false) :
    Follows (conn.digest input) ((conn.offering uptakes).consumeEach pieces) := by
  obtain ⟨some, solid, willing, rfl⟩ := served
  have live : (conn.offering uptakes).Live := ⟨isOpen, willing⟩
  cases pieces with
  | nil => exact absurd rfl some
  | cons first rest => exact consumeEach_follows live solid

private theorem digest_undisturbed {conn : Conn} {speech : Speech}
    (parted : (Speech.own conn.inbox ++ speech).Parted) :
    (conn.digest speech.whole).1 = (conn.digest speech.plain).1 ∧
      (conn.digest speech.whole).2.essence = (conn.digest speech.plain).2.essence := by
  rw [← List.append_nil (Speech.own conn.inbox ++ speech)] at parted
  have taken : TakenAlike [] (conn.gist.parse (Speech.own conn.inbox ++ speech).whole)
      (conn.gist.parse (Speech.own conn.inbox ++ speech).plain) := parse_parted parted rfl
  rw [Speech.whole_append, Speech.plain_append, Speech.whole_own, Speech.plain_own] at taken
  exact ⟨taken.outcome, taken.essence⟩

/-- The pieces need not be the same ones, with interjections and without. -/
theorem consumeEach_undisturbed {conn : Conn} {speech : Speech} {uptakes others : List Uptake}
    {pieces otherPieces : List (List Bytes)} (isOpen : conn.isClosed = false)
    (parted : (Speech.own conn.inbox ++ speech).Parted)
    (served : Served speech.whole uptakes pieces)
    (servedPlain : Served speech.plain others otherPieces) :
    ((conn.offering uptakes).consumeEach pieces).1 =
        ((conn.offering others).consumeEach otherPieces).1 ∧
      ((conn.offering uptakes).consumeEach pieces).2.gist.essence =
        ((conn.offering others).consumeEach otherPieces).2.gist.essence := by
  obtain ⟨outcome, essence⟩ := digest_undisturbed parted
  obtain ⟨noisyOutcome, noisyEssence⟩ := (served.follows isOpen).essence
  obtain ⟨plainOutcome, plainEssence⟩ := (servedPlain.follows isOpen).essence
  constructor
  · rw [noisyOutcome, plainOutcome, outcome]
  · rw [noisyEssence, plainEssence, essence]

/-! ### Whatever is done -/

private theorem perform_undisturbed (undisturbed : Undisturbed noisy plain) (deed : Deed) :
    Undisturbed (noisy.perform deed) (plain.perform deed) := by
  cases deed with
  | send command => exact ((send_heedless command).disregards _ _ undisturbed).2
  | flush => exact (flush_heedless.disregards _ _ undisturbed).2
  | consume => exact (consumeInput_disregards _ _ undisturbed).2
  | takeResult => exact (takeResult_heedless.disregards _ _ undisturbed).2
  | takeResults => exact (takeResults_heedless.disregards _ _ undisturbed).2
  | finish => exact (finish_heedless.disregards _ _ undisturbed).2

theorem course_undisturbed (undisturbed : Undisturbed noisy plain) (deeds : List Deed) :
    Undisturbed (noisy.course deeds) (plain.course deeds) := by
  induction deeds generalizing noisy plain with
  | nil => exact undisturbed
  | cons deed deeds ih => exact ih (perform_undisturbed undisturbed deed)

def hearing (arrivals : List Arrival) (conn : Conn) : Conn :=
  { conn with link := { conn.link with arrivals } }

theorem hearing_undisturbed {conn : Conn} {deliveries : List Delivery}
    (parted : (Speech.own conn.inbox ++ Delivery.carried deliveries).Parted) :
    Undisturbed (conn.hearing (deliveries.map Delivery.whole))
      (conn.hearing (deliveries.filterMap Delivery.plain?)) := by
  refine ⟨rfl, .inr ⟨Speech.own conn.inbox, deliveries, parted, ?_, ?_, rfl, rfl⟩⟩
  · exact (Speech.whole_own _).symm
  · exact (Speech.plain_own _).symm

end Conn

end PgClient

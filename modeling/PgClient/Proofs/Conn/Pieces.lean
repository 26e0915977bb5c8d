/-
Input in pieces.

The bytes of a server may be cut anywhere, and the session may be asked to consume them
after each piece. On a link that takes what is written, sooner or later, every such
course follows one reference: the gist of the session that is given all of the bytes at
once. So it does not matter where the cuts are.
-/

import PgClient.Proofs.Conn.Gist
import PgClient.Proofs.Conn.Traffic

namespace PgClient

/-! ### Links that do not fail -/

def Uptake.isWilling : Uptake → Bool
  | accepted count => count != 0
  | refused => true
  | failed _ => false

namespace Link

theorem push_willing {uptakes : List Uptake} (willing : ∀ uptake ∈ uptakes, uptake.isWilling = true)
    (output : Bytes) :
    ((push output uptakes).ending = .complete ∨ (push output uptakes).ending = .refused) ∧
      ∀ uptake ∈ (push output uptakes).uptakes, uptake.isWilling = true := by
  fun_induction push output uptakes with
  | case1 output => exact ⟨.inl rfl, willing⟩
  | case2 output uptake later isEmpty => exact ⟨.inl rfl, willing⟩
  | case3 output later isEmpty =>
      exact ⟨.inr rfl, fun uptake member => willing uptake (List.mem_cons_of_mem _ member)⟩
  | case4 output later isEmpty fault => cases willing _ List.mem_cons_self
  | case5 output later isEmpty => cases willing _ List.mem_cons_self
  | case6 output later isEmpty count front back parts further ih =>
      exact ih fun uptake member => willing uptake (List.mem_cons_of_mem _ member)

private theorem gather_data {reads : List Bytes} (solid : ∀ read ∈ reads, read ≠ []) :
    gather (reads.map .data) = ⟨reads.flatten, [], none⟩ := by
  induction reads with
  | nil => rfl
  | cons read reads ih =>
      have others := ih fun other member => solid other (List.mem_cons_of_mem _ member)
      cases read with
      | nil => exact absurd rfl (solid [] List.mem_cons_self)
      | cons byte bytes =>
          simp only [List.map_cons, gather, others, List.flatten_cons]

end Link

namespace Conn

structure Live (conn : Conn) : Prop where
  isOpen : conn.isClosed = false
  willing : ∀ uptake ∈ conn.link.uptakes, uptake.isWilling = true

def deliver (reads : List Bytes) (conn : Conn) : Conn :=
  { conn with link := { conn.link with arrivals := reads.map .data } }

def consumeEach : List (List Bytes) → Conn → Except Error Unit × Conn
  | [], conn => (.ok (), conn)
  | piece :: pieces, conn =>
      match (conn.deliver piece).consumeInput with
      | (.error error, conn) => (.error error, conn)
      | (.ok (), conn) => conn.consumeEach pieces

def digest (bytes : Bytes) (conn : Conn) : Except ProtocolFault Unit × Conn :=
  conn.gist.parse (conn.inbox ++ bytes)

/-- A course of calls ends as the reference does. Where it fails, no more than the input
that is left can be another. -/
inductive Follows : Except ProtocolFault Unit × Conn → Except Error Unit × Conn → Prop
  | ok {reference after : Conn} (same : after.gist = reference) (live : after.Live) :
      Follows (.ok (), reference) (.ok (), after)
  | error {fault : ProtocolFault} {reference after : Conn} {inbox : Bytes}
      (same : after.gist = { reference with inbox }) :
      Follows (.error fault, reference) (.error (Error.ofProtocol fault), after)

variable {conn after : Conn} {reads : List Bytes}

private theorem flush_live (live : conn.Live) :
    ∃ pending after, conn.flush = (.ok pending, after) ∧ after.gist = conn.gist ∧ after.Live := by
  unfold flush
  split
  · exact ⟨false, conn, rfl, rfl, live⟩
  · rw [if_neg (by simp [live.isOpen])]
    obtain ⟨ending, willing⟩ := Link.push_willing live.willing conn.outbox
    have whole := Link.push_whole conn.outbox conn.link.uptakes
    have same : (conn.settlePush (Link.push conn.outbox conn.link.uptakes)).gist = conn.gist := by
      simp only [gist, rehouse, settlePush, List.append_assoc, whole]
    have still : (conn.settlePush (Link.push conn.outbox conn.link.uptakes)).Live :=
      ⟨live.isOpen, willing⟩
    rcases ending with complete | refused
    · exact ⟨false, _, by simp only [complete], same, still⟩
    · exact ⟨true, _, by simp only [refused], same, still⟩

theorem parse_isClosed {input : Bytes} (parsed : conn.parse input = (.ok (), after)) :
    after.isClosed = conn.isClosed := by
  induction input, conn using parse.induct with
  | case1 input conn fault found =>
      rw [parse_of_fault found] at parsed
      cases parsed
  | case2 input conn found =>
      rw [parse_of_partial found] at parsed
      cases parsed
      rfl
  | case3 input conn frame rest found fault refused =>
      rw [parse_of_refused found refused] at parsed
      cases parsed
  | case4 input conn frame rest found next taken _ ih =>
      rw [parse_of_taken found taken] at parsed
      rw [ih parsed, (handleFrame_effect taken).isClosed]

/-! ### One piece -/

private theorem readAll_deliver (solid : ∀ read ∈ reads, read ≠ []) :
    (conn.deliver reads).readAll =
      (.ok (), { conn.deliver [] with inbox := conn.inbox ++ reads.flatten }) := by
  unfold readAll
  simp only [deliver, Link.gather_data solid, List.map_nil]

private theorem consumeInput_follows (live : conn.Live) (solid : ∀ read ∈ reads, read ≠ []) :
    Follows (conn.digest reads.flatten) (conn.deliver reads).consumeInput := by
  have opened : ¬(conn.deliver reads).isClosed = true :=
    Bool.not_eq_true _ ▸ live.isOpen
  have digested : conn.digest reads.flatten =
      (((conn.deliver []).parse (conn.inbox ++ reads.flatten)).1,
        ((conn.deliver []).parse (conn.inbox ++ reads.flatten)).2.gist) := by
    rw [← parse_gist]
    rfl
  unfold consumeInput
  rw [if_neg opened, readAll_deliver solid]
  dsimp only
  rw [parse_inbox, digested]
  cases parsing : (conn.deliver []).parse (conn.inbox ++ reads.flatten) with
  | mk outcome parsed =>
      cases outcome with
      | error fault => exact .error rfl
      | ok done =>
          have link : ((conn.deliver []).parse (conn.inbox ++ reads.flatten)).2.link =
            (conn.deliver []).link := parse_link
          rw [parsing] at link
          have still : parsed.Live := by
            refine ⟨(parse_isClosed parsing).trans live.isOpen, ?_⟩
            dsimp only at link
            rw [link]
            exact live.willing
          obtain ⟨pending, after, flushed, same, alive⟩ := flush_live still
          dsimp only
          rw [flushed]
          exact .ok same alive

/-! ### All pieces -/

private theorem digest_append_of_ok {bytes : Bytes} {reference : Conn}
    (digested : conn.digest bytes = (.ok (), reference)) (same : after.gist = reference)
    (more : Bytes) : conn.digest (bytes ++ more) = after.digest more := by
  unfold digest at digested ⊢
  rw [← List.append_assoc, parse_append_of_ok digested more, ← same]
  rfl

private theorem digest_append_of_error {bytes : Bytes} {fault : ProtocolFault} {reference : Conn}
    (digested : conn.digest bytes = (.error fault, reference)) (more : Bytes) :
    ∃ inbox, conn.digest (bytes ++ more) = (.error fault, { reference with inbox }) := by
  unfold digest at digested ⊢
  rw [← List.append_assoc, parse_append_of_error digested more]
  exact ⟨_, rfl⟩

/-- Wherever the input is cut, the session makes of it what it makes of all of it. -/
theorem consumeEach_follows {first : List Bytes} {rest : List (List Bytes)} (live : conn.Live)
    (solid : ∀ piece ∈ first :: rest, ∀ read ∈ piece, read ≠ []) :
    Follows (conn.digest ((first :: rest).map List.flatten).flatten)
      (conn.consumeEach (first :: rest)) := by
  -- Without any call the session would not look at what it holds already, so the
  -- induction begins with one piece.
  induction rest generalizing conn first with
  | nil =>
      have head := consumeInput_follows live (solid first List.mem_cons_self)
      rw [List.map_singleton, List.flatten_singleton, consumeEach]
      generalize (conn.deliver first).consumeInput = run at head
      generalize conn.digest first.flatten = reference at head
      cases head with
      | ok same alive => exact .ok same alive
      | error same => exact .error same
  | cons second rest ih =>
      have head := consumeInput_follows live (solid first List.mem_cons_self)
      have onward : ∀ piece ∈ second :: rest, ∀ read ∈ piece, read ≠ [] := by
        intro piece member
        exact solid piece (List.mem_cons_of_mem _ member)
      rw [List.map_cons, List.flatten_cons, consumeEach]
      generalize (conn.deliver first).consumeInput = run at head
      generalize digested : conn.digest first.flatten = reference at head
      cases head with
      | ok same alive =>
          rw [digest_append_of_ok digested same]
          exact ih alive onward
      | error same =>
          obtain ⟨inbox, wholly⟩ := digest_append_of_error digested
            ((second :: rest).map List.flatten).flatten
          rw [wholly]
          exact .error same

/-! ### Malformed messages -/

/-- The input holds a message that the session cannot take in: its length is too small, it
cannot be read, or it has no place. The session `before` is the one that meets it. -/
inductive Meets (fault : ProtocolFault) : Bytes → Conn → (before : Conn) → Prop
  | length {input : Bytes} {conn : Conn} (found : Frame.next input = .error fault) :
      Meets fault input conn conn
  | message {input rest : Bytes} {frame : Frame} {conn : Conn}
      (found : Frame.next input = .ok (some (frame, rest)))
      (refused : conn.handleFrame frame = .error fault) : Meets fault input conn conn
  | later {input rest : Bytes} {frame : Frame} {conn next before : Conn}
      (found : Frame.next input = .ok (some (frame, rest)))
      (taken : conn.handleFrame frame = .ok next) (meets : Meets fault rest next before) :
      Meets fault input conn before

variable {input : Bytes} {fault : ProtocolFault} {before : Conn}

private theorem Meets.parse (meets : Meets fault input conn before) :
    ∃ inbox, conn.parse input = (.error fault, { before with inbox, broken := true }) := by
  induction meets with
  | length found => exact ⟨_, parse_of_fault found⟩
  | message found refused => exact ⟨_, parse_of_refused found refused⟩
  | later found taken meets ih =>
      rw [parse_of_taken found taken]
      exact ih

private theorem meets_of_parse (parsed : conn.parse input = (.error fault, after)) :
    ∃ before, Meets fault input conn before := by
  induction input, conn using parse.induct with
  | case1 input conn other found =>
      rw [parse_of_fault found] at parsed
      cases parsed
      exact ⟨conn, .length found⟩
  | case2 input conn found =>
      rw [parse_of_partial found] at parsed
      cases parsed
  | case3 input conn frame rest found other refused =>
      rw [parse_of_refused found refused] at parsed
      cases parsed
      exact ⟨conn, .message found refused⟩
  | case4 input conn frame rest found next taken _ ih =>
      rw [parse_of_taken found taken] at parsed
      obtain ⟨before, meets⟩ := ih parsed
      exact ⟨before, .later found taken meets⟩

private theorem digest_of_meets {bytes : Bytes}
    (meets : Meets fault (conn.inbox ++ bytes) conn before) :
    ∃ reference, conn.digest bytes = (.error fault, reference) ∧
      reference.results = before.results ∧ reference.isClosed = true := by
  obtain ⟨inbox, parsed⟩ := meets.parse
  refine ⟨({ before with inbox, broken := true } : Conn).gist, ?_, rfl, rfl⟩
  rw [digest, parse_gist, parsed]

private theorem digest_of_well_formed {bytes : Bytes}
    (wellFormed : ∀ fault before, ¬Meets fault (conn.inbox ++ bytes) conn before) :
    ∃ reference, conn.digest bytes = (.ok (), reference) := by
  cases parsed : conn.parse (conn.inbox ++ bytes) with
  | mk outcome after =>
      cases outcome with
      | error fault =>
          obtain ⟨before, meets⟩ := meets_of_parse parsed
          exact absurd meets (wellFormed fault before)
      | ok done => exact ⟨after.gist, by rw [digest, parse_gist, parsed]⟩

/-! ### Two courses -/

def offering (uptakes : List Uptake) (conn : Conn) : Conn :=
  { conn with link := { conn.link with uptakes } }

theorem Follows.succeeds {reference : Conn} {run : Except Error Unit × Conn}
    (follows : Follows (.ok (), reference) run) :
    run.1 = .ok () ∧ run.2.isClosed = false ∧ run.2.gist = reference := by
  cases follows with
  | ok same live => exact ⟨rfl, live.isOpen, same⟩

private theorem Follows.fails {reference : Conn} {run : Except Error Unit × Conn}
    (follows : Follows (.error fault, reference) run) :
    run.1 = .error (Error.ofProtocol fault) ∧ run.2.isClosed = reference.isClosed ∧
      run.2.results = reference.results := by
  cases follows with
  | @error _ _ after inbox same =>
      refine ⟨rfl, ?_, ?_⟩
      · have closed := congrArg Conn.isClosed same
        exact closed
      · have results := congrArg Conn.results same
        exact results

/-- Cutting the input into pieces, and writing more or less of the answers after each, makes
no difference to what becomes of the session. If the input is well formed, neither course
fails and both end with the same gist. If it is not, both fail at the same message. -/
theorem consumeEach_eq_consumeInput {uptakes others : List Uptake} {first whole : List Bytes}
    {rest : List (List Bytes)} (isOpen : conn.isClosed = false)
    (willing : ∀ uptake ∈ uptakes ++ others, uptake.isWilling = true)
    (solid : ∀ piece ∈ whole :: first :: rest, ∀ read ∈ piece, read ≠ [])
    (same : ((first :: rest).map List.flatten).flatten = whole.flatten) :
    let cut := (conn.offering uptakes).consumeEach (first :: rest)
    let joined := ((conn.offering others).deliver whole).consumeInput
    ((∀ fault before, ¬Meets fault (conn.inbox ++ whole.flatten) conn before) →
      cut.1 = .ok () ∧ joined.1 = .ok () ∧ cut.2.isClosed = false ∧ joined.2.isClosed = false ∧
        cut.2.gist = joined.2.gist) ∧
    (∀ fault before, Meets fault (conn.inbox ++ whole.flatten) conn before →
      cut.1 = .error (Error.ofProtocol fault) ∧ joined.1 = .error (Error.ofProtocol fault) ∧
        cut.2.isClosed = true ∧ joined.2.isClosed = true ∧
        cut.2.results = before.results ∧ joined.2.results = before.results) := by
  intro cut joined
  have cutLive : (conn.offering uptakes).Live :=
    ⟨isOpen, fun uptake member => willing uptake (List.mem_append_left _ member)⟩
  have joinedLive : (conn.offering others).Live :=
    ⟨isOpen, fun uptake member => willing uptake (List.mem_append_right _ member)⟩
  have cutFollows : Follows (conn.digest whole.flatten) cut := by
    have follows := consumeEach_follows cutLive fun piece member =>
      solid piece (List.mem_cons_of_mem _ member)
    rw [same] at follows
    exact follows
  have joinedFollows : Follows (conn.digest whole.flatten) joined :=
    consumeInput_follows joinedLive (solid whole List.mem_cons_self)
  constructor
  · intro wellFormed
    obtain ⟨reference, digested⟩ := digest_of_well_formed wellFormed
    rw [digested] at cutFollows joinedFollows
    obtain ⟨cutOk, cutOpen, cutGist⟩ := cutFollows.succeeds
    obtain ⟨joinedOk, joinedOpen, joinedGist⟩ := joinedFollows.succeeds
    exact ⟨cutOk, joinedOk, cutOpen, joinedOpen, cutGist.trans joinedGist.symm⟩
  · intro fault before meets
    obtain ⟨reference, digested, results, closed⟩ := digest_of_meets meets
    rw [digested] at cutFollows joinedFollows
    obtain ⟨cutFails, cutClosed, cutResults⟩ := cutFollows.fails
    obtain ⟨joinedFails, joinedClosed, joinedResults⟩ := joinedFollows.fails
    exact ⟨cutFails, joinedFails, cutClosed.trans closed, joinedClosed.trans closed,
      cutResults.trans results, joinedResults.trans results⟩

/-- An answer is cut within the length of its first message, and its end within the last. -/
theorem consumeEach_eq_consumeInput_twoMessages :
    let conn : Conn := { inFlight := true, extended := true }
    let bytes := Frame.stream
      [{ first := 'G'.toUInt8, body := [0, 0, 0] }, { first := 'Z'.toUInt8, body := [73] }]
    let cut := (conn.offering [.refused, .accepted 1]).consumeEach
      [[bytes.take 3], [], [[0], bytes.drop 4]]
    let joined := ((conn.offering []).deliver [bytes]).consumeInput
    cut.1 = .ok () ∧ joined.1 = .ok () ∧ cut.2.isClosed = false ∧ joined.2.isClosed = false ∧
      cut.2.gist = joined.2.gist := by
  intro conn bytes cut joined
  have wellFormed : ∀ fault before, ¬Meets fault (conn.inbox ++ [bytes].flatten) conn before := by
    intro fault before meets
    obtain ⟨inbox, parsed⟩ := meets.parse
    have fine : (conn.parse (conn.inbox ++ [bytes].flatten)).1.isOk = true := by decide +kernel
    rw [parsed] at fine
    cases fine
  exact (consumeEach_eq_consumeInput rfl (by decide) (by decide +kernel) (by decide +kernel)).1
    wellFormed

end Conn

end PgClient

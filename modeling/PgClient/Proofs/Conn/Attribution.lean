/-
Every result belongs to its own command.

What is left of the answers tells where a session stands. While a command is under way
the rest of its answer is still to come, and the results taken, the results waiting and
those that the rest will complete are together the results of that answer. After that
only asides can come before the next command, and they complete nothing.
-/

import PgClient.Proofs.Conn.Opening
import PgClient.Proofs.Conn.Serving
import PgClient.Proofs.Conn.Settled

namespace PgClient

/-! ### Where a session stands -/

/-- Where a session stands when `left` is all that the server can still say. The results
`due` are those of the latest command, and `taken` those of them that were taken. -/
inductive Stand (due taken : List QueryResult) : (left : List Frame) → Conn → Prop
  | answering {conn : Conn} {body later : List Frame} {ready : Frame}
      (inFlight : conn.inFlight = true)
      (unready : ∀ frame ∈ body, frame.isReady = false)
      (ends : ready.isReady = true)
      (aside : ∀ frame ∈ later, frame.isAside = true)
      (results : taken ++ conn.results.toList ++
        Frame.results conn.describing conn.builder body = due) :
      Stand due taken (body ++ ready :: later) conn
  | resting {conn : Conn} {left : List Frame}
      (inFlight : conn.inFlight = false)
      (describing : conn.describing = false)
      (builder : conn.builder = none)
      (aside : ∀ frame ∈ left, frame.isAside = true)
      (results : taken ++ conn.results.toList = due) :
      Stand due taken left conn

namespace Stand

variable {due taken : List QueryResult} {left : List Frame} {frame : Frame} {conn after : Conn}

/-- Only these four parts of a session say where it stands. -/
theorem congr (stand : Stand due taken left conn) (inFlight : after.inFlight = conn.inFlight)
    (describing : after.describing = conn.describing) (builder : after.builder = conn.builder)
    (results : after.results.toList = conn.results.toList) : Stand due taken left after := by
  cases stand with
  | answering flying unready ends aside whole =>
      refine .answering (inFlight.trans flying) unready ends aside ?_
      rw [results, describing, builder, whole]
  | resting still asking rows aside whole =>
      refine .resting (inFlight.trans still) (describing.trans asking) (builder.trans rows) aside ?_
      rw [results, whole]

private theorem handleFrame (stand : Stand due taken (frame :: left) conn)
    (handled : conn.handleFrame frame = .ok after) : Stand due taken left after := by
  have effect := Conn.handleFrame_effect handled
  generalize whole : frame :: left = all at stand
  cases stand with
  | @answering _ body later ready inFlight unready ends aside results =>
      cases body with
      | nil =>
          -- The frame ends the answer, and what comes later are asides.
          rw [List.nil_append] at whole
          cases whole
          rw [ends, Frame.yields_of_isReady ends, Frame.leaves_of_isReady ends] at effect
          refine .resting ?_ ?_ effect.builder aside ?_
          · rw [effect.inFlight, Bool.not_true, Bool.and_false]
          · rw [effect.describing, Bool.not_true, Bool.and_false]
          · rw [effect.results, List.append_nil, ← results]
            exact (List.append_nil _).symm
      | cons first body =>
          rw [List.cons_append] at whole
          cases whole
          have more := unready frame List.mem_cons_self
          rw [more] at effect
          have describing : after.describing = conn.describing := by
            rw [effect.describing, Bool.not_false, Bool.and_true]
          refine .answering ?_ ?_ ends aside ?_
          · rw [effect.inFlight, inFlight, Bool.not_false, Bool.and_true]
          · intro other member
            exact unready other (List.mem_cons_of_mem _ member)
          · rw [effect.results, effect.builder, describing, ← results, Frame.results]
            simp only [List.append_assoc]
  | resting inFlight describing builder aside results =>
      subst whole
      have first := aside frame List.mem_cons_self
      rw [Frame.yields_of_isAside first, Frame.not_isReady_of_isAside first] at effect
      refine .resting ?_ ?_ ?_ ?_ ?_
      · rw [effect.inFlight, inFlight, Bool.false_and]
      · rw [effect.describing, describing, Bool.false_and]
      · rw [effect.builder, describing, builder]
        exact Frame.leaves_of_isAside first
      · intro other member
        exact aside other (List.mem_cons_of_mem _ member)
      · rw [effect.results, List.append_nil, results]

theorem takeAll {frames : List Frame} (stand : Stand due taken (frames ++ left) conn)
    (handled : conn.takeAll frames = .ok after) : Stand due taken left after := by
  induction frames generalizing conn with
  | nil =>
      cases handled
      exact stand
  | cons frame frames ih =>
      obtain ⟨next, first, rest⟩ := Conn.takeAll_cons_ok handled
      exact ih (stand.handleFrame first) rest

private theorem parse {input : Bytes} (fits : ∀ frame ∈ left, frame.Fits)
    (begins : input <+: Frame.stream left) (stand : Stand due taken left conn)
    (parsed : conn.parse input = (.ok (), after)) :
    ∃ frames rest, left = frames ++ rest ∧ input = Frame.stream frames ++ after.inbox ∧
      after.inbox <+: Frame.stream rest ∧ after.link = conn.link ∧ Stand due taken rest after := by
  obtain ⟨frames, rest, handled, split, whole, begun, all, same⟩ :=
    Conn.parse_of_prefix fits begins parsed
  subst split
  have moved : handled.link = conn.link := Conn.takeAll_link all
  have stood : Stand due taken rest handled := stand.takeAll all
  refine ⟨frames, rest, rfl, whole, begun, ?_, ?_⟩
  · rw [same]
    exact moved
  · rw [same]
    exact stood.congr rfl rfl rfl rfl

theorem of_quiet (stand : Stand due taken left conn) (quiet : conn.Quiet) :
    taken = due ∧ conn.describing = false ∧ conn.builder = none ∧
      ∀ frame ∈ left, frame.isAside = true := by
  cases stand with
  | answering inFlight unready ends aside results =>
      rw [quiet.1] at inFlight
      cases inFlight
  | resting inFlight describing builder aside results =>
      rw [quiet.2, List.append_nil] at results
      exact ⟨results, describing, builder, aside⟩

/-- A command is under way for as long as its answer has not come to its end. -/
theorem inFlight_iff (stand : Stand due taken left conn) :
    conn.inFlight = true ↔ ∃ frame ∈ left, frame.isReady = true := by
  cases stand with
  | answering inFlight unready ends aside results =>
      exact iff_of_true inFlight ⟨_, List.mem_append_right _ List.mem_cons_self, ends⟩
  | resting inFlight describing builder aside results =>
      refine iff_of_false (Bool.eq_false_iff.mp inFlight) ?_
      rintro ⟨frame, member, ready⟩
      rw [Frame.not_isReady_of_isAside (aside frame member)] at ready
      cases ready

end Stand

private theorem Frame.results_asides {asides frames : List Frame} {describing : Bool}
    (aside : ∀ frame ∈ asides, frame.isAside = true) :
    Frame.results describing none (asides ++ frames) = Frame.results describing none frames := by
  induction asides with
  | nil => rfl
  | cons frame asides ih =>
      have first := aside frame List.mem_cons_self
      rw [List.cons_append, Frame.results, Frame.yields_of_isAside first,
        Frame.leaves_of_isAside first, List.nil_append]
      exact ih fun other member => aside other (List.mem_cons_of_mem _ member)

/-! ### What the server can say -/

section Server

variable (answers : Nat → Answer)

private theorem sayable_succ (count : Nat) :
    sayable answers (count + 1) =
      sayable answers count ++ ((answers count).messages ++
        (answers count).ready :: (answers (count + 1)).asides) := by
  simp only [sayable, answered, Answer.frames, List.append_assoc, List.singleton_append]

private theorem sayable_fits (count : Nat) : ∀ frame ∈ sayable answers count, frame.Fits := by
  induction count with
  | zero =>
      intro frame member
      apply (answers 0).fits frame
      simp only [sayable, answered, List.nil_append] at member
      simp [member]
  | succ count ih =>
      intro frame member
      rw [sayable_succ, List.mem_append, List.mem_append, List.mem_cons] at member
      rcases member with earlier | message | ready | aside
      · exact ih frame earlier
      · exact (answers count).fits frame (by simp [message])
      · exact (answers count).fits frame (by simp [ready])
      · exact (answers (count + 1)).fits frame (by simp [aside])

/-- Whatever part of the answers is last holds a message that says that the server is ready. -/
theorem ready_of_answered {count : Nat} {front back : List Frame}
    (split : answered answers count = front ++ back) (some_left : back ≠ []) :
    ∃ frame ∈ back, frame.isReady = true := by
  cases count with
  | zero =>
      have nothing := (List.append_eq_nil_iff.mp split.symm).2
      exact absurd nothing some_left
  | succ count =>
      refine ⟨back.getLast some_left, List.getLast_mem some_left, ?_⟩
      have last : (front ++ back).getLast? = some (answers count).ready := by
        rw [← split, answered, Answer.frames, ← List.append_assoc, List.getLast?_concat]
      rw [List.getLast?_append, List.getLast?_eq_some_getLast some_left, Option.some_or] at last
      injection last with last
      rw [last]
      exact (answers count).ends

end Server

/-! ### Histories -/

namespace History

variable {answers : Nat → Answer} {history : History} {handled left : List Frame}

def due (answers : Nat → Answer) (history : History) : List QueryResult :=
  match history.latest with
  | none => []
  | some served => (answers history.past.length).results served.command.describes

def taken (history : History) : List QueryResult :=
  match history.latest with
  | none => history.stray
  | some served => served.results

/-- What the server can have said is divided into what was taken in and what is left. -/
structure Account (answers : Nat → Answer) (history : History) (handled left : List Frame) :
    Prop where
  said : sayable answers history.accepted = handled ++ left
  arrived : history.arrived = Frame.stream handled ++ history.conn.unread
  begins : history.conn.unread <+: Frame.stream left
  stand : Stand (history.due answers) history.taken left history.conn

/-- Commands that others followed were given the results of their answers. -/
def Paid (answers : Nat → Answer) (past : List Served) : Prop :=
  ∀ place served, past[place]? = some served →
    served.results = (answers place).results served.command.describes

structure Kept (answers : Nat → Answer) (history : History) : Prop where
  stray : history.stray = []
  past : Paid answers history.past
  account : ∃ handled left, Account answers history handled left

private theorem Account.fits (account : Account answers history handled left) :
    ∀ frame ∈ left, frame.Fits := by
  intro frame member
  apply sayable_fits answers history.accepted
  rw [account.said]
  exact List.mem_append_right _ member

/-- What does not touch the results or the input keeps the account. -/
theorem Kept.replace {conn : Conn} (kept : Kept answers history)
    (unread : conn.unread = history.conn.unread)
    (inFlight : conn.inFlight = history.conn.inFlight)
    (describing : conn.describing = history.conn.describing)
    (builder : conn.builder = history.conn.builder)
    (results : conn.results.toList = history.conn.results.toList) :
    Kept answers { history with conn } := by
  obtain ⟨handled, left, account⟩ := kept.account
  refine ⟨kept.stray, kept.past, handled, left, account.said, ?_, ?_, ?_⟩
  · rw [account.arrived, ← unread]
  · dsimp only
    rw [unread]
    exact account.begins
  · exact account.stand.congr inFlight describing builder results

/-! ### Sending -/

private theorem Account.accept {command : Command} {outbox : Bytes} {journal : List Event}
    (account : Account answers history handled left) (quiet : history.conn.Quiet) :
    ∃ later, Account answers
      (history.accept command (Conn.dispatched command { history.conn with outbox, journal }))
      handled later := by
  obtain ⟨paid, describing, builder, aside⟩ := account.stand.of_quiet quiet
  have size : (history.past ++ history.latest.toList).length = history.accepted :=
    List.length_append
  -- The asides that are left come before the messages of the new answer.
  refine ⟨left ++ ((answers history.accepted).messages ++
    (answers history.accepted).ready :: (answers (history.accepted + 1)).asides), ?_, ?_, ?_, ?_⟩
  · change sayable answers ((history.past ++ history.latest.toList).length + 1) = _
    rw [size, sayable_succ, account.said, List.append_assoc]
  · exact account.arrived
  · rw [Frame.stream_append]
    exact account.begins.trans (List.prefix_append _ _)
  · rw [← List.append_assoc]
    refine .answering rfl ?_ (answers history.accepted).ends
      (answers (history.accepted + 1)).aside ?_
    · intro frame member
      rcases List.mem_append.mp member with before | message
      · exact Frame.not_isReady_of_isAside (aside frame before)
      · exact (answers history.accepted).unready frame message
    · change [] ++ history.conn.results.toList ++ Frame.results command.describes
        history.conn.builder (left ++ (answers history.accepted).messages) =
          (answers (history.past ++ history.latest.toList).length).results command.describes
      rw [size, quiet.2, builder, Frame.results_asides aside]
      rfl

private theorem Paid.accept (paid : Paid answers history.past)
    (last : history.taken = history.due answers) :
    Paid answers (history.past ++ history.latest.toList) := by
  intro place served found
  rcases Nat.lt_or_ge place history.past.length with earlier | beyond
  · rw [List.getElem?_append_left earlier] at found
    exact paid place served found
  · rw [List.getElem?_append_right beyond] at found
    unfold taken due at last
    cases latest : history.latest with
    | none =>
        rw [latest] at found
        cases found
    | some previous =>
        rw [latest] at found last
        have isLast : place = history.past.length := by
          have within := (List.getElem?_eq_some_iff.mp found).1
          simp only [Option.toList_some, List.length_singleton] at within
          omega
        subst isLast
        rw [Nat.sub_self] at found
        cases found
        exact last

private theorem Kept.send {command : Command} {after : Conn} (kept : Kept answers history)
    (sent : history.conn.send command = (.ok (), after)) :
    Kept answers (history.accept command after) := by
  obtain ⟨_, quiet, outbox, journal, rfl⟩ := Conn.send_ok sent
  obtain ⟨handled, left, account⟩ := kept.account
  have last := (account.stand.of_quiet quiet).1
  obtain ⟨later, accepted⟩ := account.accept quiet
  exact ⟨kept.stray, Paid.accept kept.past last, handled, later, accepted⟩

/-! ### Writing and reading -/

private theorem Kept.flush {pending : Bool} {after : Conn} (kept : Kept answers history)
    (flushed : history.conn.flush = (.ok pending, after)) :
    Kept answers { history with conn := after } := by
  obtain ⟨pushed, whole, rfl⟩ := Conn.flush_ok flushed
  exact kept.replace rfl rfl rfl rfl rfl

private theorem Account.parse {after : Conn} (account : Account answers history handled left)
    (parsed : history.conn.gathering.parse history.conn.gathering.inbox = (.ok (), after)) :
    ∃ frames rest, Account answers { history with conn := after } (handled ++ frames) rest := by
  have unread := history.conn.gathering_unread
  have front : history.conn.gathering.inbox <+: history.conn.gathering.unread :=
    List.prefix_append _ _
  have begins : history.conn.gathering.inbox <+: Frame.stream left :=
    front.trans (unread ▸ account.begins)
  have stand : Stand (history.due answers) history.taken left history.conn.gathering :=
    account.stand.congr rfl rfl rfl rfl
  obtain ⟨frames, rest, split, whole, onward, link, stood⟩ :=
    stand.parse account.fits begins parsed
  have moved : history.conn.unread = Frame.stream frames ++ after.unread := by
    rw [← unread, Conn.unread, whole, Conn.unread, link, List.append_assoc]
  refine ⟨frames, rest, ?_, ?_, ?_, stood⟩
  · rw [List.append_assoc, ← split]
    exact account.said
  · rw [Frame.stream_append, List.append_assoc, ← moved]
    exact account.arrived
  · have begun := account.begins
    rw [moved, split, Frame.stream_append] at begun
    exact (List.prefix_append_right_inj _).mp begun

private theorem Kept.consume {after : Conn} (kept : Kept answers history)
    (consumed : history.conn.consumeInput = (.ok (), after)) :
    Kept answers { history with conn := after } := by
  obtain ⟨isOpen, parsed, pending, parsing, flushed⟩ := Conn.consumeInput_ok consumed
  obtain ⟨handled, left, account⟩ := kept.account
  obtain ⟨frames, rest, read⟩ := account.parse parsing
  have between : Kept answers { history with conn := parsed } :=
    ⟨kept.stray, kept.past, _, rest, read⟩
  exact between.flush flushed

private theorem Kept.receive {arrivals : List Arrival} (kept : Kept answers history)
    (said : (history.receive arrivals).arrived <+:
      Frame.stream (sayable answers history.accepted)) :
    Kept answers (history.receive arrivals) := by
  obtain ⟨handled, left, account⟩ := kept.account
  have unread : (history.receive arrivals).conn.unread =
      history.conn.unread ++ Link.carried arrivals := by
    simp only [History.receive, Conn.unread, Link.carried_append, List.append_assoc]
  have arrived : (history.receive arrivals).arrived =
      Frame.stream handled ++ (history.receive arrivals).conn.unread := by
    rw [unread, ← List.append_assoc, ← account.arrived]
    rfl
  refine ⟨kept.stray, kept.past, handled, left, account.said, arrived, ?_, ?_⟩
  · rw [arrived, account.said, Frame.stream_append] at said
    exact (List.prefix_append_right_inj _).mp said
  · exact account.stand.congr rfl rfl rfl rfl

/-! ### Taking results -/

private theorem Stand.take {due taken : List QueryResult} {conn : Conn} {result : QueryResult}
    {results : Queue QueryResult} (stand : Stand due taken left conn)
    (first : conn.results.toList = result :: results.toList) :
    Stand due (taken ++ [result]) left { conn with results } := by
  cases stand with
  | answering inFlight unready ends aside whole =>
      refine .answering inFlight unready ends aside ?_
      rw [first] at whole
      rw [← whole, List.append_assoc taken, List.singleton_append]
  | resting inFlight describing builder aside whole =>
      refine .resting inFlight describing builder aside ?_
      rw [← whole, first, List.append_assoc, List.singleton_append]

private theorem Account.results_of_none (account : Account answers history handled left)
    (stray : history.stray = []) (latest : history.latest = none) :
    history.conn.results.toList = [] := by
  have stand := account.stand
  rw [due, taken, latest, stray] at stand
  cases stand with
  | answering inFlight unready ends aside whole =>
      exact (List.append_eq_nil_iff.mp (List.append_eq_nil_iff.mp whole).1).2
  | resting inFlight describing builder aside whole =>
      exact (List.append_eq_nil_iff.mp whole).2

private theorem Kept.take {result : QueryResult} {results : Queue QueryResult}
    (kept : Kept answers history)
    (first : history.conn.results.toList = result :: results.toList) :
    Kept answers (history.handOut result { history.conn with results }) := by
  obtain ⟨handled, left, account⟩ := kept.account
  cases latest : history.latest with
  | none =>
      rw [account.results_of_none kept.stray latest] at first
      cases first
  | some served =>
      have stand := Stand.take account.stand first
      have said := account.said
      rw [due, taken, latest] at stand
      rw [accepted, latest] at said
      rw [handOut, latest]
      exact ⟨kept.stray, kept.past, handled, left, said, account.arrived, account.begins, stand⟩

/-! ### Runs -/

private theorem Kept.start {conn : Conn} (unused : conn.Unused)
    (early : conn.unread <+: Frame.stream (answers 0).asides) :
    Kept answers (History.start conn) := by
  refine ⟨rfl, ?_, [], (answers 0).asides, rfl, rfl, early, ?_⟩
  · intro place served found
    cases found
  · exact .resting unused.inFlight unused.describing unused.builder (answers 0).aside unused.results

private theorem Kept.step {occurrence : Occurrence} {after : History} (kept : Kept answers history)
    (stepped : history.step answers occurrence = some after) : Kept answers after := by
  cases occurrence with
  | send command =>
      simp only [History.step] at stepped
      split at stepped
      · rename_i conn sent
        cases stepped
        exact kept.send sent
      · rename_i failure conn sent
        cases stepped
        obtain ⟨outbox, journal, rfl⟩ := Conn.send_refused sent
        exact kept.replace rfl rfl rfl rfl rfl
  | flush =>
      simp only [History.step] at stepped
      split at stepped
      · rename_i pending conn flushed
        cases stepped
        exact kept.flush flushed
      · cases stepped
  | consume =>
      simp only [History.step] at stepped
      split at stepped
      · rename_i conn consumed
        cases stepped
        exact kept.consume consumed
      · cases stepped
  | take =>
      simp only [History.step] at stepped
      rcases history.conn.takeResult_cases with empty | ⟨result, results, taken, first⟩
      · rw [empty] at stepped
        cases stepped
        exact kept
      · rw [taken] at stepped
        cases stepped
        exact kept.take first
  | arrive arrivals =>
      simp only [History.step] at stepped
      split at stepped
      · rename_i said
        cases stepped
        exact kept.receive said
      · cases stepped

private theorem Kept.run {occurrences : List Occurrence} {after : History}
    (kept : Kept answers history) (ran : history.run answers occurrences = some after) :
    Kept answers after := by
  induction occurrences generalizing history with
  | nil =>
      cases ran
      exact kept
  | cons occurrence occurrences ih =>
      unfold History.run at ran
      split at ran
      · cases ran
      · rename_i next stepped
        exact ih (kept.step stepped) ran

/-! ### Attribution -/

structure Finished (answers : Nat → Answer) (history : History) : Prop where
  taken : ∀ served, history.latest = some served →
    served.results = (answers history.past.length).results served.command.describes
  waiting : history.conn.results.toList = []
  read : ∃ processed, history.arrived = processed ++ history.conn.unread ∧
    Frame.stream (answered answers history.accepted) <+: processed

structure Attributed (answers : Nat → Answer) (history : History) : Prop where
  stray : history.stray = []
  past : ∀ place served, history.past[place]? = some served →
    served.results = (answers place).results served.command.describes
  latest : ∀ served, history.latest = some served →
    served.results <+: (answers history.past.length).results served.command.describes
  accepting : ∀ command after, history.conn.send command = (.ok (), after) →
    history.Finished answers
  quiet : history.conn.inFlight = false → history.conn.results.toList = [] →
    history.Finished answers

private theorem Stand.taken_prefix {due taken : List QueryResult} {conn : Conn}
    (stand : Stand due taken left conn) : taken <+: due := by
  cases stand with
  | answering inFlight unready ends aside whole =>
      rw [← whole, List.append_assoc]
      exact List.prefix_append _ _
  | resting inFlight describing builder aside whole =>
      rw [← whole]
      exact List.prefix_append _ _

private theorem Account.answered_prefix (account : Account answers history handled left)
    (aside : ∀ frame ∈ left, frame.isAside = true) :
    answered answers history.accepted <+: handled := by
  have said := account.said
  rw [sayable, List.append_eq_append_iff] at said
  rcases said with ⟨middle, read, _⟩ | ⟨middle, read, rest⟩
  · exact ⟨middle, read.symm⟩
  · by_cases empty : middle = []
    · have same : answered answers history.accepted = handled := by
        rw [read, empty, List.append_nil]
      exact ⟨[], (List.append_nil _).trans same⟩
    · -- A part of the answers that is left would end in a message that is no aside.
      obtain ⟨frame, member, ready⟩ := ready_of_answered answers read empty
      have isAside := aside frame (rest ▸ List.mem_append_left _ member)
      rw [Frame.not_isReady_of_isAside isAside] at ready
      cases ready

private theorem Kept.finished (kept : Kept answers history) (quiet : history.conn.Quiet) :
    history.Finished answers := by
  obtain ⟨handled, left, account⟩ := kept.account
  obtain ⟨paid, _, _, aside⟩ := account.stand.of_quiet quiet
  refine ⟨?_, quiet.2, Frame.stream handled, account.arrived, ?_⟩
  · intro served latest
    rw [taken, due, latest] at paid
    exact paid
  · obtain ⟨rest, whole⟩ := account.answered_prefix aside
    rw [← whole, Frame.stream_append]
    exact List.prefix_append _ _

/-- However commands, writes, reads and takes follow each other, and however the answers
are cut into pieces, every result that is taken is one of the command accepted last. -/
theorem run_attributed {config : Config} {nonces : Nat → String}
    {dial : Address → Except IoFault Link} {conn : Conn} {occurrences : List Occurrence}
    (established : Conn.connect config nonces dial = (.established, conn))
    (early : conn.unread <+: Frame.stream (answers 0).asides)
    (ran : (History.start conn).run answers occurrences = some history) :
    history.Attributed answers := by
  have kept : Kept answers history :=
    (Kept.start (Conn.connect_unused established) early).run ran
  obtain ⟨handled, left, account⟩ := kept.account
  refine ⟨kept.stray, kept.past, ?_, ?_, ?_⟩
  · intro served latest
    have begun := Stand.taken_prefix account.stand
    rw [taken, due, latest] at begun
    exact begun
  · intro command after sent
    exact kept.finished (Conn.send_ok sent).2.1
  · intro still empty
    exact kept.finished ⟨still, empty⟩

def twoCommands : Answer where
  asides := [{ first := 'S'.toUInt8, body := [97, 0, 98, 0] }]
  messages := [{ first := 'C'.toUInt8, body := [65, 0] }, { first := 'C'.toUInt8, body := [66, 0] }]
  ready := { first := 'Z'.toUInt8, body := ['I'.toUInt8] }
  aside := by decide
  unready := by decide
  ends := by decide
  fits := by decide

/-- The first result is taken while the rest of the answer is on its way. -/
theorem run_attributed_twoCommands :
    let opened := (Conn.connect {} (fun _ => "") Conn.welcoming).2
    let bytes := Frame.stream twoCommands.frames
    let occurrences : List Occurrence :=
      [.send (.query "a; b"), .flush, .arrive [.data (bytes.take 20)], .consume, .take,
        .send (.query "c"), .arrive [.data (bytes.drop 20)], .consume, .take,
        .send (.describePortal "p"), .take]
    Conn.connect {} (fun _ => "") Conn.welcoming = (.established, opened) ∧
      opened.unread <+: Frame.stream twoCommands.asides ∧
      ∃ history, (start opened).run (fun _ => twoCommands) occurrences = some history ∧
        history.accepted = 2 ∧ history.Attributed fun _ => twoCommands := by
  intro opened bytes occurrences
  have established : Conn.connect {} (fun _ => "") Conn.welcoming = (.established, opened) :=
    Prod.ext (by decide +kernel) rfl
  have early : opened.unread <+: Frame.stream twoCommands.asides := by decide +kernel
  have count : ((start opened).run (fun _ => twoCommands) occurrences).map accepted = some 2 := by
    decide +kernel
  obtain ⟨history, ran, two⟩ := Option.map_eq_some_iff.mp count
  exact ⟨established, early, history, ran, two, run_attributed established early ran⟩

end History

end PgClient

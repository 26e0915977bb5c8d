/-
The end of what a session writes, over its whole life.

A session is opened, used in any way, and left. Its ledger begins with the opening, which
may end in taking leave as well. Taking leave is entered once, by the deed that says so, of
a server that has taken everything before it, and it is the last that is written.
-/

import PgClient.Proofs.Conn.Ledger
import PgClient.Proofs.Wire.Counted

namespace PgClient

open FrontendMessage (stream fitting)

/-! ### The opening -/

namespace Conn

namespace Ledger

variable {start : Bytes} {entered : List FrontendMessage} {conn : Conn}

private theorem flushFully (ledger : Ledger start entered conn) :
    Ledger start entered conn.flushFully.2 := by
  unfold Conn.flushFully
  split
  · exact ledger
  · rename_i isOpen
    have pushed := ledger.settlePush (Bool.not_eq_true _ ▸ isOpen)
    dsimp only
    split
    · rename_i complete
      have balance := pushed.whole (Bool.not_eq_true _ ▸ isOpen)
      apply of_balance
      rw [← balance]
      simp only [Conn.settlePush, Link.push_complete complete]
    · exact pushed.close (breakWith_isClosed _ _) rfl
    · exact pushed.close (breakWith_isClosed _ _) rfl
    · exact pushed.close (breakWith_isClosed _ _) rfl

private theorem enqueue (ledger : Ledger start entered conn) {message : FrontendMessage}
    (whole : message.body.whole = true) (fits : message.fits = true) :
    Ledger start (entered ++ [message]) (conn.enqueue [message]).2 := by
  have appended := FrontendMessage.appendAll_ok (List.forall_mem_singleton.mpr whole)
    (List.forall_mem_singleton.mpr fits) conn.outbox
  by_cases closed : conn.isClosed = true
  · constructor
    · rw [FrontendMessage.stream_append, ← List.append_assoc]
      exact ledger.delivered.trans (List.prefix_append _ _)
    · intro isOpen
      cases closed.symm.trans isOpen
  · exact ledger.enter (Bool.not_eq_true _ ▸ closed) rfl (congrArg Prod.snd appended)

/-- A message that does not fit may leave something behind, but then there is something. -/
theorem stall (ledger : Ledger start entered conn) {message : FrontendMessage}
    (unfit : message.fits = false) : Closing start entered (conn.enqueue [message]).2 := by
  obtain ⟨defect, unfit⟩ := FrontendMessage.exists_unfit unfit
  refine ⟨ledger.delivered, fun isOpen nothing => ledger.closing.empty isOpen ?_⟩
  unfold Conn.enqueue FrontendMessage.appendAll at nothing
  rw [FrontendMessage.append_of_unfit unfit] at nothing
  exact (List.append_eq_nil_iff.mp nothing).1

private theorem opens (start : Bytes) : Opens (Ledger start) (Closing start) where
  tells _ _ _ _ ledger := ⟨ledger.delivered, ledger.whole⟩
  reads _ _ ledger := ⟨ledger.delivered, ledger.whole⟩
  breaks _ ledger := ledger.close rfl rfl
  speaks whole _ fits ledger := ledger.enqueue whole fits
  writes ledger := ledger.flushFully
  stops ledger := ledger.closing
  stalls _ unfit ledger := ledger.stall unfit
  stays _ _ closing := ⟨closing.delivered, closing.empty⟩

end Ledger

/-- What is put there by an opening, behind the beginning. One that fails takes leave. -/
def openingAdditions (config : Config) (nonces : Nat → String) (link : Link) :
    List FrontendMessage :=
  if config.connectTimeout = some 0 then []
  else
    startupAnswers config nonces { link } ++
      match startup config nonces { link } with
      | (.failed _, conn) => conn.farewell
      | _ => []

end Conn

def StartupMessage.bytes (message : StartupMessage) : Bytes :=
  Bytes.ofUInt32 (UInt32.ofNat (4 + message.content.length)) ++ message.content

/-- The beginning is put there as a whole, or it is too long and put there in vain. -/
theorem StartupMessage.append_cases (message : StartupMessage) (buffer : Bytes) :
    message.append buffer = (.ok (), buffer ++ message.bytes) ∨
      ∃ defect content, message.append buffer = (.error defect, buffer ++ content) ∧
        content ≠ [] := by
  unfold append bytes FrontendMessage.count32
  dsimp only
  by_cases small : 4 + message.content.length < 4294967296
  · rw [if_pos small]
    exact .inl rfl
  · rw [if_neg small]
    exact .inr ⟨_, _, rfl, by intro empty; cases empty⟩

namespace Conn

/-! ### After the end -/

section

variable {conn : Conn}

private theorem farewell_of_closed (closed : conn.isClosed = true) : conn.farewell = [] := by
  unfold farewell
  rcases Bool.or_eq_true_iff.mp closed with broken | released
  · simp [broken]
  · simp [released]

private theorem adds_of_closed (closed : conn.isClosed = true) (deed : Deed) :
    conn.adds deed = [] := by
  cases deed with
  | send command => simp only [adds, checkSendable, if_pos closed]
  | consume => exact if_pos closed
  | finish => exact farewell_of_closed closed
  | flush => rfl
  | takeResult => rfl
  | takeResults => rfl

private theorem finish_delivered (conn : Conn) :
    conn.link.delivered <+: conn.finish.link.delivered := by
  unfold finish
  split
  · exact List.prefix_rfl
  · dsimp only
    split
    · obtain ⟨taken, _, grown⟩ := conn.link.offer_delivered terminate
      rw [grown]
      exact List.prefix_append _ _
    · exact List.prefix_rfl

private theorem finish_of_silent (silent : conn.farewell = []) : conn.finish.link = conn.link := by
  unfold farewell at silent
  unfold finish
  split
  · rfl
  · rename_i kept
    dsimp only
    split
    · rename_i ready
      rw [Bool.and_assoc, ready, Bool.and_true, if_pos (by simp [kept])] at silent
      cases silent
    · rfl

theorem finish_of_closed (closed : conn.isClosed = true) : conn.finish.link = conn.link :=
  finish_of_silent (farewell_of_closed closed)

theorem perform_of_closed (closed : conn.isClosed = true) (deed : Deed) :
    (conn.perform deed).isClosed = true ∧ (conn.perform deed).link = conn.link := by
  cases deed with
  | send command =>
      have refused : conn.send command = (.error (.error .connectionClosed), conn) := by
        simp only [send, checkSendable, if_pos closed]
      rw [perform, refused]
      exact ⟨closed, rfl⟩
  | flush =>
      have same : conn.flush.2 = conn := by
        rw [flush, if_pos closed]
        split
        · rfl
        · rfl
      rw [perform, same]
      exact ⟨closed, rfl⟩
  | consume =>
      rw [perform, consumeInput, if_pos closed]
      exact ⟨closed, rfl⟩
  | takeResult =>
      rcases takeResult_cases conn with none | ⟨result, results, taken, _⟩
      · rw [perform, none]
        exact ⟨closed, rfl⟩
      · rw [perform, taken]
        exact ⟨closed, rfl⟩
  | takeResults => exact ⟨closed, rfl⟩
  | finish => exact ⟨finish_isClosed conn, finish_of_closed closed⟩

theorem course_of_closed (closed : conn.isClosed = true) (deeds : List Deed) :
    conn.additions deeds = [] ∧ (conn.course deeds).link = conn.link := by
  induction deeds generalizing conn with
  | nil => exact ⟨rfl, rfl⟩
  | cons deed deeds ih =>
      obtain ⟨still, same⟩ := perform_of_closed closed deed
      obtain ⟨nothing, unchanged⟩ := ih still
      constructor
      · rw [additions, adds_of_closed closed, nothing]
        rfl
      · exact unchanged.trans same

/-! ### Who takes leave -/

private theorem terminate_of_farewell (leaves : .terminate ∈ conn.farewell) :
    conn.farewell = [.terminate] ∧ conn.isClosed = false ∧ conn.outbox = [] := by
  unfold farewell at leaves ⊢
  split at leaves
  · rename_i ready
    rw [if_pos ready]
    simp only [Bool.and_eq_true, Bool.not_eq_true', List.isEmpty_iff] at ready
    obtain ⟨⟨kept, unbroken⟩, empty⟩ := ready
    exact ⟨rfl, by simp [isClosed, kept, unbroken], empty⟩
  · cases leaves

private theorem terminate_not_mem_fitting {messages : List FrontendMessage}
    (absent : .terminate ∉ messages) : .terminate ∉ fitting messages := by
  intro member
  exact absent ((List.takeWhile_prefix _).subset member)

private theorem terminate_not_mem_messages (command : Command) : .terminate ∉ command.messages := by
  cases command with
  | query sql => simp [Command.messages]
  | queryWith sql parameters => simp [Command.messages]
  | describePortal name => simp [Command.messages]

private theorem terminate_not_mem_refusal (extended : Bool) (frame : Frame) :
    .terminate ∉ frame.refusal extended := by
  have absent : .terminate ∉ copyAnswer extended := by
    cases extended with
    | false => decide
    | true => decide
  unfold Frame.refusal
  split
  · exact List.not_mem_nil
  · rename_i message _
    cases message with
    | copyInResponse format body => exact absent
    | copyBothResponse format body => exact absent
    | _ => exact List.not_mem_nil

private theorem terminate_not_mem_refusals (input : Bytes) (conn : Conn) :
    .terminate ∉ conn.refusals input := by
  induction input, conn using parse.induct with
  | case1 input conn fault found =>
      rw [refusals_of_fault found]
      exact List.not_mem_nil
  | case2 input conn found =>
      rw [refusals_of_partial found]
      exact List.not_mem_nil
  | case3 input conn frame rest found fault refused =>
      rw [refusals_of_frame found, refused]
      exact List.not_mem_nil
  | case4 input conn frame rest found next taken _ ih =>
      rw [refusals_of_frame found, taken]
      intro member
      rcases List.mem_append.mp member with first | later
      · exact terminate_not_mem_refusal _ _ first
      · exact ih later

private theorem finish_of_terminate {deed : Deed} (leaves : .terminate ∈ conn.adds deed) :
    deed = .finish := by
  cases deed with
  | finish => rfl
  | send command =>
      simp only [adds] at leaves
      split at leaves
      · cases leaves
      · exact absurd leaves (terminate_not_mem_fitting (terminate_not_mem_messages command))
  | consume =>
      simp only [adds] at leaves
      split at leaves
      · cases leaves
      · split at leaves
        · cases leaves
        · exact absurd leaves (terminate_not_mem_refusals _ _)
  | flush => cases leaves
  | takeResult => cases leaves
  | takeResults => cases leaves

/-- An opening says everything but that it takes leave. -/
theorem opens_terminate_not_mem :
    Opens (fun said _ => .terminate ∉ said) (fun said _ => .terminate ∉ said) where
  tells _ _ _ _ absent := absent
  reads _ _ absent := absent
  breaks _ absent := absent
  writes absent := absent
  speaks _ goesOn _ absent := by
    intro member
    rcases List.mem_append.mp member with earlier | now
    · exact absent earlier
    · exact goesOn (List.mem_singleton.mp now).symm
  stops absent := absent
  stalls _ _ absent := absent
  stays _ _ absent := absent

/-- So it is whether the opening fails or not. -/
theorem startupAnswers_terminate (config : Config) (nonces : Nat → String) (conn : Conn) :
    .terminate ∉ startupAnswers config nonces conn :=
  (opens_terminate_not_mem.startup config nonces conn List.not_mem_nil).always

/-- If leave was taken, it was taken last, and of a server that had taken everything else. -/
def Departs (start : Bytes) (entered : List FrontendMessage) (conn : Conn) : Prop :=
  .terminate ∈ entered → conn.isClosed = true ∧
    ∃ earlier, entered = earlier ++ [.terminate] ∧ .terminate ∉ earlier ∧
      start ++ stream earlier <+: conn.link.delivered

namespace Departs

variable {start : Bytes} {entered : List FrontendMessage}

private theorem of_not_mem (absent : .terminate ∉ entered) : Departs start entered conn :=
  fun member => absurd member absent

private theorem finish (closing : Closing start entered conn)
    (departs : Departs start entered conn) :
    Departs start (entered ++ conn.farewell) conn.finish := by
  intro member
  by_cases before : .terminate ∈ entered
  · obtain ⟨closed, earlier, last, once, taken⟩ := departs before
    rw [farewell_of_closed closed, List.append_nil, finish_of_closed closed]
    exact ⟨finish_isClosed conn, earlier, last, once, taken⟩
  · obtain ⟨now, isOpen, empty⟩ :=
      terminate_of_farewell ((List.mem_append.mp member).resolve_left before)
    refine ⟨finish_isClosed conn, entered, by rw [now], before, ?_⟩
    rw [← closing.empty isOpen empty]
    exact conn.finish_delivered

private theorem perform (ledger : Ledger start entered conn) (departs : Departs start entered conn)
    (deed : Deed) : Departs start (entered ++ conn.adds deed) (conn.perform deed) := by
  intro member
  by_cases before : .terminate ∈ entered
  · obtain ⟨closed, earlier, last, once, taken⟩ := departs before
    obtain ⟨still, same⟩ := perform_of_closed closed deed
    rw [adds_of_closed closed, List.append_nil, same]
    exact ⟨still, earlier, last, once, taken⟩
  · have now := (List.mem_append.mp member).resolve_left before
    cases finish_of_terminate now
    exact departs.finish ledger.closing member

end Departs

private theorem course_kept {start : Bytes} {entered : List FrontendMessage}
    (ledger : Ledger start entered conn) (departs : Departs start entered conn)
    {deeds : List Deed} (wholly : ∀ command, .send command ∈ deeds → command.AllOrNothing) :
    Ledger start (entered ++ conn.additions deeds) (conn.course deeds) ∧
      Departs start (entered ++ conn.additions deeds) (conn.course deeds) := by
  induction deeds generalizing conn entered with
  | nil =>
      rw [additions, List.append_nil]
      exact ⟨ledger, departs⟩
  | cons deed deeds ih =>
      rw [additions, ← List.append_assoc]
      apply ih
      · exact ledger.perform fun command same => wholly command (same ▸ List.mem_cons_self)
      · exact departs.perform ledger deed
      · intro command member
        exact wholly command (List.mem_cons_of_mem _ member)

end

/-- A beginning that is too long stays unwritten, and nothing comes of it. -/
theorem startup_unbegun {config : Config} (nonces : Nat → String) (link : Link) {defect : Defect}
    {content : Bytes} (appended : (startupMessage config).append [] = (.error defect, content)) :
    startup config nonces { link } = (.failed (.defect defect), { link, outbox := content }) ∧
      startupAnswers config nonces { link } = [] := by
  unfold startup startupAnswers
  rw [appended]
  exact ⟨rfl, rfl⟩

private theorem farewell_of_pending {conn : Conn} (pending : conn.outbox ≠ []) :
    conn.farewell = [] := by
  have unwritten : conn.outbox.isEmpty = false := by simpa using pending
  unfold farewell
  rw [unwritten, Bool.and_false]
  rfl

private theorem connect_kept (config : Config) (nonces : Nat → String) {link : Link}
    (fresh : link.delivered = []) :
    let opened := (connect config nonces fun _ => .ok link).2
    Ledger (startupMessage config).bytes (openingAdditions config nonces link) opened ∧
      Departs (startupMessage config).bytes (openingAdditions config nonces link) opened := by
  have nothing : link.delivered <+: (startupMessage config).bytes ++ stream [] := by
    rw [fresh]
    exact List.nil_prefix
  have silent (conn : Conn) : Departs (startupMessage config).bytes [] conn :=
    .of_not_mem List.not_mem_nil
  unfold openingAdditions connect
  dsimp only
  by_cases noTime : config.connectTimeout = some 0
  · rw [if_pos noTime, if_pos noTime]
    exact ⟨⟨nothing, nofun⟩, silent _⟩
  · rw [if_neg noTime, if_neg noTime]
    rcases (startupMessage config).append_cases [] with appended | ⟨defect, content, appended, some⟩
    · have begun : Ledger (startupMessage config).bytes []
          { link, outbox := ((startupMessage config).append []).2 } := by
        apply Ledger.of_balance
        rw [appended]
        simp only [fresh, List.nil_append]
        exact (List.append_nil _).symm
      have started := (Ledger.opens _).startup config nonces { link } begun
      have absent := startupAnswers_terminate config nonces { link }
      generalize startup config nonces { link } = opened at started ⊢
      obtain ⟨opening, opened⟩ := opened
      cases opening with
      | established =>
          rw [List.append_nil]
          exact ⟨started, .of_not_mem absent⟩
      | silent =>
          rw [List.append_nil]
          exact ⟨started, .of_not_mem absent⟩
      | failed failure =>
          exact ⟨.of_finish started, .finish started (.of_not_mem absent)⟩
    · rw [List.nil_append] at appended
      obtain ⟨stopped, unanswered⟩ := startup_unbegun nonces link appended
      have quiet : farewell { link, outbox := content } = [] := farewell_of_pending some
      have left : (finish { link, outbox := content }).link = link := finish_of_silent quiet
      rw [stopped, unanswered]
      dsimp only
      rw [quiet]
      refine ⟨⟨?_, ?_⟩, silent _⟩
      · rw [left]
        exact nothing
      · intro isOpen
        cases (finish_isClosed _).symm.trans isOpen

private theorem openingAdditions_terminate {config : Config} {nonces : Nat → String} {link : Link}
    (leaves : .terminate ∈ openingAdditions config nonces link) :
    ∃ failure conn, startup config nonces { link } = (.failed failure, conn) ∧
      conn.broken = false ∧ (connect config nonces fun _ => .ok link).2 = conn.finish := by
  have absent := startupAnswers_terminate config nonces { link }
  unfold openingAdditions at leaves
  by_cases noTime : config.connectTimeout = some 0
  · rw [if_pos noTime] at leaves
    cases leaves
  · rw [if_neg noTime] at leaves
    have now := (List.mem_append.mp leaves).resolve_left absent
    unfold connect
    dsimp only
    rw [if_neg noTime]
    generalize startup config nonces { link } = opened at now ⊢
    obtain ⟨opening, opened⟩ := opened
    cases opening with
    | established => cases now
    | silent => cases now
    | failed failure =>
        obtain ⟨_, isOpen, _⟩ := terminate_of_farewell now
        exact ⟨failure, opened, rfl, (Bool.or_eq_false_iff.mp isOpen).1, rfl⟩

/-- What comes once and last comes nowhere else. -/
theorem last_of_once {α : Type} {items earlier later : List α} {item : α} (once : item ∉ items)
    (split : items ++ [item] = earlier ++ item :: later) : later = [] ∧ earlier = items := by
  rcases List.eq_nil_or_concat later with none | ⟨others, last, some⟩
  · subst none
    exact ⟨rfl, (List.append_inj' split rfl).1.symm⟩
  · rw [some, List.concat_eq_append, ← List.cons_append, ← List.append_assoc] at split
    have same := (List.append_inj' split rfl).1
    rw [same] at once
    exact absurd (List.mem_append_right _ List.mem_cons_self) once

/-! ### A whole life -/

def life (config : Config) (nonces : Nat → String) (link : Link) (deeds : List Deed) : Conn :=
  (connect config nonces fun _ => .ok link).2.course deeds

def entries (config : Config) (nonces : Nat → String) (link : Link) (deeds : List Deed) :
    List FrontendMessage :=
  openingAdditions config nonces link ++
    (connect config nonces fun _ => .ok link).2.additions deeds

private theorem life_kept (config : Config) (nonces : Nat → String) {link : Link}
    (fresh : link.delivered = []) {deeds : List Deed}
    (wholly : ∀ command, .send command ∈ deeds → command.AllOrNothing) :
    Ledger (startupMessage config).bytes (entries config nonces link deeds)
        (life config nonces link deeds) ∧
      Departs (startupMessage config).bytes (entries config nonces link deeds)
        (life config nonces link deeds) := by
  obtain ⟨ledger, departs⟩ := connect_kept config nonces fresh
  exact course_kept ledger departs wholly

structure Aligned (config : Config) (nonces : Nat → String) (link : Link) (deeds : List Deed) :
    Prop where
  /-- The link has taken the beginning of what was put there. -/
  delivered : (life config nonces link deeds).link.delivered <+:
    (startupMessage config).bytes ++ stream (entries config nonces link deeds)
  /-- While the session is open, nothing but the rest waits to be written. -/
  waiting : (life config nonces link deeds).isClosed = false →
    (life config nonces link deeds).link.delivered ++ (life config nonces link deeds).outbox =
      (startupMessage config).bytes ++ stream (entries config nonces link deeds)
  /-- Leave is taken once and last, of a server that has taken everything else. -/
  parting : ∀ earlier later,
    entries config nonces link deeds = earlier ++ .terminate :: later →
      later = [] ∧ .terminate ∉ earlier ∧
        (startupMessage config).bytes ++ stream earlier <+:
          (life config nonces link deeds).link.delivered
  /-- An opening takes leave when it fails and the link has not. -/
  byOpening : .terminate ∈ openingAdditions config nonces link → ∃ failure conn,
    startup config nonces { link } = (.failed failure, conn) ∧ conn.broken = false ∧
      life config nonces link [] = conn.finish
  /-- Otherwise it takes the deed that says so, and nothing is written after it. -/
  byFinish : ∀ before deed after, deeds = before ++ deed :: after →
    .terminate ∈ (life config nonces link before).adds deed →
      deed = .finish ∧ (life config nonces link before).broken = false ∧
        (life config nonces link before).link.delivered =
          (startupMessage config).bytes ++ stream (entries config nonces link before) ∧
        (life config nonces link deeds).link = (life config nonces link (before ++ [deed])).link

/-- Whatever the server sends, and however much the link takes of each attempt to write. No
command has a message that exceeds its length only when the length counts itself. -/
theorem written_aligned (config : Config) (nonces : Nat → String) (arrivals : List Arrival)
    (uptakes : List Uptake) (deeds : List Deed)
    (few : ∀ command, .send command ∈ deeds → command.parameters.length ≤ 65535)
    (decided : ∀ command, .send command ∈ deeds →
      ∀ message ∈ command.messages, message.AllOrNothing) :
    Aligned config nonces { arrivals, uptakes } deeds := by
  have fresh : ({ arrivals, uptakes } : Link).delivered = [] := rfl
  have wholly : ∀ command, .send command ∈ deeds → command.AllOrNothing :=
    fun command member => ⟨few command member, decided command member⟩
  obtain ⟨ledger, departs⟩ := life_kept config nonces fresh wholly
  refine ⟨ledger.delivered, ledger.whole, ?_, openingAdditions_terminate, ?_⟩
  · intro earlier later split
    have member : .terminate ∈ entries config nonces { arrivals, uptakes } deeds := by
      rw [split]
      exact List.mem_append_right _ List.mem_cons_self
    obtain ⟨_, others, last, once, taken⟩ := departs member
    obtain ⟨none, same⟩ := last_of_once once (last.symm.trans split)
    rw [same]
    exact ⟨none, once, taken⟩
  · intro before deed after split leaves
    have whollyBefore : ∀ command, .send command ∈ before → command.AllOrNothing := by
      intro command member
      apply wholly
      rw [split]
      exact List.mem_append_left _ member
    obtain ⟨ledgerBefore, _⟩ := life_kept config nonces fresh whollyBefore
    cases finish_of_terminate leaves
    obtain ⟨_, isOpen, empty⟩ := terminate_of_farewell leaves
    have all := ledgerBefore.closing.empty isOpen empty
    refine ⟨rfl, (Bool.or_eq_false_iff.mp isOpen).1, all, ?_⟩
    rw [split]
    unfold life
    rw [course_append, course_append]
    exact (course_of_closed (finish_isClosed _) after).2

/-- A statement goes out in two pieces. Leave is taken when both are out, in part; there is
nothing to add to it the second time. -/
theorem written_aligned_inPieces :
    let welcome := Frame.stream
      [{ first := 'R'.toUInt8, body := [0, 0, 0, 0] }, { first := 'Z'.toUInt8, body := [73] }]
    let uptakes : List Uptake :=
      [.accepted 7, .accepted 100, .accepted 3, .refused, .accepted 100, .accepted 2]
    let deeds : List Deed := [.send (.query "a"), .flush, .flush, .finish, .flush, .finish]
    (∀ command, .send command ∈ deeds → command.parameters.length ≤ 65535) ∧
      (∀ command, .send command ∈ deeds → ∀ message ∈ command.messages, message.AllOrNothing) ∧
      entries {} (fun _ => "") { arrivals := [.data welcome], uptakes } deeds =
        [.query "a", .terminate] ∧
      Aligned {} (fun _ => "") { arrivals := [.data welcome], uptakes } deeds := by
  intro welcome uptakes deeds
  have only : ∀ command, .send command ∈ deeds → command = .query "a" := by
    intro command member
    simp only [deeds, List.mem_cons, Deed.send.injEq, reduceCtorEq, List.not_mem_nil,
      or_false] at member
    exact member
  have few : ∀ command, .send command ∈ deeds → command.parameters.length ≤ 65535 := by
    intro command member
    rw [only command member]
    decide
  have decided : ∀ command, .send command ∈ deeds →
      ∀ message ∈ command.messages, message.AllOrNothing := by
    intro command member
    rw [only command member]
    exact List.forall_mem_singleton.mpr (.inl (by decide))
  have entered : entries {} (fun _ => "") { arrivals := [.data welcome], uptakes } deeds =
      [.query "a", .terminate] := by
    decide +kernel
  exact ⟨few, decided, entered,
    written_aligned {} (fun _ => "") [.data welcome] uptakes deeds few decided⟩

/-! ### A byte that is left behind -/

section

variable {conn : Conn} {sql text : String} {parameters : List Parameter}

/-- The values of a statement exceed a word only together with the length that counts itself. The
first byte of the message that they are in is left behind. -/
theorem send_leaves_first (few : parameters.length ≤ 65535)
    (parsed : (FrontendMessage.parse "" sql parameters).fits = true)
    (unfit : (FrontendMessage.bind "" "" parameters).fits = false)
    (small : (FrontendMessage.bind "" "" parameters).extent < 4294967296)
    (sendable : conn.checkSendable = .ok ()) :
    (conn.send (.queryWith sql parameters)).2 =
      { conn.record (.sent (.queryWith sql parameters)) with
        outbox :=
          conn.outbox ++ (FrontendMessage.parse "" sql parameters).frame.bytes ++ [66] } := by
  obtain ⟨defect, unfit⟩ := FrontendMessage.exists_unfit unfit
  have whole : (FrontendMessage.parse "" sql parameters).body.whole = true :=
    FrontendMessage.withCount_of_le few
  have appended :
      FrontendMessage.appendAll (Command.queryWith sql parameters).messages conn.outbox =
        (.error defect, conn.outbox ++
          (FrontendMessage.parse "" sql parameters).frame.bytes ++ [66]) := by
    rw [Command.messages, FrontendMessage.appendAll, FrontendMessage.append_fits parsed whole]
    dsimp only
    rw [FrontendMessage.appendAll, FrontendMessage.append_of_unfit unfit,
      FrontendMessage.stub_of_extent small]
    rfl
  unfold send enqueue
  rw [sendable]
  simp only [record, appended]

private theorem send_query (fits : (FrontendMessage.query text).fits = true)
    (sendable : conn.checkSendable = .ok ()) :
    (conn.send (.query text)).2 = dispatched (.query text) { conn.record (.sent (.query text)) with
      outbox := conn.outbox ++ (FrontendMessage.query text).frame.bytes } := by
  have appended := FrontendMessage.append_fits fits rfl conn.outbox
  unfold send enqueue
  rw [sendable]
  simp only [Command.messages, FrontendMessage.appendAll, record, appended]

private theorem flush_takes (isOpen : conn.isClosed = false) (willing : conn.link.uptakes = []) :
    conn.flush.2.link.delivered = conn.link.delivered ++ conn.outbox := by
  unfold flush
  split
  · rename_i empty
    rw [List.isEmpty_iff.mp empty, List.append_nil]
  · rw [if_neg (by rw [isOpen]; exact Bool.false_ne_true), willing]
    rfl

/-- The next statement goes out behind that byte. -/
theorem course_misaligned (few : parameters.length ≤ 65535)
    (parsed : (FrontendMessage.parse "" sql parameters).fits = true)
    (unfit : (FrontendMessage.bind "" "" parameters).fits = false)
    (small : (FrontendMessage.bind "" "" parameters).extent < 4294967296)
    (fits : (FrontendMessage.query text).fits = true)
    (sendable : conn.checkSendable = .ok ()) (willing : conn.link.uptakes = []) :
    let deeds : List Deed :=
      [.send (.queryWith sql parameters), .send (.query text), .flush]
    conn.additions deeds = [.parse "" sql parameters, .query text] ∧
      (conn.course deeds).link.delivered = conn.link.delivered ++ (conn.outbox ++
        (FrontendMessage.parse "" sql parameters).frame.bytes ++ [66] ++
          (FrontendMessage.query text).frame.bytes) := by
  intro deeds
  have first := send_leaves_first few parsed unfit small sendable
  let halved : Conn := { conn.record (.sent (.queryWith sql parameters)) with
    outbox := conn.outbox ++ (FrontendMessage.parse "" sql parameters).frame.bytes ++ [66] }
  have again : halved.checkSendable = .ok () := sendable
  have second := send_query fits again
  constructor
  · have added : conn.adds (.send (.queryWith sql parameters)) = [.parse "" sql parameters] := by
      unfold adds
      rw [sendable]
      exact (FrontendMessage.fitting_cons_of_fits parsed _).trans
        (congrArg _ (FrontendMessage.fitting_cons_of_unfit unfit _))
    have addedNext : halved.adds (.send (.query text)) = [.query text] := by
      unfold adds
      rw [again]
      exact FrontendMessage.fitting_cons_of_fits fits []
    change conn.adds _ ++ (Conn.adds (conn.send (.queryWith sql parameters)).2 _ ++ ([] ++ [])) = _
    rw [added, first, addedNext]
    rfl
  · have isOpen : conn.isClosed = false := (checkSendable_ok sendable).1
    change (flush
      (Conn.send (.query text) (conn.send (.queryWith sql parameters)).2).2).2.link.delivered = _
    rw [first, second]
    exact flush_takes isOpen willing

end

/-- A statement whose values make up a message of four gigabytes but for a byte, and one that goes
out behind what is left of it. -/
theorem written_not_aligned :
    let welcome := Frame.stream
      [{ first := 'R'.toUInt8, body := [0, 0, 0, 0] }, { first := 'Z'.toUInt8, body := [73] }]
    let deeds : List Deed :=
      [.send (.queryWith "q" (FrontendMessage.uniform 5041 852003)), .send (.query "r"), .flush]
    (∀ command, .send command ∈ deeds → command.parameters.length ≤ 65535) ∧
      ¬Aligned {} (fun _ => "") { arrivals := [.data welcome] } deeds := by
  intro welcome deeds
  have count : (FrontendMessage.uniform 5041 852003).length = 5041 :=
    FrontendMessage.uniform_length
  have few : (FrontendMessage.uniform 5041 852003).length ≤ 65535 := by
    rw [count]
    decide
  refine ⟨?_, fun aligned => ?_⟩
  · intro command member
    simp only [deeds, List.mem_cons, Deed.send.injEq, reduceCtorEq, List.not_mem_nil,
      or_false] at member
    rcases member with rfl | rfl
    · exact few
    · exact Nat.zero_le _
  · let opened : Conn := (connect {} (fun _ => "") fun _ => .ok { arrivals := [.data welcome] }).2
    have sendable : opened.checkSendable = .ok () := by decide +kernel
    have extent : (FrontendMessage.bind "" "" (FrontendMessage.uniform 5041 852003)).extent =
        4294967295 := FrontendMessage.uniform_extent
    have parsed : (FrontendMessage.parse "" "q" (FrontendMessage.uniform 5041 852003)).fits =
        true := by
      rw [FrontendMessage.fits_iff]
      simp only [FrontendMessage.extent, count]
      decide
    have unfit : (FrontendMessage.bind "" "" (FrontendMessage.uniform 5041 852003)).fits =
        false := by
      rw [← Bool.not_eq_true, FrontendMessage.fits_iff, extent]
      decide
    have fits : (FrontendMessage.query "r").fits = true := by decide +kernel
    obtain ⟨added, delivered⟩ := course_misaligned few parsed unfit
      (by rw [extent]; decide) fits sendable (by decide +kernel)
    have start : opened.link.delivered = (startupMessage {}).bytes := by decide +kernel
    have silent : openingAdditions {} (fun _ => "") { arrivals := [.data welcome] } = [] := by
      decide +kernel
    have taken := aligned.delivered.length_le
    unfold life entries at taken
    rw [delivered, added, silent, start, List.nil_append, FrontendMessage.stream_cons,
      FrontendMessage.stream_cons] at taken
    have nothing : (stream []).length = 0 := rfl
    simp only [List.length_append, List.length_singleton] at taken
    omega

end Conn

end PgClient

/-
How an opening over given bytes ends.

The session of an opening keeps what the server reports and has delivered what it has
answered. Over bytes that let it in, an opening goes through them message by message, and
leaves what comes after them; over bytes that keep it out, it fails as they say. Since
there are no other bytes, the two say exactly when an opening succeeds.
-/

import PgClient.Proofs.Conn.Departure
import PgClient.Proofs.Conn.Grammar
import PgClient.Proofs.Conn.Heard

namespace PgClient

/-! ### Writing that succeeds -/

def Uptake.takes : Uptake → Bool
  | accepted count => count != 0
  | refused => false
  | failed _ => false

private theorem Link.push_takes {uptakes : List Uptake}
    (takes : ∀ uptake ∈ uptakes, uptake.takes = true) (output : Bytes) :
    (push output uptakes).ending = .complete ∧
      ∀ uptake ∈ (push output uptakes).uptakes, uptake.takes = true := by
  fun_induction push output uptakes with
  | case1 output => exact ⟨rfl, takes⟩
  | case2 output uptake later isEmpty => exact ⟨rfl, takes⟩
  | case3 output later isEmpty => cases takes _ List.mem_cons_self
  | case4 output later isEmpty fault => cases takes _ List.mem_cons_self
  | case5 output later isEmpty => cases takes _ List.mem_cons_self
  | case6 output later isEmpty count front back parts further ih =>
      exact ih fun uptake member => takes uptake (List.mem_cons_of_mem _ member)

def StartupMessage.Fits (message : StartupMessage) : Prop :=
  4 + message.content.length < 4294967296

theorem StartupMessage.append_fits {message : StartupMessage} (fits : message.Fits)
    (buffer : Bytes) : message.append buffer = (.ok (), buffer ++ message.bytes) := by
  unfold append bytes FrontendMessage.count32
  dsimp only
  rw [if_pos (show 4 + message.content.length < 4294967296 from fits)]

/-! ### What a server has reported last -/

namespace BackendMessage

def parameter? (name : String) : BackendMessage → Option String
  | parameterStatus reported value => if reported = name then some value else none
  | _ => none

def keyData? : BackendMessage → Option KeyData
  | backendKeyData key => some key
  | _ => none

end BackendMessage

namespace Conn

open BackendMessage (latest latest_concat)
open Link (Brings)

variable {config : Config} {nonces : Nat → String} {stage next last : Stage}
  {message : BackendMessage} {answer : Option FrontendMessage}
  {start : Bytes} {answers replies : List FrontendMessage} {heard messages : List BackendMessage}
  {conn after : Conn}

theorem lookup_assign (name value other : String) (parameters : List (String × String)) :
    (assign name value parameters).lookup other =
      if name = other then some value else parameters.lookup other := by
  induction parameters with
  | nil =>
      by_cases same : name = other
      · simp [assign, same]
      · have unwanted : (other == name) = false := by simpa using Ne.symm same
        simp [assign, List.lookup_cons, unwanted, same]
  | cons entry parameters ih =>
      obtain ⟨key, held⟩ := entry
      unfold assign
      by_cases same : key = name
      · subst same
        by_cases wanted : key = other
        · subst wanted
          simp
        · have unwanted : (other == key) = false := by simpa using Ne.symm wanted
          simp [List.lookup_cons, unwanted, wanted]
      · rw [if_neg same]
        by_cases wanted : other = key
        · subst wanted
          simp [Ne.symm same]
        · have unwanted : (other == key) = false := by simpa using wanted
          rw [List.lookup_cons, List.lookup_cons, unwanted, ih]

/-- A name that was reported before keeps its place, and another comes last. -/
theorem keys_assign (name value : String) (parameters : List (String × String)) :
    (assign name value parameters).map Prod.fst =
      if name ∈ parameters.map Prod.fst then parameters.map Prod.fst
      else parameters.map Prod.fst ++ [name] := by
  induction parameters with
  | nil => rfl
  | cons entry parameters ih =>
      unfold assign
      by_cases same : entry.1 = name
      · subst same
        rw [if_pos rfl, List.map_cons, List.map_cons, if_pos List.mem_cons_self]
      · rw [if_neg same, List.map_cons, ih, List.map_cons]
        by_cases present : name ∈ parameters.map Prod.fst
        · rw [if_pos present, if_pos (List.mem_cons_of_mem _ present)]
        · have absent : name ∉ entry.1 :: parameters.map Prod.fst := by
            rw [List.mem_cons, not_or]
            exact ⟨Ne.symm same, present⟩
          rw [if_neg present, if_neg absent, List.cons_append]

theorem nodup_assign (name value : String) {parameters : List (String × String)}
    (distinct : (parameters.map Prod.fst).Nodup) :
    ((assign name value parameters).map Prod.fst).Nodup := by
  rw [keys_assign]
  split
  · exact distinct
  · rename_i absent
    have alone : [name].Nodup := List.nodup_cons.mpr ⟨List.not_mem_nil, List.nodup_nil⟩
    refine List.nodup_append.mpr ⟨distinct, alone, ?_⟩
    intro key member other last same
    rw [List.mem_singleton.mp last] at same
    subst same
    exact absent member

/-! ### The session in the middle of an opening -/

/-- The session has heard some messages and has delivered its answers, with the beginning
before them. -/
structure Attends (start : Bytes) (answers : List FrontendMessage) (heard : List BackendMessage)
    (conn : Conn) : Prop where
  unused : conn.Unused
  outbox : conn.outbox = []
  delivered : conn.link.delivered = start ++ FrontendMessage.stream answers
  parameters : ∀ name, conn.parameter? name = latest (BackendMessage.parameter? name) heard
  distinct : (conn.parameters.map Prod.fst).Nodup
  keyData : conn.keyData = latest BackendMessage.keyData? heard

namespace Attends

/-- What says nothing of the server may be heard without being kept. -/
theorem hear (attends : Attends start answers heard conn) (message : BackendMessage)
    (unnamed : ∀ name, message.parameter? name = none) (keyless : message.keyData? = none) :
    Attends start answers (heard ++ [message]) conn := by
  refine { attends with parameters := ?_, keyData := ?_ }
  · intro name
    rw [latest_concat, unnamed name]
    exact attends.parameters name
  · rw [latest_concat, keyless]
    exact attends.keyData

theorem note (attends : Attends start answers heard conn) (message : BackendMessage) :
    Attends start answers (heard ++ [message]) (conn.note message) := by
  cases message with
  | noticeResponse body =>
      have told := attends.hear (.noticeResponse body) (fun _ => rfl) rfl
      cases read : Diagnostic.parse body with
      | error fault =>
          have same : conn.note (.noticeResponse body) = conn := by
            simp only [Conn.note, receiveNotice, read]
            rfl
          rw [same]
          exact told
      | ok report =>
          have same : conn.note (.noticeResponse body) = conn.record (.notice report) := by
            simp only [Conn.note, receiveNotice, read]
            rfl
          rw [same]
          exact { told with unused := told.unused.record _ }
  | negotiateProtocolVersion minor count names =>
      have told := attends.hear (.negotiateProtocolVersion minor count names)
        (fun _ => rfl) rfl
      exact { told with unused := told.unused.record _ }
  | parameterStatus name value =>
      refine
        { attends with
          unused := attends.unused.setParameter name value
          parameters := ?_
          distinct := nodup_assign name value attends.distinct
          keyData := ?_ }
      · intro other
        rw [latest_concat, ← attends.parameters other]
        change (assign name value conn.parameters).lookup other = _
        rw [lookup_assign]
        by_cases same : name = other
        · simp [BackendMessage.parameter?, same]
        · simp [BackendMessage.parameter?, same, Conn.parameter?]
      · rw [latest_concat]
        exact attends.keyData
  | backendKeyData key =>
      refine { attends with unused := { attends.unused with }, parameters := ?_, keyData := ?_ }
      · intro name
        rw [latest_concat]
        exact attends.parameters name
      · rw [latest_concat]
        rfl
  | _ => exact attends.hear _ (fun _ => rfl) rfl

theorem ready (attends : Attends start answers heard conn) (indicator : UInt8)
    (inbox : Bytes) (arrivals : List Arrival) :
    Attends start answers (heard ++ [.readyForQuery indicator])
      ((conn.setStatus indicator).keepInput inbox arrivals) := by
  have heardReady := attends.hear (.readyForQuery indicator) (fun _ => rfl) rfl
  exact { heardReady with unused := (attends.unused.setStatus indicator).keepInput inbox arrivals }

end Attends

private theorem note_link (message : BackendMessage) (conn : Conn) :
    (conn.note message).link = conn.link := by
  cases message with
  | noticeResponse body =>
      unfold note receiveNotice
      cases read : Diagnostic.parse body with
      | error fault => simp only [read]; rfl
      | ok report => simp only [read]; rfl
  | _ => rfl

/-! ### Answers -/

def delivering (bytes : Bytes) (uptakes : List Uptake) (conn : Conn) : Conn :=
  { conn with
    outbox := []
    link := { conn.link with uptakes, delivered := conn.link.delivered ++ bytes } }

theorem flushFully_ok (flushed : conn.flushFully = (.ok (), after)) :
    after = conn.delivering conn.outbox (Link.push conn.outbox conn.link.uptakes).uptakes := by
  have whole := Link.push_whole conn.outbox conn.link.uptakes
  unfold flushFully at flushed
  split at flushed
  · cases flushed
  · dsimp only at flushed
    split at flushed
    · rename_i complete
      rw [Link.push_complete complete, List.append_nil] at whole
      cases flushed
      unfold delivering settlePush
      rw [whole]
    · cases flushed
    · cases flushed
    · cases flushed

private theorem flushFully_takes (isOpen : conn.isClosed = false)
    (takes : ∀ uptake ∈ conn.link.uptakes, uptake.takes = true) :
    conn.flushFully =
      (.ok (), conn.delivering conn.outbox (Link.push conn.outbox conn.link.uptakes).uptakes) := by
  obtain ⟨complete, _⟩ := Link.push_takes takes conn.outbox
  have flushed : ∃ after, conn.flushFully = (.ok (), after) := by
    unfold flushFully
    rw [if_neg (by rw [isOpen]; exact Bool.false_ne_true)]
    dsimp only
    rw [complete]
    exact ⟨_, rfl⟩
  obtain ⟨after, flushed⟩ := flushed
  rw [flushed, flushFully_ok flushed]

/-- Whatever the client answers has no part that could not be written. -/
theorem Continues.whole {reply : FrontendMessage}
    (continues : Continues config nonces stage message (some reply) next) :
    reply.body.whole = true := by
  cases continues <;> rfl

private theorem enqueue_of_fits {reply : FrontendMessage} (fits : reply.fits = true)
    (whole : reply.body.whole = true) (empty : conn.outbox = []) :
    conn.enqueue [reply] = (.ok (), { conn with outbox := reply.frame.bytes }) := by
  unfold enqueue FrontendMessage.appendAll FrontendMessage.appendAll
  rw [FrontendMessage.append_fits fits whole, empty]
  rfl

private theorem enqueue_of_unfit {reply : FrontendMessage} {defect : Defect}
    (unfit : reply.length = .error defect) (conn : Conn) :
    conn.enqueue [reply] = (.error defect, { conn with outbox := conn.outbox ++ reply.stub }) := by
  unfold enqueue FrontendMessage.appendAll
  rw [FrontendMessage.append_of_unfit unfit]

namespace Attends

private theorem delivering (attends : Attends start answers heard conn) (reply : FrontendMessage)
    (uptakes : List Uptake) :
    Attends start (answers ++ [reply]) heard (conn.delivering reply.frame.bytes uptakes) where
  unused := { attends.unused with }
  outbox := rfl
  delivered := by
    rw [FrontendMessage.stream_append, ← List.append_assoc, ← attends.delivered]
    simp [Conn.delivering, FrontendMessage.stream, Frame.stream]
  parameters := attends.parameters
  distinct := attends.distinct
  keyData := attends.keyData

/-- After an answer has been given, the session has delivered it. -/
theorem speak (attends : Attends start answers heard conn)
    (continues : Continues config nonces stage message answer next) {reached : Stage}
    (spoken : conn.speak answer next = (.next reached, after)) :
    reached = next ∧ (∀ reply ∈ answer, reply.fits = true) ∧
      Attends start (answers ++ answer.toList) heard after := by
  cases answer with
  | none =>
      cases spoken
      refine ⟨rfl, nofun, ?_⟩
      rw [Option.toList_none, List.append_nil]
      exact attends
  | some reply =>
      change conn.reply reply next = _ at spoken
      unfold Conn.reply at spoken
      cases counted : reply.length with
      | error defect =>
          rw [enqueue_of_unfit counted] at spoken
          cases spoken
      | ok length =>
          have fits := FrontendMessage.fits_of_length counted
          rw [enqueue_of_fits fits continues.whole attends.outbox] at spoken
          dsimp only at spoken
          split at spoken
          · cases spoken
          · rename_i flushed
            cases spoken
            refine ⟨rfl, ?_, ?_⟩
            · intro same member
              cases member
              exact fits
            · rw [flushFully_ok flushed]
              exact attends.delivering reply _

/-- An answer that can be put into words is given, where writing succeeds. -/
theorem speak_takes (attends : Attends start answers heard conn)
    (continues : Continues config nonces stage message answer next)
    (fits : ∀ reply ∈ answer, reply.fits = true)
    (takes : ∀ uptake ∈ conn.link.uptakes, uptake.takes = true) :
    ∃ after, conn.speak answer next = (.next next, after) ∧
      ∀ uptake ∈ after.link.uptakes, uptake.takes = true := by
  cases answer with
  | none => exact ⟨conn, rfl, takes⟩
  | some reply =>
      have isOpen : ({ conn with outbox := reply.frame.bytes } : Conn).isClosed = false :=
        attends.unused.isClosed
      change ∃ after, conn.reply reply next = _ ∧ _
      unfold Conn.reply
      rw [enqueue_of_fits (fits reply rfl) continues.whole attends.outbox]
      dsimp only
      rw [flushFully_takes isOpen takes]
      exact ⟨_, rfl, (Link.push_takes takes reply.frame.bytes).2⟩

private theorem speak_unfit {reply : FrontendMessage} {defect : Defect}
    (unfit : reply.length = .error defect) (conn : Conn) :
    conn.speak (some reply) next =
      (.failed (.defect defect), { conn with outbox := conn.outbox ++ reply.stub }) := by
  change conn.reply reply next = _
  unfold Conn.reply
  rw [enqueue_of_unfit unfit]

end Attends

/-! ### One message of an opening -/

def proceed (config : Config) (nonces : Nat → String) (inbox : Bytes) (arrivals : List Arrival) :
    Progress × Conn → Opening × Conn
  | (.failed failure, conn) => (.failed failure, conn.keepInput inbox arrivals)
  | (.established, conn) => (.established, conn.keepInput inbox arrivals)
  | (.next stage, conn) => converse config nonces inbox arrivals stage conn

def respond (config : Config) (nonces : Nat → String) (stage : Stage) (conn : Conn)
    (received : Received) : Opening × Conn :=
  let kept := conn.keepInput received.inbox received.arrivals
  match received.receipt with
  | .silent => (.silent, kept)
  | .failed fault => (.ofError (Error.ofIo fault), kept.breakWith fault)
  | .malformed fault => (.ofError (Error.ofProtocol fault), { kept with broken := true })
  | .frame frame =>
      match BackendMessage.decode frame.first frame.body with
      | .error fault => (.ofError (Error.ofProtocol fault), kept)
      | .ok message =>
          proceed config nonces received.inbox received.arrivals
            (advance config nonces stage message conn)

theorem converse_eq (config : Config) (nonces : Nat → String) (inbox : Bytes)
    (arrivals : List Arrival) (stage : Stage) (conn : Conn) :
    converse config nonces inbox arrivals stage conn =
      respond config nonces stage conn (awaitFrame inbox arrivals) := by
  rw [converse]
  split
  · rename_i same
    rw [same]
    rfl
  · rename_i same
    rw [same]
    rfl
  · rename_i same
    rw [same]
    rfl
  · rename_i frame kept later same
    dsimp only
    rw [same, respond]
    dsimp only
    cases BackendMessage.decode frame.first frame.body with
    | error fault => rfl
    | ok message =>
        dsimp only
        generalize advance config nonces stage message conn = advanced
        obtain ⟨progress, conn⟩ := advanced
        cases progress with
        | failed failure => rfl
        | established => rfl
        | next stage => rfl

/-! ### Openings over given bytes -/

section

variable {inbox stream rest : Bytes} {arrivals : List Arrival}

/-- The first message of the bytes is looked at, and what comes after it is kept. -/
theorem converse_message (config : Config) (nonces : Nat → String)
    (brings : Brings arrivals stream)
    (spells : Says [message] (inbox ++ stream) rest) (stage : Stage) (conn : Conn) :
    ∃ kept later further, Brings later further ∧ kept ++ further = rest ∧
      converse config nonces inbox arrivals stage conn =
        proceed config nonces kept later (advance config nonces stage message conn) := by
  obtain ⟨frame, between, found, decoded, nothing⟩ := spells.front
  cases nothing
  have received := awaitFrame_brings brings inbox
  unfold Received.IsFirstOf at received
  rw [found] at received
  obtain ⟨same, further, more, whole⟩ := received
  refine ⟨_, _, further, more, whole, ?_⟩
  rw [converse_eq, respond, same]
  dsimp only
  rw [decoded]

/-- The opening goes through a conversation, and is then where the conversation ends. -/
theorem Conversation.converse
    (conversation : Conversation config nonces stage messages answers last)
    (brings : Brings arrivals stream) (spells : Says messages (inbox ++ stream) rest)
    (attends : Attends start replies heard conn)
    (takes : ∀ uptake ∈ conn.link.uptakes, uptake.takes = true) :
    ∃ kept later further after, Brings later further ∧ kept ++ further = rest ∧
      Attends start (replies ++ answers) (heard ++ messages) after ∧
      (∀ uptake ∈ after.link.uptakes, uptake.takes = true) ∧
      Conn.converse config nonces inbox arrivals stage conn =
        Conn.converse config nonces kept later last after := by
  -- The messages are taken in one by one: what the session attends to grows with them.
  induction conversation generalizing inbox stream arrivals replies heard conn with
  | nothing =>
      cases spells
      rw [List.append_nil, List.append_nil]
      exact ⟨inbox, arrivals, stream, conn, brings, rfl, attends, takes, rfl⟩
  | @more stage next last message answer messages answers continues fits others ih =>
      obtain ⟨between, first, further⟩ : ∃ between, Says [message] (inbox ++ stream) between ∧
          Says messages between rest := Says.split spells
      obtain ⟨kept, later, left, more, whole, taken⟩ :=
        converse_message config nonces brings first stage conn
      subst whole
      have noted := attends.note message
      obtain ⟨after, spoken, willing⟩ := noted.speak_takes continues fits
        (note_link message conn ▸ takes)
      obtain ⟨_, _, answered⟩ := noted.speak continues spoken
      obtain ⟨kept', later', left', final, more', whole', attends', takes', same⟩ :=
        ih more further answered willing
      rw [List.append_assoc, List.append_assoc, List.singleton_append] at attends'
      refine ⟨kept', later', left', final, more', whole', attends', takes', ?_⟩
      rw [taken, continues.advance, spoken]
      exact same

/-- Bytes that offend make an opening fail as they say. -/
theorem Offends.converse {failure : Failure} (offends : Offends config nonces stage rest failure)
    (brings : Brings arrivals stream) (whole : inbox ++ stream = rest) (conn : Conn) :
    (Conn.converse config nonces inbox arrivals stage conn).1 = .failed failure := by
  have received := awaitFrame_brings brings inbox
  rw [whole] at received
  unfold Received.IsFirstOf at received
  cases offends with
  | cutShort found =>
      rw [found] at received
      rw [converse_eq, respond, received]
      rfl
  | illFramed found =>
      rw [found] at received
      rw [converse_eq, respond, received]
      rfl
  | illFormed fits decoded =>
      rw [Frame.next_append _ fits] at received
      rw [converse_eq, respond, received.1]
      dsimp only
      rw [decoded]
      rfl
  | objects spells objects =>
      rw [← whole] at spells
      obtain ⟨kept, later, further, _, _, same⟩ :=
        converse_message config nonces brings spells stage conn
      rw [same, objects.advance]
      rfl
  | unanswerable spells continues unfit =>
      rw [← whole] at spells
      obtain ⟨kept, later, further, _, _, same⟩ :=
        converse_message config nonces brings spells stage conn
      rw [same, continues.advance, Attends.speak_unfit unfit]
      rfl

/-- When the server is ready, the opening is over. -/
theorem converse_ready (config : Config) (nonces : Nat → String) {indicator : UInt8}
    (brings : Brings arrivals stream)
    (spells : Says [.readyForQuery indicator] (inbox ++ stream) rest)
    (attends : Attends start answers heard conn) :
    ∃ after, Conn.converse config nonces inbox arrivals .settling conn = (.established, after) ∧
      Attends start answers (heard ++ [.readyForQuery indicator]) after ∧
      after.transactionStatus = .ofIndicator indicator ∧
      ∃ further, Brings after.link.arrivals further ∧ after.inbox ++ further = rest := by
  obtain ⟨kept, later, further, more, whole, same⟩ :=
    converse_message config nonces brings spells .settling conn
  have ready := attends.ready indicator kept later
  refine ⟨(conn.setStatus indicator).keepInput kept later, same, ready, ?_, further, more, whole⟩
  rw [Conn.transactionStatus, ready.unused.isClosed]
  rfl

end

/-! ### Whole openings -/

/-- What an opening leaves that has gone through a login: it has written the beginning and
one answer to each request that wants one, and nothing else. It knows what was reported
last, and keeps what the server has said after the login. -/
structure Admitted (link : Link) (login : Login config nonces) (rest : Bytes) (conn : Conn) :
    Prop where
  outbox : conn.outbox = []
  delivered : conn.link.delivered =
    link.delivered ++ (startupMessage config).bytes ++ FrontendMessage.stream login.answers
  answered : login.answers.length = login.requests.countP wantsAnswer
  parameters : ∀ name,
    conn.parameter? name = latest (BackendMessage.parameter? name) login.script
  keyData : conn.keyData = latest BackendMessage.keyData? login.script
  status : conn.transactionStatus = .ofIndicator login.indicator
  unread : ∃ further, Brings conn.link.arrivals further ∧ conn.inbox ++ further = rest

section

variable {link : Link} {stream rest : Bytes}

/-- The beginning is written, and then the server is listened to. -/
theorem startup_begins (config : Config) (nonces : Nat → String)
    (fits : (startupMessage config).Fits)
    (takes : ∀ uptake ∈ link.uptakes, uptake.takes = true) :
    ∃ conn, startup config nonces { link } =
        converse config nonces [] link.arrivals (.authenticating 0 none) conn ∧
      Attends (link.delivered ++ (startupMessage config).bytes) [] [] conn ∧
      ∀ uptake ∈ conn.link.uptakes, uptake.takes = true := by
  let begun : Conn := { link, outbox := (startupMessage config).bytes }
  have appended := StartupMessage.append_fits fits []
  have flushed : begun.flushFully = _ := flushFully_takes rfl takes
  have willing := (Link.push_takes takes begun.outbox).2
  refine ⟨begun.delivering begun.outbox (Link.push begun.outbox begun.link.uptakes).uptakes,
    ?_, ?_, willing⟩
  · unfold startup
    rw [appended]
    dsimp only [List.nil_append]
    rw [flushed]
    rfl
  · refine ⟨⟨rfl, rfl, rfl, rfl, rfl, rfl⟩, rfl, ?_, fun name => rfl, List.nodup_nil, rfl⟩
    exact (List.append_nil _).symm

private theorem startup_of_login (login : Login config nonces) (fits : (startupMessage config).Fits)
    (takes : ∀ uptake ∈ link.uptakes, uptake.takes = true)
    (brings : Brings link.arrivals stream) (spells : Says login.script stream rest) :
    (startup config nonces { link }).1 = .established ∧
      Admitted link login rest (startup config nonces { link }).2 := by
  obtain ⟨conn, begun, attends, willing⟩ := startup_begins config nonces fits takes
  obtain ⟨between, spoken, ready⟩ := Says.split spells
  change Says login.spoken ([] ++ stream) between at spoken
  obtain ⟨kept, later, further, settled, more, whole, attending, _, gone⟩ :=
    login.conversation.converse brings spoken attends willing
  subst whole
  obtain ⟨after, ended, attended, status, unread⟩ :=
    converse_ready config nonces more ready attending
  rw [begun, gone, ended]
  refine ⟨rfl, ?_⟩
  exact
    { outbox := attended.outbox
      delivered := attended.delivered
      answered := login.met.length_answers
      parameters := attended.parameters
      keyData := attended.keyData
      status
      unread }

private theorem startup_of_keepsOut {failure : Failure} (fits : (startupMessage config).Fits)
    (takes : ∀ uptake ∈ link.uptakes, uptake.takes = true)
    (brings : Brings link.arrivals stream) (keepsOut : KeepsOut config nonces stream failure) :
    (startup config nonces { link }).1 = .failed failure := by
  obtain ⟨messages, answers, stage, rest, spells, conversation, offends⟩ := keepsOut
  change Says messages ([] ++ stream) rest at spells
  obtain ⟨conn, begun, attends, willing⟩ := startup_begins config nonces fits takes
  obtain ⟨kept, later, further, after, more, whole, _, _, gone⟩ :=
    conversation.converse brings spells attends willing
  rw [begun, gone]
  exact offends.converse more whole after

/-- An opening over the bytes of a server, up to their end, succeeds exactly if they begin
with a login, and leaves then what the login says. Otherwise it fails, with the error of
what comes first that no login goes on with. -/
theorem startup_established_iff_login (config : Config) (nonces : Nat → String)
    (fits : (startupMessage config).Fits)
    (takes : ∀ uptake ∈ link.uptakes, uptake.takes = true)
    (brings : Brings link.arrivals stream) :
    let opened := startup config nonces { link }
    (opened.1 = .established ↔
        ∃ (login : Login config nonces) (rest : Bytes), Says login.script stream rest) ∧
      (∀ (login : Login config nonces) rest, Says login.script stream rest →
        Admitted link login rest opened.2) ∧
      (∀ failure, opened.1 = .failed failure ↔ KeepsOut config nonces stream failure) ∧
      opened.1 ≠ .silent := by
  have admits (login : Login config nonces) (rest : Bytes)
      (spells : Says login.script stream rest) :=
    startup_of_login login fits takes brings spells
  have rejects (failure : Failure) (keepsOut : KeepsOut config nonces stream failure) :=
    startup_of_keepsOut fits takes brings keepsOut
  dsimp only
  rcases login_or_keepsOut config nonces stream with ⟨login, rest, spells⟩ | ⟨failure, keepsOut⟩
  · have established := (admits login rest spells).1
    refine ⟨⟨fun _ => ⟨login, rest, spells⟩, fun _ => established⟩,
      fun login rest spells => (admits login rest spells).2,
      fun failure => ⟨?_, rejects failure⟩, ?_⟩
    · intro failed
      rw [established] at failed
      cases failed
    · rw [established]
      exact nofun
  · have failed := rejects failure keepsOut
    refine ⟨⟨?_, ?_⟩, fun login rest spells => (admits login rest spells).2,
      fun other => ⟨?_, rejects other⟩, ?_⟩
    · intro established
      rw [failed] at established
      cases established
    · rintro ⟨login, rest, spells⟩
      exact (admits login rest spells).1
    · intro same
      rw [failed] at same
      cases same
      exact keepsOut
    · rw [failed]
      exact nofun

def askingBytes : Bytes :=
  let message (first : Char) (body : Bytes) : Bytes := Frame.bytes { first := first.toUInt8, body }
  message 'R' [0, 0, 0, 3] ++ message 'R' [0, 0, 0, 0] ++ message 'Z' ['I'.toUInt8]

/-- What it spells arrives in two parts, and what it is told is taken in two as well. -/
def asking : Link where
  arrivals := [.data (askingBytes.take 7), .blocked, .data (askingBytes.drop 7), .data []]
  uptakes := [.accepted 3, .accepted 100]

theorem startup_established_iff_login_asking :
    (startupMessage {}).Fits ∧ (∀ uptake ∈ asking.uptakes, uptake.takes = true) ∧
      Brings asking.arrivals askingBytes ∧
      ∃ (login : Login {} (fun _ => "")) (rest : Bytes), Says login.script askingBytes rest := by
  have fits : (startupMessage {}).Fits := by
    unfold StartupMessage.Fits
    decide +kernel
  have takes : ∀ uptake ∈ asking.uptakes, uptake.takes = true := by decide
  have brings : Brings asking.arrivals askingBytes := by
    have pieces : Brings asking.arrivals
        (askingBytes.take 7 ++ (askingBytes.drop 7 ++ [])) :=
      .piece (by decide) (.blocked (.piece (by decide) (.ended [])))
    rw [List.append_nil, List.take_append_drop] at pieces
    exact pieces
  have accepted := (startup_established_iff_login {} (fun _ => "") fits takes brings).1
  have established : (startup {} (fun _ => "") { link := asking }).1 = .established := by
    decide +kernel
  exact ⟨fits, takes, brings, accepted.mp established⟩

end

end Conn
end PgClient

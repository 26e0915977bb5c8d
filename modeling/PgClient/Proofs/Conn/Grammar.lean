/-
The language of an opening: which bytes of a server let a client in.

A login is what the server asks and tells, up to the word that it is ready. Whatever the
bytes are, as many messages can be taken off their front as let the opening go on, and
what comes then either completes a login or is a first offence. So the bytes decide by
themselves how an opening over them will end.
-/

import PgClient.Proofs.Conn.Arriving
import PgClient.Proofs.Conn.Login

namespace PgClient.Conn

variable {config : Config} {nonces : Nat → String} {stage next last : Stage}
  {messages others : List BackendMessage} {answers replies : List FrontendMessage}
  {input between rest : Bytes}

/-! ### Messages one after the other -/

/-- Messages after each of which the opening goes on, with all that is answered to them. -/
inductive Conversation (config : Config) (nonces : Nat → String) :
    Stage → List BackendMessage → List FrontendMessage → Stage → Prop
  | nothing {stage : Stage} : Conversation config nonces stage [] [] stage
  | more {stage next last : Stage} {message : BackendMessage} {answer : Option FrontendMessage}
      {messages : List BackendMessage} {answers : List FrontendMessage}
      (continues : Continues config nonces stage message answer next)
      (fits : ∀ reply ∈ answer, reply.fits = true)
      (others : Conversation config nonces next messages answers last) :
      Conversation config nonces stage (message :: messages) (answer.toList ++ answers) last

inductive Says : List BackendMessage → Bytes → Bytes → Prop
  | nothing {rest : Bytes} : Says [] rest rest
  | more {frame : Frame} {message : BackendMessage} {messages : List BackendMessage}
      {input rest : Bytes} (fits : frame.Fits)
      (decoded : BackendMessage.decode frame.first frame.body = .ok message)
      (others : Says messages input rest) : Says (message :: messages) (frame.bytes ++ input) rest

private theorem Conversation.trans (first : Conversation config nonces stage messages answers next)
    (second : Conversation config nonces next others replies last) :
    Conversation config nonces stage (messages ++ others) (answers ++ replies) last := by
  induction first with
  | nothing => exact second
  | more continues fits _ ih =>
      rw [List.append_assoc]
      exact .more continues fits (ih second)

/-- There is one answer for each message that wants one. -/
theorem Conversation.length_answers
    (conversation : Conversation config nonces stage messages answers next) :
    answers.length = messages.countP wantsAnswer := by
  induction conversation with
  | nothing => rfl
  | @more stage next last message answer messages answers continues fits others ih =>
      rw [List.length_append, ih, List.countP_cons, ← continues.isSome_answer]
      cases answer with
      | none => simp
      | some reply => simp [Nat.add_comm]

theorem Says.trans (first : Says messages input between) (second : Says others between rest) :
    Says (messages ++ others) input rest := by
  induction first with
  | nothing => exact second
  | more fits decoded _ ih => exact .more fits decoded (ih second)

theorem Says.split (spells : Says (messages ++ others) input rest) :
    ∃ between, Says messages input between ∧ Says others between rest := by
  induction messages generalizing input with
  | nil => exact ⟨input, .nothing, spells⟩
  | cons message messages ih =>
      cases spells with
      | more fits decoded further =>
          obtain ⟨between, front, back⟩ := ih further
          exact ⟨between, .more fits decoded front, back⟩

theorem Says.front (spells : Says (message :: messages) input rest) :
    ∃ frame between, Frame.next input = .ok (some (frame, between)) ∧
      BackendMessage.decode frame.first frame.body = .ok message ∧
        Says messages between rest := by
  cases spells with
  | @more frame _ _ between _ fits decoded others =>
      exact ⟨frame, between, Frame.next_append frame fits between, decoded, others⟩

/-! ### What lets a client in -/

/-- The requests of a server that the client has met, up to the word that it is content,
and what the server reports then, up to the word that it is ready. -/
structure Login (config : Config) (nonces : Nat → String) where
  requests : List BackendMessage
  answers : List FrontendMessage
  /-- How many exchanges were begun, and the one that was begun last. -/
  drawn : Nat
  exchange : Option Scram.Client
  met : Conversation config nonces (.authenticating 0 none) requests answers
    (.authenticating drawn exchange)
  reports : List BackendMessage
  noted : Conversation config nonces .settling reports [] .settling
  indicator : UInt8

namespace Login

variable (login : Login config nonces)

def spoken : List BackendMessage :=
  login.requests ++ .authentication .ok :: login.reports

def script : List BackendMessage :=
  login.spoken ++ [.readyForQuery login.indicator]

theorem conversation :
    Conversation config nonces (.authenticating 0 none) login.spoken login.answers .settling := by
  have settled : Conversation config nonces (.authenticating login.drawn login.exchange)
      (.authentication .ok :: login.reports) (none.toList ++ []) .settling :=
    .more .authenticated nofun login.noted
  have whole := login.met.trans settled
  rw [Option.toList_none, List.append_nil, List.append_nil] at whole
  exact whole

end Login

/-- While the server reports on itself it is not answered, and that does not change. -/
theorem Conversation.of_settling
    (settled : Conversation config nonces .settling messages answers last) :
    last = .settling ∧ answers = [] := by
  generalize begun : Stage.settling = stage at settled ⊢
  induction settled with
  | nothing => exact ⟨rfl, rfl⟩
  | more continues fits _ ih =>
      subst begun
      cases continues with
      | notice read => exact ih rfl
      | parameterStatus name value => exact ih rfl
      | backendKeyData key => exact ih rfl
      | negotiateProtocolVersion minor count names => exact ih rfl

/-- A conversation in which the client shows who it is goes through the word that the
server is content. -/
theorem Conversation.to_settling {drawn : Nat} {exchange : Option Scram.Client}
    (settled : Conversation config nonces (.authenticating drawn exchange) messages answers
      .settling) :
    ∃ requests reports later exchange',
      messages = requests ++ .authentication .ok :: reports ∧
        Conversation config nonces (.authenticating drawn exchange) requests answers
          (.authenticating later exchange') ∧
          Conversation config nonces .settling reports [] .settling := by
  generalize begun : Stage.authenticating drawn exchange = stage at settled
  generalize ended : Stage.settling = last at settled
  induction settled generalizing drawn exchange with
  | nothing =>
      subst begun
      cases ended
  | @more stage next last message answer messages answers continues fits others ih =>
      subst begun ended
      cases next with
      | settling =>
          obtain ⟨_, unanswered⟩ := others.of_settling
          subst unanswered
          cases continues with
          | authenticated =>
              exact ⟨[], messages, drawn, exchange, rfl, .nothing, others⟩
      | authenticating further exchange' =>
          obtain ⟨requests, reports, later, final, whole, met, noted⟩ := ih rfl rfl
          subst whole
          exact ⟨message :: requests, reports, later, final, rfl,
            .more continues fits met, noted⟩

theorem Conversation.exists_login
    (settled : Conversation config nonces (.authenticating 0 none) messages answers .settling)
    (indicator : UInt8) :
    ∃ login : Login config nonces, login.spoken = messages ∧ login.answers = answers ∧
      login.indicator = indicator := by
  obtain ⟨requests, reports, drawn, exchange, whole, met, noted⟩ := settled.to_settling
  subst whole
  exact ⟨{ requests, answers, drawn, exchange, met, reports, noted, indicator }, rfl, rfl, rfl⟩

/-! ### What keeps it out -/

/-- The bytes begin with no message that the opening goes on after, and the server is not
ready either; this is how it fails. -/
inductive Offends (config : Config) (nonces : Nat → String) : Stage → Bytes → Failure → Prop
  /-- The server has closed the link in the middle of a message, or before it. -/
  | cutShort {stage : Stage} {input : Bytes} (found : Frame.next input = .ok none) :
      Offends config nonces stage input (.error (Error.ofIo .serverClosed))
  | illFramed {stage : Stage} {input : Bytes} {fault : ProtocolFault}
      (found : Frame.next input = .error fault) :
      Offends config nonces stage input (.error (Error.ofProtocol fault))
  | illFormed {stage : Stage} {frame : Frame} {rest : Bytes} {fault : ProtocolFault}
      (fits : frame.Fits)
      (decoded : BackendMessage.decode frame.first frame.body = .error fault) :
      Offends config nonces stage (frame.bytes ++ rest) (.error (Error.ofProtocol fault))
  | objects {stage : Stage} {input rest : Bytes} {message : BackendMessage} {error : Error}
      (spells : Says [message] input rest) (objects : Objects stage message error) :
      Offends config nonces stage input (.error error)
  /-- The answer has a text that is longer than a length can say. -/
  | unanswerable {stage next : Stage} {input rest : Bytes} {message : BackendMessage}
      {answer : FrontendMessage} {defect : Defect} (spells : Says [message] input rest)
      (continues : Continues config nonces stage message (some answer) next)
      (unfit : answer.length = .error defect) :
      Offends config nonces stage input (.defect defect)

/-- The bytes keep a client out: they begin with messages that an opening goes on after,
and then they offend. -/
def KeepsOut (config : Config) (nonces : Nat → String) (input : Bytes) (failure : Failure) :
    Prop :=
  ∃ messages answers stage rest, Says messages input rest ∧
    Conversation config nonces (.authenticating 0 none) messages answers stage ∧
      Offends config nonces stage rest failure

/-! ### Nothing else -/

/-- What stands at the front of the bytes: a message that the opening goes on after, the
word that the server is ready, or an offence. -/
theorem says_or_offends (config : Config) (nonces : Nat → String) (stage : Stage)
    (input : Bytes) :
    (∃ message answer next rest, Says [message] input rest ∧
        Continues config nonces stage message answer next ∧ ∀ reply ∈ answer, reply.fits = true) ∨
      (stage = .settling ∧ ∃ indicator rest, Says [.readyForQuery indicator] input rest) ∨
        ∃ failure, Offends config nonces stage input failure := by
  cases found : Frame.next input with
  | error fault => exact .inr (.inr ⟨_, .illFramed found⟩)
  | ok first =>
      cases first with
      | none => exact .inr (.inr ⟨_, .cutShort found⟩)
      | some first =>
          obtain ⟨frame, rest⟩ := first
          obtain ⟨whole, fits⟩ := Frame.next_eq_some found
          subst whole
          cases decoded : BackendMessage.decode frame.first frame.body with
          | error fault => exact .inr (.inr ⟨_, .illFormed fits decoded⟩)
          | ok message =>
              have spells : Says [message] (frame.bytes ++ rest) rest :=
                .more fits decoded .nothing
              rcases continues_or_objects config nonces stage message with
                ⟨answer, next, continues⟩ | ⟨settling, indicator, ready⟩ | ⟨error, objects⟩
              · cases answer with
                | none =>
                    exact .inl ⟨message, none, next, rest, spells, continues, nofun⟩
                | some answer =>
                    cases counted : answer.length with
                    | error defect =>
                        exact .inr (.inr ⟨_, .unanswerable spells continues counted⟩)
                    | ok length =>
                        refine .inl ⟨message, some answer, next, rest, spells, continues, ?_⟩
                        intro reply same
                        cases same
                        exact FrontendMessage.fits_of_length counted
              · subst ready
                exact .inr (.inl ⟨settling, indicator, rest, spells⟩)
              · exact .inr (.inr ⟨_, .objects spells objects⟩)

private theorem Says.length (spells : Says [message] input rest) : rest.length < input.length := by
  obtain ⟨frame, between, found, _, nothing⟩ := spells.front
  have shorter := Frame.next_length found
  cases nothing
  simp only [Frame.headLength] at shorter
  omega

/-- Bytes are said up to the word that the server is ready, or up to an offence. -/
theorem exists_conversation (config : Config) (nonces : Nat → String) (stage : Stage)
    (input : Bytes) :
    ∃ messages answers last rest, Says messages input rest ∧
      Conversation config nonces stage messages answers last ∧
        ((last = .settling ∧ ∃ indicator left, Says [.readyForQuery indicator] rest left) ∨
          ∃ failure, Offends config nonces last rest failure) := by
  induction size : input.length using Nat.strongRecOn generalizing stage input with
  | ind size ih =>
      rcases says_or_offends config nonces stage input with
        ⟨message, answer, next, rest, spells, continues, fits⟩ | ready | offends
      · obtain ⟨messages, answers, last, left, spellsMore, conversation, ends⟩ :=
          ih rest.length (by have := spells.length; omega) next rest rfl
        exact ⟨message :: messages, answer.toList ++ answers, last, left, spells.trans spellsMore,
          .more continues fits conversation, ends⟩
      · exact ⟨[], [], stage, input, .nothing, .nothing, .inl ready⟩
      · exact ⟨[], [], stage, input, .nothing, .nothing, .inr offends⟩

/-- Bytes let a client in, or they keep it out. -/
theorem login_or_keepsOut (config : Config) (nonces : Nat → String) (input : Bytes) :
    (∃ (login : Login config nonces) (rest : Bytes), Says login.script input rest) ∨
      ∃ failure, KeepsOut config nonces input failure := by
  obtain ⟨messages, answers, last, rest, spells, conversation, ends⟩ :=
    exists_conversation config nonces (.authenticating 0 none) input
  rcases ends with ⟨settling, indicator, left, ready⟩ | ⟨failure, offends⟩
  · subst settling
    obtain ⟨login, spoken, _, same⟩ := conversation.exists_login indicator
    refine .inl ⟨login, left, ?_⟩
    rw [Login.script, spoken, same]
    exact spells.trans ready
  · exact .inr ⟨failure, messages, answers, last, rest, spells, conversation, offends⟩

end PgClient.Conn

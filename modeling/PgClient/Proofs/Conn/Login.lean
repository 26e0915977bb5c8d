/-
The messages that an opening goes on after, and those that end it.

What a message does to an opening depends on the stage and on nothing else: it lets the
opening go on, with an answer or without, or it says that the server is ready, or it is
a reason to fail. The three are told apart here without a session, and a step of the
opening is then shown to come to what they say.
-/

import PgClient.Proofs.Conn.Opening
import PgClient.Proofs.Wire.Layout
import PgClient.Proofs.Wire.Outgoing

namespace PgClient

/-! ### Lists of mechanisms -/

/-- The list names these mechanisms, each ended by a zero byte. It ends with its bytes or
at an empty name. -/
inductive Lists : Bytes → List String → Prop
  | exhausted : Lists [] []
  | ended (rest : Bytes) : Lists (0 :: rest) []
  | named {name : String} {names : List String} {rest : Bytes} (some : name ≠ "")
      (zeroFree : ZeroFree name) (others : Lists rest names) :
      Lists (Bytes.endedByZero (Utf8.encode name) ++ rest) (name :: names)

namespace Conn

private theorem lists_of_offersScram {mechanisms : Bytes} {offered : Bool}
    (read : offersScram mechanisms = .ok offered) :
    ∃ names, Lists mechanisms names ∧ (offered = true ↔ Scram.mechanism ∈ names) := by
  fun_induction offersScram mechanisms generalizing offered with
  | case1 mechanisms isEmpty =>
      cases read
      rw [List.isEmpty_iff.mp isEmpty]
      exact ⟨[], .exhausted, by simp⟩
  | case2 => cases read
  | case3 mechanisms _ name rest found shorter isEmpty =>
      cases read
      obtain ⟨_, whole⟩ := Reader.text_eq_ok found
      rw [String.isEmpty_iff.mp isEmpty] at whole
      rw [whole]
      exact ⟨[], .ended rest, by simp⟩
  | case4 => cases read
  | case5 mechanisms _ name rest found shorter some further others ih =>
      cases read
      obtain ⟨names, listed, offers⟩ := ih others
      obtain ⟨zeroFree, whole⟩ := Reader.text_eq_ok found
      rw [whole]
      refine ⟨name :: names, .named (fun same => some (String.isEmpty_iff.mpr same)) zeroFree
        listed, ?_⟩
      rw [Bool.or_eq_true, beq_iff_eq, offers, List.mem_cons, @eq_comm _ name]

private theorem offersScram_of_lists {mechanisms : Bytes} {names : List String}
    (listed : Lists mechanisms names) :
    offersScram mechanisms = .ok (decide (Scram.mechanism ∈ names)) := by
  induction listed with
  | exhausted => rw [offersScram]; rfl
  | ended rest =>
      have read : Reader.text (0 :: rest) = .ok ("", rest) :=
        Reader.text_append "" (by decide) rest
      rw [offersScram, if_neg (by simp)]
      split
      · rename_i same
        rw [read] at same
        cases same
      · rename_i same
        rw [read] at same
        cases same
        rfl
  | @named name names rest some zeroFree others ih =>
      have read := Reader.text_append name zeroFree rest
      rw [offersScram, if_neg (by simp [Bytes.endedByZero])]
      split
      · rename_i same
        rw [read] at same
        cases same
      · rename_i same
        rw [read] at same
        cases same
        rw [if_neg (fun isEmpty => some (String.isEmpty_iff.mp isEmpty)), ih]
        simp [Bool.beq_eq_decide_eq, eq_comm]

/-! ### What a message does -/

/-- A message that the opening goes on after, with what the client answers to it, if
anything, and the stage that follows. -/
inductive Continues (config : Config) (nonces : Nat → String) :
    Stage → BackendMessage → Option FrontendMessage → Stage → Prop
  | notice {stage : Stage} {body : Bytes} {report : Diagnostic}
      (read : Diagnostic.parse body = .ok report) :
      Continues config nonces stage (.noticeResponse body) none stage
  | cleartextPassword {drawn : Nat} {exchange : Option Scram.Client} :
      Continues config nonces (.authenticating drawn exchange)
        (.authentication .cleartextPassword) (some (.password config.password))
        (.authenticating drawn exchange)
  | md5Password {drawn : Nat} {exchange : Option Scram.Client} (salt : UInt32) :
      Continues config nonces (.authenticating drawn exchange)
        (.authentication (.md5Password salt))
        (some (.password (Auth.hashedPassword config.user config.password salt)))
        (.authenticating drawn exchange)
  | sasl {drawn : Nat} {exchange : Option Scram.Client} {mechanisms : Bytes}
      {names : List String} (listed : Lists mechanisms names)
      (offered : Scram.mechanism ∈ names) :
      Continues config nonces (.authenticating drawn exchange)
        (.authentication (.sasl mechanisms))
        (some (.saslInitialResponse Scram.mechanism
          (Scram.Client.first { password := config.password, nonce := nonces drawn })))
        (.authenticating (drawn + 1)
          (some { password := config.password, nonce := nonces drawn }))
  | saslContinue {drawn : Nat} {client answered : Scram.Client} {data response : Bytes}
      (accepted : client.answer Scram.sha256 data = .ok (response, answered)) :
      Continues config nonces (.authenticating drawn (some client))
        (.authentication (.saslContinue data)) (some (.saslResponse response))
        (.authenticating drawn (some answered))
  | saslFinal {drawn : Nat} {client : Scram.Client} {data : Bytes}
      (accepted : client.verify Scram.sha256 data = .ok ()) :
      Continues config nonces (.authenticating drawn (some client))
        (.authentication (.saslFinal data)) none (.authenticating drawn (some client))
  | authenticated {drawn : Nat} {exchange : Option Scram.Client} :
      Continues config nonces (.authenticating drawn exchange) (.authentication .ok) none
        .settling
  | parameterStatus (name value : String) :
      Continues config nonces .settling (.parameterStatus name value) none .settling
  | backendKeyData (key : KeyData) :
      Continues config nonces .settling (.backendKeyData key) none .settling
  | negotiateProtocolVersion (minor count : UInt32) (names : Bytes) :
      Continues config nonces .settling (.negotiateProtocolVersion minor count names) none
        .settling

def wantsAnswer : BackendMessage → Bool
  | .authentication .cleartextPassword => true
  | .authentication (.md5Password _) => true
  | .authentication (.sasl _) => true
  | .authentication (.saslContinue _) => true
  | _ => false

theorem Continues.isSome_answer {config : Config} {nonces : Nat → String} {stage next : Stage}
    {message : BackendMessage} {answer : Option FrontendMessage}
    (continues : Continues config nonces stage message answer next) :
    answer.isSome = wantsAnswer message := by
  cases continues <;> rfl

def isForeign : AuthenticationRequest → Bool
  | .kerberos | .gss | .gssContinue _ | .sspi => true
  | _ => false

/-- A message that belongs into a stage, whatever its fields may be. -/
def belongs : Stage → BackendMessage → Bool
  | .authenticating _ _, .authentication _ => true
  | .settling, .readyForQuery _ => true
  | .settling, .backendKeyData _ => true
  | .settling, .parameterStatus _ _ => true
  | .settling, .negotiateProtocolVersion _ _ _ => true
  | _, .noticeResponse _ => true
  | _, .errorResponse _ => true
  | _, _ => false

def Stage.phase : Stage → Phase
  | .authenticating _ _ => .authentication
  | .settling => .startup

inductive Objects : Stage → BackendMessage → Error → Prop
  | refused {stage : Stage} {body : Bytes} {report : Diagnostic}
      (read : Diagnostic.parse body = .ok report) :
      Objects stage (.errorResponse body) (Error.ofDatabase report)
  | illRefused {stage : Stage} {body : Bytes} {fault : ProtocolFault}
      (read : Diagnostic.parse body = .error fault) :
      Objects stage (.errorResponse body) (Error.ofProtocol fault)
  | illNoticed {stage : Stage} {body : Bytes} {fault : ProtocolFault}
      (read : Diagnostic.parse body = .error fault) :
      Objects stage (.noticeResponse body) (Error.ofProtocol fault)
  | foreign {drawn : Nat} {exchange : Option Scram.Client} {request : AuthenticationRequest}
      (foreign : isForeign request = true) :
      Objects (.authenticating drawn exchange) (.authentication request)
        { kind := .unsupportedAuth request.method }
  | illListed {drawn : Nat} {exchange : Option Scram.Client} {mechanisms : Bytes}
      {fault : ProtocolFault} (read : offersScram mechanisms = .error fault) :
      Objects (.authenticating drawn exchange) (.authentication (.sasl mechanisms))
        (Error.ofProtocol fault)
  | notOffered {drawn : Nat} {exchange : Option Scram.Client} {mechanisms : Bytes}
      {names : List String} (listed : Lists mechanisms names)
      (missing : Scram.mechanism ∉ names) :
      Objects (.authenticating drawn exchange) (.authentication (.sasl mechanisms))
        { kind := .unsupportedAuth ("sasl without " ++ Scram.mechanism) }
  | continueBeforeStart {drawn : Nat} (data : Bytes) :
      Objects (.authenticating drawn none) (.authentication (.saslContinue data))
        (Error.ofAuth .continueBeforeStart)
  | continueRejected {drawn : Nat} {client : Scram.Client} {data : Bytes} {error : Error}
      (rejected : client.answer Scram.sha256 data = .error error) :
      Objects (.authenticating drawn (some client))
        (.authentication (.saslContinue data)) error
  | finalBeforeStart {drawn : Nat} (data : Bytes) :
      Objects (.authenticating drawn none) (.authentication (.saslFinal data))
        (Error.ofAuth .finalBeforeStart)
  | finalRejected {drawn : Nat} {client : Scram.Client} {data : Bytes} {error : Error}
      (rejected : client.verify Scram.sha256 data = .error error) :
      Objects (.authenticating drawn (some client))
        (.authentication (.saslFinal data)) error
  | misplaced {stage : Stage} {message : BackendMessage}
      (misplaced : belongs stage message = false) :
      Objects stage message (Error.ofProtocol (.misplaced message.tag stage.phase))

private theorem continues_or_objects_request (config : Config) (nonces : Nat → String) (drawn : Nat)
    (exchange : Option Scram.Client) (request : AuthenticationRequest) :
    (∃ answer next, Continues config nonces (.authenticating drawn exchange)
        (.authentication request) answer next) ∨
      ∃ error, Objects (.authenticating drawn exchange) (.authentication request) error := by
  cases request with
  | ok => exact .inl ⟨none, .settling, .authenticated⟩
  | cleartextPassword => exact .inl ⟨_, _, .cleartextPassword⟩
  | md5Password salt => exact .inl ⟨_, _, .md5Password salt⟩
  | sasl mechanisms =>
      cases read : offersScram mechanisms with
      | error fault => exact .inr ⟨_, .illListed read⟩
      | ok offered =>
          obtain ⟨names, listed, offers⟩ := lists_of_offersScram read
          by_cases offered : Scram.mechanism ∈ names
          · exact .inl ⟨_, _, .sasl listed offered⟩
          · exact .inr ⟨_, .notOffered listed offered⟩
  | saslContinue data =>
      cases exchange with
      | none => exact .inr ⟨_, .continueBeforeStart data⟩
      | some client =>
          cases outcome : client.answer Scram.sha256 data with
          | error error => exact .inr ⟨_, .continueRejected outcome⟩
          | ok answer => exact .inl ⟨_, _, .saslContinue outcome⟩
  | saslFinal data =>
      cases exchange with
      | none => exact .inr ⟨_, .finalBeforeStart data⟩
      | some client =>
          cases outcome : client.verify Scram.sha256 data with
          | error error => exact .inr ⟨_, .finalRejected outcome⟩
          | ok accepted => exact .inl ⟨_, _, .saslFinal outcome⟩
  | kerberos => exact .inr ⟨_, .foreign rfl⟩
  | gss => exact .inr ⟨_, .foreign rfl⟩
  | gssContinue data => exact .inr ⟨_, .foreign rfl⟩
  | sspi => exact .inr ⟨_, .foreign rfl⟩

/-- A message does one of three things, in every stage. -/
theorem continues_or_objects (config : Config) (nonces : Nat → String) (stage : Stage)
    (message : BackendMessage) :
    (∃ answer next, Continues config nonces stage message answer next) ∨
      (stage = .settling ∧ ∃ indicator, message = .readyForQuery indicator) ∨
        ∃ error, Objects stage message error := by
  by_cases placed : belongs stage message = true
  case neg => exact .inr (.inr ⟨_, .misplaced (Bool.not_eq_true _ ▸ placed)⟩)
  cases message with
  | noticeResponse body =>
      cases read : Diagnostic.parse body with
      | error fault => exact .inr (.inr ⟨_, .illNoticed read⟩)
      | ok report => exact .inl ⟨none, stage, .notice read⟩
  | errorResponse body =>
      cases read : Diagnostic.parse body with
      | error fault => exact .inr (.inr ⟨_, .illRefused read⟩)
      | ok report => exact .inr (.inr ⟨_, .refused read⟩)
  | readyForQuery indicator =>
      cases stage with
      | authenticating drawn exchange => cases placed
      | settling => exact .inr (.inl ⟨rfl, indicator, rfl⟩)
  | parameterStatus name value =>
      cases stage with
      | authenticating drawn exchange => cases placed
      | settling => exact .inl ⟨none, .settling, .parameterStatus name value⟩
  | backendKeyData key =>
      cases stage with
      | authenticating drawn exchange => cases placed
      | settling => exact .inl ⟨none, .settling, .backendKeyData key⟩
  | negotiateProtocolVersion minor count names =>
      cases stage with
      | authenticating drawn exchange => cases placed
      | settling => exact .inl ⟨none, .settling, .negotiateProtocolVersion minor count names⟩
  | authentication request =>
      cases stage with
      | settling => cases placed
      | authenticating drawn exchange =>
          rcases continues_or_objects_request config nonces drawn exchange request with
            continues | objects
          · exact .inl continues
          · exact .inr (.inr objects)
  | _ => cases stage <;> cases placed

/-! ### What a step of the opening comes to -/

def note (message : BackendMessage) (conn : Conn) : Conn :=
  match message with
  | .noticeResponse body => (conn.receiveNotice body).toOption.getD conn
  | .parameterStatus name value => conn.setParameter name value
  | .backendKeyData key => { conn with keyData := some key }
  | .negotiateProtocolVersion minor _ _ => conn.record (.negotiated minor)
  | _ => conn

def speak (answer : Option FrontendMessage) (stage : Stage) (conn : Conn) : Progress × Conn :=
  match answer with
  | none => (.next stage, conn)
  | some message => conn.reply message stage

theorem Continues.advance {config : Config} {nonces : Nat → String} {stage next : Stage}
    {message : BackendMessage} {answer : Option FrontendMessage}
    (continues : Continues config nonces stage message answer next) (conn : Conn) :
    Conn.advance config nonces stage message conn = (conn.note message).speak answer next := by
  cases continues with
  | @notice stage body report read =>
      have noticed :
          conn.noticed body stage = (conn.note (.noticeResponse body)).speak none stage := by
        simp only [Conn.noticed, note, receiveNotice, read]
        rfl
      cases stage with
      | authenticating drawn exchange => exact noticed
      | settling => exact noticed
  | sasl listed offered =>
      have read := offersScram_of_lists listed
      rw [decide_eq_true offered] at read
      simp only [Conn.advance, authenticate, read]
      rfl
  | saslContinue accepted =>
      simp only [Conn.advance, authenticate, accepted]
      rfl
  | saslFinal accepted =>
      simp only [Conn.advance, authenticate, accepted]
      rfl
  | _ => rfl

theorem Objects.advance {stage : Stage} {message : BackendMessage} {error : Error}
    (objects : Objects stage message error) (config : Config) (nonces : Nat → String)
    (conn : Conn) :
    Conn.advance config nonces stage message conn = (.ofError error, conn) := by
  cases objects with
  | @refused stage body report read =>
      have refused : Conn.refused body = .ofError (Error.ofDatabase report) := by
        simp only [Conn.refused, read]
      cases stage <;> exact Prod.ext refused rfl
  | @illRefused stage body fault read =>
      have refused : Conn.refused body = .ofError (Error.ofProtocol fault) := by
        simp only [Conn.refused, read]
      cases stage <;> exact Prod.ext refused rfl
  | @illNoticed stage body fault read =>
      have noticed : conn.noticed body stage = (.ofError (Error.ofProtocol fault), conn) := by
        simp only [Conn.noticed, receiveNotice, read]
      cases stage <;> exact noticed
  | @foreign drawn exchange request foreign =>
      cases request with
      | kerberos => rfl
      | gss => rfl
      | gssContinue data => rfl
      | sspi => rfl
      | _ => cases foreign
  | illListed read => simp only [Conn.advance, authenticate, read]
  | notOffered listed missing =>
      have read := offersScram_of_lists listed
      rw [decide_eq_false missing] at read
      simp only [Conn.advance, authenticate, read]
      rfl
  | continueBeforeStart data => rfl
  | continueRejected rejected => simp only [Conn.advance, authenticate, rejected]
  | finalBeforeStart data => rfl
  | finalRejected rejected => simp only [Conn.advance, authenticate, rejected]
  | @misplaced stage message misplaced =>
      cases stage with
      | authenticating drawn exchange =>
          cases message with
          | authentication request => cases misplaced
          | errorResponse body => cases misplaced
          | noticeResponse body => cases misplaced
          | _ => rfl
      | settling =>
          cases message with
          | readyForQuery indicator => cases misplaced
          | backendKeyData key => cases misplaced
          | parameterStatus name value => cases misplaced
          | negotiateProtocolVersion minor count names => cases misplaced
          | errorResponse body => cases misplaced
          | noticeResponse body => cases misplaced
          | _ => rfl

end Conn
end PgClient

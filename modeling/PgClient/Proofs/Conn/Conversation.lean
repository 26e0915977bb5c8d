/-
What a client says while a session is opened, and what an opening can do to a session.

What is said to a message depends on the message and on the stage of the opening, and on
nothing else. Beside it, an opening reads, takes down what the server reports on itself,
and may come to find the link broken. A property of the session and of what has been said
that all of these keep, the whole opening keeps.
-/

import PgClient.Conn.Startup
import PgClient.Proofs.Wire.Outgoing

namespace PgClient.Conn

/-! ### What is said -/

def answerToRequest (config : Config) (nonces : Nat → String) (drawn : Nat)
    (exchange : Option Scram.Client) (request : AuthenticationRequest) :
    List FrontendMessage :=
  match request with
  | .cleartextPassword => [.password config.password]
  | .md5Password salt => [.password (Auth.hashedPassword config.user config.password salt)]
  | .sasl mechanisms =>
      match offersScram mechanisms with
      | .ok true =>
          let client : Scram.Client := { password := config.password, nonce := nonces drawn }
          [.saslInitialResponse Scram.mechanism client.first]
      | _ => []
  | .saslContinue data =>
      match exchange with
      | none => []
      | some client =>
          match client.answer Scram.sha256 data with
          | .error _ => []
          | .ok (response, _) => [.saslResponse response]
  | _ => []

def answerTo (config : Config) (nonces : Nat → String) (stage : Stage)
    (message : BackendMessage) : List FrontendMessage :=
  match stage, message with
  | .authenticating drawn exchange, .authentication request =>
      answerToRequest config nonces drawn exchange request
  | _, _ => []

def answers (config : Config) (nonces : Nat → String) (inbox : Bytes)
    (arrivals : List Arrival) (stage : Stage) (conn : Conn) : List FrontendMessage :=
  match received : awaitFrame inbox arrivals with
  | ⟨.frame frame, inbox, arrivals⟩ =>
      match BackendMessage.decode frame.first frame.body with
      | .error _ => []
      | .ok message =>
          FrontendMessage.fitting (answerTo config nonces stage message) ++
            match advance config nonces stage message conn with
            | (.next stage, conn) =>
                have := awaitFrame_pending received
                answers config nonces inbox arrivals stage conn
            | _ => []
  | _ => []
termination_by pending inbox arrivals

section

variable {config : Config} {nonces : Nat → String} {inbox rest : Bytes}
  {arrivals later : List Arrival} {stage : Stage} {conn : Conn}

private theorem answers_of_frame {frame : Frame} {message : BackendMessage}
    (received : awaitFrame inbox arrivals = ⟨.frame frame, rest, later⟩)
    (decoded : BackendMessage.decode frame.first frame.body = .ok message) :
    answers config nonces inbox arrivals stage conn =
      FrontendMessage.fitting (answerTo config nonces stage message) ++
        match advance config nonces stage message conn with
        | (.next stage, conn) => answers config nonces rest later stage conn
        | _ => [] := by
  rw [answers]
  split
  · rename_i same
    rw [received] at same
    cases same
    rw [decoded]
  · rename_i other
    exact absurd received (other frame rest later)

private theorem answers_of_undecodable {frame : Frame} {fault : ProtocolFault}
    (received : awaitFrame inbox arrivals = ⟨.frame frame, rest, later⟩)
    (decoded : BackendMessage.decode frame.first frame.body = .error fault) :
    answers config nonces inbox arrivals stage conn = [] := by
  rw [answers]
  split
  · rename_i same
    rw [received] at same
    cases same
    rw [decoded]
  · rfl

private theorem answers_of_none {receipt : Receipt}
    (received : awaitFrame inbox arrivals = ⟨receipt, rest, later⟩)
    (none : ∀ frame, receipt ≠ .frame frame) :
    answers config nonces inbox arrivals stage conn = [] := by
  rw [answers]
  split
  · rename_i frame _ _ same
    rw [received] at same
    cases same
    exact absurd rfl (none frame)
  · rfl

end

def startupAnswers (config : Config) (nonces : Nat → String) (conn : Conn) :
    List FrontendMessage :=
  match (startupMessage config).append conn.outbox with
  | (.error _, _) => []
  | (.ok (), outbox) =>
      match { conn with outbox }.flushFully with
      | (.error _, _) => []
      | (.ok (), conn) =>
          answers config nonces conn.inbox conn.link.arrivals (.authenticating 0 none) conn

/-! ### What is done -/

/-- Properties of a session that has said something: the first is kept by all that an opening
does, and the second is what is left of it when the opening fails. A message that does not fit
may leave its first byte behind, and then only the second is left. -/
structure Opens (Holds Stops : List FrontendMessage → Conn → Prop) : Prop where
  tells : ∀ {said conn} lastStatus parameters keyData journal, Holds said conn →
    Holds said { conn with lastStatus, parameters, keyData, journal }
  reads : ∀ {said conn} inbox arrivals, Holds said conn →
    Holds said (conn.keepInput inbox arrivals)
  breaks : ∀ {said conn} inFlight, Holds said conn →
    Holds said { conn with broken := true, inFlight }
  speaks : ∀ {said conn message}, message.body.whole = true → message ≠ .terminate →
    message.fits = true → Holds said conn →
      Holds (said ++ [message]) (conn.enqueue [message]).2
  writes : ∀ {said conn}, Holds said conn → Holds said conn.flushFully.2
  stops : ∀ {said conn}, Holds said conn → Stops said conn
  stalls : ∀ {said conn message}, message.body.whole = true → message.fits = false →
    Holds said conn → Stops said (conn.enqueue [message]).2
  stays : ∀ {said conn} inbox arrivals, Stops said conn →
    Stops said (conn.keepInput inbox arrivals)

def Progress.After (Holds Stops : Conn → Prop) : Progress × Conn → Prop
  | (.failed _, conn) => Stops conn
  | (_, conn) => Holds conn

def Opening.After (Holds Stops : Conn → Prop) : Opening × Conn → Prop
  | (.failed _, conn) => Stops conn
  | (_, conn) => Holds conn

theorem Opening.After.always {Holds : Conn → Prop} {opened : Opening × Conn}
    (after : Opening.After Holds Holds opened) : Holds opened.2 := by
  obtain ⟨opening, conn⟩ := opened
  cases opening <;> exact after

namespace Opens

variable {Holds Stops : List FrontendMessage → Conn → Prop} {config : Config}
  {nonces : Nat → String} {said : List FrontendMessage} {conn : Conn}

private theorem breakWith (opens : Opens Holds Stops) (fault : IoFault) (holds : Holds said conn) :
    Holds said (conn.breakWith fault) :=
  opens.tells _ _ _ _ (opens.breaks false holds)

/-- Whether it goes on or not, where nothing has been put there it stops as it is. -/
theorem after (opens : Opens Holds Stops) (progress : Progress) (holds : Holds said conn) :
    Progress.After (Holds said) (Stops said) (progress, conn) := by
  cases progress with
  | failed failure => exact opens.stops holds
  | established => exact holds
  | next stage => exact holds

private theorem reply (opens : Opens Holds Stops) {message : FrontendMessage} {stage : Stage}
    (whole : message.body.whole = true) (goesOn : message ≠ .terminate)
    (holds : Holds said conn) :
    Progress.After (Holds (said ++ FrontendMessage.fitting [message]))
      (Stops (said ++ FrontendMessage.fitting [message])) (conn.reply message stage) := by
  unfold Conn.reply
  cases fits : message.fits with
  | true =>
      have put := opens.speaks whole goesOn fits holds
      rw [FrontendMessage.fitting_cons_of_fits fits]
      generalize conn.enqueue [message] = enqueued at put ⊢
      obtain ⟨outcome, enqueued⟩ := enqueued
      cases outcome with
      | error defect => exact opens.stops put
      | ok =>
          have written := opens.writes put
          dsimp only at written ⊢
          generalize enqueued.flushFully = flushed at written ⊢
          obtain ⟨outcome, flushed⟩ := flushed
          cases outcome with
          | error error => exact opens.stops written
          | ok => exact written
  | false =>
      have put := opens.stalls whole fits holds
      obtain ⟨defect, unfit⟩ := FrontendMessage.exists_unfit fits
      rw [FrontendMessage.fitting_cons_of_unfit fits, List.append_nil]
      unfold enqueue FrontendMessage.appendAll at put ⊢
      rw [FrontendMessage.append_of_unfit unfit] at put ⊢
      exact put

/-- Without an answer nothing is added to what was said. -/
theorem unanswered (opens : Opens Holds Stops) (progress : Progress) (holds : Holds said conn) :
    Progress.After (Holds (said ++ FrontendMessage.fitting []))
      (Stops (said ++ FrontendMessage.fitting [])) (progress, conn) := by
  rw [show FrontendMessage.fitting [] = [] from rfl, List.append_nil]
  exact opens.after progress holds

private theorem authenticate (opens : Opens Holds Stops) {drawn : Nat}
    {exchange : Option Scram.Client} (request : AuthenticationRequest) (holds : Holds said conn) :
    let answered := said ++
      FrontendMessage.fitting (answerToRequest config nonces drawn exchange request)
    Progress.After (Holds answered) (Stops answered)
      (Conn.authenticate config nonces drawn exchange request conn) := by
  cases request with
  | cleartextPassword => exact opens.reply rfl (by simp) holds
  | md5Password salt => exact opens.reply rfl (by simp) holds
  | sasl mechanisms =>
      simp only [answerToRequest, Conn.authenticate]
      cases offersScram mechanisms with
      | error fault => exact opens.unanswered _ holds
      | ok offered =>
          cases offered with
          | false => exact opens.unanswered _ holds
          | true => exact opens.reply rfl (by simp) holds
  | saslContinue data =>
      simp only [answerToRequest, Conn.authenticate]
      cases exchange with
      | none => exact opens.unanswered _ holds
      | some client =>
          dsimp only
          cases client.answer Scram.sha256 data with
          | error error => exact opens.unanswered _ holds
          | ok answer => exact opens.reply rfl (by simp) holds
  | saslFinal data =>
      simp only [answerToRequest, Conn.authenticate]
      cases exchange with
      | none => exact opens.unanswered _ holds
      | some client =>
          dsimp only
          cases client.verify Scram.sha256 data with
          | error error => exact opens.unanswered _ holds
          | ok verified => exact opens.unanswered _ holds
  | _ => exact opens.unanswered _ holds

private theorem noticed (opens : Opens Holds Stops) (body : Bytes) {stage : Stage}
    (holds : Holds said conn) :
    Progress.After (Holds (said ++ FrontendMessage.fitting []))
      (Stops (said ++ FrontendMessage.fitting [])) (conn.noticed body stage) := by
  unfold Conn.noticed Conn.receiveNotice
  cases Diagnostic.parse body with
  | error fault => exact opens.unanswered _ holds
  | ok report => exact opens.unanswered _ (opens.tells _ _ _ _ holds)

private theorem advance (opens : Opens Holds Stops) (config : Config) (nonces : Nat → String)
    (stage : Stage) (message : BackendMessage) (holds : Holds said conn) :
    let answered := said ++ FrontendMessage.fitting (answerTo config nonces stage message)
    Progress.After (Holds answered) (Stops answered)
      (Conn.advance config nonces stage message conn) := by
  cases stage with
  | authenticating drawn exchange =>
      cases message with
      | authentication request => exact opens.authenticate request holds
      | noticeResponse body => exact opens.noticed body holds
      | _ => exact opens.unanswered _ holds
  | settling =>
      cases message with
      | readyForQuery indicator => exact opens.unanswered _ (opens.tells _ _ _ _ holds)
      | backendKeyData key => exact opens.unanswered _ (opens.tells _ _ _ _ holds)
      | parameterStatus name value => exact opens.unanswered _ (opens.tells _ _ _ _ holds)
      | negotiateProtocolVersion minor count names =>
          exact opens.unanswered _ (opens.tells _ _ _ _ holds)
      | noticeResponse body => exact opens.noticed body holds
      | _ => exact opens.unanswered _ holds

private theorem converse (opens : Opens Holds Stops) {inbox : Bytes} {arrivals : List Arrival}
    {stage : Stage} (holds : Holds said conn) :
    let spoken := said ++ answers config nonces inbox arrivals stage conn
    Opening.After (Holds spoken) (Stops spoken)
      (Conn.converse config nonces inbox arrivals stage conn) := by
  fun_induction Conn.converse config nonces inbox arrivals stage conn generalizing said with
  | case1 inbox arrivals stage conn rest later received =>
      rw [answers_of_none received (by intro frame same; cases same), List.append_nil]
      exact opens.reads rest later holds
  | case2 inbox arrivals stage conn fault rest later received =>
      rw [answers_of_none received (by intro frame same; cases same), List.append_nil]
      exact opens.stops (opens.breakWith fault (opens.reads rest later holds))
  | case3 inbox arrivals stage conn fault rest later received =>
      rw [answers_of_none received (by intro frame same; cases same), List.append_nil]
      exact opens.stops (opens.breaks _ (opens.reads rest later holds))
  | case4 inbox arrivals stage conn frame rest later received fault decoded =>
      rw [answers_of_undecodable received decoded, List.append_nil]
      exact opens.stops (opens.reads rest later holds)
  | case5 inbox arrivals stage conn frame rest later received message decoded failure last
      advanced =>
      have after := opens.advance config nonces stage message holds
      rw [advanced] at after
      rw [answers_of_frame received decoded, advanced, List.append_nil]
      exact opens.stays rest later after
  | case6 inbox arrivals stage conn frame rest later received message decoded last advanced =>
      have after := opens.advance config nonces stage message holds
      rw [advanced] at after
      rw [answers_of_frame received decoded, advanced, List.append_nil]
      exact opens.reads rest later after
  | case7 inbox arrivals stage conn frame rest later received message decoded next kept advanced
      shorter ih =>
      have after := opens.advance config nonces stage message holds
      rw [advanced] at after
      rw [answers_of_frame received decoded, advanced, ← List.append_assoc]
      exact ih after

theorem startup (opens : Opens Holds Stops) (config : Config) (nonces : Nat → String)
    (conn : Conn)
    (begun : Holds [] { conn with outbox := ((startupMessage config).append conn.outbox).2 }) :
    Opening.After (Holds (startupAnswers config nonces conn))
      (Stops (startupAnswers config nonces conn)) (conn.startup config nonces) := by
  unfold startupAnswers Conn.startup
  generalize (startupMessage config).append conn.outbox = appended at begun ⊢
  obtain ⟨outcome, outbox⟩ := appended
  cases outcome with
  | error defect => exact opens.stops begun
  | ok =>
      have written := opens.writes begun
      dsimp only at written ⊢
      generalize ({ conn with outbox } : Conn) = started at written ⊢
      generalize started.flushFully = flushed at written ⊢
      obtain ⟨outcome, flushed⟩ := flushed
      cases outcome with
      | error error => exact opens.stops written
      | ok => exact opens.converse written

end Opens

end PgClient.Conn

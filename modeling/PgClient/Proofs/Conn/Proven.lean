/-
Whether the server has shown that it knows the password.

In an exchange the client answers a first message of the server, and holds the last one
against the signature that only a server can make that has what the password comes to.
A last message that is not so signed ends the opening. But nothing asks for one: a server
that says it is content before the exchange has come to its end is taken at its word.
-/

import PgClient.Proofs.Conn.Admission

namespace PgClient

namespace Scram

def signature? (data : Bytes) : Option Bytes :=
  match Utf8.decode data with
  | .error _ => none
  | .ok text =>
      match text.toList with
      | 'v' :: '=' :: signature =>
          (Base64.decode (Utf8.encode (String.ofList (Blank.trimEnd signature)))).toOption
      | _ => none

def Signs (agreement : Agreement) (data : Bytes) : Prop :=
  signature? data =
    some (serverSignature sha256 agreement.saltedPassword agreement.authMessage)

namespace Client

variable {primitives : Primitives} {client other answered : Client} {data response : Bytes}

theorem verify_ok (verified : client.verify primitives data = .ok ()) :
    ∃ agreement, client.agreement = some agreement ∧ signature? data =
      some (serverSignature primitives agreement.saltedPassword agreement.authMessage) := by
  unfold verify at verified
  unfold signature?
  cases decoded : Utf8.decode data with
  | error fault =>
      rw [decoded] at verified
      cases verified
  | ok text =>
      rw [decoded] at verified
      dsimp only at verified ⊢
      split at verified
      · cases verified
      · rename_i signature spelled
        rw [spelled]
        split at verified
        · cases verified
        · rename_i signature read
          split at verified
          · cases verified
          · rename_i agreement agreed
            split at verified
            · rename_i same
              refine ⟨agreement, agreed, ?_⟩
              change (Base64.decode _).toOption = _
              rw [read, same]
              rfl
            · cases verified
      · cases verified

theorem verify_of_signed {agreement : Agreement} (agreed : client.agreement = some agreement)
    (signed : signature? data =
      some (serverSignature primitives agreement.saltedPassword agreement.authMessage)) :
    client.verify primitives data = .ok () := by
  unfold signature? at signed
  unfold verify
  cases decoded : Utf8.decode data with
  | error fault =>
      rw [decoded] at signed
      cases signed
  | ok text =>
      rw [decoded] at signed
      dsimp only at signed ⊢
      split at signed
      · rename_i written spelled
        cases read : Base64.decode (Utf8.encode (String.ofList (Blank.trimEnd written))) with
        | error fault =>
            rw [read] at signed
            cases signed
        | ok signature =>
            rw [read] at signed
            simp only [spelled, read, agreed]
            exact if_pos (Option.some.inj signed)
      · cases signed

/-- Answering sets what was agreed on, and nothing else of the client. -/
theorem answer_ok (accepted : client.answer sha256 data = .ok (response, answered)) :
    ∃ agreement, answered = { client with agreement := some agreement } := by
  unfold answer at accepted
  split at accepted
  · cases accepted
  · split at accepted
    · cases accepted
    · split at accepted
      · cases accepted
      · cases accepted
        exact ⟨_, rfl⟩

/-- What was agreed on before does not matter to an answer. -/
theorem answer_agreement (client : Client) (agreement : Option Agreement) (data : Bytes) :
    ({ client with agreement } : Client).answer sha256 data = client.answer sha256 data :=
  rfl

end Client

end Scram

namespace Conn

variable {config : Config} {nonces : Nat → String} {stage next last : Stage}
  {message : BackendMessage} {messages : List BackendMessage} {answer : Option FrontendMessage}
  {answers replies : List FrontendMessage} {heard : List BackendMessage} {start : Bytes}
  {conn after : Conn}

/-! ### Openings that succeed, on any link -/

private theorem reply_not_established (message : FrontendMessage) (stage : Stage) (conn : Conn) :
    (conn.reply message stage).1 ≠ .established := by
  unfold reply
  split
  · exact nofun
  · split
    · exact nofun
    · exact nofun

private theorem speak_not_established (answer : Option FrontendMessage) (stage : Stage)
    (conn : Conn) :
    (conn.speak answer stage).1 ≠ .established := by
  cases answer with
  | none => exact nofun
  | some reply => exact reply_not_established reply stage conn

/-- An opening goes on in no other way than a conversation. -/
theorem advance_next (attends : Attends start answers heard conn)
    (advanced : advance config nonces stage message conn = (.next next, after)) :
    ∃ answer, Continues config nonces stage message answer next ∧
      (∀ reply ∈ answer, reply.fits = true) ∧
      Attends start (answers ++ answer.toList) (heard ++ [message]) after := by
  rcases continues_or_objects config nonces stage message with
    ⟨answer, reached, continues⟩ | ⟨settling, indicator, ready⟩ | ⟨error, objects⟩
  · rw [continues.advance] at advanced
    obtain ⟨same, fits, spoken⟩ := (attends.note message).speak continues advanced
    subst same
    exact ⟨answer, continues, fits, spoken⟩
  · subst settling ready
    cases advanced
  · rw [objects.advance] at advanced
    cases advanced

private theorem advance_established
    (advanced : advance config nonces stage message conn = (.established, after)) :
    stage = .settling ∧
      ∃ indicator, message = .readyForQuery indicator ∧ after = conn.setStatus indicator := by
  rcases continues_or_objects config nonces stage message with
    ⟨answer, reached, continues⟩ | ⟨settling, indicator, ready⟩ | ⟨error, objects⟩
  · rw [continues.advance] at advanced
    have impossible := speak_not_established answer reached (conn.note message)
    rw [advanced] at impossible
    exact absurd rfl impossible
  · subst settling ready
    cases advanced
    exact ⟨rfl, indicator, rfl, rfl⟩
  · rw [objects.advance] at advanced
    cases advanced

private theorem converse_conversation {inbox : Bytes} {arrivals : List Arrival}
    (attends : Attends start replies heard conn)
    (established : converse config nonces inbox arrivals stage conn = (.established, after)) :
    ∃ messages answers indicator,
      Conversation config nonces stage messages answers .settling ∧
      Says (messages ++ [.readyForQuery indicator]) (inbox ++ Link.carried arrivals)
        after.unread ∧
      Attends start (replies ++ answers) (heard ++ (messages ++ [.readyForQuery indicator]))
        after ∧
      after.lastStatus = .ofIndicator indicator := by
  fun_induction converse config nonces inbox arrivals stage conn generalizing replies heard with
  | case1 => cases established
  | case2 => cases established
  | case3 => cases established
  | case4 => cases established
  | case5 => cases established
  | case6 inbox arrivals stage conn frame rest later received message decoded last advanced =>
      cases established
      obtain ⟨settling, indicator, ready, same⟩ := advance_established advanced
      obtain ⟨whole, fits⟩ := awaitFrame_carried received
      subst settling ready same
      refine ⟨[], [], indicator, .nothing, ?_, ?_, rfl⟩
      · rw [whole]
        exact .more fits decoded .nothing
      · rw [List.append_nil]
        exact attends.ready indicator rest later
  | case7 inbox arrivals stage conn frame rest later received message decoded next kept advanced
      shorter ih =>
      obtain ⟨answer, continues, answerFits, spoken⟩ := advance_next attends advanced
      obtain ⟨whole, fits⟩ := awaitFrame_carried received
      obtain ⟨messages, answers, indicator, conversation, spells, attended, status⟩ :=
        ih spoken established
      refine ⟨message :: messages, answer.toList ++ answers, indicator,
        .more continues answerFits conversation, ?_, ?_, status⟩
      · rw [whole]
        exact .more fits decoded spells
      · rw [List.append_assoc, List.append_assoc, List.singleton_append] at attended
        exact attended

/-- An opening that succeeds has gone through a login, whatever its link was like. -/
theorem startup_attends {link : Link}
    (established : startup config nonces { link } = (.established, after)) :
    ∃ login : Login config nonces,
      Says login.script (Link.carried link.arrivals) after.unread ∧
      Attends (link.delivered ++ (startupMessage config).bytes) login.answers login.script after ∧
      after.lastStatus = .ofIndicator login.indicator := by
  unfold startup at established
  rcases (startupMessage config).append_cases [] with appended | ⟨defect, content, appended, _⟩
  · rw [appended] at established
    dsimp only at established
    split at established
    · cases established
    · rename_i begun flushed
      have written := flushFully_ok flushed
      have attends : Attends (link.delivered ++ (startupMessage config).bytes) [] [] begun := by
        subst written
        exact ⟨⟨rfl, rfl, rfl, rfl, rfl, rfl⟩, rfl, (List.append_nil _).symm, fun _ => rfl,
          List.nodup_nil, rfl⟩
      obtain ⟨messages, answers, indicator, conversation, spells, attended, status⟩ :=
        converse_conversation attends established
      obtain ⟨login, spoken, answered, same⟩ := conversation.exists_login indicator
      have script : login.script = messages ++ [.readyForQuery indicator] := by
        rw [Login.script, spoken, same]
      refine ⟨login, ?_, ?_, ?_⟩
      · rw [script]
        subst written
        exact spells
      · rw [script, answered]
        exact attended
      · rw [same]
        exact status
  · rw [appended] at established
    cases established

theorem startup_login {link : Link}
    (established : startup config nonces { link } = (.established, after)) :
    ∃ login : Login config nonces,
      Says login.script (Link.carried link.arrivals) after.unread ∧
      after.link.delivered =
        link.delivered ++ (startupMessage config).bytes ++
          FrontendMessage.stream login.answers := by
  obtain ⟨login, spells, attends, _⟩ := startup_attends established
  exact ⟨login, spells, attends.delivered⟩

/-! ### Exchanges -/

def isSasl : BackendMessage → Bool
  | .authentication (.sasl _) => true
  | _ => false

/-- In an exchange that was begun in this way the client has answered a first message of
the server, and a later message carries the signature of what they have agreed on. -/
def Proves (client : Scram.Client) (messages : List BackendMessage) : Prop :=
  ∃ before data between final after response answered agreement,
    messages = before ++ .authentication (.saslContinue data) ::
      (between ++ .authentication (.saslFinal final) :: after) ∧
    client.answer Scram.sha256 data = .ok (response, answered) ∧
    answered.agreement = some agreement ∧ Scram.Signs agreement final

private theorem Proves.cons {client : Scram.Client} (proves : Proves client messages)
    (message : BackendMessage) : Proves client (message :: messages) := by
  obtain ⟨before, data, between, final, after, response, answered, agreement, whole, rest⟩ :=
    proves
  subst whole
  exact ⟨message :: before, data, between, final, after, response, answered, agreement, rfl, rest⟩

private theorem Proves.final_mem {client : Scram.Client} (proves : Proves client messages) :
    ∃ data, .authentication (.saslFinal data) ∈ messages := by
  obtain ⟨before, data, between, final, after, _, _, _, whole, _⟩ := proves
  subst whole
  exact ⟨final, by simp⟩

def Signed (client : Scram.Client) (messages : List BackendMessage) : Prop :=
  ∃ agreement data, client.agreement = some agreement ∧ Scram.Signs agreement data ∧
    .authentication (.saslFinal data) ∈ messages

private theorem Signed.cons {client : Scram.Client} (signed : Signed client messages)
    (message : BackendMessage) : Signed client (message :: messages) := by
  obtain ⟨agreement, data, agreed, signs, member⟩ := signed
  exact ⟨agreement, data, agreed, signs, List.mem_cons_of_mem _ member⟩

/-- What is signed after a first message was answered is what the answer has agreed on, or
what the answer to a later one has. -/
theorem Proves.of_answer {client answered : Scram.Client} {first response : Bytes}
    (accepted : client.answer Scram.sha256 first = .ok (response, answered))
    (later : Signed answered messages ∨ Proves answered messages) :
    Proves client (.authentication (.saslContinue first) :: messages) := by
  rcases later with ⟨agreement, last, agreed, signs, member⟩ | proves
  · obtain ⟨between, after, split⟩ := List.append_of_mem member
    subst split
    exact ⟨[], first, between, last, after, response, answered, agreement, rfl, accepted, agreed,
      signs⟩
  · obtain ⟨agreement, changed⟩ := Scram.Client.answer_ok accepted
    obtain ⟨before, data, between, final, after, reply, again, agreement', whole, answers, rest⟩ :=
      proves.cons (.authentication (.saslContinue first))
    subst changed
    rw [Scram.Client.answer_agreement] at answers
    exact ⟨before, data, between, final, after, reply, again, agreement', whole, answers, rest⟩

/-- A last message that is let pass is signed for what was agreed on before these messages,
or for what is agreed on in them. -/
theorem Conversation.final_signed {drawn later : Nat} {client : Scram.Client}
    {exchange : Option Scram.Client} {data : Bytes}
    (conversation : Conversation config nonces (.authenticating drawn (some client)) messages
      answers (.authenticating later exchange))
    (same : ∀ message ∈ messages, isSasl message = false)
    (final : .authentication (.saslFinal data) ∈ messages) :
    Signed client messages ∨ Proves client messages := by
  generalize begun : Stage.authenticating drawn (some client) = stage at conversation
  generalize ended : Stage.authenticating later exchange = last at conversation
  induction conversation generalizing drawn client with
  | nothing => cases final
  | @more stage next last message answer messages answers continues fits others ih =>
      subst begun ended
      have sameExchange : ∀ other ∈ messages, isSasl other = false :=
        fun other member => same other (List.mem_cons_of_mem _ member)
      -- A message that leaves the exchange as it is: what follows it decides.
      have passed (ordinary : ∀ data, message ≠ .authentication (.saslFinal data))
          (unchanged : next = .authenticating drawn (some client)) :
          Signed client (message :: messages) ∨ Proves client (message :: messages) := by
        have finalLater := (List.mem_cons.mp final).resolve_left (ordinary data ∘ Eq.symm)
        rcases ih sameExchange finalLater unchanged.symm rfl with signed | proves
        · exact .inl (signed.cons message)
        · exact .inr (proves.cons message)
      cases continues with
      | notice read => exact passed nofun rfl
      | cleartextPassword => exact passed nofun rfl
      | md5Password salt => exact passed nofun rfl
      | sasl listed offered => cases same _ List.mem_cons_self
      | saslContinue accepted =>
          have finalLater := (List.mem_cons.mp final).resolve_left nofun
          exact .inr (.of_answer accepted (ih sameExchange finalLater rfl rfl))
      | saslFinal accepted =>
          obtain ⟨agreement, agreed, signs⟩ := Scram.Client.verify_ok accepted
          exact .inl ⟨agreement, _, agreed, signs, List.mem_cons_self⟩
      | authenticated =>
          obtain ⟨impossible, _⟩ := others.of_settling
          cases impossible

/-- As many nonces are drawn as there are exchanges begun. -/
theorem Conversation.drawn_eq {drawn later : Nat} {exchange exchange' : Option Scram.Client}
    (conversation : Conversation config nonces (.authenticating drawn exchange) messages answers
      (.authenticating later exchange')) : later = drawn + messages.countP isSasl := by
  generalize begun : Stage.authenticating drawn exchange = stage at conversation
  generalize ended : Stage.authenticating later exchange' = last at conversation
  induction conversation generalizing drawn exchange with
  | nothing =>
      subst begun
      cases ended
      rfl
  | @more stage next last message answer messages answers continues fits others ih =>
      subst begun ended
      rw [List.countP_cons]
      cases continues with
      | sasl listed offered =>
          have counted := ih rfl rfl
          simp only [isSasl, if_true]
          omega
      | authenticated =>
          obtain ⟨impossible, _⟩ := others.of_settling
          cases impossible
      | _ => exact ih rfl rfl

/-- A conversation falls apart wherever its messages are cut. -/
theorem Conversation.split {others : List BackendMessage}
    (conversation : Conversation config nonces stage (messages ++ others) answers last) :
    ∃ between first second, Conversation config nonces stage messages first between ∧
      Conversation config nonces between others second last ∧ answers = first ++ second := by
  induction messages generalizing stage answers with
  | nil => exact ⟨stage, [], answers, .nothing, conversation, rfl⟩
  | cons message messages ih =>
      cases conversation with
      | @more _ next _ _ answer _ answers continues fits further =>
          obtain ⟨between, first, second, front, back, whole⟩ := ih further
          subst whole
          exact ⟨between, answer.toList ++ first, second, .more continues fits front, back,
            (List.append_assoc _ _ _).symm⟩

private theorem Stage.of_conversation {drawn : Nat} {exchange : Option Scram.Client}
    (conversation : Conversation config nonces stage messages answers
      (.authenticating drawn exchange)) : ∃ begun client, stage = .authenticating begun client := by
  cases stage with
  | authenticating begun client => exact ⟨begun, client, rfl⟩
  | settling =>
      obtain ⟨impossible, _⟩ := conversation.of_settling
      cases impossible

/-- The exchange that was begun last is proven exactly if the server has sent a last
message in it. -/
theorem Login.proves_iff_final (login : Login config nonces) {before rest : List BackendMessage}
    {mechanisms : Bytes}
    (begun : login.requests = before ++ .authentication (.sasl mechanisms) :: rest)
    (same : ∀ message ∈ rest, isSasl message = false) :
    Proves { password := config.password, nonce := nonces (before.countP isSasl) } rest ↔
      ∃ data, .authentication (.saslFinal data) ∈ rest := by
  constructor
  · exact Proves.final_mem
  · rintro ⟨data, final⟩
    have met := login.met
    rw [begun] at met
    obtain ⟨between, first, second, front, back, _⟩ := met.split
    obtain ⟨drawn, exchange, authenticating⟩ := Stage.of_conversation back
    subst authenticating
    have drawnEq := front.drawn_eq
    cases back with
    | more continues fits others =>
        cases continues with
        | sasl listed offered =>
            rw [Nat.zero_add] at drawnEq
            subst drawnEq
            rcases others.final_signed same final with ⟨agreement, _, agreed, _⟩ | proves
            · cases agreed
            · exact proves

/-- An opening that succeeds has gone through a login, and if the client has begun an
exchange in it, the server has proved in it that it knows the password exactly if it has
sent a last message. One that sends none is let in as well. -/
theorem startup_proves_iff_final {link : Link}
    (established : startup config nonces { link } = (.established, after)) :
    ∃ login : Login config nonces,
      Says login.script (Link.carried link.arrivals) after.unread ∧
      after.link.delivered =
        link.delivered ++ (startupMessage config).bytes ++
          FrontendMessage.stream login.answers ∧
      ∀ before mechanisms rest,
        login.requests = before ++ .authentication (.sasl mechanisms) :: rest →
        (∀ message ∈ rest, isSasl message = false) →
          (Proves { password := config.password, nonce := nonces (before.countP isSasl) } rest ↔
            ∃ data, .authentication (.saslFinal data) ∈ rest) := by
  obtain ⟨login, spells, delivered⟩ := startup_login established
  refine ⟨login, spells, delivered, ?_⟩
  intro before mechanisms rest begun same
  exact login.proves_iff_final begun same

/-- A server that asks for an exchange, and is content when it is begun. -/
def hasty : List BackendMessage :=
  [.authentication (.sasl (Bytes.endedByZero (Utf8.encode Scram.mechanism) ++ [0])),
    .authentication .ok, .readyForQuery 'I'.toUInt8]

def hastyLink : Link :=
  { arrivals := [.data (Frame.stream (hasty.map BackendMessage.frame))] }

/-- It has not proved a thing, and is believed. -/
theorem startup_not_proven :
    let opened := startup {} (fun _ => "nonce") { link := hastyLink }
    let client : Scram.Client := { password := Config.password {}, nonce := "nonce" }
    opened.1 = .established ∧
      opened.2.link.delivered = (startupMessage {}).bytes ++
        FrontendMessage.stream [.saslInitialResponse Scram.mechanism client.first] ∧
      ¬Proves client hasty := by
  refine ⟨by decide +kernel, by decide +kernel, ?_⟩
  intro proves
  obtain ⟨data, final⟩ := proves.final_mem
  revert final
  simp [hasty]

theorem startup_proves_iff_final_hasty :
    startup {} (fun _ => "nonce") { link := hastyLink } =
        (.established, (startup {} (fun _ => "nonce") { link := hastyLink }).2) ∧
      ∃ login : Login {} (fun _ => "nonce"),
        Says login.script (Link.carried hastyLink.arrivals)
          (startup {} (fun _ => "nonce") { link := hastyLink }).2.unread := by
  have established : startup {} (fun _ => "nonce") { link := hastyLink } =
      (.established, (startup {} (fun _ => "nonce") { link := hastyLink }).2) :=
    Prod.ext (by decide +kernel) rfl
  obtain ⟨login, spells, _⟩ := startup_proves_iff_final established
  exact ⟨established, login, spells⟩

end Conn

end PgClient

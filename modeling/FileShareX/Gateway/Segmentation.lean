import FileShareX.Gateway.OnlineList
import FileShareX.Gateway.UserSessions

/-!
# Responses in pieces

The payload may arrive in any pieces, the header may not: a response whose header is
not handed over by the first `recv` is given up.
-/

namespace FileShareX.Gateway

open Wire

variable {α : Type} {connection : Connection} {delivery : Delivery}

def Connection.Delivers (connection : Connection) : Prop :=
  ∀ call, connection.recv call = .ok ()

/-- The first `recv` is given as many bytes as it asks for. -/
def WholeHeader (delivery : Delivery) : Prop := HEADER_SIZE ≤ delivery.most 0

instance (delivery : Delivery) : Decidable (WholeHeader delivery) :=
  inferInstanceAs (Decidable (_ ≤ _))

/-- The response that the stream holds, whatever pieces it comes in. -/
def response (stream : Bytes) (expected : Nat) (unexpected : Nat → String)
    (parse : Bytes → Py α) : Py α :=
  if stream.length < HEADER_SIZE then .error (.CoreProtocolError "Incomplete response header")
  else do
    let (msg_type, payload_len) ← _parse_header (stream.take HEADER_SIZE)
    if msg_type ≠ expected then .error (.CoreProtocolError (unexpected msg_type))
    else if (stream.drop HEADER_SIZE).length < payload_len then
      .error (.CoreProtocolError "Incomplete payload")
    else parse ((stream.drop HEADER_SIZE).take payload_len)

theorem recv_payload_eq (delivers : connection.Delivers) (payload_len : Nat) (payload : Bytes)
    (incoming : Incoming) :
    recv_payload connection delivery payload_len payload incoming =
      match recvUpTo delivery payload_len payload incoming with
      | some payload => .ok payload
      | none => .error (.CoreProtocolError "Incomplete payload") := by
  fun_induction recvUpTo delivery payload_len payload incoming with
  | case1 payload incoming missing chunk empty =>
    rw [recv_payload, dif_pos missing, delivers]
    exact if_pos empty
  | case2 payload incoming missing chunk some ih =>
    rw [recv_payload, dif_pos missing, delivers]
    exact (if_neg some).trans ih
  | case3 payload incoming enough => rw [recv_payload, dif_neg enough]

theorem read_response_eq (delivers : connection.Delivers) (expected : Nat)
    (unexpected : Nat → String) (parse : Bytes → Py α) :
    read_response connection delivery expected unexpected parse =
      if WholeHeader delivery then response connection.stream expected unexpected parse
      else .error (.CoreProtocolError "Incomplete response header") := by
  have first : connection.receive delivery HEADER_SIZE ⟨connection.stream, 0⟩ =
      .ok (recv delivery HEADER_SIZE ⟨connection.stream, 0⟩) := by
    rw [Connection.receive, delivers]
    rfl
  rw [read_response, first, py_ok_bind]
  by_cases whole : WholeHeader delivery
  · have len : min HEADER_SIZE (delivery.most 0) = HEADER_SIZE := Nat.min_eq_left whole
    simp only [recv, len, if_pos whole, response, List.length_take]
    by_cases short : connection.stream.length < HEADER_SIZE
    · rw [if_pos short, if_pos (by omega)]
    · rw [if_neg short, if_neg (by omega)]
      congr 1
      funext header
      obtain ⟨msg_type, payload_len⟩ := header
      dsimp only
      split
      · rfl
      · rw [recv_payload_eq delivers, recvUpTo_eq, List.length_nil, Nat.zero_add, Nat.sub_zero,
          List.nil_append]
        by_cases enough : payload_len ≤ (connection.stream.drop HEADER_SIZE).length
        · rw [if_pos enough, if_neg (Nat.not_lt.mpr enough), py_ok_bind]
        · rw [if_neg enough, if_pos (Nat.lt_of_not_le enough)]
          rfl
  · rw [if_neg whole]
    have len : (recv delivery HEADER_SIZE ⟨connection.stream, 0⟩).1.length < HEADER_SIZE := by
      have bound : min HEADER_SIZE (delivery.most 0) < HEADER_SIZE := by
        rw [WholeHeader] at whole
        omega
      rw [recv, List.length_take]
      dsimp only
      omega
    dsimp only
    rw [if_pos len]

/-! ### Two deliveries of one stream -/

def PyError.kind : PyError → PyError
  | CoreConnectionError _ => CoreConnectionError ""
  | CoreProtocolError _ => CoreProtocolError ""
  | CoreClientError _ => CoreClientError ""
  | ValueError _ => ValueError ""
  | IndexError => IndexError
  | structError _ => structError ""
  | timeout => timeout
  | socketError _ => socketError ""

/-- The same result, or the same kind of error. -/
def SameOutcome (first second : Py α) : Prop :=
  first.mapError PyError.kind = second.mapError PyError.kind

instance [DecidableEq α] (first second : Py α) : Decidable (SameOutcome first second) :=
  inferInstanceAs (Decidable (_ = _))

/-- The request goes out, and the stream begins with a response of the expected type that
the parser makes `value` of. -/
structure Answers (connection : Connection) (request : Py Bytes) (expected : Nat)
    (parse : Bytes → Py α) (value : α) : Prop where
  sent : send_request connection request = .ok ()
  header : HEADER_SIZE ≤ connection.stream.length
  complete : ∃ payload_len,
    _parse_header (connection.stream.take HEADER_SIZE) = .ok (expected, payload_len) ∧
      payload_len ≤ (connection.stream.drop HEADER_SIZE).length ∧
      parse ((connection.stream.drop HEADER_SIZE).take payload_len) = .ok value

/-- On any two deliveries the reader comes to the same outcome exactly if they agree on
handing over the whole header first, or no value answers; a value that answers is
returned exactly if the header comes whole. -/
def SeesHeaderOnly (reader : Delivery → Py α) (answers : α → Prop) : Prop :=
  ∀ first second, (SameOutcome (reader first) (reader second) ↔
      ((∃ value, answers value) → (WholeHeader first ↔ WholeHeader second))) ∧
    ∀ value, answers value → (reader first = .ok value ↔ WholeHeader first)

section Exchange

variable {request : Py Bytes} {expected : Nat} {unexpected : Nat → String} {parse : Bytes → Py α}
  {value : α}

theorem parse_header_errors {data : Bytes} (width : data.length = HEADER_SIZE) :
    ProtocolErrorsOnly (_parse_header data) := by
  unfold _parse_header
  rw [if_neg (by omega), if_neg (not_not.mpr width)]
  dsimp only
  split
  · exact .raised _
  · split
    · exact .raised _
    · exact .ok _

theorem response_errors (errors : ∀ payload, ProtocolErrorsOnly (parse payload)) (stream : Bytes) :
    ProtocolErrorsOnly (response stream expected unexpected parse) := by
  unfold response
  split
  · exact .raised _
  · next long =>
    refine .bind (parse_header_errors (by rw [List.length_take]; omega)) fun (msg_type, payload_len) => ?_
    dsimp only
    split
    · exact .raised _
    · split
      · exact .raised _
      · exact errors _

theorem response_eq_ok (stream : Bytes) :
    response stream expected unexpected parse = .ok value ↔ HEADER_SIZE ≤ stream.length ∧
      ∃ payload_len, _parse_header (stream.take HEADER_SIZE) = .ok (expected, payload_len) ∧
        payload_len ≤ (stream.drop HEADER_SIZE).length ∧
        parse ((stream.drop HEADER_SIZE).take payload_len) = .ok value := by
  unfold response
  by_cases short : stream.length < HEADER_SIZE
  · rw [if_pos short]
    exact iff_of_false nofun fun complete => absurd complete.1 (Nat.not_le.mpr short)
  · rw [if_neg short, and_iff_right (Nat.le_of_not_lt short)]
    cases _parse_header (stream.take HEADER_SIZE) with
    | error error => exact iff_of_false nofun fun ⟨_, read, _⟩ => nomatch read
    | ok header =>
      obtain ⟨msg_type, payload_len⟩ := header
      rw [py_ok_bind]
      dsimp only
      by_cases typed : msg_type = expected
      · subst typed
        rw [if_neg (not_not.mpr rfl)]
        by_cases enough : (stream.drop HEADER_SIZE).length < payload_len
        · rw [if_pos enough]
          refine iff_of_false nofun ?_
          rintro ⟨_, ⟨⟩, fits, -⟩
          omega
        · rw [if_neg enough]
          constructor
          · exact fun parsed => ⟨payload_len, rfl, Nat.le_of_not_lt enough, parsed⟩
          · rintro ⟨_, ⟨⟩, -, parsed⟩
            exact parsed
      · rw [if_pos typed]
        refine iff_of_false nofun ?_
        rintro ⟨_, ⟨⟩, -⟩
        exact typed rfl

theorem exchange_eq (delivers : connection.Delivers)
    (sent : send_request connection request = .ok ()) :
    exchange connection delivery request expected unexpected parse =
      if WholeHeader delivery then response connection.stream expected unexpected parse
      else .error (.CoreProtocolError "Incomplete response header") := by
  rw [exchange, sent, py_ok_bind, read_response_eq delivers]

theorem exchange_accepts (delivers : connection.Delivers) {error : PyError → PyError}
    (answers : Answers connection request expected parse value) :
    (exchange connection delivery request expected unexpected parse).mapError error = .ok value ↔
      WholeHeader delivery := by
  have whole : response connection.stream expected unexpected parse = .ok value :=
    (response_eq_ok _).mpr ⟨answers.header, answers.complete⟩
  rw [exchange_eq delivers answers.sent, whole]
  split
  · exact iff_of_true rfl ‹_›
  · exact iff_of_false nofun ‹_›

/-- Unless the response is complete, every delivery leads to the same error or to a
protocol error. -/
theorem exchange_cases (delivers : connection.Delivers)
    (errors : ∀ payload, ProtocolErrorsOnly (parse payload)) :
    (∃ value, Answers connection request expected parse value) ∨
      (¬ ∃ value, Answers connection request expected parse value) ∧
        ((∃ error, ∀ delivery,
            exchange connection delivery request expected unexpected parse = .error error) ∨
          ∀ delivery, ∃ text, exchange connection delivery request expected unexpected parse =
            .error (.CoreProtocolError text)) := by
  cases sent : send_request connection request with
  | error error =>
    refine .inr ⟨fun ⟨_, answers⟩ => ?_, .inl ⟨error, fun delivery => ?_⟩⟩
    · exact nomatch sent.symm.trans answers.sent
    · rw [exchange, sent]
      rfl
  | ok done =>
    cases whole : response connection.stream expected unexpected parse with
    | ok value =>
      obtain ⟨header, complete⟩ := (response_eq_ok _).mp whole
      exact .inl ⟨value, sent, header, complete⟩
    | error error =>
      obtain ⟨text, rfl⟩ := response_errors errors _ error whole
      refine .inr ⟨fun ⟨value, answers⟩ => ?_, .inr fun delivery => ?_⟩
      · exact nomatch whole.symm.trans ((response_eq_ok _).mpr ⟨answers.header, answers.complete⟩)
      · rw [exchange_eq delivers sent, whole]
        split
        · exact ⟨text, rfl⟩
        · exact ⟨_, rfl⟩

theorem exchange_seesHeaderOnly (delivers : connection.Delivers)
    (errors : ∀ payload, ProtocolErrorsOnly (parse payload)) {error : PyError → PyError}
    (keeps : ∀ text, error (.CoreProtocolError text) = .CoreProtocolError text) :
    SeesHeaderOnly (fun delivery =>
        (exchange connection delivery request expected unexpected parse).mapError error)
      (Answers connection request expected parse) := by
  refine fun first second => ⟨?_, fun value answers => exchange_accepts delivers answers⟩
  dsimp only
  obtain ⟨value, answers⟩ | ⟨none, ⟨raised, same⟩ | protocol⟩ :=
    @exchange_cases _ connection request expected unexpected parse delivers errors
  · have whole : response connection.stream expected unexpected parse = .ok value :=
      (response_eq_ok _).mpr ⟨answers.header, answers.complete⟩
    rw [exchange_eq delivers answers.sent, exchange_eq delivers answers.sent, whole]
    refine Iff.trans ?_ ⟨fun same _ => same, fun imp => imp ⟨value, answers⟩⟩
    by_cases one : WholeHeader first <;> by_cases two : WholeHeader second <;>
      simp [one, two, SameOutcome, Except.mapError]
  · refine iff_of_true ?_ fun some => absurd some none
    rw [same, same]
    exact rfl
  · refine iff_of_true ?_ fun some => absurd some none
    obtain ⟨text₁, one⟩ := protocol first
    obtain ⟨text₂, two⟩ := protocol second
    rw [one, two]
    simp only [SameOutcome, Except.mapError, keeps, PyError.kind]

end Exchange

/-! ### The four readers -/

def LoggedIn (connection : Connection) (username password : String) : Prop :=
  ∃ result, Answers connection
    (auth_request MSG_TYPE_LOGIN_REQ (create_session_payload username password))
    MSG_TYPE_LOGIN_RESP _parse_login_resp result ∧ result.ok = true

theorem parse_online_list_resp_errors (payload : Bytes) :
    ProtocolErrorsOnly (_parse_online_list_resp payload) := by
  unfold _parse_online_list_resp online_list_names
  split
  · exact .ok _
  · next long =>
    refine .bind (.bind (.unpack (by rw [slice_length (by omega)])) fun count => ?_) fun _ => .ok _
    rw [onlineListFrom_eq]
    exact .ok _

section Sessions

open UserSessionManager

variable {manager : UserSessionManager} {username password : String}

theorem establish_refused
    (refused : ∀ result, session_login connection delivery username password = .ok result →
      result.ok = false) :
    manager.establish username password connection delivery =
      match connection.socket with
      | .error _ => (manager, none)
      | .ok () => ({ manager with opened := manager.opened + 1 }.close manager.opened, none) := by
  unfold establish
  cases connection.socket with
  | error error => rfl
  | ok done =>
    dsimp only
    cases login : session_login connection delivery username password with
    | error error => rfl
    | ok result =>
      dsimp only
      rw [refused result login]
      rfl

theorem establish_accepted {result : LoginResult} (socket : connection.socket = .ok ())
    (login : session_login connection delivery username password = .ok result)
    (ok : result.ok = true) :
    (manager.establish username password connection delivery).2 = some manager.objects.length := by
  unfold establish
  rw [socket]
  dsimp only
  rw [login]
  dsimp only
  rw [if_pos ok]

theorem socket_of_sent {request : Py Bytes} (sent : send_request connection request = .ok ()) :
    connection.socket = .ok () := by
  unfold send_request at sent
  cases socket : connection.socket with
  | error error =>
    rw [socket] at sent
    cases sent
  | ok done => rfl

theorem session_login_eq (delivers : connection.Delivers) {result : LoginResult}
    (answers : Answers connection
      (auth_request MSG_TYPE_LOGIN_REQ (create_session_payload username password))
      MSG_TYPE_LOGIN_RESP _parse_login_resp result) (delivery : Delivery) :
    session_login connection delivery username password =
      if WholeHeader delivery then .ok result
      else .error (.CoreProtocolError "Incomplete response header") := by
  have whole : response connection.stream MSG_TYPE_LOGIN_RESP unexpectedType _parse_login_resp =
      .ok result := (response_eq_ok _).mpr ⟨answers.header, answers.complete⟩
  rw [session_login, exchange_eq delivers answers.sent, whole]

theorem establish_isSome (delivers : connection.Delivers)
    (logged : LoggedIn connection username password) :
    (manager.establish username password connection delivery).2.isSome ↔ WholeHeader delivery := by
  obtain ⟨result, answers, ok⟩ := logged
  have login := session_login_eq delivers answers delivery
  by_cases whole : WholeHeader delivery
  · rw [if_pos whole] at login
    rw [establish_accepted (socket_of_sent answers.sent) login ok]
    exact iff_of_true rfl whole
  · rw [if_neg whole] at login
    rw [establish_refused fun result found => nomatch login.symm.trans found]
    refine iff_of_false ?_ whole
    rw [socket_of_sent answers.sent]
    exact Bool.false_ne_true

theorem session_login_refused (delivers : connection.Delivers)
    (refused : ¬ LoggedIn connection username password) (delivery : Delivery) (result : LoginResult)
    (login : session_login connection delivery username password = .ok result) :
    result.ok = false := by
  obtain ⟨value, answers⟩ | ⟨-, ⟨raised, same⟩ | protocol⟩ :=
    @exchange_cases _ _ _ _ unexpectedType _ delivers parse_login_resp_errors
  · rw [session_login_eq delivers answers] at login
    split at login
    · cases login
      exact Bool.eq_false_iff.mpr fun ok => refused ⟨_, answers, ok⟩
    · cases login
  · rw [session_login, same] at login
    cases login
  · obtain ⟨text, raised⟩ := protocol delivery
    rw [session_login, raised] at login
    cases login

theorem establish_congr {first second : Delivery}
    (same : session_login connection first username password =
      session_login connection second username password) :
    manager.establish username password connection first =
      manager.establish username password connection second := by
  unfold establish
  rw [same]

theorem establish_eq_iff (delivers : connection.Delivers) (first second : Delivery) :
    manager.establish username password connection first =
        manager.establish username password connection second ↔
      (LoggedIn connection username password → (WholeHeader first ↔ WholeHeader second)) := by
  constructor
  · intro same logged
    rw [← establish_isSome delivers logged, ← establish_isSome delivers logged, same]
  · intro imp
    by_cases logged : LoggedIn connection username password
    · have agree := imp logged
      obtain ⟨result, answers, -⟩ := logged
      refine establish_congr ?_
      rw [session_login_eq delivers answers, session_login_eq delivers answers]
      exact if_congr agree rfl rfl
    · rw [establish_refused (session_login_refused delivers logged first),
        establish_refused (session_login_refused delivers logged second)]

end Sessions

/-- Each of the four readers depends on its delivery through the first twelve bytes alone. -/
theorem segmentation_iff (delivers : connection.Delivers) :
    (∀ settings, SeesHeaderOnly (get_online_users settings connection)
      (Answers connection (make_header MSG_TYPE_ONLINE_LIST_REQ 0) MSG_TYPE_ONLINE_LIST_RESP
        _parse_online_list_resp)) ∧
    (∀ username email password,
      SeesHeaderOnly (fun delivery => register_user connection delivery username email password)
        (Answers connection
          (auth_request MSG_TYPE_REGISTER_REQ (register_user_payload username email password))
          MSG_TYPE_REGISTER_RESP _parse_register_resp)) ∧
    (∀ username password,
      SeesHeaderOnly (fun delivery => login_user connection delivery username password)
        (Answers connection
          (auth_request MSG_TYPE_LOGIN_REQ (login_user_payload username password))
          MSG_TYPE_LOGIN_RESP _parse_login_resp)) ∧
    ∀ (manager : UserSessionManager) (username password : String) (first second : Delivery),
      (manager.create_session username password connection first =
          manager.create_session username password connection second ↔
        (manager.Opens username → LoggedIn connection username password →
          (WholeHeader first ↔ WholeHeader second))) ∧
      (manager.Opens username → LoggedIn connection username password →
        ((manager.create_session username password connection first).2.isSome ↔
          WholeHeader first)) := by
  refine ⟨fun settings => exchange_seesHeaderOnly delivers parse_online_list_resp_errors fun _ => rfl,
    fun _ _ _ => exchange_seesHeaderOnly delivers parse_register_resp_errors fun _ => rfl,
    fun _ _ => exchange_seesHeaderOnly delivers parse_login_resp_errors fun _ => rfl,
    fun manager username password first second => ?_⟩
  obtain ⟨absent, same⟩ | ⟨dead, same⟩ | ⟨found, answer, same⟩ := manager.create_session_cases username
  · rw [same, same]
    exact ⟨(establish_eq_iff delivers first second).trans
      ⟨fun imp _ => imp, fun imp => imp (.inl absent)⟩, fun _ => establish_isSome delivers⟩
  · rw [same, same]
    exact ⟨(establish_eq_iff delivers first second).trans
      ⟨fun imp _ => imp, fun imp => imp (.inr dead)⟩, fun _ => establish_isSome delivers⟩
  · rw [same, same]
    exact ⟨iff_of_true rfl fun opens => absurd opens found, fun opens => absurd opens found⟩

/-! ### A response cut inside its header -/

def answering : Connection where
  socket := .ok ()
  connect := .ok ()
  sendall := fun _ => .ok ()
  stream := [0x46, 0x53, 0x58, 0x31, 1, 11, 0, 0, 0, 5, 0, 0, 1, 0, 2, 0x6F, 0x6B]

/-- The same response is accepted with its header in one piece and refused byte by byte. -/
theorem segmentation_split_header :
    ¬ SameOutcome (register_user answering (.upTo 12 (by decide)) "alice" "a@b.c" "secret")
      (register_user answering (.upTo 1 (by decide)) "alice" "a@b.c" "secret") := by
  decide +kernel

theorem segmentation_iff_answering :
    register_user answering (.upTo 12 (by decide)) "alice" "a@b.c" "secret" = .ok ⟨true, "ok"⟩ ↔
      WholeHeader (.upTo 12 (by decide)) :=
  ((segmentation_iff fun _ => rfl).2.1 "alice" "a@b.c" "secret" (.upTo 12 (by decide))
    (.upTo 12 (by decide))).2 ⟨true, "ok"⟩
    ⟨rfl, by decide, 5, by decide +kernel, by decide, by decide +kernel⟩

end FileShareX.Gateway

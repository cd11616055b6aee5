import FileShareX.Gateway.Segmentation
import FileShareX.Net.Credentials
import FileShareX.Net.Dialogue
import FileShareX.Net.Encoding
import FileShareX.Net.Lifetime

/-!
# Calls of the gateway

Request, read loop, handler, write queue and parser put together: a call returns what
the core's handler has answered, whatever the core does for others meanwhile and
whatever pieces the response comes in.
-/

namespace FileShareX.Gateway

open Wire Posix Protocol Auth Net Machine

/-! ### Headers -/

@[simp] theorem bigEndianValue_htonl (x : UInt32) : bigEndianValue (htonl x) = x.toNat := by
  rw [htonl, bigEndianValue_bigEndian, Nat.mod_eq_of_lt (show _ < 256 ^ 4 from x.toNat_lt)]

theorem parse_header_frame {type : UInt8} {payload : Bytes} (small : payload.length < 2 ^ 32) :
    (frame type payload).length = HEADER_SIZE + payload.length ∧
      (frame type payload).drop HEADER_SIZE = payload ∧
      _parse_header ((frame type payload).take HEADER_SIZE) = .ok (type.toNat, payload.length) := by
  have shape : frame type payload = (htonl Protocol.MAGIC ++ ([Protocol.VERSION] ++ ([type] ++
      (htonl (UInt32.ofNat payload.length) ++ htons 0)))) ++ payload := by
    rw [frame]
    rfl
  generalize made : htonl Protocol.MAGIC ++ ([Protocol.VERSION] ++ ([type] ++
      (htonl (UInt32.ofNat payload.length) ++ htons 0))) = header at shape
  have width : header.length = HEADER_SIZE := by
    rw [← made]
    simp [HEADER_SIZE]
  have len : (UInt32.ofNat payload.length).toNat = payload.length := by
    rw [UInt32.toNat_ofNat', Nat.mod_eq_of_lt small]
  have magic : slice header 0 4 = htonl Protocol.MAGIC :=
    @slice_append _ 0 4 [] _ _ made.symm rfl (by simp)
  have version : slice header 4 5 = [Protocol.VERSION] :=
    slice_append made.symm (by simp) (by simp)
  have kind : slice header 5 6 = [type] := by
    rw [← List.append_assoc] at made
    exact slice_append made.symm (by simp) (by simp)
  have count : slice header 6 10 = htonl (UInt32.ofNat payload.length) := by
    rw [← List.append_assoc, ← List.append_assoc] at made
    exact slice_append made.symm (by simp) (by simp)
  refine ⟨by rw [shape, List.length_append, width], by rw [shape, ← width, List.drop_left], ?_⟩
  rw [shape, ← width, List.take_left]
  unfold _parse_header
  rw [if_neg (by omega), if_neg (by omega), magic, version, kind, count, bigEndianValue_htonl,
    bigEndianValue_htonl, len]
  simp [bigEndianValue, Gateway.MAGIC, Gateway.VERSION, Protocol.MAGIC, Protocol.VERSION]

theorem response_frame {α : Type} {type : UInt8} {payload : Bytes} (small : payload.length < 2 ^ 32)
    (unexpected : Nat → String) (parse : Bytes → Py α) :
    response (frame type payload) type.toNat unexpected parse = parse payload := by
  obtain ⟨length, behind, header⟩ := @parse_header_frame type payload small
  unfold response
  rw [if_neg (by omega), header, py_ok_bind]
  dsimp only
  rw [if_neg (not_not.mpr rfl), behind, if_neg (Nat.lt_irrefl _), List.take_length]

theorem readLoop_built {type : UInt8} {header payload : Bytes}
    (made : _make_header type.toNat payload.length = some header)
    (small : payload.length ≤ MAX_PAYLOAD) : readLoop (header ++ payload) = [(type, payload)] := by
  have good : wireFormat.IsFrame (header ++ payload) (type, payload) :=
    isFrame_of_goodFrame (goodFrame_of_built (.inr ⟨header, made, rfl⟩) small)
  have read := FrameFormat.deframe_flatten (.cons good .nil)
  rwa [List.flatten_cons, List.flatten_nil, List.append_nil, ← readLoop_eq_deframe] at read

/-! ### A call in a run of the server -/

/-- A run of the server with the one message it handles on a connection. -/
structure Call where
  core : Observed
  earlier : List WiredMove
  conn : ConnId
  type : UInt8
  payload : Vec
  env : Env
  later : List WiredMove

namespace Call

def label (call : Call) : Label := .receive call.conn call.type call.payload call.env

def server (call : Call) : Server := (run Wired.step ⟨call.core, fun _ => {}⟩ call.earlier).core.server

def sent (call : Call) : Bytes :=
  ((run Wired.step ⟨call.core, fun _ => {}⟩
    (call.earlier ++ .serve call.label :: call.later)).queues call.conn).handed.flatten

/-- The gateway's socket is the other end of this connection: the read loop dispatches what
was sent on it, and what the write queue hands over comes back. -/
structure Carries (call : Call) (connection : Connection) (request : Py Bytes) : Prop where
  boot : call.core.Booted
  accepted : ∃ self, call.server.live call.conn = some self
  reading : call.server.reading call.conn = true
  alone : Undisturbed call.conn call.earlier ∧ Undisturbed call.conn call.later
  socket : connection.socket = .ok () ∧ connection.connect = .ok ()
  sendall : ∀ bytes, connection.sendall bytes = .ok ()
  dispatched : ∀ bytes, request = .ok bytes → readLoop bytes = [(call.type, call.payload.bytes)]
  returned : connection.stream = call.sent

variable {call : Call} {connection : Connection} {delivery : Delivery} {request : Py Bytes}

/-- With one response to the message, the gateway's parser gets its payload. -/
theorem Carries.exchange_eq {α : Type} {response : Response} {parse : Bytes → Py α} {value : α}
    {bytes : Bytes} {unexpected : Nat → String} (carries : call.Carries connection request)
    (delivers : connection.Delivers) (whole : WholeHeader delivery) (built : request = .ok bytes)
    (noOffer : call.type ≠ MsgType.FILE_OFFER_REQ.code)
    (answered : ∀ self, call.server.live call.conn = some self →
      (call.server.handle_message call.conn self call.payload call.env call.type).2 =
        [.sent call.conn response])
    (small : response.payload.length < 2 ^ 32) (parsed : parse response.payload = .ok value) :
    exchange connection delivery request response.type.code.toNat unexpected parse = .ok value := by
  obtain ⟨self, alive⟩ := carries.accepted
  have events : (run Wired.step ⟨call.core, fun _ => {}⟩ call.earlier).core.events call.label =
      [.sent call.conn response] := by
    rw [← answered self alive]
    have alive' : (run Wired.step ⟨call.core, fun _ => {}⟩ call.earlier).core.server.live call.conn =
      some self := alive
    have reading : (run Wired.step ⟨call.core, fun _ => {}⟩ call.earlier).core.server.reading
      call.conn = true := carries.reading
    simp only [Observed.events, label, Server.step, alive', reading, if_true]
    rfl
  have handed := Wired.handed_one carries.boot carries.alone.1 carries.alone.2 noOffer
    (show responsesTo call.conn ((run Wired.step ⟨call.core, fun _ => {}⟩ call.earlier).core.events
      (.receive call.conn call.type call.payload call.env)) = [response] by
      rw [← label, events, responsesTo_self, responsesTo_nil])
  have stream : connection.stream = frame response.type.code response.payload := by
    rw [carries.returned, sent, label, handed]
    exact List.append_nil _
  have sent : send_request connection request = .ok () := by
    rw [send_request, carries.socket.1, carries.socket.2, built]
    exact carries.sendall bytes
  rw [Gateway.exchange_eq delivers sent, if_pos whole, stream, response_frame small, parsed]

theorem Carries.message {type : UInt8} {header payload : Bytes}
    (carries : call.Carries connection (.ok (header ++ payload)))
    (made : _make_header type.toNat payload.length = some header)
    (small : payload.length ≤ MAX_PAYLOAD) : call.type = type ∧ call.payload.bytes = payload := by
  have read := carries.dispatched _ rfl
  rw [readLoop_built made small] at read
  cases read
  exact ⟨rfl, rfl⟩

theorem Carries.answered {α : Type} {type : MsgType} {header payload : Bytes}
    {parse : Bytes → Py α} {value : α} {unexpected : Nat → String} (response : Response)
    (carries : call.Carries connection (.ok (header ++ payload))) (delivers : connection.Delivers)
    (whole : WholeHeader delivery)
    (made : _make_header type.code.toNat payload.length = some header)
    (small : payload.length ≤ MAX_PAYLOAD) (noOffer : type ≠ .FILE_OFFER_REQ)
    (handled : call.payload.bytes = payload → ∀ self,
      (call.server.handle_message call.conn self call.payload call.env type.code).2 =
        [.sent call.conn response])
    (fits : response.payload.length < 2 ^ 32) (parsed : parse response.payload = .ok value) :
    exchange connection delivery (.ok (header ++ payload)) response.type.code.toNat unexpected parse =
      .ok value := by
  obtain ⟨typed, bytes⟩ := carries.message made small
  refine carries.exchange_eq delivers whole rfl ?_ (fun self _ => ?_) fits parsed
  · rw [typed]
    intro same
    exact noOffer (Option.some.inj ((MsgType.ofCode?_code _).symm.trans
      ((congrArg MsgType.ofCode? same).trans (MsgType.ofCode?_code _))))
  · rw [typed]
    exact handled bytes self

end Call

/-! ### What the handlers answer -/

def registerAnswer (db : Db) (req : RegisterReq) (env : AuthEnv) : RegisterResp :=
  match AuthHandler.handle_register db req env with
  | .ok (_, resp) => resp
  | .error what => { ok := false, msg := ascii ("error: " ++ what) }

def loginAnswer (db : Db) (req : LoginReq) (env : AuthEnv) : LoginResp :=
  match AuthHandler.handle_login db req env with
  | .ok (_, resp) => resp
  | .error what => { ok := false, msg := ascii ("error: " ++ what) }

/-- The names that an ONLINE_LIST_REQ is answered with. -/
def listed (server : Server) : List Bytes :=
  (server.session_manager.get_online_usernames server.live).2

section Answers

variable {server : Server} {conn : ConnId} {self : TcpSession} {payload : Vec} {env : Env}

theorem handle_register_answer {req : RegisterReq}
    (parsed : RegisterReq.deserialize.result payload = .ok req) :
    (server.handle_message conn self payload env MsgType.REGISTER_REQ.code).2 =
      [.sent conn (.registerResp (registerAnswer server.db req env.auth))] := by
  show (server.handle_register_req conn payload env).2 = _
  unfold Server.handle_register_req registerAnswer
  rw [parsed, Reader.ok_bind]
  dsimp only
  split <;> next handled => rw [handled]

theorem handle_login_answer {req : LoginReq}
    (parsed : LoginReq.deserialize.result payload = .ok req) :
    (server.handle_message conn self payload env MsgType.LOGIN_REQ.code).2 =
      [.sent conn (.loginResp (loginAnswer server.db req env.auth))] := by
  show (server.handle_login_req conn self payload env).2 = _
  unfold Server.handle_login_req loginAnswer
  rw [parsed, Reader.ok_bind]
  dsimp only
  split
  · next handled => rw [handled]
  · next handled =>
    rw [handled]
    split <;> rfl

theorem loginAnswer_short {db : Db} {req : LoginReq} {auth : AuthEnv} :
    (loginAnswer db req auth).token.length ≤ 64 ∧
      (loginAnswer db req auth).username.length ≤ req.username.length := by
  unfold loginAnswer
  cases handled : AuthHandler.handle_login db req auth with
  | error what => exact ⟨Nat.zero_le _, Nat.zero_le _⟩
  | ok answer =>
    obtain ⟨db', resp⟩ := answer
    refine ⟨?_, AuthHandler.handle_login_username handled⟩
    dsimp only
    unfold AuthHandler.handle_login at handled
    split at handled
    · cases handled
      exact Nat.zero_le _
    · obtain ⟨found, -, handled⟩ := Reader.bind_eq_ok.mp handled
      cases found with
      | none =>
        cases handled
        exact Nat.zero_le _
      | some user =>
        obtain ⟨verified, -, handled⟩ := Reader.bind_eq_ok.mp handled
        split at handled
        · cases handled
          exact Nat.zero_le _
        · split at handled
          · next created =>
            cases handled
            exact Nat.le_of_eq (Db.create_session_length created)
          · cases handled
            exact Nat.zero_le _

end Answers

/-! ### The three calls -/

theorem auth_request_eq {type : MsgType} {payload : Bytes} (small : payload.length ≤ MAX_PAYLOAD) :
    ∃ header, _make_header type.code.toNat payload.length = some header ∧
      auth_request type.code.toNat (.ok payload) = .ok (header ++ payload) ∧
      make_header type.code.toNat payload.length = .ok header := by
  have fits : type.code.toNat < 256 ∧ payload.length < 2 ^ 32 :=
    ⟨type.code.toNat_lt, by unfold MAX_PAYLOAD at small; omega⟩
  have made : _make_header type.code.toNat payload.length =
    some (bigEndian 4 MAGIC ++ bigEndian 1 VERSION ++ bigEndian 1 type.code.toNat ++
      bigEndian 4 payload.length ++ bigEndian 2 0) := if_pos fits
  refine ⟨_, made, ?_, ?_⟩
  · rw [auth_request, make_header, made]
    rfl
  · rw [make_header, made]

theorem hasAt_bytes {v : Vec} {bytes : Bytes} (same : v.bytes = bytes) : v.HasAt 0 bytes := by
  subst same
  exact hasAt_self v.bytes v.beyond

theorem loginResp_length {resp : LoginResp} (token : resp.token.length ≤ 65535)
    (username : resp.username.length ≤ 65535) (msg : resp.msg.length ≤ 65535) :
    resp.serialize.length < 2 ^ 32 := by
  unfold LoginResp.serialize
  cases resp.ok <;> simp <;> omega

section Calls

variable {call : Call} {connection : Connection} {delivery : Delivery} {username email password : String}

theorem register_user_answered
    (carries : call.Carries connection
      (auth_request MSG_TYPE_REGISTER_REQ (register_user_payload username email password)))
    (delivers : connection.Delivers) (whole : WholeHeader delivery)
    (shortUsername : Encodable username) (shortEmail : Encodable email)
    (shortPassword : Encodable password) (present : email ≠ "")
    (short : (registerAnswer call.server.db (registerReq username email password)
      call.env.auth).msg.length ≤ 65535) :
    register_user connection delivery username email password =
      .ok (registerResult (registerAnswer call.server.db (registerReq username email password)
        call.env.auth)) := by
  have payload : register_user_payload username email password =
      .ok (registerReq username email password).canonical :=
    make_auth_payload_register shortUsername shortEmail shortPassword present
  have small : (registerReq username email password).canonical.length ≤ MAX_PAYLOAD := by
    unfold Encodable at shortUsername shortEmail shortPassword
    simp only [RegisterReq.canonical, registerReq, List.length_append, counted_length, MAX_PAYLOAD]
    omega
  obtain ⟨header, made, request, -⟩ := @auth_request_eq .REGISTER_REQ _ small
  have sent : auth_request MSG_TYPE_REGISTER_REQ (register_user_payload username email password) =
      .ok (header ++ (registerReq username email password).canonical) := by
    rw [payload]
    exact request
  rw [sent] at carries
  have result : exchange connection delivery (.ok (header ++ _)) MSG_TYPE_REGISTER_RESP unexpectedType
      _parse_register_resp = .ok _ :=
    carries.answered (.registerResp (registerAnswer call.server.db
      (registerReq username email password) call.env.auth)) delivers whole made small (by decide)
      (fun bytes self => handle_register_answer ((RegisterReq.deserialize_eq_ok _ _).mpr
        ⟨⟨shortUsername, shortEmail, shortPassword⟩, hasAt_bytes bytes⟩))
      (by
        simp only [Response.payload, RegisterResp.serialize, List.length_append, List.length_cons,
          htons_length]
        omega)
      (parse_register_resp_eq short)
  rw [register_user, sent, result]
  rfl

theorem login_user_answered
    (carries : call.Carries connection
      (auth_request MSG_TYPE_LOGIN_REQ (login_user_payload username password)))
    (delivers : connection.Delivers) (whole : WholeHeader delivery)
    (shortUsername : Encodable username) (shortPassword : Encodable password)
    (short : (loginAnswer call.server.db (loginReq username password)
      call.env.auth).msg.length ≤ 65535) :
    login_user connection delivery username password =
      .ok (loginResult (loginAnswer call.server.db (loginReq username password) call.env.auth)) := by
  have payload : login_user_payload username password = .ok (loginReq username password).canonical :=
    make_auth_payload_login shortUsername shortPassword
  have small : (loginReq username password).canonical.length ≤ MAX_PAYLOAD := by
    unfold Encodable at shortUsername shortPassword
    simp only [LoginReq.canonical, loginReq, List.length_append, counted_length, MAX_PAYLOAD]
    omega
  obtain ⟨header, made, request, -⟩ := @auth_request_eq .LOGIN_REQ _ small
  have sent : auth_request MSG_TYPE_LOGIN_REQ (login_user_payload username password) =
      .ok (header ++ (loginReq username password).canonical) := by
    rw [payload]
    exact request
  rw [sent] at carries
  obtain ⟨token, name⟩ := @loginAnswer_short call.server.db (loginReq username password) call.env.auth
  have named := name.trans shortUsername
  have result : exchange connection delivery (.ok (header ++ _)) MSG_TYPE_LOGIN_RESP unexpectedType
      _parse_login_resp = .ok _ :=
    carries.answered (.loginResp (loginAnswer call.server.db (loginReq username password)
      call.env.auth)) delivers whole made small (by decide)
      (fun bytes self => handle_login_answer ((LoginReq.deserialize_eq_ok _ _).mpr
        ⟨⟨shortUsername, shortPassword⟩, hasAt_bytes bytes⟩))
      (loginResp_length (by omega) named short)
      (parse_login_resp_eq (by omega) named short)
  rw [login_user, sent, result]
  rfl

/-- The names of live connections went through a LOGIN_REQ. -/
theorem listed_short (carries : call.Carries connection (make_header MSG_TYPE_ONLINE_LIST_REQ 0)) :
    ∀ name ∈ listed call.server, name.length ≤ 65535 := by
  obtain ⟨labels, ran⟩ := Wired.core_run ⟨call.core, fun _ => {}⟩ call.earlier
  have named := Observed.named_run carries.boot labels
  intro name member
  rw [listed, SessionManager.get_online_usernames_eq] at member
  obtain ⟨⟨conn, self⟩, online, rfl⟩ := List.mem_map.mp member
  refine named conn self ?_
  have alive := (SessionManager.mem_online.mp online).1
  rw [Call.server, ran] at alive
  exact alive

theorem get_online_users_answered (settings : Settings)
    (carries : call.Carries connection (make_header MSG_TYPE_ONLINE_LIST_REQ 0))
    (delivers : connection.Delivers) (whole : WholeHeader delivery)
    (few : (listed call.server).length ≤ 65535)
    (fits : (OnlineListResp.serialize ⟨listed call.server⟩).length < 2 ^ 32) :
    get_online_users settings connection delivery = .ok ((listed call.server).map decode) := by
  have short := listed_short carries
  obtain ⟨header, made, -, request⟩ := @auth_request_eq .ONLINE_LIST_REQ [] (Nat.zero_le _)
  have sent : make_header MSG_TYPE_ONLINE_LIST_REQ 0 = .ok (header ++ []) := by
    rw [List.append_nil]
    exact request
  rw [sent] at carries
  have parsed : _parse_online_list_resp (OnlineListResp.serialize ⟨listed call.server⟩) =
      .ok ((listed call.server).map decode) := by
    rw [_parse_online_list_resp, online_list_names_serialize few short]
    rfl
  have result (unexpected : Nat → String) : exchange connection delivery (.ok (header ++ []))
      MSG_TYPE_ONLINE_LIST_RESP unexpected _parse_online_list_resp = .ok _ :=
    carries.answered (.onlineListResp ⟨listed call.server⟩) delivers whole made (Nat.zero_le _)
      (by decide) (fun _ _ => rfl) fits parsed
  rw [get_online_users, sent, result]
  rfl

/-- Each of the three functions returns what the core's handler answers in the state in which
the server comes to its message, if the answer fits the fields it is written to. -/
theorem calls_answered (delivers : connection.Delivers) (whole : WholeHeader delivery) :
    (∀ username email password, call.Carries connection
        (auth_request MSG_TYPE_REGISTER_REQ (register_user_payload username email password)) →
      Encodable username → Encodable email → Encodable password → email ≠ "" →
      let resp := registerAnswer call.server.db (registerReq username email password) call.env.auth
      resp.msg.length ≤ 65535 →
      register_user connection delivery username email password = .ok (registerResult resp)) ∧
    (∀ username password, call.Carries connection
        (auth_request MSG_TYPE_LOGIN_REQ (login_user_payload username password)) →
      Encodable username → Encodable password →
      let resp := loginAnswer call.server.db (loginReq username password) call.env.auth
      resp.msg.length ≤ 65535 →
      login_user connection delivery username password = .ok (loginResult resp)) ∧
    ∀ settings, call.Carries connection (make_header MSG_TYPE_ONLINE_LIST_REQ 0) →
      (listed call.server).length ≤ 65535 →
      (OnlineListResp.serialize ⟨listed call.server⟩).length < 2 ^ 32 →
      get_online_users settings connection delivery = .ok ((listed call.server).map decode) :=
  ⟨fun _ _ _ carries username email password present short =>
      register_user_answered carries delivers whole username email password present short,
    fun _ _ carries username password short =>
      login_user_answered carries delivers whole username password short,
    fun settings carries few fits => get_online_users_answered settings carries delivers whole few fits⟩

end Calls

/-! ### Carol registers, logs in and asks who is online -/

def Call.connection (call : Call) : Connection where
  socket := .ok ()
  connect := .ok ()
  sendall := fun _ => .ok ()
  stream := call.sent

theorem Call.carries_connection {call : Call} {type : MsgType} {header payload : Bytes}
    {request : Py Bytes} (boot : call.core.Booted)
    (accepted : ∃ self, call.server.live call.conn = some self)
    (reading : call.server.reading call.conn = true)
    (alone : Undisturbed call.conn call.earlier ∧ Undisturbed call.conn call.later)
    (made : _make_header type.code.toNat payload.length = some header)
    (built : request = .ok (header ++ payload)) (small : payload.length ≤ MAX_PAYLOAD)
    (message : call.type = type.code ∧ call.payload.bytes = payload) :
    call.Carries call.connection request where
  boot := boot
  accepted := accepted
  reading := reading
  alone := alone
  socket := ⟨rfl, rfl⟩
  sendall _ := rfl
  dispatched bytes sent := by
    cases built.symm.trans sent
    rw [message.1, message.2]
    exact readLoop_built made small
  returned := rfl

/-- A message to the core, which stores and verifies passwords with the summing library. -/
def carolMessage (conn : ConnId) (type : MsgType) (payload : Bytes) : Label :=
  (Sample.receive conn type payload (Sample.env 0 1)).using summing (some (.replicate 16 7))

/-- Three connections, with one message each. -/
def carolMoves : List WiredMove :=
  [.serve .connect, .serve .connect, .serve .connect,
    .serve (carolMessage 0 .REGISTER_REQ (registerReq "carol" "c@x" "geheim").canonical),
    .written 0 0 true,
    .serve (carolMessage 1 .LOGIN_REQ (loginReq "carol" "geheim").canonical), .written 1 0 true,
    .serve (carolMessage 2 .ONLINE_LIST_REQ []), .written 2 0 true]

def carolCall (place : Nat) (conn : ConnId) (type : MsgType) (payload : Bytes) : Call where
  core := Sample.start
  earlier := carolMoves.take place
  conn
  type := type.code
  payload := ⟨payload, fun _ => 0⟩
  env := (carolMessage conn type payload).env
  later := carolMoves.drop (place + 1)

def carolRegisters : Call :=
  carolCall 3 0 .REGISTER_REQ (registerReq "carol" "c@x" "geheim").canonical

def carolLogsIn : Call := carolCall 5 1 .LOGIN_REQ (loginReq "carol" "geheim").canonical

def carolAsks : Call := carolCall 7 2 .ONLINE_LIST_REQ []

theorem carolRegisters_carries : carolRegisters.Carries carolRegisters.connection
    (auth_request MSG_TYPE_REGISTER_REQ (register_user_payload "carol" "c@x" "geheim")) := by
  obtain ⟨header, made, request, -⟩ :=
    @auth_request_eq .REGISTER_REQ (registerReq "carol" "c@x" "geheim").canonical (by decide)
  rw [register_user_payload,
    make_auth_payload_register (by decide) (by decide) (by decide) (by decide)]
  exact Call.carries_connection Sample.booted ⟨{}, rfl⟩ rfl
    ⟨undisturbed_iff.mpr rfl, undisturbed_iff.mpr rfl⟩ made request (by decide) ⟨rfl, rfl⟩

theorem carolLogsIn_carries : carolLogsIn.Carries carolLogsIn.connection
    (auth_request MSG_TYPE_LOGIN_REQ (login_user_payload "carol" "geheim")) := by
  obtain ⟨header, made, request, -⟩ :=
    @auth_request_eq .LOGIN_REQ (loginReq "carol" "geheim").canonical (by decide)
  rw [login_user_payload, make_auth_payload_login (by decide) (by decide)]
  exact Call.carries_connection Sample.booted ⟨{}, by decide +kernel⟩ (by decide +kernel)
    ⟨undisturbed_iff.mpr rfl, undisturbed_iff.mpr rfl⟩ made request (by decide) ⟨rfl, rfl⟩

theorem carolAsks_carries : carolAsks.Carries carolAsks.connection
    (make_header MSG_TYPE_ONLINE_LIST_REQ 0) := by
  obtain ⟨header, made, -, request⟩ := @auth_request_eq .ONLINE_LIST_REQ [] (Nat.zero_le _)
  exact Call.carries_connection Sample.booted ⟨{}, by decide +kernel⟩ (by decide +kernel)
    ⟨undisturbed_iff.mpr rfl, undisturbed_iff.mpr rfl⟩ made
    (request.trans (by rw [List.append_nil])) (Nat.zero_le _) ⟨rfl, rfl⟩

theorem calls_answered_carol :
    register_user carolRegisters.connection (.upTo 12 (by decide)) "carol" "c@x" "geheim" =
        .ok { ok := true, msg := "user created successfully" } ∧
      login_user carolLogsIn.connection (.upTo 12 (by decide)) "carol" "geheim" =
        .ok { ok := true, token := String.ofList (List.replicate 32 ['0', '1']).flatten, user_id := 3
              username := "carol", msg := "login successful" } ∧
      get_online_users ⟨"core", 9000⟩ carolAsks.connection (.upTo 12 (by decide)) = .ok ["carol"] :=
  ⟨((calls_answered (fun _ => rfl) (by decide)).1 "carol" "c@x" "geheim" carolRegisters_carries
      (by decide) (by decide) (by decide) (by decide) (by decide)).trans (by decide +kernel),
    ((calls_answered (fun _ => rfl) (by decide)).2.1 "carol" "geheim" carolLogsIn_carries (by decide)
      (by decide) (by decide)).trans (by decide +kernel),
    ((calls_answered (fun _ => rfl) (by decide)).2.2 ⟨"core", 9000⟩ carolAsks_carries (by decide)
      (by decide)).trans (by decide +kernel)⟩

end FileShareX.Gateway

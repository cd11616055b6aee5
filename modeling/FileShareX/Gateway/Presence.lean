import FileShareX.Gateway.Calls
import FileShareX.Gateway.Routes
import FileShareX.Net.Lifetime
import FileShareX.Net.Offline

/-!
# Presence at the gateway and in the core

The gateway and one core process, joined by the sockets of the sessions.  As long as the
core has not dropped the connection of a session, it is logged in as the user of that
session, and the name of the session is on the core's list of who is online.
-/

namespace FileShareX.Gateway

open Wire Posix Protocol Net Machine

/-! ### What a returned value says of the connection -/

section Exchange

variable {α β : Type} {connection : Connection} {delivery : Delivery} {request : Py Bytes}
  {expected : Nat} {unexpected : Nat → String} {parse : Bytes → Py α} {value : α}

theorem py_bind_eq_ok {outcome : Py α} {next : α → Py β} {result : β} :
    (outcome >>= next) = .ok result ↔ ∃ value, outcome = .ok value ∧ next value = .ok result := by
  cases outcome with
  | error error => simp [bind, Except.bind]
  | ok value => simp

theorem recv_payload_eq_ok {payload_len : Nat} {got payload : Bytes} {incoming : Incoming}
    (returned : recv_payload connection delivery payload_len got incoming = .ok payload) :
    recvUpTo delivery payload_len got incoming = some payload := by
  fun_induction recvUpTo delivery payload_len got incoming with
  | case1 got incoming missing chunk empty =>
    rw [recv_payload, dif_pos missing] at returned
    dsimp only at returned
    split at returned
    · cases returned
    · rw [if_pos empty] at returned
      cases returned
  | case2 got incoming missing chunk some ih =>
    rw [recv_payload, dif_pos missing] at returned
    dsimp only at returned
    split at returned
    · cases returned
    · rw [if_neg some] at returned
      exact ih returned
  | case3 got incoming enough =>
    rw [recv_payload, dif_neg enough] at returned
    cases returned
    rfl

theorem exchange_answers
    (returned : exchange connection delivery request expected unexpected parse = .ok value) :
    Answers connection request expected parse value := by
  obtain ⟨done, sent, returned⟩ := py_bind_eq_ok.mp returned
  obtain ⟨⟨header_data, incoming⟩, first, returned⟩ := py_bind_eq_ok.mp returned
  obtain ⟨done, -, received⟩ := py_bind_eq_ok.mp first
  have first : recv delivery HEADER_SIZE ⟨connection.stream, 0⟩ = (header_data, incoming) :=
    Except.ok.inj received
  dsimp only at returned
  split at returned
  · cases returned
  · next whole =>
    obtain ⟨⟨msg_type, payload_len⟩, parsed, returned⟩ := py_bind_eq_ok.mp returned
    dsimp only at returned
    split at returned
    · cases returned
    · next same =>
      obtain ⟨payload, received, returned⟩ := py_bind_eq_ok.mp returned
      -- the first `recv` has been given all that it asked for
      have len := @recv_length_le delivery HEADER_SIZE ⟨connection.stream, 0⟩
      have split := @recv_append delivery HEADER_SIZE ⟨connection.stream, 0⟩
      rw [first] at len split
      dsimp only at len split
      have width : header_data.length = HEADER_SIZE := by omega
      have front : connection.stream.take HEADER_SIZE = header_data := by
        rw [← split, ← width, List.take_left]
      have behind : connection.stream.drop HEADER_SIZE = incoming.remaining := by
        rw [← split, ← width, List.drop_left]
      have got := recv_payload_eq_ok received
      rw [recvUpTo_eq] at got
      split at got
      · next enough =>
        cases got
        rw [List.length_nil, Nat.zero_add] at enough
        refine ⟨sent, by rw [← split, List.length_append, width]; omega, payload_len, ?_, ?_, ?_⟩
        · rw [front, parsed, not_not.mp same]
        · rwa [behind]
        · rwa [behind]
      · cases got

theorem frame_drop (type : UInt8) (payload : Bytes) :
    (frame type payload).drop HEADER_SIZE = payload := by
  rw [frame]
  exact List.drop_left' (by simp [Protocol.make_header, MessageHeaderWire.toBytes, HEADER_SIZE])

theorem Answers.parsed_part {type : UInt8} {payload : Bytes}
    (answers : Answers connection request expected parse value)
    (part : connection.stream <+: frame type payload) :
    ∃ front, front <+: payload ∧ parse front = .ok value := by
  obtain ⟨-, header_whole, payload_len, -, -, made⟩ := answers
  refine ⟨_, (List.take_prefix ..).trans ?_, made⟩
  rw [← frame_drop type payload]
  exact part.drop HEADER_SIZE

/-- Out of a part of a frame a value can only be parsed if the frame is whole. -/
theorem Answers.parsed {type : UInt8} {payload : Bytes} (small : payload.length < 2 ^ 32)
    (answers : Answers connection request expected parse value)
    (part : connection.stream <+: frame type payload) : parse payload = .ok value := by
  obtain ⟨length, behind, header⟩ := @parse_header_frame type payload small
  obtain ⟨-, header_whole, payload_len, parsed, enough, made⟩ := answers
  obtain ⟨missing, whole⟩ := part
  have front : (frame type payload).take HEADER_SIZE = connection.stream.take HEADER_SIZE := by
    rw [← whole, List.take_append_of_le_length header_whole]
  rw [front, parsed] at header
  cases header
  have none : missing = [] := by
    have total := congrArg List.length whole
    rw [List.length_append] at total
    rw [List.length_drop] at enough
    exact List.length_eq_zero_iff.mp (by omega)
  rw [none, List.append_nil] at whole
  rw [whole, behind, List.take_length] at made
  exact made

end Exchange

/-! ### A login and what it leaves in the core -/

/-- A LOGIN_RESP that refuses is read as one, however much of its message is missing. -/
theorem parse_login_resp_refused {resp : LoginResp} {payload : Bytes} {result : LoginResult}
    (refused : resp.ok = false) (part : payload <+: resp.serialize)
    (parsed : _parse_login_resp payload = .ok result) : result.ok = false := by
  unfold _parse_login_resp at parsed
  split at parsed
  · cases parsed
  · next long =>
    have first : index payload 0 = .ok 0 := by
      obtain ⟨missing, whole⟩ := part
      unfold LoginResp.serialize at whole
      rw [refused] at whole
      cases payload with
      | nil => exact absurd (Nat.zero_lt_succ _) long
      | cons byte rest =>
        obtain rfl : byte = 0 := (List.cons.inj whole).1
        rfl
    rw [first, py_ok_bind] at parsed
    obtain ⟨⟨token, user_id, username, pos⟩, -, parsed⟩ := py_bind_eq_ok.mp parsed
    obtain ⟨⟨msg, pos'⟩, -, parsed⟩ := py_bind_eq_ok.mp parsed
    cases parsed
    rfl

/-- The session of the gateway is one of this user of the core. -/
structure Names (session : UserSession) (user : TcpSession) : Prop where
  authenticated : user.is_authenticated = true
  requested : user.username = cString (utf8 session.requested)
  username : session.username = decode user.username
  token : session.token = decode user.token
  user_id : session.user_id = user.user_id.toUInt64.toNat

section Login

variable {server : Server} {conn : ConnId} {self : TcpSession} {payload : Vec} {env : Env}
  {req : LoginReq}

theorem login_seats (numbered : server.Numbered) (alive : server.live conn = some self)
    (reading : server.reading conn = true) (parsed : LoginReq.deserialize.result payload = .ok req)
    (ok : (loginAnswer server.db req env.auth).ok = true) :
    ∃ user : TcpSession, user.is_authenticated = true ∧ user.username = cString req.username ∧
      loginAnswer server.db req env.auth =
        { ok := true, token := user.token, user_id := user.user_id, username := user.username
          msg := ascii "login successful" } ∧
      (server.step (.receive conn MsgType.LOGIN_REQ.code payload env)).1.Seats conn user := by
  have stepped : server.step (.receive conn MsgType.LOGIN_REQ.code payload env) =
      server.handle_login_req conn self payload env := by
    unfold Server.step
    dsimp only
    rw [alive]
    dsimp only
    rw [if_pos reading]
    rfl
  unfold loginAnswer at ok ⊢
  cases handled : AuthHandler.handle_login server.db req env.auth with
  | error what =>
    rw [handled] at ok
    cases ok
  | ok answer =>
    obtain ⟨db, resp⟩ := answer
    rw [handled] at ok
    dsimp only at ok ⊢
    obtain ⟨row, -, named, -, answer⟩ := AuthHandler.handle_login_verified handled ok
    have tokens := AuthHandler.handle_login_tokens handled
    rw [if_pos ok] at tokens
    refine ⟨⟨resp.token, row.id, row.username⟩, by simpa [TcpSession.is_authenticated] using tokens.1,
      named, answer, ?_⟩
    rw [stepped]
    unfold Server.handle_login_req
    rw [parsed, Reader.ok_bind]
    dsimp only
    rw [handled]
    dsimp only
    rw [if_pos ok, SessionManager.count_eq]
    refine ⟨numbered conn self alive, .inl ⟨?_, ?_⟩⟩
    · rw [answer]
      exact Function.update_self ..
    · refine List.mem_filter.mpr ⟨List.mem_cons_self, ?_⟩
      simp [SessionManager.held]

theorem login_names {user : TcpSession} {result : LoginResult} {username password : String} {sock : Nat}
    (authenticated : user.is_authenticated = true)
    (named : user.username = cString (loginReq username password).username)
    (short : user.token.length ≤ 65535 ∧ user.username.length ≤ 65535)
    (parsed : _parse_login_resp (LoginResp.serialize
        { ok := true, token := user.token, user_id := user.user_id, username := user.username
          msg := ascii "login successful" }) = .ok result) :
    Names { requested := username, username := result.username, token := result.token
            user_id := result.user_id, sock } user := by
  have few : (ascii "login successful").length ≤ 65535 := by decide
  rw [parse_login_resp_eq short.1 short.2 few] at parsed
  cases parsed
  exact ⟨authenticated, named, rfl, rfl, rfl⟩

end Login

theorem make_auth_payload_encodable {username password : String} {payload : Bytes}
    (made : _make_auth_payload username password = .ok payload) :
    Encodable username ∧ Encodable password := by
  have packed {text error : String} {bytes : Bytes} (made : packString (utf8 text) error = .ok bytes) :
      Encodable text := by
    unfold packString at made
    split at made
    · cases made
    · next short => exact Nat.not_lt.mp short
  obtain ⟨_, first, made⟩ := Reader.bind_eq_ok.mp made
  obtain ⟨_, -, made⟩ := Reader.bind_eq_ok.mp made
  obtain ⟨_, second, -⟩ := Reader.bind_eq_ok.mp made
  exact ⟨packed first, packed second⟩

theorem session_request_frame {username password : String} {bytes : Bytes}
    (made : auth_request MSG_TYPE_LOGIN_REQ (create_session_payload username password) = .ok bytes) :
    Encodable username ∧ Encodable password ∧
      wireFormat.IsFrame bytes (MsgType.LOGIN_REQ.code, (loginReq username password).canonical) := by
  cases packed : create_session_payload username password with
  | error text =>
    rw [packed] at made
    cases made
  | ok payload =>
    obtain ⟨shortUsername, shortPassword⟩ := make_auth_payload_encodable packed
    cases packed.symm.trans (make_auth_payload_login shortUsername shortPassword)
    have small : (loginReq username password).canonical.length ≤ MAX_PAYLOAD := by
      unfold Encodable at shortUsername shortPassword
      simp only [LoginReq.canonical, loginReq, List.length_append, counted_length, MAX_PAYLOAD]
      omega
    obtain ⟨header, framed, request, -⟩ := @auth_request_eq .LOGIN_REQ _ small
    rw [packed] at made
    cases made.symm.trans request
    exact ⟨shortUsername, shortPassword,
      isFrame_of_goodFrame (goodFrame_of_built (.inr ⟨header, framed, rfl⟩) small)⟩

/-- The core has handled the login of a session, and its connection has had the user since. -/
theorem session_login_seats {core : Observed} (boot : core.Booted) {moves : List WiredMove}
    {conn : ConnId} {connection : Connection} {delivery : Delivery} {username password : String}
    {result : LoginResult} {bytes : Bytes}
    (returned : session_login connection delivery username password = .ok result)
    (ok : result.ok = true)
    (made : auth_request MSG_TYPE_LOGIN_REQ (create_session_payload username password) = .ok bytes)
    (came : moves.flatMap (receives conn) <+: readLoop bytes)
    (part : connection.stream <+:
      ((run Wired.step ⟨core, fun _ => {}⟩ moves).queues conn).handed.flatten) (sock : Nat) :
    moves.flatMap (receives conn) ≠ [] ∧ ∃ user,
      Names { requested := username, username := result.username, token := result.token
              user_id := result.user_id, sock } user ∧
        (run Wired.step ⟨core, fun _ => {}⟩ moves).core.server.Seats conn user := by
  have answers := exchange_answers returned
  obtain ⟨shortUsername, shortPassword, framed⟩ := session_request_frame made
  -- nothing has been written to a connection on which nothing has been handled
  have written {others : List WiredMove}
      (same : run Wired.step ⟨core, fun _ => {}⟩ moves = run Wired.step ⟨core, fun _ => {}⟩ others) :
      ¬ Undisturbed conn others := by
    intro silent
    rw [same, Wired.handed_silent boot silent] at part
    have none : connection.stream = [] := List.prefix_nil.mp part
    have header := answers.header
    rw [none] at header
    exact absurd header (by decide)
  have heard : moves.flatMap (receives conn) ≠ [] :=
    fun none => written rfl (undisturbed_iff.mpr none)
  have one : moves.flatMap (receives conn) =
      [(MsgType.LOGIN_REQ.code, (loginReq username password).canonical)] := by
    have nothing : wireFormat.deframe [] = [] := FrameFormat.deframe_short wireFormat.positive
    rw [readLoop_eq_deframe, ← List.append_nil bytes, framed.deframe, nothing] at came
    obtain none | ⟨more, one, rest⟩ := List.prefix_cons_iff.mp came
    · exact absurd none heard
    · rw [one, List.prefix_nil.mp rest]
  refine ⟨heard, ?_⟩
  obtain ⟨earlier, payload, env, later, rfl, same, before, after⟩ := receives_one one
  generalize reached : run Wired.step ⟨core, fun _ => {}⟩ earlier = mid at *
  obtain ⟨labels, ran⟩ := Wired.core_run ⟨core, fun _ => {}⟩ earlier
  rw [reached] at ran
  obtain ⟨maker, routing⟩ := Observed.routing_run boot labels
  have numbered := Observed.numbered_run boot labels
  rw [← ran] at routing numbered
  have read : mid.core.server.reading conn = true ∧ ∃ self, mid.core.server.live conn = some self := by
    -- otherwise the message is lost
    by_contra unread
    refine @written (earlier ++ later) ?_ ?_
    · have idle : mid.step (.serve (.receive conn MsgType.LOGIN_REQ.code payload env)) = mid := by
        unfold Wired.step Observed.step Observed.events Server.step
        dsimp only
        split
        · rfl
        · next self alive =>
          rw [if_neg fun reading => unread ⟨reading, self, alive⟩]
          rfl
      rw [run_append, run_cons, run_append, reached, idle]
    · rw [undisturbed_iff] at before after ⊢
      rw [List.flatMap_append, before, after, List.append_nil]
  obtain ⟨reading, self, alive⟩ := read
  have parsed : LoginReq.deserialize.result payload = .ok (loginReq username password) :=
    (LoginReq.deserialize_eq_ok _ _).mpr ⟨⟨shortUsername, shortPassword⟩, hasAt_bytes same⟩
  have told : responsesTo conn (mid.core.events (.receive conn MsgType.LOGIN_REQ.code payload env)) =
      [.loginResp (loginAnswer mid.core.server.db (loginReq username password) env.auth)] := by
    have answer := @handle_login_answer mid.core.server conn self payload env _ parsed
    unfold Observed.events Server.step
    dsimp only
    rw [alive]
    dsimp only
    rw [if_pos reading, answer, responsesTo_self, responsesTo_nil]
  rw [← reached] at told
  have handed := Wired.handed_one boot before after (by decide) told
  rw [reached] at handed
  rw [handed, List.flatten_singleton] at part
  have accepted : (loginAnswer mid.core.server.db (loginReq username password) env.auth).ok = true := by
    by_contra refused
    obtain ⟨front, front_part, read⟩ := answers.parsed_part part
    rw [parse_login_resp_refused (Bool.eq_false_iff.mpr refused) front_part read] at ok
    cases ok
  obtain ⟨user, authenticated, named, answer, seats⟩ := login_seats numbered alive reading parsed accepted
  obtain ⟨token, name⟩ := @loginAnswer_short mid.core.server.db (loginReq username password) env.auth
  rw [answer] at token name part
  dsimp only at token name
  have short : user.token.length ≤ 65535 ∧ user.username.length ≤ 65535 :=
    ⟨by omega, name.trans shortUsername⟩
  have few : (ascii "login successful").length ≤ 65535 := by decide
  have read := answers.parsed (loginResp_length short.1 short.2 few) part
  refine ⟨user, login_names authenticated named short read, ?_⟩
  rw [run_append, run_cons, reached]
  exact Wired.seats_run seats authenticated (Observed.routing_step routing) after

/-! ### What a request does to the sessions -/

namespace UserSessionManager

variable {manager : UserSessionManager}

def opening (manager : UserSessionManager) : GatewayRequest → Option (Connection × Bytes)
  | .login username password first second =>
    if (Routes.login manager username password first second).1.opened = manager.opened ∨
        second.connection.connect ≠ .ok () then none
    else
      some (second.connection, (auth_request MSG_TYPE_LOGIN_REQ
        (create_session_payload username password)).toOption.getD [])
  | _ => none

def pinged (manager : UserSessionManager) : GatewayRequest → Option Nat
  | .ping id _ =>
    match manager.objects[id]? with
    | none => none
    | some session => if session.pinging && session.connected then some session.sock else none
  | _ => none

structure Grants (manager : UserSessionManager) (request : GatewayRequest) (session : UserSession)
    (username password : String) (second : CoreCall) (result : LoginResult) : Prop where
  asked : ∃ first, request = .login username password first second
  returned : session_login second.connection second.delivery username password = .ok result
  ok : result.ok = true
  session : session = { requested := username, username := result.username, token := result.token
                        user_id := result.user_id, sock := manager.opened }
  opened : (manager.serve request).opened = manager.opened + 1

/-- The objects that are there after a request: those of before, with other flags, and at most one
that a login has made. -/
structure Serves (manager : UserSessionManager) (request : GatewayRequest) : Prop where
  opened : manager.opened ≤ (manager.serve request).opened
  objects : ∀ id session, (manager.serve request).Holds id session →
    (∃ old, manager.Holds id old ∧
      session = { old with connected := session.connected, pinging := session.pinging }) ∨
    ∃ username password second result,
      manager.Grants request session username password second result

theorem serves_flags {request : GatewayRequest} {id : Nat} {session : UserSession}
    {connected pinging : Bool} (object : manager.objects[id]? = some session)
    (opened : (manager.serve request).opened = manager.opened)
    (objects : (manager.serve request).objects =
      manager.objects.set id { session with connected, pinging }) : manager.Serves request := by
  refine ⟨le_of_eq opened.symm, fun id' other held => .inl ?_⟩
  unfold Holds at held ⊢
  rw [objects, List.getElem?_set] at held
  split at held
  · next same =>
    subst same
    split at held
    · cases held
      exact ⟨session, object, rfl⟩
    · cases held
  · exact ⟨other, held, rfl⟩

theorem establish_holds (username password : String) (call : CoreCall) :
    manager.opened ≤ (manager.establish username password call.connection call.delivery).1.opened ∧
      ∀ id session,
        (manager.establish username password call.connection call.delivery).1.Holds id session →
        manager.Holds id session ∨
        (manager.establish username password call.connection call.delivery).1.opened =
            manager.opened + 1 ∧
          ∃ result, session_login call.connection call.delivery username password = .ok result ∧
            result.ok = true ∧
            session = { requested := username, username := result.username, token := result.token
                        user_id := result.user_id, sock := manager.opened } := by
  unfold establish
  cases call.connection.socket with
  | error error => exact ⟨le_rfl, fun _ _ held => .inl held⟩
  | ok done =>
    dsimp only
    cases login : session_login call.connection call.delivery username password with
    | error error => exact ⟨Nat.le_succ _, fun _ _ held => .inl held⟩
    | ok result =>
      dsimp only
      split
      · next ok =>
        refine ⟨Nat.le_succ _, fun id session held => ?_⟩
        rcases WellKept.getElem?_concat.mp held with held | ⟨-, rfl⟩
        · exact .inl held
        · exact .inr ⟨rfl, result, rfl, ok, rfl⟩
      · exact ⟨Nat.le_succ _, fun _ _ held => .inl held⟩

theorem serves (manager : UserSessionManager) (request : GatewayRequest) : manager.Serves request := by
  have same (unchanged : manager.serve request = manager) : manager.Serves request := by
    refine ⟨by rw [unchanged], fun id session held => .inl ⟨session, ?_, rfl⟩⟩
    rwa [unchanged] at held
  cases request with
  | online => exact same rfl
  | register => exact same rfl
  | login username password first second =>
    have established (before : UserSessionManager) (opened : before.opened = manager.opened)
        (objects : before.objects = manager.objects)
        (became : manager.serve (.login username password first second) =
          (before.establish username password second.connection second.delivery).1) :
        manager.Serves (.login username password first second) := by
      obtain ⟨grows, added⟩ := @establish_holds before username password second
      rw [← became, opened] at grows added
      refine ⟨grows, fun id session held => ?_⟩
      rcases added id session held with old | ⟨next, result, returned, ok, made⟩
      · unfold Holds at old
        rw [objects] at old
        exact .inl ⟨session, old, rfl⟩
      · exact .inr ⟨username, password, second, result, ⟨first, rfl⟩, returned, ok, made, next⟩
    cases logged : login_user first.connection first.delivery username password with
    | error error => exact same (by simp only [serve, Routes.login, logged])
    | ok result =>
      by_cases ok : result.ok = true
      · have became : manager.serve (.login username password first second) =
            (manager.create_session username password second.connection second.delivery).1 := by
          simp only [serve, Routes.login, logged, if_pos ok]
        obtain ⟨-, creates⟩ | ⟨-, creates⟩ | ⟨-, answer, creates⟩ :=
          manager.create_session_cases username
        · exact established manager rfl rfl (by rw [became, creates])
        · exact established (manager.setSession username none) rfl rfl (by rw [became, creates])
        · exact same (by rw [became, creates])
      · exact same (by simp only [serve, Routes.login, logged, if_neg ok])
  | logout username =>
    have became : manager.serve (.logout username) = manager.remove_session username := rfl
    unfold remove_session at became
    cases found : manager.sessions username with
    | none => exact same (by rw [became, found])
    | some id =>
      rw [found] at became
      dsimp only at became
      cases object : manager.objects[id]? with
      | none => exact same (by rw [became, object])
      | some session =>
        rw [object] at became
        dsimp only at became
        cases connected : session.connected with
        | false =>
          exact serves_flags object (by rw [became, connected]; rfl) (by rw [became, connected]; rfl)
        | true =>
          exact serves_flags object (by rw [became, connected]; rfl) (by rw [became, connected]; rfl)
  | ping id sendall =>
    rcases manager.ping_loop_cases id sendall with unchanged | ⟨session, connected, object, -, became⟩
    · exact same unchanged
    · have became : manager.serve (.ping id sendall) =
          manager.setObject id { session with connected, pinging := false } := became
      exact serves_flags object (by rw [became]; rfl) (by rw [became]; rfl)

end UserSessionManager

/-! ### The gateway and the core -/

/-- `ends` has the core's end of each socket, by its number, `wrote` what the gateway has passed
to `sendall` on it, and `read` the messages that the core's read loops have come to. -/
structure Site where
  gateway : UserSessionManager := {}
  core : Wired
  ends : Nat → Option ConnId := fun _ => none
  wrote : ConnId → Option Bytes := fun _ => none
  read : ConnId → List (UInt8 × Bytes) := fun _ => []

inductive Turn where
  | core (move : WiredMove)
  /-- `conn` is the core's end of the socket that a login connects. -/
  | gateway (request : GatewayRequest) (conn : ConnId)

def pingBytes : Bytes :=
  (make_header MSG_TYPE_PING (utf8 "ping").length).toOption.getD [] ++ utf8 "ping"

namespace Site

def writes (site : Site) (request : GatewayRequest) (conn : ConnId) : ConnId → Option Bytes :=
  match site.gateway.opening request with
  | some opened => Function.update site.wrote conn (some opened.2)
  | none =>
    match (site.gateway.pinged request).bind site.ends with
    | some pinged => Function.update site.wrote pinged ((site.wrote pinged).map (· ++ pingBytes))
    | none => site.wrote

def step (site : Site) : Turn → Site
  | .core move =>
    { site with
      core := site.core.step move
      read := fun conn => site.read conn ++ receives conn move }
  | .gateway request conn =>
    { site with
      gateway := site.gateway.serve request
      ends :=
        if (site.gateway.opening request).isSome then
          Function.update site.ends site.gateway.opened (some conn)
        else site.ends
      wrote := site.writes request conn }

/-- What TCP promises: the core reads what the gateway has written, in order, the gateway what the
core has handed over, and the connection that a socket gets is no other socket's. -/
def Carried (site : Site) : Turn → Prop
  | .core move => ∀ conn bytes, site.wrote conn = some bytes →
      site.read conn ++ receives conn move <+: readLoop bytes
  | .gateway request conn => ∀ connection bytes,
      site.gateway.opening request = some (connection, bytes) →
      site.wrote conn = none ∧ site.read conn <+: readLoop bytes ∧
        connection.stream <+: (site.core.queues conn).handed.flatten

/-- The connection of a session: it has been logged in as its user, and the gateway has sent nothing
but pings on it since. -/
structure Linked (site : Site) (session : UserSession) (conn : ConnId) (user : TcpSession) : Prop where
  names : Names session user
  ended : site.ends session.sock = some conn
  seats : site.core.core.server.Seats conn user
  came : site.read conn ≠ []
  wrote : ∃ frames messages, site.wrote conn = some frames.flatten ∧
    List.Forall₂ wireFormat.IsFrame frames messages ∧
    ∀ message ∈ messages.tail, message.1 ≠ MsgType.LOGIN_REQ.code

structure Kept (start : Observed) (site : Site) : Prop where
  history : ∃ moves, site.core = run Wired.step ⟨start, fun _ => {}⟩ moves ∧
    ∀ conn, site.read conn = moves.flatMap (receives conn)
  sessions : ∀ id session, site.gateway.Holds id session → session.sock < site.gateway.opened ∧
    ∃ conn user, site.Linked session conn user
  ends : ∀ sock conn, site.ends sock = some conn →
    sock < site.gateway.opened ∧ (site.wrote conn).isSome
  apart : ∀ sock sock' conn, site.ends sock = some conn → site.ends sock' = some conn → sock = sock'
  entries : site.gateway.Entries

variable {site : Site} {start : Observed} {session : UserSession} {conn : ConnId} {user : TcpSession}

theorem Linked.noLogin (linked : site.Linked session conn user) {move : WiredMove}
    (carried : site.Carried (.core move)) :
    ∀ message ∈ receives conn move, message.1 ≠ MsgType.LOGIN_REQ.code := by
  obtain ⟨frames, messages, written, framed, pings⟩ := linked.wrote
  have came := carried conn _ written
  rw [readLoop_eq_deframe, FrameFormat.deframe_flatten framed] at came
  obtain ⟨later, rfl⟩ := came
  intro message member
  refine pings message ?_
  cases first : site.read conn with
  | nil => exact absurd first linked.came
  | cons head rest => simp [member]

theorem Kept.core (kept : site.Kept start) (boot : start.Booted) {move : WiredMove}
    (carried : site.Carried (.core move)) : (site.step (.core move)).Kept start := by
  obtain ⟨moves, ran, read⟩ := kept.history
  obtain ⟨labels, behind⟩ := Wired.core_run ⟨start, fun _ => {}⟩ moves
  obtain ⟨maker, routing⟩ := Observed.routing_run boot labels
  rw [← behind, ← ran] at routing
  refine ⟨⟨moves ++ [move], ?_, fun conn => ?_⟩, fun id session held => ?_, kept.ends, kept.apart,
    kept.entries⟩
  · rw [run_concat, ← ran]
    rfl
  · rw [List.flatMap_append, ← read]
    simp [step]
  · obtain ⟨below, conn, user, linked⟩ := kept.sessions id session held
    refine ⟨below, conn, user, linked.names, linked.ended, ?_, ?_, linked.wrote⟩
    · exact Wired.seats_step linked.seats linked.names.authenticated routing (linked.noLogin carried)
    · exact List.append_ne_nil_of_left_ne_nil linked.came _

theorem pingBytes_frame : wireFormat.IsFrame pingBytes (MsgType.PING.code, utf8 "ping") :=
  isFrame_of_goodFrame (goodFrame_of_built (.inr ⟨_, rfl, rfl⟩) (by decide))

/-- What has been written on a connection stays, and only pings come behind it. -/
theorem writes_cases {request : GatewayRequest} {other : ConnId} {bytes : Bytes}
    (carried : site.Carried (.gateway request other)) (written : site.wrote conn = some bytes) :
    site.writes request other conn = some bytes ∨
      site.writes request other conn = some (bytes ++ pingBytes) := by
  unfold writes
  cases opening : site.gateway.opening request with
  | some opened =>
    have differs : conn ≠ other := by
      rintro rfl
      rw [(carried opened.1 opened.2 opening).1] at written
      cases written
    exact .inl ((Function.update_of_ne differs ..).trans written)
  | none =>
    dsimp only
    cases (site.gateway.pinged request).bind site.ends with
    | none => exact .inl written
    | some pinged =>
      by_cases same : conn = pinged
      · subst same
        exact .inr ((Function.update_self ..).trans (by rw [written]; rfl))
      · exact .inl ((Function.update_of_ne same ..).trans written)

theorem Linked.gateway (linked : site.Linked session conn user) {request : GatewayRequest}
    {other : ConnId} (below : session.sock < site.gateway.opened)
    (carried : site.Carried (.gateway request other)) :
    (site.step (.gateway request other)).Linked session conn user := by
  obtain ⟨frames, messages, written, framed, pings⟩ := linked.wrote
  refine ⟨linked.names, ?_, linked.seats, linked.came, ?_⟩
  · unfold step
    dsimp only
    split
    · rw [Function.update_of_ne (Nat.ne_of_lt below)]
      exact linked.ended
    · exact linked.ended
  · rcases writes_cases carried written with same | pinged
    · exact ⟨frames, messages, same, framed, pings⟩
    · refine ⟨frames ++ [pingBytes], messages ++ [(MsgType.PING.code, utf8 "ping")], ?_, ?_, ?_⟩
      · rw [List.flatten_append, List.flatten_singleton]
        exact pinged
      · exact List.rel_append framed (.cons pingBytes_frame .nil)
      · intro message member
        cases messages with
        | nil => cases member
        | cons first rest =>
          rcases List.mem_append.mp member with old | new
          · exact pings message old
          · rw [List.mem_singleton.mp new]
            decide

theorem opening_opened {manager : UserSessionManager} {request : GatewayRequest}
    (opening : (manager.opening request).isSome) :
    manager.opened < (manager.serve request).opened := by
  cases request with
  | login username password first second =>
    unfold UserSessionManager.opening at opening
    dsimp only at opening
    split at opening
    · cases opening
    · next opens =>
      have grows := (manager.serves (.login username password first second)).opened
      exact Nat.lt_of_le_of_ne grows fun same => opens (.inl same.symm)
  | _ => cases opening

theorem grants_opening {manager : UserSessionManager} {request : GatewayRequest}
    {username password : String} {second : CoreCall} {result : LoginResult}
    (grants : manager.Grants request session username password second result) :
    ∃ bytes, auth_request MSG_TYPE_LOGIN_REQ (create_session_payload username password) = .ok bytes ∧
      manager.opening request = some (second.connection, bytes) := by
  obtain ⟨⟨first, rfl⟩, returned, -, -, opened⟩ := grants
  have sent := (exchange_answers returned).sent
  obtain ⟨_, -, sent⟩ := py_bind_eq_ok.mp sent
  obtain ⟨_, connected, sent⟩ := py_bind_eq_ok.mp sent
  obtain ⟨bytes, made, -⟩ := py_bind_eq_ok.mp sent
  refine ⟨bytes, made, ?_⟩
  unfold UserSessionManager.opening
  dsimp only
  rw [if_neg, made]
  · rfl
  · rintro (same | refused)
    · exact absurd (same.symm.trans opened) (Nat.ne_of_lt (Nat.lt_succ_self _))
    · exact refused connected

theorem Kept.gateway (kept : site.Kept start) (boot : start.Booted) {request : GatewayRequest}
    {other : ConnId} (carried : site.Carried (.gateway request other)) :
    (site.step (.gateway request other)).Kept start := by
  obtain ⟨moves, ran, read⟩ := kept.history
  have serves := site.gateway.serves request
  -- what the sockets of before lead to
  have ended {sock : Nat} {conn : ConnId}
      (found : (site.step (.gateway request other)).ends sock = some conn) :
      (site.gateway.opening request).isSome ∧ sock = site.gateway.opened ∧ conn = other ∨
        site.ends sock = some conn := by
    unfold step at found
    dsimp only at found
    split at found
    · next opens =>
      by_cases new : sock = site.gateway.opened
      · rw [new, Function.update_self] at found
        exact .inl ⟨opens, new, (Option.some.inj found).symm⟩
      · rw [Function.update_of_ne new] at found
        exact .inr found
    · exact .inr found
  have unwritten (opens : (site.gateway.opening request).isSome) : site.wrote other = none := by
    obtain ⟨opened, opening⟩ := Option.isSome_iff_exists.mp opens
    exact (carried opened.1 opened.2 opening).1
  refine ⟨⟨moves, ran, read⟩, fun id session held => ?_, fun sock conn found => ?_,
    fun sock sock' conn found found' => ?_, (kept.entries.serve request).1⟩
  · rcases serves.objects id session held with
      ⟨old, holds, same⟩ | ⟨username, password, second, result, grants⟩
    · obtain ⟨below, conn, user, linked⟩ := kept.sessions id old holds
      obtain ⟨names, ended, seats, came, wrote⟩ := linked.gateway below carried
      rw [same]
      exact ⟨Nat.lt_of_lt_of_le below serves.opened, conn, user,
        ⟨names.authenticated, names.requested, names.username, names.token, names.user_id⟩, ended,
        seats, came, wrote⟩
    · obtain ⟨bytes, made, opening⟩ := grants_opening grants
      obtain ⟨fresh, came, part⟩ := carried _ _ opening
      rw [read] at came
      rw [ran] at part
      obtain ⟨heard, user, names, seats⟩ := session_login_seats boot grants.returned grants.ok made came
        part site.gateway.opened
      have framed := (session_request_frame made).2.2
      rw [grants.session]
      have next : site.gateway.opened < (site.step (.gateway request other)).gateway.opened :=
        (Nat.lt_succ_self _).trans_eq grants.opened.symm
      refine ⟨next, other, user, names, ?_, ?_, ?_, [bytes], _, ?_, .cons framed .nil, by simp⟩
      · unfold step
        dsimp only
        rw [opening, Option.isSome_some, if_pos rfl, Function.update_self]
      · rw [← ran] at seats
        exact seats
      · rw [← read] at heard
        exact heard
      · rw [List.flatten_singleton]
        unfold step writes
        dsimp only
        rw [opening]
        exact Function.update_self ..
  · rcases ended found with ⟨opens, rfl, rfl⟩ | old
    · refine ⟨opening_opened opens, ?_⟩
      obtain ⟨opened, opening⟩ := Option.isSome_iff_exists.mp opens
      unfold step writes
      dsimp only
      rw [opening]
      simp
    · obtain ⟨below, written⟩ := kept.ends sock conn old
      refine ⟨Nat.lt_of_lt_of_le below serves.opened, ?_⟩
      obtain ⟨bytes, written⟩ := Option.isSome_iff_exists.mp written
      show (site.writes request other conn).isSome
      rcases writes_cases carried written with same | pinged
      · rw [same]
        rfl
      · rw [pinged]
        rfl
  · rcases ended found with ⟨opens, rfl, rfl⟩ | old <;>
      rcases ended found' with ⟨opens', rfl, same⟩ | old'
    · rfl
    · have written := (kept.ends _ _ old').2
      rw [unwritten opens] at written
      cases written
    · have written := (kept.ends _ _ old).2
      rw [same, unwritten opens'] at written
      cases written
    · exact kept.apart _ _ _ old old'

theorem kept_run (boot : start.Booted) {turns : List Turn}
    (carried : Along step Carried { core := ⟨start, fun _ => {}⟩ } turns) :
    (run step { core := ⟨start, fun _ => {}⟩ } turns).Kept start := by
  have initial : Kept start { core := ⟨start, fun _ => {}⟩ } := by
    refine ⟨⟨[], rfl, fun _ => rfl⟩, fun _ _ held => ?_, fun _ _ found => ?_, fun _ _ _ found => ?_,
      UserSessionManager.entries_init⟩
    · cases held
    · cases found
    · cases found
  refine carried.invariant initial fun site turn kept carries => ?_
  cases turn with
  | core move => exact kept.core boot carries
  | gateway request conn => exact kept.gateway boot carries

/-- The core has not dropped the connection of the session of this name. -/
def Attended (site : Site) (username : String) : Prop :=
  ∃ id session conn, site.gateway.sessions username = some id ∧ site.gateway.Holds id session ∧
    site.ends session.sock = some conn ∧ site.core.core.server.authenticated conn = true

/-- What is promised of the two sides: a session has a connection of its own, which is logged in as
its user until the core drops it; till then the core lists its name, and if no session has been
dropped, `/online` shows what the core lists. -/
structure PresenceAgrees (site : Site) : Prop where
  sessions : ∀ id session, site.gateway.Holds id session → ∃ conn user,
    site.ends session.sock = some conn ∧ Names session user ∧
      (site.core.core.server.authenticated conn = true → site.core.core.server.live conn = some user)
  apart : ∀ sock sock' conn, site.ends sock = some conn → site.ends sock' = some conn → sock = sock'
  present : ∀ username, site.Attended username →
    cString (utf8 username) ∈ listed site.core.core.server
  shown : ∀ settings call,
    (∀ username, site.gateway.has_session username = true →
      (0 : UInt8) ∉ utf8 username ∧ site.Attended username) →
    get_online_users settings call.connection call.delivery =
      .ok ((listed site.core.core.server).map decode) →
    ∀ name, name ∈ (Routes.get_online site.gateway settings call).users ↔
      name ∈ (listed site.core.core.server).map decode

theorem Kept.listed (kept : site.Kept start) {username : String} (attended : site.Attended username) :
    cString (utf8 username) ∈ Gateway.listed site.core.core.server := by
  obtain ⟨id, session, conn, found, held, ended, authenticated⟩ := attended
  obtain ⟨same, holds, requested⟩ := kept.entries username id found
  cases held.symm.trans holds
  obtain ⟨-, other, user, linked⟩ := kept.sessions id session held
  cases ended.symm.trans linked.ended
  obtain ⟨-, ⟨alive, entry⟩ | nobody⟩ := linked.seats
  · rw [Gateway.listed, SessionManager.get_online_usernames_eq, ← requested, ← linked.names.requested]
    exact List.mem_map.mpr ⟨(conn, user), SessionManager.mem_online.mpr
      ⟨alive, linked.names.authenticated, user.token, entry⟩, rfl⟩
  · rw [authenticated] at nobody
    cases nobody

/-- Whatever the core does for whomever, and whatever becomes of the gateway's requests, the two
sides agree on who is there. -/
theorem presence_agrees (boot : start.Booted) {turns : List Turn}
    (carried : Along step Carried { core := ⟨start, fun _ => {}⟩ } turns) :
    PresenceAgrees (run step { core := ⟨start, fun _ => {}⟩ } turns) := by
  have kept := kept_run boot carried
  generalize run step { core := ⟨start, fun _ => {}⟩ } turns = site at kept ⊢
  refine ⟨fun id session held => ?_, kept.apart, fun username attended => kept.listed attended,
    fun settings call attended answered name => ?_⟩
  · obtain ⟨-, conn, user, linked⟩ := kept.sessions id session held
    refine ⟨conn, user, linked.ended, linked.names, fun authenticated => ?_⟩
    obtain ⟨-, ⟨alive, -⟩ | nobody⟩ := linked.seats
    · exact alive
    · rw [authenticated] at nobody
      cases nobody
  · unfold Routes.get_online
    rw [answered]
    dsimp only
    rw [(UserSessionManager.sortedUnion_spec _ _).2,
      UserSessionManager.mem_get_online_usernames kept.entries]
    refine or_iff_left_of_imp fun present => ?_
    obtain ⟨free, here⟩ := attended name present
    have listed := kept.listed here
    rw [cString_eq_self free] at listed
    exact List.mem_map.mpr ⟨utf8 name, listed, decode_utf8 name⟩

/-! ### Alice's session -/

def aliceLogin : Label := .receive 0 12 ⟨(loginReq "alice" "x").canonical, fun _ => 0⟩ (Sample.env 0 1)

def answeredAlice : Wired :=
  run Wired.step ⟨Sample.start, fun _ => {}⟩ [.serve .connect, .serve aliceLogin]

def aliceSocket : Connection where
  socket := .ok ()
  connect := .ok ()
  sendall := fun _ => .ok ()
  stream := (answeredAlice.queues 0).handed.flatten

def aliceTurns : List Turn :=
  [.core (.serve .connect), .core (.serve aliceLogin),
    .gateway (.login "alice" "x" ⟨UserSessionManager.accepting, .upTo 4096 (Nat.zero_lt_succ _)⟩
      ⟨aliceSocket, .upTo 12 (Nat.zero_lt_succ _)⟩) 0]

theorem presence_agrees_alice :
    PresenceAgrees (run step { core := ⟨Sample.start, fun _ => {}⟩ } aliceTurns) ∧
      (run step { core := ⟨Sample.start, fun _ => {}⟩ } aliceTurns).Attended "alice" := by
  obtain ⟨header, -, request, -⟩ :=
    @auth_request_eq .LOGIN_REQ (loginReq "alice" "x").canonical (by decide)
  have made : auth_request MSG_TYPE_LOGIN_REQ (create_session_payload "alice" "x") =
      .ok (header ++ (loginReq "alice" "x").canonical) := by
    rw [create_session_payload, make_auth_payload_login (by decide) (by decide)]
    exact request
  have framed := (session_request_frame made).2.2
  refine ⟨presence_agrees Sample.booted ⟨fun _ _ written => ?_, fun _ _ written => ?_,
    fun connection bytes opening => ?_, trivial⟩, ?_⟩
  · cases written
  · cases written
  · unfold UserSessionManager.opening at opening
    dsimp only at opening
    split at opening
    · cases opening
    · rw [made] at opening
      cases opening
      refine ⟨rfl, ?_, List.prefix_refl _⟩
      have read := framed.deframe []
      rw [List.append_nil] at read
      rw [readLoop_eq_deframe]
      exact ⟨_, read.symm⟩
  · have made : ((run step { core := ⟨Sample.start, fun _ => {}⟩ } aliceTurns).gateway.objects[0]?).map
        UserSession.sock = some 0 := by decide +kernel
    obtain ⟨session, held, sock⟩ := Option.map_eq_some_iff.mp made
    refine ⟨0, session, 0, by decide +kernel, held, ?_, by decide +kernel⟩
    rw [sock]
    decide +kernel

end Site

end FileShareX.Gateway

import FileShareX.Gateway.AuthPayload
import FileShareX.Gateway.Responses

/-!
# The core's responses as the gateway reads them

Each of the three parsers gives back the strings, flags and numbers that the core
serialized, and two of them raise nothing but protocol errors.
-/

namespace FileShareX.Gateway

open Wire Protocol

variable {payload front back : Bytes} {pos : Nat}

@[simp] theorem bigEndianValue_htons (x : UInt16) : bigEndianValue (htons x) = x.toNat := by
  rw [htons, bigEndianValue_bigEndian, Nat.mod_eq_of_lt (show _ < 256 ^ 2 from x.toNat_lt)]

@[simp] theorem bigEndianValue_htobe64 (x : UInt64) : bigEndianValue (htobe64 x) = x.toNat := by
  rw [htobe64, bigEndianValue_bigEndian, Nat.mod_eq_of_lt (show _ < 256 ^ 8 from x.toNat_lt)]

theorem unpack_counted {s : Bytes} (short : s.length ≤ 65535)
    (shape : payload = front ++ (counted s ++ back)) (before : front.length = pos) :
    unpack 2 (slice payload pos (pos + 2)) = .ok s.length := by
  have field : slice payload pos (pos + 2) = htons (UInt16.ofNat s.length) := by
    rw [counted, List.append_assoc] at shape
    exact slice_append shape before (by rw [htons_length])
  rw [field, unpack, if_pos (htons_length _), bigEndianValue_htons, ofNat_length_toNat short]

theorem slice_counted {s : Bytes} (shape : payload = front ++ (counted s ++ back))
    (before : front.length = pos) : slice payload (pos + 2) (pos + 2 + s.length) = s := by
  rw [counted, List.append_assoc, ← List.append_assoc front] at shape
  exact slice_append shape (by rw [List.length_append, htons_length, before]) rfl

theorem unpackString_counted {s : Bytes} (short : s.length ≤ 65535)
    (shape : payload = front ++ (counted s ++ back)) (before : front.length = pos)
    (field : String) : unpackString payload pos field = .ok (decode s, pos + 2 + s.length) := by
  have room : pos + 2 + s.length ≤ payload.length := by
    rw [shape, List.length_append, List.length_append, counted_length, before]
    omega
  unfold unpackString
  rw [if_neg (by omega), unpack_counted short shape before]
  show (if pos + 2 + s.length > payload.length then _ else _) = _
  rw [if_neg (by omega), slice_counted shape before]
  rfl

def registerResult (resp : RegisterResp) : RegisterResult := ⟨resp.ok, decode resp.msg⟩

theorem parse_register_resp_eq {resp : RegisterResp} (short : resp.msg.length ≤ 65535) :
    _parse_register_resp resp.serialize = .ok (registerResult resp) := by
  generalize sent : resp.serialize = payload
  have shape : payload = [if resp.ok then 1 else 0] ++ (counted resp.msg ++ []) := by
    simp [← sent, RegisterResp.serialize, counted]
  have length : payload.length = 3 + resp.msg.length := by
    rw [shape, List.append_nil, List.length_append, counted_length]
    exact (Nat.add_assoc 1 2 _).symm
  have first : index payload 0 = .ok (if resp.ok then 1 else 0) := by
    rw [shape]
    rfl
  have msg_len : unpack 2 (slice payload 1 3) = .ok resp.msg.length := unpack_counted short shape rfl
  have text : slice payload 3 (3 + resp.msg.length) = resp.msg := slice_counted shape rfl
  unfold _parse_register_resp
  rw [if_neg (by omega), first, py_ok_bind, msg_len, py_ok_bind, if_neg (by omega), text, flag_byte]
  rfl

theorem parse_register_resp_serialize (ok : Bool) {msg : String} (short : Encodable msg) :
    _parse_register_resp (RegisterResp.serialize ⟨ok, utf8 msg⟩) = .ok ⟨ok, msg⟩ := by
  have parsed := @parse_register_resp_eq ⟨ok, utf8 msg⟩ short
  rwa [registerResult, decode_utf8] at parsed

def loginResult (resp : LoginResp) : LoginResult where
  ok := resp.ok
  token := if resp.ok then decode resp.token else ""
  user_id := if resp.ok then resp.user_id.toUInt64.toNat else 0
  username := if resp.ok then decode resp.username else ""
  msg := decode resp.msg

theorem parse_login_resp_eq {resp : LoginResp} (shortToken : resp.token.length ≤ 65535)
    (shortUsername : resp.username.length ≤ 65535) (shortMsg : resp.msg.length ≤ 65535) :
    _parse_login_resp resp.serialize = .ok (loginResult resp) := by
  obtain ⟨ok, token, user_id, username, msg⟩ := resp
  dsimp only at shortToken shortUsername shortMsg
  generalize sent : LoginResp.serialize ⟨ok, token, user_id, username, msg⟩ = payload
  have first : index payload 0 = .ok (if ok then 1 else 0) := by
    rw [← sent]
    rfl
  unfold _parse_login_resp
  cases ok with
  | false =>
    have shape : payload = [0] ++ (counted msg ++ []) := by
      simp [← sent, LoginResp.serialize, counted]
    have length : payload.length = 3 + msg.length := by
      rw [shape, List.append_nil, List.length_append, counted_length]
      exact (Nat.add_assoc 1 2 _).symm
    have text : unpackString payload 1 "msg" = .ok (decode msg, _) :=
      unpackString_counted shortMsg shape rfl "msg"
    rw [if_neg (by omega), first, py_ok_bind]
    show (unpackString payload 1 "msg" >>= _) = _
    rw [text]
    rfl
  | true =>
    have shape : payload = [1] ++ (counted token ++ (htobe64 user_id.toUInt64 ++
        (counted username ++ (counted msg ++ [])))) := by
      simp [← sent, LoginResp.serialize, counted]
    -- the same bytes, split in front of each of the later fields
    have atId : payload = ([1] ++ counted token) ++ (htobe64 user_id.toUInt64 ++
        (counted username ++ counted msg)) := by
      simp [shape]
    have atUsername : payload = (([1] ++ counted token) ++ htobe64 user_id.toUInt64) ++
        (counted username ++ counted msg) := by
      simp [shape]
    have atMsg : payload = ((([1] ++ counted token) ++ htobe64 user_id.toUInt64) ++
        counted username) ++ (counted msg ++ []) := by
      simp [shape]
    have length := congrArg List.length atMsg
    simp only [List.length_append, List.length_cons, List.length_nil, counted_length,
      htobe64_length] at length
    have token_text : unpackString payload 1 "token" = .ok (decode token, 1 + 2 + token.length) :=
      unpackString_counted shortToken shape rfl "token"
    have id_text : slice payload (1 + 2 + token.length) (1 + 2 + token.length + 8) =
        htobe64 user_id.toUInt64 :=
      slice_append atId
        (by rw [List.length_append, counted_length]; exact (Nat.add_assoc 1 2 _).symm)
        (by rw [htobe64_length])
    have username_text : unpackString payload (1 + 2 + token.length + 8) "username" = .ok _ :=
      unpackString_counted shortUsername atUsername
        (by simp only [List.length_append, List.length_cons, List.length_nil, counted_length,
              htobe64_length]; omega) "username"
    have msg_text : unpackString payload (1 + 2 + token.length + 8 + 2 + username.length) "msg" = .ok _ :=
      unpackString_counted shortMsg atMsg
        (by simp only [List.length_append, List.length_cons, List.length_nil, counted_length,
              htobe64_length]; omega) "msg"
    have login : unpackLogin payload true = .ok (decode token, user_id.toUInt64.toNat,
        decode username, 1 + 2 + token.length + 8 + 2 + username.length) := by
      unfold unpackLogin
      rw [if_pos rfl, token_text, py_ok_bind]
      dsimp only
      rw [if_neg (by omega), id_text, unpack, if_pos (htobe64_length _), py_ok_bind, username_text,
        bigEndianValue_htobe64]
      rfl
    rw [if_neg (by omega), first, py_ok_bind]
    show (unpackLogin payload true >>= _) = _
    rw [login, py_ok_bind]
    dsimp only
    rw [msg_text]
    rfl

theorem parse_login_resp_serialize (ok : Bool) {token username msg : String} {user_id : Int64}
    (shortToken : Encodable token) (shortUsername : Encodable username) (shortMsg : Encodable msg)
    (natural : 0 ≤ user_id) :
    _parse_login_resp (LoginResp.serialize ⟨ok, utf8 token, user_id, utf8 username, utf8 msg⟩) =
      .ok { ok, token := if ok then token else "", user_id := if ok then user_id.toInt.toNat else 0
            username := if ok then username else "", msg } := by
  have parsed := @parse_login_resp_eq ⟨ok, utf8 token, user_id, utf8 username, utf8 msg⟩
    shortToken shortUsername shortMsg
  simp only [loginResult, decode_utf8, Int64.toNat_toUInt64_of_le natural] at parsed
  exact parsed

theorem onlineListFrom_flatMap {names : List Bytes} (short : ∀ name ∈ names, name.length ≤ 65535)
    (shape : payload = front ++ names.flatMap counted) (before : front.length = pos)
    (usernames : List Bytes) :
    onlineListFrom payload names.length pos usernames = .ok (usernames ++ names) := by
  induction names generalizing front pos usernames with
  | nil => simp [onlineListFrom]
  | cons name names ih =>
    have fits : name.length ≤ 65535 := short name List.mem_cons_self
    rw [List.flatMap_cons] at shape
    have room : pos + 2 + name.length ≤ payload.length := by
      rw [shape, List.length_append, List.length_append, counted_length, before]
      omega
    rw [List.length_cons, onlineListFrom, if_neg (by omega), unpack_counted fits shape before,
      py_ok_bind]
    dsimp only
    rw [if_neg (by omega), slice_counted shape before,
      ih (fun later member => short later (List.mem_cons_of_mem _ member))
        (show payload = (front ++ counted name) ++ _ by rw [shape, List.append_assoc])
        (by rw [List.length_append, counted_length, before, Nat.add_assoc]),
      List.append_assoc]
    rfl

theorem online_list_names_serialize {names : List Bytes} (few : names.length ≤ 65535)
    (short : ∀ name ∈ names, name.length ≤ 65535) :
    online_list_names (OnlineListResp.serialize ⟨names⟩) = .ok names := by
  generalize sent : OnlineListResp.serialize ⟨names⟩ = payload
  have shape : payload = htons (UInt16.ofNat names.length) ++ names.flatMap counted := sent.symm
  have length := congrArg List.length shape
  rw [List.length_append, htons_length] at length
  have count : slice payload 0 2 = htons (UInt16.ofNat names.length) :=
    @slice_append _ 0 2 [] _ _ shape rfl (by rw [htons_length])
  unfold online_list_names
  rw [if_neg (by omega), count, unpack, if_pos (htons_length _), py_ok_bind, bigEndianValue_htons,
    ofNat_length_toNat few, onlineListFrom_flatMap short shape (htons_length _)]
  rfl

/-- The gateway's parsers give back what the core has serialized, and on any payload the
first two raise nothing but protocol errors. -/
theorem responses_agree :
    (∀ (ok : Bool) (msg : String), Encodable msg →
      _parse_register_resp (RegisterResp.serialize ⟨ok, utf8 msg⟩) = .ok ⟨ok, msg⟩) ∧
    (∀ (ok : Bool) (token username msg : String) (user_id : Int64), Encodable token →
      Encodable username → Encodable msg → 0 ≤ user_id →
      _parse_login_resp (LoginResp.serialize ⟨ok, utf8 token, user_id, utf8 username, utf8 msg⟩) =
        .ok { ok, token := if ok then token else "", user_id := if ok then user_id.toInt.toNat else 0
              username := if ok then username else "", msg }) ∧
    (∀ usernames : List String, usernames.length ≤ 65535 → (∀ name ∈ usernames, Encodable name) →
      _parse_online_list_resp (OnlineListResp.serialize ⟨usernames.map utf8⟩) = .ok usernames) ∧
    ∀ payload, ProtocolErrorsOnly (_parse_register_resp payload) ∧
      ProtocolErrorsOnly (_parse_login_resp payload) := by
  refine ⟨fun ok msg => parse_register_resp_serialize ok,
    fun ok _ _ _ _ => parse_login_resp_serialize ok, fun usernames few short => ?_,
    fun payload => ⟨parse_register_resp_errors payload, parse_login_resp_errors payload⟩⟩
  have names : ∀ name ∈ usernames.map utf8, name.length ≤ 65535 := by
    intro name member
    obtain ⟨text, listed, rfl⟩ := List.mem_map.mp member
    exact short text listed
  have decoded : (usernames.map utf8).map decode = usernames := by
    rw [List.map_map]
    exact (List.map_congr_left fun name _ => decode_utf8 name).trans (List.map_id _)
  rw [_parse_online_list_resp, online_list_names_serialize (by rwa [List.length_map]) names,
    py_ok_bind, decoded]
  rfl

/-- A login that succeeds, with a name that is not ASCII. -/
theorem responses_agree_sample :
    _parse_login_resp (LoginResp.serialize ⟨true, utf8 "00ff", 7, utf8 "zoë", utf8 "ok"⟩) =
      .ok ⟨true, "00ff", 7, "zoë", "ok"⟩ :=
  responses_agree.2.1 true "00ff" "zoë" "ok" 7 (by decide) (by decide) (by decide) (by decide)

end FileShareX.Gateway

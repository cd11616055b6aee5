import FileShareX.Net.Framing
import FileShareX.Protocol.RoundTrip

/-!
# The authentication client reads its response

`read_response` of `test_auth.cpp`.  Its LOGIN_RESP branch follows the comment above
`LoginResp`, which has no user id and no user name: it looks for the message where the
user id begins.
-/

namespace FileShareX.Client

open Wire Reader Protocol Net

/-- What a call shows on one of the two streams, if anything. -/
inductive Shown where
  | error (text : String)
  | register (ok : Bool) (msg : Bytes)
  | login (ok : Bool) (token msg : Bytes)
  | nothing
  deriving DecidableEq

/-- The branch for REGISTER_RESP; the length of the message is not checked. -/
def show_register_resp : Reader Shown := do
  let size ← Reader.size
  if size < 3 then pure (.error "ERROR: REGISTER_RESP too short")
  else do
    let first ← byte 0
    let msg_len ← readU16 1
    let msg ← bytes 3 msg_len.toNat
    pure (.register (first != 0) msg)

def read_token (size : Nat) (ok : Bool) : Reader (Bytes × Nat) :=
  let pos := 1
  if ok ∧ pos + 2 ≤ size then do
    let token_len ← readU16 pos
    let pos := pos + 2
    if pos + token_len.toNat ≤ size then do
      let token ← bytes pos token_len.toNat
      pure (token, pos + token_len.toNat)
    else pure ([], pos)
  else pure ([], pos)

def show_msg (size pos : Nat) (ok : Bool) (token : Bytes) : Reader Shown :=
  if pos + 2 ≤ size then do
    let msg_len ← readU16 pos
    let pos := pos + 2
    if pos + msg_len.toNat ≤ size then do
      let msg ← bytes pos msg_len.toNat
      pure (.login ok token msg)
    else pure .nothing
  else pure .nothing

def show_login_resp : Reader Shown := do
  let size ← Reader.size
  if size < 3 then pure (.error "ERROR: LOGIN_RESP too short")
  else do
    let first ← byte 0
    let ok := first != 0
    let (token, pos) ← read_token size ok
    show_msg size pos ok token

def show_payload (expected_type : UInt8) : Reader Shown :=
  if expected_type = 11 then show_register_resp
  else if expected_type = 13 then show_login_resp
  else pure .nothing

/-- `boost::asio::read` throws when the stream ends too early. -/
def read_response (expected_type : UInt8) (stream : Bytes) (beyond : Nat → UInt8) :
    Except String Shown :=
  match async_read HEADER_SIZE stream with
  | none => .error "read: End of file"
  | some (bytes, rest) =>
    let h := MessageHeaderWire.ofBytes bytes
    if ntohl h.magic_be ≠ MAGIC then .ok (.error "ERROR: bad magic")
    else if h.version ≠ VERSION then .ok (.error "ERROR: bad version")
    else if h.type ≠ expected_type then
      .ok (.error ("ERROR: unexpected type (got " ++ toString h.type.toNat ++ ", expected " ++
        toString expected_type.toNat ++ ")"))
    else
      let len := ntohl h.len_be
      if len.toNat > 1024 then .ok (.error "ERROR: payload too large")
      else match async_read len.toNat rest with
      | none => .error "read: End of file"
      | some (payload, _) => (show_payload expected_type).result ⟨payload, beyond⟩

/-! ### The frame around the payload -/

theorem async_read_append {n : Nat} {front : Bytes} (width : front.length = n) (rest : Bytes) :
    async_read n (front ++ rest) = some (front, rest) := by
  rw [async_read, if_pos (by rw [List.length_append]; omega), ← width, List.take_left,
    List.drop_left]

theorem read_response_frame {type : UInt8} {payload : Bytes} (small : payload.length ≤ 1024)
    (later : Bytes) (beyond : Nat → UInt8) :
    read_response type (frame type payload ++ later) beyond =
      (show_payload type).result ⟨payload, beyond⟩ := by
  have length : (UInt32.ofNat payload.length).toNat = payload.length :=
    small_payload (by unfold MAX_PAYLOAD; omega)
  have header : (make_header type (UInt32.ofNat payload.length)).toBytes.length = HEADER_SIZE := by
    simp [make_header, MessageHeaderWire.toBytes, HEADER_SIZE]
  have fields : MessageHeaderWire.ofBytes (make_header type (UInt32.ofNat payload.length)).toBytes =
      make_header type (UInt32.ofNat payload.length) :=
    header_fields (htonl_length _) (htonl_length _) (htons_length _)
  have magic : ntohl (make_header type (UInt32.ofNat payload.length)).magic_be = MAGIC :=
    ntohl_htonl MAGIC
  have version : (make_header type (UInt32.ofNat payload.length)).version = VERSION := rfl
  have typed : (make_header type (UInt32.ofNat payload.length)).type = type := rfl
  have len : ntohl (make_header type (UInt32.ofNat payload.length)).len_be =
      UInt32.ofNat payload.length := ntohl_htonl _
  rw [frame]
  generalize make_header type (UInt32.ofNat payload.length) = h at *
  unfold read_response
  rw [List.append_assoc, async_read_append header]
  dsimp only
  rw [fields, if_neg (not_not.mpr magic), if_neg (not_not.mpr version), if_neg (not_not.mpr typed),
    len, length, if_neg (Nat.not_lt.mpr small), async_read_append rfl]

/-! ### The two branches -/

variable {v : Vec}

theorem show_register_resp_serialize {resp : RegisterResp} (short : resp.msg.length ≤ 65535)
    (beyond : Nat → UInt8) :
    show_register_resp.result ⟨resp.serialize, beyond⟩ = .ok (.register resp.ok resp.msg) := by
  have present := hasAt_self resp.serialize beyond
  generalize (⟨resp.serialize, beyond⟩ : Vec) = v at present ⊢
  rw [show resp.serialize = [if resp.ok then 1 else 0] ++ counted resp.msg from rfl,
    Vec.hasAt_append] at present
  obtain ⟨flag, msg⟩ := present
  obtain ⟨field, -, fits, same⟩ := (hasAt_counted short).mp msg
  have long : ¬ v.size < 3 := by
    simp only [List.length_singleton] at field
    omega
  rw [show_register_resp, result_bind, result_size, ok_bind, if_neg long, result_bind, result_byte,
    ok_bind, byte_of_hasAt flag, flag_byte, result_bind, result_readU16, ok_bind, result_bind,
    result_bytes, ok_bind, result_pure]
  exact congrArg (fun msg => Except.ok (Shown.register resp.ok msg)) same

/-- The message is recovered where its encoding is found, and nowhere else. -/
theorem show_msg_eq {pos : Nat} {ok : Bool} {token msg : Bytes} (short : msg.length ≤ 65535) :
    (show_msg v.size pos ok token).result v = .ok (.login ok token msg) ↔
      v.HasAt pos (counted msg) := by
  have length : (UInt16.ofNat msg.length).toNat = msg.length := ofNat_length_toNat short
  rw [hasAt_counted short, show_msg]
  constructor
  · intro shown
    split at shown
    · next field =>
      rw [result_bind, result_readU16, ok_bind] at shown
      dsimp only at shown
      split at shown
      · next fits =>
        rw [result_bind, result_bytes, ok_bind, result_pure] at shown
        obtain rfl : v.slice (pos + 2) (ntohs (v.slice pos 2)).toNat = msg := by
          simpa using shown
        refine ⟨field, ?_, fits, rfl⟩
        rw [Vec.slice_length, UInt16.ofNat_toNat]
      · simp at shown
    · simp at shown
  · rintro ⟨field, -, fits, same⟩
    rw [if_pos field, result_bind, result_readU16, ok_bind]
    dsimp only
    rw [if_pos fits, result_bind, result_bytes, ok_bind, same, result_pure]

theorem read_token_refused (size : Nat) : (read_token size false).result v = .ok ([], 1) := rfl

theorem read_token_counted {token : Bytes} (short : token.length ≤ 65535)
    (present : v.HasAt 1 (counted token)) :
    (read_token v.size true).result v = .ok (token, 3 + token.length) := by
  obtain ⟨field, width, fits, same⟩ := (hasAt_counted short).mp present
  rw [width, ofNat_length_toNat short] at fits same
  rw [read_token]
  dsimp only
  rw [if_pos ⟨rfl, field⟩, result_bind, result_readU16, ok_bind, width, ofNat_length_toNat short,
    if_pos fits, result_bind, result_bytes, ok_bind, same, result_pure]

/-- The bytes between the token and the message are those in which the message is found. -/
def MsgFound (resp : LoginResp) : Prop :=
  resp.ok = false ∨ counted resp.msg <+:
    htobe64 resp.user_id.toUInt64 ++ (counted resp.username ++ counted resp.msg)

instance (resp : LoginResp) : Decidable (MsgFound resp) := by
  unfold MsgFound
  infer_instance

theorem show_login_resp_eq {ok : Bool} {token : Bytes} {pos : Nat} (long : 3 ≤ v.size)
    (first : (v.byte 0 != 0) = ok) (read : (read_token v.size ok).result v = .ok (token, pos)) :
    show_login_resp.result v = (show_msg v.size pos ok token).result v := by
  rw [show_login_resp, result_bind, result_size, ok_bind, if_neg (by omega), result_bind,
    result_byte, ok_bind, first, result_bind, read, ok_bind]

theorem show_login_resp_serialize {resp : LoginResp}
    (shortToken : resp.ok = true → resp.token.length ≤ 65535) (shortMsg : resp.msg.length ≤ 65535)
    (beyond : Nat → UInt8) :
    show_login_resp.result ⟨resp.serialize, beyond⟩ =
        .ok (.login resp.ok (if resp.ok then resp.token else []) resp.msg) ↔ MsgFound resp := by
  generalize vec : (⟨resp.serialize, beyond⟩ : Vec) = v
  have bytes : v.bytes = resp.serialize := by rw [← vec]
  obtain ⟨ok, token, user_id, username, msg⟩ := resp
  dsimp only at shortToken shortMsg ⊢
  cases ok with
  | false =>
    have shape : v.bytes = [0] ++ counted msg := by
      rw [bytes]
      rfl
    have first : v.byte 0 = 0 := by simp [Vec.byte, shape]
    have long : 3 ≤ v.size := by simp [Vec.size, shape]
    rw [show_login_resp_eq long (by rw [first]; rfl) (read_token_refused v.size)]
    refine iff_of_true ?_ (.inl rfl)
    exact (show_msg_eq shortMsg).mpr ((Vec.hasAt_append_iff shape).mpr (List.prefix_refl _))
  | true =>
    have shape : v.bytes = ([1] ++ counted token) ++
        (htobe64 user_id.toUInt64 ++ (counted username ++ counted msg)) := by
      simp [bytes, LoginResp.serialize, counted]
    have first : v.byte 0 = 1 := by simp [Vec.byte, shape]
    have long : 3 ≤ v.size := by simp [Vec.size, shape]; omega
    have present : v.HasAt 1 (counted token) :=
      (Vec.hasAt_append_iff (shape.trans (List.append_assoc ..))).mpr (List.prefix_append _ _)
    have behind : ([1] ++ counted token).length = 3 + token.length := by
      rw [List.length_append, counted_length, List.length_singleton, ← Nat.add_assoc]
    rw [show_login_resp_eq long (by rw [first]; rfl) (read_token_counted (shortToken rfl) present)]
    refine (show_msg_eq shortMsg).trans ?_
    rw [← behind, Vec.hasAt_append_iff shape]
    exact (or_iff_right Bool.noConfusion).symm

/-! ### Both responses -/

inductive AuthResp where
  | register (resp : RegisterResp)
  | login (resp : LoginResp)

namespace AuthResp

def type : AuthResp → UInt8
  | .register _ => 11
  | .login _ => 13

def serialize : AuthResp → Bytes
  | .register resp => resp.serialize
  | .login resp => resp.serialize

/-- What the client shows of it: a refused login has no token. -/
def shown : AuthResp → Shown
  | .register resp => .register resp.ok resp.msg
  | .login resp => .login resp.ok (if resp.ok then resp.token else []) resp.msg

end AuthResp

/-- A REGISTER_RESP is recovered always, a LOGIN_RESP exactly if it is a refusal or has its
message where the client looks for it. -/
theorem read_response_recovers (resp : AuthResp) (later : Bytes) (beyond : Nat → UInt8)
    (small : resp.serialize.length ≤ 1024) :
    read_response resp.type (frame resp.type resp.serialize ++ later) beyond = .ok resp.shown ↔
      ∀ login, resp = .login login → MsgFound login := by
  rw [read_response_frame small]
  cases resp with
  | register resp =>
    refine iff_of_true (show_register_resp_serialize ?_ beyond) nofun
    simp only [AuthResp.serialize, RegisterResp.serialize, List.length_append,
      List.length_cons] at small
    omega
  | login resp =>
    simp only [AuthResp.serialize, LoginResp.serialize, List.length_append,
      List.length_cons] at small
    have shortToken (ok : resp.ok = true) : resp.token.length ≤ 65535 := by
      simp only [ok, if_true, List.length_append] at small
      omega
    refine (show_login_resp_serialize shortToken (by omega) beyond).trans ?_
    exact ⟨fun found _ same => AuthResp.login.inj same ▸ found, fun found => found resp rfl⟩

/-- A login without a message, whose user id begins with two zero bytes. -/
theorem read_response_recovers_empty :
    read_response 13 (frame 13 (LoginResp.serialize ⟨true, [0x30], 7, [0x61], []⟩)) (fun _ => 0) =
      .ok (.login true [0x30] []) :=
  (read_response_recovers (.login ⟨true, [0x30], 7, [0x61], []⟩) [] (fun _ => 0) (by decide)).mpr
    fun _ same => AuthResp.login.inj same ▸ by decide

/-- The same login with a message: the client takes the first bytes of the user id for
the length of an empty one. -/
theorem read_response_loses_msg :
    ¬ ∀ (resp : AuthResp) (later : Bytes) (beyond : Nat → UInt8), resp.serialize.length ≤ 1024 →
      read_response resp.type (frame resp.type resp.serialize ++ later) beyond =
        .ok resp.shown := by
  intro all
  have short : (AuthResp.login ⟨true, [0x30], 7, [0x61], [0x6F, 0x6B]⟩).serialize.length ≤ 1024 := by
    decide
  have shown := all (.login ⟨true, [0x30], 7, [0x61], [0x6F, 0x6B]⟩) [] (fun _ => 0) short
  rw [read_response_frame short] at shown
  exact absurd ((show_login_resp_serialize (by decide) (by decide) _).mp shown) (by decide)

end FileShareX.Client

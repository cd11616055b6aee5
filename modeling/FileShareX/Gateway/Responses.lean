import FileShareX.Gateway.CoreClient
import FileShareX.Foundation.Utf8
import FileShareX.Protocol.RoundTrip

/-!
# The core's responses in the gateway's parsers

`_parse_header` and the three payload parsers of `core_client.py`.  A slice stops
at the end of its bytes, an index does not; `struct.unpack` wants exactly the bytes
of its format.
-/

namespace FileShareX.Gateway

open Wire Protocol

def HEADER_SIZE : Nat := 12

/-- What the gateway's code raises, or lets through from the library. -/
inductive PyError where
  | CoreConnectionError (text : String)
  | CoreProtocolError (text : String)
  | CoreClientError (text : String)
  | ValueError (text : String)
  | IndexError
  | structError (text : String)
  | timeout
  | socketError (text : String)
  deriving DecidableEq

abbrev Py (α : Type) : Type := Except PyError α

@[simp] theorem py_ok_bind {α β : Type} (value : α) (next : α → Py β) :
    ((.ok value : Py α) >>= next) = next value := rfl

/-- `data[start:stop]`. -/
def slice (data : Bytes) (start stop : Nat) : Bytes := (data.take stop).drop start

/-- `data[i]`. -/
def index (data : Bytes) (i : Nat) : Py UInt8 :=
  match data[i]? with
  | some byte => .ok byte
  | none => .error .IndexError

/-- `struct.unpack` with one unsigned number of the given width. -/
def unpack (width : Nat) (data : Bytes) : Py Nat :=
  if data.length = width then .ok (bigEndianValue data)
  else .error (.structError ("unpack requires a buffer of " ++ toString width ++ " bytes"))

/-- `f"{n:08x}"`. -/
def hex08 (n : Nat) : String := String.ofList ((Nat.toDigits 16 n).leftpad 8 '0')

/-- `struct.unpack(">IBBIH", data)` and the checks; the last field is not looked at. -/
def _parse_header (data : Bytes) : Py (Nat × Nat) :=
  if data.length < HEADER_SIZE then
    .error (.CoreProtocolError
      ("Header too short: " ++ toString data.length ++ " < " ++ toString HEADER_SIZE))
  else if data.length ≠ HEADER_SIZE then
    .error (.structError "unpack requires a buffer of 12 bytes")
  else
    let magic := bigEndianValue (slice data 0 4)
    let version := bigEndianValue (slice data 4 5)
    let msg_type := bigEndianValue (slice data 5 6)
    let payload_len := bigEndianValue (slice data 6 10)
    if magic ≠ MAGIC then
      .error (.CoreProtocolError ("Bad magic: 0x" ++ hex08 magic ++ " != 0x" ++ hex08 MAGIC))
    else if version ≠ VERSION then
      .error (.CoreProtocolError
        ("Bad version: " ++ toString version ++ " != " ++ toString VERSION))
    else .ok (msg_type, payload_len)

/-- The loop of `_parse_online_list_resp` with `count` rounds left, up to the decoding of
the names.  It stops at the first name that overruns the payload. -/
def onlineListFrom (payload : Bytes) : Nat → Nat → List Bytes → Py (List Bytes)
  | 0, _, usernames => .ok usernames
  | count + 1, pos, usernames =>
    if pos + 2 > payload.length then .ok usernames
    else do
      let username_len ← unpack 2 (slice payload pos (pos + 2))
      let pos := pos + 2
      if pos + username_len > payload.length then .ok usernames
      else
        let username := slice payload pos (pos + username_len)
        onlineListFrom payload count (pos + username_len) (usernames ++ [username])

/-- The names of the list, as the bytes that `decode` is called on. -/
def online_list_names (payload : Bytes) : Py (List Bytes) :=
  if payload.length < 2 then .ok []
  else do
    let count ← unpack 2 (slice payload 0 2)
    onlineListFrom payload count 2 []

def _parse_online_list_resp (payload : Bytes) : Py (List String) := do
  let usernames ← online_list_names payload
  return usernames.map decode

structure RegisterResult where
  ok : Bool
  msg : String
  deriving DecidableEq

def _parse_register_resp (payload : Bytes) : Py RegisterResult :=
  if payload.length < 3 then .error (.CoreProtocolError "REGISTER_RESP too short")
  else do
    let first ← index payload 0
    let ok := first != 0
    let msg_len ← unpack 2 (slice payload 1 3)
    if payload.length < 3 + msg_len then .error (.CoreProtocolError "REGISTER_RESP incomplete")
    else return { ok, msg := decode (slice payload 3 (3 + msg_len)) }

structure LoginResult where
  ok : Bool
  token : String := ""
  user_id : Nat := 0
  username : String := ""
  msg : String
  deriving DecidableEq

/-- A length, its check and a decoded string; `_parse_login_resp` has this three times. -/
def unpackString (payload : Bytes) (pos : Nat) (field : String) : Py (String × Nat) :=
  if pos + 2 > payload.length then
    .error (.CoreProtocolError ("LOGIN_RESP: missing " ++ field ++ "_len"))
  else do
    let len ← unpack 2 (slice payload pos (pos + 2))
    let pos := pos + 2
    if pos + len > payload.length then
      .error (.CoreProtocolError ("LOGIN_RESP: incomplete " ++ field))
    else return (decode (slice payload pos (pos + len)), pos + len)

/-- Token, user id and user name, if they are there, and the position behind them. -/
def unpackLogin (payload : Bytes) (ok : Bool) : Py (String × Nat × String × Nat) :=
  if ok then do
    let (token, pos) ← unpackString payload 1 "token"
    if pos + 8 > payload.length then .error (.CoreProtocolError "LOGIN_RESP: missing user_id")
    else
      let user_id ← unpack 8 (slice payload pos (pos + 8))
      let (username, pos) ← unpackString payload (pos + 8) "username"
      return (token, user_id, username, pos)
  else .ok ("", 0, "", 1)

def _parse_login_resp (payload : Bytes) : Py LoginResult :=
  if payload.length < 3 then .error (.CoreProtocolError "LOGIN_RESP too short")
  else do
    let first ← index payload 0
    let ok := first != 0
    let (token, user_id, username, pos) ← unpackLogin payload ok
    let (msg, _) ← unpackString payload pos "msg"
    return { ok, token, user_id, username, msg }

/-! ### Nothing but protocol errors -/

def ProtocolErrorsOnly {α : Type} (result : Py α) : Prop :=
  ∀ error, result = .error error → ∃ text, error = .CoreProtocolError text

namespace ProtocolErrorsOnly

variable {α β : Type} {result : Py α} {next : α → Py β}

theorem ok (value : α) : ProtocolErrorsOnly (.ok value : Py α) := nofun

theorem raised (text : String) : ProtocolErrorsOnly (.error (.CoreProtocolError text) : Py α) := by
  intro error raised
  cases raised
  exact ⟨text, rfl⟩

theorem bind (first : ProtocolErrorsOnly result) (second : ∀ value, ProtocolErrorsOnly (next value)) :
    ProtocolErrorsOnly (result >>= next) := by
  cases result with
  | error error =>
    intro other raised
    cases raised
    exact first error rfl
  | ok value => exact second value

theorem unpack {width : Nat} {data : Bytes} (exact : data.length = width) :
    ProtocolErrorsOnly (unpack width data) := by
  rw [Gateway.unpack, if_pos exact]
  exact ok _

end ProtocolErrorsOnly

section Slices

variable {data : Bytes} {start stop : Nat}

theorem slice_length (inside : stop ≤ data.length) : (slice data start stop).length = stop - start := by
  rw [slice, List.length_drop, List.length_take, Nat.min_eq_left inside]

theorem slice_append {front middle back : Bytes} (shape : data = front ++ (middle ++ back))
    (before : front.length = start) (behind : start + middle.length = stop) :
    slice data start stop = middle := by
  subst shape before behind
  rw [slice, ← List.append_assoc, ← List.length_append, List.take_left, List.drop_left]

theorem index_zero (nonempty : 0 < data.length) : ∃ byte, index data 0 = .ok byte := by
  obtain ⟨byte, rest, rfl⟩ := List.exists_cons_of_length_pos nonempty
  exact ⟨byte, rfl⟩

end Slices

theorem unpackString_errors (payload : Bytes) (pos : Nat) (field : String) :
    ProtocolErrorsOnly (unpackString payload pos field) := by
  unfold unpackString
  split
  · exact .raised _
  · next room =>
    refine .bind (.unpack (by rw [slice_length (by omega)]; omega)) fun len => ?_
    dsimp only
    split
    · exact .raised _
    · exact .ok _

theorem unpackLogin_errors (payload : Bytes) (ok : Bool) :
    ProtocolErrorsOnly (unpackLogin payload ok) := by
  unfold unpackLogin
  split
  · refine .bind (unpackString_errors payload 1 "token") fun (token, pos) => ?_
    dsimp only
    split
    · exact .raised _
    · next room =>
      refine .bind (.unpack (by rw [slice_length (by omega)]; omega)) fun user_id => ?_
      exact .bind (unpackString_errors payload _ "username") fun _ => .ok _
  · exact .ok _

theorem parse_register_resp_errors (payload : Bytes) :
    ProtocolErrorsOnly (_parse_register_resp payload) := by
  unfold _parse_register_resp
  split
  · exact .raised _
  · next long =>
    obtain ⟨first, read⟩ := index_zero (show 0 < payload.length by omega)
    rw [read]
    refine .bind (.ok first) fun first => ?_
    refine .bind (.unpack (by rw [slice_length (by omega)])) fun msg_len => ?_
    split
    · exact .raised _
    · exact .ok _

theorem parse_login_resp_errors (payload : Bytes) :
    ProtocolErrorsOnly (_parse_login_resp payload) := by
  unfold _parse_login_resp
  split
  · exact .raised _
  · next long =>
    obtain ⟨first, read⟩ := index_zero (show 0 < payload.length by omega)
    rw [read]
    refine .bind (.ok first) fun first => ?_
    refine .bind (unpackLogin_errors payload _) fun (token, user_id, username, pos) => ?_
    exact .bind (unpackString_errors payload pos "msg") fun _ => .ok _

end FileShareX.Gateway

import FileShareX.Foundation.Delivery
import FileShareX.Gateway.Responses

/-!
# One request and its response

`get_online_users`, `register_user` and `login_user` of `core_client.py`, and the
`try` block of `UserSessionManager.create_session`.  Each opens a socket, sends one
request and reads one response, the header with a single `recv` and the payload with
a loop.
-/

namespace FileShareX.Gateway

open Wire

def MSG_TYPE_ONLINE_LIST_REQ : Nat := 20
def MSG_TYPE_ONLINE_LIST_RESP : Nat := 21
def MSG_TYPE_REGISTER_REQ : Nat := 10
def MSG_TYPE_REGISTER_RESP : Nat := 11
def MSG_TYPE_LOGIN_REQ : Nat := 12
def MSG_TYPE_LOGIN_RESP : Nat := 13
def MSG_TYPE_PING : Nat := 2

structure Settings where
  CORE_TCP_HOST : String
  CORE_TCP_PORT : Nat

/-- What the calls on one socket come to, each `recv` by its number, and the bytes that the
other side answers with. -/
structure Connection where
  socket : Py Unit
  connect : Py Unit
  sendall : Bytes → Py Unit
  recv : Nat → Py Unit := fun _ => .ok ()
  stream : Bytes

def make_header (msg_type payload_len : Nat) : Py Bytes :=
  match _make_header msg_type payload_len with
  | some header => .ok header
  | none => .error (.structError "'I' format requires 0 <= number <= 4294967295")

def auth_request (msg_type : Nat) (payload : Except String Bytes) : Py Bytes :=
  match payload with
  | .error text => .error (.ValueError text)
  | .ok payload => do
    let header ← make_header msg_type payload.length
    return header ++ payload

def send_request (connection : Connection) (request : Py Bytes) : Py Unit := do
  connection.socket
  connection.connect
  let bytes ← request
  connection.sendall bytes

variable {α : Type}

def Connection.receive (connection : Connection) (delivery : Delivery) (n : Nat)
    (incoming : Incoming) : Py (Bytes × Incoming) := do
  connection.recv incoming.calls
  return Wire.recv delivery n incoming

def recv_payload (connection : Connection) (delivery : Delivery) (payload_len : Nat)
    (payload : Bytes) (incoming : Incoming) : Py Bytes :=
  if _ : payload.length < payload_len then
    match connection.recv incoming.calls with
    | .error error => .error error
    | .ok () =>
      let chunk := (recv delivery (payload_len - payload.length) incoming).1
      if chunk = [] then .error (.CoreProtocolError "Incomplete payload")
      else recv_payload connection delivery payload_len (payload ++ chunk)
        (recv delivery (payload_len - payload.length) incoming).2
  else .ok payload
termination_by payload_len - payload.length
decreasing_by
  have nonempty : 0 < (recv delivery (payload_len - payload.length) incoming).1.length :=
    List.length_pos_iff.mpr ‹_›
  rw [List.length_append]
  omega

def read_response (connection : Connection) (delivery : Delivery) (expected : Nat)
    (unexpected : Nat → String) (parse : Bytes → Py α) : Py α := do
  let (header_data, incoming) ← connection.receive delivery HEADER_SIZE ⟨connection.stream, 0⟩
  if header_data.length < HEADER_SIZE then
    .error (.CoreProtocolError "Incomplete response header")
  else
    let (msg_type, payload_len) ← _parse_header header_data
    if msg_type ≠ expected then .error (.CoreProtocolError (unexpected msg_type))
    else
      let payload ← recv_payload connection delivery payload_len [] incoming
      parse payload

def exchange (connection : Connection) (delivery : Delivery) (request : Py Bytes) (expected : Nat)
    (unexpected : Nat → String) (parse : Bytes → Py α) : Py α := do
  send_request connection request
  read_response connection delivery expected unexpected parse

def unexpectedType (msg_type : Nat) : String := "Unexpected message type: " ++ toString msg_type

def PyError.str : PyError → String
  | CoreConnectionError text | CoreProtocolError text | CoreClientError text | ValueError text
  | structError text | socketError text => text
  | IndexError => "index out of range"
  | timeout => "timed out"

/-! ### The three functions -/

/-- The `except` clauses of `get_online_users`. -/
def onlineError (settings : Settings) : PyError → PyError
  | .timeout => .CoreConnectionError ("Timeout connecting to Core at " ++ settings.CORE_TCP_HOST ++
      ":" ++ toString settings.CORE_TCP_PORT)
  | .socketError text => .CoreConnectionError ("Cannot connect to Core at " ++
      settings.CORE_TCP_HOST ++ ":" ++ toString settings.CORE_TCP_PORT ++ ": " ++ text)
  | .CoreProtocolError text => .CoreProtocolError text
  | error => .CoreClientError ("Unexpected error: " ++ error.str)

/-- An empty payload is not read with the loop, which would not go round. -/
def get_online_users (settings : Settings) (connection : Connection) (delivery : Delivery) :
    Py (List String) :=
  (exchange connection delivery (make_header MSG_TYPE_ONLINE_LIST_REQ 0) MSG_TYPE_ONLINE_LIST_RESP
    (fun msg_type => unexpectedType msg_type ++ " (expected " ++
      toString MSG_TYPE_ONLINE_LIST_RESP ++ ")") _parse_online_list_resp).mapError
    (onlineError settings)

/-- The `except` clauses of the other two. -/
def authError : PyError → PyError
  | .timeout => .CoreConnectionError "Timeout connecting to Core"
  | .socketError text => .CoreConnectionError ("Cannot connect to Core: " ++ text)
  | error => error

def register_user (connection : Connection) (delivery : Delivery) (username email password : String) :
    Py RegisterResult :=
  (exchange connection delivery
    (auth_request MSG_TYPE_REGISTER_REQ (register_user_payload username email password))
    MSG_TYPE_REGISTER_RESP unexpectedType _parse_register_resp).mapError authError

def login_user (connection : Connection) (delivery : Delivery) (username password : String) :
    Py LoginResult :=
  (exchange connection delivery
    (auth_request MSG_TYPE_LOGIN_REQ (login_user_payload username password))
    MSG_TYPE_LOGIN_RESP unexpectedType _parse_login_resp).mapError authError

/-- `create_session` up to the result of the login. -/
def session_login (connection : Connection) (delivery : Delivery) (username password : String) :
    Py LoginResult :=
  exchange connection delivery
    (auth_request MSG_TYPE_LOGIN_REQ (create_session_payload username password))
    MSG_TYPE_LOGIN_RESP unexpectedType _parse_login_resp

end FileShareX.Gateway

import FileShareX.Foundation.Text

/-!
# The gateway's side of the protocol

`core_client.py`.  `struct.pack` raises when a number does not fit its field.
-/

namespace FileShareX.Gateway

open Wire

def MAGIC : Nat := 0x46535831
def VERSION : Nat := 1

/-- `struct.pack(">IBBIH", MAGIC, VERSION, msg_type, payload_len, 0)`. -/
def _make_header (msg_type payload_len : Nat) : Option Bytes :=
  if msg_type < 256 ∧ payload_len < 2 ^ 32 then
    some (bigEndian 4 MAGIC ++ bigEndian 1 VERSION ++ bigEndian 1 msg_type ++
      bigEndian 4 payload_len ++ bigEndian 2 0)
  else none

/-- A string behind its length, `struct.pack(">H", len(text))`, or a `ValueError`. -/
def packString (text : Bytes) (error : String) : Except String Bytes :=
  if text.length > 65535 then .error error else .ok (bigEndian 2 text.length ++ text)

/-- `if email` is false of the empty string. -/
def _make_auth_payload (username password : String) (email : String := "") :
    Except String Bytes := do
  let username ← packString (utf8 username) "Username too long"
  let email ← if email ≠ "" then packString (utf8 email) "Email too long" else .ok []
  let password ← packString (utf8 password) "Password too long"
  return username ++ email ++ password

/-! The payloads behind the headers that the three callers send. -/

def register_user_payload (username email password : String) : Except String Bytes :=
  _make_auth_payload username password email

def login_user_payload (username password : String) : Except String Bytes :=
  _make_auth_payload username password

def create_session_payload (username password : String) : Except String Bytes :=
  _make_auth_payload username password

end FileShareX.Gateway

import FileShareX.Protocol.Message

/-!
# Registration and login messages

`auth_messages.h`.  A `std::string` is a byte list; a parser is a `Reader`, so
that reads past the payload stay visible.
-/

namespace FileShareX.Protocol

open Wire Reader

structure RegisterReq where
  username : Bytes
  email : Bytes
  password : Bytes
  deriving DecidableEq

def RegisterReq.deserialize : Reader RegisterReq := do
  let size ← Reader.size
  throwIf (size < 6) "REGISTER_REQ: payload too short"
  let pos := 0
  let username_len ← readU16 pos
  let pos := pos + 2
  throwIf (pos + username_len.toNat > size) "REGISTER_REQ: invalid username_len"
  let username ← bytes pos username_len.toNat
  let pos := pos + username_len.toNat
  throwIf (pos + 2 > size) "REGISTER_REQ: missing email_len"
  let email_len ← readU16 pos
  let pos := pos + 2
  throwIf (pos + email_len.toNat > size) "REGISTER_REQ: invalid email_len"
  let email ← bytes pos email_len.toNat
  let pos := pos + email_len.toNat
  throwIf (pos + 2 > size) "REGISTER_REQ: missing password_len"
  let password_len ← readU16 pos
  let pos := pos + 2
  throwIf (pos + password_len.toNat > size) "REGISTER_REQ: invalid password_len"
  let password ← bytes pos password_len.toNat
  pure { username, email, password }

structure RegisterResp where
  ok : Bool
  msg : Bytes
  deriving DecidableEq

def RegisterResp.serialize (resp : RegisterResp) : Bytes :=
  (if resp.ok then 1 else 0) :: htons (UInt16.ofNat resp.msg.length) ++ resp.msg

structure LoginReq where
  username : Bytes
  password : Bytes
  deriving DecidableEq

def LoginReq.deserialize : Reader LoginReq := do
  let size ← Reader.size
  throwIf (size < 4) "LOGIN_REQ: payload too short"
  let pos := 0
  let username_len ← readU16 pos
  let pos := pos + 2
  throwIf (pos + username_len.toNat > size) "LOGIN_REQ: invalid username_len"
  let username ← bytes pos username_len.toNat
  let pos := pos + username_len.toNat
  throwIf (pos + 2 > size) "LOGIN_REQ: missing password_len"
  let password_len ← readU16 pos
  let pos := pos + 2
  throwIf (pos + password_len.toNat > size) "LOGIN_REQ: invalid password_len"
  let password ← bytes pos password_len.toNat
  pure { username, password }

/-- `token`, `user_id` and `username` are sent only when `ok`. -/
structure LoginResp where
  ok : Bool
  token : Bytes := []
  user_id : Int64 := 0
  username : Bytes := []
  msg : Bytes
  deriving DecidableEq

def LoginResp.serialize (resp : LoginResp) : Bytes :=
  (if resp.ok then 1 else 0) ::
    (if resp.ok then
      htons (UInt16.ofNat resp.token.length) ++ resp.token ++
      htobe64 resp.user_id.toUInt64 ++
      htons (UInt16.ofNat resp.username.length) ++ resp.username
    else []) ++
    htons (UInt16.ofNat resp.msg.length) ++ resp.msg

end FileShareX.Protocol

import FileShareX.Auth.PasswordHash
import FileShareX.Net.AuthHandler

/-!
# The password reset service

`services/password_reset.py` and the two routes of `api/routes_admin.py` that use
it.  A route runs to its end before the next one starts, but every service function
opens a connection of its own, and each call on that connection may raise.
-/

namespace FileShareX.Gateway

open Wire Auth

structure ResetToken where
  user_id : Int64
  token : String
  email : String
  expires_at : Int
  used : Bool := false
  deriving DecidableEq

inductive Write where
  | issue (token : String) (user_id : Int64)
  | markUsed (token : String)
  | setPassword (user_id : Int64) (pass_hash : Bytes)
  deriving DecidableEq

/-- The two tables the service works on, and the writes committed so far. -/
structure ResetDb where
  users : List Net.UserRow := []
  password_reset_tokens : List ResetToken := []
  journal : List Write := []

/-- A commit that raises may have been lost before or after the server obeyed it. -/
inductive Commit where
  | done
  | refused
  | unconfirmed
  deriving DecidableEq

/-- The answers on one connection: `false` raises.  `select` is the query a function
reads with, `execute` the statement it writes with. -/
structure Calls where
  connect : Bool := true
  select : Bool := true
  execute : Bool := true
  commit : Commit := .done
  rollback : Bool := true
  close : Bool := true

/-- `conn.commit()` and the `return` behind it. -/
def Commit.apply {α : Type} (commit : Commit) (before after : ResetDb) (value : α) :
    ResetDb × Option α :=
  match commit with
  | .done => (after, some value)
  | .refused => (before, none)
  | .unconfirmed => (after, none)

/-- The frame of every service function: the body between connecting and closing, the
fallback returned after a rollback, and `none` for an exception that leaves it. -/
def withConnection {α : Type} (calls : Calls) (db : ResetDb) (fallback : α)
    (body : ResetDb × Option α) : ResetDb × Option α :=
  if !calls.connect then (db, some fallback)
  else
    let answer := match body.2 with
      | some value => some value
      | none => if calls.rollback then some fallback else none
    (body.1, if calls.close then answer else none)

/-- psycopg2 refuses a string that holds a NUL. -/
def adaptable (text : String) : Bool := !text.toList.contains '\x00'

/-- One hour of `TIMESTAMPTZ`, which counts microseconds. -/
def hour : Int := 3600 * 10 ^ 6

/-- `token` is what `secrets.token_urlsafe` gives, and its column is unique. -/
def create_reset_token (calls : Calls) (db : ResetDb) (now : Int) (token email : String) :
    ResetDb × Option (Option String) :=
  withConnection calls db none <|
    if !calls.select || !adaptable email then (db, none)
    else match db.users.find? fun user => user.email == utf8 email with
      | none => (db, some none)
      | some user =>
        if !calls.execute || db.password_reset_tokens.any fun row => row.token == token then
          (db, none)
        else
          let row : ResetToken := ⟨user.id, token, email, now + hour, false⟩
          calls.commit.apply db
            { db with password_reset_tokens := db.password_reset_tokens ++ [row]
                      journal := db.journal ++ [.issue token user.id] } (some token)

structure UserInfo where
  user_id : Int64
  username : Bytes
  email : String

/-- The join of a token with its user. -/
def ResetDb.tokenRow (db : ResetDb) (token : String) : Option (ResetToken × Net.UserRow) :=
  db.password_reset_tokens.findSome? fun row =>
    if row.token == token then
      (db.users.find? fun user => user.id == row.user_id).map fun user => (row, user)
    else none

/-- Its `except` clause has no rollback. -/
def validate_reset_token (calls : Calls) (db : ResetDb) (now : Int) (token : String) :
    Option (Option UserInfo) :=
  (withConnection { calls with rollback := true } db none <|
    if !calls.select || !adaptable token then (db, none)
    else match db.tokenRow token with
      | none => (db, some none)
      | some (row, user) =>
        if now > row.expires_at then (db, some none)
        else if row.used then (db, some none)
        else (db, some (some ⟨row.user_id, user.username, row.email⟩))).2

def mark_token_used (calls : Calls) (db : ResetDb) (token : String) : ResetDb × Option Bool :=
  withConnection calls db false <|
    if !calls.execute || !adaptable token then (db, none)
    else calls.commit.apply db
      { db with
        password_reset_tokens := db.password_reset_tokens.map fun row =>
          if row.token == token then { row with used := true } else row
        journal := db.journal ++ [.markUsed token] } true

/-- `hashlib.pbkdf2_hmac` raises for a password longer than an `int` can count. -/
def pass_hash_stored (crypto : Crypto) (new_password : Bytes) (salt : Vector UInt8 16) :
    Option Bytes :=
  if new_password.length ≥ 2 ^ 31 then none
  else
    let iters := 100000
    let dk := crypto.pbkdf2 new_password salt.toList iters 32
    some (ascii "pbkdf2$" ++ decimal iters ++ ascii "$" ++ hex salt.toList ++ ascii "$" ++ hex dk)

def change_user_password (crypto : Crypto) (calls : Calls) (db : ResetDb) (salt : Vector UInt8 16)
    (user_id : Int64) (new_password : String) : ResetDb × Option Bool :=
  match pass_hash_stored crypto (utf8 new_password) salt with
  | none => (db, some false)
  | some stored =>
    withConnection calls db false <|
      if !calls.execute then (db, none)
      else calls.commit.apply db
        { db with
          users := db.users.map fun user =>
            if user.id == user_id then { user with pass_hash := stored } else user
          journal := db.journal ++ [.setPassword user_id stored] } true

structure Reply where
  ok : Bool
  msg : String
  deriving DecidableEq

structure Mail where
  email : String
  reset_token : String
  username : Bytes
  deriving DecidableEq

structure ForgotEnv where
  now : Int
  token : String
  create : Calls := {}
  lookup : Calls := {}

/-- The answer says the same for every outcome. -/
def forgot_password (db : ResetDb) (email : String) (env : ForgotEnv) :
    ResetDb × Reply × Option Mail :=
  let reply : Reply :=
    ⟨true, "If the email exists in our system, a password reset link has been sent."⟩
  match create_reset_token env.create db env.now env.token email with
  | (db, some (some token)) =>
    if token = "" then (db, reply, none)
    else
      let username :=
        if env.lookup.connect && env.lookup.select && adaptable email && env.lookup.close then
          match db.users.find? fun user => user.email == utf8 email with
          | some user => user.username
          | none => utf8 email
        else utf8 email
      (db, reply, some ⟨email, token, username⟩)
  | (db, _) => (db, reply, none)

structure ResetEnv where
  now : Int
  salt : Vector UInt8 16
  validate : Calls := {}
  change : Calls := {}
  mark : Calls := {}

def reset_password (crypto : Crypto) (db : ResetDb) (token new_password : String)
    (env : ResetEnv) : ResetDb × Reply :=
  let failure : Reply := ⟨false, "An error occurred while resetting your password."⟩
  match validate_reset_token env.validate db env.now token with
  | none => (db, failure)
  | some none => (db, ⟨false, "Invalid or expired reset token."⟩)
  | some (some user_info) =>
    if new_password.length < 6 then (db, ⟨false, "Password must be at least 6 characters."⟩)
    else
      match change_user_password crypto env.change db env.salt user_info.user_id new_password with
      | (db, none) => (db, failure)
      | (db, some false) => (db, ⟨false, "Failed to update password. Please try again."⟩)
      | (db, some true) =>
        -- The answer of `mark_token_used` is dropped; only its exceptions matter.
        match mark_token_used env.mark db token with
        | (db, none) => (db, failure)
        | (db, some _) =>
          (db, ⟨true,
            "Password has been reset successfully. You can now login with your new password."⟩)

end FileShareX.Gateway

import FileShareX.Foundation.Path
import FileShareX.Protocol.AuthMessages

/-!
# Registration and login

`auth_handler.cpp` over `user_repository.cpp` and `session_repository.cpp`.
The two tables are explicit; the answers of the database connection, of OpenSSL
and of the password functions are arguments.  Every text parameter reaches the
database as a C string.
-/

namespace FileShareX.Net

open Wire Posix Protocol

structure UserRow where
  id : Int64
  username : Bytes
  email : Bytes
  pass_hash : Bytes
  deriving DecidableEq

/-- The `users` table, its id sequence, and the tokens of the `sessions` table. -/
structure Db where
  users : List UserRow := []
  next_user_id : Int64 := 1
  tokens : List Bytes := []

/-- What is not decided by the tables: `some text` is an exception with that text. -/
structure AuthEnv where
  query : Option String := none
  insert : Option String := none
  conflict : String := ""
  rand : Option (Vector UInt8 32) := none
  hash_password_pbkdf2 : Bytes → Except String Bytes := fun _ => .error "RAND_bytes(salt) failed"
  verify_password_pbkdf2 : Bytes → Bytes → Except String Bool := fun _ _ => .ok false

namespace Db

def get_user_by_username (db : Db) (username : Bytes) (env : AuthEnv) :
    Except String (Option UserRow) :=
  match env.query with
  | some text => .error text
  | none => .ok (db.users.find? fun row => row.username == cString username)

def create_user (db : Db) (username email pass_hash : Bytes) (env : AuthEnv) :
    Except String (Db × Int64) :=
  match env.insert with
  | some text => .error text
  | none =>
    let row : UserRow := ⟨db.next_user_id, cString username, cString email, cString pass_hash⟩
    if db.users.any fun other => other.username == row.username || other.email == row.email then
      .error ("create_user: " ++ env.conflict)
    else .ok ({ db with users := db.users ++ [row], next_user_id := db.next_user_id + 1 }, row.id)

/-- The column `token` is unique, so a token already issued is refused. -/
def create_session (db : Db) (env : AuthEnv) : Except String (Db × Bytes) :=
  match env.rand with
  | none => .error "RAND_bytes failed"
  | some buf =>
    let token := hex buf.toList
    match env.insert with
    | some text => .error text
    | none =>
      if token ∈ db.tokens then .error ("create_session: " ++ env.conflict)
      else .ok ({ db with tokens := token :: db.tokens }, token)

end Db

namespace AuthHandler

def handle_register (db : Db) (req : RegisterReq) (env : AuthEnv) : Except String (Db × RegisterResp) :=
  if req.username = [] ∨ req.username.length > 64 then
    .ok (db, ⟨false, ascii "username must be 1-64 characters"⟩)
  else if req.password = [] ∨ req.password.length > 128 then
    .ok (db, ⟨false, ascii "password must be 1-128 characters"⟩)
  else do
    let existing ← db.get_user_by_username req.username env
    if existing.isSome then
      .ok (db, ⟨false, ascii "username already exists"⟩)
    else if req.email = [] ∨ req.email.length > 255 then
      .ok (db, ⟨false, ascii "email must be 1-255 characters"⟩)
    else
      let created : Except String (Db × Int64) := do
        let pass_hash ← env.hash_password_pbkdf2 req.password
        db.create_user req.username req.email pass_hash env
      match created with
      | .ok (db, _) => .ok (db, ⟨true, ascii "user created successfully"⟩)
      | .error text => .ok (db, ⟨false, ascii ("registration failed: " ++ text)⟩)

def handle_login (db : Db) (req : LoginReq) (env : AuthEnv) : Except String (Db × LoginResp) :=
  if req.username = [] ∨ req.password = [] then
    .ok (db, { ok := false, msg := ascii "username and password required" })
  else do
    let user ← db.get_user_by_username req.username env
    match user with
    | none => .ok (db, { ok := false, msg := ascii "invalid username or password" })
    | some user => do
      let verified ← env.verify_password_pbkdf2 req.password user.pass_hash
      if !verified then
        .ok (db, { ok := false, msg := ascii "invalid username or password" })
      else
        match db.create_session env with
        | .ok (db, token) =>
          .ok (db, { ok := true, token, user_id := user.id, username := user.username
                     msg := ascii "login successful" })
        | .error text => .ok (db, { ok := false, msg := ascii ("login failed: " ++ text) })

end AuthHandler

/-- The lengths that `handle_register` asks for. -/
def Acceptable (req : RegisterReq) : Prop :=
  (1 ≤ req.username.length ∧ req.username.length ≤ 64)
    ∧ (1 ≤ req.password.length ∧ req.password.length ≤ 128)
    ∧ 1 ≤ req.email.length ∧ req.email.length ≤ 255

instance (req : RegisterReq) : Decidable (Acceptable req) := inferInstanceAs (Decidable (_ ∧ _))

theorem length_in_range {text : Bytes} {most : Nat} (valid : ¬(text = [] ∨ text.length > most)) :
    1 ≤ text.length ∧ text.length ≤ most := by
  rw [not_or] at valid
  exact ⟨List.length_pos_iff.mpr valid.1, Nat.not_lt.mp valid.2⟩

variable {db db' : Db} {env : AuthEnv}

theorem Db.create_user_spec {username email pass_hash : Bytes} {id : Int64}
    (created : db.create_user username email pass_hash env = .ok (db', id)) :
    db'.users = db.users ++
        [⟨db.next_user_id, cString username, cString email, cString pass_hash⟩]
      ∧ db'.tokens = db.tokens := by
  unfold create_user at created
  split at created
  · cases created
  · dsimp only at created
    split at created
    · cases created
    · cases created
      exact ⟨rfl, rfl⟩

theorem AuthHandler.handle_register_spec {req : RegisterReq} {resp : RegisterResp}
    (handled : handle_register db req env = .ok (db', resp)) :
    (resp.ok = false ∧ db' = db) ∨
      (resp.ok = true ∧ Acceptable req
        ∧ ∃ pass_hash, env.hash_password_pbkdf2 req.password = .ok pass_hash
          ∧ db'.users = db.users ++
            [⟨db.next_user_id, cString req.username, cString req.email, cString pass_hash⟩]
          ∧ db'.tokens = db.tokens) := by
  unfold handle_register at handled
  split at handled
  · cases handled
    exact .inl ⟨rfl, rfl⟩
  · next username =>
    split at handled
    · cases handled
      exact .inl ⟨rfl, rfl⟩
    · next password =>
      obtain ⟨existing, -, handled⟩ := Reader.bind_eq_ok.mp handled
      split at handled
      · cases handled
        exact .inl ⟨rfl, rfl⟩
      · split at handled
        · cases handled
          exact .inl ⟨rfl, rfl⟩
        · next email =>
          dsimp only at handled
          split at handled
          · next db'' id made =>
            cases handled
            obtain ⟨pass_hash, hashed, made⟩ := Reader.bind_eq_ok.mp made
            exact .inr ⟨rfl, ⟨length_in_range username, length_in_range password,
              length_in_range email⟩, pass_hash, hashed, Db.create_user_spec made⟩
          · cases handled
            exact .inl ⟨rfl, rfl⟩

/-- A login is refused and changes nothing, or answers with the row it has found and a
session of its own. -/
theorem AuthHandler.handle_login_spec {req : LoginReq} {resp : LoginResp}
    (handled : handle_login db req env = .ok (db', resp)) :
    (resp.ok = false ∧ resp.username = [] ∧ db' = db) ∨
      (resp.ok = true ∧ ∃ user, db.get_user_by_username req.username env = .ok (some user)
        ∧ resp.username = user.username ∧ db.create_session env = .ok (db', resp.token)) := by
  unfold handle_login at handled
  split at handled
  · cases handled
    exact .inl ⟨rfl, rfl, rfl⟩
  · obtain ⟨found, looked, handled⟩ := Reader.bind_eq_ok.mp handled
    cases found with
    | none =>
      cases handled
      exact .inl ⟨rfl, rfl, rfl⟩
    | some user =>
      obtain ⟨verified, -, handled⟩ := Reader.bind_eq_ok.mp handled
      split at handled
      · cases handled
        exact .inl ⟨rfl, rfl, rfl⟩
      · split at handled
        · next created =>
          cases handled
          exact .inr ⟨rfl, user, looked, rfl, created⟩
        · cases handled
          exact .inl ⟨rfl, rfl, rfl⟩

end FileShareX.Net

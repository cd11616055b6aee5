import FileShareX.Net.Accounts
import FileShareX.Net.Registration

/-!
# What a login asks for

A login is decided by the row of its name alone: it succeeds exactly when PBKDF2
makes of its password what it made of the one the row was written for.
-/

namespace FileShareX.Net

open Wire Posix Protocol Auth

/-- The password functions over one library, with the salt of this call. -/
def AuthEnv.using (env : AuthEnv) (crypto : Crypto) (salt : Option (Vector UInt8 16)) : AuthEnv :=
  { env.hashing crypto salt with
    verify_password_pbkdf2 := Auth.verify_password_pbkdf2 crypto }

def Label.using (crypto : Crypto) (salt : Option (Vector UInt8 16)) : Label → Label
  | .receive conn type payload env =>
    .receive conn type payload { env with auth := env.auth.using crypto salt }
  | label => label

def Happening.using (crypto : Crypto) (salt : Option (Vector UInt8 16)) : Happening → Happening
  | .serve label => .serve (label.using crypto salt)
  | happening => happening

/-- A password with the salt and the iteration count it was stored with. -/
structure Secret where
  password : Bytes
  salt : Vector UInt8 16
  iters : Nat
  deriving DecidableEq

def Secret.stored (crypto : Crypto) (secret : Secret) : Bytes :=
  storedText secret.iters secret.salt.toList
    (crypto.pbkdf2 secret.password secret.salt.toList secret.iters 32)

/-- PBKDF2 does not tell the password from that of the secret. -/
def Secret.Opens (crypto : Crypto) (secret : Secret) (password : Bytes) : Prop :=
  crypto.pbkdf2 password secret.salt.toList secret.iters 32 =
    crypto.pbkdf2 secret.password secret.salt.toList secret.iters 32

instance (crypto : Crypto) (secret : Secret) (password : Bytes) :
    Decidable (secret.Opens crypto password) := inferInstanceAs (Decidable (_ = _))

variable {crypto : Crypto} {secret : Secret} {password stored : Bytes}

theorem Secret.verify_stored (positive : 0 < secret.iters) (inRange : secret.iters < 2 ^ 31)
    (fits : password.length < 2 ^ 31) :
    verify_password_pbkdf2 crypto password (secret.stored crypto) =
      .ok (decide (secret.Opens crypto password)) := by
  have positive' : (0 : Int) < secret.iters := by omega
  rw [stored, verify_storedText crypto password positive' (by omega) secret.salt
    (crypto.pbkdf2_length _ _ _ _), crypto.accepts_of_lt fits secret.salt positive']
  simp only [Option.some.injEq, Int.toNat_natCast]
  rfl

theorem hashing_stored {label : Label} {salt : Option (Vector UInt8 16)} (fits : password.length < 2 ^ 31)
    (hashed : (label.using crypto salt).env.auth.hash_password_pbkdf2 password = .ok stored) :
    ∃ drawn, salt = some drawn ∧ cString stored = Secret.stored crypto ⟨password, drawn, 120000⟩ := by
  cases label with
  | receive conn type payload env =>
    cases salt with
    | none => cases hashed
    | some drawn =>
      obtain ⟨dk, derived, rfl⟩ := hash_password_eq_ok.mp hashed
      rw [crypto.accepts_of_lt fits drawn (by decide)] at derived
      refine ⟨drawn, rfl, ?_⟩
      rw [cString_eq_self (zero_notMem_storedText _ _ _), ← Option.some.inj derived]
      rfl
  | _ => cases hashed

/-- The database answers, and the token drawn is a new one. -/
structure AuthEnv.Answers (env : AuthEnv) (db : Db) (token : Bytes) : Prop where
  query : env.query = none
  insert : env.insert = none
  drawn : ∃ buf, env.rand = some buf ∧ token = hex buf.toList
  fresh : token ∉ db.tokens

theorem Db.WellFormed.find_user {db : Db} (wellFormed : db.WellFormed) {row : UserRow}
    (member : row ∈ db.users) :
    (db.users.find? fun other => other.username == row.username) = some row := by
  cases found : db.users.find? fun other => other.username == row.username with
  | none =>
    have differs := List.find?_eq_none.mp found row member
    simp at differs
  | some other =>
    have same : other.username = row.username := by simpa using List.find?_some found
    rw [List.inj_on_of_nodup_map wellFormed.usernames (List.mem_of_find?_eq_some found) member same]

theorem Db.create_session_length {db after : Db} {env : AuthEnv} {token : Bytes}
    (created : db.create_session env = .ok (after, token)) : token.length = 64 := by
  unfold create_session at created
  split at created
  · cases created
  · dsimp only at created
    split at created
    · cases created
    · split at created
      · cases created
      · cases created
        rw [hex_length, Vector.length_toList]

/-- With a row of its name there, a login is what the verifier makes of the password. -/
theorem AuthHandler.handle_login_eq {db : Db} {req : LoginReq} {env : AuthEnv} {row : UserRow}
    {token : Bytes} {verified : Bool} (wellFormed : db.WellFormed) (answers : env.Answers db token)
    (member : row ∈ db.users) (named : cString req.username = row.username)
    (username : req.username ≠ []) (password : req.password ≠ [])
    (verifies : env.verify_password_pbkdf2 req.password row.pass_hash = .ok verified) :
    handle_login db req env = .ok
      (if verified then
        ({ db with tokens := token :: db.tokens },
          { ok := true, token, user_id := row.id, username := row.username
            msg := ascii "login successful" })
      else (db, { ok := false, msg := ascii "invalid username or password" })) := by
  have looked : db.get_user_by_username req.username env = .ok (some row) := by
    rw [Db.get_user_by_username, answers.query, named, wellFormed.find_user member]
  obtain ⟨buf, drawn, rfl⟩ := answers.drawn
  have created : db.create_session env =
      .ok ({ db with tokens := hex buf.toList :: db.tokens }, hex buf.toList) := by
    simp [Db.create_session, drawn, answers.insert, answers.fresh]
  unfold handle_login
  rw [if_neg (by simp [username, password]), looked, Reader.ok_bind]
  dsimp only
  rw [verifies, Reader.ok_bind]
  cases verified with
  | false => rfl
  | true =>
    rw [if_neg (by decide), created]
    rfl

namespace Server

/-- The password of the account that a REGISTER_REQ makes. -/
def registered (server : Server) (payload : Vec) (env : Env) : Option Bytes :=
  match RegisterReq.deserialize.result payload with
  | .error _ => none
  | .ok req =>
    match AuthHandler.handle_register server.db req env.auth with
    | .error _ => none
    | .ok (_, resp) => if resp.ok then some req.password else none

def registers (server : Server) : Label → Option Bytes
  | .receive conn type payload env =>
    if (server.live conn).isSome ∧ server.reading conn ∧ type = MsgType.REGISTER_REQ.code then
      server.registered payload env
    else none
  | _ => none

/-- A step without a registration leaves the rows alone, and one with a registration adds
one with the hash of its password. -/
inductive Registers (server : Server) (env : Env) (after : Server) : Option Bytes → Prop
  | nothing (users : after.db.users = server.db.users) : server.Registers env after none
  | account {password pass_hash : Bytes} {row : UserRow} (short : password.length ≤ 128)
      (hashed : env.auth.hash_password_pbkdf2 password = .ok pass_hash)
      (id : row.id = server.db.next_user_id) (stored : row.pass_hash = cString pass_hash)
      (users : after.db.users = server.db.users ++ [row]) :
      server.Registers env after (some password)

variable {server : Server} {conn : ConnId} {self : TcpSession} {payload : Vec} {env : Env}

theorem handle_register_req_registers :
    server.Registers env (server.handle_register_req conn payload env).1
      (server.registered payload env) := by
  unfold handle_register_req registered
  dsimp only
  cases parsed : RegisterReq.deserialize.result payload with
  | error what => exact .nothing rfl
  | ok req =>
    rw [Reader.ok_bind]
    dsimp only
    cases handled : AuthHandler.handle_register server.db req env.auth with
    | error what => exact .nothing rfl
    | ok answer =>
      obtain ⟨db, resp⟩ := answer
      dsimp only
      obtain ⟨refused, rfl⟩ | ⟨ok, valid, pass_hash, hashed, users, -⟩ :=
        AuthHandler.handle_register_spec handled
      · rw [if_neg (by simp [refused])]
        exact .nothing rfl
      · rw [if_pos ok]
        exact .account valid.2.1.2 hashed rfl rfl users

theorem SameAuth.registers {after : Server} (same : server.SameAuth after) :
    server.Registers env after none :=
  .nothing (by rw [same.db])

theorem handle_login_req_users :
    (server.handle_login_req conn self payload env).1.db.users = server.db.users := by
  unfold handle_login_req
  dsimp only
  split
  · rfl
  · next handled =>
    obtain ⟨req, -, handled⟩ := Reader.bind_eq_ok.mp handled
    have users := (AuthHandler.handle_login_account handled).1.1
    split <;> exact users

theorem handle_message_registers (type : UInt8) :
    server.Registers env (server.handle_message conn self payload env type).1
      (if type = MsgType.REGISTER_REQ.code then server.registered payload env else none) := by
  unfold handle_message
  cases known : MsgType.ofCode? type with
  | none =>
    rw [if_neg (by rintro rfl; cases known)]
    exact .nothing rfl
  | some kind =>
    rw [← MsgType.code_of_ofCode? known]
    cases kind with
    | REGISTER_REQ => exact handle_register_req_registers
    | LOGIN_REQ => exact .nothing handle_login_req_users
    | FILE_OFFER_REQ => exact handle_file_offer_req_sameAuth.registers
    | FILE_ACCEPT_REQ => exact handle_file_accept_req_sameAuth.registers
    | FILE_CHUNK => exact handle_file_chunk_sameAuth.registers
    | FILE_DONE => exact handle_file_done_sameAuth.registers
    | _ => exact .nothing rfl

theorem step_registers (server : Server) (label : Label) :
    server.Registers label.env (server.step label).1 (server.registers label) := by
  cases label with
  | receive conn type payload env =>
    unfold step registers
    dsimp only
    split
    · next gone =>
      rw [if_neg (by simp [gone])]
      exact .nothing rfl
    · next self alive =>
      by_cases reading : server.reading conn = true
      · rw [if_pos reading]
        have handled := @handle_message_registers server conn self payload env type
        by_cases register : type = MsgType.REGISTER_REQ.code
        · rw [if_pos register] at handled
          rwa [if_pos ⟨by rw [alive]; rfl, reading, register⟩]
        · rw [if_neg register] at handled
          rwa [if_neg fun all => register all.2.2]
      · rw [if_neg reading, if_neg fun all => reading all.2.1]
        exact .nothing rfl
  | connect => exact .nothing rfl
  | disconnect conn reason => exact .nothing (congrArg Db.users disconnect_db)
  | release conn => exact .nothing (congrArg Db.users release_db)

end Server

namespace Installation

variable {state : Installation}

def registers (state : Installation) : Happening → Option Bytes
  | .serve label => if state.up then state.process.server.registers label else none
  | _ => none

theorem step_registers (state : Installation) (happening : Happening) :
    (state.registers happening = none ∧
        (state.step happening).process.server.db.users = state.process.server.db.users) ∨
      ∃ label password, happening = .serve label ∧ state.registers happening = some password ∧
        state.process.server.Registers label.env (state.step happening).process.server
          (some password) := by
  cases happening with
  | serve label =>
    cases up : state.up with
    | false => exact .inl ⟨by simp [registers, up], by simp [step, up]⟩
    | true =>
      have taken := state.process.server.step_registers label
      have stepped : (state.step (.serve label)).process.server =
          (state.process.server.step label).1 := by
        simp only [step, up, if_true]
        rfl
      cases made : state.process.server.registers label with
      | none =>
        rw [made] at taken
        cases taken with
        | nothing users => exact .inl ⟨by simp [registers, up, made], by rw [stepped, users]⟩
      | some password =>
        rw [made, ← stepped] at taken
        exact .inr ⟨label, password, rfl, by simp [registers, up, made], taken⟩
  | exit flushed =>
    refine .inl ⟨rfl, ?_⟩
    unfold step
    dsimp only
    split <;> rfl
  | start io =>
    refine .inl ⟨rfl, ?_⟩
    unfold step
    dsimp only
    split
    · rfl
    · split
      · next started => rw [(Server.boot_fresh started).1]
      · rfl

end Installation

end FileShareX.Net

import FileShareX.Auth.StoredPassword
import FileShareX.Net.Server
import FileShareX.Protocol.Grammar

/-!
# What a registration stores

The parser and the length checks work on counted strings, the database receives C
strings.  A request whose username and email have no NUL is stored as it was checked.
-/

namespace FileShareX.Net

open Wire Posix Protocol Auth

/-- `hash_password_pbkdf2` with its default iteration count, and the salt of this call. -/
def AuthEnv.hashing (env : AuthEnv) (crypto : Crypto) (salt : Option (Vector UInt8 16)) :
    AuthEnv :=
  { env with hash_password_pbkdf2 := fun password => Auth.hash_password_pbkdf2 crypto salt password }

/-- The row that a registration owes to its request. -/
structure UserRow.Holds (row : UserRow) (crypto : Crypto) (req : RegisterReq) : Prop where
  username : row.username = req.username
  email : row.email = req.email
  username_length : 1 ≤ row.username.length ∧ row.username.length ≤ 64
  email_length : 1 ≤ row.email.length ∧ row.email.length ≤ 255
  verifies : verify_password_pbkdf2 crypto req.password row.pass_hash = .ok true

/-- The answer to one payload, whatever the table holds and the libraries do. -/
def Server.RegistersFaithfully (server : Server) (payload : Vec) : Prop :=
  ∀ (db : Db) (crypto : Crypto) (salt : Option (Vector UInt8 16)) (conn : ConnId) (env : Env),
    let outcome := { server with db }.handle_register_req conn payload
      { env with auth := env.auth.hashing crypto salt }
    ∃ resp, outcome.2 = [.sent conn (.registerResp resp)] ∧
      if resp.ok then
        ∃ req row, RegisterReq.deserialize.result payload = .ok req ∧
          outcome.1.db.users = db.users ++ [row] ∧ row.Holds crypto req
      else outcome.1.db.users = db.users

theorem hashing_spec {env : AuthEnv} {crypto : Crypto} {salt : Option (Vector UInt8 16)}
    {password pass_hash : Bytes}
    (hashed : (env.hashing crypto salt).hash_password_pbkdf2 password = .ok pass_hash) :
    cString pass_hash = pass_hash ∧
      verify_password_pbkdf2 crypto password pass_hash = .ok true := by
  cases salt with
  | none => cases hashed
  | some salt =>
    refine ⟨cString_eq_self ?_, own_password_verifies (by decide) (by decide) hashed⟩
    obtain ⟨dk, -, rfl⟩ := hash_password_eq_ok.mp hashed
    exact zero_notMem_storedText _ _ _

theorem Server.registersFaithfully_of_noNul {server : Server} {payload : Vec}
    (noNul : ∀ req, RegisterReq.deserialize.result payload = .ok req → Acceptable req →
      (0 : UInt8) ∉ req.username ∧ (0 : UInt8) ∉ req.email) :
    server.RegistersFaithfully payload := by
  intro db crypto salt conn env
  dsimp only [handle_register_req]
  cases parsed : RegisterReq.deserialize.result payload with
  | error text => exact ⟨_, rfl, rfl⟩
  | ok req =>
    rw [Reader.ok_bind]
    cases handled : AuthHandler.handle_register db req (env.auth.hashing crypto salt) with
    | error text => exact ⟨_, rfl, rfl⟩
    | ok answer =>
      obtain ⟨db', resp⟩ := answer
      refine ⟨resp, rfl, ?_⟩
      obtain ⟨refused, rfl⟩ | ⟨accepted, valid, pass_hash, hashed, users, -⟩ :=
        AuthHandler.handle_register_spec handled
      · rw [refused]
        exact rfl
      · obtain ⟨username, email⟩ := noNul req parsed valid
        obtain ⟨uncut, verifies⟩ := hashing_spec hashed
        rw [accepted, if_pos rfl]
        refine ⟨req, _, rfl, users, ?_⟩
        rw [cString_eq_self username, cString_eq_self email, uncut]
        exact ⟨rfl, rfl, valid.1, valid.2.2, verifies⟩

theorem out_of_range {text : Bytes} {most : Nat} (valid : 1 ≤ text.length ∧ text.length ≤ most) :
    ¬(text = [] ∨ text.length > most) := by
  rintro (rfl | long)
  · exact absurd valid.1 (by decide)
  · omega

theorem AuthHandler.handle_register_empty {req : RegisterReq} {pass_hash : Bytes} {env : AuthEnv}
    (valid : Acceptable req) (query : env.query = none) (insert : env.insert = none)
    (hashed : env.hash_password_pbkdf2 req.password = .ok pass_hash) :
    handle_register {} req env = .ok
      ({ users := [⟨1, cString req.username, cString req.email, cString pass_hash⟩]
         next_user_id := 2 }, ⟨true, ascii "user created successfully"⟩) := by
  obtain ⟨username, password, email⟩ := valid
  have free : ({} : Db).get_user_by_username req.username env = .ok none := by
    simp [Db.get_user_by_username, query]
  have made : ({} : Db).create_user req.username req.email pass_hash env = .ok
      ({ users := [⟨1, cString req.username, cString req.email, cString pass_hash⟩]
         next_user_id := 2 }, 1) := by
    simp [Db.create_user, insert]
  unfold handle_register
  rw [if_neg (out_of_range username), if_neg (out_of_range password), free, Reader.ok_bind]
  simp only [Option.isSome_none, Bool.false_eq_true, if_false, if_neg (out_of_range email), hashed,
    Reader.ok_bind, made]

theorem Server.noNul_of_registersFaithfully {server : Server} {payload : Vec}
    (faithful : server.RegistersFaithfully payload) {req : RegisterReq}
    (parsed : RegisterReq.deserialize.result payload = .ok req) (valid : Acceptable req) :
    (0 : UInt8) ∉ req.username ∧ (0 : UInt8) ∉ req.email := by
  let crypto := uniform (fun _ => 0) fun _ => 0
  let salt := Vector.replicate 16 (0 : UInt8)
  have short : req.password.length < 2 ^ 31 := lt_of_le_of_lt valid.2.1.2 (by decide)
  obtain ⟨pass_hash, hashed⟩ : ∃ pass_hash,
      Auth.hash_password_pbkdf2 crypto (some salt) req.password = .ok pass_hash :=
    ⟨_, hash_password_eq_ok.mpr ⟨_, crypto.accepts_of_lt short salt (by decide), rfl⟩⟩
  have handled : AuthHandler.handle_register {} req (({} : AuthEnv).hashing crypto (some salt)) = _ :=
    AuthHandler.handle_register_empty valid rfl rfl hashed
  obtain ⟨resp, sent, answered⟩ := faithful {} crypto (some salt) 0 {}
  simp only [handle_register_req, parsed, Reader.ok_bind, handled, List.cons.injEq, Event.sent.injEq,
    Response.registerResp.injEq, true_and, and_true] at sent answered
  rw [← sent, if_pos rfl] at answered
  obtain ⟨req', row, same, users, holds⟩ := answered
  cases same
  cases users
  exact ⟨cString_eq_self_iff.mp holds.username, cString_eq_self_iff.mp holds.email⟩

/-- `a`, a NUL and `b` as username, `e@x` as email and `secret` as password. -/
def Sample.nulUsername : RegisterReq := ⟨[97, 0, 98], ascii "e@x", ascii "secret"⟩

/-- A payload is registered faithfully exactly when it does not hold an acceptable request
with a NUL in its username or its email. -/
theorem Server.registration_faithful (server : Server) (payload : Vec) :
    server.RegistersFaithfully payload ↔
      ∀ req, RegisterReq.deserialize.result payload = .ok req → Acceptable req →
        (0 : UInt8) ∉ req.username ∧ (0 : UInt8) ∉ req.email :=
  ⟨fun faithful _ => noNul_of_registersFaithfully faithful, registersFaithfully_of_noNul⟩

/-- Answered with success, this request adds a row for `a`. -/
theorem nul_username_cut :
    ¬ Sample.start.server.RegistersFaithfully ⟨Sample.nulUsername.canonical, fun _ => 0⟩ := by
  intro faithful
  have parsed : RegisterReq.deserialize.result ⟨Sample.nulUsername.canonical, fun _ => 0⟩
      = .ok Sample.nulUsername := by rfl
  have valid : Acceptable Sample.nulUsername := by decide
  exact absurd (Server.noNul_of_registersFaithfully faithful parsed valid).1 (by decide)

end FileShareX.Net

import FileShareX.Gateway.ResetTokens
import FileShareX.Net.Credentials

/-!
# One table of users

The core registers and logs in, the gateway resets passwords, both over the same
table.  Whoever wrote last decides which password logs in.
-/

namespace FileShareX.Gateway

open Wire Posix Protocol Auth Net Machine

def rehash (user_id : Int64) (stored : Bytes) (user : UserRow) : UserRow :=
  if user.id == user_id then { user with pass_hash := stored } else user

section Users

variable {crypto : Crypto} {db : ResetDb} {token new_password email : String} {env : ResetEnv}

/-- The account whose password a reset replaces. -/
def ResetDb.resets (db : ResetDb) (token new_password : String) (env : ResetEnv) : Option Int64 :=
  match validate_reset_token env.validate db env.now token with
  | some (some info) =>
    if 6 ≤ new_password.length ∧ (utf8 new_password).length < 2 ^ 31 ∧ env.change.writes then
      some info.user_id
    else none
  | _ => none

def resetSecret (new_password : String) (env : ResetEnv) : Secret :=
  ⟨utf8 new_password, env.salt, 100000⟩

theorem forgot_password_users (env : ForgotEnv) :
    (forgot_password db email env).1.users = db.users := by
  rw [forgot_password_db]
  have created : (create_reset_token env.create db env.now env.token email).1 = _ ∨ _ :=
    create_reset_token_db
  obtain same | ⟨user, -, -, issued⟩ := created
  · rw [same]
  · rw [issued]
    rfl

theorem mark_token_used_users (calls : Calls) :
    (mark_token_used calls db token).1.users = db.users := by
  rw [mark_token_used_db]
  split <;> rfl

theorem change_users {calls : Calls} {salt : Vector UInt8 16} {user_id : Int64} :
    (change_user_password crypto calls db salt user_id new_password).1.users =
      if (utf8 new_password).length < 2 ^ 31 ∧ calls.writes then
        db.users.map (rehash user_id (Secret.stored crypto ⟨utf8 new_password, salt, 100000⟩))
      else db.users := by
  cases hashed : pass_hash_stored crypto (utf8 new_password) salt with
  | none =>
    have long : ¬ (utf8 new_password).length < 2 ^ 31 := fun fits =>
      absurd (pass_hash_stored_eq_some.mpr ⟨fits, rfl⟩) (by rw [hashed]; simp)
    rw [if_neg fun all => long all.1, change_user_password, hashed]
  | some stored =>
    obtain ⟨fits, rfl⟩ := pass_hash_stored_eq_some.mp hashed
    have written := (@change_user_password_spec crypto calls db salt user_id new_password _ hashed).1
    rw [written]
    by_cases writes : calls.writes = true
    · rw [if_pos writes, if_pos ⟨fits, writes⟩]
      rfl
    · rw [if_neg writes, if_neg fun all => writes all.2]

theorem reset_password_users :
    (reset_password crypto db token new_password env).1.users =
      match db.resets token new_password env with
      | some user_id => db.users.map (rehash user_id ((resetSecret new_password env).stored crypto))
      | none => db.users := by
  unfold reset_password ResetDb.resets
  cases valid : validate_reset_token env.validate db env.now token with
  | none => rfl
  | some found =>
    cases found with
    | none => rfl
    | some info =>
      dsimp only
      by_cases long : new_password.length < 6
      · rw [if_pos long, if_neg fun all => absurd all.1 (Nat.not_le.mpr long)]
      · rw [if_neg long]
        have changed := @change_users crypto db new_password env.change env.salt info.user_id
        cases outcome : change_user_password crypto env.change db env.salt info.user_id
            new_password with
        | mk after success =>
          rw [outcome] at changed
          -- Whether the token can be marked makes no difference to the users.
          refine Eq.trans ?_ (changed.trans ?_)
          · match success with
            | none | some false => rfl
            | some true =>
              have marked := @mark_token_used_users after token env.mark
              dsimp only
              split <;> next same => rw [same] at marked; exact marked
          · simp only [Nat.not_lt.mp long, true_and]
            split <;> rfl

end Users

/-- The core's processes and the gateway over one database. -/
structure Deployment where
  core : Installation
  password_reset_tokens : List ResetToken := []
  journal : List Write := []
  /-- What each account's password was last set to, since the beginning. -/
  secrets : Int64 → Option Secret := fun _ => none

/-- One step of the core, with the salt it draws, or one request to the gateway. -/
inductive Occurrence where
  | core (happening : Happening) (salt : Option (Vector UInt8 16))
  | forgot (email : String) (env : ForgotEnv)
  | reset (token new_password : String) (env : ResetEnv)

namespace Deployment

def db (state : Deployment) : Db := state.core.process.server.db

def tables (state : Deployment) : ResetDb :=
  ⟨state.db.users, state.password_reset_tokens, state.journal⟩

def store (state : Deployment) (tables : ResetDb) : Deployment :=
  let server := { state.core.process.server with db := { state.db with users := tables.users } }
  { state with
    core := { state.core with process := ⟨server, state.core.process.ledger⟩ }
    password_reset_tokens := tables.password_reset_tokens
    journal := tables.journal }

def setSecret (state : Deployment) (user_id : Int64) (secret : Secret) : Deployment :=
  { state with secrets := Function.update state.secrets user_id (some secret) }

def step (crypto : Crypto) (state : Deployment) : Occurrence → Deployment
  | .core happening salt =>
    let happening := happening.using crypto salt
    let after := { state with core := state.core.step happening }
    match state.core.registers happening, salt with
    | some password, some salt => after.setSecret state.db.next_user_id ⟨password, salt, 120000⟩
    | _, _ => after
  | .forgot email env => state.store (forgot_password state.tables email env).1
  | .reset token new_password env =>
    let after := state.store (reset_password crypto state.tables token new_password env).1
    match state.tables.resets token new_password env with
    | some user_id => after.setSecret user_id (resetSecret new_password env)
    | none => after

def Sealed (crypto : Crypto) (state : Deployment) : Prop :=
  ∀ row ∈ state.db.users, ∀ secret, state.secrets row.id = some secret →
    row.pass_hash = secret.stored crypto ∧ 0 < secret.iters ∧ secret.iters < 2 ^ 31

/-- Every login is decided by the secret of its account: it is answered with success exactly
if PBKDF2 does not tell its password from the last one, and then logs in that account. -/
def DecidesLogins (crypto : Crypto) (state : Deployment) : Prop :=
  ∀ conn self payload env req row secret token (salt : Option (Vector UInt8 16)),
    state.core.process.server.live conn = some self →
    state.core.process.server.reading conn = true →
    LoginReq.deserialize.result payload = .ok req → req.username ≠ [] → req.password ≠ [] →
    row ∈ state.db.users → cString req.username = row.username →
    state.secrets row.id = some secret → env.auth.Answers state.db token →
    let label := Label.using crypto salt (.receive conn MsgType.LOGIN_REQ.code payload env)
    if secret.Opens crypto req.password then
      state.core.process.events label =
          [.sent conn (.loginResp { ok := true, token, user_id := row.id, username := row.username
                                    msg := ascii "login successful" })] ∧
        (state.core.process.step label).server.live conn = some ⟨token, row.id, row.username⟩
    else
      state.core.process.events label =
          [.sent conn (.loginResp { ok := false, msg := ascii "invalid username or password" })] ∧
        (state.core.process.step label).server.live = state.core.process.server.live

variable {crypto : Crypto} {state start : Deployment}

theorem decidesLogins (wellFormed : state.db.WellFormed) (isSealed : state.Sealed crypto) :
    state.DecidesLogins crypto := by
  intro conn self payload env req row secret token salt alive reading parsed username password member
    named known answers label
  obtain ⟨stored, positive, inRange⟩ := isSealed row member secret known
  have fits : req.password.length < 2 ^ 31 := by
    have short := ((LoginReq.deserialize_eq_ok payload req).mp parsed).1.2
    omega
  have handled : AuthHandler.handle_login state.db req (env.auth.using crypto salt) = _ :=
    AuthHandler.handle_login_eq wellFormed ⟨answers.query, answers.insert, answers.drawn, answers.fresh⟩
      member named username password
      (show verify_password_pbkdf2 crypto req.password row.pass_hash = _ by
        rw [stored, secret.verify_stored positive inRange fits])
  have stepped : state.core.process.server.step label =
      state.core.process.server.handle_login_req conn self payload
        { env with auth := env.auth.using crypto salt } := by
    simp only [label, Label.using, Server.step, alive, reading, if_true]
    rfl
  have login : (LoginReq.deserialize.result payload >>= fun req =>
      AuthHandler.handle_login state.core.process.server.db req (env.auth.using crypto salt)) =
        AuthHandler.handle_login state.db req (env.auth.using crypto salt) := by
    rw [parsed]
    rfl
  unfold Server.handle_login_req at stepped
  dsimp only at stepped
  rw [login, handled] at stepped
  by_cases opens : secret.Opens crypto req.password
  · simp only [opens, decide_true, if_true] at stepped ⊢
    simp only [Observed.events, Observed.step, stepped, Function.update_self, true_and]
    rfl
  · simp only [opens, decide_false, Bool.false_eq_true, if_false] at stepped ⊢
    simp only [Observed.events, Observed.step, stepped, and_self]

/-! ### Every step keeps the secrets -/

structure Kept (crypto : Crypto) (state : Deployment) : Prop where
  accounted : state.core.process.server.Accounted
  isSealed : state.Sealed crypto

theorem rehash_keepsIdentity (user_id : Int64) (stored : Bytes) :
    Db.KeepsIdentity (rehash user_id stored) := by
  have split (row : UserRow) : rehash user_id stored row = row ∨
      rehash user_id stored row = { row with pass_hash := stored } := by
    unfold rehash
    split
    · exact .inr rfl
    · exact .inl rfl
  refine ⟨fun row => ?_, fun row => ?_, fun row => ?_⟩ <;> rcases split row with same | same <;> rw [same]

theorem store_db (tables : ResetDb) :
    (state.store tables).db = { state.db with users := tables.users } := rfl

theorem store_accounted (accounted : state.core.process.server.Accounted) {tables : ResetDb}
    {change : UserRow → UserRow} (keeps : Db.KeepsIdentity change)
    (users : tables.users = state.db.users.map change) :
    (state.store tables).core.process.server.Accounted := by
  have mapped := accounted.map keeps
  unfold store
  rw [users]
  exact mapped

theorem store_same {tables : ResetDb} (users : tables.users = state.db.users) :
    (state.store tables).core = state.core := by
  unfold store
  rw [users]
  rfl

namespace Kept

theorem store_same (kept : state.Kept crypto) {tables : ResetDb}
    (users : tables.users = state.db.users) : (state.store tables).Kept crypto := by
  refine ⟨?_, ?_⟩
  · rw [Deployment.store_same users]
    exact kept.accounted
  · intro row member
    rw [store_db, users] at member
    exact kept.isSealed row member

theorem core (kept : state.Kept crypto) (happening : Happening) (salt : Option (Vector UInt8 16))
    (room : state.db.next_user_id.toInt + 1 < 2 ^ 63) :
    (state.step crypto (.core happening salt)).Kept crypto := by
  have accounted := Installation.accounted_step kept.accounted room (happening.using crypto salt)
  unfold Deployment.step
  dsimp only
  rcases state.core.step_registers (happening.using crypto salt) with ⟨nothing, users⟩ |
    ⟨label, password, served, made, taken⟩
  · rw [nothing]
    refine ⟨accounted, fun row member => ?_⟩
    exact kept.isSealed row (users ▸ member)
  · rw [made]
    cases taken with
    | @account _ pass_hash new short hashed id stored users =>
      have fits : password.length < 2 ^ 31 := by omega
      obtain ⟨drawn, rfl, text⟩ : ∃ drawn, salt = some drawn ∧
          cString pass_hash = Secret.stored crypto ⟨password, drawn, 120000⟩ := by
        cases happening with
        | serve label' =>
          cases served
          exact hashing_stored fits hashed
        | _ => cases served
      refine ⟨accounted, fun row member => ?_⟩
      have members : row ∈ state.db.users ++ [new] := users ▸ member
      dsimp only [setSecret]
      intro secret known
      rcases List.mem_append.mp members with old | last
      · have less := kept.accounted.wellFormed.numbered row old
        have ne : row.id ≠ state.db.next_user_id := fun same => Int64.lt_irrefl (same ▸ less)
        rw [Function.update_of_ne ne] at known
        exact kept.isSealed row old secret known
      · have newest : row.id = state.db.next_user_id := by
          rw [List.mem_singleton.mp last]
          exact id
        rw [newest, Function.update_self] at known
        cases known
        rw [List.mem_singleton.mp last, stored, text]
        exact ⟨rfl, (by decide : 0 < 120000), (by decide : 120000 < 2 ^ 31)⟩

theorem forgot (kept : state.Kept crypto) (email : String) (env : ForgotEnv) :
    (state.step crypto (.forgot email env)).Kept crypto :=
  kept.store_same (forgot_password_users env)

theorem reset (kept : state.Kept crypto) (token new_password : String) (env : ResetEnv) :
    (state.step crypto (.reset token new_password env)).Kept crypto := by
  have users := @reset_password_users crypto state.tables token new_password env
  unfold Deployment.step
  dsimp only
  cases changes : state.tables.resets token new_password env with
  | none =>
    rw [changes] at users
    exact kept.store_same users
  | some user_id =>
    rw [changes] at users
    dsimp only at users
    have keeps := rehash_keepsIdentity user_id ((resetSecret new_password env).stored crypto)
    refine ⟨store_accounted kept.accounted keeps users, fun row member secret known => ?_⟩
    have members : row ∈ state.db.users.map
        (rehash user_id ((resetSecret new_password env).stored crypto)) := users ▸ member
    obtain ⟨old, present, rfl⟩ := List.mem_map.mp members
    rw [keeps.id] at known
    dsimp only [setSecret] at known
    by_cases same : old.id = user_id
    · rw [same, Function.update_self] at known
      cases known
      rw [rehash, if_pos (beq_iff_eq.mpr same)]
      exact ⟨rfl, (by decide : 0 < 100000), (by decide : 100000 < 2 ^ 31)⟩
    · rw [Function.update_of_ne same] at known
      rw [rehash, if_neg (by simpa using same)]
      exact kept.isSealed old present secret known

theorem step (kept : state.Kept crypto) (room : state.db.next_user_id.toInt + 1 < 2 ^ 63)
    (occurrence : Occurrence) : (state.step crypto occurrence).Kept crypto := by
  cases occurrence with
  | core happening salt => exact kept.core happening salt room
  | forgot email env => exact kept.forgot email env
  | reset token new_password env => exact kept.reset token new_password env

end Kept

theorem step_next (state : Deployment) (occurrence : Occurrence)
    (room : state.db.next_user_id.toInt + 1 < 2 ^ 63) :
    (state.step crypto occurrence).db.next_user_id.toInt ≤ state.db.next_user_id.toInt + 1 := by
  cases occurrence with
  | core happening salt =>
    have next : (state.step crypto (.core happening salt)).db.next_user_id =
        (state.core.step (happening.using crypto salt)).process.server.db.next_user_id := by
      unfold step
      dsimp only
      split <;> rfl
    rw [next]
    cases state.core.step_accounts (happening.using crypto salt) with
    | kept _ same =>
      rw [same]
      exact Int.le_add_one (Int.le_refl _)
    | created _ _ _ taken =>
      rw [taken]
      exact Int.le_of_eq (Db.lt_add_one room).2
  | forgot email env => exact Int.le_add_one (Int.le_refl _)
  | reset token new_password env =>
    refine Int.le_add_one (Int.le_of_eq ?_)
    unfold step
    dsimp only
    split <;> rfl

theorem kept_run {occurrences : List Occurrence} (kept : start.Kept crypto)
    (room : start.db.next_user_id.toInt + occurrences.length < 2 ^ 63) :
    (run (step crypto) start occurrences).Kept crypto := by
  induction occurrences generalizing start with
  | nil => exact kept
  | cons occurrence rest ih =>
    rw [List.length_cons] at room
    have next : (start.step crypto occurrence).db.next_user_id.toInt ≤
        start.db.next_user_id.toInt + 1 := start.step_next occurrence (by omega)
    exact ih (kept.step (by omega) occurrence) (by omega)

/-- Whatever the core and the gateway do in whatever order, logins go by the secret their
account was given last, at its registration or by a reset. -/
theorem logins_follow_secrets {occurrences : List Occurrence} (fresh : start.core.Fresh)
    (wellFormed : start.db.WellFormed) (unset : start.secrets = fun _ => none)
    (room : start.db.next_user_id.toInt + occurrences.length < 2 ^ 63) :
    (run (step crypto) start occurrences).DecidesLogins crypto := by
  have initial : start.Kept crypto := by
    refine ⟨Installation.accounted_fresh fresh wellFormed, fun row _ secret known => ?_⟩
    rw [unset] at known
    cases known
  have kept := kept_run initial room
  exact decidesLogins kept.accounted.wellFormed kept.isSealed

/-- Carol registers with the core and asks the gateway for a reset. -/
def carol : List Occurrence :=
  [.core (.serve .connect) none,
    .core (.serve (Sample.receive 0 .REGISTER_REQ
      (RegisterReq.canonical ⟨ascii "carol", ascii "c@x", ascii "secret"⟩) (Sample.env 0 0)))
      (some (.replicate 16 7)),
    .forgot "c@x" { now := 0, token := "t" },
    .reset "t" "geheim" { now := 1, salt := .replicate 16 8 }]

theorem logins_follow_secrets_carol :
    (run (step summing) ⟨Installation.installed, [], [], fun _ => none⟩ carol).DecidesLogins summing :=
  logins_follow_secrets ⟨Sample.booted, rfl⟩ ⟨by decide, by decide, by decide, by decide⟩ rfl
    (by decide)

example : (run (step summing) ⟨Installation.installed, [], [], fun _ => none⟩ carol).secrets 3 =
    some ⟨utf8 "geheim", .replicate 16 8, 100000⟩ := by decide +kernel

end Deployment

end FileShareX.Gateway

import FileShareX.Net.Online
import FileShareX.Net.Restart

/-!
# Accounts

The table of users only grows, and its constraints hold in every run of every
process over it.  Connections and transfers name accounts by number and by name
at once; both always come from one row.
-/

namespace FileShareX.Net

open Wire Posix Protocol Storage Transfer Machine

namespace Db

def Account (db : Db) (id : Int64) (username : Bytes) : Prop :=
  ∃ row ∈ db.users, row.id = id ∧ row.username = username

/-- The constraints of the table, with the sequence ahead of all numbers in it. -/
structure WellFormed (db : Db) : Prop where
  usernames : (db.users.map (·.username)).Nodup
  emails : (db.users.map (·.email)).Nodup
  ids : (db.users.map (·.id)).Nodup
  numbered : ∀ row ∈ db.users, row.id < db.next_user_id

inductive AccountStep (db after : Db) : Prop
  | kept (users : after.users = db.users) (next : after.next_user_id = db.next_user_id)
  | created {row : UserRow} (id : row.id = db.next_user_id)
      (fresh : ∀ other ∈ db.users, other.username ≠ row.username ∧ other.email ≠ row.email)
      (users : after.users = db.users ++ [row]) (next : after.next_user_id = db.next_user_id + 1)

variable {db after : Db} {env : AuthEnv}

theorem create_user_accountStep {username email pass_hash : Bytes} {id : Int64}
    (created : db.create_user username email pass_hash env = .ok (after, id)) :
    db.AccountStep after := by
  unfold create_user at created
  split at created
  · cases created
  · dsimp only at created
    split at created
    · cases created
    · next free =>
      cases created
      refine .created rfl (fun other member => ?_) rfl rfl
      have differs : ¬(other.username == cString username || other.email == cString email) =
          true := fun clash => free (List.any_eq_true.mpr ⟨other, member, clash⟩)
      simpa using differs

theorem AccountStep.keepsUsers (step : db.AccountStep after) : db.users <+: after.users := by
  cases step with
  | kept users => exact users ▸ List.prefix_refl _
  | created _ _ users => exact users ▸ List.prefix_append ..

theorem Account.mono {id : Int64} {username : Bytes} (account : db.Account id username)
    (grows : db.users <+: after.users) : after.Account id username := by
  obtain ⟨row, member, named⟩ := account
  exact ⟨row, grows.subset member, named⟩

theorem lt_add_one {id : Int64} (room : id.toInt + 1 < 2 ^ 63) :
    id < id + 1 ∧ (id + 1).toInt = id.toInt + 1 := by
  have low := id.le_toInt
  have one : (1 : Int64).toInt = 1 := rfl
  have value : (id + 1).toInt = id.toInt + 1 := by
    rw [Int64.toInt_add, one]
    exact Int.bmod_eq_of_le (by omega) (by omega)
  refine ⟨Int64.lt_iff_toInt_lt.mpr ?_, value⟩
  omega

theorem WellFormed.step (wellFormed : db.WellFormed) (step : db.AccountStep after)
    (room : db.next_user_id.toInt + 1 < 2 ^ 63) : after.WellFormed := by
  cases step with
  | kept users next =>
    obtain ⟨usernames, emails, ids, numbered⟩ := wellFormed
    refine ⟨?_, ?_, ?_, ?_⟩ <;> rw [users]
    · exact usernames
    · exact emails
    · exact ids
    · exact next ▸ numbered
  | @created row id fresh users next =>
    have appended {α : Type} {field : UserRow → α} (unique : (db.users.map field).Nodup)
        (new : ∀ other ∈ db.users, field other ≠ field row) : (after.users.map field).Nodup := by
      rw [users, List.map_append]
      refine unique.append (List.nodup_singleton _) fun value old last => ?_
      obtain ⟨other, member, rfl⟩ := List.mem_map.mp old
      exact new other member (List.mem_singleton.mp last)
    have below := (lt_add_one room).1
    refine ⟨appended wellFormed.usernames fun other member => (fresh other member).1,
      appended wellFormed.emails fun other member => (fresh other member).2,
      appended wellFormed.ids fun other member same => ?_, fun other member => ?_⟩
    · have less := wellFormed.numbered other member
      rw [same, id] at less
      exact Int64.lt_irrefl less
    · rw [next]
      rw [users] at member
      rcases List.mem_append.mp member with old | last
      · exact Int64.lt_trans (wellFormed.numbered other old) below
      · rw [List.mem_singleton.mp last, id]
        exact below

theorem WellFormed.id_eq_iff (wellFormed : db.WellFormed) {id other : Int64} {name named : Bytes}
    (first : db.Account id name) (second : db.Account other named) : id = other ↔ name = named := by
  obtain ⟨row, member, rfl, rfl⟩ := first
  obtain ⟨row', member', rfl, rfl⟩ := second
  constructor
  · intro same
    rw [List.inj_on_of_nodup_map wellFormed.ids member member' same]
  · intro same
    rw [List.inj_on_of_nodup_map wellFormed.usernames member member' same]

structure KeepsIdentity (change : UserRow → UserRow) : Prop where
  id : ∀ row, (change row).id = row.id
  username : ∀ row, (change row).username = row.username
  email : ∀ row, (change row).email = row.email

theorem WellFormed.map (wellFormed : db.WellFormed) {change : UserRow → UserRow}
    (keeps : KeepsIdentity change) : { db with users := db.users.map change }.WellFormed := by
  have same {α : Type} {field : UserRow → α} (kept : ∀ row, field (change row) = field row) :
      (db.users.map change).map field = db.users.map field := by
    rw [List.map_map]
    exact List.map_congr_left fun row _ => kept row
  refine ⟨?_, ?_, ?_, fun row member => ?_⟩
  · exact same keeps.username ▸ wellFormed.usernames
  · exact same keeps.email ▸ wellFormed.emails
  · exact same keeps.id ▸ wellFormed.ids
  · obtain ⟨old, present, rfl⟩ := List.mem_map.mp member
    rw [keeps.id]
    exact wellFormed.numbered old present

theorem Account.map {id : Int64} {username : Bytes} (account : db.Account id username)
    {change : UserRow → UserRow} (keeps : KeepsIdentity change) :
    { db with users := db.users.map change }.Account id username := by
  obtain ⟨row, member, rfl, rfl⟩ := account
  exact ⟨change row, List.mem_map_of_mem member, keeps.id row, keeps.username row⟩

theorem get_user_by_username_eq_some {username : Bytes} {row : UserRow}
    (found : db.get_user_by_username username env = .ok (some row)) :
    env.query = none ∧ row ∈ db.users ∧ row.username = cString username := by
  unfold get_user_by_username at found
  split at found
  · cases found
  · next answers =>
    have first := Except.ok.inj found
    exact ⟨answers, List.mem_of_find?_eq_some first, by simpa using List.find?_some first⟩

theorem create_session_users {token : Bytes} (created : db.create_session env = .ok (after, token)) :
    after.users = db.users ∧ after.next_user_id = db.next_user_id := by
  unfold create_session at created
  split at created
  · cases created
  · dsimp only at created
    split at created
    · cases created
    · split at created
      · cases created
      · cases created
        exact ⟨rfl, rfl⟩

end Db

namespace AuthHandler

variable {db after : Db} {env : AuthEnv}

theorem handle_register_accountStep {req : RegisterReq} {resp : RegisterResp}
    (handled : handle_register db req env = .ok (after, resp)) : db.AccountStep after := by
  unfold handle_register at handled
  split at handled
  · cases handled
    exact .kept rfl rfl
  · split at handled
    · cases handled
      exact .kept rfl rfl
    · obtain ⟨existing, -, handled⟩ := Reader.bind_eq_ok.mp handled
      split at handled
      · cases handled
        exact .kept rfl rfl
      · split at handled
        · cases handled
          exact .kept rfl rfl
        · dsimp only at handled
          split at handled
          · next made =>
            cases handled
            obtain ⟨pass_hash, -, made⟩ := Reader.bind_eq_ok.mp made
            exact Db.create_user_accountStep made
          · cases handled
            exact .kept rfl rfl

theorem handle_login_account {req : LoginReq} {resp : LoginResp}
    (handled : handle_login db req env = .ok (after, resp)) :
    (after.users = db.users ∧ after.next_user_id = db.next_user_id) ∧
      (resp.ok = true → db.Account resp.user_id resp.username) := by
  unfold handle_login at handled
  split at handled
  · cases handled
    exact ⟨⟨rfl, rfl⟩, nofun⟩
  · obtain ⟨found, looked, handled⟩ := Reader.bind_eq_ok.mp handled
    cases found with
    | none =>
      cases handled
      exact ⟨⟨rfl, rfl⟩, nofun⟩
    | some user =>
      obtain ⟨verified, -, handled⟩ := Reader.bind_eq_ok.mp handled
      split at handled
      · cases handled
        exact ⟨⟨rfl, rfl⟩, nofun⟩
      · split at handled
        · next created =>
          cases handled
          refine ⟨Db.create_session_users created, fun _ => ?_⟩
          exact ⟨user, (Db.get_user_by_username_eq_some looked).2.1, rfl, rfl⟩
        · cases handled
          exact ⟨⟨rfl, rfl⟩, nofun⟩

/-- A login that succeeds has verified its password against the row it answers for. -/
theorem handle_login_verified {req : LoginReq} {resp : LoginResp}
    (handled : handle_login db req env = .ok (after, resp))
    (ok : resp.ok = true) :
    ∃ row ∈ db.users, row.username = cString req.username ∧
      env.verify_password_pbkdf2 req.password row.pass_hash = .ok true ∧
      resp = { ok := true, token := resp.token, user_id := row.id, username := row.username
               msg := ascii "login successful" } := by
  unfold handle_login at handled
  split at handled
  · cases handled
    cases ok
  · obtain ⟨found, looked, handled⟩ := Reader.bind_eq_ok.mp handled
    cases found with
    | none =>
      cases handled
      cases ok
    | some row =>
      obtain ⟨-, member, named⟩ := Db.get_user_by_username_eq_some looked
      obtain ⟨verified, checked, handled⟩ := Reader.bind_eq_ok.mp handled
      cases verified with
      | false =>
        cases handled
        cases ok
      | true =>
        rw [if_neg (by decide)] at handled
        split at handled
        · cases handled
          exact ⟨row, member, named, checked, rfl⟩
        · cases handled
          cases ok

end AuthHandler

namespace Server

structure AccountStep (server after : Server) : Prop where
  db : server.db.AccountStep after.db
  live : ∀ {conn self}, after.live conn = some self → self.is_authenticated = true →
    server.live conn = some self ∨ server.db.Account self.user_id self.username

variable {server after : Server} {conn : ConnId} {self : TcpSession} {payload : Vec} {env : Env}

theorem SameAuth.accountStep (same : server.SameAuth after) : server.AccountStep after where
  db := .kept (by rw [same.db]) (by rw [same.db])
  live alive _ := .inl (by rwa [same.live] at alive)

theorem handle_register_req_accountStep :
    server.AccountStep (server.handle_register_req conn payload env).1 := by
  unfold handle_register_req
  dsimp only
  split
  · exact SameAuth.accountStep ⟨rfl, rfl, rfl, rfl, rfl⟩
  · next handled =>
    obtain ⟨req, -, handled⟩ := Reader.bind_eq_ok.mp handled
    exact ⟨AuthHandler.handle_register_accountStep handled, fun alive _ => .inl alive⟩

theorem handle_login_req_accountStep :
    server.AccountStep (server.handle_login_req conn self payload env).1 := by
  unfold handle_login_req
  dsimp only
  split
  · exact SameAuth.accountStep ⟨rfl, rfl, rfl, rfl, rfl⟩
  · next handled =>
    obtain ⟨req, -, handled⟩ := Reader.bind_eq_ok.mp handled
    obtain ⟨⟨users, next⟩, account⟩ := AuthHandler.handle_login_account handled
    split
    · next ok =>
      refine ⟨.kept users next, fun {other _} alive _ => ?_⟩
      by_cases mine : other = conn
      · subst mine
        dsimp only at alive
        rw [Function.update_self] at alive
        cases alive
        exact .inr (account ok)
      · dsimp only at alive
        rw [Function.update_of_ne mine] at alive
        exact .inl alive
    · exact ⟨.kept users next, fun alive _ => .inl alive⟩

theorem handle_message_accountStep (type : UInt8) :
    server.AccountStep (server.handle_message conn self payload env type).1 := by
  unfold handle_message
  cases known : MsgType.ofCode? type with
  | none => exact SameAuth.accountStep ⟨rfl, rfl, rfl, rfl, rfl⟩
  | some kind =>
    cases kind with
    | REGISTER_REQ => exact handle_register_req_accountStep
    | LOGIN_REQ => exact handle_login_req_accountStep
    | ONLINE_LIST_REQ => exact ⟨.kept rfl rfl, fun alive _ => .inl alive⟩
    | FILE_OFFER_REQ => exact handle_file_offer_req_sameAuth.accountStep
    | FILE_ACCEPT_REQ => exact handle_file_accept_req_sameAuth.accountStep
    | FILE_CHUNK => exact handle_file_chunk_sameAuth.accountStep
    | FILE_DONE => exact handle_file_done_sameAuth.accountStep
    | _ => exact SameAuth.accountStep ⟨rfl, rfl, rfl, rfl, rfl⟩

theorem disconnect_db {reason : Exit} : (server.disconnect conn reason).db = server.db := by
  unfold disconnect
  dsimp only
  repeat' split
  all_goals rfl

theorem release_db : (server.release conn).db = server.db := by
  unfold release
  split <;> rfl

theorem step_accountStep (server : Server) (label : Label) :
    server.AccountStep (server.step label).1 := by
  cases label with
  | receive conn type payload env =>
    unfold step
    dsimp only
    split
    · exact SameAuth.accountStep ⟨rfl, rfl, rfl, rfl, rfl⟩
    · split
      · exact handle_message_accountStep type
      · exact SameAuth.accountStep ⟨rfl, rfl, rfl, rfl, rfl⟩
  | connect =>
    refine ⟨.kept rfl rfl, fun alive authenticated => .inl ?_⟩
    exact (step_fades (by intro _ _ same; cases same) _ alive authenticated).1
  | disconnect conn reason =>
    refine ⟨.kept (congrArg Db.users disconnect_db) (congrArg Db.next_user_id disconnect_db),
      fun alive authenticated => .inl ?_⟩
    exact (step_fades (by intro _ _ same; cases same) _ alive authenticated).1
  | release conn =>
    refine ⟨.kept (congrArg Db.users release_db) (congrArg Db.next_user_id release_db),
      fun alive authenticated => .inl ?_⟩
    exact (step_fades (by intro _ _ same; cases same) _ alive authenticated).1

theorem boot_fresh {store : FileStore} {db : Db} {cwd : Path} {disk : Disk} {io : Io}
    (started : boot store db cwd disk io = some server) :
    server.db = db ∧ server.transfers = {} ∧ ∀ conn, server.live conn = none := by
  unfold boot at started
  split at started
  · cases started
    exact ⟨rfl, rfl, fun _ => rfl⟩
  · cases started

/-- The accounts keep their constraints, and whatever a connection or a transfer names
is one of them. -/
structure Accounted (server : Server) : Prop where
  wellFormed : server.db.WellFormed
  online : ∀ {conn self}, server.live conn = some self → self.is_authenticated = true →
    server.db.Account self.user_id self.username
  parties : ∀ {id session}, server.transfers.transfers id = some session →
    server.db.Account session.sender_user_id session.sender_username ∧
      server.db.Account session.receiver_user_id session.receiver_username

theorem Accounted.map (accounted : server.Accounted) {change : UserRow → UserRow}
    (keeps : Db.KeepsIdentity change) :
    { server with db := { server.db with users := server.db.users.map change } }.Accounted where
  wellFormed := accounted.wellFormed.map keeps
  online alive authenticated := (accounted.online alive authenticated).map keeps
  parties found := (accounted.parties found).imp (·.map keeps) (·.map keeps)

theorem offer?_account {req : FileOfferReq} {receiver : UserRow}
    (asked : server.offer? self payload env = some (.offer req receiver)) :
    server.db.Account receiver.id receiver.username := by
  unfold offer? at asked
  repeat' split at asked
  all_goals cases asked
  next looked => exact ⟨receiver, (Db.get_user_by_username_eq_some looked).2.1, rfl, rfl⟩

theorem asks_offer_account {label : Label} {req : FileOfferReq} {receiver : UserRow}
    (asked : server.asks label = some (.offer req receiver)) :
    server.db.Account receiver.id receiver.username := by
  cases label with
  | receive conn type payload env =>
    unfold asks at asked
    dsimp only at asked
    split at asked
    · cases asked
    · split at asked
      · unfold request? at asked
        split at asked
        · exact offer?_account asked
        · cases (accept?_sentAs asked).1
        · cases (chunk?_sentAs asked).1
        · cases (done?_sentAs asked).1
        · cases asked
      · cases asked
  | _ => cases asked

end Server

namespace Observed

variable {state : Observed} {label : Label}

/-- The parties of a record after a step are those before, or those of the step's offer. -/
theorem parties_step (accounted : state.server.Accounted) {id : UInt64} {session : TransferSession}
    (found : (state.step label).server.transfers.transfers id = some session) :
    state.server.db.Account session.sender_user_id session.sender_username ∧
      state.server.db.Account session.receiver_user_id session.receiver_username := by
  have rewritten {request : Request} {about : UInt64} (asked : state.asks label = some request)
      (same : request.about = some about) :
      state.server.db.Account session.sender_user_id session.sender_username ∧
        state.server.db.Account session.receiver_user_id session.receiver_username := by
    obtain ⟨record, changed, rewrites⟩ := step_rewrites asked same
    rw [rewrites.transfers] at found
    rcases TransferManager.put_found found with ⟨rfl, rfl⟩ | ⟨-, old⟩
    · have parties := accounted.parties rewrites.found
      rwa [rewrites.kept]
    · exact accounted.parties old
  cases asked : state.asks label with
  | none =>
    rw [(step_same asked).1.transfers] at found
    exact accounted.parties found
  | some request =>
    cases request with
    | offer req receiver =>
      obtain ⟨conn, self, result, ⟨alive, -⟩, effect, -, stepped⟩ := step_effect asked
      rw [stepped] at found
      cases effect with
      | offered authenticated =>
        rcases TransferManager.put_found found with ⟨rfl, rfl⟩ | ⟨-, old⟩
        · exact ⟨accounted.online alive authenticated, Server.asks_offer_account asked⟩
        · exact accounted.parties old
    | accept => exact rewritten asked rfl
    | chunk => exact rewritten asked rfl
    | done => exact rewritten asked rfl

theorem accounted_step (accounted : state.server.Accounted)
    (room : state.server.db.next_user_id.toInt + 1 < 2 ^ 63) :
    (state.step label).server.Accounted := by
  have step : state.server.AccountStep (state.step label).server :=
    state.server.step_accountStep label
  refine ⟨accounted.wellFormed.step step.db room, fun alive authenticated => ?_, fun found => ?_⟩
  · rcases step.live alive authenticated with before | account
    · exact (accounted.online before authenticated).mono step.db.keepsUsers
    · exact account.mono step.db.keepsUsers
  · obtain ⟨sender, receiver⟩ := parties_step accounted found
    exact ⟨sender.mono step.db.keepsUsers, receiver.mono step.db.keepsUsers⟩

end Observed

namespace Installation

variable {state start : Installation}

theorem step_accounts (state : Installation) (happening : Happening) :
    state.process.server.db.AccountStep (state.step happening).process.server.db := by
  rcases step_cases state happening with same | ⟨label, -, -, stepped⟩ | ⟨flushed, stepped⟩ |
    ⟨io, server, -, started, stepped⟩
  · rw [same]
    exact .kept rfl rfl
  · rw [stepped]
    exact (state.process.server.step_accountStep label).db
  · rw [stepped]
    exact .kept rfl rfl
  · rw [stepped]
    have db := (Server.boot_fresh started).1
    exact .kept (congrArg Db.users db) (congrArg Db.next_user_id db)

theorem accounted_step (accounted : state.process.server.Accounted)
    (room : state.process.server.db.next_user_id.toInt + 1 < 2 ^ 63) (happening : Happening) :
    (state.step happening).process.server.Accounted := by
  rcases step_cases state happening with same | ⟨label, -, -, stepped⟩ | ⟨flushed, stepped⟩ |
    ⟨io, server, -, started, stepped⟩
  · rwa [same]
  · rw [stepped]
    exact Observed.accounted_step accounted room
  · rw [stepped]
    exact ⟨accounted.wellFormed, accounted.online, accounted.parties⟩
  · rw [stepped]
    obtain ⟨db, transfers, live⟩ := Server.boot_fresh started
    refine ⟨db ▸ accounted.wellFormed, fun alive _ => ?_, fun found => ?_⟩
    · rw [live] at alive
      cases alive
    · rw [transfers] at found
      cases found

theorem users_run (start : Installation) (happenings : List Happening) :
    start.process.server.db.users <+: (run step start happenings).process.server.db.users := by
  induction happenings generalizing start with
  | nil => exact List.prefix_refl _
  | cons happening rest ih => exact (start.step_accounts happening).keepsUsers.trans (ih _)

theorem accounted_run {happenings : List Happening} (accounted : start.process.server.Accounted)
    (room : start.process.server.db.next_user_id.toInt + happenings.length < 2 ^ 63) :
    (run step start happenings).process.server.Accounted := by
  induction happenings generalizing start with
  | nil => exact accounted
  | cons happening rest ih =>
    rw [List.length_cons] at room
    refine ih (accounted_step accounted (by omega) happening) ?_
    cases start.step_accounts happening with
    | kept _ next =>
      rw [next]
      omega
    | created _ _ _ next =>
      rw [next, (Db.lt_add_one (by omega)).2]
      omega

theorem accounted_fresh (fresh : start.Fresh) (wellFormed : start.process.server.db.WellFormed) :
    start.process.server.Accounted := by
  obtain ⟨-, transfers, -, live, -⟩ := fresh.1.fresh
  refine ⟨wellFormed, fun alive _ => ?_, fun found => ?_⟩
  · rw [live] at alive
    cases alive
  · rw [transfers] at found
    cases found

/-- What is promised of the accounts over a sequence of processes. -/
structure KeepsAccounts (start : Installation) (happenings : List Happening) : Prop where
  grows : ∀ earlier later, happenings = earlier ++ later →
    (run step start earlier).process.server.db.users <+:
      (run step start happenings).process.server.db.users
  accounted : (run step start happenings).process.server.Accounted
  /-- Comparing numbers, as the handlers do, is comparing names. -/
  by_name : ∀ {conn self id session},
    (run step start happenings).process.server.live conn = some self →
    self.is_authenticated = true →
    (run step start happenings).process.server.transfers.transfers id = some session →
    (session.sender_user_id = self.user_id ↔ session.sender_username = self.username) ∧
      (session.receiver_user_id = self.user_id ↔ session.receiver_username = self.username)

/-- Over a table that meets its constraints, with numbers left for all that happens,
every sequence of processes keeps the accounts. -/
theorem accounts_kept {happenings : List Happening} (fresh : start.Fresh)
    (wellFormed : start.process.server.db.WellFormed)
    (room : start.process.server.db.next_user_id.toInt + happenings.length < 2 ^ 63) :
    start.KeepsAccounts happenings := by
  have accounted := accounted_run (accounted_fresh fresh wellFormed) room
  refine ⟨?_, accounted, fun alive authenticated found => ?_⟩
  · rintro earlier later rfl
    rw [run_append]
    exact users_run _ later
  · have own := accounted.online alive authenticated
    obtain ⟨sender, receiver⟩ := accounted.parties found
    exact ⟨accounted.wellFormed.id_eq_iff sender own, accounted.wellFormed.id_eq_iff receiver own⟩

theorem accounts_kept_sample : installed.KeepsAccounts (firstRun ++ secondRun "b") :=
  accounts_kept ⟨Sample.booted, rfl⟩ ⟨by decide, by decide, by decide, by decide⟩ (by decide)

end Installation

end FileShareX.Net

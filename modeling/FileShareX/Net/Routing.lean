import FileShareX.Net.Server

/-!
# Tokens lead back to their connections

A notification goes to the connection that the session table has for the
sender's token.  The database issues each token once, so an entry for the token
of a transfer can only be the connection that made the transfer.
-/

namespace FileShareX.Net

open Wire Posix Protocol Storage Transfer

namespace SessionManager

theorem usernamesLoop_subset (live : Live) (sessions : List (Bytes × ConnId))
    (usernames : List Bytes) : (usernamesLoop live sessions usernames).1 ⊆ sessions := by
  induction sessions generalizing usernames with
  | nil => exact List.Subset.refl _
  | cons entry rest ih =>
    unfold usernamesLoop
    split
    · exact List.cons_subset_cons _ (ih _)
    · exact List.subset_cons_of_subset _ (ih _)

theorem countLoop_subset (live : Live) (sessions : List (Bytes × ConnId)) (cnt : Nat) :
    (countLoop live sessions cnt).1 ⊆ sessions := by
  induction sessions generalizing cnt with
  | nil => exact List.Subset.refl _
  | cons entry rest ih =>
    unfold countLoop
    split
    · exact List.cons_subset_cons _ (ih _)
    · exact List.subset_cons_of_subset _ (ih _)

theorem count_subset (manager : SessionManager) (live : Live) :
    (manager.count live).1.sessions ⊆ manager.sessions := countLoop_subset ..

theorem remove_session_subset (manager : SessionManager) (token : Bytes) :
    (manager.remove_session token).sessions ⊆ manager.sessions := List.filter_subset_self _

theorem mem_add_session {manager : SessionManager} {token : Bytes} {conn : ConnId}
    {entry : Bytes × ConnId} (member : entry ∈ (manager.add_session token conn).sessions) :
    entry = (token, conn) ∨ entry ∈ manager.sessions :=
  (List.mem_cons.mp member).imp_right List.mem_of_mem_filter

theorem get_session_mem {manager : SessionManager} {live : Live} {token : Bytes} {conn : ConnId}
    (found : manager.get_session live token = some conn) : (token, conn) ∈ manager.sessions := by
  unfold get_session at found
  split at found
  · next other entry =>
    split at found
    · cases found
      obtain ⟨front, back, split, -⟩ := List.lookup_eq_some_iff.mp entry
      rw [split]
      exact List.mem_append_right _ (List.mem_cons_self ..)
    · cases found
  · cases found

theorem get_session_live {manager : SessionManager} {live : Live} {token : Bytes} {conn : ConnId}
    (found : manager.get_session live token = some conn) : (live conn).isSome := by
  unfold get_session at found
  split at found
  · split at found
    · next alive =>
      cases found
      exact alive
    · cases found
  · cases found

end SessionManager

theorem hex_ne_nil {data : Bytes} (nonempty : data ≠ []) : hex data ≠ [] := by
  cases data with
  | nil => exact absurd rfl nonempty
  | cons byte rest => simp [hex]

namespace Db

variable {db db' : Db} {env : AuthEnv}

theorem create_session_spec {token : Bytes} (created : db.create_session env = .ok (db', token)) :
    token ≠ [] ∧ token ∉ db.tokens ∧ db'.tokens = token :: db.tokens := by
  unfold create_session at created
  split at created
  · cases created
  · next buf drawn =>
    dsimp only at created
    split at created
    · cases created
    · split at created
      · cases created
      · next fresh =>
        cases created
        refine ⟨hex_ne_nil fun empty => ?_, fresh, rfl⟩
        have size := congrArg List.length empty
        simp at size

end Db

namespace AuthHandler

variable {db db' : Db} {env : AuthEnv}

theorem handle_register_tokens {req : RegisterReq} {resp : RegisterResp}
    (handled : handle_register db req env = .ok (db', resp)) : db'.tokens = db.tokens := by
  obtain ⟨-, rfl⟩ | ⟨-, -, -, -, -, tokens⟩ := handle_register_spec handled
  · rfl
  · exact tokens

theorem handle_login_tokens {req : LoginReq} {resp : LoginResp}
    (handled : handle_login db req env = .ok (db', resp)) :
    if resp.ok then
      resp.token ≠ [] ∧ resp.token ∉ db.tokens ∧ db'.tokens = resp.token :: db.tokens
    else db'.tokens = db.tokens := by
  obtain ⟨refused, -, rfl⟩ | ⟨ok, user, -, -, created⟩ := handle_login_spec handled
  · rw [refused]
    rfl
  · rw [if_pos ok]
    exact Db.create_session_spec created

end AuthHandler

namespace Server

/-- What a message can do to the authentication of the connections: a login
gives its own connection a token never issued before. -/
inductive AuthChange (server : Server) (conn : ConnId) (after : Server) : Prop
  | kept (live : after.live = server.live)
      (sessions : after.session_manager.sessions ⊆ server.session_manager.sessions)
      (tokens : after.db.tokens = server.db.tokens)
  | loggedIn {token user_id username} (nonempty : token ≠ []) (fresh : token ∉ server.db.tokens)
      (live : after.live = Function.update server.live conn (some { token, user_id, username }))
      (sessions : ∀ entry ∈ after.session_manager.sessions,
        entry = (token, conn) ∨ entry ∈ server.session_manager.sessions)
      (tokens : after.db.tokens = token :: server.db.tokens)

structure SameAuth (server after : Server) : Prop where
  live : after.live = server.live
  session_manager : after.session_manager = server.session_manager
  db : after.db = server.db
  conns : after.reading = server.reading ∧ after.next_conn = server.next_conn

variable {server after : Server} {conn : ConnId} {self : TcpSession} {payload : Vec} {env : Env}

theorem SameAuth.authChange (same : server.SameAuth after) : server.AuthChange conn after :=
  .kept same.live (by rw [same.session_manager]; exact List.Subset.refl _) (by rw [same.db])

theorem handle_file_offer_req_sameAuth :
    server.SameAuth (server.handle_file_offer_req conn self payload env).1 := by
  unfold handle_file_offer_req
  dsimp only
  repeat' split
  all_goals exact ⟨rfl, rfl, rfl, rfl, rfl⟩

theorem handle_file_accept_req_sameAuth :
    server.SameAuth (server.handle_file_accept_req conn self payload env).1 := by
  unfold handle_file_accept_req
  dsimp only
  repeat' split
  all_goals exact ⟨rfl, rfl, rfl, rfl, rfl⟩

theorem handle_file_chunk_sameAuth :
    server.SameAuth (server.handle_file_chunk self payload env).1 := by
  unfold handle_file_chunk
  dsimp only
  repeat' split
  all_goals exact ⟨rfl, rfl, rfl, rfl, rfl⟩

theorem handle_file_done_sameAuth :
    server.SameAuth (server.handle_file_done conn self payload env).1 := by
  unfold handle_file_done
  dsimp only
  repeat' split
  all_goals exact ⟨rfl, rfl, rfl, rfl, rfl⟩

theorem handle_register_req_authChange :
    server.AuthChange conn (server.handle_register_req conn payload env).1 := by
  unfold handle_register_req
  dsimp only
  split
  · exact SameAuth.authChange ⟨rfl, rfl, rfl, rfl, rfl⟩
  · next db resp handled =>
    obtain ⟨req, -, handled⟩ := Reader.bind_eq_ok.mp handled
    exact .kept rfl (List.Subset.refl _) (AuthHandler.handle_register_tokens handled)

theorem handle_login_req_authChange :
    server.AuthChange conn (server.handle_login_req conn self payload env).1 := by
  unfold handle_login_req
  dsimp only
  split
  · exact SameAuth.authChange ⟨rfl, rfl, rfl, rfl, rfl⟩
  · next db resp handled =>
    obtain ⟨req, -, handled⟩ := Reader.bind_eq_ok.mp handled
    have tokens := AuthHandler.handle_login_tokens handled
    split
    · next ok =>
      rw [if_pos ok] at tokens
      obtain ⟨nonempty, fresh, issued⟩ := tokens
      exact .loggedIn nonempty fresh rfl
        (fun entry member => SessionManager.mem_add_session (SessionManager.count_subset _ _ member))
        issued
    · next notOk =>
      rw [if_neg notOk] at tokens
      exact .kept rfl (List.Subset.refl _) tokens

theorem handle_message_sameAuth {type : UInt8} (noLogin : type ≠ MsgType.LOGIN_REQ.code) :
    (server.handle_message conn self payload env type).1.live = server.live := by
  unfold handle_message
  cases known : MsgType.ofCode? type with
  | none => rfl
  | some kind =>
    cases kind with
    | REGISTER_REQ =>
      unfold handle_register_req
      dsimp only
      split <;> rfl
    | LOGIN_REQ => exact absurd (MsgType.code_of_ofCode? known).symm noLogin
    | FILE_OFFER_REQ => exact handle_file_offer_req_sameAuth.live
    | FILE_ACCEPT_REQ => exact handle_file_accept_req_sameAuth.live
    | FILE_CHUNK => exact handle_file_chunk_sameAuth.live
    | FILE_DONE => exact handle_file_done_sameAuth.live
    | _ => rfl

theorem handle_message_authChange (type : UInt8) :
    server.AuthChange conn (server.handle_message conn self payload env type).1 := by
  unfold handle_message
  cases known : MsgType.ofCode? type with
  | none => exact SameAuth.authChange ⟨rfl, rfl, rfl, rfl, rfl⟩
  | some kind =>
    cases kind with
    | REGISTER_REQ => exact handle_register_req_authChange
    | LOGIN_REQ => exact handle_login_req_authChange
    | ONLINE_LIST_REQ => exact .kept rfl (SessionManager.usernamesLoop_subset ..) rfl
    | FILE_OFFER_REQ => exact handle_file_offer_req_sameAuth.authChange
    | FILE_ACCEPT_REQ => exact handle_file_accept_req_sameAuth.authChange
    | FILE_CHUNK => exact handle_file_chunk_sameAuth.authChange
    | FILE_DONE => exact handle_file_done_sameAuth.authChange
    | _ => exact SameAuth.authChange ⟨rfl, rfl, rfl, rfl, rfl⟩

theorem handle_message_conns (type : UInt8) :
    (server.handle_message conn self payload env type).1.reading = server.reading ∧
      (server.handle_message conn self payload env type).1.next_conn = server.next_conn := by
  unfold handle_message
  cases known : MsgType.ofCode? type with
  | none => exact ⟨rfl, rfl⟩
  | some kind =>
    cases kind with
    | REGISTER_REQ =>
      unfold handle_register_req
      dsimp only
      split <;> exact ⟨rfl, rfl⟩
    | LOGIN_REQ =>
      unfold handle_login_req
      dsimp only
      split
      · exact ⟨rfl, rfl⟩
      · split <;> exact ⟨rfl, rfl⟩
    | FILE_OFFER_REQ => exact handle_file_offer_req_sameAuth.conns
    | FILE_ACCEPT_REQ => exact handle_file_accept_req_sameAuth.conns
    | FILE_CHUNK => exact handle_file_chunk_sameAuth.conns
    | FILE_DONE => exact handle_file_done_sameAuth.conns
    | _ => exact ⟨rfl, rfl⟩

/-- A connection keeps its authentication, or loses it, and the same goes for
being read. -/
def Fades (server after : Server) (conn : ConnId) : Prop :=
  ∀ self, after.live conn = some self → self.is_authenticated = true →
    server.live conn = some self ∧ (after.reading conn = true → server.reading conn = true)

theorem Fades.same (live : after.live = server.live) (reading : after.reading = server.reading) :
    server.Fades after conn := by
  intro self alive _
  rw [← live, ← reading]
  exact ⟨alive, id⟩

theorem disconnect_fades (reason : Exit) (other : ConnId) :
    server.Fades (server.disconnect conn reason) other := by
  unfold disconnect
  cases alive : server.live conn with
  | none => exact .same rfl rfl
  | some self =>
    have stops : ∀ reason, (if reason = Exit.write then server
        else { server with reading := Function.update server.reading conn false }).reading other = true →
        server.reading other = true := by
      intro reason
      split
      · exact id
      · by_cases same : other = conn
        · subst same
          simp
        · simp [Function.update_of_ne same]
    dsimp only
    split
    · intro self' alive' _
      refine ⟨?_, stops reason⟩
      split at alive' <;> exact alive'
    · intro self' alive' authenticated
      by_cases same : other = conn
      · subst same
        dsimp only at alive'
        rw [Function.update_self] at alive'
        cases alive'
        cases authenticated
      · dsimp only at alive'
        rw [Function.update_of_ne same] at alive'
        exact ⟨alive', stops reason⟩

/-- Only a login handled on a connection can authenticate it. -/
theorem step_fades {label : Label} {other : ConnId}
    (noLogin : ∀ payload env, label ≠ .receive other MsgType.LOGIN_REQ.code payload env) :
    server.Fades (server.step label).1 other := by
  cases label with
  | connect =>
    intro self alive authenticated
    unfold step at alive ⊢
    dsimp only at alive ⊢
    by_cases same : other = server.next_conn
    · subst same
      rw [Function.update_self] at alive
      cases alive
      cases authenticated
    · rw [Function.update_of_ne same] at alive ⊢
      exact ⟨alive, id⟩
  | disconnect conn reason => exact disconnect_fades reason other
  | release conn =>
    unfold step release
    dsimp only
    split
    · exact .same rfl rfl
    · intro self alive _
      dsimp only at alive ⊢
      by_cases same : other = conn
      · subst same
        rw [Function.update_self] at alive
        cases alive
      · rw [Function.update_of_ne same] at alive
        exact ⟨alive, id⟩
  | receive conn type payload env =>
    unfold step
    dsimp only
    split
    · exact .same rfl rfl
    · next self found =>
      split
      · have conns := @handle_message_conns server conn self payload env type
        intro self' alive authenticated
        rw [conns.1]
        refine ⟨?_, id⟩
        by_cases login : type = MsgType.LOGIN_REQ.code
        · have ne : other ≠ conn := by
            rintro rfl
            exact noLogin payload env (by rw [login])
          cases @handle_message_authChange server conn self payload env type with
          | kept live => rwa [← live]
          | loggedIn nonempty fresh live =>
            rw [live, Function.update_of_ne ne] at alive
            exact alive
        · rwa [handle_message_sameAuth login] at alive
      · exact .same rfl rfl

/-- Tokens in use are issued ones; an entry for the token of a connection is that
connection, and one for the token of a transfer is the connection that made it. -/
structure Routing (server : Server) (maker : UInt64 → Option ConnId) : Prop where
  issued : ∀ {conn self}, server.live conn = some self → self.is_authenticated = true →
    self.token ∈ server.db.tokens
  listed : ∀ {entry}, entry ∈ server.session_manager.sessions → entry.1 ∈ server.db.tokens
  own : ∀ {conn self other}, server.live conn = some self → self.is_authenticated = true →
    (self.token, other) ∈ server.session_manager.sessions → other = conn
  recorded : ∀ {id session}, server.transfers.transfers id = some session →
    session.sender_token ∈ server.db.tokens
  routed : ∀ {id session other}, server.transfers.transfers id = some session →
    (session.sender_token, other) ∈ server.session_manager.sessions → maker id = some other

namespace Routing

variable {maker : UInt64 → Option ConnId}

theorem fade (routing : server.Routing maker)
    (live : ∀ conn self, after.live conn = some self → self.is_authenticated = true →
      server.live conn = some self)
    (sessions : after.session_manager.sessions ⊆ server.session_manager.sessions)
    (tokens : after.db.tokens = server.db.tokens) (transfers : after.transfers = server.transfers) :
    after.Routing maker where
  issued alive authenticated := by
    rw [tokens]
    exact routing.issued (live _ _ alive authenticated) authenticated
  listed member := by
    rw [tokens]
    exact routing.listed (sessions member)
  own alive authenticated member :=
    routing.own (live _ _ alive authenticated) authenticated (sessions member)
  recorded found := by
    rw [transfers] at found
    rw [tokens]
    exact routing.recorded found
  routed found member := by
    rw [transfers] at found
    exact routing.routed found (sessions member)

theorem authChange (routing : server.Routing maker) (change : server.AuthChange conn after)
    (transfers : after.transfers = server.transfers) : after.Routing maker := by
  cases change with
  | kept live sessions tokens =>
    exact routing.fade (fun _ _ alive _ => by rwa [live] at alive) sessions tokens transfers
  | @loggedIn token user_id username nonempty fresh live sessions tokens =>
    -- the new token is in no entry, no connection and no record yet
    have split {other : ConnId} {self : TcpSession} (alive : after.live other = some self) :
        other = conn ∧ self.token = token ∨ server.live other = some self := by
      rw [live] at alive
      by_cases same : other = conn
      · subst same
        rw [Function.update_self] at alive
        cases alive
        exact .inl ⟨rfl, rfl⟩
      · rw [Function.update_of_ne same] at alive
        exact .inr alive
    have old {token' : Bytes} {other : ConnId} (issued : token' ∈ server.db.tokens)
        (member : (token', other) ∈ after.session_manager.sessions) :
        (token', other) ∈ server.session_manager.sessions := by
      rcases sessions _ member with new | old
      · cases new
        exact absurd issued fresh
      · exact old
    refine ⟨fun alive authenticated => ?_, fun member => ?_,
      fun alive authenticated member => ?_, fun found => ?_, fun found member => ?_⟩
    · rw [tokens]
      rcases split alive with ⟨-, rfl⟩ | before
      · exact List.mem_cons_self ..
      · exact List.mem_cons_of_mem _ (routing.issued before authenticated)
    · rw [tokens]
      rcases sessions _ member with rfl | before
      · exact List.mem_cons_self ..
      · exact List.mem_cons_of_mem _ (routing.listed before)
    · rcases split alive with ⟨rfl, rfl⟩ | before
      · rcases sessions _ member with new | before
        · cases new
          rfl
        · exact absurd (routing.listed before) fresh
      · exact routing.own before authenticated (old (routing.issued before authenticated) member)
    · rw [transfers] at found
      rw [tokens]
      exact List.mem_cons_of_mem _ (routing.recorded found)
    · rw [transfers] at found
      exact routing.routed found (old (routing.recorded found) member)

theorem put (routing : server.Routing maker) {os : Os} {id : UInt64}
    {session session' : TransferSession} (found : server.transfers.transfers id = some session)
    (token : session'.sender_token = session.sender_token) :
    Routing { server with os, transfers := server.transfers.put id session' } maker where
  issued := routing.issued
  listed := routing.listed
  own := routing.own
  recorded found' := by
    rcases TransferManager.put_found found' with ⟨-, rfl⟩ | ⟨-, old⟩
    · rw [token]
      exact routing.recorded found
    · exact routing.recorded old
  routed found' member := by
    rcases TransferManager.put_found found' with ⟨rfl, rfl⟩ | ⟨-, old⟩
    · rw [token] at member
      exact routing.routed found member
    · exact routing.routed old member

theorem offered (routing : server.Routing maker) (alive : server.live conn = some self)
    (authenticated : self.is_authenticated = true) {id next : UInt64} {session : TransferSession}
    (token : session.sender_token = self.token) :
    Routing
      { server with
        transfers := { server.transfers.put id session with next_transfer_id := next } }
      (Function.update maker id (some conn)) where
  issued := routing.issued
  listed := routing.listed
  own := routing.own
  recorded found := by
    rcases TransferManager.put_found found with ⟨-, rfl⟩ | ⟨-, old⟩
    · rw [token]
      exact routing.issued alive authenticated
    · exact routing.recorded old
  routed found member := by
    rcases TransferManager.put_found found with ⟨rfl, rfl⟩ | ⟨ne, old⟩
    · rw [token] at member
      rw [routing.own alive authenticated member, Function.update_self]
    · rw [Function.update_of_ne ne]
      exact routing.routed old member

end Routing

end Server

namespace Observed

def madeBy (state : Observed) (label : Label) (maker : UInt64 → Option ConnId) :
    UInt64 → Option ConnId :=
  match label, state.asks label with
  | .receive conn _ _ _, some (.offer _ _) =>
    Function.update maker state.server.transfers.next_transfer_id (some conn)
  | _, _ => maker

variable {state : Observed} {label : Label} {maker : UInt64 → Option ConnId}

theorem madeBy_idle (idle : state.asks label = none) : state.madeBy label maker = maker := by
  unfold madeBy
  rw [idle]
  cases label <;> rfl

theorem madeBy_offer {conn : ConnId} {type : UInt8} {payload : Vec} {env : Env} {req : FileOfferReq}
    {receiver : UserRow}
    (asked : state.asks (.receive conn type payload env) = some (.offer req receiver)) :
    state.madeBy (.receive conn type payload env) maker =
      Function.update maker state.server.transfers.next_transfer_id (some conn) := by
  unfold madeBy
  rw [asked]

theorem madeBy_noOffer (noOffer : ∀ req receiver, state.asks label ≠ some (.offer req receiver)) :
    state.madeBy label maker = maker := by
  cases asked : state.asks label with
  | none => exact madeBy_idle asked
  | some request =>
    unfold madeBy
    rw [asked]
    cases request with
    | offer req receiver => exact absurd asked (noOffer req receiver)
    | _ => cases label <;> rfl

theorem next_conn_le (state : Observed) (label : Label) :
    state.server.next_conn ≤ (state.step label).server.next_conn := by
  unfold step Server.step
  cases label with
  | connect => exact Nat.le_succ _
  | receive conn type payload env =>
    dsimp only
    split
    · exact Nat.le_refl _
    · split
      · exact Nat.le_of_eq (Server.handle_message_conns type).2.symm
      · exact Nat.le_refl _
  | disconnect conn reason =>
    unfold Server.disconnect
    dsimp only
    split
    · exact Nat.le_refl _
    · split <;> split <;> exact Nat.le_refl _
  | release conn =>
    unfold Server.release
    dsimp only
    split <;> exact Nat.le_refl _

theorem routing_booted (boot : state.Booted) : state.server.Routing maker := by
  obtain ⟨-, transfers, manager, live, -⟩ := boot.fresh
  refine ⟨fun alive => ?_, fun member => ?_, fun alive => ?_, fun found => ?_, fun found => ?_⟩
  · rw [live] at alive
    cases alive
  · rw [manager] at member
    cases member
  · rw [live] at alive
    cases alive
  · rw [transfers] at found
    cases found
  · rw [transfers] at found
    cases found

theorem disconnect_sessions (server : Server) (conn : ConnId) (reason : Exit) :
    (server.disconnect conn reason).session_manager.sessions ⊆ server.session_manager.sessions ∧
      (server.disconnect conn reason).db = server.db := by
  unfold Server.disconnect
  split
  · exact ⟨List.Subset.refl _, rfl⟩
  · dsimp only
    split
    · split <;> exact ⟨List.Subset.refl _, rfl⟩
    · refine ⟨List.Subset.trans (SessionManager.remove_session_subset _ _)
        (SessionManager.count_subset _ _), ?_⟩
      split <;> rfl

theorem routing_step (routing : state.server.Routing maker) :
    (state.step label).server.Routing (state.madeBy label maker) := by
  cases asked : state.asks label with
  | none =>
    have transfers := (step_same asked).1.transfers
    rw [madeBy_idle asked]
    have fades (noLogin : ∀ conn payload env,
        label ≠ .receive conn MsgType.LOGIN_REQ.code payload env) (conn : ConnId) (self : TcpSession)
        (alive : (state.step label).server.live conn = some self)
        (authenticated : self.is_authenticated = true) : state.server.live conn = some self :=
      (Server.step_fades (noLogin conn) self alive authenticated).1
    cases label with
    | connect => exact routing.fade (fades (by simp)) (List.Subset.refl _) rfl transfers
    | disconnect conn reason =>
      obtain ⟨sessions, db⟩ := disconnect_sessions state.server conn reason
      exact routing.fade (fades (by simp)) sessions (congrArg Db.tokens db) transfers
    | release conn =>
      have same : (state.server.release conn).session_manager = state.server.session_manager ∧
          (state.server.release conn).db = state.server.db := by
        unfold Server.release
        split <;> exact ⟨rfl, rfl⟩
      have sessions : (state.server.release conn).session_manager.sessions ⊆
          state.server.session_manager.sessions := by
        rw [same.1]
        exact List.Subset.refl _
      exact routing.fade (fades (by simp)) sessions (congrArg Db.tokens same.2) transfers
    | receive conn type payload env =>
      unfold step Server.step at transfers ⊢
      dsimp only at transfers ⊢
      cases found : state.server.live conn with
      | none => exact routing
      | some self =>
        rw [found] at transfers
        by_cases reading : state.server.reading conn = true
        · simp only [if_pos reading] at transfers ⊢
          exact routing.authChange (Server.handle_message_authChange type) transfers
        · simpa only [if_neg reading] using routing
  | some request =>
    obtain ⟨conn, self, result, ⟨alive, payload, env, rfl, -⟩, effect, -, stepped⟩ :=
      step_effect asked
    rw [stepped]
    unfold madeBy
    rw [asked]
    cases effect with
    | offered authenticated => exact routing.offered alive authenticated rfl
    | openFailed authenticated found => exact routing.put found rfl
    | opened authenticated found => exact routing.put found rfl
    | rejected authenticated found => exact routing.put found rfl
    | writeFailed authenticated found => exact routing.put found rfl
    | received authenticated found => exact routing.put found rfl
    | strayed authenticated found => exact routing.put found rfl
    | finalizeFailed authenticated found => exact routing.put found rfl
    | finalized authenticated found => exact routing.put found rfl

end Observed

end FileShareX.Net

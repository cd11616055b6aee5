import FileShareX.Net.Routing
import FileShareX.Protocol.Grammar
import Mathlib.Data.List.Nodup

/-!
# Who is online

The table of sessions is keyed by token and holds weak pointers, while the
authentication lives in the connections.  The two agree as long as no
connection logs in a second time.
-/

namespace FileShareX.Net

open Wire Protocol Machine

namespace SessionManager

variable {live : Live} {manager : SessionManager}

def held (live : Live) (entry : Bytes × ConnId) : Bool := (live entry.2).isSome

/-- The authenticated connections that the entries lead to, one for each entry. -/
def online (live : Live) (sessions : List (Bytes × ConnId)) : List (ConnId × TcpSession) :=
  sessions.filterMap fun entry =>
    match live entry.2 with
    | some self => if self.is_authenticated then some (entry.2, self) else none
    | none => none

theorem usernamesLoop_eq (sessions : List (Bytes × ConnId)) (usernames : List Bytes) :
    usernamesLoop live sessions usernames =
      (sessions.filter (held live), usernames ++ (online live sessions).map (·.2.username)) := by
  induction sessions generalizing usernames with
  | nil => simp [usernamesLoop, online]
  | cons entry rest ih =>
    obtain ⟨token, conn⟩ := entry
    unfold usernamesLoop
    cases found : live conn with
    | none => simp [ih, online, held, found]
    | some self =>
      cases authenticated : self.is_authenticated with
      | false => simp [ih, online, held, found, authenticated]
      | true => simp [ih, online, held, found, authenticated]

theorem countLoop_eq (sessions : List (Bytes × ConnId)) (cnt : Nat) :
    countLoop live sessions cnt =
      (sessions.filter (held live), cnt + (online live sessions).length) := by
  induction sessions generalizing cnt with
  | nil => simp [countLoop, online]
  | cons entry rest ih =>
    obtain ⟨token, conn⟩ := entry
    unfold countLoop
    cases found : live conn with
    | none => simp [ih, online, held, found]
    | some self =>
      cases authenticated : self.is_authenticated with
      | false => simp [ih, online, held, found, authenticated]
      | true => simp [ih, online, held, found, authenticated, Nat.add_assoc, Nat.add_comm 1]

theorem get_online_usernames_eq : manager.get_online_usernames live =
    (⟨manager.sessions.filter (held live)⟩,
      (online live manager.sessions).map (·.2.username)) := by
  simp [get_online_usernames, usernamesLoop_eq]

theorem count_eq : manager.count live =
    (⟨manager.sessions.filter (held live)⟩, (online live manager.sessions).length) := by
  simp [count, countLoop_eq]

theorem mem_online {sessions : List (Bytes × ConnId)} {conn : ConnId} {self : TcpSession} :
    (conn, self) ∈ online live sessions ↔
      live conn = some self ∧ self.is_authenticated = true ∧ ∃ token, (token, conn) ∈ sessions := by
  simp only [online, List.mem_filterMap, Prod.exists]
  constructor
  · rintro ⟨token, other, member, mapped⟩
    split at mapped
    · next self' found =>
      split at mapped
      · next authenticated =>
        cases mapped
        exact ⟨found, authenticated, token, member⟩
      · cases mapped
    · cases mapped
  · rintro ⟨found, authenticated, token, member⟩
    exact ⟨token, conn, member, by simp [found, authenticated]⟩

end SessionManager

theorem AuthHandler.handle_login_username {db db' : Db} {req : LoginReq} {env : AuthEnv}
    {resp : LoginResp} (handled : handle_login db req env = .ok (db', resp)) :
    resp.username.length ≤ req.username.length := by
  obtain ⟨-, unnamed, -⟩ | ⟨-, user, found, named, -⟩ := handle_login_spec handled
  · rw [unnamed]
    exact Nat.zero_le _
  · have same : user.username = Posix.cString req.username := by
      unfold Db.get_user_by_username at found
      split at found
      · cases found
      · simpa using List.find?_some (Except.ok.inj found)
    rw [named, same]
    exact (List.takeWhile_sublist _).length_le

namespace Server

def authenticated (server : Server) (conn : ConnId) : Bool :=
  (server.live conn).any (·.is_authenticated)

def acceptsLogin (server : Server) (payload : Vec) (env : Env) : Bool :=
  let handled := do
    let req ← LoginReq.deserialize.result payload
    AuthHandler.handle_login server.db req env.auth
  match handled with
  | .ok (_, resp) => resp.ok
  | .error _ => false

def logsIn (server : Server) : Label → Option ConnId
  | .receive conn type payload env =>
    if (server.live conn).isSome ∧ server.reading conn ∧ type = MsgType.LOGIN_REQ.code ∧
      server.acceptsLogin payload env then some conn else none
  | _ => none

/-- What a step can do to the connections and to the table that leads to them. -/
inductive SessionStep (server : Server) (label : Label) (after : Server) : Prop
  | kept (live : after.live = server.live) (next : after.next_conn = server.next_conn)
      (sessions : after.session_manager.sessions = server.session_manager.sessions ∨
        after.session_manager.sessions =
          server.session_manager.sessions.filter (SessionManager.held server.live))
      (tokens : after.db.tokens = server.db.tokens)
  | connected (live : after.live = Function.update server.live server.next_conn (some {}))
      (next : after.next_conn = server.next_conn + 1)
      (sessions : after.session_manager = server.session_manager)
      (tokens : after.db.tokens = server.db.tokens)
  | loggedIn {conn self token user_id username} (logs : server.logsIn label = some conn)
      (found : server.live conn = some self) (nonempty : token ≠ [])
      (fresh : token ∉ server.db.tokens) (short : username.length ≤ 65535)
      (live : after.live = Function.update server.live conn (some { token, user_id, username }))
      (next : after.next_conn = server.next_conn)
      (sessions : after.session_manager.sessions =
        (server.session_manager.add_session token conn).sessions.filter
          (SessionManager.held after.live))
      (tokens : after.db.tokens = token :: server.db.tokens)
  | dropped {conn self} (found : server.live conn = some self)
      (authenticated : self.is_authenticated = true)
      (live : after.live = Function.update server.live conn (some {}))
      (next : after.next_conn = server.next_conn)
      (sessions : after.session_manager.sessions =
        (server.session_manager.sessions.filter (SessionManager.held server.live)).filter
          fun entry => entry.1 ≠ self.token)
      (tokens : after.db.tokens = server.db.tokens)
  | released {conn} (live : after.live = Function.update server.live conn none)
      (next : after.next_conn = server.next_conn)
      (sessions : after.session_manager = server.session_manager)
      (tokens : after.db.tokens = server.db.tokens)

variable {server after : Server} {label : Label} {conn : ConnId} {self : TcpSession} {payload : Vec}
  {env : Env}

theorem SameAuth.sessionStep (same : server.SameAuth after) : server.SessionStep label after :=
  .kept same.live same.conns.2 (.inl (by rw [same.session_manager])) (by rw [same.db])

theorem handle_register_req_sessionStep :
    server.SessionStep label (server.handle_register_req conn payload env).1 := by
  unfold handle_register_req
  dsimp only
  split
  · exact SameAuth.sessionStep ⟨rfl, rfl, rfl, rfl, rfl⟩
  · next db resp handled =>
    obtain ⟨req, -, handled⟩ := Reader.bind_eq_ok.mp handled
    exact .kept rfl rfl (.inl rfl) (AuthHandler.handle_register_tokens handled)

theorem handle_login_req_sessionStep (found : server.live conn = some self)
    (reading : server.reading conn = true) :
    server.SessionStep (.receive conn MsgType.LOGIN_REQ.code payload env)
      (server.handle_login_req conn self payload env).1 := by
  unfold handle_login_req
  dsimp only
  split
  · exact SameAuth.sessionStep ⟨rfl, rfl, rfl, rfl, rfl⟩
  · next db resp handled =>
    have accepts : server.acceptsLogin payload env = resp.ok := by
      unfold acceptsLogin
      dsimp only
      rw [handled]
    obtain ⟨req, parsed, handled⟩ := Reader.bind_eq_ok.mp handled
    have tokens := AuthHandler.handle_login_tokens handled
    have fits := ((LoginReq.deserialize_eq_ok payload req).mp parsed).1.1
    have short := (AuthHandler.handle_login_username handled).trans fits
    split
    · next ok =>
      rw [if_pos ok] at tokens
      obtain ⟨nonempty, fresh, issued⟩ := tokens
      have logs : server.logsIn (.receive conn MsgType.LOGIN_REQ.code payload env) = some conn :=
        if_pos ⟨by simp [found], reading, rfl, by rw [accepts, ok]⟩
      exact .loggedIn logs found nonempty fresh short rfl rfl (by rw [SessionManager.count_eq]) issued
    · next notOk =>
      rw [if_neg notOk] at tokens
      exact .kept rfl rfl (.inl rfl) tokens

theorem handle_message_sessionStep {type : UInt8} (found : server.live conn = some self)
    (reading : server.reading conn = true) :
    server.SessionStep (.receive conn type payload env)
      (server.handle_message conn self payload env type).1 := by
  unfold handle_message
  cases known : MsgType.ofCode? type with
  | none => exact SameAuth.sessionStep ⟨rfl, rfl, rfl, rfl, rfl⟩
  | some kind =>
    cases kind with
    | REGISTER_REQ => exact handle_register_req_sessionStep
    | LOGIN_REQ =>
      rw [← MsgType.code_of_ofCode? known]
      exact handle_login_req_sessionStep found reading
    | ONLINE_LIST_REQ =>
      refine .kept rfl rfl (.inr ?_) rfl
      unfold handle_online_list_req
      rw [SessionManager.get_online_usernames_eq]
    | FILE_OFFER_REQ => exact handle_file_offer_req_sameAuth.sessionStep
    | FILE_ACCEPT_REQ => exact handle_file_accept_req_sameAuth.sessionStep
    | FILE_CHUNK => exact handle_file_chunk_sameAuth.sessionStep
    | FILE_DONE => exact handle_file_done_sameAuth.sessionStep
    | _ => exact SameAuth.sessionStep ⟨rfl, rfl, rfl, rfl, rfl⟩

/-- The oversized payload leaves the authentication as it is. -/
theorem disconnect_spec (found : server.live conn = some self) (reason : Exit) :
    (server.disconnect conn reason).db = server.db ∧
      (server.disconnect conn reason).next_conn = server.next_conn ∧
      if reason = .tooLarge ∨ !self.is_authenticated then
        (server.disconnect conn reason).live = server.live ∧
          (server.disconnect conn reason).session_manager = server.session_manager
      else
        (server.disconnect conn reason).live = Function.update server.live conn (some {}) ∧
          (server.disconnect conn reason).session_manager.sessions =
            (server.session_manager.sessions.filter (SessionManager.held server.live)).filter
              fun entry => entry.1 ≠ self.token := by
  unfold disconnect
  rw [found]
  dsimp only
  by_cases misses : reason = .tooLarge ∨ !self.is_authenticated
  · simp only [if_pos misses]
    split <;> exact ⟨rfl, rfl, rfl, rfl⟩
  · simp only [if_neg misses]
    refine ⟨?_, ?_, rfl, ?_⟩
    · split <;> rfl
    · split <;> rfl
    · rw [SessionManager.count_eq]
      rfl

theorem step_sessionStep (server : Server) (label : Label) :
    server.SessionStep label (server.step label).1 := by
  cases label with
  | connect => exact .connected rfl rfl rfl rfl
  | receive conn type payload env =>
    unfold step
    dsimp only
    cases found : server.live conn with
    | none => exact .kept rfl rfl (.inl rfl) rfl
    | some self =>
      by_cases reading : server.reading conn = true
      · simp only [if_pos reading]
        exact handle_message_sessionStep found reading
      · simp only [if_neg reading]
        exact .kept rfl rfl (.inl rfl) rfl
  | disconnect conn reason =>
    change server.SessionStep _ (server.disconnect conn reason)
    cases found : server.live conn with
    | none =>
      have same : server.disconnect conn reason = server := by
        unfold disconnect
        rw [found]
      rw [same]
      exact .kept rfl rfl (.inl rfl) rfl
    | some self =>
      obtain ⟨db, next, changed⟩ := disconnect_spec found reason
      split at changed
      · exact .kept changed.1 next (.inl (by rw [changed.2])) (by rw [db])
      · next cleans =>
        have authenticated : self.is_authenticated = true := by simpa using (not_or.mp cleans).2
        exact .dropped found authenticated changed.1 next changed.2 (by rw [db])
  | release conn =>
    unfold step release
    dsimp only
    split
    · exact .kept rfl rfl (.inl rfl) rfl
    · exact .released rfl rfl rfl rfl

def Numbered (server : Server) : Prop :=
  ∀ conn self, server.live conn = some self → conn < server.next_conn

theorem Numbered.step (numbered : server.Numbered) (label : Label) :
    (server.step label).1.Numbered := by
  have update {other : ConnId} {change : Option TcpSession} (below : other < server.next_conn)
      {conn : ConnId} {self : TcpSession}
      (found : Function.update server.live other change conn = some self) : conn < server.next_conn := by
    by_cases same : conn = other
    · exact same ▸ below
    · rw [Function.update_of_ne same] at found
      exact numbered _ _ found
  intro conn self found
  cases step_sessionStep server label with
  | kept live next =>
    rw [live] at found
    rw [next]
    exact numbered _ _ found
  | connected live next =>
    rw [live] at found
    rw [next]
    by_cases new : conn = server.next_conn
    · exact new ▸ Nat.lt_succ_self _
    · rw [Function.update_of_ne new] at found
      exact Nat.lt_succ_of_lt (numbered _ _ found)
  | loggedIn _ alive _ _ _ live next =>
    rw [live] at found
    rw [next]
    exact update (numbered _ _ alive) found
  | dropped alive _ live next =>
    rw [live] at found
    rw [next]
    exact update (numbered _ _ alive) found
  | @released other live next =>
    rw [live] at found
    rw [next]
    by_cases same : conn = other
    · rw [same, Function.update_self] at found
      cases found
    · rw [Function.update_of_ne same] at found
      exact numbered _ _ found

/-! ### The exact list -/

/-- The readers of the table answer with every authenticated connection once, and the
entries that can be locked are those of the current tokens. -/
structure ListedExactly (server : Server) : Prop where
  online : ∃ conns : List (ConnId × TcpSession),
    (conns.map Prod.fst).Nodup ∧
    (∀ conn self, (conn, self) ∈ conns ↔ server.live conn = some self ∧ self.is_authenticated = true) ∧
    (server.session_manager.get_online_usernames server.live).2 = conns.map (·.2.username) ∧
    (server.session_manager.count server.live).2 = conns.length
  keyed : ∀ token conn, (server.live conn).isSome →
    ((token, conn) ∈ server.session_manager.sessions ↔
      ∃ self, server.live conn = some self ∧ self.is_authenticated = true ∧ self.token = token)

/-- The invariant behind it: keys are unique and issued, connections are numbered in
order, and a live connection has the entry of its token and no other. -/
structure Tabled (server : Server) : Prop where
  keys : (server.session_manager.sessions.map Prod.fst).Nodup
  listed : ∀ {token conn}, (token, conn) ∈ server.session_manager.sessions →
    token ∈ server.db.tokens ∧ conn < server.next_conn
  numbered : server.Numbered
  entry : ∀ {token conn self}, server.live conn = some self →
    ((token, conn) ∈ server.session_manager.sessions ↔
      self.is_authenticated = true ∧ self.token = token)

namespace Tabled

theorem nodup_conns (tabled : server.Tabled) :
    ((SessionManager.online server.live server.session_manager.sessions).map Prod.fst).Nodup := by
  have keys := List.pairwise_map.mp tabled.keys
  unfold SessionManager.online
  refine List.pairwise_map.mpr (List.pairwise_filterMap.mpr (keys.imp_of_mem ?_))
  -- Two entries of one connection would carry its one token.
  rintro ⟨token, conn⟩ ⟨token', conn'⟩ member member' differ ⟨conn₁, self₁⟩ mapped ⟨conn₂, self₂⟩ mapped'
    same
  dsimp only at mapped mapped' same differ
  subst same
  split at mapped
  · next found =>
    split at mapped
    · cases mapped
      split at mapped'
      · next found' =>
        split at mapped'
        · cases mapped'
          obtain ⟨-, current⟩ := (tabled.entry found).mp member
          obtain ⟨-, current'⟩ := (tabled.entry found).mp member'
          exact differ (current.symm.trans current')
        · cases mapped'
      · cases mapped'
    · cases mapped
  · cases mapped

theorem listedExactly (tabled : server.Tabled) : server.ListedExactly where
  online := by
    refine ⟨_, tabled.nodup_conns, fun conn self => ?_, ?_, ?_⟩
    · rw [SessionManager.mem_online]
      refine and_congr_right fun found => ⟨And.left, fun authenticated => ?_⟩
      exact ⟨authenticated, self.token, (tabled.entry found).mpr ⟨authenticated, rfl⟩⟩
    · rw [SessionManager.get_online_usernames_eq]
    · rw [SessionManager.count_eq]
  keyed token conn alive := by
    obtain ⟨self, found⟩ := Option.isSome_iff_exists.mp alive
    rw [tabled.entry found]
    exact ⟨fun current => ⟨self, found, current⟩, fun ⟨self', found', current⟩ => by
      cases found.symm.trans found'
      exact current⟩

/-- The same connections, and a table that may have lost entries of dead ones. -/
theorem purge (tabled : server.Tabled) (numbered : after.Numbered) (live : after.live = server.live)
    (next : after.next_conn = server.next_conn)
    (fewer : after.session_manager.sessions.Sublist server.session_manager.sessions)
    (holds : ∀ entry ∈ server.session_manager.sessions, SessionManager.held server.live entry = true →
      entry ∈ after.session_manager.sessions)
    (tokens : after.db.tokens = server.db.tokens) : after.Tabled where
  keys := (fewer.map Prod.fst).nodup tabled.keys
  listed member := by
    rw [tokens, next]
    exact tabled.listed (fewer.subset member)
  numbered := numbered
  entry found := by
    rw [live] at found
    rw [← tabled.entry found]
    exact ⟨fun member => fewer.subset member,
      fun member => holds _ member (by simp [SessionManager.held, found])⟩

theorem connect (tabled : server.Tabled) (numbered : after.Numbered)
    (live : after.live = Function.update server.live server.next_conn (some {}))
    (next : after.next_conn = server.next_conn + 1)
    (sessions : after.session_manager = server.session_manager)
    (tokens : after.db.tokens = server.db.tokens) : after.Tabled where
  keys := by rw [sessions]; exact tabled.keys
  listed member := by
    rw [sessions] at member
    obtain ⟨issued, below⟩ := tabled.listed member
    rw [tokens, next]
    exact ⟨issued, Nat.lt_succ_of_lt below⟩
  numbered := numbered
  entry {token conn _} found := by
    rw [sessions]
    by_cases new : conn = server.next_conn
    · subst new
      rw [live, Function.update_self] at found
      cases found
      refine ⟨fun member => ?_, fun ⟨authenticated, _⟩ => by cases authenticated⟩
      exact absurd (tabled.listed member).2 (Nat.lt_irrefl _)
    · rw [live, Function.update_of_ne new] at found
      exact tabled.entry found

theorem login (tabled : server.Tabled) (numbered : after.Numbered) {token username : Bytes}
    {user_id : Int64}
    (found : server.live conn = some self) (anonymous : self.is_authenticated = false)
    (nonempty : token ≠ []) (fresh : token ∉ server.db.tokens)
    (live : after.live = Function.update server.live conn (some { token, user_id, username }))
    (next : after.next_conn = server.next_conn)
    (sessions : after.session_manager.sessions =
      (server.session_manager.add_session token conn).sessions.filter (SessionManager.held after.live))
    (tokens : after.db.tokens = token :: server.db.tokens) : after.Tabled where
  keys := by
    have added : ((server.session_manager.add_session token conn).sessions.map Prod.fst).Nodup := by
      refine List.nodup_cons.mpr ⟨fun member => ?_, ?_⟩
      · obtain ⟨entry, kept, same⟩ := List.mem_map.mp member
        simpa [same] using (List.mem_filter.mp kept).2
      · exact (List.filter_sublist.map Prod.fst).nodup tabled.keys
    rw [sessions]
    exact (List.filter_sublist.map Prod.fst).nodup added
  listed member := by
    rw [sessions] at member
    rw [tokens, next]
    rcases SessionManager.mem_add_session (List.mem_of_mem_filter member) with new | old
    · cases new
      exact ⟨List.mem_cons_self .., tabled.numbered _ _ found⟩
    · exact ⟨List.mem_cons_of_mem _ (tabled.listed old).1, (tabled.listed old).2⟩
  numbered := numbered
  entry {token' other self'} found' := by
    have present : (token', other) ∈ after.session_manager.sessions ↔
        (token', other) ∈ (server.session_manager.add_session token conn).sessions := by
      rw [sessions, List.mem_filter]
      exact and_iff_left (by simp [SessionManager.held, found'])
    have old (issued : token' ∈ server.db.tokens) : token' ≠ token := fun same => fresh (same ▸ issued)
    rw [present, SessionManager.add_session, List.mem_cons, List.mem_filter]
    by_cases same : other = conn
    · subst same
      rw [live, Function.update_self] at found'
      cases found'
      refine ⟨?_, fun ⟨_, current⟩ => .inl (by rw [← current])⟩
      rintro (new | ⟨stale, -⟩)
      · cases new
        exact ⟨by simpa [TcpSession.is_authenticated] using nonempty, rfl⟩
      · have current := ((tabled.entry found).mp stale).1
        rw [anonymous] at current
        cases current
    · rw [live, Function.update_of_ne same] at found'
      rw [← tabled.entry found']
      constructor
      · rintro (new | ⟨member, -⟩)
        · exact absurd (Prod.mk.inj new).2 same
        · exact member
      · exact fun member => .inr ⟨member, by simpa using old (tabled.listed member).1⟩

theorem drop (tabled : server.Tabled) (numbered : after.Numbered) (found : server.live conn = some self)
    (authenticated : self.is_authenticated = true)
    (live : after.live = Function.update server.live conn (some {}))
    (next : after.next_conn = server.next_conn)
    (sessions : after.session_manager.sessions =
      (server.session_manager.sessions.filter (SessionManager.held server.live)).filter
        fun entry => entry.1 ≠ self.token)
    (tokens : after.db.tokens = server.db.tokens) : after.Tabled where
  keys := by
    rw [sessions]
    exact ((List.filter_sublist.trans List.filter_sublist).map Prod.fst).nodup tabled.keys
  listed member := by
    rw [sessions] at member
    rw [tokens, next]
    exact tabled.listed (List.mem_of_mem_filter (List.mem_of_mem_filter member))
  numbered := numbered
  entry {token other self'} found' := by
    rw [sessions, List.mem_filter, List.mem_filter]
    by_cases same : other = conn
    · subst same
      rw [live, Function.update_self] at found'
      cases found'
      refine ⟨fun ⟨⟨member, _⟩, differ⟩ => ?_, fun ⟨current, _⟩ => by cases current⟩
      have current := ((tabled.entry found).mp member).2
      simp [current] at differ
    · rw [live, Function.update_of_ne same] at found'
      rw [← tabled.entry found']
      refine ⟨fun member => member.1.1, fun member => ⟨⟨member, ?_⟩, ?_⟩⟩
      · simp [SessionManager.held, found']
      · -- Keys are unique, so the dropped token is not the key of another connection.
        have own := (tabled.entry found).mpr ⟨authenticated, rfl⟩
        refine decide_eq_true fun clash => same ?_
        exact congrArg Prod.snd (List.inj_on_of_nodup_map tabled.keys member own clash)

theorem release (tabled : server.Tabled) (numbered : after.Numbered)
    (live : after.live = Function.update server.live conn none)
    (next : after.next_conn = server.next_conn)
    (sessions : after.session_manager = server.session_manager)
    (tokens : after.db.tokens = server.db.tokens) : after.Tabled where
  keys := by rw [sessions]; exact tabled.keys
  listed member := by
    rw [sessions] at member
    rw [tokens, next]
    exact tabled.listed member
  numbered := numbered
  entry {_ other _} found := by
    rw [sessions]
    by_cases same : other = conn
    · subst same
      rw [live, Function.update_self] at found
      cases found
    · rw [live, Function.update_of_ne same] at found
      exact tabled.entry found

theorem step (tabled : server.Tabled)
    (once : ∀ conn ∈ server.logsIn label, server.authenticated conn = false) :
    (server.step label).1.Tabled := by
  have numbered := tabled.numbered.step label
  cases step_sessionStep server label with
  | kept live next sessions tokens =>
    rcases sessions with same | purged
    · refine tabled.purge numbered live next (by rw [same]) (fun entry member _ => ?_) tokens
      rwa [same]
    · refine tabled.purge numbered live next (by rw [purged]; exact List.filter_sublist)
        (fun entry member held => ?_)
        tokens
      rw [purged]
      exact List.mem_filter.mpr ⟨member, held⟩
  | connected live next sessions tokens => exact tabled.connect numbered live next sessions tokens
  | loggedIn logs found nonempty fresh _ live next sessions tokens =>
    have anonymous := once _ logs
    simp only [authenticated, found, Option.any_some] at anonymous
    exact tabled.login numbered found anonymous nonempty fresh live next sessions tokens
  | dropped found authenticated live next sessions tokens =>
    exact tabled.drop numbered found authenticated live next sessions tokens
  | released live next sessions tokens => exact tabled.release numbered live next sessions tokens

end Tabled

end Server

namespace Observed

variable {start state : Observed} {label : Label}

def LogsInOnce (state : Observed) (label : Label) : Prop :=
  ∀ conn ∈ state.server.logsIn label, state.server.authenticated conn = false

instance (state : Observed) (label : Label) : Decidable (state.LogsInOnce label) :=
  decidable_of_iff ((state.server.logsIn label).all fun conn => !state.server.authenticated conn)
    (by simp [LogsInOnce, Option.all_eq_true])

theorem tabled_booted (boot : state.Booted) : state.server.Tabled := by
  obtain ⟨-, -, manager, live, -⟩ := boot.fresh
  refine ⟨by rw [manager]; exact List.nodup_nil, fun member => ?_, fun _ _ found => ?_, fun found => ?_⟩
  · rw [manager] at member
    cases member
  · rw [live] at found
    cases found
  · rw [live] at found
    cases found

theorem tabled_run {labels : List Label} (tabled : start.server.Tabled)
    (along : Along step LogsInOnce start labels) : (run step start labels).server.Tabled := by
  induction labels generalizing start with
  | nil => exact tabled
  | cons label rest ih => exact ih (tabled.step along.1) along.2

/-- In a run in which nobody logs in twice on one connection, the list of online users is exact. -/
theorem online_list_exact (boot : start.Booted) {labels : List Label}
    (along : Along step LogsInOnce start labels) :
    (run step start labels).server.ListedExactly :=
  (tabled_run (tabled_booted boot) along).listedExactly

theorem online_list_exact_sample :
    (run step Sample.start [.connect, Sample.login 0 "alice" 1, .connect, Sample.login 1 "bob" 2,
      .disconnect 0 .readHeader]).server.ListedExactly :=
  online_list_exact Sample.booted (by decide)

/-- After two logins on its only connection alice is listed twice. -/
theorem second_login_listed_twice :
    ∃ start labels, start.Booted ∧ ¬ (run step start labels).server.ListedExactly := by
  refine ⟨Sample.start, [.connect, Sample.login 0 "alice" 1, Sample.login 0 "alice" 2], Sample.booted,
    fun exact => ?_⟩
  have stale := (exact.keyed (hex (List.replicate 32 1)) 0 (by decide)).mp (by decide)
  obtain ⟨self, found, -, current⟩ := stale
  have now : ((run step Sample.start [.connect, Sample.login 0 "alice" 1,
      Sample.login 0 "alice" 2]).server.live 0).map (·.token) = some (hex (List.replicate 32 2)) := by
    decide
  rw [found, Option.map_some, current] at now
  exact absurd now (by decide)

end Observed

end FileShareX.Net

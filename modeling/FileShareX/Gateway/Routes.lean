import FileShareX.Foundation.Simulation
import FileShareX.Gateway.PasswordReset
import FileShareX.Gateway.SessionOwnership
import Mathlib.Data.List.Dedup
import Mathlib.Data.List.Induction
import Mathlib.Data.String.Basic

/-!
# The routes of the sessions

`/online`, `/register`, `/login` and `/logout` of `api/routes_admin.py`, and the two
methods of the session manager that only read.  A route waits for nothing but the lock
of the manager, which is free, so that it is one step, as a turn of a ping loop is.
-/

namespace FileShareX.Gateway

open Wire Machine

namespace UserSessionManager

/-- A dictionary lists its entries in the order in which they were made, which is that of
the session objects. -/
def get_online_usernames (manager : UserSessionManager) : List String :=
  manager.objects.zipIdx.filterMap fun entry =>
    if manager.sessions entry.1.requested = some entry.2 ∧ entry.1.connected = true then
      some entry.1.requested
    else none

def has_session (manager : UserSessionManager) (username : String) : Bool :=
  match manager.sessions username with
  | none => false
  | some id =>
    match manager.objects[id]? with
    | none => false
    | some session => session.connected

end UserSessionManager

structure HTTPException where
  status_code : Nat
  detail : String
  deriving DecidableEq

/-- The `except` clauses of `register` and `login`. -/
def httpError : PyError → HTTPException
  | .CoreConnectionError text => ⟨503, "Core server unavailable: " ++ text⟩
  | .CoreProtocolError text | .CoreClientError text => ⟨502, "Core protocol error: " ++ text⟩
  | error => ⟨500, "Internal error: " ++ error.str⟩

/-- One request to the core: what becomes of its socket calls, and how the answer is cut. -/
structure CoreCall where
  connection : Connection
  delivery : Delivery

structure OnlineUsers where
  count : Nat
  users : List String
  deriving DecidableEq

/-- `sorted(list(set(names) | set(more)))`. -/
def sortedUnion (names more : List String) : List String :=
  (names ++ more).dedup.mergeSort fun first second => first ≤ second

namespace Routes

def get_online (manager : UserSessionManager) (settings : Settings) (call : CoreCall) : OnlineUsers :=
  match get_online_users settings call.connection call.delivery with
  | .ok core_usernames =>
    let all_usernames := sortedUnion core_usernames manager.get_online_usernames
    ⟨all_usernames.length, all_usernames⟩
  | .error (.CoreConnectionError _) =>
    let gateway_usernames := manager.get_online_usernames
    ⟨gateway_usernames.length, gateway_usernames⟩
  | .error _ =>
    let gateway_usernames := manager.get_online_usernames
    ⟨gateway_usernames.length, gateway_usernames⟩

/-- The answer is that of the first login, whatever becomes of the session. -/
def login (manager : UserSessionManager) (username password : String) (first second : CoreCall) :
    UserSessionManager × Except HTTPException LoginResult :=
  match login_user first.connection first.delivery username password with
  | .error error => (manager, .error (httpError error))
  | .ok result =>
    if result.ok then
      ((manager.create_session username password second.connection second.delivery).1, .ok result)
    else (manager, .ok result)

def logout (manager : UserSessionManager) (username : String) : UserSessionManager × Reply :=
  (manager.remove_session username, ⟨true, "Logged out successfully"⟩)

def register (call : CoreCall) (username email password : String) :
    Except HTTPException RegisterResult :=
  (register_user call.connection call.delivery username email password).mapError httpError

end Routes

inductive GatewayRequest where
  | online (settings : Settings) (call : CoreCall)
  | register (username email password : String) (call : CoreCall)
  | login (username password : String) (first second : CoreCall)
  | logout (username : String)
  | ping (id : Nat) (sendall : Bytes → Py Unit)

namespace UserSessionManager

def serve (manager : UserSessionManager) : GatewayRequest → UserSessionManager
  | .online _ _ => manager
  | .register .. => manager
  | .login username password first second => (Routes.login manager username password first second).1
  | .logout username => (Routes.logout manager username).1
  | .ping id sendall => manager.ping_loop id sendall

def pingFails (sendall : Bytes → Py Unit) : Bool :=
  match make_header MSG_TYPE_PING (utf8 "ping").length >>= fun header =>
    sendall (header ++ utf8 "ping") with
  | .ok () => false
  | .error _ => true

/-- What a request does to the presence of a name: a login that the core grants makes it what
the session's own login comes to, a logout ends it, and so does a ping that fails. -/
def change (manager : UserSessionManager) : GatewayRequest → Option (String × Bool)
  | .login username password first second =>
    match login_user first.connection first.delivery username password with
    | .error _ => none
    | .ok result =>
      if result.ok then
        some (username, (manager.create_session username password second.connection
          second.delivery).2.isSome)
      else none
  | .logout username => some (username, false)
  | .ping id sendall =>
    match manager.objects[id]? with
    | none => none
    | some session =>
      if session.pinging && session.connected && pingFails sendall &&
          manager.sessions session.requested == some id then
        some (session.requested, false)
      else none
  | _ => none

variable {manager : UserSessionManager}

def Entries (manager : UserSessionManager) : Prop :=
  ∀ username id, manager.sessions username = some id →
    ∃ session, manager.Holds id session ∧ session.requested = username

theorem has_session_iff {username : String} : manager.has_session username = true ↔
    ∃ id session, manager.sessions username = some id ∧ manager.Holds id session ∧
      session.connected = true := by
  unfold has_session Holds
  cases manager.sessions username with
  | none => simp
  | some id => cases held : manager.objects[id]? <;> simp [held]

theorem has_session_congr {other : UserSessionManager} (sessions : other.sessions = manager.sessions)
    (objects : other.objects = manager.objects) : other.has_session = manager.has_session := by
  funext username
  rw [has_session, has_session, sessions, objects]

theorem has_session_eq {other : UserSessionManager} {username : String}
    (same : (∃ id session, other.sessions username = some id ∧ other.Holds id session ∧
        session.connected = true) ↔ ∃ id session, manager.sessions username = some id ∧
          manager.Holds id session ∧ session.connected = true) :
    other.has_session username = manager.has_session username := by
  rw [Bool.eq_iff_iff, has_session_iff, has_session_iff]
  exact same

theorem establish_answer (manager : UserSessionManager) (username password : String)
    (call : CoreCall) :
    (∃ after, manager.establish username password call.connection call.delivery = (after, none) ∧
        after.sessions = manager.sessions ∧ after.objects = manager.objects) ∨
      ∃ session, session.requested = username ∧ session.connected = true ∧
        manager.establish username password call.connection call.delivery =
          (manager.addSession username session, some manager.objects.length) := by
  unfold establish
  cases call.connection.socket with
  | error error => exact .inl ⟨_, rfl, rfl, rfl⟩
  | ok done =>
    dsimp only
    cases session_login call.connection call.delivery username password with
    | error error => exact .inl ⟨_, rfl, rfl, rfl⟩
    | ok result =>
      dsimp only
      split
      · exact .inr ⟨_, rfl, rfl, rfl⟩
      · exact .inl ⟨_, rfl, rfl, rfl⟩

structure Presents (manager after : UserSessionManager) (username : String) (present : Bool) :
    Prop where
  entries : after.Entries
  presence : after.has_session = Function.update manager.has_session username present

theorem Presents.same (entries : manager.Entries) {username : String} {present : Bool}
    (was : manager.has_session username = present) : manager.Presents manager username present :=
  ⟨entries, by rw [← was, Function.update_eq_self]⟩

namespace Entries

theorem congr {other : UserSessionManager} (entries : manager.Entries)
    (sessions : other.sessions = manager.sessions) (objects : other.objects = manager.objects) :
    other.Entries := by
  intro username id found
  rw [sessions] at found
  obtain ⟨session, holds, requested⟩ := entries username id found
  exact ⟨session, by rwa [Holds, objects], requested⟩

theorem addSession (entries : manager.Entries) {username : String} {session : UserSession}
    (requested : session.requested = username) (connected : session.connected = true) :
    manager.Presents (manager.addSession username session) username true := by
  have table (name : String) : (manager.addSession username session).sessions name =
      if name = username then some manager.objects.length else manager.sessions name := rfl
  have holds (id : Nat) (other : UserSession) :
      (manager.addSession username session).Holds id other ↔
        manager.Holds id other ∨ id = manager.objects.length ∧ session = other :=
    WellKept.getElem?_concat
  constructor
  · intro name id found
    rw [table] at found
    split at found
    · next same =>
      cases found
      exact ⟨session, (holds _ _).mpr (.inr ⟨rfl, rfl⟩), requested.trans same.symm⟩
    · obtain ⟨other, held, named⟩ := entries name id found
      exact ⟨other, (holds _ _).mpr (.inl held), named⟩
  · funext name
    by_cases same : name = username
    · subst same
      rw [Function.update_self, has_session_iff]
      exact ⟨_, session, by rw [table, if_pos rfl], (holds _ _).mpr (.inr ⟨rfl, rfl⟩), connected⟩
    · rw [Function.update_of_ne same]
      refine has_session_eq (exists_congr fun id => exists_congr fun other => ?_)
      rw [table, if_neg same, holds]
      refine and_congr_right fun found => and_congr_left fun _ => or_iff_left ?_
      -- an entry points to an object there is
      rintro ⟨rfl, -⟩
      obtain ⟨old, held, -⟩ := entries name _ found
      exact absurd (List.getElem?_eq_some_iff.mp held).1 (Nat.lt_irrefl _)

theorem dropEntry (entries : manager.Entries) (username : String) :
    manager.Presents (manager.setSession username none) username false := by
  have table (name : String) : (manager.setSession username none).sessions name =
      if name = username then none else manager.sessions name := rfl
  constructor
  · intro name id found
    rw [table] at found
    split at found
    · cases found
    · exact entries name id found
  · funext name
    by_cases same : name = username
    · subst same
      rw [Function.update_self, has_session, table, if_pos rfl]
    · rw [Function.update_of_ne same, has_session, has_session, table, if_neg same]
      rfl

/-- A session that is disconnected is no longer the presence of its name. -/
theorem disconnect (entries : manager.Entries) {id : Nat} {session : UserSession} {pinging : Bool}
    (object : manager.Holds id session) :
    (manager.setObject id { session with connected := false, pinging }).Entries ∧
      (manager.setObject id { session with connected := false, pinging }).has_session =
        if manager.sessions session.requested = some id then
          Function.update manager.has_session session.requested false
        else manager.has_session := by
  have inside : id < manager.objects.length := (List.getElem?_eq_some_iff.mp object).1
  have holds (id' : Nat) (other : UserSession) :
      (manager.setObject id { session with connected := false, pinging }).Holds id' other ↔
        if id = id' then { session with connected := false, pinging } = other
        else manager.Holds id' other := by
    unfold Holds setObject
    rw [List.getElem?_set]
    by_cases same : id = id'
    · rw [if_pos same, if_pos same, if_pos inside, Option.some.injEq]
    · rw [if_neg same, if_neg same]
  constructor
  · intro name id' found
    obtain ⟨old, held, requested⟩ := entries name id' found
    by_cases same : id = id'
    · subst same
      cases object.symm.trans held
      exact ⟨_, (holds _ _).mpr ((if_pos rfl).mpr rfl), requested⟩
    · exact ⟨old, (holds _ _).mpr (by rwa [if_neg same]), requested⟩
  · have others (name : String) (differs : manager.sessions name ≠ some id) :
        (manager.setObject id { session with connected := false, pinging }).has_session name =
          manager.has_session name := by
      refine has_session_eq (exists_congr fun id' => exists_congr fun other => ?_)
      refine and_congr_right fun found => and_congr_left fun _ => ?_
      rw [holds, if_neg]
      rintro rfl
      exact differs found
    have named (name : String) (found : manager.sessions name = some id) :
        name = session.requested := by
      obtain ⟨old, held, requested⟩ := entries name id found
      cases object.symm.trans held
      exact requested.symm
    split
    · next found =>
      funext name
      by_cases same : name = session.requested
      · subst same
        rw [Function.update_self, ← Bool.not_eq_true, has_session_iff]
        rintro ⟨id', other, found', held, connected⟩
        cases found.symm.trans found'
        rw [holds, if_pos rfl] at held
        rw [← held] at connected
        cases connected
      · rw [Function.update_of_ne same]
        exact others name fun found' => same (named name found')
    · next absent =>
      funext name
      exact others name fun found => absent (named name found ▸ found)

end Entries

namespace Entries

theorem establish (entries : manager.Entries) (username password : String) (call : CoreCall)
    (absent : manager.has_session username = false) :
    manager.Presents
      (manager.establish username password call.connection call.delivery).1 username
      (manager.establish username password call.connection call.delivery).2.isSome := by
  obtain ⟨after, same, sessions, objects⟩ | ⟨session, requested, connected, same⟩ :=
    manager.establish_answer username password call
  · rw [same]
    refine ⟨entries.congr sessions objects, ?_⟩
    rw [has_session_congr sessions objects, Option.isSome_none, ← absent, Function.update_eq_self]
  · rw [same]
    exact entries.addSession requested connected

theorem create_session (entries : manager.Entries) (username password : String) (call : CoreCall) :
    manager.Presents
      (manager.create_session username password call.connection call.delivery).1 username
      (manager.create_session username password call.connection call.delivery).2.isSome := by
  unfold UserSessionManager.create_session
  cases found : manager.sessions username with
  | none =>
    refine entries.establish username password call ?_
    rw [has_session, found]
  | some id =>
    obtain ⟨session, held, requested⟩ := entries username id found
    have held : manager.objects[id]? = some session := held
    dsimp only
    rw [held]
    cases connected : session.connected with
    | true =>
      dsimp only
      rw [if_pos connected]
      exact .same entries (has_session_iff.mpr ⟨id, session, found, held, connected⟩)
    | false =>
      -- the entry is forgotten, and the login decides
      obtain ⟨dropped, presence⟩ := entries.dropEntry username
      have absent : (manager.setSession username none).has_session username = false := by
        rw [presence, Function.update_self]
      obtain ⟨after, decided⟩ := dropped.establish username password call absent
      rw [presence, Function.update_idem] at decided
      dsimp only
      rw [connected]
      exact ⟨after, decided⟩

theorem remove_session (entries : manager.Entries) (username : String) :
    manager.Presents (manager.remove_session username) username false := by
  unfold UserSessionManager.remove_session
  cases found : manager.sessions username with
  | none => exact .same entries (by rw [has_session, found])
  | some id =>
    obtain ⟨session, held, requested⟩ := entries username id found
    have object : manager.objects[id]? = some session := held
    dsimp only
    rw [object]
    dsimp only
    obtain ⟨off, presence⟩ := @disconnect manager entries id session false held
    have quiet : (manager.setObject id { session with connected := false, pinging := false }).has_session =
        Function.update manager.has_session username false := by
      rw [presence, requested, if_pos found]
    -- however often the socket is closed
    have drops (closed : List Nat) : manager.Presents
        ({ manager.setObject id { session with connected := false, pinging := false } with
          closed }.setSession username none) username false := by
      have kept : { manager.setObject id { session with connected := false, pinging := false } with
          closed }.Entries := off.congr rfl rfl
      obtain ⟨dropped, presence⟩ := kept.dropEntry username
      refine ⟨dropped, ?_⟩
      rw [presence]
      exact (congrArg (Function.update · username false) quiet).trans (Function.update_idem ..)
    split
    · exact drops _
    · exact drops _

theorem absent {id : Nat} {session : UserSession}
    (held : manager.Holds id session) (off : session.connected = false)
    (found : manager.sessions session.requested = some id) :
    manager.has_session session.requested = false := by
  rw [← Bool.not_eq_true, has_session_iff]
  rintro ⟨id', other, found', held', connected⟩
  cases found.symm.trans found'
  cases held.symm.trans held'
  exact nomatch off.symm.trans connected

end Entries

/-- The presence of a name is what the last change of it has made it. -/
def present (_ now : Bool) : Option Bool := some now

theorem Presents.moves {after : UserSessionManager} {username : String} {now : Bool}
    (presents : manager.Presents after username now) :
    after.Entries ∧ attempt (family present) manager.has_session [(username, now)] =
      some after.has_session := by
  refine ⟨presents.entries, ?_⟩
  rw [presents.presence]
  rfl

/-- A turn of a ping loop changes nothing unless the ping fails. -/
theorem Entries.ping_loop (entries : manager.Entries) (id : Nat) (sendall : Bytes → Py Unit) :
    (manager.ping_loop id sendall).Entries ∧
      attempt (family present) manager.has_session (manager.change (.ping id sendall)).toList =
        some (manager.ping_loop id sendall).has_session := by
  unfold UserSessionManager.ping_loop change
  dsimp only
  cases held : manager.objects[id]? with
  | none => exact ⟨entries, rfl⟩
  | some session =>
    have off := @Entries.disconnect manager entries id session false held
    dsimp only
    cases pinging : session.pinging with
    | false => exact ⟨entries, rfl⟩
    | true =>
      cases connected : session.connected with
      | false =>
        refine ⟨off.1, congrArg some ?_⟩
        show manager.has_session = (manager.setObject id
          { session with connected := false, pinging := false }).has_session
        rw [off.2]
        split
        · next found =>
          exact (Function.update_eq_self_iff.mpr (Entries.absent held connected found).symm).symm
        · rfl
      | true =>
        cases sent : make_header MSG_TYPE_PING (utf8 "ping").length >>= fun header =>
          sendall (header ++ utf8 "ping") with
        | ok done =>
          have works : pingFails sendall = false := by rw [pingFails, sent]
          simp only [Bool.not_true, Bool.false_eq_true, if_false, works, Bool.and_false,
            Bool.false_and]
          exact ⟨entries, rfl⟩
        | error error =>
          have fails : pingFails sendall = true := by rw [pingFails, sent]
          simp only [Bool.not_true, Bool.false_eq_true, if_false, fails, Bool.and_true,
            Bool.true_and, beq_iff_eq]
          refine ⟨off.1, ?_⟩
          rw [off.2]
          split <;> rfl

theorem Entries.serve (entries : manager.Entries) (request : GatewayRequest) :
    (manager.serve request).Entries ∧
      attempt (family present) manager.has_session (manager.change request).toList =
        some (manager.serve request).has_session := by
  cases request with
  | online => exact ⟨entries, rfl⟩
  | register => exact ⟨entries, rfl⟩
  | login username password first second =>
    unfold UserSessionManager.serve Routes.login change
    dsimp only
    cases login_user first.connection first.delivery username password with
    | error error => exact ⟨entries, rfl⟩
    | ok result =>
      dsimp only
      split
      · exact (entries.create_session username password second).moves
      · exact ⟨entries, rfl⟩
  | logout username => exact (entries.remove_session username).moves
  | ping id sendall => exact entries.ping_loop id sendall

theorem mem_get_online_usernames (entries : manager.Entries) {username : String} :
    username ∈ manager.get_online_usernames ↔ manager.has_session username = true := by
  rw [has_session_iff, get_online_usernames, List.mem_filterMap]
  constructor
  · rintro ⟨⟨session, id⟩, member, same⟩
    have held : manager.Holds id session := List.mem_zipIdx_iff_getElem?.mp member
    dsimp only at same
    split at same
    · next listed =>
      cases same
      exact ⟨id, session, listed.1, held, listed.2⟩
    · cases same
  · rintro ⟨id, session, found, held, connected⟩
    obtain ⟨other, held', requested⟩ := entries username id found
    cases held.symm.trans held'
    refine ⟨(session, id), List.mem_zipIdx_iff_getElem?.mpr held, ?_⟩
    dsimp only
    rw [requested, if_pos ⟨found, connected⟩]

theorem nodup_get_online_usernames (manager : UserSessionManager) :
    manager.get_online_usernames.Nodup := by
  have numbers : manager.objects.zipIdx.Pairwise (fun one two => one.2 ≠ two.2) := by
    rw [← List.pairwise_map (f := Prod.snd) (R := (· ≠ ·)), List.zipIdx_map_snd]
    exact List.nodup_range'
  refine numbers.filterMap _ fun one two differ name listed name' listed' => ?_
  rw [Option.ite_none_right_eq_some, Option.some.injEq] at listed listed'
  obtain ⟨⟨found, -⟩, rfl⟩ := listed
  obtain ⟨⟨found', -⟩, rfl⟩ := listed'
  intro same
  rw [same, found'] at found
  exact differ (Option.some.inj found).symm

theorem sortedUnion_spec (names more : List String) :
    (sortedUnion names more).Pairwise (· < ·) ∧
      ∀ name, name ∈ sortedUnion names more ↔ name ∈ names ∨ name ∈ more := by
  constructor
  · have sorted : (sortedUnion names more).Pairwise (· ≤ ·) := by
      refine (List.pairwise_mergeSort ?_ ?_ _).imp of_decide_eq_true
      · intro first second third one two
        exact decide_eq_true ((of_decide_eq_true one).trans (of_decide_eq_true two))
      · intro first second
        rw [Bool.or_eq_true, decide_eq_true_iff, decide_eq_true_iff]
        exact le_total first second
    have once : (sortedUnion names more).Nodup :=
      (List.mergeSort_perm ..).nodup_iff.mpr (List.nodup_dedup _)
    exact (sorted.and once).imp fun both => lt_of_le_of_ne both.1 both.2
  · intro name
    rw [sortedUnion, List.mem_mergeSort, List.mem_dedup, List.mem_append]

theorem entries_init : ({} : UserSessionManager).Entries := fun _ _ found => nomatch found

theorem entries_run (requests : List GatewayRequest) : (run serve {} requests).Entries := by
  induction requests using List.reverseRecOn with
  | nil => exact entries_init
  | append_singleton requests request ih =>
    rw [run_concat]
    exact (ih.serve request).1

theorem presence_run (requests : List GatewayRequest) :
    attempt (family present) (fun _ => false) (trace serve change {} requests) =
      some (run serve {} requests).has_session :=
  simulates along_always entries_init
    (fun _ request entries _ => (entries.serve request).1)
    fun _ request entries _ => (entries.serve request).2

theorem attempt_present (was : Bool) (changes : List Bool) :
    attempt present was changes = some (changes.getLast?.getD was) := by
  induction changes generalizing was with
  | nil => rfl
  | cons now rest ih =>
    rw [attempt_cons, present, Option.bind_some, ih]
    cases rest with
    | nil => rfl
    | cons next rest => simp [List.getLast?_cons]

/-- What is promised of the gateway's lists: a name is present if the last of its logins,
logouts and failed pings was a login with a session, and `/online` shows the present
names, each once, together with the core's, in their order, if the core answers. -/
structure PresenceShown (requests : List GatewayRequest) (manager : UserSessionManager) : Prop where
  present : ∀ username, manager.has_session username =
    ((opsAt username (trace serve change {} requests)).getLast?).getD false
  listed : ∀ username, username ∈ manager.get_online_usernames ↔ manager.has_session username = true
  once : manager.get_online_usernames.Nodup
  counted : ∀ settings call,
    (Routes.get_online manager settings call).count = (Routes.get_online manager settings call).users.length
  merged : ∀ settings call core_usernames,
    get_online_users settings call.connection call.delivery = .ok core_usernames →
    (Routes.get_online manager settings call).users.Pairwise (· < ·) ∧
      ∀ username, username ∈ (Routes.get_online manager settings call).users ↔
        username ∈ core_usernames ∨ manager.has_session username = true
  alone : ∀ settings call error,
    get_online_users settings call.connection call.delivery = .error error →
    (Routes.get_online manager settings call).users = manager.get_online_usernames

/-- After every history of requests the lists are right. -/
theorem presence_shown (requests : List GatewayRequest) :
    PresenceShown requests (run serve {} requests) := by
  have entries := entries_run requests
  refine ⟨fun username => ?_, fun username => mem_get_online_usernames entries,
    nodup_get_online_usernames _, fun settings call => ?_,
    fun settings call core_usernames answered => ?_, fun settings call error failed => ?_⟩
  · have ran := attempt_family (presence_run requests) username
    rw [attempt_present] at ran
    exact (Option.some.inj ran).symm
  · unfold Routes.get_online
    split <;> rfl
  · rw [Routes.get_online, answered]
    obtain ⟨sorted, members⟩ := sortedUnion_spec core_usernames
      (run serve {} requests).get_online_usernames
    refine ⟨sorted, fun username => ?_⟩
    rw [members, mem_get_online_usernames entries]
  · rw [Routes.get_online, failed]
    cases error <;> rfl

end UserSessionManager

end FileShareX.Gateway

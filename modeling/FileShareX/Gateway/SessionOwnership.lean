import FileShareX.Gateway.UserSessions

/-!
# Sockets and the sessions that own them

Every socket of the manager is closed or belongs to the entry of some name, as long as
`create_session` never finds a session whose ping has failed: it forgets such a session
without closing its socket.
-/

namespace FileShareX.Gateway.UserSessionManager

open Wire Machine

variable {manager : UserSessionManager} {username : String}

/-! ### What a step does -/

def dropSocket (manager : UserSessionManager) : UserSessionManager :=
  { manager with opened := manager.opened + 1 }.close manager.opened

def addSession (manager : UserSessionManager) (username : String) (session : UserSession) :
    UserSessionManager :=
  { manager with
    opened := manager.opened + 1
    objects := manager.objects ++ [session] }.setSession username (some manager.objects.length)

theorem establish_cases (manager : UserSessionManager) (username password : String)
    (connection : Connection) (delivery : Delivery) :
    (manager.establish username password connection delivery).1 = manager ∨
      (manager.establish username password connection delivery).1 = manager.dropSocket ∨
      ∃ session, session.requested = username ∧ session.sock = manager.opened ∧
        (manager.establish username password connection delivery).1 =
          manager.addSession username session := by
  unfold establish
  cases connection.socket with
  | error error => exact .inl rfl
  | ok done =>
    dsimp only
    cases session_login connection delivery username password with
    | error error => exact .inr (.inl rfl)
    | ok result =>
      dsimp only
      split
      · exact .inr (.inr ⟨_, rfl, rfl, rfl⟩)
      · exact .inr (.inl rfl)

theorem ping_loop_cases (manager : UserSessionManager) (id : Nat) (sendall : Bytes → Py Unit) :
    manager.ping_loop id sendall = manager ∨
      ∃ session connected, manager.objects[id]? = some session ∧
        (connected = true → session.connected = true) ∧
        manager.ping_loop id sendall =
          manager.setObject id { session with connected, pinging := false } := by
  unfold ping_loop
  cases object : manager.objects[id]? with
  | none => exact .inl rfl
  | some session =>
    dsimp only
    split
    · exact .inl rfl
    · split
      · exact .inr ⟨session, session.connected, rfl, fun connected => connected, rfl⟩
      · split
        · exact .inl rfl
        · exact .inr ⟨session, false, rfl, nofun, rfl⟩

/-! ### No socket is orphaned -/

def Holds (manager : UserSessionManager) (id : Nat) (session : UserSession) : Prop :=
  manager.objects[id]? = some session

/-- The socket is closed, or it belongs to the entry of a name. -/
def Owned (manager : UserSessionManager) (sock : Nat) : Prop :=
  sock ∈ manager.closed ∨ ∃ username id session,
    manager.sessions username = some id ∧ manager.Holds id session ∧ session.sock = sock

structure NoOrphan (manager : UserSessionManager) : Prop where
  owned : ∀ sock < manager.opened, manager.Owned sock
  /-- There is at most one connected session for a name. -/
  single : ∀ id₁ id₂ session₁ session₂, manager.Holds id₁ session₁ → manager.Holds id₂ session₂ →
    session₁.connected = true → session₂.connected = true →
    session₁.requested = session₂.requested → id₁ = id₂
  /-- A connected session is in the dictionary. -/
  listed : ∀ id session, manager.Holds id session → session.connected = true →
    manager.sessions session.requested = some id

/-- An entry is a session of that name, and its socket is open and no other session's. -/
structure WellKept (manager : UserSessionManager) : Prop where
  entry : ∀ username id, manager.sessions username = some id →
    ∃ session, manager.Holds id session ∧ session.requested = username ∧
      session.sock ∉ manager.closed
  sock_lt : ∀ id session, manager.Holds id session → session.sock < manager.opened
  sock_inj : ∀ id₁ id₂ session₁ session₂, manager.Holds id₁ session₁ →
    manager.Holds id₂ session₂ → session₁.sock = session₂.sock → id₁ = id₂
  closed_lt : ∀ sock ∈ manager.closed, sock < manager.opened
  owned : ∀ sock < manager.opened, manager.Owned sock
  listed : ∀ id session, manager.Holds id session → session.connected = true →
    manager.sessions session.requested = some id

theorem WellKept.noOrphan (kept : manager.WellKept) : manager.NoOrphan where
  owned := kept.owned
  single id₁ id₂ session₁ session₂ one two connected₁ connected₂ same := by
    have first := kept.listed id₁ session₁ one connected₁
    rw [same, kept.listed id₂ session₂ two connected₂] at first
    exact (Option.some.inj first).symm
  listed := kept.listed

theorem wellKept_init : ({} : UserSessionManager).WellKept where
  entry _ _ found := nomatch found
  sock_lt _ _ found := nomatch found
  sock_inj _ _ _ _ found := nomatch found
  closed_lt _ member := nomatch member
  owned _ inside := absurd inside (Nat.not_lt_zero _)
  listed _ _ found := nomatch found

namespace WellKept

theorem dropSocket (kept : manager.WellKept) : manager.dropSocket.WellKept where
  entry username id found := by
    obtain ⟨session, object, requested, open_⟩ := kept.entry username id found
    refine ⟨session, object, requested, ?_⟩
    have inside := kept.sock_lt id session object
    intro member
    rcases List.mem_cons.mp member with new | old
    · exact absurd inside (by rw [new]; exact Nat.lt_irrefl _)
    · exact open_ old
  sock_lt id session object := (kept.sock_lt id session object).trans (Nat.lt_succ_self _)
  sock_inj := kept.sock_inj
  closed_lt sock member := by
    rcases List.mem_cons.mp member with rfl | member
    · exact Nat.lt_succ_self _
    · exact (kept.closed_lt sock member).trans (Nat.lt_succ_self _)
  owned sock inside := by
    rcases Nat.lt_succ_iff_lt_or_eq.mp inside with inside | rfl
    · exact (kept.owned sock inside).imp_left (.tail _)
    · exact .inl List.mem_cons_self
  listed := kept.listed

theorem getElem?_concat {objects : List UserSession} {added session : UserSession} {id : Nat} :
    (objects ++ [added])[id]? = some session ↔
      objects[id]? = some session ∨ id = objects.length ∧ added = session := by
  rw [List.getElem?_append]
  split
  · next inside => simp [Nat.ne_of_lt inside]
  · next outside =>
    rw [List.getElem?_eq_none (Nat.le_of_not_lt outside)]
    rcases Nat.eq_or_lt_of_le (Nat.le_of_not_lt outside) with rfl | beyond
    · simp
    · simp [Nat.sub_ne_zero_of_lt beyond, Nat.ne_of_gt beyond]

theorem addSession (kept : manager.WellKept) (absent : manager.sessions username = none)
    {session : UserSession} (requested : session.requested = username)
    (fresh : session.sock = manager.opened) : (manager.addSession username session).WellKept where
  entry name id found := by
    unfold UserSessionManager.addSession setSession at found ⊢
    dsimp only at found ⊢
    split at found
    · next same =>
      cases found
      refine ⟨session, getElem?_concat.mpr (.inr ⟨rfl, rfl⟩), requested.trans same.symm, fun member => ?_⟩
      exact absurd (kept.closed_lt _ member) (by rw [fresh]; exact Nat.lt_irrefl _)
    · obtain ⟨other, object, named, open_⟩ := kept.entry name id found
      exact ⟨other, getElem?_concat.mpr (.inl object), named, open_⟩
  sock_lt id other object := by
    rcases getElem?_concat.mp object with object | ⟨-, rfl⟩
    · exact (kept.sock_lt id other object).trans (Nat.lt_succ_self _)
    · exact fresh ▸ Nat.lt_succ_self _
  sock_inj id₁ id₂ session₁ session₂ one two same := by
    rcases getElem?_concat.mp one with one | ⟨rfl, rfl⟩ <;>
      rcases getElem?_concat.mp two with two | ⟨rfl, rfl⟩
    · exact kept.sock_inj id₁ id₂ session₁ session₂ one two same
    · have inside := kept.sock_lt id₁ session₁ one
      omega
    · have inside := kept.sock_lt id₂ session₂ two
      omega
    · rfl
  closed_lt sock member := (kept.closed_lt sock member).trans (Nat.lt_succ_self _)
  owned sock inside := by
    rcases Nat.lt_succ_iff_lt_or_eq.mp inside with inside | rfl
    · refine (kept.owned sock inside).imp_right ?_
      rintro ⟨name, id, other, found, object, same⟩
      have differs : name ≠ username := by
        rintro rfl
        exact nomatch absent.symm.trans found
      exact ⟨name, id, other, (if_neg differs).trans found, getElem?_concat.mpr (.inl object), same⟩
    · exact .inr ⟨username, _, session, if_pos rfl, getElem?_concat.mpr (.inr ⟨rfl, rfl⟩), fresh⟩
  listed id other object connected := by
    rcases getElem?_concat.mp object with object | ⟨rfl, rfl⟩
    · have found := kept.listed id other object connected
      have differs : other.requested ≠ username := by
        intro same
        rw [same] at found
        exact nomatch absent.symm.trans found
      exact (if_neg differs).trans found
    · exact if_pos requested

/-- Neither flag is looked at by the invariant, except that a session is not connected anew. -/
theorem setFlags (kept : manager.WellKept) {id : Nat} {session : UserSession}
    (object : manager.Holds id session) {connected pinging : Bool}
    (off : connected = true → session.connected = true) :
    (manager.setObject id { session with connected, pinging }).WellKept := by
  have inside : id < manager.objects.length := (List.getElem?_eq_some_iff.mp object).1
  have holds (id' : Nat) (other : UserSession) :
      (manager.setObject id { session with connected, pinging }).Holds id' other ↔
        if id = id' then { session with connected, pinging } = other else manager.Holds id' other := by
    unfold Holds setObject
    dsimp only
    rw [List.getElem?_set]
    by_cases same : id = id'
    · rw [if_pos same, if_pos same, if_pos inside, Option.some.injEq]
    · rw [if_neg same, if_neg same]
  -- an object of the new state, and the one in its place before
  have before (id' : Nat) (other : UserSession)
      (held : (manager.setObject id { session with connected, pinging }).Holds id' other) :
      ∃ old, manager.Holds id' old ∧ old.requested = other.requested ∧ old.sock = other.sock ∧
        (other.connected = true → old.connected = true) := by
    rw [holds] at held
    split at held
    · next same =>
      subst same held
      exact ⟨session, object, rfl, rfl, off⟩
    · exact ⟨other, held, rfl, rfl, fun connected => connected⟩
  have after (id' : Nat) (old : UserSession) (held : manager.Holds id' old) :
      ∃ other, (manager.setObject id { session with connected, pinging }).Holds id' other ∧
        other.requested = old.requested ∧ other.sock = old.sock := by
    by_cases same : id = id'
    · subst same
      cases Option.some.inj (object.symm.trans held)
      exact ⟨_, (holds id _).mpr ((if_pos rfl).mpr rfl), rfl, rfl⟩
    · exact ⟨old, (holds _ _).mpr (by rwa [if_neg same]), rfl, rfl⟩
  constructor
  case entry =>
    intro username id' found
    obtain ⟨old, held, requested, open_⟩ := kept.entry username id' found
    obtain ⟨other, holding, named, sock⟩ := after id' old held
    exact ⟨other, holding, named.trans requested, sock ▸ open_⟩
  case sock_lt =>
    intro id' other held
    obtain ⟨old, held, -, sock, -⟩ := before id' other held
    exact sock ▸ kept.sock_lt id' old held
  case sock_inj =>
    intro id₁ id₂ one two held₁ held₂ same
    obtain ⟨old₁, held₁, -, sock₁, -⟩ := before id₁ one held₁
    obtain ⟨old₂, held₂, -, sock₂, -⟩ := before id₂ two held₂
    exact kept.sock_inj id₁ id₂ old₁ old₂ held₁ held₂ (by rw [sock₁, sock₂, same])
  case closed_lt => exact kept.closed_lt
  case owned =>
    intro sock below
    refine (kept.owned sock below).imp_right ?_
    rintro ⟨username, id', old, found, held, same⟩
    obtain ⟨other, holding, -, sock⟩ := after id' old held
    exact ⟨username, id', other, found, holding, sock.trans same⟩
  case listed =>
    intro id' other held isConnected
    obtain ⟨old, held, requested, -, on⟩ := before id' other held
    exact requested ▸ kept.listed id' old held (on isConnected)

theorem dropEntry (kept : manager.WellKept) {id : Nat} {session : UserSession}
    (found : manager.sessions username = some id) (object : manager.Holds id session)
    (off : session.connected = false) {closed : List Nat}
    (more : ∀ sock, sock ∈ closed ↔ sock = session.sock ∨ sock ∈ manager.closed) :
    ({ manager with closed }.setSession username none).WellKept := by
  have entries (name : String) (id' : Nat)
      (held : ({ manager with closed }.setSession username none).sessions name = some id') :
      name ≠ username ∧ manager.sessions name = some id' := by
    unfold setSession at held
    dsimp only at held
    split at held
    · cases held
    · exact ⟨‹_›, held⟩
  constructor
  case entry =>
    intro name id' held
    obtain ⟨differs, held⟩ := entries name id' held
    obtain ⟨other, holding, requested, open_⟩ := kept.entry name id' held
    refine ⟨other, holding, requested, fun member => ?_⟩
    rcases (more _).mp member with same | member
    · -- a socket belongs to one session, and a session to one name
      obtain rfl := kept.sock_inj id' id other session holding object same
      cases holding.symm.trans object
      obtain ⟨mine, holding, requested', -⟩ := kept.entry username id' found
      cases holding.symm.trans object
      exact differs (requested.symm.trans requested')
    · exact open_ member
  case sock_lt => exact kept.sock_lt
  case sock_inj => exact kept.sock_inj
  case closed_lt =>
    intro sock member
    rcases (more _).mp member with rfl | member
    · exact kept.sock_lt id session object
    · exact kept.closed_lt sock member
  case owned =>
    intro sock below
    rcases kept.owned sock below with member | ⟨name, id', other, held, holding, same⟩
    · exact .inl ((more _).mpr (.inr member))
    · by_cases mine : name = username
      · subst mine
        cases found.symm.trans held
        cases object.symm.trans holding
        exact .inl ((more _).mpr (.inl same.symm))
      · exact .inr ⟨name, id', other, (if_neg mine).trans held, holding, same⟩
  case listed =>
    intro id' other holding connected
    have held := kept.listed id' other holding connected
    have differs : other.requested ≠ username := by
      intro same
      rw [same, found] at held
      cases held
      cases object.symm.trans holding
      exact nomatch off.symm.trans connected
    exact (if_neg differs).trans held

theorem remove_session (kept : manager.WellKept) (username : String) :
    (manager.remove_session username).WellKept := by
  unfold UserSessionManager.remove_session
  cases found : manager.sessions username with
  | none => exact kept
  | some id =>
    dsimp only
    cases object : manager.objects[id]? with
    | none => exact kept
    | some session =>
      have inside : id < manager.objects.length := (List.getElem?_eq_some_iff.mp object).1
      have flags : (manager.setObject id { session with connected := false, pinging := false }).WellKept :=
        kept.setFlags object nofun
      have now : (manager.setObject id { session with connected := false, pinging := false }).Holds id
          { session with connected := false, pinging := false } :=
        List.getElem?_set_self inside
      dsimp only
      split
      · -- the socket is closed twice
        have closing : ∀ sock, sock ∈ session.sock :: session.sock :: manager.closed ↔
            sock = session.sock ∨ sock ∈ manager.closed := fun sock => by simp
        exact flags.dropEntry found now rfl closing
      · exact flags.dropEntry found now rfl fun sock => List.mem_cons

/-- One step, unless it forgets a session whose ping has failed. -/
theorem step (kept : manager.WellKept) (event : SessionEvent)
    (alive : ∀ username password connection delivery,
      event = .create_session username password connection delivery → ¬ manager.Dead username) :
    (manager.step event).WellKept := by
  cases event with
  | create_session username password connection delivery =>
    obtain ⟨absent, same⟩ | ⟨dead, -⟩ | ⟨-, answer, same⟩ := manager.create_session_cases username
    · show (manager.create_session username password connection delivery).1.WellKept
      rw [same]
      rcases manager.establish_cases username password connection delivery with
        unchanged | dropped | ⟨session, requested, fresh, added⟩
      · rwa [unchanged]
      · rw [dropped]
        exact kept.dropSocket
      · rw [added]
        exact kept.addSession absent requested fresh
    · exact absurd dead (alive username password connection delivery rfl)
    · show (manager.create_session username password connection delivery).1.WellKept
      rwa [same]
  | remove_session username => exact kept.remove_session username
  | ping id sendall =>
    show (manager.ping_loop id sendall).WellKept
    rcases manager.ping_loop_cases id sendall with same | ⟨session, connected, object, off, same⟩
    · rwa [same]
    · rw [same]
      exact kept.setFlags object off

end WellKept

/-- The socket of a forgotten session is neither closed nor owned, whatever the login comes to. -/
theorem WellKept.forgets (kept : manager.WellKept) (dead : manager.Dead username)
    (password : String) (connection : Connection) (delivery : Delivery) :
    ¬ (manager.create_session username password connection delivery).1.NoOrphan := by
  obtain ⟨id, session, found, object, off⟩ := dead
  have object : manager.Holds id session := object
  obtain ⟨mine, holding, requested, open_⟩ := kept.entry username id found
  cases holding.symm.trans object
  have below := kept.sock_lt id session object
  -- no entry that is left has the socket
  have nobody (name : String) (id' : Nat) (other : UserSession) (differs : name ≠ username)
      (held : manager.sessions name = some id') (holding : manager.Holds id' other) :
      other.sock ≠ session.sock := by
    intro same
    obtain rfl := kept.sock_inj id' id other session holding object same
    obtain ⟨mine, holding, requested', -⟩ := kept.entry name id' held
    cases holding.symm.trans object
    exact differs (requested'.symm.trans requested)
  have same : manager.create_session username password connection delivery =
      (manager.setSession username none).establish username password connection delivery := by
    obtain ⟨absent, -⟩ | ⟨-, same⟩ | ⟨found', -⟩ := manager.create_session_cases username
    · exact nomatch found.symm.trans absent
    · exact same password connection delivery
    · exact absurd (.inr ⟨id, session, found, object, off⟩) found'
  -- nor has any entry of a state with the remaining ones
  have left (name : String) (id' : Nat) (other : UserSession)
      (held : (manager.setSession username none).sessions name = some id')
      (holding : manager.Holds id' other) : other.sock ≠ session.sock := by
    unfold setSession at held
    dsimp only at held
    split at held
    · cases held
    · exact nobody name id' other ‹_› held holding
  rw [same]
  intro safe
  obtain unchanged | dropped | ⟨added, -, fresh, result⟩ :=
    (manager.setSession username none).establish_cases username password connection delivery
  · rw [unchanged] at safe
    obtain member | ⟨name, id', other, held, holding, sock⟩ := safe.owned session.sock below
    · exact open_ member
    · exact left name id' other held holding sock
  · rw [dropped] at safe
    obtain member | ⟨name, id', other, held, holding, sock⟩ :=
      safe.owned session.sock (below.trans (Nat.lt_succ_self _))
    · rcases List.mem_cons.mp member with new | old
      · exact absurd below (by rw [new]; exact Nat.lt_irrefl _)
      · exact open_ old
    · exact left name id' other held holding sock
  · rw [result] at safe
    obtain member | ⟨name, id', other, held, holding, sock⟩ :=
      safe.owned session.sock (below.trans (Nat.lt_succ_self _))
    · exact open_ member
    · rcases WellKept.getElem?_concat.mp holding with holding | ⟨rfl, rfl⟩
      · unfold UserSessionManager.addSession at held
        rw [setSession] at held
        dsimp only at held
        split at held
        · cases held
          exact absurd (List.getElem?_eq_some_iff.mp holding).1 (Nat.lt_irrefl _)
        · exact left name id' other held holding sock
      · rw [← sock, fresh] at below
        exact Nat.lt_irrefl _ below

def FindsDead (manager : UserSessionManager) : SessionEvent → Prop
  | .create_session username _ _ _ => manager.Dead username
  | _ => False

/-- No socket is orphaned up to any point of a run exactly if `create_session` has found no
session whose ping has failed. -/
theorem noOrphan_iff (events : List SessionEvent) :
    (∀ earlier, earlier <+: events → (run step {} earlier).NoOrphan) ↔
      Along step (fun manager event => ¬ manager.FindsDead event) {} events := by
  have keeps (manager : UserSessionManager) (event : SessionEvent) (kept : manager.WellKept)
      (alive : ¬ manager.FindsDead event) : (manager.step event).WellKept := by
    refine kept.step event fun username password connection delivery same => ?_
    rw [same] at alive
    exact alive
  refine prefixes_iff wellKept_init (fun _ kept => kept.noOrphan) keeps
    (fun manager event kept safe dead => ?_) events
  cases event with
  | create_session username password connection delivery =>
    exact kept.forgets dead password connection delivery safe
  | remove_session username => exact dead
  | ping id sendall => exact dead

/-! ### A ping that fails -/

def accepting : Connection where
  socket := .ok ()
  connect := .ok ()
  sendall := fun _ => .ok ()
  stream := [0x46, 0x53, 0x58, 0x31, 1, 13, 0, 0, 0, 17, 0, 0,
    1, 0, 1, 0x30, 0, 0, 0, 0, 0, 0, 0, 7, 0, 1, 0x61, 0, 0]

def login : SessionEvent :=
  .create_session "alice" "secret" accepting (.upTo 4096 (by decide))

def brokenPing : SessionEvent := .ping 0 fun _ => .error (.socketError "[Errno 32] Broken pipe")

/-- A login, a ping that fails and a second login: the socket of the first stays open, and
no entry has it. -/
theorem noOrphan_pingFails : ¬ (run step {} [login, brokenPing, login]).NoOrphan := by
  have first : (step {} login).WellKept := by
    refine wellKept_init.step login fun username _ _ _ _ => ?_
    rintro ⟨id, session, found, -⟩
    cases found
  have second : (run step {} [login, brokenPing]).WellKept :=
    first.step brokenPing fun _ _ _ _ other => by cases other
  have found : (run step {} [login, brokenPing]).sessions "alice" = some 0 := by decide +kernel
  have off : (run step {} [login, brokenPing]).objects[0]?.map UserSession.connected = some false := by
    decide +kernel
  obtain ⟨session, object, disconnected⟩ := Option.map_eq_some_iff.mp off
  exact second.forgets ⟨0, session, found, object, disconnected⟩ _ _ _

end FileShareX.Gateway.UserSessionManager

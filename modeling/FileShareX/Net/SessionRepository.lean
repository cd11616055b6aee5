import FileShareX.Auth.PasswordHash
import FileShareX.Foundation.Transition
import FileShareX.Net.Accounts

/-!
# Sessions in the database

`session_repository.cpp` over the rows of the table `sessions`.  A token is good until a
moment fixed when it is issued; being seen again changes the order of the list and nothing
else.  The handlers only insert, and see no more of the table than its tokens.
-/

namespace FileShareX.Net

open Wire Posix Protocol Machine

/-- Times are microseconds; the repository hands them on as text. -/
structure SessionRow where
  id : Int64
  user_id : Int64
  token : Bytes
  expires_at : Int
  last_seen_at : Int
  deriving DecidableEq

/-- The order in which a query meets the rows, which is the database's own choice. -/
structure Scan where
  order : List SessionRow → List SessionRow
  perm : ∀ rows, (order rows).Perm rows

/-- One statement: `some text` is an exception with that text. -/
structure Statement where
  failure : Option String := none
  now : Int
  scan : Scan := ⟨id, fun rows => .refl rows⟩

/-- The rows of `sessions`, and the numbers in `users` that they may refer to. -/
structure SessionRepository where
  users : List Int64
  sessions : List SessionRow := []

def second : Int := 10 ^ 6

namespace SessionRepository

/-- `nextval` is the number drawn for the row; number and token are unique, and the user has
to exist. -/
def create_session (repo : SessionRepository) (user_id : Int64) (ttl_seconds : Int32)
    (env : AuthEnv) (nextval : Int64) (now : Int) : Except String (SessionRepository × Bytes) :=
  match env.rand with
  | none => .error "RAND_bytes failed"
  | some buf =>
    let token := hex buf.toList
    match env.insert with
    | some text => .error text
    | none =>
      if user_id ∉ repo.users ∨ repo.sessions.any (fun row => row.id == nextval || row.token == token) then
        .error ("create_session: " ++ env.conflict)
      else
        let row : SessionRow := ⟨nextval, user_id, token, now + ttl_seconds.toInt * second, now⟩
        .ok ({ repo with sessions := repo.sessions ++ [row] }, token)

def validate_token (repo : SessionRepository) (token : Bytes) (stmt : Statement) :
    Except String (Option SessionRow) :=
  match stmt.failure with
  | some text => .error text
  | none =>
    .ok ((stmt.scan.order repo.sessions).find? fun row =>
      row.token == cString token && decide (stmt.now < row.expires_at))

def touch_session (repo : SessionRepository) (token : Bytes) (stmt : Statement) :
    Except String SessionRepository :=
  match stmt.failure with
  | some text => .error text
  | none =>
    .ok { repo with
      sessions := repo.sessions.map fun row =>
        if row.token == cString token then { row with last_seen_at := stmt.now } else row }

/-- `ORDER BY last_seen_at DESC`. -/
def list_valid_sessions (repo : SessionRepository) (stmt : Statement) :
    Except String (List SessionRow) :=
  match stmt.failure with
  | some text => .error text
  | none =>
    .ok (((stmt.scan.order repo.sessions).filter fun row => stmt.now < row.expires_at).mergeSort
      fun first second => second.last_seen_at ≤ first.last_seen_at)

end SessionRepository

inductive SessionCall where
  | create (user_id : Int64) (ttl_seconds : Int32) (env : AuthEnv) (nextval : Int64) (now : Int)
  | touch (token : Bytes) (stmt : Statement)

def SessionCall.seen (token : Bytes) (before : Int) : SessionCall → Int
  | .touch text stmt => if stmt.failure = none ∧ token = cString text then stmt.now else before
  | .create .. => before

namespace SessionRepository

/-- A statement that fails leaves the table as it is. -/
def step (repo : SessionRepository) : SessionCall → SessionRepository
  | .create user_id ttl_seconds env nextval now =>
    match repo.create_session user_id ttl_seconds env nextval now with
    | .ok (after, _) => after
    | .error _ => repo
  | .touch token stmt =>
    match repo.touch_session token stmt with
    | .ok after => after
    | .error _ => repo

def lastSeen (token : Bytes) (before : Int) (calls : List SessionCall) : Int :=
  calls.foldl (SessionCall.seen token) before

def seenBy (calls : List SessionCall) (row : SessionRow) : SessionRow :=
  { row with last_seen_at := lastSeen row.token row.last_seen_at calls }

/-- The row was there at the start, or one of the calls has issued it. -/
inductive Holds (start : SessionRepository) (calls : List SessionCall) : SessionRow → Prop
  | kept {row} (old : row ∈ start.sessions) : Holds start calls (seenBy calls row)
  | issued {earlier later user_id ttl_seconds env nextval now after token}
      (split : calls = earlier ++ .create user_id ttl_seconds env nextval now :: later)
      (created : (run step start earlier).create_session user_id ttl_seconds env nextval now =
        .ok (after, token)) :
      Holds start calls
        (seenBy later ⟨nextval, user_id, token, now + ttl_seconds.toInt * second, now⟩)

variable {repo start after : SessionRepository} {calls : List SessionCall} {token : Bytes}
  {user_id : Int64} {ttl_seconds : Int32} {env : AuthEnv} {nextval : Int64} {now : Int}
  {row : SessionRow}

theorem create_session_spec
    (created : repo.create_session user_id ttl_seconds env nextval now = .ok (after, token)) :
    after = { repo with sessions :=
        repo.sessions ++ [⟨nextval, user_id, token, now + ttl_seconds.toInt * second, now⟩] } ∧
      user_id ∈ repo.users ∧ (∀ row ∈ repo.sessions, row.id ≠ nextval ∧ row.token ≠ token) ∧
      ∃ buf, env.rand = some buf ∧ token = hex buf.toList := by
  unfold create_session at created
  split at created
  · cases created
  · next buf drawn =>
    dsimp only at created
    split at created
    · cases created
    · split at created
      · cases created
      · next free =>
        cases created
        rw [not_or, not_not] at free
        refine ⟨rfl, free.1, fun row member => ?_, buf, drawn, rfl⟩
        have unlike : ¬(row.id == nextval || row.token == hex buf.toList) = true := fun clash =>
          free.2 (List.any_eq_true.mpr ⟨row, member, clash⟩)
        simpa using unlike

theorem step_cases (repo : SessionRepository) (call : SessionCall) :
    (∃ user_id ttl_seconds env nextval now after token,
      call = .create user_id ttl_seconds env nextval now ∧
      repo.create_session user_id ttl_seconds env nextval now = .ok (after, token) ∧
      repo.step call = after) ∨
    ((∀ user_id ttl_seconds env nextval now after token,
        call = .create user_id ttl_seconds env nextval now →
        repo.create_session user_id ttl_seconds env nextval now ≠ .ok (after, token)) ∧
      repo.step call = { repo with sessions := repo.sessions.map (seenBy [call]) }) := by
  have untouched : (∀ row, seenBy [call] row = row) →
      repo = { repo with sessions := repo.sessions.map (seenBy [call]) } := by
    intro same
    have all : seenBy [call] = id := funext same
    rw [all, List.map_id]
  cases call with
  | create user_id ttl_seconds env nextval now =>
    cases created : repo.create_session user_id ttl_seconds env nextval now with
    | ok result =>
      exact .inl ⟨user_id, ttl_seconds, env, nextval, now, result.1, result.2, rfl, created,
        by simp only [step, created]⟩
    | error text =>
      refine .inr ⟨?_, ?_⟩
      · rintro _ _ _ _ _ after token same
        cases same
        rw [created]
        exact nofun
      · simp only [step, created]
        exact untouched fun _ => rfl
  | touch text stmt =>
    refine .inr ⟨nofun, ?_⟩
    cases failure : stmt.failure with
    | some reason =>
      simp only [step, touch_session, failure]
      exact untouched fun row => by simp [seenBy, lastSeen, SessionCall.seen, failure]
    | none =>
      simp only [step, touch_session, failure]
      congr 1
      refine List.map_congr_left fun row _ => ?_
      by_cases mine : row.token = cString text
      · simp [seenBy, lastSeen, SessionCall.seen, failure, mine]
      · simp [seenBy, lastSeen, SessionCall.seen, failure, mine]

theorem seenBy_append (earlier later : List SessionCall) (row : SessionRow) :
    seenBy (earlier ++ later) row = seenBy later (seenBy earlier row) := by
  simp [seenBy, lastSeen]

theorem mem_step {call : SessionCall} : row ∈ (repo.step call).sessions ↔
    (∃ old ∈ repo.sessions, seenBy [call] old = row) ∨
      ∃ user_id ttl_seconds env nextval now after token,
        call = .create user_id ttl_seconds env nextval now ∧
        repo.create_session user_id ttl_seconds env nextval now = .ok (after, token) ∧
        row = ⟨nextval, user_id, token, now + ttl_seconds.toInt * second, now⟩ := by
  rcases step_cases repo call with ⟨user_id, ttl_seconds, env, nextval, now, after, token, rfl, created,
    stepped⟩ | ⟨refused, stepped⟩
  · obtain ⟨rows, -⟩ := create_session_spec created
    rw [stepped, rows, List.mem_append, List.mem_singleton]
    refine or_congr ⟨fun old => ⟨row, old, rfl⟩, ?_⟩
      ⟨fun new => ⟨_, _, _, _, _, _, _, rfl, created, new⟩, ?_⟩
    · rintro ⟨old, member, rfl⟩
      exact member
    · rintro ⟨_, _, _, _, _, _, _, same, created', new⟩
      cases same
      rw [created] at created'
      cases created'
      exact new
  · rw [stepped, List.mem_map]
    refine (or_iff_left ?_).symm
    rintro ⟨_, _, _, _, _, _, _, same, created, -⟩
    exact refused _ _ _ _ _ _ _ same created

/-- The rows after some calls are those of the start and those issued, as they were seen last. -/
theorem mem_run : row ∈ (run step start calls).sessions ↔ Holds start calls row := by
  induction calls generalizing start with
  | nil =>
    refine ⟨fun member => @Holds.kept start [] row member, fun holds => ?_⟩
    cases holds with
    | kept old => exact old
    | @issued earlier _ _ _ _ _ _ _ _ split => cases earlier <;> cases split
  | cons call rest ih =>
    rw [run_cons, ih]
    constructor
    · rintro (@⟨row, member⟩ | @⟨earlier, _, _, _, _, _, _, _, _, split, created⟩)
      · rcases mem_step.mp member with ⟨old, present, rfl⟩ | ⟨_, _, _, _, _, _, _, rfl, created, rfl⟩
        · rw [← seenBy_append]
          exact .kept present
        · exact @Holds.issued start _ [] _ _ _ _ _ _ _ _ rfl created
      · exact @Holds.issued start _ (call :: earlier) _ _ _ _ _ _ _ _
          (by rw [split, List.cons_append]) created
    · rintro (@⟨row, old⟩ | @⟨earlier, _, _, _, _, _, _, _, _, split, created⟩)
      · rw [← List.singleton_append, seenBy_append]
        exact .kept (mem_step.mpr (.inl ⟨row, old, rfl⟩))
      · cases earlier with
        | nil =>
          cases split
          exact .kept (mem_step.mpr (.inr ⟨_, _, _, _, _, _, _, rfl, created, rfl⟩))
        | cons first earlier =>
          cases split
          exact .issued rfl created

def Unique (repo : SessionRepository) : Prop := (repo.sessions.map (·.token)).Nodup

theorem Unique.step (unique : repo.Unique) (call : SessionCall) : (repo.step call).Unique := by
  unfold Unique
  rcases step_cases repo call with ⟨user_id, ttl_seconds, env, nextval, now, after, token, rfl, created,
    stepped⟩ | ⟨-, stepped⟩
  · obtain ⟨rows, -, fresh, -⟩ := create_session_spec created
    rw [stepped, rows, List.map_append]
    refine List.Nodup.append unique (List.nodup_singleton _) fun text old new => ?_
    obtain ⟨row, member, rfl⟩ := List.mem_map.mp old
    exact (fresh row member).2 (List.mem_singleton.mp new)
  · rw [stepped, List.map_map]
    exact unique

theorem Unique.run (unique : start.Unique) (calls : List SessionCall) :
    (run SessionRepository.step start calls).Unique := by
  induction calls generalizing start with
  | nil => exact unique
  | cons call rest ih => exact ih (unique.step call)

theorem validate_token_eq_some {stmt : Statement} (unique : repo.Unique)
    (answers : stmt.failure = none) :
    repo.validate_token token stmt = .ok (some row) ↔
      row ∈ repo.sessions ∧ row.token = cString token ∧ stmt.now < row.expires_at := by
  unfold validate_token
  rw [answers]
  dsimp only
  rw [Except.ok.injEq]
  have perm := stmt.scan.perm repo.sessions
  constructor
  · intro found
    have valid := List.find?_some found
    rw [Bool.and_eq_true, beq_iff_eq, decide_eq_true_iff] at valid
    exact ⟨perm.mem_iff.mp (List.mem_of_find?_eq_some found), valid⟩
  · rintro ⟨member, named, valid⟩
    cases found : (stmt.scan.order repo.sessions).find? _ with
    | none =>
      have differs := List.find?_eq_none.mp found row (perm.mem_iff.mpr member)
      simp [named, valid] at differs
    | some other =>
      have same : other.token = row.token := by
        have matches_ := List.find?_some found
        rw [Bool.and_eq_true, beq_iff_eq] at matches_
        rw [matches_.1, named]
      have present := perm.mem_iff.mp (List.mem_of_find?_eq_some found)
      rw [List.inj_on_of_nodup_map unique present member same]

theorem list_valid_sessions_spec {stmt : Statement} {rows : List SessionRow} (unique : repo.Unique)
    (listed : repo.list_valid_sessions stmt = .ok rows) :
    rows.Pairwise (fun first second => second.last_seen_at ≤ first.last_seen_at) ∧
      (rows.map (·.token)).Nodup ∧
      ∀ row, row ∈ rows ↔ row ∈ repo.sessions ∧ stmt.now < row.expires_at := by
  unfold list_valid_sessions at listed
  split at listed
  · cases listed
  · cases listed
    have perm := stmt.scan.perm repo.sessions
    refine ⟨?_, ?_, fun row => ?_⟩
    · refine (List.pairwise_mergeSort ?_ ?_ _).imp of_decide_eq_true
      · intro first second third one two
        exact decide_eq_true ((of_decide_eq_true two).trans (of_decide_eq_true one))
      · intro first second
        rw [Bool.or_eq_true, decide_eq_true_iff, decide_eq_true_iff]
        exact le_total ..
    · refine ((List.mergeSort_perm ..).map _).nodup_iff.mpr ?_
      exact ((perm.map _).nodup_iff.mpr unique).sublist (List.filter_sublist.map _)
    · rw [List.mem_mergeSort, List.mem_filter, perm.mem_iff, decide_eq_true_iff]

structure Tracks (start : SessionRepository) (calls : List SessionCall) : Prop where
  validated : ∀ token (stmt : Statement) row, stmt.failure = none →
    ((run step start calls).validate_token token stmt = .ok (some row) ↔
      Holds start calls row ∧ row.token = cString token ∧ stmt.now < row.expires_at)
  listed : ∀ stmt rows, (run step start calls).list_valid_sessions stmt = .ok rows →
    rows.Pairwise (fun first second => second.last_seen_at ≤ first.last_seen_at) ∧
      (rows.map (·.token)).Nodup ∧
      ∀ row, row ∈ rows ↔ Holds start calls row ∧ stmt.now < row.expires_at

/-- After every history of calls a token is good if it was issued and the lifetime it was
issued with has not passed, and the list has just these sessions, the last seen first. -/
theorem sessions_tracked (unique : start.Unique) : Tracks start calls := by
  have uniqueNow := unique.run calls
  refine ⟨fun token stmt row answers => ?_, fun stmt rows listed => ?_⟩
  · rw [validate_token_eq_some uniqueNow answers, mem_run]
  · obtain ⟨sorted, once, members⟩ := list_valid_sessions_spec uniqueNow listed
    exact ⟨sorted, once, fun row => by rw [members, mem_run]⟩

/-- Two sessions are issued and the first is seen again, one second before it expires. -/
def seenAgain : List SessionCall :=
  [.create 1 60 { rand := some (.replicate 32 1) } 1 0, .create 1 60 { rand := some (.replicate 32 2) } 2 second,
    .touch (hex (List.replicate 32 1)) { now := 59 * second }]

theorem sessions_tracked_sample : Tracks ⟨[1], []⟩ seenAgain := sessions_tracked List.nodup_nil

example : (run step ⟨[1], []⟩ seenAgain).validate_token (hex (List.replicate 32 1)) { now := 60 * second } =
    .ok none := by decide +kernel

/-! ### The sessions of logins -/

/-- What the handlers' tables say of this one. -/
structure Behind (repo : SessionRepository) (db : Db) : Prop where
  users : repo.users = db.users.map (·.id)
  tokens : ∀ token, token ∈ db.tokens ↔ ∃ row ∈ repo.sessions, row.token = token

def day : Int := 24 * 3600 * second

/-- The session has the lifetime of a login, however often it is seen. -/
def LastsADay (after : SessionRepository) (nextval : Int64) (now : Int) (resp : LoginResp) : Prop :=
  ∀ calls (stmt : Statement), stmt.failure = none →
    (run step after calls).validate_token resp.token stmt =
      .ok (if stmt.now < now + day then
        some ⟨nextval, resp.user_id, resp.token, now + day, lastSeen resp.token now calls⟩ else none)

/-- What the handlers' tables see of a session that is made. -/
theorem create_session_behind {db after : Db} (behind : repo.Behind db)
    (created : db.create_session env = .ok (after, token)) (user : user_id ∈ repo.users)
    (fresh : ∀ row ∈ repo.sessions, row.id ≠ nextval) :
    ∃ made, repo.create_session user_id ttl_seconds env nextval now = .ok (made, token) ∧
      made.Behind after ∧ (0 : UInt8) ∉ token := by
  unfold Db.create_session at created
  split at created
  · cases created
  · next buf drawn =>
    dsimp only at created
    split at created
    · cases created
    · next answers =>
      split at created
      · cases created
      · next new =>
        cases created
        have free : ¬(user_id ∉ repo.users ∨ repo.sessions.any (fun row =>
            row.id == nextval || row.token == hex buf.toList) = true) := by
          rw [not_or, not_not, List.any_eq_true]
          refine ⟨user, ?_⟩
          rintro ⟨row, member, clash⟩
          rw [Bool.or_eq_true, beq_iff_eq, beq_iff_eq] at clash
          exact clash.elim (fresh row member)
            fun same => new ((behind.tokens _).mpr ⟨row, member, same⟩)
        let row : SessionRow :=
          ⟨nextval, user_id, hex buf.toList, now + ttl_seconds.toInt * second, now⟩
        have made : repo.create_session user_id ttl_seconds env nextval now =
            .ok ({ repo with sessions := repo.sessions ++ [row] }, hex buf.toList) := by
          simp only [create_session, drawn, answers]
          exact if_neg free
        refine ⟨_, made, ⟨behind.users, fun token => ?_⟩, Auth.notMem_hex (by decide) _⟩
        rw [List.mem_cons, behind.tokens]
        simp only [List.mem_append, List.mem_singleton, or_and_right, exists_or, exists_eq_left]
        exact ⟨fun both => both.symm.imp_right Eq.symm, fun both => both.symm.imp_left Eq.symm⟩

/-- A login that is answered with success leaves a session of its user that is good for a day
from then on, and for no longer, whatever is done with it. -/
theorem login_lasts_a_day {db after : Db} {req : LoginReq} {resp : LoginResp} (unique : repo.Unique)
    (behind : repo.Behind db) (fresh : ∀ row ∈ repo.sessions, row.id ≠ nextval)
    (handled : AuthHandler.handle_login db req env = .ok (after, resp)) (ok : resp.ok = true) :
    ∃ made, repo.create_session resp.user_id (24 * 3600) env nextval now = .ok (made, resp.token) ∧
      made.Behind after ∧ made.LastsADay nextval now resp := by
  obtain ⟨refused, -⟩ | ⟨-, -, -, -, inserted⟩ := AuthHandler.handle_login_spec handled
  · rw [refused] at ok
    cases ok
  obtain ⟨row, member, -, -, answer⟩ := AuthHandler.handle_login_verified handled ok
  have user : resp.user_id ∈ repo.users := by
    rw [answer, behind.users]
    exact List.mem_map_of_mem member
  obtain ⟨made, created, behind', free⟩ : ∃ made, repo.create_session resp.user_id (24 * 3600) env
      nextval now = .ok (made, resp.token) ∧ made.Behind after ∧ (0 : UInt8) ∉ resp.token :=
    create_session_behind behind inserted user fresh
  refine ⟨made, created, behind', fun calls stmt answers => ?_⟩
  obtain ⟨rows, -⟩ := create_session_spec created
  have uniqueNow : (run step made calls).Unique := by
    have stepped : repo.step (.create resp.user_id (24 * 3600) env nextval now) = made := by
      simp only [step, created]
    exact (stepped ▸ unique.step _).run calls
  have here : seenBy calls ⟨nextval, resp.user_id, resp.token, now + day, now⟩ ∈
      (run step made calls).sessions :=
    mem_run.mpr (.kept (by rw [rows]; exact List.mem_append_right _ (List.mem_singleton_self _)))
  by_cases valid : stmt.now < now + day
  · rw [if_pos valid]
    exact (validate_token_eq_some uniqueNow answers).mpr ⟨here, (cString_eq_self free).symm, valid⟩
  · rw [if_neg valid]
    have returns : ∃ found, (run step made calls).validate_token resp.token stmt = .ok found := by
      unfold validate_token
      rw [answers]
      exact ⟨_, rfl⟩
    obtain ⟨found, returned⟩ := returns
    cases found with
    | none => exact returned
    | some other =>
      obtain ⟨present, named, unexpired⟩ := (validate_token_eq_some uniqueNow answers).mp returned
      rw [cString_eq_self free] at named
      rw [List.inj_on_of_nodup_map uniqueNow present here named] at unexpired
      exact absurd unexpired valid

theorem login_lasts_a_day_alice : ∃ made,
    create_session ⟨[1, 2], []⟩ 1 (24 * 3600) (Sample.env 0 1).auth 1 0 =
        .ok (made, hex (List.replicate 32 1)) ∧
      made.Behind { Sample.db with tokens := [hex (List.replicate 32 1)] } ∧
      made.LastsADay 1 0
        { ok := true, token := hex (List.replicate 32 1), user_id := 1, username := ascii "alice"
          msg := ascii "login successful" } :=
  have handled : AuthHandler.handle_login Sample.db ⟨ascii "alice", [120]⟩ (Sample.env 0 1).auth =
      .ok ({ Sample.db with tokens := [hex (List.replicate 32 1)] },
        { ok := true, token := hex (List.replicate 32 1), user_id := 1, username := ascii "alice"
          msg := ascii "login successful" }) := rfl
  login_lasts_a_day (show Unique ⟨[1, 2], []⟩ from List.nodup_nil) ⟨rfl, by simp [Sample.db]⟩ (by simp) handled rfl

end SessionRepository

end FileShareX.Net

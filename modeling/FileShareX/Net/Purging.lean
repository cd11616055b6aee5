import FileShareX.Foundation.EraseLoop
import FileShareX.Net.Online

/-!
# Purging is invisible

`count` and `get_online_usernames` are `const`, yet both erase the expired entries that they
come across.  Nobody can tell from outside.
-/

namespace FileShareX.Net

open Wire Machine EraseLoop

namespace SessionManager

variable {live : Live} {manager : SessionManager}

/-- A token is the key of at most one entry, as `std::unordered_map` has it. -/
def Keyed (manager : SessionManager) : Prop := (manager.sessions.map Prod.fst).Nodup

theorem keyed_empty : Keyed {} := List.nodup_nil

theorem Keyed.filter (keyed : manager.Keyed) (keep : Bytes × ConnId → Bool) :
    Keyed ⟨manager.sessions.filter keep⟩ :=
  keyed.sublist (List.filter_sublist.map _)

theorem Keyed.add_session (keyed : manager.Keyed) (token : Bytes) (session : ConnId) :
    (manager.add_session token session).Keyed := by
  have others := keyed.filter fun entry => entry.1 ≠ token
  refine List.nodup_cons.mpr ⟨fun member => ?_, others⟩
  obtain ⟨entry, kept, same⟩ := List.mem_map.mp member
  exact of_decide_eq_true (List.mem_filter.mp kept).2 same

/-! ### The loops with their iterators -/

def visit {β : Type} (live : Live) (authenticated : β → TcpSession → β) (gathered : β)
    (entry : Bytes × ConnId) : β :=
  match live entry.2 with
  | some session =>
    if session.is_authenticated then authenticated gathered session else gathered
  | none => gathered

def usernamesTurn (live : Live) :
    Cursor (Bytes × ConnId) (List Bytes) → Cursor (Bytes × ConnId) (List Bytes) :=
  turn (held live) (visit live fun usernames session => usernames ++ [session.username])

def countTurn (live : Live) : Cursor (Bytes × ConnId) Nat → Cursor (Bytes × ConnId) Nat :=
  turn (held live) (visit live fun cnt _ => cnt + 1)

theorem foldl_visit {β : Type} (authenticated : β → TcpSession → β)
    (sessions : List (Bytes × ConnId)) (gathered : β) :
    (sessions.filter (held live)).foldl (visit live authenticated) gathered =
      (online live sessions).foldl (fun gathered entry => authenticated gathered entry.2)
        gathered := by
  induction sessions generalizing gathered with
  | nil => rfl
  | cons entry rest ih =>
    cases found : live entry.2 with
    | none => simpa [held, online, found] using ih gathered
    | some session =>
      cases known : session.is_authenticated with
      | false => simpa [held, online, visit, found, known] using ih gathered
      | true => simpa [held, online, visit, found, known] using ih (authenticated gathered session)

/-- The loop of `get_online_usernames` ends, and with what the function returns. -/
theorem usernamesTurn_loop : (usernamesTurn live)^[manager.sessions.length]
      ⟨manager.sessions, 0, []⟩ =
    ⟨(manager.get_online_usernames live).1.sessions,
      (manager.get_online_usernames live).1.sessions.length,
      (manager.get_online_usernames live).2⟩ := by
  have gathered (entries : List (ConnId × TcpSession)) (usernames : List Bytes) :
      entries.foldl (fun usernames entry => usernames ++ [entry.2.username]) usernames =
        usernames ++ entries.map (·.2.username) := by
    induction entries generalizing usernames with
    | nil => simp
    | cons entry entries ih => simp [ih]
  rw [usernamesTurn, turn_loop, foldl_visit, gathered, get_online_usernames_eq, List.nil_append]

theorem countTurn_loop : (countTurn live)^[manager.sessions.length] ⟨manager.sessions, 0, 0⟩ =
    ⟨(manager.count live).1.sessions, (manager.count live).1.sessions.length,
      (manager.count live).2⟩ := by
  have gathered (entries : List (ConnId × TcpSession)) (cnt : Nat) :
      entries.foldl (fun cnt _ => cnt + 1) cnt = cnt + entries.length := by
    induction entries generalizing cnt with
    | nil => rfl
    | cons entry entries ih =>
      rw [List.foldl_cons, ih, List.length_cons, Nat.add_assoc, Nat.add_comm 1]
  rw [countTurn, turn_loop, foldl_visit, gathered, count_eq, Nat.zero_add]

/-! ### What is left -/

def purged (live : Live) (manager : SessionManager) : SessionManager :=
  ⟨manager.sessions.filter (held live)⟩

theorem online_purged : online live (manager.purged live).sessions = online live manager.sessions := by
  unfold online purged held
  rw [List.filterMap_filter]
  congr 1
  funext entry
  cases live entry.2 <;> rfl

theorem get_session_purged (keyed : manager.Keyed) (token : Bytes) :
    (manager.purged live).get_session live token = manager.get_session live token := by
  have found : (manager.purged live).sessions.lookup token =
      (manager.sessions.lookup token).filter fun conn => (live conn).isSome :=
    lookup_filter keyed (fun conn => (live conn).isSome) token
  unfold get_session
  rw [found]
  cases manager.sessions.lookup token with
  | none => rfl
  | some conn =>
    cases alive : (live conn).isSome with
    | false => simp [Option.filter, alive]
    | true => simp [Option.filter, alive]

theorem purged_purged : (manager.purged live).purged live = manager.purged live := by
  simp [purged]

/-! ### Any number of calls -/

inductive Reading where
  | count
  | get_online_usernames

def after (live : Live) (manager : SessionManager) : Reading → SessionManager
  | .count => (manager.count live).1
  | .get_online_usernames => (manager.get_online_usernames live).1

theorem after_eq (reading : Reading) : manager.after live reading = manager.purged live := by
  cases reading with
  | count => exact congrArg Prod.fst count_eq
  | get_online_usernames => exact congrArg Prod.fst get_online_usernames_eq

/-- The first call purges, and the others find nothing to erase. -/
theorem run_after (readings : List Reading) :
    run (after live) manager readings = manager ∨
      run (after live) manager readings = manager.purged live := by
  induction readings generalizing manager with
  | nil => exact .inl rfl
  | cons reading readings ih =>
    rw [run_cons, after_eq]
    refine .inr ?_
    obtain same | same := @ih (manager.purged live)
    · exact same
    · rw [same, purged_purged]

/-- The readers of a table answer alike, and what they erase nobody misses. -/
structure PurgesInvisibly (live : Live) (manager : SessionManager) : Prop where
  /-- The loops end with what the functions return. -/
  count_ends : ∃ turns, ((countTurn live)^[turns] ⟨manager.sessions, 0, 0⟩).AtEnd ∧
    manager.count live = (⟨((countTurn live)^[turns] ⟨manager.sessions, 0, 0⟩).entries⟩,
      ((countTurn live)^[turns] ⟨manager.sessions, 0, 0⟩).gathered)
  usernames_end : ∃ turns, ((usernamesTurn live)^[turns] ⟨manager.sessions, 0, []⟩).AtEnd ∧
    manager.get_online_usernames live =
      (⟨((usernamesTurn live)^[turns] ⟨manager.sessions, 0, []⟩).entries⟩,
        ((usernamesTurn live)^[turns] ⟨manager.sessions, 0, []⟩).gathered)
  /-- Exactly the expired entries are erased. -/
  erases : ∀ reading, (manager.after live reading).sessions =
    manager.sessions.filter fun entry => (live entry.2).isSome
  session : ∀ readings token,
    (run (after live) manager readings).get_session live token = manager.get_session live token
  agree : ∀ readings, ((run (after live) manager readings).count live).2 =
    ((run (after live) manager readings).get_online_usernames live).2.length
  answers : ∀ readings,
    ((run (after live) manager readings).count live).2 = (manager.count live).2 ∧
      ((run (after live) manager readings).get_online_usernames live).2 =
        (manager.get_online_usernames live).2

theorem purging_invisible (live : Live) (manager : SessionManager) (keyed : manager.Keyed) :
    PurgesInvisibly live manager where
  count_ends := ⟨manager.sessions.length, by rw [countTurn_loop]; exact Nat.le_refl _,
    by rw [countTurn_loop]⟩
  usernames_end := ⟨manager.sessions.length, by rw [usernamesTurn_loop]; exact Nat.le_refl _,
    by rw [usernamesTurn_loop]⟩
  erases reading := congrArg sessions (after_eq reading)
  session readings token := by
    obtain same | same := @run_after live manager readings
    · rw [same]
    · rw [same, get_session_purged keyed]
  agree readings := by rw [count_eq, get_online_usernames_eq, List.length_map]
  answers readings := by
    simp only [count_eq, get_online_usernames_eq]
    obtain same | same := @run_after live manager readings
    · rw [same]
      exact ⟨rfl, rfl⟩
    · rw [same, online_purged]
      exact ⟨rfl, rfl⟩

/-- Two entries of one session, one that has not logged in and one that has expired. -/
def mixed : SessionManager :=
  (((({} : SessionManager).add_session [1] 0).add_session [2] 0).add_session [3] 1).add_session [4] 2

def twoAlive : Live
  | 0 => some ⟨[2], 1, ascii "alice"⟩
  | 1 => some {}
  | _ => none

theorem purging_invisible_mixed : PurgesInvisibly twoAlive mixed :=
  purging_invisible twoAlive mixed
    ((((keyed_empty.add_session [1] 0).add_session [2] 0).add_session [3] 1).add_session [4] 2)

end SessionManager

end FileShareX.Net

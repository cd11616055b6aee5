import FileShareX.Net.Online

/-!
# Dropped connections

After one of its exits a connection should count as offline for good.  The
exits clear the current token and its entry; an entry from an earlier login, a
later login on a connection whose writes have failed, and the exit for an
oversized payload are what they miss.
-/

namespace FileShareX.Net

open Wire Machine

namespace SessionManager

theorem online_congr {live live' : Live} {sessions : List (Bytes × ConnId)}
    (same : ∀ entry ∈ sessions, live entry.2 = live' entry.2) :
    online live sessions = online live' sessions := by
  refine List.filterMap_congr fun entry member => ?_
  rw [same entry member]

end SessionManager

namespace Server

/-- The connection is not authenticated, the readers of the table answer as if its
object were gone, and no token leads to it. -/
structure Offline (server : Server) (conn : ConnId) : Prop where
  anonymous : server.authenticated conn = false
  unlisted : (server.session_manager.get_online_usernames server.live).2 =
    (server.session_manager.get_online_usernames (Function.update server.live conn none)).2
  uncounted : (server.session_manager.count server.live).2 =
    (server.session_manager.count (Function.update server.live conn none)).2
  unreachable : ∀ token, server.session_manager.get_session server.live token ≠ some conn

def KeepsOthers (server after : Server) (conn : ConnId) : Prop :=
  ∀ token other, other ≠ conn → (server.live other).isSome →
    (token, other) ∈ server.session_manager.sessions → (token, other) ∈ after.session_manager.sessions

/-- The only entry that leads to the connection is the one of its current token, and
an exit for an oversized payload finds it logged out. -/
def CleansUp (server : Server) (conn : ConnId) (reason : Exit) : Prop :=
  (reason = .tooLarge → server.authenticated conn = false) ∧
    ∀ entry ∈ server.session_manager.sessions, entry.2 = conn →
      (server.live conn).any fun self => self.is_authenticated && self.token == entry.1

instance (server : Server) (conn : ConnId) (reason : Exit) :
    Decidable (server.CleansUp conn reason) := by
  unfold CleansUp
  infer_instance

structure Gone (server : Server) (conn : ConnId) : Prop where
  numbered : conn < server.next_conn
  anonymous : server.authenticated conn = false
  unlisted : ∀ token, (token, conn) ∉ server.session_manager.sessions

variable {server after : Server} {label : Label} {conn : ConnId} {reason : Exit}

namespace Gone

theorem offline (gone : server.Gone conn) : server.Offline conn := by
  have same : SessionManager.online server.live server.session_manager.sessions =
      SessionManager.online (Function.update server.live conn none) server.session_manager.sessions := by
    refine SessionManager.online_congr fun ⟨token, other⟩ member => ?_
    have ne : other ≠ conn := by
      rintro rfl
      exact gone.unlisted token member
    rw [Function.update_of_ne ne]
  refine ⟨gone.anonymous, ?_, ?_, fun token found => ?_⟩
  · rw [SessionManager.get_online_usernames_eq, SessionManager.get_online_usernames_eq, same]
  · rw [SessionManager.count_eq, SessionManager.count_eq, same]
  · exact gone.unlisted token (SessionManager.get_session_mem found)

theorem step (gone : server.Gone conn) (silent : server.logsIn label ≠ some conn) :
    (server.step label).1.Gone conn := by
  obtain ⟨numbered, anonymous, unlisted⟩ := gone
  unfold authenticated at anonymous
  cases step_sessionStep server label with
  | kept live next sessions =>
    refine ⟨by rw [next]; exact numbered, by unfold authenticated; rw [live]; exact anonymous,
      fun token member => unlisted token ?_⟩
    rcases sessions with same | purged
    · rwa [same] at member
    · rw [purged] at member
      exact List.mem_of_mem_filter member
  | connected live next sessions =>
    refine ⟨by rw [next]; exact Nat.lt_succ_of_lt numbered, ?_, by rw [sessions]; exact unlisted⟩
    unfold authenticated
    rw [live, Function.update_of_ne (Nat.ne_of_lt numbered)]
    exact anonymous
  | loggedIn logs _ _ _ _ live next sessions =>
    have ne : conn ≠ _ := fun same => silent (same ▸ logs)
    refine ⟨by rw [next]; exact numbered, ?_, fun token member => ?_⟩
    · unfold authenticated
      rw [live, Function.update_of_ne ne]
      exact anonymous
    · rw [sessions] at member
      rcases SessionManager.mem_add_session (List.mem_of_mem_filter member) with new | old
      · exact ne (Prod.mk.inj new).2
      · exact unlisted token old
  | @dropped other _ _ _ live next sessions =>
    refine ⟨by rw [next]; exact numbered, ?_, fun token member => unlisted token ?_⟩
    · unfold authenticated
      rw [live]
      by_cases same : conn = other
      · rw [same, Function.update_self]
        rfl
      · rw [Function.update_of_ne same]
        exact anonymous
    · rw [sessions] at member
      exact List.mem_of_mem_filter (List.mem_of_mem_filter member)
  | @released other live next sessions =>
    refine ⟨by rw [next]; exact numbered, ?_, by rw [sessions]; exact unlisted⟩
    unfold authenticated
    rw [live]
    by_cases same : conn = other
    · rw [same, Function.update_self]
      rfl
    · rw [Function.update_of_ne same]
      exact anonymous

end Gone

theorem disconnect_gone (numbered : conn < server.next_conn) (alive : (server.live conn).isSome)
    (cleans : server.CleansUp conn reason) : (server.disconnect conn reason).Gone conn := by
  obtain ⟨self, found⟩ := Option.isSome_iff_exists.mp alive
  obtain ⟨oversized, single⟩ := cleans
  simp only [authenticated, found, Option.any_some, Bool.and_eq_true, beq_iff_eq] at oversized single
  obtain ⟨-, next, changed⟩ := disconnect_spec found reason
  split at changed
  · next misses =>
    have anonymous : self.is_authenticated = false := by
      rcases misses with large | out
      · exact oversized large
      · simpa using out
    refine ⟨by rw [next]; exact numbered, ?_, fun token member => ?_⟩
    · simp [authenticated, changed.1, found, anonymous]
    · rw [changed.2] at member
      have current := (single _ member rfl).1
      rw [anonymous] at current
      cases current
  · refine ⟨by rw [next]; exact numbered, ?_, fun token member => ?_⟩
    · simp [authenticated, changed.1, TcpSession.is_authenticated]
    · rw [changed.2] at member
      obtain ⟨kept, differ⟩ := List.mem_filter.mp member
      have current := (single _ (List.mem_of_mem_filter kept) rfl).2
      simp [current] at differ

theorem disconnect_keepsOthers {maker : UInt64 → Option ConnId} (routing : server.Routing maker)
    (reason : Exit) : server.KeepsOthers (server.disconnect conn reason) conn := by
  intro token other ne alive member
  cases found : server.live conn with
  | none =>
    unfold disconnect
    rwa [found]
  | some self =>
    obtain ⟨-, -, changed⟩ := disconnect_spec found reason
    split at changed
    · rwa [changed.2]
    · next cleans =>
      have authenticated : self.is_authenticated = true := by simpa using (not_or.mp cleans).2
      rw [changed.2]
      refine List.mem_filter.mpr ⟨List.mem_filter.mpr ⟨member, alive⟩, ?_⟩
      refine decide_eq_true fun own => ne ?_
      exact routing.own found authenticated (own ▸ member)

end Server

namespace Observed

variable {start state : Observed}

theorem routing_run (boot : start.Booted) (labels : List Label) :
    ∃ maker, (run step start labels).server.Routing maker := by
  induction labels using List.reverseRecOn with
  | nil => exact ⟨fun _ => none, routing_booted boot⟩
  | append_singleton labels label ih =>
    obtain ⟨maker, routing⟩ := ih
    rw [run_concat]
    exact ⟨_, routing_step routing⟩

theorem numbered_run (boot : start.Booted) (labels : List Label) :
    (run step start labels).server.Numbered := by
  induction labels using List.reverseRecOn with
  | nil => exact (tabled_booted boot).numbered
  | append_singleton labels label ih =>
    rw [run_concat]
    exact ih.step label

theorem gone_run {conn : ConnId} {labels : List Label} (gone : state.server.Gone conn)
    (silent : Along step (fun state label => state.server.logsIn label ≠ some conn) state labels) :
    (run step state labels).server.Gone conn := by
  induction labels generalizing state with
  | nil => exact gone
  | cons label rest ih => exact ih (gone.step silent.1) silent.2

/-- In every run, an exit that finds no stale entry leaves its connection offline for as long
as no login succeeds on it, and it removes no entry of a connection that is still alive. -/
theorem dropped_connection_offline (boot : start.Booted) (before later : List Label) {conn : ConnId}
    {reason : Exit} (alive : ((run step start before).server.live conn).isSome)
    (cleans : (run step start before).server.CleansUp conn reason)
    (silent : Along step (fun state label => state.server.logsIn label ≠ some conn)
      ((run step start before).step (.disconnect conn reason)) later) :
    (run step start (before ++ .disconnect conn reason :: later)).server.Offline conn ∧
      (run step start before).server.KeepsOthers
        ((run step start before).step (.disconnect conn reason)).server conn := by
  obtain ⟨maker, routing⟩ := routing_run boot before
  obtain ⟨self, found⟩ := Option.isSome_iff_exists.mp alive
  refine ⟨?_, Server.disconnect_keepsOthers routing reason⟩
  rw [run_append, run_cons]
  exact (gone_run (Server.disconnect_gone (numbered_run boot before _ _ found) alive cleans)
    silent).offline

/-- Alice's connection fails to write, and bob asks for the list. -/
theorem dropped_connection_offline_sample :
    (run step Sample.start ([.connect, Sample.login 0 "alice" 1, .connect, Sample.login 1 "bob" 2] ++
        .disconnect 0 .write :: [Sample.receive 1 .ONLINE_LIST_REQ [] {}])).server.Offline 0 ∧
      (run step Sample.start [.connect, Sample.login 0 "alice" 1, .connect,
          Sample.login 1 "bob" 2]).server.KeepsOthers
        ((run step Sample.start [.connect, Sample.login 0 "alice" 1, .connect,
          Sample.login 1 "bob" 2]).step (.disconnect 0 .write)).server 0 :=
  dropped_connection_offline Sample.booted _ _ (by decide) (by decide) (by decide)

/-- An oversized payload ends the reading, and alice stays logged in. -/
theorem oversized_payload_stays_online :
    ∃ start before later conn reason, start.Booted ∧
      ((run step start before).server.live conn).isSome ∧
      ¬ (run step start (before ++ .disconnect conn reason :: later)).server.Offline conn := by
  refine ⟨Sample.start, [.connect, Sample.login 0 "alice" 1], [], 0, .tooLarge, Sample.booted,
    by decide, fun offline => ?_⟩
  exact absurd offline.anonymous (by decide)

end Observed

end FileShareX.Net

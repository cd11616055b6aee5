import FileShareX.Net.Dialogue
import FileShareX.Net.Online

/-!
# How long a login lasts

A connection on which no second LOGIN_REQ comes stays what its login has made it, and in
the table of sessions, until it is dropped; from then on it is nobody's.
-/

namespace FileShareX.Net

open Wire Protocol Machine

namespace Server

variable {server : Server} {conn : ConnId} {user : TcpSession} {label : Label}
  {maker : UInt64 → Option ConnId}

/-- The connection is this user's, with an entry for the token, or it is nobody's. -/
def Seats (server : Server) (conn : ConnId) (user : TcpSession) : Prop :=
  conn < server.next_conn ∧
    (server.live conn = some user ∧ (user.token, conn) ∈ server.session_manager.sessions ∨
      server.authenticated conn = false)

theorem logsIn_eq_some (logs : server.logsIn label = some conn) :
    ∃ payload env, label = .receive conn MsgType.LOGIN_REQ.code payload env := by
  cases label with
  | receive other type payload env =>
    unfold logsIn at logs
    dsimp only at logs
    split at logs
    · next accepted =>
      cases logs
      exact ⟨payload, env, by rw [accepted.2.2.1]⟩
    · cases logs
  | _ => cases logs

theorem nobody_step (nobody : server.authenticated conn = false)
    (noLogin : ∀ payload env, label ≠ .receive conn MsgType.LOGIN_REQ.code payload env) :
    (server.step label).1.authenticated conn = false := by
  unfold authenticated at nobody ⊢
  cases after : (server.step label).1.live conn with
  | none => rfl
  | some self =>
    rw [Option.any_some, ← Bool.not_eq_true]
    intro authenticated
    rw [(step_fades noLogin self after authenticated).1, Option.any_some, authenticated] at nobody
    cases nobody

theorem Seats.step (seats : server.Seats conn user) (authenticated : user.is_authenticated = true)
    (routing : server.Routing maker)
    (noLogin : ∀ payload env, label ≠ .receive conn MsgType.LOGIN_REQ.code payload env) :
    (server.step label).1.Seats conn user := by
  obtain ⟨below, seated | nobody⟩ := seats
  · obtain ⟨alive, listed⟩ := seated
    have held : SessionManager.held server.live (user.token, conn) = true := by
      simp [SessionManager.held, alive]
    cases step_sessionStep server label with
    | kept live next sessions =>
      refine ⟨next ▸ below, .inl ⟨live ▸ alive, ?_⟩⟩
      rcases sessions with same | purged
      · rwa [same]
      · rw [purged]
        exact List.mem_filter.mpr ⟨listed, held⟩
    | connected live next sessions =>
      refine ⟨by rw [next]; exact Nat.lt_succ_of_lt below, .inl ⟨?_, by rwa [sessions]⟩⟩
      rw [live, Function.update_of_ne (Nat.ne_of_lt below)]
      exact alive
    | @loggedIn other _ token _ _ logs _ _ fresh _ live next sessions =>
      have ne : conn ≠ other := by
        rintro rfl
        obtain ⟨payload, env, same⟩ := logsIn_eq_some logs
        exact noLogin payload env same
      have still : (server.step label).1.live conn = some user := by
        rw [live, Function.update_of_ne ne]
        exact alive
      refine ⟨next ▸ below, .inl ⟨still, ?_⟩⟩
      -- the token of another login is a new one
      have differs : user.token ≠ token := by
        rintro rfl
        exact fresh (routing.issued alive authenticated)
      rw [sessions, List.mem_filter, SessionManager.add_session, List.mem_cons, List.mem_filter]
      exact ⟨.inr ⟨listed, by simpa using differs⟩, by simp [SessionManager.held, still]⟩
    | @dropped other self found theirs live next sessions =>
      refine ⟨next ▸ below, ?_⟩
      by_cases mine : conn = other
      · subst mine
        right
        rw [Server.authenticated, live, Function.update_self]
        rfl
      · left
        rw [live, Function.update_of_ne mine, sessions]
        refine ⟨alive, List.mem_filter.mpr ⟨List.mem_filter.mpr ⟨listed, held⟩, ?_⟩⟩
        refine decide_eq_true fun same => mine ?_
        exact routing.own found theirs (same ▸ listed)
    | @released other live next sessions =>
      refine ⟨next ▸ below, ?_⟩
      by_cases mine : conn = other
      · subst mine
        right
        rw [Server.authenticated, live, Function.update_self]
        rfl
      · left
        rw [live, Function.update_of_ne mine, sessions]
        exact ⟨alive, listed⟩
  · have next : server.next_conn ≤ (server.step label).1.next_conn :=
      Observed.next_conn_le ⟨server, {}⟩ label
    exact ⟨Nat.lt_of_lt_of_le below next, .inr (nobody_step nobody noLogin)⟩

end Server

/-! ### The messages that come in on one connection -/

def receives (conn : ConnId) : WiredMove → List (UInt8 × Bytes)
  | .serve (.receive peer type payload _) => if peer = conn then [(type, payload.bytes)] else []
  | _ => []

variable {conn : ConnId} {moves : List WiredMove} {start : Wired}

theorem undisturbed_iff : Undisturbed conn moves ↔ moves.flatMap (receives conn) = [] := by
  rw [List.flatMap_eq_nil_iff]
  refine forall₂_congr fun move _ => ⟨fun elsewhere => ?_, fun silent type payload env same => ?_⟩
  · cases move with
    | serve label =>
      cases label with
      | receive peer type payload env =>
        refine if_neg fun mine => elsewhere type payload env ?_
        rw [mine]
      | _ => rfl
    | written => rfl
  · rw [same, receives, if_pos rfl] at silent
    cases silent

theorem receives_one {type : UInt8} {bytes : Bytes}
    (one : moves.flatMap (receives conn) = [(type, bytes)]) :
    ∃ earlier payload env later, moves = earlier ++ .serve (.receive conn type payload env) :: later ∧
      payload.bytes = bytes ∧ Undisturbed conn earlier ∧ Undisturbed conn later := by
  induction moves with
  | nil => cases one
  | cons move rest ih =>
    rw [List.flatMap_cons] at one
    by_cases elsewhere : receives conn move = []
    · rw [elsewhere, List.nil_append] at one
      obtain ⟨earlier, payload, env, later, rfl, same, before, after⟩ := ih one
      refine ⟨move :: earlier, payload, env, later, rfl, same, ?_, after⟩
      rw [undisturbed_iff] at before ⊢
      rw [List.flatMap_cons, elsewhere, before, List.append_nil]
    · cases move with
      | serve label =>
        cases label with
        | receive peer type' payload env =>
          unfold receives at elsewhere one
          dsimp only at elsewhere one
          split at one
          · next mine =>
            subst mine
            rw [List.singleton_append, List.cons.injEq, Prod.mk.injEq] at one
            obtain ⟨⟨rfl, same⟩, silent⟩ := one
            exact ⟨[], payload, env, rest, rfl, same, by simp [Undisturbed], undisturbed_iff.mpr silent⟩
          · next other => exact absurd (if_neg other) elsewhere
        | _ => exact absurd rfl elsewhere
      | written => exact absurd rfl elsewhere

namespace Wired

variable {user : TcpSession}

theorem handed_silent {core : Observed} (boot : core.Booted) (silent : Undisturbed conn moves) :
    ((run step ⟨core, fun _ => {}⟩ moves).queues conn).handed = [] := by
  have routing := @Observed.routing_booted core (fun _ => none) boot
  have quiet := (@silent_run conn ⟨core, fun _ => {}⟩ _ moves routing
    (fun _ => Option.some_ne_none _ |>.symm) silent).1
  have order := (@run_phase conn [] ⟨core, fun _ => {}⟩ (.idle []) moves).inOrder.order
  rw [sentTo_eq, quiet] at order
  exact (List.append_eq_nil_iff.mp order).1

/-- A move that is no login of the connection leaves its user seated. -/
theorem seats_step (seats : start.core.server.Seats conn user)
    (authenticated : user.is_authenticated = true) {maker : UInt64 → Option ConnId}
    (routing : start.core.server.Routing maker) {move : WiredMove}
    (noLogin : ∀ message ∈ receives conn move, message.1 ≠ MsgType.LOGIN_REQ.code) :
    (start.step move).core.server.Seats conn user := by
  rcases start.step_core move with same | ⟨label, stepped, serves⟩
  · rwa [same]
  · rw [stepped]
    refine seats.step authenticated routing fun payload env login => ?_
    subst login
    rcases serves with rfl | ⟨other, reason, other'⟩
    · exact noLogin (MsgType.LOGIN_REQ.code, payload.bytes) (by simp [receives]) rfl
    · cases other'

theorem seats_run (seats : start.core.server.Seats conn user)
    (authenticated : user.is_authenticated = true) {maker : UInt64 → Option ConnId}
    (routing : start.core.server.Routing maker) (undisturbed : Undisturbed conn moves) :
    (run step start moves).core.server.Seats conn user := by
  induction moves generalizing start maker with
  | nil => exact seats
  | cons move rest ih =>
    rw [undisturbed_iff, List.flatMap_cons, List.append_eq_nil_iff] at undisturbed
    obtain ⟨silent, later⟩ := undisturbed
    have still : (start.step move).core.server.Seats conn user :=
      seats_step seats authenticated routing (by simp [silent])
    rcases start.step_core move with same | ⟨label, stepped, -⟩
    · exact ih still (same ▸ routing) (undisturbed_iff.mpr later)
    · exact ih still (stepped ▸ Observed.routing_step routing) (undisturbed_iff.mpr later)

end Wired

end FileShareX.Net

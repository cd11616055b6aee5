import FileShareX.Foundation.Transition
import FileShareX.Gateway.Exchange

/-!
# The gateway's sessions

`user_session.py`.  No method of the manager waits for anything while it holds the
lock, and a ping loop waits only in its `sleep`, so that each call and each turn of a
ping loop is one step.
-/

namespace FileShareX.Gateway

open Wire Machine

/-- A session and the state of its ping task.  `requested` is the name that it was created
for, which the object itself does not keep. -/
structure UserSession where
  requested : String
  username : String
  token : String
  user_id : Nat
  sock : Nat
  connected : Bool := true
  pinging : Bool := true

/-- The dictionary holds references to session objects; sockets are numbered in the order in
which they were opened. -/
structure UserSessionManager where
  sessions : String → Option Nat := fun _ => none
  objects : List UserSession := []
  opened : Nat := 0
  closed : List Nat := []

namespace UserSessionManager

/-- `self.sessions[username] = session`, or `del self.sessions[username]`. -/
def setSession (manager : UserSessionManager) (username : String) (entry : Option Nat) :
    UserSessionManager :=
  { manager with sessions := fun name => if name = username then entry else manager.sessions name }

def setObject (manager : UserSessionManager) (id : Nat) (session : UserSession) :
    UserSessionManager :=
  { manager with objects := manager.objects.set id session }

def close (manager : UserSessionManager) (sock : Nat) : UserSessionManager :=
  { manager with closed := sock :: manager.closed }

/-- `create_session` from its `try` on.  Without a socket there is nothing to close. -/
def establish (manager : UserSessionManager) (username password : String) (connection : Connection)
    (delivery : Delivery) : UserSessionManager × Option Nat :=
  match connection.socket with
  | .error _ => (manager, none)
  | .ok () =>
    let sock := manager.opened
    let manager := { manager with opened := sock + 1 }
    match session_login connection delivery username password with
    | .error _ => (manager.close sock, none)
    | .ok result =>
      if result.ok then
        let id := manager.objects.length
        let session : UserSession :=
          { requested := username, username := result.username, token := result.token
            user_id := result.user_id, sock }
        ({ manager with objects := manager.objects ++ [session] }.setSession username (some id),
          some id)
      else (manager.close sock, none)

def create_session (manager : UserSessionManager) (username password : String)
    (connection : Connection) (delivery : Delivery) : UserSessionManager × Option Nat :=
  match manager.sessions username with
  | none => manager.establish username password connection delivery
  | some id =>
    match manager.objects[id]? with
    | none => (manager, none)
    | some session =>
      if session.connected then (manager, some id)
      else (manager.setSession username none).establish username password connection delivery

/-- `UserSession.close` cancels the ping task in its `sleep`. -/
def closeSession (manager : UserSessionManager) (id : Nat) (session : UserSession) :
    UserSessionManager :=
  (manager.setObject id { session with connected := false, pinging := false }).close session.sock

def remove_session (manager : UserSessionManager) (username : String) : UserSessionManager :=
  match manager.sessions username with
  | none => manager
  | some id =>
    match manager.objects[id]? with
    | none => manager
    | some session =>
      let manager := if session.connected then manager.close session.sock else manager
      (manager.closeSession id session).setSession username none

/-- One turn of a ping loop, from the end of its `sleep` to the next. -/
def ping_loop (manager : UserSessionManager) (id : Nat) (sendall : Bytes → Py Unit) :
    UserSessionManager :=
  match manager.objects[id]? with
  | none => manager
  | some session =>
    if !session.pinging then manager
    else if !session.connected then manager.setObject id { session with pinging := false }
    else
      let ping_payload := utf8 "ping"
      match make_header MSG_TYPE_PING ping_payload.length >>= fun header =>
        sendall (header ++ ping_payload) with
      | .ok () => manager
      | .error _ => manager.setObject id { session with connected := false, pinging := false }

end UserSessionManager

inductive SessionEvent where
  | create_session (username password : String) (connection : Connection) (delivery : Delivery)
  | remove_session (username : String)
  | ping (id : Nat) (sendall : Bytes → Py Unit)

namespace UserSessionManager

def step (manager : UserSessionManager) : SessionEvent → UserSessionManager
  | .create_session username password connection delivery =>
    (manager.create_session username password connection delivery).1
  | .remove_session username => manager.remove_session username
  | .ping id sendall => manager.ping_loop id sendall

def Dead (manager : UserSessionManager) (username : String) : Prop :=
  ∃ id session, manager.sessions username = some id ∧ manager.objects[id]? = some session ∧
    session.connected = false

def Opens (manager : UserSessionManager) (username : String) : Prop :=
  manager.sessions username = none ∨ manager.Dead username

/-- A session that is found connected is returned as it is; otherwise the login decides. -/
theorem create_session_cases (manager : UserSessionManager) (username : String) :
    (manager.sessions username = none ∧ ∀ password connection delivery,
      manager.create_session username password connection delivery =
        manager.establish username password connection delivery) ∨
    (manager.Dead username ∧ ∀ password connection delivery,
      manager.create_session username password connection delivery =
        (manager.setSession username none).establish username password connection delivery) ∨
    ¬ manager.Opens username ∧ ∃ answer, ∀ password connection delivery,
      manager.create_session username password connection delivery = (manager, answer) := by
  unfold create_session
  cases entry : manager.sessions username with
  | none => exact .inl ⟨rfl, fun _ _ _ => rfl⟩
  | some id =>
    dsimp only
    cases object : manager.objects[id]? with
    | none =>
      refine .inr (.inr ⟨?_, none, fun _ _ _ => rfl⟩)
      rintro (absent | ⟨other, session, found, held, -⟩)
      · exact nomatch entry.symm.trans absent
      · cases entry.symm.trans found
        exact nomatch object.symm.trans held
    | some session =>
      dsimp only
      cases connected : session.connected with
      | true =>
        refine .inr (.inr ⟨?_, some id, fun _ _ _ => rfl⟩)
        rintro (absent | ⟨other, session', found, held, disconnected⟩)
        · exact nomatch entry.symm.trans absent
        · cases entry.symm.trans found
          cases object.symm.trans held
          exact nomatch connected.symm.trans disconnected
      | false => exact .inr (.inl ⟨⟨id, session, entry, object, connected⟩, fun _ _ _ => rfl⟩)

end UserSessionManager

end FileShareX.Gateway

import FileShareX.Foundation.BigEndian

/-!
# The table of sessions

`session_manager.cpp`.  The table maps tokens to weak pointers: a connection
number that is no longer live stands for an expired one.
-/

namespace FileShareX.Net

open Wire

abbrev ConnId := Nat

/-- The authentication state of a connection; no token means not authenticated. -/
structure TcpSession where
  token : Bytes := []
  user_id : Int64 := 0
  username : Bytes := []
  deriving DecidableEq

namespace TcpSession

def is_authenticated (session : TcpSession) : Bool := !session.token.isEmpty

def set_auth (_ : TcpSession) (token : Bytes) (user_id : Int64) (username : Bytes) : TcpSession :=
  { token, user_id, username }

def clear_auth (_ : TcpSession) : TcpSession := {}

end TcpSession

/-- The connections whose `TcpSession` object is still alive. -/
abbrev Live := ConnId → Option TcpSession

structure SessionManager where
  sessions : List (Bytes × ConnId) := []

namespace SessionManager

/-- `sessions_[token] = session`. -/
def add_session (manager : SessionManager) (token : Bytes) (session : ConnId) : SessionManager where
  sessions := (token, session) :: manager.sessions.filter fun entry => entry.1 ≠ token

def remove_session (manager : SessionManager) (token : Bytes) : SessionManager where
  sessions := manager.sessions.filter fun entry => entry.1 ≠ token

/-- The loop of `get_online_usernames`: an expired entry is erased on the way. -/
def usernamesLoop (live : Live) : List (Bytes × ConnId) → List Bytes → List (Bytes × ConnId) × List Bytes
  | [], usernames => ([], usernames)
  | (token, conn) :: rest, usernames =>
    match live conn with
    | some session =>
      let (kept, usernames) := usernamesLoop live rest
        (if session.is_authenticated then usernames ++ [session.username] else usernames)
      ((token, conn) :: kept, usernames)
    | none => usernamesLoop live rest usernames

def get_online_usernames (manager : SessionManager) (live : Live) : SessionManager × List Bytes :=
  let (kept, usernames) := usernamesLoop live manager.sessions []
  (⟨kept⟩, usernames)

/-- The loop of `count`. -/
def countLoop (live : Live) : List (Bytes × ConnId) → Nat → List (Bytes × ConnId) × Nat
  | [], cnt => ([], cnt)
  | (token, conn) :: rest, cnt =>
    match live conn with
    | some session =>
      let (kept, cnt) := countLoop live rest (if session.is_authenticated then cnt + 1 else cnt)
      ((token, conn) :: kept, cnt)
    | none => countLoop live rest cnt

def count (manager : SessionManager) (live : Live) : SessionManager × Nat :=
  let (kept, cnt) := countLoop live manager.sessions 0
  (⟨kept⟩, cnt)

/-- Null when there is no entry, or when its session has expired. -/
def get_session (manager : SessionManager) (live : Live) (token : Bytes) : Option ConnId :=
  match manager.sessions.lookup token with
  | some conn => if (live conn).isSome then some conn else none
  | none => none

end SessionManager

end FileShareX.Net

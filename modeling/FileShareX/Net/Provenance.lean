import FileShareX.Net.Accounts
import FileShareX.Net.Parties
import FileShareX.Net.Registry

/-!
# What each step is due to

A session comes from a login whose password has been verified, and everything in the
records of the transfers from a request on the connection of the party it takes.
-/

namespace FileShareX.Net

open Wire Posix Protocol Storage Transfer Machine

namespace Server

/-- The LOGIN_REQ presents the password of an account, and the session is what it is answered
with. -/
structure LogsIn (server : Server) (user : TcpSession) (conn : ConnId) (payload : Vec) (env : Env)
    (req : LoginReq) (row : UserRow) : Prop where
  parsed : LoginReq.deserialize.result payload = .ok req
  account : row ∈ server.db.users
  named : row.username = cString req.username
  verified : env.auth.verify_password_pbkdf2 req.password row.pass_hash = .ok true
  fresh : user.token ∉ server.db.tokens
  session : user = ⟨user.token, row.id, row.username⟩
  answered : (server.step (.receive conn MsgType.LOGIN_REQ.code payload env)).2 =
    [.sent conn (.loginResp { ok := true, token := user.token, user_id := row.id
                              username := row.username, msg := ascii "login successful" })]

variable {server : Server} {conn : ConnId} {self before : TcpSession} {payload : Vec} {env : Env}

theorem handle_login_req_logsIn
    (now : (server.handle_login_req conn before payload env).1.live conn = some self)
    (was : server.live conn ≠ some self) :
    ∃ req row, LoginReq.deserialize.result payload = .ok req ∧ row ∈ server.db.users ∧
      row.username = cString req.username ∧
      env.auth.verify_password_pbkdf2 req.password row.pass_hash = .ok true ∧
      self.token ∉ server.db.tokens ∧ self = ⟨self.token, row.id, row.username⟩ ∧
      (server.handle_login_req conn before payload env).2 =
        [.sent conn (.loginResp { ok := true, token := self.token, user_id := row.id
                                  username := row.username, msg := ascii "login successful" })] := by
  unfold handle_login_req at now ⊢
  dsimp only at now ⊢
  split at now
  · exact absurd now was
  · next db resp handled =>
    obtain ⟨req, parsed, handled⟩ := Reader.bind_eq_ok.mp handled
    split at now
    · next ok =>
      obtain ⟨row, member, named, verified, answer⟩ := AuthHandler.handle_login_verified handled ok
      have tokens := AuthHandler.handle_login_tokens handled
      rw [if_pos ok] at tokens
      dsimp only at now
      rw [Function.update_self, Option.some.injEq] at now
      subst now
      rw [answer] at tokens ⊢
      exact ⟨req, row, parsed, member, named, verified, tokens.2.1, rfl, by rw [if_pos rfl]; rfl⟩
    · exact absurd now was

theorem step_logsIn {label : Label} (was : server.live conn ≠ some self)
    (now : (server.step label).1.live conn = some self) (authenticated : self.is_authenticated = true) :
    ∃ payload env req row, label = .receive conn MsgType.LOGIN_REQ.code payload env ∧
      server.LogsIn self conn payload env req row := by
  by_cases login : ∃ payload env, label = .receive conn MsgType.LOGIN_REQ.code payload env
  · obtain ⟨payload, env, rfl⟩ := login
    have stepped : server.step (.receive conn MsgType.LOGIN_REQ.code payload env) = (server, []) ∨
        ∃ before, server.step (.receive conn MsgType.LOGIN_REQ.code payload env) =
          server.handle_login_req conn before payload env := by
      unfold step
      dsimp only
      split
      · exact .inl rfl
      · next before alive =>
        split
        · exact .inr ⟨before, rfl⟩
        · exact .inl rfl
    rcases stepped with same | ⟨before, stepped⟩
    · rw [same] at now
      exact absurd now was
    · rw [stepped] at now
      obtain ⟨req, row, parsed, account, named, verified, fresh, session, answered⟩ :=
        handle_login_req_logsIn now was
      exact ⟨payload, env, req, row, rfl, parsed, account, named, verified, fresh, session,
        by rw [stepped, answered]⟩
  · have fades := @step_fades server label conn fun payload env same => login ⟨payload, env, same⟩
    exact absurd (fades self now authenticated).1 was

end Server

namespace Request

/-- The party that a request of this kind is reserved for, if the transfer is there. -/
def ActsFor (user_id : Int64) : Request → Prop
  | .offer .. => True
  | .accept _ session => session.receiver_user_id = user_id
  | .chunk _ session => session.sender_user_id = user_id
  | .done _ session => session.sender_user_id = user_id

/-- The request is about the transfer, and from the party its kind is reserved for; an offer is
the transfer's own. -/
def Concerns (id : UInt64) (session : TransferSession) (user : TcpSession) : Request → Prop
  | .offer req receiver =>
    (session.sender_user_id = user.user_id ∧ session.sender_username = user.username ∧
      session.sender_token = user.token) ∧
    (session.receiver_user_id = receiver.id ∧ session.receiver_username = receiver.username) ∧
    session.filename = req.filename ∧ session.file_size = req.file_size
  | .accept req _ => req.transfer_id = id ∧ session.receiver_user_id = user.user_id
  | .chunk message _ => message.transfer_id = id ∧ session.sender_user_id = user.user_id
  | .done message _ => message.transfer_id = id ∧ session.sender_user_id = user.user_id

def offers : Request → Bool
  | .offer .. => true
  | _ => false

def accepts : Request → Bool
  | .accept req _ => req.accept
  | _ => false

def brings : Request → Option (UInt32 × Bytes)
  | .chunk message _ => some (message.chunk_index, message.data)
  | _ => none

def ends : Request → Bool
  | .done .. => true
  | _ => false

end Request

namespace Observed

structure AskedBy (state : Observed) (label : Label) (conn : ConnId) (user : TcpSession)
    (request : Request) : Prop where
  asked : state.asks label = some request
  live : state.server.live conn = some user
  authenticated : user.is_authenticated = true
  sent : ∃ payload env, label = .receive conn request.type.code payload env ∧
    request.DecodedFrom payload
  party : request.ActsFor user.user_id

variable {state : Observed} {label : Label} {id : UInt64} {session record : TransferSession}

theorem asks_askedBy {request : Request} (asked : state.asks label = some request) :
    ∃ conn self result, state.AskedBy label conn self request ∧
      state.server.Effect conn self label.env request result ∧
      state.step label = ⟨result.1, state.ledger.recordAll result.2⟩ := by
  obtain ⟨conn, self, result, ⟨live, sent⟩, effect, -, stepped⟩ := step_effect asked
  have party : self.is_authenticated = true ∧ request.ActsFor self.user_id := by
    cases effect with
    | offered authenticated => exact ⟨authenticated, trivial⟩
    | openFailed authenticated _ party => exact ⟨authenticated, party⟩
    | opened authenticated _ party => exact ⟨authenticated, party⟩
    | rejected authenticated _ party => exact ⟨authenticated, party⟩
    | writeFailed authenticated _ party => exact ⟨authenticated, party⟩
    | received authenticated _ party => exact ⟨authenticated, party⟩
    | strayed authenticated _ party => exact ⟨authenticated, party⟩
    | finalizeFailed authenticated _ party => exact ⟨authenticated, party⟩
    | finalized authenticated _ party => exact ⟨authenticated, party⟩
  exact ⟨conn, self, result, ⟨asked, live, party.1, sent, party.2⟩, effect, stepped⟩

inductive Progress : Request → TransferSession → TransferSession → Prop
  | accepted {req old} (file_handle : Ptr) (accept : req.accept = true) :
      Progress (.accept req old) old { old with state := .ACCEPTED, file_handle := some file_handle }
  | received {message old} : Progress (.chunk message old) old (old.advance message.data.length)
  | strayed {message old} : Progress (.chunk message old) old old
  | completed {done old} (opened : old.file_handle ≠ none) :
      Progress (.done done old) old { old with state := .COMPLETED }
  | failed {request old} : Progress request old { old with state := .FAILED }

theorem Progress.sameOffer {request : Request} (progress : Progress request record session) :
    SameOffer record session := by
  cases progress <;> exact .of_progress rfl

/-- A record is there before a step as it is after it, or is due to the step's request. -/
theorem step_due (found : (state.step label).server.transfers.transfers id = some session) :
    state.server.transfers.transfers id = some session ∨
    (∃ conn self req receiver, state.AskedBy label conn self (.offer req receiver) ∧
      id = state.nextId ∧ session = state.server.offered self req receiver ∧
      (state.step label).ledger.chunks id = []) ∨
    ∃ conn self request old, state.AskedBy label conn self request ∧ request.about = some id ∧
      state.server.transfers.transfers id = some old ∧ Progress request old session := by
  cases asked : state.asks label with
  | none =>
    rw [(step_same asked).1.transfers] at found
    exact .inl found
  | some request =>
    obtain ⟨conn, self, result, by_, effect, stepped⟩ := asks_askedBy asked
    rw [stepped] at found ⊢
    have due {about : UInt64} {old new : TransferSession} (names : request.about = some about)
        (was : state.server.transfers.transfers about = some old)
        (found : (state.server.transfers.put about new).transfers id = some session)
        (progress : Progress request old new) :
        state.server.transfers.transfers id = some session ∨
          ∃ conn self request old, state.AskedBy label conn self request ∧
            request.about = some id ∧ state.server.transfers.transfers id = some old ∧
            Progress request old session := by
      rcases TransferManager.put_found found with ⟨rfl, rfl⟩ | ⟨-, old⟩
      · exact .inr ⟨conn, self, request, old, by_, names, was, progress⟩
      · exact .inl old
    cases effect with
    | @offered req receiver =>
      rcases TransferManager.put_found found with ⟨rfl, rfl⟩ | ⟨-, old⟩
      · exact .inr (.inl ⟨conn, self, req, receiver, by_, rfl, rfl, by simp [Ledger.record]⟩)
      · exact .inl old
    | openFailed _ was => exact (due rfl was found .failed).imp_right .inr
    | opened _ was _ accept => exact (due rfl was found (.accepted _ accept)).imp_right .inr
    | rejected _ was => exact (due rfl was found .failed).imp_right .inr
    | writeFailed _ was => exact (due rfl was found .failed).imp_right .inr
    | received _ was => exact (due rfl was found .received).imp_right .inr
    | strayed _ was => exact (due rfl was found .strayed).imp_right .inr
    | finalizeFailed _ was => exact (due rfl was found .failed).imp_right .inr
    | @finalized done record _ _ was _ called =>
      refine (due rfl was found (.completed fun closed => ?_)).imp_right .inr
      rw [closed] at called
      cases called

theorem step_chunks {entry : UInt32 × Bytes} (taken : entry ∈ (state.step label).ledger.chunks id) :
    entry ∈ state.ledger.chunks id ∨
      ∃ conn self message record, state.AskedBy label conn self (.chunk message record) ∧
        message.transfer_id = id ∧ entry = (message.chunk_index, message.data) ∧
        state.server.transfers.transfers id = some record := by
  cases asked : state.asks label with
  | none =>
    rw [(step_same asked).1.ledger] at taken
    exact .inl taken
  | some request =>
    obtain ⟨conn, self, result, by_, effect, stepped⟩ := asks_askedBy asked
    rw [stepped] at taken
    cases effect with
    | offered =>
      by_cases new : id = state.nextId
      · subst new
        simp [Ledger.record] at taken
      · exact .inl (by simpa [Ledger.record, Function.update_of_ne new] using taken)
    | @received message record _ _ _ found =>
      by_cases mine : id = message.transfer_id
      · subst mine
        simp only [Ledger.recordAll_cons, Ledger.record, Ledger.recordAll_nil, Function.update_self,
          List.mem_append, List.mem_singleton] at taken
        exact taken.imp_right fun same => ⟨conn, self, message, record, by_, rfl, same, found⟩
      · exact .inl (by simpa [Ledger.record, Function.update_of_ne mine] using taken)
    | opened => exact .inl (by simpa [Ledger.record] using taken)
    | rejected => exact .inl (by simpa using taken)
    | openFailed => exact .inl taken
    | writeFailed => exact .inl taken
    | strayed => exact .inl taken
    | finalizeFailed => exact .inl taken
    | finalized => exact .inl taken

/-! ### What the table can say of a transfer -/

def Offered (id : UInt64) (session : TransferSession) (state : Observed) : Prop :=
  ∃ record, state.server.transfers.transfers id = some record ∧ SameOffer record session

/-- The receiver has accepted the offer, and a stream was opened for it. -/
def Accepted (id : UInt64) (session : TransferSession) (state : Observed) : Prop :=
  ∃ record, state.server.transfers.transfers id = some record ∧ SameOffer record session ∧
    record.file_handle ≠ none

def Taken (id : UInt64) (session : TransferSession) (entry : UInt32 × Bytes) (state : Observed) :
    Prop :=
  state.Offered id session ∧ entry ∈ state.ledger.chunks id

def Completed (id : UInt64) (session : TransferSession) (state : Observed) : Prop :=
  ∃ record, state.server.transfers.transfers id = some record ∧ SameOffer record session ∧
    record.state = .COMPLETED

/-- A request of this kind for the transfer, over a connection of the party it takes. -/
def Due (state : Observed) (label : Label) (id : UInt64) (session : TransferSession)
    (kind : Request → Prop) : Prop :=
  ∃ conn user request, state.AskedBy label conn user request ∧ request.Concerns id session user ∧
    kind request

theorem offered_due (was : ¬state.Offered id session) (now : (state.step label).Offered id session) :
    state.Due label id session (·.offers) := by
  obtain ⟨record, found, same⟩ := now
  rcases step_due found with old | ⟨conn, self, req, receiver, by_, -, rfl, -⟩ |
    ⟨-, -, request, old, -, -, found', progress⟩
  · exact absurd ⟨record, old, same⟩ was
  · exact ⟨conn, self, _, by_, ⟨⟨same.sender_user_id, same.sender_username, same.sender_token⟩,
      ⟨same.receiver_user_id, same.receiver_username⟩, same.filename, same.file_size⟩, rfl⟩
  · exact absurd ⟨old, found', progress.sameOffer.trans same⟩ was

theorem accepted_due (was : ¬state.Accepted id session)
    (now : (state.step label).Accepted id session) :
    state.Due label id session (·.accepts) := by
  obtain ⟨record, found, same, opened⟩ := now
  rcases step_due found with old | ⟨_, self, req, receiver, -, -, rfl, -⟩ |
    ⟨conn, self, request, old, by_, about, found', progress⟩
  · exact absurd ⟨record, old, same, opened⟩ was
  · exact absurd rfl opened
  · have before (kept : record.file_handle = old.file_handle) : state.Accepted id session :=
      ⟨old, found', progress.sameOffer.trans same, kept ▸ opened⟩
    cases progress with
    | accepted file_handle accept =>
      exact ⟨conn, self, _, by_, ⟨Option.some.inj about, same.receiver_user_id.trans by_.party⟩, accept⟩
    | received => exact absurd (before rfl) was
    | strayed => exact absurd (before rfl) was
    | completed => exact absurd (before rfl) was
    | failed => exact absurd (before rfl) was

theorem taken_due {entry : UInt32 × Bytes} (was : ¬state.Taken id session entry)
    (now : (state.step label).Taken id session entry) :
    state.Due label id session (·.brings = some entry) := by
  obtain ⟨⟨record, found, same⟩, taken⟩ := now
  -- the offer itself leaves no chunk
  have offered : ∃ old, state.server.transfers.transfers id = some old ∧ SameOffer old session := by
    rcases step_due found with old | ⟨-, -, -, -, -, -, -, none⟩ |
      ⟨-, -, request, old, -, -, found', progress⟩
    · exact ⟨record, old, same⟩
    · rw [none] at taken
      cases taken
    · exact ⟨old, found', progress.sameOffer.trans same⟩
  obtain ⟨old, found', same'⟩ := offered
  rcases step_chunks taken with before | ⟨conn, self, message, record, by_, about, rfl, here⟩
  · exact absurd ⟨⟨old, found', same'⟩, before⟩ was
  · rw [found'] at here
    cases here
    exact ⟨conn, self, _, by_, ⟨about, same'.sender_user_id.trans by_.party⟩, rfl⟩

theorem completed_due (was : ¬state.Completed id session)
    (now : (state.step label).Completed id session) : state.Due label id session (·.ends) := by
  obtain ⟨record, found, same, completed⟩ := now
  rcases step_due found with old | ⟨_, self, req, receiver, -, -, rfl, -⟩ |
    ⟨conn, self, request, old, by_, about, found', progress⟩
  · exact absurd ⟨record, old, same, completed⟩ was
  · cases completed
  · have before (done : old.state = .COMPLETED) : state.Completed id session :=
      ⟨old, found', progress.sameOffer.trans same, done⟩
    cases progress with
    | accepted => cases completed
    | received =>
      unfold TransferSession.advance at completed
      dsimp only at completed
      split at completed
      · cases completed
      · exact absurd (before completed) was
    | strayed => exact absurd (before completed) was
    | completed =>
      exact ⟨conn, self, _, by_, ⟨Option.some.inj about, same.sender_user_id.trans by_.party⟩, rfl⟩
    | failed => cases completed

/-- A transfer gets on only once it has a stream. -/
def NeedsStream (state : Observed) : Prop :=
  ∀ id session, state.server.transfers.transfers id = some session →
    session.state ∈ [.ACCEPTED, .RECEIVING, .COMPLETED] → session.file_handle ≠ none

theorem needsStream_step (needs : state.NeedsStream) : (state.step label).NeedsStream := by
  intro id session found further
  rcases step_due found with old | ⟨_, self, req, receiver, -, -, rfl, -⟩ |
    ⟨_, _, request, old, by_, -, found', progress⟩
  · exact needs id session old further
  · simp [Server.offered] at further
  · cases progress with
    | accepted => simp
    | @received message =>
      obtain ⟨conn, self, result, -, effect, -⟩ := asks_askedBy by_.asked
      have running : old.state = .ACCEPTED ∨ old.state = .RECEIVING := by
        cases effect <;> assumption
      exact needs id old found' (by rcases running with state | state <;> simp [state])
    | strayed => exact needs id _ found' further
    | completed opened => exact opened
    | failed => simp at further

end Observed

end FileShareX.Net

import FileShareX.Net.Offline

/-!
# Whom an accept notifies

The token in a transfer names the login under which the offer was made.  The
table may still lead from it to a connection that has logged in again since, as
somebody else.
-/

namespace FileShareX.Net

open Wire Protocol Transfer Machine

namespace Server

/-- A token belongs to one connection, and a transfer carries the token and the user
of one login. -/
structure Vouched (server : Server) : Prop where
  distinct : ∀ {conn self other self'}, server.live conn = some self →
    self.is_authenticated = true → server.live other = some self' →
    self'.is_authenticated = true → self.token = self'.token → conn = other
  sender : ∀ {id session conn self}, server.transfers.transfers id = some session →
    server.live conn = some self → self.is_authenticated = true →
    self.token = session.sender_token → self.user_id = session.sender_user_id
  signed : ∀ {id session}, server.transfers.transfers id = some session → session.sender_token ≠ []

variable {server : Server} {label : Label} {conn : ConnId} {self : TcpSession}

theorem authentication_step (alive : (server.step label).1.live conn = some self)
    (authenticated : self.is_authenticated = true) :
    server.live conn = some self ∨ (server.logsIn label = some conn ∧ self.token ∉ server.db.tokens) := by
  cases step_sessionStep server label with
  | kept live =>
    rw [live] at alive
    exact .inl alive
  | connected live =>
    rw [live] at alive
    by_cases new : conn = server.next_conn
    · rw [new, Function.update_self] at alive
      cases alive
      cases authenticated
    · rw [Function.update_of_ne new] at alive
      exact .inl alive
  | @loggedIn other _ _ _ _ logs _ _ fresh _ live =>
    rw [live] at alive
    by_cases same : conn = other
    · rw [same, Function.update_self] at alive
      cases alive
      exact .inr ⟨same ▸ logs, fresh⟩
    · rw [Function.update_of_ne same] at alive
      exact .inl alive
  | @dropped other _ _ _ live =>
    rw [live] at alive
    by_cases same : conn = other
    · rw [same, Function.update_self] at alive
      cases alive
      cases authenticated
    · rw [Function.update_of_ne same] at alive
      exact .inl alive
  | @released other live =>
    rw [live] at alive
    by_cases same : conn = other
    · rw [same, Function.update_self] at alive
      cases alive
    · rw [Function.update_of_ne same] at alive
      exact .inl alive

end Server

namespace Observed

variable {start state : Observed} {label : Label}

/-- A record keeps its sender; a new one is signed by a connection that is logged in. -/
theorem sender_step {id : UInt64} {session : TransferSession}
    (found : (state.step label).server.transfers.transfers id = some session) :
    (∃ old, state.server.transfers.transfers id = some old ∧
      session.sender_token = old.sender_token ∧ session.sender_user_id = old.sender_user_id) ∨
    ∃ conn self, state.server.live conn = some self ∧ self.is_authenticated = true ∧
      session.sender_token = self.token ∧ session.sender_user_id = self.user_id := by
  rcases record_step found with ⟨old, before, kept⟩ | ⟨conn, self, _, _, alive, login, -, rfl⟩
  · exact .inl ⟨old, before, by rw [kept], by rw [kept]⟩
  · exact .inr ⟨conn, self, alive, login, rfl, rfl⟩

theorem vouched_step {maker : UInt64 → Option ConnId} (routing : state.server.Routing maker)
    (vouched : state.server.Vouched) : (state.step label).server.Vouched where
  distinct alive authenticated alive' authenticated' same := by
    rcases Server.authentication_step alive authenticated with old | ⟨logs, fresh⟩
    · rcases Server.authentication_step alive' authenticated' with old' | ⟨-, fresh'⟩
      · exact vouched.distinct old authenticated old' authenticated' same
      · exact absurd (same ▸ routing.issued old authenticated) fresh'
    · rcases Server.authentication_step alive' authenticated' with old' | ⟨logs', -⟩
      · exact absurd (same ▸ routing.issued old' authenticated') fresh
      · exact Option.some.inj (logs.symm.trans logs')
  sender found alive authenticated same := by
    rcases sender_step found with ⟨old, before, token, user⟩ | ⟨conn, self, before, login, token, user⟩
    · rcases Server.authentication_step alive authenticated with known | ⟨-, fresh⟩
      · rw [user]
        exact vouched.sender before known authenticated (same.trans token)
      · rw [same, token] at fresh
        exact absurd (routing.recorded before) fresh
    · rcases Server.authentication_step alive authenticated with known | ⟨-, fresh⟩
      · cases vouched.distinct known authenticated before login (same.trans token)
        cases known.symm.trans before
        exact user.symm
      · rw [same, token] at fresh
        exact absurd (routing.issued before login) fresh
  signed found := by
    rcases sender_step found with ⟨old, before, token, -⟩ | ⟨conn, self, -, login, token, -⟩
    · rw [token]
      exact vouched.signed before
    · rw [token]
      simpa [TcpSession.is_authenticated] using login

theorem vouched_booted (boot : state.Booted) : state.server.Vouched := by
  obtain ⟨-, transfers, -, live, -⟩ := boot.fresh
  refine ⟨fun alive => ?_, fun found => ?_, fun found => ?_⟩
  · rw [live] at alive
    cases alive
  · rw [transfers] at found
    cases found
  · rw [transfers] at found
    cases found

theorem vouched_run (boot : start.Booted) (labels : List Label) :
    (run step start labels).server.Vouched := by
  induction labels using List.reverseRecOn with
  | nil => exact vouched_booted boot
  | append_singleton labels label ih =>
    obtain ⟨maker, routing⟩ := routing_run boot labels
    rw [run_concat]
    exact vouched_step routing ih

/-- The step answers an accept or a reject of the transfer, and sends a
FILE_ACCEPT_RESP to the connection found by the sender's token. -/
def Notifies (state : Observed) (label : Label) (session : TransferSession) (peer : ConnId) : Prop :=
  (∃ req, state.asks label = some (.accept req session)) ∧
    state.server.session_manager.get_session state.server.live session.sender_token = some peer ∧
    ∃ resp, .sent peer (.fileAcceptResp resp) ∈ state.events label

/-- The connection found by the sender's token has had no other token since the offer. -/
def SenderCurrent (state : Observed) : Request → Prop
  | .accept _ session =>
    ∀ peer ∈ state.server.session_manager.get_session state.server.live session.sender_token,
      (state.server.live peer).any fun self => self.token == session.sender_token
  | _ => True

instance (state : Observed) (request : Request) : Decidable (state.SenderCurrent request) := by
  unfold SenderCurrent
  split <;> infer_instance

/-- In every run, an accept or a reject notifies a connection that is logged in as the sender,
unless that connection has logged in again since the offer. -/
theorem notifications_reach_owner (boot : start.Booted) (labels : List Label) {label : Label}
    (current : ∀ request ∈ (run step start labels).asks label,
      (run step start labels).SenderCurrent request)
    {session : TransferSession} {peer : ConnId}
    (notifies : (run step start labels).Notifies label session peer) :
    ∃ self, (run step start labels).server.live peer = some self ∧ self.is_authenticated = true ∧
      self.user_id = session.sender_user_id := by
  obtain ⟨⟨req, asked⟩, reached, -⟩ := notifies
  have vouched := vouched_run boot labels
  have found : (run step start labels).server.transfers.transfers req.transfer_id = some session := by
    obtain ⟨_, _, _, -, effect, -⟩ := step_effect asked
    exact effect.accept_found
  have same := current _ asked peer reached
  cases alive : (run step start labels).server.live peer with
  | none =>
    rw [alive] at same
    cases same
  | some self =>
    rw [alive, Option.any_some, beq_iff_eq] at same
    have authenticated : self.is_authenticated = true := by
      simpa [TcpSession.is_authenticated, same] using vouched.signed found
    exact ⟨self, rfl, authenticated, vouched.sender found alive authenticated same⟩

end Observed

namespace Sample

def offered : TransferSession where
  transfer_id := 1
  sender_user_id := 1
  sender_username := ascii "alice"
  sender_token := hex (List.replicate 32 1)
  receiver_user_id := 2
  receiver_username := ascii "bob"
  filename := ascii "a"
  file_size := 2
  chunk_size := 1024
  temp_file_path := store.get_temp_path 1 (ascii "a")
  final_file_path := store.get_file_path 1 (ascii "a")

end Sample

namespace Observed

/-- Bob accepts on his own connection. -/
theorem notifications_reach_owner_sample :
    ∃ self, (run step Sample.start [.connect, Sample.login 0 "alice" 1, .connect, Sample.login 1 "bob" 2,
        Sample.offer 0 "bob" "a" 2]).server.live 0 = some self ∧ self.is_authenticated = true ∧
      self.user_id = Sample.offered.sender_user_id := by
  have notifies : (run step Sample.start [.connect, Sample.login 0 "alice" 1, .connect,
      Sample.login 1 "bob" 2, Sample.offer 0 "bob" "a" 2]).Notifies (Sample.accept 1 1 5)
      Sample.offered 0 :=
    ⟨⟨⟨1, true⟩, by decide⟩, by decide, ⟨{ ok := true }, by decide⟩⟩
  exact notifications_reach_owner Sample.booted _ (by decide) notifies

/-- Alice's connection logs in as bob after the offer, and is still the one that is told. -/
theorem notification_reaches_other_user :
    ∃ start labels label session peer, start.Booted ∧ (run step start labels).Notifies label session peer ∧
      ¬ ∃ self, (run step start labels).server.live peer = some self ∧ self.is_authenticated = true ∧
        self.user_id = session.sender_user_id := by
  refine ⟨Sample.start, [.connect, Sample.login 0 "alice" 1, Sample.offer 0 "bob" "a" 2,
    Sample.login 0 "bob" 2], Sample.accept 0 1 5, Sample.offered, 0, Sample.booted,
    ⟨⟨⟨1, true⟩, by decide⟩, by decide, ⟨{ ok := true }, by decide⟩⟩, ?_⟩
  rintro ⟨self, found, -, user⟩
  have now : ((run step Sample.start [.connect, Sample.login 0 "alice" 1, Sample.offer 0 "bob" "a" 2,
      Sample.login 0 "bob" 2]).server.live 0).map (·.user_id) = some 2 := by decide
  rw [found, Option.map_some, user] at now
  exact absurd now (by decide)

end Observed

end FileShareX.Net

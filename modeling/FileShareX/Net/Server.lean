import FileShareX.Foundation.Transition
import FileShareX.Net.Requests

/-!
# Runs of the server

The process starts as in `main` and takes one step for each message dispatched
and for each connection made, lost or released.  Beside the server a ledger
records what the handlers have asked of the file store and the transfer
manager, so that properties can speak about the past.
-/

namespace FileShareX.Net

open Wire Posix Protocol Storage Transfer

inductive Label where
  | connect
  | receive (conn : ConnId) (type : UInt8) (payload : Vec) (env : Env)
  | disconnect (conn : ConnId) (reason : Exit)
  | release (conn : ConnId)

namespace Server

/-- `main`: the storage directory is made, and nothing else is there yet. -/
def boot (store : FileStore) (db : Db) (cwd : Path) (disk : Disk) (io : Io) : Option Server :=
  match store.initialize_store
    { cwd, disk, streams := fun _ => none, backed := fun opened => nomatch opened } io with
  | (os, true) => some { store, os, db }
  | (_, false) => none

/-- The handlers of an exit, which all clear the authentication but the one for
an oversized payload.  After a failed write the connection is still read. -/
def disconnect (server : Server) (conn : ConnId) (reason : Exit) : Server :=
  match server.live conn with
  | none => server
  | some self =>
    let stopped :=
      if reason = .write then server
      else { server with reading := Function.update server.reading conn false }
    if reason = .tooLarge ∨ !self.is_authenticated then stopped
    else
      { stopped with
        session_manager := (server.session_manager.count server.live).1.remove_session self.token
        live := Function.update server.live conn (some self.clear_auth) }

/-- A connection that is still read keeps its own object alive. -/
def release (server : Server) (conn : ConnId) : Server :=
  if server.reading conn then server
  else { server with live := Function.update server.live conn none }

def step (server : Server) : Label → Server × List Event
  | .connect =>
    ({ server with
       live := Function.update server.live server.next_conn (some {})
       reading := Function.update server.reading server.next_conn true
       next_conn := server.next_conn + 1 }, [])
  | .receive conn type payload env =>
    match server.live conn with
    | none => (server, [])
    | some self =>
      if server.reading conn then server.handle_message conn self payload env type
      else (server, [])
  | .disconnect conn reason => (server.disconnect conn reason, [])
  | .release conn => (server.release conn, [])

/-- The request a label carries, if it passes the checks in this state. -/
def asks (server : Server) : Label → Option Request
  | .receive conn type payload env =>
    match server.live conn with
    | none => none
    | some self => if server.reading conn then server.request? self payload env type else none
  | _ => none

end Server

/-- What the handlers have done to each transfer so far. -/
structure Ledger where
  created : List UInt64 := []
  /-- The stream the latest successful `open_for_write` for the transfer returned. -/
  opened : UInt64 → Option Ptr := fun _ => none
  /-- Whether no `finalize_file` has been called for the transfer since then. -/
  live : UInt64 → Bool := fun _ => false
  /-- The transfer a stream was opened for last. -/
  owner : Ptr → Option UInt64 := fun _ => none
  /-- Index and data of the chunks `mark_chunk_received` has accepted. -/
  chunks : UInt64 → List (UInt32 × Bytes) := fun _ => []

namespace Ledger

def record (ledger : Ledger) : Event → Ledger
  | .created id =>
    { ledger with
      created := id :: ledger.created
      opened := Function.update ledger.opened id none
      live := Function.update ledger.live id false
      chunks := Function.update ledger.chunks id [] }
  | .open_for_write id (some file_handle) =>
    { ledger with
      opened := Function.update ledger.opened id (some file_handle)
      live := Function.update ledger.live id true
      owner := Function.update ledger.owner file_handle (some id) }
  | .mark_chunk_received id chunk_index data true =>
    { ledger with
      chunks := Function.update ledger.chunks id (ledger.chunks id ++ [(chunk_index, data)]) }
  | .finalize_file id _ _ => { ledger with live := Function.update ledger.live id false }
  | _ => ledger

@[simp] theorem record_sent (ledger : Ledger) (peer : ConnId) (response : Response) :
    ledger.record (.sent peer response) = ledger := rfl

@[simp] theorem record_write_chunk (ledger : Ledger) (id : UInt64) (file_handle : Option Ptr)
    (data : Bytes) (written : Int) :
    ledger.record (.write_chunk id file_handle data written) = ledger := rfl

@[simp] theorem record_open_none (ledger : Ledger) (id : UInt64) :
    ledger.record (.open_for_write id none) = ledger := rfl

@[simp] theorem record_mark_false (ledger : Ledger) (id : UInt64) (chunk_index : UInt32)
    (data : Bytes) : ledger.record (.mark_chunk_received id chunk_index data false) = ledger := rfl

def recordAll (ledger : Ledger) (events : List Event) : Ledger := events.foldl record ledger

@[simp] theorem recordAll_append (ledger : Ledger) (events more : List Event) :
    ledger.recordAll (events ++ more) = (ledger.recordAll events).recordAll more :=
  List.foldl_append

@[simp] theorem recordAll_nil (ledger : Ledger) : ledger.recordAll [] = ledger := rfl

@[simp] theorem recordAll_cons (ledger : Ledger) (event : Event) (rest : List Event) :
    ledger.recordAll (event :: rest) = (ledger.record event).recordAll rest := rfl

theorem recordAll_replies {events : List Event}
    (replies : ∀ event ∈ events, ∃ peer response, event = .sent peer response) (ledger : Ledger) :
    ledger.recordAll events = ledger := by
  induction events with
  | nil => rfl
  | cons event rest ih =>
    obtain ⟨peer, response, rfl⟩ := replies event (List.mem_cons_self ..)
    exact ih fun event member => replies event (List.mem_cons_of_mem _ member)

@[simp] theorem recordAll_notifySender (ledger : Ledger) (server : Server)
    (session : TransferSession) (resp : FileAcceptResp) :
    ledger.recordAll (server.notifySender session resp) = ledger := by
  unfold Server.notifySender
  repeat' split
  all_goals rfl

@[simp] theorem recordAll_acceptError (ledger : Ledger) (conn : ConnId) (reason : Bytes) :
    ledger.recordAll (Server.acceptError conn reason) = ledger := rfl

end Ledger

def Label.env : Label → Env
  | .receive _ _ _ env => env
  | _ => {}

/-- The server with the ledger of its run. -/
structure Observed where
  server : Server
  ledger : Ledger := {}

namespace Observed

def step (state : Observed) (label : Label) : Observed :=
  let (server, events) := state.server.step label
  ⟨server, state.ledger.recordAll events⟩

def asks (state : Observed) (label : Label) : Option Request := state.server.asks label

def events (state : Observed) (label : Label) : List Event := (state.server.step label).2

def stateOf (state : Observed) (id : UInt64) : Option TransferState :=
  (state.server.transfers.transfers id).map (·.state)

/-- The state in which `main` begins to accept connections. -/
def Booted (state : Observed) : Prop :=
  state.ledger = {} ∧
    ∃ store db cwd disk io, Server.boot store db cwd disk io = some state.server

theorem Booted.fresh {state : Observed} (booted : state.Booted) :
    state.ledger = {} ∧ state.server.transfers = {} ∧ state.server.session_manager = {} ∧
      (∀ conn, state.server.live conn = none) ∧ ∀ ptr, state.server.os.streams ptr = none := by
  obtain ⟨ledger, store, db, cwd, disk, io, started⟩ := booted
  unfold Server.boot at started
  split at started
  · next os ensured =>
    rw [← Option.some.inj started]
    refine ⟨ledger, rfl, rfl, fun _ => rfl, fun ptr => ?_⟩
    rw [(FileStore.ensure_directory_spec ensured).2.1]
  · cases started

structure Same (state after : Observed) : Prop where
  store : after.server.store = state.server.store
  os : after.server.os = state.server.os
  transfers : after.server.transfers = state.server.transfers
  ledger : after.ledger = state.ledger

theorem Same.refl (state : Observed) : state.Same state := ⟨rfl, rfl, rfl, rfl⟩

variable {state : Observed} {label : Label}

theorem step_same (idle : state.asks label = none) :
    state.Same (state.step label) ∧
      ∀ event ∈ state.events label,
        ∃ peer response, event = .sent peer response ∧ response.grants = false := by
  cases label with
  | connect => exact ⟨⟨rfl, rfl, rfl, rfl⟩, by simp [events, Server.step]⟩
  | disconnect conn reason =>
    refine ⟨?_, by simp [events, Server.step]⟩
    unfold step Server.step Server.disconnect
    dsimp only
    split
    · exact .refl state
    · split <;> split <;> exact ⟨rfl, rfl, rfl, rfl⟩
  | release conn =>
    refine ⟨?_, by simp [events, Server.step]⟩
    unfold step Server.step Server.release
    dsimp only
    split <;> exact ⟨rfl, rfl, rfl, rfl⟩
  | receive conn type payload env =>
    unfold asks Server.asks at idle
    unfold events step Server.step
    dsimp only at idle ⊢
    cases found : state.server.live conn with
    | none => exact ⟨.refl state, by simp⟩
    | some self =>
      rw [found] at idle
      by_cases reading : state.server.reading conn = true
      · dsimp only at idle ⊢
        rw [if_pos reading] at idle ⊢
        have quiet := @Server.handle_message_performs state.server conn self payload env type
        rw [idle] at quiet
        obtain ⟨store, os, transfers, replies⟩ := quiet
        refine ⟨⟨store, os, transfers, Ledger.recordAll_replies (fun event member => ?_) _⟩,
          fun event member => ?_⟩
        · obtain ⟨response, sent, -⟩ := replies event member
          exact ⟨conn, response, sent⟩
        · obtain ⟨response, sent, other⟩ := replies event member
          exact ⟨conn, response, sent, other⟩
      · dsimp only
        rw [if_neg reading]
        exact ⟨.refl state, by simp⟩

theorem step_effect {request : Request} (asked : state.asks label = some request) :
    ∃ conn self result,
      (state.server.live conn = some self ∧ ∃ payload env,
        label = .receive conn request.type.code payload env ∧ request.DecodedFrom payload) ∧
      state.server.Effect conn self label.env request result ∧
      state.events label = result.2 ∧ state.step label = ⟨result.1, state.ledger.recordAll result.2⟩ := by
  cases label with
  | connect => cases asked
  | disconnect conn reason => cases asked
  | release conn => cases asked
  | receive conn type payload env =>
    unfold asks Server.asks at asked
    unfold events step Server.step
    dsimp only at asked ⊢
    cases found : state.server.live conn with
    | none =>
      rw [found] at asked
      cases asked
    | some self =>
      rw [found] at asked
      dsimp only at asked ⊢
      by_cases reading : state.server.reading conn = true
      · rw [if_pos reading] at asked ⊢
        have performed := @Server.handle_message_performs state.server conn self payload env type
        rw [asked] at performed
        obtain ⟨rfl, decoded⟩ := Server.request?_sentAs asked
        exact ⟨conn, self, _, ⟨found, payload, env, rfl, decoded⟩, performed, rfl, rfl⟩
      · rw [if_neg reading] at asked
        cases asked

/-- On a connection that is read, the checks decide alone. -/
theorem effect_of_request {conn : ConnId} {self : TcpSession} {type : UInt8} {payload : Vec}
    {env : Env} {request : Request} (alive : state.server.live conn = some self)
    (reading : state.server.reading conn = true)
    (passes : state.server.request? self payload env type = some request) :
    state.asks (.receive conn type payload env) = some request ∧
      ∃ result, state.server.Effect conn self env request result ∧
        state.events (.receive conn type payload env) = result.2 ∧
        state.step (.receive conn type payload env) = ⟨result.1, state.ledger.recordAll result.2⟩ := by
  have performed := @Server.handle_message_performs state.server conn self payload env type
  rw [passes] at performed
  refine ⟨?_, _, performed, ?_, ?_⟩
  · simp [asks, Server.asks, alive, reading, passes]
  · simp [events, Server.step, alive, reading]
  · simp [step, Server.step, alive, reading]

/-- A step about one transfer replaces its record by one with the same offer. -/
structure Rewrites (state after : Observed) (id : UInt64) (session changed : TransferSession) :
    Prop where
  found : state.server.transfers.transfers id = some session
  transfers : after.server.transfers = state.server.transfers.put id changed
  kept : changed =
    { session with
      state := changed.state
      file_handle := changed.file_handle
      expected_chunk_index := changed.expected_chunk_index
      bytes_received := changed.bytes_received }
  chunks : ∀ {other}, other ≠ id → after.ledger.chunks other = state.ledger.chunks other
  live : ∀ {other}, other ≠ id → after.ledger.live other = state.ledger.live other

theorem Rewrites.changed_eq {after : Observed} {id : UInt64} {session changed entry : TransferSession}
    (rewrites : state.Rewrites after id session changed)
    (now : after.server.transfers.transfers id = some entry) : changed = entry := by
  rw [rewrites.transfers, TransferManager.put_self] at now
  exact Option.some.inj now

theorem step_rewrites {request : Request} {id : UInt64} (asked : state.asks label = some request)
    (about : request.about = some id) :
    ∃ session changed, state.Rewrites (state.step label) id session changed := by
  obtain ⟨conn, self, result, -, effect, -, stepped⟩ := step_effect asked
  rw [stepped]
  cases effect with
  | offered => cases about
  | openFailed authenticated found =>
    cases about
    exact ⟨_, _, found, rfl, rfl, fun _ => rfl, fun _ => rfl⟩
  | opened authenticated found =>
    cases about
    exact ⟨_, _, found, rfl, rfl, fun _ => by simp [Ledger.record],
      fun ne => by simp [Ledger.record, Function.update_of_ne ne]⟩
  | rejected authenticated found =>
    cases about
    exact ⟨_, _, found, rfl, rfl, fun _ => by simp, fun _ => by simp⟩
  | writeFailed authenticated found =>
    cases about
    exact ⟨_, _, found, rfl, rfl, fun _ => rfl, fun _ => rfl⟩
  | received authenticated found =>
    cases about
    exact ⟨_, _, found, rfl, rfl, fun ne => Function.update_of_ne ne .., fun _ => rfl⟩
  | strayed authenticated found =>
    cases about
    exact ⟨_, _, found, rfl, rfl, fun _ => rfl, fun _ => rfl⟩
  | finalizeFailed authenticated found =>
    cases about
    exact ⟨_, _, found, rfl, rfl, fun _ => rfl, fun ne => Function.update_of_ne ne ..⟩
  | finalized authenticated found =>
    cases about
    exact ⟨_, _, found, rfl, rfl, fun _ => rfl, fun ne => Function.update_of_ne ne ..⟩

/-- Every record after a step is the one before, however far it has got, or the one
of the step's own offer. -/
theorem record_step {id : UInt64} {session : TransferSession}
    (found : (state.step label).server.transfers.transfers id = some session) :
    (∃ old, state.server.transfers.transfers id = some old ∧
      session =
        { old with
          state := session.state
          file_handle := session.file_handle
          expected_chunk_index := session.expected_chunk_index
          bytes_received := session.bytes_received }) ∨
    ∃ conn self req receiver, state.server.live conn = some self ∧ self.is_authenticated = true ∧
      id = state.server.transfers.next_transfer_id ∧
      session = state.server.offered self req receiver := by
  have rewritten {request : Request} {about : UInt64} (asked : state.asks label = some request)
      (same : request.about = some about) :
      ∃ old, state.server.transfers.transfers id = some old ∧
        session =
          { old with
            state := session.state
            file_handle := session.file_handle
            expected_chunk_index := session.expected_chunk_index
            bytes_received := session.bytes_received } := by
    obtain ⟨record, changed, rewrites⟩ := step_rewrites asked same
    rw [rewrites.transfers] at found
    rcases TransferManager.put_found found with ⟨rfl, rfl⟩ | ⟨-, old⟩
    · exact ⟨record, rewrites.found, rewrites.kept⟩
    · exact ⟨session, old, rfl⟩
  cases asked : state.asks label with
  | none =>
    rw [(step_same asked).1.transfers] at found
    exact .inl ⟨session, found, rfl⟩
  | some request =>
    cases request with
    | offer req receiver =>
      obtain ⟨conn, self, result, ⟨alive, -⟩, effect, -, stepped⟩ := step_effect asked
      rw [stepped] at found
      cases effect with
      | offered authenticated =>
        rcases TransferManager.put_found found with ⟨rfl, rfl⟩ | ⟨-, old⟩
        · exact .inr ⟨conn, self, req, receiver, alive, authenticated, rfl, rfl⟩
        · exact .inl ⟨session, old, rfl⟩
    | accept => exact .inl (rewritten asked rfl)
    | chunk => exact .inl (rewritten asked rfl)
    | done => exact .inl (rewritten asked rfl)

theorem step_root (state : Observed) (label : Label) :
    (state.step label).server.store = state.server.store ∧
      (state.step label).server.os.cwd = state.server.os.cwd := by
  cases asked : state.asks label with
  | none =>
    obtain ⟨store, os, -, -⟩ := (step_same asked).1
    exact ⟨store, by rw [os]⟩
  | some request =>
    obtain ⟨conn, self, result, -, effect, -, stepped⟩ := step_effect asked
    rw [stepped]
    exact effect.root

end Observed

/-! ### A small world for concrete runs -/

namespace Sample

def store : FileStore := ⟨ascii "./storage/transfers", by decide⟩

def disk : Disk where
  node := fun _ => none
  data := fun _ => []
  next := 0
  below := fun found => nomatch found
  single := fun found => nomatch found

/-- Two accounts; the passwords are whatever `env` says they are. -/
def db : Db where
  users := [⟨1, ascii "alice", ascii "alice@example.org", []⟩,
    ⟨2, ascii "bob", ascii "bob@example.org", []⟩]
  next_user_id := 3

theorem boots : (Server.boot store db [] disk {}).isSome := by decide

def start : Observed := ⟨(Server.boot store db [] disk {}).get boots, {}⟩

theorem booted : start.Booted := ⟨rfl, store, db, [], disk, {}, (Option.some_get boots).symm⟩

/-- Files open, and the first login draws this token. -/
def env (ptr : Ptr) (token : UInt8) : Env where
  io := { fopen := some ptr, fwrite := 65536 }
  auth := { rand := some (.replicate 32 token), verify_password_pbkdf2 := fun _ _ => .ok true }

def receive (conn : ConnId) (type : MsgType) (payload : Bytes) (env : Env) : Label :=
  .receive conn type.code ⟨payload, fun _ => 0⟩ env

def login (conn : ConnId) (username : String) (token : UInt8) : Label :=
  receive conn .LOGIN_REQ (htons (UInt16.ofNat username.length) ++ ascii username ++ htons 1 ++ [120])
    (env 0 token)

def offer (conn : ConnId) (receiver filename : String) (file_size : UInt64) : Label :=
  receive conn .FILE_OFFER_REQ
    (FileOfferReq.serialize
      { receiver_username := ascii receiver, filename := ascii filename, file_size, chunk_size := 1024 })
    (env 0 0)

def accept (conn : ConnId) (transfer_id : UInt64) (ptr : Ptr) : Label :=
  receive conn .FILE_ACCEPT_REQ (FileAcceptReq.serialize { transfer_id, accept := true }) (env ptr 0)

def chunk (conn : ConnId) (transfer_id : UInt64) (chunk_index : UInt32) (data : Bytes) : Label :=
  receive conn .FILE_CHUNK (FileChunk.serialize { transfer_id, chunk_index, data }) (env 0 0)

def done (conn : ConnId) (transfer_id : UInt64) (total_chunks : UInt32) (file_size : UInt64) : Label :=
  receive conn .FILE_DONE (FileDone.serialize { transfer_id, total_chunks, file_size }) (env 0 0)

/-- Two bytes sent by alice to herself. -/
def delivery : List Label :=
  [.connect, login 0 "alice" 1, offer 0 "alice" "a" 2, accept 0 1 5, chunk 0 1 0 [1, 2],
    done 0 1 1 2]

end Sample

end FileShareX.Net

import FileShareX.Net.TcpSession

/-!
# What a message can do

A file message either fails one of its handler's checks, and then touches
nothing, or it is a `Request` that has passed them all.  `Effect` lists every
way a request can turn out; later proofs go by cases on it and never unfold a
handler.
-/

namespace FileShareX.Net

open Wire Posix Protocol Storage Transfer

/-- A message that has passed every check, with what the checks have looked up. -/
inductive Request where
  | offer (req : FileOfferReq) (receiver : UserRow)
  | accept (req : FileAcceptReq) (session : TransferSession)
  | chunk (chunk : FileChunk) (session : TransferSession)
  | done (done : FileDone) (session : TransferSession)
  deriving DecidableEq

def Request.type : Request → MsgType
  | offer .. => .FILE_OFFER_REQ
  | accept .. => .FILE_ACCEPT_REQ
  | chunk .. => .FILE_CHUNK
  | done .. => .FILE_DONE

/-- The payload decodes to the request's message. -/
def Request.DecodedFrom (payload : Vec) : Request → Prop
  | offer req _ => FileOfferReq.deserialize.result payload = .ok req
  | accept req _ => FileAcceptReq.deserialize.result payload = .ok req
  | chunk message _ => FileChunk.deserialize.result payload = .ok message
  | done message _ => FileDone.deserialize.result payload = .ok message

def Request.SentAs (request : Request) (type : MsgType) (payload : Vec) : Prop :=
  request.type = type ∧ request.DecodedFrom payload

/-- The transfer a request is about; an offer makes its own. -/
def Request.about : Request → Option UInt64
  | offer .. => none
  | accept req _ => some req.transfer_id
  | chunk message _ => some message.transfer_id
  | done message _ => some message.transfer_id

namespace Server

def tempAt (server : Server) (id : UInt64) (session : TransferSession) : Path :=
  resolve server.os.cwd (server.store.get_temp_path id session.filename)

def finalAt (server : Server) (id : UInt64) (session : TransferSession) : Path :=
  resolve server.os.cwd (server.store.get_file_path id session.filename)

variable (server : Server) (conn : ConnId) (self : TcpSession) (payload : Vec) (env : Env)

def offer? : Option Request :=
  if !self.is_authenticated then none
  else match FileOfferReq.deserialize.result payload with
  | .error _ => none
  | .ok req =>
    match server.db.get_user_by_username req.receiver_username env.auth with
    | .ok (some receiver) => some (.offer req receiver)
    | _ => none

def accept? : Option Request :=
  if !self.is_authenticated then none
  else match FileAcceptReq.deserialize.result payload with
  | .error _ => none
  | .ok req =>
    match server.transfers.get_transfer req.transfer_id with
    | none => none
    | some session =>
      if session.receiver_user_id ≠ self.user_id then none else some (.accept req session)

def chunk? : Option Request :=
  if !self.is_authenticated then none
  else match FileChunk.deserialize.result payload with
  | .error _ => none
  | .ok chunk =>
    match server.transfers.get_transfer chunk.transfer_id with
    | none => none
    | some session =>
      if session.sender_user_id ≠ self.user_id then none
      else if session.state ≠ .ACCEPTED ∧ session.state ≠ .RECEIVING then none
      else some (.chunk chunk session)

def done? : Option Request :=
  if !self.is_authenticated then none
  else match FileDone.deserialize.result payload with
  | .error _ => none
  | .ok done =>
    match server.transfers.get_transfer done.transfer_id with
    | none => none
    | some session =>
      if session.sender_user_id ≠ self.user_id then none else some (.done done session)

def request? (type : UInt8) : Option Request :=
  match MsgType.ofCode? type with
  | some .FILE_OFFER_REQ => server.offer? self payload env
  | some .FILE_ACCEPT_REQ => server.accept? self payload
  | some .FILE_CHUNK => server.chunk? self payload
  | some .FILE_DONE => server.done? self payload
  | _ => none

def offered (req : FileOfferReq) (receiver : UserRow) : TransferSession :=
  let transfer_id := server.transfers.next_transfer_id
  { transfer_id
    sender_user_id := self.user_id
    sender_username := self.username
    sender_token := self.token
    receiver_user_id := receiver.id
    receiver_username := receiver.username
    filename := req.filename
    file_size := req.file_size
    chunk_size := adjustChunkSize req.chunk_size
    temp_file_path :=
      if transfer_id = 0 then [] else server.store.get_temp_path transfer_id req.filename
    final_file_path :=
      if transfer_id = 0 then [] else server.store.get_file_path transfer_id req.filename }

/-- Number zero is taken for a failure, though the record stays. -/
def offerReply : FileOfferResp :=
  let transfer_id := server.transfers.next_transfer_id
  if transfer_id = 0 then { reason := ascii "Failed to create transfer" }
  else { ok := true, transfer_id }

/-- Nothing but the accounts and the authentication of this connection changes,
and no file request succeeds. -/
structure Quiet (result : Server × List Event) : Prop where
  store : result.1.store = server.store
  os : result.1.os = server.os
  transfers : result.1.transfers = server.transfers
  replies : ∀ event ∈ result.2, ∃ response, event = .sent conn response ∧ response.grants = false

inductive Effect : Request → Server × List Event → Prop where
  | offered {req receiver} (authenticated : self.is_authenticated = true) :
      Effect (.offer req receiver)
        ({ server with
           transfers :=
             { server.transfers.put server.transfers.next_transfer_id
                 (server.offered self req receiver) with
               next_transfer_id := server.transfers.next_transfer_id + 1 } },
          [.created server.transfers.next_transfer_id,
            .sent conn (.fileOfferResp server.offerReply)])
  | openFailed {req session os} (authenticated : self.is_authenticated = true)
      (found : server.transfers.transfers req.transfer_id = some session)
      (party : session.receiver_user_id = self.user_id) (accept : req.accept = true)
      (called : server.store.open_for_write server.os req.transfer_id session.filename env.io =
        (os, none)) :
      Effect (.accept req session)
        ({ server with
           os, transfers := server.transfers.put req.transfer_id { session with state := .FAILED } },
          .open_for_write req.transfer_id none :: acceptError conn (ascii "Failed to open file"))
  | opened {req session os file_handle} (authenticated : self.is_authenticated = true)
      (found : server.transfers.transfers req.transfer_id = some session)
      (party : session.receiver_user_id = self.user_id) (accept : req.accept = true)
      (called : server.store.open_for_write server.os req.transfer_id session.filename env.io =
        (os, some file_handle)) :
      Effect (.accept req session)
        ({ server with
           os
           transfers := server.transfers.put req.transfer_id
             { session with state := .ACCEPTED, file_handle := some file_handle } },
          .open_for_write req.transfer_id (some file_handle) ::
            (server.notifySender session { ok := true } ++
              [.sent conn (.fileAcceptResp { ok := true })]))
  | rejected {req session} (authenticated : self.is_authenticated = true)
      (found : server.transfers.transfers req.transfer_id = some session)
      (party : session.receiver_user_id = self.user_id) (reject : req.accept = false) :
      Effect (.accept req session)
        ({ server with
           transfers := server.transfers.put req.transfer_id { session with state := .FAILED } },
          server.notifySender session { ok := false, reason := ascii "Receiver rejected" } ++
            [.sent conn (.fileAcceptResp { ok := true })])
  | writeFailed {chunk session os written} (authenticated : self.is_authenticated = true)
      (found : server.transfers.transfers chunk.transfer_id = some session)
      (party : session.sender_user_id = self.user_id)
      (state : session.state = .ACCEPTED ∨ session.state = .RECEIVING)
      (called : FileStore.write_chunk server.os session.file_handle chunk.data env.io = (os, written))
      (failed : written < 0) :
      Effect (.chunk chunk session)
        ({ server with
           os, transfers := server.transfers.put chunk.transfer_id { session with state := .FAILED } },
          [.write_chunk chunk.transfer_id session.file_handle chunk.data written])
  | received {chunk session os written} (authenticated : self.is_authenticated = true)
      (found : server.transfers.transfers chunk.transfer_id = some session)
      (party : session.sender_user_id = self.user_id)
      (state : session.state = .ACCEPTED ∨ session.state = .RECEIVING)
      (called : FileStore.write_chunk server.os session.file_handle chunk.data env.io = (os, written))
      (wrote : 0 ≤ written) (inSequence : chunk.chunk_index = session.expected_chunk_index) :
      Effect (.chunk chunk session)
        ({ server with
           os
           transfers := server.transfers.put chunk.transfer_id (session.advance chunk.data.length) },
          [.write_chunk chunk.transfer_id session.file_handle chunk.data written,
            .mark_chunk_received chunk.transfer_id chunk.chunk_index chunk.data true])
  | strayed {chunk session os written} (authenticated : self.is_authenticated = true)
      (found : server.transfers.transfers chunk.transfer_id = some session)
      (party : session.sender_user_id = self.user_id)
      (state : session.state = .ACCEPTED ∨ session.state = .RECEIVING)
      (called : FileStore.write_chunk server.os session.file_handle chunk.data env.io = (os, written))
      (wrote : 0 ≤ written) (outOfSequence : chunk.chunk_index ≠ session.expected_chunk_index) :
      Effect (.chunk chunk session)
        ({ server with os, transfers := server.transfers.put chunk.transfer_id session },
          [.write_chunk chunk.transfer_id session.file_handle chunk.data written,
            .mark_chunk_received chunk.transfer_id chunk.chunk_index chunk.data false])
  | finalizeFailed {done session os} (authenticated : self.is_authenticated = true)
      (found : server.transfers.transfers done.transfer_id = some session)
      (party : session.sender_user_id = self.user_id)
      (called : server.store.finalize_file server.os done.transfer_id session.filename
        session.file_handle env.io = (os, false)) :
      Effect (.done done session)
        ({ server with
           os, transfers := server.transfers.put done.transfer_id { session with state := .FAILED } },
          [.finalize_file done.transfer_id session.file_handle false,
            .sent conn (.fileResult
              { transfer_id := done.transfer_id, ok := false
                path_or_reason := ascii "Failed to finalize file" })])
  | finalized {done session os} (authenticated : self.is_authenticated = true)
      (found : server.transfers.transfers done.transfer_id = some session)
      (party : session.sender_user_id = self.user_id)
      (called : server.store.finalize_file server.os done.transfer_id session.filename
        session.file_handle env.io = (os, true)) :
      Effect (.done done session)
        ({ server with
           os
           transfers := server.transfers.put done.transfer_id { session with state := .COMPLETED } },
          [.finalize_file done.transfer_id session.file_handle true,
            .sent conn (.fileResult
              { transfer_id := done.transfer_id, ok := true
                path_or_reason := session.final_file_path })])

def Performs (result : Server × List Event) : Option Request → Prop
  | none => server.Quiet conn result
  | some request => server.Effect conn self env request result

variable {server conn self payload env}

theorem offerReply_number (ok : server.offerReply.ok = true) :
    server.offerReply.transfer_id = server.transfers.next_transfer_id := by
  unfold offerReply at *
  dsimp only at *
  split at ok
  · cases ok
  · next given => rw [if_neg given]

theorem notifySender_sent {session : TransferSession} {resp : FileAcceptResp} {event : Event}
    (told : event ∈ server.notifySender session resp) :
    ∃ peer, event = .sent peer (.fileAcceptResp resp) := by
  unfold notifySender at told
  repeat' split at told
  · cases told
  · next peer _ => exact ⟨peer, List.mem_singleton.mp told⟩
  · cases told

theorem Quiet.silent : server.Quiet conn (server, []) := ⟨rfl, rfl, rfl, by simp⟩

theorem Quiet.reply {response : Response} (refuses : response.grants = false) :
    server.Quiet conn (server, [.sent conn response]) :=
  ⟨rfl, rfl, rfl, by simpa using refuses⟩

theorem performs_offerError (reason : Bytes) :
    server.Performs conn self env (server, offerError conn reason) none :=
  Quiet.reply rfl

theorem performs_acceptError (reason : Bytes) :
    server.Performs conn self env (server, acceptError conn reason) none :=
  Quiet.reply rfl

theorem performs_silent : server.Performs conn self env (server, []) none := Quiet.silent

theorem handle_file_offer_req_performs :
    server.Performs conn self env (server.handle_file_offer_req conn self payload env)
      (server.offer? self payload env) := by
  unfold handle_file_offer_req offer?
  cases authenticated : self.is_authenticated with
  | false => exact performs_offerError _
  | true =>
    simp only [Bool.not_true, Bool.false_eq_true, if_false]
    cases parsed : FileOfferReq.deserialize.result payload with
    | error what => exact performs_offerError _
    | ok req =>
      dsimp only
      cases found : server.db.get_user_by_username req.receiver_username env.auth with
      | error what => exact performs_offerError _
      | ok user =>
        cases user with
        | none => exact performs_offerError _
        | some receiver =>
          have performed : server.Effect conn self env (.offer req receiver) _ :=
            .offered authenticated
          by_cases zero : server.transfers.next_transfer_id = 0
          · simpa [Performs, zero, TransferManager.create_transfer,
              TransferManager.generate_transfer_id, offered, offerReply, TransferManager.put,
              offerError] using performed
          · simpa [Performs, zero, TransferManager.create_transfer,
              TransferManager.generate_transfer_id, offered, offerReply, TransferManager.put,
              TransferManager.modify] using performed

theorem handle_file_accept_req_performs :
    server.Performs conn self env (server.handle_file_accept_req conn self payload env)
      (server.accept? self payload) := by
  unfold handle_file_accept_req accept?
  cases authenticated : self.is_authenticated with
  | false => exact performs_acceptError _
  | true =>
    simp only [Bool.not_true, Bool.false_eq_true, if_false]
    cases parsed : FileAcceptReq.deserialize.result payload with
    | error what => exact performs_acceptError _
    | ok req =>
      dsimp only
      cases found : server.transfers.get_transfer req.transfer_id with
      | none => exact performs_acceptError _
      | some session =>
        dsimp only
        by_cases party : session.receiver_user_id = self.user_id
        · cases accept : req.accept with
          | false =>
            simpa [Performs, party, accept, found, TransferManager.update_state_eq found]
              using Effect.rejected authenticated found party accept
          | true =>
            rcases called : server.store.open_for_write server.os req.transfer_id session.filename
              env.io with ⟨os, _ | file_handle⟩
            · simpa [Performs, party, accept, found, called, TransferManager.update_state_eq found]
                using Effect.openFailed authenticated found party accept called
            · simpa [Performs, party, accept, found, called, TransferManager.modify_eq found,
                TransferManager.update_state_eq TransferManager.put_self]
                using Effect.opened authenticated found party accept called
        · simpa [party] using performs_acceptError _

theorem handle_file_chunk_performs :
    server.Performs conn self env (server.handle_file_chunk self payload env)
      (server.chunk? self payload) := by
  unfold handle_file_chunk chunk?
  cases authenticated : self.is_authenticated with
  | false => exact performs_silent
  | true =>
    simp only [Bool.not_true, Bool.false_eq_true, if_false]
    cases parsed : FileChunk.deserialize.result payload with
    | error what => exact performs_silent
    | ok chunk =>
      dsimp only
      cases found : server.transfers.get_transfer chunk.transfer_id with
      | none => exact performs_silent
      | some session =>
        dsimp only
        by_cases party : session.sender_user_id = self.user_id
        · by_cases state : session.state = .ACCEPTED ∨ session.state = .RECEIVING
          · have open_ : ¬ (session.state ≠ .ACCEPTED ∧ session.state ≠ .RECEIVING) := by
              simpa [imp_iff_not_or, not_or] using state
            rcases called : FileStore.write_chunk server.os session.file_handle chunk.data env.io with
              ⟨os, written⟩
            by_cases failed : written < 0
            · simpa [Performs, party, open_, found, called, failed,
                TransferManager.update_state_eq found]
                using Effect.writeFailed authenticated found party state called failed
            · by_cases inSequence : chunk.chunk_index = session.expected_chunk_index
              · simpa [Performs, party, open_, found, called, failed, inSequence,
                  TransferManager.mark_chunk_received_eq found]
                  using Effect.received authenticated found party state called
                    (not_lt.mp failed) inSequence
              · simpa [Performs, party, open_, found, called, failed, inSequence,
                  TransferManager.mark_chunk_received_eq found]
                  using Effect.strayed authenticated found party state called
                    (not_lt.mp failed) inSequence
          · have closed : session.state ≠ .ACCEPTED ∧ session.state ≠ .RECEIVING := by
              simpa [not_or] using state
            simpa [party, closed] using performs_silent
        · simpa [party] using performs_silent

theorem handle_file_done_performs :
    server.Performs conn self env (server.handle_file_done conn self payload env)
      (server.done? self payload) := by
  unfold handle_file_done done?
  cases authenticated : self.is_authenticated with
  | false => exact performs_silent
  | true =>
    simp only [Bool.not_true, Bool.false_eq_true, if_false]
    cases parsed : FileDone.deserialize.result payload with
    | error what => exact performs_silent
    | ok done =>
      dsimp only
      cases found : server.transfers.get_transfer done.transfer_id with
      | none => exact performs_silent
      | some session =>
        dsimp only
        by_cases party : session.sender_user_id = self.user_id
        · rcases called : server.store.finalize_file server.os done.transfer_id session.filename
            session.file_handle env.io with ⟨os, _ | _⟩
          · simpa [Performs, party, found, called, TransferManager.update_state_eq found]
              using Effect.finalizeFailed authenticated found party called
          · simpa [Performs, party, found, called, TransferManager.update_state_eq found]
              using Effect.finalized authenticated found party called
        · simpa [party] using performs_silent

theorem handle_register_req_quiet :
    server.Quiet conn (server.handle_register_req conn payload env) := by
  unfold handle_register_req
  dsimp only
  split <;> exact ⟨rfl, rfl, rfl, by simp [Response.grants]⟩

theorem handle_login_req_quiet :
    server.Quiet conn (server.handle_login_req conn self payload env) := by
  unfold handle_login_req
  dsimp only
  split
  · exact .reply rfl
  · split <;> exact ⟨rfl, rfl, rfl, by simp [Response.grants]⟩

theorem handle_online_list_req_quiet : server.Quiet conn (server.handle_online_list_req conn) :=
  ⟨rfl, rfl, rfl, by simp [handle_online_list_req, Response.grants]⟩

/-- Every message, of whatever type: its request is performed, or nothing happens. -/
theorem handle_message_performs (type : UInt8) :
    server.Performs conn self env (server.handle_message conn self payload env type)
      (server.request? self payload env type) := by
  unfold handle_message request?
  cases known : MsgType.ofCode? type with
  | none => exact performs_silent
  | some kind =>
    cases kind with
    | PING => exact Quiet.reply rfl
    | REGISTER_REQ => exact handle_register_req_quiet
    | LOGIN_REQ => exact handle_login_req_quiet
    | ONLINE_LIST_REQ => exact handle_online_list_req_quiet
    | FILE_OFFER_REQ => exact handle_file_offer_req_performs
    | FILE_ACCEPT_REQ => exact handle_file_accept_req_performs
    | FILE_CHUNK => exact handle_file_chunk_performs
    | FILE_DONE => exact handle_file_done_performs
    | _ => exact performs_silent

theorem Effect.root {request : Request} {result : Server × List Event}
    (effect : server.Effect conn self env request result) :
    result.1.store = server.store ∧ result.1.os.cwd = server.os.cwd := by
  cases effect with
  | offered => exact ⟨rfl, rfl⟩
  | openFailed authenticated found party accept called =>
    exact ⟨rfl, (FileStore.open_for_write_none called).1⟩
  | opened authenticated found party accept called =>
    exact ⟨rfl, (FileStore.open_for_write_some called).1⟩
  | rejected => exact ⟨rfl, rfl⟩
  | writeFailed authenticated found party running called =>
    exact ⟨rfl, FileStore.write_chunk_cwd called⟩
  | received authenticated found party running called =>
    exact ⟨rfl, FileStore.write_chunk_cwd called⟩
  | strayed authenticated found party running called =>
    exact ⟨rfl, FileStore.write_chunk_cwd called⟩
  | finalizeFailed authenticated found party called =>
    exact ⟨rfl, FileStore.finalize_file_cwd called⟩
  | finalized authenticated found party called =>
    exact ⟨rfl, FileStore.finalize_file_cwd called⟩

theorem Effect.fileResult {request : Request} {result : Server × List Event}
    (effect : server.Effect conn self env request result) {peer : ConnId} {answer : FileResult}
    (sent : .sent peer (.fileResult answer) ∈ result.2) :
    ∃ done session, request = .done done session ∧ peer = conn ∧
      answer.transfer_id = done.transfer_id ∧
      .finalize_file done.transfer_id session.file_handle answer.ok ∈ result.2 := by
  have notTold {session : TransferSession} {resp : FileAcceptResp}
      (told : Event.sent peer (.fileResult answer) ∈ server.notifySender session resp) : False := by
    obtain ⟨_, same⟩ := notifySender_sent told
    cases same
  cases effect with
  | offered => simp at sent
  | openFailed => simp [acceptError] at sent
  | opened => exact (notTold (by simpa using sent)).elim
  | rejected => exact (notTold (by simpa using sent)).elim
  | writeFailed => simp at sent
  | received => simp at sent
  | strayed => simp at sent
  | finalizeFailed =>
    simp only [List.mem_cons, reduceCtorEq, Event.sent.injEq, Response.fileResult.injEq,
      List.not_mem_nil, or_false, false_or] at sent
    obtain ⟨rfl, rfl⟩ := sent
    exact ⟨_, _, rfl, rfl, rfl, List.mem_cons_self ..⟩
  | finalized =>
    simp only [List.mem_cons, reduceCtorEq, Event.sent.injEq, Response.fileResult.injEq,
      List.not_mem_nil, or_false, false_or] at sent
    obtain ⟨rfl, rfl⟩ := sent
    exact ⟨_, _, rfl, rfl, rfl, List.mem_cons_self ..⟩

theorem Effect.offerResp {request : Request} {result : Server × List Event}
    (effect : server.Effect conn self env request result) {peer : ConnId} {resp : FileOfferResp}
    (sent : .sent peer (.fileOfferResp resp) ∈ result.2) :
    ∃ req receiver, request = .offer req receiver ∧ peer = conn ∧ resp = server.offerReply := by
  have notTold {session : TransferSession} {resp' : FileAcceptResp}
      (told : Event.sent peer (.fileOfferResp resp) ∈ server.notifySender session resp') : False := by
    obtain ⟨_, same⟩ := notifySender_sent told
    cases same
  cases effect with
  | offered => exact ⟨_, _, rfl, by simpa using sent⟩
  | openFailed => simp [acceptError] at sent
  | opened => exact (notTold (by simpa using sent)).elim
  | rejected => exact (notTold (by simpa using sent)).elim
  | writeFailed => simp at sent
  | received => simp at sent
  | strayed => simp at sent
  | finalizeFailed => simp at sent
  | finalized => simp at sent

theorem notifySender_found {session : TransferSession} {resp : FileAcceptResp} {peer : ConnId}
    {response : Response} (told : .sent peer response ∈ server.notifySender session resp) :
    response = .fileAcceptResp resp ∧
      server.session_manager.get_session server.live session.sender_token = some peer := by
  unfold notifySender at told
  split at told
  · cases told
  · split at told
    · next found =>
      cases List.mem_singleton.mp told
      exact ⟨rfl, found⟩
    · cases told

/-- A FILE_ACCEPT_RESP that says yes goes back to the receiver, or to the sender of a
transfer that has been opened. -/
theorem Effect.acceptResp {request : Request} {result : Server × List Event}
    (effect : server.Effect conn self env request result) {peer : ConnId} {resp : FileAcceptResp}
    (sent : .sent peer (.fileAcceptResp resp) ∈ result.2) (ok : resp.ok = true) :
    ∃ req session, request = .accept req session ∧
      (peer = conn ∨
        server.session_manager.get_session server.live session.sender_token = some peer ∧
        ∃ changed, result.1.transfers = server.transfers.put req.transfer_id changed ∧
          changed.file_handle ≠ none) := by
  cases effect with
  | offered => simp at sent
  | openFailed =>
    simp only [acceptError, List.mem_cons, reduceCtorEq, Event.sent.injEq,
      Response.fileAcceptResp.injEq, List.not_mem_nil, or_false, false_or] at sent
    rw [sent.2] at ok
    cases ok
  | opened =>
    refine ⟨_, _, rfl, ?_⟩
    simp only [List.mem_cons, reduceCtorEq, false_or, List.mem_append, List.not_mem_nil,
      or_false, Event.sent.injEq] at sent
    rcases sent with told | ⟨here, -⟩
    · exact .inr ⟨(notifySender_found told).2, _, rfl, nofun⟩
    · exact .inl here
  | rejected =>
    refine ⟨_, _, rfl, ?_⟩
    simp only [List.mem_append, List.mem_cons, List.not_mem_nil, or_false, Event.sent.injEq] at sent
    rcases sent with told | ⟨here, -⟩
    · cases (notifySender_found told).1
      cases ok
    · exact .inl here
  | writeFailed => simp at sent
  | received => simp at sent
  | strayed => simp at sent
  | finalizeFailed => simp at sent
  | finalized => simp at sent

theorem Effect.accept_found {req : FileAcceptReq} {session : TransferSession}
    {result : Server × List Event}
    (effect : server.Effect conn self env (.accept req session) result) :
    server.transfers.transfers req.transfer_id = some session := by
  cases effect with
  | openFailed _ found => exact found
  | opened _ found => exact found
  | rejected _ found => exact found

theorem offer?_sentAs {request : Request} (asked : server.offer? self payload env = some request) :
    request.SentAs .FILE_OFFER_REQ payload := by
  unfold offer? at asked
  repeat' split at asked
  all_goals cases asked
  exact ⟨rfl, ‹_›⟩

theorem accept?_sentAs {request : Request} (asked : server.accept? self payload = some request) :
    request.SentAs .FILE_ACCEPT_REQ payload := by
  unfold accept? at asked
  repeat' split at asked
  all_goals cases asked
  exact ⟨rfl, ‹_›⟩

theorem chunk?_sentAs {request : Request} (asked : server.chunk? self payload = some request) :
    request.SentAs .FILE_CHUNK payload := by
  unfold chunk? at asked
  repeat' split at asked
  all_goals cases asked
  exact ⟨rfl, ‹_›⟩

theorem done?_sentAs {request : Request} (asked : server.done? self payload = some request) :
    request.SentAs .FILE_DONE payload := by
  unfold done? at asked
  repeat' split at asked
  all_goals cases asked
  exact ⟨rfl, ‹_›⟩

theorem request?_sentAs {type : UInt8} {request : Request}
    (asked : server.request? self payload env type = some request) :
    type = request.type.code ∧ request.DecodedFrom payload := by
  unfold request? at asked
  have sent {kind : MsgType} (known : MsgType.ofCode? type = some kind)
      (sentAs : request.SentAs kind payload) :
      type = request.type.code ∧ request.DecodedFrom payload := by
    obtain ⟨rfl, decoded⟩ := sentAs
    exact ⟨(MsgType.code_of_ofCode? known).symm, decoded⟩
  split at asked
  · next known => exact sent known (offer?_sentAs asked)
  · next known => exact sent known (accept?_sentAs asked)
  · next known => exact sent known (chunk?_sentAs asked)
  · next known => exact sent known (done?_sentAs asked)
  · cases asked

/-! A decoded message of the right party passes the checks. -/

theorem request?_offer {req : FileOfferReq} {receiver : UserRow}
    (authenticated : self.is_authenticated = true)
    (parsed : FileOfferReq.deserialize.result payload = .ok req)
    (found : server.db.get_user_by_username req.receiver_username env.auth = .ok (some receiver)) :
    server.request? self payload env MsgType.FILE_OFFER_REQ.code = some (.offer req receiver) := by
  simp [request?, offer?, authenticated, parsed, found]

theorem request?_accept {req : FileAcceptReq} {session : TransferSession}
    (authenticated : self.is_authenticated = true)
    (parsed : FileAcceptReq.deserialize.result payload = .ok req)
    (found : server.transfers.transfers req.transfer_id = some session)
    (party : session.receiver_user_id = self.user_id) :
    server.request? self payload env MsgType.FILE_ACCEPT_REQ.code = some (.accept req session) := by
  simp [request?, accept?, authenticated, parsed, TransferManager.get_transfer, found, party]

theorem request?_chunk {chunk : FileChunk} {session : TransferSession}
    (authenticated : self.is_authenticated = true)
    (parsed : FileChunk.deserialize.result payload = .ok chunk)
    (found : server.transfers.transfers chunk.transfer_id = some session)
    (party : session.sender_user_id = self.user_id)
    (running : session.state = .ACCEPTED ∨ session.state = .RECEIVING) :
    server.request? self payload env MsgType.FILE_CHUNK.code = some (.chunk chunk session) := by
  have open_ : ¬ (session.state ≠ .ACCEPTED ∧ session.state ≠ .RECEIVING) := by
    simpa [imp_iff_not_or, not_or] using running
  simp [request?, chunk?, authenticated, parsed, TransferManager.get_transfer, found, party, open_]

theorem request?_done {done : FileDone} {session : TransferSession}
    (authenticated : self.is_authenticated = true)
    (parsed : FileDone.deserialize.result payload = .ok done)
    (found : server.transfers.transfers done.transfer_id = some session)
    (party : session.sender_user_id = self.user_id) :
    server.request? self payload env MsgType.FILE_DONE.code = some (.done done session) := by
  simp [request?, done?, authenticated, parsed, TransferManager.get_transfer, found, party]

end Server

end FileShareX.Net

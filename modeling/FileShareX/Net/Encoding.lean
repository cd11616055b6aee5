import FileShareX.Net.Online
import FileShareX.Protocol.RoundTrip
import FileShareX.Storage.Placement

/-!
# What becomes of the responses on the wire

The encoders cast every length to 16 bits.  How long a text or a list can get is
decided elsewhere: by the names logins look up, by the length of an offered file
name, by the number of entries of the session table.
-/

namespace FileShareX.Protocol

open Wire Reader

theorem throws_readU16 {pos : Nat} {post : String → Prop} : Throws (readU16 pos) post :=
  .returns fun v => ⟨_, result_readU16 pos v⟩

theorem throws_readU32 {pos : Nat} {post : String → Prop} : Throws (readU32 pos) post :=
  .returns fun v => ⟨_, result_readU32 pos v⟩

theorem throws_readU64 {pos : Nat} {post : String → Prop} : Throws (readU64 pos) post :=
  .returns fun v => ⟨_, result_readU64 pos v⟩

theorem throws_bytes {pos len : Nat} {post : String → Prop} : Throws (bytes pos len) post :=
  .returns fun v => ⟨_, result_bytes pos len v⟩

theorem FileOfferReq.deserialize_throws :
    Throws FileOfferReq.deserialize fun text => text.length ≤ 64 := by
  refine .bind (.returns fun v => ⟨_, result_size v⟩) fun size => ?_
  refine .bind (.throwIf (by decide)) fun _ => ?_
  refine .bind (.returns fun v => ?_) fun first => ?_
  · rw [result_ite]
    split <;> exact ⟨_, rfl⟩
  refine .bind (.throwIf (by decide)) fun _ => .bind throws_readU16 fun _ => ?_
  refine .bind (.throwIf (by decide)) fun _ => .bind throws_bytes fun _ => ?_
  refine .bind (.throwIf (by decide)) fun _ => .bind throws_readU16 fun _ => ?_
  refine .bind (.throwIf (by decide)) fun _ => .bind throws_bytes fun _ => ?_
  refine .bind (.throwIf (by decide)) fun _ => .bind throws_readU64 fun _ => ?_
  refine .bind (.throwIf (by decide)) fun _ => .bind throws_readU32 fun _ => ?_
  exact .returns fun v => ⟨_, rfl⟩

theorem FileAcceptReq.deserialize_throws :
    Throws FileAcceptReq.deserialize fun text => text.length ≤ 64 := by
  refine .bind (.returns fun v => ⟨_, result_size v⟩) fun size => ?_
  refine .bind (.throwIf (by decide)) fun _ => .bind throws_readU64 fun _ => ?_
  exact .bind (.returns fun v => ⟨_, rfl⟩) fun _ => .returns fun v => ⟨_, rfl⟩

end FileShareX.Protocol

namespace FileShareX.Net

open Wire Posix Protocol Storage Transfer Machine

namespace Response

def Survives : Response → Prop
  | onlineListResp resp => ∀ beyond, OnlineListResp.deserialize.result ⟨resp.serialize, beyond⟩ = .ok resp
  | fileOfferResp resp => ∀ beyond, FileOfferResp.deserialize.result ⟨resp.serialize, beyond⟩ = .ok resp
  | fileAcceptResp resp =>
    ∀ beyond, FileAcceptResp.deserialize.result ⟨resp.serialize, beyond⟩ = .ok resp
  | fileResult resp => ∀ beyond, FileResult.deserialize.result ⟨resp.serialize, beyond⟩ = .ok resp
  | _ => True

theorem survives_offer_ok (transfer_id : UInt64) :
    (fileOfferResp { ok := true, transfer_id }).Survives := fun _ =>
  FileOfferResp.result_of_hasAt (Nat.zero_le _) (hasAt_self _ _)

theorem survives_offer_failed {reason : Bytes} (short : reason.length ≤ 65535) :
    (fileOfferResp { ok := false, transfer_id := 0, reason }).Survives := fun _ =>
  FileOfferResp.result_of_hasAt short (hasAt_self _ _)

theorem survives_accept_ok : (fileAcceptResp { ok := true }).Survives := fun _ =>
  FileAcceptResp.result_of_hasAt (Nat.zero_le _) (hasAt_self _ _)

theorem survives_accept_failed {reason : Bytes} (short : reason.length ≤ 65535) :
    (fileAcceptResp { ok := false, reason }).Survives := fun _ =>
  FileAcceptResp.result_of_hasAt short (hasAt_self _ _)

theorem survives_result {resp : FileResult} (short : resp.path_or_reason.length ≤ 65535) :
    (fileResult resp).Survives := fun _ => FileResult.result_of_hasAt short (hasAt_self _ _)

theorem survives_list {resp : OnlineListResp} (few : resp.usernames.length ≤ 65535)
    (short : ∀ name ∈ resp.usernames, name.length ≤ 65535) : (onlineListResp resp).Survives :=
  fun _ => OnlineListResp.result_of_hasAt few short (hasAt_self _ _)

end Response

namespace Server

def AllSurvive (events : List Event) : Prop :=
  ∀ event ∈ events, ∀ peer response, event = .sent peer response → response.Survives

variable {server : Server} {conn : ConnId} {self : TcpSession} {payload : Vec} {env : Env}

theorem ascii_length (text : String) : (ascii text).length = text.length := by
  rw [ascii, List.length_map, String.length_toList]

theorem silent_survives : AllSurvive [] := fun _ member => nomatch member

theorem sent_survives {response : Response} (survives : response.Survives) :
    AllSurvive [.sent conn response] := by
  intro event member peer other sent
  cases List.mem_singleton.mp member
  cases sent
  exact survives

theorem offerError_survives {reason : String} (short : reason.length ≤ 65535) :
    AllSurvive (offerError conn (ascii reason)) :=
  sent_survives (Response.survives_offer_failed (by rwa [ascii_length]))

theorem acceptError_survives {reason : String} (short : reason.length ≤ 65535) :
    AllSurvive (acceptError conn (ascii reason)) :=
  sent_survives (Response.survives_accept_failed (by rwa [ascii_length]))

theorem call_survives {event : Event} {events : List Event}
    (call : ∀ peer response, event ≠ .sent peer response) (rest : AllSurvive events) :
    AllSurvive (event :: events) := by
  intro other member peer response sent
  rcases List.mem_cons.mp member with rfl | member
  · exact absurd sent (call peer response)
  · exact rest other member peer response sent

theorem handle_file_offer_req_survives
    (database : ∀ text ∈ env.auth.query, text.length ≤ 65528) :
    AllSurvive (server.handle_file_offer_req conn self payload env).2 := by
  have thrown {text : String} (short : text.length ≤ 65528) : ("error: " ++ text).length ≤ 65535 := by
    rw [String.length_append]
    have : "error: ".length = 7 := by decide
    omega
  unfold handle_file_offer_req
  split
  · exact offerError_survives (by decide)
  · split
    · next what failed =>
      have short := FileOfferReq.deserialize_throws _ _ failed
      exact offerError_survives (thrown (by omega))
    · dsimp only
      split
      · next what failed =>
        refine offerError_survives (thrown (database what ?_))
        unfold Db.get_user_by_username at failed
        split at failed
        · next query =>
          cases failed
          exact query
        · cases failed
      · exact offerError_survives (by decide)
      · split
        · exact call_survives (by simp) (offerError_survives (by decide))
        · exact call_survives (by simp) (sent_survives (Response.survives_offer_ok _))

theorem notifySender_survives {session : TransferSession} {resp : FileAcceptResp}
    (survives : (Response.fileAcceptResp resp).Survives) {events : List Event}
    (rest : AllSurvive events) : AllSurvive (server.notifySender session resp ++ events) := by
  intro event member peer response sent
  rcases List.mem_append.mp member with told | member
  · obtain ⟨peer', rfl⟩ := notifySender_sent told
    cases sent
    exact survives
  · exact rest event member peer response sent

theorem accepted_survives : AllSurvive [.sent conn (.fileAcceptResp { ok := true })] :=
  sent_survives Response.survives_accept_ok

theorem handle_file_accept_req_survives :
    AllSurvive (server.handle_file_accept_req conn self payload env).2 := by
  unfold handle_file_accept_req
  split
  · exact acceptError_survives (by decide)
  · split
    · next what failed =>
      have short := FileAcceptReq.deserialize_throws _ _ failed
      refine acceptError_survives ?_
      rw [String.length_append]
      have : "error: ".length = 7 := by decide
      omega
    · dsimp only
      split
      · exact acceptError_survives (by decide)
      · split
        · exact acceptError_survives (by decide)
        · split
          · split
            · exact call_survives (by simp) (acceptError_survives (by decide))
            · exact call_survives (by simp)
                (notifySender_survives Response.survives_accept_ok accepted_survives)
          · exact notifySender_survives (Response.survives_accept_failed (by decide)) accepted_survives

theorem handle_file_chunk_survives :
    AllSurvive (server.handle_file_chunk self payload env).2 := by
  unfold handle_file_chunk
  dsimp only
  repeat' split
  all_goals
    intro event member peer response sent
    subst sent
    simp at member

theorem handle_file_done_survives
    (path : ∀ done session, server.done? self payload = some (.done done session) →
      session.file_handle = none ∨ env.io.rename = false ∨ session.final_file_path.length ≤ 65535) :
    AllSurvive (server.handle_file_done conn self payload env).2 := by
  unfold handle_file_done
  cases authenticated : self.is_authenticated with
  | false => exact silent_survives
  | true =>
    simp only [Bool.not_true, Bool.false_eq_true, if_false]
    cases parsed : FileDone.deserialize.result payload with
    | error what => exact silent_survives
    | ok done =>
      dsimp only
      cases found : server.transfers.get_transfer done.transfer_id with
      | none => exact silent_survives
      | some session =>
        dsimp only
        by_cases party : session.sender_user_id = self.user_id
        · rw [if_neg (not_not.mpr party)]
          have fits := path done session (by simp [done?, authenticated, parsed, found, party])
          split
          · have short : (ascii "Failed to finalize file").length ≤ 65535 := by decide
            exact call_survives (by simp) (sent_survives (Response.survives_result short))
          · next success =>
            refine call_survives (by simp) (sent_survives (Response.survives_result ?_))
            rcases fits with closed | refused | short
            · rw [closed] at success
              exact absurd rfl success
            · rw [FileStore.finalize_file_no_rename (Prod.eta _).symm refused] at success
              exact absurd rfl success
            · exact short
        · rw [if_pos party]
          exact silent_survives

theorem done?_found {done : FileDone} {session : TransferSession}
    (asked : server.done? self payload = some (.done done session)) :
    server.transfers.transfers done.transfer_id = some session := by
  unfold done? at asked
  repeat' split at asked
  all_goals cases asked
  assumption

theorem handle_online_list_req_survives
    (few : (SessionManager.online server.live server.session_manager.sessions).length ≤ 65535)
    (named : ∀ conn self, server.live conn = some self → self.username.length ≤ 65535) :
    AllSurvive (server.handle_online_list_req conn).2 := by
  unfold handle_online_list_req
  rw [SessionManager.get_online_usernames_eq]
  refine sent_survives (Response.survives_list (by simpa using few) fun name member => ?_)
  obtain ⟨⟨other, self⟩, online, rfl⟩ := List.mem_map.mp member
  exact named other self (SessionManager.mem_online.mp online).1

theorem handle_register_req_survives :
    AllSurvive (server.handle_register_req conn payload env).2 := by
  unfold handle_register_req
  dsimp only
  split <;> exact sent_survives trivial

theorem handle_login_req_survives :
    AllSurvive (server.handle_login_req conn self payload env).2 := by
  unfold handle_login_req
  dsimp only
  split
  · exact sent_survives trivial
  · split <;> exact sent_survives trivial

theorem handle_message_survives {type : UInt8}
    (failure : type = MsgType.FILE_OFFER_REQ.code → ∀ text ∈ env.auth.query, text.length ≤ 65528)
    (entries : type = MsgType.ONLINE_LIST_REQ.code →
      (SessionManager.online server.live server.session_manager.sessions).length ≤ 65535)
    (named : ∀ conn self, server.live conn = some self → self.username.length ≤ 65535)
    (path : ∀ done session, server.request? self payload env type = some (.done done session) →
      server.transfers.transfers done.transfer_id = some session →
      session.file_handle = none ∨ env.io.rename = false ∨ session.final_file_path.length ≤ 65535) :
    AllSurvive (server.handle_message conn self payload env type).2 := by
  unfold handle_message
  unfold request? at path
  cases known : MsgType.ofCode? type with
  | none => exact silent_survives
  | some kind =>
    rw [known] at path
    have code := (MsgType.code_of_ofCode? known).symm
    cases kind with
    | PING => exact sent_survives trivial
    | REGISTER_REQ => exact handle_register_req_survives
    | LOGIN_REQ => exact handle_login_req_survives
    | ONLINE_LIST_REQ => exact handle_online_list_req_survives (entries code) named
    | FILE_OFFER_REQ => exact handle_file_offer_req_survives (failure code)
    | FILE_ACCEPT_REQ => exact handle_file_accept_req_survives
    | FILE_CHUNK => exact handle_file_chunk_survives
    | FILE_DONE =>
      exact handle_file_done_survives fun done session asked =>
        path done session asked (done?_found asked)
    | _ => exact silent_survives

end Server

namespace Observed

variable {start state : Observed} {label : Label}

def Named (state : Observed) : Prop :=
  ∀ conn self, state.server.live conn = some self → self.username.length ≤ 65535

theorem Named.step (named : state.Named) (label : Label) : (state.step label).Named := by
  intro conn self found
  have update {other : ConnId} {change : Option TcpSession}
      (short : ∀ self, change = some self → self.username.length ≤ 65535)
      (found : Function.update state.server.live other change conn = some self) :
      self.username.length ≤ 65535 := by
    by_cases same : conn = other
    · rw [same, Function.update_self] at found
      exact short self found
    · rw [Function.update_of_ne same] at found
      exact named conn self found
  cases Server.step_sessionStep state.server label with
  | kept live =>
    rw [show (state.step label).server.live = state.server.live from live] at found
    exact named conn self found
  | connected live =>
    rw [show (state.step label).server.live = _ from live] at found
    refine update (fun self new => ?_) found
    cases new
    exact Nat.zero_le _
  | loggedIn _ _ _ _ short live =>
    rw [show (state.step label).server.live = _ from live] at found
    refine update (fun self new => ?_) found
    cases new
    exact short
  | dropped _ _ live =>
    rw [show (state.step label).server.live = _ from live] at found
    refine update (fun self new => ?_) found
    cases new
    exact Nat.zero_le _
  | released live =>
    rw [show (state.step label).server.live = _ from live] at found
    refine update (fun self new => ?_) found
    cases new

/-- The path of a transfer is the one its number and its file name give; number zero has none. -/
def Pathed (state : Observed) : Prop :=
  ∀ id session, state.server.transfers.transfers id = some session →
    session.final_file_path = [] ∨
      session.final_file_path = state.server.store.get_file_path id session.filename

theorem Pathed.step (pathed : state.Pathed) (label : Label) : (state.step label).Pathed := by
  intro id session found
  rw [(step_root state label).1]
  rcases record_step found with ⟨old, before, kept⟩ | ⟨_, _, _, _, -, -, rfl, rfl⟩
  · rw [kept]
    exact pathed id old before
  · unfold Server.offered
    dsimp only
    split
    · exact .inl rfl
    · exact .inr rfl

theorem named_run (boot : start.Booted) (labels : List Label) : (run step start labels).Named := by
  induction labels using List.reverseRecOn with
  | nil =>
    intro conn self found
    rw [run_nil, boot.fresh.2.2.2.1] at found
    cases found
  | append_singleton labels label ih =>
    rw [run_concat]
    exact ih.step label

theorem pathed_run (boot : start.Booted) (labels : List Label) : (run step start labels).Pathed := by
  induction labels using List.reverseRecOn with
  | nil =>
    intro id session found
    rw [run_nil, boot.fresh.2.1] at found
    cases found
  | append_singleton labels label ih =>
    rw [run_concat]
    exact ih.step label

/-- Where the file of a transfer is saved can be said in 65535 bytes, if it is saved at all. -/
def PathFits (state : Observed) (io : Io) : Request → Prop
  | .done done session =>
    session.file_handle = none ∨ io.rename = false ∨
      (state.server.store.get_file_path done.transfer_id session.filename).length ≤ 65535
  | _ => True

instance (state : Observed) (io : Io) : DecidablePred (state.PathFits io)
  | .offer _ _ => .isTrue trivial
  | .accept _ _ => .isTrue trivial
  | .chunk _ _ => .isTrue trivial
  | .done _ _ => inferInstanceAs (Decidable (_ ∨ _))

/-- What is to be sent fits: the text of a database error, the number of entries that lead
to users who are online, and the path of a finished file. -/
structure ResponsesFit (state : Observed) (type : UInt8) (env : Env) (label : Label) : Prop where
  failure : type = MsgType.FILE_OFFER_REQ.code → ∀ text ∈ env.auth.query, text.length ≤ 65528
  entries : type = MsgType.ONLINE_LIST_REQ.code →
    (SessionManager.online state.server.live state.server.session_manager.sessions).length ≤ 65535
  path : ∀ request ∈ state.asks label, state.PathFits env.io request

/-- In every run, the peer decodes a response to the value that was serialized, unless
the response does not fit. -/
theorem responses_survive_encoding (boot : start.Booted) (labels : List Label) {conn : ConnId}
    {type : UInt8} {payload : Vec} {env : Env}
    (fits : (run step start labels).ResponsesFit type env (.receive conn type payload env))
    {peer : ConnId} {response : Response}
    (sent : .sent peer response ∈ (run step start labels).events (.receive conn type payload env)) :
    response.Survives := by
  have named := named_run boot labels
  have pathed := pathed_run boot labels
  generalize run step start labels = state at *
  obtain ⟨failure, entries, path⟩ := fits
  unfold events Server.step at sent
  unfold asks Server.asks at path
  dsimp only at sent path
  cases found : state.server.live conn with
  | none =>
    rw [found] at sent
    cases sent
  | some self =>
    rw [found] at sent path
    dsimp only at sent path
    by_cases reading : state.server.reading conn = true
    · rw [if_pos reading] at sent path
      refine Server.handle_message_survives failure entries named
        (fun done session asked found => ?_) _ sent _ _ rfl
      refine (path _ asked).imp_right (Or.imp_right fun short => ?_)
      rcases pathed _ session found with none | same
      · rw [none]
        exact Nat.zero_le _
      · rwa [same]
    · rw [if_neg reading] at sent
      cases sent

theorem responses_survive_encoding_sample :
    (Response.onlineListResp ⟨[ascii "alice"]⟩).Survives :=
  @responses_survive_encoding _ Sample.booted [.connect, Sample.login 0 "alice" 1] 0
    MsgType.ONLINE_LIST_REQ.code ⟨[], fun _ => 0⟩ {} ⟨by decide, by decide, by decide⟩ 0 _ (by decide)

/-- A length field of 16 bits cannot announce more. -/
theorem length_of_result {v : Vec} {result : FileResult}
    (parsed : FileResult.deserialize.result v = .ok result) : result.path_or_reason.length ≤ 65535 := by
  unfold FileResult.deserialize at parsed
  simp only [Reader.result_bind, Reader.result_size, Reader.ok_bind, Reader.result_throwIf,
    result_readU64, Reader.result_byte, Reader.result_ite, result_readU16, Reader.result_bytes,
    Reader.result_pure] at parsed
  have bound := (ntohs (v.slice 9 2)).toNat_lt
  split at parsed
  · cases parsed
  · split at parsed
    · split at parsed
      · cases parsed
        rw [Vec.slice_length]
        omega
      · cases parsed
        exact Nat.zero_le _
    · cases parsed
      exact Nat.zero_le _

/-- A user who offers a file to himself, accepts it and finishes it is told its path, if
the file can be opened and renamed. -/
theorem own_file_result {conn : ConnId} {self : TcpSession} {account : UserRow} {req : FileOfferReq}
    {payload : Vec} {offering accepting finishing : Env} {id : UInt64} {os : Os} {file_handle : Ptr}
    (alive : state.server.live conn = some self) (reading : state.server.reading conn = true)
    (authenticated : self.is_authenticated = true) (own : account.id = self.user_id)
    (parsed : FileOfferReq.deserialize.result payload = .ok req)
    (known : state.server.db.get_user_by_username req.receiver_username offering.auth =
      .ok (some account))
    (next : state.server.transfers.next_transfer_id = id)
    (opens : state.server.store.open_for_write state.server.os id req.filename accepting.io =
      (os, some file_handle))
    (renames : (state.server.store.finalize_file os id req.filename (some file_handle)
      finishing.io).2 = true) :
    .sent conn (.fileResult ⟨id, true, (state.server.offered self req account).final_file_path⟩) ∈
      (run step state [.receive conn MsgType.FILE_OFFER_REQ.code payload offering,
        .receive conn MsgType.FILE_ACCEPT_REQ.code
          ⟨FileAcceptReq.serialize ⟨id, true⟩, fun _ => 0⟩ accepting]).events
        (.receive conn MsgType.FILE_DONE.code ⟨FileDone.serialize ⟨id, 0, 0⟩, fun _ => 0⟩
          finishing) := by
  rw [run_cons, run_cons, run_nil]
  generalize offers : state.step (.receive conn MsgType.FILE_OFFER_REQ.code payload offering) = offered
  obtain ⟨-, _, effect, -, stepped⟩ :=
    effect_of_request alive reading (Server.request?_offer authenticated parsed known)
  rw [offers] at stepped
  cases effect
  rw [next] at stepped
  have found : offered.server.transfers.transfers id = some (state.server.offered self req account) := by
    rw [stepped]
    exact TransferManager.put_self
  generalize accepts : offered.step (.receive conn MsgType.FILE_ACCEPT_REQ.code
    ⟨FileAcceptReq.serialize ⟨id, true⟩, fun _ => 0⟩ accepting) = accepted
  have accepts_passes : offered.server.request? self ⟨FileAcceptReq.serialize ⟨id, true⟩, fun _ => 0⟩
      accepting MsgType.FILE_ACCEPT_REQ.code = some (.accept _ _) :=
    Server.request?_accept authenticated (FileAcceptReq.result_serialize ⟨id, true⟩ fun _ => 0) found own
  obtain ⟨-, _, effect, -, stepped₂⟩ := effect_of_request
    (show offered.server.live conn = some self by rw [stepped]; exact alive)
    (show offered.server.reading conn = true by rw [stepped]; exact reading) accepts_passes
  rw [accepts] at stepped₂
  cases effect with
  | rejected _ _ _ reject => cases reject
  | openFailed _ _ _ _ called =>
    rw [stepped] at called
    cases opens.symm.trans called
  | opened _ _ _ _ called =>
  rw [stepped] at called
  cases opens.symm.trans called
  have found₂ : accepted.server.transfers.transfers id =
      some { state.server.offered self req account with
        state := .ACCEPTED, file_handle := some file_handle } := by
    rw [stepped₂]
    exact TransferManager.put_self
  have finish_passes : accepted.server.request? self ⟨FileDone.serialize ⟨id, 0, 0⟩, fun _ => 0⟩
      finishing MsgType.FILE_DONE.code = some (.done _ _) :=
    Server.request?_done authenticated (FileDone.result_serialize ⟨id, 0, 0⟩ fun _ => 0) found₂ rfl
  obtain ⟨-, _, effect, sent, -⟩ := effect_of_request
    (show accepted.server.live conn = some self by rw [stepped₂, stepped]; exact alive)
    (show accepted.server.reading conn = true by rw [stepped₂, stepped]; exact reading) finish_passes
  rw [sent]
  cases effect with
  | finalizeFailed _ _ _ called =>
    rw [stepped₂, stepped] at called
    rw [show state.server.store.finalize_file os id req.filename (some file_handle) _ = (_, false)
      from called] at renames
    cases renames
  | finalized => exact List.mem_cons_of_mem _ (List.mem_singleton.mpr rfl)

def nameOffer (name : Bytes) : FileOfferReq :=
  { receiver_username := ascii "alice", filename := name, chunk_size := 1024 }

/-- Alice logs in, and offers, accepts and finishes a file whose name shows as `a`. -/
def nameLabels (name : Bytes) : List Label :=
  [.connect, Sample.login 0 "alice" 1,
    Sample.receive 0 .FILE_OFFER_REQ (nameOffer name).serialize (Sample.env 0 0), Sample.accept 0 1 5]

theorem name_result_sent {name : Bytes} (nul : (0 : UInt8) ∈ name)
    (same : cString name = cString [97, 0]) (fits : name.length < 2 ^ 16) :
    .sent 0 (.fileResult ⟨1, true, Sample.store.get_file_path 1 name⟩) ∈
      (run step Sample.start (nameLabels name)).events (Sample.done 0 1 0 0) := by
  let alice : TcpSession := ⟨hex (List.replicate 32 1), 1, ascii "alice"⟩
  let account : UserRow := ⟨1, ascii "alice", ascii "alice@example.org", []⟩
  have labels : nameLabels name = [.connect, Sample.login 0 "alice" 1] ++
      [Sample.receive 0 .FILE_OFFER_REQ (nameOffer name).serialize (Sample.env 0 0),
        Sample.accept 0 1 5] := rfl
  rw [labels, run_append]
  generalize reached : run step Sample.start [.connect, Sample.login 0 "alice" 1] = state
  have alive : state.server.live 0 = some alice := by rw [← reached]; decide
  have reading : state.server.reading 0 = true := by rw [← reached]; decide
  have known : state.server.db.get_user_by_username (ascii "alice") (Sample.env 0 0).auth =
      .ok (some account) := by
    rw [← reached]
    decide
  have next : state.server.transfers.next_transfer_id = 1 := by rw [← reached]; decide
  have root : state.server.store = Sample.store := by rw [← reached]; rfl
  have opens : (state.server.store.open_for_write state.server.os 1 [97, 0] (Sample.env 5 0).io).2 =
      some 5 := by
    rw [← reached]
    decide
  have renames : (state.server.store.finalize_file
      (state.server.store.open_for_write state.server.os 1 [97, 0] (Sample.env 5 0).io).1 1 [97, 0]
      (some 5) (Sample.env 0 0).io).2 = true := by
    rw [← reached]
    decide
  -- The system sees the same name in both.
  rw [← FileStore.open_for_write_of_nul nul (by decide) same] at opens renames
  rw [← FileStore.finalize_file_of_nul nul (by decide) same] at renames
  obtain ⟨os, called⟩ : ∃ os, state.server.store.open_for_write state.server.os 1
      (nameOffer name).filename (Sample.env 5 0).io = (os, some 5) := ⟨_, Prod.ext rfl opens⟩
  rw [show state.server.store.open_for_write state.server.os 1 name _ = _ from called] at renames
  have path : (state.server.offered alice (nameOffer name) account).final_file_path =
      Sample.store.get_file_path 1 name := by
    rw [Server.offered, next, root]
    rfl
  have parsed : FileOfferReq.deserialize.result ⟨(nameOffer name).serialize, fun _ => 0⟩ =
      .ok (nameOffer name) :=
    FileOfferReq.result_serialize (show (ascii "alice").length < 2 ^ 16 by decide) fits _
  have sent := own_file_result alive reading rfl rfl parsed known next called renames
  rwa [path] at sent

/-- A name of 65535 bytes, of which the system sees the first. -/
theorem long_path_corrupted :
    ∃ start labels conn type payload env peer response, start.Booted ∧
      .sent peer response ∈ (run step start labels).events (.receive conn type payload env) ∧
      ¬ response.Survives := by
  have length : (97 :: 0 :: List.replicate 65533 (97 : UInt8)).length = 65535 := by
    rw [List.length_cons, List.length_cons, List.length_replicate]
  have nul : (0 : UInt8) ∈ 97 :: 0 :: List.replicate 65533 (97 : UInt8) :=
    List.mem_cons_of_mem _ List.mem_cons_self
  have sent := name_result_sent nul rfl (by rw [length]; decide)
  refine ⟨Sample.start, _, 0, _, _, _, 0, _, Sample.booted, sent, fun survives => ?_⟩
  have short := length_of_result (survives fun _ => 0)
  have long (name : Bytes) : name.length < (Sample.store.get_file_path 1 name).length := by
    simp [FileStore.get_file_path]
    omega
  have path := long (97 :: 0 :: List.replicate 65533 97)
  rw [length] at path
  exact absurd (Nat.lt_of_lt_of_le path short) (by decide)

end Observed

end FileShareX.Net

import FileShareX.Net.Completion
import FileShareX.Net.Parties
import FileShareX.Net.TerminalStates
import FileShareX.Transfer.Upload

/-!
# Transfers are uploads

The record of a transfer and the file behind it, read together, are an upload.
In a run that keeps the conditions of the transfers' own theorems every step is
a move of the uploads, so that they describe all the server does with files.
-/

namespace FileShareX.Net

open Wire Posix Protocol Storage Transfer Machine

def Event.worked : Event → Bool
  | .open_for_write _ file_handle => file_handle.isSome
  | .write_chunk _ _ _ written => 0 ≤ written
  | .finalize_file _ _ success => success
  | _ => true

/-- What a request of a user comes to; `worked` says whether its calls have. -/
def Request.operation (user : Int64) (next : UInt64) (worked : Bool) :
    Request → UInt64 × Operation Int64 UInt8
  | .offer req receiver => (next, .offer user receiver.id req.filename req.file_size.toNat)
  | .accept req _ =>
    (req.transfer_id,
      .move user (if req.accept then if worked then .accept else .abort else .reject))
  | .chunk message _ =>
    (message.transfer_id, .move user (if worked then .append message.data else .abort))
  | .done message _ => (message.transfer_id, .move user (if worked then .finish else .abort))

namespace Server

def user (server : Server) : Label → Int64
  | .receive conn _ _ _ => ((server.live conn).getD {}).user_id
  | _ => 0

/-- The record with the file it stands for: the `.part` file while it takes chunks, the
final one once it is completed. -/
def upload (server : Server) (id : UInt64) (session : TransferSession) : Upload Int64 UInt8 where
  sender := session.sender_user_id
  receiver := session.receiver_user_id
  filename := session.filename
  size := session.file_size.toNat
  phase :=
    match session.state with
    | .OFFERED => .offered
    | .ACCEPTED | .RECEIVING => (server.os.disk.content (server.tempAt id session)).elim .failed .taking
    | .COMPLETED => (server.os.disk.content (server.finalAt id session)).elim .failed .stored
    | .FAILED => .failed

end Server

namespace Observed

def uploads (state : Observed) (id : UInt64) : Option (Upload Int64 UInt8) :=
  (state.server.transfers.transfers id).map (state.server.upload id)

def operation (state : Observed) (label : Label) : Option (UInt64 × Operation Int64 UInt8) :=
  (state.asks label).map (Request.operation (state.server.user label)
    state.server.transfers.next_transfer_id ((state.events label).all Event.worked))

/-- No request comes out of turn, too late, with the wrong counts, or into the files of
another transfer. -/
def Orderly (state : Observed) (label : Label) : Prop :=
  state.Exact label ∧ state.InTime label ∧ state.KeepsApart label

instance (state : Observed) (label : Label) : Decidable (state.Orderly label) :=
  inferInstanceAs (Decidable (_ ∧ _ ∧ _))

structure Kept (state : Observed) : Prop extends Sequenced state where
  idle : state.OfferedIdle
  saved : ∀ {id session}, state.server.transfers.transfers id = some session →
    session.state = .COMPLETED →
    ∃ content, state.server.os.disk.content (state.server.finalAt id session) = some content

variable {state start : Observed} {labels : List Label} {label : Label} {id : UInt64}
  {session changed : TransferSession}

theorem step_paths (state : Observed) (label : Label) (id : UInt64) (session : TransferSession) :
    (state.step label).server.tempAt id session = state.server.tempAt id session ∧
      (state.step label).server.finalAt id session = state.server.finalAt id session := by
  obtain ⟨store, cwd⟩ := state.step_root label
  constructor
  · rw [Server.tempAt, Server.tempAt, store, cwd]
  · rw [Server.finalAt, Server.finalAt, store, cwd]

/-- The final file of a completed transfer stays, and a transfer that completes has one. -/
theorem Kept.saved_step (kept : state.Kept) (orderly : state.Orderly label)
    (found : (state.step label).server.transfers.transfers id = some session)
    (completed : session.state = .COMPLETED) :
    ∃ content, (state.step label).server.os.disk.content
      ((state.step label).server.finalAt id session) = some content := by
  obtain ⟨exact_, inTime, apart⟩ := orderly
  obtain ⟨old, was, same⟩ : ∃ old, state.server.transfers.transfers id = some old ∧
      session.filename = old.filename := by
    rcases record_step found with ⟨old, was, same⟩ | ⟨-, self, req, receiver, -, -, -, rfl⟩
    · exact ⟨old, was, by rw [same]⟩
    · cases completed
  have path : (state.step label).server.finalAt id session = state.server.finalAt id old := by
    rw [(state.step_paths label id session).2, Server.finalAt, same, Server.finalAt]
  rw [path]
  by_cases before : state.stateOf id = some .COMPLETED
  · rw [stateOf, was, Option.map_some, Option.some.injEq] at before
    have still : (state.step label).server.os.disk.content (state.server.finalAt id old) =
        state.server.os.disk.content (state.server.finalAt id old) := by
      by_cases about : ∀ request, state.asks label = some request → request.about = some id
      · exact finalFile_step inTime was (.inl before) about
      · refine by_contra fun changed => not_affects kept.toStreamsPlaced apart was ?_
          (.inr (.inr (.inr ⟨_, by simp, changed⟩)))
        intro request asked isAbout
        refine about fun request' asked' => ?_
        rw [show state.asks label = some request from asked] at asked'
        exact Option.some.inj asked' ▸ isAbout
    rw [still]
    exact kept.saved was before
  · have completes : state.Completes label id := by
      refine .inr ⟨before, ?_⟩
      rw [stateOf, found, Option.map_some, completed]
    obtain ⟨done, entry, asked, rfl, -, ⟨content, saved, -⟩, -⟩ :=
      completesFully kept.toSequenced exact_ id completes
    have now := asks_found asked rfl rfl
    rw [was] at now
    cases now
    exact ⟨content, saved⟩

theorem Kept.booted (boot : state.Booted) : state.Kept := by
  refine ⟨⟨.booted boot, .booted boot⟩, .booted boot, ?_⟩
  intro id session found
  rw [boot.fresh.2.1] at found
  cases found

theorem Kept.step (kept : state.Kept) (orderly : state.Orderly label) : (state.step label).Kept :=
  ⟨⟨kept.toPartFiles.step (orderly.1.1.ordered kept.toPartFiles kept.unwrapped),
    kept.unwrapped.step kept.toPartFiles orderly.1.1⟩, kept.idle.step label,
    kept.saved_step orderly⟩

/-- While a transfer takes chunks, its upload has what has been counted. -/
theorem Kept.taking (kept : state.Kept)
    (found : state.server.transfers.transfers id = some session) (running : Running session) :
    (state.server.upload id session).phase = .taking (state.received id) := by
  have content := (kept.toPartFiles.holdCounted kept.unwrapped id session found running).1
  unfold Server.upload
  rcases running with now | now <;> simp [now, content]

theorem upload_unfinished (unfinished : session.state ≠ .COMPLETED) (content : Bytes) :
    (state.server.upload id session).phase ≠ .stored content := by
  unfold Server.upload
  cases now : session.state with
  | COMPLETED => exact absurd now unfinished
  | OFFERED => simp
  | FAILED => simp
  | _ => cases state.server.os.disk.content (state.server.tempAt id session) <;> simp

theorem uploads_elsewhere (kept : state.Kept) (apart : state.KeepsApart label)
    (found : state.server.transfers.transfers id = some session)
    (elsewhere : ∀ request ∈ state.asks label, request.about ≠ some id) :
    (state.step label).uploads id = state.uploads id := by
  have spared := not_affects kept.toStreamsPlaced apart found elsewhere
  simp only [Affects, not_or, not_exists, not_and, ne_eq, Decidable.not_not] at spared
  obtain ⟨still, -, -, content⟩ := spared
  obtain ⟨temp, final⟩ := state.step_paths label id session
  rw [uploads, uploads, found, still, Option.map_some, Option.map_some]
  unfold Server.upload
  rw [temp, final, content _ (by simp), content _ (by simp)]

theorem worked_notifySender {resp : FileAcceptResp} :
    (state.server.notifySender session resp).all Event.worked = true := by
  rw [List.all_eq_true]
  intro event told
  obtain ⟨peer, rfl⟩ := Server.notifySender_sent told
  rfl

theorem performs (kept : state.Kept) (orderly : state.Orderly label) {request : Request}
    (asked : state.asks label = some request) {key : UInt64} {op : Operation Int64 UInt8}
    (same : request.operation (state.server.user label) state.server.transfers.next_transfer_id
      ((state.events label).all Event.worked) = (key, op)) :
    Upload.perform (state.uploads key) op = some ((state.step label).uploads key) := by
  have after := kept.step orderly
  obtain ⟨⟨inSequence, confirmed⟩, inTime, apart⟩ := orderly
  have finalizes := @InTime.running_of_finalized state label inTime kept.idle
  unfold InSequence at inSequence
  unfold Confirmed at confirmed
  unfold InTime at inTime
  rw [asked] at inSequence confirmed inTime
  obtain ⟨conn, self, result, ⟨live, payload, env, sent, -⟩, effect, emitted, stepped⟩ := step_effect asked
  have user : state.server.user label = self.user_id := by
    rw [sent]
    simp [Server.user, live]
  rw [user, emitted] at same
  -- Every move is of a party, and leads to what the record and the disk say afterwards.
  have moved {session changed : TransferSession} {move : Move UInt8}
      (found : state.server.transfers.transfers key = some session)
      (now : (state.step label).server.transfers.transfers key = some changed)
      (terms : { state.server.upload key session with
        phase := ((state.step label).server.upload key changed).phase } =
          (state.step label).server.upload key changed)
      (allows : (state.server.upload key session).Allows self.user_id move)
      (acted : (state.server.upload key session).phase.act session.file_size.toNat move =
        some ((state.step label).server.upload key changed).phase) :
      Upload.perform (state.uploads key) (.move self.user_id move) =
        some ((state.step label).uploads key) := by
    rw [uploads, uploads, found, now, Option.map_some, Option.map_some,
      Upload.perform_move allows acted, terms]
  have fails {session : TransferSession} {move : Move UInt8}
      (found : state.server.transfers.transfers key = some session)
      (now : (state.step label).server.transfers.transfers key =
        some { session with state := .FAILED })
      (unfinished : session.state ≠ .COMPLETED) (ends : move = .reject ∨ move = .abort)
      (allows : (state.server.upload key session).Allows self.user_id move) :
      Upload.perform (state.uploads key) (.move self.user_id move) =
        some ((state.step label).uploads key) :=
    moved found now rfl allows (Phase.act_fails (upload_unfinished unfinished) ends)
  cases effect with
  | @offered req receiver authenticated =>
    cases same
    rw [uploads, uploads, stepped]
    rw [show state.server.transfers.transfers _ = none from inTime]
    simp [Server.upload, Server.offered, Upload.perform]
  | openFailed authenticated found party accept called =>
    simp only [accept, if_true] at inTime
    simp only [Request.operation, accept, if_true] at same
    cases same
    refine fails found (by simp [stepped]) ?_ (.inr rfl) (.inr party.symm)
    rcases inTime with now | now <;> simp [now]
  | @opened req session os file_handle authenticated found party accept called =>
    obtain ⟨first, -⟩ := inSequence accept
    simp only [accept, if_true] at inTime
    simp only [Request.operation, accept, if_true] at same
    have worked : (Event.open_for_write req.transfer_id (some file_handle) ::
        (state.server.notifySender session { ok := true } ++
          [.sent conn (.fileAcceptResp { ok := true })])).all Event.worked = true := by
      simp [Event.worked, worked_notifySender]
    rw [worked] at same
    cases same
    have now : (state.step label).server.transfers.transfers req.transfer_id =
        some { session with state := .ACCEPTED, file_handle := some file_handle } := by
      simp [stepped]
    have none : state.received req.transfer_id = [] := by
      rw [received, (kept.counts found).eq_nil (kept.unwrapped _ _ found).1 first]
      rfl
    have empty : (state.step label).received req.transfer_id = [] := by
      rw [← none, received, received, stepped]
      simp [Ledger.record]
    refine moved found now rfl party.symm ?_
    rw [after.taking now (.inl rfl), empty]
    rcases inTime with offered | accepted
    · simp [Server.upload, offered, Phase.act]
    · rw [kept.taking found (.inl accepted), none]
      rfl
  | rejected authenticated found party reject =>
    simp only [reject, Bool.false_eq_true, if_false] at inTime
    simp only [Request.operation, reject, Bool.false_eq_true, if_false] at same
    cases same
    exact fails found (by simp [stepped]) inTime (.inl rfl) party.symm
  | writeFailed authenticated found party running called failed =>
    simp only [Request.operation, List.all_cons, Event.worked, not_le.mpr failed, decide_false,
      Bool.false_and, Bool.false_eq_true, if_false] at same
    cases same
    refine fails found (by simp [stepped]) ?_ (.inr rfl) (.inl party.symm)
    rcases running with now | now <;> simp [now]
  | @received chunk session os written authenticated found party running called wrote isNext =>
    have fits := PartFiles.written_inSequence called wrote confirmed
    simp only [Request.operation, List.all_cons, Event.worked, wrote, decide_true, Bool.true_and,
      List.all_nil, if_true] at same
    cases same
    have now : (state.step label).server.transfers.transfers chunk.transfer_id =
        some (session.advance chunk.data.length) := by
      simp [stepped]
    have grown : (state.step label).received chunk.transfer_id =
        state.received chunk.transfer_id ++ chunk.data := by
      rw [received, received, stepped]
      simp [Ledger.record]
    refine moved found now rfl party.symm ?_
    rw [after.taking now (Running.advance running _), kept.taking found running, grown]
    refine Phase.act_append ?_
    rwa [received, ← (kept.counts found).bytes_toNat (kept.unwrapped _ _ found).2]
  | strayed authenticated found party running called wrote notNext =>
    have next := PartFiles.written_inSequence called wrote
      (inSequence.imp_right (Or.imp_left And.left))
    exact absurd next.1 notNext
  | finalizeFailed authenticated found party called =>
    simp only [Request.operation, List.all_cons, Event.worked, Bool.false_and, Bool.false_eq_true,
      if_false] at same
    cases same
    exact fails found (by simp [stepped]) inTime.1 (.inr rfl) (.inl party.symm)
  | @finalized done session os authenticated found party called =>
    have running : Running session := finalizes asked found called
    simp only [Request.operation, List.all_cons, Event.worked, List.all_nil, Bool.and_self,
      if_true] at same
    cases same
    have now : (state.step label).server.transfers.transfers done.transfer_id =
        some { session with state := .COMPLETED } := by
      simp [stepped]
    have complete : session.bytes_received = session.file_size := by
      rcases confirmed with noStream | noRename | rest
      · rw [noStream] at called
        cases called
      · cases FileStore.finalize_file_no_rename called noRename
      · exact rest.2.1
    have content := kept.finalized found running called
    have stored : ((state.step label).server.upload done.transfer_id
        { session with state := .COMPLETED }).phase = .stored (state.received done.transfer_id) := by
      have final := (state.step_paths label done.transfer_id { session with state := .COMPLETED }).2
      have here : (state.step label).server.os = os := by rw [stepped]
      unfold Server.upload
      simp only [final, here]
      rw [show state.server.finalAt done.transfer_id { session with state := .COMPLETED } =
        state.server.finalAt done.transfer_id session from rfl, content]
      rfl
    refine moved found now rfl party.symm ?_
    rw [stored, kept.taking found running]
    refine Phase.act_finish ?_
    rw [received, ← (kept.counts found).bytes_toNat (kept.unwrapped _ _ found).2, complete]

theorem uploads_update (kept : state.Kept) (apart : state.KeepsApart label) {request : Request}
    (asked : state.asks label = some request) (user : Int64) (worked : Bool) :
    let key := (request.operation user state.server.transfers.next_transfer_id worked).1
    (state.step label).uploads = Function.update state.uploads key ((state.step label).uploads key) := by
  have only {key : UInt64} {entry : Option TransferSession}
      (about : request.about = some key ∨ request.about = none)
      (changed : (state.step label).server.transfers.transfers =
        Function.update state.server.transfers.transfers key entry) :
      (state.step label).uploads =
        Function.update state.uploads key ((state.step label).uploads key) := by
    rw [Function.eq_update_iff]
    refine ⟨rfl, fun other ne => ?_⟩
    cases old : state.server.transfers.transfers other with
    | none => rw [uploads, uploads, changed, Function.update_of_ne ne, old, Option.map_none, Option.map_none]
    | some session =>
      refine uploads_elsewhere kept apart old fun request' asked' isOther => ?_
      rw [asked] at asked'
      cases asked'
      rw [isOther] at about
      rcases about with same | none
      · exact ne (Option.some.inj same)
      · cases none
  rcases asks_cases asked with ⟨self, req, receiver, rfl, -, changed⟩ |
    ⟨id, session, entry, about, -, changed⟩
  · exact only (.inr rfl) changed
  · cases request with
    | offer => cases about
    | accept => exact only (.inl rfl) (Option.some.inj about ▸ changed)
    | chunk => exact only (.inl rfl) (Option.some.inj about ▸ changed)
    | done => exact only (.inl rfl) (Option.some.inj about ▸ changed)

theorem uploads_step (kept : state.Kept) (orderly : state.Orderly label) :
    attempt (family Upload.perform) state.uploads (state.operation label).toList =
      some (state.step label).uploads := by
  unfold operation
  cases asked : state.asks label with
  | none =>
    obtain ⟨store, os, transfers, -⟩ := (step_same asked).1
    have still : (state.step label).uploads = state.uploads := by
      funext id
      rw [uploads, uploads, transfers]
      congr 1
      funext session
      unfold Server.upload Server.tempAt Server.finalAt
      rw [store, os]
    rw [still]
    rfl
  | some request =>
    rcases same : request.operation (state.server.user label) state.server.transfers.next_transfer_id
      ((state.events label).all Event.worked) with ⟨key, op⟩
    have changed := uploads_update kept orderly.2.2 asked (state.server.user label)
      ((state.events label).all Event.worked)
    rw [same] at changed
    dsimp only at changed
    simp only [Option.map_some, same, Option.toList_some, attempt_cons, family,
      performs kept orderly asked same, attempt_nil, Option.bind_some]
    exact congrArg some changed.symm

def operations (start : Observed) (labels : List Label) : List (UInt64 × Operation Int64 UInt8) :=
  trace step operation start labels

theorem uploads_booted (boot : start.Booted) : start.uploads = fun _ => none := by
  funext id
  rw [uploads, boot.fresh.2.1]
  rfl

theorem uploads_run (boot : start.Booted) (along : Along step Orderly start labels) :
    attempt (family Upload.perform) (fun _ => none) (operations start labels) =
      some (run step start labels).uploads := by
  rw [← uploads_booted boot]
  exact simulates along (.booted boot) (fun _ _ => Kept.step) fun _ _ => uploads_step

/-- Every orderly run is a run of uploads side by side. -/
theorem transfers_refine_uploads (boot : start.Booted) (along : Along step Orderly start labels) :
    attempt (family Upload.perform) (fun _ => none) (operations start labels) =
      some (run step start labels).uploads :=
  uploads_run boot along

theorem transfers_refine_uploads_sample :
    attempt (family Upload.perform) (fun _ => none) (operations Sample.start Sample.delivery) =
      some (run step Sample.start Sample.delivery).uploads :=
  transfers_refine_uploads Sample.booted (by decide)

/-- What is promised of a completed transfer: there was one offer of it, the moves since are
its parties' own, and its final file is the data its sender has appended, all of it. -/
structure Delivered (state : Observed) (ops : List (Operation Int64 UInt8)) (id : UInt64)
    (session : TransferSession) (moves : List (Operation Int64 UInt8)) : Prop where
  offered : ops = .offer session.sender_user_id session.receiver_user_id session.filename
    session.file_size.toNat :: moves
  parties : ∀ op ∈ moves, ∃ user move, op = .move user move ∧
    (state.server.upload id session).Allows user move
  content : state.server.os.disk.content (state.server.finalAt id session) = some (appended moves)
  complete : (appended moves).length = session.file_size.toNat

/-- In every orderly run the final file of every completed transfer is what the sender
of its offer has appended since the receiver took it. -/
theorem completed_files_delivered (boot : start.Booted) (along : Along step Orderly start labels)
    (id : UInt64) (session : TransferSession)
    (found : (run step start labels).server.transfers.transfers id = some session)
    (completed : session.state = .COMPLETED) :
    ∃ moves, (run step start labels).Delivered (opsAt id (operations start labels)) id session
      moves := by
  have kept : (run step start labels).Kept := along.invariant (.booted boot) fun _ _ => Kept.step
  have ran := attempt_family (uploads_run boot along) id
  rw [uploads, found, Option.map_some] at ran
  obtain ⟨moves, offered, parties, content, complete⟩ := Upload.history ran
  obtain ⟨file, saved⟩ := kept.saved found completed
  have phase : ((run step start labels).server.upload id session).phase = .stored file := by
    unfold Server.upload
    simp only [completed, saved]
    rfl
  have all : file = appended moves := by
    rw [phase] at content
    rcases content with failed | content
    · cases failed
    · exact content
  refine ⟨moves, offered, parties, ?_, ?_⟩
  · rw [saved, all]
  · rw [← all]
    exact complete file phase

theorem completed_files_delivered_sample :
    ∃ session moves, (run step Sample.start Sample.delivery).Delivered
      (opsAt 1 (operations Sample.start Sample.delivery)) 1 session moves := by
  obtain ⟨session, found, completed⟩ : ∃ session,
      (run step Sample.start Sample.delivery).server.transfers.transfers 1 = some session ∧
        session.state = .COMPLETED := by
    have completed : (run step Sample.start Sample.delivery).stateOf 1 = some .COMPLETED := by decide
    exact Option.map_eq_some_iff.mp completed
  obtain ⟨moves, delivered⟩ :=
    completed_files_delivered Sample.booted (by decide) 1 session found completed
  exact ⟨session, moves, delivered⟩

variable {start' : Observed} {labels' : List Label}

/-- Two orderly runs in which the same is done to a transfer leave the same of it, whatever
else happens, to other transfers or to the sessions, in whatever order. -/
theorem transfers_independent (boot : start.Booted) (along : Along step Orderly start labels)
    (boot' : start'.Booted) (along' : Along step Orderly start' labels') (id : UInt64)
    (same : opsAt id (operations start labels) = opsAt id (operations start' labels')) :
    (run step start labels).uploads id = (run step start' labels').uploads id := by
  have ran := attempt_family (uploads_run boot along) id
  have ran' := attempt_family (uploads_run boot' along') id
  rw [same, ran'] at ran
  exact (Option.some.inj ran).symm

/-- The delivery of `Sample`, with a login and an offer of bob in between. -/
def disturbed : List Label :=
  [.connect, Sample.login 0 "alice" 1, Sample.offer 0 "alice" "a" 2, .connect, Sample.accept 0 1 5,
    Sample.login 1 "bob" 2, Sample.chunk 0 1 0 [1, 2], Sample.offer 1 "alice" "b" 2,
    Sample.done 0 1 1 2]

theorem transfers_independent_sample :
    (run step Sample.start Sample.delivery).uploads 1 = (run step Sample.start disturbed).uploads 1 :=
  transfers_independent Sample.booted (by decide) Sample.booted (by decide) 1 (by decide)

end Observed

end FileShareX.Net

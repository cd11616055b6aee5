import FileShareX.Net.StreamOwnership

/-!
# Where the streams in use write

A stream stays on the inode it was opened on.  As long as nobody opens, renames
or replaces the `.part` file of a transfer in use, its stream is the one behind
that name.
-/

namespace FileShareX.Net

open Wire Posix Protocol Storage Transfer Machine

def Running (session : TransferSession) : Prop :=
  session.state = .ACCEPTED ∨ session.state = .RECEIVING

instance (session : TransferSession) : Decidable (Running session) :=
  inferInstanceAs (Decidable (_ ∨ _))

theorem Running.advance {session : TransferSession} (running : Running session) (bytes : Nat) :
    Running (session.advance bytes) := by
  unfold Running TransferSession.advance
  rcases running with accepted | receiving
  · simp [accepted]
  · simp [receiving]

namespace Observed

def otherParts (state : Observed) (id : UInt64) : List Path :=
  state.ledger.created.filterMap fun other =>
    match state.server.transfers.get_transfer other with
    | some session =>
      if other ≠ id ∧ state.ledger.live other = true then some (state.server.tempAt other session)
      else none
    | none => none

theorem mem_otherParts {state : Observed} {id : UInt64} {path : Path} :
    path ∈ state.otherParts id ↔
      ∃ other ∈ state.ledger.created, ∃ session,
        state.server.transfers.transfers other = some session ∧ other ≠ id ∧
          state.ledger.live other = true ∧ state.server.tempAt other session = path := by
  unfold otherParts
  rw [List.mem_filterMap]
  refine exists_congr fun other => and_congr_right fun _ => ?_
  rw [TransferManager.get_transfer]
  cases state.server.transfers.transfers other <;> simp [and_assoc]

/-- An accept or a FILE_DONE does not name the `.part` file of another transfer
in use, and a FILE_DONE that hands over a stream is the first one. -/
def Separate (state : Observed) (label : Label) : Prop :=
  match state.asks label with
  | some (.accept req session) =>
    req.accept = true →
      state.server.tempAt req.transfer_id session ∉ state.otherParts req.transfer_id
  | some (.done done session) =>
    session.file_handle = none ∨ state.ledger.live done.transfer_id = true ∧
      state.server.tempAt done.transfer_id session ∉ state.otherParts done.transfer_id ∧
      state.server.finalAt done.transfer_id session ∉ state.otherParts done.transfer_id
  | _ => True

theorem Separate.doneOnce {state : Observed} {label : Label} (separate : state.Separate label) :
    state.DoneOnce label := by
  unfold Separate at separate
  unfold DoneOnce
  split
  · next done session asked =>
    rw [asked] at separate
    exact separate.imp id And.left
  · trivial

/-- Every transfer in use has its stream on its `.part` file, and no other
transfer in use has the same one. -/
structure StreamsPlaced (state : Observed) : Prop extends StreamsOwned state where
  placed : ∀ {id session f}, state.server.transfers.transfers id = some session →
    state.ledger.live id = true → session.file_handle = some f →
    ∃ stream, state.server.os.streams f = some stream ∧
      state.server.os.disk.node (state.server.tempAt id session) = some (.file stream.inode)
  apart : ∀ {id session}, state.server.transfers.transfers id = some session →
    state.ledger.live id = true → state.server.tempAt id session ∉ state.otherParts id

namespace StreamsPlaced

variable {state after : Observed} {id : UInt64} {session session' : TransferSession}

theorem booted (boot : state.Booted) : state.StreamsPlaced := by
  have none (id : UInt64) : state.server.transfers.transfers id = none := by
    rw [boot.fresh.2.1]
  refine ⟨.booted boot, ?_, ?_⟩ <;> intro id session <;> rw [none] <;> nofun

theorem same (placed : state.StreamsPlaced) (same : state.Same after) : after.StreamsPlaced := by
  refine ⟨placed.toStreamsOwned.same same, ?_, ?_⟩
  all_goals
    obtain ⟨store, os, transfers, ledger⟩ := same
    have temp (id : UInt64) (session : TransferSession) :
        after.server.tempAt id session = state.server.tempAt id session := by
      rw [Server.tempAt, Server.tempAt, store, os]
  · intro id session f
    rw [transfers, ledger, os, temp]
    exact placed.placed
  · intro id session
    have others : after.otherParts id = state.otherParts id := by
      simp only [otherParts, ledger, transfers, temp]
    rw [transfers, ledger, temp, others]
    exact placed.apart

theorem inode_ne (streams : state.StreamsPlaced) {other : UInt64}
    {entry : TransferSession} {inode inode' : Inode}
    (found : state.server.transfers.transfers id = some session)
    (live : state.ledger.live id = true)
    (found' : state.server.transfers.transfers other = some entry)
    (live' : state.ledger.live other = true) (ne : other ≠ id)
    (here : state.server.os.disk.node (state.server.tempAt id session) = some (.file inode))
    (there : state.server.os.disk.node (state.server.tempAt other entry) = some (.file inode')) :
    inode' ≠ inode := by
  rintro rfl
  exact streams.apart found live (mem_otherParts.mpr ⟨other, streams.created found', entry, found', ne,
    live', state.server.os.disk.single there here⟩)

/-- What a step about transfer `id` leaves alone: streams and `.part` files of
every other transfer in use. -/
def Untouched (state : Observed) (id : UInt64) (os : Os) : Prop :=
  ∀ {other entry f stream}, other ≠ id → state.server.transfers.transfers other = some entry →
    state.ledger.live other = true → entry.file_handle = some f →
    state.server.os.streams f = some stream →
    state.server.os.disk.node (state.server.tempAt other entry) = some (.file stream.inode) →
    os.streams f = some stream ∧
      os.disk.node (state.server.tempAt other entry) = some (.file stream.inode) ∧
      os.disk.data stream.inode = state.server.os.disk.data stream.inode

theorem untouched_self : Untouched state id state.server.os :=
  fun _ _ _ _ opened node => ⟨opened, node, rfl⟩

theorem untouched_keeps {os : Os} (streams : os.streams = state.server.os.streams)
    (keeps : state.server.os.disk.KeepsFiles os.disk) : Untouched state id os := by
  intro other entry f stream _ _ _ _ opened node
  exact ⟨by rwa [streams], (keeps.file_iff _ _).mpr node, by rw [keeps.data]⟩

theorem untouched_onStream (placed : state.StreamsPlaced) {os : Os} {f : Ptr}
    (found : state.server.transfers.transfers id = some session)
    (live : state.ledger.live id = true) (handle : session.file_handle = some f)
    (only : state.server.os.OnStream os f) : Untouched state id os := by
  intro other entry g stream ne found' live' handle' opened node
  have owns := (placed.handed found live handle).2.2
  have owns' := (placed.handed found' live' handle').2.2
  have differ : g ≠ f := by
    rintro rfl
    rw [owns] at owns'
    exact ne (Option.some.inj owns').symm
  refine ⟨(only.others g differ).trans opened, by rwa [only.node], only.data _ ?_⟩
  intro own openedOwn same
  obtain ⟨stream', openedOwn', node'⟩ := placed.placed found live handle
  rw [openedOwn] at openedOwn'
  cases openedOwn'
  exact placed.inode_ne found live found' live' ne node' node same.symm

theorem untouched_open {os : Os} {filename : Bytes} {io : Io} {f : Ptr} (owned : state.StreamsOwned)
    (apart : resolve state.server.os.cwd (state.server.store.get_temp_path id filename) ∉
      state.otherParts id)
    (called : state.server.store.open_for_write state.server.os id filename io = (os, some f)) :
    Untouched state id os := by
  obtain ⟨-, unused, made, inode, keeps, truncates, streams⟩ := FileStore.open_for_write_some called
  intro other entry g stream ne found' live' handle' opened node
  have differ : g ≠ f := by
    rintro rfl
    rw [unused] at opened
    cases opened
  have elsewhere : state.server.tempAt other entry ≠
      resolve state.server.os.cwd (state.server.store.get_temp_path id filename) := fun same =>
    apart (mem_otherParts.mpr ⟨other, owned.created found', entry, found', ne, live', same⟩)
  have node' := (keeps.file_iff _ _).mpr node
  refine ⟨by rw [streams, Function.update_of_ne differ, opened],
    (truncates.elsewhere _ elsewhere).trans node', ?_⟩
  rw [truncates.data _ (truncates.inode_ne elsewhere node'), keeps.data]

theorem untouched_finalize {os : Os} {io : Io} {f : Ptr} {success : Bool}
    (placed : state.StreamsPlaced)
    (found : state.server.transfers.transfers id = some session)
    (live : state.ledger.live id = true) (handle : session.file_handle = some f)
    (tempApart : state.server.tempAt id session ∉ state.otherParts id)
    (finalApart : state.server.finalAt id session ∉ state.otherParts id)
    (called : state.server.store.finalize_file state.server.os id session.filename (some f) io =
      (os, success)) : Untouched state id os := by
  obtain ⟨-, streams, renamed⟩ := FileStore.finalize_file_spec called
  have closed : Untouched state id (state.server.os.fclose f io.fclose io.salvaged) :=
    untouched_onStream placed found live handle (.fclose _ _ io.fclose io.salvaged)
  intro other entry g stream ne found' live' handle' opened node
  obtain ⟨opened', node', data'⟩ := closed ne found' live' handle' opened node
  have isPart : state.server.tempAt other entry ∈ state.otherParts id :=
    mem_otherParts.mpr ⟨other, placed.created found', entry, found', ne, live', rfl⟩
  refine ⟨by rw [streams, opened'], ?_⟩
  cases success with
  | false =>
    rw [if_neg (by simp)] at renamed
    rw [renamed]
    exact ⟨node', data'⟩
  | true =>
    rw [if_pos rfl] at renamed
    refine ⟨(renamed.elsewhere _ ?_ ?_).trans node', by rw [renamed.data, data']⟩
    · intro same
      rw [same] at isPart
      exact tempApart isPart
    · intro same
      rw [same] at isPart
      exact finalApart isPart

/-- A step that replaces one record keeps the invariant if it leaves the others
alone and the new record satisfies it. -/
theorem replace (streams : state.StreamsPlaced) (owned : after.StreamsOwned)
    (store : after.server.store = state.server.store)
    (cwd : after.server.os.cwd = state.server.os.cwd)
    (transfers : after.server.transfers.transfers =
      Function.update state.server.transfers.transfers id (some session'))
    (live : ∀ other, other ≠ id → after.ledger.live other = state.ledger.live other)
    (untouched : Untouched state id after.server.os)
    (placed : after.ledger.live id = true → ∀ f, session'.file_handle = some f →
      ∃ stream, after.server.os.streams f = some stream ∧
        after.server.os.disk.node (state.server.tempAt id session') = some (.file stream.inode))
    (apart : after.ledger.live id = true → state.server.tempAt id session' ∉ state.otherParts id) :
    after.StreamsPlaced := by
  have temp (other : UInt64) (entry : TransferSession) :
      after.server.tempAt other entry = state.server.tempAt other entry := by
    rw [Server.tempAt, Server.tempAt, store, cwd]
  have split {other : UInt64} {entry : TransferSession}
      (found : after.server.transfers.transfers other = some entry) :
      other = id ∧ entry = session' ∨
        other ≠ id ∧ state.server.transfers.transfers other = some entry := by
    rw [transfers] at found
    exact TransferManager.put_found found
  refine ⟨owned, ?_, ?_⟩
  · intro other entry f found isLive handle
    rw [temp]
    rcases split found with ⟨rfl, rfl⟩ | ⟨ne, old⟩
    · exact placed isLive f handle
    · rw [live other ne] at isLive
      obtain ⟨stream, opened, node⟩ := streams.placed old isLive handle
      obtain ⟨opened', node', -⟩ := untouched ne old isLive handle opened node
      exact ⟨stream, opened', node'⟩
  · intro other entry found isLive shared
    rw [temp] at shared
    obtain ⟨third, -, entry', found', ne, isLive', same⟩ := mem_otherParts.mp shared
    rw [temp] at same
    rcases split found with ⟨rfl, rfl⟩ | ⟨other_ne, old⟩
    · rcases split found' with ⟨absurd_, -⟩ | ⟨-, old'⟩
      · exact ne absurd_
      · rw [live third ne] at isLive'
        exact apart isLive (mem_otherParts.mpr
          ⟨third, streams.created old', entry', old', ne, isLive', same⟩)
    · rw [live other other_ne] at isLive
      rcases split found' with ⟨rfl, rfl⟩ | ⟨third_ne, old'⟩
      · exact apart isLive' (mem_otherParts.mpr
          ⟨other, streams.created old, entry, old, other_ne, isLive, same.symm⟩)
      · rw [live third third_ne] at isLive'
        exact streams.apart old isLive (mem_otherParts.mpr
          ⟨third, streams.created old', entry', old', ne, isLive', same⟩)

/-- A record that keeps its filename and its stream only needs the stream to stay. -/
theorem put (streams : state.StreamsPlaced) {os : Os} {ledger : Ledger}
    (owned : StreamsOwned
      ⟨{ state.server with os, transfers := state.server.transfers.put id session' }, ledger⟩)
    (found : state.server.transfers.transfers id = some session)
    (filename : session'.filename = session.filename)
    (handle : session'.file_handle = session.file_handle) (cwd : os.cwd = state.server.os.cwd)
    (others : ∀ other, other ≠ id → ledger.live other = state.ledger.live other)
    (same : ledger.live id = true → state.ledger.live id = true)
    (untouched : Untouched state id os)
    (stays : ledger.live id = true → ∀ f stream, session.file_handle = some f →
      state.server.os.streams f = some stream →
      state.server.os.disk.node (state.server.tempAt id session) = some (.file stream.inode) →
      ∃ stream', os.streams f = some stream' ∧
        os.disk.node (state.server.tempAt id session) = some (.file stream'.inode)) :
    StreamsPlaced
      ⟨{ state.server with os, transfers := state.server.transfers.put id session' }, ledger⟩ := by
  have temp : state.server.tempAt id session' = state.server.tempAt id session := by
    rw [Server.tempAt, Server.tempAt, filename]
  refine replace streams owned rfl cwd rfl others untouched ?_ ?_
  · intro live f holds
    rw [handle] at holds
    obtain ⟨stream, opened, node⟩ := streams.placed found (same live) holds
    rw [temp]
    exact stays live f stream holds opened node
  · intro live
    rw [temp]
    exact streams.apart found (same live)

theorem write (streams : state.StreamsPlaced) {os : Os} {ledger : Ledger} {io : Io} {data : Bytes}
    {written : Int}
    (owned : StreamsOwned
      ⟨{ state.server with os, transfers := state.server.transfers.put id session' }, ledger⟩)
    (found : state.server.transfers.transfers id = some session)
    (filename : session'.filename = session.filename)
    (handle : session'.file_handle = session.file_handle) (live : ledger.live = state.ledger.live)
    (running : Running session)
    (called : FileStore.write_chunk state.server.os session.file_handle data io = (os, written)) :
    StreamsPlaced
      ⟨{ state.server with os, transfers := state.server.transfers.put id session' }, ledger⟩ := by
  have isLive := streams.running found running
  obtain ⟨_, f, found', holds, -, -⟩ := streams.live isLive
  rw [found] at found'
  cases found'
  rw [holds] at called
  obtain ⟨only, kept⟩ := FileStore.write_chunk_onStream called
  refine streams.put owned found filename handle only.cwd (fun _ _ => by rw [live])
    (fun _ => isLive) (untouched_onStream streams found isLive holds only) ?_
  intro _ g stream holds' opened node
  rw [holds] at holds'
  cases holds'
  obtain ⟨stream', opened'⟩ := Option.isSome_iff_exists.mp
    ((kept f).trans (Option.isSome_iff_exists.mpr ⟨stream, opened⟩))
  obtain ⟨stream₀, opened₀, same⟩ := only.inode stream' opened'
  rw [opened] at opened₀
  cases opened₀
  exact ⟨stream', opened', by rw [only.node, same, node]⟩

theorem untouched_done (streams : state.StreamsPlaced) {os : Os} {io : Io} {success : Bool}
    (found : state.server.transfers.transfers id = some session)
    (own : session.file_handle = none ∨ state.ledger.live id = true ∧
      state.server.tempAt id session ∉ state.otherParts id ∧
      state.server.finalAt id session ∉ state.otherParts id)
    (called : state.server.store.finalize_file state.server.os id session.filename
      session.file_handle io = (os, success)) :
    os.cwd = state.server.os.cwd ∧ Untouched state id os := by
  rcases own with handle | ⟨live, tempApart, finalApart⟩
  · rw [handle] at called
    cases called
    exact ⟨rfl, untouched_self⟩
  · obtain ⟨_, f, found', handle, -, -⟩ := streams.live live
    rw [found] at found'
    cases found'
    rw [handle] at called
    exact ⟨(FileStore.finalize_file_spec called).1,
      untouched_finalize streams found live handle tempApart finalApart called⟩

theorem step {label : Label} (streams : state.StreamsPlaced) (separate : state.Separate label) :
    (state.step label).StreamsPlaced := by
  cases asked : state.asks label with
  | none => exact streams.same (step_same asked).1
  | some request =>
    have owned := streams.toStreamsOwned.step separate.doneOnce
    obtain ⟨conn, self, result, -, effect, -, stepped⟩ := step_effect asked
    unfold Separate at separate
    rw [asked] at separate
    rw [stepped] at owned ⊢
    have finalize {os : Os} {id : UInt64} {session : TransferSession} {state' : TransferState}
        {success : Bool} {events : List Event}
        (owned : StreamsOwned
          ⟨{ state.server with
             os, transfers := state.server.transfers.put id { session with state := state' } },
            (state.ledger.record (.finalize_file id session.file_handle success)).recordAll events⟩)
        (replies : ∀ event ∈ events, ∃ peer response, event = .sent peer response)
        (found : state.server.transfers.transfers id = some session)
        (own : session.file_handle = none ∨ state.ledger.live id = true ∧
          state.server.tempAt id session ∉ state.otherParts id ∧
          state.server.finalAt id session ∉ state.otherParts id)
        (called : state.server.store.finalize_file state.server.os id session.filename
          session.file_handle label.env.io = (os, success)) :
        StreamsPlaced
          ⟨{ state.server with
             os, transfers := state.server.transfers.put id { session with state := state' } },
            (state.ledger.record (.finalize_file id session.file_handle success)).recordAll events⟩ := by
      rw [Ledger.recordAll_replies replies] at owned ⊢
      have notLive :
          (state.ledger.record (.finalize_file id session.file_handle success)).live id ≠ true := by
        simp [Ledger.record]
      obtain ⟨cwd, untouched⟩ := streams.untouched_done found own called
      exact streams.put owned found rfl rfl cwd (fun other ne => Function.update_of_ne ne ..)
        (fun live => absurd live notLive) untouched fun live => absurd live notLive
    cases effect with
    | offered authenticated =>
      refine streams.replace owned rfl rfl rfl (fun other ne => ?_) untouched_self ?_ ?_
      · exact Function.update_of_ne ne ..
      · simp [Ledger.record]
      · simp [Ledger.record]
    | openFailed authenticated found party accept called =>
      obtain ⟨cwd, kept, keeps⟩ := FileStore.open_for_write_none called
      exact streams.put owned found rfl rfl cwd (fun _ _ => rfl) (fun live => live)
        (untouched_keeps kept keeps) fun _ f stream _ opened node =>
          ⟨stream, by rwa [kept], (keeps.file_iff _ _).mpr node⟩
    | opened authenticated found party accept called =>
      have apart := separate accept
      obtain ⟨cwd, unused, made, inode, keeps, truncates, streams'⟩ :=
        FileStore.open_for_write_some called
      refine streams.replace owned rfl cwd rfl (fun other ne => ?_)
        (untouched_open streams.toStreamsOwned apart called) ?_ (fun _ => apart)
      · simpa [Ledger.record] using Function.update_of_ne ne ..
      · rintro - _ ⟨⟩
        exact ⟨⟨inode, 0, []⟩, (congrFun streams' _).trans (Function.update_self ..), truncates.here⟩
    | rejected authenticated found party reject =>
      exact streams.put owned found rfl rfl rfl (by simp) (by simp) untouched_self
        fun _ _ stream _ opened node => ⟨stream, opened, node⟩
    | writeFailed authenticated found party running called failed =>
      exact streams.write owned found rfl rfl rfl running called
    | received authenticated found party running called wrote isNext =>
      exact streams.write owned found rfl rfl rfl running called
    | strayed authenticated found party running called wrote notNext =>
      exact streams.write owned found rfl rfl rfl running called
    | finalizeFailed authenticated found party called =>
      exact finalize owned (by simp) found separate called
    | finalized authenticated found party called =>
      exact finalize owned (by simp) found separate called

end StreamsPlaced

end Observed

end FileShareX.Net

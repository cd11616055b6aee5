import FileShareX.Net.StreamPlacement

/-!
# Who can affect a transfer

Every handler compares the user of the connection with the record before it
touches anything.  What the check cannot see is a stale stream pointer, or a
path that belongs to another transfer too.
-/

namespace FileShareX.Net

open Wire Posix Protocol Storage Transfer Machine

def Event.calls : Event → Option UInt64
  | .open_for_write id _ => some id
  | .write_chunk id _ _ _ => some id
  | .finalize_file id _ _ => some id
  | _ => none

def Request.record? : Request → Option TransferSession
  | offer .. => none
  | accept _ session => some session
  | chunk _ session => some session
  | done _ session => some session

namespace Observed

def otherPaths (state : Observed) (id : UInt64) : List Path :=
  state.ledger.created.flatMap fun other =>
    match state.server.transfers.get_transfer other with
    | some session =>
      if other = id then [] else [state.server.tempAt other session, state.server.finalAt other session]
    | none => []

/-- The request has an unused number, its own paths and its own stream. -/
def RequestApart (state : Observed) : Request → Prop
  | .offer _ _ => state.server.transfers.transfers state.server.transfers.next_transfer_id = none
  | .accept req session => req.accept = true →
      state.server.tempAt req.transfer_id session ∉ state.otherPaths req.transfer_id
  | .chunk chunk session =>
      state.server.tempAt chunk.transfer_id session ∉ state.otherPaths chunk.transfer_id
  | .done done session => session.file_handle = none ∨ state.ledger.live done.transfer_id = true ∧
      state.server.tempAt done.transfer_id session ∉ state.otherPaths done.transfer_id ∧
      state.server.finalAt done.transfer_id session ∉ state.otherPaths done.transfer_id

instance (state : Observed) : DecidablePred state.RequestApart
  | .offer _ _ => inferInstanceAs (Decidable (_ = none))
  | .accept _ _ => inferInstanceAs (Decidable (_ → _))
  | .chunk _ _ => inferInstanceAs (Decidable (¬ _))
  | .done _ _ => inferInstanceAs (Decidable (_ ∨ _))

def KeepsApart (state : Observed) (label : Label) : Prop :=
  ∀ request ∈ state.asks label, state.RequestApart request

instance (state : Observed) (label : Label) : Decidable (state.KeepsApart label) :=
  inferInstanceAs (Decidable (∀ request ∈ state.asks label, state.RequestApart request))

/-- The step changes the record of a transfer, has the file store work for it,
or changes a stream opened for it or a file under one of its names. -/
def Affects (state : Observed) (label : Label) (id : UInt64) (session : TransferSession) : Prop :=
  (state.step label).server.transfers.transfers id ≠ some session ∨
    (∃ event ∈ state.events label, event.calls = some id) ∨
    (∃ f stream, state.ledger.owner f = some id ∧ state.server.os.streams f = some stream ∧
      (state.step label).server.os.streams f ≠ some stream) ∨
    ∃ path ∈ [state.server.tempAt id session, state.server.finalAt id session],
      (state.step label).server.os.disk.content path ≠ state.server.os.disk.content path

def IsOffer (state : Observed) (label : Label) (self : TcpSession) : Prop :=
  ∃ conn payload env, state.server.live conn = some self ∧ self.is_authenticated = true ∧
    label = .receive conn MsgType.FILE_OFFER_REQ.code payload env

variable {state start : Observed} {labels : List Label} {label : Label} {id : UInt64}
  {session : TransferSession}

theorem mem_otherPaths {path : Path} :
    path ∈ state.otherPaths id ↔
      ∃ other ∈ state.ledger.created, ∃ session,
        state.server.transfers.transfers other = some session ∧ other ≠ id ∧
          path ∈ [state.server.tempAt other session, state.server.finalAt other session] := by
  unfold otherPaths
  rw [List.mem_flatMap]
  refine exists_congr fun other => and_congr_right fun _ => ?_
  rw [TransferManager.get_transfer]
  cases state.server.transfers.transfers other with
  | none => simp
  | some session => by_cases same : other = id <;> simp [same]

theorem otherParts_subset : state.otherParts id ⊆ state.otherPaths id := by
  intro path isPart
  obtain ⟨other, created, session, found, ne, -, rfl⟩ := mem_otherParts.mp isPart
  exact mem_otherPaths.mpr ⟨other, created, session, found, ne, List.mem_cons_self ..⟩

theorem KeepsApart.separate (apart : state.KeepsApart label) : state.Separate label := by
  unfold Separate
  split
  · next req session asked =>
    intro accept isPart
    exact apart _ asked accept (otherParts_subset isPart)
  · next done session asked =>
    refine (apart _ asked).imp id fun ⟨live, tempApart, finalApart⟩ => ⟨live, ?_, ?_⟩
    · exact fun isPart => tempApart (otherParts_subset isPart)
    · exact fun isPart => finalApart (otherParts_subset isPart)
  · trivial

theorem KeepsApart.placed (boot : start.Booted) (along : Along step KeepsApart start labels) :
    (run step start labels).StreamsPlaced :=
  along.invariant (.booted boot) fun _ _ placed apart => placed.step apart.separate

/-- The streams opened for a transfer and the files under its names stay. -/
structure Spares (state : Observed) (id : UInt64) (session : TransferSession) (os : Os) : Prop where
  streams : ∀ {f stream}, state.ledger.owner f = some id →
    state.server.os.streams f = some stream → os.streams f = some stream
  content : ∀ path ∈ [state.server.tempAt id session, state.server.finalAt id session],
    os.disk.content path = state.server.os.disk.content path

namespace Spares

variable {other : UInt64} {entry : TransferSession} {os : Os} {io : Io}

theorem self : state.Spares id session state.server.os := ⟨fun _ opened => opened, fun _ _ => rfl⟩

theorem keeps (streams : os.streams = state.server.os.streams)
    (keeps : state.server.os.disk.KeepsFiles os.disk) : state.Spares id session os :=
  ⟨fun _ opened => by rwa [streams], fun path _ => keeps.content path⟩

theorem path_ne (owned : state.StreamsOwned) (found : state.server.transfers.transfers id = some session)
    (ne : id ≠ other) {path mine : Path} (apart : path ∉ state.otherPaths other)
    (isMine : mine ∈ [state.server.tempAt id session, state.server.finalAt id session]) :
    mine ≠ path := by
  rintro rfl
  exact apart (mem_otherPaths.mpr ⟨id, owned.created found, session, found, ne, isMine⟩)

theorem opened (owned : state.StreamsOwned)
    (found : state.server.transfers.transfers id = some session) (ne : id ≠ other)
    (apart : state.server.tempAt other entry ∉ state.otherPaths other) {f : Ptr}
    (called : state.server.store.open_for_write state.server.os other entry.filename io =
      (os, some f)) : state.Spares id session os := by
  obtain ⟨-, unused, made, inode, keeps, truncates, streams⟩ := FileStore.open_for_write_some called
  refine ⟨fun {g stream} _ isOpen => ?_, fun path mine => ?_⟩
  · have differ : g ≠ f := by
      rintro rfl
      rw [unused] at isOpen
      cases isOpen
    rw [streams, Function.update_of_ne differ, isOpen]
  · rw [truncates.content_of_ne (path_ne owned found ne apart mine), keeps.content]

/-- A call on the stream of another transfer in use stays with that transfer. -/
theorem onStream (placed : state.StreamsPlaced)
    (found : state.server.transfers.transfers id = some session) (ne : id ≠ other)
    (found' : state.server.transfers.transfers other = some entry)
    (live : state.ledger.live other = true) {f : Ptr} (handle : entry.file_handle = some f)
    (apart : state.server.tempAt other entry ∉ state.otherPaths other)
    (only : state.server.os.OnStream os f) : state.Spares id session os := by
  refine ⟨fun {g stream} owns isOpen => ?_, fun path mine => only.content fun stream isOpen node => ?_⟩
  · have differ : g ≠ f := by
      rintro rfl
      rw [(placed.handed found' live handle).2.2] at owns
      exact ne (Option.some.inj owns).symm
    rw [only.others g differ, isOpen]
  · obtain ⟨stream', isOpen', node'⟩ := placed.placed found' live handle
    rw [isOpen] at isOpen'
    cases isOpen'
    exact path_ne placed.toStreamsOwned found ne apart mine (state.server.os.disk.single node node')

theorem written (placed : state.StreamsPlaced)
    (found : state.server.transfers.transfers id = some session) (ne : id ≠ other)
    (found' : state.server.transfers.transfers other = some entry) (running : Running entry)
    (apart : state.server.tempAt other entry ∉ state.otherPaths other) {data : Bytes} {count : Int}
    (called : FileStore.write_chunk state.server.os entry.file_handle data io = (os, count)) :
    state.Spares id session os := by
  have live := placed.running found' running
  obtain ⟨_, f, found'', handle, -, -⟩ := placed.live live
  rw [found'] at found''
  cases found''
  rw [handle] at called
  exact onStream placed found ne found' live handle apart (FileStore.write_chunk_onStream called).1

theorem finalized (placed : state.StreamsPlaced)
    (found : state.server.transfers.transfers id = some session) (ne : id ≠ other)
    (found' : state.server.transfers.transfers other = some entry) {success : Bool}
    (own : entry.file_handle = none ∨ state.ledger.live other = true ∧
      state.server.tempAt other entry ∉ state.otherPaths other ∧
      state.server.finalAt other entry ∉ state.otherPaths other)
    (called : state.server.store.finalize_file state.server.os other entry.filename
      entry.file_handle io = (os, success)) : state.Spares id session os := by
  rcases own with handle | ⟨live, tempApart, finalApart⟩
  · rw [handle] at called
    cases called
    exact self
  · obtain ⟨_, f, found'', handle, -, -⟩ := placed.live live
    rw [found'] at found''
    cases found''
    rw [handle] at called
    obtain ⟨-, streams, renamed⟩ := FileStore.finalize_file_spec called
    have closed := onStream placed found ne found' live handle tempApart
      (.fclose state.server.os f io.fclose io.salvaged)
    refine ⟨fun owns isOpen => by rw [streams, closed.streams owns isOpen], fun path mine => ?_⟩
    cases success with
    | false =>
      rw [if_neg (by simp)] at renamed
      rw [renamed, closed.content path mine]
    | true =>
      rw [if_pos rfl] at renamed
      rw [renamed.content_of_ne (path_ne placed.toStreamsOwned found ne tempApart mine)
        (path_ne placed.toStreamsOwned found ne finalApart mine), closed.content path mine]

end Spares

theorem not_affects (placed : state.StreamsPlaced) (apart : state.KeepsApart label)
    (found : state.server.transfers.transfers id = some session)
    (elsewhere : ∀ request ∈ state.asks label, request.about ≠ some id) :
    ¬ state.Affects label id session := by
  have spared {after : Observed} {events : List Event} (stepped : state.step label = after)
      (emitted : state.events label = events)
      (kept : after.server.transfers.transfers id = some session)
      (calls : ∀ event ∈ events, event.calls ≠ some id)
      (spares : state.Spares id session after.server.os) : ¬ state.Affects label id session := by
    rw [Affects, stepped, emitted]
    rintro (changed | ⟨event, happens, call⟩ | ⟨f, stream, owns, isOpen, changed⟩ |
      ⟨path, mine, changed⟩)
    · exact changed kept
    · exact calls event happens call
    · exact changed (spares.streams owns isOpen)
    · exact changed (spares.content path mine)
  cases asked : state.asks label with
  | none =>
    obtain ⟨same, replies⟩ := step_same asked
    refine spared rfl rfl (by rw [same.transfers, found]) (fun event happens => ?_)
      (by rw [same.os]; exact .self)
    obtain ⟨peer, response, rfl, -⟩ := replies event happens
    nofun
  | some request =>
    have apart := apart request asked
    have elsewhere := elsewhere request asked
    obtain ⟨conn, self, result, -, effect, emitted, stepped⟩ := step_effect asked
    have told {session' : TransferSession} {resp : FileAcceptResp} {peer : ConnId}
        {response : Response} {event : Event}
        (happens : event ∈ state.server.notifySender session' resp ++ [.sent peer response]) :
        event.calls ≠ some id := by
      rcases List.mem_append.mp happens with told | last
      · obtain ⟨peer, rfl⟩ := Server.notifySender_sent told
        nofun
      · rw [List.mem_singleton.mp last]
        nofun
    have kept {other : UInt64} {entry : TransferSession} (ne : some other ≠ some id) :
        id ≠ other ∧ (state.server.transfers.put other entry).transfers id = some session := by
      have ne : id ≠ other := fun same => ne (by rw [same])
      exact ⟨ne, (TransferManager.put_of_ne ne).trans found⟩
    cases effect with
    | offered authenticated =>
      refine spared stepped emitted ?_ (by simp [Event.calls]) .self
      refine (kept (fun same => ?_)).2
      rw [← Option.some.inj same, apart] at found
      cases found
    | openFailed authenticated found' party accept called =>
      obtain ⟨-, streams, keeps⟩ := FileStore.open_for_write_none called
      exact spared stepped emitted (kept elsewhere).2
        (by simpa [Event.calls, Request.about, Server.acceptError] using elsewhere)
        (.keeps streams keeps)
    | opened authenticated found' party accept called =>
      obtain ⟨ne, stays⟩ := kept elsewhere
      refine spared stepped emitted stays (fun event happens => ?_)
        (.opened placed.toStreamsOwned found ne (apart accept) called)
      rcases List.mem_cons.mp happens with rfl | reply
      · exact elsewhere
      · exact told reply
    | rejected authenticated found' party reject =>
      exact spared stepped emitted (kept elsewhere).2 (fun _ => told) .self
    | writeFailed authenticated found' party running called failed =>
      obtain ⟨ne, stays⟩ := kept elsewhere
      exact spared stepped emitted stays (by simpa [Event.calls, Request.about] using elsewhere)
        (.written placed found ne found' running apart called)
    | received authenticated found' party running called wrote isNext =>
      obtain ⟨ne, stays⟩ := kept elsewhere
      exact spared stepped emitted stays (by simpa [Event.calls, Request.about] using elsewhere)
        (.written placed found ne found' running apart called)
    | strayed authenticated found' party running called wrote notNext =>
      obtain ⟨ne, stays⟩ := kept elsewhere
      exact spared stepped emitted stays (by simpa [Event.calls, Request.about] using elsewhere)
        (.written placed found ne found' running apart called)
    | finalizeFailed authenticated found' party called =>
      obtain ⟨ne, stays⟩ := kept elsewhere
      exact spared stepped emitted stays (by simpa [Event.calls, Request.about] using elsewhere)
        (.finalized placed found ne found' apart called)
    | finalized authenticated found' party called =>
      obtain ⟨ne, stays⟩ := kept elsewhere
      exact spared stepped emitted stays (by simpa [Event.calls, Request.about] using elsewhere)
        (.finalized placed found ne found' apart called)

theorem asks_found {request : Request} (asked : state.asks label = some request)
    (about : request.about = some id) (record : request.record? = some session) :
    state.server.transfers.transfers id = some session := by
  obtain ⟨conn, self, result, -, effect, -, -⟩ := step_effect asked
  cases request with
  | offer => cases about
  | accept =>
    cases about
    cases record
    cases effect <;> assumption
  | chunk =>
    cases about
    cases record
    cases effect <;> assumption
  | done =>
    cases about
    cases record
    cases effect <;> assumption

theorem asks_cases {request : Request} (asked : state.asks label = some request) :
    (∃ self req receiver, request = .offer req receiver ∧ state.IsOffer label self ∧
      (state.step label).server.transfers.transfers = Function.update
        state.server.transfers.transfers state.server.transfers.next_transfer_id
        (some (state.server.offered self req receiver))) ∨
    ∃ id session entry, request.about = some id ∧
      state.server.transfers.transfers id = some session ∧
      (state.step label).server.transfers.transfers =
        Function.update state.server.transfers.transfers id (some entry) := by
  obtain ⟨conn, self, result, ⟨live, payload, env, sent, -⟩, effect, -, stepped⟩ := step_effect asked
  rw [stepped]
  cases effect with
  | offered authenticated =>
    exact .inl ⟨self, _, _, rfl, ⟨conn, payload, env, live, authenticated, sent⟩, rfl⟩
  | openFailed authenticated found => exact .inr ⟨_, _, _, rfl, found, rfl⟩
  | opened authenticated found => exact .inr ⟨_, _, _, rfl, found, rfl⟩
  | rejected authenticated found => exact .inr ⟨_, _, _, rfl, found, rfl⟩
  | writeFailed authenticated found => exact .inr ⟨_, _, _, rfl, found, rfl⟩
  | received authenticated found => exact .inr ⟨_, _, _, rfl, found, rfl⟩
  | strayed authenticated found => exact .inr ⟨_, _, _, rfl, found, rfl⟩
  | finalizeFailed authenticated found => exact .inr ⟨_, _, _, rfl, found, rfl⟩
  | finalized authenticated found => exact .inr ⟨_, _, _, rfl, found, rfl⟩

end Observed

end FileShareX.Net

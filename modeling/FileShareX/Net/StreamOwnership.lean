import FileShareX.Net.Server

/-!
# Who owns an open stream

`file_handle` is stored at accept and never cleared, while the stream behind it
is closed inside the file store.  A second FILE_DONE therefore passes a stale
pointer, which `fopen` may have handed to another transfer meanwhile.
-/

namespace FileShareX.Net

open Wire Posix Protocol Storage Transfer Machine

def Event.uses : Event → Option (UInt64 × Ptr)
  | .write_chunk id (some file_handle) _ _ => some (id, file_handle)
  | .finalize_file id (some file_handle) _ => some (id, file_handle)
  | _ => none

theorem Event.uses_write_chunk (id : UInt64) (file_handle : Option Ptr) (data : Bytes) (written : Int) :
    (write_chunk id file_handle data written).uses = file_handle.map fun f => (id, f) := by
  cases file_handle <;> rfl

theorem Event.uses_finalize_file (id : UInt64) (file_handle : Option Ptr) (success : Bool) :
    (finalize_file id file_handle success).uses = file_handle.map fun f => (id, f) := by
  cases file_handle <;> rfl

namespace Observed

/-- A FILE_DONE that hands over a stream is the first one since it was opened. -/
def DoneOnce (state : Observed) (label : Label) : Prop :=
  match state.asks label with
  | some (.done done session) => session.file_handle = none ∨ state.ledger.live done.transfer_id = true
  | _ => True

instance (state : Observed) (label : Label) : Decidable (state.DoneOnce label) :=
  match asked : state.asks label with
  | some (.done _ _) => decidable_of_iff (_ ∨ _) (by rw [DoneOnce, asked])
  | some (.offer _ _) => .isTrue (by rw [DoneOnce, asked]; trivial)
  | some (.accept _ _) => .isTrue (by rw [DoneOnce, asked]; trivial)
  | some (.chunk _ _) => .isTrue (by rw [DoneOnce, asked]; trivial)
  | none => .isTrue (by rw [DoneOnce, asked]; trivial)

/-- Whatever stream the step uses is open, comes from the latest `open_for_write`
for the transfer, and has not been opened for another transfer since. -/
def UsesOwnStreams (state : Observed) (label : Label) : Prop :=
  ∀ event ∈ state.events label, ∀ id file_handle, event.uses = some (id, file_handle) →
    (state.server.os.streams file_handle).isSome ∧ state.ledger.opened id = some file_handle ∧
      state.ledger.owner file_handle = some id

/-- A stream not yet handed to `finalize_file` is open, and it is the transfer's own. -/
structure StreamsOwned (state : Observed) : Prop where
  created : ∀ {id session}, state.server.transfers.transfers id = some session →
    id ∈ state.ledger.created
  latest : ∀ {id session}, state.server.transfers.transfers id = some session →
    session.file_handle = state.ledger.opened id
  live : ∀ {id}, state.ledger.live id = true →
    ∃ session file_handle, state.server.transfers.transfers id = some session ∧
      session.file_handle = some file_handle ∧ state.ledger.owner file_handle = some id ∧
      (state.server.os.streams file_handle).isSome
  running : ∀ {id session}, state.server.transfers.transfers id = some session →
    session.state = .ACCEPTED ∨ session.state = .RECEIVING → state.ledger.live id = true
  stale : ∀ {id file_handle}, state.ledger.live id = false →
    state.ledger.opened id = some file_handle → state.ledger.owner file_handle = some id →
      state.server.os.streams file_handle = none

namespace StreamsOwned

variable {state after : Observed} {label : Label}

theorem booted (boot : state.Booted) : state.StreamsOwned := by
  obtain ⟨ledger, transfers, -, -, -⟩ := boot.fresh
  constructor
  · intro id session found
    rw [transfers] at found
    cases found
  · intro id session found
    rw [transfers] at found
    cases found
  · intro id live
    rw [ledger] at live
    cases live
  · intro id session found
    rw [transfers] at found
    cases found
  · intro id f _ opened
    rw [ledger] at opened
    cases opened

theorem same (owned : state.StreamsOwned) (same : state.Same after) : after.StreamsOwned := by
  obtain ⟨-, os, transfers, ledger⟩ := same
  constructor
  · intro id session
    rw [transfers, ledger]
    exact owned.created
  · intro id session
    rw [transfers, ledger]
    exact owned.latest
  · intro id
    rw [transfers, ledger, os]
    exact owned.live
  · intro id session
    rw [transfers, ledger]
    exact owned.running
  · intro id f
    rw [ledger, os]
    exact owned.stale

variable {server : Server} {ledger ledger' : Ledger} {os : Os} {id : UInt64}
  {session session' : TransferSession}

theorem put (owned : StreamsOwned ⟨server, ledger⟩)
    (found : server.transfers.transfers id = some session)
    (handle : session'.file_handle = session.file_handle)
    (stays : session'.state = .ACCEPTED ∨ session'.state = .RECEIVING →
      session.state = .ACCEPTED ∨ session.state = .RECEIVING)
    (kept : ∀ f, (os.streams f).isSome = (server.os.streams f).isSome)
    (created : ledger'.created = ledger.created) (opened : ledger'.opened = ledger.opened)
    (live : ledger'.live = ledger.live)
    (owner : ledger'.owner = ledger.owner) :
    StreamsOwned ⟨{ server with os, transfers := server.transfers.put id session' }, ledger'⟩ := by
  constructor
  · intro other entry found'
    dsimp only
    rw [created]
    rcases TransferManager.put_found found' with ⟨rfl, -⟩ | ⟨-, old⟩
    · exact owned.created found
    · exact owned.created old
  · intro other entry found'
    dsimp only at found' ⊢
    rw [opened]
    rcases TransferManager.put_found found' with ⟨rfl, rfl⟩ | ⟨-, old⟩
    · exact handle.trans (owned.latest found)
    · exact owned.latest old
  · intro other isLive
    dsimp only at isLive ⊢
    rw [live] at isLive
    obtain ⟨entry, f, old, holds, owns, opened_⟩ := owned.live isLive
    rw [owner]
    by_cases same : other = id
    · subst same
      rw [found] at old
      cases old
      exact ⟨session', f, TransferManager.put_self, handle.trans holds, owns, (kept f).trans opened_⟩
    · exact ⟨entry, f, (TransferManager.put_of_ne same).trans old, holds, owns,
        (kept f).trans opened_⟩
  · intro other entry found' running
    dsimp only at found' ⊢
    rw [live]
    rcases TransferManager.put_found found' with ⟨rfl, rfl⟩ | ⟨-, old⟩
    · exact owned.running found (stays running)
    · exact owned.running old running
  · intro other f
    dsimp only
    rw [live, opened, owner, ← Option.not_isSome_iff_eq_none, kept, Option.not_isSome_iff_eq_none]
    exact owned.stale

theorem write_chunk_kept {file_handle : Option Ptr} {data : Bytes} {written : Int} {io : Io}
    (called : FileStore.write_chunk server.os file_handle data io = (os, written)) (f : Ptr) :
    (os.streams f).isSome = (server.os.streams f).isSome := by
  cases file_handle with
  | none =>
    cases called
    rfl
  | some g => exact (FileStore.write_chunk_onStream called).2 f

theorem create (owned : StreamsOwned ⟨server, ledger⟩) (handle : session.file_handle = none)
    (offered : session.state = .OFFERED) {next : UInt64} :
    StreamsOwned
      ⟨{ server with
         transfers := { server.transfers.put id session with next_transfer_id := next } },
        ledger.record (.created id)⟩ := by
  constructor
  · intro other entry found
    rcases TransferManager.put_found found with ⟨rfl, -⟩ | ⟨-, old⟩
    · exact List.mem_cons_self ..
    · exact List.mem_cons_of_mem _ (owned.created old)
  · intro other entry found
    change (server.transfers.put id session).transfers other = some entry at found
    change _ = Function.update ledger.opened id none other
    rcases TransferManager.put_found found with ⟨rfl, rfl⟩ | ⟨ne, old⟩
    · rw [handle, Function.update_self]
    · rw [Function.update_of_ne ne]
      exact owned.latest old
  · intro other isLive
    change Function.update ledger.live id false other = true at isLive
    have ne : other ≠ id := by
      rintro rfl
      rw [Function.update_self] at isLive
      cases isLive
    rw [Function.update_of_ne ne] at isLive
    obtain ⟨entry, f, old, rest⟩ := owned.live isLive
    exact ⟨entry, f, (TransferManager.put_of_ne ne).trans old, rest⟩
  · intro other entry found running
    change (server.transfers.put id session).transfers other = some entry at found
    change Function.update ledger.live id false other = true
    rcases TransferManager.put_found found with ⟨rfl, rfl⟩ | ⟨ne, old⟩
    · simp [offered] at running
    · rw [Function.update_of_ne ne]
      exact owned.running old running
  · intro other f notLive opened owns
    change Function.update ledger.opened id none other = some f at opened
    change Function.update ledger.live id false other = false at notLive
    have ne : other ≠ id := by
      rintro rfl
      rw [Function.update_self] at opened
      cases opened
    rw [Function.update_of_ne ne] at opened notLive
    exact owned.stale notLive opened owns

theorem openStream (owned : StreamsOwned ⟨server, ledger⟩) {f : Ptr} {stream : Stream}
    (found : server.transfers.transfers id = some session') (handle : session.file_handle = some f)
    (unused : server.os.streams f = none)
    (streams : os.streams = Function.update server.os.streams f (some stream))
    (recorded : ledger' = ledger.record (.open_for_write id (some f))) :
    StreamsOwned ⟨{ server with os, transfers := server.transfers.put id session }, ledger'⟩ := by
  subst recorded
  constructor
  · intro other entry found'
    rcases TransferManager.put_found found' with ⟨rfl, -⟩ | ⟨-, old⟩
    · exact owned.created found
    · exact owned.created old
  · intro other entry found
    change _ = Function.update ledger.opened id (some f) other
    rcases TransferManager.put_found found with ⟨rfl, rfl⟩ | ⟨ne, old⟩
    · rw [handle, Function.update_self]
    · rw [Function.update_of_ne ne]
      exact owned.latest old
  · intro other isLive
    by_cases same : other = id
    · subst same
      refine ⟨session, f, TransferManager.put_self, handle, Function.update_self .., ?_⟩
      simp [streams]
    · change Function.update ledger.live id true other = true at isLive
      rw [Function.update_of_ne same] at isLive
      obtain ⟨entry, g, old, holds, owns, opened⟩ := owned.live isLive
      have ne : g ≠ f := by
        rintro rfl
        change (server.os.streams g).isSome at opened
        rw [unused] at opened
        cases opened
      refine ⟨entry, g, (TransferManager.put_of_ne same).trans old, holds,
        (Function.update_of_ne ne ..).trans owns, ?_⟩
      change (os.streams g).isSome
      rwa [streams, Function.update_of_ne ne]
  · intro other entry found running
    change Function.update ledger.live id true other = true
    rcases TransferManager.put_found found with ⟨rfl, rfl⟩ | ⟨ne, old⟩
    · exact Function.update_self ..
    · rw [Function.update_of_ne ne]
      exact owned.running old running
  · intro other g notLive opened owns
    change Function.update ledger.opened id (some f) other = some g at opened
    change Function.update ledger.live id true other = false at notLive
    change Function.update ledger.owner f (some id) g = some other at owns
    have ne : other ≠ id := by
      rintro rfl
      rw [Function.update_self] at notLive
      cases notLive
    rw [Function.update_of_ne ne] at opened notLive
    have differ : g ≠ f := by
      rintro rfl
      rw [Function.update_self] at owns
      exact ne (Option.some.inj owns).symm
    rw [Function.update_of_ne differ] at owns
    change os.streams g = none
    rw [streams, Function.update_of_ne differ]
    exact owned.stale notLive opened owns

/-- The stream a live transfer hands over is open, its latest and its own. -/
theorem handed (owned : state.StreamsOwned) {f : Ptr}
    (found : state.server.transfers.transfers id = some session)
    (live : state.ledger.live id = true) (handle : session.file_handle = some f) :
    (state.server.os.streams f).isSome ∧ state.ledger.opened id = some f ∧
      state.ledger.owner f = some id := by
  obtain ⟨_, _, found', holds, owns, opened⟩ := owned.live live
  rw [found] at found'
  cases found'
  rw [handle] at holds
  cases holds
  exact ⟨opened, (owned.latest found).symm.trans handle, owns⟩

/-- Closing the transfer's own stream leaves the streams of the others open. -/
theorem finalize (owned : StreamsOwned ⟨server, ledger⟩) {io : Io} {filename : Bytes} {success : Bool}
    (found : server.transfers.transfers id = some session)
    (own : ∀ f, session.file_handle = some f → ledger.live id = true)
    (handle : session'.file_handle = session.file_handle)
    (stopped : ¬ (session'.state = .ACCEPTED ∨ session'.state = .RECEIVING))
    (called : server.store.finalize_file server.os id filename session.file_handle io = (os, success)) :
    StreamsOwned ⟨{ server with os, transfers := server.transfers.put id session' },
      ledger.record (.finalize_file id session.file_handle success)⟩ := by
  have streams := FileStore.finalize_file_streams called
  constructor
  · intro other entry found'
    rcases TransferManager.put_found found' with ⟨rfl, -⟩ | ⟨-, old⟩
    · exact owned.created found
    · exact owned.created old
  · intro other entry found'
    rcases TransferManager.put_found found' with ⟨rfl, rfl⟩ | ⟨-, old⟩
    · exact handle.trans (owned.latest found)
    · exact owned.latest old
  · intro other isLive
    change Function.update ledger.live id false other = true at isLive
    have ne : other ≠ id := by
      rintro rfl
      rw [Function.update_self] at isLive
      cases isLive
    rw [Function.update_of_ne ne] at isLive
    obtain ⟨entry, g, old, holds, owns, opened⟩ := owned.live isLive
    refine ⟨entry, g, (TransferManager.put_of_ne ne).trans old, holds, owns, ?_⟩
    have differ : session.file_handle ≠ some g := by
      intro same
      exact ne (Option.some.inj (owns.symm.trans (owned.handed found (own g same) same).2.2))
    change (os.streams g).isSome
    rw [streams, if_neg differ]
    exact opened
  · intro other entry found' running
    change Function.update ledger.live id false other = true
    rcases TransferManager.put_found found' with ⟨rfl, rfl⟩ | ⟨ne, old⟩
    · exact absurd running stopped
    · rw [Function.update_of_ne ne]
      exact owned.running old running
  · intro other g notLive opened owns
    change Function.update ledger.live id false other = false at notLive
    change os.streams g = none
    rw [streams]
    split
    · rfl
    · next differ =>
      have ne : other ≠ id := by
        rintro rfl
        exact differ ((owned.latest found).trans opened)
      rw [Function.update_of_ne ne] at notLive
      exact owned.stale notLive opened owns

theorem step (owned : state.StreamsOwned) (once : state.DoneOnce label) :
    (state.step label).StreamsOwned := by
  cases asked : state.asks label with
  | none => exact owned.same (step_same asked).1
  | some request =>
    obtain ⟨conn, self, result, -, effect, -, stepped⟩ := step_effect asked
    rw [stepped]
    cases effect with
    | offered authenticated => exact owned.create rfl rfl
    | openFailed authenticated found party accept called =>
      obtain ⟨-, streams, -⟩ := FileStore.open_for_write_none called
      exact owned.put found rfl (by simp) (by simp [streams]) rfl rfl rfl rfl
    | opened authenticated found party accept called =>
      obtain ⟨-, unused, _, _, -, -, streams⟩ := FileStore.open_for_write_some called
      exact owned.openStream found rfl unused streams (by simp)
    | rejected authenticated found party reject =>
      exact owned.put found rfl (by simp) (fun _ => rfl) (by simp) (by simp) (by simp)
        (by simp)
    | writeFailed authenticated found party running called failed =>
      exact owned.put found rfl (by simp) (write_chunk_kept called) rfl rfl rfl rfl
    | received authenticated found party running called wrote inSequence =>
      exact owned.put found rfl (fun _ => running) (write_chunk_kept called) rfl rfl rfl rfl
    | strayed authenticated found party running called wrote outOfSequence =>
      exact owned.put found rfl id (write_chunk_kept called) rfl rfl rfl rfl
    | finalizeFailed authenticated found party called =>
      exact owned.finalize found (fun f handle => by
        simpa [DoneOnce, asked, handle] using once) rfl (by simp) called
    | finalized authenticated found party called =>
      exact owned.finalize found (fun f handle => by
        simpa [DoneOnce, asked, handle] using once) rfl (by simp) called

theorem uses (owned : state.StreamsOwned) (once : state.DoneOnce label) :
    state.UsesOwnStreams label := by
  intro event happens id f handed
  cases asked : state.asks label with
  | none =>
    obtain ⟨peer, response, rfl, -⟩ := (step_same asked).2 event happens
    cases handed
  | some request =>
    obtain ⟨conn, self, result, -, effect, emitted, -⟩ := step_effect asked
    rw [emitted] at happens
    have uses {id' : UInt64} {session : TransferSession}
        (found : state.server.transfers.transfers id' = some session)
        (first : session.file_handle = none ∨ state.ledger.live id' = true)
        (same : event.uses = session.file_handle.map fun g => (id', g)) :
        (state.server.os.streams f).isSome ∧ state.ledger.opened id = some f ∧
          state.ledger.owner f = some id := by
      obtain ⟨g, handle, paired⟩ := Option.map_eq_some_iff.mp (same.symm.trans handed)
      cases paired
      exact owned.handed found (by simpa [handle] using first) handle
    cases effect with
    | offered authenticated =>
      rcases List.mem_pair.mp happens with rfl | rfl <;> cases handed
    | openFailed authenticated found party accept called =>
      rcases List.mem_pair.mp happens with rfl | rfl <;> cases handed
    | opened authenticated found party accept called =>
      rcases List.mem_cons.mp happens with rfl | reply
      · cases handed
      · rcases List.mem_append.mp reply with told | last
        · obtain ⟨peer, rfl⟩ := Server.notifySender_sent told
          cases handed
        · obtain rfl := List.mem_singleton.mp last
          cases handed
    | rejected authenticated found party reject =>
      rcases List.mem_append.mp happens with told | last
      · obtain ⟨peer, rfl⟩ := Server.notifySender_sent told
        cases handed
      · obtain rfl := List.mem_singleton.mp last
        cases handed
    | writeFailed authenticated found party running called failed =>
      obtain rfl := List.mem_singleton.mp happens
      exact uses found (.inr (owned.running found running)) (Event.uses_write_chunk _ _ _ _)
    | received authenticated found party running called wrote inSequence =>
      rcases List.mem_pair.mp happens with rfl | rfl
      · exact uses found (.inr (owned.running found running)) (Event.uses_write_chunk _ _ _ _)
      · cases handed
    | strayed authenticated found party running called wrote outOfSequence =>
      rcases List.mem_pair.mp happens with rfl | rfl
      · exact uses found (.inr (owned.running found running)) (Event.uses_write_chunk _ _ _ _)
      · cases handed
    | finalizeFailed authenticated found party called =>
      rcases List.mem_pair.mp happens with rfl | rfl
      · exact uses found (by simpa [DoneOnce, asked] using once) (Event.uses_finalize_file _ _ _)
      · cases handed
    | finalized authenticated found party called =>
      rcases List.mem_pair.mp happens with rfl | rfl
      · exact uses found (by simpa [DoneOnce, asked] using once) (Event.uses_finalize_file _ _ _)
      · cases handed

end StreamsOwned

variable {start : Observed} {labels : List Label} {label : Label}

theorem streamsOwned_run (boot : start.Booted) (along : Along step DoneOnce start labels) :
    (run step start labels).StreamsOwned :=
  along.invariant (.booted boot) fun _ _ owned once => owned.step once

/-- In a run in which every FILE_DONE handing over a stream was the first since
that stream was opened, the next step uses only open streams of the transfer's
own latest `open_for_write` exactly if it keeps to the same rule. -/
theorem streams_used_by_owner_iff (boot : start.Booted) (along : Along step DoneOnce start labels) :
    (run step start labels).DoneOnce label ↔
      (run step start labels).UsesOwnStreams label := by
  have owned := streamsOwned_run boot along
  constructor
  · exact owned.uses
  · intro proper
    generalize run step start labels = state at owned proper
    by_contra again
    obtain ⟨done, session, f, asked, handle, notLive⟩ :
        ∃ done session f, state.asks label = some (.done done session) ∧
          session.file_handle = some f ∧ state.ledger.live done.transfer_id = false := by
      unfold DoneOnce at again
      split at again
      · next done session asked =>
        rw [not_or] at again
        obtain ⟨f, handle⟩ := Option.ne_none_iff_exists'.mp again.1
        exact ⟨done, session, f, asked, handle, by simpa using again.2⟩
      · exact absurd trivial again
    obtain ⟨conn, self, result, -, effect, emitted, -⟩ := step_effect asked
    obtain ⟨success, happens⟩ : ∃ success,
        .finalize_file done.transfer_id session.file_handle success ∈ state.events label := by
      rw [emitted]
      cases effect with
      | finalizeFailed => exact ⟨false, List.mem_cons_self ..⟩
      | finalized => exact ⟨true, List.mem_cons_self ..⟩
    obtain ⟨opened, latest, owns⟩ :=
      proper _ happens done.transfer_id f (by rw [handle]; rfl)
    rw [owned.stale notLive latest owns] at opened
    cases opened

/-- One transfer is offered, accepted, sent and done. -/
theorem streams_used_by_owner_sample :
    let labels := [.connect, Sample.login 0 "alice" 1, Sample.offer 0 "alice" "a" 2,
      Sample.accept 0 1 5, Sample.chunk 0 1 0 [1, 2]]
    (run step Sample.start labels).DoneOnce (Sample.done 0 1 1 2) ↔
      (run step Sample.start labels).UsesOwnStreams (Sample.done 0 1 1 2) :=
  streams_used_by_owner_iff Sample.booted (by decide)

/-- A second FILE_DONE for transfer 1 closes the stream of transfer 2. -/
theorem second_done_closes_reused_stream :
    ∃ start labels label, start.Booted ∧ ¬ (run step start labels).UsesOwnStreams label := by
  refine ⟨Sample.start,
    [.connect, Sample.login 0 "alice" 1, Sample.offer 0 "alice" "a" 2, Sample.offer 0 "alice" "b" 2,
      Sample.accept 0 1 5, Sample.done 0 1 1 2, Sample.accept 0 2 5],
    Sample.done 0 1 1 2, Sample.booted, fun proper => ?_⟩
  have own := proper (.finalize_file 1 (some 5) false) (by decide) 1 5 rfl
  exact absurd own.2.2 (by decide)

end Observed

end FileShareX.Net

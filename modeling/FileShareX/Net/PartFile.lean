import FileShareX.Net.StreamPlacement

/-!
# The `.part` file

The handler writes a chunk before its index is checked, and the answer of the
check is dropped.  As long as the chunks come in sequence and no accept comes
between them, the file holds just the chunks that have been counted.
-/

namespace FileShareX.Net

open Wire Posix Protocol Storage Transfer Machine

/-- The chunks counted for a transfer are numbered from 0, and the counters are
their totals, each in its own width. -/
structure Counts (chunks : List (UInt32 × Bytes)) (session : TransferSession) : Prop where
  indices : chunks.map Prod.fst = (List.range chunks.length).map UInt32.ofNat
  index : session.expected_chunk_index = UInt32.ofNat chunks.length
  bytes : session.bytes_received = UInt64.ofNat (chunks.map Prod.snd).flatten.length

namespace Counts

variable {chunks : List (UInt32 × Bytes)} {session session' : TransferSession}

theorem congr (counts : Counts chunks session)
    (index : session'.expected_chunk_index = session.expected_chunk_index)
    (bytes : session'.bytes_received = session.bytes_received) : Counts chunks session' :=
  ⟨counts.indices, index.trans counts.index, bytes.trans counts.bytes⟩

theorem advance (counts : Counts chunks session) (data : Bytes) :
    Counts (chunks ++ [(session.expected_chunk_index, data)]) (session.advance data.length) where
  indices := by
    simp [counts.indices, counts.index, List.range_succ]
  index := by
    simp [TransferSession.advance, counts.index, UInt32.ofNat_add]
  bytes := by
    simp [TransferSession.advance, counts.bytes, UInt64.ofNat_add]

theorem index_toNat (counts : Counts chunks session) (small : chunks.length < 2 ^ 32) :
    session.expected_chunk_index.toNat = chunks.length := by
  rw [counts.index, UInt32.toNat_ofNat', Nat.mod_eq_of_lt small]

theorem bytes_toNat (counts : Counts chunks session)
    (small : (chunks.map Prod.snd).flatten.length < 2 ^ 64) :
    session.bytes_received.toNat = (chunks.map Prod.snd).flatten.length := by
  rw [counts.bytes, UInt64.toNat_ofNat', Nat.mod_eq_of_lt small]

theorem indices_toNat (counts : Counts chunks session) (small : chunks.length < 2 ^ 32) :
    chunks.map (·.1.toNat) = List.range session.expected_chunk_index.toNat := by
  have values : chunks.map (·.1.toNat) = (chunks.map Prod.fst).map UInt32.toNat := by simp
  rw [values, counts.indices, counts.index_toNat small, List.map_map]
  refine (List.map_congr_left fun i below => ?_).trans (List.map_id _)
  exact UInt32.toNat_ofNat_of_lt' (Nat.lt_trans (List.mem_range.mp below) small)

theorem eq_nil (counts : Counts chunks session) (small : chunks.length < 2 ^ 32)
    (zero : session.expected_chunk_index = 0) : chunks = [] := by
  have length := counts.index_toNat small
  rw [zero] at length
  exact List.length_eq_zero_iff.mp length.symm

end Counts

namespace Observed

def received (state : Observed) (id : UInt64) : Bytes :=
  ((state.ledger.chunks id).map Prod.snd).flatten

/-- A chunk that is written comes in sequence, reaches the disk and is counted
without overflow, and of one out of sequence that is not taken whole nothing reaches
the file; an accept comes before the first chunk; and neither an accept
nor a FILE_DONE names the `.part` file of another transfer. -/
def InSequence (state : Observed) (label : Label) : Prop :=
  match state.asks label with
  | some (.offer _ _) => True
  | some (.accept req session) =>
    req.accept = true → session.expected_chunk_index = 0 ∧
      state.server.tempAt req.transfer_id session ∉ state.otherParts req.transfer_id
  | some (.chunk chunk session) =>
    chunk.data = [] ∨
      label.env.io.fwrite < chunk.data.length ∧
        (chunk.chunk_index = session.expected_chunk_index ∨
          label.env.io.fwrite = 0 ∨ label.env.io.through = 0) ∨
      chunk.chunk_index = session.expected_chunk_index ∧ label.env.io.fflush = true ∧
        session.expected_chunk_index.toNat + 1 < 2 ^ 32 ∧
        session.bytes_received.toNat + chunk.data.length < 2 ^ 64
  | some (.done done session) =>
    session.file_handle = none ∨ state.ledger.live done.transfer_id = true ∧
      state.server.tempAt done.transfer_id session ∉ state.otherParts done.transfer_id ∧
      state.server.finalAt done.transfer_id session ∉ state.otherParts done.transfer_id
  | none => True

instance (state : Observed) (label : Label) : Decidable (state.InSequence label) :=
  match asked : state.asks label with
  | some (.offer _ _) => .isTrue (by rw [InSequence, asked]; trivial)
  | some (.accept _ _) => decidable_of_iff (_ = true → _ ∧ _) (by rw [InSequence, asked])
  | some (.chunk _ _) => decidable_of_iff (_ ∨ _ ∧ (_ ∨ _ ∨ _) ∨ _ ∧ _ ∧ _ ∧ _) (by rw [InSequence, asked])
  | some (.done _ _) => decidable_of_iff (_ ∨ _ ∧ _ ∧ _) (by rw [InSequence, asked])
  | none => .isTrue (by rw [InSequence, asked]; trivial)

/-- What the `.part` files rest on: an accept comes while nothing is counted yet,
a chunk that is written is the next one and its flush works, and nobody names the
file of another transfer. -/
def Ordered (state : Observed) (label : Label) : Prop :=
  match state.asks label with
  | some (.offer _ _) => True
  | some (.accept req session) =>
    req.accept = true → state.ledger.chunks req.transfer_id = [] ∧
      state.server.tempAt req.transfer_id session ∉ state.otherParts req.transfer_id
  | some (.chunk chunk session) =>
    chunk.data = [] ∨ label.env.io.fwrite < chunk.data.length ∨
      chunk.chunk_index = session.expected_chunk_index ∧ label.env.io.fflush = true
  | some (.done done session) =>
    session.file_handle = none ∨ state.ledger.live done.transfer_id = true ∧
      state.server.tempAt done.transfer_id session ∉ state.otherParts done.transfer_id ∧
      state.server.finalAt done.transfer_id session ∉ state.otherParts done.transfer_id
  | none => True

theorem Ordered.separate {state : Observed} {label : Label} (ordered : state.Ordered label) :
    state.Separate label := by
  unfold Ordered at ordered
  unfold Separate
  split
  · next req session asked =>
    rw [asked] at ordered
    exact fun accept => (ordered accept).2
  · next done session asked =>
    rw [asked] at ordered
    exact ordered
  · trivial

/-- While a transfer takes chunks, its `.part` file is what has been counted, and
nothing is buffered. -/
structure PartFiles (state : Observed) : Prop extends StreamsPlaced state where
  counts : ∀ {id session}, state.server.transfers.transfers id = some session →
    Counts (state.ledger.chunks id) session
  intact : ∀ {id session f}, state.server.transfers.transfers id = some session →
    Running session → session.file_handle = some f →
    ∃ inode, state.server.os.streams f =
        some ⟨inode, (state.server.os.disk.data inode).length, []⟩ ∧
      state.server.os.disk.data inode = state.received id

namespace PartFiles

variable {state after : Observed} {id : UInt64} {session session' : TransferSession}

theorem booted (boot : state.Booted) : PartFiles state := by
  have none (id : UInt64) : state.server.transfers.transfers id = none := by
    rw [boot.fresh.2.1]
  refine ⟨.booted boot, ?_, ?_⟩ <;> intro id session <;> rw [none] <;> nofun

theorem same (parts : PartFiles state) (same : state.Same after) :
    PartFiles after := by
  refine ⟨parts.toStreamsPlaced.same same, ?_, ?_⟩
  · intro id session
    rw [same.transfers, same.ledger]
    exact parts.counts
  · intro id session f
    have received : after.received id = state.received id := by
      rw [Observed.received, Observed.received, same.ledger]
    rw [same.transfers, same.os, received]
    exact parts.intact

/-- A step that replaces one record keeps the invariant if it leaves the others
alone and the new record satisfies it. -/
theorem replace (parts : PartFiles state) (placed : after.StreamsPlaced)
    (transfers : after.server.transfers.transfers =
      Function.update state.server.transfers.transfers id (some session'))
    (chunks : ∀ other, other ≠ id → after.ledger.chunks other = state.ledger.chunks other)
    (untouched : StreamsPlaced.Untouched state id after.server.os)
    (counts : Counts (after.ledger.chunks id) session')
    (intact : Running session' → ∀ f, session'.file_handle = some f →
      ∃ inode, after.server.os.streams f =
          some ⟨inode, (after.server.os.disk.data inode).length, []⟩ ∧
        after.server.os.disk.data inode = after.received id) :
    PartFiles after := by
  have split {other : UInt64} {entry : TransferSession}
      (found : after.server.transfers.transfers other = some entry) :
      other = id ∧ entry = session' ∨
        other ≠ id ∧ state.server.transfers.transfers other = some entry := by
    rw [transfers] at found
    exact TransferManager.put_found found
  refine ⟨placed, ?_, ?_⟩
  · intro other entry found
    rcases split found with ⟨rfl, rfl⟩ | ⟨ne, old⟩
    · exact counts
    · rw [chunks other ne]
      exact parts.counts old
  · intro other entry f found running handle
    rcases split found with ⟨rfl, rfl⟩ | ⟨ne, old⟩
    · exact intact running f handle
    · have isLive := parts.running old running
      obtain ⟨inode, opened, content⟩ := parts.intact old running handle
      obtain ⟨stream, opened', node⟩ := parts.placed old isLive handle
      rw [opened] at opened'
      cases opened'
      obtain ⟨still, -, data⟩ := untouched ne old isLive handle opened node
      refine ⟨inode, ?_, ?_⟩
      · rw [data]
        exact still
      · rw [data, content, received, received, chunks other ne]

theorem stop (parts : PartFiles state) (placed : after.StreamsPlaced)
    (found : state.server.transfers.transfers id = some session)
    (transfers : after.server.transfers.transfers =
      Function.update state.server.transfers.transfers id (some session'))
    (chunks : after.ledger.chunks = state.ledger.chunks)
    (untouched : StreamsPlaced.Untouched state id after.server.os)
    (index : session'.expected_chunk_index = session.expected_chunk_index)
    (bytes : session'.bytes_received = session.bytes_received) (stopped : ¬ Running session') :
    PartFiles after :=
  parts.replace placed transfers (fun other _ => by rw [chunks]) untouched
    (chunks ▸ (parts.counts found).congr index bytes) fun running => absurd running stopped

theorem openPart (parts : PartFiles state) (placed : after.StreamsPlaced) {os : Os} {io : Io}
    {f : Ptr} (found : state.server.transfers.transfers id = some session)
    (transfers : after.server.transfers.transfers = Function.update state.server.transfers.transfers id
      (some { session with state := .ACCEPTED, file_handle := some f }))
    (chunks : after.ledger.chunks = state.ledger.chunks) (disk : after.server.os = os)
    (first : state.ledger.chunks id = [])
    (apart : state.server.tempAt id session ∉ state.otherParts id)
    (called : state.server.store.open_for_write state.server.os id session.filename io = (os, some f)) :
    PartFiles after := by
  subst disk
  have counts := parts.counts found
  have untouched : StreamsPlaced.Untouched state id after.server.os :=
    StreamsPlaced.untouched_open parts.toStreamsOwned apart called
  obtain ⟨-, -, made, inode, -, truncates, streams⟩ := FileStore.open_for_write_some called
  refine parts.replace placed transfers (fun _ _ => by rw [chunks]) untouched
    (chunks ▸ counts.congr rfl rfl) ?_
  rintro - _ ⟨⟩
  refine ⟨inode, ?_, ?_⟩
  · rw [streams, Function.update_self, truncates.empty]
    rfl
  · rw [received, chunks, first, truncates.empty]
    rfl

theorem receive (parts : PartFiles state) (placed : after.StreamsPlaced) {os : Os} {io : Io}
    {data : Bytes} {written : Int} (found : state.server.transfers.transfers id = some session)
    (transfers : after.server.transfers.transfers = Function.update state.server.transfers.transfers id
      (some (session.advance data.length)))
    (chunks : after.ledger.chunks = Function.update state.ledger.chunks id
      (state.ledger.chunks id ++ [(session.expected_chunk_index, data)]))
    (disk : after.server.os = os) (running : Running session)
    (flushes : io.fflush = true)
    (called : FileStore.write_chunk state.server.os session.file_handle data io = (os, written))
    (wrote : 0 ≤ written) : PartFiles after := by
  subst disk
  have live := parts.running found running
  obtain ⟨f, handle, -⟩ := FileStore.write_chunk_nonneg called wrote
  rw [handle] at called
  have only := (FileStore.write_chunk_onStream called).1
  obtain ⟨inode, opened, content⟩ := parts.intact found running handle
  obtain ⟨opened', content'⟩ := FileStore.write_chunk_appends called wrote flushes opened
  refine parts.replace placed transfers (fun other ne => by rw [chunks, Function.update_of_ne ne])
    (StreamsPlaced.untouched_onStream parts.toStreamsPlaced found live handle only) ?_ ?_
  · rw [chunks, Function.update_self]
    exact (parts.counts found).advance data
  · intro _ g holds
    rw [show session.file_handle = some g from holds] at handle
    cases handle
    refine ⟨inode, opened', ?_⟩
    rw [content', content, received, received, chunks, Function.update_self]
    simp

theorem written_inSequence {os after : Os} {file_handle : Option Ptr} {data : Bytes} {written : Int}
    {io : Io} {P : Prop} (called : FileStore.write_chunk os file_handle data io = (after, written))
    (wrote : 0 ≤ written) (inSequence : data = [] ∨ io.fwrite < data.length ∨ P) : P := by
  by_contra notP
  have refused := FileStore.write_chunk_refused called
    (inSequence.imp_right fun rest => rest.resolve_right notP)
  omega

theorem step {label : Label} (parts : PartFiles state)
    (ordered : state.Ordered label) : PartFiles (state.step label) := by
  cases asked : state.asks label with
  | none => exact parts.same (step_same asked).1
  | some request =>
    have placed := parts.toStreamsPlaced.step ordered.separate
    obtain ⟨conn, self, result, -, effect, -, stepped⟩ := step_effect asked
    unfold Ordered at ordered
    rw [asked] at ordered
    rw [stepped] at placed ⊢
    cases effect with
    | offered authenticated =>
      refine parts.replace placed rfl (fun other ne => ?_) StreamsPlaced.untouched_self ?_ ?_
      · exact Function.update_of_ne ne ..
      · simp [Ledger.record]
        exact ⟨rfl, rfl, rfl⟩
      · simp [Running, Server.offered]
    | openFailed authenticated found party accept called =>
      obtain ⟨-, streams, keeps⟩ := FileStore.open_for_write_none called
      exact parts.stop placed found rfl rfl (StreamsPlaced.untouched_keeps streams keeps) rfl rfl
        (by simp [Running])
    | opened authenticated found party accept called =>
      obtain ⟨first, apart⟩ := ordered accept
      exact parts.openPart placed found rfl (by simp [Ledger.record]) rfl first apart called
    | rejected authenticated found party reject =>
      exact parts.stop placed found rfl (by simp) StreamsPlaced.untouched_self rfl rfl
        (by simp [Running])
    | writeFailed authenticated found party running called failed =>
      have live := parts.running found running
      obtain ⟨_, f, found', handle, -, -⟩ := parts.live live
      rw [found] at found'
      cases found'
      rw [handle] at called
      exact parts.stop placed found rfl rfl (StreamsPlaced.untouched_onStream parts.toStreamsPlaced
        found live handle (FileStore.write_chunk_onStream called).1) rfl rfl (by simp [Running])
    | received authenticated found party running called wrote isNext =>
      obtain ⟨-, flushes⟩ := written_inSequence called wrote ordered
      refine parts.receive placed found rfl ?_ rfl running flushes called wrote
      rw [← isNext]
      rfl
    | strayed authenticated found party running called wrote notNext =>
      exact absurd (written_inSequence called wrote ordered).1 notNext
    | finalizeFailed authenticated found party called =>
      exact parts.stop placed found rfl rfl (parts.untouched_done found ordered called).2 rfl rfl
        (by simp [Running])
    | finalized authenticated found party called =>
      exact parts.stop placed found rfl rfl (parts.untouched_done found ordered called).2 rfl rfl
        (by simp [Running])

end PartFiles

/-- What is promised of a state: the `.part` file of a transfer that takes chunks
is the concatenation of the chunks counted, in the order of their indices. -/
def PartsHoldCounted (state : Observed) : Prop :=
  ∀ id session, state.server.transfers.get_transfer id = some session → Running session →
    state.server.os.disk.content (state.server.tempAt id session) = some (state.received id) ∧
      (state.ledger.chunks id).map (·.1.toNat) = List.range session.expected_chunk_index.toNat ∧
      (state.received id).length = session.bytes_received.toNat

/-- What is promised of a step: a chunk out of sequence does not change the file. -/
def StrayHarmless (state : Observed) (label : Label) : Prop :=
  ∀ chunk session, state.asks label = some (.chunk chunk session) →
    chunk.chunk_index ≠ session.expected_chunk_index →
    (state.step label).server.os.disk.content (state.server.tempAt chunk.transfer_id session) =
      state.server.os.disk.content (state.server.tempAt chunk.transfer_id session)

def Unwrapped (state : Observed) : Prop :=
  ∀ id session, state.server.transfers.transfers id = some session →
    (state.ledger.chunks id).length < 2 ^ 32 ∧ (state.received id).length < 2 ^ 64

variable {state start : Observed} {labels : List Label} {label : Label}

theorem InSequence.ordered (inSequence : state.InSequence label) (parts : PartFiles state)
    (unwrapped : state.Unwrapped) : state.Ordered label := by
  unfold InSequence at inSequence
  unfold Ordered
  cases asked : state.asks label with
  | none => trivial
  | some request =>
    rw [asked] at inSequence
    cases request with
    | offer => trivial
    | accept req session =>
      intro accept
      obtain ⟨first, apart⟩ := inSequence accept
      obtain ⟨conn, self, result, -, effect, -, -⟩ := step_effect asked
      have found : state.server.transfers.transfers req.transfer_id = some session := by
        cases effect <;> assumption
      exact ⟨(parts.counts found).eq_nil (unwrapped _ _ found).1 first, apart⟩
    | chunk chunk session =>
      exact inSequence.imp_right (Or.imp And.left fun ⟨next, flushed, _⟩ => ⟨next, flushed⟩)
    | done done session => exact inSequence

theorem Unwrapped.booted (boot : state.Booted) : state.Unwrapped := by
  intro id session found
  rw [boot.fresh.2.1] at found
  cases found

theorem Unwrapped.step (unwrapped : state.Unwrapped) (parts : PartFiles state)
    (inSequence : state.InSequence label) : (state.step label).Unwrapped := by
  cases asked : state.asks label with
  | none =>
    obtain ⟨-, -, transfers, ledger⟩ := (step_same asked).1
    intro id session
    rw [received, transfers, ledger]
    exact unwrapped id session
  | some request =>
    unfold InSequence at inSequence
    rw [asked] at inSequence
    obtain ⟨conn, self, result, -, effect, -, stepped⟩ := step_effect asked
    rw [stepped]
    have keep {id : UInt64} {old new : TransferSession} {server : Server} {ledger : Ledger}
        (was : state.server.transfers.transfers id = some old)
        (transfers : server.transfers = state.server.transfers.put id new)
        (chunks : ledger.chunks = state.ledger.chunks) : Unwrapped ⟨server, ledger⟩ := by
      intro other entry found
      dsimp only at found
      rw [transfers] at found
      rw [received, chunks]
      rcases TransferManager.put_found found with ⟨rfl, -⟩ | ⟨-, old⟩
      · exact unwrapped _ _ was
      · exact unwrapped _ _ old
    cases effect with
    | offered =>
      intro other entry found
      by_cases same : other = state.server.transfers.next_transfer_id
      · subst same
        simp [received, Ledger.record]
      · have old := (TransferManager.put_found found).resolve_left fun both => same both.1
        simpa [received, Ledger.record, Function.update_of_ne same] using unwrapped _ _ old.2
    | openFailed authenticated found => exact keep found rfl rfl
    | opened authenticated found => exact keep found rfl (by simp [Ledger.record])
    | rejected authenticated found => exact keep found rfl (by simp)
    | writeFailed authenticated found => exact keep found rfl rfl
    | @received chunk session os written authenticated found party running called wrote isNext =>
      obtain ⟨-, -, index, bytes⟩ := PartFiles.written_inSequence called wrote
        (inSequence.imp_right (Or.imp_left And.left))
      have counts := parts.counts found
      rw [counts.index_toNat (unwrapped _ _ found).1] at index
      rw [counts.bytes_toNat (unwrapped _ _ found).2] at bytes
      intro other entry found'
      rcases TransferManager.put_found found' with ⟨rfl, -⟩ | ⟨ne, old⟩
      · refine ⟨by simpa [Ledger.record] using index, ?_⟩
        rw [← List.length_append] at bytes
        simpa only [Observed.received, Ledger.recordAll_cons, Ledger.recordAll_nil, Ledger.record,
          Function.update_self, List.map_append, List.flatten_append, List.map_cons, List.map_nil,
          List.flatten_cons, List.flatten_nil, List.append_nil] using bytes
      · simpa [Observed.received, Ledger.record, Function.update_of_ne ne] using unwrapped _ _ old
    | strayed authenticated found => exact keep found rfl rfl
    | finalizeFailed authenticated found => exact keep found rfl rfl
    | finalized authenticated found => exact keep found rfl rfl

theorem PartFiles.holdCounted (parts : PartFiles state) (unwrapped : state.Unwrapped) :
    state.PartsHoldCounted := by
  intro id session found running
  have found : state.server.transfers.transfers id = some session := found
  have live := parts.running found running
  obtain ⟨_, f, found', handle, -, -⟩ := parts.live live
  rw [found] at found'
  cases found'
  obtain ⟨inode, opened, content⟩ := parts.intact found running handle
  obtain ⟨stream, opened', node⟩ := parts.placed found live handle
  rw [opened] at opened'
  cases opened'
  have counts := parts.counts found
  obtain ⟨small, small'⟩ := unwrapped _ _ found
  refine ⟨?_, counts.indices_toNat small, (counts.bytes_toNat small').symm⟩
  rw [Disk.content_of_node node, content]

/-- What a FILE_DONE leaves at the final path of a transfer that takes chunks. -/
theorem PartFiles.finalized (parts : PartFiles state) {id : UInt64} {session : TransferSession}
    {os : Os} {io : Io} (found : state.server.transfers.transfers id = some session)
    (running : Running session)
    (called : state.server.store.finalize_file state.server.os id session.filename
      session.file_handle io = (os, true)) :
    os.disk.content (state.server.finalAt id session) = some (state.received id) := by
  have live := parts.running found running
  obtain ⟨_, f, found', handle, -, -⟩ := parts.live live
  rw [found] at found'
  cases found'
  obtain ⟨inode, opened, content⟩ := parts.intact found running handle
  obtain ⟨stream, opened', node⟩ := parts.placed found live handle
  rw [opened] at opened'
  cases opened'
  rw [handle] at called
  rw [← content]
  exact FileStore.finalize_file_content called opened rfl node

theorem InSequence.strayHarmless (inSequence : state.InSequence label) (parts : PartFiles state) :
    state.StrayHarmless label := by
  intro chunk session asked notNext
  obtain ⟨conn, self, result, -, effect, -, stepped⟩ := step_effect asked
  unfold InSequence at inSequence
  rw [asked] at inSequence
  obtain ⟨found, running⟩ :
      state.server.transfers.transfers chunk.transfer_id = some session ∧ Running session := by
    cases effect <;> exact ⟨‹_›, ‹_›⟩
  have nothing : chunk.data = [] ∨ label.env.io.fwrite < chunk.data.length ∧
      ∀ f stream, session.file_handle = some f → state.server.os.streams f = some stream →
        (stream.buffer ++ chunk.data.take label.env.io.fwrite).take label.env.io.through = [] := by
    refine inSequence.imp_right fun rest => ?_
    obtain ⟨short, none⟩ := rest.resolve_right fun next => notNext next.1
    refine ⟨short, fun f stream handle opened => ?_⟩
    obtain ⟨inode, opened', -⟩ := parts.intact found running handle
    cases opened.symm.trans opened'
    rcases none.resolve_left notNext with none | none <;> simp [none]
  rw [stepped]
  cases effect with
  | writeFailed _ _ _ _ called => simp only [Disk.content, FileStore.write_chunk_disk called nothing]
  | received _ _ _ _ called => simp only [Disk.content, FileStore.write_chunk_disk called nothing]
  | strayed _ _ _ _ called => simp only [Disk.content, FileStore.write_chunk_disk called nothing]

structure Sequenced (state : Observed) : Prop extends PartFiles state where
  unwrapped : state.Unwrapped

theorem sequenced_run (boot : start.Booted) (along : Along step InSequence start labels) :
    (run step start labels).Sequenced :=
  along.invariant ⟨.booted boot, .booted boot⟩ fun _ _ ⟨parts, unwrapped⟩ inSequence =>
    ⟨parts.step (inSequence.ordered parts unwrapped), unwrapped.step parts inSequence⟩

/-- In a run in sequence the `.part` files hold what has been counted, and a
further step in sequence keeps stray chunks out of them. -/
theorem part_files_hold_counted (boot : start.Booted) (along : Along step InSequence start labels) :
    (run step start labels).PartsHoldCounted ∧
      ∀ label, (run step start labels).InSequence label →
        (run step start labels).StrayHarmless label := by
  obtain ⟨parts, unwrapped⟩ := sequenced_run boot along
  exact ⟨parts.holdCounted unwrapped, fun _ inSequence => inSequence.strayHarmless parts⟩

theorem part_files_hold_counted_sample :
    (run step Sample.start (Sample.delivery.take 5)).PartsHoldCounted ∧
      ∀ label, (run step Sample.start (Sample.delivery.take 5)).InSequence label →
        (run step Sample.start (Sample.delivery.take 5)).StrayHarmless label :=
  part_files_hold_counted Sample.booted (by decide)

/-- A duplicate of chunk 0 is not counted, but it is written. -/
theorem duplicate_chunk_written :
    ∃ start labels, start.Booted ∧ ¬ (run step start labels).PartsHoldCounted := by
  refine ⟨Sample.start, Sample.delivery.take 5 ++ [Sample.chunk 0 1 0 [3]], Sample.booted,
    fun holds => ?_⟩
  generalize made : run step Sample.start
    (Sample.delivery.take 5 ++ [Sample.chunk 0 1 0 [3]]) = state at holds
  have longer : (state.server.transfers.get_transfer 1).any fun session => decide
      (Running session ∧
        state.server.os.disk.content (state.server.tempAt 1 session) ≠ some (state.received 1)) := by
    rw [← made]
    decide
  obtain ⟨session, found, bad⟩ := (Option.any_eq_true _ _).mp longer
  obtain ⟨running, differs⟩ := of_decide_eq_true bad
  exact differs (holds 1 session found running).1

end Observed

end FileShareX.Net

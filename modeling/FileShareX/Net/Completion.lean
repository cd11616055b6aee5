import FileShareX.Net.PartFile

/-!
# Completed transfers

COMPLETED is to mean that all chunks are received and the file is saved.  The
handler of FILE_DONE takes the sender's word for it: it looks neither at the
counters nor at the size in the message, which is called a confirmation.
-/

namespace FileShareX.Net

open Wire Posix Protocol Storage Transfer Machine

namespace Observed

/-- The transfer gets a successful result, or becomes COMPLETED. -/
def Completes (state : Observed) (label : Label) (id : UInt64) : Prop :=
  (∃ peer path, .sent peer (.fileResult ⟨id, true, path⟩) ∈ state.events label) ∨
    state.stateOf id ≠ some .COMPLETED ∧ (state.step label).stateOf id = some .COMPLETED

def BytesBounded (state : Observed) : Prop :=
  ∀ id session, state.server.transfers.get_transfer id = some session →
    session.bytes_received ≤ session.file_size

/-- What is promised of a step: a transfer completes only by a FILE_DONE that
agrees with its counters, when all its bytes are there and saved. -/
def CompletesFully (state : Observed) (label : Label) : Prop :=
  ∀ id, state.Completes label id →
    ∃ done session, state.asks label = some (.done done session) ∧ done.transfer_id = id ∧
      session.bytes_received = session.file_size ∧
      (∃ content, (state.step label).server.os.disk.content (state.server.finalAt id session) =
        some content ∧ content.length = session.file_size.toNat) ∧
      done.total_chunks = session.expected_chunk_index ∧ done.file_size = session.file_size

/-- No chunk that is written exceeds the file size, and a FILE_DONE that can be
finalized comes after the last byte and confirms the counters. -/
def Confirmed (state : Observed) (label : Label) : Prop :=
  match state.asks label with
  | some (.chunk chunk session) =>
    chunk.data = [] ∨ label.env.io.fwrite < chunk.data.length ∨
      session.bytes_received.toNat + chunk.data.length ≤ session.file_size.toNat
  | some (.done done session) =>
    session.file_handle = none ∨ label.env.io.rename = false ∨
      Running session ∧ session.bytes_received = session.file_size ∧
        done.total_chunks = session.expected_chunk_index ∧ done.file_size = session.file_size
  | _ => True

instance (state : Observed) (label : Label) : Decidable (state.Confirmed label) :=
  match asked : state.asks label with
  | some (.offer _ _) => .isTrue (by rw [Confirmed, asked]; trivial)
  | some (.accept _ _) => .isTrue (by rw [Confirmed, asked]; trivial)
  | some (.chunk _ _) => decidable_of_iff (_ ∨ _ ∨ _) (by rw [Confirmed, asked])
  | some (.done _ _) => decidable_of_iff (_ ∨ _ ∨ _ ∧ _ ∧ _ ∧ _) (by rw [Confirmed, asked])
  | none => .isTrue (by rw [Confirmed, asked]; trivial)

def Exact (state : Observed) (label : Label) : Prop :=
  state.InSequence label ∧ state.Confirmed label

instance (state : Observed) (label : Label) : Decidable (state.Exact label) :=
  inferInstanceAs (Decidable (_ ∧ _))

variable {state start : Observed} {labels : List Label} {label : Label}

theorem BytesBounded.booted (boot : state.Booted) : state.BytesBounded := by
  intro id session found
  rw [boot.fresh.2.1] at found
  cases found

theorem BytesBounded.step (bounded : state.BytesBounded) (exact_ : state.Exact label) :
    (state.step label).BytesBounded := by
  intro id session found
  cases asked : state.asks label with
  | none =>
    rw [(step_same asked).1.transfers] at found
    exact bounded id session found
  | some request =>
    obtain ⟨inSequence, confirmed⟩ := exact_
    obtain ⟨conn, self, result, -, effect, -, stepped⟩ := step_effect asked
    unfold InSequence at inSequence
    unfold Confirmed at confirmed
    rw [asked] at inSequence confirmed
    rw [stepped] at found
    have put {id' : UInt64} {session' : TransferSession}
        (found : (state.server.transfers.put id' session').transfers id = some session)
        (good : session'.bytes_received ≤ session'.file_size) :
        session.bytes_received ≤ session.file_size := by
      rcases TransferManager.put_found found with ⟨-, rfl⟩ | ⟨-, old⟩
      · exact good
      · exact bounded id session old
    have keep {id' : UInt64} {old new : TransferSession}
        (found : (state.server.transfers.put id' new).transfers id = some session)
        (was : state.server.transfers.transfers id' = some old)
        (bytes : new.bytes_received = old.bytes_received) (size : new.file_size = old.file_size) :
        session.bytes_received ≤ session.file_size :=
      put found (by rw [bytes, size]; exact bounded id' old was)
    cases effect with
    | offered => exact put found (by simp [Server.offered])
    | openFailed authenticated old => exact keep found old rfl rfl
    | opened authenticated old => exact keep found old rfl rfl
    | rejected authenticated old => exact keep found old rfl rfl
    | writeFailed authenticated old => exact keep found old rfl rfl
    | @received chunk session' os written authenticated old party running called wrote isNext =>
      obtain ⟨-, -, -, bytes⟩ := PartFiles.written_inSequence called wrote
        (inSequence.imp_right (Or.imp_left And.left))
      have fits := PartFiles.written_inSequence called wrote confirmed
      have small : chunk.data.length < 2 ^ 64 := by omega
      refine put found (UInt64.le_iff_toNat_le.mpr ?_)
      simp only [TransferSession.advance, UInt64.toNat_add, UInt64.toNat_ofNat',
        Nat.mod_eq_of_lt small, Nat.mod_eq_of_lt bytes]
      exact fits
    | strayed authenticated old => exact keep found old rfl rfl
    | finalizeFailed authenticated old => exact keep found old rfl rfl
    | finalized authenticated old => exact keep found old rfl rfl

theorem not_newly_completed {id id' : UInt64} {new : TransferSession} (open_ : new.state ≠ .COMPLETED)
    (before : state.stateOf id ≠ some .COMPLETED) :
    ((state.server.transfers.put id' new).transfers id).map (·.state) ≠ some .COMPLETED := by
  intro after
  obtain ⟨entry, found, completed⟩ := Option.map_eq_some_iff.mp after
  rcases TransferManager.put_found found with ⟨rfl, rfl⟩ | ⟨-, old⟩
  · exact open_ completed
  · exact before (by rw [stateOf, old, Option.map_some, completed])

/-- Only a FILE_DONE whose file has been finalized completes a transfer. -/
theorem Completes.finalized {id : UInt64} (completes : state.Completes label id) :
    ∃ done session os, state.asks label = some (.done done session) ∧ done.transfer_id = id ∧
      state.server.transfers.transfers id = some session ∧
      state.server.store.finalize_file state.server.os id session.filename session.file_handle
        label.env.io = (os, true) ∧
      (state.step label).server.os = os := by
  cases asked : state.asks label with
  | none =>
    obtain ⟨same, replies⟩ := step_same asked
    rcases completes with ⟨peer, path, sent⟩ | ⟨before, after⟩
    · obtain ⟨peer', response, equal, refuses⟩ := replies _ sent
      cases equal
      cases refuses
    · rw [stateOf, same.transfers] at after
      exact absurd after before
  | some request =>
    obtain ⟨conn, self, result, -, effect, emitted, stepped⟩ := step_effect asked
    rcases completes with ⟨peer, path, sent⟩ | ⟨before, after⟩
    · rw [emitted] at sent
      obtain ⟨done, session, rfl, -, same, finalized⟩ := effect.fileResult sent
      obtain rfl : id = done.transfer_id := same
      cases effect with
      | finalizeFailed => simp at finalized
      | finalized authenticated found party called =>
        exact ⟨done, session, _, rfl, rfl, found, called, by rw [stepped]⟩
    · rw [stateOf, stepped] at after
      cases effect with
      | offered => exact absurd after (not_newly_completed (by simp [Server.offered]) before)
      | openFailed => exact absurd after (not_newly_completed (by simp) before)
      | opened => exact absurd after (not_newly_completed (by simp) before)
      | rejected => exact absurd after (not_newly_completed (by simp) before)
      | writeFailed => exact absurd after (not_newly_completed (by simp) before)
      | received authenticated found party running =>
        refine absurd after (not_newly_completed ?_ before)
        rcases running with now | now <;> simp [TransferSession.advance, now]
      | strayed authenticated found party running =>
        refine absurd after (not_newly_completed ?_ before)
        rcases running with now | now <;> simp [now]
      | finalizeFailed => exact absurd after (not_newly_completed (by simp) before)
      | @finalized done session os authenticated found party called =>
        obtain ⟨entry, found', completed⟩ := Option.map_eq_some_iff.mp after
        rcases TransferManager.put_found found' with ⟨rfl, -⟩ | ⟨-, old⟩
        · exact ⟨done, session, os, rfl, rfl, found, called, by rw [stepped]⟩
        · exact absurd (by rw [stateOf, old, Option.map_some, completed]) before

theorem completesFully (parts : state.Sequenced)
    (exact_ : state.Exact label) : state.CompletesFully label := by
  intro id completes
  obtain ⟨done, session, os, asked, rfl, found, called, after⟩ := completes.finalized
  have confirmed := exact_.2
  unfold Confirmed at confirmed
  rw [asked] at confirmed
  obtain ⟨running, bytes, chunks, size⟩ : Running session ∧
      session.bytes_received = session.file_size ∧
        done.total_chunks = session.expected_chunk_index ∧ done.file_size = session.file_size := by
    rcases confirmed with noStream | noRename | rest
    · rw [noStream] at called
      cases called
    · cases FileStore.finalize_file_no_rename called noRename
    · exact rest
  have content := parts.finalized found running called
  refine ⟨done, session, asked, rfl, bytes, ⟨_, by rw [after, content], ?_⟩, chunks, size⟩
  rw [← bytes]
  exact ((parts.counts found).bytes_toNat (parts.unwrapped _ _ found).2).symm

/-- In a run that is exact no transfer exceeds its size, and a further exact step
completes a transfer only if all of it is there, confirmed and saved. -/
theorem completed_transfers_are_complete (boot : start.Booted)
    (along : Along step Exact start labels) :
    (run step start labels).BytesBounded ∧
      ∀ label, (run step start labels).Exact label → (run step start labels).CompletesFully label := by
  have bounded : (run step start labels).BytesBounded :=
    along.invariant (.booted boot) fun _ _ bounded exact_ => bounded.step exact_
  have parts := sequenced_run boot (along.mono fun _ _ => And.left)
  exact ⟨bounded, fun label => completesFully parts⟩

theorem completed_transfers_are_complete_sample :
    (run step Sample.start (Sample.delivery.take 5)).BytesBounded ∧
      ∀ label, (run step Sample.start (Sample.delivery.take 5)).Exact label →
        (run step Sample.start (Sample.delivery.take 5)).CompletesFully label :=
  completed_transfers_are_complete Sample.booted (by decide)

/-- A FILE_DONE before the first chunk completes an empty file of two bytes. -/
theorem early_done_completes :
    ∃ start labels label, start.Booted ∧ ¬ (run step start labels).CompletesFully label := by
  refine ⟨Sample.start, Sample.delivery.take 4, Sample.done 0 1 1 2, Sample.booted, fun full => ?_⟩
  generalize made : run step Sample.start (Sample.delivery.take 4) = state at full
  have completes : state.Completes (Sample.done 0 1 1 2) 1 := by
    refine .inr ?_
    rw [← made]
    decide
  have short : (state.server.transfers.transfers 1).any fun session =>
      session.bytes_received ≠ session.file_size := by
    rw [← made]
    decide
  obtain ⟨done, session, asked, -, bytes, -⟩ := full 1 completes
  obtain ⟨done', session', os, asked', -, found, -⟩ := completes.finalized
  rw [asked] at asked'
  cases asked'
  rw [found] at short
  exact of_decide_eq_true short bytes

end Observed

end FileShareX.Net

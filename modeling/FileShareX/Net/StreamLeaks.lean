import FileShareX.Net.StreamPlacement

/-!
# Streams that nobody closes

Only `finalize_file` closes a stream.  An accept, a rejection or a failing chunk
that takes a transfer out of the states in which it is still used leaves the
stream open.  A record also keeps the pointer of a stream that has been closed,
so the next stream `fopen` puts there belongs to two records.
-/

namespace FileShareX.Net

open Wire Posix Protocol Storage Transfer Machine

def HeldOnce (transfers : TransferManager) (f : Ptr) : Prop :=
  ∃ id session, transfers.transfers id = some session ∧ session.file_handle = some f ∧
    Running session ∧
    ∀ other entry, transfers.transfers other = some entry → entry.file_handle = some f → other = id

namespace HeldOnce

variable {transfers : TransferManager} {f : Ptr} {id : UInt64} {session changed : TransferSession}

theorem put_without (held : HeldOnce transfers f)
    (before : ∀ session, transfers.transfers id = some session → session.file_handle ≠ some f)
    (now : changed.file_handle ≠ some f) : HeldOnce (transfers.put id changed) f := by
  obtain ⟨owner, record, found, holds, running, only⟩ := held
  have elsewhere : owner ≠ id := by
    rintro rfl
    exact before record found holds
  refine ⟨owner, record, (TransferManager.put_of_ne elsewhere).trans found, holds, running, ?_⟩
  intro other entry found same
  rcases TransferManager.put_found found with ⟨-, rfl⟩ | ⟨-, old⟩
  · exact absurd same now
  · exact only other entry old same

theorem not_put (held : HeldOnce transfers f) (found : transfers.transfers id = some session)
    (holds : session.file_handle = some f) (now : changed.file_handle ≠ some f) :
    ¬ HeldOnce (transfers.put id changed) f := by
  rintro ⟨owner, record, found', holds', -, -⟩
  obtain ⟨owner', -, -, -, -, only⟩ := held
  rcases TransferManager.put_found found' with ⟨-, rfl⟩ | ⟨ne, old⟩
  · exact now holds'
  · exact ne ((only owner record old holds').trans (only id session found holds).symm)

/-- A record that takes the stream has to be the only one that names it. -/
theorem put_iff (holds : changed.file_handle = some f) (running : Running changed) :
    HeldOnce (transfers.put id changed) f ↔ ∀ other entry,
      transfers.transfers other = some entry → entry.file_handle = some f → other = id := by
  constructor
  · rintro ⟨owner, -, -, -, -, only⟩ other entry found same
    by_cases mine : other = id
    · exact mine
    · exact (only other entry ((TransferManager.put_of_ne mine).trans found) same).trans
        (only id changed TransferManager.put_self holds).symm
  · intro fresh
    refine ⟨id, changed, TransferManager.put_self, holds, running, fun other entry found same => ?_⟩
    rcases TransferManager.put_found found with ⟨rfl, -⟩ | ⟨-, old⟩
    · rfl
    · exact fresh other entry old same

theorem put_kept_iff (held : HeldOnce transfers f)
    (found : transfers.transfers id = some session) (holds : session.file_handle = some f)
    (now : changed.file_handle = some f) :
    HeldOnce (transfers.put id changed) f ↔ Running changed := by
  constructor
  · rintro ⟨owner, record, found', -, running, only⟩
    obtain rfl := only id changed TransferManager.put_self now
    cases TransferManager.put_self.symm.trans found'
    exact running
  · intro running
    obtain ⟨owner, -, -, -, -, only⟩ := held
    refine (put_iff now running).mpr fun other entry old same => ?_
    exact (only other entry old same).trans (only id session found holds).symm

end HeldOnce

namespace Observed

/-- Every open stream is the current one of exactly one transfer, and that one takes chunks. -/
def NoLeak (state : Observed) : Prop :=
  ∀ f, (state.server.os.streams f).isSome → HeldOnce state.server.transfers f

def Closed (state : Observed) (session : TransferSession) : Prop :=
  ∀ f, session.file_handle = some f → ¬ (state.server.os.streams f).isSome

/-- An offer does not replace a record with an open stream, an accept or a rejection does
not find one, the stream an accept opens is in no other record, and a chunk that does find
one can be written. -/
def Tidy (state : Observed) (label : Label) : Prop :=
  match state.asks label with
  | some (.offer _ _) => ∀ session,
      state.server.transfers.transfers state.server.transfers.next_transfer_id = some session →
        state.Closed session
  | some (.accept req session) => state.Closed session ∧
      (req.accept = true → ∀ f os,
        state.server.store.open_for_write state.server.os req.transfer_id session.filename
          label.env.io = (os, some f) →
        ∀ other entry, state.server.transfers.transfers other = some entry →
          entry.file_handle = some f → other = req.transfer_id)
  | some (.chunk chunk session) =>
      state.Closed session ∨ chunk.data ≠ [] ∧ chunk.data.length ≤ label.env.io.fwrite
  | _ => True

variable {state after : Observed} {id : UInt64} {session changed : TransferSession}

theorem noLeak_booted (boot : state.Booted) : state.NoLeak := by
  intro f opened
  rw [boot.fresh.2.2.2.2 f] at opened
  cases opened

theorem not_closed (busy : ¬ state.Closed session) :
    ∃ f, session.file_handle = some f ∧ (state.server.os.streams f).isSome := by
  unfold Closed at busy
  push Not at busy
  exact busy

namespace NoLeak

theorem same (safe : state.NoLeak) (same : state.Same after) : after.NoLeak := by
  obtain ⟨-, os, transfers, -⟩ := same
  unfold NoLeak
  rw [os, transfers]
  exact safe

theorem rewrite_iff (safe : state.NoLeak) {os : Os} {ledger : Ledger}
    (found : state.server.transfers.transfers id = some session)
    (streams : ∀ f, (os.streams f).isSome = (state.server.os.streams f).isSome)
    (handle : changed.file_handle = session.file_handle) :
    NoLeak ⟨{ state.server with os, transfers := state.server.transfers.put id changed }, ledger⟩ ↔
      state.Closed session ∨ Running changed := by
  constructor
  · intro kept
    by_cases closed : state.Closed session
    · exact .inl closed
    · obtain ⟨f, holds, opened⟩ := not_closed closed
      have held := kept f ((streams f).trans opened)
      exact .inr (((safe f opened).put_kept_iff found holds (handle.trans holds)).mp held)
  · intro tidy f opened
    replace opened := (streams f).symm.trans opened
    by_cases holds : session.file_handle = some f
    · have running := tidy.resolve_left fun closed => closed f holds opened
      exact ((safe f opened).put_kept_iff found holds (handle.trans holds)).mpr running
    · refine (safe f opened).put_without (fun session' found' => ?_) (by rwa [handle])
      cases found.symm.trans found'
      exact holds

/-- A new record has no stream, so the one it replaces must have none open. -/
theorem create_iff (safe : state.NoLeak) {next : UInt64} {ledger : Ledger}
    (handle : changed.file_handle = none) :
    NoLeak
      ⟨{ state.server with
         transfers :=
          { state.server.transfers.put id changed with next_transfer_id := next } }, ledger⟩ ↔
      ∀ session, state.server.transfers.transfers id = some session → state.Closed session := by
  have now (f : Ptr) : changed.file_handle ≠ some f := by
    rw [handle]
    nofun
  constructor
  · intro kept session found f holds opened
    exact (safe f opened).not_put found holds (now f) (kept f opened)
  · intro tidy f opened
    refine (safe f opened).put_without (fun session found holds => ?_) (now f)
    exact tidy session found f holds opened

/-- The stream that was there must not be open, and no other record may name the new one. -/
theorem open_iff (safe : state.NoLeak) {os : Os} {ledger : Ledger} {f : Ptr} {stream : Stream}
    (found : state.server.transfers.transfers id = some session)
    (unused : state.server.os.streams f = none)
    (streams : os.streams = Function.update state.server.os.streams f (some stream))
    (handle : changed.file_handle = some f) (running : Running changed) :
    NoLeak ⟨{ state.server with os, transfers := state.server.transfers.put id changed }, ledger⟩ ↔
      state.Closed session ∧ ∀ other entry, state.server.transfers.transfers other = some entry →
        entry.file_handle = some f → other = id := by
  have still {g : Ptr} (opened : (state.server.os.streams g).isSome) :
      g ≠ f ∧ (os.streams g).isSome := by
    have differ : g ≠ f := by
      rintro rfl
      rw [unused] at opened
      cases opened
    exact ⟨differ, by rwa [streams, Function.update_of_ne differ]⟩
  have now {g : Ptr} (differ : g ≠ f) : changed.file_handle ≠ some g := by
    rw [handle]
    exact fun same => differ (Option.some.inj same).symm
  constructor
  · intro kept
    refine ⟨fun g holds opened => ?_, (HeldOnce.put_iff handle running).mp (kept f ?_)⟩
    · obtain ⟨differ, opened'⟩ := still opened
      exact (safe g opened).not_put found holds (now differ) (kept g opened')
    · show (os.streams f).isSome
      rw [streams, Function.update_self]
      rfl
  · rintro ⟨closed, fresh⟩ g opened
    change (os.streams g).isSome at opened
    by_cases new : g = f
    · subst new
      exact (HeldOnce.put_iff handle running).mpr fresh
    · rw [streams, Function.update_of_ne new] at opened
      refine (safe g opened).put_without (fun session' found' holds => ?_) (now new)
      cases found.symm.trans found'
      exact closed g holds opened

theorem close (safe : state.NoLeak) {os : Os} {ledger : Ledger}
    (found : state.server.transfers.transfers id = some session)
    (streams : ∀ f, os.streams f =
      if session.file_handle = some f then none else state.server.os.streams f)
    (handle : changed.file_handle = session.file_handle) :
    NoLeak
      ⟨{ state.server with os, transfers := state.server.transfers.put id changed }, ledger⟩ := by
  intro f opened
  change (os.streams f).isSome at opened
  rw [streams] at opened
  split at opened
  · cases opened
  · next differ =>
    refine (safe f opened).put_without (fun session' found' => ?_) (by rwa [handle])
    cases found.symm.trans found'
    exact differ

theorem step_iff (safe : state.NoLeak) (label : Label) :
    (state.step label).NoLeak ↔ state.Tidy label := by
  unfold Tidy
  cases asked : state.asks label with
  | none => exact iff_of_true (safe.same (step_same asked).1) trivial
  | some request =>
    obtain ⟨conn, self, result, -, effect, -, stepped⟩ := step_effect asked
    rw [stepped]
    cases effect with
    | offered authenticated => exact safe.create_iff rfl
    | openFailed authenticated found party accept called =>
      obtain ⟨-, streams, -⟩ := FileStore.open_for_write_none called
      refine Iff.trans (safe.rewrite_iff found (fun f => by rw [streams]) rfl) ?_
      rw [or_iff_left (by simp [Running])]
      refine (and_iff_left fun _ f os called' => ?_).symm
      cases called.symm.trans called'
    | opened authenticated found party accept called =>
      obtain ⟨-, unused, made, inode, -, -, streams⟩ := FileStore.open_for_write_some called
      refine (safe.open_iff found unused streams rfl (.inl rfl)).trans (and_congr_right fun _ => ?_)
      constructor
      · intro fresh _ f os called'
        cases called.symm.trans called'
        exact fresh
      · exact fun fresh => fresh accept _ _ called
    | rejected authenticated found party reject =>
      refine Iff.trans (safe.rewrite_iff found (fun f => ?_) ?_) ?_
      · rfl
      · rfl
      rw [or_iff_left (by simp [Running])]
      refine (and_iff_left fun accept => ?_).symm
      cases reject.symm.trans accept
    | writeFailed authenticated found party running called failed =>
      refine Iff.trans (safe.rewrite_iff found (StreamsOwned.write_chunk_kept called) rfl) ?_
      refine or_congr_right' fun busy => iff_of_false (by simp [Running]) fun ⟨nonempty, taken⟩ => ?_
      obtain ⟨f, holds, -⟩ := not_closed busy
      rw [holds] at called
      exact absurd failed (Int.not_lt.mpr (FileStore.write_chunk_full called nonempty taken))
    | received authenticated found party running called wrote inSequence =>
      refine Iff.trans (safe.rewrite_iff found (StreamsOwned.write_chunk_kept called) rfl) ?_
      obtain ⟨-, -, nonempty, taken, -⟩ := FileStore.write_chunk_nonneg called wrote
      exact iff_of_true (.inr (Running.advance running _)) (.inr ⟨nonempty, taken⟩)
    | strayed authenticated found party running called wrote outOfSequence =>
      refine Iff.trans (safe.rewrite_iff found (StreamsOwned.write_chunk_kept called) rfl) ?_
      obtain ⟨-, -, nonempty, taken, -⟩ := FileStore.write_chunk_nonneg called wrote
      exact iff_of_true (.inr running) (.inr ⟨nonempty, taken⟩)
    | finalizeFailed authenticated found party called =>
      exact iff_of_true (safe.close found (FileStore.finalize_file_streams called) rfl) trivial
    | finalized authenticated found party called =>
      exact iff_of_true (safe.close found (FileStore.finalize_file_streams called) rfl) trivial

end NoLeak

/-- No stream is leaked up to any point of a run exactly if all its steps are tidy. -/
theorem noLeak_iff {start : Observed} (boot : start.Booted) (labels : List Label) :
    (∀ earlier, earlier <+: labels → (run step start earlier).NoLeak) ↔
      Along step Tidy start labels :=
  prefixes_iff (noLeak_booted boot) (fun _ safe => safe)
    (fun _ label safe => (safe.step_iff label).mpr) (fun _ label safe => (safe.step_iff label).mp)
    labels

theorem noLeak_iff_sample :
    (∀ earlier, earlier <+: Sample.delivery → (run step Sample.start earlier).NoLeak) ↔
      Along step Tidy Sample.start Sample.delivery :=
  noLeak_iff Sample.booted Sample.delivery

/-- Transfer 1 is accepted, and its first chunk is empty. -/
def emptyChunk : List Label :=
  [.connect, Sample.login 0 "alice" 1, Sample.offer 0 "alice" "a" 2, Sample.accept 0 1 5,
    Sample.chunk 0 1 0 []]

/-- The empty chunk fails the transfer, and the stream stays open. -/
theorem noLeak_emptyChunk :
    Sample.start.Booted ∧ ¬ (run step Sample.start emptyChunk).NoLeak := by
  refine ⟨Sample.booted, fun safe => ?_⟩
  have last : let server := (run step Sample.start emptyChunk).server
      (server.os.streams 5).isSome = true ∧
        (server.transfers.transfers 1).map (fun record => (record.state, record.file_handle)) =
          some (.FAILED, some 5) := by
    decide
  obtain ⟨id, session, found, -, running, only⟩ := safe 5 last.1
  obtain ⟨record, found', fields⟩ := Option.map_eq_some_iff.mp last.2
  obtain ⟨failed, holds⟩ := Prod.mk.inj fields
  obtain rfl := only 1 record found' holds
  cases found.symm.trans found'
  rcases running with running | running <;> cases failed.symm.trans running

end Observed

end FileShareX.Net

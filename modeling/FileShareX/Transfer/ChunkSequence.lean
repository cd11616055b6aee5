import FileShareX.Foundation.Transition
import FileShareX.Transfer.TransferManager
import Mathlib.Data.List.Induction

/-!
# Chunks in sequence

`mark_chunk_received` over and over, for any transfers, with any indices and sizes.
The counters of a record are those of the calls that it has accepted, as far as their
widths go.
-/

namespace FileShareX.Transfer

open Wire Machine

structure Creation where
  sender_user_id : Int64
  sender_username : Bytes
  sender_token : Bytes
  receiver_user_id : Int64
  receiver_username : Bytes
  filename : Bytes
  file_size : UInt64
  chunk_size : UInt32

structure ChunkCall where
  transfer_id : UInt64
  chunk_index : UInt32
  chunk_bytes : Nat

/-- The record with the counters of the calls that were accepted for it. -/
def TransferSession.counting (session : TransferSession) (calls : List ChunkCall) :
    TransferSession :=
  { session with
    expected_chunk_index := UInt32.ofNat calls.length
    bytes_received := UInt64.ofNat (calls.map ChunkCall.chunk_bytes).sum }

/-- As `create_transfer` leaves a record. -/
structure TransferSession.Fresh (session : TransferSession) : Prop where
  state : session.state = .OFFERED
  index : session.expected_chunk_index = 0
  bytes : session.bytes_received = 0

namespace TransferSession

variable {session : TransferSession}

theorem Fresh.counting_nil (fresh : session.Fresh) : session.counting [] = session := by
  obtain ⟨-, index, bytes⟩ := fresh
  cases session
  cases index
  cases bytes
  rfl

theorem Fresh.advance (fresh : session.Fresh) (calls : List ChunkCall) (call : ChunkCall) :
    (session.counting calls).advance call.chunk_bytes = session.counting (calls ++ [call]) := by
  have state : session.state ≠ .ACCEPTED := by
    rw [fresh.state]
    decide
  simp [counting, TransferSession.advance, state, UInt32.ofNat_add, UInt64.ofNat_add]

end TransferSession

namespace TransferManager

def create (manager : TransferManager) (creation : Creation) : TransferManager :=
  (manager.create_transfer creation.sender_user_id creation.sender_username creation.sender_token
    creation.receiver_user_id creation.receiver_username creation.filename creation.file_size
    creation.chunk_size).1

def created (creations : List Creation) : TransferManager := run create {} creations

def answer (manager : TransferManager) (call : ChunkCall) : Bool :=
  (manager.mark_chunk_received call.transfer_id call.chunk_index call.chunk_bytes).2

def mark (manager : TransferManager) (call : ChunkCall) : TransferManager :=
  (manager.mark_chunk_received call.transfer_id call.chunk_index call.chunk_bytes).1

def accepted (id : UInt64) : TransferManager → List ChunkCall → List ChunkCall
  | _, [] => []
  | manager, call :: calls =>
    if call.transfer_id = id ∧ manager.answer call = true then
      call :: accepted id (manager.mark call) calls
    else accepted id (manager.mark call) calls

/-! ### One call -/

variable {manager start : TransferManager} {call : ChunkCall} {id : UInt64}
  {session : TransferSession}

theorem answer_iff : manager.answer call = true ↔
    ∃ session, manager.transfers call.transfer_id = some session ∧
      call.chunk_index = session.expected_chunk_index := by
  unfold answer mark_chunk_received
  cases found : manager.transfers call.transfer_id with
  | none => simp
  | some session =>
    dsimp only
    split
    · next next => exact iff_of_true rfl ⟨session, rfl, next⟩
    · next other =>
      apply iff_of_false Bool.false_ne_true
      rintro ⟨_, same, next⟩
      cases same
      exact other next

theorem mark_rejected (rejected : manager.answer call = false) : manager.mark call = manager := by
  have refused : ¬ ∃ session, manager.transfers call.transfer_id = some session ∧
      call.chunk_index = session.expected_chunk_index := by
    rw [← answer_iff, rejected]
    exact Bool.false_ne_true
  unfold mark mark_chunk_received
  split
  · next session found => rw [if_neg fun next => refused ⟨session, found, next⟩]
  · rfl

theorem mark_accepted (found : manager.transfers call.transfer_id = some session)
    (next : call.chunk_index = session.expected_chunk_index) :
    manager.mark call = manager.put call.transfer_id (session.advance call.chunk_bytes) := by
  rw [mark, mark_chunk_received_eq found, if_pos next]

theorem mark_other (ne : id ≠ call.transfer_id) :
    (manager.mark call).transfers id = manager.transfers id := by
  cases accepts : manager.answer call with
  | false => rw [mark_rejected accepts]
  | true =>
    obtain ⟨session, found, next⟩ := answer_iff.mp accepts
    rw [mark_accepted found next, put_of_ne ne]

/-! ### Any number of calls -/

theorem accepted_append (calls more : List ChunkCall) :
    accepted id manager (calls ++ more) =
      accepted id manager calls ++ accepted id (run mark manager calls) more := by
  induction calls generalizing manager with
  | nil => rfl
  | cons call calls ih =>
    rw [List.cons_append, accepted, accepted, ih, run_cons]
    split <;> rfl

def Fresh (manager : TransferManager) : Prop :=
  ∀ {id session}, manager.transfers id = some session → session.Fresh

theorem fresh_created (creations : List Creation) : (created creations).Fresh := by
  induction creations using List.reverseRecOn with
  | nil => exact nofun
  | append_singleton creations creation ih =>
    intro id session found
    rw [created, run_concat] at found
    rcases put_found found with ⟨-, rfl⟩ | ⟨-, found⟩
    · exact ⟨rfl, rfl, rfl⟩
    · exact ih found

theorem run_counting (fresh : start.Fresh) (calls : List ChunkCall) (id : UInt64) :
    (run mark start calls).transfers id =
      (start.transfers id).map (·.counting (accepted id start calls)) := by
  induction calls using List.reverseRecOn with
  | nil =>
    cases found : start.transfers id with
    | none => exact found
    | some session =>
      rw [Option.map_some, accepted, (fresh found).counting_nil]
      exact found
  | append_singleton calls call ih =>
    rw [run_concat, accepted_append]
    by_cases mine : id = call.transfer_id
    · subst mine
      cases accepts : (run mark start calls).answer call with
      | false => simp [accepted, accepts, mark_rejected accepts, ih]
      | true =>
        obtain ⟨now, found, next⟩ := answer_iff.mp accepts
        rw [mark_accepted found next, put_self]
        rw [ih] at found
        obtain ⟨session, created, rfl⟩ := Option.map_eq_some_iff.mp found
        simp [accepted, accepts, created, (fresh created).advance]
    · rw [mark_other mine, ih]
      simp [accepted, Ne.symm mine]

/-! ### Sequential acceptance -/

/-- What a sequence of calls does to the records and how its calls are answered. -/
structure Sequential (start : TransferManager) (calls : List ChunkCall) : Prop where
  /-- The counters of a record are those of the calls accepted for it, up to their widths. -/
  counters : ∀ id session, start.transfers id = some session →
    ∃ session', (run mark start calls).transfers id = some session' ∧
      session'.expected_chunk_index.toNat = (accepted id start calls).length % 2 ^ 32 ∧
      session'.bytes_received.toNat =
        ((accepted id start calls).map ChunkCall.chunk_bytes).sum % 2 ^ 64
  /-- A call is accepted exactly if its transfer exists and its index is the number of calls
  accepted before it for that transfer. -/
  answers : ∀ earlier call later, calls = earlier ++ call :: later →
    ((run mark start earlier).answer call = true ↔
      (start.transfers call.transfer_id).isSome ∧
        call.chunk_index.toNat = (accepted call.transfer_id start earlier).length % 2 ^ 32)
  rejected : ∀ earlier call later, calls = earlier ++ call :: later →
    (run mark start earlier).answer call = false →
    (run mark start earlier).mark call = run mark start earlier
  others : ∀ earlier call later, calls = earlier ++ call :: later → ∀ id, id ≠ call.transfer_id →
    ((run mark start earlier).mark call).transfers id = (run mark start earlier).transfers id
  /-- As long as the index has not wrapped, the accepted calls are numbered from zero on. -/
  indices : ∀ id, (accepted id start calls).length ≤ 2 ^ 32 →
    (accepted id start calls).map (·.chunk_index.toNat) =
      List.range (accepted id start calls).length

theorem answer_run_iff (fresh : start.Fresh) (calls : List ChunkCall) :
    (run mark start calls).answer call = true ↔ (start.transfers call.transfer_id).isSome ∧
      call.chunk_index.toNat = (accepted call.transfer_id start calls).length % 2 ^ 32 := by
  rw [answer_iff, run_counting fresh]
  cases start.transfers call.transfer_id with
  | none => simp
  | some session => simp [TransferSession.counting, ← UInt32.toNat_inj]

theorem accepted_indices (fresh : start.Fresh) (calls : List ChunkCall) (id : UInt64)
    (few : (accepted id start calls).length ≤ 2 ^ 32) :
    (accepted id start calls).map (·.chunk_index.toNat) =
      List.range (accepted id start calls).length := by
  induction calls using List.reverseRecOn with
  | nil => rfl
  | append_singleton calls call ih =>
    rw [accepted_append] at few ⊢
    rw [List.length_append] at few
    have before := ih (Nat.le_of_add_right_le few)
    by_cases counts : call.transfer_id = id ∧ (run mark start calls).answer call = true
    · obtain ⟨rfl, accepts⟩ := counts
      simp only [accepted, accepts, and_self, if_true, List.length_singleton] at few ⊢
      have index := ((answer_run_iff fresh calls).mp accepts).2
      rw [Nat.mod_eq_of_lt few] at index
      rw [List.map_append, before, List.length_append, List.length_singleton, List.range_succ,
        List.map_singleton, index]
    · simp only [accepted, if_neg counts, List.append_nil]
      exact before

/-- Transfers that have just been created take their chunks in sequence. -/
theorem sequential_acceptance (creations : List Creation) (calls : List ChunkCall) :
    Sequential (created creations) calls where
  counters id session found := by
    have now := run_counting (fresh_created creations) calls id
    rw [found, Option.map_some] at now
    exact ⟨_, now, UInt32.toNat_ofNat', UInt64.toNat_ofNat'⟩
  answers earlier call later _ := answer_run_iff (fresh_created creations) earlier
  rejected earlier call later _ := mark_rejected
  others earlier call later _ id ne := mark_other ne
  indices id few := accepted_indices (fresh_created creations) calls id few

end TransferManager

end FileShareX.Transfer

import FileShareX.Foundation.Files

/-!
# Transfer records

`transfer_manager.h` and `transfer_manager.cpp`.  The map holds shared
pointers; a handler that writes a field through its pointer is modelled by
`modify` on the entry.
-/

namespace FileShareX.Transfer

open Wire Posix

inductive TransferState where
  | OFFERED | ACCEPTED | RECEIVING | COMPLETED | FAILED
  deriving DecidableEq, Repr

structure TransferSession where
  transfer_id : UInt64 := 0
  sender_user_id : Int64 := 0
  sender_username : Bytes := []
  sender_token : Bytes := []
  receiver_user_id : Int64 := 0
  receiver_username : Bytes := []
  filename : Bytes := []
  file_size : UInt64 := 0
  chunk_size : UInt32 := 0
  expected_chunk_index : UInt32 := 0
  bytes_received : UInt64 := 0
  state : TransferState := .OFFERED
  temp_file_path : Bytes := []
  final_file_path : Bytes := []
  file_handle : Option Ptr := none
  deriving DecidableEq

def TransferSession.advance (session : TransferSession) (chunk_bytes : Nat) : TransferSession :=
  { session with
    expected_chunk_index := session.expected_chunk_index + 1
    bytes_received := session.bytes_received + UInt64.ofNat chunk_bytes
    state := if session.state = .ACCEPTED then .RECEIVING else session.state }

structure TransferManager where
  next_transfer_id : UInt64 := 1
  transfers : UInt64 → Option TransferSession := fun _ => none

namespace TransferManager

/-- `next_transfer_id_.fetch_add(1)`, which wraps at `2 ^ 64`. -/
def generate_transfer_id (manager : TransferManager) : TransferManager × UInt64 :=
  ({ manager with next_transfer_id := manager.next_transfer_id + 1 }, manager.next_transfer_id)

def create_transfer (manager : TransferManager) (sender_user_id : Int64)
    (sender_username sender_token : Bytes) (receiver_user_id : Int64)
    (receiver_username filename : Bytes) (file_size : UInt64) (chunk_size : UInt32) :
    TransferManager × UInt64 :=
  let (manager, transfer_id) := manager.generate_transfer_id
  let session : TransferSession :=
    { transfer_id, sender_user_id, sender_username, sender_token, receiver_user_id
      receiver_username, filename, file_size, chunk_size
      state := .OFFERED
      expected_chunk_index := 0
      bytes_received := 0 }
  ({ manager with transfers := Function.update manager.transfers transfer_id (some session) },
    transfer_id)

def get_transfer (manager : TransferManager) (transfer_id : UInt64) : Option TransferSession :=
  manager.transfers transfer_id

/-- Write through the shared pointer of an entry. -/
def modify (manager : TransferManager) (transfer_id : UInt64)
    (change : TransferSession → TransferSession) : TransferManager :=
  { manager with
    transfers := Function.update manager.transfers transfer_id
      ((manager.transfers transfer_id).map change) }

def update_state (manager : TransferManager) (transfer_id : UInt64) (new_state : TransferState) :
    TransferManager × Bool :=
  match manager.transfers transfer_id with
  | some _ => (manager.modify transfer_id fun session => { session with state := new_state }, true)
  | none => (manager, false)

/-- A chunk out of sequence is refused and changes nothing here. -/
def mark_chunk_received (manager : TransferManager) (transfer_id : UInt64) (chunk_index : UInt32)
    (chunk_bytes : Nat) : TransferManager × Bool :=
  match manager.transfers transfer_id with
  | some session =>
    if chunk_index = session.expected_chunk_index then
      (manager.modify transfer_id (TransferSession.advance · chunk_bytes), true)
    else (manager, false)
  | none => (manager, false)

/-- The table with one entry replaced; every change of an entry has this form. -/
def put (manager : TransferManager) (transfer_id : UInt64) (session : TransferSession) :
    TransferManager :=
  { manager with transfers := Function.update manager.transfers transfer_id (some session) }

variable {manager : TransferManager} {transfer_id : UInt64} {session : TransferSession}

@[simp] theorem put_next : (manager.put transfer_id session).next_transfer_id =
    manager.next_transfer_id := rfl

@[simp] theorem put_self : (manager.put transfer_id session).transfers transfer_id = some session :=
  Function.update_self ..

theorem put_of_ne {other : UInt64} (ne : other ≠ transfer_id) :
    (manager.put transfer_id session).transfers other = manager.transfers other :=
  Function.update_of_ne ne ..

theorem put_found {other : UInt64} {entry : TransferSession}
    (found : (manager.put transfer_id session).transfers other = some entry) :
    other = transfer_id ∧ entry = session ∨
      other ≠ transfer_id ∧ manager.transfers other = some entry := by
  by_cases same : other = transfer_id
  · subst same
    rw [put_self] at found
    exact .inl ⟨rfl, (Option.some.inj found).symm⟩
  · rw [put_of_ne same] at found
    exact .inr ⟨same, found⟩

@[simp] theorem put_put (session' : TransferSession) :
    (manager.put transfer_id session).put transfer_id session' = manager.put transfer_id session' := by
  simp [put]

theorem put_eq_self (found : manager.transfers transfer_id = some session) :
    manager.put transfer_id session = manager := by
  unfold put
  rw [← found, Function.update_eq_self]

theorem modify_eq (found : manager.transfers transfer_id = some session)
    (change : TransferSession → TransferSession) :
    manager.modify transfer_id change = manager.put transfer_id (change session) := by
  simp [modify, put, found]

theorem update_state_eq (found : manager.transfers transfer_id = some session)
    (new_state : TransferState) :
    (manager.update_state transfer_id new_state).1 =
      manager.put transfer_id { session with state := new_state } := by
  simp [update_state, found, modify_eq found]

theorem mark_chunk_received_eq (found : manager.transfers transfer_id = some session)
    (chunk_index : UInt32) (chunk_bytes : Nat) :
    manager.mark_chunk_received transfer_id chunk_index chunk_bytes =
      if chunk_index = session.expected_chunk_index then
        (manager.put transfer_id (session.advance chunk_bytes), true)
      else (manager.put transfer_id session, false) := by
  simp [mark_chunk_received, found, modify_eq found, put_eq_self found]

end TransferManager

end FileShareX.Transfer

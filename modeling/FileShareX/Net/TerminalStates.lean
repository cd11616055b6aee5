import FileShareX.Net.Server

/-!
# Terminal states

Only FILE_CHUNK looks at the state before it is changed.  The transitions that
are meant are the ones `Leads` lists; an accept, a rejection or a FILE_DONE that
comes too late makes others.
-/

namespace FileShareX.Transfer

namespace TransferState

def Leads (old new : TransferState) : Prop :=
  (old, new) ∈ [(OFFERED, ACCEPTED), (ACCEPTED, RECEIVING), (ACCEPTED, COMPLETED),
    (RECEIVING, COMPLETED), (OFFERED, FAILED), (ACCEPTED, FAILED), (RECEIVING, FAILED)]

def Terminal (state : TransferState) : Prop := state = COMPLETED ∨ state = FAILED

instance (old new : TransferState) : Decidable (Leads old new) :=
  inferInstanceAs (Decidable (_ ∈ _))

instance (state : TransferState) : Decidable (Terminal state) :=
  inferInstanceAs (Decidable (_ ∨ _))

end TransferState

structure SameProgress (session session' : TransferSession) : Prop where
  state : session'.state = session.state
  expected_chunk_index : session'.expected_chunk_index = session.expected_chunk_index
  bytes_received : session'.bytes_received = session.bytes_received

theorem SameProgress.refl (session : TransferSession) : SameProgress session session :=
  ⟨rfl, rfl, rfl⟩

theorem SameProgress.trans {first second third : TransferSession} (one : SameProgress first second)
    (two : SameProgress second third) : SameProgress first third :=
  ⟨two.state.trans one.state, two.expected_chunk_index.trans one.expected_chunk_index,
    two.bytes_received.trans one.bytes_received⟩

/-- One change of a record: along an allowed transition, and none at the end. -/
structure Proper (session session' : TransferSession) : Prop where
  leads : session'.state = session.state ∨ session.state.Leads session'.state
  frozen : session.state.Terminal → SameProgress session session'

theorem Proper.refl (session : TransferSession) : Proper session session :=
  ⟨.inl rfl, fun _ => .refl session⟩

namespace Proper

variable {session : TransferSession}

theorem fail (unfinished : session.state ≠ .COMPLETED) :
    Proper session { session with state := .FAILED } where
  leads := by
    dsimp only
    cases state : session.state with
    | COMPLETED => exact absurd state unfinished
    | _ => decide
  frozen terminal := ⟨(terminal.resolve_left unfinished).symm, rfl, rfl⟩

theorem accept (early : session.state = .OFFERED ∨ session.state = .ACCEPTED)
    (file_handle : Option Posix.Ptr) :
    Proper session { session with state := .ACCEPTED, file_handle } where
  leads := by
    dsimp only
    rcases early with state | state <;> rw [state] <;> decide
  frozen terminal := by
    rcases early with state | state <;> rw [state] at terminal <;> exact absurd terminal (by decide)

theorem running_not_terminal (running : session.state = .ACCEPTED ∨ session.state = .RECEIVING) :
    ¬ session.state.Terminal := by
  rcases running with state | state <;> rw [state] <;> decide

theorem advance (running : session.state = .ACCEPTED ∨ session.state = .RECEIVING) (bytes : Nat) :
    Proper session (session.advance bytes) where
  leads := by
    unfold TransferSession.advance
    dsimp only
    rcases running with state | state <;> rw [state] <;> decide
  frozen terminal := absurd terminal (running_not_terminal running)

theorem complete (running : session.state = .ACCEPTED ∨ session.state = .RECEIVING) :
    Proper session { session with state := .COMPLETED } where
  leads := by
    dsimp only
    rcases running with state | state <;> rw [state] <;> decide
  frozen terminal := absurd terminal (running_not_terminal running)

end Proper

end FileShareX.Transfer

namespace FileShareX.Net

open Wire Posix Protocol Storage Transfer Machine

namespace Observed

/-- A new transfer gets a number not in use, an accept comes before any chunk, a
rejection before completion, and a FILE_DONE neither after completion nor, with
a stream, after a failure. -/
def InTime (state : Observed) (label : Label) : Prop :=
  match state.asks label with
  | some (.offer _ _) =>
    state.server.transfers.get_transfer state.server.transfers.next_transfer_id = none
  | some (.accept req session) =>
    if req.accept then session.state = .OFFERED ∨ session.state = .ACCEPTED
    else session.state ≠ .COMPLETED
  | some (.chunk _ _) => True
  | some (.done _ session) =>
    session.state ≠ .COMPLETED ∧ (session.state = .FAILED → session.file_handle = none)
  | none => True

instance (state : Observed) (label : Label) : Decidable (state.InTime label) :=
  match asked : state.asks label with
  | some (.offer _ _) => decidable_of_iff (_ = none) (by rw [InTime, asked])
  | some (.accept _ _) => decidable_of_iff (if _ then _ ∨ _ else _ ≠ _) (by rw [InTime, asked])
  | some (.chunk _ _) => .isTrue (by rw [InTime, asked]; trivial)
  | some (.done _ _) => decidable_of_iff (_ ≠ _ ∧ (_ → _)) (by rw [InTime, asked])
  | none => .isTrue (by rw [InTime, asked]; trivial)

/-- What is promised of one step: every record changes properly, and the final
file of a terminal transfer is not changed by a message about that transfer. -/
structure ChangesProperly (state : Observed) (label : Label) : Prop where
  records : ∀ {id session}, state.server.transfers.transfers id = some session →
    ∃ session', (state.step label).server.transfers.transfers id = some session' ∧
      Proper session session'
  finalFile : ∀ {id session}, state.server.transfers.transfers id = some session →
    session.state.Terminal →
    (∀ request, state.asks label = some request → request.about = some id) →
    (state.step label).server.os.disk.content (state.server.finalAt id session) =
      state.server.os.disk.content (state.server.finalAt id session)

def OfferedIdle (state : Observed) : Prop :=
  ∀ id session, state.server.transfers.transfers id = some session →
    session.state = .OFFERED → session.file_handle = none

variable {state : Observed} {label : Label}

theorem OfferedIdle.booted (boot : state.Booted) : state.OfferedIdle := by
  intro id session found
  rw [boot.fresh.2.1] at found
  cases found

theorem OfferedIdle.step (idle : state.OfferedIdle) (label : Label) :
    (state.step label).OfferedIdle := by
  intro id session found offered
  cases asked : state.asks label with
  | none =>
    rw [(step_same asked).1.transfers] at found
    exact idle id session found offered
  | some request =>
    obtain ⟨conn, self, result, -, effect, -, stepped⟩ := step_effect asked
    rw [stepped] at found
    have put {id' : UInt64} {session' : TransferSession}
        (found : (state.server.transfers.put id' session').transfers id = some session)
        (good : session'.state = .OFFERED → session'.file_handle = none) :
        session.file_handle = none := by
      rcases TransferManager.put_found found with ⟨-, rfl⟩ | ⟨-, old⟩
      · exact good offered
      · exact idle id session old offered
    cases effect with
    | offered => exact put found fun _ => rfl
    | openFailed => exact put found nofun
    | opened => exact put found nofun
    | rejected => exact put found nofun
    | writeFailed => exact put found nofun
    | received authenticated old party running =>
      refine put found fun offered => ?_
      rcases running with state | state <;> simp [TransferSession.advance, state] at offered
    | strayed authenticated old => exact put found (idle _ _ old)
    | finalizeFailed => exact put found nofun
    | finalized => exact put found nofun

/-- A stream is needed to finalize, so the transfer is not just offered; and it is
not at its end. -/
theorem InTime.running_of_finalized (inTime : state.InTime label) (idle : state.OfferedIdle)
    {done : FileDone} {session : TransferSession} {os : Os} {io : Io}
    (asked : state.asks label = some (.done done session))
    (found : state.server.transfers.transfers done.transfer_id = some session)
    (called : state.server.store.finalize_file state.server.os done.transfer_id session.filename
      session.file_handle io = (os, true)) :
    session.state = .ACCEPTED ∨ session.state = .RECEIVING := by
  unfold InTime at inTime
  rw [asked] at inTime
  have stream : session.file_handle ≠ none := by
    intro none
    rw [none] at called
    cases called
  cases now : session.state with
  | OFFERED => exact absurd (idle _ _ found now) stream
  | ACCEPTED => exact .inl rfl
  | RECEIVING => exact .inr rfl
  | COMPLETED => exact absurd now inTime.1
  | FAILED => exact absurd (inTime.2 now) stream

theorem proper_put {id other : UInt64} {session session' entry : TransferSession}
    (found : state.server.transfers.transfers id = some session) (proper : Proper session session')
    (old : state.server.transfers.transfers other = some entry) :
    ∃ entry', (state.server.transfers.put id session').transfers other = some entry' ∧
      Proper entry entry' := by
  by_cases same : other = id
  · subst same
    rw [found] at old
    cases old
    exact ⟨session', TransferManager.put_self, proper⟩
  · exact ⟨entry, (TransferManager.put_of_ne same).trans old, .refl entry⟩

theorem records_step (idle : state.OfferedIdle) (inTime : state.InTime label) {id : UInt64}
    {session : TransferSession} (old : state.server.transfers.transfers id = some session) :
    ∃ session', (state.step label).server.transfers.transfers id = some session' ∧
      Proper session session' := by
  cases asked : state.asks label with
  | none => exact ⟨session, by rwa [(step_same asked).1.transfers], .refl session⟩
  | some request =>
    have finalizes := @InTime.running_of_finalized state label inTime idle
    obtain ⟨conn, self, result, -, effect, -, stepped⟩ := step_effect asked
    unfold InTime at inTime
    rw [asked] at inTime
    rw [stepped]
    cases effect with
    | offered authenticated =>
      refine ⟨session, (TransferManager.put_of_ne ?_).trans old, .refl session⟩
      rintro rfl
      rw [show state.server.transfers.transfers _ = none from inTime] at old
      cases old
    | openFailed authenticated found party accept called =>
      simp only [accept, if_true] at inTime
      exact proper_put found (.fail (by rcases inTime with h | h <;> simp [h])) old
    | opened authenticated found party accept called =>
      simp only [accept, if_true] at inTime
      exact proper_put found (.accept inTime _) old
    | rejected authenticated found party reject =>
      simp only [reject, Bool.false_eq_true, if_false] at inTime
      exact proper_put found (.fail inTime) old
    | writeFailed authenticated found party running called failed =>
      exact proper_put found (.fail (by rcases running with h | h <;> simp [h])) old
    | received authenticated found party running called wrote inSequence =>
      exact proper_put found (.advance running _) old
    | strayed authenticated found => exact proper_put found (.refl _) old
    | finalizeFailed authenticated found party called =>
      exact proper_put found (.fail inTime.1) old
    | finalized authenticated found party called =>
      exact proper_put found (.complete (finalizes asked found called)) old

/-- Of a terminal transfer only a rejection or a FILE_DONE without a stream is in time. -/
theorem finalFile_step (inTime : state.InTime label) {id : UInt64} {session : TransferSession}
    (found : state.server.transfers.transfers id = some session) (terminal : session.state.Terminal)
    (about : ∀ request, state.asks label = some request → request.about = some id) :
    (state.step label).server.os.disk.content (state.server.finalAt id session) =
      state.server.os.disk.content (state.server.finalAt id session) := by
  cases asked : state.asks label with
  | none => rw [(step_same asked).1.os]
  | some request =>
    have about := about request asked
    obtain ⟨conn, self, result, -, effect, -, stepped⟩ := step_effect asked
    unfold InTime at inTime
    rw [asked] at inTime
    rw [stepped]
    -- The record the handler has found is the one of the terminal transfer.
    have sameRecord {id' : UInt64} {session' : TransferSession} (same : some id' = some id)
        (found' : state.server.transfers.transfers id' = some session') : session' = session := by
      cases same
      rw [found] at found'
      exact (Option.some.inj found').symm
    cases effect with
    | offered => rfl
    | rejected => rfl
    | openFailed authenticated found' party accept called =>
      cases sameRecord about found'
      simp only [accept, if_true] at inTime
      rcases inTime with now | now <;> rw [now] at terminal <;> exact absurd terminal (by decide)
    | opened authenticated found' party accept called =>
      cases sameRecord about found'
      simp only [accept, if_true] at inTime
      rcases inTime with now | now <;> rw [now] at terminal <;> exact absurd terminal (by decide)
    | writeFailed authenticated found' party running =>
      cases sameRecord about found'
      exact absurd terminal (Proper.running_not_terminal running)
    | received authenticated found' party running =>
      cases sameRecord about found'
      exact absurd terminal (Proper.running_not_terminal running)
    | strayed authenticated found' party running =>
      cases sameRecord about found'
      exact absurd terminal (Proper.running_not_terminal running)
    | finalizeFailed authenticated found' party called =>
      cases sameRecord about found'
      rw [inTime.2 (terminal.resolve_left inTime.1)] at called
      cases called
      rfl
    | finalized authenticated found' party called =>
      cases sameRecord about found'
      rw [inTime.2 (terminal.resolve_left inTime.1)] at called
      cases called

theorem changesProperly_step (idle : state.OfferedIdle) (inTime : state.InTime label) :
    state.ChangesProperly label where
  records := records_step idle inTime
  finalFile := finalFile_step inTime

variable {start : Observed} {labels later : List Label}

theorem offeredIdle_run (boot : start.Booted) (labels : List Label) :
    (run step start labels).OfferedIdle := by
  induction labels using List.reverseRecOn with
  | nil => exact .booted boot
  | append_singleton labels label ih =>
    rw [run_concat]
    exact ih.step label

theorem frozen_run (idle : state.OfferedIdle) (along : Along step InTime state later) {id : UInt64}
    {session : TransferSession} (found : state.server.transfers.transfers id = some session)
    (terminal : session.state.Terminal) :
    ∃ session', (run step state later).server.transfers.transfers id = some session' ∧
      SameProgress session session' := by
  induction later generalizing state session with
  | nil => exact ⟨session, found, .refl session⟩
  | cons label rest ih =>
    obtain ⟨first, rest⟩ := along
    obtain ⟨next, found', proper⟩ := (changesProperly_step idle first).records found
    have same := proper.frozen terminal
    obtain ⟨last, found'', same'⟩ := ih (idle.step label) rest found' (same.state ▸ terminal)
    exact ⟨last, found'', same.trans same'⟩

/-- In a run in which no request comes too late, every step changes every record
properly, and a terminal transfer keeps its state and its counters for good. -/
theorem terminal_states_final (boot : start.Booted)
    (along : Along step InTime start (labels ++ later)) :
    (∀ first label rest, labels ++ later = first ++ label :: rest →
      (run step start first).ChangesProperly label) ∧
    ∀ id session, (run step start labels).server.transfers.transfers id = some session →
      session.state.Terminal →
      ∃ session', (run step start (labels ++ later)).server.transfers.transfers id = some session' ∧
        SameProgress session session' := by
  constructor
  · intro first label rest split
    rw [split, along_append] at along
    exact changesProperly_step (offeredIdle_run boot first) along.2.1
  · intro id session found terminal
    rw [run_append]
    exact frozen_run (offeredIdle_run boot labels) (along_append.mp along).2 found terminal

theorem terminal_states_final_sample :
    (∀ first label rest, Sample.delivery ++ [Sample.chunk 0 1 1 [3]] = first ++ label :: rest →
      (run step Sample.start first).ChangesProperly label) ∧
    ∀ id session,
      (run step Sample.start Sample.delivery).server.transfers.transfers id = some session →
      session.state.Terminal →
      ∃ session', (run step Sample.start
          (Sample.delivery ++ [Sample.chunk 0 1 1 [3]])).server.transfers.transfers id = some session' ∧
        SameProgress session session' :=
  terminal_states_final Sample.booted (by decide)

/-- An accept after completion makes the transfer ACCEPTED again. -/
theorem late_accept_reopens :
    ∃ start labels label, start.Booted ∧ ¬ (run step start labels).ChangesProperly label := by
  refine ⟨Sample.start, Sample.delivery, Sample.accept 0 1 5, Sample.booted, fun proper => ?_⟩
  have before : (run step Sample.start Sample.delivery).stateOf 1 = some .COMPLETED := by decide
  have after : ((run step Sample.start Sample.delivery).step (Sample.accept 0 1 5)).stateOf 1 =
      some .ACCEPTED := by decide
  obtain ⟨session, found, completed⟩ := Option.map_eq_some_iff.mp before
  obtain ⟨session', found', changed⟩ := proper.records found
  have frozen := (changed.frozen (.inl completed)).state
  rw [stateOf, found', Option.map_some, frozen, completed] at after
  cases after

end Observed

end FileShareX.Net

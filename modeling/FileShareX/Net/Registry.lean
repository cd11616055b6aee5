import FileShareX.Net.Server

/-!
# The registry of transfers

Numbers are given out in ascending order and never twice, until the counter wraps, and a
record keeps what was offered, with the two paths made for it.
-/

namespace FileShareX.Transfer

/-- The parties, the file and the paths are the same; the progress may differ. -/
structure SameOffer (session session' : TransferSession) : Prop where
  transfer_id : session'.transfer_id = session.transfer_id
  sender_user_id : session'.sender_user_id = session.sender_user_id
  sender_username : session'.sender_username = session.sender_username
  sender_token : session'.sender_token = session.sender_token
  receiver_user_id : session'.receiver_user_id = session.receiver_user_id
  receiver_username : session'.receiver_username = session.receiver_username
  filename : session'.filename = session.filename
  file_size : session'.file_size = session.file_size
  chunk_size : session'.chunk_size = session.chunk_size
  temp_file_path : session'.temp_file_path = session.temp_file_path
  final_file_path : session'.final_file_path = session.final_file_path

namespace SameOffer

variable {session session' session'' : TransferSession}

theorem refl (session : TransferSession) : SameOffer session session :=
  ⟨rfl, rfl, rfl, rfl, rfl, rfl, rfl, rfl, rfl, rfl, rfl⟩

theorem trans (one : SameOffer session session') (two : SameOffer session' session'') :
    SameOffer session session'' where
  transfer_id := two.transfer_id.trans one.transfer_id
  sender_user_id := two.sender_user_id.trans one.sender_user_id
  sender_username := two.sender_username.trans one.sender_username
  sender_token := two.sender_token.trans one.sender_token
  receiver_user_id := two.receiver_user_id.trans one.receiver_user_id
  receiver_username := two.receiver_username.trans one.receiver_username
  filename := two.filename.trans one.filename
  file_size := two.file_size.trans one.file_size
  chunk_size := two.chunk_size.trans one.chunk_size
  temp_file_path := two.temp_file_path.trans one.temp_file_path
  final_file_path := two.final_file_path.trans one.final_file_path

theorem of_progress
    (kept : session' =
      { session with
        state := session'.state
        file_handle := session'.file_handle
        expected_chunk_index := session'.expected_chunk_index
        bytes_received := session'.bytes_received }) : SameOffer session session' := by
  rw [kept]
  exact ⟨rfl, rfl, rfl, rfl, rfl, rfl, rfl, rfl, rfl, rfl, rfl⟩

end SameOffer

end FileShareX.Transfer

namespace FileShareX.Net.Observed

open Wire Posix Protocol Storage Transfer Machine

variable {state start : Observed} {label : Label} {labels : List Label}

abbrev nextId (state : Observed) : UInt64 := state.server.transfers.next_transfer_id

theorem created_rewrites {request : Request} {id : UInt64} (asked : state.asks label = some request)
    (about : request.about = some id) :
    (step state label).ledger.created = state.ledger.created := by
  obtain ⟨conn, self, result, -, effect, -, stepped⟩ := step_effect asked
  rw [stepped]
  cases effect with
  | offered => cases about
  | opened => simp [Ledger.record]
  | rejected => simp
  | _ => rfl

/-- What a step does to the table: records get on, or one with the next number is added. -/
theorem step_numbers :
    ((step state label).ledger.created = state.ledger.created ∧
      (step state label).nextId = state.nextId ∧
      ∀ id session, (step state label).server.transfers.transfers id = some session →
        ∃ old, state.server.transfers.transfers id = some old ∧ SameOffer old session) ∨
    ∃ self req receiver, (step state label).ledger.created = state.nextId :: state.ledger.created ∧
      (step state label).nextId = state.nextId + 1 ∧
      ∀ id session, (step state label).server.transfers.transfers id = some session →
        id = state.nextId ∧ session = state.server.offered self req receiver ∨
          state.server.transfers.transfers id = some session := by
  have rewritten {request : Request} {about : UInt64} (asked : state.asks label = some request)
      (same : request.about = some about) :
      (step state label).ledger.created = state.ledger.created ∧
        (step state label).nextId = state.nextId ∧
        ∀ id session, (step state label).server.transfers.transfers id = some session →
          ∃ old, state.server.transfers.transfers id = some old ∧ SameOffer old session := by
    obtain ⟨record, changed, rewrites⟩ := step_rewrites asked same
    refine ⟨created_rewrites asked same, ?_, fun id session found => ?_⟩
    · rw [nextId, rewrites.transfers, TransferManager.put_next]
    · rw [rewrites.transfers] at found
      rcases TransferManager.put_found found with ⟨rfl, rfl⟩ | ⟨-, old⟩
      · exact ⟨record, rewrites.found, .of_progress rewrites.kept⟩
      · exact ⟨session, old, .refl session⟩
  cases asked : state.asks label with
  | none =>
    obtain ⟨-, -, transfers, ledger⟩ := (step_same asked).1
    refine .inl ⟨by rw [ledger], by rw [nextId, transfers], fun id session found => ?_⟩
    rw [transfers] at found
    exact ⟨session, found, .refl session⟩
  | some request =>
    cases request with
    | offer req receiver =>
      obtain ⟨conn, self, result, -, effect, -, stepped⟩ := step_effect asked
      rw [stepped]
      cases effect with
      | offered authenticated =>
        refine .inr ⟨self, req, receiver, rfl, rfl, fun id session found => ?_⟩
        exact (TransferManager.put_found found).imp_right And.right
    | accept => exact .inl (rewritten asked rfl)
    | chunk => exact .inl (rewritten asked rfl)
    | done => exact .inl (rewritten asked rfl)

/-- What holds of the table while the counter has not wrapped. -/
structure Registered (state : Observed) : Prop where
  /-- The numbers returned so far differ from each other and from zero. -/
  nodup : state.ledger.created.Nodup
  nonzero : 0 ∉ state.ledger.created
  entry : ∀ id session, state.server.transfers.transfers id = some session →
    session.transfer_id = id ∧ 1 ≤ id ∧ id < state.nextId
  paths : ∀ id session, state.server.transfers.transfers id = some session →
    session.temp_file_path = state.server.store.get_temp_path id session.filename ∧
      session.final_file_path = state.server.store.get_file_path id session.filename

/-- A step that creates a transfer leaves the existing records unchanged, and every record
keeps its offer. -/
structure KeepsRecords (state : Observed) (label : Label) : Prop where
  offer : ∀ req receiver, state.asks label = some (.offer req receiver) → ∀ id session,
    state.server.transfers.transfers id = some session →
      (step state label).server.transfers.transfers id = some session
  kept : ∀ id session, state.server.transfers.transfers id = some session →
    ∃ session', (step state label).server.transfers.transfers id = some session' ∧
      SameOffer session session'

/-- The path in a successful FILE_RESULT is stored in the record, and the file of the
transfer has been renamed to it. -/
def ReportsFinal (state : Observed) (label : Label) : Prop :=
  ∀ peer id path, .sent peer (.fileResult ⟨id, true, path⟩) ∈ state.events label →
    ∃ session file_handle, state.server.transfers.transfers id = some session ∧
      path = session.final_file_path ∧ session.file_handle = some file_handle ∧
      (state.server.os.fclose file_handle label.env.io.fclose label.env.io.salvaged).disk.Moves
        (resolve state.server.os.cwd session.temp_file_path) (resolve state.server.os.cwd path)
        (step state label).server.os.disk

structure Ascending (state : Observed) : Prop extends Registered state where
  count : state.nextId.toNat = state.ledger.created.length + 1
  below : ∀ id ∈ state.ledger.created, id < state.nextId

theorem Ascending.booted (boot : state.Booted) : state.Ascending := by
  obtain ⟨ledger, transfers, -⟩ := boot.fresh
  have none (id : UInt64) (session : TransferSession) :
      state.server.transfers.transfers id ≠ some session := by
    rw [transfers]
    exact nofun
  constructor
  · constructor
    · rw [ledger]
      exact .nil
    · rw [ledger]
      exact nofun
    · exact fun id session found => absurd found (none id session)
    · exact fun id session found => absurd found (none id session)
  · rw [nextId, transfers, ledger]
    rfl
  · rw [ledger]
    exact nofun

theorem Ascending.offer_keeps (ascending : state.Ascending) {req : FileOfferReq} {receiver : UserRow}
    (asked : state.asks label = some (.offer req receiver)) {id : UInt64} {session : TransferSession}
    (found : state.server.transfers.transfers id = some session) :
    (step state label).server.transfers.transfers id = some session := by
  have taken : id ≠ state.nextId := by
    rintro rfl
    exact absurd (ascending.entry _ _ found).2.2 (UInt64.lt_irrefl _)
  obtain ⟨conn, self, result, -, effect, -, stepped⟩ := step_effect asked
  rw [stepped]
  cases effect with
  | offered => exact (TransferManager.put_of_ne taken).trans found

theorem rewrites_keep {id about : UInt64} {session record changed : TransferSession}
    (rewrites : state.Rewrites (step state label) about record changed)
    (found : state.server.transfers.transfers id = some session) :
    ∃ session', (step state label).server.transfers.transfers id = some session' ∧
      SameOffer session session' := by
  by_cases same : id = about
  · subst same
    cases rewrites.found.symm.trans found
    refine ⟨changed, ?_, .of_progress rewrites.kept⟩
    rw [rewrites.transfers, TransferManager.put_self]
  · refine ⟨session, ?_, .refl session⟩
    rw [rewrites.transfers, TransferManager.put_of_ne same, found]

theorem Ascending.keepsRecords (ascending : state.Ascending) : state.KeepsRecords label where
  offer _ _ asked _ _ found := ascending.offer_keeps asked found
  kept id session found := by
    cases asked : state.asks label with
    | none =>
      obtain ⟨-, -, transfers, -⟩ := (step_same asked).1
      exact ⟨session, by rw [transfers, found], .refl session⟩
    | some request =>
      cases request with
      | offer req receiver => exact ⟨session, ascending.offer_keeps asked found, .refl session⟩
      | _ =>
        obtain ⟨record, changed, rewrites⟩ := step_rewrites asked rfl
        exact rewrites_keep rewrites found

/-- A result names the path that the file of its transfer has just been renamed to. -/
theorem Ascending.reportsFinal (ascending : state.Ascending) : state.ReportsFinal label := by
  intro peer id path sent
  cases asked : state.asks label with
  | none =>
    obtain ⟨peer', response, same, refuses⟩ := (step_same asked).2 _ sent
    cases same
    cases refuses
  | some request =>
    obtain ⟨conn, self, result, -, effect, emitted, stepped⟩ := step_effect asked
    rw [emitted] at sent
    obtain ⟨done, session, rfl, -, same, finalized⟩ := effect.fileResult sent
    obtain rfl : id = done.transfer_id := same
    rw [stepped]
    cases effect with
    | finalizeFailed => simp at finalized
    | finalized authenticated found party called =>
      obtain ⟨-, rfl⟩ : peer = conn ∧ path = session.final_file_path := by simpa using sent
      obtain ⟨temp, final⟩ := ascending.paths _ _ found
      cases handle : session.file_handle with
      | none =>
        rw [handle] at called
        cases called
      | some file_handle =>
        rw [handle] at called
        obtain ⟨-, -, moved⟩ := FileStore.finalize_file_spec called
        refine ⟨session, file_handle, found, rfl, handle, ?_⟩
        rw [temp, final]
        exact moved

theorem Ascending.step (ascending : state.Ascending)
    (few : (step state label).ledger.created.length < 2 ^ 64 - 1) :
    (step state label).Ascending := by
  have count := ascending.count
  have store := (step_root state label).1
  rcases @step_numbers state label with ⟨created, next, records⟩ | ⟨self, req, receiver, created, next, records⟩
  · constructor
    · constructor
      · rw [created]
        exact ascending.nodup
      · rw [created]
        exact ascending.nonzero
      · intro id session found
        obtain ⟨old, found, same⟩ := records id session found
        rw [same.transfer_id, next]
        exact ascending.entry id old found
      · intro id session found
        obtain ⟨old, found, same⟩ := records id session found
        rw [same.temp_file_path, same.final_file_path, same.filename, store]
        exact ascending.paths id old found
    · rw [created, next, count]
    · rw [created, next]
      exact ascending.below
  · rw [created, List.length_cons] at few
    have small : state.nextId.toNat + 1 < 2 ^ 64 := by omega
    have one_le : 1 ≤ state.nextId := by
      rw [UInt64.le_iff_toNat_le, count]
      exact Nat.le_add_left ..
    have succ : (state.nextId + 1).toNat = state.nextId.toNat + 1 := by
      rw [UInt64.toNat_add, UInt64.toNat_one, Nat.mod_eq_of_lt small]
    have above {id : UInt64} (below : id ≤ state.nextId) : id < state.nextId + 1 := by
      rw [UInt64.le_iff_toNat_le] at below
      rw [UInt64.lt_iff_toNat_lt, succ]
      omega
    have nonzero : state.nextId ≠ 0 := by
      intro zero
      rw [zero] at one_le
      exact absurd one_le (by decide)
    constructor
    · constructor
      · rw [created]
        refine List.nodup_cons.mpr ⟨fun member => ?_, ascending.nodup⟩
        exact absurd (ascending.below _ member) (UInt64.lt_irrefl _)
      · rw [created]
        exact List.not_mem_cons_of_ne_of_not_mem nonzero.symm ascending.nonzero
      · intro id session found
        rw [next]
        rcases records id session found with ⟨rfl, rfl⟩ | found
        · exact ⟨rfl, one_le, above (UInt64.le_refl _)⟩
        · obtain ⟨same, first, last⟩ := ascending.entry id session found
          exact ⟨same, first, above (UInt64.le_of_lt last)⟩
      · intro id session found
        rw [store]
        rcases records id session found with ⟨rfl, rfl⟩ | found
        · exact ⟨if_neg nonzero, if_neg nonzero⟩
        · exact ascending.paths id session found
    · rw [created, next, succ, count, List.length_cons]
    · rw [created, next]
      intro id member
      rcases List.mem_cons.mp member with rfl | member
      · exact above (UInt64.le_refl _)
      · exact above (UInt64.le_of_lt (ascending.below id member))

/-! ### Runs -/

theorem created_mono (labels : List Label) :
    start.ledger.created.length ≤ (run step start labels).ledger.created.length := by
  induction labels generalizing start with
  | nil => exact Nat.le_refl _
  | cons label labels ih =>
    refine Nat.le_trans ?_ (@ih (step start label))
    rcases @step_numbers start label with ⟨created, -⟩ | ⟨-, -, -, created, -⟩
    · rw [created]
    · rw [created, List.length_cons]
      exact Nat.le_succ _

/-- From an ascending state every run that does not exhaust the numbers leads to one, and
takes every record along. -/
theorem registry_run (ascending : start.Ascending)
    (few : (run step start labels).ledger.created.length < 2 ^ 64 - 1) :
    (run step start labels).Ascending ∧ ∀ id session,
      start.server.transfers.transfers id = some session → ∃ session',
        (run step start labels).server.transfers.transfers id = some session' ∧
          SameOffer session session' := by
  induction labels generalizing start with
  | nil => exact ⟨ascending, fun id session found => ⟨session, found, .refl session⟩⟩
  | cons label labels ih =>
    rw [run_cons] at few ⊢
    have next := ascending.step (Nat.lt_of_le_of_lt (created_mono labels) few)
    obtain ⟨last, kept⟩ := ih next few
    refine ⟨last, fun id session found => ?_⟩
    obtain ⟨after, found, one⟩ := ascending.keepsRecords.kept id session found
    obtain ⟨session', found, two⟩ := kept id after found
    exact ⟨session', found, one.trans two⟩

/-- In a run with fewer than `2 ^ 64 - 1` numbers given out, at every point: the table is in
order, its records are kept for good with their offers, a new one disturbs none of them, and
a FILE_RESULT reports the path that the file has been renamed to. -/
theorem registry_invariant (boot : start.Booted) (labels more : List Label)
    (few : (run step start (labels ++ more)).ledger.created.length < 2 ^ 64 - 1) :
    (run step start labels).Registered ∧
    (∀ id session, (run step start labels).server.transfers.transfers id = some session →
      ∃ session', (run step start (labels ++ more)).server.transfers.transfers id = some session' ∧
        SameOffer session session') ∧
    ∀ label rest, more = label :: rest →
      (run step start labels).KeepsRecords label ∧ (run step start labels).ReportsFinal label := by
  rw [run_append] at few ⊢
  have ascending := (registry_run (.booted boot) (Nat.lt_of_le_of_lt (created_mono more) few)).1
  exact ⟨ascending.toRegistered, (registry_run ascending few).2,
    fun label rest _ => ⟨ascending.keepsRecords, ascending.reportsFinal⟩⟩

theorem registry_invariant_sample :
    (run step Sample.start (Sample.delivery.take 5)).ReportsFinal (Sample.done 0 1 1 2) :=
  ((registry_invariant Sample.booted (Sample.delivery.take 5) [Sample.done 0 1 1 2] (by decide)).2.2
    _ _ rfl).2

end FileShareX.Net.Observed

import FileShareX.Client.Chunking
import FileShareX.Client.Network
import FileShareX.Net.Footprint
import FileShareX.Net.Registry
import FileShareX.Net.Uploads
import FileShareX.Protocol.RoundTrip

/-!
# An honest upload completes

What `do_recv` and `do_send` write passes every check of the server, wherever it comes
between the messages of others: as long as the calls it leads to work, the file is stored.
-/

namespace FileShareX.Client

open Wire Posix Protocol Storage Transfer Net Machine Pieces

/-- What the two clients have to say about a file in these pieces, once it is offered. -/
def plan (transfer_id file_size : UInt64) (pieces : List Bytes) : List Command :=
  .accept transfer_id true ::
    (chunksFrom transfer_id 0 pieces ++ [.done transfer_id (UInt32.ofNat pieces.length) file_size])

/-- The receiver accepts, the sender does the rest. -/
def Command.party (session : TransferSession) : Command → Int64
  | .accept .. => session.receiver_user_id
  | _ => session.sender_user_id

structure Carries (core : Observed) (session : TransferSession) (command : Command) (label : Label) :
    Prop where
  sent : ∃ conn beyond env self, label = command.label conn beyond env ∧
    core.server.live conn = some self ∧ core.server.reading conn = true ∧
    self.is_authenticated = true ∧ self.user_id = command.party session
  works : (core.events label).all Event.worked = true
  flushes : label.env.io.fflush = true

/-- The commands come in order, and between them whatever has nothing to do with them. -/
inductive Plays (id : UInt64) (session : TransferSession) :
    Observed → List Command → List Label → Prop
  | finished {core} : Plays id session core [] []
  | other {core label commands labels} (elsewhere : ∀ request ∈ core.asks label, request.about ≠ some id)
      (orderly : core.Orderly label) (places : core.PlacesWell label)
      (rest : Plays id session (core.step label) commands labels) :
      Plays id session core commands (label :: labels)
  | next {core command label commands labels} (carries : Carries core session command label)
      (rest : Plays id session (core.step label) commands labels) :
      Plays id session core (command :: commands) (label :: labels)

structure Fits (file_size : UInt64) (pieces : List Bytes) : Prop where
  nonempty : ∀ piece ∈ pieces, piece ≠ []
  few : pieces.length < 2 ^ 32
  total : pieces.flatten.length = file_size.toNat

structure Standing (core : Observed) (id : UInt64) (offer record : TransferSession) : Prop where
  kept : core.Kept
  placed : core.server.Placed
  found : core.server.transfers.transfers id = some record
  same : SameOffer offer record

/-- How far the server is, for what is still to come. -/
inductive Reached (core : Observed) (id : UInt64) (pieces : List Bytes) (record : TransferSession) :
    List Command → Prop
  | offered (state : record.state = .OFFERED) (none : core.ledger.chunks id = []) :
      Reached core id pieces record (plan id record.file_size pieces)
  | taking {taken rest} (running : Running record) (split : pieces = taken ++ rest)
      (counted : (core.ledger.chunks id).map Prod.snd = taken) :
      Reached core id pieces record (chunksFrom id (UInt32.ofNat taken.length) rest ++
        [.done id (UInt32.ofNat pieces.length) record.file_size])
  | stored (state : record.state = .COMPLETED)
      (content : core.server.os.disk.content (core.server.finalAt id record) = some pieces.flatten) :
      Reached core id pieces record []

variable {core : Observed} {id : UInt64} {offer record : TransferSession} {pieces : List Bytes}
  {command : Command} {commands : List Command} {label : Label} {labels : List Label}

theorem chunks_elsewhere (standing : Standing core id offer record) (orderly : core.Orderly label)
    (elsewhere : ∀ request ∈ core.asks label, request.about ≠ some id) :
    (core.step label).ledger.chunks id = core.ledger.chunks id := by
  cases asked : core.asks label with
  | none => rw [(Observed.step_same asked).1.ledger]
  | some request =>
    have rewritten {about : UInt64} (names : request.about = some about) :
        (core.step label).ledger.chunks id = core.ledger.chunks id := by
      obtain ⟨session, changed, rewrites⟩ := Observed.step_rewrites asked names
      exact rewrites.chunks fun same => elsewhere request asked (by rw [names, same])
    cases request with
    | offer req receiver =>
      have unused := orderly.2.1
      unfold Observed.InTime at unused
      rw [asked] at unused
      have differs : id ≠ core.server.transfers.next_transfer_id := by
        rintro rfl
        exact nomatch unused.symm.trans standing.found
      obtain ⟨conn, self, result, -, effect, -, stepped⟩ := Observed.step_effect asked
      rw [stepped]
      cases effect with
      | offered => simp [Ledger.record, Function.update_of_ne differs]
    | accept => exact rewritten rfl
    | chunk => exact rewritten rfl
    | done => exact rewritten rfl

theorem Standing.other (standing : Standing core id offer record)
    (reached : Reached core id pieces record commands) (orderly : core.Orderly label)
    (places : core.PlacesWell label)
    (elsewhere : ∀ request ∈ core.asks label, request.about ≠ some id) :
    Standing (core.step label) id offer record ∧ Reached (core.step label) id pieces record commands := by
  have spared := Observed.not_affects standing.kept.toStreamsPlaced orderly.2.2 standing.found elsewhere
  simp only [Observed.Affects, not_or, not_exists, not_and, ne_eq, Decidable.not_not] at spared
  obtain ⟨still, -, -, content⟩ := spared
  have chunks := chunks_elsewhere standing orderly elsewhere
  refine ⟨⟨standing.kept.step orderly, Observed.placed_step standing.placed places, still,
    standing.same⟩, ?_⟩
  cases reached with
  | offered state none => exact .offered state (chunks ▸ none)
  | taking running split counted => exact .taking running split (chunks ▸ counted)
  | stored state saved =>
    refine .stored state ?_
    rw [(core.step_paths label id record).2, content _ (by simp), saved]

theorem Standing.apart (standing : Standing core id offer record) {path : Path}
    (mine : path ∈ [core.server.tempAt id record, core.server.finalAt id record]) :
    path ∉ core.otherPaths id ∧ path ∉ core.otherParts id :=
  have apart := Observed.Placed.apart standing.placed standing.found mine
  ⟨apart, fun isPart => apart (Observed.otherParts_subset isPart)⟩

theorem Carries.effect (carries : Carries core offer command label) {request : Request}
    (passes : ∀ beyond env self, self.is_authenticated = true → self.user_id = command.party offer →
      core.server.request? self ⟨command.frame.2, beyond⟩ env command.frame.1 = some request) :
    core.asks label = some request ∧ ∃ conn self result,
      core.server.Effect conn self label.env request result ∧ result.2.all Event.worked = true ∧
      core.events label = result.2 ∧ core.step label = ⟨result.1, core.ledger.recordAll result.2⟩ := by
  obtain ⟨conn, beyond, env, self, rfl, alive, reading, authenticated, user⟩ := carries.sent
  obtain ⟨asked, result, effect, emitted, stepped⟩ :=
    Observed.effect_of_request alive reading (passes beyond env self authenticated user)
  have works := carries.works
  rw [show core.events (command.label conn beyond env) = result.2 from emitted] at works
  exact ⟨asked, conn, self, result, effect, works, emitted, stepped⟩

theorem Standing.accept (standing : Standing core id offer record) (state : record.state = .OFFERED)
    (none : core.ledger.chunks id = []) (carries : Carries core offer (.accept id true) label) :
    ∃ changed, Standing (core.step label) id offer changed ∧ Running changed ∧
      (core.step label).ledger.chunks id = [] ∧ changed.file_size = record.file_size := by
  obtain ⟨asked, conn, self, result, effect, works, -, stepped⟩ := carries.effect
    fun beyond env self authenticated user => Server.request?_accept authenticated
      (FileAcceptReq.result_serialize ⟨id, true⟩ beyond) standing.found
      (standing.same.receiver_user_id.trans user.symm)
  have first : record.expected_chunk_index = 0 := by
    rw [(standing.kept.counts standing.found).index, none]
    rfl
  have temp := standing.apart (List.mem_cons_self ..)
  have orderly : core.Orderly label := by
    refine ⟨⟨?_, ?_⟩, ?_, fun request asks => ?_⟩
    · unfold Observed.InSequence
      rw [asked]
      exact fun _ => ⟨first, temp.2⟩
    · unfold Observed.Confirmed
      rw [asked]
      trivial
    · unfold Observed.InTime
      rw [asked]
      exact .inl state
    · rw [asked] at asks
      cases asks
      exact fun _ => temp.1
  have places : core.PlacesWell label := by
    unfold Observed.PlacesWell
    rw [asked]
    trivial
  have kept := standing.kept.step orderly
  have placed := Observed.placed_step standing.placed places
  rw [stepped] at kept placed ⊢
  cases effect with
  | openFailed => simp [Event.worked] at works
  | opened =>
    exact ⟨_, ⟨kept, placed, TransferManager.put_self, standing.same.trans (.of_progress rfl)⟩,
      .inl rfl, by simpa [Ledger.record] using none, rfl⟩
  | rejected _ _ _ reject => cases reject

theorem Standing.chunk (standing : Standing core id offer record) (running : Running record)
    (fits : Fits record.file_size pieces) {taken rest : List Bytes} {piece : Bytes}
    (split : pieces = taken ++ piece :: rest)
    (counted : (core.ledger.chunks id).map Prod.snd = taken)
    (carries : Carries core offer (.chunk id (UInt32.ofNat taken.length) piece) label) :
    ∃ changed, Standing (core.step label) id offer changed ∧ Running changed ∧
      ((core.step label).ledger.chunks id).map Prod.snd = taken ++ [piece] ∧
      changed.file_size = record.file_size := by
  obtain ⟨asked, conn, self, result, effect, works, -, stepped⟩ := carries.effect
    fun beyond env self authenticated user => Server.request?_chunk authenticated
      (FileChunk.result_serialize ⟨id, UInt32.ofNat taken.length, piece⟩ beyond) standing.found
      (standing.same.sender_user_id.trans user.symm) running
  have counts := standing.kept.counts standing.found
  have length : (core.ledger.chunks id).length = taken.length := by
    rw [← counted, List.length_map]
  have index : record.expected_chunk_index = UInt32.ofNat taken.length := by
    rw [counts.index, length]
  have few := fits.few
  have total := fits.total
  have size := record.file_size.toNat_lt
  rw [split] at few total
  simp only [List.length_append, List.length_cons] at few
  simp only [List.flatten_append, List.flatten_cons, List.length_append] at total
  have indexNat : record.expected_chunk_index.toNat = taken.length := by
    rw [index, UInt32.toNat_ofNat_of_lt' (show taken.length < 2 ^ 32 by omega)]
  have bytes : record.bytes_received.toNat = taken.flatten.length := by
    rw [counts.bytes, counted,
      UInt64.toNat_ofNat_of_lt' (show taken.flatten.length < 2 ^ 64 by omega)]
  have orderly : core.Orderly label := by
    refine ⟨⟨?_, ?_⟩, ?_, fun request asks => ?_⟩
    · unfold Observed.InSequence
      rw [asked]
      exact .inr (.inr ⟨index.symm, carries.flushes, by omega, by dsimp only; omega⟩)
    · unfold Observed.Confirmed
      rw [asked]
      exact .inr (.inr (by dsimp only; omega))
    · unfold Observed.InTime
      rw [asked]
      trivial
    · rw [asked] at asks
      cases asks
      exact (standing.apart (List.mem_cons_self ..)).1
  have places : core.PlacesWell label := by
    unfold Observed.PlacesWell
    rw [asked]
    trivial
  have kept := standing.kept.step orderly
  have placed := Observed.placed_step standing.placed places
  rw [stepped] at kept placed ⊢
  cases effect with
  | writeFailed _ _ _ _ _ failed => simp [Event.worked, not_le.mpr failed] at works
  | received =>
    exact ⟨_, ⟨kept, placed, TransferManager.put_self, standing.same.trans (.of_progress rfl)⟩,
      Running.advance running _, by simp [Ledger.record, counted], rfl⟩
  | strayed _ _ _ _ _ _ outOfSequence => exact absurd index.symm outOfSequence

theorem Standing.done (standing : Standing core id offer record) (running : Running record)
    (fits : Fits record.file_size pieces)
    (counted : (core.ledger.chunks id).map Prod.snd = pieces)
    (carries : Carries core offer (.done id (UInt32.ofNat pieces.length) record.file_size) label) :
    ∃ changed, Standing (core.step label) id offer changed ∧ changed.state = .COMPLETED ∧
      (core.step label).server.os.disk.content ((core.step label).server.finalAt id changed) =
        some pieces.flatten ∧
      ∃ peer path, .sent peer (.fileResult ⟨id, true, path⟩) ∈ core.events label := by
  obtain ⟨asked, conn, self, result, effect, works, emitted, stepped⟩ := carries.effect
    fun beyond env self authenticated user => Server.request?_done authenticated
      (FileDone.result_serialize ⟨id, UInt32.ofNat pieces.length, record.file_size⟩ beyond)
      standing.found (standing.same.sender_user_id.trans user.symm)
  have counts := standing.kept.counts standing.found
  have index : record.expected_chunk_index = UInt32.ofNat pieces.length := by
    rw [counts.index, ← counted, List.length_map]
  have bytes : record.bytes_received = record.file_size := by
    rw [counts.bytes, counted, fits.total, UInt64.ofNat_toNat]
  have temp := standing.apart (List.mem_cons_self ..)
  have final := standing.apart (List.mem_cons_of_mem _ (List.mem_singleton_self _))
  have live := standing.kept.running standing.found running
  have orderly : core.Orderly label := by
    refine ⟨⟨?_, ?_⟩, ?_, fun request asks => ?_⟩
    · unfold Observed.InSequence
      rw [asked]
      exact .inr ⟨live, temp.2, final.2⟩
    · unfold Observed.Confirmed
      rw [asked]
      exact .inr (.inr ⟨running, bytes, index.symm, rfl⟩)
    · unfold Observed.InTime
      rw [asked]
      rcases running with state | state <;> simp [state]
    · rw [asked] at asks
      cases asks
      exact .inr ⟨live, temp.1, final.1⟩
  have places : core.PlacesWell label := by
    unfold Observed.PlacesWell
    rw [asked]
    trivial
  have kept := standing.kept.step orderly
  have placed := Observed.placed_step standing.placed places
  have path := fun changed => (core.step_paths label id changed).2
  rw [emitted]
  rw [stepped] at kept placed path ⊢
  cases effect with
  | finalizeFailed => simp [Event.worked] at works
  | finalized _ _ _ called =>
    refine ⟨_, ⟨kept, placed, TransferManager.put_self, standing.same.trans (.of_progress rfl)⟩,
      rfl, ?_, conn, record.final_file_path, by simp⟩
    rw [path]
    refine (standing.kept.finalized standing.found running called).trans ?_
    rw [Observed.received, counted]

/-- What the next command makes of a transfer, and what it tells the sender if it is the last. -/
theorem Standing.next (standing : Standing core id offer record)
    (reached : Reached core id pieces record (command :: commands)) (fits : Fits record.file_size pieces)
    (carries : Carries core offer command label) :
    ∃ changed, Standing (core.step label) id offer changed ∧
      Reached (core.step label) id pieces changed commands ∧ changed.file_size = record.file_size ∧
      (commands = [] → ∃ peer path, .sent peer (.fileResult ⟨id, true, path⟩) ∈ core.events label) := by
  generalize ahead : command :: commands = all at reached
  cases reached with
  | offered state none =>
    cases ahead
    obtain ⟨changed, standing, running, none, size⟩ := standing.accept state none carries
    refine ⟨changed, standing, ?_, size, by simp⟩
    rw [← size]
    exact @Reached.taking _ _ _ _ [] _ running rfl (by rw [none]; rfl)
  | @taking taken rest running split counted =>
    cases rest with
    | nil =>
      cases ahead
      rw [List.append_nil] at split
      obtain ⟨changed, after, state, content, told⟩ :=
        standing.done running fits (counted.trans split.symm) carries
      exact ⟨changed, after, .stored state content,
        after.same.file_size.trans standing.same.file_size.symm, fun _ => told⟩
    | cons piece rest =>
      cases ahead
      obtain ⟨changed, standing, running, counted, size⟩ :=
        standing.chunk running fits split counted carries
      refine ⟨changed, standing, ?_, size, by simp⟩
      have next : UInt32.ofNat taken.length + 1 = UInt32.ofNat (taken ++ [piece]).length := by
        rw [List.length_append, List.length_singleton, UInt32.ofNat_add]
        rfl
      rw [next, ← size]
      exact .taking running (by rw [split, List.append_assoc, List.singleton_append]) counted
  | stored => cases ahead

theorem Plays.stored (plays : Plays id offer core commands labels)
    (standing : Standing core id offer record) (reached : Reached core id pieces record commands)
    (fits : Fits record.file_size pieces) :
    ∃ changed, Standing (run Observed.step core labels) id offer changed ∧
      Reached (run Observed.step core labels) id pieces changed [] ∧
      (commands ≠ [] → ∃ earlier label later peer path, labels = earlier ++ label :: later ∧
        .sent peer (.fileResult ⟨id, true, path⟩) ∈ (run Observed.step core earlier).events label) := by
  induction plays generalizing record with
  | finished => exact ⟨record, standing, reached, by simp⟩
  | other elsewhere orderly places rest ih =>
    obtain ⟨standing, reached⟩ := standing.other reached orderly places elsewhere
    obtain ⟨changed, after, stored, told⟩ := ih standing reached fits
    refine ⟨changed, after, stored, fun more => ?_⟩
    obtain ⟨earlier, label, later, peer, path, rfl, sent⟩ := told more
    exact ⟨_ :: earlier, label, later, peer, path, rfl, sent⟩
  | @next core command label commands labels carries rest ih =>
    obtain ⟨changed, standing, reached, size, last⟩ := standing.next reached fits carries
    obtain ⟨final, after, stored, told⟩ := ih standing reached (size ▸ fits)
    refine ⟨final, after, stored, fun _ => ?_⟩
    by_cases more : commands = []
    · obtain ⟨peer, path, sent⟩ := last more
      exact ⟨[], label, labels, peer, path, rfl, sent⟩
    · obtain ⟨earlier, label', later, peer, path, rfl, sent⟩ := told more
      exact ⟨label :: earlier, label', later, peer, path, rfl, sent⟩

structure Completed (core : Observed) (labels : List Label) (id : UInt64) (offer : TransferSession)
    (content : Bytes) : Prop where
  record : ∃ record, (run Observed.step core labels).server.transfers.transfers id = some record ∧
    SameOffer offer record ∧ record.state = .COMPLETED ∧
    (run Observed.step core labels).server.os.disk.content
      ((run Observed.step core labels).server.finalAt id record) = some content
  told : ∃ earlier label later peer path, labels = earlier ++ label :: later ∧
    .sent peer (.fileResult ⟨id, true, path⟩) ∈ (run Observed.step core earlier).events label

/-- Steps that neither break the promises about transfers nor leave their directories. -/
def Fair (core : Observed) (label : Label) : Prop := core.Orderly label ∧ core.PlacesWell label

instance (core : Observed) (label : Label) : Decidable (Fair core label) :=
  inferInstanceAs (Decidable (_ ∧ _))

variable {start : Observed} {before : List Label} {req : FileOfferReq} {receiver : UserRow}

theorem honest_upload_completes (boot : start.Booted)
    (along : Along Observed.step Fair start before)
    (offers : (run Observed.step start before).asks label = some (.offer req receiver))
    (fair : Fair (run Observed.step start before) label)
    (made : ((run Observed.step start before).step label).server.transfers.transfers
      (run Observed.step start before).nextId = some offer)
    (fits : Fits req.file_size pieces)
    (plays : Plays (run Observed.step start before).nextId offer
      ((run Observed.step start before).step label)
      (plan (run Observed.step start before).nextId req.file_size pieces) labels) :
    Completed ((run Observed.step start before).step label) labels
      (run Observed.step start before).nextId offer pieces.flatten := by
  have initial : start.Kept ∧ start.server.Placed := by
    refine ⟨.booted boot, fun id session found => ?_⟩
    rw [boot.fresh.2.1] at found
    cases found
  obtain ⟨kept, placed⟩ := @Along.invariant _ _ _ _ _
    (fun state : Observed => state.Kept ∧ state.server.Placed) _ along initial
    fun _ _ both fair => ⟨both.1.step fair.1, Observed.placed_step both.2 fair.2⟩
  have standing : Standing ((run Observed.step start before).step label)
      (run Observed.step start before).nextId offer offer :=
    ⟨kept.step fair.1, Observed.placed_step placed fair.2, made, .refl offer⟩
  obtain ⟨conn, self, result, -, effect, -, stepped⟩ := Observed.step_effect offers
  have fresh : ((run Observed.step start before).step label).ledger.chunks
      (run Observed.step start before).nextId = [] ∧ offer.state = .OFFERED ∧
      offer.file_size = req.file_size := by
    rw [stepped] at made ⊢
    cases effect with
    | offered =>
      rw [show TransferManager.transfers _ _ = _ from TransferManager.put_self] at made
      cases made
      exact ⟨by simp [Ledger.record], rfl, rfl⟩
  obtain ⟨none, state, size⟩ := fresh
  obtain ⟨record, after, stored, told⟩ :=
    plays.stored standing (size ▸ .offered state none) (size ▸ fits)
  refine ⟨⟨record, after.found, after.same, ?_⟩, told (by simp [plan])⟩
  generalize ahead : ([] : List Command) = commands at stored
  cases stored with
  | offered => cases ahead
  | taking => simp at ahead
  | stored state content => exact ⟨state, content⟩

/-- What `do_send` writes from the acceptance on is its part of the plan. -/
theorem do_send_plan {program : Program} {upload : Upload} (task : program.task = .send upload)
    (steady : upload.Steady) (few : upload.content.length ⌈/⌉ DEFAULT_CHUNK_SIZE < 2 ^ 32) :
    .accept id true :: ((program.goto (.chunks id 0 0)).writes
        (upload.content.length ⌈/⌉ DEFAULT_CHUNK_SIZE + 2)).2 =
      plan id upload.file_size (cut DEFAULT_CHUNK_SIZE upload.content) := by
  have length : (cut DEFAULT_CHUNK_SIZE upload.content).length =
      upload.content.length ⌈/⌉ DEFAULT_CHUNK_SIZE := cut_length ..
  have size : upload.content.length = upload.file_size.toNat := steady
  rw [← length] at few ⊢
  have announced := total_chunks_eq (size ▸ length.symm) few
  have sent := @program.writes_rest _ id 0 0 task steady upload.content rfl (Nat.zero_le _)
  dsimp only at sent
  rw [UInt32.zero_add, announced] at sent
  rw [sent, plan]

/-- When `do_send` and the receiver's `do_recv` get through to the server with all they have to
say, the file is stored whole and `do_send` is told so. -/
theorem do_send_completes {program : Program} {upload : Upload}
    (task : program.task = .send upload) (steady : upload.Steady)
    (few : upload.content.length ⌈/⌉ DEFAULT_CHUNK_SIZE < 2 ^ 32) (boot : start.Booted)
    (along : Along Observed.step Fair start before)
    (offers : (run Observed.step start before).asks label = some (.offer req receiver))
    (size : req.file_size = upload.file_size) (fair : Fair (run Observed.step start before) label)
    (made : ((run Observed.step start before).step label).server.transfers.transfers
      (run Observed.step start before).nextId = some offer)
    (plays : Plays (run Observed.step start before).nextId offer
      ((run Observed.step start before).step label)
      (.accept (run Observed.step start before).nextId true ::
        ((program.goto (.chunks (run Observed.step start before).nextId 0 0)).writes
          (upload.content.length ⌈/⌉ DEFAULT_CHUNK_SIZE + 2)).2) labels) :
    Completed ((run Observed.step start before).step label) labels
      (run Observed.step start before).nextId offer upload.content := by
  have partition : Partition DEFAULT_CHUNK_SIZE upload.content
      (cut DEFAULT_CHUNK_SIZE upload.content) := cut_partition _
  have fits : Fits req.file_size (cut DEFAULT_CHUNK_SIZE upload.content) := by
    refine ⟨partition.nonempty, ?_, ?_⟩
    · rwa [cut_length]
    · rw [partition.flatten, size]
      exact steady
  rw [do_send_plan task steady few, ← size] at plays
  have completed := honest_upload_completes boot along offers fair made fits plays
  rwa [partition.flatten] at completed

/-! ### Two bytes from alice to herself, while bob is there too -/

def twoBytes : Upload := ⟨ascii "alice", ascii "a", 2, [1, 2]⟩

def logged : List Label := [.connect, Sample.login 0 "alice" 1]

def ready : Observed := run Observed.step Sample.start logged

def offerLabel : Label :=
  (Command.offer (ascii "alice") (ascii "a") 2 1024).label 0 (fun _ => 0) (Sample.env 0 0)

theorem offerLabel_made :
    ((ready.step offerLabel).server.transfers.transfers 1).isSome = true := by decide +kernel

def offeredTwo : TransferSession :=
  ((ready.step offerLabel).server.transfers.transfers 1).get offerLabel_made

def played : List Label :=
  [.connect, (Command.accept 1 true).label 0 (fun _ => 0) (Sample.env 5 0), Sample.login 1 "bob" 2,
    (Command.chunk 1 0 [1, 2]).label 0 (fun _ => 0) (Sample.env 0 0), Sample.offer 1 "alice" "b" 2,
    (Command.done 1 1 2).label 0 (fun _ => 0) (Sample.env 0 0)]

theorem twoBytes_plays : Plays 1 offeredTwo (ready.step offerLabel)
    [.accept 1 true, .chunk 1 0 [1, 2], .done 1 1 2] played := by
  refine .other (by decide +kernel) (by decide +kernel) (by decide +kernel) <|
    .next ⟨⟨0, _, _, ⟨hex (List.replicate 32 1), 1, ascii "alice"⟩, rfl, ?_, ?_, ?_, ?_⟩, ?_, rfl⟩ <|
    .other (by decide +kernel) (by decide +kernel) (by decide +kernel) <|
    .next ⟨⟨0, _, _, ⟨hex (List.replicate 32 1), 1, ascii "alice"⟩, rfl, ?_, ?_, ?_, ?_⟩, ?_, rfl⟩ <|
    .other (by decide +kernel) (by decide +kernel) (by decide +kernel) <|
    .next ⟨⟨0, _, _, ⟨hex (List.replicate 32 1), 1, ascii "alice"⟩, rfl, ?_, ?_, ?_, ?_⟩, ?_, rfl⟩
    .finished
  all_goals decide +kernel

theorem do_send_completes_alice :
    Completed (ready.step offerLabel) played 1 offeredTwo [1, 2] := by
  obtain ⟨req, receiver, offers, size⟩ : ∃ req receiver,
      ready.asks offerLabel = some (.offer req receiver) ∧ req.file_size = 2 :=
    ⟨{ receiver_username := ascii "alice", filename := ascii "a", file_size := 2, chunk_size := 1024 },
      ⟨1, ascii "alice", ascii "alice@example.org", []⟩, by decide +kernel, rfl⟩
  have task : Program.task ⟨.send twoBytes, [], [], .login⟩ = .send twoBytes := rfl
  exact do_send_completes task (by decide) (by decide) Sample.booted (by decide +kernel) offers size
    (by decide +kernel) (Option.some_get _).symm twoBytes_plays

end FileShareX.Client

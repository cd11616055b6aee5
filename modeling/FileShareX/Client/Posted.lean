import FileShareX.Client.Network

/-!
# Between an offer and its result

A connection on which `do_send` runs carries a login, one offer, and the chunks
of one transfer with a FILE_DONE behind them.  `Stage` says, for each transfer,
how far the server has followed what its connection still has to say.
-/

namespace FileShareX.Client

open Wire Posix Protocol Storage Transfer Net

/-! ### What the server makes of a command -/

namespace Command

variable {core : Observed} {conn : ConnId} {beyond : Nat → UInt8} {env : Env} {request : Request}

theorem effect {command : Command}
    (asked : core.asks (command.label conn beyond env) = some request) :
    ∃ self result, core.server.live conn = some self ∧
      core.server.Effect conn self env request result ∧
      core.events (command.label conn beyond env) = result.2 ∧
      core.step (command.label conn beyond env) = ⟨result.1, core.ledger.recordAll result.2⟩ := by
  obtain ⟨_, self, result, ⟨alive, payload, env', label, -⟩, effect, emitted, stepped⟩ :=
    Observed.step_effect asked
  injection label with same
  subst same
  exact ⟨self, result, alive, effect, emitted, stepped⟩

theorem elsewhere {command : Command} {other : ConnId} (ne : other ≠ conn) (type : UInt8)
    (payload : Vec) (env' : Env) :
    command.label conn beyond env ≠ .receive other type payload env' := by
  intro label
  injection label with same
  exact ne same.symm

theorem decoded {command : Command}
    (asked : core.asks (command.label conn beyond env) = some request) :
    command.frame.1 = request.type.code ∧ request.DecodedFrom ⟨command.frame.2, beyond⟩ := by
  obtain ⟨_, self, result, ⟨-, payload, env', label, decoded⟩, -⟩ := Observed.step_effect asked
  injection label with _ type same
  rw [type, same]
  exact ⟨rfl, decoded⟩

theorem asked_login {username password : Bytes}
    (asked : core.asks ((Command.login username password).label conn beyond env) = some request) :
    False := by
  obtain ⟨type, -⟩ := decoded asked
  cases request <;> cases type

theorem asked_offer {receiver_username filename : Bytes} {file_size : UInt64} {chunk_size : UInt32}
    (receiver : receiver_username.length < 2 ^ 16) (name : filename.length < 2 ^ 16)
    (asked : core.asks ((Command.offer receiver_username filename file_size chunk_size).label
      conn beyond env) = some request) :
    ∃ receiver, request = .offer { receiver_username, filename, file_size, chunk_size } receiver := by
  obtain ⟨type, decoded⟩ := decoded asked
  have sent := @FileOfferReq.result_serialize
    { receiver_username, filename, file_size, chunk_size } receiver name beyond
  cases request with
  | offer req receiver =>
    cases sent.symm.trans decoded
    exact ⟨receiver, rfl⟩
  | _ => cases type

theorem asked_accept {transfer_id : UInt64} {accept : Bool}
    (asked : core.asks ((Command.accept transfer_id accept).label conn beyond env) = some request) :
    ∃ session, request = .accept ⟨transfer_id, accept⟩ session := by
  obtain ⟨type, decoded⟩ := decoded asked
  have sent := FileAcceptReq.result_serialize ⟨transfer_id, accept⟩ beyond
  cases request with
  | accept req session =>
    cases sent.symm.trans decoded
    exact ⟨session, rfl⟩
  | _ => cases type

theorem asked_chunk {transfer_id : UInt64} {chunk_index : UInt32} {data : Bytes}
    (asked : core.asks ((Command.chunk transfer_id chunk_index data).label conn beyond env) =
      some request) :
    ∃ session, request = .chunk ⟨transfer_id, chunk_index, data⟩ session := by
  obtain ⟨type, decoded⟩ := decoded asked
  have sent := FileChunk.result_serialize ⟨transfer_id, chunk_index, data⟩ beyond
  cases request with
  | chunk message session =>
    cases sent.symm.trans decoded
    exact ⟨session, rfl⟩
  | _ => cases type

theorem asked_done {transfer_id : UInt64} {total_chunks : UInt32} {file_size : UInt64}
    (asked : core.asks ((Command.done transfer_id total_chunks file_size).label conn beyond env) =
      some request) :
    ∃ session, request = .done ⟨transfer_id, total_chunks, file_size⟩ session := by
  obtain ⟨type, decoded⟩ := decoded asked
  have sent := FileDone.result_serialize ⟨transfer_id, total_chunks, file_size⟩ beyond
  cases request with
  | done message session =>
    cases sent.symm.trans decoded
    exact ⟨session, rfl⟩
  | _ => cases type

end Command

/-! ### What the program does at a response -/

def Phase.unwritten : Phase → Bool
  | .chunks .. | .finish .. | .result => false
  | _ => true

namespace Program

variable {program : Program} {response : Response}

def request (program : Program) : Command :=
  match program.task with
  | .send upload => .offer upload.receiver_username upload.filename upload.file_size
      (UInt32.ofNat DEFAULT_CHUNK_SIZE)
  | .recv transfer_id => .accept transfer_id true

theorem begin_task_eq (program : Program) :
    ∃ phase, (phase = .offer ∨ phase = .recv) ∧
      program.begin_task = (program.goto phase, [program.request]) := by
  cases task : program.task with
  | send upload => exact ⟨.offer, .inl rfl, by simp [begin_task, request, task]⟩
  | recv transfer_id => exact ⟨.recv, .inr rfl, by simp [begin_task, request, task]⟩

theorem read_cases (waits : program.waits = true) :
    (∃ success, program.read response = (program.goto (.ended success), [])) ∨
    (program.phase = .login ∧ program.read response = program.begin_task) ∨
    (program.phase = .offer ∧ ∃ resp, response = .fileOfferResp resp ∧ resp.ok = true ∧
      program.read response = (program.goto (.accept resp.transfer_id), [])) ∨
    ∃ transfer_id, program.phase = .accept transfer_id ∧
      ∃ resp, response = .fileAcceptResp resp ∧ resp.ok = true ∧
        program.read response = (program.goto (.chunks transfer_id 0 0), []) := by
  cases phase : program.phase with
  | login =>
    exact (read_login phase).imp (fun refused => ⟨false, refused⟩)
      fun begins => .inl ⟨rfl, begins⟩
  | offer =>
    exact (read_offer phase).imp (fun refused => ⟨false, refused⟩)
      fun granted => .inr (.inl ⟨rfl, granted⟩)
  | accept transfer_id =>
    exact (read_accept phase).imp (fun refused => ⟨false, refused⟩)
      fun granted => .inr (.inr ⟨transfer_id, rfl, granted⟩)
  | result => exact .inl (read_last (.inl phase))
  | recv => exact .inl (read_last (.inr phase))
  | _ => simp [Program.waits, phase] at waits

theorem read_task (waits : program.waits = true) :
    (program.read response).1.task = program.task := by
  rcases read_cases waits with ⟨_, reads⟩ | ⟨-, reads⟩ | ⟨-, _, -, -, reads⟩ | ⟨_, -, _, -, -, reads⟩
  · rw [reads]
    rfl
  · obtain ⟨phase, -, begins⟩ := program.begin_task_eq
    rw [reads, begins]
    rfl
  · rw [reads]
    rfl
  · rw [reads]
    rfl

theorem write_unwritten (unwritten : program.phase.unwritten = true) :
    program.write = (program, []) := by
  unfold write
  cases phase : program.phase with
  | chunks =>
    rw [phase] at unwritten
    cases unwritten
  | finish =>
    rw [phase] at unwritten
    cases unwritten
  | _ => cases program.task <;> rfl

theorem write_goto (program : Program) :
    ∃ phase, program.write.1 = program.goto phase ∧
      (phase = .login → program.phase = .login) ∧
      ∀ transfer_id, phase.transfer? = some transfer_id →
        program.phase.transfer? = some transfer_id := by
  have stays : program = program.goto program.phase := rfl
  unfold write
  cases program.task with
  | recv => exact ⟨_, stays, id, fun _ => id⟩
  | send upload =>
    cases phase : program.phase with
    | chunks transfer_id chunk_index total_sent =>
      dsimp only
      repeat' split
      all_goals exact ⟨_, rfl, nofun, fun _ => id⟩
    | finish => exact ⟨_, rfl, nofun, nofun⟩
    | _ => exact ⟨_, stays, by simp [phase], by simp [phase]⟩

end Program

/-! ### The chunks ahead -/

namespace Upload

variable {upload : Upload} {transfer_id : UInt64} {phase : Phase}

theorem pending_unwritten (unwritten : phase.unwritten = true) :
    upload.pending transfer_id phase <+: upload.upcoming transfer_id 0 upload.content := by
  cases phase with
  | chunks => cases unwritten
  | finish => cases unwritten
  | login => exact List.prefix_refl _
  | offer => exact List.prefix_refl _
  | accept => exact List.prefix_refl _
  | _ => exact List.nil_prefix

/-- The first of the commands ahead is the next chunk, or the FILE_DONE behind the last. -/
theorem upcoming_head {command : Command} {more : List Command} {chunk_index : UInt32} {rest : Bytes}
    (ahead : command :: more <+: upload.upcoming transfer_id chunk_index rest) :
    (∃ data, rest = data ++ rest.drop DEFAULT_CHUNK_SIZE ∧
      command = .chunk transfer_id chunk_index data ∧
      more <+: upload.upcoming transfer_id (chunk_index + 1) (rest.drop DEFAULT_CHUNK_SIZE)) ∨
    rest = [] ∧ more = [] ∧
      command = .done transfer_id (total_chunks upload.file_size chunk_index) upload.file_size := by
  by_cases empty : rest = []
  · subst empty
    rw [upcoming_nil, List.cons_prefix_cons, List.prefix_nil] at ahead
    exact .inr ⟨rfl, ahead.2, ahead.1⟩
  · rw [upcoming_of_ne empty, List.cons_prefix_cons] at ahead
    exact .inl ⟨_, (List.take_append_drop ..).symm, ahead⟩

end Upload

/-! ### Whom the server still hears -/

/-- The connection is read, and logged in as the sender of the transfer. -/
def Heard (core : Observed) (conn : ConnId) (session : TransferSession) : Prop :=
  ∃ self, core.server.live conn = some self ∧ self.is_authenticated = true ∧
    core.server.reading conn = true ∧ session.sender_user_id = self.user_id

namespace Heard

variable {core : Observed} {conn : ConnId} {session : TransferSession} {beyond : Nat → UInt8}
  {env : Env}

/-- What is not heard any more is never heard again, short of another login. -/
theorem before {label : Label}
    (noLogin : ∀ payload env, label ≠ .receive conn MsgType.LOGIN_REQ.code payload env)
    (heard : Heard (core.step label) conn session) : Heard core conn session := by
  obtain ⟨self, alive, authenticated, reading, party⟩ := heard
  obtain ⟨alive', reads⟩ := Server.step_fades noLogin self alive authenticated
  exact ⟨self, alive', authenticated, reads reading, party⟩

theorem chunk (heard : Heard core conn session) {transfer_id : UInt64} {chunk_index : UInt32}
    {data : Bytes} (found : core.server.transfers.transfers transfer_id = some session)
    (running : Running session) :
    core.asks ((Command.chunk transfer_id chunk_index data).label conn beyond env) =
      some (.chunk ⟨transfer_id, chunk_index, data⟩ session) := by
  obtain ⟨self, alive, authenticated, reading, party⟩ := heard
  exact (Observed.effect_of_request alive reading (Server.request?_chunk authenticated
    (FileChunk.result_serialize ⟨transfer_id, chunk_index, data⟩ beyond) found party running)).1

theorem done (heard : Heard core conn session) {transfer_id : UInt64} {total_chunks : UInt32}
    {file_size : UInt64} (found : core.server.transfers.transfers transfer_id = some session) :
    core.asks ((Command.done transfer_id total_chunks file_size).label conn beyond env) =
      some (.done ⟨transfer_id, total_chunks, file_size⟩ session) := by
  obtain ⟨self, alive, authenticated, reading, party⟩ := heard
  exact (Observed.effect_of_request alive reading (Server.request?_done authenticated
    (FileDone.result_serialize ⟨transfer_id, total_chunks, file_size⟩ beyond) found party)).1

theorem of_asks {command : Command} {request : Request}
    (asked : core.asks (command.label conn beyond env) = some request)
    (about : (∃ message, request = .chunk message session) ∨
      ∃ message, request = .done message session) :
    Heard core conn session := by
  obtain ⟨self, result, alive, effect, -⟩ := Command.effect asked
  have reading : core.server.reading conn = true := by
    unfold Command.label Observed.asks Server.asks at asked
    dsimp only at asked
    rw [alive] at asked
    dsimp only at asked
    split at asked
    · assumption
    · cases asked
  rcases about with ⟨message, rfl⟩ | ⟨message, rfl⟩
  · cases effect <;> exact ⟨self, alive, ‹_›, reading, ‹_›⟩
  · cases effect <;> exact ⟨self, alive, ‹_›, reading, ‹_›⟩

end Heard

/-! ### The stages of a transfer -/

/-- How far the server has followed a transfer, and what its connection has still to
say: what is written and not handled, and what the program will write. -/
inductive Stage (core : Observed) (id : UInt64) (session : TransferSession) (conn : ConnId)
    (upload : Upload) (phase : Phase) (outbox : List Command) : Prop
  /-- Nobody has accepted, and the program has not begun with the file. -/
  | waiting (closed : session.file_handle = none) (uncounted : core.ledger.chunks id = [])
      (quiet : outbox = []) (unwritten : phase.unwritten = true)
  /-- What is ahead is what is missing. -/
  | taking (opened : session.file_handle ≠ none) (running : Running session) {rest : Bytes}
      (content : upload.content = core.received id ++ rest)
      (ahead : outbox ++ upload.pending id phase <+:
        upload.upcoming id session.expected_chunk_index rest)
  /-- A chunk could not be written, or the connection is not heard any more. -/
  | lost (opened : session.file_handle ≠ none) (live : core.ledger.live id = true)
      (stopped : session.state = .FAILED ∨ ¬ Heard core conn session)
      {chunk_index : UInt32} {rest : Bytes}
      (ahead : outbox ++ upload.pending id phase <+: upload.upcoming id chunk_index rest)
  /-- The FILE_DONE has been handled. -/
  | finished (opened : session.file_handle ≠ none) (silent : outbox ++ upload.pending id phase = [])

namespace Stage

variable {core after : Observed} {id : UInt64} {session : TransferSession} {conn : ConnId}
  {upload : Upload} {phase phase' : Phase} {outbox written more : List Command} {command : Command}

theorem advance (stage : Stage core id session conn upload phase outbox)
    (kept : outbox ++ written ++ upload.pending id phase' <+: outbox ++ upload.pending id phase)
    (waits : session.file_handle = none → phase.unwritten = true →
      written = [] ∧ phase'.unwritten = true) :
    Stage core id session conn upload phase' (outbox ++ written) := by
  cases stage with
  | waiting closed uncounted quiet unwritten =>
    obtain ⟨nothing, unwritten'⟩ := waits closed unwritten
    exact .waiting closed uncounted (by rw [quiet, nothing]; rfl) unwritten'
  | taking opened running content ahead => exact .taking opened running content (kept.trans ahead)
  | lost opened live stopped ahead => exact .lost opened live stopped (kept.trans ahead)
  | finished opened silent => exact .finished opened (List.prefix_nil.mp (silent ▸ kept))

theorem elsewhere (stage : Stage core id session conn upload phase outbox)
    (chunks : after.ledger.chunks id = core.ledger.chunks id)
    (live : after.ledger.live id = core.ledger.live id)
    (heard : Heard after conn session → Heard core conn session) :
    Stage after id session conn upload phase outbox := by
  cases stage with
  | waiting closed uncounted quiet unwritten =>
    exact .waiting closed (chunks.trans uncounted) quiet unwritten
  | taking opened running content ahead =>
    refine .taking opened running ?_ ahead
    rwa [Observed.received, chunks]
  | lost opened live' stopped ahead =>
    exact .lost opened (live.trans live') (stopped.imp_right (mt heard)) ahead
  | finished opened silent => exact .finished opened silent

theorem head (stage : Stage core id session conn upload phase (command :: more)) :
    session.file_handle ≠ none ∧ ∃ chunk_index rest,
      command :: (more ++ upload.pending id phase) <+: upload.upcoming id chunk_index rest := by
  cases stage with
  | waiting closed uncounted quiet => cases quiet
  | taking opened running content ahead => exact ⟨opened, _, _, ahead⟩
  | lost opened live stopped ahead => exact ⟨opened, _, _, ahead⟩
  | finished opened silent => cases silent

theorem head_command (stage : Stage core id session conn upload phase (command :: more)) :
    (∃ chunk_index data, command = .chunk id chunk_index data) ∨
      ∃ total_chunks file_size, command = .done id total_chunks file_size := by
  obtain ⟨-, chunk_index, rest, ahead⟩ := stage.head
  rcases Upload.upcoming_head ahead with ⟨data, -, chunk, -⟩ | ⟨-, -, done⟩
  · exact .inl ⟨_, _, chunk⟩
  · exact .inr ⟨_, _, done⟩

theorem drop_head {chunk_index : UInt32} {rest : Bytes}
    (ahead : command :: more ++ upload.pending id phase <+: upload.upcoming id chunk_index rest) :
    ∃ chunk_index rest, more ++ upload.pending id phase <+: upload.upcoming id chunk_index rest := by
  rcases Upload.upcoming_head ahead with ⟨data, -, -, more⟩ | ⟨-, nothing, -⟩
  · exact ⟨_, _, more⟩
  · refine ⟨0, [], ?_⟩
    rw [show more ++ upload.pending id phase = [] from nothing]
    exact List.nil_prefix

/-- A command that fails a check means that the connection is lost. -/
theorem refused {beyond : Nat → UInt8} {env : Env}
    (stage : Stage core id session conn upload phase (command :: more))
    (found : core.server.transfers.transfers id = some session)
    (placed : core.StreamsPlaced) (idle : core.asks (command.label conn beyond env) = none) :
    Stage (core.step (command.label conn beyond env)) id session conn upload phase more := by
  have ledger := (Observed.step_same idle).1.ledger
  have noLogin : ∀ payload env', command.label conn beyond env ≠
      .receive conn MsgType.LOGIN_REQ.code payload env' := by
    intro payload env' same
    injection same with _ type
    rcases stage.head_command with ⟨_, _, rfl⟩ | ⟨_, _, rfl⟩ <;> cases type
  have silent (running : Running session) :
      ¬ Heard (core.step (command.label conn beyond env)) conn session := by
    intro heard
    rcases stage.head_command with ⟨_, _, rfl⟩ | ⟨_, _, rfl⟩
    · rw [(heard.before noLogin).chunk found running] at idle
      cases idle
    · rw [(heard.before noLogin).done found] at idle
      cases idle
  cases stage with
  | waiting closed uncounted quiet => cases quiet
  | taking opened running content ahead =>
    obtain ⟨_, _, ahead'⟩ := drop_head ahead
    refine .lost opened ?_ (.inr (silent running)) ahead'
    rw [ledger]
    exact placed.running found running
  | lost opened live stopped ahead =>
    obtain ⟨_, _, ahead'⟩ := drop_head ahead
    refine .lost opened ?_ (stopped.imp_right (mt (Heard.before noLogin))) ahead'
    rw [ledger]
    exact live
  | finished opened silent => cases silent

theorem waits (stage : Stage core id session conn upload phase outbox)
    (closed : session.file_handle = none) :
    core.ledger.chunks id = [] ∧ outbox = [] ∧ phase.unwritten = true := by
  cases stage with
  | waiting _ uncounted quiet unwritten => exact ⟨uncounted, quiet, unwritten⟩
  | taking opened => exact absurd closed opened
  | lost opened => exact absurd closed opened
  | finished opened => exact absurd closed opened

theorem next_chunk {transfer_id : UInt64} {chunk_index : UInt32} {data : Bytes}
    (stage : Stage core id session conn upload phase (.chunk transfer_id chunk_index data :: more))
    (running : Running session) (heard : Heard core conn session) :
    session.file_handle ≠ none ∧ chunk_index = session.expected_chunk_index ∧
      ∃ rest, upload.content = core.received id ++ data ++ rest ∧
        more ++ upload.pending id phase <+:
          upload.upcoming id (session.expected_chunk_index + 1) rest := by
  cases stage with
  | waiting closed uncounted quiet => cases quiet
  | taking opened _ content ahead =>
    rcases Upload.upcoming_head ahead with ⟨data', whole, same, ahead'⟩ | ⟨-, -, done⟩
    · cases same
      refine ⟨opened, rfl, _, ?_, ahead'⟩
      rw [content, List.append_assoc, ← whole]
    · cases done
  | lost opened live stopped ahead =>
    rcases stopped with failed | silent
    · simp [Running, failed] at running
    · exact absurd heard silent
  | finished opened silent => cases silent

/-- Nothing comes behind a FILE_DONE; of a transfer that takes chunks it is handled
when none is missing. -/
theorem last_done {transfer_id : UInt64} {total_chunks : UInt32} {file_size : UInt64}
    (stage : Stage core id session conn upload phase
      (.done transfer_id total_chunks file_size :: more))
    (found : core.server.transfers.transfers id = some session) (placed : core.StreamsPlaced) :
    transfer_id = id ∧ core.ledger.live id = true ∧ more ++ upload.pending id phase = [] ∧
      (Heard core conn session → session.state = .FAILED ∨
        Running session ∧ upload.content = core.received id) := by
  obtain ⟨opened, chunk_index, rest, ahead⟩ := stage.head
  obtain ⟨-, nothing, same⟩ := (Upload.upcoming_head ahead).resolve_left
    fun ⟨_, _, chunk, _⟩ => by cases chunk
  injection same with same
  cases stage with
  | waiting closed uncounted quiet => cases quiet
  | taking _ running content ahead =>
    obtain ⟨empty, -, -⟩ := (Upload.upcoming_head ahead).resolve_left
      fun ⟨_, _, chunk, _⟩ => by cases chunk
    exact ⟨same, placed.running found running, nothing,
      fun _ => .inr ⟨running, by rw [content, empty, List.append_nil]⟩⟩
  | lost _ live stopped =>
    exact ⟨same, live, nothing, fun heard => .inl (stopped.resolve_right fun silent => silent heard)⟩
  | finished _ silent => cases silent

end Stage

/-! ### The connections -/

/-- A connection on which no transfer has been made: its login and its request may
still wait to be handled. -/
structure Early (program : Program) (outbox : List Command) : Prop where
  script : outbox.Sublist [program.hello, program.request]
  greeting : program.phase = .login → outbox.Sublist [program.hello]
  unwritten : program.phase.unwritten = true
  unknown : program.phase.transfer? = none

namespace Early

variable {program : Program} {command : Command} {outbox more : List Command} {response : Response}

theorem connected (program : Program) (login : program.phase = .login) :
    Early program [program.hello] := by
  refine ⟨by simp, fun _ => List.Sublist.refl _, ?_, ?_⟩ <;> rw [login] <;> rfl

theorem tail (early : Early program (command :: more)) : Early program more where
  script := (List.sublist_cons_self ..).trans early.script
  greeting login := (List.sublist_cons_self ..).trans (early.greeting login)
  unwritten := early.unwritten
  unknown := early.unknown

theorem head (early : Early program (command :: more)) :
    command = program.hello ∨ command = program.request := by
  simpa using early.script.subset (List.mem_cons_self ..)

theorem request_last (early : Early program (program.request :: more))
    (differ : program.request ≠ program.hello) : more = [] ∧ program.phase ≠ .login := by
  constructor
  · rcases List.cons_sublist_cons'.mp early.script with behind | ⟨same, -⟩
    · exact List.sublist_nil.mp (List.cons_sublist_cons.mp behind)
    · exact absurd same differ
  · intro login
    exact differ (by simpa using (early.greeting login).subset (List.mem_cons_self ..))

theorem ended (early : Early program outbox) (success : Bool) :
    Early (program.goto (.ended success)) (outbox ++ []) := by
  rw [List.append_nil]
  exact ⟨early.script, nofun, rfl, rfl⟩

theorem read (early : Early program outbox) (waits : program.waits = true)
    (untold : ∀ resp, response = .fileOfferResp resp → resp.ok = false) :
    Early (program.read response).1 (outbox ++ (program.read response).2) := by
  rcases Program.read_cases waits with ⟨success, reads⟩ | ⟨login, reads⟩ |
    ⟨offer, resp, told, ok, -⟩ | ⟨transfer_id, accept, -⟩
  · rw [reads]
    exact early.ended success
  · obtain ⟨phase, place, begins⟩ := program.begin_task_eq
    rw [reads, begins]
    have script := (early.greeting login).append_right [program.request]
    rcases place with rfl | rfl <;> exact ⟨script, nofun, rfl, rfl⟩
  · rw [untold resp told] at ok
    cases ok
  · have unknown := early.unknown
    rw [accept] at unknown
    cases unknown

theorem write (early : Early program outbox) :
    Early program.write.1 (outbox ++ program.write.2) := by
  rw [Program.write_unwritten early.unwritten, List.append_nil]
  exact early

end Early

/-- A connection and the transfer that has been made on it. -/
structure Posted (core : Observed) (id : UInt64) (session : TransferSession) (conn : ConnId)
    (upload : Upload) (program : Program) (outbox : List Command) : Prop where
  task : program.task = .send upload
  begun : program.phase ≠ .login
  knows : ∀ transfer_id, program.phase.transfer? = some transfer_id → transfer_id = id
  filename : session.filename = upload.filename
  file_size : session.file_size = upload.file_size
  stage : Stage core id session conn upload program.phase outbox

namespace Posted

variable {core : Observed} {id : UInt64} {session : TransferSession} {conn : ConnId}
  {upload : Upload} {program : Program} {outbox written : List Command} {response : Response}

theorem goto (posted : Posted core id session conn upload program outbox) {phase : Phase}
    (begun : phase ≠ .login)
    (knows : ∀ transfer_id, phase.transfer? = some transfer_id → transfer_id = id)
    (kept : written ++ upload.pending id phase <+: upload.pending id program.phase)
    (waits : session.file_handle = none → program.phase.unwritten = true →
      written = [] ∧ phase.unwritten = true) :
    Posted core id session conn upload (program.goto phase) (outbox ++ written) where
  task := posted.task
  begun := begun
  knows := knows
  filename := posted.filename
  file_size := posted.file_size
  stage := posted.stage.advance
    (by rw [List.append_assoc]; exact (List.prefix_append_right_inj _).mpr kept) waits

theorem ended (posted : Posted core id session conn upload program outbox) (success : Bool) :
    Posted core id session conn upload (program.goto (.ended success)) (outbox ++ []) :=
  posted.goto nofun nofun List.nil_prefix fun _ _ => ⟨rfl, rfl⟩

/-- The number the program is told is that of its transfer, and the file is begun
only when the receiver has accepted. -/
theorem read (posted : Posted core id session conn upload program outbox)
    (waits : program.waits = true)
    (told : ∀ resp, response = .fileOfferResp resp → resp.ok = true → resp.transfer_id = id)
    (granted : ∀ resp, response = .fileAcceptResp resp → resp.ok = true →
      session.file_handle ≠ none) :
    Posted core id session conn upload (program.read response).1
      (outbox ++ (program.read response).2) := by
  rcases Program.read_cases waits with ⟨success, reads⟩ | ⟨login, reads⟩ |
    ⟨offer, resp, same, ok, reads⟩ | ⟨transfer_id, accept, resp, same, ok, reads⟩
  · rw [reads]
    exact posted.ended success
  · exact absurd login posted.begun
  · rw [reads]
    refine posted.goto nofun ?_ ?_ fun _ _ => ⟨rfl, rfl⟩
    · rintro _ ⟨⟩
      exact told resp same ok
    · rw [offer]
      exact List.prefix_refl _
  · rw [reads]
    refine posted.goto nofun ?_ ?_ fun closed => absurd closed (granted resp same ok)
    · rintro _ ⟨⟩
      exact posted.knows _ (by rw [accept]; rfl)
    · rw [accept]
      exact List.prefix_refl _

theorem write (posted : Posted core id session conn upload program outbox)
    (steady : upload.Steady) :
    Posted core id session conn upload program.write.1 (outbox ++ program.write.2) := by
  obtain ⟨phase, goes, login, knows⟩ := program.write_goto
  have kept := Program.write_pending posted.task steady posted.knows
  rw [goes] at kept ⊢
  refine posted.goto (fun same => posted.begun (login same))
    (fun transfer_id same => posted.knows _ (knows _ same)) ?_ fun _ unwritten => ?_
  · rw [← kept]
    exact List.prefix_refl _
  · have nothing := Program.write_unwritten unwritten
    rw [nothing] at goes
    refine ⟨by rw [nothing], ?_⟩
    rw [show phase = program.phase from (congrArg Program.phase goes).symm]
    exact unwritten

end Posted

end FileShareX.Client

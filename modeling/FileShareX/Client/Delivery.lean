import FileShareX.Client.Agreement
import FileShareX.Net.Completion

/-!
# End-to-end delivery

A positive FILE_RESULT is to mean that the file is on the server as it was read.
The handler of FILE_DONE does not ask whether every chunk could be written, and nobody
asks whether it could be flushed, so this is only so while no transfer that has failed
is finalized and every flush works.
-/

namespace FileShareX.Client

open Wire Posix Protocol Storage Transfer Net Machine

def Move.upload? : Move → Option Upload
  | .connect (.send upload) _ _ => some upload
  | _ => none

namespace Network

def FirstAccept (net : Network) : Request → Prop
  | .accept req _ => req.transfer_id ∉ net.accepted
  | _ => True

instance (net : Network) : (request : Request) → Decidable (net.FirstAccept request)
  | .accept req _ => inferInstanceAs (Decidable (req.transfer_id ∉ net.accepted))
  | .offer .. | .chunk .. | .done .. => .isTrue trivial

/-- A file that does not change, under the name of a single component, and no second accept. -/
def Honest (net : Network) (move : Move) : Prop :=
  (∀ upload ∈ move.upload?, upload.Steady ∧ FileStore.Plain upload.filename) ∧
    ∀ label ∈ net.label? move, ∀ request ∈ net.core.asks label, net.FirstAccept request

instance (net : Network) (move : Move) : Decidable (net.Honest move) :=
  inferInstanceAs (Decidable (_ ∧ _))

/-- An offer gets a number that is not in use, a chunk that is taken whole is flushed,
and a FILE_DONE that can be finalized finds that no chunk has failed. -/
def Saves (net : Network) (io : Io) : Request → Prop
  | .offer _ _ =>
    net.core.server.transfers.transfers net.core.server.transfers.next_transfer_id = none
  | .chunk chunk _ => chunk.data = [] ∨ io.fwrite < chunk.data.length ∨ io.fflush = true
  | .done _ session => session.file_handle = none ∨ io.rename = false ∨ session.state ≠ .FAILED
  | .accept _ _ => True

instance (net : Network) (io : Io) : (request : Request) → Decidable (net.Saves io request)
  | .offer .. => inferInstanceAs (Decidable (_ = none))
  | .chunk .. => inferInstanceAs (Decidable (_ ∨ _ ∨ _))
  | .done .. => inferInstanceAs (Decidable (_ ∨ _ ∨ _))
  | .accept .. => .isTrue trivial

/-- The lengths of both names fit their fields, and every request can be served. -/
def Sound (net : Network) (move : Move) : Prop :=
  (∀ upload ∈ move.upload?,
    upload.receiver_username.length < 2 ^ 16 ∧ upload.filename.length < 2 ^ 16) ∧
    ∀ label ∈ net.label? move, ∀ request ∈ net.core.asks label, net.Saves label.env.io request

instance (net : Network) (move : Move) : Decidable (net.Sound move) :=
  inferInstanceAs (Decidable (_ ∧ _))

/-- What is promised of a step: when the transfer gets a positive result, it is complete
and its file is the one the program on that connection has read. -/
def Delivers (net : Network) (move : Move) : Prop :=
  ∀ label ∈ net.label? move, ∀ peer id path,
    .sent peer (.fileResult ⟨id, true, path⟩) ∈ net.core.events label →
      ∃ program upload session, net.maker id = some peer ∧ net.programs peer = some program ∧
        program.task = .send upload ∧
        (net.step move).core.server.transfers.get_transfer id = some session ∧
        session.state = .COMPLETED ∧ session.bytes_received = session.file_size ∧
        (net.step move).core.server.os.disk.content (net.core.server.finalAt id session) =
          some upload.content

def handled (net : Network) (conn : ConnId) (label : Label) (more : List Command) : Network :=
  { net.serve label with outbox := Function.update net.outbox conn more }

namespace Consistent

variable {net : Network} {conn : ConnId} {program : Program}

section Handle

variable {command : Command} {more : List Command} {beyond : Nat → UInt8} {env : Env}
  {request : Request} {id : UInt64} {owner : ConnId} {changed : TransferSession}

theorem accepted_serve {label : Label} (accepted : id ∈ net.accepted) :
    id ∈ (net.serve label).accepted := by
  unfold serve
  dsimp only
  split
  · exact List.mem_cons_of_mem _ accepted
  · exact accepted

theorem noLogin (asked : net.core.asks (command.label conn beyond env) = some request)
    (peer : ConnId) (payload : Vec) (env' : Env) :
    command.label conn beyond env ≠ .receive peer MsgType.LOGIN_REQ.code payload env' := by
  intro same
  injection same with _ type
  rw [(Command.decoded asked).1] at type
  cases request <;> cases type

/-- A step puts one record in the table: a new one, or another one of the same owner. -/
structure Puts (net : Network) (label : Label) (id : UInt64) (owner : ConnId)
    (changed : TransferSession) : Prop where
  transfers : (net.core.step label).server.transfers.transfers =
    Function.update net.core.server.transfers.transfers id (some changed)
  chunks : ∀ {other}, other ≠ id →
    (net.core.step label).ledger.chunks other = net.core.ledger.chunks other
  live : ∀ {other}, other ≠ id →
    (net.core.step label).ledger.live other = net.core.ledger.live other
  maker : net.core.madeBy label net.maker = Function.update net.maker id (some owner)
  alone : ∀ {other}, other ≠ id → net.maker other ≠ some owner
  stays : ∀ {session}, net.core.server.transfers.transfers id = some session →
    net.maker id = some owner ∧ (session.file_handle ≠ none → changed.file_handle ≠ none)

namespace Puts

variable {label : Label} {other : UInt64} {peer : ConnId}

theorem found (puts : Puts net label id owner changed) :
    (net.core.step label).server.transfers.transfers id = some changed := by
  rw [puts.transfers, Function.update_self]

theorem finds (puts : Puts net label id owner changed) {entry : TransferSession}
    (found : (net.core.step label).server.transfers.transfers other = some entry) :
    other = id ∧ entry = changed ∨
      other ≠ id ∧ net.core.server.transfers.transfers other = some entry := by
  rw [puts.transfers] at found
  exact TransferManager.put_found found

theorem made (puts : Puts net label id owner changed) : (net.serve label).maker id = some owner :=
  (congrFun puts.maker id).trans (Function.update_self ..)

theorem makes (puts : Puts net label id owner changed)
    (made : (net.serve label).maker other = some peer) :
    other = id ∧ peer = owner ∨ other ≠ id ∧ net.maker other = some peer := by
  change net.core.madeBy label net.maker other = _ at made
  rw [puts.maker] at made
  by_cases same : other = id
  · subst same
    rw [Function.update_self] at made
    exact .inl ⟨rfl, (Option.some.inj made).symm⟩
  · rw [Function.update_of_ne same] at made
    exact .inr ⟨same, made⟩

theorem still (puts : Puts net label id owner changed) (consistent : net.Consistent)
    (old : net.maker other = some peer) : (net.serve label).maker other = some peer := by
  by_cases same : other = id
  · subst same
    cases found : net.core.server.transfers.transfers other with
    | none => cases (consistent.made.mpr found).symm.trans old
    | some session => rw [puts.made, ← (puts.stays found).1, old]
  · exact (congrFun puts.maker other).trans ((Function.update_of_ne same ..).trans old)

theorem made_iff (puts : Puts net label id owner changed) (consistent : net.Consistent) :
    (net.serve label).maker other = none ↔
      (net.core.step label).server.transfers.transfers other = none := by
  change net.core.madeBy label net.maker other = none ↔ _
  rw [puts.maker, puts.transfers]
  by_cases same : other = id
  · subst same
    rw [Function.update_self, Function.update_self]
    exact iff_of_false nofun nofun
  · rw [Function.update_of_ne same, Function.update_of_ne same]
    exact consistent.made

theorem once (puts : Puts net label id owner changed) (consistent : net.Consistent) {one : UInt64}
    (here : (net.serve label).maker one = some peer)
    (there : (net.serve label).maker other = some peer) : other = one := by
  rcases puts.makes here with ⟨rfl, rfl⟩ | ⟨ne, old⟩
  · rcases puts.makes there with ⟨same, -⟩ | ⟨ne, old⟩
    · exact same
    · exact absurd old (puts.alone ne)
  · rcases puts.makes there with ⟨rfl, rfl⟩ | ⟨-, old'⟩
    · exact absurd old (puts.alone ne)
    · exact consistent.once old old'

end Puts

/-- The other transfers are kept, so the step only has to follow its own. -/
theorem replace (consistent : net.Consistent) (cons : net.outbox conn = command :: more)
    (asked : net.core.asks (command.label conn beyond env) = some request)
    (ordered : Observed.Ordered net.core (command.label conn beyond env))
    (puts : Puts net (command.label conn beyond env) id owner changed)
    (own : ∀ other, other ≠ id → net.maker other ≠ some conn)
    (posted : ∃ program upload, net.programs owner = some program ∧
      Posted (net.core.step (command.label conn beyond env)) id changed owner upload program
        (Function.update net.outbox conn more owner))
    (told : ∀ peer resp,
      .sent peer (.fileOfferResp resp) ∈ net.core.events (command.label conn beyond env) →
      resp.ok = true → resp.transfer_id = id ∧ peer = owner)
    (granted : ∀ peer program upload resp, net.programs peer = some program →
      program.task = .send upload →
      .sent peer (.fileAcceptResp resp) ∈ net.core.events (command.label conn beyond env) →
      resp.ok = true → peer = owner ∧ changed.file_handle ≠ none)
    (chosen : changed.file_handle ≠ none →
      id ∈ (net.serve (command.label conn beyond env)).accepted) :
    (net.handled conn (command.label conn beyond env) more).Consistent := by
  constructor
  · exact consistent.parts.step ordered
  · exact Observed.routing_step consistent.routing
  · exact fun late => consistent.unused ((Observed.next_conn_le ..).trans late)
  · intro other none
    have empty := consistent.silent none
    have ne : other ≠ conn := by
      rintro rfl
      cases cons.symm.trans empty
    exact (Function.update_of_ne ne ..).trans empty
  · exact puts.made_iff consistent
  · exact puts.once consistent
  · exact consistent.fit
  · intro other program found unmade
    have early := consistent.early found fun id old => unmade id (puts.still consistent old)
    by_cases same : other = conn
    · subst same
      rw [cons] at early
      simpa only [handled, Function.update_self] using early.tail
    · simpa only [handled, Function.update_of_ne same] using early
  · intro other peer entry here found
    rcases puts.finds found with ⟨rfl, rfl⟩ | ⟨ne, old⟩
    · cases puts.made.symm.trans here
      exact posted
    · obtain ⟨-, before⟩ := (puts.makes here).resolve_left fun both => ne both.1
      have differ : peer ≠ conn := by
        rintro rfl
        exact own other ne before
      obtain ⟨program, upload, running, posted⟩ := consistent.posted before old
      refine ⟨program, upload, running, posted.task, posted.begun, posted.knows, posted.filename,
        posted.file_size, ?_⟩
      simp only [handled, Function.update_of_ne differ]
      exact posted.stage.elsewhere (puts.chunks ne) (puts.live ne) (Heard.before (noLogin asked peer))
  · intro other resp received ok
    rcases mem_deliver.mp received with old | sent
    · exact puts.still consistent (consistent.told old ok)
    · obtain ⟨same, here⟩ := told other resp sent ok
      rw [same, here]
      exact puts.made
  · intro other program upload resp running sends received ok
    rcases mem_deliver.mp received with old | sent
    · obtain ⟨id', entry, made, found, opened⟩ := consistent.granted running sends old ok
      by_cases same : id' = id
      · subst same
        exact ⟨id', changed, puts.still consistent made, puts.found, (puts.stays found).2 opened⟩
      · refine ⟨id', entry, puts.still consistent made, ?_, opened⟩
        exact (congrFun puts.transfers id').trans ((Function.update_of_ne same ..).trans found)
    · obtain ⟨rfl, opened⟩ := granted other program upload resp running sends sent ok
      exact ⟨id, changed, puts.made, puts.found, opened⟩
  · intro other entry found opened
    rcases puts.finds found with ⟨rfl, rfl⟩ | ⟨-, old⟩
    · exact chosen opened
    · exact accepted_serve (consistent.chosen old opened)

theorem handle_offer (consistent : net.Consistent) {upload : Upload}
    (running : net.programs conn = some program) (task : program.task = .send upload)
    (unmade : ∀ id, net.maker id ≠ some conn) (cons : net.outbox conn = program.request :: more)
    {req : FileOfferReq} {receiver : UserRow}
    (asked : net.core.asks (program.request.label conn beyond env) = some (.offer req receiver))
    (unused : net.core.server.transfers.transfers net.core.server.transfers.next_transfer_id = none) :
    (net.handled conn (program.request.label conn beyond env) more).Consistent := by
  have fit := consistent.fit running task
  have request : program.request = .offer upload.receiver_username upload.filename upload.file_size
      (UInt32.ofNat DEFAULT_CHUNK_SIZE) := by
    rw [Program.request, task]
  have early := consistent.early running unmade
  rw [cons] at early
  obtain ⟨rfl, begun⟩ := early.request_last (by simp [request, Program.hello])
  obtain ⟨filename, file_size⟩ :
      req.filename = upload.filename ∧ req.file_size = upload.file_size := by
    rw [request] at asked
    obtain ⟨receiver', same⟩ := Command.asked_offer fit.receiver_short fit.filename_short asked
    cases same
    exact ⟨rfl, rfl⟩
  have maker : net.core.madeBy (program.request.label conn beyond env) net.maker =
      Function.update net.maker net.core.server.transfers.next_transfer_id (some conn) := by
    unfold Command.label Observed.madeBy at *
    rw [asked]
  have ordered : Observed.Ordered net.core (program.request.label conn beyond env) := by
    unfold Observed.Ordered
    rw [asked]
    trivial
  obtain ⟨self, result, -, effect, emitted, stepped⟩ := Command.effect asked
  cases effect with
  | offered =>
    have ledger : (net.core.step (program.request.label conn beyond env)).ledger =
        net.core.ledger.record (.created net.core.server.transfers.next_transfer_id) := by
      rw [stepped]
      rfl
    have transfers :
        (net.core.step (program.request.label conn beyond env)).server.transfers.transfers =
        Function.update net.core.server.transfers.transfers
          net.core.server.transfers.next_transfer_id
          (some (net.core.server.offered self req receiver)) := by
      rw [stepped]
      rfl
    have puts : Puts net (program.request.label conn beyond env)
        net.core.server.transfers.next_transfer_id conn
        (net.core.server.offered self req receiver) := by
      refine ⟨transfers, fun ne => ?_, fun ne => ?_, maker, fun _ => unmade _, fun found => ?_⟩
      · rw [ledger]
        exact Function.update_of_ne ne ..
      · rw [ledger]
        exact Function.update_of_ne ne ..
      · cases unused.symm.trans found
    refine consistent.replace cons asked ordered puts (fun other _ => unmade other)
      ⟨program, upload, running, task, begun, ?_, filename, file_size,
        .waiting rfl ?_ (Function.update_self ..) early.unwritten⟩
      (fun peer resp sent ok => ?_) (fun peer program' upload' resp _ _ sent _ => ?_)
      (fun opened => absurd rfl opened)
    · rw [early.unknown]
      simp
    · rw [ledger]
      exact Function.update_self ..
    · rw [emitted] at sent
      simp only [List.mem_cons, reduceCtorEq, false_or, List.not_mem_nil, or_false,
        Event.sent.injEq, Response.fileOfferResp.injEq] at sent
      obtain ⟨rfl, rfl⟩ := sent
      exact ⟨Server.offerReply_number ok, rfl⟩
    · rw [emitted] at sent
      simp at sent

/-- A step about a transfer already made only has to say what becomes of its stage. -/
theorem rewrite (consistent : net.Consistent) (cons : net.outbox conn = command :: more)
    (asked : net.core.asks (command.label conn beyond env) = some request)
    {session : TransferSession} (about : request.about = some id)
    (rewrites : net.core.Rewrites (net.core.step (command.label conn beyond env)) id session changed)
    (ordered : Observed.Ordered net.core (command.label conn beyond env))
    {upload : Upload} (made : net.maker id = some owner) (running : net.programs owner = some program)
    (posted : Posted net.core id session owner upload program (net.outbox owner))
    (stage : Stage (net.core.step (command.label conn beyond env)) id changed owner upload
      program.phase (Function.update net.outbox conn more owner))
    (own : ∀ other, net.maker other = some conn → other = id)
    (stays : session.file_handle ≠ none → changed.file_handle ≠ none)
    (granted : ∀ peer program upload resp, net.programs peer = some program →
      program.task = .send upload →
      .sent peer (.fileAcceptResp resp) ∈ net.core.events (command.label conn beyond env) →
      resp.ok = true → peer = owner ∧ changed.file_handle ≠ none)
    (chosen : changed.file_handle ≠ none →
      id ∈ (net.serve (command.label conn beyond env)).accepted) :
    (net.handled conn (command.label conn beyond env) more).Consistent := by
  have maker : net.core.madeBy (command.label conn beyond env) net.maker =
      Function.update net.maker id (some owner) := by
    rw [← made, Function.update_eq_self]
    unfold Command.label Observed.madeBy at *
    rw [asked]
    cases request with
    | offer => cases about
    | _ => rfl
  have puts : Puts net (command.label conn beyond env) id owner changed := by
    refine ⟨by rw [rewrites.transfers]; rfl, rewrites.chunks, rewrites.live, maker,
      fun ne here => ne (consistent.once made here), fun found => ⟨made, ?_⟩⟩
    cases found.symm.trans rewrites.found
    exact stays
  refine consistent.replace cons asked ordered puts (fun other ne here => ne (own other here))
    ⟨program, upload, running, posted.task, posted.begun, posted.knows, ?_, ?_, stage⟩
    (fun peer resp sent _ => ?_) granted chosen
  · rw [rewrites.kept]
    exact posted.filename
  · rw [rewrites.kept]
    exact posted.file_size
  · obtain ⟨_, _, -, effect, emitted, -⟩ := Command.effect asked
    rw [emitted] at sent
    obtain ⟨_, _, rfl, -⟩ := effect.offerResp sent
    cases about

/-- The first accept of a transfer finds it waiting, and only it lets the program begin. -/
theorem handle_accept (consistent : net.Consistent) {session : TransferSession}
    (receiver : net.programs conn = some program) (task : program.task = .recv id)
    (unmade : ∀ id, net.maker id ≠ some conn) (cons : net.outbox conn = command :: more)
    (asked : net.core.asks (command.label conn beyond env) = some (.accept ⟨id, true⟩ session))
    (first : id ∉ net.accepted) :
    (net.handled conn (command.label conn beyond env) more).Consistent := by
  obtain ⟨self, result, -, effect, emitted, stepped⟩ := Command.effect asked
  obtain ⟨session', changed, rewrites⟩ := Observed.step_rewrites asked rfl
  have found : net.core.server.transfers.transfers id = some session := by
    cases effect <;> assumption
  cases rewrites.found.symm.trans found
  have closed : session.file_handle = none := by
    by_contra opened
    exact first (consistent.chosen found opened)
  obtain ⟨sender, program', upload, made, running, posted, -⟩ := consistent.sender found
  obtain ⟨uncounted, quiet, unwritten⟩ := posted.stage.waits closed
  have differ : sender ≠ conn := by
    rintro rfl
    exact unmade _ made
  have ordered : Observed.Ordered net.core (command.label conn beyond env) := by
    unfold Observed.Ordered
    rw [asked]
    exact fun _ => ⟨uncounted, (consistent.apart found).1⟩
  have chunks : (net.core.step (command.label conn beyond env)).ledger.chunks id = [] := by
    rw [stepped, ← uncounted]
    cases effect with
    | openFailed => rfl
    | opened => simp [Ledger.record]
    | rejected _ _ _ reject => cases reject
  have stage : Stage (net.core.step (command.label conn beyond env)) id changed sender upload
      program'.phase (Function.update net.outbox conn more sender) := by
    rw [Function.update_of_ne differ, quiet]
    cases effect with
    | openFailed =>
      obtain rfl := rewrites.changed_eq (by rw [stepped]; exact TransferManager.put_self)
      exact .waiting closed chunks rfl unwritten
    | opened =>
      obtain rfl := rewrites.changed_eq (by rw [stepped]; exact TransferManager.put_self)
      have zero : session.expected_chunk_index = 0 := by
        rw [(consistent.parts.counts found).index, uncounted]
        rfl
      have received : (net.core.step (command.label conn beyond env)).received id = [] := by
        rw [Observed.received, chunks]
        rfl
      refine .taking (by simp) (.inl rfl) (congrArg (· ++ upload.content) received).symm ?_
      rw [zero]
      exact Upload.pending_unwritten unwritten
    | rejected _ _ _ reject => cases reject
  refine consistent.rewrite cons asked rfl rewrites ordered made running posted stage
    (fun other here => absurd here (unmade other)) (fun opened => absurd closed opened)
    (fun peer program'' upload' resp running' sends sent ok => ?_)
    fun _ => by simp [Network.serve, asked]
  rw [emitted] at sent
  obtain ⟨req, entry, same, here | ⟨reached, changed', after, opened⟩⟩ := effect.acceptResp sent ok
  · -- the receiver is told too, but is no sender
    subst here
    cases receiver.symm.trans running'
    cases task.symm.trans sends
  · cases same
    have owns := consistent.routing.routed found (SessionManager.get_session_mem reached)
    obtain rfl := rewrites.changed_eq (by rw [stepped, after]; exact TransferManager.put_self)
    exact ⟨Option.some.inj (owns.symm.trans made), opened⟩

theorem follow (consistent : net.Consistent) (cons : net.outbox conn = command :: more)
    (asked : net.core.asks (command.label conn beyond env) = some request)
    {session : TransferSession} (about : request.about = some id)
    (noAccept : ∀ req entry, request ≠ .accept req entry)
    (rewrites : net.core.Rewrites (net.core.step (command.label conn beyond env)) id session changed)
    (handle : changed.file_handle = session.file_handle)
    (ordered : Observed.Ordered net.core (command.label conn beyond env))
    {upload : Upload} (made : net.maker id = some conn) (running : net.programs conn = some program)
    (posted : Posted net.core id session conn upload program (net.outbox conn))
    (stage : Stage (net.core.step (command.label conn beyond env)) id changed conn upload
      program.phase more) :
    (net.handled conn (command.label conn beyond env) more).Consistent := by
  refine consistent.rewrite cons asked about rewrites ordered made running posted
    (by rwa [Function.update_self]) (fun other here => consistent.once made here)
    (fun opened => by rwa [handle]) (fun _ _ _ _ _ _ sent ok => ?_)
    fun opened => accepted_serve (consistent.chosen rewrites.found (handle ▸ opened))
  obtain ⟨_, _, -, effect, emitted, -⟩ := Command.effect asked
  rw [emitted] at sent
  obtain ⟨req, entry, same, -⟩ := effect.acceptResp sent ok
  exact absurd same (noAccept req entry)

theorem handle_chunk (consistent : net.Consistent) {chunk_index : UInt32} {data : Bytes}
    {session : TransferSession} (made : net.maker id = some conn)
    (cons : net.outbox conn = .chunk id chunk_index data :: more)
    (asked : net.core.asks ((Command.chunk id chunk_index data).label conn beyond env) =
      some (.chunk ⟨id, chunk_index, data⟩ session))
    (saves : net.Saves env.io (.chunk ⟨id, chunk_index, data⟩ session)) :
    (net.handled conn ((Command.chunk id chunk_index data).label conn beyond env)
      more).Consistent := by
  have heard : Heard net.core conn session := .of_asks asked (.inl ⟨_, rfl⟩)
  obtain ⟨self, result, -, effect, -, stepped⟩ := Command.effect asked
  obtain ⟨session', changed, rewrites⟩ := Observed.step_rewrites asked rfl
  obtain ⟨found, takes⟩ :
      net.core.server.transfers.transfers id = some session ∧ Running session := by
    cases effect <;> exact ⟨‹_›, ‹_›⟩
  cases rewrites.found.symm.trans found
  obtain ⟨program, upload, running, posted⟩ := consistent.posted made found
  have stage := posted.stage
  rw [cons] at stage
  obtain ⟨opened, isNext, rest, content, ahead⟩ := stage.next_chunk takes heard
  have ordered : Observed.Ordered net.core
      ((Command.chunk id chunk_index data).label conn beyond env) := by
    unfold Observed.Ordered
    rw [asked]
    exact saves.imp_right (Or.imp_right fun flushes => ⟨isNext, flushes⟩)
  cases effect with
  | writeFailed =>
    obtain rfl := rewrites.changed_eq (by rw [stepped]; exact TransferManager.put_self)
    have live := consistent.parts.running found takes
    exact consistent.follow cons asked rfl nofun rewrites rfl ordered made running posted
      (.lost opened (by rw [stepped]; exact live) (.inl rfl) ahead)
  | received =>
    obtain rfl := rewrites.changed_eq (by rw [stepped]; exact TransferManager.put_self)
    refine consistent.follow cons asked rfl nofun rewrites rfl ordered made running posted
      (.taking opened ?_ ?_ ahead)
    · rcases takes with now | now <;> simp [Running, TransferSession.advance, now]
    · rw [content, stepped]
      simp [Observed.received, Ledger.record]
  | strayed _ _ _ _ _ _ stray => exact absurd isNext stray

theorem handle_done (consistent : net.Consistent) {total_chunks : UInt32} {file_size : UInt64}
    {session : TransferSession} (made : net.maker id = some conn)
    (cons : net.outbox conn = .done id total_chunks file_size :: more)
    (asked : net.core.asks ((Command.done id total_chunks file_size).label conn beyond env) =
      some (.done ⟨id, total_chunks, file_size⟩ session)) :
    (net.handled conn ((Command.done id total_chunks file_size).label conn beyond env)
      more).Consistent := by
  obtain ⟨self, result, -, effect, -, stepped⟩ := Command.effect asked
  obtain ⟨session', changed, rewrites⟩ := Observed.step_rewrites asked rfl
  have found : net.core.server.transfers.transfers id = some session := by
    cases effect <;> assumption
  cases rewrites.found.symm.trans found
  obtain ⟨program, upload, running, posted⟩ := consistent.posted made found
  have stage := posted.stage
  rw [cons] at stage
  obtain ⟨opened, -⟩ := stage.head
  obtain ⟨-, live, nothing, -⟩ := stage.last_done found consistent.parts.toStreamsPlaced
  have ordered : Observed.Ordered net.core
      ((Command.done id total_chunks file_size).label conn beyond env) := by
    unfold Observed.Ordered
    rw [asked]
    exact .inr ⟨live, consistent.apart found⟩
  have handle : changed.file_handle = session.file_handle := by
    cases effect <;> exact congrArg (·.file_handle)
      (rewrites.changed_eq (by rw [stepped]; exact TransferManager.put_self))
  exact consistent.follow cons asked rfl nofun rewrites handle ordered made running posted
    (.finished (by rwa [handle]) nothing)

/-- A command is the login or the request of its program, or it is about the transfer
that has been made on the connection. -/
theorem command_cases (consistent : net.Consistent) (cons : net.outbox conn = command :: more) :
    ∃ program, net.programs conn = some program ∧
      ((∀ id, net.maker id ≠ some conn) ∧ (command = program.hello ∨ command = program.request) ∨
        ∃ id session upload, net.maker id = some conn ∧
          net.core.server.transfers.transfers id = some session ∧
          Posted net.core id session conn upload program (command :: more) ∧
          ((∃ chunk_index data, command = .chunk id chunk_index data) ∨
            ∃ total_chunks file_size, command = .done id total_chunks file_size)) := by
  cases running : net.programs conn with
  | none => cases (consistent.silent running).symm.trans cons
  | some program =>
    refine ⟨program, rfl, ?_⟩
    by_cases unmade : ∀ id, net.maker id ≠ some conn
    · have early := consistent.early running unmade
      rw [cons] at early
      exact .inl ⟨unmade, early.head⟩
    · obtain ⟨id, made⟩ := not_forall_not.mp unmade
      have listed := mt consistent.made.mpr (made ▸ Option.some_ne_none conn)
      obtain ⟨session, found⟩ := Option.ne_none_iff_exists'.mp listed
      obtain ⟨_, upload, running', posted⟩ := consistent.posted made found
      cases running.symm.trans running'
      rw [cons] at posted
      exact .inr ⟨id, session, upload, made, found, posted, posted.stage.head_command⟩

theorem handle (consistent : net.Consistent) (cons : net.outbox conn = command :: more)
    (first : ∀ request ∈ net.core.asks (command.label conn beyond env), net.FirstAccept request)
    (saves : ∀ request ∈ net.core.asks (command.label conn beyond env), net.Saves env.io request) :
    (net.handled conn (command.label conn beyond env) more).Consistent := by
  cases asked : net.core.asks (command.label conn beyond env) with
  | none =>
    refine consistent.idle asked fun other => ?_
    by_cases same : other = conn
    · subst same
      exact .inr ⟨command, beyond, env, by rw [Function.update_self, cons], rfl⟩
    · exact .inl ⟨Function.update_of_ne same .., Command.elsewhere same⟩
  | some request =>
    specialize first request asked
    specialize saves request asked
    obtain ⟨program, running, ⟨unmade, rfl | rfl⟩ | ⟨id, session, upload, made, found, posted,
      ⟨chunk_index, data, rfl⟩ | ⟨total_chunks, file_size, rfl⟩⟩⟩ := consistent.command_cases cons
    · exact (Command.asked_login asked).elim
    · cases task : program.task with
      | send upload =>
        have fit := consistent.fit running task
        have offers := asked
        simp only [Program.request, task] at offers
        obtain ⟨receiver, rfl⟩ := Command.asked_offer fit.receiver_short fit.filename_short offers
        exact consistent.handle_offer running task unmade cons asked saves
      | recv transfer_id =>
        have accepts := asked
        simp only [Program.request, task] at accepts
        obtain ⟨session, rfl⟩ := Command.asked_accept accepts
        exact consistent.handle_accept running task unmade cons asked first
    · obtain ⟨session', rfl⟩ := Command.asked_chunk asked
      exact consistent.handle_chunk made cons asked saves
    · obtain ⟨session', rfl⟩ := Command.asked_done asked
      exact consistent.handle_done made cons asked

theorem done_sent (consistent : net.Consistent) (cons : net.outbox conn = command :: more)
    {done : FileDone} {session : TransferSession}
    (asked : net.core.asks (command.label conn beyond env) = some (.done done session))
    (found : net.core.server.transfers.transfers done.transfer_id = some session) :
    ∃ program upload, net.maker done.transfer_id = some conn ∧ net.programs conn = some program ∧
      Posted net.core done.transfer_id session conn upload program (command :: more) ∧
      command = .done done.transfer_id done.total_chunks done.file_size := by
  obtain ⟨type, -⟩ := Command.decoded asked
  obtain ⟨program, running, ⟨-, rfl | rfl⟩ | ⟨id, session', upload, made, found', posted,
    ⟨chunk_index, data, rfl⟩ | ⟨total_chunks, file_size, rfl⟩⟩⟩ := consistent.command_cases cons
  · cases type
  · unfold Program.request at type
    split at type <;> cases type
  · cases type
  · obtain ⟨_, same⟩ := Command.asked_done asked
    cases same
    cases found.symm.trans found'
    exact ⟨program, upload, made, running, posted, rfl⟩

/-- A positive result comes for a transfer none of whose chunks is missing. -/
theorem delivers (consistent : net.Consistent) (cons : net.outbox conn = command :: more)
    (saves : ∀ request ∈ net.core.asks (command.label conn beyond env), net.Saves env.io request)
    {peer : ConnId} {id : UInt64} {path : Bytes}
    (sent : .sent peer (.fileResult ⟨id, true, path⟩) ∈
      net.core.events (command.label conn beyond env)) :
    ∃ program upload session, net.maker id = some peer ∧ net.programs peer = some program ∧
      program.task = .send upload ∧
      (net.core.step (command.label conn beyond env)).server.transfers.transfers id = some session ∧
      session.state = .COMPLETED ∧ session.bytes_received = session.file_size ∧
      (net.core.step (command.label conn beyond env)).server.os.disk.content
        (net.core.server.finalAt id session) = some upload.content := by
  have completes : net.core.Completes (command.label conn beyond env) id := .inl ⟨peer, path, sent⟩
  obtain ⟨done, session, os, asked, rfl, found, called, after⟩ := completes.finalized
  obtain ⟨program, upload, made, running, posted, rfl⟩ := consistent.done_sent cons asked found
  have fit := consistent.fit running posted.task
  obtain ⟨self, result, -, effect, emitted, stepped⟩ := Command.effect asked
  rw [emitted] at sent
  obtain ⟨_, _, _, rfl, -, finalized⟩ := effect.fileResult sent
  have notFailed := ((saves _ asked).resolve_left fun none => by
    rw [none] at called
    cases called).resolve_left fun refused => by
    cases FileStore.finalize_file_no_rename called refused
  obtain ⟨-, -, -, whole⟩ := posted.stage.last_done found consistent.parts.toStreamsPlaced
  obtain ⟨takes, content⟩ :=
    (whole (.of_asks asked (.inr ⟨_, rfl⟩))).resolve_left notFailed
  refine ⟨program, upload, { session with state := .COMPLETED }, made, running, posted.task, ?_, rfl,
    ?_, ?_⟩
  · rw [stepped]
    cases effect with
    | finalizeFailed => simp at finalized
    | finalized => exact TransferManager.put_self
  · have bytes := (consistent.parts.counts found).bytes
    change session.bytes_received = session.file_size
    rw [bytes, posted.file_size, show (_ : List Bytes).flatten = upload.content from content.symm,
      show upload.content.length = _ from fit.steady, UInt64.ofNat_toNat]
  · change (net.core.step _).server.os.disk.content (net.core.server.finalAt _ session) = _
    rw [after, content]
    exact consistent.parts.finalized found takes called

end Handle

theorem step (consistent : net.Consistent) {move : Move} (honest : net.Honest move)
    (sound : net.Sound move) : (net.step move).Consistent := by
  cases move with
  | connect task username password =>
    refine consistent.connect fun upload sends => ?_
    subst sends
    obtain ⟨steady, plain⟩ := honest.1 upload rfl
    obtain ⟨receiver, filename⟩ := sound.1 upload rfl
    exact ⟨steady, plain, receiver, filename⟩
  | read conn =>
    unfold Network.step
    dsimp only
    split
    · next program response unread running received =>
      split
      · next waits => exact consistent.read running received waits
      · exact consistent
    · exact consistent
  | write conn =>
    unfold Network.step
    dsimp only
    split
    · next program running => exact consistent.write running
    · exact consistent
  | crash conn =>
    unfold Network.step
    dsimp only
    split
    · next program running => exact consistent.crash running
    · exact consistent
  | handle conn beyond env =>
    unfold Network.step
    dsimp only
    split
    · exact consistent
    · next command more cons =>
      have here : command.label conn beyond env ∈ net.label? (.handle conn beyond env) := by
        simp [label?, cons]
      exact consistent.handle cons (honest.2 _ here) (sound.2 _ here)
  | disconnect conn reason => exact consistent.quiet (by simp)
  | release conn => exact consistent.quiet (by simp)

end Consistent

/-- With honest clients, as long as no failed transfer is finalized and nothing is lost
in a flush, every positive result means that the file has arrived as it was read. -/
theorem delivery_intact {start : Network} {moves : List Move} (fresh : start.Fresh)
    (along : Along step (fun net move => net.Honest move ∧ net.Sound move) start moves) {move : Move}
    (sound : (run step start moves).Sound move) : (run step start moves).Delivers move := by
  have consistent : (run step start moves).Consistent :=
    along.invariant (.fresh fresh) fun _ _ consistent ⟨honest, sound⟩ => consistent.step honest sound
  generalize run step start moves = net at *
  intro label taken peer id path sent
  cases move with
  | handle conn beyond env =>
    cases cons : net.outbox conn with
    | nil => simp [label?, cons] at taken
    | cons command more =>
      simp only [label?, cons, List.head?_cons, Option.map_some, Option.mem_def,
        Option.some.injEq] at taken
      subst taken
      have here : command.label conn beyond env ∈ net.label? (.handle conn beyond env) := by
        simp [label?, cons]
      have after : (net.step (.handle conn beyond env)).core =
          net.core.step (command.label conn beyond env) := by
        simp [Network.step, cons, serve]
      rw [after]
      exact consistent.delivers cons (sound.2 _ here) sent
  | connect =>
    cases taken
    cases sent
  | disconnect =>
    cases taken
    cases sent
  | release =>
    cases taken
    cases sent
  | _ => cases taken

/-! ### A concrete delivery -/

def take (conn : ConnId) (env : Env) : Move := .handle conn (fun _ => 0) env

/-- Two bytes from alice to bob, up to the FILE_DONE; `env` is there for the chunk. -/
def errand (env : Env) : List Move :=
  [.connect (.send ⟨ascii "bob", ascii "a", 2, [1, 2]⟩) (ascii "alice") [120],
    take 0 (Sample.env 0 1), .read 0, take 0 (Sample.env 0 0), .read 0,
    .connect (.recv 1) (ascii "bob") [120], take 1 (Sample.env 0 2), .read 1, take 1 (Sample.env 5 0),
    .read 0, .write 0, .write 0, .write 0, take 0 env]

theorem delivery_intact_sample :
    (run step { core := Sample.start } (errand (Sample.env 0 0))).Delivers (take 0 (Sample.env 0 0)) :=
  delivery_intact ⟨Sample.booted, rfl⟩ (by decide +kernel) (by decide +kernel)

/-- The chunk cannot be written, and the FILE_DONE completes an empty file of two bytes. -/
theorem unwritten_chunk_delivered :
    ∃ start moves move, start.Fresh ∧ Along step Honest start moves ∧
      (run step start moves).Honest move ∧ ¬ (run step start moves).Delivers move := by
  refine ⟨{ core := Sample.start }, errand {}, take 0 (Sample.env 0 0), ⟨Sample.booted, rfl⟩,
    by decide +kernel, by decide +kernel, fun delivers => ?_⟩
  generalize made : run step { core := Sample.start } (errand {}) = net at delivers
  have cons : net.outbox 0 = [.done 1 1 2] := by
    rw [← made]
    decide +kernel
  have answered : .sent 0 (.fileResult ⟨1, true, Sample.store.get_file_path 1 (ascii "a")⟩) ∈
      net.core.events ((Command.done 1 1 2).label 0 (fun _ => 0) (Sample.env 0 0)) := by
    rw [← made]
    decide +kernel
  have short : ((net.step (take 0 (Sample.env 0 0))).core.server.transfers.transfers 1).any
      fun session => session.bytes_received ≠ session.file_size := by
    rw [← made]
    decide +kernel
  obtain ⟨_, _, session, -, -, -, found, -, bytes, -⟩ :=
    delivers _ (by simp [take, label?, cons]) 0 1 _ answered
  rw [show (net.step (take 0 (Sample.env 0 0))).core.server.transfers.transfers 1 = some session
    from found] at short
  exact of_decide_eq_true short bytes

end Network

end FileShareX.Client

import FileShareX.Client.Posted
import FileShareX.Storage.Placement

/-!
# What clients and server agree on

`Consistent` ties the frames on their way to the state of both sides.  A program
that goes on keeps it, and so does a step of the server that no request causes.
-/

namespace FileShareX.Client

open Wire Posix Protocol Storage Transfer Net

structure Upload.Fit (upload : Upload) : Prop where
  steady : upload.Steady
  plain : FileStore.Plain upload.filename
  receiver_short : upload.receiver_username.length < 2 ^ 16
  filename_short : upload.filename.length < 2 ^ 16

namespace Network

theorem mem_deliver {events : List Event} {inbox : ConnId → List Response} {conn : ConnId}
    {response : Response} : response ∈ deliver events inbox conn ↔
      response ∈ inbox conn ∨ .sent conn response ∈ events := by
  unfold deliver
  rw [List.mem_append, List.mem_filterMap]
  refine or_congr_right ⟨?_, fun sent => ⟨_, sent, if_pos rfl⟩⟩
  rintro ⟨event, happens, taken⟩
  split at taken
  · split at taken
    · next same =>
      cases taken
      exact same ▸ happens
    · cases taken
  · cases taken

/-- What the server, the programs and the frames between them agree on. -/
structure Consistent (net : Network) : Prop where
  parts : Observed.PartFiles net.core
  routing : net.core.server.Routing net.maker
  unused : ∀ {conn}, net.core.server.next_conn ≤ conn → net.programs conn = none
  silent : ∀ {conn}, net.programs conn = none → net.outbox conn = []
  made : ∀ {id}, net.maker id = none ↔ net.core.server.transfers.transfers id = none
  once : ∀ {id other conn}, net.maker id = some conn → net.maker other = some conn → other = id
  fit : ∀ {conn program upload}, net.programs conn = some program → program.task = .send upload →
    upload.Fit
  early : ∀ {conn program}, net.programs conn = some program → (∀ id, net.maker id ≠ some conn) →
    Early program (net.outbox conn)
  posted : ∀ {id conn session}, net.maker id = some conn →
    net.core.server.transfers.transfers id = some session →
    ∃ program upload, net.programs conn = some program ∧
      Posted net.core id session conn upload program (net.outbox conn)
  told : ∀ {conn resp}, .fileOfferResp resp ∈ net.inbox conn → resp.ok = true →
    net.maker resp.transfer_id = some conn
  granted : ∀ {conn program upload resp}, net.programs conn = some program →
    program.task = .send upload → .fileAcceptResp resp ∈ net.inbox conn → resp.ok = true →
    ∃ id session, net.maker id = some conn ∧
      net.core.server.transfers.transfers id = some session ∧ session.file_handle ≠ none
  chosen : ∀ {id session}, net.core.server.transfers.transfers id = some session →
    session.file_handle ≠ none → id ∈ net.accepted

namespace Consistent

variable {net : Network} {conn : ConnId} {program : Program}

theorem fresh (fresh : net.Fresh) : net.Consistent := by
  obtain ⟨boot, same⟩ := fresh
  have programs : net.programs = fun _ => none := congrArg Network.programs same
  have maker : net.maker = fun _ => none := congrArg Network.maker same
  have inbox : net.inbox = fun _ => [] := congrArg Network.inbox same
  have outbox : net.outbox = fun _ => [] := congrArg Network.outbox same
  have transfers : net.core.server.transfers = {} := boot.fresh.2.1
  constructor
  · exact .booted boot
  · exact Observed.routing_booted boot
  · intros
    rw [programs]
  · intros
    rw [outbox]
  · intro id
    rw [maker, transfers]
    exact iff_of_true rfl rfl
  · intro id other conn made
    rw [maker] at made
    cases made
  · intro conn program upload running
    rw [programs] at running
    cases running
  · intro conn program running
    rw [programs] at running
    cases running
  · intro id conn session made
    rw [maker] at made
    cases made
  · intro conn resp received
    rw [inbox] at received
    cases received
  · intro conn program upload resp running
    rw [programs] at running
    cases running
  · intro id session found
    rw [transfers] at found
    cases found

/-! ### Steps of a program -/

theorem update (consistent : net.Consistent) {next : Program × List Command} {unread : List Response}
    (below : conn < net.core.server.next_conn) (kept : unread ⊆ net.inbox conn)
    (fit : ∀ upload, next.1.task = .send upload → upload.Fit)
    (granted : ∀ upload resp, next.1.task = .send upload → .fileAcceptResp resp ∈ unread →
      resp.ok = true → ∃ id session, net.maker id = some conn ∧
        net.core.server.transfers.transfers id = some session ∧ session.file_handle ≠ none)
    (early : (∀ id, net.maker id ≠ some conn) → Early next.1 (net.outbox conn ++ next.2))
    (posted : ∀ id session, net.maker id = some conn →
      net.core.server.transfers.transfers id = some session →
      ∃ upload, Posted net.core id session conn upload next.1 (net.outbox conn ++ next.2)) :
    (net.advance conn next unread).Consistent := by
  constructor
  · exact consistent.parts
  · exact consistent.routing
  · intro other late
    have ne : other ≠ conn := Nat.ne_of_gt (Nat.lt_of_lt_of_le below late)
    exact (Function.update_of_ne ne ..).trans (consistent.unused late)
  · intro other none
    by_cases same : other = conn
    · subst same
      simp [Network.advance] at none
    · simp only [Network.advance, Function.update_of_ne same] at none ⊢
      exact consistent.silent none
  · exact consistent.made
  · exact consistent.once
  · intro other program upload found sends
    by_cases same : other = conn
    · subst same
      simp only [Network.advance, Function.update_self] at found
      cases found
      exact fit upload sends
    · simp only [Network.advance, Function.update_of_ne same] at found
      exact consistent.fit found sends
  · intro other program found unmade
    by_cases same : other = conn
    · subst same
      simp only [Network.advance, Function.update_self] at found ⊢
      cases found
      exact early unmade
    · simp only [Network.advance, Function.update_of_ne same] at found ⊢
      exact consistent.early found unmade
  · intro id other session made found
    by_cases same : other = conn
    · subst same
      obtain ⟨upload, stands⟩ := posted id session made found
      refine ⟨next.1, upload, Function.update_self .., ?_⟩
      simpa only [Network.advance, Function.update_self] using stands
    · simp only [Network.advance, Function.update_of_ne same]
      exact consistent.posted made found
  · intro other resp told ok
    by_cases same : other = conn
    · subst same
      simp only [Network.advance, Function.update_self] at told
      exact consistent.told (kept told) ok
    · simp only [Network.advance, Function.update_of_ne same] at told
      exact consistent.told told ok
  · intro other program upload resp found sends told ok
    by_cases same : other = conn
    · subst same
      simp only [Network.advance, Function.update_self] at found told
      cases found
      exact granted upload resp sends told ok
    · simp only [Network.advance, Function.update_of_ne same] at found told
      exact consistent.granted found sends told ok
  · exact consistent.chosen

theorem advance (consistent : net.Consistent) (running : net.programs conn = some program)
    {next : Program × List Command} {unread : List Response} (task : next.1.task = program.task)
    (kept : unread ⊆ net.inbox conn)
    (early : (∀ id, net.maker id ≠ some conn) → Early program (net.outbox conn) →
      Early next.1 (net.outbox conn ++ next.2))
    (posted : ∀ id session upload, net.maker id = some conn →
      net.core.server.transfers.transfers id = some session →
      Posted net.core id session conn upload program (net.outbox conn) →
      Posted net.core id session conn upload next.1 (net.outbox conn ++ next.2)) :
    (net.advance conn next unread).Consistent := by
  refine consistent.update ?_ kept (fun upload sends => consistent.fit running (task.symm.trans sends))
    (fun upload resp sends told ok =>
      consistent.granted running (task.symm.trans sends) (kept told) ok)
    (fun unmade => early unmade (consistent.early running unmade)) fun id session made found => ?_
  · by_contra late
    rw [consistent.unused (Nat.le_of_not_lt late)] at running
    cases running
  · obtain ⟨program', upload, running', stands⟩ := consistent.posted made found
    cases running.symm.trans running'
    exact ⟨upload, posted id session upload made found stands⟩

theorem crash (consistent : net.Consistent) (running : net.programs conn = some program) :
    (net.advance conn (program.goto (.ended false), []) (net.inbox conn)).Consistent :=
  consistent.advance running rfl (List.Subset.refl _) (fun _ early => early.ended false)
    fun _ _ _ _ _ posted => posted.ended false

theorem write (consistent : net.Consistent) (running : net.programs conn = some program) :
    (net.advance conn program.write (net.inbox conn)).Consistent := by
  obtain ⟨phase, goes, -⟩ := program.write_goto
  refine consistent.advance running (by rw [goes]; rfl) (List.Subset.refl _)
    (fun _ early => early.write) fun _ _ _ _ _ posted => ?_
  exact posted.write (consistent.fit running posted.task).steady

theorem read (consistent : net.Consistent) (running : net.programs conn = some program)
    {response : Response} {unread : List Response} (received : net.inbox conn = response :: unread)
    (waits : program.waits = true) :
    (net.advance conn (program.read response) unread).Consistent := by
  have arrived : response ∈ net.inbox conn := received ▸ List.mem_cons_self ..
  refine consistent.advance running (Program.read_task waits) (received ▸ List.subset_cons_self ..)
    (fun unmade early => early.read waits fun resp same => ?_)
    fun id session upload made found posted => posted.read waits ?_ ?_
  · subst same
    exact Bool.eq_false_iff.mpr fun ok => unmade _ (consistent.told arrived ok)
  · rintro resp rfl ok
    exact consistent.once made (consistent.told arrived ok)
  · rintro resp rfl ok
    obtain ⟨other, entry, made', found', opened⟩ :=
      consistent.granted running posted.task arrived ok
    cases consistent.once made made'
    cases found.symm.trans found'
    exact opened

/-! ### Steps of the server -/

theorem idle (consistent : net.Consistent) {label : Label} {outbox : ConnId → List Command}
    (refused : net.core.asks label = none)
    (taken : ∀ conn,
      (outbox conn = net.outbox conn ∧ ∀ type payload env, label ≠ .receive conn type payload env) ∨
      ∃ command beyond env, net.outbox conn = command :: outbox conn ∧
        label = command.label conn beyond env) :
    { net.serve label with outbox }.Consistent := by
  obtain ⟨same, replies⟩ := Observed.step_same refused
  have maker : net.core.madeBy label net.maker = net.maker := Observed.madeBy_idle refused
  have received {other : ConnId} {response : Response} (grants : response.grants = true)
      (received : response ∈ deliver (net.core.events label) net.inbox other) :
      response ∈ net.inbox other := by
    refine (mem_deliver.mp received).resolve_right fun sent => ?_
    obtain ⟨_, _, same, refuses⟩ := replies _ sent
    cases same
    rw [refuses] at grants
    cases grants
  have accepted : (net.serve label).accepted = net.accepted := by
    simp only [Network.serve, refused]
  constructor
  · exact consistent.parts.same same
  · exact Observed.routing_step consistent.routing
  · exact fun late => consistent.unused ((Observed.next_conn_le ..).trans late)
  · intro other none
    have empty := consistent.silent none
    rcases taken other with ⟨kept, -⟩ | ⟨command, _, _, cons, -⟩
    · exact kept.trans empty
    · rw [empty] at cons
      cases cons
  · intro id
    change net.core.madeBy label net.maker id = none ↔
      (net.core.step label).server.transfers.transfers id = none
    rw [maker, same.transfers]
    exact consistent.made
  · intro id other conn
    change net.core.madeBy label net.maker id = _ → net.core.madeBy label net.maker other = _ → _
    rw [maker]
    exact consistent.once
  · exact consistent.fit
  · intro other program found unmade
    change ∀ id, net.core.madeBy label net.maker id ≠ _ at unmade
    rw [maker] at unmade
    have early := consistent.early found unmade
    rcases taken other with ⟨kept, -⟩ | ⟨command, _, _, cons, -⟩
    · dsimp only
      rwa [kept]
    · rw [cons] at early
      exact early.tail
  · intro id peer session made found
    change net.core.madeBy label net.maker id = _ at made
    change (net.core.step label).server.transfers.transfers id = _ at found
    rw [maker] at made
    rw [same.transfers] at found
    obtain ⟨program, upload, running, task, begun, knows, filename, file_size, stage⟩ :=
      consistent.posted made found
    refine ⟨program, upload, running, task, begun, knows, filename, file_size, ?_⟩
    rcases taken peer with ⟨kept, elsewhere⟩ | ⟨command, beyond, env, cons, rfl⟩
    · dsimp only
      rw [kept]
      exact stage.elsewhere (by rw [Network.serve, same.ledger]) (by rw [Network.serve, same.ledger])
        (Heard.before fun payload env => elsewhere _ payload env)
    · rw [cons] at stage
      exact stage.refused found consistent.parts.toStreamsPlaced refused
  · intro other resp told ok
    change net.core.madeBy label net.maker _ = _
    rw [maker]
    exact consistent.told (received ok told) ok
  · intro other program upload resp running task told ok
    obtain ⟨id, session, made, found, opened⟩ :=
      consistent.granted running task (received ok told) ok
    refine ⟨id, session, ?_, ?_, opened⟩
    · exact (congrFun maker id).trans made
    · change (net.core.step label).server.transfers.transfers id = _
      rwa [same.transfers]
  · intro id session found opened
    change (net.core.step label).server.transfers.transfers id = _ at found
    rw [same.transfers] at found
    change id ∈ (net.serve label).accepted
    rw [accepted]
    exact consistent.chosen found opened

theorem quiet (consistent : net.Consistent) {label : Label}
    (unheard : ∀ conn type payload env, label ≠ .receive conn type payload env) :
    (net.serve label).Consistent := by
  change ({ net.serve label with outbox := net.outbox } : Network).Consistent
  refine consistent.idle ?_ fun conn => .inl ⟨rfl, unheard conn⟩
  cases label with
  | receive conn type payload env => exact absurd rfl (unheard conn type payload env)
  | _ => rfl

theorem connect (consistent : net.Consistent) {task : Task} {username password : Bytes}
    (fit : ∀ upload, task = .send upload → upload.Fit) :
    (net.step (.connect task username password)).Consistent := by
  have served : (net.serve .connect).Consistent := consistent.quiet (by simp)
  have new : (net.serve .connect).programs net.core.server.next_conn = none :=
    consistent.unused (Nat.le_refl _)
  have unmade (id : UInt64) :
      (net.serve .connect).maker id ≠ some net.core.server.next_conn := by
    intro made
    cases found : (net.serve .connect).core.server.transfers.transfers id with
    | none =>
      rw [served.made.mpr found] at made
      cases made
    | some session =>
      obtain ⟨program, _, running, -⟩ := served.posted made found
      cases running.symm.trans new
  refine served.update (Nat.lt_succ_self _) (List.nil_subset _) fit nofun (fun _ => ?_)
    fun id session made => absurd made (unmade id)
  rw [served.silent new]
  exact .connected ⟨task, username, password, .login⟩ rfl

/-- Every transfer has been offered by a `do_send`. -/
theorem sender (consistent : net.Consistent) {id : UInt64} {session : TransferSession}
    (found : net.core.server.transfers.transfers id = some session) :
    ∃ peer program upload, net.maker id = some peer ∧ net.programs peer = some program ∧
      Posted net.core id session peer upload program (net.outbox peer) ∧ upload.Fit := by
  cases made : net.maker id with
  | none =>
    rw [consistent.made.mp made] at found
    cases found
  | some peer =>
    obtain ⟨program, upload, running, posted⟩ := consistent.posted made found
    exact ⟨peer, program, upload, rfl, running, posted, consistent.fit running posted.task⟩

/-- The files of two transfers never meet, since their names are plain. -/
theorem apart (consistent : net.Consistent) {id : UInt64} {session : TransferSession}
    (found : net.core.server.transfers.transfers id = some session) :
    net.core.server.tempAt id session ∉ net.core.otherParts id ∧
      net.core.server.finalAt id session ∉ net.core.otherParts id := by
  obtain ⟨_, _, upload, -, -, posted, fit⟩ := consistent.sender found
  have apart {path : Path} (member : path ∈ net.core.otherParts id) :
      net.core.server.tempAt id session ≠ path ∧ net.core.server.finalAt id session ≠ path := by
    obtain ⟨other, -, entry, found', ne, -, rfl⟩ := Observed.mem_otherParts.mp member
    obtain ⟨_, _, upload', -, -, posted', fit'⟩ := consistent.sender found'
    unfold Server.tempAt Server.finalAt
    rw [posted.filename, posted'.filename]
    exact fit.plain.paths_apart fit'.plain ne
  exact ⟨fun member => (apart member).1 rfl, fun member => (apart member).2 rfl⟩

end Consistent

end Network

end FileShareX.Client

import FileShareX.Client.Delivery
import FileShareX.Client.Sockets
import FileShareX.Net.Footprint
import FileShareX.Net.Uploads

/-!
# What the outcome of a program means

A `do_send` returns when it has read a positive FILE_RESULT.  Its file is on the server then
as it was read, and stays there whatever the other clients do.  This is shown of whole
messages first, and holds of the bytes on the sockets because these refine them.
-/

namespace FileShareX.Client

open Wire Posix Protocol Storage Transfer Net Machine

/-- The file of the program on this connection is on the server. -/
structure Arrived (core : Observed) (maker : UInt64 → Option ConnId) (accepted : List UInt64)
    (conn : ConnId) (upload : Upload) (id : UInt64) (session : TransferSession) : Prop where
  made : maker id = some conn
  found : core.server.transfers.transfers id = some session
  completed : session.state = .COMPLETED
  whole : session.bytes_received = session.file_size
  accepted : id ∈ accepted
  content : core.server.os.disk.content (core.server.finalAt id session) = some upload.content

def Stored (core : Observed) (maker : UInt64 → Option ConnId) (accepted : List UInt64)
    (conn : ConnId) (upload : Upload) : Prop :=
  ∃ id session, Arrived core maker accepted conn upload id session

/-- A `do_send` that has read a positive FILE_RESULT, or is going to, is right about it. -/
structure Told (stored : Prop) (filename : Bytes) (phase : Phase) (inbox : List Response) :
    Prop where
  entry : IsEntry filename
  sends : phase ≠ .recv
  answered : ∀ {id path}, .fileResult ⟨id, true, path⟩ ∈ inbox → stored
  returned : phase = .ended true → stored

/-- Everybody agrees, and no program is told of a file that is not there. -/
structure Network.Reports (net : Network) : Prop extends Consistent net where
  results : ∀ {conn program upload}, net.programs conn = some program → program.task = .send upload →
    Told (Stored net.core net.maker net.accepted conn upload) upload.filename program.phase
      (net.inbox conn)

theorem Arrived.quiet {core : Observed} {maker : UInt64 → Option ConnId} {accepted : List UInt64}
    {conn : ConnId} {upload : Upload} {id : UInt64} {session : TransferSession} {label : Label}
    (arrived : Arrived core maker accepted conn upload id session) (idle : core.asks label = none) :
    Arrived (core.step label) (core.madeBy label maker) accepted conn upload id session := by
  have same := (Observed.step_same idle).1
  refine ⟨?_, ?_, arrived.completed, arrived.whole, arrived.accepted, ?_⟩
  · rw [Observed.madeBy_idle idle]
    exact arrived.made
  · rw [same.transfers]
    exact arrived.found
  · rw [(core.step_paths label id session).2, same.os]
    exact arrived.content

namespace Program

variable {program : Program} {response : Response}

theorem read_success (ended : (program.read response).1.phase = .ended true)
    (goes : program.phase ≠ .ended true) : program.phase = .recv ∨
      ∃ resp, response = .fileResult resp ∧ resp.ok = true := by
  cases phase : program.phase with
  | login =>
    rcases @read_login program response phase with refused | begins
    · rw [refused] at ended
      cases ended
    · obtain ⟨next, offers | accepts, same⟩ := program.begin_task_eq
      · rw [begins, same, offers] at ended
        cases ended
      · rw [begins, same, accepts] at ended
        cases ended
  | offer =>
    rcases @read_offer program response phase with refused | ⟨_, -, -, granted⟩
    · rw [refused] at ended
      cases ended
    · rw [granted] at ended
      cases ended
  | accept =>
    rcases @read_accept program response _ phase with refused | ⟨_, -, -, granted⟩
    · rw [refused] at ended
      cases ended
    · rw [granted] at ended
      cases ended
  | result =>
    right
    unfold read at ended
    rw [phase] at ended
    dsimp only at ended
    split at ended
    · cases ended
    · next good =>
      simp only [not_or, not_not] at good
      obtain ⟨type, -, status⟩ := good
      cases response with
      | fileResult resp =>
        refine ⟨resp, rfl, ?_⟩
        by_contra refused
        simp [Response.payload, FileResult.serialize, refused] at status
      | _ => simp [Response.type, MsgType.code] at type
  | recv => exact .inl rfl
  | ended success =>
    have stays : program.read response = (program, []) := by simp [read, phase]
    rw [stays] at ended
    exact absurd ended goes
  | _ =>
    have stays : program.read response = (program, []) := by simp [read, phase]
    rw [stays, phase] at ended
    cases ended

theorem read_sends {upload : Upload} (sends : program.task = .send upload)
    (waits : program.waits = true) : (program.read response).1.phase ≠ .recv := by
  rcases read_cases waits with
    ⟨_, reads⟩ | ⟨-, reads⟩ | ⟨-, _, -, -, reads⟩ | ⟨_, -, _, -, -, reads⟩
  · rw [reads]
    exact Phase.noConfusion
  · rw [reads, begin_task, sends]
    exact Phase.noConfusion
  · rw [reads]
    exact Phase.noConfusion
  · rw [reads]
    exact Phase.noConfusion

/-- A write leads to the loop, behind it, or to the place where the result is read. -/
theorem write_phase (program : Program) : program.write.1.phase = program.phase ∨
    program.write.1.phase ≠ .recv ∧ ∀ success, program.write.1.phase ≠ .ended success := by
  unfold write
  split
  · dsimp only
    repeat' split
    all_goals exact .inr ⟨Phase.noConfusion, fun _ => Phase.noConfusion⟩
  · exact .inr ⟨Phase.noConfusion, fun _ => Phase.noConfusion⟩
  · exact .inl rfl

end Program

namespace Told

variable {stored stored' : Prop} {filename : Bytes} {phase : Phase} {inbox more : List Response}
  {program : Program} {response : Response}

theorem keep (told : Told stored filename phase inbox) (stays : stored → stored')
    (same : ∀ {id path}, .fileResult ⟨id, true, path⟩ ∈ more →
      .fileResult ⟨id, true, path⟩ ∈ inbox ∨ stored') :
    Told stored' filename phase more where
  entry := told.entry
  sends := told.sends
  answered member := (same member).elim (fun old => stays (told.answered old)) id
  returned ended := stays (told.returned ended)

theorem read (told : Told stored filename program.phase (response :: more)) {upload : Upload}
    (sends : program.task = .send upload) (waits : program.waits = true) :
    Told stored filename (program.read response).1.phase more where
  entry := told.entry
  sends := Program.read_sends sends waits
  answered member := told.answered (List.mem_cons_of_mem _ member)
  returned ended := by
    by_cases before : program.phase = .ended true
    · exact told.returned before
    · rcases Program.read_success ended before with receives | ⟨⟨id, ok, path⟩, rfl, granted⟩
      · exact absurd receives told.sends
      · cases granted
        exact told.answered (List.mem_cons_self ..)

theorem write (told : Told stored filename program.phase inbox) :
    Told stored filename program.write.1.phase inbox := by
  refine ⟨told.entry, ?_, told.answered, fun ended => ?_⟩
  · rcases program.write_phase with same | ⟨other, -⟩
    · rw [same]
      exact told.sends
    · exact other
  · rcases program.write_phase with same | ⟨-, goes⟩
    · exact told.returned (same ▸ ended)
    · exact absurd ended (goes true)

end Told

namespace Network

variable {net : Network} {conn peer : ConnId} {command : Command} {more : List Command}
  {beyond : Nat → UInt8} {env : Env} {upload : Upload} {id : UInt64} {session : TransferSession}

theorem Reports.placed (reports : net.Reports) : net.core.server.Placed := by
  intro id session found
  obtain ⟨conn, program, upload, -, running, posted, fit⟩ := reports.sender found
  have entry := (reports.results running posted.task).entry
  rw [posted.filename]
  refine ⟨fit.plain.2, ?_, ?_⟩
  · rw [leading_of_not_mem fit.plain.1]
    rfl
  · rw [lastName_of_not_mem fit.plain.1]
    exact entry

theorem Reports.keepsApart (reports : net.Reports) (cons : net.outbox conn = command :: more)
    (saves : ∀ request ∈ net.core.asks (command.label conn beyond env), net.Saves env.io request) :
    net.core.KeepsApart (command.label conn beyond env) := by
  intro request asked
  have apart {id : UInt64} {session : TransferSession}
      (found : net.core.server.transfers.transfers id = some session) {path : Path}
      (mine : path ∈ [net.core.server.tempAt id session, net.core.server.finalAt id session]) :
      path ∉ net.core.otherPaths id := Observed.Placed.apart reports.placed found mine
  cases request with
  | offer => exact saves _ asked
  | accept req session => exact fun _ => apart (Observed.asks_found asked rfl rfl) (by simp)
  | chunk chunk session => exact apart (Observed.asks_found asked rfl rfl) (by simp)
  | done done session =>
    have found := Observed.asks_found asked rfl rfl
    obtain ⟨program, upload, -, -, posted, rfl⟩ := reports.done_sent cons asked found
    obtain ⟨-, live, -⟩ := posted.stage.last_done found reports.parts.toStreamsPlaced
    exact .inr ⟨live, apart found (by simp), apart found (by simp)⟩

/-- Nothing more is asked of a transfer whose file has arrived. -/
theorem Reports.unasked (reports : net.Reports) (cons : net.outbox conn = command :: more)
    (first : ∀ request ∈ net.core.asks (command.label conn beyond env), net.FirstAccept request)
    (arrived : Arrived net.core net.maker net.accepted peer upload id session) :
    ∀ request ∈ net.core.asks (command.label conn beyond env), request.about ≠ some id := by
  intro request asked about
  have done : ¬ Running session := by simp [Running, arrived.completed]
  cases request with
  | offer => cases about
  | accept req entry =>
    cases about
    exact first _ asked arrived.accepted
  | chunk chunk entry =>
    cases about
    cases (Observed.asks_found asked rfl rfl).symm.trans arrived.found
    obtain ⟨self, result, -, effect, -, -⟩ := Command.effect asked
    have takes : Running session := by
      cases effect <;> assumption
    exact done takes
  | done message entry =>
    cases about
    have found := Observed.asks_found asked rfl rfl
    cases found.symm.trans arrived.found
    obtain ⟨program, upload, -, -, posted, rfl⟩ := reports.done_sent cons asked found
    obtain ⟨-, -, -, whole⟩ := posted.stage.last_done found reports.parts.toStreamsPlaced
    rcases whole (.of_asks asked (.inr ⟨_, rfl⟩)) with failed | ⟨running, -⟩
    · rw [arrived.completed] at failed
      cases failed
    · exact done running

theorem Reports.stays (reports : net.Reports) (cons : net.outbox conn = command :: more)
    (first : ∀ request ∈ net.core.asks (command.label conn beyond env), net.FirstAccept request)
    (saves : ∀ request ∈ net.core.asks (command.label conn beyond env), net.Saves env.io request)
    (arrived : Arrived net.core net.maker net.accepted peer upload id session) :
    Arrived (net.serve (command.label conn beyond env)).core
      (net.serve (command.label conn beyond env)).maker
      (net.serve (command.label conn beyond env)).accepted peer upload id session := by
  have spared := Observed.not_affects reports.parts.toStreamsPlaced (reports.keepsApart cons saves)
    arrived.found (reports.unasked cons first arrived)
  simp only [Observed.Affects, not_or, not_exists, not_and, ne_eq, Decidable.not_not] at spared
  obtain ⟨still, -, -, content⟩ := spared
  refine ⟨?_, still, arrived.completed, arrived.whole,
    Consistent.accepted_serve arrived.accepted, ?_⟩
  · change net.core.madeBy _ net.maker id = _
    by_cases offers : ∃ req receiver,
        net.core.asks (command.label conn beyond env) = some (.offer req receiver)
    · obtain ⟨req, receiver, asked⟩ := offers
      have differs : id ≠ net.core.server.transfers.next_transfer_id := by
        rintro rfl
        have unused : net.core.server.transfers.transfers
            net.core.server.transfers.next_transfer_id = none := saves _ asked
        cases unused.symm.trans arrived.found
      unfold Command.label at asked ⊢
      rw [Observed.madeBy_offer asked, Function.update_of_ne differs]
      exact arrived.made
    · rw [Observed.madeBy_noOffer fun req receiver asked => offers ⟨req, receiver, asked⟩]
      exact arrived.made
  · change (net.core.step _).server.os.disk.content ((net.core.step _).server.finalAt id session) = _
    rw [(net.core.step_paths _ id session).2, content _ (by simp)]
    exact arrived.content

/-- A positive result is for a file that has arrived. -/
theorem Reports.delivered (reports : net.Reports) (cons : net.outbox conn = command :: more)
    (saves : ∀ request ∈ net.core.asks (command.label conn beyond env), net.Saves env.io request)
    {path : Bytes} (sent : .sent peer (.fileResult ⟨id, true, path⟩) ∈
      net.core.events (command.label conn beyond env)) {program : Program}
    (running : net.programs peer = some program) (sends : program.task = .send upload) :
    Stored (net.serve (command.label conn beyond env)).core
      (net.serve (command.label conn beyond env)).maker
      (net.serve (command.label conn beyond env)).accepted peer upload := by
  obtain ⟨program', upload', session, made, running', sends', found, completed, whole, content⟩ :=
    reports.delivers cons saves sent
  cases running.symm.trans running'
  cases sends.symm.trans sends'
  have completes : net.core.Completes (command.label conn beyond env) id := .inl ⟨peer, path, sent⟩
  obtain ⟨done, before, os, asked, rfl, held, -, -⟩ := completes.finalized
  obtain ⟨_, _, -, -, posted, rfl⟩ := reports.done_sent cons asked held
  have accepted := reports.chosen held posted.stage.head.1
  refine ⟨_, session, ?_, found, completed, whole, Consistent.accepted_serve accepted, ?_⟩
  · change net.core.madeBy _ net.maker _ = _
    rw [Observed.madeBy_noOffer fun req receiver offers => by cases asked.symm.trans offers]
    exact made
  · change (net.core.step _).server.os.disk.content ((net.core.step _).server.finalAt _ session) = _
    rw [(net.core.step_paths _ _ session).2]
    exact content

/-! ### Steps -/

theorem Reports.fresh (fresh : net.Fresh) : net.Reports where
  toConsistent := .fresh fresh
  results running := by
    rw [show net.programs = fun _ => none from congrArg Network.programs fresh.2] at running
    cases running

theorem Reports.idle (reports : net.Reports) {label : Label} {outbox : ConnId → List Command}
    (refused : net.core.asks label = none)
    (consistent : ({ net.serve label with outbox } : Network).Consistent) :
    ({ net.serve label with outbox } : Network).Reports where
  toConsistent := consistent
  results {peer program upload} running sends := by
    refine (reports.results running sends).keep ?_ fun {id path} member => ?_
    · rintro ⟨id, session, arrived⟩
      have accepted : (net.serve label).accepted = net.accepted := by
        simp only [Network.serve, refused]
      refine ⟨id, session, ?_⟩
      dsimp only
      rw [accepted]
      exact arrived.quiet refused
    · refine (mem_deliver.mp member).imp_right fun sent => ?_
      obtain ⟨_, _, same, refuses⟩ := (Observed.step_same refused).2 _ sent
      cases same
      cases refuses

theorem Reports.quiet (reports : net.Reports) {label : Label}
    (unheard : ∀ conn type payload env, label ≠ .receive conn type payload env) :
    (net.serve label).Reports := by
  change ({ net.serve label with outbox := net.outbox } : Network).Reports
  refine reports.idle ?_ (reports.toConsistent.quiet unheard)
  cases label with
  | receive conn type payload env => exact absurd rfl (unheard conn type payload env)
  | _ => rfl

theorem Reports.advance (reports : net.Reports) {next : Program × List Command}
    {unread : List Response} (consistent : (net.advance conn next unread).Consistent)
    (own : ∀ upload, next.1.task = .send upload →
      Told (Stored net.core net.maker net.accepted conn upload) upload.filename next.1.phase unread) :
    (net.advance conn next unread).Reports where
  toConsistent := consistent
  results {peer program upload} running sends := by
    by_cases same : peer = conn
    · subst same
      simp only [Network.advance, Function.update_self, Option.some.injEq] at running ⊢
      subst running
      exact own upload sends
    · simp only [Network.advance, Function.update_of_ne same] at running ⊢
      exact reports.results running sends

theorem Reports.handle (reports : net.Reports) (cons : net.outbox conn = command :: more)
    (first : ∀ request ∈ net.core.asks (command.label conn beyond env), net.FirstAccept request)
    (saves : ∀ request ∈ net.core.asks (command.label conn beyond env), net.Saves env.io request) :
    (net.handled conn (command.label conn beyond env) more).Reports where
  toConsistent := reports.toConsistent.handle cons first saves
  results {peer program upload} running sends := by
    refine (reports.results running sends).keep ?_ fun {id path} member => ?_
    · rintro ⟨id, session, arrived⟩
      exact ⟨id, session, reports.stays cons first saves arrived⟩
    · exact (mem_deliver.mp member).imp_right fun sent =>
        reports.delivered cons saves sent running sends

/-- Uploads as they should be, no second accept, and requests that can be served. -/
def Fair (net : Network) (move : Move) : Prop :=
  (∀ upload ∈ move.upload?, upload.Fit ∧ IsEntry upload.filename) ∧
    ∀ label ∈ net.label? move, ∀ request ∈ net.core.asks label,
      net.FirstAccept request ∧ net.Saves label.env.io request

theorem Fair.honest {move : Move} (fair : net.Fair move) : net.Honest move :=
  ⟨fun upload member => ⟨(fair.1 upload member).1.steady, (fair.1 upload member).1.plain⟩,
    fun label taken request asked => (fair.2 label taken request asked).1⟩

theorem Fair.sound {move : Move} (fair : net.Fair move) : net.Sound move :=
  ⟨fun upload member =>
      ⟨(fair.1 upload member).1.receiver_short, (fair.1 upload member).1.filename_short⟩,
    fun label taken request asked => (fair.2 label taken request asked).2⟩

theorem Reports.connect (reports : net.Reports) {task : Task} {username password : Bytes}
    (fair : net.Fair (.connect task username password)) :
    (net.step (.connect task username password)).Reports := by
  have consistent := reports.toConsistent.step fair.honest fair.sound
  have served : (net.serve .connect).Reports := reports.quiet (by simp)
  refine Reports.advance served consistent fun upload sends => ?_
  have sent : task = .send upload := sends
  subst sent
  exact ⟨(fair.1 upload rfl).2, Phase.noConfusion, fun member => absurd member List.not_mem_nil,
    Phase.noConfusion⟩

theorem Reports.step (reports : net.Reports) {move : Move} (fair : net.Fair move) :
    (net.step move).Reports := by
  have consistent := reports.toConsistent.step fair.honest fair.sound
  cases move with
  | connect task username password => exact reports.connect fair
  | read conn =>
    unfold Network.step at consistent ⊢
    dsimp only at consistent ⊢
    split
    · next program response unread running received =>
      simp only [running, received] at consistent
      split
      · next waits =>
        rw [if_pos waits] at consistent
        refine reports.advance consistent fun upload sends => ?_
        rw [Program.read_task waits] at sends
        have told := reports.results running sends
        rw [received] at told
        exact told.read sends waits
      · exact reports
    · exact reports
  | write conn =>
    unfold Network.step at consistent ⊢
    dsimp only at consistent ⊢
    split
    · next program running =>
      simp only [running] at consistent
      refine reports.advance consistent fun upload sends => ?_
      have same : program.task = .send upload := by
        obtain ⟨phase, goes, -⟩ := program.write_goto
        rw [goes] at sends
        exact sends
      exact (reports.results running same).write
    · exact reports
  | crash conn =>
    unfold Network.step at consistent ⊢
    dsimp only at consistent ⊢
    split
    · next program running =>
      simp only [running] at consistent
      refine reports.advance consistent fun upload sends => ?_
      have told := reports.results running sends
      exact ⟨told.entry, Phase.noConfusion, told.answered, fun same => by cases same⟩
    · exact reports
  | handle conn beyond env =>
    cases cons : net.outbox conn with
    | nil =>
      have same : net.step (.handle conn beyond env) = net := by simp [Network.step, cons]
      rwa [same]
    | cons command more =>
      have here : command.label conn beyond env ∈ net.label? (.handle conn beyond env) := by
        simp [label?, cons]
      have same : net.step (.handle conn beyond env) =
          net.handled conn (command.label conn beyond env) more := by
        simp [Network.step, cons, handled]
      rw [same]
      exact reports.handle cons (fun request asked => (fair.2 _ here request asked).1)
        fun request asked => (fair.2 _ here request asked).2
  | disconnect conn reason => exact reports.quiet (by simp)
  | release conn => exact reports.quiet (by simp)

end Network

/-! ### Over sockets -/

def SocketMove.upload? : SocketMove → Option Upload
  | .connect (.send upload) _ _ => some upload
  | _ => none

namespace Sockets

instance : DecidablePred Upload.Fit := fun upload =>
  decidable_of_iff (upload.Steady ∧ FileStore.Plain upload.filename ∧
    upload.receiver_username.length < 2 ^ 16 ∧ upload.filename.length < 2 ^ 16)
    ⟨fun fits => ⟨fits.1, fits.2.1, fits.2.2.1, fits.2.2.2⟩,
      fun fit => ⟨fit.steady, fit.plain, fit.receiver_short, fit.filename_short⟩⟩

def ends (net : Sockets) : Network where
  core := net.wired.core
  programs := net.programs
  maker := net.maker
  accepted := net.accepted

/-- As in `Network`, and everything fits its frames. -/
def Fair (net : Sockets) (move : SocketMove) : Prop :=
  net.Fits move ∧ (∀ upload ∈ move.upload?, upload.Fit ∧ IsEntry upload.filename) ∧
    ∀ label ∈ net.label? move, ∀ request ∈ net.wired.core.asks label,
      net.ends.FirstAccept request ∧ net.ends.Saves label.env.io request

instance (net : Sockets) (move : SocketMove) : Decidable (net.Fair move) :=
  inferInstanceAs (Decidable (_ ∧ _ ∧ _))

end Sockets

/-- The move of whole messages is as fair as the one of bytes. -/
theorem Refines.fair {net : Sockets} {abs : Network} (refines : Refines net abs) {move : SocketMove}
    (fair : net.Fair move) {answer : Move}
    (labels : ∀ label ∈ abs.label? answer, label ∈ net.label? move)
    (connects : ∀ task username password, answer = .connect task username password →
      move = .connect task username password) : abs.Fair answer := by
  refine ⟨fun upload member => fair.2.1 upload ?_, fun label taken request asked => ?_⟩
  · cases answer with
    | connect task username password =>
      rw [connects task username password rfl]
      cases task with
      | send _ => exact member
      | recv _ => cases member
    | _ => cases member
  · rw [refines.core] at asked
    obtain ⟨first, saves⟩ := fair.2.2 label (labels label taken) request asked
    have same : abs.FirstAccept request = net.ends.FirstAccept request := by
      unfold Network.FirstAccept
      rw [refines.accepted]
      rfl
    have serves : abs.Saves label.env.io request = net.ends.Saves label.env.io request := by
      unfold Network.Saves
      rw [refines.core]
      rfl
    exact ⟨same ▸ first, serves ▸ saves⟩

namespace Sockets

/-- Where a `do_send` has returned its file is on the server as it was read, whatever arrived in
which pieces, and whatever came after. -/
theorem do_send_returned {core : Observed} (boot : core.Booted) {moves : List SocketMove}
    (along : Along step Fair { wired := ⟨core, fun _ => {}⟩ } moves) {conn : ConnId}
    {program : Program} {upload : Upload}
    (running : (run step { wired := ⟨core, fun _ => {}⟩ } moves).programs conn = some program)
    (sends : program.task = .send upload) (returned : program.phase = .ended true) :
    Stored (run step { wired := ⟨core, fun _ => {}⟩ } moves).wired.core
      (run step { wired := ⟨core, fun _ => {}⟩ } moves).maker
      (run step { wired := ⟨core, fun _ => {}⟩ } moves).accepted conn upload := by
  obtain ⟨abstract, fair, refines⟩ := @Along.answered _ _ _ _ step Network.step Fair Network.Fair
    Refines _ _ along _ (.booted boot) fun net move abs refines fair => by
      obtain ⟨op, ends, answers⟩ := refines.step fair.1
      refine ⟨op.toList, ?_, ends⟩
      cases op with
      | none => trivial
      | some answer =>
        obtain ⟨labels, connects⟩ := answers answer rfl
        exact ⟨refines.fair fair labels connects, trivial⟩
  have reports : (run Network.step { core } abstract).Reports :=
    fair.invariant (.fresh ⟨boot, rfl⟩) fun _ _ reports fair => reports.step fair
  rw [← refines.programs] at running
  have stored := (reports.results running sends).returned returned
  rwa [refines.core, refines.maker, refines.accepted] at stored

deriving instance DecidableEq for Upload, Task, Program

/-- The two bytes are on the server when alice's program has returned. -/
theorem do_send_returned_alice :
    Stored (run step { wired := ⟨Sample.start, fun _ => {}⟩ } errand).wired.core
      (run step { wired := ⟨Sample.start, fun _ => {}⟩ } errand).maker
      (run step { wired := ⟨Sample.start, fun _ => {}⟩ } errand).accepted 0
      ⟨ascii "bob", ascii "a", 2, [1, 2]⟩ := by
  have returned : (run step { wired := ⟨Sample.start, fun _ => {}⟩ } errand).programs 0 =
      some ⟨.send ⟨ascii "bob", ascii "a", 2, [1, 2]⟩, ascii "alice", [120], .ended true⟩ := by
    decide +kernel
  exact do_send_returned Sample.booted (by decide +kernel) returned rfl rfl

end Sockets

end FileShareX.Client

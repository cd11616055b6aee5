import FileShareX.Client.Agreement
import FileShareX.Client.AuthResponse
import FileShareX.Foundation.Simulation
import FileShareX.Net.Dialogue
import FileShareX.Net.Online

/-!
# Clients and server over sockets

The same programs and the same server as in `Network`, but with the bytes between them:
`make_frame`, the read loop, the write queue, `read_header` and `read_payload`.  Either
side may have got any part of what the other has written.
-/

namespace FileShareX.Client

open Wire Protocol Net Machine

/-! ### The programs on their sockets -/

def make_frame (type : UInt8) (payload : Bytes) : Bytes :=
  let h : MessageHeaderWire :=
    { magic_be := htonl MAGIC, version := VERSION, type
      len_be := htonl (UInt32.ofNat payload.length), reserved_be := htons 0 }
  h.toBytes ++ payload

/-- `none` while the read blocks, an error where it throws. -/
def read_header (stream : Bytes) : Option (Except String MessageHeaderWire × Bytes) :=
  match async_read HEADER_SIZE stream with
  | none => none
  | some (bytes, rest) =>
    let h := MessageHeaderWire.ofBytes bytes
    if ntohl h.magic_be ≠ MAGIC then some (.error "bad magic", rest)
    else if h.version ≠ VERSION then some (.error "bad version", rest)
    else some (.ok h, rest)

def read_payload (stream : Bytes) (len : UInt32) : Option (Bytes × Bytes) :=
  if len > 0 then async_read len.toNat stream else some ([], stream)

def Phase.expects : Phase → Option UInt8
  | .login => some 13
  | .offer => some 31
  | .accept _ => some 33
  | .result => some 36
  | .recv => some 33
  | _ => none

namespace Program

def hear (program : Program) (payload : Bytes) : Program × List Command :=
  match program.phase with
  | .login =>
    if payload.length < 1 ∨ payload.getD 0 0 = 0 then (program.goto (.ended false), [])
    else program.begin_task
  | .offer =>
    if payload.length < 9 ∨ payload.getD 0 0 ≠ 0 then (program.goto (.ended false), [])
    else (program.goto (.accept (be64toh ((payload.drop 1).take 8))), [])
  | .accept transfer_id =>
    if payload.length < 1 ∨ payload.getD 0 0 ≠ 0 then (program.goto (.ended false), [])
    else (program.goto (.chunks transfer_id 0 0), [])
  | .result =>
    if payload.length < 9 ∨ payload.getD 8 0 ≠ 0 then (program.goto (.ended false), [])
    else (program.goto (.ended true), [])
  | .recv =>
    if payload.length < 1 ∨ payload.getD 0 0 ≠ 0 then (program.goto (.ended false), [])
    else (program.goto (.ended true), [])
  | _ => (program, [])

/-- One response off the stream, with what is left of it.  A program that throws or finds another
type has ended; it does not read the payload then. -/
def listen (program : Program) (stream : Bytes) : Option ((Program × List Command) × Bytes) :=
  match program.phase.expects with
  | none => none
  | some type =>
    match read_header stream with
    | none => none
    | some (.error _, rest) => some ((program.goto (.ended false), []), rest)
    | some (.ok h, rest) =>
      if h.type ≠ type then some ((program.goto (.ended false), []), rest)
      else match read_payload rest (ntohl h.len_be) with
      | none => none
      | some (payload, rest) => some (program.hear payload, rest)

end Program

/-! ### The server's read loop, one turn at a time -/

inductive ReadTurn where
  | waiting
  | exit (reason : Exit)
  | message (type : UInt8) (payload rest : Bytes)

def read_turn (stream : Bytes) : ReadTurn :=
  match async_read HEADER_SIZE stream with
  | none => .waiting
  | some (bytes, rest) =>
    match do_read_header (some bytes) with
    | .exit reason => .exit reason
    | .body header len =>
      if len = 0 then .message header.type [] rest
      else match async_read len rest with
      | none => .waiting
      | some (body, rest) =>
        match do_read_body len (some body) with
        | .exit reason => .exit reason
        | .dispatch body => .message header.type body rest

/-! ### The system -/

structure Sockets where
  wired : Wired
  programs : ConnId → Option Program := fun _ => none
  /-- Written by the program, not taken by the read loop yet. -/
  upstream : ConnId → Bytes := fun _ => []
  /-- How much of what was handed over the program has read. -/
  consumed : ConnId → Nat := fun _ => 0
  /-- As in `Network`. -/
  maker : UInt64 → Option ConnId := fun _ => none
  accepted : List UInt64 := []

/-- `arrived` bytes are there when somebody reads. -/
inductive SocketMove where
  | connect (task : Task) (username password : Bytes)
  | read (conn : ConnId) (arrived : Nat)
  | write (conn : ConnId)
  | crash (conn : ConnId)
  | receive (conn : ConnId) (arrived : Nat) (beyond : Nat → UInt8) (env : Env)
  | written (conn : ConnId) (write : Nat) (ok : Bool)
  | disconnect (conn : ConnId) (reason : Exit)
  | release (conn : ConnId)

def SocketMove.starts? : SocketMove → Option Program
  | .connect task username password => some ⟨task, username, password, .login⟩
  | _ => none

def commandBytes (commands : List Command) : Bytes :=
  (commands.map fun command => make_frame command.frame.1 command.frame.2).flatten

namespace Sockets

def serve (net : Sockets) (label : Label) : Sockets :=
  { net with
    wired := net.wired.step (.serve label)
    maker := net.wired.core.madeBy label net.maker
    accepted := match net.wired.core.asks label with
      | some (.accept req _) => req.transfer_id :: net.accepted
      | _ => net.accepted }

/-- What a program becomes, what it has written and how far it has read. -/
def advance (net : Sockets) (conn : ConnId) (next : Program × List Command) (consumed : Nat) :
    Sockets :=
  { net with
    programs := Function.update net.programs conn (some next.1)
    upstream := Function.update net.upstream conn (net.upstream conn ++ commandBytes next.2)
    consumed := Function.update net.consumed conn consumed }

def received (net : Sockets) (conn : ConnId) (arrived : Nat) : Bytes :=
  ((net.wired.queues conn).handed.flatten.take arrived).drop (net.consumed conn)

/-- The turn of the read loop, which is over once the connection is not read any more. -/
def turn (net : Sockets) (conn : ConnId) (arrived : Nat) : ReadTurn :=
  if net.wired.core.server.reading conn then read_turn ((net.upstream conn).take arrived)
  else .waiting

def step (net : Sockets) : SocketMove → Sockets
  | .connect task username password =>
    (net.serve .connect).advance net.wired.core.server.next_conn
      (⟨task, username, password, .login⟩, [.login username password]) 0
  | .read conn arrived =>
    match net.programs conn with
    | none => net
    | some program =>
      match program.listen (net.received conn arrived) with
      | none => net
      | some (next, rest) =>
        net.advance conn next (net.consumed conn + ((net.received conn arrived).length - rest.length))
  | .write conn =>
    match net.programs conn with
    | none => net
    | some program => net.advance conn program.write (net.consumed conn)
  | .crash conn =>
    match net.programs conn with
    | none => net
    | some program => net.advance conn (program.goto (.ended false), []) (net.consumed conn)
  | .receive conn arrived beyond env =>
    match net.turn conn arrived with
    | .waiting => net
    | .exit reason => net.serve (.disconnect conn reason)
    | .message type payload rest =>
      { net.serve (.receive conn type ⟨payload, beyond⟩ env) with
        upstream := Function.update net.upstream conn
          ((net.upstream conn).drop (((net.upstream conn).take arrived).length - rest.length)) }
  | .written conn write ok => { net with wired := net.wired.step (.written conn write ok) }
  | .disconnect conn reason => net.serve (.disconnect conn reason)
  | .release conn => net.serve (.release conn)

def label? (net : Sockets) : SocketMove → Option Label
  | .connect .. => some .connect
  | .receive conn arrived beyond env =>
    match net.turn conn arrived with
    | .waiting => none
    | .exit reason => some (.disconnect conn reason)
    | .message type payload _ => some (.receive conn type ⟨payload, beyond⟩ env)
  | .disconnect conn reason => if reason = .write then none else some (.disconnect conn reason)
  | .written conn write ok =>
    if write < (net.wired.queues conn).outstanding.length ∧ ok = false then
      some (.disconnect conn .write)
    else none
  | .release conn => some (.release conn)
  | _ => none

end Sockets

/-! ### A part of a frame -/

theorem async_read_part {n : Nat} {front rest part : Bytes} (width : front.length = n)
    (inside : part <+: front ++ rest) : async_read n part = none ∨
      ∃ more, part = front ++ more ∧ more <+: rest ∧ async_read n part = some (front, more) := by
  by_cases short : part.length < n
  · exact .inl (if_neg (by omega))
  · obtain ⟨more, rfl⟩ := List.prefix_of_prefix_length_le (List.prefix_append front rest) inside (by omega)
    exact .inr ⟨more, rfl, (List.prefix_append_right_inj front).mp inside, async_read_append width more⟩

theorem read_payload_eq (stream : Bytes) (len : UInt32) :
    read_payload stream len = async_read len.toNat stream := by
  unfold read_payload
  split
  · rfl
  · next empty =>
    obtain rfl : len = 0 := by simpa [UInt32.pos_iff_ne_zero] using empty
    rfl

theorem frame_header {type : UInt8} {payload : Bytes} (fits : payload.length < 2 ^ 32) :
    ∃ header, frame type payload = header ++ payload ∧ header.length = HEADER_SIZE ∧
      ntohl (MessageHeaderWire.ofBytes header).magic_be = MAGIC ∧
      (MessageHeaderWire.ofBytes header).version = VERSION ∧
      (MessageHeaderWire.ofBytes header).type = type ∧
      (ntohl (MessageHeaderWire.ofBytes header).len_be).toNat = payload.length := by
  have fields : MessageHeaderWire.ofBytes (make_header type (UInt32.ofNat payload.length)).toBytes =
      make_header type (UInt32.ofNat payload.length) :=
    header_fields (htonl_length _) (htonl_length _) (htons_length _)
  have len : (UInt32.ofNat payload.length).toNat = payload.length := by
    rw [UInt32.toNat_ofNat', Nat.mod_eq_of_lt fits]
  refine ⟨_, rfl, ?_, ?_⟩
  · simp [make_header, MessageHeaderWire.toBytes, HEADER_SIZE]
  · rw [fields]
    exact ⟨ntohl_htonl MAGIC, rfl, rfl, (congrArg UInt32.toNat (ntohl_htonl _)).trans len⟩

namespace Program

variable {program : Program} {response : Response} {type : UInt8} {part later : Bytes}

theorem expects_of_waits (waits : program.waits = true) : ∃ type, program.phase.expects = some type := by
  unfold Program.waits at waits
  cases phase : program.phase with
  | chunks => simp [phase] at waits
  | finish => simp [phase] at waits
  | ended => simp [phase] at waits
  | _ => exact ⟨_, rfl⟩

theorem read_eq_hear (expects : program.phase.expects = some type) :
    program.read response =
      if response.type.code ≠ type then (program.goto (.ended false), [])
      else program.hear response.payload := by
  by_cases typed : response.type.code = type
  · rw [if_neg (not_not.mpr typed)]
    unfold read hear
    cases phase : program.phase <;> rw [phase] at expects <;> cases expects <;> simp [typed]
  · rw [if_pos typed]
    unfold read
    cases phase : program.phase <;> rw [phase] at expects <;> cases expects <;> simp [typed]

/-- With a part of a frame at hand the program blocks, or reads it as the response it is. -/
theorem listen_part (waits : program.waits = true) (fits : response.payload.length < 2 ^ 32)
    (inside : part <+: frame response.type.code response.payload ++ later) :
    program.listen part = none ∨ ∃ rest, program.listen part = some (program.read response, rest) ∧
      ((program.read response).1.phase = .ended false ∨
        part = frame response.type.code response.payload ++ rest) := by
  obtain ⟨type, expects⟩ := expects_of_waits waits
  obtain ⟨header, framed, width, magic, version, typed, len⟩ :=
    @frame_header response.type.code response.payload fits
  rw [framed, List.append_assoc] at inside
  unfold listen read_header
  rw [expects, read_eq_hear expects]
  dsimp only
  obtain blocks | ⟨more, rfl, inside, whole⟩ := async_read_part width inside
  · exact .inl (by rw [blocks])
  · rw [whole]
    dsimp only
    rw [if_neg (not_not.mpr magic), if_neg (not_not.mpr version)]
    dsimp only
    rw [typed]
    by_cases other : response.type.code = type
    · rw [if_neg (not_not.mpr other), if_neg (not_not.mpr other)]
      rw [read_payload_eq, len]
      obtain blocks | ⟨rest, rfl, -, whole⟩ := async_read_part rfl inside
      · exact .inl (by rw [blocks])
      · exact .inr ⟨rest, by rw [whole], .inr (by rw [framed, List.append_assoc])⟩
    · rw [if_pos other, if_pos other]
      exact .inr ⟨more, rfl, .inl rfl⟩

theorem listen_nil : program.listen [] = none := by
  unfold listen
  split <;> rfl

end Program

/-- With a part of a frame at hand the read loop waits or takes it whole; or it refuses it. -/
theorem read_turn_part {type : UInt8} {payload part later : Bytes} (fits : payload.length < 2 ^ 32)
    (inside : part <+: frame type payload ++ later) :
    read_turn part = .waiting ∨ read_turn part = .exit .tooLarge ∨
      ∃ rest, part = frame type payload ++ rest ∧ read_turn part = .message type payload rest := by
  obtain ⟨header, framed, width, magic, version, typed, len⟩ := @frame_header type payload fits
  rw [framed, List.append_assoc] at inside
  unfold read_turn
  obtain waits | ⟨more, rfl, inside, whole⟩ := async_read_part width inside
  · exact .inl (by rw [waits])
  · rw [whole]
    dsimp only
    by_cases small : payload.length ≤ MAX_PAYLOAD
    · rw [do_read_header_eq_body.mpr ⟨width, rfl, magic, version, rfl, len ▸ small⟩]
      dsimp only
      rw [payload_len, len, typed]
      split
      · next empty =>
        have none : payload = [] := List.length_eq_zero_iff.mp empty
        exact .inr (.inr ⟨more, by rw [framed, none, List.append_nil], by rw [none]⟩)
      · obtain waits | ⟨rest, rfl, -, whole⟩ := async_read_part rfl inside
        · exact .inl (by rw [waits])
        · refine .inr (.inr ⟨rest, by rw [framed, List.append_assoc], ?_⟩)
          rw [whole]
          dsimp only
          rw [do_read_body_full rfl]
    · refine .inr (.inl ?_)
      unfold do_read_header
      dsimp only
      rw [if_neg (not_not.mpr width), validate_header_eq_ok.mpr ⟨magic, version⟩]
      dsimp only
      rw [payload_len, len, if_pos (Nat.lt_of_not_le small)]

theorem read_turn_nil : read_turn [] = .waiting := rfl

/-! ### Lengths -/

def Command.Fits (command : Command) : Prop := command.frame.2.length < 2 ^ 32

def Task.Short : Task → Prop
  | .send upload => upload.receiver_username.length + upload.filename.length < 2 ^ 31
  | .recv _ => True

instance : (task : Task) → Decidable task.Short
  | .send _ => inferInstanceAs (Decidable (_ < _))
  | .recv _ => .isTrue trivial

/-- The arguments of the program are not longer than a command line. -/
def Program.Short (program : Program) : Prop :=
  program.username.length + program.password.length < 2 ^ 31 ∧ program.task.Short

instance (program : Program) : Decidable program.Short := inferInstanceAs (Decidable (_ ∧ _))

/-- What is sent has a length that its header can tell. -/
def EventFits : Event → Prop
  | .sent _ response => response.payload.length < 2 ^ 32
  | _ => True

instance (event : Event) : Decidable (EventFits event) := by
  unfold EventFits
  split <;> infer_instance

namespace Program

variable {program : Program}

theorem Short.hello (short : program.Short) : program.hello.Fits := by
  have := short.1
  simp only [Program.hello, Command.Fits, Command.frame, make_login_req, List.length_append, htons_length]
  omega

theorem Short.begin_task (short : program.Short) :
    program.begin_task.1.Short ∧ ∀ command ∈ program.begin_task.2, command.Fits := by
  unfold Program.begin_task
  cases task : program.task with
  | send upload =>
    have names := short.2
    rw [task, Task.Short] at names
    refine ⟨short, fun command member => ?_⟩
    rw [List.mem_singleton.mp member]
    simp only [Command.Fits, Command.frame, make_file_offer_req, List.length_append, htons_length,
      htonl_length, htobe64_length]
    omega
  | recv transfer_id =>
    refine ⟨short, fun command member => ?_⟩
    rw [List.mem_singleton.mp member]
    simp [Command.Fits, Command.frame, make_file_accept_req]

theorem Short.quiet (short : program.Short) (phase : Phase) :
    (program.goto phase).Short ∧ ∀ command ∈ ([] : List Command), command.Fits :=
  ⟨short, fun _ member => absurd member List.not_mem_nil⟩

theorem read_idle {response : Response} (idle : program.waits ≠ true) :
    program.read response = (program, []) := by
  unfold Program.read
  unfold Program.waits at idle
  cases phase : program.phase with
  | chunks => rfl
  | finish => rfl
  | ended => rfl
  | _ => exact absurd (by rw [phase]) idle

theorem Short.read (short : program.Short) (response : Response) :
    (program.read response).1.Short ∧ ∀ command ∈ (program.read response).2, command.Fits := by
  by_cases waits : program.waits = true
  · rcases @read_cases program response waits with
      ⟨_, reads⟩ | ⟨-, reads⟩ | ⟨-, _, -, -, reads⟩ | ⟨_, -, _, -, -, reads⟩
    · rw [reads]
      exact short.quiet _
    · rw [reads]
      exact short.begin_task
    · rw [reads]
      exact short.quiet _
    · rw [reads]
      exact short.quiet _
  · rw [read_idle waits]
    exact short.quiet program.phase

theorem Short.write (short : program.Short) :
    program.write.1.Short ∧ ∀ command ∈ program.write.2, command.Fits := by
  unfold Program.write
  split
  · next upload transfer_id chunk_index total_sent task phase =>
    split
    · have bound : (if upload.file_size.toNat - total_sent < DEFAULT_CHUNK_SIZE
          then upload.file_size.toNat - total_sent else DEFAULT_CHUNK_SIZE) ≤ DEFAULT_CHUNK_SIZE := by
        split <;> omega
      dsimp only
      generalize (if upload.file_size.toNat - total_sent < DEFAULT_CHUNK_SIZE
        then upload.file_size.toNat - total_sent else DEFAULT_CHUNK_SIZE) = to_read at bound ⊢
      split
      · exact short.quiet _
      · refine ⟨short, fun command member => ?_⟩
        rw [List.mem_singleton.mp member]
        unfold DEFAULT_CHUNK_SIZE at bound
        simp only [Command.Fits, Command.frame, make_file_chunk, List.length_append, htobe64_length,
          htonl_length, List.length_take]
        omega
    · exact short.quiet _
  · refine ⟨short, fun command member => ?_⟩
    rw [List.mem_singleton.mp member]
    simp [Command.Fits, Command.frame, make_file_done]
  · exact short.quiet program.phase

end Program

/-! ### What both levels have in common -/

def frames (responses : List Response) : List Bytes :=
  responses.map fun response => frame response.type.code response.payload

theorem frames_append (responses more : List Response) :
    frames (responses ++ more) = frames responses ++ frames more := List.map_append ..

/-- Upstream are the frames of the outbox; what was sent to a program are the frames that it has
read and those of its inbox. -/
structure Refines (net : Sockets) (abs : Network) : Prop where
  core : abs.core = net.wired.core
  programs : abs.programs = net.programs
  maker : abs.maker = net.maker
  accepted : abs.accepted = net.accepted
  upstream : ∀ conn, net.upstream conn = commandBytes (abs.outbox conn)
  downstream : ∀ conn, ∃ done, (net.wired.queues conn).Phase (frames (done ++ abs.inbox conn)) ∧
    ∀ program, net.programs conn = some program → (∀ success, program.phase ≠ .ended success) →
      net.consumed conn = (frames done).flatten.length
  unborn : ∀ conn, net.wired.core.server.next_conn ≤ conn →
    net.programs conn = none ∧ abs.inbox conn = [] ∧ (net.wired.queues conn).Phase []
  routing : net.wired.core.server.Routing net.maker
  numbered : net.wired.core.server.Numbered
  sendable : ∀ conn, ∀ command ∈ abs.outbox conn, command.Fits
  answerable : ∀ conn, ∀ response ∈ abs.inbox conn, response.payload.length < 2 ^ 32
  short : ∀ conn program, net.programs conn = some program → program.Short

/-- What fits neither a command line nor a header does not occur. -/
def Sockets.Fits (net : Sockets) (move : SocketMove) : Prop :=
  (∀ program ∈ move.starts?, program.Short) ∧
    ∀ label ∈ net.label? move, ∀ event ∈ net.wired.core.events label, EventFits event

instance (net : Sockets) (move : SocketMove) : Decidable (net.Fits move) :=
  inferInstanceAs (Decidable (_ ∧ _))

namespace Refines

variable {net : Sockets} {abs : Network} {conn : ConnId}

theorem booted {core : Observed} (boot : core.Booted) :
    Refines { wired := ⟨core, fun _ => {}⟩ } { core } where
  core := rfl
  programs := rfl
  maker := rfl
  accepted := rfl
  upstream _ := rfl
  downstream _ := ⟨[], .idle [], by simp⟩
  unborn _ _ := ⟨rfl, rfl, .idle []⟩
  routing := Observed.routing_booted boot
  numbered conn self alive := by
    rw [boot.fresh.2.2.2.1 conn] at alive
    cases alive
  sendable _ _ member := absurd member List.not_mem_nil
  answerable _ _ member := absurd member List.not_mem_nil
  short _ _ running := by cases running

theorem unsent (refines : Refines net abs) (late : net.wired.core.server.next_conn ≤ conn)
    (label : Label) : responsesTo conn (net.wired.core.events label) = [] := by
  have dead : net.wired.core.server.live conn = none := by
    cases alive : net.wired.core.server.live conn with
    | none => rfl
    | some self => exact absurd (refines.numbered conn self alive) (Nat.not_lt.mpr late)
  by_cases elsewhere : ∀ type payload env, label ≠ .receive conn type payload env
  · rcases Observed.told_elsewhere refines.routing elsewhere with silent | ⟨_, _, _, _, alive, _⟩
    · exact silent
    · rw [dead] at alive
      cases alive
  · push Not at elsewhere
    obtain ⟨type, payload, env, rfl⟩ := elsewhere
    simp [Observed.events, Server.step, dead]

theorem serve_core {label : Label} (noWrite : ∀ conn, label ≠ .disconnect conn .write) :
    (net.serve label).wired.core = net.wired.core.step label := by
  cases label with
  | disconnect conn reason =>
    cases reason with
    | write => exact absurd rfl (noWrite conn)
    | _ => rfl
  | _ => rfl

theorem serve (refines : Refines net abs) {label : Label}
    (noWrite : ∀ conn, label ≠ .disconnect conn .write)
    (fits : ∀ event ∈ net.wired.core.events label, EventFits event) :
    Refines (net.serve label) (abs.serve label) := by
  have inbox (conn : ConnId) : (abs.serve label).inbox conn =
      abs.inbox conn ++ responsesTo conn (net.wired.core.events label) := by
    rw [← refines.core]
    rfl
  have phase {called : List Bytes} {conn : ConnId} (before : (net.wired.queues conn).Phase called) :
      ((net.serve label).wired.queues conn).Phase
        (called ++ frames (responsesTo conn (net.wired.core.events label))) := by
    have after := Wired.step_phase before (.serve label)
    rwa [Wired.framesOf, Wired.framesTo_eq] at after
  refine ⟨?_, refines.programs, ?_, ?_, refines.upstream, fun conn => ?_, fun conn late => ?_, ?_, ?_,
    refines.sendable, fun conn response member => ?_, refines.short⟩
  · rw [serve_core noWrite, ← refines.core]
    rfl
  · show abs.core.madeBy label abs.maker = net.wired.core.madeBy label net.maker
    rw [refines.core, refines.maker]
  · show (match abs.core.asks label with
      | some (.accept req _) => req.transfer_id :: abs.accepted
      | _ => abs.accepted) = _
    rw [refines.core, refines.accepted]
    rfl
  · obtain ⟨done, called, consumed⟩ := refines.downstream conn
    refine ⟨done, ?_, consumed⟩
    rw [inbox, ← List.append_assoc, frames_append]
    exact phase called
  · rw [serve_core noWrite] at late
    have before := (Observed.next_conn_le net.wired.core label).trans late
    obtain ⟨nobody, empty, silent⟩ := refines.unborn conn before
    have after := phase silent
    rw [inbox, empty, refines.unsent before]
    rw [refines.unsent before] at after
    exact ⟨nobody, rfl, after⟩
  · rw [serve_core noWrite]
    exact Observed.routing_step refines.routing
  · rw [serve_core noWrite]
    exact refines.numbered.step label
  · rcases Network.mem_deliver.mp member with old | new
    · exact refines.answerable conn response old
    · rw [refines.core] at new
      exact fits (.sent conn response) new

theorem advance (refines : Refines net abs) {next : Program × List Command} {consumed : Nat}
    {unread : List Response} (below : conn < net.wired.core.server.next_conn)
    (short : next.1.Short ∧ ∀ command ∈ next.2, command.Fits) (kept : unread ⊆ abs.inbox conn)
    (downstream : ∃ done, (net.wired.queues conn).Phase (frames (done ++ unread)) ∧
      ((∀ success, next.1.phase ≠ .ended success) → consumed = (frames done).flatten.length)) :
    Refines (net.advance conn next consumed) (abs.advance conn next unread) := by
  have elsewhere {α : Type} {other : ConnId} {f : ConnId → α} {x : α} (ne : other ≠ conn) :
      Function.update f conn x other = f other := Function.update_of_ne ne ..
  refine ⟨refines.core, ?_, refines.maker, refines.accepted, fun other => ?_, fun other => ?_,
    fun other late => ?_, refines.routing, refines.numbered, fun other command member => ?_,
    fun other response member => ?_, fun other program running => ?_⟩
  · show Function.update abs.programs conn _ = Function.update net.programs conn _
    rw [refines.programs]
  · show Function.update net.upstream conn _ other =
      commandBytes (Function.update abs.outbox conn _ other)
    by_cases same : other = conn
    · subst same
      rw [Function.update_self, Function.update_self, refines.upstream, commandBytes, commandBytes,
        commandBytes, List.map_append, List.flatten_append]
    · rw [elsewhere same, elsewhere same]
      exact refines.upstream other
  · show ∃ done,
      (net.wired.queues other).Phase (frames (done ++ Function.update abs.inbox conn unread other)) ∧
      ∀ program, Function.update net.programs conn (some next.1) other = some program → _ →
        Function.update net.consumed conn consumed other = _
    by_cases same : other = conn
    · subst same
      obtain ⟨done, called, read⟩ := downstream
      refine ⟨done, ?_, fun program running goes => ?_⟩
      · rwa [Function.update_self]
      · rw [Function.update_self] at running ⊢
        cases running
        exact read goes
    · rw [elsewhere same, elsewhere same, elsewhere same]
      exact refines.downstream other
  · obtain ⟨nobody, empty, silent⟩ := refines.unborn other late
    have ne : other ≠ conn := fun same => absurd below (Nat.not_lt.mpr (same ▸ late))
    exact ⟨(elsewhere ne).trans nobody, (elsewhere ne).trans empty, silent⟩
  · by_cases same : other = conn
    · subst same
      rcases List.mem_append.mp (by simpa [Network.advance] using member) with old | new
      · exact refines.sendable other command old
      · exact short.2 command new
    · exact refines.sendable other command (by simpa [Network.advance, same] using member)
  · by_cases same : other = conn
    · subst same
      exact refines.answerable other response (kept (by simpa [Network.advance] using member))
    · exact refines.answerable other response (by simpa [Network.advance, same] using member)
  · by_cases same : other = conn
    · subst same
      rw [show (net.advance other next consumed).programs other = some next.1 from
        Function.update_self ..] at running
      cases running
      exact short.1
    · exact refines.short other program ((elsewhere same).symm.trans running)

/-! #### One move -/

/-- A move is answered by none of the network, or by one that is as it is. -/
def Answered (net : Sockets) (abs : Network) (move : SocketMove) : Prop :=
  ∃ op : Option Move, Refines (net.step move) (run Network.step abs op.toList) ∧
    ∀ answer ∈ op, (∀ label ∈ abs.label? answer, label ∈ net.label? move) ∧
      ∀ task username password, answer = .connect task username password →
        move = .connect task username password

theorem Answered.idle {move : SocketMove} (refines : Refines net abs) (same : net.step move = net) :
    Answered net abs move := ⟨none, by rwa [same], by simp⟩

variable {program : Program} {task : Task} {username password : Bytes}

theorem below (refines : Refines net abs) (running : net.programs conn = some program) :
    conn < net.wired.core.server.next_conn := by
  by_contra late
  rw [(refines.unborn conn (Nat.not_lt.mp late)).1] at running
  cases running

theorem connect (refines : Refines net abs) (fits : net.Fits (.connect task username password)) :
    Answered net abs (.connect task username password) := by
  have short := fits.1 ⟨task, username, password, .login⟩ rfl
  have served : Refines (net.serve .connect) (abs.serve .connect) :=
    refines.serve (by simp) (fits.2 .connect rfl)
  refine ⟨some (.connect task username password), ?_, ?_⟩
  · show Refines ((net.serve .connect).advance net.wired.core.server.next_conn _ 0)
      ((abs.serve .connect).advance abs.core.server.next_conn _ [])
    rw [refines.core]
    refine served.advance (Nat.lt_succ_self _) ⟨short, fun command member => ?_⟩ (List.nil_subset _)
      ⟨[], (refines.unborn _ le_rfl).2.2, fun _ => rfl⟩
    rw [List.mem_singleton.mp member]
    exact short.hello
  · intro answer same
    cases same
    exact ⟨fun label taken => taken, fun _ _ _ same => by cases same; rfl⟩

/-- What the program can read are the frames of its inbox. -/
theorem received_part (refines : Refines net abs) (running : net.programs conn = some program)
    (goes : ∀ success, program.phase ≠ .ended success) (arrived : Nat) :
    net.received conn arrived <+: (frames (abs.inbox conn)).flatten := by
  obtain ⟨done, called, read⟩ := refines.downstream conn
  unfold Sockets.received
  rw [read program running goes]
  have order := called.inOrder.order
  rw [frames_append] at order
  have all : (net.wired.queues conn).handed.flatten <+:
      (frames done).flatten ++ (frames (abs.inbox conn)).flatten := by
    rw [← List.flatten_append, ← order, List.flatten_append]
    exact List.prefix_append ..
  have part := ((List.take_prefix arrived _).trans all).drop (frames done).flatten.length
  rwa [List.drop_left] at part

theorem read (refines : Refines net abs) (arrived : Nat) : Answered net abs (.read conn arrived) := by
  cases running : net.programs conn with
  | none => exact .idle refines (by simp [Sockets.step, running])
  | some program =>
    have blocks (nothing : program.listen (net.received conn arrived) = none) :
        Answered net abs (.read conn arrived) :=
      .idle refines (by simp [Sockets.step, running, nothing])
    by_cases waits : program.waits = true
    · have goes (success : Bool) : program.phase ≠ .ended success := by
        intro ended
        simp [Program.waits, ended] at waits
      have inside := refines.received_part running goes arrived
      cases received : abs.inbox conn with
      | nil =>
        rw [received] at inside
        refine blocks ?_
        rw [List.prefix_nil.mp inside]
        exact Program.listen_nil
      | cons response unread =>
        rw [received, frames, List.map_cons, List.flatten_cons] at inside
        have small := refines.answerable conn response (by rw [received]; exact List.mem_cons_self)
        obtain nothing | ⟨rest, heard, ended⟩ := Program.listen_part waits small inside
        · exact blocks nothing
        · refine ⟨some (.read conn), ?_, ?_⟩
          · have here : net.step (.read conn arrived) = net.advance conn (program.read response)
                (net.consumed conn + ((net.received conn arrived).length - rest.length)) := by
              simp only [Sockets.step, running, heard]
            have there : abs.step (.read conn) = abs.advance conn (program.read response) unread := by
              simp [Network.step, refines.programs, running, received, waits]
            rw [here, Option.toList_some, run_cons, run_nil, there]
            refine refines.advance (refines.below running)
              ((refines.short conn program running).read response) (by rw [received]; exact List.subset_cons_self ..) ?_
            obtain ⟨done, called, read⟩ := refines.downstream conn
            refine ⟨done ++ [response], ?_, fun goes' => ?_⟩
            · rwa [List.append_assoc, List.singleton_append, ← received]
            · rw [ended.resolve_left (goes' false), read program running goes, frames_append,
                List.flatten_append, List.length_append, List.length_append, Nat.add_sub_cancel]
              simp [frames]
          · intro answer same
            cases same
            exact ⟨by simp [Network.label?], by simp⟩
    · refine blocks ?_
      unfold Program.listen
      cases phase : program.phase with
      | _ => first
        | rfl
        | simp [Program.waits, phase] at waits

theorem proceed (refines : Refines net abs) (running : net.programs conn = some program)
    {next : Program × List Command} (short : next.1.Short ∧ ∀ command ∈ next.2, command.Fits)
    (goes : (∀ success, next.1.phase ≠ .ended success) → ∀ success, program.phase ≠ .ended success) :
    Refines (net.advance conn next (net.consumed conn)) (abs.advance conn next (abs.inbox conn)) := by
  obtain ⟨done, called, read⟩ := refines.downstream conn
  exact refines.advance (refines.below running) short (List.Subset.refl _)
    ⟨done, called, fun still => read program running (goes still)⟩

theorem write (refines : Refines net abs) : Answered net abs (.write conn) := by
  cases running : net.programs conn with
  | none => exact .idle refines (by simp [Sockets.step, running])
  | some program =>
    refine ⟨some (.write conn), ?_, ?_⟩
    · have here : net.step (.write conn) = net.advance conn program.write (net.consumed conn) := by
        simp only [Sockets.step, running]
      have there : abs.step (.write conn) = abs.advance conn program.write (abs.inbox conn) := by
        simp only [Network.step, refines.programs, running]
      rw [here, Option.toList_some, run_cons, run_nil, there]
      refine refines.proceed running (refines.short conn program running).write
        fun still success ended => ?_
      refine still success ?_
      unfold Program.write
      rw [ended]
      cases program.task <;> exact ended
    · intro answer same
      cases same
      exact ⟨by simp [Network.label?], by simp⟩

theorem crash (refines : Refines net abs) : Answered net abs (.crash conn) := by
  cases running : net.programs conn with
  | none => exact .idle refines (by simp [Sockets.step, running])
  | some program =>
    refine ⟨some (.crash conn), ?_, ?_⟩
    · have here : net.step (.crash conn) =
          net.advance conn (program.goto (.ended false), []) (net.consumed conn) := by
        simp only [Sockets.step, running]
      have there : abs.step (.crash conn) =
          abs.advance conn (program.goto (.ended false), []) (abs.inbox conn) := by
        simp only [Network.step, refines.programs, running]
      rw [here, Option.toList_some, run_cons, run_nil, there]
      exact refines.proceed running ((refines.short conn program running).quiet _)
        fun still => absurd rfl (still false)
    · intro answer same
      cases same
      exact ⟨by simp [Network.label?], by simp⟩

/-- The read loop takes the first command of the outbox, or finds it too long. -/
theorem turn_cases (refines : Refines net abs) (conn : ConnId) (arrived : Nat) :
    net.turn conn arrived = .waiting ∨ net.turn conn arrived = .exit .tooLarge ∨
      ∃ command more rest, abs.outbox conn = command :: more ∧
        net.turn conn arrived = .message command.frame.1 command.frame.2 rest ∧
        (net.upstream conn).drop (((net.upstream conn).take arrived).length - rest.length) =
          commandBytes more := by
  unfold Sockets.turn
  split
  · have inside := List.take_prefix arrived (net.upstream conn)
    cases waiting : abs.outbox conn with
    | nil =>
      have empty : net.upstream conn = [] := by
        rw [refines.upstream, waiting]
        rfl
      rw [empty, List.take_nil]
      exact .inl read_turn_nil
    | cons command more =>
      have front : net.upstream conn = frame command.frame.1 command.frame.2 ++ commandBytes more := by
        rw [refines.upstream, waiting]
        rfl
      have fits := refines.sendable conn command (by rw [waiting]; exact List.mem_cons_self)
      rw [front] at inside ⊢
      obtain waits | refused | ⟨rest, split, taken⟩ := read_turn_part fits inside
      · exact .inl waits
      · exact .inr (.inl refused)
      · refine .inr (.inr ⟨command, more, rest, rfl, taken, ?_⟩)
        rw [split, List.length_append, Nat.add_sub_cancel, List.drop_left]
  · exact .inl rfl

theorem receive (refines : Refines net abs) {arrived : Nat} {beyond : Nat → UInt8} {env : Env}
    (fits : net.Fits (.receive conn arrived beyond env)) :
    Answered net abs (.receive conn arrived beyond env) := by
  obtain waits | refused | ⟨command, more, rest, waiting, taken, left⟩ :=
    refines.turn_cases conn arrived
  · exact .idle refines (by simp only [Sockets.step, waits])
  · have labelled : net.label? (.receive conn arrived beyond env) =
        some (.disconnect conn .tooLarge) := by
      simp only [Sockets.label?, refused]
    refine ⟨some (.disconnect conn .tooLarge), ?_, ?_⟩
    · have here : net.step (.receive conn arrived beyond env) =
          net.serve (.disconnect conn .tooLarge) := by
        simp only [Sockets.step, refused]
      rw [here]
      exact refines.serve (by simp) (fits.2 _ labelled)
    · intro answer same
      cases same
      exact ⟨fun label taken => by rw [labelled]; exact taken, by simp⟩
  · have labelled : net.label? (.receive conn arrived beyond env) =
        some (command.label conn beyond env) := by
      simp only [Sockets.label?, taken]
      rfl
    have served := refines.serve (by simp [Command.label]) (fits.2 _ labelled)
    refine ⟨some (.handle conn beyond env), ?_, ?_⟩
    · have here : net.step (.receive conn arrived beyond env) =
          { net.serve (command.label conn beyond env) with
            upstream := Function.update net.upstream conn (commandBytes more) } := by
        simp only [Sockets.step, taken, left]
        rfl
      have there : abs.step (.handle conn beyond env) =
          { abs.serve (command.label conn beyond env) with
            outbox := Function.update abs.outbox conn more } := by
        simp only [Network.step, waiting]
      rw [here, Option.toList_some, run_cons, run_nil, there]
      refine ⟨served.core, served.programs, served.maker, served.accepted, fun other => ?_,
        served.downstream, served.unborn, served.routing, served.numbered, fun other later member => ?_,
        served.answerable, served.short⟩
      · dsimp only
        by_cases same : other = conn
        · rw [same, Function.update_self, Function.update_self]
        · rw [Function.update_of_ne same, Function.update_of_ne same]
          exact refines.upstream other
      · dsimp only at member
        by_cases same : other = conn
        · rw [same, Function.update_self] at member
          exact refines.sendable conn later (by rw [waiting]; exact List.mem_cons_of_mem _ member)
        · rw [Function.update_of_ne same] at member
          exact refines.sendable other later member
    · intro answer same
      cases same
      exact ⟨by simp [Network.label?, waiting, labelled], by simp⟩

theorem written (refines : Refines net abs) {write : Nat} {ok : Bool} :
    Answered net abs (.written conn write ok) := by
  have phase {called : List Bytes} {other : ConnId} (before : (net.wired.queues other).Phase called) :
      ((net.wired.step (.written conn write ok)).queues other).Phase called := by
    have after := Wired.step_phase before (.written conn write ok)
    rwa [Wired.framesOf, List.append_nil] at after
  have queues {core : Observed} (same : (net.wired.step (.written conn write ok)).core = core)
      {lower : Network} (rest : Refines { net with wired := ⟨core, net.wired.queues⟩ } lower) :
      Refines (net.step (.written conn write ok)) lower := by
    subst same
    refine ⟨rest.core, rest.programs, rest.maker, rest.accepted, rest.upstream, fun other => ?_,
      fun other late => ?_, rest.routing, rest.numbered, rest.sendable, rest.answerable, rest.short⟩
    · obtain ⟨done, called, read⟩ := rest.downstream other
      exact ⟨done, phase called, read⟩
    · obtain ⟨nobody, empty, silent⟩ := rest.unborn other late
      exact ⟨nobody, empty, phase silent⟩
  by_cases fails : write < (net.wired.queues conn).outstanding.length ∧ ok = false
  · have same : (net.wired.step (.written conn write ok)).core =
        net.wired.core.step (.disconnect conn .write) := if_pos fails
    have grown := Observed.next_conn_le net.wired.core (.disconnect conn .write)
    have inbox (other : ConnId) : (run Network.step abs (some (Move.disconnect conn .write)).toList).inbox
        other = abs.inbox other := List.append_nil _
    refine ⟨some (.disconnect conn .write), queues same ⟨?_, refines.programs, refines.maker,
      refines.accepted, refines.upstream, fun other => ?_, fun other late => ?_,
      Observed.routing_step refines.routing, refines.numbered.step (.disconnect conn .write),
      refines.sendable, fun other response member => ?_, refines.short⟩, ?_⟩
    · show abs.core.step (.disconnect conn .write) = _
      rw [refines.core]
    · obtain ⟨done, called, read⟩ := refines.downstream other
      refine ⟨done, ?_, read⟩
      rwa [inbox]
    · obtain ⟨nobody, empty, silent⟩ := refines.unborn other (grown.trans late)
      exact ⟨nobody, (inbox other).trans empty, silent⟩
    · rw [inbox] at member
      exact refines.answerable other response member
    · intro answer same
      cases same
      refine ⟨fun label taken => ?_, by simp⟩
      rwa [show net.label? (.written conn write ok) = some (.disconnect conn .write) from if_pos fails]
  · have same : (net.wired.step (.written conn write ok)).core = net.wired.core := if_neg fails
    exact ⟨none, queues same refines, by simp⟩

theorem step (refines : Refines net abs) {move : SocketMove} (fits : net.Fits move) :
    Answered net abs move := by
  cases move with
  | connect => exact refines.connect fits
  | read conn arrived => exact refines.read arrived
  | write => exact refines.write
  | crash => exact refines.crash
  | receive => exact refines.receive fits
  | written => exact refines.written
  | disconnect conn reason =>
    by_cases failed : reason = .write
    · subst failed
      exact .idle refines rfl
    · have labelled : net.label? (.disconnect conn reason) = some (.disconnect conn reason) :=
        if_neg failed
      refine ⟨some (.disconnect conn reason), refines.serve ?_ (fits.2 _ labelled), ?_⟩
      · rintro other same
        cases same
        exact failed rfl
      · intro answer same
        cases same
        exact ⟨fun label taken => by rw [labelled]; exact taken, by simp⟩
  | release conn =>
    refine ⟨some (.release conn), refines.serve (by simp) (fits.2 _ rfl), ?_⟩
    intro answer same
    cases same
    exact ⟨fun label taken => taken, by simp⟩

end Refines

namespace Sockets

/-- The network of bytes is one of messages: whatever arrives when, the programs and the server do
what they do if whole messages go back and forth. -/
theorem refines_network {core : Observed} (boot : core.Booted) {moves : List SocketMove}
    (along : Along step Fits { wired := ⟨core, fun _ => {}⟩ } moves) :
    ∃ abstract, Refines (run step { wired := ⟨core, fun _ => {}⟩ } moves)
      (run Network.step { core } abstract) := by
  obtain ⟨abstract, -, refines⟩ := @Along.answered _ _ _ _ step Network.step Fits (fun _ _ => True)
    Refines _ _ along _ (.booted boot) fun net move abs refines fits => by
      obtain ⟨op, ends, -⟩ := refines.step fits
      exact ⟨op.toList, along_always, ends⟩
  exact ⟨abstract, refines⟩

/-! ### A delivery in bytes -/

/-- The server reads a frame, and whoever waits for an answer reads it. -/
def exchanged (conn : ConnId) (env : Env) : List SocketMove :=
  [.receive conn 4096 (fun _ => 0) env, .read conn 4096, .written conn 0 true]

/-- Two bytes from alice to bob, in pieces that hold a frame at most. -/
def errand : List SocketMove :=
  [.connect (.send ⟨ascii "bob", ascii "a", 2, [1, 2]⟩) (ascii "alice") [120],
    .receive 0 20 (fun _ => 0) (Sample.env 0 1)] ++ exchanged 0 (Sample.env 0 1) ++
    exchanged 0 (Sample.env 0 0) ++ [.connect (.recv 1) (ascii "bob") [120]] ++
    exchanged 1 (Sample.env 0 2) ++ exchanged 1 (Sample.env 5 0) ++
    [.read 0 4096, .written 0 0 true, .write 0, .write 0, .write 0] ++ exchanged 0 (Sample.env 0 0) ++
    exchanged 0 (Sample.env 0 0)

/-- It is one of whole messages, and alice's program has returned. -/
theorem refines_network_errand :
    (∃ abstract, Refines (run step { wired := ⟨Sample.start, fun _ => {}⟩ } errand)
      (run Network.step { core := Sample.start } abstract)) ∧
    ((run step { wired := ⟨Sample.start, fun _ => {}⟩ } errand).programs 0).map Program.phase =
      some (.ended true) :=
  ⟨refines_network Sample.booted (by decide +kernel), by decide +kernel⟩

end Sockets

end FileShareX.Client

import FileShareX.Net.TcpSession
import FileShareX.Protocol.RoundTrip

/-!
# The transfer client

`test_file_transfer.cpp`.  The program runs `do_login`, and then `do_send` or
`do_recv`, over one blocking socket.  `Phase` is the place in the program at
which it waits for a response or stands in front of its next write.  Frames are
pairs of type and payload: the twelve header bytes of `make_frame` are what the
read loop strips again.  The console output is left out.
-/

namespace FileShareX.Client

open Wire Protocol Net

def DEFAULT_CHUNK_SIZE : Nat := 256 * 1024

/-! ### Frames -/

def make_login_req (username password : Bytes) : UInt8 × Bytes :=
  (12, htons (UInt16.ofNat username.length) ++ (username ++
    (htons (UInt16.ofNat password.length) ++ password)))

def make_file_offer_req (receiver_username filename : Bytes) (file_size : UInt64)
    (chunk_size : UInt32) : UInt8 × Bytes :=
  (30, htobe64 0 ++
    (htons (UInt16.ofNat receiver_username.length) ++ (receiver_username ++
    (htons (UInt16.ofNat filename.length) ++ (filename ++
    (htobe64 file_size ++ htonl chunk_size))))))

def make_file_accept_req (transfer_id : UInt64) (accept : Bool) : UInt8 × Bytes :=
  (32, htobe64 transfer_id ++ [if accept then 1 else 0])

def make_file_chunk (transfer_id : UInt64) (chunk_index : UInt32) (data : Bytes) : UInt8 × Bytes :=
  (34, htobe64 transfer_id ++ (htonl chunk_index ++ data))

def make_file_done (transfer_id : UInt64) (total_chunks : UInt32) (file_size : UInt64) :
    UInt8 × Bytes :=
  (35, htobe64 transfer_id ++ (htonl total_chunks ++ htobe64 file_size))

/-- A call of one of the frame builders. -/
inductive Command where
  | login (username password : Bytes)
  | offer (receiver_username filename : Bytes) (file_size : UInt64) (chunk_size : UInt32)
  | accept (transfer_id : UInt64) (accept : Bool)
  | chunk (transfer_id : UInt64) (chunk_index : UInt32) (data : Bytes)
  | done (transfer_id : UInt64) (total_chunks : UInt32) (file_size : UInt64)
  deriving DecidableEq

def Command.frame : Command → UInt8 × Bytes
  | login username password => make_login_req username password
  | offer receiver_username filename file_size chunk_size =>
    make_file_offer_req receiver_username filename file_size chunk_size
  | accept transfer_id flag => make_file_accept_req transfer_id flag
  | chunk transfer_id chunk_index data => make_file_chunk transfer_id chunk_index data
  | done transfer_id total_chunks file_size => make_file_done transfer_id total_chunks file_size

/-! ### The program -/

/-- The file given to `do_send`: its last path component, the size asked for
first, and the bytes its stream yields later. -/
structure Upload where
  receiver_username : Bytes
  filename : Bytes
  file_size : UInt64
  content : Bytes

inductive Task where
  | send (upload : Upload)
  | recv (transfer_id : UInt64)

inductive Phase where
  /-- In `do_login`, waiting for LOGIN_RESP. -/
  | login
  /-- In `do_send`, waiting for FILE_OFFER_RESP. -/
  | offer
  /-- In `do_send`, waiting for FILE_ACCEPT_RESP. -/
  | accept (transfer_id : UInt64)
  /-- In front of the condition of the chunk loop. -/
  | chunks (transfer_id : UInt64) (chunk_index : UInt32) (total_sent : Nat)
  /-- Behind the chunk loop. -/
  | finish (transfer_id : UInt64) (chunk_index : UInt32)
  /-- In `do_send`, waiting for FILE_RESULT. -/
  | result
  /-- In `do_recv`, waiting for FILE_ACCEPT_RESP. -/
  | recv
  /-- The program has ended: it has returned 0, or something was wrong. -/
  | ended (success : Bool)
  deriving DecidableEq

structure Program where
  task : Task
  username : Bytes
  password : Bytes
  phase : Phase := .login

/-- The number of chunks announced at the end; the division is in 64 bits and
the result is cut to 32. -/
def total_chunks (file_size : UInt64) (chunk_index : UInt32) : UInt32 :=
  if file_size > 0 then
    let total := ((file_size + UInt64.ofNat DEFAULT_CHUNK_SIZE - 1) /
      UInt64.ofNat DEFAULT_CHUNK_SIZE).toUInt32
    if chunk_index = 0 then 1
    else if chunk_index > total then chunk_index
    else total
  else 0

namespace Program

def goto (program : Program) (phase : Phase) : Program := { program with phase }

def hello (program : Program) : Command := .login program.username program.password

def begin_task (program : Program) : Program × List Command :=
  match program.task with
  | .send upload =>
    (program.goto .offer, [.offer upload.receiver_username upload.filename upload.file_size
      (UInt32.ofNat DEFAULT_CHUNK_SIZE)])
  | .recv transfer_id => (program.goto .recv, [.accept transfer_id true])

/-- A response of the wrong type, a short one or a refusal ends the program. -/
def read (program : Program) (response : Response) : Program × List Command :=
  let type := response.type.code
  let payload := response.payload
  match program.phase with
  | .login =>
    if type ≠ 13 ∨ payload.length < 1 ∨ payload.getD 0 0 = 0 then (program.goto (.ended false), [])
    else program.begin_task
  | .offer =>
    if type ≠ 31 ∨ payload.length < 9 ∨ payload.getD 0 0 ≠ 0 then (program.goto (.ended false), [])
    else (program.goto (.accept (be64toh ((payload.drop 1).take 8))), [])
  | .accept transfer_id =>
    if type ≠ 33 ∨ payload.length < 1 ∨ payload.getD 0 0 ≠ 0 then (program.goto (.ended false), [])
    else (program.goto (.chunks transfer_id 0 0), [])
  | .result =>
    if type ≠ 36 ∨ payload.length < 9 ∨ payload.getD 8 0 ≠ 0 then (program.goto (.ended false), [])
    else (program.goto (.ended true), [])
  | .recv =>
    if type ≠ 33 ∨ payload.length < 1 ∨ payload.getD 0 0 ≠ 0 then (program.goto (.ended false), [])
    else (program.goto (.ended true), [])
  | _ => (program, [])

def waits (program : Program) : Bool :=
  match program.phase with
  | .chunks .. | .finish .. | .ended _ => false
  | _ => true

/-- One iteration of the chunk loop, or the FILE_DONE behind it. -/
def write (program : Program) : Program × List Command :=
  match program.task, program.phase with
  | .send upload, .chunks transfer_id chunk_index total_sent =>
    if total_sent < upload.file_size.toNat then
      let remaining := upload.file_size.toNat - total_sent
      let to_read := if remaining < DEFAULT_CHUNK_SIZE then remaining else DEFAULT_CHUNK_SIZE
      let chunk_data := (upload.content.drop total_sent).take to_read
      if chunk_data.length = 0 then (program.goto (.finish transfer_id chunk_index), [])
      else
        let next :=
          if chunk_data.length < to_read then .finish transfer_id (chunk_index + 1)
          else .chunks transfer_id (chunk_index + 1) (total_sent + chunk_data.length)
        (program.goto next, [.chunk transfer_id chunk_index chunk_data])
    else (program.goto (.finish transfer_id chunk_index), [])
  | .send upload, .finish transfer_id chunk_index =>
    (program.goto .result,
      [.done transfer_id (total_chunks upload.file_size chunk_index) upload.file_size])
  | _, _ => (program, [])

/-! ### What the program reads -/

variable {program : Program} {response : Response}

theorem read_offer (phase : program.phase = .offer) :
    program.read response = (program.goto (.ended false), []) ∨
      ∃ resp, response = .fileOfferResp resp ∧ resp.ok = true ∧
        program.read response = (program.goto (.accept resp.transfer_id), []) := by
  unfold read
  rw [phase]
  dsimp only
  split
  · exact .inl rfl
  · next good =>
    simp only [not_or, not_not] at good
    obtain ⟨type, -, status⟩ := good
    cases response with
    | fileOfferResp resp =>
      cases ok : resp.ok with
      | false => simp [Response.payload, FileOfferResp.serialize, ok] at status
      | true =>
        refine .inr ⟨resp, rfl, ok, ?_⟩
        simp [Response.payload, FileOfferResp.serialize, ok, List.take_of_length_le]
    | _ => simp [Response.type, MsgType.code] at type

theorem read_accept {transfer_id : UInt64} (phase : program.phase = .accept transfer_id) :
    program.read response = (program.goto (.ended false), []) ∨
      ∃ resp, response = .fileAcceptResp resp ∧ resp.ok = true ∧
        program.read response = (program.goto (.chunks transfer_id 0 0), []) := by
  unfold read
  rw [phase]
  dsimp only
  split
  · exact .inl rfl
  · next good =>
    simp only [not_or, not_not] at good
    obtain ⟨type, -, status⟩ := good
    cases response with
    | fileAcceptResp resp =>
      cases ok : resp.ok with
      | false => simp [Response.payload, FileAcceptResp.serialize, ok] at status
      | true => exact .inr ⟨resp, rfl, ok, rfl⟩
    | _ => simp [Response.type, MsgType.code] at type

theorem read_login (phase : program.phase = .login) :
    program.read response = (program.goto (.ended false), []) ∨
      program.read response = program.begin_task := by
  unfold read
  rw [phase]
  dsimp only
  split
  · exact .inl rfl
  · exact .inr rfl

theorem read_last (phase : program.phase = .result ∨ program.phase = .recv) :
    ∃ success, program.read response = (program.goto (.ended success), []) := by
  unfold read
  rcases phase with phase | phase <;> rw [phase] <;> dsimp only <;> split
  all_goals exact ⟨_, rfl⟩

end Program

/-! ### What the program writes -/

/-- The file is the one whose size was asked for. -/
def Upload.Steady (upload : Upload) : Prop := upload.content.length = upload.file_size.toNat

instance (upload : Upload) : Decidable upload.Steady := inferInstanceAs (Decidable (_ = _))

/-- The chunks of `rest`, numbered from `chunk_index` on, and the FILE_DONE. -/
def Upload.upcoming (upload : Upload) (transfer_id : UInt64) (chunk_index : UInt32) (rest : Bytes) :
    List Command :=
  if rest = [] then
    [.done transfer_id (total_chunks upload.file_size chunk_index) upload.file_size]
  else .chunk transfer_id chunk_index (rest.take DEFAULT_CHUNK_SIZE) ::
    upload.upcoming transfer_id (chunk_index + 1) (rest.drop DEFAULT_CHUNK_SIZE)
termination_by rest.length
decreasing_by
  next nonempty =>
  have positive := List.length_pos_iff.mpr nonempty
  simp only [List.length_drop, DEFAULT_CHUNK_SIZE]
  omega

def Upload.pending (upload : Upload) (transfer_id : UInt64) : Phase → List Command
  | .login | .offer | .accept _ => upload.upcoming transfer_id 0 upload.content
  | .chunks _ chunk_index total_sent =>
    upload.upcoming transfer_id chunk_index (upload.content.drop total_sent)
  | .finish _ chunk_index =>
    [.done transfer_id (total_chunks upload.file_size chunk_index) upload.file_size]
  | .result | .recv | .ended _ => []

def Phase.transfer? : Phase → Option UInt64
  | .accept transfer_id | .chunks transfer_id _ _ | .finish transfer_id _ => some transfer_id
  | _ => none

namespace Upload

variable {upload : Upload} {transfer_id : UInt64}

theorem upcoming_nil (chunk_index : UInt32) : upload.upcoming transfer_id chunk_index [] =
    [.done transfer_id (total_chunks upload.file_size chunk_index) upload.file_size] := by
  rw [upcoming, if_pos rfl]

theorem upcoming_of_ne {rest : Bytes} (nonempty : rest ≠ []) (chunk_index : UInt32) :
    upload.upcoming transfer_id chunk_index rest =
      .chunk transfer_id chunk_index (rest.take DEFAULT_CHUNK_SIZE) ::
        upload.upcoming transfer_id (chunk_index + 1) (rest.drop DEFAULT_CHUNK_SIZE) := by
  rw [upcoming, if_neg nonempty]

/-- Of a steady file the loop gets just what it asks for: the next piece. -/
theorem Steady.piece (steady : upload.Steady) {total_sent : Nat}
    (more : total_sent < upload.file_size.toNat) :
    let remaining := upload.file_size.toNat - total_sent
    let to_read := if remaining < DEFAULT_CHUNK_SIZE then remaining else DEFAULT_CHUNK_SIZE
    (upload.content.drop total_sent).take to_read =
        (upload.content.drop total_sent).take DEFAULT_CHUNK_SIZE ∧
      ((upload.content.drop total_sent).take to_read).length = to_read ∧ to_read ≠ 0 ∧
      upload.content.drop (total_sent + to_read) =
        (upload.content.drop total_sent).drop DEFAULT_CHUNK_SIZE := by
  have length : (upload.content.drop total_sent).length = upload.file_size.toNat - total_sent := by
    rw [List.length_drop, show upload.content.length = _ from steady]
  dsimp only
  split
  · next small =>
    have whole : (upload.content.drop total_sent).length ≤ DEFAULT_CHUNK_SIZE := by omega
    refine ⟨?_, by rw [List.length_take, length, Nat.min_self], by omega, ?_⟩
    · rw [← length, List.take_length, List.take_of_length_le whole]
    · rw [List.drop_drop, List.drop_eq_nil_of_le, List.drop_eq_nil_of_le]
      · rw [List.length_drop] at whole
        omega
      · rw [List.length_drop] at length
        omega
  · next large =>
    refine ⟨rfl, ?_, by decide, ?_⟩
    · rw [List.length_take, length]
      omega
    · rw [List.drop_drop]

end Upload

theorem Program.write_pending {program : Program} {upload : Upload} {transfer_id : UInt64}
    (task : program.task = .send upload) (steady : upload.Steady)
    (knows : ∀ id, program.phase.transfer? = some id → id = transfer_id) :
    program.write.2 ++ upload.pending transfer_id program.write.1.phase =
      upload.pending transfer_id program.phase := by
  unfold write
  rw [task]
  cases phase : program.phase with
  | chunks id chunk_index total_sent =>
    obtain rfl := knows id (by rw [phase]; rfl)
    dsimp only
    split
    · next more =>
      obtain ⟨piece, length, positive, rest⟩ := steady.piece more
      have nonempty : upload.content.drop total_sent ≠ [] := by
        intro empty
        rw [empty, List.take_nil] at length
        exact positive length.symm
      rw [if_neg (by rwa [length]), if_neg (by omega)]
      simp only [goto, Upload.pending, List.singleton_append]
      rw [length, rest, piece, Upload.upcoming_of_ne nonempty]
    · next atEnd =>
      have empty : upload.content.drop total_sent = [] := by
        rw [List.drop_eq_nil_iff, show upload.content.length = _ from steady]
        omega
      simp only [goto, Upload.pending, empty, Upload.upcoming_nil, List.nil_append]
  | finish id chunk_index =>
    obtain rfl := knows id (by rw [phase]; rfl)
    rfl
  | _ => simp [phase]

end FileShareX.Client

import FileShareX.Foundation.Framing
import FileShareX.Protocol.Message

/-!
# The read loop of a connection

`TcpSession::do_read_header`, `do_read_body` and `send`.  `async_read` delivers
exactly the bytes asked for, or an error; the completion handlers decide
between leaving through one of their exits, reading a body and dispatching.
-/

namespace FileShareX.Net

open Wire Protocol

def MAX_PAYLOAD : Nat := 16 * 1024 * 1024

/-- The branches on which a connection stops reading or writing. -/
inductive Exit where
  | readHeader | headerSize | badHeader | tooLarge | readBody | bodySize | write
  deriving DecidableEq, Repr

inductive AfterHeader where
  | exit (reason : Exit)
  | body (header : MessageHeaderWire) (len : Nat)

/-- The handler `do_read_header` passes to `async_read`; `none` is an error code. -/
def do_read_header : Option Bytes → AfterHeader
  | none => .exit .readHeader
  | some bytes =>
    if bytes.length ≠ HEADER_SIZE then .exit .headerSize
    else
      let header := MessageHeaderWire.ofBytes bytes
      match validate_header header with
      | .error _ => .exit .badHeader
      | .ok () =>
        let len := payload_len header
        if len.toNat > MAX_PAYLOAD then .exit .tooLarge else .body header len.toNat

theorem do_read_header_eq_body {bytes : Bytes} {header : MessageHeaderWire} {len : Nat} :
    do_read_header (some bytes) = .body header len ↔
      bytes.length = HEADER_SIZE ∧ header = .ofBytes bytes ∧ ntohl header.magic_be = MAGIC ∧
        header.version = VERSION ∧ len = (payload_len header).toNat ∧ len ≤ MAX_PAYLOAD := by
  constructor
  · intro accepted
    unfold do_read_header at accepted
    dsimp only at accepted
    split at accepted
    · cases accepted
    · next width =>
      split at accepted
      · cases accepted
      · next valid =>
        split at accepted
        · cases accepted
        · next small =>
          cases accepted
          obtain ⟨magic, version⟩ := validate_header_eq_ok.mp valid
          exact ⟨not_not.mp width, rfl, magic, version, rfl, Nat.not_lt.mp small⟩
  · rintro ⟨width, rfl, magic, version, rfl, small⟩
    unfold do_read_header
    dsimp only
    rw [if_neg (not_not.mpr width), validate_header_eq_ok.mpr ⟨magic, version⟩]
    exact if_neg (Nat.not_lt.mpr small)

inductive AfterBody where
  | exit (reason : Exit)
  | dispatch (body : Bytes)

/-- The handler `do_read_body` passes to `async_read`. -/
def do_read_body (len : Nat) : Option Bytes → AfterBody
  | none => .exit .readBody
  | some bytes => if bytes.length ≠ len then .exit .bodySize else .dispatch bytes

/-- `async_read` of `n` bytes, and what is left in the stream. -/
def async_read (n : Nat) (stream : Bytes) : Option (Bytes × Bytes) :=
  if n ≤ stream.length then some (stream.take n, stream.drop n) else none

theorem async_read_eq_some {n : Nat} {stream bytes rest : Bytes}
    (read : async_read n stream = some (bytes, rest)) :
    bytes.length = n ∧ stream = bytes ++ rest := by
  unfold async_read at read
  split at read
  · cases read
    simpa using ‹_›
  · cases read

theorem async_read_eq_none {n : Nat} {stream : Bytes} (read : async_read n stream = none) :
    stream.length < n := by
  unfold async_read at read
  split at read
  · cases read
  · omega

/-- The messages `handle_message` is called with while the stream lasts. -/
def readLoop (stream : Bytes) : List (UInt8 × Bytes) :=
  match _headerRead : async_read HEADER_SIZE stream with
  | none => []
  | some (bytes, rest) =>
    match do_read_header (some bytes) with
    | .exit _ => []
    | .body header len =>
      -- An empty body is dispatched without another read.
      if len = 0 then (header.type, []) :: readLoop rest
      else match _bodyRead : async_read len rest with
      | none => []
      | some (body, rest') =>
        match do_read_body len (some body) with
        | .exit _ => []
        | .dispatch body => (header.type, body) :: readLoop rest'
termination_by stream.length
decreasing_by
  · obtain ⟨width, rfl⟩ := async_read_eq_some _headerRead
    simp only [List.length_append, width, HEADER_SIZE]
    omega
  · obtain ⟨width, rfl⟩ := async_read_eq_some _headerRead
    obtain ⟨-, rfl⟩ := async_read_eq_some _bodyRead
    simp only [List.length_append, width, HEADER_SIZE]
    omega

/-- The frame `TcpSession::send` queues. -/
def frame (type : UInt8) (payload : Bytes) : Bytes :=
  (make_header type (UInt32.ofNat payload.length)).toBytes ++ payload

/-- What the loop makes of twelve header bytes, as a frame format. -/
def wireFormat : FrameFormat UInt8 where
  headerSize := HEADER_SIZE
  positive := by decide
  decode bytes :=
    match do_read_header (some bytes) with
    | .exit _ => none
    | .body header len => some (header.type, len)

theorem wireFormat_eq_some {bytes : Bytes} {type : UInt8} {len : Nat} :
    wireFormat.decode bytes = some (type, len) ↔
      ∃ header, do_read_header (some bytes) = .body header len ∧ header.type = type := by
  cases outcome : do_read_header (some bytes) with
  | exit reason => simp [wireFormat, outcome]
  | body header len' => simp [wireFormat, outcome, and_comm]

theorem wireFormat_exit {bytes : Bytes} {reason : Exit}
    (exit : do_read_header (some bytes) = .exit reason) : wireFormat.decode bytes = none := by
  simp [wireFormat, exit]

theorem wireFormat_body {bytes : Bytes} {header : MessageHeaderWire} {len : Nat}
    (body : do_read_header (some bytes) = .body header len) :
    wireFormat.decode bytes = some (header.type, len) := by
  simp [wireFormat, body]

theorem do_read_body_full {len : Nat} {body : Bytes} (full : body.length = len) :
    do_read_body len (some body) = .dispatch body := by
  simp [do_read_body, full]

/-- The loop is the generic frame splitter at this format: the separate branch
for an empty body and the second length check change nothing. -/
theorem readLoop_eq_deframe (stream : Bytes) : readLoop stream = wireFormat.deframe stream := by
  fun_induction readLoop stream with
  | case1 stream read => exact (FrameFormat.deframe_short (async_read_eq_none read)).symm
  | case2 stream bytes rest read reason exit =>
    obtain ⟨width, rfl⟩ := async_read_eq_some read
    exact (FrameFormat.deframe_refused width (wireFormat_exit exit) rest).symm
  | case3 stream bytes rest read header body ih =>
    obtain ⟨width, rfl⟩ := async_read_eq_some read
    have good : wireFormat.IsFrame bytes (header.type, []) :=
      ⟨bytes, width, wireFormat_body body, by simp⟩
    rw [good.deframe, ih]
  | case4 stream bytes rest read header len body nonempty bodyRead =>
    obtain ⟨width, rfl⟩ := async_read_eq_some read
    exact (FrameFormat.deframe_missing width (wireFormat_body body)
      (async_read_eq_none bodyRead)).symm
  | case5 stream bytes rest read header len body nonempty payload rest' bodyRead reason exit =>
    rw [do_read_body_full (async_read_eq_some bodyRead).1] at exit
    cases exit
  | case6 stream bytes rest read header len body nonempty payload rest' bodyRead message full ih =>
    obtain ⟨width, rfl⟩ := async_read_eq_some read
    obtain ⟨length, rfl⟩ := async_read_eq_some bodyRead
    rw [do_read_body_full length] at full
    cases full
    have good : wireFormat.IsFrame (bytes ++ payload) (header.type, payload) :=
      ⟨bytes, width, by rw [wireFormat_body body, length], rfl⟩
    rw [← List.append_assoc, good.deframe, ih]

end FileShareX.Net

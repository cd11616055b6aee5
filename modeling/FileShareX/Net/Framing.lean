import FileShareX.Net.ReadLoop
import FileShareX.Gateway.CoreClient

/-!
# The read loop recovers exactly the frames sent

What a good frame and a bad header are is stated on the bytes alone; both
header builders produce good frames, and the loop dispatches the longest
sequence of good frames in front of the stream.
-/

namespace FileShareX.Net

open Wire Protocol

/-- Right magic, right version, any type byte, the length of the payload that
follows, which is at most 16 MiB, and two bytes nobody looks at. -/
def GoodFrame (bytes : Bytes) (message : UInt8 × Bytes) : Prop :=
  ∃ reserved : Bytes, reserved.length = 2 ∧ message.2.length ≤ MAX_PAYLOAD ∧
    bytes = (htonl MAGIC ++ [VERSION, message.1] ++ htonl (UInt32.ofNat message.2.length) ++
      reserved) ++ message.2

def BadHeader (header : Bytes) : Prop :=
  header.length = HEADER_SIZE ∧
    (header.take 4 ≠ htonl MAGIC ∨ header.getD 4 0 ≠ VERSION ∨
      MAX_PAYLOAD < bigEndianValue ((header.drop 6).take 4))

def Built (bytes : Bytes) (message : UInt8 × Bytes) : Prop :=
  bytes = frame message.1 message.2 ∨
    ∃ header, Gateway._make_header message.1.toNat message.2.length = some header ∧
      bytes = header ++ message.2

theorem header_fields {magic len reserved : Bytes} {version type : UInt8}
    (magicWidth : magic.length = 4) (lenWidth : len.length = 4) (width : reserved.length = 2) :
    MessageHeaderWire.ofBytes (magic ++ [version, type] ++ len ++ reserved) =
      ⟨magic, version, type, len, reserved⟩ := by
  match magic, magicWidth with
  | [m₁, m₂, m₃, m₄], _ =>
    match len, lenWidth with
    | [l₁, l₂, l₃, l₄], _ =>
      match reserved, width with
      | [r₁, r₂], _ => rfl

theorem header_split {header : Bytes} (width : header.length = HEADER_SIZE) :
    (MessageHeaderWire.ofBytes header).magic_be.length = 4 ∧
      (MessageHeaderWire.ofBytes header).len_be.length = 4 ∧
      (MessageHeaderWire.ofBytes header).reserved_be.length = 2 ∧
      (MessageHeaderWire.ofBytes header).toBytes = header := by
  match header, width with
  | [_, _, _, _, _, _, _, _, _, _, _, _], _ => exact ⟨rfl, rfl, rfl, rfl⟩

theorem small_payload {payload : Bytes} (small : payload.length ≤ MAX_PAYLOAD) :
    (UInt32.ofNat payload.length).toNat = payload.length := by
  rw [UInt32.toNat_ofNat', Nat.mod_eq_of_lt]
  unfold MAX_PAYLOAD at small
  omega

theorem isFrame_of_goodFrame {bytes : Bytes} {message : UInt8 × Bytes}
    (good : GoodFrame bytes message) : wireFormat.IsFrame bytes message := by
  obtain ⟨reserved, width, small, rfl⟩ := good
  have fields := @header_fields _ _ reserved VERSION message.1 (htonl_length MAGIC)
    (htonl_length (UInt32.ofNat message.2.length)) width
  refine ⟨_, by simp [wireFormat, HEADER_SIZE, width], wireFormat_eq_some.mpr
    ⟨⟨htonl MAGIC, VERSION, message.1, htonl (UInt32.ofNat message.2.length), reserved⟩, ?_, rfl⟩, rfl⟩
  refine do_read_header_eq_body.mpr ⟨by simp [HEADER_SIZE, width], fields.symm, ?_, rfl, ?_, small⟩
  · exact ntohl_htonl MAGIC
  · rw [payload_len, ntohl_htonl, small_payload small]

theorem goodFrame_of_isFrame {bytes : Bytes} {message : UInt8 × Bytes}
    (isFrame : wireFormat.IsFrame bytes message) : GoodFrame bytes message := by
  obtain ⟨header, width, decoded, rfl⟩ := isFrame
  obtain ⟨fields, accepted, type⟩ := wireFormat_eq_some.mp decoded
  obtain ⟨-, rfl, magic, version, len, small⟩ := do_read_header_eq_body.mp accepted
  obtain ⟨magicWidth, lenWidth, reservedWidth, whole⟩ := header_split width
  refine ⟨_, reservedWidth, small, ?_⟩
  rw [len, payload_len, UInt32.ofNat_toNat, htonl_ntohl lenWidth, ← magic, htonl_ntohl magicWidth,
    ← version, ← type]
  exact congrArg (· ++ message.2) whole.symm

theorem goodFrame_iff (bytes : Bytes) (message : UInt8 × Bytes) :
    GoodFrame bytes message ↔ wireFormat.IsFrame bytes message :=
  ⟨isFrame_of_goodFrame, goodFrame_of_isFrame⟩

theorem goodFrame_eq : GoodFrame = wireFormat.IsFrame := by
  funext bytes message
  exact propext (goodFrame_iff bytes message)

theorem badHeader_refused {header : Bytes} (bad : BadHeader header) :
    wireFormat.decode header = none := by
  obtain ⟨width, bad⟩ := bad
  obtain ⟨magicWidth, lenWidth, -, -⟩ := header_split width
  cases decoded : wireFormat.decode header with
  | none => rfl
  | some announced =>
    obtain ⟨fields, accepted, -⟩ := wireFormat_eq_some.mp decoded
    obtain ⟨-, rfl, magic, version, len, small⟩ := do_read_header_eq_body.mp accepted
    rcases bad with bad | bad | bad
    · exact absurd (by rw [← magic]; exact (htonl_ntohl magicWidth).symm) bad
    · exact absurd version bad
    · have low := bigEndianValue_lt (MessageHeaderWire.ofBytes header).len_be
      rw [lenWidth] at low
      rw [len, payload_len, ntohl, UInt32.toNat_ofNat', Nat.mod_eq_of_lt (show _ < 2 ^ 32 from low)]
        at small
      exact absurd bad (Nat.not_lt.mpr small)

/-- Both builders produce good frames, up to the limit of 16 MiB. -/
theorem goodFrame_of_built {bytes : Bytes} {message : UInt8 × Bytes} (built : Built bytes message)
    (small : message.2.length ≤ MAX_PAYLOAD) : GoodFrame bytes message := by
  refine ⟨htons 0, htons_length 0, small, ?_⟩
  rcases built with rfl | ⟨header, made, rfl⟩
  · rfl
  · unfold Gateway._make_header at made
    split at made
    · cases made
      have type : bigEndian 1 message.1.toNat = [message.1] := by simp [bigEndian]
      have len : htonl (UInt32.ofNat message.2.length) = bigEndian 4 message.2.length := by
        rw [htonl, small_payload small]
      rw [type, len]
      rfl
    · cases made

/-- The frames of any sequence of messages, from either builder, are dispatched
as that sequence; of any stream the longest sequence of good frames in front is
dispatched, and nothing once a bad header has come. -/
theorem readLoop_framing :
    (∀ frames messages, List.Forall₂ Built frames messages →
      (∀ message ∈ messages, message.2.length ≤ MAX_PAYLOAD) →
      readLoop frames.flatten = messages) ∧
    (∀ stream, ∃ frames rest, stream = frames.flatten ++ rest ∧
      List.Forall₂ GoodFrame frames (readLoop stream) ∧
      ¬ ∃ bytes message tail, GoodFrame bytes message ∧ rest = bytes ++ tail) ∧
    (∀ frames messages rest, List.Forall₂ GoodFrame frames messages →
      messages <+: readLoop (frames.flatten ++ rest)) ∧
    (∀ frames messages header rest, List.Forall₂ GoodFrame frames messages → BadHeader header →
      readLoop (frames.flatten ++ (header ++ rest)) = messages) := by
  simp only [goodFrame_eq, readLoop_eq_deframe]
  refine ⟨fun frames messages built small => ?_, fun stream => ?_, fun frames messages rest good => ?_,
    fun frames messages header rest good bad => ?_⟩
  · have good : List.Forall₂ wireFormat.IsFrame frames messages := by
      induction built with
      | nil => exact .nil
      | cons head _ ih =>
        rw [List.forall_mem_cons] at small
        exact .cons (isFrame_of_goodFrame (goodFrame_of_built head small.1)) (ih small.2)
    have none : wireFormat.deframe [] = [] := FrameFormat.deframe_short (by decide)
    simpa [none] using FrameFormat.deframe_flatten_append good []
  · obtain ⟨frames, rest, split, good, stuck⟩ := @FrameFormat.deframe_decompose _ wireFormat stream
    exact ⟨frames, rest, split, good, (FrameFormat.deframe_eq_nil_iff rest).mp stuck⟩
  · exact FrameFormat.prefix_deframe good rest
  · rw [FrameFormat.deframe_flatten_append good,
      FrameFormat.deframe_refused bad.1 (badHeader_refused bad), List.append_nil]

/-- A message of an unknown type, an empty one, and one framed by the gateway. -/
theorem readLoop_framing_three :
    readLoop (frame 99 [1, 2] ++ (frame 1 [] ++
      (bigEndian 4 Gateway.MAGIC ++ bigEndian 1 Gateway.VERSION ++ bigEndian 1 20 ++
        bigEndian 4 0 ++ bigEndian 2 0))) = [(99, [1, 2]), (1, []), (20, [])] := by
  have all := readLoop_framing.1 [frame 99 [1, 2], frame 1 [], _]
    [(99, [1, 2]), (1, []), (20, [])]
    (.cons (.inl rfl) (.cons (.inl rfl) (.cons (.inr ⟨_, rfl, rfl⟩) .nil))) (by decide)
  simpa using all

end FileShareX.Net

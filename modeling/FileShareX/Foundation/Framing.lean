import FileShareX.Foundation.BigEndian
import Mathlib.Data.List.Forall2
import Mathlib.Data.List.Infix

/-!
# Length-prefixed framing

A format fixes the size of a header and what a header announces: a tag and the
length of the payload behind it, or nothing when the header is refused.  Frames
form a prefix code, so a stream has one longest sequence of frames in front.
-/

namespace Wire

structure FrameFormat (Tag : Type) where
  headerSize : Nat
  positive : 0 < headerSize
  decode : Bytes → Option (Tag × Nat)

namespace FrameFormat

variable {Tag : Type} (format : FrameFormat Tag)

/-- These bytes are one accepted header and exactly the payload it announces. -/
def IsFrame (frame : Bytes) (message : Tag × Bytes) : Prop :=
  ∃ header, header.length = format.headerSize ∧
    format.decode header = some (message.1, message.2.length) ∧ frame = header ++ message.2

/-- Take frames off the front until the header is refused or bytes are missing. -/
def deframe (stream : Bytes) : List (Tag × Bytes) :=
  if _ : stream.length < format.headerSize then []
  else match format.decode (stream.take format.headerSize) with
  | none => []
  | some (tag, len) =>
    let rest := stream.drop format.headerSize
    if rest.length < len then []
    else (tag, rest.take len) :: deframe (rest.drop len)
termination_by stream.length
decreasing_by
  have := format.positive
  simp only [List.length_drop, gt_iff_lt]
  omega

variable {format}

theorem deframe_short {stream : Bytes} (short : stream.length < format.headerSize) :
    format.deframe stream = [] := by
  rw [FrameFormat.deframe, dif_pos short]

theorem deframe_refused {header : Bytes} (width : header.length = format.headerSize)
    (refused : format.decode header = none) (rest : Bytes) :
    format.deframe (header ++ rest) = [] := by
  have long : ¬ (header ++ rest).length < format.headerSize := by
    simp only [List.length_append]
    omega
  rw [FrameFormat.deframe, dif_neg long, ← width, List.take_left, refused]

theorem deframe_missing {header : Bytes} {tag : Tag} {len : Nat}
    (width : header.length = format.headerSize) (decoded : format.decode header = some (tag, len))
    {rest : Bytes} (missing : rest.length < len) : format.deframe (header ++ rest) = [] := by
  have long : ¬ (header ++ rest).length < format.headerSize := by
    simp only [List.length_append]
    omega
  rw [FrameFormat.deframe, dif_neg long, ← width, List.take_left, decoded]
  simp only [List.drop_left]
  rw [if_pos missing]

theorem IsFrame.deframe {frame : Bytes} {message : Tag × Bytes}
    (good : format.IsFrame frame message) (rest : Bytes) :
    format.deframe (frame ++ rest) = message :: format.deframe rest := by
  obtain ⟨header, width, decoded, rfl⟩ := good
  rw [FrameFormat.deframe]
  have long : ¬ ((header ++ message.2) ++ rest).length < format.headerSize := by
    simp only [List.length_append]
    omega
  have front : ((header ++ message.2) ++ rest).take format.headerSize = header := by
    rw [← width, List.append_assoc, List.take_left]
  have behind : ((header ++ message.2) ++ rest).drop format.headerSize = message.2 ++ rest := by
    rw [← width, List.append_assoc, List.drop_left]
  have enough : ¬ (message.2 ++ rest).length < message.2.length := by simp
  rw [dif_neg long, front, decoded]
  simp only [behind]
  rw [if_neg enough, List.take_left, List.drop_left]

theorem deframe_flatten_append {frames : List Bytes} {messages : List (Tag × Bytes)}
    (good : List.Forall₂ format.IsFrame frames messages) (rest : Bytes) :
    format.deframe (frames.flatten ++ rest) = messages ++ format.deframe rest := by
  induction good with
  | nil => rfl
  | cons head _ ih => rw [List.flatten_cons, List.append_assoc, head.deframe, ih, List.cons_append]

theorem deframe_flatten {frames : List Bytes} {messages : List (Tag × Bytes)}
    (good : List.Forall₂ format.IsFrame frames messages) :
    format.deframe frames.flatten = messages := by
  have nothing : format.deframe [] = [] := deframe_short format.positive
  have whole := deframe_flatten_append good []
  rwa [List.append_nil, nothing, List.append_nil] at whole

/-- What is taken off is a sequence of frames, and none is left in front. -/
theorem deframe_decompose (stream : Bytes) :
    ∃ frames rest, stream = frames.flatten ++ rest ∧
      List.Forall₂ format.IsFrame frames (format.deframe stream) ∧ format.deframe rest = [] := by
  fun_induction format.deframe stream with
  | case1 stream short =>
    exact ⟨[], stream, rfl, .nil, deframe_short short⟩
  | case2 stream long refused =>
    exact ⟨[], stream, rfl, .nil, by rw [FrameFormat.deframe, dif_neg long, refused]⟩
  | case3 stream long tag len decoded rest missing =>
    refine ⟨[], stream, rfl, .nil, ?_⟩
    rw [FrameFormat.deframe, dif_neg long, decoded]
    exact if_pos missing
  | case4 stream long tag len decoded rest enough ih =>
    obtain ⟨frames, left, split, good, stuck⟩ := ih
    have payload : (rest.take len).length = len := by
      rw [List.length_take]
      omega
    refine ⟨(stream.take format.headerSize ++ rest.take len) :: frames, left, ?_,
      .cons ⟨stream.take format.headerSize, ?_, ?_, rfl⟩ good, stuck⟩
    · rw [List.flatten_cons, List.append_assoc, ← split, List.append_assoc, List.take_append_drop,
        List.take_append_drop]
    · rw [List.length_take]
      omega
    · rw [payload]
      exact decoded

theorem deframe_eq_nil_iff (stream : Bytes) :
    format.deframe stream = [] ↔
      ¬ ∃ frame message rest, format.IsFrame frame message ∧ stream = frame ++ rest := by
  constructor
  · rintro stuck ⟨frame, message, rest, good, rfl⟩
    rw [good.deframe] at stuck
    cases stuck
  · intro none
    obtain ⟨frames, rest, split, good, stuck⟩ := @deframe_decompose _ format stream
    cases frames with
    | nil => exact List.forall₂_nil_left_iff.mp good
    | cons frame frames =>
      obtain ⟨message, messages, head, -, -⟩ := List.forall₂_cons_left_iff.mp good
      exact absurd ⟨frame, message, frames.flatten ++ rest, head, by simpa using split⟩ none

/-- Any other sequence of frames in front of the stream is a prefix of it. -/
theorem prefix_deframe {frames : List Bytes} {messages : List (Tag × Bytes)}
    (good : List.Forall₂ format.IsFrame frames messages) (rest : Bytes) :
    messages <+: format.deframe (frames.flatten ++ rest) :=
  ⟨format.deframe rest, (deframe_flatten_append good rest).symm⟩

theorem deframe_mono {stream longer : Bytes} (grows : stream <+: longer) :
    format.deframe stream <+: format.deframe longer := by
  obtain ⟨behind, rfl⟩ := grows
  obtain ⟨frames, rest, split, good, -⟩ := @deframe_decompose _ format stream
  have front := prefix_deframe good (rest ++ behind)
  rwa [← List.append_assoc, ← split] at front

end FrameFormat

end Wire

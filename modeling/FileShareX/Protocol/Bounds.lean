import FileShareX.Protocol.AuthMessages
import FileShareX.Protocol.OnlineMessages
import FileShareX.Protocol.FileMessages

/-!
# Which payload bytes the parsers read

Nine of the ten parsers check a length before every read.  `FileDone` checks
for sixteen bytes once and then reads twenty.
-/

namespace FileShareX.Protocol

open Wire Reader

variable {v : Vec} {α : Type} {post : α → Prop}

theorem within_readU16 {pos : Nat} (inside : pos + 2 ≤ v.size) :
    Within v (readU16 pos) fun _ => True :=
  .bind (.bytes inside) fun _ _ => .pure trivial

theorem within_readU32 {pos : Nat} (inside : pos + 4 ≤ v.size) :
    Within v (readU32 pos) fun _ => True :=
  .bind (.bytes inside) fun _ _ => .pure trivial

theorem within_readU64 {pos : Nat} (inside : pos + 8 ≤ v.size) :
    Within v (readU64 pos) fun _ => True :=
  .bind (.bytes inside) fun _ _ => .pure trivial

theorem within_string {pos : Nat} {text : String} {next : UInt16 → Bytes → Reader α}
    (inside : pos + 2 ≤ v.size)
    (rest : ∀ len s, pos + 2 + len.toNat ≤ v.size → Within v (next len s) post) :
    Within v (do
      let len ← readU16 pos
      throwIf (pos + 2 + len.toNat > v.size) text
      let s ← bytes (pos + 2) len.toNat
      next len s) post := by
  refine .bind (within_readU16 inside) fun len _ => ?_
  refine .bind (.throwIf text) fun _ fits => ?_
  have fits := Nat.le_of_not_lt fits
  exact .bind (.bytes fits) fun s _ => rest len s fits

theorem within_trailing {pos : Nat} (inside : pos + 2 ≤ v.size) :
    Within v (do
      let len ← readU16 pos
      if pos + 2 + len.toNat ≤ v.size then bytes (pos + 2) len.toNat else pure [])
      fun _ => True :=
  .bind (within_readU16 inside) fun _ _ =>
    .ite (fun fits => (Within.bytes fits).weaken fun _ _ => trivial) fun _ => .pure trivial

theorem RegisterReq.deserialize_within (v : Vec) :
    Within v RegisterReq.deserialize fun _ => True := by
  refine .bind .size ?_
  rintro _ rfl
  refine .bind (.throwIf _) fun _ long => ?_
  refine within_string (by omega) fun username_len _ fits => ?_
  refine .bind (.throwIf _) fun _ room => ?_
  refine within_string (by omega) fun email_len _ fits => ?_
  refine .bind (.throwIf _) fun _ room => ?_
  exact within_string (by omega) fun password_len _ fits => .pure trivial

theorem LoginReq.deserialize_within (v : Vec) :
    Within v LoginReq.deserialize fun _ => True := by
  refine .bind .size ?_
  rintro _ rfl
  refine .bind (.throwIf _) fun _ long => ?_
  refine within_string (by omega) fun username_len _ fits => ?_
  refine .bind (.throwIf _) fun _ room => ?_
  exact within_string (by omega) fun password_len _ fits => .pure trivial

/-- Every round of the loop checks the room for its length field again. -/
theorem OnlineListResp.deserializeFrom_within (v : Vec) (count pos : Nat) (usernames : List Bytes) :
    Within v (OnlineListResp.deserializeFrom v.size count pos usernames) fun _ => True := by
  induction count generalizing pos usernames with
  | zero => exact .pure trivial
  | succ count ih =>
    refine .ite (fun room => ?_) fun _ => .pure trivial
    refine .bind (within_readU16 room) fun len _ => ?_
    refine .ite (fun fits => ?_) fun _ => ih _ _
    exact .bind (.bytes fits) fun username _ => ih _ _

theorem OnlineListResp.deserialize_within (v : Vec) :
    Within v OnlineListResp.deserialize fun _ => True := by
  refine .bind .size ?_
  rintro _ rfl
  refine .ite (fun _ => .pure trivial) fun long => ?_
  refine .bind (within_readU16 (by omega)) fun count _ => ?_
  exact .bind (deserializeFrom_within v _ _ _) fun usernames _ => .pure trivial

theorem FileOfferReq.deserialize_within (v : Vec) :
    Within v FileOfferReq.deserialize fun _ => True := by
  refine .bind .size ?_
  rintro _ rfl
  refine .bind (.throwIf _) fun _ long => ?_
  have first : Within v (if 0 + 8 ≤ v.size then do
      let id ← readU64 0
      pure (id, 8)
    else pure (0, 0) : Reader (UInt64 × Nat)) fun p => p.2 ≤ 8 :=
    .ite (fun room => .bind (within_readU64 room) fun _ _ => .pure (Nat.le_refl 8))
      fun _ => .pure (Nat.zero_le 8)
  refine .bind first fun ⟨client_transfer_id, pos⟩ start => ?_
  dsimp only at start ⊢
  refine .bind (.throwIf _) fun _ room => ?_
  refine within_string (by omega) fun receiver_username_len _ fits => ?_
  refine .bind (.throwIf _) fun _ room => ?_
  refine within_string (by omega) fun filename_len _ fits => ?_
  refine .bind (.throwIf _) fun _ room => ?_
  refine .bind (within_readU64 (by omega)) fun file_size _ => ?_
  refine .bind (.throwIf _) fun _ room => ?_
  exact .bind (within_readU32 (by omega)) fun chunk_size _ => .pure trivial

theorem FileOfferResp.deserialize_within (v : Vec) :
    Within v FileOfferResp.deserialize fun _ => True := by
  refine .bind .size ?_
  rintro _ rfl
  refine .bind (.throwIf _) fun _ long => ?_
  refine .bind (.byte (by omega)) fun status _ => ?_
  refine .bind (within_readU64 (by omega)) fun transfer_id _ => ?_
  refine .bind (.ite (fun room => within_trailing room.2) fun _ => .pure trivial) fun _ _ => ?_
  exact .pure trivial

theorem FileAcceptReq.deserialize_within (v : Vec) :
    Within v FileAcceptReq.deserialize fun _ => True := by
  refine .bind .size ?_
  rintro _ rfl
  refine .bind (.throwIf _) fun _ long => ?_
  refine .bind (within_readU64 (by omega)) fun transfer_id _ => ?_
  exact .bind (.byte (by omega)) fun accept _ => .pure trivial

theorem FileAcceptResp.deserialize_within (v : Vec) :
    Within v FileAcceptResp.deserialize fun _ => True := by
  refine .bind .size ?_
  rintro _ rfl
  refine .bind (.throwIf _) fun _ long => ?_
  refine .bind (.byte (by omega)) fun status _ => ?_
  refine .bind (.ite (fun room => within_trailing room.2) fun _ => .pure trivial) fun _ _ => ?_
  exact .pure trivial

theorem FileChunk.deserialize_within (v : Vec) :
    Within v FileChunk.deserialize fun _ => True := by
  refine .bind .size ?_
  rintro _ rfl
  refine .bind (.throwIf _) fun _ long => ?_
  refine .bind (within_readU64 (by omega)) fun transfer_id _ => ?_
  refine .bind (within_readU32 (by omega)) fun chunk_index _ => ?_
  have tail : Within v (if v.size > 12 then bytes 12 (v.size - 12) else pure [])
      fun _ => True :=
    .ite (fun more => (Within.bytes (by omega)).weaken fun _ _ => trivial) fun _ => .pure trivial
  exact .bind tail fun data _ => .pure trivial

theorem FileResult.deserialize_within (v : Vec) :
    Within v FileResult.deserialize fun _ => True := by
  refine .bind .size ?_
  rintro _ rfl
  refine .bind (.throwIf _) fun _ long => ?_
  refine .bind (within_readU64 (by omega)) fun transfer_id _ => ?_
  refine .bind (.byte (by omega)) fun status _ => ?_
  refine .bind (.ite (fun room => within_trailing room) fun _ => .pure trivial) fun _ _ => ?_
  exact .pure trivial

/-- Outside the four short lengths the single check of `FileDone` is enough. -/
theorem FileDone.deserialize_within {v : Vec} (covered : v.size < 16 ∨ 20 ≤ v.size) :
    Within v FileDone.deserialize fun _ => True := by
  refine .bind .size ?_
  rintro _ rfl
  refine .bind (.throwIf _) fun _ long => ?_
  refine .bind (within_readU64 (by omega)) fun transfer_id _ => ?_
  refine .bind (within_readU32 (by omega)) fun total_chunks _ => ?_
  exact .bind (within_readU64 (by omega)) fun file_size _ => .pure trivial

theorem FileDone.touches_last {v : Vec} (long : 16 ≤ v.size) :
    19 ∈ FileDone.deserialize.touched v := by
  have short : ¬ v.size < 16 := by omega
  unfold FileDone.deserialize readU64 readU32
  simp [touched_bind, short]

inductive WireParser where
  | registerReq | loginReq | onlineListResp
  | fileOfferReq | fileOfferResp | fileAcceptReq | fileAcceptResp
  | fileChunk | fileDone | fileResult
  deriving DecidableEq

namespace WireParser

def Parsed : WireParser → Type
  | registerReq => RegisterReq
  | loginReq => LoginReq
  | onlineListResp => OnlineListResp
  | fileOfferReq => FileOfferReq
  | fileOfferResp => FileOfferResp
  | fileAcceptReq => FileAcceptReq
  | fileAcceptResp => FileAcceptResp
  | fileChunk => FileChunk
  | fileDone => FileDone
  | fileResult => FileResult

def deserialize : (parser : WireParser) → Reader parser.Parsed
  | registerReq => RegisterReq.deserialize
  | loginReq => LoginReq.deserialize
  | onlineListResp => OnlineListResp.deserialize
  | fileOfferReq => FileOfferReq.deserialize
  | fileOfferResp => FileOfferResp.deserialize
  | fileAcceptReq => FileAcceptReq.deserialize
  | fileAcceptResp => FileAcceptResp.deserialize
  | fileChunk => FileChunk.deserialize
  | fileDone => FileDone.deserialize
  | fileResult => FileResult.deserialize

/-- The parser throws or returns, and reads only indices below `payload.size()`. -/
def StaysInBounds (parser : WireParser) (payload : Vec) : Prop :=
  ((∃ text, parser.deserialize.result payload = .error text) ∨
    ∃ message, parser.deserialize.result payload = .ok message) ∧
  ∀ i ∈ parser.deserialize.touched payload, i < payload.size

theorem staysInBounds_of_within {parser : WireParser} {payload : Vec}
    (within : Within payload parser.deserialize fun _ => True) :
    parser.StaysInBounds payload := by
  refine ⟨?_, within.1⟩
  cases outcome : parser.deserialize.result payload with
  | error text => exact .inl ⟨text, rfl⟩
  | ok message => exact .inr ⟨message, rfl⟩

/-- Every parser stays inside every payload, except `FileDone` on sixteen to
nineteen bytes. -/
theorem staysInBounds_iff (parser : WireParser) (payload : Vec) :
    parser.StaysInBounds payload ↔
      ¬ (parser = fileDone ∧ 16 ≤ payload.size ∧ payload.size < 20) := by
  constructor
  · rintro ⟨-, inside⟩ ⟨rfl, long, short⟩
    have last := inside 19 (FileDone.touches_last long)
    omega
  · intro outside
    apply staysInBounds_of_within
    cases parser with
    | registerReq => exact RegisterReq.deserialize_within payload
    | loginReq => exact LoginReq.deserialize_within payload
    | onlineListResp => exact OnlineListResp.deserialize_within payload
    | fileOfferReq => exact FileOfferReq.deserialize_within payload
    | fileOfferResp => exact FileOfferResp.deserialize_within payload
    | fileAcceptReq => exact FileAcceptReq.deserialize_within payload
    | fileAcceptResp => exact FileAcceptResp.deserialize_within payload
    | fileChunk => exact FileChunk.deserialize_within payload
    | fileDone =>
      refine FileDone.deserialize_within ?_
      by_contra short
      exact outside ⟨rfl, by omega, by omega⟩
    | fileResult => exact FileResult.deserialize_within payload

/-- Sixteen zero bytes pass the check of `FileDone`, which then reads offset nineteen. -/
theorem fileDone_reads_past_sixteen_bytes :
    ¬ ∀ parser : WireParser, ∀ payload : Vec, parser.StaysInBounds payload := by
  intro all
  have inside := (all fileDone ⟨List.replicate 16 0, fun _ => 0⟩).2
  exact absurd (inside 19 (by decide)) (by decide)

end WireParser

end FileShareX.Protocol

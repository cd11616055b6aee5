import FileShareX.Protocol.Grammar
import FileShareX.Protocol.OnlineMessages

/-!
# Messages survive the wire

What one side serializes is what the other side's parser returns, whatever
memory lies behind the payload.
-/

namespace FileShareX.Protocol

open Wire Reader

variable {v : Vec}

/-! ### Fields of a received payload -/

theorem hasAt_self (bytes : Bytes) (beyond : Nat → UInt8) : Vec.HasAt ⟨bytes, beyond⟩ 0 bytes :=
  Vec.hasAt_zero.mpr ⟨[], (List.append_nil _).symm⟩

theorem byte_of_hasAt {pos : Nat} {b : UInt8} (present : v.HasAt pos [b]) : v.byte pos = b := by
  simpa [Vec.slice] using present.2

theorem status_byte (ok : Bool) : ((if ok then 0 else 1 : UInt8) == 0) = ok := by
  cases ok <;> rfl

theorem flag_byte (ok : Bool) : ((if ok then 1 else 0 : UInt8) != 0) = ok := by
  cases ok <;> rfl

theorem result_trailing {pos : Nat} {s : Bytes} (short : s.length ≤ 65535)
    (present : v.HasAt pos (counted s)) :
    (do let len ← readU16 pos
        if pos + 2 + len.toNat ≤ v.size then bytes (pos + 2) len.toNat else pure []
        : Reader Bytes).result v = .ok s := by
  obtain ⟨-, -, fits, same⟩ := (hasAt_counted short).mp present
  rw [result_bind, result_readU16, ok_bind, result_ite, if_pos fits, result_bytes, same]

/-! ### Requests -/

namespace FileOfferReq

theorem result_serialize {req : FileOfferReq} (receiver : req.receiver_username.length < 2 ^ 16)
    (filename : req.filename.length < 2 ^ 16) (beyond : Nat → UInt8) :
    deserialize.result ⟨req.serialize, beyond⟩ = .ok req :=
  (deserialize_eq_ok _ req).mpr ⟨⟨by omega, by omega⟩, hasAt_self _ _⟩

end FileOfferReq

namespace FileAcceptReq

theorem result_of_hasAt {req : FileAcceptReq} (present : v.HasAt 0 req.serialize) :
    deserialize.result v = .ok req := by
  rw [serialize, Vec.hasAt_append, htobe64_length, Nat.zero_add] at present
  obtain ⟨id, accept⟩ := present
  have long : 9 ≤ v.size := accept.1
  have flag : ((if req.accept then 1 else 0 : UInt8) == 1) = req.accept := by
    cases req.accept <;> rfl
  simp only [deserialize, result_bind, result_size, ok_bind, result_throwIf, result_readU64,
    result_byte, result_pure, Nat.not_lt.mpr long, if_false]
  rw [(hasAt_htobe64.mp id).2, byte_of_hasAt accept, flag]

theorem result_serialize (req : FileAcceptReq) (beyond : Nat → UInt8) :
    deserialize.result ⟨req.serialize, beyond⟩ = .ok req :=
  result_of_hasAt (hasAt_self _ _)

end FileAcceptReq

namespace FileChunk

/-- The data is the rest of the payload, so nothing may follow the chunk. -/
theorem result_of_hasAt {chunk : FileChunk} (present : v.HasAt 0 chunk.serialize)
    (size : v.size = 12 + chunk.data.length) : deserialize.result v = .ok chunk := by
  rw [serialize, Vec.hasAt_append, Vec.hasAt_append, htobe64_length, htonl_length,
    Nat.zero_add] at present
  obtain ⟨id, index, data⟩ := present
  have tail : (if v.size > 12 then bytes 12 (v.size - 12) else pure [] : Reader Bytes).result v =
      .ok chunk.data := by
    rw [size]
    split
    · rw [Nat.add_sub_cancel_left, result_bytes]
      exact congrArg Except.ok data.2
    · have empty : chunk.data = [] := List.length_eq_zero_iff.mp (by omega)
      rw [empty, result_pure]
  simp only [deserialize, result_bind, result_size, ok_bind, result_throwIf, result_readU64,
    result_readU32, result_pure, tail, show ¬ v.size < 12 by omega, if_false]
  rw [(hasAt_htobe64.mp id).2, (hasAt_htonl.mp index).2]

theorem result_serialize (chunk : FileChunk) (beyond : Nat → UInt8) :
    deserialize.result ⟨chunk.serialize, beyond⟩ = .ok chunk :=
  result_of_hasAt (hasAt_self _ _) (by simp [Vec.size, serialize]; omega)

end FileChunk

namespace FileDone

theorem result_of_hasAt {done : FileDone} (present : v.HasAt 0 done.serialize) :
    deserialize.result v = .ok done := by
  rw [serialize, Vec.hasAt_append, Vec.hasAt_append, htobe64_length, htonl_length,
    Nat.zero_add] at present
  obtain ⟨id, chunks, fileSize⟩ := present
  have long : 20 ≤ v.size := (hasAt_htobe64.mp fileSize).1
  simp only [deserialize, result_bind, result_size, ok_bind, result_throwIf, result_readU64,
    result_readU32, result_pure, show ¬ v.size < 16 by omega, if_false]
  rw [(hasAt_htobe64.mp id).2, (hasAt_htonl.mp chunks).2, (hasAt_htobe64.mp fileSize).2]

theorem result_serialize (done : FileDone) (beyond : Nat → UInt8) :
    deserialize.result ⟨done.serialize, beyond⟩ = .ok done :=
  result_of_hasAt (hasAt_self _ _)

end FileDone

/-! ### Responses -/

namespace FileOfferResp

/-- The reason goes on the wire only when the offer failed. -/
def received (resp : FileOfferResp) : FileOfferResp :=
  { resp with reason := if resp.ok then [] else resp.reason }

theorem result_of_hasAt {resp : FileOfferResp} (short : resp.reason.length ≤ 65535)
    (present : v.HasAt 0 resp.serialize) : deserialize.result v = .ok resp.received := by
  rw [serialize, ← List.singleton_append, Vec.hasAt_append, Vec.hasAt_append] at present
  obtain ⟨status, id, reason⟩ := present
  replace id : v.HasAt 1 (htobe64 resp.transfer_id) := id
  have long : 9 ≤ v.size := (hasAt_htobe64.mp id).1
  have tail : (if !resp.ok ∧ 9 + 2 ≤ v.size then do
      let reason_len ← readU16 9
      if 11 + reason_len.toNat ≤ v.size then bytes 11 reason_len.toNat else pure []
      else pure [] : Reader Bytes).result v = .ok resp.received.reason := by
    unfold received
    cases outcome : resp.ok with
    | true => rfl
    | false =>
      rw [outcome] at reason
      obtain ⟨room, -⟩ := (hasAt_counted short).mp reason
      rw [if_pos ⟨rfl, room⟩]
      exact result_trailing short reason
  unfold deserialize
  simp only [result_bind, result_size, ok_bind, result_throwIf, result_readU64, result_byte,
    result_pure, Nat.not_lt.mpr long, if_false]
  rw [byte_of_hasAt status, status_byte, tail, ok_bind, (hasAt_htobe64.mp id).2]
  rfl

end FileOfferResp

namespace FileAcceptResp

@[inherit_doc FileOfferResp.received]
def received (resp : FileAcceptResp) : FileAcceptResp :=
  { resp with reason := if resp.ok then [] else resp.reason }

theorem result_of_hasAt {resp : FileAcceptResp} (short : resp.reason.length ≤ 65535)
    (present : v.HasAt 0 resp.serialize) : deserialize.result v = .ok resp.received := by
  rw [serialize, ← List.singleton_append, Vec.hasAt_append] at present
  obtain ⟨status, reason⟩ := present
  have long : 1 ≤ v.size := status.1
  have tail : (if !resp.ok ∧ 3 ≤ v.size then do
      let reason_len ← readU16 1
      if 3 + reason_len.toNat ≤ v.size then bytes 3 reason_len.toNat else pure []
      else pure [] : Reader Bytes).result v = .ok resp.received.reason := by
    unfold received
    cases outcome : resp.ok with
    | true => rfl
    | false =>
      rw [outcome] at reason
      obtain ⟨room, -⟩ := (hasAt_counted short).mp reason
      rw [if_pos ⟨rfl, room⟩]
      exact result_trailing short reason
  unfold deserialize
  simp only [result_bind, result_size, ok_bind, result_throwIf, result_byte, result_pure,
    Nat.not_lt.mpr long, if_false]
  rw [byte_of_hasAt status, status_byte, tail, ok_bind]
  rfl

end FileAcceptResp

namespace FileResult

theorem result_of_hasAt {result : FileResult} (short : result.path_or_reason.length ≤ 65535)
    (present : v.HasAt 0 result.serialize) : deserialize.result v = .ok result := by
  rw [serialize, Vec.hasAt_append, ← List.singleton_append, Vec.hasAt_append, htobe64_length,
    Nat.zero_add] at present
  obtain ⟨id, status, text⟩ := present
  have long : 9 ≤ v.size := status.1
  have room : 11 ≤ v.size := ((hasAt_counted short).mp text).1
  have tail : (if 11 ≤ v.size then do
      let path_len ← readU16 9
      if 11 + path_len.toNat ≤ v.size then bytes 11 path_len.toNat else pure []
      else pure [] : Reader Bytes).result v = .ok result.path_or_reason := by
    rw [if_pos room]
    exact result_trailing short text
  unfold deserialize
  simp only [result_bind, result_size, ok_bind, result_throwIf, result_readU64, result_byte,
    result_pure, Nat.not_lt.mpr long, if_false]
  rw [byte_of_hasAt status, status_byte, tail, ok_bind, (hasAt_htobe64.mp id).2]

end FileResult

namespace OnlineListResp

theorem result_deserializeFrom {names : List Bytes} (short : ∀ name ∈ names, name.length ≤ 65535)
    {pos : Nat} (present : v.HasAt pos (names.flatMap counted)) (usernames : List Bytes) :
    (deserializeFrom v.size names.length pos usernames).result v = .ok (usernames ++ names) := by
  induction names generalizing pos usernames with
  | nil => simp [deserializeFrom]
  | cons name names ih =>
    have fits : name.length ≤ 65535 := short name List.mem_cons_self
    rw [List.flatMap_cons, Vec.hasAt_append, counted_length, ← Nat.add_assoc] at present
    obtain ⟨room, width, inside, same⟩ := (hasAt_counted fits).mp present.1
    rw [width, ofNat_length_toNat fits] at inside same
    rw [List.length_cons, deserializeFrom, if_pos room, result_bind, result_readU16, ok_bind, width,
      ofNat_length_toNat fits, if_pos inside, result_bind, result_bytes, ok_bind, same,
      ih (fun later member => short later (List.mem_cons_of_mem _ member)) present.2]
    simp

theorem result_of_hasAt {resp : OnlineListResp} (few : resp.usernames.length ≤ 65535)
    (short : ∀ name ∈ resp.usernames, name.length ≤ 65535) (present : v.HasAt 0 resp.serialize) :
    deserialize.result v = .ok resp := by
  rw [serialize, Vec.hasAt_append, htons_length, Nat.zero_add] at present
  obtain ⟨room, count⟩ := hasAt_htons.mp present.1
  unfold deserialize
  simp only [result_bind, result_size, ok_bind, result_ite, result_readU16, result_pure,
    Nat.not_lt.mpr room, if_false]
  rw [count, ofNat_length_toNat few, result_deserializeFrom short present.2, ok_bind, List.nil_append]

end OnlineListResp

def Survives {α : Type} (serialize : α → Bytes) (deserialize : Reader α) (fits : α → Prop)
    (received : α → α) : Prop :=
  ∀ m, fits m → ∀ beyond, deserialize.result ⟨serialize m, beyond⟩ = .ok (received m)

/-- Every message of the core comes back from the wire as it was, an ok response
without its reason. -/
theorem decode_undoes_encode :
    Survives FileOfferResp.serialize FileOfferResp.deserialize (·.reason.length ≤ 65535)
        FileOfferResp.received ∧
      Survives FileAcceptReq.serialize FileAcceptReq.deserialize (fun _ => True) id ∧
      Survives FileAcceptResp.serialize FileAcceptResp.deserialize (·.reason.length ≤ 65535)
        FileAcceptResp.received ∧
      Survives FileChunk.serialize FileChunk.deserialize (fun _ => True) id ∧
      Survives FileDone.serialize FileDone.deserialize (fun _ => True) id ∧
      Survives FileResult.serialize FileResult.deserialize (·.path_or_reason.length ≤ 65535) id ∧
      Survives OnlineListResp.serialize OnlineListResp.deserialize
        (fun resp => resp.usernames.length ≤ 65535 ∧ ∀ name ∈ resp.usernames, name.length ≤ 65535)
        id :=
  ⟨fun _ short _ => FileOfferResp.result_of_hasAt short (hasAt_self _ _),
    fun req _ beyond => FileAcceptReq.result_serialize req beyond,
    fun _ short _ => FileAcceptResp.result_of_hasAt short (hasAt_self _ _),
    fun chunk _ beyond => FileChunk.result_serialize chunk beyond,
    fun done _ beyond => FileDone.result_serialize done beyond,
    fun _ short _ => FileResult.result_of_hasAt short (hasAt_self _ _),
    fun _ fits _ => OnlineListResp.result_of_hasAt fits.1 fits.2 (hasAt_self _ _)⟩

/-- Two names, the second one empty. -/
theorem decode_undoes_encode_sample :
    OnlineListResp.deserialize.result ⟨OnlineListResp.serialize ⟨[[98, 111, 98], []]⟩, fun _ => 0⟩ =
      .ok ⟨[[98, 111, 98], []]⟩ :=
  decode_undoes_encode.2.2.2.2.2.2 ⟨[[98, 111, 98], []]⟩ (by decide) _

end FileShareX.Protocol

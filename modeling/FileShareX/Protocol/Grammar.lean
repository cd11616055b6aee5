import FileShareX.Protocol.AuthMessages
import FileShareX.Protocol.FileMessages

/-!
# What the variable-length request parsers accept

The comments above the three requests give a grammar: strings behind a 16-bit
length, integers in network order.  A parser returns a message exactly on the
payloads that begin with the message's canonical encoding.
-/

namespace FileShareX.Protocol

open Wire Reader

variable {v : Vec} {α : Type} {m : α}

/-! ### Fields -/

/-- A string behind its 16-bit length. -/
def counted (s : Bytes) : Bytes := htons (UInt16.ofNat s.length) ++ s

@[simp] theorem counted_length (s : Bytes) : (counted s).length = 2 + s.length := by
  simp [counted]

theorem ofNat_length_toNat {β : Type} {field : List β} (short : field.length ≤ 65535) :
    (UInt16.ofNat field.length).toNat = field.length := by
  rw [UInt16.toNat_ofNat', Nat.mod_eq_of_lt (by omega)]

theorem hasAt_htons {pos : Nat} {x : UInt16} :
    v.HasAt pos (htons x) ↔ pos + 2 ≤ v.size ∧ ntohs (v.slice pos 2) = x := by
  simp only [Vec.HasAt, htons_length]
  refine and_congr_right fun _ => ⟨fun same => by rw [same, ntohs_htons], ?_⟩
  rintro rfl
  rw [htons_ntohs (by simp)]

theorem hasAt_htonl {pos : Nat} {x : UInt32} :
    v.HasAt pos (htonl x) ↔ pos + 4 ≤ v.size ∧ ntohl (v.slice pos 4) = x := by
  simp only [Vec.HasAt, htonl_length]
  refine and_congr_right fun _ => ⟨fun same => by rw [same, ntohl_htonl], ?_⟩
  rintro rfl
  rw [htonl_ntohl (by simp)]

theorem hasAt_htobe64 {pos : Nat} {x : UInt64} :
    v.HasAt pos (htobe64 x) ↔ pos + 8 ≤ v.size ∧ be64toh (v.slice pos 8) = x := by
  simp only [Vec.HasAt, htobe64_length]
  refine and_congr_right fun _ => ⟨fun same => by rw [same, be64toh_htobe64], ?_⟩
  rintro rfl
  rw [htobe64_be64toh (by simp)]

theorem hasAt_counted {pos : Nat} {s : Bytes} (short : s.length ≤ 65535) :
    v.HasAt pos (counted s) ↔ pos + 2 ≤ v.size ∧ ntohs (v.slice pos 2) = UInt16.ofNat s.length ∧
      pos + 2 + (ntohs (v.slice pos 2)).toNat ≤ v.size ∧
      v.slice (pos + 2) (ntohs (v.slice pos 2)).toNat = s := by
  rw [counted, Vec.hasAt_append, hasAt_htons, htons_length, and_assoc]
  refine and_congr_right fun _ => and_congr_right fun width => ?_
  rw [width, ofNat_length_toNat short, Vec.HasAt]

theorem string_bind_eq_ok {pos : Nat} {text : String} {next : UInt16 → Bytes → Reader α}
    (inside : pos + 2 ≤ v.size) :
    (do let len ← readU16 pos
        throwIf (pos + 2 + len.toNat > v.size) text
        let s ← bytes (pos + 2) len.toNat
        next len s : Reader α).result v = .ok m ↔
      ∃ s : Bytes, s.length ≤ 65535 ∧ v.HasAt pos (counted s) ∧
        (next (UInt16.ofNat s.length) s).result v = .ok m := by
  rw [result_bind, result_readU16, ok_bind, throwIf_bind_eq_ok, result_bind, result_bytes, ok_bind]
  constructor
  · rintro ⟨fits, returned⟩
    have bound := (ntohs (v.slice pos 2)).toNat_lt
    have width : UInt16.ofNat (v.slice (pos + 2) (ntohs (v.slice pos 2)).toNat).length =
        ntohs (v.slice pos 2) := by
      rw [Vec.slice_length, UInt16.ofNat_toNat]
    have short : (v.slice (pos + 2) (ntohs (v.slice pos 2)).toNat).length ≤ 65535 := by
      rw [Vec.slice_length]
      omega
    refine ⟨_, short, (hasAt_counted short).mpr ⟨inside, width.symm, by omega, rfl⟩, ?_⟩
    rw [width]
    exact returned
  · rintro ⟨s, short, present, returned⟩
    obtain ⟨-, width, fits, same⟩ := (hasAt_counted short).mp present
    refine ⟨by omega, ?_⟩
    rw [same, width]
    exact returned

/-! ### Exact grammars -/

/-- The parser returns `m` exactly on the payloads that begin with the encoding
of a fitting `m`, and throws on all others. -/
def ParsesExactly (parser : Reader α) (fits : α → Prop) (encode : α → Bytes) : Prop :=
  ∀ payload : Vec,
    (∀ m, parser.result payload = .ok m ↔
      fits m ∧ ∃ trailing, payload.bytes = encode m ++ trailing) ∧
    ((¬ ∃ m, fits m ∧ ∃ trailing, payload.bytes = encode m ++ trailing) →
      ∃ text, parser.result payload = .error text)

/-- Throwing is all that is left for a parser that does not return. -/
theorem parsesExactly_of_hasAt {parser : Reader α} {fits : α → Prop} {encode : α → Bytes}
    (exact : ∀ payload m, parser.result payload = .ok m ↔ fits m ∧ payload.HasAt 0 (encode m)) :
    ParsesExactly parser fits encode := by
  intro payload
  have returns (m : α) : parser.result payload = .ok m ↔
      fits m ∧ ∃ trailing, payload.bytes = encode m ++ trailing := by
    rw [exact, Vec.hasAt_zero]
  refine ⟨returns, fun none => ?_⟩
  cases outcome : parser.result payload with
  | error text => exact ⟨text, rfl⟩
  | ok m => exact absurd ⟨m, (returns m).mp outcome⟩ none

namespace RegisterReq

def Fits (req : RegisterReq) : Prop :=
  req.username.length ≤ 65535 ∧ req.email.length ≤ 65535 ∧ req.password.length ≤ 65535

/-- The layout in the comment above `RegisterReq`. -/
def canonical (req : RegisterReq) : Bytes :=
  counted req.username ++ (counted req.email ++ counted req.password)

theorem deserialize_eq_ok (payload : Vec) (req : RegisterReq) :
    deserialize.result payload = .ok req ↔ req.Fits ∧ payload.HasAt 0 req.canonical := by
  rw [canonical, Vec.hasAt_append, Vec.hasAt_append, counted_length, counted_length]
  constructor
  · intro accepted
    obtain ⟨long, accepted⟩ := throwIf_bind_eq_ok.mp accepted
    obtain ⟨username, short₁, first, accepted⟩ := (string_bind_eq_ok (by omega)).mp accepted
    rw [ofNat_length_toNat short₁, Nat.add_assoc 0] at accepted
    obtain ⟨room₂, accepted⟩ := throwIf_bind_eq_ok.mp accepted
    obtain ⟨email, short₂, second, accepted⟩ := (string_bind_eq_ok (by omega)).mp accepted
    rw [ofNat_length_toNat short₂, Nat.add_assoc _ 2] at accepted
    obtain ⟨room₃, accepted⟩ := throwIf_bind_eq_ok.mp accepted
    obtain ⟨password, short₃, third, accepted⟩ := (string_bind_eq_ok (by omega)).mp accepted
    cases accepted
    exact ⟨⟨short₁, short₂, short₃⟩, first, second, third⟩
  · rintro ⟨⟨short₁, short₂, short₃⟩, first, second, third⟩
    have bound := third.1
    rw [counted_length] at bound
    refine throwIf_bind_eq_ok.mpr ⟨by omega, ?_⟩
    refine (string_bind_eq_ok (by omega)).mpr ⟨req.username, short₁, first, ?_⟩
    rw [ofNat_length_toNat short₁, Nat.add_assoc 0]
    refine throwIf_bind_eq_ok.mpr ⟨by omega, ?_⟩
    refine (string_bind_eq_ok (by omega)).mpr ⟨req.email, short₂, second, ?_⟩
    rw [ofNat_length_toNat short₂, Nat.add_assoc _ 2]
    refine throwIf_bind_eq_ok.mpr ⟨by omega, ?_⟩
    exact (string_bind_eq_ok (by omega)).mpr ⟨req.password, short₃, third, rfl⟩

end RegisterReq

namespace LoginReq

def Fits (req : LoginReq) : Prop := req.username.length ≤ 65535 ∧ req.password.length ≤ 65535

/-- The layout in the comment above `LoginReq`. -/
def canonical (req : LoginReq) : Bytes := counted req.username ++ counted req.password

theorem deserialize_eq_ok (payload : Vec) (req : LoginReq) :
    deserialize.result payload = .ok req ↔ req.Fits ∧ payload.HasAt 0 req.canonical := by
  rw [canonical, Vec.hasAt_append, counted_length]
  constructor
  · intro accepted
    obtain ⟨long, accepted⟩ := throwIf_bind_eq_ok.mp accepted
    obtain ⟨username, short₁, first, accepted⟩ := (string_bind_eq_ok (by omega)).mp accepted
    rw [ofNat_length_toNat short₁, Nat.add_assoc 0] at accepted
    obtain ⟨room₂, accepted⟩ := throwIf_bind_eq_ok.mp accepted
    obtain ⟨password, short₂, second, accepted⟩ := (string_bind_eq_ok (by omega)).mp accepted
    cases accepted
    exact ⟨⟨short₁, short₂⟩, first, second⟩
  · rintro ⟨⟨short₁, short₂⟩, first, second⟩
    have bound := second.1
    rw [counted_length] at bound
    refine throwIf_bind_eq_ok.mpr ⟨by omega, ?_⟩
    refine (string_bind_eq_ok (by omega)).mpr ⟨req.username, short₁, first, ?_⟩
    rw [ofNat_length_toNat short₁, Nat.add_assoc 0]
    refine throwIf_bind_eq_ok.mpr ⟨by omega, ?_⟩
    exact (string_bind_eq_ok (by omega)).mpr ⟨req.password, short₂, second, rfl⟩

end LoginReq

namespace FileOfferReq

def Fits (req : FileOfferReq) : Prop :=
  req.receiver_username.length ≤ 65535 ∧ req.filename.length ≤ 65535

theorem deserialize_eq_ok (payload : Vec) (req : FileOfferReq) :
    deserialize.result payload = .ok req ↔ req.Fits ∧ payload.HasAt 0 req.serialize := by
  have layout : req.serialize = htobe64 req.client_transfer_id ++ (counted req.receiver_username ++
      (counted req.filename ++ (htobe64 req.file_size ++ htonl req.chunk_size))) := by
    simp [serialize, counted]
  rw [layout, Vec.hasAt_append, Vec.hasAt_append, Vec.hasAt_append, Vec.hasAt_append, counted_length,
    counted_length, htobe64_length, htobe64_length]
  constructor
  · intro accepted
    obtain ⟨long, accepted⟩ := throwIf_bind_eq_ok.mp accepted
    rw [result_bind, if_pos (by omega), result_bind, result_readU64, ok_bind, result_pure,
      ok_bind] at accepted
    obtain ⟨room₁, accepted⟩ := throwIf_bind_eq_ok.mp accepted
    obtain ⟨receiver, short₁, first, accepted⟩ := (string_bind_eq_ok (by omega)).mp accepted
    rw [ofNat_length_toNat short₁, Nat.add_assoc 8] at accepted
    obtain ⟨room₂, accepted⟩ := throwIf_bind_eq_ok.mp accepted
    obtain ⟨filename, short₂, second, accepted⟩ := (string_bind_eq_ok (by omega)).mp accepted
    rw [ofNat_length_toNat short₂, Nat.add_assoc _ 2] at accepted
    obtain ⟨room₃, accepted⟩ := throwIf_bind_eq_ok.mp accepted
    rw [result_bind, result_readU64, ok_bind] at accepted
    obtain ⟨room₄, accepted⟩ := throwIf_bind_eq_ok.mp accepted
    rw [result_bind, result_readU32, ok_bind] at accepted
    cases accepted
    dsimp only
    exact ⟨⟨short₁, short₂⟩, hasAt_htobe64.mpr ⟨by omega, rfl⟩, first, second,
      hasAt_htobe64.mpr ⟨by omega, rfl⟩, hasAt_htonl.mpr ⟨by omega, rfl⟩⟩
  · rintro ⟨⟨short₁, short₂⟩, id, first, second, size, chunk⟩
    obtain ⟨bound, chunk⟩ := hasAt_htonl.mp chunk
    refine throwIf_bind_eq_ok.mpr ⟨by omega, ?_⟩
    rw [result_bind, if_pos (by omega), result_bind, result_readU64, ok_bind, result_pure, ok_bind]
    refine throwIf_bind_eq_ok.mpr ⟨by omega, ?_⟩
    refine (string_bind_eq_ok (by omega)).mpr ⟨req.receiver_username, short₁, first, ?_⟩
    rw [ofNat_length_toNat short₁, Nat.add_assoc 8]
    refine throwIf_bind_eq_ok.mpr ⟨by omega, ?_⟩
    refine (string_bind_eq_ok (by omega)).mpr ⟨req.filename, short₂, second, ?_⟩
    rw [ofNat_length_toNat short₂, Nat.add_assoc _ 2]
    refine throwIf_bind_eq_ok.mpr ⟨by omega, ?_⟩
    rw [result_bind, result_readU64, ok_bind]
    refine throwIf_bind_eq_ok.mpr ⟨by omega, ?_⟩
    rw [result_bind, result_readU32, ok_bind, result_pure, chunk, (hasAt_htobe64.mp size).2,
      (hasAt_htobe64.mp id).2]

end FileOfferReq

/-- The three requests with strings in them are parsed by exactly their documented grammar. -/
theorem requests_parse_exactly :
    ParsesExactly RegisterReq.deserialize RegisterReq.Fits RegisterReq.canonical ∧
      ParsesExactly LoginReq.deserialize LoginReq.Fits LoginReq.canonical ∧
      ParsesExactly FileOfferReq.deserialize FileOfferReq.Fits FileOfferReq.serialize :=
  ⟨parsesExactly_of_hasAt RegisterReq.deserialize_eq_ok,
    parsesExactly_of_hasAt LoginReq.deserialize_eq_ok,
    parsesExactly_of_hasAt FileOfferReq.deserialize_eq_ok⟩

end FileShareX.Protocol

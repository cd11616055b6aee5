import FileShareX.Auth.PasswordHash
import FileShareX.Foundation.Pieces

/-!
# Lax hexadecimal fields

`from_hex` checks that its text has an even length and no more: what the stream
extraction makes of a pair is taken, whether it read both characters, one or none.
Where the verifier can accept, its salt and hash fields went through `from_hex`.
-/

namespace FileShareX.Auth

open Wire

variable {crypto : Crypto} {password text hash_hex : Bytes}

def SameUpToCase (text other : Bytes) : Prop := text.map lower = other.map lower

/-- What is decoded without an exception can be written back. -/
def Strict (crypto : Crypto) (text : Bytes) : Prop :=
  ∀ bytes, from_hex crypto text = .ok bytes → SameUpToCase (to_hex bytes) text

def AllDigits (text : Bytes) : Prop := ∀ c ∈ text, isHexDigit c = true

def IsHex (text : Bytes) : Prop := text.length % 2 = 0 ∧ AllDigits text

theorem from_hex_eq_ok {bytes : Bytes} :
    from_hex crypto text = .ok bytes ↔ text.length % 2 = 0 ∧ bytes = hexGroups crypto text := by
  rw [from_hex]
  by_cases odd : text.length % 2 ≠ 0
  · rw [if_pos odd]
    exact ⟨(by cases ·), fun even => absurd even.1 odd⟩
  · rw [if_neg odd]
    exact ⟨fun decoded => ⟨not_not.mp odd, (Except.ok.inj decoded).symm⟩,
      fun decoded => congrArg Except.ok decoded.2.symm⟩

theorem hex_map_lower (data : Bytes) : (hex data).map lower = hex data := by
  refine (List.map_congr_left fun c member => ?_).trans (List.map_id _)
  obtain ⟨n, small, rfl⟩ := mem_hex member
  exact lower_hexDigit small

theorem hex_cons (byte : UInt8) (rest : Bytes) : hex (byte :: rest) = hex [byte] ++ hex rest := by
  simp [hex]

theorem pairs_induction {motive : (text : Bytes) → text.length % 2 = 0 → Prop}
    (nil : motive [] rfl)
    (pair : ∀ high low rest even even', motive rest even → motive (high :: low :: rest) even')
    (text : Bytes) (even : text.length % 2 = 0) : motive text even := by
  induction text using hexGroups.induct with
  | case1 high low rest ih =>
    have evenRest : rest.length % 2 = 0 := by
      simp only [List.length_cons] at even
      omega
    exact pair high low rest evenRest even (ih evenRest)
  | case2 text short =>
    cases text with
    | nil => exact nil
    | cons c rest =>
      cases rest with
      | nil => cases even
      | cons => exact (short _ _ _ rfl).elim

/-- Pair by pair, decoding and writing back changes nothing but the case of digits. -/
theorem hex_hexGroups_iff (crypto : Crypto) (text : Bytes) (even : text.length % 2 = 0) :
    hex (hexGroups crypto text) = text.map lower ↔ AllDigits text := by
  induction text, even using pairs_induction with
  | nil => simp [hexGroups, hex, AllDigits]
  | pair high low rest even even' ih =>
    have front : (high :: low :: rest).map lower = [lower high, lower low] ++ rest.map lower := rfl
    have split (byte : UInt8) (bytes : Bytes) :
        hex [byte] ++ hex bytes = [lower high, lower low] ++ rest.map lower ↔
          hex [byte] = [lower high, lower low] ∧ hex bytes = rest.map lower :=
      ⟨fun equal => List.append_inj equal (by simp), fun both => by rw [both.1, both.2]⟩
    rw [hexGroups, hex_cons, front, split, hexValue_lower_iff, ih]
    simp only [AllDigits, List.forall_mem_cons, and_assoc]

theorem strict_iff (crypto : Crypto) (text : Bytes) :
    Strict crypto text ↔ text.length % 2 = 1 ∨ AllDigits text := by
  rcases Nat.mod_two_eq_zero_or_one text.length with even | odd
  · have written : Strict crypto text ↔ hex (hexGroups crypto text) = text.map lower := by
      simp only [Strict, from_hex_eq_ok, SameUpToCase, to_hex, hex_map_lower, even, true_and,
        forall_eq]
    rw [written, hex_hexGroups_iff crypto text even]
    simp [even]
  · have thrown : Strict crypto text := by
      intro bytes decoded
      have := (from_hex_eq_ok.mp decoded).1
      omega
    exact iff_of_true thrown (.inl odd)

structure Fields where
  scheme : Bytes
  iters : Bytes
  salt_hex : Bytes
  hash_hex : Bytes
  deriving DecidableEq

/-- Cut at its first three separators. -/
def fields (stored : Bytes) : Option Fields := do
  let p1 ← find stored 36 0
  let p2 ← find stored 36 (p1 + 1)
  let p3 ← find stored 36 (p2 + 1)
  return ⟨substr stored 0 p1, substr stored (p1 + 1) (p2 - (p1 + 1)),
    substr stored (p2 + 1) (p3 - (p2 + 1)), stored.drop (p3 + 1)⟩

def verifyFields (crypto : Crypto) (password : Bytes) (parts : Fields) : Except String Bool :=
  if parts.scheme ≠ ascii "pbkdf2" then .ok false
  else do
    let iters ← stoi parts.iters
    let salt ← from_hex crypto parts.salt_hex
    let hash ← from_hex crypto parts.hash_hex
    match crypto.PKCS5_PBKDF2_HMAC password (toInt password.length) salt (toInt salt.length) iters
        (toInt hash.length) with
    | none => .ok false
    | some derived => .ok (sameDigest derived hash)

theorem verify_eq_fields (crypto : Crypto) (password stored : Bytes) :
    verify_password_pbkdf2 crypto password stored =
      (fields stored).elim (.ok false) (verifyFields crypto password) := by
  rw [verify_password_pbkdf2, fields]
  cases find stored 36 0 with
  | none => rfl
  | some p1 =>
    cases second : find stored 36 (p1 + 1) with
    | none => simp [second]
    | some p2 =>
      cases third : find stored 36 (p2 + 1) with
      | none => simp [second, third]
      | some p3 =>
        simp only [second, third, Option.bind_eq_bind, Option.bind_some, Option.pure_def,
          Option.elim_some]
        rfl

/-- The library is asked about these parts, with this iteration count. -/
structure Parses (parts : Fields) (iters : Int) : Prop where
  scheme : parts.scheme = ascii "pbkdf2"
  count : stoi parts.iters = .ok iters
  salt : parts.salt_hex.length % 2 = 0
  hash : parts.hash_hex.length % 2 = 0

def Matches (crypto : Crypto) (password salt hash : Bytes) (iters : Int) : Prop :=
  ∃ derived, crypto.PKCS5_PBKDF2_HMAC password (toInt password.length) salt (toInt salt.length)
    iters (toInt hash.length) = some derived ∧ sameDigest derived hash = true

theorem verifyFields_eq_true_iff {parts : Fields} :
    verifyFields crypto password parts = .ok true ↔
      ∃ iters, Parses parts iters ∧
        Matches crypto password (hexGroups crypto parts.salt_hex)
          (hexGroups crypto parts.hash_hex) iters := by
  constructor
  · intro accepted
    rw [verifyFields] at accepted
    split at accepted
    case isTrue => cases accepted
    case isFalse scheme =>
      obtain ⟨iters, count, accepted⟩ := Reader.bind_eq_ok.mp accepted
      obtain ⟨salt, saltRead, accepted⟩ := Reader.bind_eq_ok.mp accepted
      obtain ⟨hash, hashRead, accepted⟩ := Reader.bind_eq_ok.mp accepted
      obtain ⟨evenSalt, rfl⟩ := from_hex_eq_ok.mp saltRead
      obtain ⟨evenHash, rfl⟩ := from_hex_eq_ok.mp hashRead
      split at accepted
      case h_1 => cases accepted
      case h_2 derived answered =>
        exact ⟨iters, ⟨not_not.mp scheme, count, evenSalt, evenHash⟩, derived, answered,
          Except.ok.inj accepted⟩
  · rintro ⟨iters, parsed, derived, answered, same⟩
    rw [verifyFields, if_neg (not_not.mpr parsed.scheme), parsed.count, Reader.ok_bind,
      from_hex_eq_ok.mpr ⟨parsed.salt, rfl⟩, Reader.ok_bind,
      from_hex_eq_ok.mpr ⟨parsed.hash, rfl⟩, Reader.ok_bind, answered]
    exact congrArg Except.ok same

theorem hexGroups_eq_map (crypto : Crypto) (text : Bytes) (even : text.length % 2 = 0) :
    hexGroups crypto text = (Pieces.cut 2 text).map (hexValue crypto.stale) := by
  induction text, even using pairs_induction with
  | nil => simp [hexGroups]
  | pair high low rest even even' ih =>
    rw [hexGroups, Pieces.cut, List.map_cons, ih]
    rfl

theorem cut_two_length (text : Bytes) (even : text.length % 2 = 0) :
    (Pieces.cut 2 text).length = text.length / 2 := by
  rw [Pieces.cut_length, Nat.ceilDiv_eq_add_pred_div]
  omega

theorem hexGroups_length (crypto : Crypto) (text : Bytes) (even : text.length % 2 = 0) :
    (hexGroups crypto text).length = text.length / 2 := by
  rw [hexGroups_eq_map crypto text even, List.length_map, cut_two_length text even]

theorem hexValue_zero {stale : UInt8} {pair : Bytes} (zero : hexValue stale pair = 0) :
    hexValue 0 pair = 0 := by
  rw [hexValue] at zero ⊢
  split
  · rfl
  case isFalse text => rwa [if_neg text] at zero

/-- The library writes as many bytes as the narrowed length counts, and the others stay
zero. -/
def Matchable (hash_hex : Bytes) : Prop :=
  0 ≤ toInt (hash_hex.length / 2) ∧
    ∀ pair ∈ (Pieces.cut 2 hash_hex).drop (toInt (hash_hex.length / 2)).toNat, hexValue 0 pair = 0

theorem Matches.matchable {salt : Bytes} {iters : Int}
    (even : hash_hex.length % 2 = 0)
    (equal : Matches crypto password salt (hexGroups crypto hash_hex) iters) :
    Matchable hash_hex := by
  obtain ⟨derived, answered, same⟩ := equal
  have written := crypto.writes answered
  have least := toInt_le (hexGroups crypto hash_hex).length
  rw [sameDigest_eq_append (by omega)] at same
  rw [hexGroups_length crypto hash_hex even] at written
  have zeros := congrArg (List.drop derived.length) same
  rw [List.drop_left, hexGroups_eq_map crypto hash_hex even, ← List.map_drop] at zeros
  refine ⟨by omega, fun pair member => ?_⟩
  rw [← written, Int.toNat_natCast] at member
  have zero : hexValue crypto.stale pair = 0 := by
    have among := List.mem_map_of_mem (f := hexValue crypto.stale) member
    rw [← zeros] at among
    exact List.eq_of_mem_replicate among
  exact hexValue_zero zero

/-- A library that derives `digest` from every password. -/
def matching (digest : Bytes) : Crypto where
  pbkdf2 _ _ _ dk_len := (digest ++ List.replicate dk_len 0).take dk_len
  pbkdf2_length := by simp
  PKCS5_PBKDF2_HMAC _ _ _ _ _ keylen :=
    if keylen < 0 then none
    else some ((digest ++ List.replicate keylen.toNat 0).take keylen.toNat)
  accepts := fun _ _ _ length => if_neg (Int.not_lt.mpr length)
  writes := by
    intro pass passlen salt saltlen iter keylen dk written
    split at written
    case isTrue => cases written
    case isFalse length =>
      rw [← Option.some.inj written, List.length_take_of_le (by simp)]
      exact Int.toNat_of_nonneg (Int.not_lt.mp length)

theorem matching_answer (digest pass salt : Bytes) {passlen saltlen iter keylen : Int}
    (counted : 0 ≤ keylen) :
    (matching digest).PKCS5_PBKDF2_HMAC pass passlen salt saltlen iter keylen
      = some ((digest ++ List.replicate keylen.toNat 0).take keylen.toNat) :=
  if_neg (Int.not_lt.mpr counted)

theorem matching_matches {digest : Bytes} (counted : 0 ≤ toInt digest.length)
    (zeros : ∀ byte ∈ digest.drop (toInt digest.length).toNat, byte = 0)
    (password salt : Bytes) (iters : Int) :
    Matches (matching digest) password salt digest iters := by
  have least := toInt_le digest.length
  have short : (toInt digest.length).toNat ≤ digest.length := by omega
  refine ⟨digest.take (toInt digest.length).toNat, ?_, ?_⟩
  · rw [matching_answer digest password salt counted, List.take_append_of_le_length short]
  · have rest : digest.drop (toInt digest.length).toNat
        = List.replicate (digest.length - (toInt digest.length).toNat) 0 :=
      List.eq_replicate_iff.mpr ⟨List.length_drop, zeros⟩
    have width : (digest.take (toInt digest.length).toNat).length = (toInt digest.length).toNat :=
      List.length_take_of_le short
    rw [sameDigest_eq_append (by omega), width, ← rest, List.take_append_drop]

theorem Matchable.matches (matchable : Matchable hash_hex)
    (even : hash_hex.length % 2 = 0) (password : Bytes) (iters : Int) :
    ∃ crypto, ∀ salt, Matches crypto password salt (hexGroups crypto hash_hex) iters := by
  have decoded (digest : Bytes) : hexGroups (matching digest) hash_hex
      = (Pieces.cut 2 hash_hex).map (hexValue 0) := hexGroups_eq_map (matching digest) _ even
  have width := hexGroups_length (matching []) hash_hex even
  rw [decoded] at width
  refine ⟨matching ((Pieces.cut 2 hash_hex).map (hexValue 0)), fun salt => ?_⟩
  rw [decoded]
  apply matching_matches (width ▸ matchable.1)
  intro byte member
  rw [width, ← List.map_drop] at member
  obtain ⟨pair, among, rfl⟩ := List.mem_map.mp member
  exact matchable.2 pair among

def WellFormed (stored : Bytes) : Prop :=
  ∃ parts, fields stored = some parts ∧ IsHex parts.salt_hex ∧ IsHex parts.hash_hex

/-- Whatever function PBKDF2 is, no password is accepted for another stored string. -/
def OnlyWellFormed (stored : Bytes) : Prop :=
  ∀ crypto password, verify_password_pbkdf2 crypto password stored = .ok true → WellFormed stored

/-- Where the verifier gets as far as a digest that can match, both fields are digits. -/
def DigitFields (stored : Bytes) : Prop :=
  ∀ parts iters, fields stored = some parts → Parses parts iters → Matchable parts.hash_hex →
    AllDigits parts.salt_hex ∧ AllDigits parts.hash_hex

theorem onlyWellFormed_iff (stored : Bytes) : OnlyWellFormed stored ↔ DigitFields stored := by
  constructor
  · intro strict parts iters cut parsed matchable
    obtain ⟨crypto, equal⟩ := matchable.matches parsed.hash [] iters
    have accepted : verify_password_pbkdf2 crypto [] stored = .ok true := by
      rw [verify_eq_fields, cut]
      exact verifyFields_eq_true_iff.mpr ⟨iters, parsed, equal _⟩
    obtain ⟨others, same, salt, hash⟩ := strict crypto [] accepted
    obtain rfl := Option.some.inj (cut.symm.trans same)
    exact ⟨salt.2, hash.2⟩
  · intro digits crypto password accepted
    rw [verify_eq_fields] at accepted
    cases cut : fields stored with
    | none => simp [cut] at accepted
    | some parts =>
      rw [cut] at accepted
      obtain ⟨iters, parsed, equal⟩ := verifyFields_eq_true_iff.mp accepted
      obtain ⟨salt, hash⟩ := digits parts iters cut parsed (equal.matchable parsed.hash)
      exact ⟨parts, cut, ⟨parsed.salt, salt⟩, parsed.hash, hash⟩

/-- Decoding is strict exactly for texts that it refuses and for hexadecimal ones. -/
theorem hex_strict_iff (crypto : Crypto) (text stored : Bytes) :
    (Strict crypto text ↔ text.length % 2 = 1 ∨ AllDigits text) ∧
      (OnlyWellFormed stored ↔ DigitFields stored) :=
  ⟨strict_iff crypto text, onlyWellFormed_iff stored⟩

/-- No character of `zz` is a digit, and a hash field `zz` is taken for one zero byte. -/
theorem from_hex_lax :
    (∀ crypto, ¬ Strict crypto (ascii "zz")) ∧ ¬ OnlyWellFormed (ascii "pbkdf2$1$zz$zz") := by
  have noDigits : ¬ AllDigits (ascii "zz") := by
    intro digits
    exact absurd (digits 122 (by decide)) (by decide)
  refine ⟨fun crypto strict => ?_, fun strict => ?_⟩
  · exact ((strict_iff crypto (ascii "zz")).mp strict).elim (absurd · (by decide)) noDigits
  · have accepted : verify_password_pbkdf2 (matching [0]) [] (ascii "pbkdf2$1$zz$zz")
        = .ok true := by
      decide
    obtain ⟨parts, cut, salt, -⟩ := strict _ _ accepted
    have written : fields (ascii "pbkdf2$1$zz$zz")
        = some ⟨ascii "pbkdf2", ascii "1", ascii "zz", ascii "zz"⟩ := by
      decide
    obtain rfl := Option.some.inj (cut.symm.trans written)
    exact noDigits salt.2

end FileShareX.Auth

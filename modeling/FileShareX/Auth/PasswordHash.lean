import FileShareX.Foundation.Reader
import FileShareX.Foundation.Scan

/-!
# Stored passwords

`auth/password_hash.cpp`.  PBKDF2-HMAC-SHA256 is one function, shared by every
program that calls it; a `std::string` reaches OpenSSL as a pointer and an `int`.
-/

namespace FileShareX.Auth

open Wire

/-- What the code does not compute itself. -/
structure Crypto where
  /-- PBKDF2-HMAC-SHA256 of a password, a salt, an iteration count and a length. -/
  pbkdf2 : Bytes → Bytes → Nat → Nat → Bytes
  pbkdf2_length : ∀ password salt iters dk_len,
    (pbkdf2 password salt iters dk_len).length = dk_len
  /-- The library function: `pass`, `passlen`, `salt`, `saltlen`, `iter` and `keylen`, with
  what it writes to `out`, if it answers 1. -/
  PKCS5_PBKDF2_HMAC : Bytes → Int → Bytes → Int → Int → Int → Option Bytes
  /-- Lengths count bytes; what negative lengths and fewer than one iteration do is left open. -/
  accepts : ∀ {pass passlen salt saltlen iter keylen},
    0 ≤ passlen → 0 ≤ saltlen → 1 ≤ iter → 0 ≤ keylen →
    PKCS5_PBKDF2_HMAC pass passlen salt saltlen iter keylen
      = some (pbkdf2 (pass.take passlen.toNat) (salt.take saltlen.toNat) iter.toNat keylen.toNat)
  writes : ∀ {pass passlen salt saltlen iter keylen dk},
    PKCS5_PBKDF2_HMAC pass passlen salt saltlen iter keylen = some dk → (dk.length : Int) = keylen
  /-- An `unsigned char` never written. -/
  stale : UInt8 := 0

/-- `(int)size`. -/
def toInt (size : Nat) : Int := Int.bmod size (2 ^ 32)

theorem toInt_of_lt {size : Nat} (small : size < 2 ^ 31) : toInt size = size :=
  Int.bmod_eq_of_le (by omega) (by omega)

theorem bmod_natCast_le (size modulus : Nat) : Int.bmod size modulus ≤ size := by
  have kept : (size : Int) % modulus ≤ size := by
    rw [← Int.natCast_mod]
    exact Int.ofNat_le.mpr (Nat.mod_le size modulus)
  rw [Int.bmod_def]
  split
  · exact kept
  · exact (Int.sub_le_self _ (Int.natCast_nonneg _)).trans kept

theorem toInt_le (size : Nat) : toInt size ≤ size := bmod_natCast_le size (2 ^ 32)

theorem Crypto.accepts_of_lt (crypto : Crypto) {pass : Bytes} (fits : pass.length < 2 ^ 31)
    (salt : Vector UInt8 16) {iters : Int} (positive : 0 < iters) :
    crypto.PKCS5_PBKDF2_HMAC pass (toInt pass.length) salt.toList 16 iters 32
      = some (crypto.pbkdf2 pass salt.toList iters.toNat 32) := by
  rw [toInt_of_lt fits, crypto.accepts (by omega) (by omega) (by omega) (by omega)]
  simp [List.take_of_length_le]

def to_hex (data : Bytes) : Bytes := hex data

def hexGroups (crypto : Crypto) : Bytes → Bytes
  | high :: low :: rest => hexValue crypto.stale [high, low] :: hexGroups crypto rest
  | _ => []

def from_hex (crypto : Crypto) (text : Bytes) : Except String Bytes :=
  if text.length % 2 ≠ 0 then .error "invalid hex" else .ok (hexGroups crypto text)

/-- `rand` is what `RAND_bytes` put into `salt`, if it did. -/
def hash_password_pbkdf2 (crypto : Crypto) (rand : Option (Vector UInt8 16)) (password : Bytes)
    (iters : Int := 120000) : Except String Bytes :=
  match rand with
  | none => .error "RAND_bytes(salt) failed"
  | some salt =>
    match crypto.PKCS5_PBKDF2_HMAC password (toInt password.length) salt.toList 16 iters 32 with
    | none => .error "PKCS5_PBKDF2_HMAC failed"
    | some dk =>
      .ok (ascii "pbkdf2$" ++ decimalInt iters ++ ascii "$" ++ to_hex salt.toList ++ ascii "$"
        ++ to_hex dk)

/-- The constant-time comparison of two vectors of one size. -/
def difference (dk hash : Bytes) : UInt8 := (List.zipWith (· ^^^ ·) dk hash).foldl (· ||| ·) 0

/-- `dk` starts as `hash.size()` zeros, and the library writes to its front. -/
def sameDigest (derived hash : Bytes) : Bool :=
  let dk := derived ++ (List.replicate hash.length 0).drop derived.length
  if dk.length ≠ hash.length then false else difference dk hash == 0

def verify_password_pbkdf2 (crypto : Crypto) (password stored : Bytes) : Except String Bool :=
  match find stored 36 0 with
  | none => .ok false
  | some p1 =>
    match find stored 36 (p1 + 1) with
    | none => .ok false
    | some p2 =>
      match find stored 36 (p2 + 1) with
      | none => .ok false
      | some p3 =>
        if substr stored 0 p1 ≠ ascii "pbkdf2" then .ok false
        else do
          let iters ← stoi (substr stored (p1 + 1) (p2 - (p1 + 1)))
          let salt ← from_hex crypto (substr stored (p2 + 1) (p3 - (p2 + 1)))
          let hash ← from_hex crypto (stored.drop (p3 + 1))
          match crypto.PKCS5_PBKDF2_HMAC password (toInt password.length) salt
              (toInt salt.length) iters (toInt hash.length) with
          | none => .ok false
          | some derived => .ok (sameDigest derived hash)

theorem hexGroups_hex (crypto : Crypto) (data : Bytes) : hexGroups crypto (hex data) = data := by
  induction data with
  | nil => rfl
  | cons byte rest ih =>
    rw [hex] at ih ⊢
    simp only [List.flatMap_cons, List.cons_append, List.nil_append, hexGroups, ih,
      hexValue_hexDigits]

@[simp] theorem hex_length (data : Bytes) : (hex data).length = 2 * data.length := by
  induction data with
  | nil => rfl
  | cons byte rest ih =>
    rw [hex] at ih ⊢
    simp only [List.flatMap_cons, List.length_append, ih, List.length_cons, List.length_nil]
    omega

theorem from_hex_to_hex (crypto : Crypto) (data : Bytes) :
    from_hex crypto (to_hex data) = .ok data := by
  rw [from_hex, to_hex, if_neg (by rw [hex_length]; omega), hexGroups_hex]

theorem mem_hex {data : Bytes} {c : UInt8} (member : c ∈ hex data) :
    ∃ n < 16, c = hexDigit n := by
  obtain ⟨byte, -, digit⟩ := List.mem_flatMap.mp member
  have bound := byte.toNat_lt
  rcases List.mem_pair.mp digit with high | low
  · exact ⟨_, by omega, high⟩
  · exact ⟨_, by omega, low⟩

theorem notMem_hex {c : UInt8} (noDigit : ∀ n < 16, c ≠ hexDigit n) (data : Bytes) :
    c ∉ hex data := by
  intro member
  obtain ⟨n, small, digit⟩ := mem_hex member
  exact noDigit n small digit

theorem dollar_notMem_decimal (n : Nat) : (36 : UInt8) ∉ decimal n := by
  intro member
  exact absurd (decimal_range member).1 (by decide)

theorem foldl_or_eq_zero (bytes : Bytes) (start : UInt8) :
    bytes.foldl (· ||| ·) start = 0 ↔ start = 0 ∧ ∀ byte ∈ bytes, byte = 0 := by
  induction bytes generalizing start with
  | nil => simp
  | cons byte rest ih =>
    have both : start ||| byte = 0 ↔ start = 0 ∧ byte = 0 := by
      simp only [← UInt8.toBitVec_inj, UInt8.toBitVec_or, UInt8.toBitVec_zero,
        BitVec.or_eq_zero_iff]
    simp only [List.foldl_cons, ih, both, List.mem_cons, forall_eq_or_imp, and_assoc]

theorem difference_eq_zero {dk hash : Bytes} (sameLength : dk.length = hash.length) :
    difference dk hash = 0 ↔ dk = hash := by
  rw [difference, foldl_or_eq_zero]
  simp only [true_and]
  induction dk generalizing hash with
  | nil => simp [List.length_eq_zero_iff.mp sameLength.symm]
  | cons byte rest ih =>
    cases hash with
    | nil => simp at sameLength
    | cons other others =>
      have first : byte ^^^ other = 0 ↔ byte = other := by
        simp only [← UInt8.toBitVec_inj, UInt8.toBitVec_xor, UInt8.toBitVec_zero,
          BitVec.xor_eq_zero_iff]
      simp only [List.zipWith_cons_cons, List.mem_cons, forall_eq_or_imp, first,
        ih (Nat.succ.inj sameLength), List.cons.injEq]

/-- What the library leaves of `dk` stays zero. -/
theorem sameDigest_eq_append {derived hash : Bytes} (short : derived.length ≤ hash.length) :
    sameDigest derived hash = true ↔
      derived ++ List.replicate (hash.length - derived.length) 0 = hash := by
  have width : (derived ++ List.replicate (hash.length - derived.length) 0).length
      = hash.length := by
    rw [List.length_append, List.length_replicate]
    omega
  rw [sameDigest, List.drop_replicate, if_neg (not_not.mpr width), beq_iff_eq,
    difference_eq_zero width]

theorem sameDigest_iff {derived hash : Bytes} (sameLength : derived.length = hash.length) :
    sameDigest derived hash = true ↔ derived = hash := by
  rw [sameDigest_eq_append sameLength.le, sameLength, Nat.sub_self, List.replicate_zero,
    List.append_nil]

/-- The stored string, as both writers lay it out. -/
def storedText (iters : Int) (salt dk : Bytes) : Bytes :=
  ascii "pbkdf2$" ++ decimalInt iters ++ ascii "$" ++ to_hex salt ++ ascii "$" ++ to_hex dk

section Fields

variable {stored scheme iters salt hash : Bytes}

theorem find_fields (layout : stored = scheme ++ 36 :: (iters ++ 36 :: (salt ++ 36 :: hash)))
    (noScheme : (36 : UInt8) ∉ scheme) (noIters : (36 : UInt8) ∉ iters)
    (noSalt : (36 : UInt8) ∉ salt) :
    find stored 36 0 = some scheme.length
      ∧ find stored 36 (scheme.length + 1) = some (scheme.length + 1 + iters.length)
      ∧ find stored 36 (scheme.length + 1 + iters.length + 1)
        = some (scheme.length + 1 + iters.length + 1 + salt.length) := by
  have second : stored = (scheme ++ [36]) ++ (iters ++ 36 :: (salt ++ 36 :: hash)) := by
    simp [layout]
  have third : stored = (scheme ++ 36 :: (iters ++ [36])) ++ (salt ++ 36 :: hash) := by
    simp [layout]
  refine ⟨?_, find_append second (by simp) noIters, find_append third ?_ noSalt⟩
  · have start := find_append (layout.trans (List.nil_append _).symm) rfl noScheme
    rwa [List.length_nil, Nat.zero_add] at start
  · simp only [List.length_append, List.length_cons, List.length_nil]
    omega

theorem substr_fields
    (layout : stored = scheme ++ 36 :: (iters ++ 36 :: (salt ++ 36 :: hash))) :
    substr stored 0 scheme.length = scheme
      ∧ substr stored (scheme.length + 1) (scheme.length + 1 + iters.length - (scheme.length + 1))
        = iters
      ∧ substr stored (scheme.length + 1 + iters.length + 1)
          (scheme.length + 1 + iters.length + 1 + salt.length
            - (scheme.length + 1 + iters.length + 1)) = salt
      ∧ stored.drop (scheme.length + 1 + iters.length + 1 + salt.length + 1) = hash := by
  have second : stored = (scheme ++ [36]) ++ (iters ++ 36 :: (salt ++ 36 :: hash)) := by
    simp [layout]
  have third : stored = (scheme ++ 36 :: (iters ++ [36])) ++ (salt ++ 36 :: hash) := by
    simp [layout]
  have last : stored = (scheme ++ 36 :: (iters ++ 36 :: (salt ++ [36]))) ++ hash := by
    simp [layout]
  refine ⟨?_, ?_, ?_, ?_⟩
  · exact substr_append (layout.trans (List.nil_append _).symm) rfl rfl
  · exact substr_append second (by simp) (by omega)
  · refine substr_append third ?_ (by omega)
    simp only [List.length_append, List.length_cons, List.length_nil]
    omega
  · rw [last]
    refine List.drop_left' ?_
    simp only [List.length_append, List.length_cons, List.length_nil]
    omega

end Fields

/-- The verifier reads back the three fields and compares what the library derives
from them with the stored digest. -/
theorem verify_storedText (crypto : Crypto) (password : Bytes) {iters : Int} (positive : 0 < iters)
    (inRange : iters < 2 ^ 31) (salt : Vector UInt8 16) {dk : Bytes} (width : dk.length = 32) :
    verify_password_pbkdf2 crypto password (storedText iters salt.toList dk)
      = .ok (decide (crypto.PKCS5_PBKDF2_HMAC password (toInt password.length) salt.toList 16
          iters 32 = some dk)) := by
  have digits : decimalInt iters = decimal iters.toNat := by
    rw [decimalInt, if_neg (by omega)]
    congr 1
    omega
  have layout : storedText iters salt.toList dk = ascii "pbkdf2"
      ++ 36 :: (decimal iters.toNat ++ 36 :: (hex salt.toList ++ 36 :: hex dk)) := by
    rw [storedText, digits]
    simp [to_hex, ascii]
  obtain ⟨first, second, third⟩ := find_fields layout (by decide)
    (dollar_notMem_decimal iters.toNat) (notMem_hex (by decide) salt.toList)
  obtain ⟨scheme, count, saltHex, hashHex⟩ := substr_fields layout
  have parsed : stoi (decimal iters.toNat) = .ok iters := by
    rw [stoi_decimal (by omega)]
    congr 1
    omega
  have saltRead : from_hex crypto (hex salt.toList) = .ok salt.toList := from_hex_to_hex ..
  have hashRead : from_hex crypto (hex dk) = .ok dk := from_hex_to_hex ..
  have saltLength : toInt salt.toList.length = 16 := by
    rw [Vector.length_toList]
    decide
  have hashLength : toInt dk.length = 32 := by
    rw [width]
    decide
  simp only [verify_password_pbkdf2, first, second, third, scheme, count, saltHex, hashHex]
  rw [if_neg (not_not.mpr rfl), parsed, Reader.ok_bind, saltRead, Reader.ok_bind, hashRead,
    Reader.ok_bind, saltLength, hashLength]
  cases answer : crypto.PKCS5_PBKDF2_HMAC password (toInt password.length) salt.toList 16 iters
      32 with
  | none => rfl
  | some derived =>
    have derivedWidth : derived.length = dk.length := by
      have := crypto.writes answer
      omega
    refine congrArg Except.ok ?_
    rw [Bool.eq_iff_iff, decide_eq_true_iff, sameDigest_iff derivedWidth, Option.some.injEq]

end FileShareX.Auth

import FileShareX.Gateway.PasswordReset

/-!
# Two writers of stored passwords, one verifier

The core's registration and the gateway's password reset lay the stored string out
alike, and the core reads it back.  What is verified depends on the password only
through the bytes that its length, narrowed to an `int`, covers.
-/

namespace FileShareX.Auth

open Wire Gateway

variable {crypto : Crypto} {password other stored : Bytes} {salt : Vector UInt8 16}

theorem hash_password_eq_ok {iters : Int} :
    hash_password_pbkdf2 crypto (some salt) password iters = .ok stored ↔
      ∃ dk, crypto.PKCS5_PBKDF2_HMAC password (toInt password.length) salt.toList 16 iters 32
        = some dk ∧ stored = storedText iters salt.toList dk := by
  simp only [hash_password_pbkdf2]
  cases crypto.PKCS5_PBKDF2_HMAC password (toInt password.length) salt.toList 16 iters 32 with
  | none => simp
  | some dk => simp [storedText, eq_comm]

theorem pass_hash_stored_eq_some :
    pass_hash_stored crypto password salt = some stored ↔
      password.length < 2 ^ 31
        ∧ stored = storedText 100000 salt.toList (crypto.pbkdf2 password salt.toList 100000 32) := by
  have digits : decimalInt 100000 = decimal 100000 := by
    rw [decimalInt, if_neg (by omega)]
    rfl
  unfold pass_hash_stored storedText
  rw [digits]
  by_cases long : password.length ≥ 2 ^ 31
  · rw [if_pos long]
    exact ⟨(by cases ·), fun fits => absurd fits.1 (Nat.not_lt.mpr long)⟩
  · rw [if_neg long]
    exact ⟨fun written => ⟨Nat.not_le.mp long, (Option.some.inj written).symm⟩,
      fun fits => congrArg some fits.2.symm⟩

theorem own_password_verifies {iters : Int} (positive : 0 < iters) (inRange : iters < 2 ^ 31)
    (written : hash_password_pbkdf2 crypto (some salt) password iters = .ok stored) :
    verify_password_pbkdf2 crypto password stored = .ok true := by
  obtain ⟨dk, derived, rfl⟩ := hash_password_eq_ok.mp written
  have width : dk.length = 32 := by
    have := crypto.writes derived
    omega
  rw [verify_storedText crypto password positive inRange salt width, derived]
  simp

theorem zero_notMem_decimalInt (n : Int) : (0 : UInt8) ∉ decimalInt n := by
  have digits : (0 : UInt8) ∉ decimal n.natAbs :=
    fun member => absurd (decimal_range member).1 (by decide)
  rw [decimalInt]
  split
  · exact List.not_mem_cons_of_ne_of_not_mem (by decide) digits
  · exact digits

theorem zero_notMem_storedText (iters : Int) (salt dk : Bytes) :
    (0 : UInt8) ∉ storedText iters salt dk := by
  have scheme : (0 : UInt8) ∉ ascii "pbkdf2$" := by decide
  have separator : (0 : UInt8) ∉ ascii "$" := by decide
  have noDigit : ∀ n < 16, (0 : UInt8) ≠ hexDigit n := by decide
  simp only [storedText, to_hex, List.mem_append, not_or, scheme, separator,
    zero_notMem_decimalInt, notMem_hex noDigit, not_false_eq_true, and_self]

/-- `stored`, which was written for `password`, accepts it, and accepts `other` only when
both have the same digest. -/
structure ReadsBack (crypto : Crypto) (password other stored : Bytes) (salt : Vector UInt8 16)
    (iters : Nat) : Prop where
  own : verify_password_pbkdf2 crypto password stored = .ok true
  others : verify_password_pbkdf2 crypto other stored = .ok true ↔
    crypto.pbkdf2 other salt.toList iters 32 = crypto.pbkdf2 password salt.toList iters 32

/-- Whatever function PBKDF2 is, both writers' strings read back. -/
def WritersAgree (password other : Bytes) : Prop :=
  ∀ (crypto : Crypto) (salt : Vector UInt8 16),
    (∀ iters : Int, 0 < iters → iters < 2 ^ 31 → ∀ stored,
      hash_password_pbkdf2 crypto (some salt) password iters = .ok stored →
      ReadsBack crypto password other stored salt iters.toNat) ∧
    ∀ stored, pass_hash_stored crypto password salt = some stored →
      ReadsBack crypto password other stored salt 100000

theorem readsBack_storedText {iters : Int} (positive : 0 < iters) (inRange : iters < 2 ^ 31)
    (fits : password.length < 2 ^ 31) (otherFits : other.length < 2 ^ 31) :
    ReadsBack crypto password other
      (storedText iters salt.toList (crypto.pbkdf2 password salt.toList iters.toNat 32)) salt
      iters.toNat := by
  have width := crypto.pbkdf2_length password salt.toList iters.toNat 32
  refine ⟨?_, ?_⟩
  · rw [verify_storedText crypto password positive inRange salt width,
      crypto.accepts_of_lt fits salt positive]
    simp
  · rw [verify_storedText crypto other positive inRange salt width,
      crypto.accepts_of_lt otherFits salt positive]
    simp

theorem writersAgree_of_lt (fits : password.length < 2 ^ 31) (otherFits : other.length < 2 ^ 31) :
    WritersAgree password other := by
  refine fun crypto salt => ⟨fun iters positive inRange stored written => ?_,
    fun stored written => ?_⟩
  · obtain ⟨dk, derived, rfl⟩ := hash_password_eq_ok.mp written
    rw [crypto.accepts_of_lt fits salt positive] at derived
    rw [← Option.some.inj derived]
    exact readsBack_storedText positive inRange fits otherFits
  · obtain ⟨-, rfl⟩ := pass_hash_stored_eq_some.mp written
    have positive : (0 : Int) < 100000 := by omega
    exact readsBack_storedText positive (by omega) fits otherFits

section Narrowing

/-- The byte that a library with one-byte digests makes of a password: `digest` of the part
its narrowed length covers, `refused` when that length is negative. -/
def narrowed (digest refused : Bytes → UInt8) (passlen : Int) (pass : Bytes) : UInt8 :=
  if 0 ≤ passlen then digest (pass.take passlen.toNat) else refused pass

/-- A library whose digests repeat one byte. -/
def uniform (digest refused : Bytes → UInt8) : Crypto where
  pbkdf2 pass _ _ dk_len := List.replicate dk_len (digest pass)
  pbkdf2_length := by simp
  PKCS5_PBKDF2_HMAC pass passlen _ _ _ keylen :=
    if keylen < 0 then none
    else some (List.replicate keylen.toNat (narrowed digest refused passlen pass))
  accepts := by
    intro pass passlen salt saltlen iter keylen least _ _ length
    rw [if_neg (by omega), narrowed, if_pos least]
  writes := by
    intro pass passlen salt saltlen iter keylen dk written
    split at written
    case isTrue => cases written
    case isFalse length =>
      rw [← Option.some.inj written, List.length_replicate]
      omega

/-- A library that tells most passwords apart: the byte is the sum of theirs. -/
def summing : Crypto := uniform (fun pass => pass.foldl UInt8.add 0) fun _ => 0

/-- The verifier takes two passwords for one when their narrowed digests agree. -/
theorem WritersAgree.narrowed_eq (agree : WritersAgree password other)
    (digest refused : Bytes → UInt8) :
    narrowed digest refused (toInt other.length) other
        = narrowed digest refused (toInt password.length) password ↔
      digest other = digest password := by
  have derived : ∀ pass, (uniform digest refused).PKCS5_PBKDF2_HMAC pass (toInt pass.length)
      (Vector.replicate 16 0).toList 16 1 32
        = some (List.replicate 32 (narrowed digest refused (toInt pass.length) pass)) :=
    fun pass => by simp [uniform]
  have others := ((agree (uniform digest refused) (Vector.replicate 16 0)).1 1 (by decide)
    (by decide) _ (hash_password_eq_ok.mpr ⟨_, derived password, rfl⟩)).others
  rw [verify_storedText _ other (by decide) (by decide) _ List.length_replicate, derived] at others
  have digests : (uniform digest refused).pbkdf2 other (Vector.replicate 16 0).toList
        (Int.toNat 1) 32 = (uniform digest refused).pbkdf2 password
        (Vector.replicate 16 0).toList (Int.toNat 1) 32 ↔ digest other = digest password :=
    List.replicate_right_inj (by decide)
  rw [digests, Except.ok.injEq, decide_eq_true_iff, Option.some.injEq,
    List.replicate_right_inj (by decide)] at others
  exact others

theorem toInt_lt (size : Nat) : toInt size < 2 ^ 31 := by
  have bound : toInt size < ((2 ^ 32 : Nat) + 1) / 2 := Int.bmod_lt (by decide)
  exact lt_of_lt_of_le bound (by decide)

theorem take_toInt_ne {long : Bytes} (tooLong : 2 ^ 31 ≤ long.length) (pass : Bytes) :
    pass.take (toInt pass.length).toNat ≠ long := by
  rintro rfl
  have bound := toInt_lt pass.length
  rw [List.length_take] at tooLong
  omega

/-- A negative length is told apart by a library with one digest for all passwords, a cut
one is not by a library with a digest of its own for the long password. -/
theorem WritersAgree.fits (agree : WritersAgree password other) (distinct : other ≠ password) :
    password.length < 2 ^ 31 ∧ other.length < 2 ^ 31 := by
  have counted : 0 ≤ toInt password.length ∧ 0 ≤ toInt other.length := by
    have flat := (agree.narrowed_eq (fun _ => 0) fun pass => if pass = password then 2 else 3).mpr
      rfl
    by_contra negative
    by_cases first : 0 ≤ toInt password.length <;> by_cases second : 0 ≤ toInt other.length <;>
      simp [narrowed, first, second, distinct] at flat negative
  have shared : ∀ long, 2 ^ 31 ≤ long.length →
      (other = long ↔ password = long) := by
    intro long tooLong
    have spike := (agree.narrowed_eq (fun pass => if pass = long then 1 else 0) fun _ => 0).mp (by
      simp [narrowed, counted, take_toInt_ne tooLong])
    by_cases first : other = long <;> by_cases second : password = long <;>
      simp [first, second] at spike ⊢
  refine ⟨?_, ?_⟩
  · by_contra tooLong
    exact distinct ((shared password (Nat.not_lt.mp tooLong)).mpr rfl)
  · by_contra tooLong
    exact distinct ((shared other (Nat.not_lt.mp tooLong)).mp rfl).symm

end Narrowing

/-- The strings of both writers are read back, whatever PBKDF2 is, exactly for passwords
whose length an `int` can hold. -/
theorem writers_agree (distinct : other ≠ password) :
    WritersAgree password other ↔ password.length < 2 ^ 31 ∧ other.length < 2 ^ 31 :=
  ⟨fun agree => agree.fits distinct, fun fit => writersAgree_of_lt fit.1 fit.2⟩

theorem writers_agree_sample : WritersAgree (ascii "correct horse") (ascii "battery staple") :=
  (writers_agree (by decide)).mpr ⟨by decide, by decide⟩

/-- After `2 ^ 32` more bytes the narrowed length is 1 again. -/
theorem long_password_verifies :
    ¬ WritersAgree (ascii "a") (List.replicate (2 ^ 32 + 1) 97) := by
  intro agree
  have distinct : List.replicate (2 ^ 32 + 1) 97 ≠ ascii "a" := by
    intro equal
    have := congrArg List.length equal
    rw [List.length_replicate] at this
    exact absurd this (by decide)
  have fits := (agree.fits distinct).2
  rw [List.length_replicate] at fits
  omega

end FileShareX.Auth

import Mathlib.Tactic.Ring
import Mathlib.Tactic.Linarith
import Mathlib.Data.Nat.ModEq

/-!
# Big-endian numerals over byte lists

A numeral of `width` bytes holds its value modulo `256 ^ width`; conversely
every byte list of that width is the numeral of its own value.
-/

namespace Wire

/-- What a `std::string`, a `std::vector<uint8_t>` or a Python `bytes` holds. -/
abbrev Bytes := List UInt8

/-- The numeral of `value` in `width` bytes, most significant byte first. -/
def bigEndian : Nat → Nat → Bytes
  | 0, _ => []
  | width + 1, value => UInt8.ofNat (value / 256 ^ width) :: bigEndian width value

def bigEndianValue : Bytes → Nat
  | [] => 0
  | byte :: rest => byte.toNat * 256 ^ rest.length + bigEndianValue rest

@[simp] theorem bigEndian_length (width value : Nat) : (bigEndian width value).length = width := by
  induction width with
  | zero => rfl
  | succ width ih => simp [bigEndian, ih]

theorem bigEndianValue_lt (bytes : Bytes) : bigEndianValue bytes < 256 ^ bytes.length := by
  induction bytes with
  | nil => simp [bigEndianValue]
  | cons byte rest ih =>
    have small : byte.toNat ≤ 255 := Nat.le_of_lt_succ byte.toNat_lt
    calc bigEndianValue (byte :: rest)
        < byte.toNat * 256 ^ rest.length + 256 ^ rest.length := Nat.add_lt_add_left ih _
      _ = (byte.toNat + 1) * 256 ^ rest.length := by ring
      _ ≤ 256 * 256 ^ rest.length := Nat.mul_le_mul_right _ (by omega)
      _ = 256 ^ (byte :: rest).length := by simp [pow_succ, Nat.mul_comm]

theorem bigEndianValue_bigEndian (width value : Nat) :
    bigEndianValue (bigEndian width value) = value % 256 ^ width := by
  induction width with
  | zero => simp [bigEndian, bigEndianValue, Nat.mod_one]
  | succ width ih =>
    have digit : (UInt8.ofNat (value / 256 ^ width)).toNat = value / 256 ^ width % 256 := by simp
    rw [bigEndian, bigEndianValue, bigEndian_length, ih, digit, Nat.mod_pow_succ]
    ring

theorem bigEndian_mod (width value : Nat) :
    bigEndian width (value % 256 ^ width) = bigEndian width value := by
  suffices h : ∀ extra, bigEndian width (value % 256 ^ (width + extra)) = bigEndian width value by
    simpa using h 0
  induction width with
  | zero => simp [bigEndian]
  | succ width ih =>
    intro extra
    rw [bigEndian, bigEndian]
    congr 1
    · rw [show width + 1 + extra = width + (1 + extra) by omega, pow_add,
        Nat.mod_mul_right_div_self]
      apply UInt8.toNat_inj.mp
      simp only [UInt8.toNat_ofNat', Nat.reducePow]
      exact Nat.mod_mod_of_dvd _ (Dvd.intro_left (256 ^ extra) (by ring))
    · rw [show width + 1 + extra = width + (1 + extra) by omega]
      exact ih (1 + extra)

theorem bigEndian_bigEndianValue (bytes : Bytes) :
    bigEndian bytes.length (bigEndianValue bytes) = bytes := by
  induction bytes with
  | nil => rfl
  | cons byte rest ih =>
    have low := bigEndianValue_lt rest
    have high : (byte.toNat * 256 ^ rest.length + bigEndianValue rest) / 256 ^ rest.length =
        byte.toNat := by
      rw [Nat.add_comm, Nat.add_mul_div_right _ _ (by positivity), Nat.div_eq_of_lt low, Nat.zero_add]
    rw [List.length_cons, bigEndian, bigEndianValue, high, UInt8.ofNat_toNat]
    congr 1
    rw [← bigEndian_mod, Nat.add_comm, Nat.add_mul_mod_self_right, Nat.mod_eq_of_lt low, ih]

end Wire

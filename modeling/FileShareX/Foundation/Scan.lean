import FileShareX.Foundation.Text

/-!
# Numbers read back from text

`std::stoi`, a stream extraction after `std::hex`, and `std::string::find` and
`substr` over byte strings.  What `Text` writes, these read back.
-/

namespace Wire

/-- `isspace` in the classic locale. -/
def isSpace (c : UInt8) : Bool := c == 32 || (9 ≤ c && c ≤ 13)

def digitValue (c : UInt8) : Option Nat :=
  if 48 ≤ c ∧ c ≤ 57 then some (c.toNat - 48)
  else if 97 ≤ c ∧ c ≤ 102 then some (c.toNat - 87)
  else if 65 ≤ c ∧ c ≤ 70 then some (c.toNat - 55)
  else none

/-- `isxdigit`. -/
def isHexDigit (c : UInt8) : Bool :=
  (48 ≤ c && c ≤ 57) || (97 ≤ c && c ≤ 102) || (65 ≤ c && c ≤ 70)

/-- `tolower` in the classic locale. -/
def lower (c : UInt8) : UInt8 := if 65 ≤ c ∧ c ≤ 90 then c + 32 else c

def leadingDigits (base : Nat) : Bytes → List Nat
  | [] => []
  | c :: rest =>
    match digitValue c with
    | some value => if value < base then value :: leadingDigits base rest else []
    | none => []

def digitsValue (base : Nat) (digits : List Nat) : Nat :=
  digits.foldl (fun value digit => base * value + digit) 0

/-- White space, one optional sign, then digits: the sign is `true` for a minus. -/
def scan (base : Nat) (text : Bytes) : Bool × List Nat :=
  match text.dropWhile isSpace with
  | [] => (false, [])
  | c :: rest =>
    if c = 45 then (true, leadingDigits base rest)
    else if c = 43 then (false, leadingDigits base rest)
    else (false, leadingDigits base (c :: rest))

/-- `std::stoi(text)`; both of its exceptions say `stoi`. -/
def stoi (text : Bytes) : Except String Int :=
  let (negative, digits) := scan 10 text
  let value : Int := if negative then -digitsValue 10 digits else digitsValue 10 digits
  if digits = [] ∨ value < -2 ^ 31 ∨ 2 ^ 31 ≤ value then .error "stoi" else .ok value

/-- `ss >> v` with `std::hex` and an unsigned `v` on two characters, narrowed to a
byte.  Text without a digit gives 0, and so does `0x`; white space alone leaves `v`
as it was, which is `stale`. -/
def hexValue (stale : UInt8) (text : Bytes) : UInt8 :=
  if text.all isSpace then stale
  else
    let (negative, digits) := scan 16 text
    let value := UInt8.ofNat (digitsValue 16 digits)
    if negative then -value else value

/-- `text.find(c, pos)`. -/
def find (text : Bytes) (c : UInt8) (pos : Nat) : Option Nat :=
  ((text.drop pos).idxOf? c).map (pos + ·)

/-- `text.substr(pos, count)`. -/
def substr (text : Bytes) (pos count : Nat) : Bytes := (text.drop pos).take count

theorem idxOf?_append_cons {c : UInt8} {word : Bytes} (absent : c ∉ word) (rest : Bytes) :
    (word ++ c :: rest).idxOf? c = some word.length := by
  induction word with
  | nil => simp [List.idxOf?_cons]
  | cons first word ih =>
    rw [List.mem_cons, not_or] at absent
    have differs : (first == c) = false := by simpa using Ne.symm absent.1
    simp [List.idxOf?_cons, differs, ih absent.2]

variable {text front word rest : Bytes} {pos : Nat}

theorem find_append {c : UInt8} (layout : text = front ++ (word ++ c :: rest))
    (start : pos = front.length) (absent : c ∉ word) :
    find text c pos = some (pos + word.length) := by
  rw [find, layout, start, List.drop_left, idxOf?_append_cons absent]
  rfl

theorem substr_append {count : Nat} (layout : text = front ++ (word ++ rest))
    (start : pos = front.length) (length : count = word.length) : substr text pos count = word := by
  rw [substr, layout, start, length, List.drop_left, List.take_left]

theorem leadingDigits_digits {digits : List Char}
    (range : ∀ c ∈ digits, 48 ≤ c.toNat ∧ c.toNat ≤ 57) :
    leadingDigits 10 (digits.map fun c => UInt8.ofNat c.toNat)
      = digits.map fun c => c.toNat - 48 := by
  induction digits with
  | nil => rfl
  | cons c rest ih =>
    obtain ⟨least, most⟩ := range c (by simp)
    have byte : (UInt8.ofNat c.toNat).toNat = c.toNat := by
      rw [UInt8.toNat_ofNat', Nat.mod_eq_of_lt (by omega)]
    have value : digitValue (UInt8.ofNat c.toNat) = some (c.toNat - 48) := by
      have inRange : 48 ≤ UInt8.ofNat c.toNat ∧ UInt8.ofNat c.toNat ≤ 57 := by
        simp only [UInt8.le_iff_toNat_le, byte]
        exact ⟨least, most⟩
      rw [digitValue, if_pos inRange, byte]
    rw [List.map_cons, leadingDigits, value]
    simp only [List.map_cons]
    rw [if_pos (by omega), ih fun c member => range c (List.mem_cons_of_mem _ member)]

theorem digitsValue_decimal (n : Nat) : digitsValue 10 (leadingDigits 10 (decimal n)) = n := by
  rw [decimal, leadingDigits_digits fun c member => digit_range member, digitsValue,
    List.foldl_map]
  exact Nat.ofDigitChars_ten_toDigits

theorem leadingDigits_decimal_ne_nil (n : Nat) : leadingDigits 10 (decimal n) ≠ [] := by
  rw [decimal, leadingDigits_digits fun c member => digit_range member]
  simp [Nat.toDigits_ne_nil]

theorem isSpace_digit {c : UInt8} (digit : 48 ≤ c.toNat) : isSpace c = false := by
  simp only [isSpace, Bool.or_eq_false_iff, beq_eq_false_iff_ne, ne_eq, Bool.and_eq_false_iff,
    decide_eq_false_iff_not, UInt8.le_iff_toNat_le]
  refine ⟨fun space => ?_, .inr fun control => ?_⟩
  · rw [space] at digit
    exact absurd digit (by decide)
  · exact absurd (digit.trans control) (by decide)

theorem scan_digit {base : Nat} {c : UInt8} {rest : Bytes} (digit : 48 ≤ c.toNat) :
    scan base (c :: rest) = (false, leadingDigits base (c :: rest)) := by
  have noMinus : c ≠ 45 := by
    rintro rfl
    exact absurd digit (by decide)
  have noPlus : c ≠ 43 := by
    rintro rfl
    exact absurd digit (by decide)
  simp [scan, isSpace_digit digit, noMinus, noPlus]

theorem stoi_decimal {n : Nat} (small : n < 2 ^ 31) : stoi (decimal n) = .ok n := by
  have scanned : scan 10 (decimal n) = (false, leadingDigits 10 (decimal n)) := by
    cases text : decimal n with
    | nil => exact absurd text (decimal_ne_nil n)
    | cons c rest => exact scan_digit (decimal_range (n := n) (by rw [text]; simp)).1
  simp only [stoi, scanned, digitsValue_decimal]
  rw [if_neg]
  · rfl
  · simp only [leadingDigits_decimal_ne_nil, false_or, not_or]
    simp only [Bool.false_eq_true, if_false]
    omega

theorem hexDigit_spec {n : Nat} (small : n < 16) :
    48 ≤ (hexDigit n).toNat ∧ digitValue (hexDigit n) = some n := by
  have all : ∀ n < 16, 48 ≤ (hexDigit n).toNat ∧ digitValue (hexDigit n) = some n := by decide
  exact all n small

theorem hexValue_digits (stale : UInt8) {high low : UInt8} {m n : Nat} (start : 48 ≤ high.toNat)
    (smallHigh : m < 16) (smallLow : n < 16) (first : digitValue high = some m)
    (second : digitValue low = some n) :
    hexValue stale [high, low] = UInt8.ofNat (16 * m + n) := by
  have leading : leadingDigits 16 [high, low] = [m, n] := by
    simp [leadingDigits, first, second, smallHigh, smallLow]
  simp only [hexValue, List.all_cons, isSpace_digit start, Bool.false_and, Bool.false_eq_true,
    if_false, scan_digit start, leading]
  simp [digitsValue]

theorem hexValue_hexDigits (stale byte : UInt8) :
    hexValue stale [hexDigit (byte.toNat / 16), hexDigit (byte.toNat % 16)] = byte := by
  have bound := byte.toNat_lt
  have high : byte.toNat / 16 < 16 := by omega
  have low : byte.toNat % 16 < 16 := by omega
  rw [hexValue_digits stale (hexDigit_spec high).1 high low (hexDigit_spec high).2
    (hexDigit_spec low).2, Nat.div_add_mod, UInt8.ofNat_toNat]

theorem digitValue_of_isHexDigit {c : UInt8} (digit : isHexDigit c = true) :
    ∃ n < 16, digitValue c = some n ∧ 48 ≤ c.toNat ∧ lower c = hexDigit n := by
  have all : ∀ byte < 256, isHexDigit (UInt8.ofNat byte) = true →
      ∃ n < 16, digitValue (UInt8.ofNat byte) = some n ∧ 48 ≤ (UInt8.ofNat byte).toNat ∧
        lower (UInt8.ofNat byte) = hexDigit n := by
    decide +kernel
  have here := all c.toNat c.toNat_lt
  rw [UInt8.ofNat_toNat] at here
  exact here digit

theorem isHexDigit_lower (c : UInt8) : isHexDigit (lower c) = isHexDigit c := by
  have all : ∀ byte < 256, isHexDigit (lower (UInt8.ofNat byte)) = isHexDigit (UInt8.ofNat byte) := by
    decide +kernel
  have here := all c.toNat c.toNat_lt
  rwa [UInt8.ofNat_toNat] at here

theorem isHexDigit_of_lower {c : UInt8} {n : Nat} (small : n < 16)
    (written : lower c = hexDigit n) : isHexDigit c = true := by
  have all : ∀ n < 16, isHexDigit (hexDigit n) = true := by decide
  rw [← isHexDigit_lower, written]
  exact all n small

theorem lower_hexDigit {n : Nat} (small : n < 16) : lower (hexDigit n) = hexDigit n := by
  have all : ∀ n < 16, lower (hexDigit n) = hexDigit n := by decide
  exact all n small

/-- The byte extracted from two characters is written as these characters, up to their
case, exactly when both are digits. -/
theorem hexValue_lower_iff (stale high low : UInt8) :
    hex [hexValue stale [high, low]] = [lower high, lower low] ↔
      isHexDigit high = true ∧ isHexDigit low = true := by
  simp only [hex, List.flatMap_cons, List.flatMap_nil, List.append_nil, List.cons.injEq, and_true]
  constructor
  · rintro ⟨first, second⟩
    have bound := (hexValue stale [high, low]).toNat_lt
    exact ⟨isHexDigit_of_lower (by omega) first.symm, isHexDigit_of_lower (by omega) second.symm⟩
  · rintro ⟨first, second⟩
    obtain ⟨m, smallHigh, readHigh, start, writtenHigh⟩ := digitValue_of_isHexDigit first
    obtain ⟨n, smallLow, readLow, -, writtenLow⟩ := digitValue_of_isHexDigit second
    have value : (UInt8.ofNat (16 * m + n)).toNat = 16 * m + n := by
      rw [UInt8.toNat_ofNat', Nat.mod_eq_of_lt (by omega)]
    have quotient : (16 * m + n) / 16 = m := by omega
    have remainder : (16 * m + n) % 16 = n := by omega
    rw [hexValue_digits stale start smallHigh smallLow readHigh readLow, value, quotient,
      remainder, writtenHigh, writtenLow]
    exact ⟨rfl, rfl⟩

end Wire

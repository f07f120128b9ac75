import Mathlib.Data.Rat.Floor
import Mathlib.Tactic.FieldSimp
import Mathlib.Tactic.Ring
import VirtualApi.Proofs.Quantity.Numeral

/-!
# Reading is exact

A numeral stands for a rational number of units (`Numeral.units`). The reader goes through 128-bit
products and 32-bit sums on its way to thousandths of a unit; `Numeral.Fits` says which of them have
to be in range. `reading_is_exact` is that the reader takes the numerals that fit and nothing else,
that it reads them as their exact value with the magnitude rounded up, and that a numeral that does
not fit is out of range and never of the wrong form.
-/

namespace VirtualApi.Quantity

open Text Decimal

/-! ## The value of a numeral -/

/-- Reading goes on from a number that is shifted by as many places as there are digits. -/
theorem foldl_shift_eq (text : List Char) (n : Nat) :
    text.foldl shift n = n * 10 ^ text.length + value text := by
  induction text generalizing n with
  | nil => simp [value]
  | cons c rest ih =>
      have hvalue : value (c :: rest) = digitValue c * 10 ^ rest.length + value rest := by
        rw [value_eq_foldl, List.foldl_cons, ih, shift, Nat.zero_mul, Nat.zero_add]
      rw [List.foldl_cons, ih, hvalue, List.length_cons, Nat.pow_succ, shift]
      ring

/-- The value of digits in front of others is shifted by as many places as there are others. -/
theorem value_append_eq (first second : List Char) :
    value (first ++ second) = value first * 10 ^ second.length + value second := by
  rw [value_append, foldl_shift_eq]

namespace Numeral

variable (n : Numeral)

/-- The number of units that a numeral stands for, without its sign. -/
def units : ℚ :=
  (value n.whole + value n.places / 10 ^ n.places.length) * 2 ^ n.suffix.scale.shift *
    10 ^ n.suffix.scale.exponent

/-- The power of ten, in thousandths of a unit, of the last digit. -/
def power : Int := n.suffix.scale.exponent + 3 - n.places.length

/-- The quantity that a numeral stands for, its magnitude rounded up to thousandths. -/
def quantity : Quantity := ⟨n.sign.apply ⌈n.units * 1000⌉₊, n.suffix.scale.format⟩

/-- The numbers on the way to the magnitude are in range: the exponents in 32 bits, and the digits,
the power of ten and the products in 128 bits. -/
structure Fits : Prop where
  sum : InInt32 (n.suffix.scale.exponent + 3)
  places : InInt32 n.places.length
  power : InInt32 n.power
  mantissa : (n.mantissa : Int) ≤ maxAmount
  shifted : ((n.mantissa * 2 ^ n.suffix.scale.shift : Nat) : Int) ≤ maxAmount
  ten : 0 ≤ n.power → ((10 ^ n.power.toNat : Nat) : Int) ≤ maxAmount
  product : 0 ≤ n.power →
    ((n.mantissa * 2 ^ n.suffix.scale.shift * 10 ^ n.power.toNat : Nat) : Int) ≤ maxAmount

/-- In thousandths, a numeral stands for all its digits at the power of the last one. -/
theorem units_mul_thousand :
    n.units * 1000 = ((n.mantissa * 2 ^ n.suffix.scale.shift : Nat) : ℚ) * 10 ^ n.power := by
  have hten : (10 : ℚ) ≠ 0 := by norm_num
  have hpower : (10 : ℚ) ^ n.power =
      10 ^ n.suffix.scale.exponent * 1000 / 10 ^ n.places.length := by
    rw [power, zpow_sub₀ hten, zpow_add₀ hten, zpow_natCast]
    norm_num
  have hmantissa : (n.mantissa : ℚ) =
      value n.whole * 10 ^ n.places.length + value n.places := by
    rw [mantissa, value_append_eq]
    push_cast
    ring
  rw [hpower, Nat.cast_mul, hmantissa, units]
  push_cast
  field_simp

end Numeral

/-! ## The steps of the computation -/

/-- The powers of ten within the range are the first ones. -/
theorem power_of_ten_eq_some_iff {exponent m : Nat} :
    powerOfTen? exponent = some m ↔
      ((10 ^ exponent : Nat) : Int) ≤ maxAmount ∧ m = 10 ^ exponent := by
  have hle : exponent ≤ 38 ↔ ((10 ^ exponent : Nat) : Int) ≤ maxAmount := by
    constructor
    · intro h
      have hpower : 10 ^ exponent ≤ 10 ^ 38 := Nat.pow_le_pow_right (by decide) h
      exact Int.le_trans (Int.ofNat_le.mpr hpower) (by decide)
    · intro h
      by_contra hlarge
      have hpower : 10 ^ 39 ≤ 10 ^ exponent := Nat.pow_le_pow_right (by decide) (by omega)
      have hmax : ¬ ((10 ^ 39 : Nat) : Int) ≤ maxAmount := by decide
      exact hmax (Int.le_trans (Int.ofNat_le.mpr hpower) h)
  unfold powerOfTen?
  split
  · next h => exact ⟨fun heq => ⟨hle.mp h, (Option.some.inj heq).symm⟩, fun heq => heq.2 ▸ rfl⟩
  · next h => exact ⟨fun heq => (nomatch heq), fun heq => absurd (hle.mpr heq.1) h⟩

/-- The quotient rounded up is the quotient, and one more where something remains. -/
theorem ceil_quotient (n : Nat) {d : Nat} (hd : 0 < d) :
    ⌈(n / d : ℚ)⌉₊ = n / d + if n % d = 0 then 0 else 1 := by
  refine eq_of_forall_ge_iff fun k => ?_
  have hpos : (0 : ℚ) < d := by exact_mod_cast hd
  have hle : (n : ℚ) ≤ k * d ↔ n ≤ k * d := by exact_mod_cast Iff.rfl
  rw [Nat.ceil_le, div_le_iff₀ hpos, hle]
  split
  · next hzero =>
      obtain ⟨q, rfl⟩ := Nat.dvd_of_mod_eq_zero hzero
      rw [Nat.mul_div_cancel_left q hd, Nat.add_zero, Nat.mul_comm]
      exact Nat.mul_le_mul_right_iff hd
  · next hrest =>
      have hdiv := Nat.div_add_mod n d
      rw [Nat.add_one_le_iff, Nat.div_lt_iff_lt_mul hd]
      refine ⟨fun h => Nat.lt_of_le_of_ne h ?_, Nat.le_of_lt⟩
      rintro rfl
      exact hrest (Nat.mul_mod_left k d)

/-- A quotient by more than the dividend is rounded up to one, or to zero for zero. -/
theorem ceil_quotient_of_lt {n d : Nat} (h : n < d) :
    ⌈(n / d : ℚ)⌉₊ = if n = 0 then 0 else 1 := by
  rw [ceil_quotient n (Nat.zero_lt_of_lt h), Nat.div_eq_of_lt h, Nat.mod_eq_of_lt h, Nat.zero_add]

/-- The product is computed exactly and rounded up, when it is within the range on the way. -/
theorem scaled_eq_some_iff {mantissa shift m : Nat} {power : Int} :
    scaled? mantissa shift power = some m ↔
      (((mantissa * 2 ^ shift : Nat) : Int) ≤ maxAmount ∧
        (0 ≤ power → ((10 ^ power.toNat : Nat) : Int) ≤ maxAmount ∧
          ((mantissa * 2 ^ shift * 10 ^ power.toNat : Nat) : Int) ≤ maxAmount)) ∧
      m = ⌈((mantissa * 2 ^ shift : Nat) : ℚ) * 10 ^ power⌉₊ := by
  unfold scaled?
  simp only [Option.bind_eq_bind, Option.bind_eq_some_iff, magnitude_eq_some_iff]
  generalize mantissa * 2 ^ shift = n
  by_cases hpower : 0 ≤ power
  · obtain ⟨k, rfl⟩ := Int.eq_ofNat_of_zero_le hpower
    have hceil : ⌈(n : ℚ) * 10 ^ (k : Int)⌉₊ = n * 10 ^ k := by
      rw [zpow_natCast]
      exact_mod_cast Nat.ceil_natCast (R := ℚ) (n * 10 ^ k)
    simp only [hpower, if_true, true_implies, Int.toNat_natCast, hceil, Option.bind_eq_some_iff,
      power_of_ten_eq_some_iff, magnitude_eq_some_iff]
    constructor
    · rintro ⟨_, ⟨hn, rfl⟩, _, ⟨hten, rfl⟩, hproduct, rfl⟩
      exact ⟨⟨hn, hten, hproduct⟩, rfl⟩
    · rintro ⟨⟨hn, hten, hproduct⟩, rfl⟩
      exact ⟨_, ⟨hn, rfl⟩, _, ⟨hten, rfl⟩, hproduct, rfl⟩
  · obtain ⟨k, hk⟩ : ∃ k : Nat, power = -k := ⟨power.natAbs, by omega⟩
    have hquotient : (n : ℚ) * 10 ^ power = n / (10 ^ k : Nat) := by
      rw [hk, zpow_neg, zpow_natCast, div_eq_mul_inv]
      push_cast
      rfl
    have hlarge (hnone : powerOfTen? k = none) (hn : (n : Int) ≤ maxAmount) : n < 10 ^ k := by
      by_contra hle
      have hten : ((10 ^ k : Nat) : Int) ≤ maxAmount := by omega
      rw [power_of_ten_eq_some_iff.mpr ⟨hten, rfl⟩] at hnone
      cases hnone
    simp only [hpower, if_false, false_implies, and_true, hquotient]
    rw [show power.natAbs = k by omega]
    cases hd : powerOfTen? k with
    | some d =>
        obtain ⟨-, rfl⟩ := power_of_ten_eq_some_iff.mp hd
        rw [ceil_quotient n (Nat.pow_pos (by decide))]
        constructor
        · rintro ⟨_, ⟨hn, rfl⟩, hm⟩
          exact ⟨hn, (Option.some.inj hm).symm⟩
        · rintro ⟨hn, rfl⟩
          exact ⟨n, ⟨hn, rfl⟩, rfl⟩
    | none =>
        constructor
        · rintro ⟨_, ⟨hn, rfl⟩, hm⟩
          rw [ceil_quotient_of_lt (hlarge hd hn)]
          exact ⟨hn, (Option.some.inj hm).symm⟩
        · rintro ⟨hn, rfl⟩
          rw [ceil_quotient_of_lt (hlarge hd hn)]
          exact ⟨n, ⟨hn, rfl⟩, rfl⟩

/-- The magnitude of a numeral is computed exactly where the numeral fits, and nowhere else. -/
theorem magnitude_of_numeral {n : Numeral} {m : Nat} :
    n.magnitude? = some m ↔ n.Fits ∧ m = ⌈n.units * 1000⌉₊ := by
  simp only [Numeral.magnitude?, Option.bind_eq_bind, Option.bind_eq_some_iff,
    mantissa_eq_some_iff, power_eq_some_iff, scaled_eq_some_iff, n.units_mul_thousand]
  constructor
  · rintro ⟨_, ⟨hmantissa, rfl⟩, _, ⟨⟨hsum, hplaces, hpower⟩, rfl⟩, ⟨hshifted, hten⟩, rfl⟩
    exact ⟨⟨hsum, hplaces, hpower, hmantissa, hshifted, fun h => (hten h).1,
      fun h => (hten h).2⟩, rfl⟩
  · rintro ⟨h, rfl⟩
    exact ⟨_, ⟨h.mantissa, rfl⟩, _, ⟨⟨h.sum, h.places, h.power⟩, rfl⟩,
      ⟨h.shifted, fun hpower => ⟨h.ten hpower, h.product hpower⟩⟩, rfl⟩

/-! ## The reader -/

variable {text : String} {n : Numeral}

/-- A numeral that fits is read as its quantity. -/
theorem parse_of_fits (hchars : n.chars = trim text.toList) (hfits : n.Fits) :
    parse text = .ok n.quantity := by
  rw [parse_numeral hchars, magnitude_of_numeral.mpr ⟨hfits, rfl⟩]
  rfl

/-- A numeral that does not fit is out of range. -/
theorem parse_of_not_fits (hchars : n.chars = trim text.toList) (hfits : ¬ n.Fits) :
    parse text = .error (.overflow text) := by
  have hnone : n.magnitude? = none :=
    Option.eq_none_iff_forall_ne_some.mpr fun m hm => hfits (magnitude_of_numeral.mp hm).1
  rw [parse_numeral hchars, hnone]

/-- A text, with white space around it, is read exactly when it is a numeral that fits, and as what
the numeral stands for: its sign, its rational value in thousandths rounded up, and the family of
its suffix. A numeral that does not fit is out of range, and none is of the wrong form. -/
theorem reading_is_exact (text : String) :
    (∀ q, parse text = .ok q ↔
        ∃ n : Numeral, n.chars = trim text.toList ∧ n.Fits ∧ q = n.quantity) ∧
      ∀ n : Numeral, n.chars = trim text.toList →
        (parse text = .ok n.quantity ↔ n.Fits) ∧
          (parse text = .error (.overflow text) ↔ ¬ n.Fits) := by
  have hnumeral (n : Numeral) (hchars : n.chars = trim text.toList) :
      (parse text = .ok n.quantity ↔ n.Fits) ∧
        (parse text = .error (.overflow text) ↔ ¬ n.Fits) := by
    by_cases hfits : n.Fits
    · simp [parse_of_fits hchars hfits, hfits]
    · simp [parse_of_not_fits hchars hfits, hfits]
  refine ⟨fun q => ⟨fun h => ?_, ?_⟩, hnumeral⟩
  · obtain ⟨n, hchars⟩ := exists_numeral_of_parse h
    have hfits : n.Fits := by
      by_contra hfits
      rw [parse_of_not_fits hchars hfits] at h
      cases h
    rw [parse_of_fits hchars hfits] at h
    cases h
    exact ⟨n, hchars, hfits, rfl⟩
  · rintro ⟨n, hchars, hfits, rfl⟩
    exact parse_of_fits hchars hfits

/-- A negative quantity with decimal places in front of a binary suffix is rounded away from
zero. -/
theorem negative_fraction_is_rounded :
    parse " -1.0001Ki\n" = .ok ⟨-1024103, .binarySI⟩ := by
  let n : Numeral := ⟨.minus, ['1'], some ['0', '0', '0', '1'], .binary 0,
    List.all_eq_true.mp (by decide), by decide⟩
  have hpower : n.power = -1 := by decide
  have hfits : n.Fits := by constructor <;> decide
  have hmagnitude : ⌈n.units * 1000⌉₊ = 1024103 := by
    have hmantissa : n.mantissa * 2 ^ n.suffix.scale.shift = 10241024 := by decide
    rw [n.units_mul_thousand, hpower, hmantissa, Nat.ceil_eq_iff (by decide)]
    norm_num
  have hquantity : n.quantity = ⟨-1024103, .binarySI⟩ := by
    unfold Numeral.quantity
    rw [hmagnitude]
    rfl
  rw [← hquantity]
  exact ((reading_is_exact _).2 n (by decide)).1.mpr hfits

end VirtualApi.Quantity

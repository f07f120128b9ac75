import VirtualApi.Decimal.Natural

/-!
# Decimal notation reads back

`digits` writes a natural number without leading zeros. `value_digits` says that the digits stand
for the number, and `read_unsigned_digits` that the strict reader of bounded numbers accepts them
and returns the number whenever it is within the bound.
-/

namespace VirtualApi.Decimal

open Text

/-- Reading one more digit, from the left. -/
def shift (n : Nat) (c : Char) : Nat := n * 10 + digitValue c

/-- A run of digits is read from the left. -/
theorem value_eq_foldl (text : List Char) : value text = text.foldl shift 0 := rfl

/-- The value of a longer run is read on from the value of its beginning. -/
theorem value_append (first second : List Char) :
    value (first ++ second) = second.foldl shift (value first) := by
  simp only [value_eq_foldl, List.foldl_append]

/-- The digit of a number below ten stands for that number. -/
theorem digit_value_digit {n : Nat} (h : n < 10) : digitValue (digit n) = n := by
  revert n
  decide

/-- What `digit` writes is a digit. -/
theorem is_digit_digit (n : Nat) : isDigit (digit n) = true := by
  have hdigit : ∀ m < 10, isDigit (Char.ofNat (48 + m)) = true := by decide
  exact hdigit (n % 10) (Nat.mod_lt _ (by omega))

/-- The digits are written in front of those that are there already. -/
theorem digits_from_append (fuel n : Nat) (tail : List Char) :
    digitsFrom fuel n tail = digitsFrom fuel n [] ++ tail := by
  induction fuel generalizing n tail with
  | zero => rfl
  | succ fuel ih =>
      simp only [digitsFrom]
      split
      · rfl
      · rw [ih, ih (n / 10) [digit n], List.append_assoc, List.singleton_append]

/-- With enough fuel the digits stand for the number. -/
theorem value_digits_from {fuel n : Nat} (h : n < fuel) : value (digitsFrom fuel n []) = n := by
  induction fuel generalizing n with
  | zero => omega
  | succ fuel ih =>
      simp only [digitsFrom]
      split
      · rename_i hn
        simp [value, digit_value_digit hn]
      · have hrest := ih (n := n / 10) (by omega)
        have hlast : digitValue (digit n) = n % 10 := by
          have hmod := digit_value_digit (n := n % 10) (Nat.mod_lt _ (by omega))
          simpa [digit] using hmod
        rw [digits_from_append, value_append, hrest]
        simp only [List.foldl_cons, List.foldl_nil, shift, hlast]
        omega

/-- Every character that is written is a digit. -/
theorem digits_from_all (fuel n : Nat) : ∀ c ∈ digitsFrom fuel n [], isDigit c = true := by
  induction fuel generalizing n with
  | zero => simp [digitsFrom]
  | succ fuel ih =>
      simp only [digitsFrom]
      split
      · simp [is_digit_digit]
      · intro c hc
        rw [digits_from_append, List.mem_append] at hc
        rcases hc with hc | hc
        · exact ih _ c hc
        · rw [List.mem_singleton.mp hc]
          exact is_digit_digit n

/-- The digits of a number stand for it. -/
theorem value_digits (n : Nat) : value (digits n) = n := value_digits_from (Nat.lt_succ_self n)

/-- A digit stands for less than ten. -/
theorem digit_value_lt {c : Char} (h : isDigit c = true) : digitValue c < 10 := by
  simp only [isDigit, Bool.and_eq_true, decide_eq_true_iff] at h
  have hle : c.toNat ≤ 57 := h.2
  unfold digitValue
  omega

/-- Digits behind a number do not reach the next number at its place. -/
theorem foldl_shift_lt {text : List Char} (h : ∀ c ∈ text, isDigit c = true) (n : Nat) :
    text.foldl shift n < (n + 1) * 10 ^ text.length := by
  induction text generalizing n with
  | nil => exact Nat.lt_of_lt_of_eq (Nat.lt_succ_self n) (Nat.mul_one _).symm
  | cons c rest ih =>
      have hc := digit_value_lt (h c List.mem_cons_self)
      have hshift : shift n c + 1 ≤ (n + 1) * 10 := by
        unfold shift
        omega
      calc (c :: rest).foldl shift n
        _ < (shift n c + 1) * 10 ^ rest.length :=
            ih (fun d hd => h d (List.mem_cons_of_mem c hd)) (shift n c)
        _ ≤ (n + 1) * 10 * 10 ^ rest.length := Nat.mul_le_mul_right _ hshift
        _ = (n + 1) * 10 ^ (c :: rest).length := by
            rw [List.length_cons, Nat.pow_succ, Nat.mul_assoc, Nat.mul_comm 10]

/-- The value of digits is bounded by their number. -/
theorem value_lt {text : List Char} (h : ∀ c ∈ text, isDigit c = true) :
    value text < 10 ^ text.length := by
  rw [value_eq_foldl]
  simpa only [Nat.zero_add, Nat.one_mul] using foldl_shift_lt h 0

/-- A number is written in digits alone. -/
theorem digits_all (n : Nat) : ∀ c ∈ digits n, isDigit c = true := digits_from_all _ _

/-- Every number has a digit. -/
theorem digits_ne_nil (n : Nat) : digits n ≠ [] := by
  unfold digits digitsFrom
  split
  · simp
  · rw [digits_from_append]
    simp

/-- Reading further digits does not make a number smaller. -/
theorem le_foldl_shift (text : List Char) (n : Nat) : n ≤ text.foldl shift n := by
  induction text generalizing n with
  | nil => exact Nat.le_refl n
  | cons c rest ih => exact Nat.le_trans (by simp only [shift]; omega) (ih (shift n c))

/-- Digits whose number is within the bound are read as that number. -/
theorem read_from_eq_ok {bound n : Nat} {text : List Char}
    (hdigits : ∀ c ∈ text, isDigit c = true) (hbound : text.foldl shift n ≤ bound) :
    readFrom bound n text = .ok (text.foldl shift n) := by
  induction text generalizing n with
  | nil => rfl
  | cons c rest ih =>
      have hc : isDigit c = true := hdigits c (by simp)
      have hn : n * 10 + digitValue c ≤ bound :=
        Nat.le_trans (le_foldl_shift rest (shift n c)) hbound
      simp only [readFrom, hc, if_true, hn]
      exact ih (fun d hd => hdigits d (by simp [hd])) hbound

/-- A run of digits carries no sign, so that it is read from its first character. -/
theorem read_unsigned_eq_read_from {bound : Nat} {text : List Char} (hne : text ≠ [])
    (hdigits : ∀ c ∈ text, isDigit c = true) :
    readUnsigned bound text = readFrom bound 0 text := by
  cases text with
  | nil => exact absurd rfl hne
  | cons c rest =>
      have hc : c ≠ '+' := by
        rintro rfl
        exact absurd (hdigits '+' (by simp)) (by decide)
      unfold readUnsigned
      split <;> simp_all

/-- The notation of a number is read back as the number, up to the bound of the reader. -/
theorem read_unsigned_digits {bound n : Nat} (h : n ≤ bound) :
    readUnsigned bound (digits n) = .ok n := by
  have hvalue : (digits n).foldl shift 0 = n := value_digits n
  rw [read_unsigned_eq_read_from (digits_ne_nil n) (digits_all n),
    read_from_eq_ok (digits_all n) (by rw [hvalue]; exact h), hvalue]

end VirtualApi.Decimal

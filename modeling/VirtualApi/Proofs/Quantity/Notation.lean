import VirtualApi.Proofs.Quantity.Numeral
import VirtualApi.Quantity.Printer

/-!
# Quantities read back

Every branch of the printer writes an integer with a suffix that makes exactly the amount out of it
(`chars_written`), and the reader gives such a text its amount as long as the magnitude is at most
the greatest amount (`parse_written`). Hence `amount_reads_back`: every amount but the least is read
back from its text. The least one is written too, but its magnitude is one more than the reader
takes. The family of what is read back is the one that the text shows (`parse_text`), which need not
be that of the quantity.
-/

namespace VirtualApi.Quantity

open Text Decimal

/-! ## Integers with a suffix -/

/-- The amount, in thousandths, of a number of units of a scale that goes down to thousandths. -/
def Scale.amount (scale : Scale) (n : Int) : Int :=
  n * 2 ^ scale.shift * 10 ^ (scale.exponent + 3).toNat

/-- A suffix that can stand behind an integer: the reader knows it, it does not go on with the
number, and what it stands for is no fraction of a thousandth. -/
structure IsSuffix (suffix : List Char) (scale : Scale) : Prop where
  known : scaleOf? suffix = some scale
  apart : suffix.head?.any isNumeric = false
  solid : suffix.any isBlank = false
  bounds : -3 ≤ scale.exponent ∧ scale.exponent ≤ 18

/-- The text is an integer with a suffix of this scale, and they make this amount. -/
def Written (text : List Char) (scale : Scale) (amount : Int) : Prop :=
  ∃ n suffix, IsSuffix suffix scale ∧ text = signedDigits n ++ suffix ∧ amount = scale.amount n

/-- No character of an integer is white space. -/
theorem signed_digits_not_blank (n : Int) : ∀ c ∈ signedDigits n, isBlank c = false := by
  have hdigit : ∀ c : Char, isDigit c = true → isBlank c = false := by
    intro c hc
    simp only [isDigit, Bool.and_eq_true, decide_eq_true_eq] at hc
    have hlow : 48 ≤ c.toNat := hc.1
    have hhigh : c.toNat ≤ 57 := hc.2
    simp only [isBlank, Bool.or_eq_false_iff, Bool.and_eq_false_iff, decide_eq_false_iff_not]
    omega
  have hdigits : ∀ c ∈ digits n.natAbs, isBlank c = false :=
    fun c hc => hdigit c (digits_all n.natAbs c hc)
  unfold signedDigits
  split
  · exact List.forall_mem_cons.mpr ⟨by decide, hdigits⟩
  · exact hdigits

/-! ## The reader on them -/

/-- A magnitude that is an integer of thousandths within the range is computed exactly. -/
theorem scaled_of_le {mantissa shift exponent : Nat} (hexponent : exponent ≤ 38)
    (h : ((mantissa * 2 ^ shift * 10 ^ exponent : Nat) : Int) ≤ maxAmount) :
    scaled? mantissa shift exponent = some (mantissa * 2 ^ shift * 10 ^ exponent) := by
  have hpower : 0 < 10 ^ exponent := Nat.pow_pos (by omega)
  have hshifted : ((mantissa * 2 ^ shift : Nat) : Int) ≤ maxAmount :=
    Int.le_trans (Int.ofNat_le.mpr (Nat.le_mul_of_pos_right _ hpower)) h
  simp only [scaled?, magnitude_eq_some_iff.mpr ⟨hshifted, rfl⟩, Option.bind_eq_bind,
    Option.bind_some, Int.natCast_nonneg, if_true, Int.toNat_natCast, powerOfTen?, hexponent]
  exact magnitude_eq_some_iff.mpr ⟨h, rfl⟩

/-- An amount is its magnitude with the sign of the number. -/
theorem amount_eq_signed {scale : Scale} {exponent : Nat} (h : scale.exponent + 3 = exponent)
    (n : Int) :
    scale.amount n =
      if n < 0 then -((n.natAbs * 2 ^ scale.shift * 10 ^ exponent : Nat) : Int)
      else ((n.natAbs * 2 ^ scale.shift * 10 ^ exponent : Nat) : Int) := by
  simp only [Scale.amount, h, Int.toNat_natCast, Int.natCast_mul, Int.natCast_pow]
  split
  · next hneg =>
      rw [Int.ofNat_natAbs_of_nonpos (Int.le_of_lt hneg), Int.neg_mul, Int.neg_mul, Int.neg_neg]
      rfl
  · next hpos =>
      rw [Int.natAbs_of_nonneg (Int.not_lt.mp hpos)]
      rfl

/-- The numeral of an integer with a suffix. -/
def integerNumeral (n : Int) (suffix : Suffix) : Numeral where
  sign := if n < 0 then .minus else .none
  whole := digits n.natAbs
  point := none
  suffix := suffix
  all_digits := by
    rw [Option.getD_none, List.append_nil]
    exact digits_all n.natAbs
  digits_ne_nil := by
    rw [Option.getD_none, List.append_nil]
    exact digits_ne_nil n.natAbs

/-- An integer is written as its digits, after a minus sign when it is negative. -/
theorem integer_numeral_chars (n : Int) (suffix : Suffix) :
    (integerNumeral n suffix).chars = signedDigits n ++ suffix.chars := by
  unfold Numeral.chars integerNumeral signedDigits
  split <;> rfl

/-- The sign of the numeral is that of the integer. -/
theorem integer_numeral_apply (n : Int) (suffix : Suffix) (magnitude : Nat) :
    (integerNumeral n suffix).sign.apply magnitude =
      if n < 0 then -(magnitude : Int) else magnitude := by
  unfold integerNumeral
  split <;> rfl

/-- The magnitude of an integer with a suffix is computed exactly when it is within the range. -/
theorem integer_numeral_magnitude {n : Int} {suffix : Suffix} {exponent : Nat}
    (hexponent : suffix.scale.exponent + 3 = exponent) (hsmall : exponent ≤ 38)
    (h : ((n.natAbs * 2 ^ suffix.scale.shift * 10 ^ exponent : Nat) : Int) ≤ maxAmount) :
    (integerNumeral n suffix).magnitude? =
      some (n.natAbs * 2 ^ suffix.scale.shift * 10 ^ exponent) := by
  have hmantissa : mantissa? (digits n.natAbs ++ []) = some n.natAbs := by
    have hpower : 0 < 2 ^ suffix.scale.shift * 10 ^ exponent :=
      Nat.mul_pos (Nat.pow_pos (by omega)) (Nat.pow_pos (by omega))
    have hle : (n.natAbs : Int) ≤ maxAmount := by
      refine Int.le_trans (Int.ofNat_le.mpr ?_) h
      rw [Nat.mul_assoc]
      exact Nat.le_mul_of_pos_right _ hpower
    rw [List.append_nil, mantissa_eq_some_iff, value_digits]
    exact ⟨hle, rfl⟩
  have hpower : power? suffix.scale.exponent ([] : List Char).length = some (exponent : Int) := by
    rw [power_eq_some_iff, hexponent, List.length_nil, Int.natCast_zero, Int.sub_zero]
    unfold InInt32
    omega
  exact Option.bind_eq_some_iff.mpr ⟨_, hmantissa,
    Option.bind_eq_some_iff.mpr ⟨_, hpower, scaled_of_le hsmall h⟩⟩

/-- An integer with a suffix is read as the amount they make, when its magnitude is at most the
greatest amount. -/
theorem parse_written {text : List Char} {scale : Scale} {amount : Int}
    (h : Written text scale amount) (hrange : (amount.natAbs : Int) ≤ maxAmount) :
    parse (String.ofList text) = .ok ⟨amount, scale.format⟩ := by
  obtain ⟨n, suffixChars, hsuffix, rfl, rfl⟩ := h
  obtain ⟨suffix, rfl, rfl⟩ := scale_of_eq_some_iff.mp hsuffix.known
  have hbounds := hsuffix.bounds
  obtain ⟨exponent, hexponent⟩ : ∃ exponent : Nat, suffix.scale.exponent + 3 = exponent :=
    Int.eq_ofNat_of_zero_le (by omega)
  have hamount := amount_eq_signed hexponent n
  have hproduct :
      ((n.natAbs * 2 ^ suffix.scale.shift * 10 ^ exponent : Nat) : Int) ≤ maxAmount := by
    rw [hamount] at hrange
    split at hrange <;> simpa only [Int.natAbs_neg, Int.natAbs_natCast] using hrange
  have hblank : ∀ c ∈ signedDigits n ++ suffix.chars, isBlank c = false :=
    List.forall_mem_append.mpr ⟨signed_digits_not_blank n,
      fun c hc => Bool.eq_false_iff.mpr (List.any_eq_false.mp hsuffix.solid c hc)⟩
  have hchars : (integerNumeral n suffix).chars =
      trim (String.ofList (signedDigits n ++ suffix.chars)).toList := by
    rw [integer_numeral_chars, String.toList_ofList, trim_of_not_blank hblank]
  rw [parse_numeral hchars, integer_numeral_magnitude hexponent (by omega) hproduct]
  dsimp only
  rw [integer_numeral_apply, ← hamount]
  rfl

/-! ## What the printer writes -/

/-- Nothing stands behind a number of units. -/
theorem no_suffix : IsSuffix [] ⟨.decimalSI, 0, 0⟩ := by constructor <;> decide

/-- Thousandths have a suffix of their own. -/
theorem milli_suffix : IsSuffix ['m'] ⟨.decimalSI, 0, -3⟩ := by constructor <;> decide

/-- Every binary suffix stands for its power of two. -/
theorem binary_suffix : ∀ entry ∈ binarySuffixes, IsSuffix entry.1 ⟨.binarySI, entry.2, 0⟩ := by
  intro entry hentry
  simp only [binarySuffixes, List.mem_cons, List.not_mem_nil, or_false] at hentry
  rcases hentry with rfl | rfl | rfl | rfl | rfl | rfl <;> constructor <;> decide

/-- The powers of a thousand up to the sixth have a suffix in the decimal family. -/
theorem decimal_suffix {k : Nat} (hpos : k ≠ 0) (hle : k ≤ 6) :
    IsSuffix (decimalSuffix (3 * k)) ⟨.decimalSI, 0, (3 * k : Nat)⟩ := by
  obtain rfl | rfl | rfl | rfl | rfl | rfl : k = 1 ∨ k = 2 ∨ k = 3 ∨ k = 4 ∨ k = 5 ∨ k = 6 := by
    omega
  all_goals constructor <;> decide

/-- The powers of a thousand up to the sixth can be written as exponents. -/
theorem exponent_suffix {k : Nat} (hle : k ≤ 6) :
    IsSuffix ('e' :: digits (3 * k)) ⟨.decimalExponent, 0, (3 * k : Nat)⟩ := by
  obtain rfl | rfl | rfl | rfl | rfl | rfl | rfl :
      k = 0 ∨ k = 1 ∨ k = 2 ∨ k = 3 ∨ k = 4 ∨ k = 5 ∨ k = 6 := by
    omega
  all_goals constructor <;> decide

/-- Dividing by a thousand again and again takes out a power of a thousand and nothing else, and it
takes one out wherever it can. -/
theorem reduce_thousands_eq (fuel : Nat) (n : Int) (exponent : Nat) :
    ∃ k rest, k ≤ fuel ∧ reduceThousands fuel n exponent = (rest, exponent + 3 * k) ∧
      n = rest * 10 ^ (3 * k) ∧ (fuel ≠ 0 → (k = 0 ↔ n % 1000 ≠ 0)) := by
  induction fuel generalizing n exponent with
  | zero => exact ⟨0, n, Nat.le_refl 0, rfl, (Int.mul_one n).symm, fun h => absurd rfl h⟩
  | succ fuel ih =>
      unfold reduceThousands
      split
      · next hwhole =>
          obtain ⟨k, rest, hle, hreduced, hrest, -⟩ := ih (n / 1000) (exponent + 3)
          refine ⟨k + 1, rest, by omega, ?_, ?_, fun _ => by omega⟩
          · rw [hreduced, show exponent + 3 + 3 * k = exponent + 3 * (k + 1) by omega]
          · calc n = n / 1000 * 10 ^ 3 := by omega
              _ = rest * (10 ^ (3 * k) * 10 ^ 3) := by rw [hrest, Int.mul_assoc]
              _ = rest * 10 ^ (3 * (k + 1)) := by rw [← Int.pow_add, Nat.mul_succ]
      · next hnot =>
          exact ⟨0, n, Nat.zero_le _, rfl, (Int.mul_one n).symm, fun _ => iff_of_true rfl hnot⟩

/-- A number of units with the first of these suffixes that divides it is still that number, and it
is written without a suffix where none of them does. -/
theorem binary_chars_written {suffixes : List (List Char × Nat)}
    (h : ∀ entry ∈ suffixes, IsSuffix entry.1 ⟨.binarySI, entry.2, 0⟩) (units : Int) :
    ∃ scale, Written (binaryChars units suffixes) scale (units * 1000) ∧
      ((scale.format = .binarySI ∧ ∃ entry ∈ suffixes, units % 2 ^ entry.2 = 0) ∨
        (scale.format = .decimalSI ∧ ∀ entry ∈ suffixes, units % 2 ^ entry.2 ≠ 0)) := by
  induction suffixes with
  | nil =>
      exact ⟨_, ⟨units, [], no_suffix, (List.append_nil _).symm, by simp [Scale.amount]⟩,
        Or.inr ⟨rfl, nofun⟩⟩
  | cons entry rest ih =>
      obtain ⟨suffix, shift⟩ := entry
      unfold binaryChars
      split
      · next hwhole =>
          have hdiv := Int.ediv_mul_cancel (Int.dvd_of_emod_eq_zero hwhole)
          refine ⟨_, ⟨units / 2 ^ shift, suffix, h _ List.mem_cons_self, rfl, ?_⟩,
            Or.inl ⟨rfl, _, List.mem_cons_self, hwhole⟩⟩
          simp only [Scale.amount, hdiv]
          rfl
      · next hnot =>
          obtain ⟨scale, hwritten, hscale⟩ :=
            ih fun entry hentry => h entry (List.mem_cons_of_mem _ hentry)
          refine ⟨scale, hwritten, hscale.imp ?_ ?_⟩
          · intro ⟨hformat, entry, hentry, hwhole⟩
            exact ⟨hformat, entry, List.mem_cons_of_mem _ hentry, hwhole⟩
          · intro ⟨hformat, hrest⟩
            exact ⟨hformat, List.forall_mem_cons.mpr ⟨hnot, hrest⟩⟩

/-! ## The family that a text shows -/

/-- What an amount is a multiple of, in thousandths, when a suffix of the family is written. -/
def Format.unit : Format → Int
  | .decimalSI => 1
  | .binarySI => 1024 * 1000
  | .decimalExponent => 1000 * 1000

/-- The family that the text of a quantity shows. It is the decimal one where no suffix is written,
and where the one for thousandths is. -/
def shown (q : Quantity) : Format :=
  if q.millis ≠ 0 ∧ q.millis % q.format.unit = 0 then q.format else .decimalSI

/-- An amount with a fraction shows the decimal family. -/
theorem shown_of_fraction {q : Quantity} (h : q.millis % 1000 ≠ 0) : q.shown = .decimalSI := by
  unfold shown
  split
  · next hdvd =>
      have hunit := hdvd.2
      cases hformat : q.format with
      | decimalSI => rfl
      | binarySI =>
          rw [hformat, Format.unit] at hunit
          omega
      | decimalExponent =>
          rw [hformat, Format.unit] at hunit
          omega
  · rfl

/-- Some binary suffix divides a number exactly when the smallest one does. -/
theorem exists_binary_suffix_iff {units : Int} :
    (∃ entry ∈ binarySuffixes.reverse, units % 2 ^ entry.2 = 0) ↔ units % 1024 = 0 := by
  constructor
  · intro ⟨entry, hentry, hwhole⟩
    have hshift : ∀ entry ∈ binarySuffixes.reverse, 10 ≤ entry.2 := by decide
    have hdvd : (2 : Int) ^ 10 ∣ 2 ^ entry.2 := by
      rw [← Nat.add_sub_cancel' (hshift entry hentry), Int.pow_add]
      exact Int.dvd_mul_right _ _
    exact Int.emod_eq_zero_of_dvd (Int.dvd_trans hdvd (Int.dvd_of_emod_eq_zero hwhole))
  · intro hwhole
    exact ⟨(['K', 'i'], 10), by decide, hwhole⟩

/-- A whole number of units in the binary family shows it when a suffix divides the number. -/
theorem binary_chars_show {millis : Int} (hne : millis ≠ 0) (hwhole : millis % 1000 = 0) :
    ∃ scale, Written (binaryChars (millis / 1000) binarySuffixes.reverse) scale millis ∧
      scale.format = (⟨millis, .binarySI⟩ : Quantity).shown := by
  have hsuffixes : ∀ entry ∈ binarySuffixes.reverse,
      IsSuffix entry.1 ⟨.binarySI, entry.2, 0⟩ :=
    fun entry hentry => binary_suffix entry (List.mem_reverse.mp hentry)
  obtain ⟨scale, hwritten, hscale⟩ := binary_chars_written hsuffixes (millis / 1000)
  rw [show millis / 1000 * 1000 = millis by omega] at hwritten
  refine ⟨scale, hwritten, ?_⟩
  unfold shown Format.unit
  dsimp only
  rcases hscale with ⟨hformat, hdivides⟩ | ⟨hformat, hnone⟩
  · have hunits := exists_binary_suffix_iff.mp hdivides
    rw [hformat, if_pos ⟨hne, by omega⟩]
  · have hunits : millis / 1000 % 1024 ≠ 0 := hnone (['K', 'i'], 10) (by decide)
    rw [hformat, if_neg fun hdvd => hunits (by omega)]

/-- A whole number of units is what is left without its thousands, times a power of a thousand, and
there is no power where a thousand does not divide it. -/
theorem reduced_units {millis : Int} (hwhole : millis % 1000 = 0) :
    ∃ k rest, k ≤ 6 ∧ reduceThousands 6 (millis / 1000) 0 = (rest, 3 * k) ∧
      (∀ format, millis = Scale.amount ⟨format, 0, (3 * k : Nat)⟩ rest) ∧
      (k = 0 ↔ millis % Format.decimalExponent.unit ≠ 0) := by
  obtain ⟨k, rest, hle, hreduced, hrest, hnone⟩ := reduce_thousands_eq 6 (millis / 1000) 0
  refine ⟨k, rest, hle, by rw [hreduced, Nat.zero_add], fun format => ?_, ?_⟩
  · have hexponent : ((3 * k : Nat) + 3 : Int).toNat = 3 * k + 3 := by omega
    simp only [Scale.amount, hexponent, Int.pow_zero, Int.mul_one, Int.pow_add]
    rw [← Int.mul_assoc, ← hrest]
    omega
  · rw [hnone (by decide), Format.unit]
    omega

/-- What is left without any thousands is written without a suffix. -/
theorem written_plain {millis rest : Int} {k : Nat} (hk : k = 0)
    (h : millis = Scale.amount ⟨.decimalSI, 0, (3 * k : Nat)⟩ rest) :
    Written (signedDigits rest) ⟨.decimalSI, 0, 0⟩ millis := by
  subst hk
  exact ⟨rest, [], no_suffix, (List.append_nil _).symm, h⟩

/-- Every quantity is written as an integer with a suffix that make exactly its amount, in the
family that its text shows. -/
theorem chars_show (q : Quantity) :
    ∃ scale, Written q.chars scale q.millis ∧ scale.format = q.shown := by
  obtain ⟨millis, format⟩ := q
  unfold chars
  dsimp only
  split
  · next hzero =>
      refine ⟨_, ⟨0, [], no_suffix, rfl, by rw [hzero]; rfl⟩, ?_⟩
      exact (if_neg fun h => h.1 hzero).symm
  · next hne =>
      split
      · next hfraction =>
          refine ⟨_, ⟨millis, ['m'], milli_suffix, rfl, by simp [Scale.amount]⟩, ?_⟩
          exact (shown_of_fraction hfraction).symm
      · next hfraction =>
          have hwhole : millis % 1000 = 0 := Decidable.not_not.mp hfraction
          obtain ⟨k, rest, hle, hreduced, hamount, hnone⟩ := reduced_units hwhole
          simp only [hreduced]
          cases format with
          | binarySI => exact binary_chars_show hne hwhole
          | decimalSI =>
              have hshown : (⟨millis, .decimalSI⟩ : Quantity).shown = .decimalSI := ite_self _
              rw [hshown]
              dsimp only
              split
              · next h => exact ⟨_, written_plain (by omega) (hamount _), rfl⟩
              · next h => exact ⟨_, ⟨rest, _, decimal_suffix (by omega) hle, rfl, hamount _⟩, rfl⟩
          | decimalExponent =>
              unfold shown
              dsimp only
              -- Where no thousand can be taken out there is no exponent, and so no suffix.
              split
              · next h =>
                  rw [if_neg fun hdvd => hnone.mp (by omega) hdvd.2]
                  exact ⟨_, written_plain (by omega) (hamount _), rfl⟩
              · next h =>
                  have hdvd : millis % Format.decimalExponent.unit = 0 :=
                    Decidable.not_not.mp fun hnot => h (by rw [hnone.mpr hnot])
                  rw [if_pos ⟨hne, hdvd⟩]
                  exact ⟨_, ⟨rest, _, exponent_suffix hle, rfl, hamount _⟩, rfl⟩

/-- Every quantity is written as an integer with a suffix that make exactly its amount. -/
theorem chars_written (q : Quantity) : ∃ scale, Written q.chars scale q.millis :=
  (chars_show q).imp fun _ h => h.1

/-! ## Reading what was written -/

/-- The magnitude of every amount in range but the least is at most the greatest amount. -/
theorem natAbs_le_max_amount {n : Int} (h : minAmount ≤ n ∧ n ≤ maxAmount)
    (hleast : n ≠ minAmount) : (n.natAbs : Int) ≤ maxAmount := by
  simp only [minAmount, maxAmount] at *
  omega

/-- The text of the least amount, whose magnitude is more than the reader takes. -/
theorem least_text (format : Format) :
    (⟨minAmount, format⟩ : Quantity).text = "-170141183460469231731687303715884105728m" := by
  cases format <;> rfl

/-- The text of the least amount is not read. -/
theorem parse_least_text :
    parse "-170141183460469231731687303715884105728m" =
      .error (.overflow "-170141183460469231731687303715884105728m") := by
  rfl

/-- The text of a quantity other than the least is read as its amount, in the family that it
shows. -/
theorem parse_text (q : Quantity) (h : q.InRange) (hleast : q.millis ≠ minAmount) :
    parse q.text = .ok ⟨q.millis, q.shown⟩ := by
  obtain ⟨scale, hwritten, hformat⟩ := chars_show q
  rw [← hformat]
  exact parse_written hwritten (natAbs_le_max_amount h hleast)

/-- Every amount but the least, in any family, is read back exactly from its text. -/
theorem amount_reads_back (q : Quantity) (h : q.InRange) (hleast : q.millis ≠ minAmount) :
    ∃ format, parse q.text = .ok ⟨q.millis, format⟩ := by
  obtain ⟨scale, hwritten⟩ := chars_written q
  exact ⟨scale.format, parse_written hwritten (natAbs_le_max_amount h hleast)⟩

/-- One more than the least amount, in the binary family, is read back from its text. -/
theorem next_to_least_reads_back :
    (⟨minAmount + 1, .binarySI⟩ : Quantity).InRange ∧ minAmount + 1 ≠ minAmount ∧
      ∃ format,
        parse (⟨minAmount + 1, .binarySI⟩ : Quantity).text = .ok ⟨minAmount + 1, format⟩ := by
  have hrange : (⟨minAmount + 1, .binarySI⟩ : Quantity).InRange := by
    unfold InRange
    decide
  have hleast : minAmount + 1 ≠ minAmount := by decide
  exact ⟨hrange, hleast, amount_reads_back _ hrange hleast⟩

end VirtualApi.Quantity

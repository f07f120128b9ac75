import VirtualApi.Proofs.Quantity.Notation

/-!
# The amount of a text

`Reads` says that a text is read as a quantity of an amount, and `Denotes` the same of the one
amount that is written but not read. A text denotes at most the amount it is read as
(`Denotes.eq_of_parse`), and every quantity in range is written as a text that denotes its amount
(`denotes_text`).
-/

namespace VirtualApi.Quantity

/-! ## The range of what is read -/

/-- No magnitude is greater than the greatest amount: rounding up a fraction does not get there. -/
theorem scaled_le {mantissa shift magnitude : Nat} {exponent : Int}
    (h : scaled? mantissa shift exponent = some magnitude) : (magnitude : Int) ≤ maxAmount := by
  unfold scaled? at h
  obtain ⟨shifted, hshifted, h⟩ := Option.bind_eq_some_iff.mp h
  obtain ⟨hle, heq⟩ := magnitude_eq_some_iff.mp hshifted
  rw [← heq] at hle
  split at h
  · obtain ⟨power, -, h⟩ := Option.bind_eq_some_iff.mp h
    obtain ⟨hproduct, rfl⟩ := magnitude_eq_some_iff.mp h
    exact hproduct
  · next hneg =>
      split at h
      · next power hpower =>
          have htwo : 2 ≤ power := by
            unfold powerOfTen? at hpower
            split at hpower
            · cases hpower
              calc 2 ≤ 10 ^ 1 := by decide
                _ ≤ 10 ^ exponent.natAbs := Nat.pow_le_pow_right (by omega) (by omega)
            · cases hpower
          have hhalf : shifted / power ≤ shifted / 2 := Nat.div_le_div_left htwo (by omega)
          cases h
          simp only [maxAmount] at *
          split <;> omega
      · cases h
        simp only [maxAmount]
        split <;> omega

/-- What is read is in range, and not the least amount. -/
theorem natAbs_le_of_parse {text : String} {q : Quantity} (h : parse text = .ok q) :
    (q.millis.natAbs : Int) ≤ maxAmount := by
  obtain ⟨n, hchars⟩ := exists_numeral_of_parse h
  rw [parse_numeral hchars] at h
  cases hmagnitude : n.magnitude? with
  | none =>
      rw [hmagnitude] at h
      cases h
  | some magnitude =>
      rw [hmagnitude] at h
      cases h
      obtain ⟨_, -, hrest⟩ := Option.bind_eq_some_iff.mp hmagnitude
      obtain ⟨_, -, hscaled⟩ := Option.bind_eq_some_iff.mp hrest
      rw [n.sign.natAbs_apply]
      exact scaled_le hscaled

/-- A magnitude within the range is one of a quantity in range. -/
theorem in_range_of_natAbs_le {q : Quantity} (h : (q.millis.natAbs : Int) ≤ maxAmount) :
    q.InRange := by
  simp only [InRange, minAmount, maxAmount] at *
  omega

/-- The magnitude of the least amount is more than the greatest amount. -/
theorem ne_min_of_natAbs_le {n : Int} (h : (n.natAbs : Int) ≤ maxAmount) : n ≠ minAmount := by
  simp only [minAmount, maxAmount] at *
  omega

/-! ## What a text stands for -/

/-- The text is read as a quantity of this amount. -/
def Reads (text : String) (amount : Int) : Prop := ∃ format, parse text = .ok ⟨amount, format⟩

/-- The text stands for this amount: it is read as a quantity of it, or it is what is written for
the least amount, which no text is read as. -/
def Denotes (text : String) (amount : Int) : Prop :=
  Reads text amount ∨ (text = "-170141183460469231731687303715884105728m" ∧ amount = minAmount)

/-- What is read has the amount of the quantity. -/
theorem Reads.of_parse {text : String} {q : Quantity} (h : parse text = .ok q) :
    Reads text q.millis := ⟨q.format, h⟩

/-- A text is read as one amount only. -/
theorem Reads.eq_of_parse {text : String} {amount : Int} {q : Quantity} (h : Reads text amount)
    (hparse : parse text = .ok q) : amount = q.millis := by
  obtain ⟨format, hformat⟩ := h
  rw [hformat] at hparse
  cases hparse
  rfl

/-- What is read stands for its amount. -/
theorem Reads.denotes {text : String} {amount : Int} (h : Reads text amount) :
    Denotes text amount := Or.inl h

/-- A text that is read stands for the amount it is read as, and for no other. -/
theorem Denotes.eq_of_parse {text : String} {amount : Int} {q : Quantity} (h : Denotes text amount)
    (hparse : parse text = .ok q) : amount = q.millis := by
  rcases h with h | ⟨rfl, -⟩
  · exact h.eq_of_parse hparse
  · rw [parse_least_text] at hparse
    cases hparse

/-- A text stands for one amount only. -/
theorem Denotes.eq {text : String} {first second : Int} (h : Denotes text first)
    (hother : Denotes text second) : first = second := by
  rcases hother with ⟨format, hparse⟩ | ⟨htext, rfl⟩
  · exact h.eq_of_parse hparse
  · rcases h with ⟨format, hparse⟩ | ⟨-, rfl⟩
    · rw [htext, parse_least_text] at hparse
      cases hparse
    · rfl

/-- An amount other than the least is read from every text that stands for it. -/
theorem Denotes.reads {text : String} {amount : Int} (h : Denotes text amount)
    (hleast : amount ≠ minAmount) : Reads text amount := by
  rcases h with h | ⟨-, heq⟩
  · exact h
  · exact absurd heq hleast

/-- The text of a quantity in range stands for its amount. -/
theorem denotes_text {q : Quantity} (h : q.InRange) : Denotes q.text q.millis := by
  by_cases hleast : q.millis = minAmount
  · obtain ⟨millis, format⟩ := q
    cases hleast
    exact Or.inr ⟨least_text format, rfl⟩
  · obtain ⟨scale, hwritten⟩ := chars_written q
    exact Or.inl ⟨scale.format, parse_written hwritten (natAbs_le_max_amount h hleast)⟩

/-! ## Operations that combine two quantities -/

/-- The operation on quantities, where it has a result, is this operation on their amounts, and
stays in range. -/
def Combines (pick : Quantity → Quantity → Option Quantity) (op : Int → Int → Int) : Prop :=
  ∀ {a b c : Quantity}, a.InRange → b.InRange → pick a b = some c →
    c.InRange ∧ c.millis = op a.millis b.millis

/-- An amount is taken when it is in range. -/
theorem amount_eq_some_iff {n m : Int} :
    amount? n = some m ↔ (minAmount ≤ n ∧ n ≤ maxAmount) ∧ m = n := by
  unfold amount?
  split
  · next h => exact ⟨fun heq => ⟨h, (Option.some.inj heq).symm⟩, fun heq => heq.2 ▸ rfl⟩
  · next h => exact ⟨fun heq => (nomatch heq), fun heq => absurd heq.1 h⟩

/-- The sum of quantities has the sum of their amounts. -/
theorem add_combines : Combines Quantity.add? (· + ·) := by
  intro a b c _ _ h
  obtain ⟨millis, hmillis, rfl⟩ := Option.map_eq_some_iff.mp h
  obtain ⟨hrange, rfl⟩ := amount_eq_some_iff.mp hmillis
  exact ⟨hrange, rfl⟩

/-- The larger of two quantities has the larger of their amounts. -/
theorem max_combines : Combines (fun a b => some (Quantity.max a b)) Max.max := by
  intro a b c ha hb h
  cases h
  unfold Quantity.max
  split
  · next hlt => exact ⟨hb, (Int.max_eq_right (Int.le_of_lt hlt)).symm⟩
  · next hle => exact ⟨ha, (Int.max_eq_left (Int.not_lt.mp hle)).symm⟩

/-- A multiple of a quantity has the multiple of its amount, and stays in range. -/
theorem scale_eq_some {q scaled : Quantity} {factor : Int} (h : q.scale? factor = some scaled) :
    scaled.InRange ∧ scaled.millis = factor * q.millis := by
  obtain ⟨millis, hmillis, rfl⟩ := Option.map_eq_some_iff.mp h
  obtain ⟨hrange, rfl⟩ := amount_eq_some_iff.mp hmillis
  exact ⟨hrange, Int.mul_comm _ _⟩

end VirtualApi.Quantity

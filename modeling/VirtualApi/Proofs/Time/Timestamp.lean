import VirtualApi.Proofs.Decimal.Natural
import VirtualApi.Time.Timestamp

/-!
# Points in time

Points in time are in a strict order (`Timestamp.before`). What is read in the strict form is always
a point of a day with a fraction that ends within a leap second at the latest (`Timestamp.Proper`).
-/

namespace VirtualApi.Timestamp

open Decimal Text

/-! ## Order -/

section Order

variable {a b c : Timestamp}

/-- One point lies before another by its day, or else its second, or else its fraction. -/
theorem before_iff :
    a.before b = true ↔ a.day < b.day ∨
      a.day = b.day ∧ (a.second < b.second ∨ a.second = b.second ∧ a.nano < b.nano) := by
  simp [before]

/-- Of two different points one lies before the other. -/
theorem eq_of_not_before (hab : a.before b ≠ true) (hba : b.before a ≠ true) : a = b := by
  rw [Ne, before_iff] at hab hba
  cases a
  cases b
  simp only [Timestamp.mk.injEq]
  dsimp only at hab hba
  omega

/-- What does not lie before a point does not lie before an earlier one. -/
theorem not_before_of_before (hab : a.before b = true) (hcb : c.before b ≠ true) :
    c.before a ≠ true := by
  rw [Ne, before_iff] at hcb ⊢
  rw [before_iff] at hab
  omega

/-- No point lies before itself. -/
theorem not_before_self (a : Timestamp) : a.before a ≠ true := by
  rw [Ne, before_iff]
  omega

end Order

/-! ## What is read -/

/-- The second is one of a day, and the fraction ends with a leap second at the latest. -/
structure Proper (t : Timestamp) : Prop where
  second_lt : t.second < 86400
  nano_lt : t.nano < 2000000000

variable {t : Timestamp}

/-- The fraction of a second that is read is less than a second. -/
theorem nano_lt_of_fraction {text rest : List Char} {nano : Nat}
    (h : takeOptionalFraction? text = some (nano, rest)) : nano < 1000000000 := by
  unfold takeOptionalFraction? at h
  split at h
  · next places =>
      simp only [takeFraction?, takeNumber?, Option.bind_eq_bind] at h
      split at h
      · simp only [Option.bind_some, Option.some.injEq, Prod.mk.injEq, List.length_drop] at h
        obtain ⟨rfl, -⟩ := h
        generalize hfound : (places.take 9).takeWhile isDigit = found
        have hlength : found.length ≤ (places.take 9).length :=
          hfound ▸ (List.takeWhile_sublist isDigit).length_le
        rw [List.length_take] at hlength
        have hdigits : ∀ c ∈ found, isDigit c = true := by
          subst hfound
          exact List.all_eq_true.mp List.all_takeWhile
        have htaken : places.length - (places.length - found.length) = found.length := by omega
        calc value found * 10 ^ (9 - (places.length - (places.length - found.length)))
          _ = value found * 10 ^ (9 - found.length) := by rw [htaken]
          _ < 10 ^ found.length * 10 ^ (9 - found.length) :=
              Nat.mul_lt_mul_of_pos_right (value_lt hdigits) (Nat.pow_pos (by decide))
          _ = 1000000000 := by rw [← Nat.pow_add, Nat.add_sub_cancel' (by omega)]
      · cases h
  · cases h
    decide

/-- A local time is a point of a day in UTC. -/
theorem proper_of_local {year offset : Int} {month day hour minute second nano : Nat}
    (hnano : nano < 1000000000)
    (h : ofLocal? year month day hour minute second nano offset = some t) : t.Proper := by
  simp only [ofLocal?, Option.ite_none_right_eq_some, Option.some.injEq] at h
  obtain ⟨-, -, rfl⟩ := h
  constructor
  · exact (Int.toNat_lt (Int.fmod_nonneg_of_pos _ (by decide))).mpr
      (Int.fmod_lt_of_pos _ (by decide))
  · dsimp only
    split <;> omega

/-- A point in time that is read in the strict form is proper. -/
theorem proper_of_parse {text : String} (h : parse? text = some t) : t.Proper := by
  unfold parse? at h
  -- Five numbers with what follows them, the seconds, their fraction and the offset.
  iterate 5
    obtain ⟨⟨_, _⟩, -, h⟩ := Option.bind_eq_some_iff.mp h
    obtain ⟨_, -, h⟩ := Option.bind_eq_some_iff.mp h
  obtain ⟨⟨_, _⟩, -, h⟩ := Option.bind_eq_some_iff.mp h
  obtain ⟨⟨_, _⟩, hfraction, h⟩ := Option.bind_eq_some_iff.mp h
  obtain ⟨⟨_, _⟩, -, h⟩ := Option.bind_eq_some_iff.mp h
  exact proper_of_local (nano_lt_of_fraction hfraction) (Option.ite_none_right_eq_some.mp h).2

end VirtualApi.Timestamp

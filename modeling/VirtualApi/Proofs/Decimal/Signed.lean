import VirtualApi.Proofs.Decimal.Natural

/-!
# Signed decimal notation

A signed integer is written as a sign, which may be left out, and digits. The reader of machine
integers takes exactly what is so written and representable in its width
(`read_signed_eq_some_iff`).
-/

namespace VirtualApi.Decimal

open Text

/-- What may stand in front of digits. -/
inductive Sign where
  | none
  | plus
  | minus
deriving DecidableEq, Repr

namespace Sign

/-- The characters of a sign. -/
def chars : Sign → List Char
  | .none => []
  | .plus => ['+']
  | .minus => ['-']

/-- The integer of a magnitude with a sign. -/
def apply (sign : Sign) (magnitude : Nat) : Int :=
  if sign = .minus then -(magnitude : Int) else magnitude

/-- A sign does not change the magnitude. -/
theorem natAbs_apply (sign : Sign) (magnitude : Nat) :
    (sign.apply magnitude).natAbs = magnitude := by
  unfold apply
  split
  · rw [Int.natAbs_neg, Int.natAbs_natCast]
  · exact Int.natAbs_natCast magnitude

end Sign

/-- The notation of an integer that is representable in a width in bits. -/
structure Signed (width : Nat) where
  sign : Sign
  digits : List Char
  digits_ne_nil : digits ≠ []
  all_digits : ∀ c ∈ digits, isDigit c = true
  in_range : -(2 ^ (width - 1) : Nat) ≤ sign.apply (value digits) ∧
    sign.apply (value digits) < (2 ^ (width - 1) : Nat)

namespace Signed

variable {width : Nat}

/-- The characters of the notation. -/
def chars (n : Signed width) : List Char := n.sign.chars ++ n.digits

/-- The integer that is written. -/
def toInt (n : Signed width) : Int := n.sign.apply (value n.digits)

end Signed

/-! ## Reading -/

variable {text : List Char} {bound n : Nat}

/-- Digits are read from the left as the number they stand for, when it is within the bound. -/
theorem read_from_eq_ok_iff {start : Nat} (hstart : start ≤ bound) :
    readFrom bound start text = .ok n ↔
      (∀ c ∈ text, isDigit c = true) ∧ text.foldl shift start = n ∧ n ≤ bound := by
  constructor
  · intro h
    induction text generalizing start with
    | nil =>
        cases h
        exact ⟨fun c hc => (nomatch hc), rfl, hstart⟩
    | cons c rest ih =>
        unfold readFrom at h
        split at h
        · next hc =>
            split at h
            · next hle =>
                obtain ⟨hdigits, hvalue, hn⟩ := ih hle h
                exact ⟨List.forall_mem_cons.mpr ⟨hc, hdigits⟩, hvalue, hn⟩
            · cases h
        · cases h
  · rintro ⟨hdigits, rfl, hn⟩
    exact read_from_eq_ok hdigits hn

/-- A run of digits is read as its number, when that is within the bound. -/
theorem read_digits_eq_some_iff :
    readDigits? bound text = some n ↔
      text ≠ [] ∧ (∀ c ∈ text, isDigit c = true) ∧ value text = n ∧ n ≤ bound := by
  have hread : (readFrom bound 0 text).toOption = some n ↔ readFrom bound 0 text = .ok n := by
    cases readFrom bound 0 text with
    | error e => constructor <;> intro h <;> cases h
    | ok m => exact ⟨fun h => congrArg Except.ok (Option.some.inj h), fun h => by cases h; rfl⟩
  unfold readDigits?
  by_cases hnil : text = []
  · rw [if_pos hnil]
    exact ⟨fun h => (nomatch h), fun h => absurd hnil h.1⟩
  · rw [if_neg hnil, hread, read_from_eq_ok_iff (Nat.zero_le bound)]
    exact ⟨fun h => ⟨hnil, h⟩, fun h => h.2⟩

/-- A run of digits does not begin with a sign. -/
theorem head_ne_of_digits {c d : Char} {rest : List Char}
    (h : ∀ c ∈ d :: rest, isDigit c = true) (hc : isDigit c = false) : d ≠ c := by
  rintro rfl
  rw [h d List.mem_cons_self] at hc
  cases hc

/-- The reader of integers of a width takes exactly the notation of those that are representable in
it, and gives what is written. -/
theorem read_signed_eq_some_iff {width : Nat} {m : Int} :
    readSigned? width text = some m ↔ ∃ n : Signed width, n.chars = text ∧ n.toInt = m := by
  have hpos : 0 < 2 ^ (width - 1) := Nat.pow_pos (by decide)
  constructor
  · intro h
    unfold readSigned? at h
    split at h
    · next rest =>
        obtain ⟨k, hk, rfl⟩ := Option.map_eq_some_iff.mp h
        obtain ⟨hne, hdigits, rfl, hle⟩ := read_digits_eq_some_iff.mp hk
        exact ⟨⟨.minus, rest, hne, hdigits, by simp only [Sign.apply, if_true]; omega⟩, rfl, rfl⟩
    · next rest =>
        obtain ⟨k, hk, rfl⟩ := Option.map_eq_some_iff.mp h
        obtain ⟨hne, hdigits, rfl, hle⟩ := read_digits_eq_some_iff.mp hk
        exact ⟨⟨.plus, rest, hne, hdigits,
          by simp only [Sign.apply, reduceCtorEq, if_false]; omega⟩, rfl, rfl⟩
    · obtain ⟨k, hk, rfl⟩ := Option.map_eq_some_iff.mp h
      obtain ⟨hne, hdigits, rfl, hle⟩ := read_digits_eq_some_iff.mp hk
      exact ⟨⟨.none, text, hne, hdigits, by simp only [Sign.apply, reduceCtorEq, if_false]; omega⟩,
        rfl, rfl⟩
  · rintro ⟨⟨sign, digits, hne, hdigits, hrange⟩, rfl, rfl⟩
    have hread (bound : Nat) (hle : value digits ≤ bound) :
        readDigits? bound digits = some (value digits) :=
      read_digits_eq_some_iff.mpr ⟨hne, hdigits, rfl, hle⟩
    cases sign with
    | none =>
        simp only [Sign.apply, reduceCtorEq, if_false] at hrange
        obtain ⟨d, rest, rfl⟩ := List.exists_cons_of_ne_nil hne
        have hplus : d ≠ '+' := head_ne_of_digits hdigits (by decide)
        have hminus : d ≠ '-' := head_ne_of_digits hdigits (by decide)
        have hvalue := hread (2 ^ (width - 1) - 1) (by omega)
        unfold readSigned?
        simp [Signed.chars, Sign.chars, hplus, hminus, hvalue, Signed.toInt, Sign.apply]
    | plus =>
        simp only [Sign.apply, reduceCtorEq, if_false] at hrange
        have hvalue := hread (2 ^ (width - 1) - 1) (by omega)
        simp [readSigned?, Signed.chars, Sign.chars, hvalue, Signed.toInt, Sign.apply]
    | minus =>
        simp only [Sign.apply, if_true] at hrange
        have hvalue := hread (2 ^ (width - 1)) (by omega)
        simp [readSigned?, Signed.chars, Sign.chars, hvalue, Signed.toInt, Sign.apply]

end VirtualApi.Decimal

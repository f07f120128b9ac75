import Mathlib.Data.List.TakeDrop
import VirtualApi.Proofs.Decimal.Signed
import VirtualApi.Proofs.Text.Blank
import VirtualApi.Proofs.Text.Split
import VirtualApi.Quantity.Reader

/-!
# How quantities are written

A `Numeral` is the notation of a quantity: a sign, digits with at most one point, and a suffix. The
suffix `E` is both a unit and the marker of an exponent; what follows decides between the two
(`scale_of_eq_some_iff`). The reader takes every numeral apart into its pieces (`parse_numeral`),
and reads nothing else (`exists_numeral_of_parse`).
-/

namespace VirtualApi.Quantity

open Text Decimal

/-! ## The steps of the reader -/

/-- A magnitude passes when it is within the range. -/
theorem magnitude_eq_some_iff {n m : Nat} :
    magnitude? n = some m ↔ (n : Int) ≤ maxAmount ∧ m = n := by
  unfold magnitude?
  split
  · next h => exact ⟨fun heq => ⟨h, (Option.some.inj heq).symm⟩, fun heq => heq.2 ▸ rfl⟩
  · next h => exact ⟨fun heq => (nomatch heq), fun heq => absurd heq.1 h⟩

/-- Digits are read as their number when it is within the range: no number on the way is greater. -/
theorem mantissa_eq_some_iff {text : List Char} {m : Nat} :
    mantissa? text = some m ↔ (value text : Int) ≤ maxAmount ∧ m = value text := by
  have hstep : ∀ (rest : List Char) (n : Nat), (n : Int) ≤ maxAmount →
      (rest.foldlM (fun n c => magnitude? (shift n c)) n = some m ↔
        ((rest.foldl shift n : Nat) : Int) ≤ maxAmount ∧ m = rest.foldl shift n) := by
    intro rest
    induction rest with
    | nil =>
        intro n hn
        exact ⟨fun h => ⟨hn, (Option.some.inj h).symm⟩, fun h => h.2 ▸ rfl⟩
    | cons c rest ih =>
        intro n _
        rw [List.foldlM_cons]
        by_cases hle : ((shift n c : Nat) : Int) ≤ maxAmount
        · rw [magnitude_eq_some_iff.mpr ⟨hle, rfl⟩]
          exact ih (shift n c) hle
        · have hnone : magnitude? (shift n c) = none := if_neg hle
          rw [hnone]
          refine ⟨fun h => (nomatch h), fun h => absurd ?_ hle⟩
          exact Int.le_trans (Int.ofNat_le.mpr (le_foldl_shift rest (shift n c))) h.1
  exact hstep text 0 (by decide)

/-- The integer is representable in 32 bits. -/
def InInt32 (n : Int) : Prop := -(2 ^ 31) ≤ n ∧ n < 2 ^ 31

instance (n : Int) : Decidable (InInt32 n) :=
  inferInstanceAs (Decidable (-(2 ^ 31) ≤ n ∧ n < 2 ^ 31))

/-- An integer passes when 32 bits are enough for it. -/
theorem int32_eq_some_iff {n m : Int} : int32? n = some m ↔ InInt32 n ∧ m = n := by
  unfold int32?
  split
  · next h => exact ⟨fun heq => ⟨h, (Option.some.inj heq).symm⟩, fun heq => heq.2 ▸ rfl⟩
  · next h => exact ⟨fun heq => (nomatch heq), fun heq => absurd heq.1 h⟩

/-- The power of ten is found when 32 bits are enough for both sums and for what goes into them. -/
theorem power_eq_some_iff {exponent power : Int} {places : Nat} :
    power? exponent places = some power ↔
      (InInt32 (exponent + 3) ∧ InInt32 places ∧ InInt32 (exponent + 3 - places)) ∧
        power = exponent + 3 - places := by
  simp only [power?, Option.bind_eq_bind, Option.bind_eq_some_iff, int32_eq_some_iff]
  constructor
  · rintro ⟨_, ⟨hsum, rfl⟩, _, ⟨hplaces, rfl⟩, hpower, rfl⟩
    exact ⟨⟨hsum, hplaces, hpower⟩, rfl⟩
  · rintro ⟨⟨hsum, hplaces, hpower⟩, rfl⟩
    exact ⟨_, ⟨hsum, rfl⟩, _, ⟨hplaces, rfl⟩, hpower, rfl⟩

/-! ## Suffixes -/

/-- What may stand behind the digits of a quantity. -/
inductive Suffix where
  | units
  /-- A power of 1024, from the first to the sixth. -/
  | binary (rank : Fin 6)
  /-- A power of 1000, from the first to the sixth. -/
  | multiple (rank : Fin 6)
  /-- A power of a thousandth, from the first to the third. -/
  | fraction (rank : Fin 3)
  /-- A power of ten that is written out behind `e` or `E`. -/
  | exponent (capital : Bool) (power : Signed 32)

namespace Suffix

/-- The characters of a suffix. -/
def chars : Suffix → List Char
  | .units => []
  | .binary rank => [['K', 'M', 'G', 'T', 'P', 'E'].get rank, 'i']
  | .multiple rank => [['k', 'M', 'G', 'T', 'P', 'E'].get rank]
  | .fraction rank => [['m', 'u', 'n'].get rank]
  | .exponent capital power => (if capital then 'E' else 'e') :: power.chars

/-- What a suffix says: its family, a power of two and a power of ten. -/
def scale : Suffix → Scale
  | .units => ⟨.decimalSI, 0, 0⟩
  | .binary rank => ⟨.binarySI, 10 * (rank.val + 1), 0⟩
  | .multiple rank => ⟨.decimalSI, 0, 3 * (rank.val + 1)⟩
  | .fraction rank => ⟨.decimalSI, 0, -3 * (rank.val + 1)⟩
  | .exponent _ power => ⟨.decimalExponent, 0, power.toInt⟩

/-- A suffix does not go on with the number. -/
theorem apart (suffix : Suffix) : suffix.chars.head?.any isNumeric = false := by
  cases suffix with
  | units => rfl
  | binary rank => revert rank; decide
  | multiple rank => revert rank; decide
  | fraction rank => revert rank; decide
  | exponent capital power => cases capital <;> rfl

end Suffix

/-- The entry found under a key is one of the entries. -/
theorem mem_of_lookup {α β : Type} [BEq α] [LawfulBEq α] {key : α} {b : β}
    {entries : List (α × β)} (h : entries.lookup key = some b) : (key, b) ∈ entries := by
  obtain ⟨before, after, rfl, -⟩ := List.lookup_eq_some_iff.mp h
  exact List.mem_append_right _ List.mem_cons_self

/-- The marker of an exponent with a number behind it is in neither table of suffixes. -/
theorem scale_of_exponent (capital : Bool) {rest : List Char} (hne : rest ≠ [])
    (hletter : 'i' ∉ rest) :
    scaleOf? ((if capital then 'E' else 'e') :: rest) =
      (readSigned? 32 rest).map fun exponent => ⟨.decimalExponent, 0, exponent⟩ := by
  have hunit : rest.isEmpty = false := by simp [hne]
  have hbinary : (rest == ['i']) = false := by
    rw [beq_eq_false_iff_ne]
    rintro rfl
    exact hletter List.mem_cons_self
  cases capital <;>
    simp [scaleOf?, binarySuffixes, decimalSuffixes, List.lookup_cons, hunit, hbinary]

/-- The reader knows exactly the suffixes, and what they say. -/
theorem scale_of_eq_some_iff {text : List Char} {scale : Scale} :
    scaleOf? text = some scale ↔ ∃ suffix : Suffix, suffix.chars = text ∧ suffix.scale = scale := by
  have hbinary : ∀ entry ∈ binarySuffixes, ∃ rank : Fin 6, (Suffix.binary rank).chars = entry.1 ∧
      (Suffix.binary rank).scale = ⟨.binarySI, entry.2, 0⟩ := by
    decide
  have hdecimal : ∀ entry ∈ decimalSuffixes,
      (∃ rank : Fin 6, (Suffix.multiple rank).chars = entry.1 ∧
        (Suffix.multiple rank).scale = ⟨.decimalSI, 0, entry.2⟩) ∨
      ∃ rank : Fin 3, (Suffix.fraction rank).chars = entry.1 ∧
        (Suffix.fraction rank).scale = ⟨.decimalSI, 0, entry.2⟩ := by
    decide
  constructor
  · intro h
    unfold scaleOf? at h
    split at h
    · next hnil =>
        cases h
        exact ⟨.units, hnil.symm, rfl⟩
    · split at h
      · next shift hlookup =>
          cases h
          obtain ⟨rank, hchars, hscale⟩ := hbinary _ (mem_of_lookup hlookup)
          exact ⟨.binary rank, hchars, hscale⟩
      · split at h
        · next exponent hlookup =>
            cases h
            obtain ⟨rank, hchars, hscale⟩ | ⟨rank, hchars, hscale⟩ :=
              hdecimal _ (mem_of_lookup hlookup)
            · exact ⟨.multiple rank, hchars, hscale⟩
            · exact ⟨.fraction rank, hchars, hscale⟩
        · split at h
          · next c rest _ =>
              split at h
              · next hmarker =>
                  obtain ⟨exponent, hread, rfl⟩ := Option.map_eq_some_iff.mp h
                  obtain ⟨power, rfl, rfl⟩ := read_signed_eq_some_iff.mp hread
                  rcases hmarker with rfl | rfl
                  · exact ⟨.exponent false power, rfl, rfl⟩
                  · exact ⟨.exponent true power, rfl, rfl⟩
              · cases h
          · cases h
  · rintro ⟨suffix, rfl, rfl⟩
    cases suffix with
    | units => rfl
    | binary rank => revert rank; decide
    | multiple rank => revert rank; decide
    | fraction rank => revert rank; decide
    | exponent capital power =>
        have hne : power.chars ≠ [] := fun h => power.digits_ne_nil (List.append_eq_nil_iff.mp h).2
        have hletter : 'i' ∉ power.chars := by
          intro h
          rcases List.mem_append.mp h with h | h
          · revert h
            cases power.sign <;> decide
          · exact absurd (power.all_digits _ h) (by decide)
        have hread : readSigned? 32 power.chars = some power.toInt :=
          read_signed_eq_some_iff.mpr ⟨power, rfl, rfl⟩
        exact (scale_of_exponent capital hne hletter).trans (by rw [hread]; rfl)

/-! ## Numerals -/

/-- What a class of characters goes on for is cut off where a character outside it follows. -/
theorem span_append {p : Char → Bool} {first second : List Char} (hfirst : ∀ c ∈ first, p c = true)
    (hsecond : second.head?.any p = false) : (first ++ second).span p = (first, second) := by
  have hdrop : second.dropWhile p = second := by
    apply drop_while_eq_self
    intro c hc
    simpa [hc] using hsecond
  have htake : second.takeWhile p = [] := by
    have happend := List.takeWhile_append_dropWhile (p := p) (l := second)
    rw [hdrop] at happend
    exact List.append_left_eq_self.mp happend
  rw [List.span_eq_takeWhile_dropWhile, List.takeWhile_append_of_pos hfirst,
    List.dropWhile_append_of_pos hfirst, hdrop, htake, List.append_nil]

/-- The notation of a quantity. -/
structure Numeral where
  sign : Sign
  /-- The digits in front of the point. -/
  whole : List Char
  /-- The digits behind the point, if there is one. -/
  point : Option (List Char)
  suffix : Suffix
  all_digits : ∀ c ∈ whole ++ point.getD [], isDigit c = true
  digits_ne_nil : whole ++ point.getD [] ≠ []

namespace Numeral

/-- The decimal places. -/
def places (n : Numeral) : List Char := n.point.getD []

/-- The digits with the point between them. -/
def unsigned (n : Numeral) : List Char :=
  match n.point with
  | none => n.whole
  | some places => n.whole ++ '.' :: places

/-- The characters of the notation. -/
def chars (n : Numeral) : List Char := n.sign.chars ++ n.unsigned ++ n.suffix.chars

/-- The digits as one integer. -/
def mantissa (n : Numeral) : Nat := value (n.whole ++ n.places)

/-- The magnitude that the reader computes, in thousandths. -/
def magnitude? (n : Numeral) : Option Nat := do
  let mantissa ← mantissa? (n.whole ++ n.places)
  let power ← power? n.suffix.scale.exponent n.places.length
  scaled? mantissa n.suffix.scale.shift power

variable {n : Numeral}

/-- The digits in front of the point are digits, and so are those behind it. -/
theorem is_digit (n : Numeral) :
    (∀ c ∈ n.whole, isDigit c = true) ∧ ∀ c ∈ n.places, isDigit c = true :=
  List.forall_mem_append.mp n.all_digits

/-- Between the sign and the suffix there are digits and a point. -/
theorem mem_unsigned {c : Char} (h : c ∈ n.unsigned) : isDigit c = true ∨ c = '.' := by
  obtain ⟨hwhole, hplaces⟩ := n.is_digit
  unfold unsigned at h
  cases hpoint : n.point with
  | none =>
      rw [hpoint] at h
      exact .inl (hwhole c h)
  | some places =>
      rw [hpoint] at h
      rw [Numeral.places, hpoint] at hplaces
      rcases List.mem_append.mp h with h | h
      · exact .inl (hwhole c h)
      · rcases List.mem_cons.mp h with rfl | h
        · exact .inr rfl
        · exact .inl (hplaces c h)

/-- The number is everything in front of the suffix. -/
theorem span_chars (n : Numeral) :
    n.chars.span isNumeric = (n.sign.chars ++ n.unsigned, n.suffix.chars) := by
  refine span_append (List.forall_mem_append.mpr ⟨?_, fun c hc => ?_⟩) n.suffix.apart
  · exact List.all_eq_true.mp (by cases n.sign <;> decide)
  · rcases mem_unsigned hc with hdigit | rfl
    · simp [isNumeric, hdigit]
    · decide

/-- The sign is cut off. -/
theorem split_sign_chars (n : Numeral) :
    splitSign (n.sign.chars ++ n.unsigned) = (decide (n.sign = .minus), n.unsigned) := by
  cases hsign : n.sign with
  | plus => rfl
  | minus => rfl
  | none =>
      have hplus : '+' ∉ n.unsigned := fun h => absurd (mem_unsigned h) (by decide)
      have hminus : '-' ∉ n.unsigned := fun h => absurd (mem_unsigned h) (by decide)
      simp only [Sign.chars, List.nil_append, splitSign]
      split
      · next heq => exact absurd (heq ▸ List.mem_cons_self) hminus
      · next heq => exact absurd (heq ▸ List.mem_cons_self) hplus
      · rfl

/-- The point is where it was written. -/
theorem split_point (n : Numeral) :
    (splitOnce '.' n.unsigned).getD (n.unsigned, []) = (n.whole, n.places) := by
  have hpoint : '.' ∉ n.whole := fun h => absurd (n.is_digit.1 _ h) (by decide)
  unfold unsigned places
  cases n.point with
  | none =>
      rw [split_once_eq_none hpoint]
      rfl
  | some places =>
      rw [split_once_append hpoint]
      rfl

end Numeral

/-! ## The reader on numerals -/

variable {text : String}

/-- What the reader does with a numeral: it is never of the wrong form, and fails only where the
magnitude cannot be computed. -/
theorem parse_numeral {n : Numeral} (h : n.chars = trim text.toList) :
    parse text =
      match n.magnitude? with
      | none => .error (.overflow text)
      | some magnitude => .ok ⟨n.sign.apply magnitude, n.suffix.scale.format⟩ := by
  obtain ⟨hwhole, hplaces⟩ := n.is_digit
  have hscale : scaleOf? n.suffix.chars = some n.suffix.scale :=
    scale_of_eq_some_iff.mpr ⟨n.suffix, rfl, rfl⟩
  have hsome : ¬ (n.whole = [] ∧ n.places = []) := fun h =>
    n.digits_ne_nil (List.append_eq_nil_iff.mpr h)
  have hform : ¬ ((n.whole = [] ∧ n.places = []) ∨ !n.whole.all isDigit ∨
      !n.places.all isDigit) := by
    simp only [List.all_eq_true.mpr hwhole, List.all_eq_true.mpr hplaces, hsome]
    decide
  unfold parse
  dsimp only
  rw [← h, n.span_chars]
  dsimp only
  rw [n.split_sign_chars]
  dsimp only
  rw [n.split_point]
  dsimp only
  rw [if_neg hform, hscale]
  unfold Numeral.magnitude?
  cases mantissa? (n.whole ++ n.places) with
  | none => rfl
  | some mantissa =>
      dsimp only [Option.bind_eq_bind, Option.bind_some]
      cases power? n.suffix.scale.exponent n.places.length with
      | none => rfl
      | some power =>
          dsimp only [Option.bind_some]
          cases scaled? mantissa n.suffix.scale.shift power with
          | none => rfl
          | some magnitude => simp only [Sign.apply, decide_eq_true_eq]

/-- A sign and what follows it are what was cut. -/
theorem eq_append_of_split_sign {numeric unsigned : List Char} {negative : Bool}
    (h : splitSign numeric = (negative, unsigned)) :
    ∃ sign : Sign, sign.chars ++ unsigned = numeric := by
  unfold splitSign at h
  split at h <;> cases h
  · exact ⟨.minus, rfl⟩
  · exact ⟨.plus, rfl⟩
  · exact ⟨.none, rfl⟩

/-- The digits and the point between them are what was cut. -/
theorem eq_of_split_point {unsigned whole places : List Char}
    (h : (splitOnce '.' unsigned).getD (unsigned, []) = (whole, places)) :
    (unsigned = whole ∧ places = []) ∨ unsigned = whole ++ '.' :: places := by
  cases hsplit : splitOnce '.' unsigned with
  | none =>
      rw [hsplit] at h
      cases h
      exact .inl ⟨rfl, rfl⟩
  | some parts =>
      rw [hsplit] at h
      cases h
      exact .inr (eq_append_of_split_once hsplit)

/-- Only a text with a known suffix comes through the second half of the reader. -/
theorem scale_known_of_read {mantissa? : Option Nat} {scale? : Option Scale}
    {next : Nat → Scale → Except Failure Quantity} {overflow format : Failure} {q : Quantity}
    (h : (match mantissa? with
      | none => Except.error overflow
      | some mantissa => match scale? with
        | none => .error format
        | some scale => next mantissa scale) = .ok q) : ∃ scale, scale? = some scale := by
  cases mantissa? with
  | none => cases h
  | some mantissa =>
      cases scale? with
      | none => cases h
      | some scale => exact ⟨scale, rfl⟩

/-- What the reader takes is a numeral. -/
theorem exists_numeral_of_parse {q : Quantity} (h : parse text = .ok q) :
    ∃ n : Numeral, n.chars = trim text.toList := by
  unfold parse at h
  rcases hspan : (trim text.toList).span isNumeric with ⟨numeric, suffix⟩
  rcases hsign : splitSign numeric with ⟨negative, unsigned⟩
  rcases hpoint : (splitOnce '.' unsigned).getD (unsigned, []) with ⟨whole, places⟩
  simp only [hspan, hsign, hpoint] at h
  split at h
  · cases h
  · next hform =>
      obtain ⟨scale, hscale⟩ := scale_known_of_read h
      obtain ⟨suffix, rfl, -⟩ := scale_of_eq_some_iff.mp hscale
      obtain ⟨sign, rfl⟩ := eq_append_of_split_sign hsign
      obtain ⟨hsome, hwhole, hplaces⟩ : ¬ (whole = [] ∧ places = []) ∧
          (∀ c ∈ whole, isDigit c = true) ∧ ∀ c ∈ places, isDigit c = true := by
        simpa [not_or] using hform
      have htext : sign.chars ++ unsigned ++ suffix.chars = trim text.toList := by
        rw [List.span_eq_takeWhile_dropWhile] at hspan
        obtain ⟨hnumeric, hsuffix⟩ := Prod.mk.inj hspan
        rw [← hnumeric, ← hsuffix, List.takeWhile_append_dropWhile]
      rcases eq_of_split_point hpoint with ⟨rfl, rfl⟩ | rfl
      · exact ⟨⟨sign, unsigned, none, suffix, by simpa using hwhole, by simpa using hsome⟩, htext⟩
      · exact ⟨⟨sign, whole, some places, suffix, List.forall_mem_append.mpr ⟨hwhole, hplaces⟩,
          fun hnil => hsome (List.append_eq_nil_iff.mp hnil)⟩, htext⟩

end VirtualApi.Quantity

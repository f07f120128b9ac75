import VirtualApi.Proofs.Decimal.Natural
import VirtualApi.Proofs.Time.Elapsed
import VirtualApi.Table.Age

/-!
# What an age says

An age is spelled as amounts of units (`Spells`), which its text determines (`Spells.unique`).
`Brackets` says that the amounts add up to a number of seconds, but for what is too little for the
units that are shown. The main theorem, `rendered_age_brackets`, says so of every age and the
seconds that went by, and that an age does not become less as long as the seconds do not, which they
do only when a leap second sets them back. Leap seconds do set ages back
(`leap_seconds_set_age_back`).
-/

namespace VirtualApi.Age

open Decimal Text

/-! ## Notation -/

/-- The units of an age. -/
inductive TimeUnit where
  | day
  | hour
  | minute
  | second
deriving DecidableEq, Repr

namespace TimeUnit

/-- The letter that stands after an amount of the unit. -/
def letter : TimeUnit → Char
  | .day => 'd'
  | .hour => 'h'
  | .minute => 'm'
  | .second => 's'

/-- The seconds that the unit lasts. -/
def seconds : TimeUnit → Nat
  | .day => 86400
  | .hour => 3600
  | .minute => 60
  | .second => 1

/-- How many of the unit make one of the next larger unit. -/
def carry? : TimeUnit → Option Nat
  | .day => none
  | .hour => some 24
  | .minute => some 60
  | .second => some 60

/-- Units differ in their letters. -/
theorem letter_inj {a b : TimeUnit} (h : a.letter = b.letter) : a = b := by
  cases a <;> cases b <;> first | rfl | exact absurd h (by decide)

/-- No letter is a digit. -/
theorem letter_not_digit (unit : TimeUnit) : isDigit unit.letter = false := by
  cases unit <;> decide

end TimeUnit

/-- Amounts of units, one after the other. -/
abbrev Amounts := List (Nat × TimeUnit)

namespace Amounts

/-- The seconds that the amounts add up to. -/
def seconds : Amounts → Nat
  | [] => 0
  | (amount, unit) :: rest => amount * unit.seconds + seconds rest

/-- The unit is one of those that are shown. -/
def shows (amounts : Amounts) (unit : TimeUnit) : Bool := amounts.any (·.2 = unit)

/-- How many seconds are too few to be shown: those of an hour beside days, those of a minute beside
hours or minutes, and a single one otherwise. -/
def precision (amounts : Amounts) : Nat :=
  if amounts.shows .day then TimeUnit.hour.seconds
  else if amounts.shows .hour || amounts.shows .minute then TimeUnit.minute.seconds
  else TimeUnit.second.seconds

end Amounts

/-- A text spells amounts: each in digits before the letter of its unit. -/
inductive Spells : List Char → Amounts → Prop where
  | nil : Spells [] []
  | cons {number rest : List Char} {amounts : Amounts} (unit : TimeUnit) (hne : number ≠ [])
      (hdigits : ∀ c ∈ number, isDigit c = true) (hrest : Spells rest amounts) :
      Spells (number ++ unit.letter :: rest) ((value number, unit) :: amounts)

/-- The amounts add up to a number of seconds, but for less than they can show, and each stays below
what makes one of the next larger unit. -/
structure Brackets (amounts : Amounts) (elapsed : Nat) : Prop where
  le : amounts.seconds ≤ elapsed
  lt : elapsed < amounts.seconds + amounts.precision
  carried : ∀ amount unit most, (amount, unit) ∈ amounts → unit.carry? = some most → amount < most

/-- Digits end at the first character that is none. -/
theorem digits_append_inj {first second rest others : List Char} {c d : Char}
    (hfirst : ∀ x ∈ first, isDigit x = true) (hsecond : ∀ x ∈ second, isDigit x = true)
    (hc : isDigit c = false) (hd : isDigit d = false)
    (h : first ++ c :: rest = second ++ d :: others) : first = second ∧ c = d ∧ rest = others := by
  have htake := congrArg (List.takeWhile isDigit) h
  rw [List.takeWhile_append_of_pos hfirst, List.takeWhile_append_of_pos hsecond,
    List.takeWhile_cons_of_neg (by simp [hc]), List.takeWhile_cons_of_neg (by simp [hd]),
    List.append_nil, List.append_nil] at htake
  subst htake
  exact ⟨rfl, List.cons.inj (List.append_cancel_left h)⟩

/-- A text spells one list of amounts at most. -/
theorem Spells.unique {text : List Char} {amounts others : Amounts} (h : Spells text amounts)
    (hother : Spells text others) : others = amounts := by
  induction h generalizing others with
  | nil =>
      generalize htext : [] = text at hother
      cases hother with
      | nil => rfl
      | cons => simp at htext
  | @cons number rest amounts unit hne hdigits hrest ih =>
      generalize htext : number ++ unit.letter :: rest = text at hother
      cases hother with
      | nil => simp at htext
      | cons unit' _ hdigits' hrest' =>
          obtain ⟨rfl, hletter, rfl⟩ := digits_append_inj hdigits hdigits' unit.letter_not_digit
            unit'.letter_not_digit htext
          rw [TimeUnit.letter_inj hletter, ih hrest']

/-- A number may be written in front of its unit. -/
theorem Spells.amount {rest : List Char} {amounts : Amounts} (n : Nat) (unit : TimeUnit)
    (h : Spells rest amounts) :
    Spells (digits n ++ unit.letter :: rest) ((n, unit) :: amounts) := by
  have hspells := Spells.cons unit (digits_ne_nil n) (digits_all n) h
  rwa [value_digits] at hspells

/-! ## Seconds -/

/-- The amounts of the two largest units of an age. -/
def Parts.shown (p : Parts) : Amounts :=
  if 0 < p.days then [(p.days, .day), (p.hours, .hour)]
  else if 0 < p.hours then [(p.hours, .hour), (p.minutes, .minute)]
  else if 0 < p.minutes then [(p.minutes, .minute)]
  else [(p.seconds, .second)]

/-- An age in seconds is written as these amounts. -/
theorem spells_of_seconds (n : Nat) : Spells (ofSeconds n) (parts n).shown := by
  unfold ofSeconds Parts.shown
  dsimp only
  have two (a b : Nat) (u v : TimeUnit) :
      Spells (digits a ++ u.letter :: digits b ++ [v.letter]) [(a, u), (b, v)] := by
    rw [List.append_assoc]
    exact .amount a u (.amount b v .nil)
  split
  · exact two _ _ .day .hour
  · split
    · exact two _ _ .hour .minute
    · split
      · exact .amount _ .minute .nil
      · exact .amount _ .second .nil

/-- The amount of one unit. -/
def Parts.amount (p : Parts) : TimeUnit → Nat
  | .day => p.days
  | .hour => p.hours
  | .minute => p.minutes
  | .second => p.seconds

/-- What is shown of a unit is its amount. -/
theorem Parts.eq_amount_of_mem_shown {p : Parts} {amount : Nat} {unit : TimeUnit}
    (h : (amount, unit) ∈ p.shown) : amount = p.amount unit := by
  have hall : ∀ a ∈ p.shown, a.1 = p.amount a.2 := by
    unfold Parts.shown
    repeat' split
    all_goals simp [Parts.amount]
  exact hall _ h

/-- Every amount stays below what makes one of the next larger unit. -/
theorem amount_lt_carry {n most : Nat} {unit : TimeUnit} (h : unit.carry? = some most) :
    (parts n).amount unit < most := by
  cases unit with
  | day => cases h
  | hour =>
      cases h
      change n % 86400 / 3600 < 24
      omega
  | minute =>
      cases h
      change n % 3600 / 60 < 60
      omega
  | second =>
      cases h
      exact Nat.mod_lt n (by decide)

/-- The shapes of an age by how many seconds there are. -/
inductive Shape (n : Nat) : Amounts → Prop where
  | days (hday : 86400 ≤ n) : Shape n [(n / 86400, .day), (n % 86400 / 3600, .hour)]
  | hours (hday : n < 86400) (hhour : 3600 ≤ n) :
      Shape n [(n % 86400 / 3600, .hour), (n % 3600 / 60, .minute)]
  | minutes (hhour : n < 3600) (hminute : 60 ≤ n) : Shape n [(n % 3600 / 60, .minute)]
  | seconds (hminute : n < 60) : Shape n [(n % 60, .second)]

/-- What is shown has one of the shapes. -/
theorem shape_shown (n : Nat) : Shape n (parts n).shown := by
  unfold Parts.shown parts
  dsimp only
  split
  · exact .days (by omega)
  · split
    · exact .hours (by omega) (by omega)
    · split
      · exact .minutes (by omega) (by omega)
      · exact .seconds (by omega)

/-- What is shown is a number of seconds without those that are too few for the units. -/
theorem seconds_shown (n : Nat) : (parts n).shown.seconds =
    if 86400 ≤ n then n / 3600 * 3600 else if 60 ≤ n then n / 60 * 60 else n := by
  generalize hshown : (parts n).shown = shown
  cases hshown ▸ shape_shown n with
  | days hday =>
      rw [if_pos hday]
      simp only [Amounts.seconds, TimeUnit.seconds]
      omega
  | hours hday hhour =>
      rw [if_neg (by omega), if_pos (by omega)]
      simp only [Amounts.seconds, TimeUnit.seconds]
      omega
  | minutes hhour hminute =>
      rw [if_neg (by omega), if_pos hminute]
      simp only [Amounts.seconds, TimeUnit.seconds]
      omega
  | seconds hminute =>
      rw [if_neg (by omega), if_neg (by omega)]
      simp only [Amounts.seconds, TimeUnit.seconds]
      omega

/-- How many seconds are too few depends on how many there are. -/
theorem precision_shown (n : Nat) : (parts n).shown.precision =
    if 86400 ≤ n then 3600 else if 60 ≤ n then 60 else 1 := by
  generalize hshown : (parts n).shown = shown
  cases hshown ▸ shape_shown n with
  | days hday =>
      rw [if_pos hday]
      rfl
  | hours hday hhour =>
      rw [if_neg (by omega), if_pos (by omega)]
      rfl
  | minutes hhour hminute =>
      rw [if_neg (by omega), if_pos hminute]
      rfl
  | seconds hminute =>
      rw [if_neg (by omega), if_neg (by omega)]
      rfl

/-- The amounts that are shown bracket the seconds they are made from. -/
theorem brackets_shown (n : Nat) : Brackets (parts n).shown n where
  le := by
    rw [seconds_shown]
    split
    · exact Nat.div_mul_le_self n 3600
    · split
      · exact Nat.div_mul_le_self n 60
      · exact Nat.le_refl n
  lt := by
    rw [precision_shown, seconds_shown]
    split
    · exact Nat.lt_div_mul_add (by decide)
    · split
      · exact Nat.lt_div_mul_add (by decide)
      · exact Nat.lt_succ_self n
  carried := by
    intro amount unit most hmem hcarry
    rw [Parts.eq_amount_of_mem_shown hmem]
    exact amount_lt_carry hcarry

/-- More seconds are not shown as fewer. -/
theorem seconds_shown_mono {m n : Nat} (h : m ≤ n) :
    (parts m).shown.seconds ≤ (parts n).shown.seconds := by
  rw [seconds_shown, seconds_shown]
  -- Where the precision changes, the larger number is shown as no less than the boundary.
  repeat' split
  all_goals omega

/-! ## Ages -/

/-- An age is spelled as the amounts of the seconds that went by. -/
theorem spells_text (created now : Timestamp) :
    Spells (text (some created) now).toList (parts (created.elapsedSeconds now)).shown := by
  rw [text, String.toList_ofList]
  exact spells_of_seconds _

/-- The text of an age is read as amounts of units in one way only. They bracket the seconds from
the creation to the current time, which are whole seconds outside leap seconds and none when the
creation lies ahead. Of two current times the one that is no fewer seconds away does not show fewer;
and a later one is no fewer seconds away, unless a leap second sets them back. -/
theorem rendered_age_brackets (created : Timestamp) :
    (∀ now, ∃ shown, Spells (text (some created) now).toList shown ∧
      (∀ other, Spells (text (some created) now).toList other → other = shown) ∧
      Brackets shown (created.elapsedSeconds now) ∧
      (¬ created.InLeap → ¬ now.InLeap → created.elapsedSeconds now =
        ((now.instant - created.instant) / 1000000000).toNat)) ∧
    ∀ (now later : Timestamp) (shown next : Amounts),
      Spells (text (some created) now).toList shown →
      Spells (text (some created) later).toList next →
      (created.elapsedSeconds now ≤ created.elapsedSeconds later →
        shown.seconds ≤ next.seconds) ∧
      (now.Proper → later.before now ≠ true → ¬ Timestamp.SetsBack created now later →
        created.elapsedSeconds now ≤ created.elapsedSeconds later ∧
          shown.seconds ≤ next.seconds) := by
  refine ⟨fun now => ?_, ?_⟩
  · have hspells := spells_text created now
    exact ⟨_, hspells, fun other hother => hspells.unique hother, brackets_shown _,
      Timestamp.elapsed_of_not_in_leap⟩
  · intro now later shown next hshown hnext
    have hmono (h : created.elapsedSeconds now ≤ created.elapsedSeconds later) :
        shown.seconds ≤ next.seconds := by
      rw [(spells_text created now).unique hshown, (spells_text created later).unique hnext]
      exact seconds_shown_mono h
    refine ⟨hmono, fun hproper horder hback => ?_⟩
    have helapsed := Timestamp.elapsed_le_elapsed hproper horder hback
    exact ⟨helapsed, hmono helapsed⟩

/-- At the end of 2016 the age of something created a day before turns from hours into a day, in the
leap second. The age of something created in the last ten seconds of that day still grows when the
leap second is over and is no longer counted. -/
theorem day_in_leap_second :
    let created : Timestamp := ⟨17165, 86399, 500000000⟩
    let now : Timestamp := ⟨17166, 86399, 400000000⟩
    let later : Timestamp := ⟨17166, 86399, 1400000000⟩
    let young : Timestamp := ⟨17166, 86390, 50000000⟩
    let leap : Timestamp := ⟨17166, 86399, 1010000000⟩
    let midnight : Timestamp := ⟨17167, 0, 900000000⟩
    (¬ created.InLeap ∧ ¬ now.InLeap ∧ created.elapsedSeconds now =
        ((now.instant - created.instant) / 1000000000).toNat) ∧
      Spells (text (some created) now).toList [(23, .hour), (59, .minute)] ∧
      Spells (text (some created) later).toList [(1, .day), (0, .hour)] ∧
      (now.Proper ∧ later.before now ≠ true ∧ ¬ Timestamp.SetsBack created now later ∧
        Amounts.seconds [(23, .hour), (59, .minute)] ≤ Amounts.seconds [(1, .day), (0, .hour)]) ∧
      Spells (text (some young) leap).toList [(9, .second)] ∧
      Spells (text (some young) midnight).toList [(10, .second)] ∧
      Timestamp.SetsBack young leap midnight ∧
        young.elapsedSeconds leap ≤ young.elapsedSeconds midnight ∧
        Amounts.seconds [(9, .second)] ≤ Amounts.seconds [(10, .second)] := by
  intro created now later young leap midnight
  have hcreated : ¬ created.InLeap := by decide
  have hnow : ¬ now.InLeap := by decide
  obtain ⟨-, -, -, -, hseconds⟩ := (rendered_age_brackets created).1 now
  have hread : Timestamp.parse? "2016-12-31T23:59:59.4Z" = some now := by decide +kernel
  have hproper : now.Proper := Timestamp.proper_of_parse hread
  have horder : later.before now ≠ true := by decide
  have hback : ¬ Timestamp.SetsBack created now later := by
    rintro (⟨hleap, -, -⟩ | ⟨-, -, -, hday⟩ | ⟨hleap, -, -, -⟩)
    · exact absurd hleap (by decide)
    · exact absurd hday (by decide)
    · exact absurd hleap (by decide)
  have hspells {c n : Timestamp} {shown : Amounts}
      (h : (parts (c.elapsedSeconds n)).shown = shown) : Spells (text (some c) n).toList shown :=
    h ▸ spells_text c n
  have hshown : Spells (text (some created) now).toList [(23, .hour), (59, .minute)] :=
    hspells (by decide)
  have hnext : Spells (text (some created) later).toList [(1, .day), (0, .hour)] :=
    hspells (by decide)
  have hyoung : Spells (text (some young) leap).toList [(9, .second)] := hspells (by decide)
  have hover : Spells (text (some young) midnight).toList [(10, .second)] := hspells (by decide)
  have helapsed : young.elapsedSeconds leap ≤ young.elapsedSeconds midnight := by decide
  exact ⟨⟨hcreated, hnow, hseconds hcreated hnow⟩, hshown, hnext,
    ⟨hproper, horder, hback,
      (((rendered_age_brackets created).2 now later _ _ hshown hnext).2 hproper horder hback).2⟩,
    hyoung, hover, .over (by decide) (by decide) (by decide), helapsed,
    ((rendered_age_brackets young).2 leap midnight _ _ hyoung hover).1 helapsed⟩

/-- What was created at one time has one age at the current time and one of fewer seconds later. -/
def FallsBack (created now later age next : String) : Prop :=
  ∃ c n l, Timestamp.parse? created = some c ∧ Timestamp.parse? now = some n ∧
    Timestamp.parse? later = some l ∧ n.before l = true ∧
    text (some c) n = age ∧ text (some c) l = next ∧
    ∃ shown shownNext, Spells age.toList shown ∧ Spells next.toList shownNext ∧
      shownNext.seconds < shown.seconds

/-- An age falls back when fewer seconds are shown later. -/
theorem falls_back_of_shown_lt {created now later age next : String} {c n l : Timestamp}
    (hcreated : Timestamp.parse? created = some c) (hnow : Timestamp.parse? now = some n)
    (hlater : Timestamp.parse? later = some l) (horder : n.before l = true)
    (hage : text (some c) n = age) (hnext : text (some c) l = next)
    (hlt : (parts (c.elapsedSeconds l)).shown.seconds < (parts (c.elapsedSeconds n)).shown.seconds) :
    FallsBack created now later age next :=
  ⟨c, n, l, hcreated, hnow, hlater, horder, hage, hnext, _, _, hage ▸ spells_text c n,
    hnext ▸ spells_text c l, hlt⟩

/-- Ages fall back in each of the ways in which leap seconds set them back: when the leap second at
the end of 2016 is over, when one begins at an earlier time of day than that of the creation, and at
the end of the day when the creation lies in one. -/
theorem leap_seconds_set_age_back :
    FallsBack "2016-12-31T23:59:00.5Z" "2016-12-31T23:59:60.9Z" "2017-01-01T00:00:00Z"
      "1m" "59s" ∧
    FallsBack "2024-05-01T10:00:59.5Z" "2024-05-02T09:00:59.7Z" "2024-05-02T09:00:60.2Z"
      "23h0m" "22h59m" ∧
    FallsBack "2024-05-01T10:00:60.5Z" "2024-05-01T23:59:59.9Z" "2024-05-02T00:00:00Z"
      "13h59m" "13h58m" := by
  refine ⟨falls_back_of_shown_lt (c := ⟨17166, 86340, 500000000⟩) (n := ⟨17166, 86399, 1900000000⟩)
      (l := ⟨17167, 0, 0⟩) ?_ ?_ ?_ ?_ ?_ ?_ ?_,
    falls_back_of_shown_lt (c := ⟨19844, 36059, 500000000⟩) (n := ⟨19845, 32459, 700000000⟩)
      (l := ⟨19845, 32459, 1200000000⟩) ?_ ?_ ?_ ?_ ?_ ?_ ?_,
    falls_back_of_shown_lt (c := ⟨19844, 36059, 1500000000⟩) (n := ⟨19844, 86399, 900000000⟩)
      (l := ⟨19845, 0, 0⟩) ?_ ?_ ?_ ?_ ?_ ?_ ?_⟩
  all_goals decide +kernel

end VirtualApi.Age

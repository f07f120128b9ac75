import VirtualApi.Proofs.Time.Timestamp

/-!
# Time that goes by

`elapsedSeconds` counts the seconds from one point in time to another. Outside leap seconds these
are the whole seconds between the two (`elapsed_of_not_in_leap`). A leap second is counted only
while one of the points lies in it, so that a later point can be fewer seconds away: `SetsBack` has
the three ways in which that can happen, and `elapsed_le_elapsed` says that there is no other.
-/

namespace VirtualApi.Timestamp

/-! ## What is counted -/

/-- The point lies within a leap second. -/
def InLeap (t : Timestamp) : Prop := 1000000000 ≤ t.nano

/-- A point lies within a leap second or not. -/
instance (t : Timestamp) : Decidable t.InLeap := inferInstanceAs (Decidable (_ ≤ _))

/-- The seconds since 1970 that a clock shows, which stands still during a leap second. -/
def clock (t : Timestamp) : Int := t.day * 86400 + t.second

/-- The nanoseconds since 1970 by the clock. -/
def instant (t : Timestamp) : Int := t.clock * 1000000000 + t.nano

/-- The leap second that is counted from one point to another by their times of day: that of the
first point when the other one is later in the day, and what is left of that of the other one when
it is earlier in the day. -/
def leapBetween (created now : Timestamp) : Int :=
  if created.second < now.second ∧ created.InLeap then 1
  else if now.second < created.second ∧ now.InLeap then -1
  else 0

/-- The nanoseconds of a point as they are counted from another one. -/
def countedFrom (created now : Timestamp) : Int :=
  now.instant + leapBetween created now * 1000000000

variable {created now later : Timestamp}

/-- The seconds between two points are the whole seconds of the nanoseconds that are counted. -/
theorem elapsed_eq :
    created.elapsedSeconds now =
      ((countedFrom created now - created.instant) / 1000000000).toNat := by
  have hcarry : Int.fdiv ((now.nano : Int) - created.nano) 1000000000 =
      ((now.nano : Int) - created.nano) / 1000000000 := Int.fdiv_eq_ediv_of_nonneg _ (by decide)
  have hcounted : countedFrom created now - created.instant =
      ((now.nano : Int) - created.nano) +
        ((now.day - created.day) * 86400 + ((now.second : Int) - created.second) +
          leapBetween created now) * 1000000000 := by
    simp only [countedFrom, instant, clock]
    omega
  rw [hcounted, Int.add_mul_ediv_right _ _ (by decide), Int.add_comm, ← hcarry]
  rfl

/-- Outside leap seconds the seconds are the whole seconds between the points. -/
theorem elapsed_of_not_in_leap (hcreated : ¬ created.InLeap) (hnow : ¬ now.InLeap) :
    created.elapsedSeconds now = ((now.instant - created.instant) / 1000000000).toNat := by
  have hleap : leapBetween created now = 0 := by
    rw [leapBetween, if_neg fun h => hcreated h.2, if_neg fun h => hnow h.2]
  rw [elapsed_eq, countedFrom, hleap, Int.zero_mul, Int.add_zero]

/-- A leap second is counted for a later time of day, or against an earlier one, or not at all. -/
inductive LeapCounts (created now : Timestamp) : Int → Prop where
  | behind (hday : created.second < now.second) (hleap : created.InLeap) : LeapCounts created now 1
  | ahead (hday : now.second < created.second) (hleap : now.InLeap) : LeapCounts created now (-1)
  | none (hahead : now.InLeap → created.second ≤ now.second) : LeapCounts created now 0

/-- What is counted between two points is counted for one of these reasons. -/
theorem leap_counts (created now : Timestamp) :
    LeapCounts created now (leapBetween created now) := by
  unfold leapBetween
  split
  · next h => exact .behind h.1 h.2
  · split
    · next h => exact .ahead h.1 h.2
    · next h => exact .none fun hleap => Nat.not_lt.mp fun hday => h ⟨hday, hleap⟩

/-- What is counted is not behind the clock. -/
theorem clock_le_counted (created now : Timestamp) :
    now.clock * 1000000000 ≤ countedFrom created now := by
  have hcounts := leap_counts created now
  unfold countedFrom instant
  generalize leapBetween created now = counted at hcounts
  cases hcounts with
  | behind => omega
  | ahead _ hleap =>
      unfold InLeap at hleap
      omega
  | none => omega

/-! ## What is set back -/

/-- The ways in which leap seconds can make a later point fewer seconds away than an earlier one. -/
inductive SetsBack (created now later : Timestamp) : Prop where
  /-- The leap second of the earlier point is just over. -/
  | over (hleap : now.InLeap) (hday : created.second ≤ now.second)
      (hnext : later.clock = now.clock + 1)
  /-- The leap second of the later point has begun, at an earlier time of day than that of what the
  seconds are counted from. -/
  | begun (hnow : ¬ now.InLeap) (hleap : later.InLeap) (hsame : later.clock = now.clock)
      (hday : later.second < created.second)
  /-- The seconds are counted from a leap second, which no longer counts once the day is over. -/
  | dropped (hleap : created.InLeap) (hnow : created.second < now.second)
      (hlater : later.second ≤ created.second) (hsoon : later.clock < now.clock + 3)

/-- While the clock stands still the fraction goes on, and the same leap second is counted. -/
theorem counted_le_of_same_clock (hday : later.day = now.day) (hsecond : later.second = now.second)
    (hnano : now.nano ≤ later.nano) (hback : ¬ SetsBack created now later) :
    countedFrom created now ≤ countedFrom created later := by
  have hclock : later.clock = now.clock := by rw [clock, clock, hday, hsecond]
  have hahead : now.second < created.second ∧ later.InLeap ↔
      now.second < created.second ∧ now.InLeap := by
    refine and_congr_right fun hbefore => ⟨fun hleap => ?_, fun hleap => Nat.le_trans hleap hnano⟩
    exact Decidable.byContradiction fun hnow =>
      hback (.begun hnow hleap hclock (hsecond ▸ hbefore))
  have hleap : leapBetween created later = leapBetween created now := by
    simp only [leapBetween, hsecond, hahead]
  simp only [countedFrom, instant, hclock, hleap]
  omega

/-- When the clock goes on it makes up for every leap second that counts no longer. -/
theorem counted_le_of_clock_lt (hnano : now.nano < 2000000000) (hclock : now.clock < later.clock)
    (hback : ¬ SetsBack created now later) :
    countedFrom created now ≤ countedFrom created later := by
  -- A fraction of more than a second has two seconds of the clock to make up for it.
  have hfraction (hday : created.second ≤ now.second) :
      now.clock * 1000000000 + now.nano ≤ later.clock * 1000000000 := by
    by_cases hleap : now.InLeap
    · have hnext : later.clock ≠ now.clock + 1 := fun h => hback (.over hleap hday h)
      omega
    · unfold InLeap at hleap
      omega
  have hlater := clock_le_counted created later
  have hcounts := leap_counts created now
  rw [countedFrom, instant]
  generalize leapBetween created now = counted at hcounts
  cases hcounts with
  | behind hday hleap =>
      by_cases hsame : created.second < later.second
      · have hleapLater : leapBetween created later = 1 := if_pos ⟨hsame, hleap⟩
        have hgap := hfraction (Nat.le_of_lt hday)
        rw [countedFrom, instant, hleapLater]
        omega
      · have hgap : ¬ later.clock < now.clock + 3 := fun hsoon =>
          hback (.dropped hleap hday (Nat.not_lt.mp hsame) hsoon)
        omega
  | ahead =>
      omega
  | none hahead =>
      by_cases hleap : now.InLeap
      · have hgap := hfraction (hahead hleap)
        omega
      · unfold InLeap at hleap
        omega

/-- Without a leap second that sets them back, the seconds do not become fewer. -/
theorem elapsed_le_elapsed (hproper : now.Proper) (horder : later.before now ≠ true)
    (hback : ¬ SetsBack created now later) :
    created.elapsedSeconds now ≤ created.elapsedSeconds later := by
  have hcounted : countedFrom created now ≤ countedFrom created later := by
    by_cases hclock : now.clock < later.clock
    · exact counted_le_of_clock_lt hproper.nano_lt hclock hback
    · have hsecond := hproper.second_lt
      rw [Ne, before_iff] at horder
      unfold clock at hclock
      exact counted_le_of_same_clock (by omega) (by omega) (by omega) hback
  rw [elapsed_eq, elapsed_eq]
  apply Int.toNat_le_toNat
  exact Int.ediv_le_ediv (by decide) (Int.sub_le_sub_right hcounted _)

end VirtualApi.Timestamp

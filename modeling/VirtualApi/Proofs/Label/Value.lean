import VirtualApi.Chart.Editor
import VirtualApi.Proofs.Label.Names

/-!
# Labels that have to have a value

Objects that belong together are found by a label that has the name of one of them as its value.
The requirement can be made exactly for the texts that a label can have as its value
(`label_equals_of_valid`); any other text is refused as a mistake of the caller
(`label_equals_of_invalid`).
-/

namespace VirtualApi

variable {key value : String} {labels : Labels}

/-- A text that a label can have as its value makes the requirement. -/
theorem label_equals_of_valid (hkey : Label.validKey key.toList = true)
    (hvalue : Label.validValue value.toList = true) :
    labelEquals key value = .ok ⟨key, .equals, [value]⟩ := by
  have hmake : Label.Requirement.make key .equals [value] = .ok ⟨key, .equals, [value]⟩ :=
    Label.make_eq_ok_iff.mpr ⟨rfl, hkey, by simpa using hvalue, rfl⟩
  rw [labelEquals, hmake]

/-- Any other text is refused, and named in the refusal. -/
theorem label_equals_of_invalid (hkey : Label.validKey key.toList = true)
    (hvalue : Label.validValue value.toList = false) :
    labelEquals key value = .error (.badRequest ("invalid label value " ++ Text.quoted value)) := by
  have hmake : Label.Requirement.make key .equals [value] = .error (.invalidValue value) := by
    simp [Label.Requirement.make, hkey, hvalue]
  rw [labelEquals, hmake]
  rfl

/-- The requirement holds of labels of which the one has the value. -/
theorem holds_equals_iff :
    Label.Requirement.holds ⟨key, .equals, [value]⟩ labels = true ↔
      labels.get? key = some value := by
  unfold Label.Requirement.holds
  cases labels.get? key <;> simp

namespace Selector

/-- Every label satisfies the selector of everything. -/
@[simp] theorem everything_holds (labels : Labels) : everything.holds labels = true := rfl

/-- One more requirement has to hold as well. -/
@[simp] theorem push_holds_iff {s : Selector} {r : Label.Requirement} :
    (s.push r).holds labels = true ↔ s.holds labels = true ∧ r.holds labels = true := by
  simp [push, holds]

end Selector

end VirtualApi

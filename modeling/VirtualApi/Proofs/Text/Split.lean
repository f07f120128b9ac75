import VirtualApi.Text.Split

/-!
# What is cut and joined

`splitOnce` cuts at the first separator and nowhere else, and what is cut is the text again.
`split_on_join_with` says that parts without the separator are found again once they are joined by
it.
-/

namespace VirtualApi.Text

variable {separator : Char} {text before after : List Char}

/-- A text without the separator is not cut. -/
theorem split_once_eq_none (h : separator ∉ text) : splitOnce separator text = none := by
  induction text with
  | nil => rfl
  | cons c rest ih =>
      have hc : c ≠ separator := fun heq => h (by simp [heq])
      simp [splitOnce, hc, ih fun hmem => h (List.mem_cons_of_mem _ hmem)]

/-- A text is cut at its first separator. -/
theorem split_once_append (h : separator ∉ before) :
    splitOnce separator (before ++ separator :: after) = some (before, after) := by
  induction before with
  | nil => simp [splitOnce]
  | cons c rest ih =>
      have hc : c ≠ separator := fun heq => h (by simp [heq])
      simp [splitOnce, hc, ih fun hmem => h (List.mem_cons_of_mem _ hmem)]

/-- What is cut once is the two parts with the separator between them. -/
theorem eq_append_of_split_once (h : splitOnce separator text = some (before, after)) :
    text = before ++ separator :: after := by
  induction text generalizing before with
  | nil => cases h
  | cons c rest ih =>
      unfold splitOnce at h
      split at h
      · next heq =>
          cases h
          rw [heq, List.nil_append]
      · obtain ⟨parts, hparts, heq⟩ := Option.map_eq_some_iff.mp h
        cases heq
        rw [ih hparts, List.cons_append]

/-! ## Separators of several characters -/

/-- A text without the first character of the separator is not cut. -/
theorem split_once_at_eq_none {rest : List Char} (h : separator ∉ text) :
    splitOnceAt (separator :: rest) text = none := by
  induction text with
  | nil => rfl
  | cons c tail ih =>
      have hc : separator ≠ c := fun heq => h (by simp [heq])
      simp [splitOnceAt, stripPrefix, hc, ih fun hmem => h (List.mem_cons_of_mem _ hmem)]

/-- Characters other than the first of the separator belong to the first part. -/
theorem split_once_at_append {rest : List Char} (h : separator ∉ before) :
    splitOnceAt (separator :: rest) (before ++ after) =
      (splitOnceAt (separator :: rest) after).map fun parts => (before ++ parts.1, parts.2) := by
  induction before with
  | nil => simp
  | cons c tail ih =>
      have hc : separator ≠ c := fun heq => h (by simp [heq])
      have htail := ih fun hmem => h (List.mem_cons_of_mem _ hmem)
      simp only [List.cons_append, splitOnceAt, stripPrefix, hc, if_false, htail, Option.map_map]
      rfl

/-- What is taken off and the rest are the text. -/
theorem eq_append_of_strip_prefix {beginning rest : List Char}
    (h : stripPrefix beginning text = some rest) : text = beginning ++ rest := by
  induction beginning generalizing text with
  | nil =>
      cases h
      rfl
  | cons c beginning ih =>
      cases text with
      | nil => cases h
      | cons d text =>
          unfold stripPrefix at h
          split at h
          · next hc => rw [hc, ih h, List.cons_append]
          · cases h

/-- What is cut once is the two parts with the longer separator between them. -/
theorem eq_append_of_split_once_at {separator : List Char}
    (h : splitOnceAt separator text = some (before, after)) :
    text = before ++ (separator ++ after) := by
  induction text generalizing before with
  | nil =>
      obtain ⟨rest, hstrip, heq⟩ := Option.map_eq_some_iff.mp h
      cases heq
      rw [List.nil_append, eq_append_of_strip_prefix hstrip]
  | cons c rest ih =>
      unfold splitOnceAt at h
      split at h
      · next hstrip =>
          cases h
          rw [List.nil_append, eq_append_of_strip_prefix hstrip]
      · obtain ⟨parts, hparts, heq⟩ := Option.map_eq_some_iff.mp h
        cases heq
        rw [ih hparts, List.cons_append]

/-! ## All parts -/

/-- A text without the separator is one part. -/
theorem split_on_of_not_mem (h : separator ∉ text) : splitOn separator text = [text] := by
  induction text with
  | nil => rfl
  | cons c rest ih =>
      have hc : c ≠ separator := fun heq => h (by simp [heq])
      simp [splitOn, hc, ih fun hmem => h (List.mem_cons_of_mem _ hmem)]

/-- The first part goes up to the first separator. -/
theorem split_on_append (h : separator ∉ before) :
    splitOn separator (before ++ separator :: after) = before :: splitOn separator after := by
  induction before with
  | nil => simp [splitOn]
  | cons c rest ih =>
      have hc : c ≠ separator := fun heq => h (by simp [heq])
      simp [splitOn, hc, ih fun hmem => h (List.mem_cons_of_mem _ hmem)]

/-- There is always a part. -/
theorem split_on_ne_nil (separator : Char) (text : List Char) : splitOn separator text ≠ [] := by
  cases text with
  | nil => exact List.cons_ne_nil _ _
  | cons c rest =>
      unfold splitOn
      split
      · exact List.cons_ne_nil _ _
      · split <;> exact List.cons_ne_nil _ _

/-- A separator keeps the parts before it from those after it. -/
theorem split_on_append_split_on (separator : Char) (before after : List Char) :
    splitOn separator (before ++ separator :: after) =
      splitOn separator before ++ splitOn separator after := by
  induction before with
  | nil => simp [splitOn]
  | cons c rest ih =>
      obtain ⟨first, others, hparts⟩ := List.exists_cons_of_ne_nil (split_on_ne_nil separator rest)
      rw [hparts] at ih
      rw [List.cons_append, splitOn, splitOn, ih, hparts]
      split <;> rfl

/-- Parts without the separator are found again once they are joined by it. -/
theorem split_on_join_with {parts : List (List Char)} (hne : parts ≠ [])
    (h : ∀ part ∈ parts, separator ∉ part) :
    splitOn separator (joinWith [separator] parts) = parts := by
  induction parts with
  | nil => exact absurd rfl hne
  | cons part rest ih =>
      have hpart := h part List.mem_cons_self
      cases rest with
      | nil => exact split_on_of_not_mem hpart
      | cons next others =>
          have hrest := ih (List.cons_ne_nil _ _) fun p hp => h p (List.mem_cons_of_mem _ hp)
          rw [joinWith, List.append_assoc, List.singleton_append, split_on_append hpart, hrest]

/-- The parts of a text are the text again once they are joined by the separator. -/
theorem join_with_split_on (separator : Char) (text : List Char) :
    joinWith [separator] (splitOn separator text) = text := by
  induction text with
  | nil => rfl
  | cons c rest ih =>
      unfold splitOn
      cases hparts : splitOn separator rest with
      | nil =>
          rw [hparts] at ih
          subst ih
          split <;> simp_all [joinWith, splitOn]
      | cons first others =>
          rw [hparts] at ih
          split
          · next hc => rw [joinWith, ih, hc, List.nil_append, List.singleton_append]
          · cases others <;> simp_all [joinWith]

/-- A character of joined parts is one of the separator or of a part. -/
theorem mem_join_with {c : Char} {separator : List Char} {parts : List (List Char)}
    (h : c ∈ joinWith separator parts) : c ∈ separator ∨ ∃ part ∈ parts, c ∈ part := by
  induction parts with
  | nil => cases h
  | cons part rest ih =>
      cases rest with
      | nil => exact Or.inr ⟨part, List.mem_cons_self, h⟩
      | cons next others =>
          rw [joinWith] at h
          rcases List.mem_append.mp h with h | h
          · rcases List.mem_append.mp h with h | h
            · exact Or.inr ⟨part, List.mem_cons_self, h⟩
            · exact Or.inl h
          · rcases ih h with hseparator | ⟨p, hp, hc⟩
            · exact Or.inl hseparator
            · exact Or.inr ⟨p, List.mem_cons_of_mem _ hp, hc⟩

end VirtualApi.Text

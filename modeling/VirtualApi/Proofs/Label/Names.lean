import VirtualApi.Label.Basic
import VirtualApi.Proofs.Text.Split
import VirtualApi.Text.Blank

/-!
# Keys and values of labels

Some characters are signs of the notation of selectors. No character of a valid key or value is one,
and none is white space (`plain_of_valid_key`, `plain_of_valid_value`). `make_eq_ok_iff` says which
requirements are built.
-/

namespace VirtualApi.Label

open Text

/-- A character that may stand inside a key. -/
def isKeyChar (c : Char) : Bool := isNameChar c || c = '/'

/-- A character that is no sign of the notation of selectors. -/
structure Inert (c : Char) : Prop where
  ne_open : c ≠ '('
  ne_close : c ≠ ')'
  ne_comma : c ≠ ','
  ne_not : c ≠ '!'
  ne_equals : c ≠ '='

/-- A character that has no meaning in the notation: it is no sign and does not end a word. -/
structure Plain (c : Char) : Prop extends Inert c where
  solid : isBlank c = false

/-- The characters of a range are between its ends. -/
theorem toNat_bounds {first last c : Char} (h : first ≤ c ∧ c ≤ last) :
    first.toNat ≤ c.toNat ∧ c.toNat ≤ last.toNat := h

/-- A character of a key has no meaning in the notation. -/
theorem plain_of_is_key_char {c : Char} (h : isKeyChar c = true) : Plain c := by
  have hne {d : Char} (hd : isKeyChar d = false) : c ≠ d := by
    rintro rfl
    rw [h] at hd
    cases hd
  refine ⟨⟨hne (by decide), hne (by decide), hne (by decide), hne (by decide), hne (by decide)⟩, ?_⟩
  have hbounds : 45 ≤ c.toNat ∧ c.toNat ≤ 122 := by
    simp only [isKeyChar, isNameChar, isAlphanumeric, isLowerLetter, isUpperLetter, isDigit,
      Bool.or_eq_true, Bool.and_eq_true, decide_eq_true_eq] at h
    rcases h with (((((h | h) | h) | rfl) | rfl) | rfl) | rfl
    · exact ⟨Nat.le_trans (by decide) (toNat_bounds h).1, (toNat_bounds h).2⟩
    · exact ⟨Nat.le_trans (by decide) (toNat_bounds h).1,
        Nat.le_trans (toNat_bounds h).2 (by decide)⟩
    · exact ⟨Nat.le_trans (by decide) (toNat_bounds h).1,
        Nat.le_trans (toNat_bounds h).2 (by decide)⟩
    all_goals decide
  simp only [isBlank, Bool.or_eq_false_iff, Bool.and_eq_false_iff, decide_eq_false_iff_not]
  omega

/-- A text of such characters has no meaning in the notation. -/
theorem plain_of_all {text : List Char} (h : text.all isKeyChar = true) : ∀ c ∈ text, Plain c :=
  fun c hc => plain_of_is_key_char (List.all_eq_true.mp h c hc)

/-- A name consists of name characters, and there is one. -/
theorem valid_name_chars {text : List Char} (h : validName text = true) :
    text ≠ [] ∧ ∀ c ∈ text, isNameChar c = true := by
  simp only [validName, isName, Bool.and_eq_true] at h
  obtain ⟨-, h⟩ := h
  split at h
  · next first last hfirst hlast =>
      simp only [Bool.and_eq_true] at h
      refine ⟨?_, List.all_eq_true.mp h.2⟩
      rintro rfl
      cases hfirst
  · cases h

/-- A domain consists of characters that may stand in a key. -/
theorem domain_chars {text : List Char} (h : isDomain text = true) :
    ∀ c ∈ text, isKeyChar c = true := by
  intro c hc
  rw [← join_with_split_on '.' text] at hc
  rcases mem_join_with hc with hpoint | ⟨part, hpart, hc⟩
  · rw [List.mem_singleton.mp hpoint]
    decide
  · have hlabel := List.all_eq_true.mp h part hpart
    unfold isDomainLabel at hlabel
    split at hlabel
    · simp only [Bool.and_eq_true] at hlabel
      have hchar := List.all_eq_true.mp hlabel.2 c hc
      simp only [isLabelChar, Bool.or_eq_true, decide_eq_true_eq] at hchar
      simp only [isKeyChar, isNameChar, isAlphanumeric, Bool.or_eq_true, decide_eq_true_eq]
      rcases hchar with (hchar | hchar) | hchar <;> simp [hchar]
    · cases hlabel

/-- No character of a valid key has a meaning in the notation, and there is one. -/
theorem plain_of_valid_key {key : List Char} (h : validKey key = true) :
    key ≠ [] ∧ ∀ c ∈ key, Plain c := by
  have hname {c : Char} (hc : isNameChar c = true) : Plain c :=
    plain_of_is_key_char (by simp [isKeyChar, hc])
  unfold validKey at h
  split at h
  · next domain name hsplit =>
      simp only [Bool.and_eq_true] at h
      have hkey := eq_append_of_split_once hsplit
      refine ⟨by simp [hkey], fun c hc => ?_⟩
      rw [hkey] at hc
      rcases List.mem_append.mp hc with hc | hc
      · exact plain_of_is_key_char (domain_chars h.1.2 c hc)
      · rcases List.mem_cons.mp hc with rfl | hc
        · exact plain_of_is_key_char (by decide)
        · exact hname ((valid_name_chars h.2).2 c hc)
  · obtain ⟨hne, hchars⟩ := valid_name_chars h
    exact ⟨hne, fun c hc => hname (hchars c hc)⟩

/-- No character of a valid value has a meaning in the notation. -/
theorem plain_of_valid_value {value : List Char} (h : validValue value = true) :
    ∀ c ∈ value, Plain c := by
  intro c hc
  simp only [validValue, Bool.or_eq_true, decide_eq_true_eq] at h
  rcases h with rfl | h
  · cases hc
  · exact plain_of_is_key_char (by simp [isKeyChar, (valid_name_chars h).2 c hc])

section

variable {text : List Char}

/-- A text without signs of the notation contains none of them. -/
theorem not_mem_of_inert {c : Char} (h : ∀ d ∈ text, Inert d) (hc : ¬ Inert c) : c ∉ text :=
  fun hmem => hc (h c hmem)

/-- Plain characters are no signs of the notation. -/
theorem inert_of_plain (h : ∀ c ∈ text, Plain c) : ∀ c ∈ text, Inert c :=
  fun c hc => (h c hc).toInert

end

/-- What is built is what it is built from, and valid. -/
theorem make_eq_ok_iff {key : String} {operator : Operator} {values : List String}
    {r : Requirement} :
    Requirement.make key operator values = .ok r ↔ r = ⟨key, operator, values⟩ ∧ r.Valid := by
  unfold Requirement.make
  cases hkey : validKey key.toList with
  | false =>
      constructor
      · intro h
        cases h
      · rintro ⟨rfl, hvalid, -⟩
        rw [hkey] at hvalid
        cases hvalid
  | true =>
      cases hvalues : values.find? fun v => !validValue v.toList with
      | some v =>
          constructor
          · intro h
            cases h
          · rintro ⟨rfl, -, hvalid, -⟩
            have hv := List.find?_some hvalues
            rw [hvalid v (List.mem_of_find?_eq_some hvalues)] at hv
            cases hv
      | none =>
          have hall : ∀ v ∈ values, validValue v.toList = true := by
            simpa using List.find?_eq_none.mp hvalues
          cases htakes : operator.takes values.length with
          | false =>
              constructor
              · intro h
                cases h
              · rintro ⟨rfl, -, -, hvalid⟩
                rw [htakes] at hvalid
                cases hvalid
          | true =>
              constructor
              · intro h
                cases h
                exact ⟨rfl, hkey, hall, htakes⟩
              · rintro ⟨rfl, -⟩
                rfl

end VirtualApi.Label

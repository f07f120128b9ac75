import VirtualApi.Label.Structured
import VirtualApi.Proofs.Label.Grammar

/-!
# Selectors read back

A valid requirement is written as a term of it (`term_of_valid`), so that a selector of valid
requirements is written in the grammar and read back from its text (`Selector.parse_text`).
`Selector.text_reads_back` says it of every selector that can be built.
-/

namespace VirtualApi

namespace Label

open Text

section

variable {r : Requirement}

/-- A valid requirement is written as a term of it. -/
theorem term_of_valid (h : r.Valid) : Term r.chars r := by
  obtain ⟨key, operator, values⟩ := r
  obtain ⟨hkey, hvalues, htakes⟩ := h
  dsimp only at hkey hvalues htakes
  have hset {word : List Char} (hword : (word, operator) ∈ setWords) (hne : values ≠ []) :
      Term (key.toList ++ ' ' :: (word ++ [' ', '(']) ++
        joinWith [','] (values.map String.toList) ++ [')']) ⟨key, operator, values⟩ := by
    have hblank : Gap [' '] := List.forall_mem_singleton.mpr (by decide)
    have hhead : Padded (key.toList ++ ' ' :: (word ++ [' '])) (key.toList ++ ([' '] ++ word)) :=
      ⟨[], [' '], by simp [Gap], hblank, by simp⟩
    have hparts : List.Forall₂ (fun part v => Padded part v.toList) (values.map String.toList)
        values :=
      List.forall₂_map_left_iff.mpr (List.forall₂_same.mpr fun v _ => padded_self v.toList)
    simpa using Term.set hkey hvalues ⟨List.cons_ne_nil _ _, hblank⟩ hhead hparts hne hword
  cases operator with
  | equals =>
      obtain ⟨v, rfl⟩ := List.length_eq_one_iff.mp (of_decide_eq_true htakes)
      have hsign : (['='], Operator.equals) ∈ signs := by simp [signs]
      exact .comparison hkey (hvalues v List.mem_cons_self) (padded_self _) (padded_self _) hsign
  | notEquals =>
      obtain ⟨v, rfl⟩ := List.length_eq_one_iff.mp (of_decide_eq_true htakes)
      have hsign : (['!', '='], Operator.notEquals) ∈ signs := by simp [signs]
      exact .comparison hkey (hvalues v List.mem_cons_self) (padded_self _) (padded_self _) hsign
  | isIn =>
      have hword : (['i', 'n'], Operator.isIn) ∈ setWords := by simp [setWords]
      refine hset hword ?_
      rintro rfl
      exact absurd htakes (by decide)
  | notIn =>
      have hword : (['n', 'o', 't', 'i', 'n'], Operator.notIn) ∈ setWords := by simp [setWords]
      refine hset hword ?_
      rintro rfl
      exact absurd htakes (by decide)
  | «exists» =>
      have hnil : values = [] := List.length_eq_zero_iff.mp (of_decide_eq_true htakes)
      subst hnil
      exact .present hkey
  | doesNotExist =>
      have hnil : values = [] := List.length_eq_zero_iff.mp (of_decide_eq_true htakes)
      subst hnil
      exact .absent hkey (padded_self _)

/-- The text of a valid requirement neither begins nor ends with white space. -/
theorem trim_chars (h : r.Valid) : trim r.chars = r.chars := by
  obtain ⟨hne, hplain⟩ := plain_of_valid_key h.1
  have hkey : ∀ c ∈ r.key.toList, isBlank c = false := fun c hc => (hplain c hc).solid
  have hfirst : ∀ c ∈ (r.values.headD "").toList, isBlank c = false := by
    cases hv : r.values with
    | nil => simp
    | cons v others =>
        intro c hc
        exact (plain_of_valid_value (h.2.1 v (hv ▸ List.mem_cons_self)) c hc).solid
  -- White space stands only inside the text of a set, which a key begins and a parenthesis ends.
  have hset (middle : List Char) :
      trim (r.key.toList ++ middle ++ [')']) = r.key.toList ++ middle ++ [')'] := by
    refine trim_eq_self ?_ ?_
    · intro c hc
      obtain ⟨first, others, heq⟩ := List.exists_cons_of_ne_nil hne
      rw [heq] at hc
      cases hc
      exact hkey c (heq ▸ List.mem_cons_self)
    · intro c hc
      rw [List.getLast?_concat] at hc
      cases hc
      decide
  unfold Requirement.chars
  cases r.operator with
  | equals =>
      exact trim_of_not_blank
        (List.forall_mem_append.mpr ⟨hkey, List.forall_mem_cons.mpr ⟨by decide, hfirst⟩⟩)
  | notEquals =>
      exact trim_of_not_blank (List.forall_mem_append.mpr ⟨hkey,
        List.forall_mem_cons.mpr ⟨by decide, List.forall_mem_cons.mpr ⟨by decide, hfirst⟩⟩⟩)
  | isIn => simpa using hset ([' ', 'i', 'n', ' ', '('] ++ r.valueChars)
  | notIn => simpa using hset ([' ', 'n', 'o', 't', 'i', 'n', ' ', '('] ++ r.valueChars)
  | «exists» => exact trim_of_not_blank hkey
  | doesNotExist => exact trim_of_not_blank (List.forall_mem_cons.mpr ⟨by decide, hkey⟩)

end

end Label

namespace Selector

open Text Label

/-- A selector of valid requirements is written as terms of them, and read back from its text. -/
theorem parse_text {s : Selector} (h : ∀ r ∈ s.requirements, r.Valid) :
    parse s.text = .ok s := by
  have hterms : ∀ rs : List Requirement, (∀ r ∈ rs, r.Valid) →
      Terms (rs.map Requirement.chars) rs := by
    intro rs
    induction rs with
    | nil => exact fun _ => .nil
    | cons r others ih =>
        intro hvalid
        have hr := hvalid r List.mem_cons_self
        refine .term ?_ (ih fun other hother => hvalid other (List.mem_cons_of_mem _ hother))
        rw [trim_chars hr]
        exact term_of_valid hr
  exact parse_eq_ok_iff.mpr ⟨_, String.toList_ofList, hterms _ h⟩

/-- Every requirement of a structured selector that is converted is valid. -/
theorem valid_of_structured {structured : LabelSelector} {s : Selector}
    (h : structured.toSelector = .ok s) : ∀ r ∈ s.requirements, r.Valid := by
  obtain ⟨labels, hlabels, h⟩ := result_bind_eq_ok_iff.mp h
  obtain ⟨expressions, hexpressions, h⟩ := result_bind_eq_ok_iff.mp h
  cases h
  refine List.forall_mem_append.mpr ⟨fun r hr => ?_, fun r hr => ?_⟩
  · obtain ⟨⟨key, value⟩, -, hmake⟩ := exists_of_mem_mapM hlabels hr
    exact (make_eq_ok_iff.mp hmake).2
  · obtain ⟨e, -, hmake⟩ := exists_of_mem_mapM hexpressions hr
    unfold LabelExpression.toRequirement at hmake
    split at hmake
    · exact (make_eq_ok_iff.mp hmake).2
    · cases hmake

/-- A selector survives its text: one of any requirements that can be built is read back with the
same requirements in the same order, and so is every selector that a structured one is converted
to. -/
theorem text_reads_back (s : Selector) :
    ((∀ r ∈ s.requirements, ∃ key operator values,
        Requirement.make key operator values = .ok r) → parse s.text = .ok s) ∧
      ∀ structured : LabelSelector, structured.toSelector = .ok s → parse s.text = .ok s := by
  constructor
  · intro h
    refine parse_text fun r hr => ?_
    obtain ⟨key, operator, values, hmake⟩ := h r hr
    exact (make_eq_ok_iff.mp hmake).2
  · intro structured h
    exact parse_text (valid_of_structured h)

/-- Keys that look like operators, and values that are empty or stand twice, do not mislead the
reader. -/
theorem operator_like_keys_read_back :
    (let s : Selector := ⟨[⟨"in", .equals, [""]⟩, ⟨"notin", .isIn, ["", "", "a"]⟩,
      ⟨"in", .notIn, [""]⟩, ⟨"x.y/in", .notEquals, ["b"]⟩, ⟨"notin", .doesNotExist, []⟩]⟩
    s.text = "in=,notin in (,,a),in notin (),x.y/in!=b,!notin" ∧ parse s.text = .ok s) ∧
    (let s : Selector := ⟨[⟨"in", .equals, [""]⟩, ⟨"notin", .isIn, ["", "a"]⟩]⟩
    LabelSelector.toSelector ⟨some [("in", "")], some [⟨"notin", "In", some ["", "a"]⟩]⟩ = .ok s ∧
      parse s.text = .ok s) := by
  refine ⟨⟨by decide, (text_reads_back _).1 fun r hr => ⟨r.key, r.operator, r.values, ?_⟩⟩,
    ⟨rfl, (text_reads_back _).2
      ⟨some [("in", "")], some [⟨"notin", "In", some ["", "a"]⟩]⟩ rfl⟩⟩
  revert r
  decide

end Selector

end VirtualApi

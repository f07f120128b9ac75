import VirtualApi.Text.Blank

/-!
# White space at the ends and between words

Trimming takes white space from both ends (`exists_gaps`) and leaves what stands between it
(`trim_between`). The words of a text are the runs without white space; `words_eq_pair_iff` says
which texts have exactly two.
-/

namespace VirtualApi.Text

/-- Nothing is dropped in front of a character that is not of the class. -/
theorem drop_while_eq_self {p : Char → Bool} {text : List Char}
    (h : ∀ c, text.head? = some c → p c = false) : text.dropWhile p = text := by
  cases text with
  | nil => rfl
  | cons c rest => rw [List.dropWhile_cons_of_neg (by simp [h c rfl])]

/-- A text that neither begins nor ends with white space is trimmed already. -/
theorem trim_eq_self {text : List Char} (hfirst : ∀ c, text.head? = some c → isBlank c = false)
    (hlast : ∀ c, text.getLast? = some c → isBlank c = false) : trim text = text := by
  have hreverse : ∀ c, text.reverse.head? = some c → isBlank c = false := by
    simpa only [List.head?_reverse] using hlast
  unfold trim dropEndWhile
  rw [drop_while_eq_self hfirst, drop_while_eq_self hreverse, List.reverse_reverse]

/-- A text without white space is trimmed already. -/
theorem trim_of_not_blank {text : List Char} (h : ∀ c ∈ text, isBlank c = false) :
    trim text = text :=
  trim_eq_self (fun c hc => h c (List.mem_of_head? hc)) fun c hc => h c (List.mem_of_getLast? hc)

/-- A gap is white space, or nothing. -/
def Gap (text : List Char) : Prop := ∀ c ∈ text, isBlank c = true

/-- What is dropped at the beginning is white space. -/
theorem exists_gap_before (text : List Char) :
    ∃ before, Gap before ∧ text = before ++ text.dropWhile isBlank := by
  refine ⟨text.takeWhile isBlank, ?_, List.takeWhile_append_dropWhile.symm⟩
  exact List.all_eq_true.mp List.all_takeWhile

/-- What is trimmed is white space. -/
theorem exists_gaps (text : List Char) :
    ∃ before after, Gap before ∧ Gap after ∧ text = before ++ trim text ++ after := by
  obtain ⟨before, hbefore, htext⟩ := exists_gap_before text
  obtain ⟨after, hafter, hreverse⟩ := exists_gap_before (text.dropWhile isBlank).reverse
  refine ⟨before, after.reverse, hbefore, fun c hc => hafter c (List.mem_reverse.mp hc), ?_⟩
  have hrest : text.dropWhile isBlank = trim text ++ after.reverse := by
    unfold trim dropEndWhile
    rw [← List.reverse_append, ← hreverse, List.reverse_reverse]
  rw [List.append_assoc, ← hrest]
  exact htext

/-- White space is dropped up to what does not begin with any. -/
theorem drop_while_gap_append {gap text : List Char} (hgap : Gap gap)
    (h : ∀ c, text.head? = some c → isBlank c = false) :
    (gap ++ text).dropWhile isBlank = text := by
  rw [List.dropWhile_append_of_pos hgap, drop_while_eq_self h]

/-- What stands without white space between gaps is left. -/
theorem trim_between {before text after : List Char} (hbefore : Gap before) (hafter : Gap after)
    (h : ∀ c ∈ text, isBlank c = false) : trim (before ++ text ++ after) = text := by
  have hreverse : Gap after.reverse := fun c hc => hafter c (List.mem_reverse.mp hc)
  unfold trim dropEndWhile
  cases text with
  | nil =>
      have hgap : Gap (before ++ [] ++ after) := by
        rw [List.append_nil]
        exact List.forall_mem_append.mpr ⟨hbefore, hafter⟩
      have hdrop : (before ++ [] ++ after ++ []).dropWhile isBlank = [] :=
        drop_while_gap_append hgap fun c hc => (nomatch hc)
      rw [List.append_nil] at hdrop
      rw [hdrop]
      rfl
  | cons c rest =>
      have hfirst : ∀ d, (c :: rest ++ after).head? = some d → isBlank d = false := by
        intro d hd
        cases hd
        exact h c List.mem_cons_self
      have hlast : ∀ d, (c :: rest).reverse.head? = some d → isBlank d = false :=
        fun d hd => h d (List.mem_reverse.mp (List.mem_of_head? hd))
      rw [List.append_assoc, drop_while_gap_append hbefore hfirst, List.reverse_append,
        drop_while_gap_append hreverse hlast, List.reverse_reverse]

/-! ## Words -/

/-- A word goes on up to the next white space. -/
theorem words_from_append {word rest : List Char} (sofar : List Char)
    (hword : ∀ c ∈ word, isBlank c = false) (hne : sofar ≠ [] ∨ word ≠ [])
    (hrest : ∀ c, rest.head? = some c → isBlank c = true) :
    wordsFrom sofar (word ++ rest) = (sofar.reverse ++ word) :: words rest := by
  induction word generalizing sofar with
  | nil =>
      have hsofar : sofar ≠ [] := hne.resolve_right fun h => h rfl
      cases rest with
      | nil => simp [wordsFrom, words, hsofar]
      | cons blank rest => simp [wordsFrom, words, hrest blank rfl, hsofar]
  | cons c tail ih =>
      have hc : isBlank c = false := hword c List.mem_cons_self
      have htail := ih (c :: sofar) (fun d hd => hword d (List.mem_cons_of_mem _ hd))
        (Or.inl (List.cons_ne_nil _ _))
      simp only [List.cons_append, wordsFrom, hc, Bool.false_eq_true, if_false, htail,
        List.reverse_cons, List.append_assoc, List.nil_append]

/-- A text that begins with a word, up to white space or its end, has this word first. -/
theorem words_append {word rest : List Char} (hword : ∀ c ∈ word, isBlank c = false)
    (hne : word ≠ []) (hrest : ∀ c, rest.head? = some c → isBlank c = true) :
    words (word ++ rest) = word :: words rest :=
  words_from_append [] hword (Or.inr hne) hrest

/-- White space in front of the words is passed over. -/
theorem words_gap_append {gap : List Char} (h : Gap gap) (text : List Char) :
    words (gap ++ text) = words text := by
  induction gap with
  | nil => rfl
  | cons c rest ih =>
      have hc := h c List.mem_cons_self
      rw [← ih fun d hd => h d (List.mem_cons_of_mem _ hd)]
      simp [words, wordsFrom, hc]

/-- The word under way is ended by white space or the end of the text. -/
theorem words_from_eq_cons {sofar text word : List Char} {others : List (List Char)}
    (hne : sofar ≠ []) (h : wordsFrom sofar text = word :: others) :
    ∃ tail rest, word = sofar.reverse ++ tail ∧ text = tail ++ rest ∧
      (∀ c ∈ tail, isBlank c = false) ∧ (∀ c, rest.head? = some c → isBlank c = true) ∧
      words rest = others := by
  induction text generalizing sofar with
  | nil =>
      rw [wordsFrom, if_neg hne] at h
      cases h
      exact ⟨[], [], (List.append_nil _).symm, rfl, by simp, by simp, rfl⟩
  | cons c text ih =>
      unfold wordsFrom at h
      split at h
      · next hc =>
          cases h
          refine ⟨[], c :: text, (List.append_nil _).symm, rfl, by simp, ?_, ?_⟩
          · intro d hd
            cases hd
            exact hc
          · simp [words, wordsFrom, hc]
      · next hc =>
          obtain ⟨tail, rest, rfl, rfl, htail, hrest, hothers⟩ := ih (List.cons_ne_nil _ _) h
          refine ⟨c :: tail, rest, by simp, rfl, ?_, hrest, hothers⟩
          exact List.forall_mem_cons.mpr ⟨Bool.eq_false_iff.mpr hc, htail⟩

/-- A text begins with its first word, behind white space. -/
theorem words_eq_cons {text word : List Char} {others : List (List Char)}
    (h : words text = word :: others) :
    ∃ gap rest, Gap gap ∧ text = gap ++ (word ++ rest) ∧ word ≠ [] ∧
      (∀ c ∈ word, isBlank c = false) ∧ (∀ c, rest.head? = some c → isBlank c = true) ∧
      words rest = others := by
  induction text with
  | nil => cases h
  | cons c text ih =>
      unfold words wordsFrom at h
      split at h
      · next hc =>
          obtain ⟨gap, rest, hgap, rfl, hword⟩ := ih h
          exact ⟨c :: gap, rest, List.forall_mem_cons.mpr ⟨hc, hgap⟩, rfl, hword⟩
      · next hc =>
          obtain ⟨tail, rest, rfl, rfl, htail, hrest, hothers⟩ :=
            words_from_eq_cons (List.cons_ne_nil _ _) h
          exact ⟨[], rest, by simp [Gap], rfl, by simp,
            List.forall_mem_cons.mpr ⟨Bool.eq_false_iff.mpr hc, htail⟩, hrest, hothers⟩

/-- The word under way is one of the words. -/
theorem words_from_ne_nil {sofar : List Char} (hne : sofar ≠ []) (text : List Char) :
    wordsFrom sofar text ≠ [] := by
  induction text generalizing sofar with
  | nil => simp [wordsFrom, hne]
  | cons c text ih =>
      unfold wordsFrom
      split
      · exact List.cons_ne_nil _ _
      · exact ih (List.cons_ne_nil _ _)

/-- A text without words is white space. -/
theorem words_eq_nil_iff {text : List Char} : words text = [] ↔ Gap text := by
  constructor
  · intro h
    induction text with
    | nil => exact fun c hc => (nomatch hc)
    | cons c text ih =>
        unfold words wordsFrom at h
        split at h
        · next hc => exact List.forall_mem_cons.mpr ⟨hc, ih h⟩
        · exact absurd h (words_from_ne_nil (List.cons_ne_nil _ _) text)
  · intro h
    have hwords := words_gap_append h []
    rwa [List.append_nil] at hwords

/-- A text has two words when they stand in it with white space between them, and nothing but white
space around them. -/
theorem words_eq_pair_iff {text first second : List Char} :
    words text = [first, second] ↔
      ((first ≠ [] ∧ ∀ c ∈ first, isBlank c = false) ∧
        (second ≠ [] ∧ ∀ c ∈ second, isBlank c = false)) ∧
      ∃ before between after, Gap before ∧ (between ≠ [] ∧ Gap between) ∧ Gap after ∧
        text = before ++ (first ++ (between ++ (second ++ after))) := by
  constructor
  · intro h
    obtain ⟨before, rest, hbefore, rfl, hfirst, hsolid, hrest, hwords⟩ := words_eq_cons h
    obtain ⟨between, after, hbetween, rfl, hsecond, hsolid', -, hwords⟩ := words_eq_cons hwords
    refine ⟨⟨⟨hfirst, hsolid⟩, hsecond, hsolid'⟩, before, between, after, hbefore,
      ⟨?_, hbetween⟩, words_eq_nil_iff.mp hwords, rfl⟩
    -- Without white space between them the second word would begin where the first one ends.
    rintro rfl
    obtain ⟨c, others, rfl⟩ := List.exists_cons_of_ne_nil hsecond
    have hblank := hrest c rfl
    rw [hsolid' c List.mem_cons_self] at hblank
    cases hblank
  · rintro ⟨⟨⟨hfirst, hsolid⟩, hsecond, hsolid'⟩, before, between, after, hbefore, ⟨hne, hbetween⟩,
      hafter, rfl⟩
    have hhead : ∀ {gap rest : List Char}, gap ≠ [] → Gap gap →
        ∀ c, (gap ++ rest).head? = some c → isBlank c = true := by
      intro gap rest hgapNe hgap c hc
      obtain ⟨d, others, rfl⟩ := List.exists_cons_of_ne_nil hgapNe
      cases hc
      exact hgap _ List.mem_cons_self
    rw [words_gap_append hbefore, words_append hsolid hfirst (hhead hne hbetween),
      words_gap_append hbetween,
      words_append hsolid' hsecond (fun c hc => hafter c (List.mem_of_head? hc)),
      words_eq_nil_iff.mpr hafter]

end VirtualApi.Text

import VirtualApi.Proofs.Label.Term

/-!
# The grammar of selectors

A selector is written as terms with commas between them, of which blank ones do not count
(`Written`). No term is cut by the counter of parentheses (`uncut_of_term`), so that the reader of
selectors takes exactly the texts of the grammar (`Selector.reads_its_grammar`).
-/

namespace VirtualApi

namespace Label

open Text

section

variable {text : List Char} {r : Requirement}

/-! ## The counter of parentheses -/

/-- The text goes over the cutting of a selector in one piece, whatever stands around it. -/
def Uncut (text : List Char) : Prop :=
  ∀ sofar rest,
    splitTermsFrom 0 sofar (text ++ rest) = splitTermsFrom 0 (text.reverse ++ sofar) rest

/-- A text is not cut where no parenthesis changes the depth and no comma stands at depth zero. -/
theorem split_terms_from_append {depth : Int} {text : List Char}
    (hparen : ∀ c ∈ text, c ≠ '(' ∧ c ≠ ')') (hcomma : depth = 0 → ',' ∉ text)
    (sofar rest : List Char) :
    splitTermsFrom depth sofar (text ++ rest) =
      splitTermsFrom depth (text.reverse ++ sofar) rest := by
  induction text generalizing sofar with
  | nil => rfl
  | cons c tail ih =>
      obtain ⟨hopen, hclose⟩ := hparen c List.mem_cons_self
      have hcut : ¬ (c = ',' ∧ depth = 0) :=
        fun h => hcomma h.2 (h.1 ▸ List.mem_cons_self)
      have htail := ih (fun d hd => hparen d (List.mem_cons_of_mem _ hd))
        (fun h hmem => hcomma h (List.mem_cons_of_mem _ hmem)) (c :: sofar)
      simp only [List.cons_append, splitTermsFrom, hopen, hclose, hcut, if_false, htail,
        List.reverse_cons, List.append_assoc, List.nil_append]

/-- A text without parentheses and commas is not cut. -/
theorem uncut_of_no_comma {text : List Char} (h : ∀ c ∈ text, c ≠ '(' ∧ c ≠ ')' ∧ c ≠ ',') :
    Uncut text :=
  split_terms_from_append (fun c hc => ⟨(h c hc).1, (h c hc).2.1⟩)
    fun _ hmem => (h _ hmem).2.2 rfl

/-- Neither is a text with commas between its only parentheses, at its end. -/
theorem uncut_of_parentheses {head inner : List Char}
    (hhead : ∀ c ∈ head, c ≠ '(' ∧ c ≠ ')' ∧ c ≠ ',') (hinner : ∀ c ∈ inner, c ≠ '(' ∧ c ≠ ')') :
    Uncut (head ++ '(' :: (inner ++ [')'])) := by
  intro sofar rest
  -- Between the parentheses the depth is one, so that a comma does not cut.
  have hinside : splitTermsFrom (0 + 1) ('(' :: (head.reverse ++ sofar)) (inner ++ ')' :: rest) =
      splitTermsFrom (0 + 1) (inner.reverse ++ '(' :: (head.reverse ++ sofar)) (')' :: rest) :=
    split_terms_from_append hinner (fun h => absurd h (by decide)) _ _
  have hclose (part : List Char) :
      splitTermsFrom (0 + 1) part (')' :: rest) = splitTermsFrom 0 (')' :: part) rest := rfl
  calc splitTermsFrom 0 sofar (head ++ '(' :: (inner ++ [')']) ++ rest)
      = splitTermsFrom 0 sofar (head ++ '(' :: (inner ++ ')' :: rest)) := by simp
    _ = splitTermsFrom 0 (head.reverse ++ sofar) ('(' :: (inner ++ ')' :: rest)) :=
        uncut_of_no_comma hhead sofar _
    _ = splitTermsFrom (0 + 1) ('(' :: (head.reverse ++ sofar)) (inner ++ ')' :: rest) := rfl
    _ = splitTermsFrom 0 (')' :: (inner.reverse ++ '(' :: (head.reverse ++ sofar))) rest :=
        hinside.trans (hclose _)
    _ = splitTermsFrom 0 ((head ++ '(' :: (inner ++ [')'])).reverse ++ sofar) rest := by simp

/-- Texts that are not cut are found again where commas join them. -/
theorem split_terms_join_with {terms : List (List Char)} (hne : terms ≠ [])
    (h : ∀ term ∈ terms, Uncut term) : splitTerms (joinWith [','] terms) = terms := by
  induction terms with
  | nil => exact absurd rfl hne
  | cons term others ih =>
      have hterm := h term List.mem_cons_self
      cases others with
      | nil =>
          have hlast := hterm [] []
          rw [List.append_nil, List.append_nil] at hlast
          show splitTermsFrom 0 [] term = [term]
          rw [hlast, splitTermsFrom, List.reverse_reverse]
      | cons next others =>
          have hothers := ih (List.cons_ne_nil _ _) fun t ht => h t (List.mem_cons_of_mem _ ht)
          have hcut (part : List Char) (rest : List Char) :
              splitTermsFrom 0 part (',' :: rest) = part.reverse :: splitTerms rest := rfl
          show splitTermsFrom 0 [] (term ++ [','] ++ joinWith [','] (next :: others)) = _
          rw [List.append_assoc, hterm, List.singleton_append, hcut, hothers, List.append_nil,
            List.reverse_reverse]

/-- Two texts that are not cut are not cut one behind the other. -/
theorem Uncut.append {first second : List Char} (hfirst : Uncut first) (hsecond : Uncut second) :
    Uncut (first ++ second) := by
  intro sofar rest
  rw [List.append_assoc, hfirst, hsecond, List.reverse_append, List.append_assoc]

/-- A text without signs of the notation is not cut. -/
theorem uncut_of_inert (h : ∀ c ∈ text, Inert c) : Uncut text :=
  uncut_of_no_comma fun c hc => ⟨(h c hc).ne_open, (h c hc).ne_close, (h c hc).ne_comma⟩

/-- A term is not cut: it has no comma but those between its parentheses. -/
theorem uncut_of_term (h : Term text r) : Uncut text := by
  have hvalid := h.valid
  have hkey := inert_of_plain (plain_of_valid_key hvalid.1).2
  have hplain : ∀ v ∈ r.values, ∀ c ∈ v.toList, Plain c :=
    fun v hv => plain_of_valid_value (hvalid.2.1 v hv)
  cases h with
  | absent _ hpadded =>
      have hnot : Uncut ['!'] := uncut_of_no_comma (List.forall_mem_singleton.mpr (by decide))
      exact hnot.append (uncut_of_inert (hpadded.inert hkey))
  | present _ => exact uncut_of_inert hkey
  | comparison _ _ hfirst hsecond hsign =>
      have hsigns : ∀ entry ∈ signs, entry.1.all (fun c => c ≠ '(' ∧ c ≠ ')' ∧ c ≠ ',') = true := by
        decide
      have huncut := uncut_of_no_comma fun c hc =>
        of_decide_eq_true (List.all_eq_true.mp (hsigns _ hsign) c hc)
      exact (uncut_of_inert (hfirst.inert hkey)).append (huncut.append
        (uncut_of_inert (hsecond.inert (inert_of_plain (hplain _ List.mem_cons_self)))))
  | set _ _ hgap hhead hparts _ hword =>
      have hinert := hhead.inert (List.forall_mem_append.mpr ⟨hkey, List.forall_mem_append.mpr
        ⟨inert_of_gap hgap.2, inert_of_plain (plain_of_set_word hword).2⟩⟩)
      refine uncut_of_parentheses
        (fun c hc => ⟨(hinert c hc).ne_open, (hinert c hc).ne_close, (hinert c hc).ne_comma⟩)
        fun c hc => ?_
      rcases mem_join_with hc with hcomma | ⟨part, hpart, hc⟩
      · rw [List.mem_singleton.mp hcomma]
        decide
      · have hc := inert_of_parts hparts hplain part hpart c hc
        exact ⟨hc.ne_open, hc.ne_close⟩

/-! ## Several terms -/

/-- The requirements of a list of terms, each with white space around it, in their order. A blank
term has none. -/
inductive Terms : List (List Char) → List Requirement → Prop where
  | nil : Terms [] []
  | blank {text : List Char} {texts : List (List Char)} {rs : List Requirement}
      (hblank : trim text = []) (hrest : Terms texts rs) : Terms (text :: texts) rs
  | term {text : List Char} {texts : List (List Char)} {r : Requirement} {rs : List Requirement}
      (hterm : Term (trim text) r) (hrest : Terms texts rs) : Terms (text :: texts) (r :: rs)

/-- A term is not blank. -/
theorem Term.ne_nil (h : Term text r) : text ≠ [] := by
  rintro rfl
  have hread := parse_of_term h
  cases hread

/-- The reader of terms, on those that are not blank, gives the requirements of the list. -/
theorem read_terms_iff {texts : List (List Char)} {rs : List Requirement} :
    ((texts.map trim).filter (· ≠ [])).mapM parseTerm = .ok rs ↔ Terms texts rs := by
  rw [result_mapM_eq_ok_iff]
  simp only [parse_term_eq_ok_iff]
  induction texts generalizing rs with
  | nil =>
      constructor
      · intro h
        cases h
        exact .nil
      · intro h
        cases h
        exact .nil
  | cons text texts ih =>
      rw [List.map_cons]
      by_cases hblank : trim text = []
      · rw [List.filter_cons_of_neg (by simp [hblank]), ih]
        constructor
        · exact .blank hblank
        · intro h
          cases h with
          | blank _ hrest => exact hrest
          | term hterm _ => exact absurd hblank hterm.ne_nil
      · rw [List.filter_cons_of_pos (by simp [hblank]), List.forall₂_cons_left_iff]
        simp only [ih]
        constructor
        · rintro ⟨r, rs, hterm, hrest, rfl⟩
          exact .term hterm hrest
        · intro h
          cases h with
          | blank h _ => exact absurd h hblank
          | term hterm hrest => exact ⟨_, _, hterm, hrest, rfl⟩

/-- A term is not cut with the white space around it either, and neither is white space alone. -/
theorem uncut_of_terms {texts : List (List Char)} {rs : List Requirement} (h : Terms texts rs) :
    ∀ text ∈ texts, Uncut text := by
  have hgaps {text : List Char} (h : Uncut (trim text)) : Uncut text := by
    obtain ⟨before, after, hbefore, hafter, htext⟩ := exists_gaps text
    rw [htext]
    exact ((uncut_of_inert (inert_of_gap hbefore)).append h).append
      (uncut_of_inert (inert_of_gap hafter))
  induction h with
  | nil => exact fun text htext => (nomatch htext)
  | blank hblank _ ih =>
      have hnil : Uncut [] := fun sofar rest => rfl
      exact List.forall_mem_cons.mpr ⟨hgaps (hblank ▸ hnil), ih⟩
  | term hterm _ ih => exact List.forall_mem_cons.mpr ⟨hgaps (uncut_of_term hterm), ih⟩

/-- What is cut, with commas between the parts, is the text again. -/
theorem join_with_split_terms_from (depth : Int) (part text : List Char) :
    splitTermsFrom depth part text ≠ [] ∧
      joinWith [','] (splitTermsFrom depth part text) = part.reverse ++ text := by
  induction text generalizing depth part with
  | nil => exact ⟨List.cons_ne_nil _ _, (List.append_nil _).symm⟩
  | cons c rest ih =>
      have hnext (depth : Int) :
          splitTermsFrom depth (c :: part) rest ≠ [] ∧
            joinWith [','] (splitTermsFrom depth (c :: part) rest) = part.reverse ++ c :: rest := by
        refine ⟨(ih depth (c :: part)).1, ?_⟩
        rw [(ih depth (c :: part)).2, List.reverse_cons, List.append_assoc, List.singleton_append]
      unfold splitTermsFrom
      split
      · exact hnext (depth + 1)
      · split
        · exact hnext (depth - 1)
        · split
          · next hcomma =>
              obtain ⟨hne, hjoin⟩ := ih depth []
              obtain ⟨next, others, hparts⟩ := List.exists_cons_of_ne_nil hne
              rw [hparts] at hjoin
              refine ⟨List.cons_ne_nil _ _, ?_⟩
              rw [hparts, joinWith, hjoin, hcomma.1, List.append_assoc]
              rfl
          · exact hnext depth

/-- The text is terms with commas between them, of these requirements. -/
def Written (text : String) (rs : List Requirement) : Prop :=
  ∃ texts, text.toList = joinWith [','] texts ∧ Terms texts rs

/-- A text of the grammar is cut into its terms. -/
theorem terms_of_written {text : String} {rs : List Requirement} (h : Written text rs) :
    Terms (splitTerms text.toList) rs := by
  obtain ⟨texts, htext, hterms⟩ := h
  by_cases hne : texts = []
  · rw [hne] at htext hterms
    rw [htext]
    exact .blank rfl hterms
  · rwa [htext, split_terms_join_with hne (uncut_of_terms hterms)]

/-- A text is of the grammar when the parts it is cut into are terms. -/
theorem written_iff {text : String} {rs : List Requirement} :
    Written text rs ↔ Terms (splitTerms text.toList) rs :=
  ⟨terms_of_written,
    fun h => ⟨_, (join_with_split_terms_from 0 [] text.toList).2.symm, h⟩⟩

end

end Label

namespace Selector

open Text Label

/-- A text is read as a selector when its terms, in their order, are the requirements of it. -/
theorem parse_eq_ok_iff {text : String} {s : Selector} :
    parse text = .ok s ↔ Written text s.requirements := by
  rw [written_iff, ← read_terms_iff]
  constructor
  · intro h
    obtain ⟨rs, hterms, hs⟩ := result_bind_eq_ok_iff.mp h
    cases hs
    exact hterms
  · intro h
    exact result_bind_eq_ok_iff.mpr ⟨s.requirements, h, rfl⟩

/-- The reader of selectors takes exactly the texts of the grammar: a text is read as a selector
when its terms, in their order, are the requirements of the selector, and fails when it has no such
terms. -/
theorem reads_its_grammar (text : String) :
    (∀ s, parse text = .ok s ↔ Written text s.requirements) ∧
      ((∃ e, parse text = .error e) ↔ ¬ ∃ rs, Written text rs) := by
  refine ⟨fun s => parse_eq_ok_iff, ?_⟩
  constructor
  · rintro ⟨e, he⟩ ⟨rs, hwritten⟩
    have hread : parse text = .ok ⟨rs⟩ := parse_eq_ok_iff.mpr hwritten
    rw [he] at hread
    cases hread
  · intro hnone
    cases hparse : parse text with
    | error e => exact ⟨e, rfl⟩
    | ok s => exact absurd ⟨s.requirements, parse_eq_ok_iff.mp hparse⟩ hnone

/-- Parentheses that are not closed, not opened or nested are refused, and so are signs that stand
twice. -/
example :
    ["k in (a", "k in (a))", "k in ((a),b)", "k)=a,b(", "a===b", "a!==b", "!!a"].all
      (fun text => !(parse text).toBool) = true := by
  decide

end Selector

end VirtualApi

import VirtualApi.Label.Reader
import VirtualApi.Proofs.Label.Names
import VirtualApi.Proofs.Result
import VirtualApi.Proofs.Text.Blank

/-!
# The notation of one requirement

`Term` is the grammar of the terms of a selector. The reader of terms takes exactly these, and gives
the requirement that each is a term of (`parse_term_eq_ok_iff`).
-/

namespace VirtualApi.Label

open Text

/-! ## Terms -/

/-- The text with white space around it. -/
def Padded (padded text : List Char) : Prop :=
  ∃ before after, Gap before ∧ Gap after ∧ padded = before ++ text ++ after

/-- The operators that are written as signs. -/
def signs : List (List Char × Operator) :=
  [(['='], .equals), (['=', '='], .equals), (['!', '='], .notEquals)]

/-- The operators that are written as words. -/
def setWords : List (List Char × Operator) :=
  [(['i', 'n'], .isIn), (['n', 'o', 't', 'i', 'n'], .notIn)]

/-- The notation of one requirement. White space may stand around keys, values and operators;
between a key and a word it has to. -/
inductive Term : List Char → Requirement → Prop where
  /-- A key behind an exclamation mark. -/
  | absent {padded : List Char} {key : String} (hkey : validKey key.toList = true)
      (hpadded : Padded padded key.toList) :
      Term ('!' :: padded) ⟨key, .doesNotExist, []⟩
  /-- A key alone. -/
  | present {key : String} (hkey : validKey key.toList = true) :
      Term key.toList ⟨key, .exists, []⟩
  /-- A key, a sign and a value. -/
  | comparison {first second sign : List Char} {key value : String} {operator : Operator}
      (hkey : validKey key.toList = true) (hvalue : validValue value.toList = true)
      (hfirst : Padded first key.toList) (hsecond : Padded second value.toList)
      (hsign : (sign, operator) ∈ signs) :
      Term (first ++ (sign ++ second)) ⟨key, operator, [value]⟩
  /-- A key, a word and at least one value between parentheses, with commas between the values. -/
  | set {head gap word : List Char} {parts : List (List Char)} {key : String}
      {values : List String} {operator : Operator} (hkey : validKey key.toList = true)
      (hvalues : ∀ v ∈ values, validValue v.toList = true)
      (hgap : gap ≠ [] ∧ Gap gap) (hhead : Padded head (key.toList ++ (gap ++ word)))
      (hparts : List.Forall₂ (fun part v => Padded part v.toList) parts values)
      (hne : values ≠ []) (hword : (word, operator) ∈ setWords) :
      Term (head ++ '(' :: (joinWith [','] parts ++ [')'])) ⟨key, operator, values⟩

/-- Every text is what trimming leaves of it, with white space around it. -/
theorem padded_trim (text : List Char) : Padded text (trim text) := exists_gaps text

/-- There need not be white space around a text. -/
theorem padded_self (text : List Char) : Padded text text :=
  ⟨[], [], by simp [Gap], by simp [Gap], by simp⟩

/-- Only the white space around a text without any is trimmed. -/
theorem Padded.trim_eq {padded text : List Char} (h : Padded padded text)
    (hsolid : ∀ c ∈ text, isBlank c = false) : trim padded = text := by
  obtain ⟨before, after, hbefore, hafter, rfl⟩ := h
  exact trim_between hbefore hafter hsolid

/-- White space is no sign of the notation. -/
theorem inert_of_gap {gap : List Char} (h : Gap gap) : ∀ c ∈ gap, Inert c := by
  intro c hc
  have hne {d : Char} (hd : isBlank d = false) : c ≠ d := by
    rintro rfl
    rw [h c hc] at hd
    cases hd
  exact ⟨hne (by decide), hne (by decide), hne (by decide), hne (by decide), hne (by decide)⟩

/-- White space around a text brings no sign of the notation into it. -/
theorem Padded.inert {padded text : List Char} (h : Padded padded text)
    (hinert : ∀ c ∈ text, Inert c) : ∀ c ∈ padded, Inert c := by
  obtain ⟨before, after, hbefore, hafter, rfl⟩ := h
  exact List.forall_mem_append.mpr
    ⟨List.forall_mem_append.mpr ⟨inert_of_gap hbefore, hinert⟩, inert_of_gap hafter⟩

/-- A text with white space around it is not empty when the text is not. -/
theorem Padded.ne_nil {padded text : List Char} (h : Padded padded text) (hne : text ≠ []) :
    padded ≠ [] := by
  obtain ⟨before, after, -, -, rfl⟩ := h
  simp [hne]

/-- A key or a value is found again between white space. -/
theorem Padded.trimmed_eq {padded : List Char} {text : String} (h : Padded padded text.toList)
    (hplain : ∀ c ∈ text.toList, Plain c) : trimmed padded = text := by
  unfold trimmed
  rw [h.trim_eq fun c hc => (hplain c hc).solid, String.ofList_toList]

/-- What is read between white space stands there. -/
theorem padded_trimmed (text : List Char) : Padded text (trimmed text).toList := by
  unfold trimmed
  rw [String.toList_ofList]
  exact padded_trim text

/-! ## The reader by the form of a term -/

section

variable {first key value : List Char}

/-- A term that does not begin with a sign is not a negated key: it is a set, a comparison or a key
alone. -/
theorem parse_term_of_inert (second : List Char) (hne : first ≠ []) (h : ∀ c ∈ first, Inert c) :
    parseTerm (first ++ second) =
      match splitOnce '(' (first ++ second) with
      | some (head, tail) => parseSetTerm (first ++ second) head tail
      | none =>
          match splitOnceAt ['!', '='] (first ++ second) with
          | some (key, value) => Requirement.make (trimmed key) .notEquals [trimmed value]
          | none =>
              match splitOnceAt ['=', '='] (first ++ second) with
              | some (key, value) => Requirement.make (trimmed key) .equals [trimmed value]
              | none =>
                  match splitOnce '=' (first ++ second) with
                  | some (key, value) => Requirement.make (trimmed key) .equals [trimmed value]
                  | none =>
                      if (first ++ second).any isBlank then
                        .error (.malformed (String.ofList (first ++ second)))
                      else Requirement.make (String.ofList (first ++ second)) .exists [] := by
  obtain ⟨c, rest, rfl⟩ := List.exists_cons_of_ne_nil hne
  have hc : c ≠ '!' := (h c List.mem_cons_self).ne_not
  unfold parseTerm
  split
  · next heq => exact absurd (List.cons.inj heq).1 hc
  · rfl

/-- A key alone asks for its presence. -/
theorem parse_key (hne : key ≠ []) (hkey : ∀ c ∈ key, Plain c) :
    parseTerm key = Requirement.make (String.ofList key) .exists [] := by
  have hinert := inert_of_plain hkey
  have hopen : '(' ∉ key := not_mem_of_inert hinert fun h => h.ne_open rfl
  have hnot : '!' ∉ key := not_mem_of_inert hinert fun h => h.ne_not rfl
  have hequals : '=' ∉ key := not_mem_of_inert hinert fun h => h.ne_equals rfl
  have hblank : key.any isBlank = false :=
    List.any_eq_false.mpr fun c hc => by simp [(hkey c hc).solid]
  have hparse := parse_term_of_inert [] hne hinert
  rw [List.append_nil] at hparse
  rw [hparse, split_once_eq_none hopen, split_once_at_eq_none hnot, split_once_at_eq_none hequals,
    split_once_eq_none hequals, hblank]
  rfl

/-- A comparison with an equals sign contains no other sign. -/
theorem not_mem_equality (hkey : ∀ c ∈ key, Inert c) (hvalue : ∀ c ∈ value, Inert c)
    (sign : List Char) (hsign : sign.all (· = '=') = true) {c : Char} (hc : ¬ Inert c)
    (hequals : c ≠ '=') : c ∉ key ++ (sign ++ value) := by
  intro hmem
  rcases List.mem_append.mp hmem with hmem | hmem
  · exact not_mem_of_inert hkey hc hmem
  · rcases List.mem_append.mp hmem with hmem | hmem
    · exact hequals (of_decide_eq_true (List.all_eq_true.mp hsign c hmem))
    · exact not_mem_of_inert hvalue hc hmem

/-- A key, an equals sign and a value ask for equality. -/
theorem parse_equality (hne : key ≠ []) (hkey : ∀ c ∈ key, Inert c)
    (hvalue : ∀ c ∈ value, Inert c) :
    parseTerm (key ++ '=' :: value) =
      Requirement.make (trimmed key) .equals [trimmed value] := by
  have hopen : '(' ∉ key ++ '=' :: value :=
    not_mem_equality hkey hvalue ['='] (by decide) (fun h => h.ne_open rfl) (by decide)
  have hnot : '!' ∉ key ++ '=' :: value :=
    not_mem_equality hkey hvalue ['='] (by decide) (fun h => h.ne_not rfl) (by decide)
  have hkeyEquals : '=' ∉ key := not_mem_of_inert hkey fun h => h.ne_equals rfl
  have hvalueEquals : '=' ∉ value := not_mem_of_inert hvalue fun h => h.ne_equals rfl
  -- The only equals sign is not followed by another one.
  have hdouble : splitOnceAt ['=', '='] (key ++ '=' :: value) = none := by
    rw [split_once_at_append hkeyEquals, splitOnceAt, split_once_at_eq_none hvalueEquals]
    cases value with
    | nil => rfl
    | cons c rest =>
        have hc : '=' ≠ c := fun heq => hvalueEquals (heq ▸ List.mem_cons_self)
        simp [stripPrefix, hc]
  rw [parse_term_of_inert _ hne hkey, split_once_eq_none hopen, split_once_at_eq_none hnot, hdouble,
    split_once_append hkeyEquals]

/-- So do a key, two equals signs and a value. -/
theorem parse_double_equality (hne : key ≠ []) (hkey : ∀ c ∈ key, Inert c)
    (hvalue : ∀ c ∈ value, Inert c) :
    parseTerm (key ++ '=' :: '=' :: value) =
      Requirement.make (trimmed key) .equals [trimmed value] := by
  have hopen : '(' ∉ key ++ '=' :: '=' :: value :=
    not_mem_equality hkey hvalue ['=', '='] (by decide) (fun h => h.ne_open rfl)
      (by decide)
  have hnot : '!' ∉ key ++ '=' :: '=' :: value :=
    not_mem_equality hkey hvalue ['=', '='] (by decide) (fun h => h.ne_not rfl)
      (by decide)
  have hequals : '=' ∉ key := not_mem_of_inert hkey fun h => h.ne_equals rfl
  have hsplit : splitOnceAt ['=', '='] (key ++ '=' :: '=' :: value) = some (key, value) := by
    rw [split_once_at_append hequals]
    simp [splitOnceAt, stripPrefix]
  rw [parse_term_of_inert _ hne hkey, split_once_eq_none hopen, split_once_at_eq_none hnot, hsplit]

/-- A key, an exclamation mark with an equals sign and a value ask for inequality. -/
theorem parse_inequality (hne : key ≠ []) (hkey : ∀ c ∈ key, Inert c)
    (hvalue : ∀ c ∈ value, Inert c) :
    parseTerm (key ++ '!' :: '=' :: value) =
      Requirement.make (trimmed key) .notEquals [trimmed value] := by
  have hopen : '(' ∉ key ++ '!' :: '=' :: value := by
    have hkeyOpen : '(' ∉ key := not_mem_of_inert hkey fun h => h.ne_open rfl
    have hvalueOpen : '(' ∉ value := not_mem_of_inert hvalue fun h => h.ne_open rfl
    simp [hkeyOpen, hvalueOpen]
  have hnot : '!' ∉ key := not_mem_of_inert hkey fun h => h.ne_not rfl
  have hsplit : splitOnceAt ['!', '='] (key ++ '!' :: '=' :: value) = some (key, value) := by
    rw [split_once_at_append hnot]
    simp [splitOnceAt, stripPrefix]
  rw [parse_term_of_inert _ hne hkey, split_once_eq_none hopen, hsplit]

/-- Two words and what stands between parentheses behind them are read as these three. -/
theorem parse_set {head word inner : List Char} (hhead : ∀ c ∈ head, Inert c)
    (hwords : words head = [key, word]) :
    parseTerm (head ++ '(' :: (inner ++ [')'])) =
      if word = ['i', 'n'] then
        Requirement.make (String.ofList key) .isIn ((splitOn ',' inner).map trimmed)
      else if word = ['n', 'o', 't', 'i', 'n'] then
        Requirement.make (String.ofList key) .notIn ((splitOn ',' inner).map trimmed)
      else .error (.unknownOperator (String.ofList word)) := by
  have hne : head ≠ [] := by
    rintro rfl
    cases hwords
  have hopen : '(' ∉ head := not_mem_of_inert hhead fun h => h.ne_open rfl
  rw [parse_term_of_inert _ hne hhead, split_once_append hopen]
  simp only [parseSetTerm, List.getLast?_concat, ne_eq, not_true_eq_false, if_false,
    List.dropLast_concat, hwords]

end

/-! ## The reader of terms takes the grammar -/

/-- A key, a sign and a value with white space around them are read as these three. -/
theorem parse_comparison {first second sign : List Char} {operator : Operator}
    (hsign : (sign, operator) ∈ signs) (hne : first ≠ []) (hfirst : ∀ c ∈ first, Inert c)
    (hsecond : ∀ c ∈ second, Inert c) :
    parseTerm (first ++ (sign ++ second)) =
      Requirement.make (trimmed first) operator [trimmed second] := by
  simp only [signs, List.mem_cons, List.not_mem_nil, or_false, Prod.mk.injEq] at hsign
  obtain ⟨rfl, rfl⟩ | ⟨rfl, rfl⟩ | ⟨rfl, rfl⟩ := hsign
  · exact parse_equality hne hfirst hsecond
  · exact parse_double_equality hne hfirst hsecond
  · exact parse_inequality hne hfirst hsecond

section

variable {parts : List (List Char)} {values : List String}

/-- The values are what trimming leaves of the parts. -/
theorem map_trimmed_of_padded
    (hparts : List.Forall₂ (fun part v => Padded part v.toList) parts values)
    (hplain : ∀ v ∈ values, ∀ c ∈ v.toList, Plain c) : parts.map trimmed = values := by
  induction hparts with
  | nil => rfl
  | cons hpart _ ih =>
      rw [List.map_cons, hpart.trimmed_eq (hplain _ List.mem_cons_self),
        ih fun v hv => hplain v (List.mem_cons_of_mem _ hv)]

/-- No sign of the notation stands in a part that is a value with white space around it. -/
theorem inert_of_parts
    (hparts : List.Forall₂ (fun part v => Padded part v.toList) parts values)
    (hplain : ∀ v ∈ values, ∀ c ∈ v.toList, Plain c) : ∀ part ∈ parts, ∀ c ∈ part, Inert c := by
  intro part hpart
  obtain ⟨v, hv, hpadded⟩ := exists_of_mem_left hparts hpart
  exact hpadded.inert (inert_of_plain (hplain v hv))

/-- The values with white space around them are found again between the commas. -/
theorem parse_padded_values (hne : values ≠ [])
    (hparts : List.Forall₂ (fun part v => Padded part v.toList) parts values)
    (hplain : ∀ v ∈ values, ∀ c ∈ v.toList, Plain c) :
    (splitOn ',' (joinWith [','] parts)).map trimmed = values := by
  have hpartsNe : parts ≠ [] := by
    rintro rfl
    cases hparts
    exact hne rfl
  have hcomma : ∀ part ∈ parts, ',' ∉ part := fun part hpart =>
    not_mem_of_inert (inert_of_parts hparts hplain part hpart) fun h => h.ne_comma rfl
  rw [split_on_join_with hpartsNe hcomma, map_trimmed_of_padded hparts hplain]

end

/-- The words of operators are plain, and there is one. -/
theorem plain_of_set_word {word : List Char} {operator : Operator}
    (h : (word, operator) ∈ setWords) : word ≠ [] ∧ ∀ c ∈ word, Plain c := by
  have hwords : ∀ entry ∈ setWords, entry.1 ≠ [] ∧ entry.1.all isKeyChar = true := by decide
  exact ⟨(hwords _ h).1, plain_of_all (hwords _ h).2⟩

section

variable {text : List Char} {r : Requirement}

/-- The requirement of a term is valid. -/
theorem Term.valid (h : Term text r) : r.Valid := by
  cases h with
  | absent hkey _ => exact ⟨hkey, fun v hv => (nomatch hv), rfl⟩
  | present hkey => exact ⟨hkey, fun v hv => (nomatch hv), rfl⟩
  | comparison hkey hvalue _ _ hsign =>
      have htakes : ∀ entry ∈ signs, entry.2.takes 1 = true := by decide
      exact ⟨hkey, List.forall_mem_singleton.mpr hvalue, htakes _ hsign⟩
  | set hkey hvalues _ _ _ hne hword =>
      have htakes : ∀ entry ∈ setWords, ∀ n, n ≠ 0 → entry.2.takes n = true := by
        simp [setWords, Operator.takes]
      exact ⟨hkey, hvalues, htakes _ hword _ (by simpa using hne)⟩

/-- A term of the grammar is read as its requirement. -/
theorem parse_of_term (h : Term text r) : parseTerm text = .ok r := by
  have hvalid := h.valid
  obtain ⟨hkeyNe, hkeyPlain⟩ := plain_of_valid_key hvalid.1
  have hplain : ∀ v ∈ r.values, ∀ c ∈ v.toList, Plain c :=
    fun v hv => plain_of_valid_value (hvalid.2.1 v hv)
  have hmake : Requirement.make r.key r.operator r.values = .ok r :=
    make_eq_ok_iff.mpr ⟨rfl, hvalid⟩
  cases h with
  | absent hkey hpadded =>
      rw [← hmake, ← hpadded.trimmed_eq hkeyPlain]
      rfl
  | present hkey =>
      rw [parse_key hkeyNe hkeyPlain, String.ofList_toList]
      exact hmake
  | comparison hkey hvalue hfirst hsecond hsign =>
      have hvaluePlain := hplain _ List.mem_cons_self
      rw [parse_comparison hsign (hfirst.ne_nil hkeyNe) (hfirst.inert (inert_of_plain hkeyPlain))
        (hsecond.inert (inert_of_plain hvaluePlain)), hfirst.trimmed_eq hkeyPlain,
        hsecond.trimmed_eq hvaluePlain]
      exact hmake
  | @set _ gap word _ key _ _ hkey hvalues hgap hhead hparts hne hword =>
      obtain ⟨hwordNe, hwordPlain⟩ := plain_of_set_word hword
      have hinert := hhead.inert (List.forall_mem_append.mpr ⟨inert_of_plain hkeyPlain,
        List.forall_mem_append.mpr ⟨inert_of_gap hgap.2, inert_of_plain hwordPlain⟩⟩)
      obtain ⟨before, after, hbefore, hafter, rfl⟩ := hhead
      have hwords : words (before ++ (key.toList ++ (gap ++ word)) ++ after) = [key.toList, word] :=
        words_eq_pair_iff.mpr ⟨⟨⟨hkeyNe, fun c hc => (hkeyPlain c hc).solid⟩,
          hwordNe, fun c hc => (hwordPlain c hc).solid⟩,
          before, gap, after, hbefore, hgap, hafter, by simp⟩
      rw [parse_set hinert hwords, parse_padded_values hne hparts hplain, String.ofList_toList]
      simp only [setWords, List.mem_cons, List.not_mem_nil, or_false, Prod.mk.injEq] at hword
      obtain ⟨rfl, rfl⟩ | ⟨rfl, rfl⟩ := hword
      · exact hmake
      · exact hmake

/-! ## The reader of terms takes nothing else -/

/-- A set that is read is a key, a word and values between parentheses. -/
theorem term_of_parse_set {head tail : List Char}
    (h : parseSetTerm text head tail = .ok r) : Term (head ++ '(' :: tail) r := by
  unfold parseSetTerm at h
  split at h
  · cases h
  · next hlast =>
      obtain ⟨inner, rfl⟩ : ∃ inner, tail = inner ++ [')'] :=
        List.getLast?_eq_some_iff.mp (not_not.mp hlast)
      rw [List.dropLast_concat] at h
      dsimp only at h
      split at h
      · next key word hwords =>
          obtain ⟨-, before, gap, after, hbefore, hgap, hafter, rfl⟩ := words_eq_pair_iff.mp hwords
          have hset {operator : Operator} (hword : (word, operator) ∈ setWords)
              (hmake : Requirement.make (String.ofList key) operator
                ((splitOn ',' inner).map trimmed) = .ok r) :
              Term (before ++ (key ++ (gap ++ (word ++ after))) ++ '(' :: (inner ++ [')'])) r := by
            obtain ⟨rfl, hkey, hvalues, -⟩ := make_eq_ok_iff.mp hmake
            have hparts : List.Forall₂ (fun part v => Padded part v.toList) (splitOn ',' inner)
                ((splitOn ',' inner).map trimmed) :=
              List.forall₂_map_right_iff.mpr
                (List.forall₂_same.mpr fun part _ => padded_trimmed part)
            have hhead : Padded (before ++ (key ++ (gap ++ (word ++ after))))
                ((String.ofList key).toList ++ (gap ++ word)) :=
              ⟨before, after, hbefore, hafter, by simp⟩
            have hterm := Term.set hkey hvalues hgap hhead hparts
              (by simp [split_on_ne_nil]) hword
            rwa [join_with_split_on] at hterm
          split at h
          · next hin => exact hset (by simp [setWords, hin]) h
          · split at h
            · next hnotin => exact hset (by simp [setWords, hnotin]) h
            · cases h
      · cases h

/-- A comparison that is read is a key, its sign and a value. -/
theorem term_of_comparison {first second sign : List Char} {operator : Operator}
    (hsign : (sign, operator) ∈ signs)
    (h : Requirement.make (trimmed first) operator [trimmed second] = .ok r) :
    Term (first ++ (sign ++ second)) r := by
  obtain ⟨rfl, hkey, hvalues, -⟩ := make_eq_ok_iff.mp h
  exact .comparison hkey (hvalues _ List.mem_cons_self) (padded_trimmed first)
    (padded_trimmed second) hsign

/-- What is read as a requirement is a term of the grammar. -/
theorem term_of_parse (h : parseTerm text = .ok r) : Term text r := by
  unfold parseTerm at h
  split at h
  · next key =>
      obtain ⟨rfl, hkey, -⟩ := make_eq_ok_iff.mp h
      exact .absent hkey (padded_trimmed key)
  · split at h
    · next head tail hsplit =>
        rw [eq_append_of_split_once hsplit]
        exact term_of_parse_set h
    · split at h
      · next hsplit =>
          rw [eq_append_of_split_once_at hsplit]
          exact term_of_comparison (by simp [signs]) h
      · split at h
        · next hsplit =>
            rw [eq_append_of_split_once_at hsplit]
            exact term_of_comparison (by simp [signs]) h
        · split at h
          · next hsplit =>
              rw [eq_append_of_split_once hsplit]
              have hsign : (['='], Operator.equals) ∈ signs := by simp [signs]
              exact term_of_comparison hsign h
          · split at h
            · cases h
            · obtain ⟨rfl, hkey, -⟩ := make_eq_ok_iff.mp h
              have hterm := Term.present hkey
              rwa [String.toList_ofList] at hterm

/-- The reader of terms takes exactly the terms of the grammar, as the requirements they are. -/
theorem parse_term_eq_ok_iff : parseTerm text = .ok r ↔ Term text r :=
  ⟨term_of_parse, parse_of_term⟩

end

end VirtualApi.Label

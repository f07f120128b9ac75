import VirtualApi.Catalog.Paging
import VirtualApi.Catalog.Standard
import VirtualApi.Proofs.Decimal.Natural

/-!
# Following continue tokens

A caller pages through a list by passing the token of each page on to the next request, until a
page has none. `Pages` is that protocol, with options that may differ from request to request.
`pages_from` carries the invariant of a run: a token stands for the number of entries that the
pages so far were made from. The main theorem, `following_tokens_lists_entries`, says that the run
ends and that its pages are the filtered list, cut into pieces.
-/

namespace VirtualApi

/-- A token that was handed out stands for its offset. -/
theorem decode_encode_continue {offset : Nat} (h : offset ≤ maxOffset) :
    decodeContinue (encodeContinue offset) = .ok offset := by
  simp [decodeContinue, encodeContinue, Decimal.ofNat, Decimal.read_unsigned_digits h]

/-- No token that is handed out is empty. -/
theorem encode_continue_ne_empty (offset : Nat) : encodeContinue offset ≠ "" := by
  intro h
  exact Decimal.digits_ne_nil offset (by simpa [encodeContinue, Decimal.ofNat] using h)

namespace ListOptions

/-- A request without a token starts at the beginning. -/
theorem start_of_no_token {options : ListOptions} (h : options.continueToken = none) :
    options.start = .ok 0 := by
  simp [start, h]

/-- A request with a token that was handed out starts at its offset. -/
theorem start_of_token {options : ListOptions} {offset : Nat}
    (h : options.continueToken = some (encodeContinue offset)) (hoffset : offset ≤ maxOffset) :
    options.start = .ok offset := by
  unfold start
  rw [h]
  split
  · contradiction
  · rename_i heq
    exact absurd (Option.some.inj heq) (encode_continue_ne_empty offset)
  · rename_i heq
    cases heq
    exact decode_encode_continue hoffset

end ListOptions

variable {α : Type} [CatalogEntry α]

/-- The labels of an entry satisfy the selector. -/
def Selector.selects (selector : Selector) (entry : α) : Bool :=
  selector.holds (CatalogEntry.labels entry)

/-- A request from an offset is answered with the filtered page of that offset. -/
theorem paginate_of_start (entries : List α) {options : ListOptions} (selector : Selector)
    {start : Nat} (hstart : options.start = .ok start) :
    paginate entries options selector =
      .ok ⟨(pageFrom entries start options.pageSize).1.filter selector.selects,
        (pageFrom entries start options.pageSize).2⟩ := by
  simp only [paginate, hstart]
  rfl

/-- A request from an offset is answered in one of two ways. Without a limit, or with one that
reaches to the end of the list, its page goes to the end and has no token; with any other limit it
is made from as many entries as the limit says and has the token of the entry after them. -/
theorem paginate_cases (entries : List α) {options : ListOptions} (selector : Selector)
    {start : Nat} (hstart : options.start = .ok start) :
    (options.pageSize = 0 ∨ entries.length ≤ start + options.pageSize) ∧
        paginate entries options selector =
          .ok ⟨(entries.drop start).filter selector.selects, none⟩ ∨
      0 < options.pageSize ∧ start + options.pageSize < entries.length ∧
        paginate entries options selector =
          .ok ⟨((entries.drop start).take options.pageSize).filter selector.selects,
            some (encodeContinue (start + options.pageSize))⟩ := by
  by_cases h : 0 < options.pageSize ∧ options.pageSize < (entries.drop start).length
  · have hpage : pageFrom entries start options.pageSize = _ := if_pos h
    have hlength := h.2
    rw [List.length_drop] at hlength
    refine Or.inr ⟨h.1, by omega, ?_⟩
    rw [paginate_of_start entries selector hstart, hpage]
  · have hpage : pageFrom entries start options.pageSize = _ := if_neg h
    rw [List.length_drop] at h
    refine Or.inl ⟨by omega, ?_⟩
    rw [paginate_of_start entries selector hstart, hpage]

/-- A request is answered only if its offset can be read. -/
theorem start_of_paginate {entries : List α} {options : ListOptions} {selector : Selector}
    {part : ListPart α} (h : paginate entries options selector = .ok part) :
    ∃ start, options.start = .ok start := by
  cases hstart : options.start with
  | ok start => exact ⟨start, rfl⟩
  | error e =>
      simp only [paginate, hstart] at h
      cases h

/-- A token lies behind the offset of the request it answers and before the end of the list. -/
theorem token_advances {entries : List α} {options : ListOptions} {selector : Selector}
    {part : ListPart α} {token : String} (hsize : entries.length ≤ maxOffset)
    (hpart : paginate entries options selector = .ok part)
    (htoken : part.continueToken = some token) :
    ∃ start next, options.start = .ok start ∧ decodeContinue token = .ok next ∧
      start < next ∧ next < entries.length := by
  obtain ⟨start, hstart⟩ := start_of_paginate hpart
  rcases paginate_cases entries selector hstart with ⟨-, hanswer⟩ | ⟨hlimit, hbefore, hanswer⟩
  · rw [hanswer] at hpart
    cases hpart
    cases htoken
  · rw [hanswer] at hpart
    cases hpart
    cases htoken
    exact ⟨start, start + options.pageSize, hstart, decode_encode_continue (by omega),
      by omega, hbefore⟩

/-- `Pages entries selector requests token parts` says that a caller who asks with the options
`requests 0`, `requests 1` and so on, the first time with this token and then with the token of
the page before, gets these parts, of which only the last has no token. -/
inductive Pages (entries : List α) (selector : Selector) :
    (Nat → ListOptions) → Option String → List (ListPart α) → Prop where
  | last {requests token part} :
      paginate entries { requests 0 with continueToken := token } selector = .ok part →
      part.continueToken = none →
      Pages entries selector requests token [part]
  | more {requests token part next parts} :
      paginate entries { requests 0 with continueToken := token } selector = .ok part →
      part.continueToken = some next →
      Pages entries selector (fun n => requests (n + 1)) (some next) parts →
      Pages entries selector requests token (part :: parts)

/-- The pages that a caller gets are determined by what the caller asks for. -/
theorem Pages.unique {entries : List α} {selector : Selector} {requests : Nat → ListOptions}
    {token : Option String} {parts others : List (ListPart α)}
    (h : Pages entries selector requests token parts)
    (hother : Pages entries selector requests token others) : others = parts := by
  induction h generalizing others with
  | last hpart hlast =>
      cases hother with
      | last hpart' _ =>
          rw [hpart] at hpart'
          cases hpart'
          rfl
      | more hpart' hnext' _ =>
          rw [hpart] at hpart'
          cases hpart'
          rw [hlast] at hnext'
          cases hnext'
  | more hpart hnext _ ih =>
      cases hother with
      | last hpart' hlast' =>
          rw [hpart] at hpart'
          cases hpart'
          rw [hnext] at hlast'
          cases hlast'
      | more hpart' hnext' hrest' =>
          rw [hpart] at hpart'
          cases hpart'
          rw [hnext] at hnext'
          cases hnext'
          rw [ih hrest']

/-- From a token that stands for an offset, the run ends after at most one page for each entry that
is left, and its pages make up the filtered rest of the list. The induction is on the number of
entries that are left; a page with a token leaves fewer. -/
theorem pages_from (entries : List α) (selector : Selector) (hsize : entries.length ≤ maxOffset)
    (requests : Nat → ListOptions) (token : Option String) (start : Nat)
    (htoken : ∀ options : ListOptions, options.continueToken = token → options.start = .ok start) :
    ∃ parts, Pages entries selector requests token parts ∧
      parts.length ≤ max 1 (entries.length - start) ∧
      parts.flatMap (·.items) = (entries.drop start).filter selector.selects := by
  obtain ⟨left, hleft⟩ : ∃ left, entries.length - start = left := ⟨_, rfl⟩
  induction left using Nat.strongRecOn generalizing requests token start with
  | ind left ih =>
    have hstart := htoken { requests 0 with continueToken := token } rfl
    rcases paginate_cases entries selector hstart with ⟨-, hanswer⟩ | ⟨hlimit, hbefore, hanswer⟩
    · exact ⟨_, .last hanswer rfl, Nat.le_max_left 1 _, List.flatMap_singleton _ _⟩
    · -- The next request starts behind this page, so that fewer entries are left to it.
      obtain ⟨size, hsizeOf⟩ : ∃ size, (requests 0).pageSize = size := ⟨_, rfl⟩
      change 0 < (requests 0).pageSize at hlimit
      change start + (requests 0).pageSize < entries.length at hbefore
      obtain ⟨parts, hparts, hlength, hitems⟩ := ih (entries.length - (start + size)) (by omega)
        (fun n => requests (n + 1)) (some (encodeContinue (start + size))) (start + size)
        (fun options hoptions => ListOptions.start_of_token hoptions (by omega)) rfl
      subst hsizeOf
      refine ⟨_, .more hanswer rfl hparts, ?_, ?_⟩
      · rw [List.length_cons]
        omega
      · calc
          _ = ((entries.drop start).take (requests 0).pageSize).filter selector.selects ++
                (entries.drop (start + (requests 0).pageSize)).filter selector.selects := by
              rw [List.flatMap_cons, hitems]
              rfl
          _ = (entries.drop start).filter selector.selects := by
              rw [← List.filter_append, ← List.drop_drop, List.take_append_drop]

/-- Following the tokens from the beginning ends after at most one request for each entry, one
request for an empty list, and the pages make up the filtered list: every selected entry once, in
order. Every token that is handed out stands for an offset behind that of the request it answers
and before the end of the list. One page holds what the selector selects of the rest of the list,
or of as many entries as the limit says where more are left. A list in memory has at most
`maxOffset` entries. -/
theorem following_tokens_lists_entries (entries : List α) (selector : Selector)
    (hsize : entries.length ≤ maxOffset) :
    (∀ requests : Nat → ListOptions, ∃ parts, Pages entries selector requests none parts ∧
      (∀ others, Pages entries selector requests none others → others = parts) ∧
      parts.length ≤ max 1 entries.length ∧
      parts.flatMap (·.items) =
        entries.filter fun entry => selector.holds (CatalogEntry.labels entry)) ∧
    (∀ (options : ListOptions) (part : ListPart α) (token : String),
      paginate entries options selector = .ok part → part.continueToken = some token →
      ∃ start next, options.start = .ok start ∧ decodeContinue token = .ok next ∧
        start < next ∧ next < entries.length) ∧
    ∀ (options : ListOptions) (start : Nat), options.start = .ok start →
      (options.pageSize = 0 ∨ entries.length ≤ start + options.pageSize) ∧
          paginate entries options selector =
            .ok ⟨(entries.drop start).filter fun entry =>
              selector.holds (CatalogEntry.labels entry), none⟩ ∨
        0 < options.pageSize ∧ start + options.pageSize < entries.length ∧
          paginate entries options selector =
            .ok ⟨((entries.drop start).take options.pageSize).filter fun entry =>
              selector.holds (CatalogEntry.labels entry),
              some (encodeContinue (start + options.pageSize))⟩ := by
  refine ⟨fun requests => ?_, fun options part token hpart htoken =>
    token_advances hsize hpart htoken, fun options start hstart =>
    paginate_cases entries selector hstart⟩
  obtain ⟨parts, hparts, hlength, hitems⟩ := pages_from entries selector hsize requests none 0
    (fun options hoptions => ListOptions.start_of_no_token hoptions)
  exact ⟨parts, hparts, fun others hothers => hparts.unique hothers, hlength, hitems⟩

/-- The descriptors of one group, asked for with limits that grow from page to page. The second page
is made from two entries behind the first one. -/
theorem standard_descriptors_pages :
    standardDescriptors.entries.length ≤ maxOffset ∧
      (∃ parts, Pages standardDescriptors.entries ⟨[⟨"k8s.io/group", .equals, ["apps"]⟩]⟩
          (fun n => { limit := some (n + 1) }) none parts ∧
        parts.length ≤ max 1 standardDescriptors.entries.length ∧
        parts.flatMap (·.items) = standardDescriptors.entries.filter fun entry =>
          Selector.holds ⟨[⟨"k8s.io/group", .equals, ["apps"]⟩]⟩ (CatalogEntry.labels entry)) ∧
      ListOptions.start { limit := some 2, continueToken := some "1" } = .ok 1 ∧
      paginate standardDescriptors.entries { limit := some 2, continueToken := some "1" }
          ⟨[⟨"k8s.io/group", .equals, ["apps"]⟩]⟩ =
        .ok ⟨((standardDescriptors.entries.drop 1).take 2).filter fun entry =>
          Selector.holds ⟨[⟨"k8s.io/group", .equals, ["apps"]⟩]⟩ (CatalogEntry.labels entry),
          some (encodeContinue 3)⟩ := by
  have hsize : standardDescriptors.entries.length ≤ maxOffset := by decide
  have hlists := following_tokens_lists_entries standardDescriptors.entries
    ⟨[⟨"k8s.io/group", .equals, ["apps"]⟩]⟩ hsize
  obtain ⟨parts, hparts, _, hlength, hitems⟩ := hlists.1 fun n => { limit := some (n + 1) }
  have hstart : ListOptions.start { limit := some 2, continueToken := some "1" } = .ok 1 := rfl
  rcases hlists.2.2 _ 1 hstart with ⟨hall, -⟩ | ⟨-, -, hpage⟩
  · exact absurd hall (by decide)
  · exact ⟨hsize, ⟨parts, hparts, hlength, hitems⟩, hstart, hpage⟩

end VirtualApi

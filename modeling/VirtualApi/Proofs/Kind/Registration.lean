import Mathlib.Data.List.Induction
import VirtualApi.Proofs.Kind.Addressing

/-!
# Registering kinds one after the other

A kind that is registered is accepted, or refused because an accepted one has the same text. Read
`register_each_single` first: it says what one call does. By induction over the calls the registry
holds the accepted kinds and nothing else, and every spelling stands for the first of them that has
it (`of_calls_holds`). The main theorem, `first_accepted_is_found`, says both of any sequence of
calls, with refused ones anywhere between.
-/

namespace VirtualApi

namespace Kind

/-- What a kind is called: its plural, its singular, or its plural within its group if it has
one. -/
inductive Spelling (kind : Kind) : String → Prop
  | plural : kind.Spelling kind.plural
  | singular : kind.Spelling kind.singular
  | inGroup (hgroup : kind.gvk.group ≠ "") : kind.Spelling (kind.plural ++ "." ++ kind.gvk.group)

/-- The spellings that are registered are what the kind is called. -/
theorem mem_spellings_iff {kind : Kind} {word : String} :
    word ∈ kind.spellings ↔ kind.Spelling word := by
  constructor
  · intro h
    rcases List.mem_append.mp h with h | h
    · rcases List.mem_cons.mp h with rfl | h
      · exact .plural
      · cases List.mem_singleton.mp h
        exact .singular
    · split at h
      · cases h
      · next hgroup =>
          cases List.mem_singleton.mp h
          exact .inGroup hgroup
  · intro h
    cases h with
    | plural => simp [spellings]
    | singular => simp [spellings]
    | inGroup hgroup => simp [spellings, hgroup]

end Kind

namespace Registry

variable {registry : Registry} {kind : Kind} {calls : List Kind} {name : String}

/-! ## Calls and their answers -/

/-- The answers to calls on a registry that was empty at first, in their order. -/
def answers (calls : List Kind) : List (ApiResult Unit) := (registerEach {} calls).1

/-- The registry after these calls. -/
def ofCalls (calls : List Kind) : Registry := (registerEach {} calls).2

/-- The kinds of the calls that were answered without an error, in their order. -/
def accepted (calls : List Kind) : List Kind :=
  ((calls.zip (answers calls)).filter fun call => call.2.isOk).map Prod.fst

/-- One call is refused and leaves the registry as it is when a registered kind has the same text,
and otherwise it adds the kind at the end. -/
theorem register_each_single (registry : Registry) (kind : Kind) :
    ((∃ earlier ∈ registry.kinds, earlier.gvk.key = kind.gvk.key) ∧
      registry.registerEach [kind] =
        ([.error (.internal ("kind " ++ kind.gvk.key ++ " registered twice"))], registry)) ∨
    ((∀ earlier ∈ registry.kinds, earlier.gvk.key ≠ kind.gvk.key) ∧
      ∃ next, registry.registerEach [kind] = ([.ok ()], next) ∧
        next.kinds = registry.kinds ++ [kind] ∧ (registry.Indexed → next.Indexed)) := by
  cases hregister : registry.register kind with
  | ok next =>
      refine Or.inr ⟨key_ne_of_register hregister, next, ?_, (register_eq_ok hregister).1,
        register_indexed hregister⟩
      simp only [registerEach, hregister]
  | error e =>
      left
      have heach : registry.registerEach [kind] = ([.error e], registry) := by
        simp only [registerEach, hregister]
      unfold register at hregister
      split at hregister
      · next hcontains =>
          obtain ⟨earlier, hearlier, hkey⟩ := List.any_eq_true.mp hcontains
          cases hregister
          exact ⟨⟨earlier, hearlier, of_decide_eq_true hkey⟩, heach⟩
      · cases hregister

/-- Calls that come later are made on the registry that the first ones left. -/
theorem register_each_append (registry : Registry) (first second : List Kind) :
    registry.registerEach (first ++ second) =
      ((registry.registerEach first).1 ++ ((registry.registerEach first).2.registerEach second).1,
        ((registry.registerEach first).2.registerEach second).2) := by
  induction first generalizing registry with
  | nil => rfl
  | cons kind rest ih =>
      simp only [List.cons_append, registerEach]
      cases registry.register kind with
      | ok next => simp only [ih, List.cons_append]
      | error e => simp only [ih, List.cons_append]

/-- Every call is answered. -/
theorem length_register_each (registry : Registry) (calls : List Kind) :
    (registry.registerEach calls).1.length = calls.length := by
  induction calls generalizing registry with
  | nil => rfl
  | cons kind rest ih =>
      simp only [registerEach]
      cases registry.register kind with
      | ok next => simp only [List.length_cons, ih]
      | error e => simp only [List.length_cons, ih]

/-- The answer to one more call is that of the registry before it. -/
theorem answers_concat (calls : List Kind) (kind : Kind) :
    answers (calls ++ [kind]) = answers calls ++ ((ofCalls calls).registerEach [kind]).1 := by
  unfold answers ofCalls
  rw [register_each_append]

/-- The registry after one more call. -/
theorem of_calls_concat (calls : List Kind) (kind : Kind) :
    ofCalls (calls ++ [kind]) = ((ofCalls calls).registerEach [kind]).2 := by
  unfold ofCalls
  rw [register_each_append]

/-- The kind of one more call is accepted when the answer is no error. -/
theorem accepted_concat {answer : ApiResult Unit}
    (h : ((ofCalls calls).registerEach [kind]).1 = [answer]) :
    accepted (calls ++ [kind]) = accepted calls ++ if answer.isOk then [kind] else [] := by
  have hlength : calls.length = (answers calls).length := (length_register_each {} calls).symm
  unfold accepted
  rw [answers_concat, h, List.zip_append hlength, List.filter_append, List.map_append]
  cases answer <;> rfl

/-- Among other calls a call is answered as on the registry that the calls before it left. -/
theorem answer_of_call {before : List Kind} {answer : ApiResult Unit}
    (h : ((ofCalls before).registerEach [kind]).1 = [answer]) (rest : List Kind) :
    (answers (before ++ kind :: rest))[before.length]? = some answer := by
  have hlength : (answers before).length = before.length := length_register_each {} before
  have hanswers : answers (before ++ kind :: rest) =
      answers (before ++ [kind]) ++ ((ofCalls (before ++ [kind])).registerEach rest).1 := by
    rw [List.append_cons]
    unfold answers ofCalls
    rw [register_each_append]
  rw [hanswers, answers_concat, h, List.append_assoc,
    List.getElem?_append_right (Nat.le_of_eq hlength), hlength, Nat.sub_self]
  rfl

/-! ## What the registry holds -/

/-- The registry holds the accepted kinds in their order, each spelling standing for the first of
them that has it. -/
theorem of_calls_holds (calls : List Kind) :
    (ofCalls calls).kinds = accepted calls ∧ (ofCalls calls).Indexed := by
  induction calls using List.reverseRecOn with
  | nil => exact ⟨rfl, fun _ => rfl, List.Pairwise.nil⟩
  | append_singleton calls kind ih =>
      obtain ⟨hkinds, hindexed⟩ := ih
      rw [of_calls_concat]
      rcases register_each_single (ofCalls calls) kind with
        ⟨-, heach⟩ | ⟨-, next, heach, hnext, hkept⟩
      · rw [heach, accepted_concat (congrArg Prod.fst heach)]
        refine ⟨?_, hindexed⟩
        simpa [Except.isOk, Except.toBool] using hkinds
      · rw [heach, accepted_concat (congrArg Prod.fst heach)]
        refine ⟨?_, hkept hindexed⟩
        rw [hnext, hkinds]
        rfl

/-- A name that no accepted kind has for a spelling finds nothing. -/
theorem lookup_eq_error (h : ∀ kind ∈ accepted calls, ¬ kind.Spelling (Text.asciiLower name)) :
    (ofCalls calls).lookup name =
      .error (.badRequest ("the server doesn't have a resource type " ++ Text.quoted name)) := by
  obtain ⟨hkinds, hindexed⟩ := of_calls_holds calls
  have hnone : (ofCalls calls).names.lookup (Text.asciiLower name) = none := by
    rw [hindexed.first, hkinds, List.find?_eq_none]
    intro kind hkind hspelling
    exact h kind hkind (Kind.mem_spellings_iff.mp (List.contains_iff_mem.mp hspelling))
  unfold lookup
  rw [hnone]

/-- A name finds the first accepted kind that has it for a spelling, in letters of either case. -/
theorem lookup_eq_ok_iff :
    (ofCalls calls).lookup name = .ok kind ↔
      ∃ before rest, accepted calls = before ++ kind :: rest ∧
        kind.Spelling (Text.asciiLower name) ∧
        ∀ earlier ∈ before, ¬ earlier.Spelling (Text.asciiLower name) := by
  obtain ⟨hkinds, hindexed⟩ := of_calls_holds calls
  rw [hindexed.lookup_eq_ok_iff, hkinds, List.find?_eq_some_iff_append]
  simp only [← Kind.mem_spellings_iff, List.contains_iff_mem, Bool.not_eq_true',
    ← Bool.not_eq_true]
  constructor
  · intro ⟨hspelling, before, rest, haccepted, hnew⟩
    exact ⟨before, rest, haccepted, hspelling, hnew⟩
  · intro ⟨before, rest, haccepted, hspelling, hnew⟩
    exact ⟨hspelling, before, rest, haccepted, hnew⟩

/-- Of any calls to register kinds, exactly those are refused whose kind has the same text as one
that was accepted before, and a refused call leaves the registry as it was, so that no list, no
number and no look-up tells that it was made. The registry lists the accepted kinds in their order,
and every name finds the first of them that it spells, in letters of either case, or is refused when
it spells none. -/
theorem first_accepted_is_found (calls : List Kind) :
    (∀ before kind rest, calls = before ++ kind :: rest →
      ∃ answer, (answers calls)[before.length]? = some answer ∧
        ((∃ e, answer = .error e) ↔
          ∃ earlier ∈ accepted before, earlier.gvk.key = kind.gvk.key) ∧
        ∀ e, answer = .error e →
          e = .internal ("kind " ++ kind.gvk.key ++ " registered twice") ∧
          ofCalls (before ++ [kind]) = ofCalls before) ∧
    (ofCalls calls).kinds = accepted calls ∧
    (ofCalls calls).size = (accepted calls).length ∧
    ∀ name,
      (∀ kind, (ofCalls calls).lookup name = .ok kind ↔
        ∃ before rest, accepted calls = before ++ kind :: rest ∧
          kind.Spelling (Text.asciiLower name) ∧
          ∀ earlier ∈ before, ¬ earlier.Spelling (Text.asciiLower name)) ∧
      ((∀ kind ∈ accepted calls, ¬ kind.Spelling (Text.asciiLower name)) →
        (ofCalls calls).lookup name = .error
          (.badRequest ("the server doesn't have a resource type " ++ Text.quoted name))) := by
  have hkinds := (of_calls_holds calls).1
  refine ⟨?_, hkinds, congrArg List.length hkinds, ?_⟩
  · intro before kind rest hcalls
    rw [hcalls, ← (of_calls_holds before).1]
    rcases register_each_single (ofCalls before) kind with
      ⟨hsame, heach⟩ | ⟨hnew, next, heach, -, -⟩
    · refine ⟨_, answer_of_call (congrArg Prod.fst heach) rest,
        ⟨fun _ => hsame, fun _ => ⟨_, rfl⟩⟩, ?_⟩
      intro e he
      cases he
      refine ⟨rfl, ?_⟩
      rw [of_calls_concat, heach]
    · refine ⟨_, answer_of_call (congrArg Prod.fst heach) rest, ⟨?_, ?_⟩, nofun⟩
      · intro ⟨e, he⟩
        cases he
      · intro ⟨earlier, hmem, hkey⟩
        exact absurd hkey (hnew earlier hmem)
  · intro name
    exact ⟨fun kind => lookup_eq_ok_iff, lookup_eq_error⟩

/-- Gadgets are registered, once more in vain, and again in another group: the second call is
refused, the short name stays with the first kind, and the full name of the other one finds it. -/
theorem gadgets_registered_again :
    accepted [gadget "v1", gadget "v1", otherGadget] = [gadget "v1", otherGadget] ∧
    (∃ answer, (answers [gadget "v1", gadget "v1", otherGadget])[1]? = some answer ∧
      (∃ e, answer = .error e) ∧
      ofCalls ([gadget "v1"] ++ [gadget "v1"]) = ofCalls [gadget "v1"]) ∧
    (ofCalls [gadget "v1", gadget "v1", otherGadget]).lookup "Gadgets" = .ok (gadget "v1") ∧
    (ofCalls [gadget "v1", gadget "v1", otherGadget]).lookup "gadgets.other.dev" =
      .ok otherGadget := by
  have haccepted : accepted [gadget "v1", gadget "v1", otherGadget] =
      [gadget "v1", otherGadget] := rfl
  obtain ⟨hcalls, -, -, hnames⟩ :=
    first_accepted_is_found [gadget "v1", gadget "v1", otherGadget]
  obtain ⟨answer, hanswer, hrefused, hkept⟩ := hcalls [gadget "v1"] (gadget "v1") [otherGadget] rfl
  have herror : ∃ e, answer = .error e := hrefused.mpr ⟨gadget "v1", List.mem_cons_self, rfl⟩
  refine ⟨haccepted, ⟨answer, hanswer, herror, ?_⟩, ?_, ?_⟩
  · obtain ⟨e, he⟩ := herror
    exact (hkept e he).2
  · refine ((hnames "Gadgets").1 (gadget "v1")).mpr ⟨[], [otherGadget], haccepted, ?_, nofun⟩
    exact Kind.mem_spellings_iff.mp (by decide)
  · refine ((hnames "gadgets.other.dev").1 otherGadget).mpr
      ⟨[gadget "v1"], [], haccepted, Kind.mem_spellings_iff.mp (by decide), ?_⟩
    intro earlier hearlier
    rw [List.mem_singleton.mp hearlier, ← Kind.mem_spellings_iff]
    decide

end Registry

end VirtualApi

import LineShell.Completion
import LineShell.Proofs.ByteOrder
import LineShell.Proofs.Segmentation
import Mathlib.Data.List.DropRight

/-!
# What completion offers

The word being typed is the longest end of the text before the cursor that is free of white space
and quote characters (`Completion.IsLastWord`); a text has only one such end, and `splitWord` finds
it (`Completion.splitWord_spec`).

The names that are offered are sorted, and repetitions are next to one another then, so that leaving
out a name that repeats the one kept before it leaves every name in once
(`Completion.dropRepeats_spec`).
-/

namespace LineShell.Completion

variable {before word : List Char} {a last : Candidate} {found : List Candidate}

/-! ### The word before the cursor -/

/-- A word is the longest end of a text that is free of white space and quote characters. -/
structure IsLastWord (word before : List Char) : Prop where
  suffix : word <:+ before
  free : ∀ c ∈ word, Text.isBlank c = false ∧ c ≠ '\x27' ∧ c ≠ '\x22'
  longest : ∀ other, other <:+ before →
    (∀ c ∈ other, Text.isBlank c = false ∧ c ≠ '\x27' ∧ c ≠ '\x22') → other <:+ word

/-- What does not end a word. -/
lemma isWordEnd_eq_false_iff {c : Char} :
    isWordEnd c = false ↔ Text.isBlank c = false ∧ c ≠ '\x27' ∧ c ≠ '\x22' := by
  simp [isWordEnd, Word.isQuote, Word.singleQuote, Word.doubleQuote]

/-- The characters before the word, and those of the word. -/
lemma splitWord_eq (before : List Char) :
    splitWord before = (before.rdropWhile (!isWordEnd ·), before.rtakeWhile (!isWordEnd ·)) := by
  obtain ⟨earlier, hearlier⟩ : ∃ earlier, earlier = before.rdropWhile (!isWordEnd ·) := ⟨_, rfl⟩
  obtain ⟨word, hword⟩ : ∃ word, word = before.rtakeWhile (!isWordEnd ·) := ⟨_, rfl⟩
  have hbefore : before = earlier ++ word := by
    rw [hearlier, hword, List.rdropWhile_append_rtakeWhile]
  change (before.take (before.length - (before.rtakeWhile (!isWordEnd ·)).length),
    before.rtakeWhile (!isWordEnd ·)) = _
  rw [← hearlier, ← hword, hbefore, List.length_append, Nat.add_sub_cancel, List.take_left]

/-- The word being typed is split off the text before it. -/
lemma splitWord_spec (before : List Char) :
    before = (splitWord before).1 ++ (splitWord before).2 ∧
      IsLastWord (splitWord before).2 before := by
  rw [splitWord_eq]
  refine ⟨List.rdropWhile_append_rtakeWhile.symm, (List.rtakeWhile_suffix _ before :), ?_, ?_⟩
  · intro c hc
    have hfree := List.mem_rtakeWhile_imp hc
    exact isWordEnd_eq_false_iff.1 (by simpa using hfree)
  · rintro other ⟨rest, rfl⟩ hother
    have hfree : ∀ c ∈ other.reverse, (!isWordEnd c) = true := by
      intro c hc
      rw [isWordEnd_eq_false_iff.2 (hother c (List.mem_reverse.1 hc))]
      rfl
    refine ⟨(rest.reverse.takeWhile (!isWordEnd ·)).reverse, ?_⟩
    rw [List.rtakeWhile, List.reverse_append, List.takeWhile_append_of_pos hfree,
      List.reverse_append, List.reverse_reverse]

/-! ### Names in order -/

/-- A name is found if it begins with the word, and it is shown as it is. -/
lemma mem_matching {names : List String} : a ∈ matching word names ↔
    a.display = a.replacement ∧ word <+: a.replacement.toList ∧ a.replacement ∈ names := by
  obtain ⟨display, replacement⟩ := a
  simp only [matching, List.mem_map, List.mem_filter, Text.isSome_after?_iff, Candidate.mk.injEq]
  constructor
  · rintro ⟨name, ⟨hname, hword⟩, rfl, rfl⟩
    exact ⟨rfl, hword, hname⟩
  · rintro ⟨rfl, hword, hname⟩
    exact ⟨_, ⟨hname, hword⟩, rfl, rfl⟩

/-- Names of commands are found for the first word of a line, and those of macros for every word. -/
lemma mem_candidates {earlier : List Char} {commands macros : List String} :
    a ∈ candidates earlier word commands macros ↔
      a.display = a.replacement ∧ word <+: a.replacement.toList ∧
        (a.replacement ∈ macros ∨
          (∀ c ∈ earlier, Text.isBlank c = true) ∧ a.replacement ∈ commands) := by
  rw [← List.all_eq_true]
  cases hblank : earlier.all Text.isBlank with
  | true =>
    rw [candidates, if_pos hblank, List.mem_append, mem_matching, mem_matching, ← and_or_left,
      ← and_or_left]
    simp [or_comm]
  | false =>
    rw [candidates, if_neg (by simp [hblank]), mem_matching]
    simp

/-- Nothing is added when repetitions are left out. -/
lemma dropRepeatsOf_sublist (last : Candidate) (found : List Candidate) :
    (dropRepeatsOf last found).Sublist found := by
  induction found generalizing last with
  | nil => exact List.Sublist.slnil
  | cons next rest ih =>
    unfold dropRepeatsOf
    split
    · exact (ih last).cons next
    · exact (ih next).cons_cons next

/-- What has been left out repeats a name that is kept. -/
lemma mem_names_dropRepeatsOf {name : String} (last : Candidate) (found : List Candidate) :
    name ∈ (last :: dropRepeatsOf last found).map (·.replacement) ↔
      name ∈ (last :: found).map (·.replacement) := by
  induction found generalizing last with
  | nil => rfl
  | cons next rest ih =>
    unfold dropRepeatsOf
    split
    · next hsame =>
      rw [ih last]
      simp [hsame]
    · rw [List.map_cons, List.mem_cons, ih next]
      simp

/-- Names in ascending order are in strictly ascending order once repetitions are left out. -/
lemma pairwise_dropRepeatsOf
    (h : (last :: found).Pairwise fun a b => a.replacement ≤ b.replacement) :
    (last :: dropRepeatsOf last found).Pairwise fun a b => a.replacement < b.replacement := by
  induction found generalizing last with
  | nil => exact List.pairwise_singleton _ _
  | cons next rest ih =>
    obtain ⟨hlast, hnext⟩ := List.pairwise_cons.1 h
    obtain ⟨hle, hrest⟩ := List.forall_mem_cons.1 hlast
    unfold dropRepeatsOf
    split
    · exact ih (List.pairwise_cons.2 ⟨hrest, (List.pairwise_cons.1 hnext).2⟩)
    · next hdiffers =>
      have hlt : last.replacement < next.replacement := lt_of_le_of_ne hle (Ne.symm hdiffers)
      have hkept := ih hnext
      refine List.pairwise_cons.2 ⟨List.forall_mem_cons.2 ⟨hlt, fun b hb => ?_⟩, hkept⟩
      exact hlt.trans ((List.pairwise_cons.1 hkept).1 b hb)

/-- Each name is left in once, and in order. -/
lemma dropRepeats_spec (h : found.Pairwise fun a b => a.replacement ≤ b.replacement) :
    ((dropRepeats found).Pairwise fun a b => a.replacement < b.replacement) ∧
      (dropRepeats found).Sublist found ∧
      ∀ name, name ∈ (dropRepeats found).map (·.replacement) ↔
        name ∈ found.map (·.replacement) := by
  cases found with
  | nil => exact ⟨.nil, .slnil, fun _ => Iff.rfl⟩
  | cons first rest =>
    exact ⟨pairwise_dropRepeatsOf h, (dropRepeatsOf_sublist first rest).cons_cons first,
      fun _ => mem_names_dropRepeatsOf first rest⟩

/-- Candidates are sorted by what they put in. -/
lemma pairwise_sorted (found : List Candidate) :
    (found.mergeSort fun a b => decide (a.replacement ≤ b.replacement)).Pairwise
      fun a b => a.replacement ≤ b.replacement := by
  have htrans (a b c : Candidate) : decide (a.replacement ≤ b.replacement) = true →
      decide (b.replacement ≤ c.replacement) = true →
      decide (a.replacement ≤ c.replacement) = true := fun hab hbc =>
    decide_eq_true ((of_decide_eq_true hab).trans (of_decide_eq_true hbc))
  have htotal (a b : Candidate) : (decide (a.replacement ≤ b.replacement) ||
      decide (b.replacement ≤ a.replacement)) = true := by
    simpa using le_total a.replacement b.replacement
  exact (List.pairwise_mergeSort htrans htotal found).imp of_decide_eq_true

/-! ### Offers -/

/-- Without a word nothing is offered. -/
lemma offer_of_eq_nil {commands macros : List String} (h : (splitWord before).2 = []) :
    offer before commands macros = ⟨Text.byteCount before, []⟩ := by
  simp only [offer, h, List.isEmpty_nil, if_true]

/-- For a word the names that begin with it are offered, sorted and without repetitions. -/
lemma offer_of_ne_nil {commands macros : List String} (h : (splitWord before).2 ≠ []) :
    offer before commands macros = ⟨Text.byteCount (splitWord before).1,
      dropRepeats ((candidates (splitWord before).1 (splitWord before).2 commands macros).mergeSort
        fun a b => decide (a.replacement ≤ b.replacement))⟩ := by
  simp only [offer, List.isEmpty_iff, h, if_false]

/-- What is offered begins with the word; each name is offered once, and in the order of names. -/
lemma offer_spec (before : List Char) (commands macros : List String) :
    (offer before commands macros).start = Text.byteCount (splitWord before).1 ∧
      (∀ a ∈ (offer before commands macros).candidates, a.display = a.replacement) ∧
      ((offer before commands macros).names.Pairwise (· < ·)) ∧
      ∀ name, name ∈ (offer before commands macros).names ↔ (splitWord before).2 ≠ [] ∧
        (splitWord before).2 <+: name.toList ∧ (name ∈ macros ∨
          (∀ c ∈ (splitWord before).1, Text.isBlank c = true) ∧ name ∈ commands) := by
  obtain ⟨hbefore, -⟩ := splitWord_spec before
  by_cases hword : (splitWord before).2 = []
  · rw [offer_of_eq_nil hword]
    rw [hword, List.append_nil] at hbefore
    refine ⟨congrArg Text.byteCount hbefore, by simp, .nil, ?_⟩
    simp [hword, Offer.names]
  · rw [offer_of_ne_nil hword]
    generalize splitWord before = parts at hword ⊢
    obtain ⟨earlier, word⟩ := parts
    obtain ⟨hpairwise, hsublist, hnames⟩ :=
      dropRepeats_spec (pairwise_sorted (candidates earlier word commands macros))
    refine ⟨rfl, fun a ha => ?_, List.pairwise_map.2 hpairwise, fun name => ?_⟩
    · exact (mem_candidates.1 (List.mem_mergeSort.1 (hsublist.subset ha))).1
    · rw [Offer.names, hnames, List.mem_map]
      simp only [List.mem_mergeSort, mem_candidates]
      constructor
      · rintro ⟨a, ⟨-, hfound⟩, rfl⟩
        exact ⟨hword, hfound⟩
      · rintro ⟨-, hfound⟩
        exact ⟨⟨name, name⟩, ⟨rfl, hfound⟩, rfl⟩

/-- At the end of a part of a line the word at the end of that part is completed. -/
lemma complete?_append (before after : String) (commands macros : List String) :
    complete? (before ++ after) (some before.utf8ByteSize) commands macros =
      some (offer before.toList commands macros) := by
  rw [complete?, Option.getD_some, ← Text.byteCount_toList, String.toList_append,
    Text.takeBytes?_append]
  rfl

/-- At every position of a line that is not inside a character something is offered for the word
before it, which is the longest end of the text before the position that is free of white space and
quote characters.  The offer begins where the word begins.  What is offered are the names of macros
that begin with the word, together with the names of commands that do if only white space comes
before the word; for the empty word there is nothing.  All names are shown as they are, and stand in
strictly ascending order of their bytes, so that none is offered twice. -/
theorem complete_offers_matching_names {line : String} {position : Nat}
    (h : (String.Pos.Raw.mk position).IsValid line) (commands macros : List String) :
    ∃ earlier word after offered, line = earlier ++ word ++ after ∧
      IsLastWord word.toList (earlier ++ word).toList ∧
      complete? line (some position) commands macros = some offered ∧
      offered.start = earlier.utf8ByteSize ∧ offered.start + word.utf8ByteSize = position ∧
      (∀ a ∈ offered.candidates, a.display = a.replacement) ∧
      (offered.names.Pairwise fun a b => Text.bytes a < Text.bytes b) ∧
      ∀ name, name ∈ offered.names ↔ word ≠ "" ∧ word.toList <+: name.toList ∧
        (name ∈ macros ∨
          (∀ c ∈ earlier.toList, Text.isBlank c = true) ∧ name ∈ commands) := by
  obtain ⟨before, after, rfl, hposition⟩ := String.Pos.Raw.isValid_iff_exists_append.1 h
  obtain rfl : position = before.utf8ByteSize := congrArg String.Pos.Raw.byteIdx hposition
  obtain ⟨hsplit, hlast⟩ := splitWord_spec before.toList
  obtain ⟨hstart, hshown, hsorted, hnames⟩ := offer_spec before.toList commands macros
  generalize splitWord before.toList = parts at *
  obtain ⟨earlier, word⟩ := parts
  obtain rfl : before = String.ofList earlier ++ String.ofList word := by
    rw [← String.ofList_append, ← hsplit, String.ofList_toList]
  refine ⟨String.ofList earlier, String.ofList word, after, _, rfl, ?_,
    complete?_append _ after commands macros, ?_, ?_, hshown, ?_, ?_⟩
  · simpa using hlast
  · rw [hstart, ← Text.byteCount_toList, String.toList_ofList]
  · rw [hstart, String.utf8ByteSize_append, ← Text.byteCount_toList (String.ofList word),
      ← Text.byteCount_toList (String.ofList earlier), String.toList_ofList, String.toList_ofList]
  · exact hsorted.imp Text.bytes_lt_bytes_iff.2
  · simpa using hnames

/-- The cursor is behind a letter of two bytes, and both lists are out of order and hold the same
name. -/
theorem complete_offers_matching_names_after_accent :
    (String.Pos.Raw.mk 8).IsValid "'é' pü x" ∧
      ∃ earlier word after offered, "'é' pü x" = earlier ++ word ++ after ∧
        IsLastWord word.toList (earlier ++ word).toList ∧
        complete? "'é' pü x" (some 8) ["püt", "pür"] ["püt", "put", "püt"] = some offered ∧
        offered.start = earlier.utf8ByteSize ∧ offered.start + word.utf8ByteSize = 8 ∧
        (∀ a ∈ offered.candidates, a.display = a.replacement) ∧
        (offered.names.Pairwise fun a b => Text.bytes a < Text.bytes b) ∧
        ∀ name, name ∈ offered.names ↔ word ≠ "" ∧ word.toList <+: name.toList ∧
          (name ∈ ["püt", "put", "püt"] ∨
            (∀ c ∈ earlier.toList, Text.isBlank c = true) ∧ name ∈ ["püt", "pür"]) := by
  have hvalid : (String.Pos.Raw.mk 8).IsValid "'é' pü x" :=
    String.Pos.Raw.isValid_iff_exists_append.2 ⟨"'é' pü", " x", rfl, rfl⟩
  exact ⟨hvalid, complete_offers_matching_names hvalid ["püt", "pür"] ["püt", "put", "püt"]⟩

end LineShell.Completion

import LineShell.Marked
import Mathlib.Data.List.Infix
import Mathlib.Tactic.Common

/-!
# How an ignore span stands in a text

A text is cut into segments from left to right, so where a span stands depends on what comes before
it.  `Marked.segments_around` says what becomes of a span that is written after some text `left`.
If the last segment of `left` is a span without an end marker, then the new span is part of that
one, and both end together; otherwise it is a segment of its own.  In either case its body is
ignored, and what comes after it is cut into segments by itself.

There is one exception.  If `left` ends in an open span whose last character is a closing bracket,
then this bracket and the first character of the start marker make an end marker, and the body is
live text (`Marked.segments_of_hooks`).  Such a text is said to *hook*.
-/

namespace LineShell

/-! ### The first occurrence of a marker -/

namespace Text

variable {a b : Char} {pattern cs p q : List Char}

/-- What follows a beginning is there exactly if the text has that beginning. -/
lemma isSome_after?_iff : (after? pattern cs).isSome = true ↔ pattern <+: cs := by
  rw [Option.isSome_iff_exists]
  simp only [after?_eq_some]
  exact ⟨fun ⟨rest, h⟩ => ⟨rest, h.symm⟩, fun ⟨rest, h⟩ => ⟨rest, h.symm⟩⟩

/-- A pattern occurs in a text if it stands anywhere in it. -/
lemma occurs_iff : occurs pattern cs = true ↔ pattern <:+: cs := by
  induction cs with
  | nil => cases pattern <;> simp [occurs, cut?]
  | cons c cs ih =>
    rw [List.infix_cons_iff, ← isSome_after?_iff, ← ih, occurs, cut?]
    cases after? pattern (c :: cs) with
    | some rest => simp
    | none => simp [occurs]

/-- A pattern that does not occur has no first occurrence. -/
lemma cut?_eq_none_iff : cut? pattern cs = none ↔ occurs pattern cs = false := by
  rw [occurs, Option.isSome_eq_false_iff, Option.isNone_iff_eq_none]

/-- A character at which a pattern does not begin comes before its first occurrence. -/
lemma cut?_cons {c : Char} (h : ¬ pattern <+: c :: cs) :
    cut? pattern (c :: cs) =
      (cut? pattern cs).map fun found => (c :: found.1, found.2) := by
  have hnone : after? pattern (c :: cs) = none := by
    rw [← Option.not_isSome_iff_eq_none, isSome_after?_iff]
    exact h
  rw [cut?, hnone]

/-- A marker of two characters occurs in two texts put together if it occurs in one of them or
stands across their border. -/
lemma occurs_pair_append_eq_false_iff :
    occurs [a, b] (p ++ q) = false ↔
      occurs [a, b] p = false ∧ occurs [a, b] q = false ∧
        ¬ (p.getLast? = some a ∧ q.head? = some b) := by
  simp only [← Bool.not_eq_true, occurs_iff, List.infix_append_iff, not_or]
  refine and_congr_right fun hp => and_congr_right fun hq => not_congr ?_
  constructor
  · rintro ⟨front, back, hsplit, hfront, hback⟩
    match front, hsplit with
    | [], hsplit =>
      obtain rfl : [a, b] = back := hsplit
      exact absurd hback.isInfix hq
    | [c], hsplit =>
      obtain ⟨rfl, rfl⟩ : a = c ∧ [b] = back := by simpa using hsplit
      exact ⟨List.singleton_suffix_iff_getLast?_eq_some.1 hfront,
        List.singleton_prefix_iff_head?_eq_some.1 hback⟩
    | [c, d], hsplit =>
      obtain ⟨rfl, rfl, rfl⟩ : a = c ∧ b = d ∧ back = [] := by simpa using hsplit
      exact absurd hfront.isInfix hp
    | c :: d :: e :: tail, hsplit => simp at hsplit
  · rintro ⟨hlast, hhead⟩
    exact ⟨[a], [b], rfl, List.singleton_suffix_iff_getLast?_eq_some.2 hlast,
      List.singleton_prefix_iff_head?_eq_some.2 hhead⟩

/-- The first occurrence of a marker of two different characters comes right after a text in which
it does not occur. -/
lemma cut?_pair_append (hab : a ≠ b) (h : occurs [a, b] p = false) (rest : List Char) :
    cut? [a, b] (p ++ a :: b :: rest) = some (p, rest) := by
  induction p with
  | nil => simp [cut?, after?]
  | cons c p ih =>
    have hcons : occurs [a, b] ([c] ++ p) = false := h
    rw [occurs_pair_append_eq_false_iff] at hcons
    have hnot : ¬ [a, b] <+: c :: (p ++ a :: b :: rest) := by
      rintro ⟨tail, htail⟩
      cases p with
      | nil => simp_all
      | cons d p =>
        obtain ⟨rfl, rfl, -⟩ : a = c ∧ b = d ∧ _ := by simpa using htail
        exact hcons.2.2 ⟨rfl, rfl⟩
    rw [List.cons_append, cut?_cons hnot, ih hcons.2.1]
    rfl

/-- Before the first occurrence of a marker of two characters there is none. -/
lemma occurs_pair_eq_false_of_cut? {rest : List Char} (h : cut? [a, b] cs = some (p, rest)) :
    occurs [a, b] p = false := by
  induction cs generalizing p with
  | nil => simp [cut?] at h
  | cons c cs ih =>
    rw [cut?] at h
    split at h
    · obtain ⟨rfl, -⟩ := Prod.mk.inj (Option.some.inj h)
      rfl
    · next hnone =>
      obtain ⟨⟨before, tail⟩, hcut, heq⟩ := Option.map_eq_some_iff.1 h
      obtain ⟨rfl, rfl⟩ := Prod.mk.inj heq
      change occurs [a, b] ([c] ++ before) = false
      rw [occurs_pair_append_eq_false_iff]
      refine ⟨by simp [occurs, cut?, after?], ih hcut, ?_⟩
      rintro ⟨hlast, hhead⟩
      -- then the marker would begin the text
      obtain ⟨more, rfl⟩ := List.head?_eq_some_iff.1 hhead
      obtain rfl : c = a := by simpa using hlast
      simp [eq_append_of_cut? hcut, after?] at hnone

/-- The first occurrence of a single character comes right after a text without it. -/
lemma cut?_singleton_iff {rest : List Char} :
    cut? [a] cs = some (p, rest) ↔ a ∉ p ∧ cs = p ++ a :: rest := by
  induction cs generalizing p with
  | nil => simp [cut?]
  | cons c cs ih =>
    by_cases hc : c = a
    · subst hc
      have hcut : cut? [c] (c :: cs) = some ([], cs) := by simp [cut?, after?]
      rw [hcut, Option.some.injEq, Prod.mk.injEq]
      cases p with
      | nil => simp [eq_comm]
      | cons d p => simp +contextual [eq_comm]
    · have hnot : ¬ [a] <+: c :: cs := fun h => hc (List.cons_prefix_cons.1 h).1.symm
      rw [cut?_cons hnot]
      cases p with
      | nil => simp [hc]
      | cons d p =>
        have hmap : (cut? [a] cs).map (fun found => (c :: found.1, found.2)) = some (d :: p, rest) ↔
            c = d ∧ cut? [a] cs = some (p, rest) := by
          cases cut? [a] cs <;> simp [Prod.ext_iff, and_assoc]
        rw [hmap, ih]
        simp only [List.mem_cons, not_or, List.cons_append, List.cons.injEq]
        constructor
        · rintro ⟨rfl, hp, hcs⟩
          exact ⟨⟨fun h => hc h.symm, hp⟩, rfl, hcs⟩
        · rintro ⟨⟨-, hp⟩, hcd, hcs⟩
          exact ⟨hcd, hp, hcs⟩

end Text

namespace Marked

variable {left p q s : List Char}

/-! ### The segments of a text and a span after it -/

/-- The first start marker comes right after a text without start markers. -/
lemma cut?_startMarker (hp : Text.occurs startMarker p = false) (rest : List Char) :
    Text.cut? startMarker (p ++ startMarker ++ rest) = some (p, rest) := by
  rw [List.append_assoc]
  exact Text.cut?_pair_append (by decide) hp rest

/-- The first end marker comes right after a text without end markers. -/
lemma cut?_endMarker (hs : Text.occurs endMarker s = false) (rest : List Char) :
    Text.cut? endMarker (s ++ endMarker ++ rest) = some (s, rest) := by
  rw [List.append_assoc]
  exact Text.cut?_pair_append (by decide) hs rest

/-- The segments of a text by its first markers. -/
lemma segments_eq (cs : List Char) :
    segments cs = match Text.cut? startMarker cs with
      | none => liveSegment cs
      | some (before, after) =>
        match Text.cut? endMarker after with
        | none => liveSegment before ++ [.ignored after false]
        | some (body, rest) => liveSegment before ++ .ignored body true :: segments rest := by
  rw [segments]
  split
  · simp_all
  · split <;> simp_all

/-- A text without spans is live. -/
lemma segments_of_not_occurs (hp : Text.occurs startMarker p = false) :
    segments p = liveSegment p := by
  rw [segments_eq, Text.cut?_eq_none_iff.2 hp]

/-- The empty text has no segments. -/
lemma segments_nil : segments [] = [] := segments_of_not_occurs (by decide)

/-- Live text before a span without an end marker. -/
lemma segments_unclosed (hp : Text.occurs startMarker p = false)
    (hs : Text.occurs endMarker s = false) :
    segments (p ++ startMarker ++ s) = liveSegment p ++ [.ignored s false] := by
  rw [segments_eq, cut?_startMarker hp]
  dsimp only
  rw [Text.cut?_eq_none_iff.2 hs]

/-- Live text before a span with an end marker, and what comes after it. -/
lemma segments_closed (hp : Text.occurs startMarker p = false)
    (hs : Text.occurs endMarker s = false) (q : List Char) :
    segments (p ++ ignoreChars s ++ q) = liveSegment p ++ .ignored s true :: segments q := by
  have hassoc : p ++ ignoreChars s ++ q = p ++ startMarker ++ (s ++ endMarker ++ q) := by
    simp [ignoreChars]
  rw [hassoc, segments_eq, cut?_startMarker hp]
  dsimp only
  rw [cut?_endMarker hs]

/-- Every text is live text without a span, or such text before a span without an end marker, or
such text before a span with an end marker and some other text. -/
lemma segments_cases {motive : List Char → Prop}
    (live : ∀ p, Text.occurs startMarker p = false → motive p)
    (unclosed : ∀ p s, Text.occurs startMarker p = false → Text.occurs endMarker s = false →
      motive (p ++ startMarker ++ s))
    (closed : ∀ p s q, Text.occurs startMarker p = false → Text.occurs endMarker s = false →
      motive q → motive (p ++ ignoreChars s ++ q))
    (cs : List Char) : motive cs := by
  induction cs using segments.induct with
  | case1 cs hcut => exact live cs (Text.cut?_eq_none_iff.1 hcut)
  | case2 cs before after hcut hend =>
    rw [Text.eq_append_of_cut? hcut]
    exact unclosed before after (Text.occurs_pair_eq_false_of_cut? hcut)
      (Text.cut?_eq_none_iff.1 hend)
  | case3 cs before after hcut body rest hend _ _ ih =>
    have hspan : cs = before ++ ignoreChars body ++ rest := by
      rw [Text.eq_append_of_cut? hcut, Text.eq_append_of_cut? hend]
      simp [ignoreChars]
    rw [hspan]
    exact closed before body rest (Text.occurs_pair_eq_false_of_cut? hcut)
      (Text.occurs_pair_eq_false_of_cut? hend) ih

/-- The segments of a text after which a span is written. -/
def addSpan (body : List Char) : List Segment → List Segment
  | [] => [.ignored body true]
  | [.ignored opened false] => [.ignored (opened ++ startMarker ++ body) true]
  | segment :: rest => segment :: addSpan body rest

/-- Whether a text ends in an open span that the first character of a marker after it would close.
-/
def hooks (cs : List Char) : Bool :=
  match (segments cs).getLast? with
  | some (.ignored body false) => body.getLast? == some ']'
  | _ => false

/-- A span that is written after live text and other segments is written after these segments. -/
lemma addSpan_live_append (body p : List Char) (segments : List Segment) :
    addSpan body (liveSegment p ++ segments) = liveSegment p ++ addSpan body segments := by
  unfold liveSegment
  split
  · rfl
  · cases segments <;> rfl

/-- A text that ends in an open span hooks if the span ends in a closing bracket. -/
lemma hooks_unclosed (hp : Text.occurs startMarker p = false)
    (hs : Text.occurs endMarker s = false) :
    hooks (p ++ startMarker ++ s) = (s.getLast? == some ']') := by
  rw [hooks, segments_unclosed hp hs, List.getLast?_append]
  rfl

/-- After a closed span, hooking depends on the rest of the text. -/
lemma hooks_closed (hp : Text.occurs startMarker p = false)
    (hs : Text.occurs endMarker s = false) (q : List Char) :
    hooks (p ++ ignoreChars s ++ q) = hooks q := by
  rw [hooks, hooks, segments_closed hp hs, List.getLast?_append, List.getLast?_cons]
  cases (segments q).getLast? <;> rfl

/-- Where a span stands that is written after a text which does not hook: its body is ignored, and
what comes after it is cut into segments by itself. -/
theorem segments_around (hleft : hooks left = false) (hs : Text.occurs endMarker s = false)
    (q : List Char) :
    segments (left ++ ignoreChars s ++ q) = addSpan s (segments left) ++ segments q := by
  induction left using segments_cases with
  | live p hp =>
    have hadd := addSpan_live_append s p []
    rw [List.append_nil] at hadd
    rw [segments_closed hp hs, segments_of_not_occurs hp, hadd, List.append_assoc]
    rfl
  | unclosed p opened hp hopened =>
    -- the span is part of the one that is open, and the first end marker is its own
    rw [hooks_unclosed hp hopened] at hleft
    have hbody : Text.occurs endMarker (opened ++ startMarker ++ s) = false := by
      rw [List.append_assoc]
      refine Text.occurs_pair_append_eq_false_iff.2 ⟨hopened, ?_, ?_⟩
      · exact Text.occurs_pair_append_eq_false_iff.2 ⟨by decide, hs, by simp [startMarker]⟩
      · rintro ⟨hlast, -⟩
        simp [hlast] at hleft
    have hassoc : p ++ startMarker ++ opened ++ ignoreChars s ++ q =
        p ++ ignoreChars (opened ++ startMarker ++ s) ++ q := by
      simp [ignoreChars]
    rw [hassoc, segments_closed hp hbody, segments_unclosed hp hopened, addSpan_live_append]
    simp [addSpan]
  | closed p body rest hp hbody ih =>
    rw [hooks_closed hp hbody] at hleft
    have hassoc : p ++ ignoreChars body ++ rest ++ ignoreChars s ++ q =
        p ++ ignoreChars body ++ (rest ++ ignoreChars s ++ q) := by
      simp
    rw [hassoc, segments_closed hp hbody, segments_closed hp hbody, ih hleft, addSpan_live_append,
      List.append_assoc]
    rfl

/-- After a text that hooks, the first character of the start marker ends the open span, and the
body of the new span is not ignored but cut into segments like any other text. -/
theorem segments_of_hooks (hleft : hooks left = true) (s q : List Char) :
    segments (left ++ ignoreChars s ++ q) =
      segments (left ++ ['#']) ++ segments ('[' :: s ++ endMarker ++ q) := by
  induction left using segments_cases with
  | live p hp =>
    rw [hooks, segments_of_not_occurs hp, liveSegment] at hleft
    by_cases hempty : p.isEmpty <;> simp [hempty] at hleft
  | unclosed p opened hp hopened =>
    rw [hooks_unclosed hp hopened, beq_iff_eq] at hleft
    obtain ⟨body, rfl⟩ := List.getLast?_eq_some_iff.1 hleft
    have hbody : Text.occurs endMarker body = false :=
      (Text.occurs_pair_append_eq_false_iff.1 hopened).1
    have hhook : ∀ more, p ++ startMarker ++ (body ++ [']']) ++ ('#' :: more) =
        p ++ ignoreChars body ++ more := by
      simp [ignoreChars, endMarker]
    have hassoc : p ++ startMarker ++ (body ++ [']']) ++ ignoreChars s ++ q =
        p ++ ignoreChars body ++ ('[' :: s ++ endMarker ++ q) := by
      rw [← hhook]
      simp [ignoreChars, startMarker]
    rw [hassoc, hhook, segments_closed hp hbody, segments_closed hp hbody, segments_nil]
    simp
  | closed p body rest hp hbody ih =>
    rw [hooks_closed hp hbody] at hleft
    have hassoc : ∀ more, p ++ ignoreChars body ++ rest ++ more =
        p ++ ignoreChars body ++ (rest ++ more) := by
      simp
    rw [List.append_assoc _ (ignoreChars s), hassoc, hassoc, segments_closed hp hbody,
      segments_closed hp hbody, ← List.append_assoc rest, ih hleft]
    simp

end Marked

end LineShell

import LineShell.Proofs.Passes
import Mathlib.Logic.ExistsUnique

/-!
# Reading a text from left to right

The passes look for different things in live text: names of macros, references to variables,
reserved names.  How they look is the same for all.  The text is read from left to right.  Where
something stands that is looked for, it is found, and reading goes on after it; where nothing
stands, one character is copied, and reading goes on with the next one.  Ignore spans are copied as
a whole.

A `Lexicon` says what is looked for: how each thing is written and when it stands at the beginning
of a text.  `Lexicon.Reads` relates a text to the pieces that it is read as.  If the lexicon is
lawful, every text is read in exactly one way (`Lexicon.Lawful.existsUnique_reads`), and the pieces
put together are the text (`Lexicon.Reads.flatMap_written`).
-/

namespace LineShell

variable {κ : Type}

/-- A piece of a text that was read: a character that is copied, an ignore span that is copied, or
something that was found. -/
inductive Piece (κ : Type)
  | char (c : Char)
  | span (body : List Char) (closed : Bool)
  | found (item : κ)

namespace Piece

/-- The text of a piece, markers included, with some text for what was found. -/
def written (text : κ → List Char) : Piece κ → List Char
  | .char c => [c]
  | .span body closed => (Marked.Segment.ignored body closed).chars
  | .found item => text item

/-- The text of a piece without markers, with some text for what was found. -/
def stripped (text : κ → List Char) : Piece κ → List Char
  | .char c => [c]
  | .span body _ => body
  | .found item => text item

/-- What was found in some pieces, from left to right. -/
def items : List (Piece κ) → List κ
  | [] => []
  | .found item :: rest => item :: items rest
  | _ :: rest => items rest

@[simp] lemma items_char (c : Char) (rest : List (Piece κ)) :
    items (.char c :: rest) = items rest := rfl

@[simp] lemma items_span (body : List Char) (closed : Bool) (rest : List (Piece κ)) :
    items (.span body closed :: rest) = items rest := rfl

@[simp] lemma items_found (item : κ) (rest : List (Piece κ)) :
    items (.found item :: rest) = item :: items rest := rfl

@[simp] lemma items_append (pieces more : List (Piece κ)) :
    items (pieces ++ more) = items pieces ++ items more := by
  induction pieces with
  | nil => rfl
  | cons piece rest ih => cases piece <;> simp [ih]

end Piece

/-- The things that are looked for in a text. -/
structure Lexicon (κ : Type) where
  /-- How a thing is written. -/
  spelling : κ → List Char
  /-- Whether a thing stands at the beginning of a text. -/
  Stands : κ → List Char → Prop

namespace Lexicon

variable {lexicon : Lexicon κ} {cs : List Char} {pieces more : List (Piece κ)}

/-- What stands at the beginning of a text is written there and is not empty, and there are no two
such things. -/
structure Lawful (lexicon : Lexicon κ) : Prop where
  begins : ∀ {item : κ} {cs : List Char}, lexicon.Stands item cs → lexicon.spelling item <+: cs
  ne_nil : ∀ {item : κ} {cs : List Char}, lexicon.Stands item cs → lexicon.spelling item ≠ []
  eq_of_stands : ∀ {a b : κ} {cs : List Char}, lexicon.Stands a cs → lexicon.Stands b cs → a = b

/-- The pieces that live text is read as. -/
inductive Reading (lexicon : Lexicon κ) : List Char → List (Piece κ) → Prop
  | done : Reading lexicon [] []
  | copied {c : Char} {rest : List Char} {pieces : List (Piece κ)}
      (hnone : ∀ item, ¬ lexicon.Stands item (c :: rest)) (h : Reading lexicon rest pieces) :
      Reading lexicon (c :: rest) (.char c :: pieces)
  | found {item : κ} {cs rest : List Char} {pieces : List (Piece κ)}
      (hstands : lexicon.Stands item cs) (hcut : cs = lexicon.spelling item ++ rest)
      (h : Reading lexicon rest pieces) : Reading lexicon cs (.found item :: pieces)

/-- The pieces that segments are read as, one segment after the other. -/
inductive SegmentsReading (lexicon : Lexicon κ) : List Marked.Segment → List (Piece κ) → Prop
  | nil : SegmentsReading lexicon [] []
  | live {text : List Char} {rest : List Marked.Segment} {pieces more : List (Piece κ)}
      (h : lexicon.Reading text pieces) (hrest : SegmentsReading lexicon rest more) :
      SegmentsReading lexicon (.live text :: rest) (pieces ++ more)
  | ignored {body : List Char} {closed : Bool} {rest : List Marked.Segment}
      {more : List (Piece κ)} (hrest : SegmentsReading lexicon rest more) :
      SegmentsReading lexicon (.ignored body closed :: rest) (.span body closed :: more)

/-- The pieces that a text is read as. -/
def Reads (lexicon : Lexicon κ) (cs : List Char) (pieces : List (Piece κ)) : Prop :=
  lexicon.SegmentsReading (Marked.segments cs) pieces

/-! ### Every text is read in one way -/

/-- Live text can be read: what is found is not empty, so that less and less is left. -/
lemma Lawful.exists_reading (law : lexicon.Lawful) (cs : List Char) :
    ∃ pieces, lexicon.Reading cs pieces := by
  induction hlength : cs.length using Nat.strong_induction_on generalizing cs with
  | _ n ih =>
    subst hlength
    by_cases hstands : ∃ item, lexicon.Stands item cs
    · obtain ⟨item, hitem⟩ := hstands
      obtain ⟨rest, hcut⟩ := law.begins hitem
      have hpos := List.length_pos_of_ne_nil (law.ne_nil hitem)
      have hshorter : rest.length < cs.length := by
        rw [← hcut, List.length_append]
        omega
      obtain ⟨pieces, hrest⟩ := ih rest.length hshorter rest rfl
      exact ⟨_, .found hitem hcut.symm hrest⟩
    · cases cs with
      | nil => exact ⟨[], .done⟩
      | cons c rest =>
        obtain ⟨pieces, hrest⟩ := ih rest.length (Nat.lt_succ_self _) rest rfl
        exact ⟨_, .copied (not_exists.1 hstands) hrest⟩

/-- In one way only. -/
lemma Lawful.eq_of_reading (law : lexicon.Lawful) (h : lexicon.Reading cs pieces)
    (hmore : lexicon.Reading cs more) : more = pieces := by
  induction h generalizing more with
  | done =>
    cases hmore with
    | done => rfl
    | found hstands =>
      have hnil := law.begins hstands
      exact absurd (List.prefix_nil.1 hnil) (law.ne_nil hstands)
  | copied hnone _ ih =>
    cases hmore with
    | copied _ hrest => rw [ih hrest]
    | found hstands => exact absurd hstands (hnone _)
  | found hstands hcut _ ih =>
    cases hmore with
    | done => exact absurd (List.prefix_nil.1 (law.begins hstands)) (law.ne_nil hstands)
    | copied hnone => exact absurd hstands (hnone _)
    | found hother hcut' hrest =>
      obtain rfl := law.eq_of_stands hstands hother
      obtain rfl := List.append_cancel_left (hcut.symm.trans hcut')
      rw [ih hrest]

/-- Segments can be read. -/
lemma Lawful.exists_segmentsReading (law : lexicon.Lawful) (segments : List Marked.Segment) :
    ∃ pieces, lexicon.SegmentsReading segments pieces := by
  induction segments with
  | nil => exact ⟨[], .nil⟩
  | cons segment rest ih =>
    obtain ⟨more, hmore⟩ := ih
    cases segment with
    | live text =>
      obtain ⟨pieces, hpieces⟩ := law.exists_reading text
      exact ⟨_, .live hpieces hmore⟩
    | ignored body closed => exact ⟨_, .ignored hmore⟩

/-- In one way only. -/
lemma Lawful.eq_of_segmentsReading (law : lexicon.Lawful) {segments : List Marked.Segment}
    (h : lexicon.SegmentsReading segments pieces) (hmore : lexicon.SegmentsReading segments more) :
    more = pieces := by
  induction h generalizing more with
  | nil =>
    cases hmore
    rfl
  | live htext _ ih =>
    cases hmore with
    | live htext' hrest => rw [law.eq_of_reading htext htext', ih hrest]
  | ignored _ ih =>
    cases hmore with
    | ignored hrest => rw [ih hrest]

/-- Every text is read in exactly one way. -/
theorem Lawful.existsUnique_reads (law : lexicon.Lawful) (cs : List Char) :
    ∃! pieces, lexicon.Reads cs pieces := by
  obtain ⟨pieces, hpieces⟩ := law.exists_segmentsReading (Marked.segments cs)
  exact ⟨pieces, hpieces, fun more hmore => law.eq_of_segmentsReading hpieces hmore⟩

/-! ### The pieces put together -/

/-- Live text is the text of its pieces, with markers and without. -/
lemma Reading.flatMap_eq (h : lexicon.Reading cs pieces) :
    pieces.flatMap (Piece.written lexicon.spelling) = cs ∧
      pieces.flatMap (Piece.stripped lexicon.spelling) = cs := by
  induction h with
  | done => exact ⟨rfl, rfl⟩
  | copied _ _ ih => simp [Piece.written, Piece.stripped, ih.1, ih.2]
  | found _ hcut _ ih => simp [Piece.written, Piece.stripped, ih.1, ih.2, hcut]

/-- Segments put together are the pieces put together, with markers and without. -/
lemma SegmentsReading.flatMap_eq {segments : List Marked.Segment}
    (h : lexicon.SegmentsReading segments pieces) :
    pieces.flatMap (Piece.written lexicon.spelling) = segments.flatMap Marked.Segment.chars ∧
      pieces.flatMap (Piece.stripped lexicon.spelling) =
        segments.flatMap Marked.Segment.stripped := by
  induction h with
  | nil => exact ⟨rfl, rfl⟩
  | live htext _ ih =>
    obtain ⟨hwritten, hstripped⟩ := htext.flatMap_eq
    simp only [List.flatMap_append, List.flatMap_cons, hwritten, hstripped, ih]
    exact ⟨rfl, rfl⟩
  | ignored _ ih =>
    simp only [List.flatMap_cons, ih]
    exact ⟨rfl, rfl⟩

/-- The pieces put together are the text. -/
theorem Reads.flatMap_written (h : lexicon.Reads cs pieces) :
    pieces.flatMap (Piece.written lexicon.spelling) = cs :=
  (SegmentsReading.flatMap_eq h).1.trans (Marked.flatMap_chars_segments cs)

/-- The pieces put together without markers are the text without markers. -/
theorem Reads.flatMap_stripped (h : lexicon.Reads cs pieces) :
    pieces.flatMap (Piece.stripped lexicon.spelling) = Marked.stripChars cs :=
  (SegmentsReading.flatMap_eq h).2

/-- If there is live text, it is read; if there is none, there are no pieces. -/
lemma SegmentsReading.of_liveSegment_append {p : List Char} {segments : List Marked.Segment}
    (h : lexicon.SegmentsReading (Marked.liveSegment p ++ segments) pieces) :
    ∃ first more, lexicon.Reading p first ∧ lexicon.SegmentsReading segments more ∧
      pieces = first ++ more := by
  unfold Marked.liveSegment at h
  split at h
  · next hempty =>
    rw [List.isEmpty_iff.1 hempty]
    exact ⟨[], pieces, .done, h, rfl⟩
  · cases h with
    | live htext hrest => exact ⟨_, _, htext, hrest, rfl⟩

/-- Every text that is read is live text without a span, or such text before a span without an end
marker, or such text before a span with an end marker and some other text. -/
lemma Reads.by_first_span {motive : List Char → List (Piece κ) → Prop}
    (live : ∀ p pieces, Text.occurs Marked.startMarker p = false → lexicon.Reading p pieces →
      motive p pieces)
    (unclosed : ∀ p s first, Text.occurs Marked.startMarker p = false →
      Text.occurs Marked.endMarker s = false → lexicon.Reading p first →
      motive (p ++ Marked.startMarker ++ s) (first ++ [.span s false]))
    (closed : ∀ p s q first more, Text.occurs Marked.startMarker p = false →
      Text.occurs Marked.endMarker s = false → lexicon.Reading p first → motive q more →
      motive (p ++ Marked.ignoreChars s ++ q) (first ++ .span s true :: more))
    (h : lexicon.Reads cs pieces) : motive cs pieces := by
  unfold Reads at h
  induction cs using Marked.segments_cases generalizing pieces with
  | live p hp =>
    rw [Marked.segments_of_not_occurs hp, ← List.append_nil (Marked.liveSegment p)] at h
    obtain ⟨first, more, hfirst, hmore, rfl⟩ := h.of_liveSegment_append
    cases hmore
    rw [List.append_nil]
    exact live p first hp hfirst
  | unclosed p s hp hs =>
    rw [Marked.segments_unclosed hp hs] at h
    obtain ⟨first, more, hfirst, hmore, rfl⟩ := h.of_liveSegment_append
    cases hmore with
    | ignored hrest =>
      cases hrest
      exact unclosed p s first hp hs hfirst
  | closed p s q hp hs ih =>
    rw [Marked.segments_closed hp hs] at h
    obtain ⟨first, more, hfirst, hmore, rfl⟩ := h.of_liveSegment_append
    cases hmore with
    | ignored hrest => exact closed p s q first _ hp hs hfirst (ih hrest)

end Lexicon

namespace Engine

variable {lexicon : Lexicon κ} {cs : List Char} {pieces : List (Piece κ)}

/-- If live text is rewritten piece by piece, then so are segments, ignore spans being copied. -/
lemma rewriteSegments_of_reading {rewrite : Piece κ → Engine (List Char)}
    {live : Option Nat → List Char → Engine (List Char × Option Nat)}
    (hspan : ∀ body closed,
      rewrite (.span body closed) = pure (Marked.Segment.ignored body closed).chars)
    (hlive : ∀ {text : List Char} {pieces : List (Piece κ)}, lexicon.Reading text pieces →
      ∀ limit, live limit text = (fun outs => (outs.flatten, limit)) <$> pieces.mapM rewrite)
    {segments : List Marked.Segment} (h : lexicon.SegmentsReading segments pieces)
    (limit : Option Nat) :
    rewriteSegments live limit segments =
      (fun outs => (outs.flatten, limit)) <$> pieces.mapM rewrite := by
  induction h with
  | nil => rfl
  | live htext _ ih => simp [rewriteSegments, hlive htext, ih]
  | ignored _ ih => simp [rewriteSegments, hspan, ih]

end Engine

end LineShell

import LineShell.Proofs.ByteOrder
import LineShell.Proofs.Passes
import Mathlib.Data.List.Chain
import Mathlib.Data.List.Flatten

/-!
# The one way to cut a text

`Marked.segments` cuts a text by searching for a start marker, then for an end marker, and so on.
What it finds can be said without the search.  The parts that a text is cut into are `Canonical` if
none is empty, no live part holds a start marker, no two live parts stand side by side, and every
ignored part begins with a start marker and goes to the first end marker after it, or to the end of
the text if there is none.

The segments are canonical (`Marked.canonical_segments`), and no other parts of the text are
(`Marked.map_part_segments`).  So a text is cut piece by piece: the segments of a text that ends in
a closed span stay what they are, whatever comes after it (`Marked.segments_append_of_closed`).
-/

namespace LineShell

/-- Fewer characters take fewer bytes. -/
lemma Text.byteCount_le_of_sublist {cs ds : List Char} (h : cs.Sublist ds) :
    byteCount cs ≤ byteCount ds := by
  induction h with
  | slnil => exact Nat.le_refl _
  | cons c _ ih => exact ih.trans (Nat.le_add_left _ _)
  | cons_cons c _ ih => exact Nat.add_le_add_left ih _

namespace Marked

/-! ### What is asked of the parts -/

/-- A part of a text, and whether it is exempt from expansion. -/
structure Part where
  ignored : Bool
  text : List Char
  deriving DecidableEq, Repr

/-- A segment as a part of the text.  The markers of a span belong to it. -/
def Segment.part : Segment → Part
  | .live text => ⟨false, text⟩
  | .ignored body closed => ⟨true, (Segment.ignored body closed).chars⟩

/-- A text ends in an end marker, and in no other place of it is there one. -/
structure EndsAtFirstMarker (cs : List Char) : Prop where
  ends : endMarker <:+ cs
  first : ∀ front back, cs = front ++ endMarker ++ back → back = []

/-- Parts as a text has to be cut into. -/
structure Canonical (parts : List Part) : Prop where
  ne_nil : ∀ part ∈ parts, part.text ≠ []
  live : ∀ part ∈ parts, part.ignored = false → ¬ startMarker <:+: part.text
  apart : parts.IsChain fun part next => part.ignored = true ∨ next.ignored = true
  ignored : ∀ before part after, parts = before ++ part :: after → part.ignored = true →
    ∃ rest, part.text = startMarker ++ rest ∧
      (EndsAtFirstMarker rest ∨ after = [] ∧ ¬ endMarker <:+: rest)

variable {p q s cs body : List Char} {part : Part} {parts rest : List Part}

lemma not_startMarker_iff : ¬ startMarker <:+: cs ↔ Text.occurs startMarker cs = false := by
  rw [← Text.occurs_iff, Bool.not_eq_true]

lemma not_endMarker_iff : ¬ endMarker <:+: cs ↔ Text.occurs endMarker cs = false := by
  rw [← Text.occurs_iff, Bool.not_eq_true]

/-- Before its only end marker a text has none.  The body may end in a closing bracket: the first
character of the marker is another one. -/
lemma endsAtFirstMarker_iff :
    EndsAtFirstMarker cs ↔ ∃ body, cs = body ++ endMarker ∧ Text.occurs endMarker body = false := by
  constructor
  · rintro ⟨⟨body, rfl⟩, hfirst⟩
    refine ⟨body, rfl, not_endMarker_iff.1 ?_⟩
    rintro ⟨front, back, rfl⟩
    have hback := hfirst front (back ++ endMarker) (by simp)
    simp [endMarker] at hback
  · rintro ⟨body, rfl, hbody⟩
    refine ⟨⟨body, rfl⟩, fun front back hcut => ?_⟩
    by_contra hback
    -- then there is an end marker before the last character
    obtain ⟨init, last, rfl⟩ := (List.eq_nil_or_concat' back).resolve_left hback
    have hinit : body ++ [']'] = front ++ endMarker ++ init := by
      have hall : (body ++ [']']) ++ ['#'] = (front ++ endMarker ++ init) ++ [last] := by
        simpa [endMarker] using hcut
      exact (List.append_inj' hall rfl).1
    have hnone : Text.occurs endMarker (body ++ [']']) = false :=
      Text.occurs_pair_append_eq_false_iff.2 ⟨hbody, by decide, by simp⟩
    exact not_endMarker_iff.2 hnone ⟨front, init, hinit.symm⟩

/-! ### Parts, one after the other -/

lemma canonical_nil : Canonical [] where
  ne_nil := by simp
  live := by simp
  apart := .nil
  ignored before part after h := by simp at h

/-- Parts are canonical if the first one is like that by itself, no live part comes after a live
one, and the others are canonical. -/
lemma canonical_cons_iff :
    Canonical (part :: rest) ↔
      part.text ≠ [] ∧
      (part.ignored = false → ¬ startMarker <:+: part.text ∧
        ∀ next ∈ rest.head?, next.ignored = true) ∧
      (part.ignored = true → ∃ tail, part.text = startMarker ++ tail ∧
        (EndsAtFirstMarker tail ∨ rest = [] ∧ ¬ endMarker <:+: tail)) ∧
      Canonical rest := by
  constructor
  · intro h
    have hapart := List.isChain_cons.1 h.apart
    refine ⟨h.ne_nil part List.mem_cons_self, fun hlive => ⟨h.live part List.mem_cons_self hlive,
      fun next hnext => (hapart.1 next hnext).resolve_left (by simp [hlive])⟩,
      h.ignored [] part rest rfl, ?_⟩
    exact
      { ne_nil := fun other hother => h.ne_nil other (List.mem_cons_of_mem _ hother)
        live := fun other hother => h.live other (List.mem_cons_of_mem _ hother)
        apart := hapart.2
        ignored := fun before other after hsplit =>
          h.ignored (part :: before) other after (by rw [hsplit, List.cons_append]) }
  · rintro ⟨hne, hlive, hignored, h⟩
    refine ⟨List.forall_mem_cons.2 ⟨hne, h.ne_nil⟩,
      List.forall_mem_cons.2 ⟨fun hpart => (hlive hpart).1, h.live⟩,
      List.isChain_cons.2 ⟨fun next hnext => ?_, h.apart⟩, fun before other after hsplit => ?_⟩
    · cases hpart : part.ignored with
      | true => exact .inl rfl
      | false => exact .inr ((hlive hpart).2 next hnext)
    · cases before with
      | nil =>
        obtain ⟨rfl, rfl⟩ := List.cons.inj hsplit
        exact hignored
      | cons first before =>
        obtain ⟨rfl, rfl⟩ := List.cons.inj hsplit
        exact h.ignored before other after rfl

/-- A closed span can come before any parts. -/
lemma Canonical.closed (hbody : Text.occurs endMarker body = false) (h : Canonical rest) :
    Canonical ((Segment.ignored body true).part :: rest) := by
  refine canonical_cons_iff.2 ⟨by simp [Segment.part, Segment.chars, startMarker], ?_, ?_, h⟩
  · simp [Segment.part]
  · intro _
    exact ⟨body ++ endMarker, by simp [Segment.part, Segment.chars],
      .inl (endsAtFirstMarker_iff.2 ⟨body, rfl, hbody⟩)⟩

/-- An open span can only come last. -/
lemma canonical_unclosed (hbody : Text.occurs endMarker body = false) :
    Canonical [(Segment.ignored body false).part] := by
  refine canonical_cons_iff.2
    ⟨by simp [Segment.part, Segment.chars, startMarker], ?_, ?_, canonical_nil⟩
  · simp [Segment.part]
  · intro _
    exact ⟨body, by simp [Segment.part, Segment.chars], .inr ⟨rfl, not_endMarker_iff.2 hbody⟩⟩

/-- Live text can come before a span, and at the end. -/
lemma Canonical.live_append (hp : Text.occurs startMarker p = false) (h : Canonical rest)
    (hnext : ∀ next ∈ rest.head?, next.ignored = true) :
    Canonical ((liveSegment p).map Segment.part ++ rest) := by
  unfold liveSegment
  split
  · exact h
  · next hne =>
    have hp' : p ≠ [] := by simpa using hne
    exact canonical_cons_iff.2
      ⟨hp', fun _ => ⟨not_startMarker_iff.2 hp, hnext⟩, by simp [Segment.part], h⟩

/-! ### The segments are canonical -/

/-- The segments of a text are canonical parts. -/
theorem canonical_segments (cs : List Char) : Canonical ((segments cs).map Segment.part) := by
  induction cs using segments_cases with
  | live p hp =>
    rw [segments_of_not_occurs hp, ← List.append_nil (List.map _ _)]
    exact canonical_nil.live_append hp (by simp)
  | unclosed p s hp hs =>
    rw [segments_unclosed hp hs, List.map_append]
    exact (canonical_unclosed hs).live_append hp (by simp [Segment.part])
  | closed p s q hp hs ih =>
    rw [segments_closed hp hs, List.map_append, List.map_cons]
    exact (ih.closed hs).live_append hp (by simp [Segment.part])

/-- They put the text together. -/
lemma flatMap_text_segments (cs : List Char) :
    ((segments cs).map Segment.part).flatMap Part.text = cs := by
  have htext : ∀ segment : Segment, segment.part.text = segment.chars := by
    intro segment
    cases segment <;> rfl
  rw [List.flatMap_map]
  simp only [htext]
  exact flatMap_chars_segments cs

/-! ### Nothing else is -/

/-- The segments of live text before a span, and of live text at the end. -/
lemma segments_live_append (hp : Text.occurs startMarker p = false)
    (hq : q = [] ∨ startMarker <+: q) : segments (p ++ q) = liveSegment p ++ segments q := by
  obtain rfl | ⟨after, rfl⟩ := hq
  · rw [List.append_nil, segments_nil, List.append_nil, segments_of_not_occurs hp]
  · have hfirst : Text.cut? startMarker (startMarker ++ after) = some ([], after) :=
      cut?_startMarker (p := []) (by decide) after
    rw [← List.append_assoc, segments_eq, cut?_startMarker hp, segments_eq (startMarker ++ after),
      hfirst]
    dsimp only
    cases Text.cut? endMarker after <;> simp [liveSegment]

/-- Canonical parts that do not begin with live text make up the empty text, or one that begins with
a start marker. -/
lemma Canonical.begins (h : Canonical rest) (hnext : ∀ next ∈ rest.head?, next.ignored = true) :
    rest.flatMap Part.text = [] ∨ startMarker <+: rest.flatMap Part.text := by
  cases rest with
  | nil => exact .inl rfl
  | cons part rest =>
    obtain ⟨-, -, hignored, -⟩ := canonical_cons_iff.1 h
    obtain ⟨tail, htext, -⟩ := hignored (hnext part rfl)
    refine .inr ⟨tail ++ rest.flatMap Part.text, ?_⟩
    rw [List.flatMap_cons, htext, List.append_assoc]

/-- Canonical parts are the segments of the text that they make up. -/
theorem Canonical.map_part_segments (h : Canonical parts) :
    (segments (parts.flatMap Part.text)).map Segment.part = parts := by
  induction parts with
  | nil => rw [List.flatMap_nil, segments_nil, List.map_nil]
  | cons part rest ih =>
    obtain ⟨hne, hlive, hignored, hrest⟩ := canonical_cons_iff.1 h
    obtain ⟨ignored, text⟩ := part
    rw [List.flatMap_cons]
    cases ignored with
    | false =>
      obtain ⟨hnone, hnext⟩ := hlive rfl
      have hsegment : liveSegment text = [.live text] := by simp_all [liveSegment]
      rw [segments_live_append (not_startMarker_iff.1 hnone) (hrest.begins hnext), hsegment,
        List.map_append, ih hrest]
      rfl
    | true =>
      obtain ⟨tail, htext, hends | ⟨rfl, hopen⟩⟩ := hignored rfl
      · obtain ⟨body, rfl, hbody⟩ := endsAtFirstMarker_iff.1 hends
        have hspan : text = ignoreChars body := by
          rw [ignoreChars, List.append_assoc]
          exact htext
        rw [hspan, segments_ignoreChars_append hbody, List.map_cons, ih hrest]
        rfl
      · have hunclosed := segments_unclosed (p := []) (by decide) (not_endMarker_iff.1 hopen)
        obtain rfl : text = startMarker ++ tail := htext
        rw [List.nil_append] at hunclosed
        rw [List.flatMap_nil, List.append_nil, hunclosed]
        simp [liveSegment, Segment.part, Segment.chars]

/-! ### Texts that end in a closed span -/

/-- After a text that ends in a closed span, what follows is cut by itself. -/
theorem segments_append_of_closed (h : (segments p).getLast? = some (.ignored body true))
    (q : List Char) : segments (p ++ q) = segments p ++ segments q := by
  induction p using segments_cases with
  | live p hp =>
    rw [segments_of_not_occurs hp, liveSegment] at h
    by_cases hempty : p.isEmpty <;> simp [hempty] at h
  | unclosed p s hp hs =>
    rw [segments_unclosed hp hs] at h
    simp at h
  | closed p s rest hp hs ih =>
    have hassoc : p ++ ignoreChars s ++ rest ++ q = p ++ ignoreChars s ++ (rest ++ q) := by simp
    have hrest : segments (rest ++ q) = segments rest ++ segments q := by
      cases hlast : (segments rest).getLast? with
      | none =>
        -- nothing comes after the span
        have hnil : rest = [] := by
          have hchars := flatMap_chars_segments rest
          rwa [List.getLast?_eq_none_iff.1 hlast, List.flatMap_nil, eq_comm] at hchars
        rw [hnil, List.nil_append, segments_nil, List.nil_append]
      | some last =>
        rw [segments_closed hp hs, List.getLast?_append, List.getLast?_cons, hlast] at h
        exact ih (hlast.trans h)
    rw [hassoc, segments_closed hp hs, segments_closed hp hs, hrest]
    simp

/-! ### What the parts are for -/

/-- Where live text is left as it is, so is the whole text. -/
lemma mapLive_pure {m : Type → Type} [Monad m] [LawfulMonad m] (cs : List Char) :
    mapLive (m := m) pure cs = pure cs := by
  -- stated for any function that does the same, since the one of the definition has no name
  have hpieces : ∀ piece : Segment → m (List Char),
      (∀ segment, piece segment = pure segment.chars) →
      (segments cs).mapM piece = pure ((segments cs).map Segment.chars) := by
    intro piece hpiece
    rw [funext hpiece]
    exact List.mapM_pure
  have hall : ((segments cs).map Segment.chars).flatten = cs := flatMap_chars_segments cs
  unfold mapLive
  rw [hpieces _ fun segment => by cases segment <;> rfl, pure_bind, hall]

/-- Without markers a text has the same characters in the same order, and no others. -/
lemma stripChars_sublist (cs : List Char) : (stripChars cs).Sublist cs := by
  have hsegments : ((segments cs).flatMap Segment.stripped).Sublist
      ((segments cs).flatMap Segment.chars) := by
    refine List.Sublist.flatMap_right _ fun segment _ => ?_
    cases segment with
    | live text => exact .refl _
    | ignored body closed =>
      exact (List.sublist_append_right startMarker body).trans (List.sublist_append_left _ _)
  rwa [flatMap_chars_segments] at hsegments

/-- A text without spans is its own text without markers. -/
lemma stripChars_eq_self (hcs : Text.occurs startMarker cs = false) : stripChars cs = cs := by
  have hlive : (liveSegment cs).flatMap Segment.stripped = cs := by
    unfold liveSegment
    split
    · next hempty => simp [List.isEmpty_iff.1 hempty]
    · simp [Segment.stripped]
  rw [stripChars, segments_of_not_occurs hcs, hlive]

/-- Without markers a text is no longer than with them, neither in characters nor in bytes. -/
lemma length_strip_le (text : String) :
    (strip text).length ≤ text.length ∧ (strip text).utf8ByteSize ≤ text.utf8ByteSize := by
  have hsublist := stripChars_sublist text.toList
  have hstrip : (strip text).toList = stripChars text.toList := String.toList_ofList
  constructor
  · have hlength := hsublist.length_le
    rwa [← hstrip, String.length_toList, String.length_toList] at hlength
  · have hbytes := Text.byteCount_le_of_sublist hsublist
    rwa [← hstrip, Text.byteCount_toList, Text.byteCount_toList] at hbytes

/-- The pass that replaces macros works on the segments, also in a session without macros. -/
lemma applyPass_macros_eq_mapLive (exec : Exec) (cs : List Char) :
    Engine.applyPass exec .macros cs = (do
      let s ← Engine.get
      mapLive (Engine.expandMacros exec (Macro.entriesLongestFirst s.macros) 0) cs) := by
  refine bind_congr fun s => ?_
  dsimp only
  split
  · next hempty =>
    have hcopy : Engine.expandMacros exec [] 0 = pure := funext (Engine.expandMacros_nil exec)
    rw [Engine.entriesLongestFirst_of_isEmpty hempty, hcopy, mapLive_pure]
  · rfl

/-- Every text is cut into canonical parts in exactly one way, and these are its segments; so they
put it together without loss.  After a text that ends in a closed span, what follows is cut by
itself.

Hence copying all live text copies the whole text, and the pass that replaces macros may return a
text at once if there are none.  Taking the markers away never makes a text longer, it leaves a text
without start markers as it is, and it undoes putting a text without end markers in an ignore span.
-/
theorem segments_cut_in_one_way :
    (∀ (cs : List Char) (parts : List Part),
      Canonical parts ∧ parts.flatMap Part.text = cs ↔ parts = (segments cs).map Segment.part) ∧
    (∀ first body : List Char, (segments first).getLast? = some (.ignored body true) →
      ∀ rest, segments (first ++ rest) = segments first ++ segments rest) ∧
    (∀ (m : Type → Type) [Monad m] [LawfulMonad m] (cs : List Char),
      mapLive (m := m) pure cs = pure cs) ∧
    (∀ (exec : Exec) (cs : List Char), Engine.applyPass exec .macros cs = (do
      let s ← Engine.get
      mapLive (Engine.expandMacros exec (Macro.entriesLongestFirst s.macros) 0) cs)) ∧
    ∀ text : String,
      ((strip text).length ≤ text.length ∧ (strip text).utf8ByteSize ≤ text.utf8ByteSize) ∧
      (¬ startMarker <:+: text.toList → strip text = text) ∧
      (¬ endMarker <:+: text.toList → strip (ignore text) = text) := by
  refine ⟨fun cs parts => ⟨?_, ?_⟩, fun first body => segments_append_of_closed,
    fun m _ _ => mapLive_pure, applyPass_macros_eq_mapLive,
    fun text => ⟨length_strip_le text, fun hnone => ?_, fun hnone => ?_⟩⟩
  · rintro ⟨hcanonical, rfl⟩
    exact hcanonical.map_part_segments.symm
  · rintro rfl
    exact ⟨canonical_segments cs, flatMap_text_segments cs⟩
  · rw [strip, stripChars_eq_self (not_startMarker_iff.1 hnone), String.ofList_toList]
  · rw [strip, ignore, String.toList_ofList, stripChars_ignoreChars (not_endMarker_iff.1 hnone),
      String.ofList_toList]

/-- Markers share a character, and a span may hold a part of one.  Here the first span ends in the
middle of what could be another start marker, and the second one has a closing bracket before its
end marker. -/
theorem segments_cut_in_one_way_of_overlapping_markers :
    let first := "x#[#]#".toList
    let rest := "]#[y]]#z".toList
    let parts : List Part := [⟨false, "x".toList⟩, ⟨true, "#[#]#".toList⟩, ⟨false, "]".toList⟩,
      ⟨true, "#[y]]#".toList⟩, ⟨false, "z".toList⟩]
    (Canonical parts ∧ parts = (segments (first ++ rest)).map Segment.part) ∧
      ((segments first).getLast? = some (.ignored "#".toList true) ∧
        segments (first ++ rest) = segments first ++ segments rest) ∧
      (¬ startMarker <:+: "#]#".toList ∧ strip "#]#" = "#]#") ∧
      ¬ endMarker <:+: "#[y]".toList ∧ strip (ignore "#[y]") = "#[y]" := by
  intro first rest parts
  obtain ⟨hparts, happend, -, -, hstrip⟩ := segments_cut_in_one_way
  have hcanonical : Canonical parts := by
    have hlast : Canonical [⟨false, "z".toList⟩] :=
      canonical_nil.live_append (p := "z".toList) (by decide) (by simp)
    have hspan : Canonical [(Segment.ignored "y]".toList true).part, ⟨false, "z".toList⟩] :=
      hlast.closed (by decide)
    have hmiddle := hspan.live_append (p := "]".toList) (by decide) (by simp [Segment.part])
    have hfirst := hmiddle.closed (by decide : Text.occurs endMarker "#".toList = false)
    exact hfirst.live_append (p := "x".toList) (by decide) (by simp)
  have hends : (segments first).getLast? = some (.ignored "#".toList true) := by
    have hclosed := segments_closed (p := "x".toList) (s := "#".toList) (by decide) (by decide) []
    rw [segments_nil] at hclosed
    exact congrArg List.getLast? hclosed
  exact ⟨⟨hcanonical, (hparts _ parts).1 ⟨hcanonical, rfl⟩⟩, ⟨hends, happend _ _ hends rest⟩,
    ⟨by decide, (hstrip "#]#").2.1 (by decide)⟩, by decide, (hstrip "#[y]").2.2 (by decide)⟩

end Marked

end LineShell

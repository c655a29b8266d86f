import LineShell.Proofs.LongestName
import LineShell.Proofs.Reading

/-!
# The first pass masks names and nothing else

The first pass puts reserved names in ignore spans, and names of macros that stand after a suppress
marker, without the marker.  The new markers come to stand beside arbitrary text, which may hold
parts of markers itself; and the pass may be applied to a text that is masked already.

`Engine.masks_names_only` says that nothing goes wrong.  The text is read by the lexicon of names
that are masked (`Masked.lexicon`).  The segments of the masked text are the spans that were there,
a span for each name that was found, and what is left of the live text (`Piece.segments`): no marker
arises where two pieces meet.  In what is left of the live text there is nothing to mask, since what
stands at a place stands there also in a longer text; so masking twice is masking once.
-/

namespace LineShell

variable {table : NameMap Macro} {c : Char} {p q cs rest : List Char}

/-! ### Segments, character by character -/

namespace Marked

/-- Segments with a live character before them. -/
def consLive (c : Char) : List Segment → List Segment
  | .live text :: rest => .live (c :: text) :: rest
  | segments => .live [c] :: segments

/-- A character that begins no span is live. -/
lemma segments_cons (h : ¬ startMarker <+: c :: cs) :
    segments (c :: cs) = consLive c (segments cs) := by
  have hlive : ∀ (p : List Char) (segments : List Segment),
      (∀ text rest, segments ≠ .live text :: rest) →
      liveSegment (c :: p) ++ segments = consLive c (liveSegment p ++ segments) := by
    intro p segments hsegments
    cases p with
    | cons d p => rfl
    | nil =>
      change .live [c] :: segments = consLive c segments
      unfold consLive
      split
      · exact absurd rfl (hsegments _ _)
      · rfl
  rw [segments_eq, segments_eq cs, Text.cut?_cons h]
  cases Text.cut? startMarker cs with
  | none =>
    have hcs := hlive cs [] (by simp)
    rw [List.append_nil, List.append_nil] at hcs
    exact hcs
  | some found =>
    obtain ⟨before, after⟩ := found
    dsimp only [Option.map_some]
    cases Text.cut? endMarker after with
    | none => exact hlive before _ (by simp)
    | some found => exact hlive before _ (by simp)

/-- Without markers, the character comes before the other ones. -/
lemma flatMap_stripped_consLive (c : Char) (segments : List Segment) :
    (consLive c segments).flatMap Segment.stripped = c :: segments.flatMap Segment.stripped := by
  unfold consLive
  split <;> simp [Segment.stripped]

end Marked

/-- The segments that pieces make up, with what was found in spans: characters side by side are one
live segment. -/
def Piece.segments {κ : Type} (text : κ → List Char) : List (Piece κ) → List Marked.Segment
  | [] => []
  | .char c :: rest => Marked.consLive c (segments text rest)
  | .span body closed :: rest => .ignored body closed :: segments text rest
  | .found item :: rest => .ignored (text item) true :: segments text rest

/-! ### Names that are masked -/

/-- What is masked: a reserved name, or the name of a macro after a suppress marker. -/
inductive Masked
  | reserved (name : List Char)
  | suppressed (name : String)

namespace Masked

/-- The marker before a name, which is left out. -/
def marker : Masked → List Char
  | .reserved _ => []
  | .suppressed _ => Marked.suppressMarker

/-- The name that is put in a span. -/
def name : Masked → List Char
  | .reserved name => name
  | .suppressed name => name.toList

/-- Whether a name that is to be masked stands at the beginning of a text. -/
def Stands (table : NameMap Macro) : Masked → List Char → Prop
  | .reserved name, cs => name ∈ Marked.reservedNames ∧ name <+: cs
  | .suppressed name, cs => ∃ after, cs = Marked.suppressMarker ++ after ∧
      Macro.Longest table name after

/-- The names that are masked if there are certain macros. -/
def lexicon (table : NameMap Macro) : Lexicon Masked where
  spelling item := item.marker ++ item.name
  Stands := Stands table

/-- No reserved name begins with another one, and none with a suppress marker. -/
lemma reservedNames_apart :
    (∀ name ∈ Marked.reservedNames, ∀ other ∈ Marked.reservedNames, name <+: other →
      name = other) ∧
    ∀ name ∈ Marked.reservedNames, 2 ≤ name.length ∧ ¬ Marked.suppressMarker <+: name := by
  decide

/-- Only one reserved name stands at the beginning of a text. -/
lemma eq_of_mem_reservedNames {name other : List Char} (hname : name ∈ Marked.reservedNames)
    (hother : other ∈ Marked.reservedNames) (hbegins : name <+: cs) (hbegins' : other <+: cs) :
    name = other := by
  rcases List.prefix_or_prefix_of_prefix hbegins hbegins' with h | h
  · exact reservedNames_apart.1 name hname other hother h
  · exact (reservedNames_apart.1 other hother name hname h).symm

/-- No reserved name stands where a suppress marker stands. -/
lemma not_suppressMarker_of_mem_reservedNames {name : List Char}
    (hname : name ∈ Marked.reservedNames) (hbegins : name <+: cs) :
    ¬ Marked.suppressMarker <+: cs := by
  obtain ⟨hlength, hmarker⟩ := reservedNames_apart.2 name hname
  intro h
  exact hmarker (List.prefix_of_prefix_length_le h hbegins hlength)

/-- At most one name that is masked stands at the beginning of a text. -/
lemma lawful_lexicon (table : NameMap Macro) : (lexicon table).Lawful where
  begins {item _} h := by
    cases item with
    | reserved name => exact h.2
    | suppressed name =>
      obtain ⟨after, rfl, hlongest⟩ := h
      exact (List.prefix_append_right_inj _).2 hlongest.begins
  ne_nil {item _} h := by
    cases item with
    | reserved name => exact List.ne_nil_of_length_pos (Marked.length_pos_of_mem_reservedNames h.1)
    | suppressed name => exact List.cons_ne_nil _ _
  eq_of_stands {first second cs} hfirst hsecond := by
    cases first with
    | reserved name =>
      cases second with
      | reserved other =>
        rw [eq_of_mem_reservedNames hfirst.1 hsecond.1 hfirst.2 hsecond.2]
      | suppressed other =>
        obtain ⟨after, rfl, -⟩ := hsecond
        exact absurd (List.prefix_append _ _)
          (not_suppressMarker_of_mem_reservedNames hfirst.1 hfirst.2)
    | suppressed name =>
      obtain ⟨after, rfl, hlongest⟩ := hfirst
      cases second with
      | reserved other =>
        exact absurd (List.prefix_append _ _)
          (not_suppressMarker_of_mem_reservedNames hsecond.1 hsecond.2)
      | suppressed other =>
        obtain ⟨after', heq, hlongest'⟩ := hsecond
        obtain rfl := List.append_cancel_left heq
        rw [hlongest.eq hlongest']

/-- A name that is masked holds no end marker, if names of macros are valid. -/
lemma occurs_endMarker_of_stands (hvalid : Macro.Valid table) {item : Masked}
    (h : (lexicon table).Stands item cs) : Text.occurs Marked.endMarker item.name = false := by
  cases item with
  | reserved name => exact (Marked.occurs_of_mem_reservedNames h.1).2
  | suppressed name =>
    obtain ⟨after, -, hlongest⟩ := h
    exact Macro.occurs_endMarker_of_checkName (hvalid name hlongest.mem)

/-- If there is nothing to mask at a place, then there is nothing to mask there after a part of the
text that follows is cut off. -/
lemma not_stands_of_begins (hnone : ∀ item, ¬ (lexicon table).Stands item cs) (hp : p <+: cs)
    (item : Masked) : ¬ (lexicon table).Stands item p := by
  intro h
  cases item with
  | reserved name => exact hnone (.reserved name) ⟨h.1, h.2.trans hp⟩
  | suppressed name =>
    obtain ⟨after, rfl, hlongest⟩ := h
    obtain ⟨tail, rfl⟩ := hp
    have hbegins : name.toList <+: after ++ tail :=
      hlongest.begins.trans (List.prefix_append after tail)
    obtain ⟨longest, hlongest⟩ := Macro.exists_longest hlongest.mem hbegins
    exact hnone (.suppressed longest) ⟨after ++ tail, List.append_assoc _ _ _, hlongest⟩

end Masked

/-! ### The scan, piece by piece -/

namespace Marked

/-- No name is the first one if none stands at the beginning of the text. -/
lemma firstName?_eq_none {names : List (List Char)} (h : ∀ name ∈ names, ¬ name <+: cs) :
    firstName? names cs = none := by
  rw [firstName?, List.findSome?_eq_none_iff]
  intro name hname
  rw [Option.map_eq_none_iff, ← Option.not_isSome_iff_eq_none, Text.isSome_after?_iff]
  exact h name hname

/-- A name that is to be masked is put in a span, and the scan goes on after it. -/
lemma mask_found {item : Masked} (h : (Masked.lexicon table).Stands item cs)
    (hcut : cs = (Masked.lexicon table).spelling item ++ rest) :
    mask ((Macro.namesLongestFirst table).map String.toList) cs = ignoreChars item.name ++
      mask ((Macro.namesLongestFirst table).map String.toList) rest := by
  subst hcut
  rw [mask_eq]
  cases item with
  | reserved name =>
    have hfirst : firstName? reservedNames ((Masked.lexicon table).spelling (.reserved name) ++
        rest) = some (name, rest) := firstName?_of_mem_reservedNames h.1 rest
    rw [hfirst]
    rfl
  | suppressed name =>
    have hspelling : (Masked.lexicon table).spelling (.suppressed name) ++ rest =
        suppressMarker ++ (name.toList ++ rest) := List.append_assoc _ _ _
    rw [hspelling] at h ⊢
    have hreserved : firstName? reservedNames (suppressMarker ++ (name.toList ++ rest)) = none := by
      refine firstName?_eq_none fun reserved hreserved hbegins => ?_
      exact Masked.not_suppressMarker_of_mem_reservedNames hreserved hbegins
        (List.prefix_append _ _)
    have hname : firstName? ((Macro.namesLongestFirst table).map String.toList)
        (name.toList ++ rest) = some (name.toList, rest) := by
      obtain ⟨after, heq, hlongest⟩ := h
      obtain rfl := List.append_cancel_left heq
      exact hlongest.firstName?_eq
    rw [hreserved]
    dsimp only
    rw [Text.after?_append]
    dsimp only
    rw [hname]
    rfl

/-- A character that begins no marker is copied. -/
lemma mask_cons_of_ne (hc : c ≠ '#') (names : List (List Char)) (rest : List Char) :
    mask names (c :: rest) = c :: mask names rest := by
  have hmarker : Text.after? suppressMarker (c :: rest) = none := by
    simp [Text.after?, suppressMarker, Ne.symm hc]
  have hreserved : firstName? reservedNames (c :: rest) = none := by
    have hstart : ∀ name ∈ reservedNames, name.head? = some '#' := by decide
    refine firstName?_eq_none fun name hname hbegins => hc ?_
    obtain ⟨tail, htail⟩ := List.head?_eq_some_iff.1 (hstart name hname)
    rw [htail] at hbegins
    exact (List.cons_prefix_cons.1 hbegins).1.symm
  rw [mask_eq, hreserved]
  dsimp only
  rw [hmarker]

/-- Where there is nothing to mask, a character is copied, also if it belongs to a suppress marker
before no name. -/
lemma mask_copied (hnone : ∀ item, ¬ (Masked.lexicon table).Stands item (c :: rest)) :
    mask ((Macro.namesLongestFirst table).map String.toList) (c :: rest) =
      c :: mask ((Macro.namesLongestFirst table).map String.toList) rest := by
  have hreserved : firstName? reservedNames (c :: rest) = none := by
    refine firstName?_eq_none fun name hname hbegins => ?_
    exact hnone (.reserved name) ⟨hname, hbegins⟩
  rw [mask_eq, hreserved]
  dsimp only
  cases hafter : Text.after? suppressMarker (c :: rest) with
  | none => rfl
  | some after =>
    have hcs := Text.after?_eq_some.1 hafter
    obtain ⟨rfl, rfl⟩ : c = '#' ∧ rest = '!' :: after := by simpa [suppressMarker] using hcs
    have hname : firstName? ((Macro.namesLongestFirst table).map String.toList) after = none := by
      refine Macro.firstName?_eq_none_of_not_longest fun name hlongest => ?_
      exact hnone (.suppressed name) ⟨after, rfl, hlongest⟩
    -- the scan copies both characters of the marker at once, which comes to the same
    dsimp only
    rw [hname, mask_cons_of_ne (by decide)]
    rfl

/-- Live text is masked piece by piece. -/
lemma mask_eq_flatMap {pieces : List (Piece Masked)}
    (h : (Masked.lexicon table).Reading cs pieces) :
    mask ((Macro.namesLongestFirst table).map String.toList) cs =
      pieces.flatMap (Piece.written fun item => ignoreChars item.name) := by
  induction h with
  | done => rw [mask_eq]; rfl
  | copied hnone _ ih => rw [mask_copied hnone, ih]; rfl
  | found hstands hcut _ ih => rw [mask_found hstands hcut, ih]; rfl

end Marked

/-! ### Where pieces meet -/

namespace Masked

variable {pieces more : List (Piece Masked)}

/-- The text of a piece, with a span for a name that is masked. -/
def covered : Piece Masked → List Char := Piece.written fun item => Marked.ignoreChars item.name

/-- A masked text begins with a bracket only if the text did: a span begins otherwise. -/
lemma head?_of_reading (h : (lexicon table).Reading p pieces)
    (hhead : (pieces.flatMap covered ++ q).head? = some '[') : (p ++ q).head? = some '[' := by
  cases h with
  | done => exact hhead
  | copied _ _ => exact hhead
  | found _ _ _ =>
    have hmarker : some '#' = some '[' := hhead
    exact absurd hmarker (by decide)

/-- Live text without start markers is masked without new ones, but for those of the spans: where a
copied character meets what comes after it, no marker arises. -/
lemma segments_of_reading (hvalid : Macro.Valid table) (h : (lexicon table).Reading p pieces)
    (hp : Text.occurs Marked.startMarker p = false) (hq : q.head? ≠ some '[')
    (hmore : Marked.segments q = Piece.segments name more) :
    Marked.segments (pieces.flatMap covered ++ q) = Piece.segments name (pieces ++ more) := by
  induction h with
  | done => exact hmore
  | @copied c rest pieces _ hrest ih =>
    have hcons : Text.occurs Marked.startMarker ([c] ++ rest) = false := hp
    obtain ⟨-, hlive, hseam⟩ := Text.occurs_pair_append_eq_false_iff.1 hcons
    -- a start marker at this character would begin in the live text already
    have hno : ¬ Marked.startMarker <+: c :: (pieces.flatMap covered ++ q) := by
      intro hbegins
      obtain ⟨rfl, hbracket⟩ := List.cons_prefix_cons.1 hbegins
      have hhead := head?_of_reading hrest (List.singleton_prefix_iff_head?_eq_some.1 hbracket)
      cases rest with
      | nil => exact hq hhead
      | cons d rest => exact hseam ⟨rfl, hhead⟩
    change Marked.segments (c :: (pieces.flatMap covered ++ q)) = _
    rw [Marked.segments_cons hno, ih hlive]
    rfl
  | @found item cs rest pieces hstands hcut _ ih =>
    have hname := occurs_endMarker_of_stands hvalid hstands
    have hlive : Text.occurs Marked.startMarker rest = false := by
      rw [hcut] at hp
      exact (Text.occurs_pair_append_eq_false_iff.1 hp).2.1
    have hspan := Marked.segments_ignoreChars_append hname (pieces.flatMap covered ++ q)
    rw [ih hlive] at hspan
    rw [List.flatMap_cons, List.append_assoc]
    exact hspan

/-- The segments of a masked text are those that its pieces make up. -/
theorem segments_of_reads (hvalid : Macro.Valid table) (h : (lexicon table).Reads cs pieces) :
    Marked.segments (pieces.flatMap covered) = Piece.segments name pieces := by
  have hnil : Marked.segments [] = Piece.segments name [] := Marked.segments_nil
  have hempty : ([] : List Char).head? ≠ some '[' := by decide
  refine h.by_first_span (motive := fun _ pieces =>
    Marked.segments (pieces.flatMap covered) = Piece.segments name pieces) ?_ ?_ ?_
  · intro p pieces hp hread
    have hwhole := segments_of_reading hvalid hread hp hempty hnil
    rwa [List.append_nil, List.append_nil] at hwhole
  · intro p s first hp hs hread
    have hspan : [.span s false].flatMap covered = Marked.startMarker ++ s := by
      simp [covered, Piece.written, Marked.Segment.chars]
    have hlast : Marked.segments (Marked.startMarker ++ s) = [.ignored s false] :=
      Marked.segments_unclosed (p := []) (by decide) hs
    rw [List.flatMap_append, hspan]
    exact segments_of_reading hvalid hread hp (by simp [Marked.startMarker]) hlast
  · intro p s q first more hp hs hread hmore
    have hspan : Marked.segments (Marked.ignoreChars s ++ more.flatMap covered) =
        .ignored s true :: Piece.segments name more := by
      rw [← hmore]
      exact Marked.segments_ignoreChars_append hs _
    rw [List.flatMap_append]
    exact segments_of_reading hvalid hread hp (by simp [covered, Piece.written,
      Marked.Segment.chars, Marked.startMarker]) hspan

/-- Without markers, a masked text is made of what was copied and of the names. -/
lemma flatMap_stripped_segments (pieces : List (Piece Masked)) :
    (Piece.segments name pieces).flatMap Marked.Segment.stripped =
      pieces.flatMap (Piece.stripped name) := by
  induction pieces with
  | nil => rfl
  | cons piece rest ih =>
    cases piece with
    | char c => simp [Piece.segments, Piece.stripped, Marked.flatMap_stripped_consLive, ih]
    | span body closed => simp [Piece.segments, Piece.stripped, Marked.Segment.stripped, ih]
    | found item => simp [Piece.segments, Piece.stripped, Marked.Segment.stripped, ih]

/-! ### Masking what is masked -/

/-- A piece of a masked text: a name that was found is a span now. -/
def settled : Piece Masked → Piece Masked
  | .found item => .span item.name true
  | piece => piece

/-- The live text with which masked segments begin is a beginning of the text that was masked. -/
lemma begins_of_segments_eq (h : (lexicon table).Reading p pieces)
    (hmore : ∀ text rest, Piece.segments name more ≠ .live text :: rest) {text : List Char}
    {rest : List Marked.Segment}
    (heq : Piece.segments name (pieces ++ more) = .live text :: rest) : text <+: p := by
  induction h generalizing text rest with
  | done => exact absurd heq (hmore _ _)
  | @copied c others pieces _ _ ih =>
    have hcons : Marked.consLive c (Piece.segments name (pieces ++ more)) =
        .live text :: rest := heq
    unfold Marked.consLive at hcons
    split at hcons
    · next inner tail hinner =>
      obtain ⟨rfl, rfl⟩ : c :: inner = text ∧ tail = rest := by simpa using hcons
      exact List.cons_prefix_cons.2 ⟨rfl, ih hinner⟩
    · obtain ⟨rfl, -⟩ : [c] = text ∧ _ := by simpa using hcons
      exact List.cons_prefix_cons.2 ⟨rfl, List.nil_prefix⟩
  | found _ _ _ _ => cases heq

/-- In what is left of live text there is nothing to mask. -/
lemma settled_of_reading (h : (lexicon table).Reading p pieces)
    (hsegments : ∀ text rest, Piece.segments name more ≠ .live text :: rest)
    (hmore : (lexicon table).SegmentsReading (Piece.segments name more) (more.map settled)) :
    (lexicon table).SegmentsReading (Piece.segments name (pieces ++ more))
      ((pieces ++ more).map settled) := by
  induction h with
  | done => exact hmore
  | @copied c rest pieces hnone hrest ih =>
    change (lexicon table).SegmentsReading
      (Marked.consLive c (Piece.segments name (pieces ++ more)))
      (.char c :: (pieces ++ more).map settled)
    -- the live segment after this character ends where a name was found, if not before
    have hbegins : ∀ {text tail}, Piece.segments name (pieces ++ more) = .live text :: tail →
        text <+: rest := begins_of_segments_eq hrest hsegments
    generalize Piece.segments name (pieces ++ more) = segments at ih hbegins ⊢
    generalize (pieces ++ more).map settled = others at ih ⊢
    unfold Marked.consLive
    split
    · next text tail =>
      have hshorter : c :: text <+: c :: rest := List.cons_prefix_cons.2 ⟨rfl, hbegins rfl⟩
      cases ih with
      | live htext htail =>
        exact .live (.copied (not_stands_of_begins hnone hshorter) htext) htail
    · have hshorter : [c] <+: c :: rest := List.cons_prefix_cons.2 ⟨rfl, List.nil_prefix⟩
      exact .live (.copied (not_stands_of_begins hnone hshorter) .done) ih
  | found _ _ _ ih => exact .ignored ih

/-- A masked text is read as spans and characters that are copied. -/
theorem settled_of_reads (hvalid : Macro.Valid table) (h : (lexicon table).Reads cs pieces) :
    (lexicon table).Reads (pieces.flatMap covered) (pieces.map settled) := by
  rw [Lexicon.Reads, segments_of_reads hvalid h]
  refine h.by_first_span (motive := fun _ pieces =>
    (lexicon table).SegmentsReading (Piece.segments name pieces) (pieces.map settled)) ?_ ?_ ?_
  · intro p pieces _ hread
    have hnone : ∀ text rest, Piece.segments name [] ≠ .live text :: rest := by
      simp [Piece.segments]
    have hwhole := settled_of_reading hread hnone .nil
    rwa [List.append_nil] at hwhole
  · intro p s first _ _ hread
    exact settled_of_reading hread (by simp [Piece.segments]) (.ignored .nil)
  · intro p s q first more _ _ hread hmore
    exact settled_of_reading hread (by simp [Piece.segments]) (.ignored hmore)

/-- What is masked already is masked to itself. -/
lemma flatMap_covered_settled (pieces : List (Piece Masked)) :
    (pieces.map settled).flatMap covered = pieces.flatMap covered := by
  rw [List.flatMap_map]
  refine List.flatMap_congr fun piece _ => ?_
  cases piece <;> rfl

end Masked

namespace Engine

variable {s : Session} {pieces : List (Piece Masked)}

/-- The first pass masks a text piece by piece, and leaves the session alone. -/
theorem applyPass_builtin (h : (Masked.lexicon s.macros).Reads cs pieces) (exec : Exec) :
    applyPass exec .builtin cs s = (.done (pieces.flatMap Masked.covered), s) := by
  have hspan : ∀ body closed, (pure (Masked.covered (.span body closed)) : Engine (List Char)) =
      pure (Marked.Segment.ignored body closed).chars := fun _ _ => rfl
  have hlive : ∀ {text pieces}, (Masked.lexicon s.macros).Reading text pieces → ∀ limit,
      rewriteLive exec s .builtin limit text = (fun outs => (outs.flatten, limit)) <$>
        pieces.mapM fun piece => pure (Masked.covered piece) := by
    intro text pieces hread limit
    rw [rewriteLive, Marked.mask_eq_flatMap hread, List.mapM_pure, map_pure]
    rfl
  rw [applyPass_eq exec (by simp [passes_standard])]
  change (Prod.fst <$> rewriteSegments _ _ _) s = _
  rw [rewriteSegments_of_reading hspan hlive h, List.mapM_pure, map_pure, map_pure]
  rfl

/-- In every session with valid names of macros, the first pass reads every text in exactly one way:
reserved names, and the longest names of macros after suppress markers, are found from left to right
in live text, and all else is copied.  It returns the text with a span for each name that was found,
without the marker before it, and leaves the session alone.  The segments of this text are the spans
that were there, in their order, the new spans, and the live text that is left between them, as it
was: no marker arises where two pieces meet.  Without markers, the masked text differs from the text
only by the suppress markers of the names that were found.  And masking it once more changes
nothing. -/
theorem masks_names_only (hvalid : Macro.Valid s.macros) (exec : Exec) (cs : List Char) :
    (∃! pieces, (Masked.lexicon s.macros).Reads cs pieces) ∧
    ∀ pieces, (Masked.lexicon s.macros).Reads cs pieces →
      let out := pieces.flatMap (Piece.written fun item => Marked.ignoreChars item.name)
      pieces.flatMap (Piece.written fun item => item.marker ++ item.name) = cs ∧
      applyPass exec .builtin cs s = (.done out, s) ∧
      Marked.segments out = Piece.segments Masked.name pieces ∧
      Marked.stripChars cs = pieces.flatMap (Piece.stripped fun item => item.marker ++ item.name) ∧
      Marked.stripChars out = pieces.flatMap (Piece.stripped Masked.name) ∧
      applyPass exec .builtin out s = (.done out, s) := by
  refine ⟨(Masked.lawful_lexicon s.macros).existsUnique_reads cs, fun pieces h => ?_⟩
  have hsegments := Masked.segments_of_reads hvalid h
  refine ⟨h.flatMap_written, applyPass_builtin h exec, hsegments, h.flatMap_stripped.symm, ?_, ?_⟩
  · exact (congrArg (·.flatMap Marked.Segment.stripped) hsegments).trans
      (Masked.flatMap_stripped_segments pieces)
  · have hagain := applyPass_builtin (Masked.settled_of_reads hvalid h) exec
    rw [Masked.flatMap_covered_settled] at hagain
    exact hagain

/-- A text with a number sign before a suppress marker, a macro whose name begins with a bracket, a
reserved name right after it, and a span that holds a suppress marker and ends before a single
character. -/
theorem masks_names_only_between_brackets :
    let table : NameMap Macro := .ofList [("[", .text ""), ("[x", .text "")]
    let s := { Session.start {} standardRegistry .empty with macros := table }
    let out := "##[[x]##[#define]##[#![x]#!".toList
    Macro.Valid s.macros ∧
      applyPass call .builtin "##![x#define#[#![x]#!".toList s = (.done out, s) ∧
      Marked.segments out = [.live ['#'], .ignored "[x".toList true, .ignored "#define".toList true,
        .ignored "#![x".toList true, .live ['!']] ∧
      applyPass call .builtin out s = (.done out, s) := by
  intro table s out
  have hvalid : Macro.Valid s.macros := by
    have hnames : ∀ name ∈ table.names, Macro.checkName name = .ok () := by decide
    exact hnames
  have hnone : ∀ cs : List Char, (∀ name ∈ Marked.reservedNames, ¬ name <+: cs) →
      ¬ Marked.suppressMarker <+: cs → ∀ item, ¬ (Masked.lexicon table).Stands item cs := by
    intro cs hreserved hmarker item h
    cases item with
    | reserved name => exact hreserved name h.1 h.2
    | suppressed name =>
      obtain ⟨after, rfl, -⟩ := h
      exact hmarker (List.prefix_append _ _)
  have hreads : (Masked.lexicon table).Reads "##![x#define#[#![x]#!".toList
      [.char '#', .found (.suppressed "[x"), .found (.reserved "#define".toList),
        .span "#![x".toList true, .char '!'] := by
    have hsegments : Marked.segments "##![x#define#[#![x]#!".toList =
        [.live "##![x#define".toList, .ignored "#![x".toList true, .live ['!']] := by
      have hlast : Marked.segments ['!'] = [.live ['!']] :=
        Marked.segments_of_not_occurs (by decide)
      have hclosed := Marked.segments_closed (p := "##![x#define".toList) (s := "#![x".toList)
        (by decide) (by decide) ['!']
      rw [hlast] at hclosed
      exact hclosed
    have hsuppressed : (Masked.lexicon table).Stands (.suppressed "[x") "#![x#define".toList :=
      ⟨"[x#define".toList, by decide, by decide, by decide, by decide⟩
    have hreserved : (Masked.lexicon table).Stands (.reserved "#define".toList) "#define".toList :=
      ⟨by decide, by decide⟩
    rw [Lexicon.Reads, hsegments]
    refine .live (.copied (hnone _ (by decide) (by decide)) (.found hsuppressed (by decide)
      (.found hreserved (by decide) .done))) (.ignored ?_)
    exact .live (.copied (hnone _ (by decide) (by decide)) .done) .nil
  obtain ⟨-, hmasked, hsegments, -, -, hagain⟩ :=
    (masks_names_only hvalid call "##![x#define#[#![x]#!".toList).2 _ hreads
  exact ⟨hvalid, hmasked, hsegments, hagain⟩

end Engine

end LineShell

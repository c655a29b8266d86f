import LineShell.Proofs.MacroExpansion
import LineShell.Proofs.Masking

/-!
# A suppressed name comes through all passes

A suppress marker keeps the name after it from being expanded.  What does this is spread over the
whole pipeline: the first pass finds the name by a scan of its own and puts it in a span, the other
passes cut the text into segments again and leave the span alone, and in the end its markers are
stripped.

`Engine.suppressed_name_is_kept` says that all this works together.  The word is read by the first
pass as the name and then as what comes after it would be read (`Masked.reads_suppressed`), and a
span at the beginning of a text makes no difference to what a pass does with the rest
(`Engine.applyPass_ignoreChars_append`).  So the call is expanded as the one without marker and
name, with the same effects and the same error, and the name is put before what comes out.
-/

namespace LineShell

variable {table : NameMap Macro} {p r text : List Char}

namespace Marked

/-- What comes after a beginning of the first live segment is cut into the rest of that segment and
the other segments. -/
lemma segments_of_live_append {more : List Segment}
    (h : segments (p ++ r) = .live (p ++ text) :: more) :
    segments r = liveSegment text ++ more := by
  have hfirst : ∀ {before : List Char} {others : List Segment},
      (∀ text rest, others ≠ .live text :: rest) →
      liveSegment before ++ others = .live (p ++ text) :: more →
      before = p ++ text ∧ others = more := by
    intro before others hothers heq
    unfold liveSegment at heq
    split at heq
    · exact absurd heq (hothers _ _)
    · simpa using heq
  rw [segments_eq] at h
  cases hcut : Text.cut? startMarker (p ++ r) with
  | none =>
    rw [hcut, ← List.append_nil (liveSegment (p ++ r))] at h
    obtain ⟨heq, rfl⟩ := hfirst (by simp) h
    obtain rfl := List.append_cancel_left heq
    have hlive := Text.occurs_pair_append_eq_false_iff.1 (Text.cut?_eq_none_iff.1 hcut)
    rw [segments_of_not_occurs hlive.2.1, List.append_nil]
  | some found =>
    obtain ⟨before, after⟩ := found
    have hrest : before = p ++ text → Text.cut? startMarker r = some (text, after) := by
      rintro rfl
      have hr : r = text ++ startMarker ++ after := by
        have hwhole := Text.eq_append_of_cut? hcut
        simp only [List.append_assoc] at hwhole ⊢
        exact List.append_cancel_left hwhole
      have hlive := Text.occurs_pair_append_eq_false_iff.1 (Text.occurs_pair_eq_false_of_cut? hcut)
      rw [hr, cut?_startMarker hlive.2.1]
    rw [hcut] at h
    dsimp only at h
    cases hend : Text.cut? endMarker after with
    | none =>
      rw [hend] at h
      obtain ⟨hbefore, rfl⟩ := hfirst (by simp) h
      rw [segments_eq, hrest hbefore]
      dsimp only
      rw [hend]
    | some found =>
      rw [hend] at h
      obtain ⟨hbefore, rfl⟩ := hfirst (by simp) h
      rw [segments_eq, hrest hbefore]
      dsimp only
      rw [hend]

/-- Without markers, a span at the beginning of a text is its body. -/
lemma stripChars_ignoreChars_append {body : List Char} (h : Text.occurs endMarker body = false)
    (cs : List Char) : stripChars (ignoreChars body ++ cs) = body ++ stripChars cs := by
  rw [stripChars, segments_ignoreChars_append h]
  rfl

end Marked

/-- A word that begins with a suppress marker before the longest name of a macro is read as that
name, and then as what comes after it. -/
lemma Masked.reads_suppressed {name : String} {after : List Char} {pieces : List (Piece Masked)}
    (hlive : (Marked.segments (Marked.suppressMarker ++ name.toList ++ r)).head? =
      some (.live (Marked.suppressMarker ++ after)))
    (hlongest : Macro.Longest table name after) (h : (lexicon table).Reads r pieces) :
    (lexicon table).Reads (Marked.suppressMarker ++ name.toList ++ r)
      (.found (.suppressed name) :: pieces) := by
  obtain ⟨text, rfl⟩ := hlongest.begins
  obtain ⟨more, hsegments⟩ := List.head?_eq_some_iff.1 hlive
  rw [← List.append_assoc] at hsegments
  unfold Lexicon.Reads at h ⊢
  rw [Marked.segments_of_live_append hsegments] at h
  obtain ⟨first, others, hfirst, hothers, rfl⟩ := h.of_liveSegment_append
  rw [hsegments]
  have hstands : (lexicon table).Stands (.suppressed name)
      (Marked.suppressMarker ++ name.toList ++ text) :=
    ⟨name.toList ++ text, List.append_assoc _ _ _, hlongest⟩
  exact .live (.found hstands rfl hfirst) hothers

namespace Engine

variable {α β : Type} {exec : Exec} {s : Session}

/-! ### A span at the beginning of a text -/

/-- What a pass does with a text is the same after a span. -/
lemma applyPass_ignoreChars_append {pass : Pass} (hpass : pass ∈ Pipeline.standard.passes)
    {body : List Char} (h : Text.occurs Marked.endMarker body = false) (cs : List Char) :
    applyPass exec pass (Marked.ignoreChars body ++ cs) =
      (Marked.ignoreChars body ++ ·) <$> applyPass exec pass cs := by
  rw [applyPass_eq exec hpass, applyPass_eq exec hpass, Marked.segments_ignoreChars_append h,
    map_bind]
  refine bind_congr fun s => ?_
  simp [rewriteSegments, Marked.Segment.chars, Marked.ignoreChars]

/-- What is done with one entry of a list before an action is done after it, if the action allows
that. -/
lemma mapM_modify {action : α → Engine β} {f : α → α} {g : β → β}
    (h : ∀ a, action (f a) = g <$> action a) (entries : List α) (i : Nat) :
    (entries.modify i f).mapM action = (·.modify i g) <$> entries.mapM action := by
  induction entries generalizing i with
  | nil => simp
  | cons a rest ih =>
    cases i with
    | zero => simp [List.mapM_cons, h]
    | succ i => simp [List.mapM_cons, ih]

/-- What the passes do with the texts of a call is the same if one of them comes after a span. -/
lemma applyPasses_modify {passes : List Pass} (hpasses : passes ⊆ Pipeline.standard.passes)
    {body : List Char} (h : Text.occurs Marked.endMarker body = false) (texts : List (List Char))
    (i : Nat) :
    applyPasses exec passes (texts.modify i (Marked.ignoreChars body ++ ·)) =
      (·.modify i (Marked.ignoreChars body ++ ·)) <$> applyPasses exec passes texts := by
  induction passes generalizing texts with
  | nil => simp [applyPasses]
  | cons pass rest ih =>
    have hrest := ih fun _ hother => hpasses (List.mem_cons_of_mem pass hother)
    have hpass : ∀ cs, applyPass exec pass (Marked.ignoreChars body ++ cs) =
        (Marked.ignoreChars body ++ ·) <$> applyPass exec pass cs :=
      applyPass_ignoreChars_append (hpasses List.mem_cons_self) h
    rw [applyPasses, applyPasses, mapM_modify hpass, bind_map_left, map_bind]
    exact bind_congr fun outs => hrest outs

/-- The entry after a first part of a list is changed. -/
lemma modify_length_append (f : α → α) (front back : List α) (a : α) :
    (front ++ a :: back).modify front.length f = front ++ f a :: back := by
  induction front with
  | nil => rfl
  | cons b front ih => exact congrArg (b :: ·) ih

/-- One entry of a list is changed after all entries are mapped, or before. -/
lemma map_modify {f : α → β} {g : α → α} {h : β → β} (hcomm : ∀ a, f (g a) = h (f a))
    (entries : List α) (i : Nat) : (entries.modify i g).map f = (entries.map f).modify i h := by
  induction entries generalizing i with
  | nil => simp
  | cons a rest ih =>
    cases i with
    | zero => simp [hcomm]
    | succ i => simp [ih]

/-- The passes return no fewer texts than they are given. -/
lemma exists_cons_of_applyPasses {passes : List Pass} {first : List Char}
    {rest outs : List (List Char)} {t : Session}
    (h : applyPasses exec passes (first :: rest) s = (.done outs, t)) :
    ∃ name args, outs = name :: args := by
  induction passes generalizing first rest s with
  | nil =>
    obtain rfl := Routine.eq_of_pure_eq_done h
    exact ⟨first, rest, rfl⟩
  | cons pass others ih =>
    obtain ⟨texts, u, htexts, hothers⟩ := Routine.exists_of_bind_eq_done h
    rw [List.mapM_cons] at htexts
    obtain ⟨name, v, -, hnext⟩ := Routine.exists_of_bind_eq_done htexts
    obtain ⟨args, w, -, hpure⟩ := Routine.exists_of_bind_eq_done hnext
    obtain rfl := Routine.eq_of_pure_eq_done hpure
    exact ih hothers

/-- Actions that return and leave the session alone do so one after the other. -/
lemma mapM_of_done {action : α → Engine β} {f : α → β} (h : ∀ a, action a s = (.done (f a), s))
    (entries : List α) : entries.mapM action s = (.done (entries.map f), s) := by
  induction entries with
  | nil => rfl
  | cons a rest ih =>
    rw [List.mapM_cons, bind_of_done (h a), bind_of_done ih]
    rfl

/-! ### A suppressed name -/

/-- The first pass returns, and leaves the session alone. -/
lemma exists_applyPass_builtin (exec : Exec) (s : Session) (cs : List Char) :
    ∃ out, applyPass exec .builtin cs s = (.done out, s) := by
  obtain ⟨pieces, hreads, -⟩ := (Masked.lawful_lexicon s.macros).existsUnique_reads cs
  exact ⟨_, applyPass_builtin hreads exec⟩

/-- The first pass puts a suppressed name in a span, and does with what comes after it what it would
do without the name. -/
lemma applyPass_builtin_suppressed {name : String} {after : List Char}
    (hlive : (Marked.segments (Marked.suppressMarker ++ name.toList ++ r)).head? =
      some (.live (Marked.suppressMarker ++ after)))
    (hlongest : Macro.Longest s.macros name after) (exec : Exec) :
    applyPass exec .builtin (Marked.suppressMarker ++ name.toList ++ r) s =
      ((Marked.ignoreChars name.toList ++ ·) <$> applyPass exec .builtin r) s := by
  obtain ⟨pieces, hreads, -⟩ := (Masked.lawful_lexicon s.macros).existsUnique_reads r
  have hword := applyPass_builtin (Masked.reads_suppressed hlive hlongest hreads) exec
  rw [hword, map_of_done (applyPass_builtin hreads exec)]
  rfl

/-- All passes keep a suppressed name, and do with what comes after it what they would do without
the name. -/
lemma applyPasses_suppressed (hvalid : Macro.Valid s.macros) {name : String} {after : List Char}
    (hlive : (Marked.segments (Marked.suppressMarker ++ name.toList ++ r)).head? =
      some (.live (Marked.suppressMarker ++ after)))
    (hlongest : Macro.Longest s.macros name after) (exec : Exec) (front back : List (List Char)) :
    applyPasses exec Pipeline.standard.passes
        (front ++ (Marked.suppressMarker ++ name.toList ++ r) :: back) s =
      ((·.modify front.length (Marked.ignoreChars name.toList ++ ·)) <$>
        applyPasses exec Pipeline.standard.passes (front ++ r :: back)) s := by
  have hname := Macro.occurs_endMarker_of_checkName (hvalid name hlongest.mem)
  have hrest : [.macros, .variables, .memory] ⊆ Pipeline.standard.passes := by
    rw [passes_standard]
    exact List.subset_cons_self _ _
  choose masked hmasked using exists_applyPass_builtin exec s
  have hword : masked (Marked.suppressMarker ++ name.toList ++ r) =
      Marked.ignoreChars name.toList ++ masked r := by
    have hfirst := applyPass_builtin_suppressed hlive hlongest exec
    rw [hmasked, map_of_done (hmasked r)] at hfirst
    exact Outcome.done.inj (Prod.mk.inj hfirst).1
  have htexts : (front ++ (Marked.suppressMarker ++ name.toList ++ r) :: back).map masked =
      ((front ++ r :: back).map masked).modify front.length
        (Marked.ignoreChars name.toList ++ ·) := by
    have hlength : front.length = (front.map masked).length := (List.length_map masked).symm
    rw [List.map_append, List.map_append, List.map_cons, List.map_cons, hword, hlength,
      modify_length_append]
  rw [passes_standard, applyPasses, applyPasses, bind_of_done (mapM_of_done hmasked _), htexts,
    applyPasses_modify hrest hname, map_bind, bind_of_done (mapM_of_done hmasked _)]

/-- If the passes make the same of two calls but for a span before an argument, then so does the
whole expansion, but for the body of the span. -/
lemma expandCall_of_applyPasses (hstrip : s.stripMarkers = true) {fuel : Nat} {command : String}
    (hcommand : Marked.isReserved command = false) {args others : List String} {body : String}
    (hbody : Text.occurs Marked.endMarker body.toList = false) {i : Nat}
    (h : applyPasses (execute fuel) s.pipeline.passes
        (command.toList :: others.map String.toList) s =
      ((·.modify (i + 1) (Marked.ignoreChars body.toList ++ ·)) <$>
        applyPasses (execute fuel) s.pipeline.passes
          (command.toList :: args.map String.toList)) s) :
    expandCall (execute fuel) command others s =
      ((fun (command, args) => (command, args.modify i (body ++ ·))) <$>
        expandCall (execute fuel) command args) s := by
  have hsetup := (Routine.regular_applyPasses s.pipeline.passes
    (command.toList :: args.map String.toList)).setup_eq fuel s
  rcases hrun : applyPasses (execute fuel) s.pipeline.passes
    (command.toList :: args.map String.toList) s with ⟨outs | e | p | r, t⟩
  · obtain ⟨first, texts, rfl⟩ := exists_cons_of_applyPasses hrun
    have hkept : t.stripMarkers = true := by
      rw [hrun] at hsetup
      exact (congrArg Setup.stripMarkers hsetup).trans hstrip
    have hothers : applyPasses (execute fuel) s.pipeline.passes
        (command.toList :: others.map String.toList) s =
          (.done (first :: texts.modify i (Marked.ignoreChars body.toList ++ ·)), t) :=
      h.trans (map_of_done hrun _)
    have hstripped : ∀ text : List Char,
        String.ofList (Marked.stripChars (Marked.ignoreChars body.toList ++ text)) =
          body ++ String.ofList (Marked.stripChars text) := by
      intro text
      rw [Marked.stripChars_ignoreChars_append hbody, String.ofList_append, String.ofList_toList]
    rw [expandCall_of_done hcommand hothers hkept,
      map_of_done (expandCall_of_done hcommand hrun hkept), List.map_map, List.map_map,
      map_modify hstripped]
  all_goals
    change _ = Engine.bind (expandCall (execute fuel) command args) _ s
    change _ = Engine.bind (applyPasses _ _ _) _ s at h
    simp only [Engine.bind, expandCall_eq hcommand, h, hrun]

/-- In every session with the passes of the interpreter in which markers are stripped and the names
of macros are valid, let an argument of a call that defines nothing begin with a suppress marker,
and let a name be the longest name of a macro with which the live text after the marker begins.
Then this is the macro that would be replaced at that place.  And the call is expanded as it is with
only what comes after the name in place of that argument, with the same effects on the session and
the same error if there is one, but the name comes before what becomes of this argument. -/
theorem suppressed_name_is_kept (hpipeline : s.pipeline = .standard)
    (hstrip : s.stripMarkers = true) (hvalid : Macro.Valid s.macros) (fuel : Nat)
    {command : String} (hcommand : Marked.isReserved command = false) {name rest : String}
    {after : List Char}
    (hlive : (Marked.segments ("#!" ++ name ++ rest).toList).head? =
      some (.live (Marked.suppressMarker ++ after)))
    (hlongest : Macro.Longest s.macros name after) (front back : List String) :
    (∃ body, s.macros.find? name = some body ∧ ∀ exec,
      expandMacros exec (Macro.entriesLongestFirst s.macros) 0 after = (do
        let out ← produce exec name body
        (out.toList ++ ·) <$>
          expandMacros exec (Macro.entriesLongestFirst s.macros) 0 (after.drop name.length))) ∧
    expandCall (execute fuel) command (front ++ ("#!" ++ name ++ rest) :: back) s =
      ((fun (command, args) => (command, args.modify front.length (name ++ ·))) <$>
        expandCall (execute fuel) command (front ++ rest :: back)) s := by
  have hmarker : ("#!" ++ name ++ rest).toList =
      Marked.suppressMarker ++ name.toList ++ rest.toList := by
    rw [String.toList_append, String.toList_append]
    rfl
  have hname := hvalid name hlongest.mem
  constructor
  · obtain ⟨body, hbody⟩ := NameMap.exists_find? hlongest.mem
    have hfirst := (Macro.arranged_entriesLongestFirst s.macros).firstEntry?_eq_some_iff.2
      ⟨hlongest, hbody⟩
    obtain ⟨text, rfl⟩ := hlongest.begins
    have hdrop : (name.toList ++ text).drop name.length = text := List.drop_left
    refine ⟨body, hbody, fun exec => ?_⟩
    rw [hdrop, expandMacros_found (Macro.ne_empty_of_checkName hname) hfirst]
  · rw [hmarker] at hlive
    have hpasses := applyPasses_suppressed hvalid hlive hlongest (execute fuel)
      (command.toList :: front.map String.toList) (back.map String.toList)
    refine expandCall_of_applyPasses hstrip hcommand
      (Macro.occurs_endMarker_of_checkName hname) ?_
    rw [hpipeline]
    simpa [hmarker] using hpasses

/-- A name that ends in a bracket, right before a span, so that the bracket and the first character
of the start marker look like an end marker; a shorter name is replaced after the span. -/
theorem suppressed_name_is_kept_before_span :
    let table : NameMap Macro := .ofList [("a", .text "y"), ("a]", .text "x")]
    let s := { Session.start {} standardRegistry .empty with macros := table }
    Macro.Longest table "a]" "a]".toList ∧
      expandCall (execute 0) "print" ["b", "#!a]#[q]#a"] s =
        ((fun (command, args) => (command, args.modify 1 ("a]" ++ ·))) <$>
          expandCall (execute 0) "print" ["b", "#[q]#a"]) s := by
  intro table s
  have hvalid : Macro.Valid s.macros := by
    have hnames : ∀ name ∈ table.names, Macro.checkName name = .ok () := by decide
    exact hnames
  have hlive : (Marked.segments ("#!" ++ "a]" ++ "#[q]#a").toList).head? =
      some (.live (Marked.suppressMarker ++ "a]".toList)) := by decide +kernel
  have hlongest : Macro.Longest table "a]" "a]".toList := ⟨by decide, by decide, by decide⟩
  have hcommand : Marked.isReserved "print" = false := by decide
  have hkept := suppressed_name_is_kept rfl rfl hvalid 0 hcommand hlive hlongest ["b"] []
  exact ⟨hlongest, hkept.2⟩

end Engine

end LineShell

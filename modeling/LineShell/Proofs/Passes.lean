import LineShell.Proofs.Change
import LineShell.Proofs.Quotation
import LineShell.Proofs.Segmentation
import LineShell.Session.Interpreter

/-!
# Passes work segment by segment

The four passes of the interpreter are written in different ways: two map over the segments of a
text, two thread something through them, and some return a text at once if there is nothing to do.
`Engine.applyPass_eq` says that nevertheless they all do the same thing: from left to right they
rewrite each live segment for itself and copy each ignore span.  Only the number of references that
may still be replaced goes from one segment to the next.

So a text that is one ignore span goes through the passes as it is, in every session and without
touching it.  Since quoted words are read back, every call can be written as a line
(`Engine.runLine_quotedLine_ignore`).
-/

namespace LineShell

namespace Marked

variable {s : List Char}

/-- The segments of a text put together are the text. -/
lemma flatMap_chars_segments (cs : List Char) : (segments cs).flatMap Segment.chars = cs := by
  have hlive : ∀ p, (liveSegment p).flatMap Segment.chars = p := by
    intro p
    unfold liveSegment
    split
    · next hempty => simp [List.isEmpty_iff.1 hempty]
    · simp [Segment.chars]
  induction cs using segments_cases with
  | live p hp => rw [segments_of_not_occurs hp, hlive]
  | unclosed p s hp hs =>
    rw [segments_unclosed hp hs, List.flatMap_append, hlive]
    simp [Segment.chars]
  | closed p s q hp hs ih =>
    rw [segments_closed hp hs, List.flatMap_append, hlive, List.flatMap_cons, ih]
    simp [Segment.chars, ignoreChars]

/-- A span at the beginning of a text is a segment, and what comes after it is cut by itself. -/
lemma segments_ignoreChars_append (hs : Text.occurs endMarker s = false) (q : List Char) :
    segments (ignoreChars s ++ q) = .ignored s true :: segments q :=
  segments_closed (p := []) (by decide) hs q

/-- A text in an ignore span is one segment. -/
lemma segments_ignoreChars (hs : Text.occurs endMarker s = false) :
    segments (ignoreChars s) = [.ignored s true] := by
  have hclosed := segments_ignoreChars_append hs []
  rwa [List.append_nil, segments_nil] at hclosed

/-- Without markers, a text in an ignore span is the text. -/
lemma stripChars_ignoreChars (hs : Text.occurs endMarker s = false) :
    stripChars (ignoreChars s) = s := by
  rw [stripChars, segments_ignoreChars hs]
  simp [Segment.stripped]

end Marked

namespace Engine

open Marked (Segment)

variable {α : Type} {exec : Exec} {limit : Option Nat} {text cs : List Char}

/-- Putting actions together is lawful. -/
instance : LawfulMonad Engine :=
  LawfulMonad.mk' Engine
    (fun action => by
      funext s
      change Engine.bind action _ s = action s
      unfold Engine.bind
      rcases action s with ⟨a | e | p | r, t⟩ <;> rfl)
    (fun _ _ => rfl)
    (fun action next last => by
      funext s
      change Engine.bind (Engine.bind action next) last s =
        Engine.bind action (fun a => Engine.bind (next a) last) s
      unfold Engine.bind
      rcases action s with ⟨a | e | p | r, t⟩ <;> rfl)

/-- What would come after an action that does not return is not begun. -/
lemma bind_of_not_done {action : Engine Unit} {s : Session} (h : (action s).1 ≠ .done ())
    (next : Unit → Engine Unit) : (action >>= next) s = action s := by
  change Engine.bind action next s = action s
  rw [Engine.bind]
  rcases hended : action s with ⟨a | e | p | r, t⟩
  · exact absurd (congrArg Prod.fst hended) h
  all_goals rfl

/-- What is done with a value that was returned. -/
lemma map_of_done {β : Type} {action : Engine α} {s t : Session} {a : α}
    (h : action s = (.done a, t)) (f : α → β) : (f <$> action) s = (.done (f a), t) := by
  rw [← bind_pure_comp, bind_of_done h]
  rfl

/-! ### Rewriting segments -/

/-- Segments with the live ones rewritten, one after the other.  What is left of the limit goes
along. -/
def rewriteSegments (live : Option Nat → List Char → Engine (List Char × Option Nat))
    (limit : Option Nat) : List Segment → Engine (List Char × Option Nat)
  | [] => pure ([], limit)
  | .live text :: rest => do
    let (out, limit) ← live limit text
    let (more, limit) ← rewriteSegments live limit rest
    return (out ++ more, limit)
  | ignored :: rest => do
    let (more, limit) ← rewriteSegments live limit rest
    return (ignored.chars ++ more, limit)

/-- Runs a computation on the active stack. -/
def onActive (compute : Stack → Except Error α × Stack) : Engine α := fun s =>
  match compute s.memory.active with
  | (.ok a, active) => (.done a, { s with memory := { s.memory with active } })
  | (.error e, active) => (.failed e, { s with memory := { s.memory with active } })

/-- What a pass makes of one live segment of a text, and what is left of the limit.  The macros and
the variables are those of the session in which the pass came to the text. -/
def rewriteLive (exec : Exec) (s : Session) (pass : Pass) (limit : Option Nat)
    (text : List Char) : Engine (List Char × Option Nat) :=
  match pass with
  | .builtin =>
    pure (Marked.mask ((Macro.namesLongestFirst s.macros).map String.toList) text, limit)
  | .macros => (·, limit) <$> expandMacros exec (Macro.entriesLongestFirst s.macros) 0 text
  | .variables =>
    (fun (out, used) => (out, limit.map (· - used))) <$>
      ofExcept (Interpolation.scan s.scopes.load limit 0 text)
  | .memory => (·, limit) <$> onActive (Escape.expandLive · text)
  | .custom pass =>
    (fun out => (out.toList, limit)) <$> exec.callback (.pass pass (String.ofList text))

/-- Two parts of a text are rewritten one after the other. -/
lemma rewriteSegments_append (live : Option Nat → List Char → Engine (List Char × Option Nat))
    (limit : Option Nat) (first second : List Segment) :
    rewriteSegments live limit (first ++ second) = (do
      let (out, limit) ← rewriteSegments live limit first
      let (more, limit) ← rewriteSegments live limit second
      return (out ++ more, limit)) := by
  induction first generalizing limit with
  | nil => simp [rewriteSegments]
  | cons segment rest ih => cases segment <;> simp [rewriteSegments, ih]

/-- Where nothing is rewritten, the segments are copied. -/
lemma rewriteSegments_of_pure {live : Option Nat → List Char → Engine (List Char × Option Nat)}
    {segments : List Segment}
    (h : ∀ text, .live text ∈ segments → live limit text = pure (text, limit)) :
    rewriteSegments live limit segments = pure (segments.flatMap Segment.chars, limit) := by
  induction segments with
  | nil => rfl
  | cons segment rest ih =>
    have hrest := ih fun text hmem => h text (List.mem_cons_of_mem _ hmem)
    cases segment with
    | live text => simp [rewriteSegments, h text List.mem_cons_self, hrest, Segment.chars]
    | ignored body closed => simp [rewriteSegments, hrest]

/-- Expanding the live segments of a text rewrites its segments. -/
lemma mapLive_eq (expand : List Char → Engine (List Char)) (limit : Option Nat) (cs : List Char) :
    Marked.mapLive expand cs = Prod.fst <$>
      rewriteSegments (fun limit text => (·, limit) <$> expand text) limit
        (Marked.segments cs) := by
  -- stated for any function that does the same, since the two are written apart
  have hsegments : ∀ piece : Segment → Engine (List Char),
      (∀ text, piece (.live text) = expand text) →
      (∀ body closed, piece (.ignored body closed) = pure (Segment.ignored body closed).chars) →
      ∀ segments : List Segment,
        (do
          let pieces ← segments.mapM piece
          return pieces.flatten) =
        Prod.fst <$> rewriteSegments (fun limit text => (·, limit) <$> expand text) limit
          segments := by
    intro piece hlive hignored segments
    have hpieces : rewriteSegments (fun limit text => (·, limit) <$> expand text) limit segments =
        (fun pieces => (pieces.flatten, limit)) <$> segments.mapM piece := by
      induction segments with
      | nil => simp [rewriteSegments]
      | cons segment rest ih =>
        cases segment <;> simp [rewriteSegments, List.mapM_cons, hlive, hignored, ih]
    rw [hpieces, Functor.map_map, bind_pure_comp]
  exact hsegments _ (fun _ => rfl) (fun _ _ => rfl) (Marked.segments cs)

/-- Without macros live text is left as it is. -/
lemma expandMacros_nil (exec : Exec) (text : List Char) :
    expandMacros exec [] 0 text = pure text := by
  induction text with
  | nil => rfl
  | cons c rest ih => simp [expandMacros, firstEntry?, ih]

/-- An empty table has no entries. -/
lemma entriesLongestFirst_of_isEmpty {table : NameMap Macro} (h : table.isEmpty = true) :
    Macro.entriesLongestFirst table = [] := by
  have hentries : table.entries = [] := List.isEmpty_iff.1 h
  simp [Macro.entriesLongestFirst, Macro.namesLongestFirst, NameMap.names, hentries]

/-- Returning a value or failing, and what is done with the value. -/
lemma ofExcept_map {β : Type} (f : α → β) (x : Except Error α) :
    ofExcept (f <$> x) = f <$> ofExcept x := by
  cases x <;> rfl

/-- Returning a value or failing, and what comes after the value. -/
lemma ofExcept_bind {β : Type} (x : Except Error α) (next : α → Except Error β) :
    ofExcept (x >>= next) = (ofExcept x >>= fun a => ofExcept (next a)) := by
  cases x <;> rfl

/-- Replacing the references of segments rewrites the segments. -/
lemma ofExcept_expandSegments (exec : Exec) (s : Session) (limit : Option Nat)
    (segments : List Segment) :
    ofExcept (Interpolation.expandSegments s.scopes limit segments) =
      Prod.fst <$> rewriteSegments (rewriteLive exec s .variables) limit segments := by
  induction segments generalizing limit with
  | nil => rfl
  | cons segment rest ih =>
    cases segment <;>
      simp [Interpolation.expandSegments, rewriteSegments, rewriteLive, ofExcept_bind,
        ofExcept_map, ih]

/-- Text without a caret is left as it is. -/
lemma expandLive_of_not_mem (h : Escape.caret ∉ text) (stack : Stack) :
    Escape.expandLive stack text = (.ok text, stack) := by
  induction text with
  | nil => rfl
  | cons c rest ih =>
    have hc : c ≠ '^' := fun hc => h (by simp [hc, Escape.caret])
    have hrest := ih fun hmem => h (List.mem_cons_of_mem c hmem)
    rw [Escape.expandLive, hrest]
    · rfl
    · simp [hc]
    · simp [hc]

/-- One computation on the active stack after another. -/
lemma onActive_bind {β : Type} (first : Stack → Except Error α × Stack)
    (next : α → Stack → Except Error β × Stack) :
    (onActive first >>= fun a => onActive (next a)) = onActive fun stack =>
      match first stack with
      | (.ok a, stack) => next a stack
      | (.error e, stack) => (.error e, stack) := by
  funext s
  change Engine.bind (onActive first) _ s = _
  simp only [Engine.bind, onActive]
  rcases first s.memory.active with ⟨e | a, active⟩ <;> rfl

/-- What is done with the value of a computation on the active stack. -/
lemma onActive_map {β : Type} (f : α → β) (compute : Stack → Except Error α × Stack) :
    f <$> onActive compute = onActive fun stack =>
      ((compute stack).1.map f, (compute stack).2) := by
  funext s
  change Engine.bind (onActive compute) _ s = _
  simp only [Engine.bind, onActive]
  rcases compute s.memory.active with ⟨e | a, active⟩ <;> rfl

/-- Replacing the escapes of segments rewrites the segments. -/
lemma onActive_expandSegments (exec : Exec) (s : Session) (limit : Option Nat)
    (segments : List Segment) :
    onActive (Escape.expandSegments · segments) =
      Prod.fst <$> rewriteSegments (rewriteLive exec s .memory) limit segments := by
  induction segments with
  | nil => rfl
  | cons segment rest ih =>
    cases segment with
    | live text =>
      have hfirst : onActive (Escape.expandSegments · (.live text :: rest)) =
          (onActive (Escape.expandLive · text) >>= fun out =>
            (out ++ ·) <$> onActive (Escape.expandSegments · rest)) := by
        simp only [onActive_map, onActive_bind, Escape.expandSegments]
        congr 1
        funext stack
        rcases Escape.expandLive stack text with ⟨e | out, left⟩ <;> rfl
      rw [hfirst, ih]
      simp [rewriteSegments, rewriteLive]
    | ignored body closed =>
      have hfirst : onActive (Escape.expandSegments · (.ignored body closed :: rest)) =
          ((Segment.ignored body closed).chars ++ ·) <$>
            onActive (Escape.expandSegments · rest) := by
        simp only [onActive_map, Escape.expandSegments]
      rw [hfirst, ih]
      simp [rewriteSegments]

/-- A text without a caret is left as it is. -/
lemma onActive_expandLive_of_not_mem (h : Escape.caret ∉ text) :
    onActive (Escape.expandLive · text) = pure text := by
  funext s
  simp only [onActive, expandLive_of_not_mem h]
  rfl

/-! ### The passes of the interpreter -/

/-- Where nothing is rewritten, a text is left as it is. -/
lemma map_rewriteSegments_of_pure
    {live : Option Nat → List Char → Engine (List Char × Option Nat)}
    (h : ∀ text, .live text ∈ Marked.segments cs → live limit text = pure (text, limit)) :
    Prod.fst <$> rewriteSegments live limit (Marked.segments cs) = pure cs := by
  rw [rewriteSegments_of_pure h, Marked.flatMap_chars_segments]
  rfl

/-- The pass that replaces memory escapes works on the active stack. -/
lemma applyPass_memory (exec : Exec) (cs : List Char) :
    applyPass exec .memory cs = onActive (Escape.expand · cs) := by
  funext s
  unfold applyPass
  change Engine.bind get _ s = _
  simp only [Engine.bind, get, onActive]
  rcases Escape.expand s.memory.active cs with ⟨e | out, active⟩ <;> rfl

/-- The passes of the interpreter, in their order. -/
lemma passes_standard : Pipeline.standard.passes = [.builtin, .macros, .variables, .memory] := rfl

/-- A pass of the interpreter rewrites the segments of a text, from left to right. -/
theorem applyPass_eq (exec : Exec) {pass : Pass} (hpass : pass ∈ Pipeline.standard.passes)
    (cs : List Char) :
    applyPass exec pass cs = (do
      let s ← get
      Prod.fst <$> rewriteSegments (rewriteLive exec s pass) s.interpolationLimit
        (Marked.segments cs)) := by
  cases pass with
  | builtin => exact bind_congr fun s => mapLive_eq _ s.interpolationLimit cs
  | macros =>
    refine bind_congr fun s => ?_
    dsimp only
    split
    · next hempty =>
      refine (map_rewriteSegments_of_pure fun text _ => ?_).symm
      simp [rewriteLive, entriesLongestFirst_of_isEmpty hempty, expandMacros_nil]
    · exact mapLive_eq _ s.interpolationLimit cs
  | «variables» =>
    exact bind_congr fun s => ofExcept_expandSegments exec s s.interpolationLimit _
  | memory =>
    rw [applyPass_memory]
    have hsame : ∀ s : Session, onActive (Escape.expand · cs) =
        Prod.fst <$> rewriteSegments (rewriteLive exec s .memory) s.interpolationLimit
          (Marked.segments cs) := by
      intro s
      unfold Escape.expand
      by_cases hcaret : cs.contains Escape.caret = true
      · simp only [hcaret, if_true]
        exact onActive_expandSegments exec s s.interpolationLimit _
      · simp only [hcaret]
        -- a caret of a segment would be one of the text
        refine Eq.symm (map_rewriteSegments_of_pure fun text hmem => ?_)
        have hnot : Escape.caret ∉ text := by
          intro hin
          refine hcaret (List.contains_iff_mem.2 ?_)
          rw [← Marked.flatMap_chars_segments cs]
          exact List.mem_flatMap.2 ⟨_, hmem, hin⟩
        simp [rewriteLive, onActive_expandLive_of_not_mem hnot]
    funext s
    exact congrFun (hsame s) s
  | custom pass => simp [passes_standard] at hpass

/-! ### Texts in ignore spans -/

/-- A pass of the interpreter leaves a text in an ignore span as it is. -/
lemma applyPass_ignoreChars (exec : Exec) {pass : Pass} (hpass : pass ∈ Pipeline.standard.passes)
    {w : List Char} (hw : Text.occurs Marked.endMarker w = false) :
    applyPass exec pass (Marked.ignoreChars w) = pure (Marked.ignoreChars w) := by
  have hcopied : ∀ s : Session, Prod.fst <$> rewriteSegments (rewriteLive exec s pass)
      s.interpolationLimit (Marked.segments (Marked.ignoreChars w)) =
        pure (Marked.ignoreChars w) := by
    intro s
    refine map_rewriteSegments_of_pure fun text hmem => ?_
    simp [Marked.segments_ignoreChars hw] at hmem
  simp only [applyPass_eq exec hpass, hcopied]
  rfl

/-- An action for each entry of a list that gives back the entry gives back the list. -/
lemma mapM_eq_pure {action : α → Engine α} {entries : List α}
    (h : ∀ a ∈ entries, action a = pure a) : entries.mapM action = pure entries := by
  induction entries with
  | nil => simp
  | cons a rest ih =>
    have hrest := ih fun b hb => h b (List.mem_cons_of_mem a hb)
    simp [List.mapM_cons, h a List.mem_cons_self, hrest]

/-- The passes of the interpreter leave texts in ignore spans as they are. -/
lemma applyPasses_ignoreChars (exec : Exec) {passes : List Pass}
    (hpasses : passes ⊆ Pipeline.standard.passes) {words : List (List Char)}
    (hwords : ∀ w ∈ words, Text.occurs Marked.endMarker w = false) :
    applyPasses exec passes (words.map Marked.ignoreChars) =
      pure (words.map Marked.ignoreChars) := by
  induction passes with
  | nil => rfl
  | cons pass rest ih =>
    have hpass : (words.map Marked.ignoreChars).mapM (applyPass exec pass) =
        pure (words.map Marked.ignoreChars) := by
      refine mapM_eq_pure fun text htext => ?_
      obtain ⟨w, hw, rfl⟩ := List.mem_map.1 htext
      exact applyPass_ignoreChars exec (hpasses List.mem_cons_self) (hwords w hw)
    rw [applyPasses, hpass, pure_bind]
    exact ih fun other hother => hpasses (List.mem_cons_of_mem pass hother)

/-- A name in an ignore span is not reserved. -/
lemma isReserved_ignore (name : String) : Marked.isReserved (Marked.ignore name) = false := by
  simp [Marked.isReserved, Marked.ignore, Marked.ignoreChars, Marked.startMarker,
    Marked.reservedNames]

/-- A call that defines nothing goes through the passes, and then its markers are removed. -/
lemma expandCall_eq {name : String} (hname : Marked.isReserved name = false) (args : List String)
    (s : Session) :
    expandCall exec name args s =
      Engine.bind (applyPasses exec s.pipeline.passes (name.toList :: args.map String.toList)) (fun
        | [] => pure (name, args)
        | first :: rest => do
          return (String.ofList (Marked.stripChars first),
            (stripArguments (← get).stripMarkers false rest).map String.ofList)) s := by
  unfold expandCall
  change Engine.bind get _ s = _
  simp only [Engine.bind, get, hname, Bool.false_eq_true, if_false]
  rfl

/-- What becomes of a call that defines nothing, once its texts are through the passes. -/
lemma expandCall_of_done {name : String} (hname : Marked.isReserved name = false)
    {args : List String} {s t : Session} {first : List Char} {rest : List (List Char)}
    (hpasses : applyPasses exec s.pipeline.passes (name.toList :: args.map String.toList) s =
      (.done (first :: rest), t))
    (hstrip : t.stripMarkers = true) :
    expandCall exec name args s =
      (.done (String.ofList (Marked.stripChars first),
        (rest.map Marked.stripChars).map String.ofList), t) := by
  rw [expandCall_eq hname]
  simp only [Engine.bind, hpasses]
  change Engine.bind get _ t = _
  simp only [Engine.bind, get, stripArguments, hstrip, if_true]
  rfl

/-- A call whose name and arguments are in ignore spans is expanded to that call, in every session
with the passes of the interpreter, and the session stays as it is. -/
lemma expandCall_ignore (exec : Exec) {s : Session} (hpipeline : s.pipeline = .standard)
    (hstrip : s.stripMarkers = true) {name : String} {args : List String}
    (hwords : ∀ w ∈ name :: args, Text.occurs Marked.endMarker w.toList = false) :
    expandCall exec (Marked.ignore name) (args.map Marked.ignore) s =
      (.done (name, args), s) := by
  have htexts : (Marked.ignore name).toList :: (args.map Marked.ignore).map String.toList =
      ((name :: args).map String.toList).map Marked.ignoreChars := by
    simp [Marked.ignore]
  have hpasses : applyPasses exec s.pipeline.passes
      ((Marked.ignore name).toList :: (args.map Marked.ignore).map String.toList) s =
        (.done (((name :: args).map String.toList).map Marked.ignoreChars), s) := by
    have hcopied := applyPasses_ignoreChars exec (List.Subset.refl Pipeline.standard.passes)
      (List.forall_mem_map.2 hwords)
    rw [htexts, hpipeline, hcopied]
    rfl
  have hstripped : ∀ w ∈ name :: args,
      String.ofList (Marked.stripChars (Marked.ignoreChars w.toList)) = w := by
    intro w hw
    rw [Marked.stripChars_ignoreChars (hwords w hw), String.ofList_toList]
  have hargs : (((args.map String.toList).map Marked.ignoreChars).map Marked.stripChars).map
      String.ofList = args := by
    simp only [List.map_map]
    exact (List.map_congr_left fun w hw => hstripped w (List.mem_cons_of_mem name hw)).trans
      (List.map_id args)
  rw [expandCall_of_done (isReserved_ignore name) hpasses hstrip, hargs,
    hstripped name List.mem_cons_self]

/-- Quoted words in ignore spans are read back, whatever they are: none of them ends in a line
end. -/
lemma split_quotedLine_ignore (words : List String) :
    Word.split (Word.quotedLine (words.map Marked.ignore)) = words.map Marked.ignore := by
  rw [Word.split_quotedLine_eq, ← Bool.not_eq_true, Word.endsInLineEnd_lineChars]
  rintro ⟨last, hlast, hends⟩
  obtain ⟨w, rfl⟩ : ∃ w, last = Marked.ignoreChars w := by
    have hmem := List.mem_of_getLast? hlast
    obtain ⟨text, htext, rfl⟩ := List.mem_map.1 hmem
    obtain ⟨word, -, rfl⟩ := List.mem_map.1 htext
    exact ⟨word.toList, by simp [Marked.ignore]⟩
  have hmarker : Word.endsInLineEnd (Marked.ignoreChars w) = false := by
    simp [Word.endsInLineEnd, Marked.ignoreChars, Marked.endMarker, Word.isLineEnd]
  have hword := ((Word.endsInLineEnd_quoteChars _).1 hends).1
  rw [hmarker] at hword
  exact Bool.noConfusion hword

/-- Every call can be written as a line: in every session with the passes of the interpreter, the
line of its words, each in an ignore span and quoted, runs exactly as the call does.  Nothing is
expanded on the way, and the session in which the command is called is the one in which the line is
run.  The words are arbitrary texts without an end marker. -/
theorem runLine_quotedLine_ignore (exec : Exec) {s : Session} (hpipeline : s.pipeline = .standard)
    (hstrip : s.stripMarkers = true) {name : String} {args : List String}
    (hwords : ∀ w ∈ name :: args, Text.occurs Marked.endMarker w.toList = false) :
    expandCall exec (Marked.ignore name) (args.map Marked.ignore) s = (.done (name, args), s) ∧
      runLine exec (Word.quotedLine ((name :: args).map Marked.ignore)) s = exec name args s := by
  have hexpand := expandCall_ignore exec hpipeline hstrip hwords
  refine ⟨hexpand, ?_⟩
  have hcomment : Text.beginsWith (Marked.ignore name) commentStart = false := by
    simp [Text.beginsWith, Marked.ignore, Marked.ignoreChars, Marked.startMarker, commentStart,
      Text.after?]
  unfold runLine
  rw [split_quotedLine_ignore]
  simp only [List.map_cons, hcomment, Bool.false_eq_true, if_false]
  change Engine.bind (expandCall exec _ _) _ s = _
  simp only [Engine.bind, hexpand]

/-- A call with an empty argument, and with one that holds a reference, an escape, both markers that
begin something, both quote characters and a line end, in a fresh session. -/
theorem runLine_quotedLine_ignore_print :
    let s := Session.start {} standardRegistry .empty
    let args := ["", "$x$ ^^ #[ #! \\ ' \" ]\n"]
    runLine call (Word.quotedLine (("print" :: args).map Marked.ignore)) s =
      call "print" args s :=
  (runLine_quotedLine_ignore call rfl rfl (by decide)).2

end Engine

end LineShell

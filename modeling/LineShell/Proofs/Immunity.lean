import LineShell.Proofs.Passes
import LineShell.Proofs.Routine.Interpreter

/-!
# Text in an ignore span is immune

An argument has an ignore span in it, and what stands around the span is expanded: macros are
replaced, variables are read and values are taken off the stack.  Is the body of the span left alone
by all of this?  Each pass cuts the text anew, so what stands before the span may by then hold
markers of its own.

`Engine.passesAround` expands a call without looking at the body at all.  As long as what has become
of the text before the span does not hook (`Engine.shielded`), the actual expansion is exactly that
run, with the body put in at the end (`Engine.expandCall_span_immune`): whatever the body is, the
same is done to the session, it fails in the same way, and the body stands in the argument as it
was.

The condition is needed.  If the text hooks, a pass cuts the body into segments like any other text
(`Engine.applyPass_of_hooks`), and references in it are replaced
(`Engine.expandCall_span_exposed`).
-/

namespace LineShell

namespace Marked

variable {left s : List Char}

/-- Without markers, the body of a span stands after what the span is written after. -/
lemma flatMap_stripped_addSpan (body : List Char) (segments : List Segment) :
    (addSpan body segments).flatMap Segment.stripped =
      (addSpan [] segments).flatMap Segment.stripped ++ body := by
  fun_induction addSpan body segments with
  | case1 => simp [addSpan, Segment.stripped]
  | case2 opened => simp [addSpan, Segment.stripped]
  | case3 segment rest hopen ih => simp [addSpan, ih]

/-- Without markers, a span that is written after a text which does not hook is its body. -/
lemma stripChars_around (hleft : hooks left = false) (hs : Text.occurs endMarker s = false)
    (right : List Char) :
    stripChars (left ++ ignoreChars s ++ right) =
      stripChars (left ++ ignoreChars []) ++ s ++ stripChars right := by
  have hempty := segments_around hleft (s := []) (by decide) []
  have hnil : segments [] = [] := segments_of_not_occurs (by decide)
  rw [List.append_nil, hnil, List.append_nil] at hempty
  rw [stripChars, segments_around hleft hs, List.flatMap_append, flatMap_stripped_addSpan,
    stripChars, hempty]
  rfl

end Marked

/-- The texts of a call, in one of whose arguments there is an ignore span: the name, the arguments
before that one, what stands before and after the span, and the arguments after that one. -/
structure SpannedCall where
  name : List Char
  front : List (List Char)
  left : List Char
  right : List Char
  back : List (List Char)

namespace SpannedCall

/-- The texts, with a body in the span. -/
def texts (call : SpannedCall) (body : List Char) : List (List Char) :=
  call.name :: (call.front ++ (call.left ++ Marked.ignoreChars body ++ call.right) :: call.back)

/-- The call without markers, with a body at the place of the span. -/
def stripped (call : SpannedCall) (body : List Char) : String × List String :=
  let argument := Marked.stripChars (call.left ++ Marked.ignoreChars []) ++ body
    ++ Marked.stripChars call.right
  (String.ofList (Marked.stripChars call.name),
    (call.front.map Marked.stripChars ++ argument :: call.back.map Marked.stripChars).map
      String.ofList)

/-- The call that is given by its texts. -/
def ofTexts (name : String) (front : List String) (left right : String) (back : List String) :
    SpannedCall :=
  ⟨name.toList, front.map String.toList, left.toList, right.toList, back.map String.toList⟩

end SpannedCall

namespace Engine

variable {exec : Exec} {pass : Pass} {left body : List Char}

/-! ### Expanding around a span -/

/-- A call expanded by one pass, without looking at the body of the span. -/
def passAround (exec : Exec) (pass : Pass) (call : SpannedCall) : Engine SpannedCall := do
  let name ← applyPass exec pass call.name
  let front ← call.front.mapM (applyPass exec pass)
  let s ← get
  let (left, limit) ← rewriteSegments (rewriteLive exec s pass) s.interpolationLimit
    (Marked.segments call.left)
  let (right, _) ← rewriteSegments (rewriteLive exec s pass) limit (Marked.segments call.right)
  let back ← call.back.mapM (applyPass exec pass)
  return ⟨name, front, left, right, back⟩

/-- A call expanded by the passes one after the other, without looking at the body of the span. -/
def passesAround (exec : Exec) : List Pass → SpannedCall → Engine SpannedCall
  | [], call => pure call
  | pass :: rest, call => do
    let call ← passAround exec pass call
    passesAround exec rest call

/-- Whether neither the text before the span nor what any of the passes makes of it hooks. -/
def shielded (exec : Exec) : List Pass → SpannedCall → Session → Bool
  | [], call, _ => !Marked.hooks call.left
  | pass :: rest, call, s =>
    !Marked.hooks call.left &&
      match passAround exec pass call s with
      | (.done call, t) => shielded exec rest call t
      | _ => true

/-- Rewriting copies a span that is written after some segments. -/
lemma rewriteSegments_addSpan (live : Option Nat → List Char → Engine (List Char × Option Nat))
    (limit : Option Nat) (body : List Char) (segments : List Marked.Segment) :
    rewriteSegments live limit (Marked.addSpan body segments) =
      (fun (out, limit) => (out ++ Marked.ignoreChars body, limit)) <$>
        rewriteSegments live limit segments := by
  fun_induction Marked.addSpan body segments generalizing limit with
  | case1 => simp [rewriteSegments, Marked.Segment.chars, Marked.ignoreChars]
  | case2 opened => simp [rewriteSegments, Marked.Segment.chars, Marked.ignoreChars]
  | case3 segment rest hopen ih => cases segment <;> simp [rewriteSegments, ih]

/-- A pass of the interpreter on a text with a span in it: what stands before the span and what
stands after it is rewritten, and the span is copied. -/
lemma applyPass_around (hpass : pass ∈ Pipeline.standard.passes)
    (hleft : Marked.hooks left = false) (hbody : Text.occurs Marked.endMarker body = false)
    (right : List Char) :
    applyPass exec pass (left ++ Marked.ignoreChars body ++ right) = (do
      let s ← get
      let (left, limit) ← rewriteSegments (rewriteLive exec s pass) s.interpolationLimit
        (Marked.segments left)
      let (right, _) ← rewriteSegments (rewriteLive exec s pass) limit (Marked.segments right)
      return left ++ Marked.ignoreChars body ++ right) := by
  rw [applyPass_eq exec hpass]
  refine bind_congr fun s => ?_
  rw [Marked.segments_around hleft hbody, rewriteSegments_append, rewriteSegments_addSpan]
  simp

/-- A pass of the interpreter on a text with a span after a text that hooks: the body of the span is
cut into segments and rewritten like any other text. -/
theorem applyPass_of_hooks (hpass : pass ∈ Pipeline.standard.passes)
    (hleft : Marked.hooks left = true) (body right : List Char) :
    applyPass exec pass (left ++ Marked.ignoreChars body ++ right) = (do
      let s ← get
      let (out, limit) ← rewriteSegments (rewriteLive exec s pass) s.interpolationLimit
        (Marked.segments (left ++ ['#']))
      let (more, _) ← rewriteSegments (rewriteLive exec s pass) limit
        (Marked.segments ('[' :: body ++ Marked.endMarker ++ right))
      return out ++ more) := by
  rw [applyPass_eq exec hpass]
  refine bind_congr fun s => ?_
  rw [Marked.segments_of_hooks hleft, rewriteSegments_append]
  simp

/-- One pass over the texts of a call expands it around the span. -/
lemma mapM_applyPass_texts (hpass : pass ∈ Pipeline.standard.passes) {call : SpannedCall}
    (hleft : Marked.hooks call.left = false)
    (hbody : Text.occurs Marked.endMarker body = false) :
    (call.texts body).mapM (applyPass exec pass) =
      (·.texts body) <$> passAround exec pass call := by
  rw [SpannedCall.texts, List.mapM_cons, List.mapM_append, List.mapM_cons,
    applyPass_around hpass hleft hbody]
  simp [passAround, SpannedCall.texts]

/-- The passes over the texts of a call expand it around the span, as long as it is shielded. -/
lemma applyPasses_texts {passes : List Pass} (hpasses : passes ⊆ Pipeline.standard.passes)
    (hbody : Text.occurs Marked.endMarker body = false) {call : SpannedCall} {s : Session}
    (hshield : shielded exec passes call s = true) :
    applyPasses exec passes (call.texts body) s =
      ((·.texts body) <$> passesAround exec passes call) s := by
  induction passes generalizing call s with
  | nil => rfl
  | cons pass rest ih =>
    rw [shielded, Bool.and_eq_true, Bool.not_eq_true'] at hshield
    obtain ⟨hleft, hnext⟩ := hshield
    have hrest : rest ⊆ Pipeline.standard.passes :=
      fun _ hother => hpasses (List.mem_cons_of_mem pass hother)
    rw [applyPasses, mapM_applyPass_texts (hpasses List.mem_cons_self) hleft hbody, passesAround,
      map_bind, bind_map_left]
    change Engine.bind (passAround exec pass call) _ s = Engine.bind (passAround exec pass call) _ s
    unfold Engine.bind
    rcases hrun : passAround exec pass call s with ⟨next | e | p | r, t⟩
    · rw [hrun] at hnext
      exact ih hrest hnext
    all_goals rfl

/-- What the passes make of the text before a span that is shielded does not hook. -/
lemma hooks_of_shielded {passes : List Pass} {call final : SpannedCall} {s t : Session}
    (hshield : shielded exec passes call s = true)
    (hrun : passesAround exec passes call s = (.done final, t)) :
    Marked.hooks final.left = false := by
  induction passes generalizing call s with
  | nil =>
    obtain rfl : call = final := Routine.eq_of_pure_eq_done hrun
    simpa [shielded] using hshield
  | cons pass rest ih =>
    obtain ⟨next, u, hpass, hrest⟩ := Routine.exists_of_bind_eq_done hrun
    rw [shielded, hpass, Bool.and_eq_true] at hshield
    exact ih hshield.2 hrest

/-! ### The body is left alone -/

/-- In a session with the passes of the interpreter, let a call that defines nothing have an
argument with an ignore span in it, and let the span be shielded.  Then there is one run, in which
the body of the span does not occur, such that for every body without an end marker the call is
expanded just by that run, with the body put in at the place of the span at the end. -/
theorem expandCall_span_immune {s : Session} (hpipeline : s.pipeline = .standard)
    (hstrip : s.stripMarkers = true) (fuel : Nat) {name : String}
    (hname : Marked.isReserved name = false) {front back : List String} {left right : String}
    (hshield : shielded (execute fuel) s.pipeline.passes
      (.ofTexts name front left right back) s = true)
    {body : String} (hbody : Text.occurs Marked.endMarker body.toList = false) :
    expandCall (execute fuel) name (front ++ (left ++ Marked.ignore body ++ right) :: back) s =
      ((·.stripped body.toList) <$> passesAround (execute fuel) s.pipeline.passes
        (.ofTexts name front left right back)) s := by
  have htexts : name.toList :: (front ++ (left ++ Marked.ignore body ++ right) :: back).map
      String.toList = (SpannedCall.ofTexts name front left right back).texts body.toList := by
    simp [SpannedCall.ofTexts, SpannedCall.texts, Marked.ignore]
  have hsubset : s.pipeline.passes ⊆ Pipeline.standard.passes := by rw [hpipeline]; simp
  have hpasses := applyPasses_texts hsubset hbody hshield
  have hsetup := (Routine.regular_applyPasses s.pipeline.passes
    ((SpannedCall.ofTexts name front left right back).texts body.toList)).setup_eq fuel s
  rw [← htexts] at hpasses hsetup
  change _ = Engine.bind (passesAround (execute fuel) s.pipeline.passes _) _ s at hpasses
  change _ = Engine.bind (passesAround (execute fuel) s.pipeline.passes _) _ s
  rcases hrun : passesAround (execute fuel) s.pipeline.passes
    (.ofTexts name front left right back) s with ⟨call | e | p | r, t⟩
  · have hdone : applyPasses (execute fuel) s.pipeline.passes (name.toList ::
        (front ++ (left ++ Marked.ignore body ++ right) :: back).map String.toList) s =
          (.done (call.texts body.toList), t) := by
      rw [hpasses, Engine.bind, hrun]
      rfl
    have hkept : t.stripMarkers = true := by
      rw [hdone] at hsetup
      exact (congrArg Setup.stripMarkers hsetup).trans hstrip
    have hleft := hooks_of_shielded hshield hrun
    rw [expandCall_of_done hname hdone hkept, Engine.bind, hrun]
    simp only [SpannedCall.stripped, List.map_append, List.map_cons,
      Marked.stripChars_around hleft hbody]
    rfl
  all_goals
    rw [expandCall_eq hname]
    simp only [Engine.bind, hpasses, hrun]

/-- A macro before the span opens a span that it does not close.  The text in the span, which holds
a reference, an escape and the name of the macro, is left alone all the same, while the reference
after it is replaced. -/
theorem expandCall_span_immune_after_open_span :
    let s := { Session.start {} standardRegistry .empty with
      macros := NameMap.empty.insert "m" (.text "#[a"), scopes := Scopes.initial.store "x" "1" }
    let call := SpannedCall.ofTexts "print" [] "m" "$x$" []
    shielded (execute 0) s.pipeline.passes call s = true ∧
      expandCall (execute 0) "print" ["m#[$x$ ^^ m]#$x$"] s =
        ((·.stripped "$x$ ^^ m".toList) <$> passesAround (execute 0) s.pipeline.passes call) s ∧
      (expandCall (execute 0) "print" ["m#[$x$ ^^ m]#$x$"] s).1 =
        .done ("print", ["a#[$x$ ^^ m1"]) := by
  intro s call
  have hshield : shielded (execute 0) s.pipeline.passes call s = true := by decide +kernel
  have hargument :
      ["m#[$x$ ^^ m]#$x$"] = [] ++ ("m" ++ Marked.ignore "$x$ ^^ m" ++ "$x$") :: [] := by
    decide
  refine ⟨hshield, ?_, by decide +kernel⟩
  rw [hargument]
  exact expandCall_span_immune rfl rfl 0 (by decide) hshield (by decide)

/-- A macro before the span opens a span that ends in a closing bracket.  The start marker of the
span then closes it, and the reference in the span is replaced: the argument does not hold the text
that was in the span. -/
theorem expandCall_span_exposed :
    let s := { Session.start {} standardRegistry .empty with
      macros := NameMap.empty.insert "m" (.text "#[a]"), scopes := Scopes.initial.store "x" "1" }
    s.pipeline = .standard ∧ s.stripMarkers = true ∧
      Marked.isReserved "print" = false ∧ Text.occurs Marked.startMarker "m".toList = false ∧
      Text.occurs Marked.endMarker "$x$".toList = false ∧
      (expandCall (execute 0) "print" ["m" ++ Marked.ignore "$x$"] s).1 =
        .done ("print", ["a[1]#"]) ∧
      Text.occurs "$x$".toList "a[1]#".toList = false := by
  refine ⟨rfl, rfl, by decide, by decide, by decide, by decide +kernel, by decide⟩

end Engine

end LineShell

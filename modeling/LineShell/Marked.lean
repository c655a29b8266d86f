import LineShell.Text.Search

/-!
# Text with ignore spans

A span between the two ignore markers is exempt from all expansion.  `segments` cuts a text into its
spans and the live text between them; a span without an end marker runs to the end of the text.  The
expanding passes change live text only, and when they are done `strip` takes the markers away.
-/

namespace LineShell.Marked

/-- The marker that begins an ignore span. -/
def startMarker : List Char := ['#', '[']

/-- The marker that ends an ignore span. -/
def endMarker : List Char := [']', '#']

/-- The marker that keeps the macro name after it from being expanded. -/
def suppressMarker : List Char := ['#', '!']

/-- A piece of text: live text, or an ignore span with or without its end marker. -/
inductive Segment
  | live (text : List Char)
  | ignored (body : List Char) (closed : Bool)
  deriving DecidableEq, Repr

namespace Segment

/-- The characters of a segment, markers included. -/
def chars : Segment → List Char
  | .live text => text
  | .ignored body closed => startMarker ++ body ++ if closed then endMarker else []

/-- The characters of a segment without markers. -/
def stripped : Segment → List Char
  | .live text => text
  | .ignored body _ => body

end Segment

/-- The segment of some live text, if there is any. -/
def liveSegment (text : List Char) : List Segment :=
  if text.isEmpty then [] else [.live text]

/-- The segments of a text. -/
def segments (cs : List Char) : List Segment :=
  match hs : Text.cut? startMarker cs with
  | none => liveSegment cs
  | some (before, after) =>
    match he : Text.cut? endMarker after with
    | none => liveSegment before ++ [.ignored after false]
    | some (body, rest) =>
      have := Text.length_of_cut? hs
      have := Text.length_of_cut? he
      liveSegment before ++ .ignored body true :: segments rest
termination_by cs.length
decreasing_by simp_all [startMarker, endMarker]; omega

/-- The text with its live segments expanded, one after the other. -/
def mapLive {m : Type → Type} [Monad m] (expand : List Char → m (List Char)) (cs : List Char) :
    m (List Char) := do
  let pieces ← (segments cs).mapM fun
    | .live text => expand text
    | ignored => pure ignored.chars
  return pieces.flatten

/-- The text in an ignore span. -/
def ignoreChars (cs : List Char) : List Char := startMarker ++ cs ++ endMarker

/-- The text without markers. -/
def stripChars (cs : List Char) : List Char := (segments cs).flatMap Segment.stripped

/-- The text in an ignore span. -/
def ignore (text : String) : String := String.ofList (ignoreChars text.toList)

/-- The text without markers. -/
def strip (text : String) : String := String.ofList (stripChars text.toList)

/-- The names of the commands that define and remove macros, in the order in which they are tried.
-/
def reservedNames : List (List Char) :=
  ["#define".toList, "#call".toList, "#action".toList, "#undef".toList]

/-- Whether a command defines or removes macros. -/
def isReserved (name : String) : Bool := reservedNames.contains name.toList

/-- The first of `names` with which `cs` begins, and what follows it. -/
def firstName? (names : List (List Char)) (cs : List Char) : Option (List Char × List Char) :=
  names.findSome? fun name => (Text.after? name cs).map fun rest => (name, rest)

theorem length_firstName? {names : List (List Char)} {cs name rest : List Char}
    (h : firstName? names cs = some (name, rest)) :
    name ∈ names ∧ cs.length = name.length + rest.length := by
  obtain ⟨n, hn, hm⟩ := List.exists_of_findSome?_eq_some h
  obtain ⟨r, hr, heq⟩ := Option.map_eq_some_iff.1 hm
  obtain ⟨rfl, rfl⟩ := Prod.mk.inj heq
  exact ⟨hn, Text.length_of_after? hr⟩

theorem length_pos_of_mem_reservedNames {name : List Char} (h : name ∈ reservedNames) :
    0 < name.length := by
  simp only [reservedNames, List.mem_cons, List.not_mem_nil, or_false] at h
  rcases h with rfl | rfl | rfl | rfl <;> decide

/-- Live text with every reserved name, and every macro name after a suppress marker, in an ignore
span.  A suppress marker before no macro name is copied. -/
def mask (macroNames : List (List Char)) (cs : List Char) : List Char :=
  match hr : firstName? reservedNames cs with
  | some (name, rest) =>
    have := length_pos_of_mem_reservedNames (length_firstName? hr).1
    have := (length_firstName? hr).2
    ignoreChars name ++ mask macroNames rest
  | none =>
    match hs : Text.after? suppressMarker cs with
    | some after =>
      have : cs.length = 2 + after.length := Text.length_of_after? hs
      match hn : firstName? macroNames after with
      | some (name, rest) =>
        have := (length_firstName? hn).2
        ignoreChars name ++ mask macroNames rest
      | none => suppressMarker ++ mask macroNames after
    | none =>
      match cs with
      | [] => []
      | c :: rest => c :: mask macroNames rest
termination_by cs.length

end LineShell.Marked

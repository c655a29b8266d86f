/-!
# Searching in lists of characters

What the readers of this library share: taking a known beginning off a list, finding the first
occurrence of a pattern, and replacing all of them.
-/

namespace LineShell.Text

/-- What follows `pattern` when `cs` begins with it. -/
def after? : (pattern cs : List Char) → Option (List Char)
  | [], cs => some cs
  | _ :: _, [] => none
  | p :: ps, c :: cs => if p = c then after? ps cs else none

/-- The text before the first occurrence of `pattern` and the text after it. -/
def cut? (pattern : List Char) : List Char → Option (List Char × List Char)
  | [] => if pattern.isEmpty then some ([], []) else none
  | c :: cs =>
    match after? pattern (c :: cs) with
    | some rest => some ([], rest)
    | none => (cut? pattern cs).map fun (before, rest) => (c :: before, rest)

/-- Whether `pattern` occurs in `cs`. -/
def occurs (pattern cs : List Char) : Bool :=
  (cut? pattern cs).isSome

theorem after?_eq_some {pattern cs rest : List Char} :
    after? pattern cs = some rest ↔ cs = pattern ++ rest := by
  induction pattern generalizing cs with
  | nil => simp [after?, eq_comm]
  | cons p ps ih =>
    cases cs with
    | nil => simp [after?]
    | cons c cs =>
      by_cases h : p = c
      · simp [after?, h, ih]
      · simp [after?, h, Ne.symm h]

theorem after?_append (pattern rest : List Char) : after? pattern (pattern ++ rest) = some rest :=
  after?_eq_some.2 rfl

theorem length_of_after? {pattern cs rest : List Char} (h : after? pattern cs = some rest) :
    cs.length = pattern.length + rest.length := by
  rw [after?_eq_some.1 h, List.length_append]

/-- The text before and after the first occurrence, put together around it, is the whole text. -/
theorem eq_append_of_cut? {pattern cs before rest : List Char}
    (h : cut? pattern cs = some (before, rest)) : cs = before ++ pattern ++ rest := by
  induction cs generalizing before rest with
  | nil =>
    cases pattern <;> simp_all [cut?]
  | cons c cs ih =>
    rw [cut?] at h
    split at h
    · next rest' hr =>
      obtain ⟨rfl, rfl⟩ := Prod.mk.inj (Option.some.inj h)
      simpa using after?_eq_some.1 hr
    · obtain ⟨⟨b, r⟩, hb, hp⟩ := Option.map_eq_some_iff.1 h
      obtain ⟨rfl, rfl⟩ := Prod.mk.inj hp
      simp [ih hb]

theorem length_of_cut? {pattern cs before rest : List Char}
    (h : cut? pattern cs = some (before, rest)) :
    cs.length = before.length + pattern.length + rest.length := by
  rw [eq_append_of_cut? h, List.length_append, List.length_append]

/-- Every occurrence of a pattern that is not empty replaced, left to right without overlap. -/
def replaceFrom (pattern by' : List Char) (skip : Nat) : List Char → List Char
  | [] => []
  | c :: cs =>
    match skip with
    | n + 1 => replaceFrom pattern by' n cs
    | 0 =>
      if (after? pattern (c :: cs)).isSome then
        by' ++ replaceFrom pattern by' (pattern.length - 1) cs
      else c :: replaceFrom pattern by' 0 cs

/-- The text with every occurrence of `pattern` replaced.  The empty pattern occurs before every
character and at the end. -/
def replaceAll (text pattern by' : String) : String :=
  if pattern.isEmpty then
    String.ofList (text.toList.flatMap (fun c => by'.toList ++ [c]) ++ by'.toList)
  else String.ofList (replaceFrom pattern.toList by'.toList 0 text.toList)

/-- Whether `text` begins with `start`. -/
def beginsWith (text start : String) : Bool :=
  (after? start.toList text.toList).isSome

end LineShell.Text

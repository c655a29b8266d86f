import LineShell.Proofs.Reading

/-!
# What memory escapes take off the stack

Escapes are found by comparing with two carets and then with one, at each place anew.  That amounts
to cutting live text into maximal runs of carets (`Escape.runs`) and carrying out each run as a
list of operations: as many times as two go into its length the top value is taken off, and if the
length is odd, the value that is then on top is read and stays (`Escape.operations`).

What the operations do is said without the texts between them.  `Escape.readings` gives the values
that they read, `Escape.pops` counts the values that they take off, and `Escape.shown` puts the
texts of the values in the places of the operations.  `Escape.outcome` is the result that these
determine, and `Engine.memory_escapes_consume` says that the pass has this result, in every session
and for every text.
-/

namespace LineShell

namespace Escape

/-! ### Runs of carets and their operations -/

/-- What an escape does with the value on top of the stack: it takes the value off, or it leaves
the value there. -/
inductive Operation
  | pop
  | peek
  deriving DecidableEq, Repr

/-- What an operation leaves of some values. -/
def Operation.left : Operation → List Item → List Item
  | .pop, items => items.tail
  | .peek, items => items

/-- The runs of carets, by their lengths.  A run stands where no further caret follows it. -/
def runs : Lexicon Nat where
  spelling n := List.replicate n caret
  Stands n cs := 0 < n ∧ ∃ rest, cs = List.replicate n caret ++ rest ∧ rest.head? ≠ some caret

/-- The operations of a run of carets. -/
def operations (n : Nat) : List Operation :=
  List.replicate (n / 2) .pop ++ if n % 2 = 1 then [.peek] else []

/-- The operations of all runs that were found, from left to right. -/
def allOperations (pieces : List (Piece Nat)) : List Operation :=
  (Piece.items pieces).flatMap operations

/-- What operations read when they are carried out from left to right: each of them the value that
is then on top, if there is one. -/
def readings (items : List Item) : List Operation → List (Option Item)
  | [] => []
  | op :: rest => items.head? :: readings (op.left items) rest

/-- How many values operations take off. -/
def pops (ops : List Operation) : Nat := ops.count .pop

/-- Each operation finds a value on the stack. -/
def Supplied (items : List Item) (ops : List Operation) : Prop := none ∉ readings items ops

instance (items : List Item) (ops : List Operation) : Decidable (Supplied items ops) :=
  inferInstanceAs (Decidable (none ∉ readings items ops))

/-- The text that stands for what an operation read. -/
def readingChars (reading : Option Item) : List Char :=
  reading.elim [] (·.display.toList)

/-- The text of some pieces with each operation replaced by the text of the value that it reads.
All else is copied. -/
def shown (items : List Item) : List (Piece Nat) → List Char
  | [] => []
  | .found n :: rest =>
    (readings items (operations n)).flatMap readingChars ++
      shown (items.drop (pops (operations n))) rest
  | piece :: rest => piece.written runs.spelling ++ shown items rest

/-- What is made of a text that was read as some pieces, and the stack that is left.  If some
operation meets an empty stack, the stack stays empty. -/
def outcome (stack : Stack) (pieces : List (Piece Nat)) : Except Error (List Char) × Stack :=
  if Supplied stack.items (allOperations pieces) then
    (.ok (shown stack.items pieces),
      { stack with items := stack.items.drop (pops (allOperations pieces)) })
  else (.error .emptyStack, { stack with items := [] })

variable {cs rest : List Char} {pieces more : List (Piece Nat)} {stack : Stack}
  {items : List Item} {ops before after : List Operation} {n : Nat}

/-- A run has a length and is cut off where it ends, so that no two of them stand at the same
place. -/
lemma lawful_runs : runs.Lawful where
  begins := by
    rintro n cs ⟨-, rest, rfl, -⟩
    exact ⟨rest, rfl⟩
  ne_nil := by
    rintro n cs ⟨hpos, -⟩ hnil
    have hlength : n = 0 := List.replicate_eq_nil_iff _ |>.1 hnil
    omega
  eq_of_stands := by
    rintro a b cs ⟨-, rest, rfl, hrest⟩ ⟨-, other, hcut, hother⟩
    have hfirst : ∀ {k : Nat} {tail : List Char}, tail.head? ≠ some caret →
        ((List.replicate k caret ++ tail).takeWhile (· == caret)).length = k := by
      intro k tail htail
      rw [List.takeWhile_append_of_pos (by simp)]
      cases tail with
      | nil => simp
      | cons c tail =>
        have hc : c ≠ caret := by simpa using htail
        simp [hc]
    have ha := hfirst (k := a) hrest
    rw [hcut, hfirst hother] at ha
    exact ha.symm

/-- Where a caret stands, a run stands. -/
lemma exists_stands (rest : List Char) : ∃ n, runs.Stands n (caret :: rest) := by
  induction rest with
  | nil => exact ⟨1, Nat.one_pos, [], rfl, by simp⟩
  | cons c rest ih =>
    by_cases hc : c = caret
    · obtain ⟨n, -, tail, hcut, htail⟩ := ih
      refine ⟨n + 1, Nat.succ_pos n, tail, ?_, htail⟩
      rw [hc, hcut, List.replicate_succ, List.cons_append]
    · exact ⟨1, Nat.one_pos, c :: rest, rfl, by simpa using hc⟩

/-- No caret of live text is copied: it is part of a run. -/
lemma ne_caret_of_reading (h : runs.Reading cs pieces) {c : Char} (hc : .char c ∈ pieces) :
    c ≠ caret := by
  induction h with
  | done => cases hc
  | @copied first rest pieces hnone _ ih =>
    rcases List.mem_cons.1 hc with hfirst | hrest
    · cases hfirst
      rintro rfl
      obtain ⟨n, hn⟩ := exists_stands rest
      exact hnone n hn
    · exact ih hrest
  | found _ _ _ ih =>
    rcases List.mem_cons.1 hc with hfirst | hrest
    · cases hfirst
    · exact ih hrest

/-- Nor is one of the live segments. -/
lemma ne_caret_of_segmentsReading {segments : List Marked.Segment}
    (h : runs.SegmentsReading segments pieces) {c : Char} (hc : .char c ∈ pieces) :
    c ≠ caret := by
  induction h with
  | nil => cases hc
  | live htext _ ih =>
    rcases List.mem_append.1 hc with hfirst | hrest
    · exact ne_caret_of_reading htext hfirst
    · exact ih hrest
  | ignored _ ih =>
    rcases List.mem_cons.1 hc with hfirst | hrest
    · cases hfirst
    · exact ih hrest

/-! ### Parts that are carried out one after the other -/

@[simp] lemma readings_nil (items : List Item) : readings items [] = [] := rfl

@[simp] lemma pops_nil : pops [] = 0 := rfl

@[simp] lemma supplied_nil (items : List Item) : Supplied items [] := by simp [Supplied]

@[simp] lemma allOperations_nil : allOperations [] = [] := rfl

@[simp] lemma pops_append (before after : List Operation) :
    pops (before ++ after) = pops before + pops after := List.count_append

@[simp] lemma allOperations_append (pieces more : List (Piece Nat)) :
    allOperations (pieces ++ more) = allOperations pieces ++ allOperations more := by
  simp [allOperations]

/-- The first of two parts leaves the second one what it does not take off. -/
lemma readings_append (items : List Item) (before after : List Operation) :
    readings items (before ++ after) =
      readings items before ++ readings (items.drop (pops before)) after := by
  induction before generalizing items with
  | nil => rfl
  | cons op rest ih => cases op <;> simp [readings, Operation.left, ih, pops]

/-- Two parts are supplied if the second one is by what the first one leaves. -/
lemma supplied_append :
    Supplied items (before ++ after) ↔
      Supplied items before ∧ Supplied (items.drop (pops before)) after := by
  simp [Supplied, readings_append, not_or]

lemma shown_append (items : List Item) (pieces more : List (Piece Nat)) :
    shown items (pieces ++ more) =
      shown items pieces ++ shown (items.drop (pops (allOperations pieces))) more := by
  induction pieces generalizing items with
  | nil => rfl
  | cons piece rest ih => cases piece <;> simp [shown, ih, allOperations]

/-- One part after another: if the first one fails, the second one is not looked at. -/
lemma outcome_append (stack : Stack) (pieces more : List (Piece Nat)) :
    outcome stack (pieces ++ more) =
      match outcome stack pieces with
      | (.ok out, left) => ((outcome left more).1.map (out ++ ·), (outcome left more).2)
      | (.error e, left) => (.error e, left) := by
  by_cases hfirst : Supplied stack.items (allOperations pieces)
  · by_cases hsecond :
        Supplied (stack.items.drop (pops (allOperations pieces))) (allOperations more)
    · simp [outcome, supplied_append, hfirst, hsecond, shown_append, Except.map]
    · simp [outcome, supplied_append, hfirst, hsecond, Except.map]
  · simp [outcome, supplied_append, hfirst]

/-- A piece that is copied is put before what comes after it. -/
lemma outcome_copied {piece : Piece Nat} (h : Piece.items [piece] = []) :
    outcome stack (piece :: pieces) =
      ((outcome stack pieces).1.map (piece.written runs.spelling ++ ·),
        (outcome stack pieces).2) := by
  have hone : outcome stack [piece] = (.ok (piece.written runs.spelling), stack) := by
    cases piece with
    | found n => cases h
    | char c => simp [outcome, allOperations, Piece.items, shown]
    | span body closed => simp [outcome, allOperations, Piece.items, shown]
  rw [← List.singleton_append, outcome_append, hone]

/-! ### The expansion has the outcome of the runs -/

/-- A run by itself: its operations read what is on the stack, or they meet an empty stack. -/
lemma outcome_run (stack : Stack) (n : Nat) :
    outcome stack [.found n] =
      if Supplied stack.items (operations n) then
        (.ok ((readings stack.items (operations n)).flatMap readingChars),
          { stack with items := stack.items.drop (pops (operations n)) })
      else (.error .emptyStack, { stack with items := [] }) := by
  simp [outcome, allOperations, Piece.items, shown]

/-- Of a run with two carets or more, the first operation takes a value off. -/
lemma operations_add_two (n : Nat) : operations (n + 2) = .pop :: operations n := by
  have hhalf : (n + 2) / 2 = n / 2 + 1 := by omega
  have hodd : (n + 2) % 2 = n % 2 := by omega
  rw [operations, operations, hhalf, hodd, List.replicate_succ, List.cons_append]

example : operations 5 = [.pop, .pop, .peek] := rfl

/-- Two carets before a run take a value off, if there is one. -/
lemma outcome_run_add_two (items : List Item) (locked : Bool) (n : Nat) :
    outcome ⟨items, locked⟩ [.found (n + 2)] =
      match items with
      | [] => (.error .emptyStack, ⟨[], locked⟩)
      | item :: items =>
        ((outcome ⟨items, locked⟩ [.found n]).1.map (item.display.toList ++ ·),
          (outcome ⟨items, locked⟩ [.found n]).2) := by
  rw [outcome_run, operations_add_two]
  cases items with
  | nil => simp [Supplied, readings]
  | cons item items =>
    have hsupplied : Supplied (item :: items) (.pop :: operations n) ↔
        Supplied items (operations n) := by
      simp [Supplied, readings, Operation.left]
    dsimp only
    rw [outcome_run]
    by_cases h : Supplied items (operations n)
    · simp [hsupplied, h, readings, Operation.left, readingChars, pops, Except.map]
    · simp [hsupplied, h, Except.map]

/-- A run is read two carets at a time, and a caret that is left over by itself. -/
lemma expandLive_run (hrest : rest.head? ≠ some caret) (n : Nat) (stack : Stack) :
    expandLive stack (List.replicate n caret ++ rest) =
      match outcome stack [.found n] with
      | (.ok out, left) => ((expandLive left rest).1.map (out ++ ·), (expandLive left rest).2)
      | (.error e, left) => (.error e, left) := by
  obtain ⟨items, locked⟩ := stack
  induction n using Nat.twoStepInduction generalizing items with
  | zero =>
    rcases hmore : expandLive ⟨items, locked⟩ rest with ⟨out | e, left⟩ <;>
      simp [outcome_run, operations, hmore, Except.map]
  | one =>
    have hsingle : ∀ tail, rest = '^' :: tail → False := by
      rintro tail rfl
      exact hrest rfl
    refine (expandLive.eq_3 ⟨items, locked⟩ rest hsingle).trans ?_
    cases items <;>
      simp [Stack.peek, outcome_run, operations, Supplied, readings, pops, readingChars]
  | more n ih _ =>
    refine (expandLive.eq_2 ⟨items, locked⟩ (List.replicate n caret ++ rest)).trans ?_
    rw [outcome_run_add_two]
    cases items with
    | nil => rfl
    | cons item items =>
      simp only [Stack.pop, ih]
      rcases outcome ⟨items, locked⟩ [.found n] with ⟨e | out, left⟩
      · rfl
      · rcases hmore : expandLive left rest with ⟨e | more, last⟩ <;> simp [Except.map, hmore]

/-- Live text has the outcome of the pieces that it is read as. -/
lemma expandLive_eq_outcome (h : runs.Reading cs pieces) (stack : Stack) :
    expandLive stack cs = outcome stack pieces := by
  induction h generalizing stack with
  | done => simp [expandLive, outcome, shown]
  | @copied c rest pieces hnone hrest ih =>
    have hc : c ≠ '^' := ne_caret_of_reading (.copied hnone hrest) List.mem_cons_self
    rw [outcome_copied rfl, ← ih]
    rw [expandLive]
    · rfl
    · simp [hc]
    · simp [hc]
  | @found n cs rest pieces hstands hcut _ ih =>
    obtain ⟨hpos, tail, htail, hhead⟩ := hstands
    have hrest : rest = tail := List.append_cancel_left (hcut.symm.trans htail)
    rw [← List.singleton_append, outcome_append, htail, expandLive_run hhead, ← hrest]
    simp only [ih]

/-- Segments have the outcome of the pieces that they are read as. -/
lemma expandSegments_eq_outcome {segments : List Marked.Segment}
    (h : runs.SegmentsReading segments pieces) (stack : Stack) :
    expandSegments stack segments = outcome stack pieces := by
  induction h generalizing stack with
  | nil => simp [expandSegments, outcome, shown]
  | live htext _ ih =>
    rw [expandSegments, expandLive_eq_outcome htext, outcome_append]
    rcases outcome stack _ with ⟨e | out, left⟩
    · rfl
    · simp only [ih]
  | ignored _ ih =>
    rw [outcome_copied rfl, expandSegments, ih]
    · rfl
    · intro text htext
      cases htext

/-- Segments without a caret are copied. -/
lemma expandSegments_of_not_mem {segments : List Marked.Segment}
    (h : caret ∉ segments.flatMap Marked.Segment.chars) (stack : Stack) :
    expandSegments stack segments = (.ok (segments.flatMap Marked.Segment.chars), stack) := by
  induction segments with
  | nil => rfl
  | cons segment rest ih =>
    obtain ⟨hfirst, hrest⟩ := not_or.1 (mt List.mem_append.2 (List.flatMap_cons ▸ h))
    cases segment with
    | live text =>
      have htext : caret ∉ text := hfirst
      rw [expandSegments, Engine.expandLive_of_not_mem htext]
      simp only [ih hrest]
      rfl
    | ignored body closed =>
      rw [expandSegments, ih hrest]
      · rfl
      · intro text htext
        cases htext

/-- A text without a caret is returned at once, and going through its segments gives it, too. -/
theorem expand_eq_expandSegments (stack : Stack) (cs : List Char) :
    expand stack cs = expandSegments stack (Marked.segments cs) := by
  unfold expand
  by_cases hcaret : caret ∈ cs
  · rw [if_pos (List.contains_iff_mem.2 hcaret)]
  · have hnone : caret ∉ (Marked.segments cs).flatMap Marked.Segment.chars := by
      rwa [Marked.flatMap_chars_segments]
    rw [if_neg (mt List.contains_iff_mem.1 hcaret), expandSegments_of_not_mem hnone,
      Marked.flatMap_chars_segments]

/-- Operations that are not supplied have a first one that meets an empty stack. -/
lemma exists_first_of_not_supplied (h : ¬ Supplied items ops) :
    ∃ before op after, ops = before ++ op :: after ∧ Supplied items before ∧
      items.drop (pops before) = [] := by
  induction ops generalizing items with
  | nil => exact absurd (supplied_nil items) h
  | cons op rest ih =>
    cases items with
    | nil => exact ⟨[], op, rest, rfl, supplied_nil [], rfl⟩
    | cons item items =>
      have hrest : ¬ Supplied (op.left (item :: items)) rest := by
        simpa [Supplied, readings] using h
      obtain ⟨before, failing, after, hcut, hbefore, hempty⟩ := ih hrest
      refine ⟨op :: before, failing, after, by rw [hcut, List.cons_append], ?_, ?_⟩
      · simpa [Supplied, readings] using hbefore
      · cases op <;> simpa [pops, Operation.left] using hempty

end Escape

namespace Engine

open Escape

/-- The session with other values on the active stack. -/
def withActiveItems (s : Session) (items : List Item) : Session :=
  { s with memory := { s.memory with active := { s.memory.active with items } } }

/-- The pass that replaces memory escapes, on a text that is read as some pieces. -/
lemma applyPass_memory_of_reads {cs : List Char} {pieces : List (Piece Nat)}
    (h : runs.Reads cs pieces) (exec : Exec) (s : Session) :
    applyPass exec .memory cs s =
      if Supplied s.memory.active.items (allOperations pieces) then
        (.done (shown s.memory.active.items pieces),
          withActiveItems s (s.memory.active.items.drop (pops (allOperations pieces))))
      else (.failed .emptyStack, withActiveItems s []) := by
  rw [applyPass_memory, onActive, expand_eq_expandSegments, expandSegments_eq_outcome h, outcome]
  by_cases hsupplied : Supplied s.memory.active.items (allOperations pieces)
  · rw [if_pos hsupplied, if_pos hsupplied]
    rfl
  · rw [if_neg hsupplied, if_neg hsupplied]
    rfl

/-- In every session and for every text, the pass that replaces memory escapes reads the maximal
runs of carets in live text, in one way, as lists of operations; the pieces put together are the
text, and no caret is copied.  It returns exactly if each operation, all of them being carried out
from left to right on the active stack, finds a value there.  Then the text is returned with each
operation replaced by the text of the value that it read, and the active stack has lost as many
values as were taken off, no others.  Otherwise the stack is empty where the first operation fails,
which is the error, and what was taken off before stays off.  Nothing else in the session changes.
A text without a caret, which is returned at once, is no exception. -/
theorem memory_escapes_consume (exec : Exec) (s : Session) (cs : List Char) :
    (∀ stack, expand stack cs = expandSegments stack (Marked.segments cs)) ∧
    (∃! pieces, runs.Reads cs pieces) ∧
    ∀ pieces, runs.Reads cs pieces →
      pieces.flatMap (Piece.written runs.spelling) = cs ∧
      (∀ c, .char c ∈ pieces → c ≠ caret) ∧
      (let items := s.memory.active.items
        let ops := allOperations pieces
        ((∃ out t, applyPass exec .memory cs s = (.done out, t)) ↔ Supplied items ops) ∧
        (Supplied items ops →
          applyPass exec .memory cs s =
            (.done (shown items pieces), withActiveItems s (items.drop (pops ops)))) ∧
        (¬ Supplied items ops →
          ∃ before op after, ops = before ++ op :: after ∧
            Supplied items before ∧ items.drop (pops before) = [] ∧
            applyPass exec .memory cs s =
              (.failed .emptyStack, withActiveItems s (items.drop (pops before))))) := by
  refine ⟨fun stack => expand_eq_expandSegments stack cs, lawful_runs.existsUnique_reads cs,
    fun pieces h => ⟨h.flatMap_written, fun c hc => ne_caret_of_segmentsReading h hc, ?_, ?_, ?_⟩⟩
  · rw [applyPass_memory_of_reads h]
    constructor
    · rintro ⟨out, t, hdone⟩
      by_contra hnot
      rw [if_neg hnot] at hdone
      cases hdone
    · intro hsupplied
      exact ⟨_, _, if_pos hsupplied⟩
  · intro hsupplied
    rw [applyPass_memory_of_reads h, if_pos hsupplied]
  · intro hnot
    obtain ⟨before, op, after, hcut, hbefore, hempty⟩ := exists_first_of_not_supplied hnot
    refine ⟨before, op, after, hcut, hbefore, hempty, ?_⟩
    rw [applyPass_memory_of_reads h, if_neg hnot, hempty]

end Engine

end LineShell

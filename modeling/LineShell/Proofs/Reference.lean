import LineShell.Proofs.Reading

/-!
# The first references are replaced

With a limit on the number of references that are replaced in one text, which ones are they?  The
text is read by the lexicon of references, where the references of all live segments are numbered
from left to right.  `Engine.variables_replace_first` says that exactly the first ones are replaced,
as many as the limit allows, and that all else is copied: the other references, the text between
them, and ignore spans.  What is put in is not read again.  The pass fails exactly if one of these
first references is to a variable that does not exist.

The proof follows the scan character by character (`Interpolation.scan_copied`,
`Interpolation.scan_found`), although it searches from one delimiter to the next: a delimiter that
starts no reference is copied like any other character.
-/

namespace LineShell

namespace Interpolation

variable {load : String → Except Error String} {limit : Option Nat} {used k : Nat}
  {c : Char} {cs name rest : List Char} {pieces more : List (Piece (List Char))} {scopes : Scopes}

/-! ### References as they are read -/

/-- The references to variables, each a name between two delimiters. -/
def references : Lexicon (List Char) where
  spelling name := delimiter :: (name ++ [delimiter])
  Stands name cs := isVariableName name = true ∧ delimiter :: (name ++ [delimiter]) <+: cs

/-- The name of a variable holds no delimiter. -/
lemma delimiter_notMem_of_isVariableName (h : isVariableName name = true) : delimiter ∉ name := by
  have hdelimiter : (Text.isAlphanumeric delimiter || delimiter == '_' || delimiter == '.'
      || delimiter == '-') = false := by decide
  rw [isVariableName, Bool.and_eq_true, List.all_eq_true] at h
  intro hmem
  have hall := h.2 delimiter hmem
  rw [hdelimiter] at hall
  exact Bool.noConfusion hall

/-- A text that begins with another character does not begin with a delimiter. -/
lemma not_delimiter_of_ne (hc : c ≠ delimiter) (rest : List Char) : ¬ [delimiter] <+: c :: rest :=
  fun h => hc (List.cons_prefix_cons.1 h).1.symm

/-- The first delimiter comes right after a text without delimiters. -/
lemma cut?_delimiter (h : delimiter ∉ name) (rest : List Char) :
    Text.cut? [delimiter] (name ++ delimiter :: rest) = some (name, rest) :=
  Text.cut?_singleton_iff.2 ⟨h, rfl⟩

/-- At most one reference stands at the beginning of a text. -/
lemma lawful_references : references.Lawful where
  begins h := h.2
  ne_nil _ := List.cons_ne_nil _ _
  eq_of_stands {a b cs} ha hb := by
    obtain ⟨⟨ha, r, hr⟩, hb, q, hq⟩ := And.intro ha hb
    have hsame : a ++ delimiter :: r = b ++ delimiter :: q := by
      have htail := hr.trans hq.symm
      simpa using htail
    have hcut := cut?_delimiter (delimiter_notMem_of_isVariableName ha) r
    rw [hsame, cut?_delimiter (delimiter_notMem_of_isVariableName hb) q] at hcut
    exact (Prod.mk.inj (Option.some.inj hcut)).1.symm

/-! ### The scan, character by character -/

/-- The scan of a text by its first delimiters. -/
lemma scan_eq (load : String → Except Error String) (limit : Option Nat) (used : Nat)
    (cs : List Char) :
    scan load limit used cs =
      if limit.any (· ≤ used) then .ok (cs, used)
      else match Text.cut? [delimiter] cs with
        | none => .ok (cs, used)
        | some (before, after) =>
          match Text.cut? [delimiter] after with
          | none => .ok (cs, used)
          | some (name, rest) =>
            if isVariableName name then do
              let value ← load (String.ofList name)
              let (out, total) ← scan load limit (used + 1) rest
              return (before ++ value.toList ++ out, total)
            else do
              let (out, total) ← scan load limit used after
              return (before ++ delimiter :: out, total) := by
  rw [scan]
  split
  · rfl
  · split
    · simp_all
    · split <;> simp_all

/-- Once the limit is reached the rest is copied. -/
lemma scan_of_reached (h : limit.any (· ≤ used) = true) (cs : List Char) :
    scan load limit used cs = .ok (cs, used) := by
  rw [scan_eq, if_pos h]

/-- A character that is no delimiter is copied. -/
lemma scan_cons_of_ne (hc : c ≠ delimiter) (hlimit : ¬ limit.any (· ≤ used) = true) :
    scan load limit used (c :: rest) =
      (fun (out, total) => (c :: out, total)) <$> scan load limit used rest := by
  rw [scan_eq, scan_eq load limit used rest, if_neg hlimit, if_neg hlimit,
    Text.cut?_cons (not_delimiter_of_ne hc rest)]
  cases Text.cut? [delimiter] rest with
  | none => rfl
  | some found =>
    obtain ⟨before, after⟩ := found
    dsimp only [Option.map_some]
    cases Text.cut? [delimiter] after with
    | none => rfl
    | some found =>
      obtain ⟨name, rest⟩ := found
      dsimp only
      split <;> simp

/-- A delimiter that starts no reference is copied. -/
lemma scan_delimiter (hnone : ∀ name, ¬ references.Stands name (delimiter :: rest))
    (hlimit : ¬ limit.any (· ≤ used) = true) :
    scan load limit used (delimiter :: rest) =
      (fun (out, total) => (delimiter :: out, total)) <$> scan load limit used rest := by
  have hfirst : Text.cut? [delimiter] (delimiter :: rest) = some ([], rest) :=
    cut?_delimiter List.not_mem_nil rest
  rw [scan_eq, if_neg hlimit, hfirst]
  dsimp only
  cases hcut : Text.cut? [delimiter] rest with
  | none =>
    rw [scan_eq, if_neg hlimit, hcut]
    rfl
  | some found =>
    obtain ⟨name, after⟩ := found
    have hname : ¬ isVariableName name = true := by
      intro hname
      refine hnone name ⟨hname, after, ?_⟩
      rw [Text.eq_append_of_cut? hcut]
      simp
    simp [hname]

/-- Where no reference stands, a character is copied. -/
lemma scan_copied (hnone : ∀ name, ¬ references.Stands name (c :: rest)) :
    scan load limit used (c :: rest) =
      (fun (out, total) => (c :: out, total)) <$> scan load limit used rest := by
  by_cases hlimit : limit.any (· ≤ used) = true
  · rw [scan_of_reached hlimit, scan_of_reached hlimit]
    rfl
  · by_cases hc : c = delimiter
    · subst hc
      exact scan_delimiter hnone hlimit
    · exact scan_cons_of_ne hc hlimit

/-- Where a reference stands, its value is put in, and the scan goes on after it. -/
lemma scan_found (hname : isVariableName name = true) (hlimit : ¬ limit.any (· ≤ used) = true)
    (rest : List Char) :
    scan load limit used (references.spelling name ++ rest) = (do
      let value ← load (String.ofList name)
      let (out, total) ← scan load limit (used + 1) rest
      return (value.toList ++ out, total)) := by
  have hassoc : references.spelling name ++ rest = delimiter :: (name ++ delimiter :: rest) := by
    simp [references]
  have hfirst : Text.cut? [delimiter] (delimiter :: (name ++ delimiter :: rest)) =
      some ([], name ++ delimiter :: rest) := cut?_delimiter List.not_mem_nil _
  rw [hassoc, scan_eq, if_neg hlimit, hfirst]
  dsimp only
  rw [cut?_delimiter (delimiter_notMem_of_isVariableName hname)]
  simp [hname]

/-! ### What becomes of the pieces -/

/-- How many of `count` references are replaced under a limit. -/
def allowed : Option Nat → Nat → Nat
  | none, count => count
  | some limit, count => min limit count

/-- The pieces with the first `k` references replaced by their values, and all else as it was. -/
def replaceFirst (value : List Char → List Char) : Nat → List (Piece (List Char)) → List Char
  | _, [] => []
  | k + 1, .found name :: rest => value name ++ replaceFirst value k rest
  | k, piece :: rest => piece.written references.spelling ++ replaceFirst value k rest

/-- The value of a variable, or no text if there is none. -/
def valueChars (scopes : Scopes) (name : List Char) : List Char :=
  ((scopes.load? (String.ofList name)).getD "").toList

/-- Whether there is no variable of a name. -/
def isUndefined (scopes : Scopes) (name : List Char) : Bool :=
  (scopes.load? (String.ofList name)).isNone

/-- Pieces with the first `k` references replaced, or the error of the first among them that is to
no variable. -/
def outcome (scopes : Scopes) (k : Nat) (pieces : List (Piece (List Char))) :
    Except Error (List Char) :=
  match ((Piece.items pieces).take k).find? (isUndefined scopes) with
  | some name => .error (.undefinedVariable (String.ofList name))
  | none => .ok (replaceFirst (valueChars scopes) k pieces)

/-- With none replaced, the pieces are put together. -/
lemma replaceFirst_zero (value : List Char → List Char) (pieces : List (Piece (List Char))) :
    replaceFirst value 0 pieces = pieces.flatMap (Piece.written references.spelling) := by
  induction pieces with
  | nil => rfl
  | cons piece rest ih => cases piece <;> simp [replaceFirst, ih]

/-- The references of a first part come before those of a second one. -/
lemma replaceFirst_append (value : List Char → List Char) (k : Nat)
    (pieces more : List (Piece (List Char))) :
    replaceFirst value k (pieces ++ more) = replaceFirst value k pieces ++
      replaceFirst value (k - (Piece.items pieces).length) more := by
  induction pieces generalizing k with
  | nil => rfl
  | cons piece rest ih =>
    cases piece with
    | char c => simp [replaceFirst, ih]
    | span body closed => simp [replaceFirst, ih]
    | found name => cases k <;> simp [replaceFirst, ih]

/-- No more references are replaced than there are. -/
lemma replaceFirst_min (value : List Char → List Char) (k : Nat)
    (pieces : List (Piece (List Char))) :
    replaceFirst value (min k (Piece.items pieces).length) pieces =
      replaceFirst value k pieces := by
  induction pieces generalizing k with
  | nil => rfl
  | cons piece rest ih =>
    cases piece with
    | char c => simp [replaceFirst, ih]
    | span body closed => simp [replaceFirst, ih]
    | found name =>
      cases k with
      | zero => simp
      | succ k => simp [replaceFirst, ih, Nat.succ_min_succ]

/-- Where none is to be replaced, nothing can fail. -/
lemma outcome_zero (scopes : Scopes) (pieces : List (Piece (List Char))) :
    outcome scopes 0 pieces = .ok (pieces.flatMap (Piece.written references.spelling)) := by
  simp [outcome, replaceFirst_zero]

/-- No more references are looked up than there are. -/
lemma outcome_min (scopes : Scopes) (k : Nat) (pieces : List (Piece (List Char))) :
    outcome scopes (min k (Piece.items pieces).length) pieces = outcome scopes k pieces := by
  rw [outcome, outcome, replaceFirst_min, ← List.take_eq_take_min]

/-- A piece that is no reference is copied. -/
lemma outcome_cons {piece : Piece (List Char)} (h : ∀ name, piece ≠ .found name)
    (scopes : Scopes) (k : Nat) (rest : List (Piece (List Char))) :
    outcome scopes k (piece :: rest) =
      (piece.written references.spelling ++ ·) <$> outcome scopes k rest := by
  have hpiece : Piece.items (piece :: rest) = Piece.items rest ∧
      replaceFirst (valueChars scopes) k (piece :: rest) =
        piece.written references.spelling ++ replaceFirst (valueChars scopes) k rest := by
    cases piece with
    | char c => simp [replaceFirst]
    | span body closed => simp [replaceFirst]
    | found name => exact absurd rfl (h name)
  rw [outcome, outcome, hpiece.1, hpiece.2]
  cases ((Piece.items rest).take k).find? (isUndefined scopes) <;> rfl

/-- A reference that is to be replaced is looked up before those that come after it. -/
lemma outcome_found (scopes : Scopes) (k : Nat) (name : List Char)
    (rest : List (Piece (List Char))) :
    outcome scopes (k + 1) (.found name :: rest) = (do
      let value ← scopes.load (String.ofList name)
      (value.toList ++ ·) <$> outcome scopes k rest) := by
  unfold outcome Scopes.load
  rw [Piece.items_found, List.take_succ_cons, List.find?_cons]
  cases hload : scopes.load? (String.ofList name) with
  | none =>
    have hundefined : isUndefined scopes name = true := by simp [isUndefined, hload]
    rw [hundefined]
    rfl
  | some value =>
    have hdefined : isUndefined scopes name = false := by simp [isUndefined, hload]
    have hvalue : valueChars scopes name = value.toList := by simp [valueChars, hload]
    rw [hdefined, replaceFirst, hvalue]
    cases ((Piece.items rest).take k).find? (isUndefined scopes) <;> rfl

/-- What becomes of a first part comes before what becomes of a second one. -/
lemma outcome_append (scopes : Scopes) (k : Nat) (pieces more : List (Piece (List Char))) :
    outcome scopes k (pieces ++ more) = (do
      let out ← outcome scopes k pieces
      (out ++ ·) <$> outcome scopes (k - (Piece.items pieces).length) more) := by
  unfold outcome
  rw [Piece.items_append, List.take_append, List.find?_append, replaceFirst_append]
  cases ((Piece.items pieces).take k).find? (isUndefined scopes) with
  | some name => rfl
  | none =>
    dsimp only [Option.or]
    cases (List.take _ (Piece.items more)).find? (isUndefined scopes) <;> rfl

/-- What becomes of pieces is an error exactly if one of the first references is to no variable. -/
lemma exists_outcome_eq_error_iff (scopes : Scopes) (k : Nat) (pieces : List (Piece (List Char))) :
    (∃ e, outcome scopes k pieces = .error e) ↔
      ∃ name ∈ (Piece.items pieces).take k, scopes.load? (String.ofList name) = none := by
  have hundefined : ∀ name, isUndefined scopes name = true ↔
      scopes.load? (String.ofList name) = none := by
    simp [isUndefined]
  unfold outcome
  cases hfind : ((Piece.items pieces).take k).find? (isUndefined scopes) with
  | some name =>
    have hname : isUndefined scopes name = true := List.find?_some hfind
    exact iff_of_true ⟨_, rfl⟩ ⟨name, List.mem_of_find?_eq_some hfind, (hundefined name).1 hname⟩
  | none =>
    have hdefined := List.find?_eq_none.1 hfind
    constructor
    · rintro ⟨e, herror⟩
      cases herror
    · rintro ⟨name, hmem, hload⟩
      exact absurd ((hundefined name).2 hload) (hdefined name hmem)

/-- The scan of live text replaces the first references that it is read as. -/
lemma scan_eq_outcome (h : references.Reading cs pieces) (scopes : Scopes) (limit : Option Nat)
    (used : Nat) :
    scan scopes.load limit used cs =
      (·, used + allowed (limit.map (· - used)) (Piece.items pieces).length) <$>
        outcome scopes (allowed (limit.map (· - used)) (Piece.items pieces).length) pieces := by
  induction h generalizing used with
  | done =>
    have hnone : allowed (limit.map (· - used)) 0 = 0 := by cases limit <;> simp [allowed]
    have hempty : Text.cut? [delimiter] [] = none := rfl
    rw [Piece.items, List.length_nil, hnone, outcome_zero, scan_eq, hempty]
    split <;> rfl
  | copied hnone _ ih =>
    rw [scan_copied hnone, ih, Piece.items_char, outcome_cons (by simp), Functor.map_map,
      Functor.map_map]
    rfl
  | @found name cs rest pieces hstands hcut hrest ih =>
    by_cases hlimit : limit.any (· ≤ used) = true
    · have hnone : allowed (limit.map (· - used)) (Piece.items (.found name :: pieces)).length =
          0 := by
        cases limit with
        | none => simp at hlimit
        | some limit =>
          have hle : limit ≤ used := by simpa using hlimit
          simp [allowed, Nat.sub_eq_zero_of_le hle]
      rw [scan_of_reached hlimit, hnone, outcome_zero,
        (Lexicon.Reading.found hstands hcut hrest).flatMap_eq.1]
      rfl
    · have hcount : allowed (limit.map (· - used)) (Piece.items (.found name :: pieces)).length =
          allowed (limit.map (· - (used + 1))) (Piece.items pieces).length + 1 := by
        cases limit with
        | none => simp [allowed]
        | some limit =>
          have hlt : used < limit := by simpa using hlimit
          simp only [allowed, Option.map_some, Piece.items_found, List.length_cons]
          omega
      rw [hcut, scan_found hstands.1 hlimit, hcount, outcome_found, ih]
      cases scopes.load (String.ofList name) with
      | error e => rfl
      | ok value =>
        cases outcome scopes (allowed (limit.map (· - (used + 1))) (Piece.items pieces).length)
          pieces with
        | error e => rfl
        | ok out =>
          change Except.ok _ = Except.ok _
          rw [Nat.add_assoc, Nat.add_comm 1]

/-- What is left of a limit after the references of a first part goes to a second one. -/
lemma expandSegments_eq_outcome {segments : List Marked.Segment}
    (h : references.SegmentsReading segments pieces) (scopes : Scopes) (limit : Option Nat) :
    expandSegments scopes limit segments =
      outcome scopes (allowed limit (Piece.items pieces).length) pieces := by
  induction h generalizing limit with
  | nil =>
    have hnone : allowed limit 0 = 0 := by cases limit <;> simp [allowed]
    rw [Piece.items, List.length_nil, hnone, outcome_zero]
    rfl
  | @live text rest pieces more htext _ ih =>
    have hlimit : limit.map (· - 0) = limit := by cases limit <;> rfl
    have hmin : min (allowed limit (Piece.items (pieces ++ more)).length)
        (Piece.items pieces).length = allowed limit (Piece.items pieces).length := by
      cases limit with
      | none => simp [allowed]
      | some limit =>
        simp only [allowed, Piece.items_append, List.length_append]
        omega
    have hleft : allowed limit (Piece.items (pieces ++ more)).length -
        (Piece.items pieces).length =
          allowed (limit.map (· - allowed limit (Piece.items pieces).length))
            (Piece.items more).length := by
      cases limit with
      | none => simp [allowed]
      | some limit =>
        simp only [allowed, Piece.items_append, List.length_append, Option.map_some]
        omega
    have hfirst : outcome scopes (allowed limit (Piece.items (pieces ++ more)).length) pieces =
        outcome scopes (allowed limit (Piece.items pieces).length) pieces := by
      rw [← outcome_min, hmin]
    rw [expandSegments, scan_eq_outcome htext, outcome_append, hfirst, hleft, hlimit, Nat.zero_add]
    cases outcome scopes (allowed limit (Piece.items pieces).length) pieces with
    | error e => rfl
    | ok out =>
      change (expandSegments scopes _ rest >>= fun more => pure (out ++ more)) = _
      rw [ih]
      rfl
  | ignored _ ih =>
    rw [outcome_cons (by simp), expandSegments, ih]
    · rfl
    · intro text htext
      cases htext

end Interpolation

namespace Engine

open Interpolation

/-- The pass that replaces references, on a text that is read as some pieces. -/
lemma applyPass_variables {cs : List Char} {pieces : List (Piece (List Char))}
    (h : references.Reads cs pieces) (exec : Exec) (s : Session) :
    applyPass exec .variables cs s =
      ofExcept (outcome s.scopes (allowed s.interpolationLimit (Piece.items pieces).length) pieces)
        s := by
  rw [← expandSegments_eq_outcome h]
  rfl

/-- Returning a value or failing fails exactly if there is an error. -/
lemma ofExcept_failed_iff {α : Type} {x : Except Error α} {s : Session} :
    (∃ e t, ofExcept x s = (.failed e, t)) ↔ ∃ e, x = .error e := by
  cases x with
  | error e => exact iff_of_true ⟨e, s, rfl⟩ ⟨e, rfl⟩
  | ok a =>
    constructor
    · rintro ⟨e, t, hfailed⟩
      cases hfailed
    · rintro ⟨e, herror⟩
      cases herror

/-- In every session and for every text, the pass that replaces references reads the text in one
way.  Of the references in all its live segments, numbered from left to right, it replaces exactly
the first ones, as many as the limit allows, by the values that their variables have, and it copies
all else: the pieces put together are the text, and what is put in is not read again.  It fails
exactly if one of these first references is to no variable, and then names the first such; the
session stays as it is.  So with limit zero it leaves the text alone, and without a limit it does
what it does with any limit that is not less than the number of references. -/
theorem variables_replace_first (exec : Exec) (s : Session) (cs : List Char) :
    (∃! pieces, references.Reads cs pieces) ∧
    ∀ pieces, references.Reads cs pieces →
      pieces.flatMap (Piece.written references.spelling) = cs ∧
      (let names := Piece.items pieces
        let count := allowed s.interpolationLimit names.length
        applyPass exec .variables cs s =
          (match (names.take count).find? (isUndefined s.scopes) with
            | some name => .failed (.undefinedVariable (String.ofList name))
            | none => .done (replaceFirst (valueChars s.scopes) count pieces), s) ∧
        ((∃ e t, applyPass exec .variables cs s = (.failed e, t)) ↔
          ∃ name ∈ names.take count, s.scopes.load? (String.ofList name) = none)) ∧
      (s.interpolationLimit = some 0 → applyPass exec .variables cs s = (.done cs, s)) ∧
      ∀ limit, (Piece.items pieces).length ≤ limit →
        (applyPass exec .variables cs { s with interpolationLimit := some limit }).1 =
          (applyPass exec .variables cs { s with interpolationLimit := none }).1 := by
  refine ⟨lawful_references.existsUnique_reads cs, fun pieces h => ⟨h.flatMap_written, ?_, ?_, ?_⟩⟩
  · constructor
    · rw [applyPass_variables h, outcome]
      cases List.find? (isUndefined s.scopes) _ <;> rfl
    · rw [applyPass_variables h, ← exists_outcome_eq_error_iff]
      exact ofExcept_failed_iff
  · intro hlimit
    rw [applyPass_variables h, hlimit, allowed, Nat.zero_min, outcome_zero, h.flatMap_written]
    rfl
  · intro limit hle
    rw [applyPass_variables h, applyPass_variables h]
    simp only [allowed, Nat.min_eq_right hle]
    cases outcome s.scopes (Piece.items pieces).length pieces <;> rfl

end Engine

end LineShell

import LineShell.Text.Blank

/-!
# Sets, partitions and maps of code points

A set of characters is kept as the increasing list of the code points at which membership switches
on or off: a character belongs to it exactly when an odd number of switches lie at or below it.
Two sets are combined by going through their switches together, so that union, intersection,
difference and complement take time in proportion to the number of switches and not of members.

A partition of the code points gives each of them a label, by runs from zero upwards.  A map between
code points is kept as runs that all move by the same distance.  The tables of the standard are
written as texts of hexadecimal numbers separated by blanks and line ends.
-/

namespace LineShell.Text

/-- The value of a hexadecimal digit in lower case; every other character counts as zero. -/
def hexValue (c : Char) : Nat :=
  if '0' ≤ c ∧ c ≤ '9' then c.toNat - '0'.toNat
  else if 'a' ≤ c ∧ c ≤ 'f' then c.toNat - 'a'.toNat + 10
  else 0

/-- The number written by hexadecimal digits. -/
def hexNumber (digits : List Char) : Nat :=
  digits.foldl (fun n c => n * 16 + hexValue c) 0

/-- The hexadecimal numbers of a table text, in order. -/
def hexNumbers (text : String) : List Nat :=
  (blankWordsFrom [] text.toList).map hexNumber

/-- One more than the largest code point. -/
def codePointBound : Nat := 0x110000

/-! ### Sets -/

/-- A set of code points, given by the increasing code points at which membership changes. -/
structure CodePointSet where
  switches : Array Nat
  deriving DecidableEq, Repr

namespace CodePointSet

/-- The set whose switches are written in `text`. -/
def ofText (text : String) : CodePointSet :=
  ⟨(hexNumbers text).toArray⟩

/-- The first index in `[lo, hi)` whose switch lies above `n`, or `hi` when there is none. -/
def firstAbove (switches : Array Nat) (n lo hi : Nat) : Nat :=
  if lo < hi then
    let mid := (lo + hi) / 2
    if switches.getD mid 0 ≤ n then firstAbove switches n (mid + 1) hi
    else firstAbove switches n lo mid
  else lo
termination_by hi - lo

/-- Membership of a code point: an odd number of switches lie at or below it. -/
def containsCode (set : CodePointSet) (n : Nat) : Bool :=
  firstAbove set.switches n 0 set.switches.size % 2 == 1

/-- Membership of a character. -/
def contains (set : CodePointSet) (c : Char) : Bool :=
  set.containsCode c.toNat

/-- The set without members. -/
def empty : CodePointSet := ⟨#[]⟩

/-- The set of all code points. -/
def all : CodePointSet := ⟨#[0, codePointBound]⟩

/-- Whether the set has no members. -/
def isEmpty (set : CodePointSet) : Bool := set.switches.isEmpty

/-- Whether the set has exactly one member. -/
def isSingle (set : CodePointSet) : Bool :=
  match set.switches.toList with
  | [first, stop] => stop == first + 1
  | _ => false

/-- The code points from `first` to `last`. -/
def ofRange (first last : Nat) : CodePointSet := ⟨#[first, last + 1]⟩

/-- The set of one character. -/
def ofChar (c : Char) : CodePointSet := ofRange c.toNat c.toNat

/-- The switches of the set that has a code point when `op` says so of its membership in two sets,
`inA` and `inB` telling whether the code points before the next switches are in them. -/
def combineFrom (op : Bool → Bool → Bool) (inA inB : Bool) (as bs : List Nat) : List Nat :=
  match as, bs with
  | [], [] => []
  | a :: as', [] => note a (!inA) inB (combineFrom op (!inA) inB as' [])
  | [], b :: bs' => note b inA (!inB) (combineFrom op inA (!inB) [] bs')
  | a :: as', b :: bs' =>
    if a < b then note a (!inA) inB (combineFrom op (!inA) inB as' (b :: bs'))
    else if b < a then note b inA (!inB) (combineFrom op inA (!inB) (a :: as') bs')
    else note a (!inA) (!inB) (combineFrom op (!inA) (!inB) as' bs')
termination_by as.length + bs.length
where
  /-- Puts a switch before the others if membership changes there. -/
  note (n : Nat) (nextA nextB : Bool) (rest : List Nat) : List Nat :=
    if op inA inB == op nextA nextB then rest else n :: rest

/-- The set that has a code point when `op` says so of its membership in two sets.  What is in
neither of the two is not in the result either. -/
def combine (op : Bool → Bool → Bool) (a b : CodePointSet) : CodePointSet :=
  ⟨(combineFrom op false false a.switches.toList b.switches.toList).toArray⟩

/-- The members of either set. -/
def union (a b : CodePointSet) : CodePointSet := combine (· || ·) a b

/-- The members of both sets. -/
def inter (a b : CodePointSet) : CodePointSet := combine (· && ·) a b

/-- The members of the first set that are not in the second. -/
def diff (a b : CodePointSet) : CodePointSet := combine (fun x y => x && !y) a b

/-- The members of exactly one of two sets. -/
def symmDiff (a b : CodePointSet) : CodePointSet := combine (· != ·) a b

/-- The code points that are not in the set. -/
def complement (a : CodePointSet) : CodePointSet := all.diff a

/-- The ranges of a list of switches, first and last code point of each. -/
def rangesOf : List Nat → List (Nat × Nat)
  | first :: stop :: rest => (first, stop - 1) :: rangesOf rest
  | [first] => [(first, codePointBound - 1)]
  | [] => []

/-- The ranges of the set, first and last code point of each. -/
def ranges (set : CodePointSet) : List (Nat × Nat) := rangesOf set.switches.toList

/-- The switches of the union of ranges that are in order of their first code points, `current`
being the range that is still growing. -/
def switchesOf (current : Nat × Nat) : List (Nat × Nat) → List Nat
  | [] => [current.1, current.2 + 1]
  | (first, last) :: rest =>
    if first ≤ current.2 + 1 then switchesOf (current.1, max current.2 last) rest
    else current.1 :: (current.2 + 1) :: switchesOf (first, last) rest

/-- The union of ranges, given by the first and the last code point of each. -/
def ofRanges (ranges : List (Nat × Nat)) : CodePointSet :=
  match ranges.mergeSort (fun a b => decide (a.1 ≤ b.1)) with
  | [] => empty
  | first :: rest => ⟨(switchesOf first rest).toArray⟩

/-- The members of any of the sets. -/
def unions (sets : List CodePointSet) : CodePointSet :=
  ofRanges (sets.flatMap ranges)

/-- The set of the given code points. -/
def ofCodes (codes : List Nat) : CodePointSet :=
  ofRanges (codes.map fun n => (n, n))

end CodePointSet

/-! ### Partitions -/

/-- Labels for code points: the run of each label begins at the code point beside it and goes on to
the next one. -/
structure Partition where
  runs : Array (Nat × String)
  deriving Repr

namespace Partition

/-- Reads words that are made of a label of `width` letters and of the length of its run, `start`
being where the run of the next word begins. -/
def readRuns (width start : Nat) : List (List Char) → List (Nat × String)
  | [] => []
  | word :: rest =>
    (start, String.ofList (word.take width))
      :: readRuns width (start + hexNumber (word.drop width)) rest

/-- The partition that is written in `text`, with labels of `width` letters. -/
def ofText (width : Nat) (text : String) : Partition :=
  ⟨(readRuns width 0 (blankWordsFrom [] text.toList)).toArray⟩

/-- The first code points of the runs whose label is wanted and of those after them, `inside`
telling whether the last run was wanted. -/
def switchesWhere (wanted : String → Bool) (inside : Bool) : List (Nat × String) → List Nat
  | [] => if inside then [codePointBound] else []
  | (start, label) :: rest =>
    if wanted label == inside then switchesWhere wanted inside rest
    else start :: switchesWhere wanted (!inside) rest

/-- The code points whose label is wanted. -/
def select (partition : Partition) (wanted : String → Bool) : CodePointSet :=
  ⟨(switchesWhere wanted false partition.runs.toList).toArray⟩

/-- The code points that have one of the labels. -/
def labelled (partition : Partition) (labels : List String) : CodePointSet :=
  partition.select labels.contains

end Partition

/-! ### Maps -/

/-- Code points `first, first + step, …, last`, of which the first is sent to `target` and the
others keep their distance from it. -/
structure CodePointRun where
  first : Nat
  last : Nat
  step : Nat
  target : Nat

namespace CodePointRun

/-- The image of a code point of the run. -/
def image? (run : CodePointRun) (n : Nat) : Option Nat :=
  if run.first ≤ n ∧ n ≤ run.last ∧ (n - run.first) % run.step = 0 then
    some (run.target + (n - run.first))
  else none

/-- The code point of the run that is sent to `n`. -/
def source? (run : CodePointRun) (n : Nat) : Option Nat :=
  if run.target ≤ n ∧ n ≤ run.target + (run.last - run.first) ∧ (n - run.target) % run.step = 0 then
    some (run.first + (n - run.target))
  else none

/-- The code points of the run. -/
def sources (run : CodePointRun) : List Nat :=
  (List.range ((run.last - run.first) / run.step + 1)).map fun i => run.first + i * run.step

/-- Reads runs off a flat list of numbers, four for each. -/
def ofNumbers : List Nat → List CodePointRun
  | first :: last :: step :: target :: rest => ⟨first, last, step, target⟩ :: ofNumbers rest
  | _ => []

/-- The runs written in a table text. -/
def ofText (text : String) : List CodePointRun :=
  ofNumbers (hexNumbers text)

end CodePointRun

end LineShell.Text

import LineShell.Text.CodePoints

/-!
# Sets of characters as sequences of bytes

In UTF-8 a character is a leading byte, which also tells the number of bytes, and further bytes of
six bits each.  A range of code points is therefore the union of sequences of ranges of bytes, where
every choice of one byte from each range encodes a code point of the range.  `byteSequences` gives
the fewest such sequences, in order, which is how an automaton on bytes reads a set of characters.
-/

namespace LineShell.Text

/-- The bytes from a first to a last one. -/
abbrev ByteRange := Nat × Nat

/-- The code points that are encoded by the same number of bytes: the first and the last of them,
the number of bytes after the leading one, and what is added to the leading bits. -/
structure EncodedLength where
  first : Nat
  last : Nat
  further : Nat
  mark : Nat

/-- All code points that encode characters, by the number of their bytes. -/
def encodedLengths : List EncodedLength :=
  [⟨0, 0x7F, 0, 0⟩, ⟨0x80, 0x7FF, 1, 0xC0⟩, ⟨0x800, 0xD7FF, 2, 0xE0⟩, ⟨0xE000, 0xFFFF, 2, 0xE0⟩,
    ⟨0x10000, 0x10FFFF, 3, 0xF0⟩]

/-- What is added to the six bits of a byte that is not a leading one. -/
def furtherMark : Nat := 0x80

/-- Any byte that is not a leading one. -/
def anyFurther : ByteRange := (furtherMark, furtherMark + 63)

/-- The numbers from `first` to `last` as a byte with a mark and the given number of further bytes.
The numbers that share an incomplete first byte come first, then those with all choices of further
bytes, then those that share an incomplete last byte. -/
def sequencesBetween (mark : Nat) : (further first last : Nat) → List (List ByteRange)
  | 0, first, last => [[(mark + first, mark + last)]]
  | further + 1, first, last =>
    let block := 1 <<< (6 * (further + 1))
    let low := first / block
    let high := last / block
    let sharing (lead first last : Nat) : List (List ByteRange) :=
      (sequencesBetween furtherMark further first last).map ((mark + lead, mark + lead) :: ·)
    if low = high then sharing low (first % block) (last % block)
    else
      let start := if first % block = 0 then low else low + 1
      let stop := if last % block = block - 1 then high + 1 else high
      (if start = low then [] else sharing low (first % block) (block - 1))
        ++ (if start < stop then
              [(mark + start, mark + stop - 1) :: List.replicate (further + 1) anyFurther]
            else [])
        ++ (if stop = high then sharing high 0 (last % block) else [])

/-- The sequences of byte ranges that encode the members of the set, in order. -/
def CodePointSet.byteSequences (set : CodePointSet) : List (List ByteRange) :=
  set.ranges.flatMap fun (first, last) => encodedLengths.flatMap fun encoded =>
    let first := max first encoded.first
    let last := min last encoded.last
    if first ≤ last then sequencesBetween encoded.mark encoded.further first last else []

end LineShell.Text

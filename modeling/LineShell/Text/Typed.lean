import LineShell.Text.Bytes
import LineShell.Text.Cluster

/-!
# Lines as they were typed

A line that is read as it was typed may hold backspaces.  A backspace takes back the cluster of
characters before it.  The length of a cluster is kept in a single byte, so that of a cluster of 256
bytes or more only the remainder is taken back; a line in which that would cut through a character
has no reading.
-/

namespace LineShell.Text

/-- The character that takes back the cluster before it. -/
def backspace : Char := '\x08'

/-- Goes through clusters, `kept` holding the characters that were not taken back, the last one
first, and `sizes` the bytes of the clusters that backspaces may still take back. -/
def typedFrom? (kept : List Char) (sizes : List Nat) : List (List Char) → Option (List Char)
  | [] => some kept.reverse
  | cluster :: rest =>
    if cluster = [backspace] then
      match sizes with
      | [] => typedFrom? kept [] rest
      | size :: sizes => do typedFrom? (← dropBytes? size kept) sizes rest
    else typedFrom? (cluster.reverse ++ kept) (byteCount cluster % 256 :: sizes) rest

/-- What a line comes to once its backspaces are followed, if it has a reading. -/
def typed? (line : String) : Option String :=
  if line.contains backspace then
    (typedFrom? [] [] (clusters line.toList)).map String.ofList
  else some line

end LineShell.Text

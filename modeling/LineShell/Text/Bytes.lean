/-!
# Texts measured in bytes

Characters take one to four bytes each in UTF-8.
-/

namespace LineShell.Text

/-- The number of bytes that the characters take. -/
def byteCount : List Char → Nat
  | [] => 0
  | c :: rest => c.utf8Size + byteCount rest

/-- The characters from the byte position `count` on; nothing when the position is inside a
character or beyond the end. -/
def dropBytes? (count : Nat) : List Char → Option (List Char)
  | [] => if count = 0 then some [] else none
  | c :: rest =>
    if count = 0 then some (c :: rest)
    else if c.utf8Size ≤ count then dropBytes? (count - c.utf8Size) rest
    else none

/-- The characters before the byte position `count`; nothing when the position is inside a character
or beyond the end. -/
def takeBytes? (count : Nat) : List Char → Option (List Char)
  | [] => if count = 0 then some [] else none
  | c :: rest =>
    if count = 0 then some []
    else if c.utf8Size ≤ count then (takeBytes? (count - c.utf8Size) rest).map (c :: ·)
    else none

end LineShell.Text

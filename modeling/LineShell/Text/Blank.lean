/-!
# White space, trimming and words

White space is the property of that name in the Unicode standard, which has far more members than
the blank, the tab and the line end.
-/

namespace LineShell.Text

/-- The characters of white space. -/
def isBlank (c : Char) : Bool :=
  let n := c.toNat
  n == 0x20 || (0x09 ≤ n && n ≤ 0x0D) || n == 0x85 || n == 0xA0 || n == 0x1680
    || (0x2000 ≤ n && n ≤ 0x200A) || n == 0x2028 || n == 0x2029 || n == 0x202F || n == 0x205F
    || n == 0x3000

/-- The characters without the white space before them. -/
def trimLeft (cs : List Char) : List Char :=
  cs.dropWhile isBlank

/-- The characters without the white space after them. -/
def trimRight (cs : List Char) : List Char :=
  (cs.reverse.dropWhile isBlank).reverse

/-- The characters without the white space around them. -/
def trimChars (cs : List Char) : List Char :=
  trimRight (trimLeft cs)

/-- The text without the white space around it. -/
def trim (text : String) : String :=
  String.ofList (trimChars text.toList)

/-- Whether some character is white space. -/
def hasBlank (text : String) : Bool :=
  text.toList.any isBlank

/-- The words of `cs`, `pending` holding the characters of the word being read, last first. -/
def blankWordsFrom (pending : List Char) : List Char → List (List Char)
  | [] => if pending.isEmpty then [] else [pending.reverse]
  | c :: rest =>
    if isBlank c then
      if pending.isEmpty then blankWordsFrom [] rest
      else pending.reverse :: blankWordsFrom [] rest
    else blankWordsFrom (c :: pending) rest

/-- The maximal runs of characters that are not white space. -/
def blankWords (text : String) : List String :=
  (blankWordsFrom [] text.toList).map String.ofList

/-- The first run of characters that are not white space, or nothing. -/
def firstWord (text : String) : String :=
  String.ofList ((trimLeft text.toList).takeWhile (!isBlank ·))

end LineShell.Text

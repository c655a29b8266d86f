/-!
# Words of a line

A line is a sequence of words separated by blanks and tabs.  A word is made of adjacent segments: a
quoted segment runs from a quote character to the next one of the same kind, or to the end of the
line, and keeps everything between them as it is; a bare segment runs up to the next separator or
quote character, and in it a backslash makes the separator, quote character or backslash after it an
ordinary character.  Every line can be read in this way.

`Word.quote` writes a single word so that it is read back, and prefers, in this order, no quotes,
one kind of quotes, the other kind, and backslashes.
-/

namespace LineShell.Word

/-- The quote character that is preferred. -/
def singleQuote : Char := '\x27'

/-- The other quote character. -/
def doubleQuote : Char := '\x22'

/-- Blanks and tabs separate words. -/
def isSeparator (c : Char) : Bool := c == ' ' || c == '\t'

/-- The two quote characters. -/
def isQuote (c : Char) : Bool := c == singleQuote || c == doubleQuote

/-- The characters that a backslash makes ordinary. -/
def isEscapable (c : Char) : Bool := isSeparator c || isQuote c || c == '\\'

/-- Reads a bare segment, which may be empty, and gives the characters it stands for and the rest of
the line. -/
def bare : List Char → List Char × List Char
  | [] => ([], [])
  | '\\' :: c :: rest =>
    if isEscapable c then
      let (word, rest) := bare rest
      (c :: word, rest)
    else
      let (word, rest) := bare (c :: rest)
      ('\\' :: word, rest)
  | c :: rest =>
    if isSeparator c || isQuote c then ([], c :: rest)
    else
      let (word, rest) := bare rest
      (c :: word, rest)

/-- Reads the rest of a quoted segment, up to and including the closing quote character. -/
def closing (quote : Char) (cs : List Char) : List Char × List Char :=
  (cs.takeWhile (· != quote), (cs.dropWhile (· != quote)).drop 1)

/-- Reads one segment of a word; nothing at a separator and at the end of the line. -/
def segment? : List Char → Option (List Char × List Char)
  | [] => none
  | c :: rest =>
    if isSeparator c then none
    else if isQuote c then some (closing c rest)
    else some (bare (c :: rest))

theorem length_bare_snd_le (cs : List Char) : (bare cs).2.length ≤ cs.length := by
  fun_induction bare cs <;> simp_all <;> omega

theorem length_closing_snd_le (quote : Char) (cs : List Char) :
    (closing quote cs).2.length ≤ cs.length := by
  have := (List.dropWhile_sublist (· != quote) (l := cs)).length_le
  simp only [closing, List.length_drop]
  omega

theorem length_bare_snd_lt {c : Char} (rest : List Char) (hs : isSeparator c = false)
    (hq : isQuote c = false) : (bare (c :: rest)).2.length < (c :: rest).length := by
  rw [bare.eq_def]
  split
  · simp_all
  · next d rest' heq =>
    obtain ⟨rfl, rfl⟩ := List.cons.inj heq
    split
    · have := length_bare_snd_le rest'
      simp only [List.length_cons]
      omega
    · have := length_bare_snd_le (d :: rest')
      simp only [List.length_cons] at this ⊢
      omega
  · next d rest' _ heq =>
    obtain ⟨rfl, rfl⟩ := List.cons.inj heq
    have := length_bare_snd_le rest
    simp only [hs, hq, Bool.or_self, Bool.false_eq_true, if_false, List.length_cons]
    omega

/-- Every segment takes at least one character. -/
theorem length_segment?_lt {cs word rest : List Char} (h : segment? cs = some (word, rest)) :
    rest.length < cs.length := by
  cases cs with
  | nil => simp [segment?] at h
  | cons c cs =>
    rw [segment?] at h
    split at h
    · simp at h
    · next hs =>
      split at h
      · have := length_closing_snd_le c cs
        rw [Option.some.inj h] at this
        simpa [Nat.lt_succ_iff] using this
      · next hq =>
        have := length_bare_snd_lt cs (by simpa using hs) (by simpa using hq)
        rwa [Option.some.inj h] at this

/-- Reads the remaining segments of a word and puts them together. -/
def segments (cs : List Char) : List Char × List Char :=
  match h : segment? cs with
  | none => ([], cs)
  | some (word, rest) =>
    have := length_segment?_lt h
    let (more, rest) := segments rest
    (word ++ more, rest)
termination_by cs.length

theorem length_segments_snd_le (cs : List Char) : (segments cs).2.length ≤ cs.length := by
  induction hn : cs.length using Nat.strongRecOn generalizing cs with
  | _ n ih =>
    rw [segments]
    split
    · exact Nat.le_of_eq hn
    · next word rest h =>
      have hlt := length_segment?_lt h
      have := ih rest.length (by omega) rest rfl
      simp only
      omega

/-- Reads one word; nothing at a separator and at the end of the line. -/
def word? (cs : List Char) : Option (List Char × List Char) :=
  (segment? cs).map fun _ => segments cs

theorem length_word?_lt {cs word rest : List Char} (h : word? cs = some (word, rest)) :
    rest.length < cs.length := by
  obtain ⟨⟨w, r⟩, hs, heq⟩ := Option.map_eq_some_iff.1 h
  have hlt := length_segment?_lt hs
  have := length_segments_snd_le r
  rw [segments] at heq
  split at heq
  · simp_all
  · next w' r' h' =>
    obtain ⟨rfl, rfl⟩ := Prod.mk.inj (Option.some.inj (hs.symm.trans h'))
    obtain ⟨_, rfl⟩ := Prod.mk.inj heq
    omega

theorem length_dropSeparators_le (cs : List Char) :
    (cs.dropWhile isSeparator).length ≤ cs.length :=
  (List.dropWhile_sublist isSeparator).length_le

/-- Reads words until the end of the line. -/
def words (cs : List Char) : List (List Char) :=
  match h : word? (cs.dropWhile isSeparator) with
  | none => []
  | some (word, rest) =>
    have := length_word?_lt h
    have := length_dropSeparators_le cs
    word :: words rest
termination_by cs.length

/-- Carriage returns and line feeds at the end of a line do not belong to it. -/
def isLineEnd (c : Char) : Bool := c == '\r' || c == '\n'

/-- A line without the line ends after it. -/
def trimLineEnd (cs : List Char) : List Char :=
  (cs.reverse.dropWhile isLineEnd).reverse

/-- The words of a line, as lists of characters. -/
def splitChars (line : List Char) : List (List Char) :=
  words (trimLineEnd line)

/-- The words of a line. -/
def split (line : String) : List String :=
  (splitChars line.toList).map String.ofList

/-- The first word of a line, which is empty when there is none, and the words after it. -/
def splitHead (line : String) : String × List String :=
  match split line with
  | [] => ("", [])
  | name :: args => (name, args)

/-- A word with a backslash before every character that needs one. -/
def escape (cs : List Char) : List Char :=
  cs.flatMap fun c => if isEscapable c then ['\\', c] else [c]

/-- Writes a word, as a list of characters, so that it is read back. -/
def quoteChars (cs : List Char) : List Char :=
  if cs.isEmpty then [singleQuote, singleQuote]
  else if !cs.any isEscapable then cs
  else if !cs.contains singleQuote then singleQuote :: cs ++ [singleQuote]
  else if !cs.contains doubleQuote then doubleQuote :: cs ++ [doubleQuote]
  else escape cs

/-- Writes a word so that it is read back. -/
def quote (word : String) : String :=
  String.ofList (quoteChars word.toList)

/-- A command name followed by its arguments, each of them quoted. -/
def commandLine (name : String) (args : List String) : String :=
  " ".intercalate (name :: args.map quote)

end LineShell.Word

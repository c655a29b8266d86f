import LineShell.Proofs.Grammar

/-!
# Lines read one character at a time

A line can be read from left to right without looking ahead or going back.  The scanner is always in
one of four states (`Word.State`): between words, in a word, in a word after a backslash, and
between quote characters in a word.  It reads every line into the words that are found segment by
segment (`Word.words_eq_scan`): the two agree on each kind of segment, and a segment is always read
from within a word.

How a line is written tells what becomes of each of its characters.  A word is written in pieces
(`Word.Piece`), which are a character that stands for itself, a backslash with the character that it
makes ordinary, and a text with its quote characters; before each word and after the last one there
are separators.  Every line is laid out in this way (`Word.exists_laid`), and its words are what the
pieces stand for (`Word.Laid.scan_eq`).  So only separators, quote characters around a text and
backslashes before a piece's character are missing in the words, and a word is empty only if all its
pieces are quoted texts that are empty.
-/

namespace LineShell.Word

variable {cs rest w : List Char}

/-! ### The scanner -/

/-- Where the scanner is, with what it has read of the word. -/
inductive State
  | between
  | inWord (word : List Char)
  | afterBackslash (word : List Char)
  | inQuotes (quote : Char) (word : List Char)

/-- In a word, a character that does not end it begins a quoted segment or an escape, or belongs to
the word. -/
def State.take (word : List Char) (c : Char) : State :=
  if isQuote c then .inQuotes c word
  else if c == '\\' then .afterBackslash word
  else .inWord (word ++ [c])

/-- Reads one character, which may end a word. -/
def State.step : State → Char → State × Option (List Char)
  | .between, c => if isSeparator c then (.between, none) else (.take [] c, none)
  | .inWord word, c => if isSeparator c then (.between, some word) else (.take word c, none)
  | .afterBackslash word, c =>
    if isEscapable c then (.inWord (word ++ [c]), none) else (.inWord (word ++ ['\\', c]), none)
  | .inQuotes quote word, c =>
    if c == quote then (.inWord word, none) else (.inQuotes quote (word ++ [c]), none)

/-- The word that ends at the end of the line. -/
def State.finish : State → Option (List Char)
  | .between => none
  | .inWord word => some word
  | .afterBackslash word => some (word ++ ['\\'])
  | .inQuotes _ word => some word

/-- Reads the rest of a line and gives the words that end in it. -/
def scan (state : State) : List Char → List (List Char)
  | [] => state.finish.toList
  | c :: cs => (state.step c).2.toList ++ scan (state.step c).1 cs

/-- In a word, characters other than separators are taken. -/
lemma scan_inWord_cons {c : Char} (hsep : isSeparator c = false) (cs w : List Char) :
    scan (.inWord w) (c :: cs) = scan (.take w c) cs := by
  simp [scan, State.step, hsep]

/-- Most of them belong to the word as they are. -/
lemma take_of_plain {c : Char} (hquote : isQuote c = false) (hback : c ≠ '\\') (w : List Char) :
    State.take w c = .inWord (w ++ [c]) := by
  simp [State.take, hquote, hback]

/-- A quote character begins a quoted segment. -/
lemma take_of_isQuote {quote : Char} (h : isQuote quote = true) (w : List Char) :
    State.take w quote = .inQuotes quote w := by
  rw [State.take, if_pos h]

/-- Quote characters do not separate words. -/
lemma isSeparator_of_isQuote {quote : Char} (h : isQuote quote = true) :
    isSeparator quote = false := by
  simp only [isQuote, Bool.or_eq_true, beq_iff_eq] at h
  rcases h with rfl | rfl <;> decide

/-- Where a word ends, it is given out. -/
lemma scan_inWord_of_stops (h : Stops rest) (w : List Char) :
    scan (.inWord w) rest = w :: scan .between rest := by
  cases rest with
  | nil => rfl
  | cons c rest =>
    have hc : isSeparator c = true := h c rfl
    simp [scan, State.step, hc]

/-- Separators between words are passed over. -/
lemma scan_between_append {gap : List Char} (h : ∀ c ∈ gap, isSeparator c = true)
    (cs : List Char) : scan .between (gap ++ cs) = scan .between cs := by
  induction gap with
  | nil => rfl
  | cons c gap ih =>
    have hc : isSeparator c = true := h c List.mem_cons_self
    have hrest := ih fun d hd => h d (List.mem_cons_of_mem c hd)
    simpa [scan, State.step, hc] using hrest

/-- Where a word begins, the scanner might as well be in it already. -/
lemma scan_between_cons {c : Char} (hsep : isSeparator c = false) (cs : List Char) :
    scan .between (c :: cs) = scan (.inWord []) (c :: cs) := by
  simp [scan, State.step, hsep]

/-! ### The scanner reads segments -/

/-- A text without the quote character is copied. -/
lemma scan_inQuotes_append {quote : Char} {text : List Char} (h : quote ∉ text)
    (cs w : List Char) :
    scan (.inQuotes quote w) (text ++ cs) = scan (.inQuotes quote (w ++ text)) cs := by
  induction text generalizing w with
  | nil => rw [List.nil_append, List.append_nil]
  | cons c text ih =>
    obtain ⟨hc, htext⟩ := not_or.1 (fun hmem => h (List.mem_cons.2 hmem))
    have hstep : scan (.inQuotes quote w) (c :: (text ++ cs)) =
        scan (.inQuotes quote (w ++ [c])) (text ++ cs) := by
      simp [scan, State.step, Ne.symm hc]
    rw [List.cons_append, hstep, ih htext, List.append_assoc, List.singleton_append]

/-- The next quote character of the same kind leads back into the word. -/
lemma scan_inQuotes_cons (quote : Char) (cs w : List Char) :
    scan (.inQuotes quote w) (quote :: cs) = scan (.inWord w) cs := by
  simp [scan, State.step]

/-- The rest of a quoted segment. -/
lemma scan_inQuotes (quote : Char) (cs w : List Char) :
    scan (.inQuotes quote w) cs =
      scan (.inWord (w ++ (closing quote cs).1)) (closing quote cs).2 := by
  have htext : quote ∉ cs.takeWhile (· != quote) := by
    intro hmem
    have hne := List.mem_takeWhile_imp hmem
    simp at hne
  have hsplit := List.takeWhile_append_dropWhile (p := (· != quote)) (l := cs)
  simp only [closing]
  nth_rewrite 1 [← hsplit]
  rw [scan_inQuotes_append htext]
  cases hrest : cs.dropWhile (· != quote) with
  | nil => rfl
  | cons c tail =>
    have hc : c = quote := by simpa using eq_false_of_dropWhile_eq_cons hrest
    rw [hc, scan_inQuotes_cons, List.drop_one, List.tail_cons]

/-- A backslash and the character that it makes ordinary. -/
lemma scan_inWord_escaped {c : Char} (h : isEscapable c = true) (cs w : List Char) :
    scan (.inWord w) ('\\' :: c :: cs) = scan (.inWord (w ++ [c])) cs := by
  rw [scan_inWord_cons (by decide)]
  simp [State.take, isQuote, singleQuote, doubleQuote, scan, State.step, h]

/-- Whether a backslash before a text is an ordinary character. -/
def Literal (cs : List Char) : Prop := ∀ c ∈ cs.head?, isEscapable c = false

/-- A backslash that escapes nothing. -/
lemma scan_inWord_backslash (h : Literal cs) (w : List Char) :
    scan (.inWord w) ('\\' :: cs) = scan (.inWord (w ++ ['\\'])) cs := by
  rw [scan_inWord_cons (by decide)]
  cases cs with
  | nil => rfl
  | cons c cs =>
    have hc : isEscapable c = false := h c rfl
    obtain ⟨hsep, hquote, hback⟩ := not_special_of_not_escapable hc
    rw [scan_inWord_cons hsep, take_of_plain hquote hback]
    simp [State.take, isQuote, singleQuote, doubleQuote, scan, State.step, hc]

/-- A character that stands for itself. -/
lemma scan_inWord_plain {c : Char} (hsep : isSeparator c = false) (hquote : isQuote c = false)
    (hback : c = '\\' → Literal cs) (w : List Char) :
    scan (.inWord w) (c :: cs) = scan (.inWord (w ++ [c])) cs := by
  by_cases hc : c = '\\'
  · subst hc
    exact scan_inWord_backslash (hback rfl) w
  · rw [scan_inWord_cons hsep, take_of_plain hquote hc]

/-- A bare segment. -/
lemma scan_inWord_bare (cs w : List Char) :
    scan (.inWord w) cs = scan (.inWord (w ++ (bare cs).1)) (bare cs).2 := by
  fun_induction bare cs generalizing w with
  | case1 => rw [List.append_nil]
  | case2 c rest hc word tail hbare ih =>
    rw [hbare] at ih
    rw [scan_inWord_escaped hc, ih, List.append_assoc, List.singleton_append]
  | case3 c rest hc word tail hbare ih =>
    rw [hbare] at ih
    have hliteral : Literal (c :: rest) := by simpa [Literal] using hc
    rw [scan_inWord_backslash hliteral, ih, List.append_assoc, List.singleton_append]
  | case4 c rest _ hc => rw [List.append_nil]
  | case5 c rest hno hc word tail hbare ih =>
    rw [hbare] at ih
    obtain ⟨hsep, hquote⟩ : isSeparator c = false ∧ isQuote c = false := by simpa using hc
    have hback : c = '\\' → Literal rest := by
      rintro rfl
      cases rest with
      | nil => simp [Literal]
      | cons d rest => exact absurd rfl (hno d rest rfl)
    rw [scan_inWord_plain hsep hquote hback, ih, List.append_assoc, List.singleton_append]

/-- Either kind of segment. -/
lemma scan_inWord_of_segment? {text : List Char} (h : segment? cs = some (text, rest))
    (w : List Char) : scan (.inWord w) cs = scan (.inWord (w ++ text)) rest := by
  cases cs with
  | nil => simp [segment?] at h
  | cons c cs =>
    rw [segment?] at h
    split at h
    · simp at h
    · next hsep =>
      split at h
      · next hquote =>
        have hread := scan_inQuotes c cs w
        rw [Option.some.inj h] at hread
        rw [scan_inWord_cons (by simpa using hsep), take_of_isQuote hquote, hread]
      · have hread := scan_inWord_bare (c :: cs) w
        rwa [Option.some.inj h] at hread

/-- All segments of a word. -/
lemma scan_inWord_segments (cs w : List Char) :
    scan (.inWord w) cs = scan (.inWord (w ++ (segments cs).1)) (segments cs).2 := by
  fun_induction segments cs generalizing w with
  | case1 cs hnone => rw [List.append_nil]
  | case2 cs text rest hsome hlt more tail hseg ih =>
    rw [hseg] at ih
    rw [scan_inWord_of_segment? hsome, ih, List.append_assoc]

/-- There is no segment only where a word ends. -/
lemma stops_of_segment? (h : segment? cs = none) : Stops cs := by
  cases cs with
  | nil => simp [Stops]
  | cons c cs =>
    have hc : isSeparator c = true := by
      by_contra hc
      by_cases hquote : isQuote c = true
      · simp [segment?, hc, hquote] at h
      · simp [segment?, hc, hquote] at h
    simpa [Stops] using hc

/-- After its segments the word ends. -/
lemma stops_segments (cs : List Char) : Stops (segments cs).2 := by
  fun_induction segments cs with
  | case1 cs hnone => exact stops_of_segment? hnone
  | case2 cs text rest hsome hlt more tail hseg ih =>
    rw [hseg] at ih
    exact ih

/-- The words of a line are those that the scanner gives out. -/
theorem words_eq_scan (cs : List Char) : words cs = scan .between cs := by
  have hskip : ∀ line, scan .between line = scan .between (line.dropWhile isSeparator) := by
    intro line
    have hgap : ∀ c ∈ line.takeWhile isSeparator, isSeparator c = true :=
      fun _ hc => List.mem_takeWhile_imp hc
    have hpassed := scan_between_append hgap (line.dropWhile isSeparator)
    rwa [List.takeWhile_append_dropWhile] at hpassed
  fun_induction words cs with
  | case1 cs hnone =>
    rw [hskip, dropWhile_eq_nil_of_word? hnone]
    rfl
  | case2 cs word rest hsome hlt hle ih =>
    obtain ⟨⟨text, tail⟩, hsegment, hsegments⟩ := Option.map_eq_some_iff.1 hsome
    have hbegin : scan .between (cs.dropWhile isSeparator) =
        scan (.inWord []) (cs.dropWhile isSeparator) := by
      cases hline : cs.dropWhile isSeparator with
      | nil => simp [hline, segment?] at hsegment
      | cons c line => exact scan_between_cons (eq_false_of_dropWhile_eq_cons hline) line
    have hstops := stops_segments (cs.dropWhile isSeparator)
    have hread := scan_inWord_segments (cs.dropWhile isSeparator) []
    rw [hsegments] at hstops hread
    rw [hskip, hbegin, hread, scan_inWord_of_stops hstops, ih, List.nil_append]

/-! ### How a line is written -/

/-- A piece of a word, as it is written. -/
inductive Piece
  | plain (c : Char)
  | escaped (c : Char)
  | quoted (quote : Char) (text : List Char) (closed : Bool)

/-- The characters of a piece. -/
def Piece.written : Piece → List Char
  | .plain c => [c]
  | .escaped c => ['\\', c]
  | .quoted quote text closed => quote :: text ++ if closed then [quote] else []

/-- What a piece stands for. -/
def Piece.text : Piece → List Char
  | .plain c => [c]
  | .escaped c => [c]
  | .quoted _ text _ => text

/-- A line begins with the pieces of a word, and the word ends after them.  Quote characters are
missing only at the end of the line, and a backslash is plain only if it escapes nothing. -/
inductive Spelled : List Char → List Piece → List Char → Prop
  | stop {rest : List Char} (hstops : Stops rest) : Spelled rest [] rest
  | plain {c : Char} {cs rest : List Char} {pieces : List Piece} (hsep : isSeparator c = false)
      (hquote : isQuote c = false) (hback : c = '\\' → Literal cs)
      (htail : Spelled cs pieces rest) : Spelled (c :: cs) (.plain c :: pieces) rest
  | escaped {c : Char} {cs rest : List Char} {pieces : List Piece} (hc : isEscapable c = true)
      (htail : Spelled cs pieces rest) : Spelled ('\\' :: c :: cs) (.escaped c :: pieces) rest
  | closed {quote : Char} {text cs rest : List Char} {pieces : List Piece}
      (hquote : isQuote quote = true) (htext : quote ∉ text) (htail : Spelled cs pieces rest) :
      Spelled (quote :: (text ++ quote :: cs)) (.quoted quote text true :: pieces) rest
  | unclosed {quote : Char} {text : List Char} (hquote : isQuote quote = true)
      (htext : quote ∉ text) : Spelled (quote :: text) [.quoted quote text false] []

/-- A word, as it is written, with the separators before it. -/
structure Placed where
  gap : List Char
  pieces : List Piece

/-- The characters of a word and of the separators before it. -/
def Placed.written (placed : Placed) : List Char :=
  placed.gap ++ placed.pieces.flatMap Piece.written

/-- What a word stands for. -/
def Placed.text (placed : Placed) : List Char := placed.pieces.flatMap Piece.text

/-- A line is a sequence of words, each after separators, and ends with separators. -/
inductive Laid : List Char → List Placed → List Char → Prop
  | done {trailing : List Char} (hgap : ∀ c ∈ trailing, isSeparator c = true) :
      Laid trailing [] trailing
  | word {gap cs rest trailing : List Char} {pieces : List Piece} {layout : List Placed}
      (hgap : ∀ c ∈ gap, isSeparator c = true) (hpieces : pieces ≠ [])
      (hspelled : Spelled cs pieces rest) (hrest : Laid rest layout trailing) :
      Laid (gap ++ cs) (⟨gap, pieces⟩ :: layout) trailing

variable {pieces : List Piece} {layout : List Placed} {trailing : List Char}

/-- No character is missing in the pieces. -/
lemma Spelled.eq_append (h : Spelled cs pieces rest) :
    cs = pieces.flatMap Piece.written ++ rest := by
  induction h with
  | stop => rfl
  | plain _ _ _ _ ih => simp [Piece.written, ← ih]
  | escaped _ _ ih => simp [Piece.written, ← ih]
  | closed _ _ _ ih => simp [Piece.written, ← ih]
  | unclosed => simp [Piece.written]

/-- The word ends after the pieces. -/
lemma Spelled.stops (h : Spelled cs pieces rest) : Stops rest := by
  induction h with
  | stop hstops => exact hstops
  | plain _ _ _ _ ih => exact ih
  | escaped _ _ ih => exact ih
  | closed _ _ _ ih => exact ih
  | unclosed => simp [Stops]

/-- The scanner reads each piece as what it stands for. -/
lemma Spelled.scan_eq (h : Spelled cs pieces rest) (w : List Char) :
    scan (.inWord w) cs = scan (.inWord (w ++ pieces.flatMap Piece.text)) rest := by
  induction h generalizing w with
  | stop => rw [List.flatMap_nil, List.append_nil]
  | plain hsep hquote hback _ ih =>
    rw [scan_inWord_plain hsep hquote hback, ih, List.append_assoc]
    rfl
  | escaped hc _ ih =>
    rw [scan_inWord_escaped hc, ih, List.append_assoc]
    rfl
  | closed hquote htext _ ih =>
    rw [scan_inWord_cons (isSeparator_of_isQuote hquote), take_of_isQuote hquote,
      scan_inQuotes_append htext, scan_inQuotes_cons, ih, List.append_assoc]
    rfl
  | @unclosed quote text hquote htext =>
    have hread := scan_inQuotes_append htext [] w
    rw [List.append_nil] at hread
    rw [scan_inWord_cons (isSeparator_of_isQuote hquote), take_of_isQuote hquote, hread]
    simp [scan, State.finish, Piece.text]

/-- Every line begins with the pieces of a word, or with none where a word ends. -/
lemma exists_spelled (cs : List Char) : ∃ pieces rest, Spelled cs pieces rest := by
  induction hn : cs.length using Nat.strongRecOn generalizing cs with
  | _ n ih =>
    subst hn
    match cs, ih with
    | [], _ => exact ⟨[], [], .stop (by simp [Stops])⟩
    | c :: tail, ih =>
      by_cases hsep : isSeparator c = true
      · exact ⟨[], c :: tail, .stop (by simpa [Stops] using hsep)⟩
      · have hsep : isSeparator c = false := by simpa using hsep
        by_cases hquote : isQuote c = true
        · by_cases hmem : c ∈ tail
          · obtain ⟨text, after, rfl, htext⟩ := List.eq_append_cons_of_mem hmem
            have hshorter : after.length < (c :: (text ++ c :: after)).length := by
              simp only [List.length_cons, List.length_append]
              omega
            obtain ⟨pieces, rest, hspelled⟩ := ih after.length hshorter after rfl
            exact ⟨_, _, .closed hquote htext hspelled⟩
          · exact ⟨_, _, .unclosed hquote hmem⟩
        · have hquote : isQuote c = false := by simpa using hquote
          by_cases hescape : ∃ d after, c = '\\' ∧ tail = d :: after ∧ isEscapable d = true
          · obtain ⟨d, after, rfl, rfl, hd⟩ := hescape
            obtain ⟨pieces, rest, hspelled⟩ :=
              ih after.length (by simp only [List.length_cons]; omega) after rfl
            exact ⟨_, _, .escaped hd hspelled⟩
          · have hback : c = '\\' → Literal tail := by
              intro hc d hd
              obtain ⟨after, hafter⟩ := List.head?_eq_some_iff.1 hd
              by_contra hne
              exact hescape ⟨d, after, hc, hafter, by simpa using hne⟩
            obtain ⟨pieces, rest, hspelled⟩ := ih tail.length (by simp) tail rfl
            exact ⟨_, _, .plain hsep hquote hback hspelled⟩

/-- Every line is laid out in words. -/
theorem exists_laid (cs : List Char) : ∃ layout trailing, Laid cs layout trailing := by
  induction hn : cs.length using Nat.strongRecOn generalizing cs with
  | _ n ih =>
    subst hn
    have hsplit := List.takeWhile_append_dropWhile (p := isSeparator) (l := cs)
    have hgap : ∀ c ∈ cs.takeWhile isSeparator, isSeparator c = true :=
      fun _ hc => List.mem_takeWhile_imp hc
    obtain ⟨pieces, rest, hspelled⟩ := exists_spelled (cs.dropWhile isSeparator)
    cases pieces with
    | nil =>
      -- no word begins here although it is not a separator, so this is the end of the line
      have hnil : cs.dropWhile isSeparator = [] := by
        have hstops := hspelled.stops
        have hrest := hspelled.eq_append
        rw [List.flatMap_nil, List.nil_append] at hrest
        cases hline : cs.dropWhile isSeparator with
        | nil => rfl
        | cons c line =>
          have hsep := eq_false_of_dropWhile_eq_cons hline
          rw [← hrest, hline] at hstops
          simp [hstops c rfl] at hsep
      rw [hnil, List.append_nil] at hsplit
      rw [← hsplit] at hgap ⊢
      exact ⟨[], _, .done (by simpa [hsplit] using hgap)⟩
    | cons piece pieces =>
      have hshorter : rest.length < cs.length := by
        have hlength := congrArg List.length hspelled.eq_append
        have hle := length_dropSeparators_le cs
        have hpos : 0 < piece.written.length := by
          cases piece <;> simp [Piece.written]
        rw [List.flatMap_cons, List.length_append, List.length_append] at hlength
        omega
      obtain ⟨layout, trailing, hlaid⟩ := ih rest.length hshorter rest rfl
      rw [← hsplit]
      exact ⟨_, _, .word hgap (List.cons_ne_nil _ _) hspelled hlaid⟩

/-- No character is missing in the layout. -/
lemma Laid.eq_append (h : Laid cs layout trailing) :
    cs = layout.flatMap Placed.written ++ trailing := by
  induction h with
  | done => rfl
  | @word gap cs rest trailing pieces layout _ _ hspelled _ ih =>
    rw [hspelled.eq_append, List.flatMap_cons, List.append_assoc, ← ih]
    simp [Placed.written]

/-- The scanner gives out what the words of a layout stand for. -/
theorem Laid.scan_eq (h : Laid cs layout trailing) :
    scan .between cs = layout.map Placed.text := by
  induction h with
  | @done trailing hgap =>
    have hpassed := scan_between_append hgap []
    rw [List.append_nil] at hpassed
    exact hpassed
  | @word gap cs rest trailing pieces layout hgap hpieces hspelled hrest ih =>
    have hbegin : scan .between cs = scan (.inWord []) cs := by
      cases hspelled with
      | stop => exact absurd rfl hpieces
      | plain hsep _ _ _ => exact scan_between_cons hsep _
      | escaped _ _ => exact scan_between_cons (by decide) _
      | closed hquote _ _ => exact scan_between_cons (isSeparator_of_isQuote hquote) _
      | unclosed hquote _ => exact scan_between_cons (isSeparator_of_isQuote hquote) _
    rw [scan_between_append hgap, hbegin, hspelled.scan_eq, scan_inWord_of_stops hspelled.stops, ih]
    rfl

/-- A word that is empty is written in quoted texts that are empty. -/
lemma Placed.eq_quoted_of_text_eq_nil {placed : Placed} (h : placed.text = []) {piece : Piece}
    (hpiece : piece ∈ placed.pieces) : ∃ quote closed, piece = .quoted quote [] closed := by
  have hnil : piece.text = [] := List.flatMap_eq_nil_iff.1 h piece hpiece
  cases piece with
  | plain c => exact absurd hnil (List.cons_ne_nil c [])
  | escaped c => exact absurd hnil (List.cons_ne_nil c [])
  | quoted quote text closed => exact ⟨quote, closed, by rw [show text = [] from hnil]⟩

/-- The words of a line, without the line ends after it, are the ones that the grammar of lines
reads, up to its end, and the ones that the scanner gives out.  The line is laid out in words and
separators, so that no character of it is missing; its words are what their pieces stand for, and
those of an empty word are quoted texts that are empty. -/
theorem split_reads_line (line : String) :
    lineRule (trimLineEnd line.toList) = some ((split line).map String.toList, []) ∧
      split line = (scan .between (trimLineEnd line.toList)).map String.ofList ∧
      ∃ layout trailing,
        Laid (trimLineEnd line.toList) layout trailing ∧
        trimLineEnd line.toList = layout.flatMap Placed.written ++ trailing ∧
        (split line).map String.toList = layout.map Placed.text ∧
        ∀ placed ∈ layout, placed.text = [] →
          ∀ piece ∈ placed.pieces, ∃ quote closed, piece = .quoted quote [] closed := by
  have hsplit : (split line).map String.toList = words (trimLineEnd line.toList) := by
    simp [split, splitChars, Function.comp_def]
  obtain ⟨layout, trailing, hlaid⟩ := exists_laid (trimLineEnd line.toList)
  refine ⟨?_, ?_, layout, trailing, hlaid, hlaid.eq_append, ?_, ?_⟩
  · rw [hsplit, lineRule_eq]
  · rw [← words_eq_scan]
    rfl
  · rw [hsplit, words_eq_scan, hlaid.scan_eq]
  · intro placed _ hempty piece hpiece
    exact placed.eq_quoted_of_text_eq_nil hempty hpiece

end LineShell.Word

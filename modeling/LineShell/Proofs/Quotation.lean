import LineShell.Word
import Mathlib.Data.List.DropRight
import Mathlib.Tactic.Common

/-!
# Quoted words are read back

`Word.quote` chooses between four ways of writing a word.  Read one after the other, with one blank
between them, words that are written in any of these ways come back as they were
(`Word.words_lineChars`): a quoted word is one segment, and that segment ends exactly where the word
does.

What can go wrong is only the end of the line, since line ends are taken off before it is read.  The
words of a line are made of its characters in their order (`Word.flatten_words_sublist`), so a line
end that is taken off is missing in the words, and they come back if and only if the line does not
end in one.  A word that is written between quote characters never ends in one; so it depends on the
last word alone, as `Word.split_quotedLine_eq_iff` says.
-/

namespace LineShell.Word

variable {cs rest w : List Char}

/-- A line of words, each of them quoted, with one blank between them. -/
def quotedLine (words : List String) : String := " ".intercalate (words.map quote)

/-- The same line, as a list of characters. -/
def lineChars (words : List (List Char)) : List Char := [' '].intercalate (words.map quoteChars)

/-! ### One word -/

/-- Where a word ends: before a separator, and at the end of the line. -/
def Stops (rest : List Char) : Prop := ∀ c ∈ rest.head?, isSeparator c = true

/-- The characters that have a meaning of their own are those that can be escaped. -/
lemma not_special_of_not_escapable {c : Char} (h : isEscapable c = false) :
    isSeparator c = false ∧ isQuote c = false ∧ c ≠ '\\' := by
  simp only [isEscapable, Bool.or_eq_false_iff, beq_eq_false_iff_ne] at h
  exact ⟨h.1.1, h.1.2, h.2⟩

/-- A bare segment ends where a word does. -/
lemma bare_of_stops (h : Stops rest) : bare rest = ([], rest) := by
  cases rest with
  | nil => rfl
  | cons c rest =>
    have hc : isSeparator c = true := h c rfl
    rw [bare.eq_3]
    · simp [hc]
    · rintro _ _ rfl
      exact absurd hc (by decide)

/-- Where a word ends there is no segment. -/
lemma segment?_of_stops (h : Stops rest) : segment? rest = none := by
  cases rest with
  | nil => rfl
  | cons c rest =>
    have hc : isSeparator c = true := h c rfl
    simp [segment?, hc]

/-- An escaped word is one bare segment. -/
lemma bare_escape_append (w : List Char) (h : Stops rest) :
    bare (escape w ++ rest) = (w, rest) := by
  induction w with
  | nil => exact bare_of_stops h
  | cons c w ih =>
    by_cases hc : isEscapable c = true
    · have hescape : escape (c :: w) ++ rest = '\\' :: c :: (escape w ++ rest) := by
        simp [escape, hc]
      rw [hescape, bare.eq_2, if_pos hc, ih]
    · obtain ⟨hsep, hquote, hback⟩ := not_special_of_not_escapable (Bool.eq_false_iff.2 hc)
      have hescape : escape (c :: w) ++ rest = c :: (escape w ++ rest) := by
        simp [escape, hc]
      rw [hescape, bare.eq_3 _ _ fun _ _ hc _ => hback hc, ih]
      simp [hsep, hquote]

/-- Nothing is escaped in a word that needs no quotes. -/
lemma escape_eq_self (h : w.any isEscapable = false) : escape w = w := by
  induction w with
  | nil => rfl
  | cons c w ih =>
    rw [List.any_cons, Bool.or_eq_false_iff] at h
    have hrest := ih h.2
    simp only [escape] at hrest
    simp [escape, h.1, hrest]

/-- An escaped word that is not empty begins with a bare segment. -/
lemma segment?_escape_append (hw : w ≠ []) (h : Stops rest) :
    segment? (escape w ++ rest) = some (w, rest) := by
  have hbare := bare_escape_append w h
  obtain ⟨c, w, rfl⟩ := List.exists_cons_of_ne_nil hw
  -- the first character is a backslash, or needs none
  obtain ⟨d, tail, hd, hsep, hquote⟩ : ∃ d tail, escape (c :: w) ++ rest = d :: tail ∧
      isSeparator d = false ∧ isQuote d = false := by
    by_cases hc : isEscapable c = true
    · exact ⟨'\\', c :: (escape w ++ rest), by simp [escape, hc], by decide, by decide⟩
    · obtain ⟨hsep, hquote, -⟩ := not_special_of_not_escapable (Bool.eq_false_iff.2 hc)
      exact ⟨c, escape w ++ rest, by simp [escape, hc], hsep, hquote⟩
  rw [hd] at hbare ⊢
  simp [segment?, hsep, hquote, hbare]

/-- Between quote characters of one kind there is one segment. -/
lemma segment?_quoted_append {quote : Char} (hquote : isQuote quote = true)
    (hw : w.contains quote = false) (rest : List Char) :
    segment? (quote :: w ++ [quote] ++ rest) = some (w, rest) := by
  have hsep : isSeparator quote = false := by
    simp only [isQuote, Bool.or_eq_true, beq_iff_eq] at hquote
    rcases hquote with rfl | rfl <;> decide
  have hall : ∀ c ∈ w, (c != quote) = true := by
    intro c hc
    rw [bne_iff_ne]
    rintro rfl
    rw [List.contains_iff_mem.2 hc] at hw
    exact Bool.noConfusion hw
  simp [segment?, hsep, hquote, closing, List.takeWhile_append_of_pos hall,
    List.dropWhile_append_of_pos hall]

/-- A quoted word is one segment, which ends where the word does. -/
lemma segment?_quoteChars_append (w : List Char) (h : Stops rest) :
    segment? (quoteChars w ++ rest) = some (w, rest) := by
  unfold quoteChars
  split
  · next hempty =>
    rw [List.isEmpty_iff.1 hempty]
    exact segment?_quoted_append (w := []) (by decide : isQuote singleQuote = true) rfl rest
  · next hne =>
    have hw : w ≠ [] := by simpa using hne
    split
    · next hplain =>
      have hescape := segment?_escape_append hw h
      rwa [escape_eq_self (by simpa using hplain)] at hescape
    · split
      · next hsingle => exact segment?_quoted_append (by decide) (by simpa using hsingle) rest
      · split
        · next hdouble => exact segment?_quoted_append (by decide) (by simpa using hdouble) rest
        · exact segment?_escape_append hw h

/-! ### All words of a line -/

/-- A word of one segment. -/
lemma segments_of_segment? (hs : segment? cs = some (w, rest)) (h : Stops rest) :
    segments cs = (w, rest) := by
  have hrest : segments rest = ([], rest) := by
    rw [segments]
    split
    · rfl
    · next _ _ hseg => simp [segment?_of_stops h] at hseg
  rw [segments]
  split
  · next hnone => simp [hs] at hnone
  · next word tail hseg =>
    obtain ⟨rfl, rfl⟩ := Prod.mk.inj (Option.some.inj (hs.symm.trans hseg))
    simp [hrest]

/-- A line that begins with a segment begins with no separator. -/
lemma dropWhile_of_segment? {segment : List Char × List Char} (h : segment? cs = some segment) :
    cs.dropWhile isSeparator = cs := by
  cases cs with
  | nil => rfl
  | cons c cs =>
    refine List.dropWhile_cons_of_neg fun hc => ?_
    simp [segment?, hc] at h

/-- Separators are passed over, and then a word is read, if there is one. -/
lemma words_eq (cs : List Char) :
    words cs = match word? (cs.dropWhile isSeparator) with
      | none => []
      | some (word, rest) => word :: words rest := by
  rw [words]
  split <;> simp_all

/-- The first word of a line, if it is one segment. -/
lemma words_of_segment? (hs : segment? cs = some (w, rest)) (h : Stops rest) :
    words cs = w :: words rest := by
  have hword : word? (cs.dropWhile isSeparator) = some (w, rest) := by
    rw [dropWhile_of_segment? hs, word?, hs, Option.map_some, segments_of_segment? hs h]
  rw [words_eq, hword]

/-- A separator before a word is passed over. -/
lemma words_cons_separator {c : Char} (h : isSeparator c = true) (cs : List Char) :
    words (c :: cs) = words cs := by
  rw [words_eq, List.dropWhile_cons_of_pos h, ← words_eq]

/-- There are no words in an empty line. -/
lemma words_nil : words [] = [] := words_eq []

/-- The line of one word. -/
lemma lineChars_singleton (w : List Char) : lineChars [w] = quoteChars w := by
  simp [lineChars]

/-- The first word of a line stands before a blank. -/
lemma lineChars_cons_cons (w next : List Char) (ws : List (List Char)) :
    lineChars (w :: next :: ws) = quoteChars w ++ ' ' :: lineChars (next :: ws) := by
  simp [lineChars, List.intercalate_cons_cons]

/-- Quoted words are read back. -/
theorem words_lineChars (ws : List (List Char)) : words (lineChars ws) = ws := by
  induction ws with
  | nil => exact words_nil
  | cons w ws ih =>
    cases ws with
    | nil =>
      have hstops : Stops [] := by simp [Stops]
      have hone := segment?_quoteChars_append w hstops
      rw [List.append_nil] at hone
      rw [lineChars_singleton, words_of_segment? hone hstops, words_nil]
    | cons next ws =>
      have hstops : Stops (' ' :: lineChars (next :: ws)) := by
        simp only [Stops, List.head?_cons, Option.mem_some_iff, forall_eq']
        decide
      rw [lineChars_cons_cons, words_of_segment? (segment?_quoteChars_append w hstops) hstops,
        words_cons_separator (by decide), ih]

/-! ### Words are made of the characters of the line -/

/-- What a bare segment stands for, and the rest, are characters of the line in their order. -/
lemma bare_sublist (cs : List Char) : ((bare cs).1 ++ (bare cs).2).Sublist cs := by
  fun_induction bare cs with
  | case1 => exact .slnil
  | case2 c rest hc word tail hbare ih =>
    rw [hbare] at ih
    exact (ih.cons_cons c).cons '\\'
  | case3 c rest hc word tail hbare ih =>
    rw [hbare] at ih
    exact ih.cons_cons '\\'
  | case4 c rest _ hc => exact .refl _
  | case5 c rest _ hc word tail hbare ih =>
    rw [hbare] at ih
    exact ih.cons_cons c

/-- So are what a quoted segment holds, and the rest. -/
lemma closing_sublist (quote : Char) (cs : List Char) :
    ((closing quote cs).1 ++ (closing quote cs).2).Sublist cs := by
  have hsplit := List.takeWhile_append_dropWhile (p := (· != quote)) (l := cs)
  have hdrop : (cs.takeWhile (· != quote) ++ (cs.dropWhile (· != quote)).drop 1).Sublist
      (cs.takeWhile (· != quote) ++ cs.dropWhile (· != quote)) :=
    (List.drop_sublist 1 _).append_left _
  rwa [hsplit] at hdrop

/-- So are those of any segment. -/
lemma segment?_sublist (h : segment? cs = some (w, rest)) : (w ++ rest).Sublist cs := by
  cases cs with
  | nil => simp [segment?] at h
  | cons c cs =>
    rw [segment?] at h
    split at h
    · simp at h
    · split at h
      · have hclosing := closing_sublist c cs
        rw [Option.some.inj h] at hclosing
        exact hclosing.cons c
      · have hbare := bare_sublist (c :: cs)
        rwa [Option.some.inj h] at hbare

/-- So are those of all segments of a word. -/
lemma segments_sublist (cs : List Char) : ((segments cs).1 ++ (segments cs).2).Sublist cs := by
  fun_induction segments cs with
  | case1 cs hnone => exact .refl _
  | case2 cs word rest hsome hlt more tail hseg ih =>
    rw [hseg] at ih
    have hword := segment?_sublist hsome
    rw [List.append_assoc]
    exact (ih.append_left word).trans hword

/-- The words of a line are made of its characters, in their order. -/
theorem flatten_words_sublist (cs : List Char) : (words cs).flatten.Sublist cs := by
  fun_induction words cs with
  | case1 cs hnone => exact List.nil_sublist cs
  | case2 cs word rest hsome hlt hle ih =>
    obtain ⟨_, -, hseg⟩ := Option.map_eq_some_iff.1 hsome
    have hword := segments_sublist (cs.dropWhile isSeparator)
    rw [hseg] at hword
    rw [List.flatten_cons]
    exact ((ih.append_left word).trans hword).trans (List.dropWhile_sublist isSeparator)

/-! ### Line ends -/

/-- Quoting a word adds no line end and takes none away. -/
lemma countP_quoteChars (w : List Char) :
    (quoteChars w).countP isLineEnd = w.countP isLineEnd := by
  have hescape : (escape w).countP isLineEnd = w.countP isLineEnd := by
    induction w with
    | nil => rfl
    | cons c w ih =>
      have hcons : escape (c :: w) = (if isEscapable c then ['\\', c] else [c]) ++ escape w := rfl
      rw [hcons, List.countP_append, ih]
      by_cases hc : isEscapable c = true
      · simp [hc, List.countP_cons, isLineEnd, Nat.add_comm]
      · simp [hc, List.countP_cons, isLineEnd, Nat.add_comm]
  unfold quoteChars
  split
  · next hempty => simp [List.isEmpty_iff.1 hempty, singleQuote, isLineEnd]
  · split
    · rfl
    · split
      · simp [singleQuote, isLineEnd]
      · split
        · simp [doubleQuote, isLineEnd]
        · exact hescape

/-- A line of quoted words has the line ends of the words. -/
lemma countP_lineChars (ws : List (List Char)) :
    (lineChars ws).countP isLineEnd = ws.flatten.countP isLineEnd := by
  induction ws with
  | nil => rfl
  | cons w ws ih =>
    cases ws with
    | nil => simp [lineChars_singleton, countP_quoteChars]
    | cons next ws =>
      have hblank : isLineEnd ' ' = false := by decide
      rw [lineChars_cons_cons, List.countP_append, List.countP_cons_of_neg (by simp [hblank]), ih,
        countP_quoteChars, List.flatten_cons (l := w), List.countP_append]

/-- Whether a text ends in a line end. -/
def endsInLineEnd (cs : List Char) : Bool := cs.getLast?.any isLineEnd

/-- A line is left as it is exactly if it does not end in a line end. -/
lemma trimLineEnd_eq_self_iff : trimLineEnd cs = cs ↔ endsInLineEnd cs = false := by
  have hiff : trimLineEnd cs = cs ↔ ∀ hne : cs ≠ [], ¬ isLineEnd (cs.getLast hne) = true :=
    List.rdropWhile_eq_self_iff
  rw [hiff]
  cases hlast : cs.getLast? with
  | none =>
    rw [List.getLast?_eq_none_iff.1 hlast]
    simp [endsInLineEnd]
  | some c =>
    have hne : cs ≠ [] := by
      rintro rfl
      simp at hlast
    have hc : cs.getLast hne = c :=
      Option.some.inj ((List.getLast?_eq_some_getLast hne).symm.trans hlast)
    simp [endsInLineEnd, hlast, hne, hc]

/-- Otherwise it loses line ends. -/
lemma countP_trimLineEnd_lt (h : endsInLineEnd cs = true) :
    (trimLineEnd cs).countP isLineEnd < cs.countP isLineEnd := by
  obtain ⟨c, hlast, hc⟩ : ∃ c, cs.getLast? = some c ∧ isLineEnd c = true := by
    simpa [endsInLineEnd, Option.any_eq_true] using h
  obtain ⟨init, rfl⟩ := List.getLast?_eq_some_iff.1 hlast
  have htrim : trimLineEnd (init ++ [c]) = trimLineEnd init :=
    List.rdropWhile_concat_pos isLineEnd init c hc
  have hle : (trimLineEnd init).countP isLineEnd ≤ init.countP isLineEnd :=
    (List.rdropWhile_prefix isLineEnd init).sublist.countP_le
  rw [htrim, List.countP_append, List.countP_singleton, if_pos hc]
  omega

/-- Quoted words come back exactly if their line does not end in a line end. -/
lemma splitChars_lineChars_eq_iff (ws : List (List Char)) :
    splitChars (lineChars ws) = ws ↔ endsInLineEnd (lineChars ws) = false := by
  constructor
  · intro hsplit
    by_contra hends
    -- the line ends that are taken off are missing in the words
    have hlost := countP_trimLineEnd_lt (by simpa using hends)
    have hwords := (flatten_words_sublist (trimLineEnd (lineChars ws))).countP_le (p := isLineEnd)
    have hall : words (trimLineEnd (lineChars ws)) = ws := hsplit
    rw [hall, ← countP_lineChars] at hwords
    omega
  · intro hends
    rw [splitChars, trimLineEnd_eq_self_iff.2 hends, words_lineChars]

/-! ### The last word -/

/-- An escaped word ends in the character in which the word ends. -/
lemma getLast?_escape (w : List Char) : (escape w).getLast? = w.getLast? := by
  induction w with
  | nil => rfl
  | cons c w ih =>
    have hcons : escape (c :: w) = (if isEscapable c then ['\\', c] else [c]) ++ escape w := rfl
    have hlast : (if isEscapable c then ['\\', c] else [c]).getLast? = some c := by
      split <;> rfl
    rw [hcons, List.getLast?_append, hlast, ih, List.getLast?_cons]
    cases w.getLast? <;> rfl

/-- A quoted word ends in a line end if the word does, unless it is written between quote
characters. -/
lemma endsInLineEnd_quoteChars (w : List Char) :
    endsInLineEnd (quoteChars w) = true ↔
      endsInLineEnd w = true ∧
        (w.any isEscapable = false ∨ singleQuote ∈ w ∧ doubleQuote ∈ w) := by
  have hclosed : ∀ quote, isLineEnd quote = false →
      endsInLineEnd (quote :: w ++ [quote]) = false := by
    intro quote hquote
    rw [endsInLineEnd, List.getLast?_append]
    simpa using hquote
  unfold quoteChars
  split
  · next hempty =>
    rw [List.isEmpty_iff.1 hempty]
    simp [endsInLineEnd, singleQuote, isLineEnd]
  · split
    · next hplain =>
      have hplain : w.any isEscapable = false := by simpa using hplain
      simp [hplain]
    · next hspecial =>
      have hspecial : w.any isEscapable = true := by simpa using hspecial
      split
      · next hsingle =>
        have hsingle : singleQuote ∉ w := by simpa using hsingle
        rw [hclosed singleQuote (by decide)]
        simp [hspecial, hsingle]
      · next hsingle =>
        have hsingle : singleQuote ∈ w := by simpa using hsingle
        split
        · next hdouble =>
          have hdouble : doubleQuote ∉ w := by simpa using hdouble
          rw [hclosed doubleQuote (by decide)]
          simp [hspecial, hdouble]
        · next hdouble =>
          have hdouble : doubleQuote ∈ w := by simpa using hdouble
          simp [endsInLineEnd, getLast?_escape, hsingle, hdouble]

/-- A line of quoted words ends in a line end if its last word, quoted, does. -/
lemma endsInLineEnd_lineChars (ws : List (List Char)) :
    endsInLineEnd (lineChars ws) = true ↔
      ∃ last, ws.getLast? = some last ∧ endsInLineEnd (quoteChars last) = true := by
  induction ws with
  | nil => simp [lineChars, endsInLineEnd]
  | cons w ws ih =>
    cases ws with
    | nil => simp [lineChars_singleton]
    | cons next ws =>
      have hblank : ∀ line, endsInLineEnd (quoteChars w ++ ' ' :: line) = endsInLineEnd line := by
        intro line
        rw [endsInLineEnd, List.getLast?_append, List.getLast?_cons, Option.some_or]
        cases hlast : line.getLast? <;> simp [endsInLineEnd, hlast, isLineEnd]
      rw [lineChars_cons_cons, hblank, ih, List.getLast?_cons_cons]

/-- The characters of a line of quoted words. -/
lemma toList_quotedLine (ws : List String) :
    (quotedLine ws).toList = lineChars (ws.map String.toList) := by
  rw [quotedLine, String.toList_intercalate, lineChars, List.map_map, List.map_map]
  congr 1
  exact List.map_congr_left fun word _ => String.toList_ofList

/-- A line of quoted words is split into these words exactly if it does not end in a line end. -/
lemma split_quotedLine_eq (ws : List String) :
    split (quotedLine ws) = ws ↔ endsInLineEnd (lineChars (ws.map String.toList)) = false := by
  have hchars : ∀ texts : List (List Char),
      (texts.map String.ofList).map String.toList = texts := by
    simp [Function.comp_def]
  have htexts : (ws.map String.toList).map String.ofList = ws := by
    simp [Function.comp_def]
  rw [← splitChars_lineChars_eq_iff, split, toList_quotedLine]
  constructor
  · intro h
    rw [← hchars (splitChars _), h]
  · intro h
    rw [h, htexts]

/-- A line of quoted words, with one blank between them, is split into these words if and only if
there are none, or the last one does not end in a line end, or the last one is written between quote
characters: it holds a separator, a quote character or a backslash, but not both quote
characters. -/
theorem split_quotedLine_eq_iff (ws : List String) :
    split (quotedLine ws) = ws ↔
      ws = [] ∨ ∃ last, ws.getLast? = some last ∧
        (endsInLineEnd last.toList = false ∨
          last.toList.any isEscapable = true ∧
            ¬ (singleQuote ∈ last.toList ∧ doubleQuote ∈ last.toList)) := by
  rw [split_quotedLine_eq, ← Bool.not_eq_true, endsInLineEnd_lineChars, List.getLast?_map]
  cases hlast : ws.getLast? with
  | none =>
    have hnil : ws = [] := List.getLast?_eq_none_iff.1 hlast
    simp [hnil]
  | some last =>
    have hne : ws ≠ [] := by
      rintro rfl
      simp at hlast
    have hword : (∃ w, Option.map String.toList (some last) = some w ∧
        endsInLineEnd (quoteChars w) = true) ↔ endsInLineEnd (quoteChars last.toList) = true := by
      simp
    rw [hword, endsInLineEnd_quoteChars]
    simp only [hne, false_or, Option.some.injEq, exists_eq_left', not_and_or, not_or,
      Bool.not_eq_true, Bool.not_eq_false]

end LineShell.Word

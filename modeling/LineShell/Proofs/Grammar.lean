import LineShell.Proofs.Quotation

/-!
# Lines as a grammar

The words of a line can also be described by a grammar: rules that read a part of the line or fail,
put together by sequence, by choice and by repetition.  A choice is ordered, so that the second rule
is tried, from the same place, only if the first one fails; a repetition reads as often as it can
and is never taken back.

The grammar of lines has one rule for each kind of segment (`Word.quotedRule`, `Word.bareRule`), the
rule of words and the rule of lines, which has to end at the end of the line.  It reads every line
whole, and what it reads are its words (`Word.lineRule_eq`).
-/

namespace LineShell

/-- A rule reads a part of the line and gives what it stands for and the rest, or fails. -/
def Grammar (α : Type) : Type := List Char → Option (α × List Char)

namespace Grammar

variable {α β : Type} {rule : Grammar α} {cs rest : List Char}

/-- One character of a class. -/
def char (accepts : Char → Bool) : Grammar Char
  | [] => none
  | c :: rest => if accepts c then some (c, rest) else none

/-- The second rule is tried only if the first one fails. -/
def orElse (first second : Grammar α) : Grammar α := fun cs =>
  match first cs with
  | none => second cs
  | some found => some found

/-- One rule after the other. -/
def andThen (first : Grammar α) (second : Grammar β) : Grammar (α × β) := fun cs => do
  let (a, rest) ← first cs
  let (b, rest) ← second rest
  some ((a, b), rest)

/-- A rule that stands for something else. -/
def map (f : α → β) (rule : Grammar α) : Grammar β := fun cs =>
  (rule cs).map fun (a, rest) => (f a, rest)

/-- A rule that may be left out. -/
def opt (rule : Grammar α) : Grammar (Option α) := fun cs =>
  match rule cs with
  | none => some (none, cs)
  | some (a, rest) => some (some a, rest)

/-- The end of the line. -/
def atEnd : Grammar Unit
  | [] => some ((), [])
  | _ :: _ => none

/-- Reads by a rule as long as it succeeds and takes something. -/
def manyFrom (rule : Grammar α) (cs : List Char) : List α × List Char :=
  match rule cs with
  | none => ([], cs)
  | some (a, rest) =>
    if rest.length < cs.length then
      let (more, rest) := manyFrom rule rest
      (a :: more, rest)
    else ([], cs)
termination_by cs.length

/-- A rule any number of times. -/
def many (rule : Grammar α) : Grammar (List α) := fun cs => some (manyFrom rule cs)

/-- A rule once or more often. -/
def atLeastOne (rule : Grammar α) : Grammar (List α) := fun cs =>
  match manyFrom rule cs with
  | ([], _) => none
  | found => some found

/-- A repetition ends where the rule fails. -/
lemma manyFrom_of_eq_none (h : rule cs = none) : manyFrom rule cs = ([], cs) := by
  rw [manyFrom, h]

/-- Where the rule takes something, the repetition goes on after it. -/
lemma manyFrom_of_eq_some {a : α} (h : rule cs = some (a, rest)) (hlt : rest.length < cs.length) :
    manyFrom rule cs = (a :: (manyFrom rule rest).1, (manyFrom rule rest).2) := by
  rw [manyFrom, h]
  simp only [if_pos hlt]

/-- Where the rule fails, it is not read even once. -/
lemma atLeastOne_of_eq_none (h : rule cs = none) : rule.atLeastOne cs = none := by
  rw [atLeastOne, manyFrom_of_eq_none h]

/-- Where the repetition is not empty, it is read. -/
lemma atLeastOne_of_ne_nil (h : (manyFrom rule cs).1 ≠ []) :
    rule.atLeastOne cs = some (manyFrom rule cs) := by
  rw [atLeastOne]
  split
  · next rest heq => exact absurd (by rw [heq]) h
  · rfl

/-- Characters of one class are read as far as they go. -/
lemma manyFrom_char (accepts : Char → Bool) (cs : List Char) :
    manyFrom (char accepts) cs = (cs.takeWhile accepts, cs.dropWhile accepts) := by
  induction cs with
  | nil => exact manyFrom_of_eq_none rfl
  | cons c cs ih =>
    by_cases hc : accepts c = true
    · have hrule : char accepts (c :: cs) = some (c, cs) := by simp [char, hc]
      rw [manyFrom_of_eq_some hrule (by simp), ih]
      simp [hc]
    · have hrule : char accepts (c :: cs) = none := by simp [char, hc]
      rw [manyFrom_of_eq_none hrule]
      simp [hc]

end Grammar

namespace Word

open Grammar

variable {cs rest w : List Char}

/-- The first character that is not passed over is of another class. -/
lemma eq_false_of_dropWhile_eq_cons {p : Char → Bool} {c : Char}
    (h : cs.dropWhile p = c :: rest) : p c = false := by
  have hhead := List.head?_dropWhile_not p cs
  rw [h] at hhead
  simpa using hhead

/-! ### The rules -/

/-- A backslash and a character that it makes ordinary. -/
def escapedRule : Grammar Char :=
  ((char (· == '\\')).andThen (char isEscapable)).map fun (_, c) => c

/-- A character that neither separates words nor quotes. -/
def plainRule : Grammar Char := char fun c => !(isSeparator c || isQuote c)

/-- A bare segment. -/
def bareRule : Grammar (List Char) := (escapedRule.orElse plainRule).atLeastOne

/-- A segment between quote characters; the second one may be missing. -/
def quotedRule (quote : Char) : Grammar (List Char) :=
  ((char (· == quote)).andThen ((char (· != quote)).many.andThen (char (· == quote)).opt)).map
    fun (_, text, _) => text

/-- A segment of either kind. -/
def segmentRule : Grammar (List Char) :=
  (quotedRule doubleQuote).orElse ((quotedRule singleQuote).orElse bareRule)

/-- A word: adjacent segments, put together. -/
def wordRule : Grammar (List Char) := segmentRule.atLeastOne.map List.flatten

/-- Any number of separators. -/
def separatorsRule : Grammar (List Char) := (char isSeparator).many

/-- A word with the separators after it. -/
def separatedRule : Grammar (List Char) :=
  (wordRule.andThen separatorsRule).map fun (word, _) => word

/-- A line: separators and words, up to its end. -/
def lineRule : Grammar (List (List Char)) :=
  (separatorsRule.andThen (separatedRule.many.andThen atEnd)).map fun (_, words, _) => words

/-! ### What the rules read -/

/-- An escaped character. -/
lemma escapedRule_of_escapable {c : Char} (hc : isEscapable c = true) (rest : List Char) :
    escapedRule ('\\' :: c :: rest) = some (c, rest) := by
  simp [escapedRule, Grammar.map, andThen, char, hc]

/-- Other characters are not escaped. -/
lemma escapedRule_of_not_escapable {c : Char} (hc : isEscapable c = false) (rest : List Char) :
    escapedRule ('\\' :: c :: rest) = none := by
  simp [escapedRule, Grammar.map, andThen, char, hc]

/-- A backslash at the end of the line escapes nothing. -/
lemma escapedRule_eq_none (h : ∀ c rest, cs ≠ '\\' :: c :: rest) : escapedRule cs = none := by
  cases cs with
  | nil => rfl
  | cons b cs =>
    by_cases hb : b = '\\'
    · subst hb
      cases cs with
      | nil => rfl
      | cons c rest => exact absurd rfl (h c rest)
    · simp [escapedRule, Grammar.map, andThen, char, hb]

/-- The characters of a bare segment, read one after the other. -/
lemma manyFrom_escapedRule_orElse_plainRule (cs : List Char) :
    manyFrom (escapedRule.orElse plainRule) cs = bare cs := by
  fun_induction bare cs with
  | case1 => exact manyFrom_of_eq_none rfl
  | case2 c rest hc word tail hbare ih =>
    have hrule : escapedRule.orElse plainRule ('\\' :: c :: rest) = some (c, rest) := by
      rw [orElse, escapedRule_of_escapable hc]
    have hlt : rest.length < ('\\' :: c :: rest).length := by
      simp only [List.length_cons]
      omega
    rw [manyFrom_of_eq_some hrule hlt, ih, hbare]
  | case3 c rest hc word tail hbare ih =>
    -- the escape fails, and the backslash is read as a plain character
    have hrule : escapedRule.orElse plainRule ('\\' :: c :: rest) = some ('\\', c :: rest) := by
      rw [orElse, escapedRule_of_not_escapable (by simpa using hc)]
      rfl
    rw [manyFrom_of_eq_some hrule (by simp), ih, hbare]
  | case4 c rest hno hc =>
    have hrule : escapedRule.orElse plainRule (c :: rest) = none := by
      rw [orElse, escapedRule_eq_none fun d tail heq => ?_]
      · simp [plainRule, char, hc]
      · obtain ⟨rfl, rfl⟩ := List.cons.inj heq
        exact hno d tail rfl rfl
    exact manyFrom_of_eq_none hrule
  | case5 c rest hno hc word tail hbare ih =>
    have hrule : escapedRule.orElse plainRule (c :: rest) = some (c, rest) := by
      rw [orElse, escapedRule_eq_none fun d tail heq => ?_]
      · simp [plainRule, char, hc]
      · obtain ⟨rfl, rfl⟩ := List.cons.inj heq
        exact hno d tail rfl rfl
    rw [manyFrom_of_eq_some hrule (by simp), ih, hbare]

/-- A bare segment is not empty where one begins. -/
lemma bare_cons_ne_nil {c : Char} (rest : List Char) (hsep : isSeparator c = false)
    (hquote : isQuote c = false) : (bare (c :: rest)).1 ≠ [] := by
  rw [bare.eq_def]
  split
  · next heq => exact absurd heq (List.cons_ne_nil c rest)
  · next d tail heq =>
    split
    · exact List.cons_ne_nil _ _
    · exact List.cons_ne_nil _ _
  · next d tail _ heq =>
    obtain ⟨rfl, rfl⟩ := List.cons.inj heq
    simp [hsep, hquote]

/-- A bare segment, where one begins. -/
lemma bareRule_cons {c : Char} (rest : List Char) (hsep : isSeparator c = false)
    (hquote : isQuote c = false) : bareRule (c :: rest) = some (bare (c :: rest)) := by
  have hmany := manyFrom_escapedRule_orElse_plainRule (c :: rest)
  have hne : (manyFrom (escapedRule.orElse plainRule) (c :: rest)).1 ≠ [] := by
    rw [hmany]
    exact bare_cons_ne_nil rest hsep hquote
  rw [bareRule, atLeastOne_of_ne_nil hne, hmany]

/-- There is none before a separator or a quote character. -/
lemma bareRule_cons_eq_none {c : Char} (rest : List Char)
    (hc : (isSeparator c || isQuote c) = true) : bareRule (c :: rest) = none := by
  have hback : c ≠ '\\' := by
    rintro rfl
    exact absurd hc (by decide)
  refine atLeastOne_of_eq_none ?_
  rw [orElse, escapedRule_eq_none fun d tail heq => hback (List.cons.inj heq).1]
  simp [plainRule, char, hc]

/-- A quoted segment, where one begins. -/
lemma quotedRule_cons (quote : Char) (rest : List Char) :
    quotedRule quote (quote :: rest) = some (closing quote rest) := by
  have hclosing : (char (· == quote)).opt (rest.dropWhile (· != quote)) =
      some ((rest.dropWhile (· != quote)).head?, (rest.dropWhile (· != quote)).drop 1) := by
    cases htail : rest.dropWhile (· != quote) with
    | nil => rfl
    | cons c tail =>
      -- the characters up to here are the ones that differ from the quote character
      have hc : c = quote := by simpa using eq_false_of_dropWhile_eq_cons htail
      simp [opt, char, hc]
  simp [quotedRule, Grammar.map, andThen, many, manyFrom_char, closing, hclosing, char]

/-- There is none before other characters. -/
lemma quotedRule_eq_none {quote : Char} (h : ∀ rest, cs ≠ quote :: rest) :
    quotedRule quote cs = none := by
  cases cs with
  | nil => rfl
  | cons c rest =>
    have hc : c ≠ quote := fun heq => h rest (by rw [heq])
    simp [quotedRule, Grammar.map, andThen, char, hc]

/-- Segments are read by their rule. -/
lemma segmentRule_eq (cs : List Char) : segmentRule cs = segment? cs := by
  cases cs with
  | nil =>
    have hbare : bareRule [] = none := atLeastOne_of_eq_none rfl
    exact hbare
  | cons c rest =>
    by_cases hdouble : c = doubleQuote
    · subst hdouble
      rw [segmentRule, orElse, quotedRule_cons]
      rfl
    · have hnotDouble : quotedRule doubleQuote (c :: rest) = none :=
        quotedRule_eq_none fun _ heq => hdouble (List.cons.inj heq).1
      rw [segmentRule, orElse, hnotDouble]
      by_cases hsingle : c = singleQuote
      · subst hsingle
        simp only [orElse, quotedRule_cons]
        rfl
      · have hnotSingle : quotedRule singleQuote (c :: rest) = none :=
          quotedRule_eq_none fun _ heq => hsingle (List.cons.inj heq).1
        have hquote : isQuote c = false := by simp [isQuote, hdouble, hsingle]
        simp only [orElse, hnotSingle]
        by_cases hsep : isSeparator c = true
        · rw [bareRule_cons_eq_none rest (by simp [hsep])]
          simp [segment?, hsep]
        · rw [bareRule_cons rest (by simpa using hsep) hquote]
          simp [segment?, hsep, hquote]

/-- The segments of a word, one after the other. -/
lemma manyFrom_segmentRule (cs : List Char) :
    ((manyFrom segmentRule cs).1.flatten, (manyFrom segmentRule cs).2) = segments cs := by
  fun_induction segments cs with
  | case1 cs hnone =>
    rw [manyFrom_of_eq_none ((segmentRule_eq cs).trans hnone)]
    rfl
  | case2 cs word rest hsome hlt more tail hseg ih =>
    rw [hseg] at ih
    obtain ⟨hmore, htail⟩ := Prod.mk.inj ih
    rw [manyFrom_of_eq_some ((segmentRule_eq cs).trans hsome) hlt, List.flatten_cons, hmore, htail]

/-- Words are read by their rule. -/
lemma wordRule_eq (cs : List Char) : wordRule cs = word? cs := by
  cases hseg : segment? cs with
  | none =>
    rw [wordRule, Grammar.map, atLeastOne_of_eq_none ((segmentRule_eq cs).trans hseg), word?, hseg]
    rfl
  | some found =>
    obtain ⟨word, rest⟩ := found
    have hrule := (segmentRule_eq cs).trans hseg
    have hne : (manyFrom segmentRule cs).1 ≠ [] := by
      rw [manyFrom_of_eq_some hrule (length_segment?_lt hseg)]
      exact List.cons_ne_nil _ _
    rw [wordRule, Grammar.map, atLeastOne_of_ne_nil hne, word?, hseg, Option.map_some,
      Option.map_some, ← manyFrom_segmentRule]

/-- A word and the separators after it. -/
lemma separatedRule_eq (cs : List Char) :
    separatedRule cs = (word? cs).map fun (word, rest) => (word, rest.dropWhile isSeparator) := by
  rw [separatedRule, Grammar.map, andThen, wordRule_eq]
  cases word? cs with
  | none => rfl
  | some found => simp [separatorsRule, many, manyFrom_char]

/-- Where there is no word after the separators, the line is at its end. -/
lemma dropWhile_eq_nil_of_word? (h : word? (cs.dropWhile isSeparator) = none) :
    cs.dropWhile isSeparator = [] := by
  cases hrest : cs.dropWhile isSeparator with
  | nil => rfl
  | cons c rest =>
    have hsep : isSeparator c = false := eq_false_of_dropWhile_eq_cons hrest
    rw [hrest, word?, Option.map_eq_none_iff] at h
    by_cases hquote : isQuote c = true
    · simp [segment?, hsep, hquote] at h
    · simp [segment?, hsep, hquote] at h

/-- The words of a line, one after the other, up to its end. -/
lemma manyFrom_separatedRule (cs : List Char) :
    manyFrom separatedRule (cs.dropWhile isSeparator) = (words cs, []) := by
  fun_induction words cs with
  | case1 cs hnone =>
    have hrule : separatedRule (cs.dropWhile isSeparator) = none := by
      rw [separatedRule_eq, hnone, Option.map_none]
    rw [manyFrom_of_eq_none hrule, dropWhile_eq_nil_of_word? hnone]
  | case2 cs word rest hsome hlt hle ih =>
    have hrule : separatedRule (cs.dropWhile isSeparator) =
        some (word, rest.dropWhile isSeparator) := by
      rw [separatedRule_eq, hsome, Option.map_some]
    have hshorter := length_dropSeparators_le rest
    rw [manyFrom_of_eq_some hrule (by omega), ih]

/-- The grammar reads every line whole, and what it reads are the words of the line. -/
theorem lineRule_eq (cs : List Char) : lineRule cs = some (words cs, []) := by
  simp [lineRule, Grammar.map, andThen, separatorsRule, many, manyFrom_char, manyFrom_separatedRule,
    atEnd]

end Word

end LineShell

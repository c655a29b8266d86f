import LineShell.Environment
import LineShell.Proofs.Reading

/-!
# References to the environment are replaced in one pass

The text of a settings file is read by the lexicon `Environment.references`, which knows a name in
braces after a dollar sign.  `Environment.expandReferences_of_reading` says that each reference is
replaced by the value of its variable, and that all else is copied.  How the text is read does not
depend on the environment, so values are put in as they are.

The same is said by searching for references (`Lexicon.Replaced`): the leftmost one is replaced, and
the search goes on after it, until there is none.  As at most one reference stands at any place,
both ways have one result (`Lexicon.Lawful.replaced_iff`).
-/

namespace LineShell

namespace Lexicon

variable {κ : Type} {lexicon : Lexicon κ} {value : κ → List Char} {item : κ}
  {cs rest gap out : List Char} {pieces : List (Piece κ)}

/-! ### Replacing what is found first -/

/-- A text with everything replaced that is found in it, the leftmost thing first and then what is
found after it.  Nothing that is looked for stands at the characters that are copied. -/
inductive Replaced (lexicon : Lexicon κ) (value : κ → List Char) : List Char → List Char → Prop
  | copied {cs : List Char} (hnone : ∀ back, back <:+ cs → ∀ item, ¬ lexicon.Stands item back) :
      Replaced lexicon value cs cs
  | found {gap cs rest out : List Char} {item : κ}
      (hfirst : ∀ back, back <:+ gap → back ≠ [] → ∀ other, ¬ lexicon.Stands other (back ++ cs))
      (hstands : lexicon.Stands item cs) (hcut : cs = lexicon.spelling item ++ rest)
      (h : Replaced lexicon value rest out) :
      Replaced lexicon value (gap ++ cs) (gap ++ value item ++ out)

/-- Where nothing stands, a character more is copied. -/
lemma Replaced.cons {c : Char} (hnone : ∀ item, ¬ lexicon.Stands item (c :: cs))
    (h : lexicon.Replaced value cs out) : lexicon.Replaced value (c :: cs) (c :: out) := by
  cases h with
  | copied hrest =>
    refine .copied fun back hback => ?_
    rcases List.suffix_cons_iff.1 hback with rfl | hback
    · exact hnone
    · exact hrest back hback
  | @found gap cs rest out item hfirst hstands hcut h =>
    have hfirst' : ∀ back, back <:+ c :: gap → back ≠ [] →
        ∀ other, ¬ lexicon.Stands other (back ++ cs) := by
      intro back hback hne
      rcases List.suffix_cons_iff.1 hback with rfl | hback
      · exact hnone
      · exact hfirst back hback hne
    have hfound := Replaced.found hfirst' hstands hcut h
    exact hfound

/-- Nothing stands at the end of a text. -/
lemma Lawful.not_stands_nil (law : lexicon.Lawful) : ¬ lexicon.Stands item [] := fun h =>
  law.ne_nil h (List.prefix_nil.1 (law.begins h))

/-- With everything replaced that is found, a text is the pieces that it is read as, each of those
that were found being replaced. -/
lemma Lawful.replaced_of_reading (law : lexicon.Lawful) (h : lexicon.Reading cs pieces)
    (value : κ → List Char) :
    lexicon.Replaced value cs (pieces.flatMap (Piece.written value)) := by
  induction h with
  | done =>
    refine .copied fun back hback _ => ?_
    rw [List.suffix_nil.1 hback]
    exact law.not_stands_nil
  | copied hnone _ ih => exact ih.cons hnone
  | @found item cs rest pieces hstands hcut _ ih =>
    have hfirst : ∀ back, back <:+ [] → back ≠ [] →
        ∀ other, ¬ lexicon.Stands other (back ++ cs) := by simp
    have hfound := Replaced.found hfirst hstands hcut ih
    exact hfound

/-- There is no other way to search. -/
lemma Lawful.eq_of_replaced (law : lexicon.Lawful) (h : lexicon.Replaced value cs out)
    (hread : lexicon.Reading cs pieces) : out = pieces.flatMap (Piece.written value) := by
  induction h generalizing pieces with
  | copied hnone =>
    induction hread with
    | done => rfl
    | copied _ _ ih =>
      rw [List.flatMap_cons, ← ih fun back hback => hnone back (hback.trans (List.suffix_cons _ _))]
      rfl
    | found hstands _ _ => exact absurd hstands (hnone _ List.suffix_rfl _)
  | @found gap cs rest out item hfirst hstands hcut _ ih =>
    induction gap generalizing pieces with
    | nil =>
      cases hread with
      | done => exact absurd hstands law.not_stands_nil
      | copied hnone => exact absurd hstands (hnone item)
      | found hother hcut' hrest =>
        obtain rfl := law.eq_of_stands hstands hother
        obtain rfl := List.append_cancel_left (hcut.symm.trans hcut')
        rw [List.flatMap_cons, ← ih hrest]
        rfl
    | cons c gap ihgap =>
      cases hread with
      | copied _ hrest =>
        have hgap := ihgap (fun back hback => hfirst back (hback.trans (List.suffix_cons c gap)))
          hrest
        rw [List.flatMap_cons, ← hgap]
        rfl
      | found hother =>
        exact absurd hother (hfirst (c :: gap) List.suffix_rfl (List.cons_ne_nil c gap) _)

/-- Replacing what is found first comes to the same as reading from left to right. -/
theorem Lawful.replaced_iff (law : lexicon.Lawful) (h : lexicon.Reading cs pieces) :
    lexicon.Replaced value cs out ↔ out = pieces.flatMap (Piece.written value) := by
  constructor
  · intro hreplaced
    exact law.eq_of_replaced hreplaced h
  · rintro rfl
    exact law.replaced_of_reading h value

end Lexicon

namespace Environment

/-! ### References as they are read -/

/-- The references of a settings file: a name in braces after a dollar sign.  Any text is a name
that is not empty and holds no closing brace. -/
def references : Lexicon (List Char) where
  spelling name := '$' :: '\x7b' :: (name ++ ['\x7d'])
  Stands name cs := (name ≠ [] ∧ '\x7d' ∉ name) ∧ '$' :: '\x7b' :: (name ++ ['\x7d']) <+: cs

variable {env : Environment} {name cs rest p q : List Char} {c : Char}
  {pieces : List (Piece (List Char))}

/-- The name is read up to the first closing brace. -/
lemma referenceName?_eq_some_iff :
    referenceName? cs = some (name, rest) ↔
      (name ≠ [] ∧ '\x7d' ∉ name) ∧ cs = name ++ '\x7d' :: rest := by
  have hcut : Text.cut? ['\x7d'] cs = some (name, rest) ↔
      '\x7d' ∉ name ∧ cs = name ++ '\x7d' :: rest := Text.cut?_singleton_iff
  rw [and_assoc, ← hcut, referenceName?]
  cases Text.cut? ['\x7d'] cs with
  | none => simp
  | some found =>
    obtain ⟨before, after⟩ := found
    by_cases hempty : before = []
    · subst hempty
      simp +contextual
    · have hfound : before.isEmpty = false := by simpa using hempty
      simp only [hfound, Bool.false_eq_true, if_false, Option.some.injEq, Prod.mk.injEq]
      constructor
      · rintro ⟨rfl, rfl⟩
        exact ⟨hempty, rfl, rfl⟩
      · exact And.right

/-- What the expander takes for a reference is one. -/
lemma reference_eq_some_iff :
    (Text.after? ['$', '\x7b'] cs).bind referenceName? = some (name, rest) ↔
      references.Stands name cs ∧ cs = references.spelling name ++ rest := by
  have hspelling : ∀ tail, references.spelling name ++ tail =
      ['$', '\x7b'] ++ (name ++ '\x7d' :: tail) := by
    simp [references]
  rw [hspelling, Option.bind_eq_some_iff]
  simp only [Text.after?_eq_some, referenceName?_eq_some_iff]
  constructor
  · rintro ⟨inner, rfl, hname, rfl⟩
    exact ⟨⟨hname, rest, hspelling rest⟩, rfl⟩
  · rintro ⟨⟨hname, -⟩, hcs⟩
    exact ⟨_, hcs, hname, rfl⟩

/-- At most one reference stands at the beginning of a text. -/
lemma lawful_references : references.Lawful where
  begins h := h.2
  ne_nil _ := List.cons_ne_nil _ _
  eq_of_stands {a b cs} ha hb := by
    obtain ⟨hnameA, restA, hcsA⟩ := ha
    obtain ⟨hnameB, restB, hcsB⟩ := hb
    have hsame : a ++ '\x7d' :: restA = b ++ '\x7d' :: restB := by
      simpa using hcsA.trans hcsB.symm
    have hcutA : Text.cut? ['\x7d'] (a ++ '\x7d' :: restA) = some (a, restA) :=
      Text.cut?_singleton_iff.2 ⟨hnameA.2, rfl⟩
    rw [hsame, Text.cut?_singleton_iff.2 ⟨hnameB.2, rfl⟩] at hcutA
    exact (Prod.mk.inj (Option.some.inj hcutA)).1.symm

/-! ### The expander reads from left to right -/

/-- The expansion of a text by what stands at its beginning. -/
lemma expandReferences_cons (env : Environment) (c : Char) (rest : List Char) :
    env.expandReferences (c :: rest) =
      match (Text.after? ['$', '\x7b'] (c :: rest)).bind referenceName? with
      | some (name, after) => env.valueOrEmpty name ++ env.expandReferences after
      | none => c :: env.expandReferences rest := by
  rw [expandReferences]
  split
  · next hfound => rw [hfound]
  · next hnone => rw [hnone]

lemma expandReferences_nil (env : Environment) : env.expandReferences [] = [] := by
  rw [expandReferences]

/-- Where a reference stands, the value of its variable is put in. -/
lemma expandReferences_found (hname : name ≠ [] ∧ '\x7d' ∉ name) (rest : List Char) :
    env.expandReferences (references.spelling name ++ rest) =
      env.valueOrEmpty name ++ env.expandReferences rest := by
  have hfound : (Text.after? ['$', '\x7b'] (references.spelling name ++ rest)).bind
      referenceName? = some (name, rest) :=
    reference_eq_some_iff.2 ⟨⟨hname, rest, rfl⟩, rfl⟩
  have hcons : references.spelling name ++ rest =
      '$' :: ('\x7b' :: (name ++ ['\x7d']) ++ rest) := rfl
  rw [hcons] at hfound ⊢
  rw [expandReferences_cons, hfound]

/-- Where none stands, a character is copied. -/
lemma expandReferences_copied (hnone : ∀ name, ¬ references.Stands name (c :: rest)) :
    env.expandReferences (c :: rest) = c :: env.expandReferences rest := by
  have hnotFound : (Text.after? ['$', '\x7b'] (c :: rest)).bind referenceName? = none :=
    Option.eq_none_iff_forall_ne_some.2 fun found hfound =>
      hnone found.1 (reference_eq_some_iff.1 hfound).1
  rw [expandReferences_cons, hnotFound]

/-- Each reference that the text is read as is replaced, and all else is copied. -/
theorem expandReferences_of_reading (env : Environment) (h : references.Reading cs pieces) :
    env.expandReferences cs = pieces.flatMap (Piece.written env.valueOrEmpty) := by
  induction h with
  | done => exact expandReferences_nil env
  | copied hnone _ ih =>
    rw [expandReferences_copied hnone, ih]
    rfl
  | found hstands hcut _ ih =>
    rw [hcut, expandReferences_found hstands.1, ih]
    rfl

/-- So it comes to the same to search for the references. -/
theorem replaced_iff (env : Environment) {out : List Char} :
    references.Replaced env.valueOrEmpty cs out ↔ out = env.expandReferences cs := by
  obtain ⟨pieces, hpieces⟩ := lawful_references.exists_reading cs
  rw [lawful_references.replaced_iff hpieces, env.expandReferences_of_reading hpieces]

/-! ### Texts that are copied -/

/-- Where no reference stands, the text stays as it is. -/
lemma expandReferences_eq_self (hnone : ∀ back, back <:+ cs → ∀ name, ¬ references.Stands name back)
    : env.expandReferences cs = cs :=
  (env.replaced_iff.1 (.copied hnone)).symm

/-- A reference that stands in front of a text without closing braces does not reach into it. -/
lemma stands_append_iff (hq : '\x7d' ∉ q) :
    references.Stands name (cs ++ q) ↔ references.Stands name cs := by
  refine and_congr_right fun _ => ⟨fun h => ?_, fun h => h.trans (List.prefix_append cs q)⟩
  rcases List.prefix_or_prefix_of_prefix h (List.prefix_append cs q) with hcs | ⟨tail, htail⟩
  · exact hcs
  · rw [← htail, List.prefix_append_right_inj] at h
    have hlast : tail.getLast?.or cs.getLast? = some '\x7d' := by
      have hspelling : '$' :: '\x7b' :: (name ++ ['\x7d']) =
          ('$' :: '\x7b' :: name) ++ ['\x7d'] := rfl
      rw [← List.getLast?_append, htail, hspelling, List.getLast?_concat]
    cases hend : tail.getLast? with
    | none =>
      rw [List.getLast?_eq_none_iff.1 hend, List.append_nil] at htail
      rw [htail]
    | some last =>
      -- the closing brace would be in that text
      rw [hend, Option.some_or, Option.some.injEq] at hlast
      exact absurd (h.subset (hlast ▸ List.mem_of_getLast? hend)) hq

/-- After the last closing brace a text is copied. -/
lemma expandReferences_append (hq : '\x7d' ∉ q) (p : List Char) :
    env.expandReferences (p ++ q) = env.expandReferences p ++ q := by
  obtain ⟨pieces, hpieces⟩ := lawful_references.exists_reading p
  induction hpieces with
  | done =>
    rw [List.nil_append, expandReferences_nil, List.nil_append]
    refine expandReferences_eq_self fun back hback name hstands => hq ?_
    exact hback.subset (hstands.2.subset (by simp))
  | copied hnone _ ih =>
    rw [expandReferences_copied hnone, List.cons_append, List.cons_append, ← ih]
    refine expandReferences_copied fun name hstands => hnone name ?_
    exact (stands_append_iff hq).1 hstands
  | found hstands hcut _ ih =>
    rw [hcut, List.append_assoc, expandReferences_found hstands.1,
      expandReferences_found hstands.1, ih, List.append_assoc]

/-- A text in which each dollar sign with an opening brace is followed by a closing one holds no
reference, and none begins in it that goes on after it. -/
lemma expandReferences_plain_append
    (hp : ∀ front back, p = front ++ ['$', '\x7b'] ++ back → back.head? = some '\x7d')
    (hborder : p.getLast? = some '$' → q.head? ≠ some '\x7b') :
    env.expandReferences (p ++ q) = p ++ env.expandReferences q := by
  induction p with
  | nil => rfl
  | cons c p ih =>
    have hnone : ∀ name, ¬ references.Stands name (c :: (p ++ q)) := by
      rintro name ⟨⟨hne, hbrace⟩, rest, hcut⟩
      obtain ⟨rfl, hbegins⟩ : '$' = c ∧ '\x7b' :: (name ++ '\x7d' :: rest) = p ++ q := by
        simpa using hcut
      cases p with
      | nil =>
        rw [List.nil_append] at hbegins
        exact hborder rfl (by rw [← hbegins]; rfl)
      | cons d p =>
        obtain ⟨rfl, hname⟩ := List.cons.inj hbegins
        -- then the name would begin with a closing brace
        have hhead := hp [] p rfl
        obtain ⟨p, rfl⟩ := List.head?_eq_some_iff.1 hhead
        cases name with
        | nil => exact hne rfl
        | cons d name =>
          obtain ⟨rfl, -⟩ := List.cons.inj hname
          exact hbrace List.mem_cons_self
    rw [List.cons_append, expandReferences_copied hnone, List.cons_append, ih]
    · intro front back hsplit
      exact hp (c :: front) back (by rw [hsplit]; rfl)
    · intro hlast
      refine hborder ?_
      rw [List.getLast?_cons, hlast, Option.getD_some]

/-- Between empty braces there is no name. -/
lemma expandReferences_empty_braces (rest : List Char) :
    env.expandReferences ('$' :: '\x7b' :: '\x7d' :: rest) =
      '$' :: '\x7b' :: '\x7d' :: env.expandReferences rest := by
  simp [expandReferences_cons, Text.after?, referenceName?, Text.cut?]

/-- A text in which no reference is written stays as it is. -/
lemma expandReferences_of_not_written (hnone : ∀ front name back, name ≠ [] → '\x7d' ∉ name →
    cs ≠ front ++ references.spelling name ++ back) : env.expandReferences cs = cs := by
  refine expandReferences_eq_self ?_
  rintro back ⟨front, rfl⟩ name ⟨hname, after, rfl⟩
  exact hnone front name after hname.1 hname.2 (List.append_assoc _ _ _).symm

/-! ### Settings files -/

/-- The characters of an expanded text. -/
lemma toList_expand (env : Environment) (text : String) :
    (env.expand text).toList = env.expandReferences text.toList := String.toList_ofList

/-- The text of a settings file is read from left to right in exactly one way, which does not depend
on the environment: where a reference stands it is found, and reading goes on after it; elsewhere a
character is copied.  When it is expanded, each reference is replaced by the value of its variable,
or by nothing if that is not set, and values are not read again.  It comes to the same to replace
the leftmost reference, then the leftmost one of those after it, and so on.

So a dollar sign with empty braces is copied, all that comes after the last closing brace is copied,
and with it braces that are not closed, and so is a text without references.  A reference is
replaced whatever comes after it, if before it each dollar sign with an opening brace is followed by
a closing one. -/
theorem expand_replaces_in_one_pass :
    (∀ text : String, ∃! pieces, references.Reading text.toList pieces ∧
      pieces.flatMap (Piece.written references.spelling) = text.toList ∧
      ∀ env : Environment,
        (env.expand text).toList = pieces.flatMap (Piece.written env.valueOrEmpty)) ∧
    (∀ (env : Environment) (text : String) (out : List Char),
      references.Replaced env.valueOrEmpty text.toList out ↔ out = (env.expand text).toList) ∧
    ∀ env : Environment,
      (∀ rest, env.expand ("$\x7b\x7d" ++ rest) = "$\x7b\x7d" ++ env.expand rest) ∧
      (∀ text rest : String, '\x7d' ∉ rest.toList →
        env.expand (text ++ rest) = env.expand text ++ rest) ∧
      (∀ text : String, (∀ front name back, name ≠ [] → '\x7d' ∉ name →
        text.toList ≠ front ++ references.spelling name ++ back) → env.expand text = text) ∧
      ∀ text name rest : String,
        (∀ front back, text.toList = front ++ ['$', '\x7b'] ++ back →
          back.head? = some '\x7d') →
        name ≠ "" → '\x7d' ∉ name.toList →
        env.expand (text ++ "$\x7b" ++ name ++ "\x7d" ++ rest) =
          env.expand text ++ (env.value? name).getD "" ++ env.expand rest := by
  refine ⟨fun text => ?_, fun env text out => ?_, fun env => ⟨fun rest => ?_, ?_, ?_, ?_⟩⟩
  · obtain ⟨pieces, hpieces⟩ := lawful_references.exists_reading text.toList
    refine ⟨pieces, ⟨hpieces, hpieces.flatMap_eq.1, fun env => ?_⟩, fun other hother =>
      lawful_references.eq_of_reading hpieces hother.1⟩
    rw [toList_expand, env.expandReferences_of_reading hpieces]
  · rw [toList_expand, env.replaced_iff]
  · rw [← String.toList_inj, toList_expand, String.toList_append, String.toList_append,
      toList_expand]
    exact expandReferences_empty_braces rest.toList
  · intro text rest hrest
    rw [← String.toList_inj, toList_expand, String.toList_append, String.toList_append,
      toList_expand, expandReferences_append hrest]
  · intro text hnone
    rw [← String.toList_inj, toList_expand, expandReferences_of_not_written hnone]
  · intro text name rest htext hname hbrace
    have hne : name.toList ≠ [] := by simpa using hname
    have hself : env.expandReferences text.toList = text.toList := by
      have hplain : env.expandReferences (text.toList ++ []) =
          text.toList ++ env.expandReferences [] :=
        expandReferences_plain_append htext (by simp)
      rwa [List.append_nil, expandReferences_nil, List.append_nil] at hplain
    have hsplice : env.expandReferences
        (text.toList ++ (references.spelling name.toList ++ rest.toList)) = text.toList ++
          env.expandReferences (references.spelling name.toList ++ rest.toList) :=
      expandReferences_plain_append htext (by simp [references])
    rw [expandReferences_found ⟨hne, hbrace⟩, valueOrEmpty, String.ofList_toList] at hsplice
    simp only [← String.toList_inj, toList_expand, String.toList_append, hself]
    simpa [references] using hsplice

/-- A name may hold an opening brace, a value may hold a reference, and a dollar sign may stand
before another one. -/
theorem expand_replaces_in_one_pass_of_nested_openers :
    let env := Environment.ofList [("a$\x7bb", "1"), ("b", "$\x7bc\x7d"), ("c", "2")]
    let nested := "$\x7ba$\x7bb\x7d$\x7bc"
    ((∀ front back, "$".toList = front ++ ['$', '\x7b'] ++ back → back.head? = some '\x7d') ∧
      "b" ≠ "" ∧ '\x7d' ∉ "b".toList ∧ '\x7d' ∉ "$\x7bc".toList) ∧
      env.expand ("$" ++ "$\x7b" ++ "b" ++ "\x7d" ++ ("$\x7b\x7d" ++ nested)) =
        "$" ++ "$\x7bc\x7d" ++ ("$\x7b\x7d" ++ ("1" ++ "$\x7bc")) := by
  intro env nested
  obtain ⟨-, -, hall⟩ := expand_replaces_in_one_pass
  obtain ⟨hempty, hend, hnone, hsplice⟩ := hall env
  have hplain : ∀ p : String, p.toList.length < 2 → ∀ front back : List Char,
      p.toList = front ++ ['$', '\x7b'] ++ back → back.head? = some '\x7d' := by
    intro p hp front back hsplit
    have hlength := congrArg List.length hsplit
    simp only [List.length_append, List.length_cons] at hlength
    omega
  have hcopied : ∀ p : String, p.toList.length < 2 → env.expand p = p := by
    intro p hp
    refine hnone p fun front name back _ _ hsplit => ?_
    have hlength := congrArg List.length hsplit
    simp only [references, List.length_append, List.length_cons] at hlength
    omega
  have hnested : env.expand nested = "1" ++ "$\x7bc" := by
    have hvalue : env.value? "a$\x7bb" = some "1" := by decide
    have hrest : env.expand "$\x7bc" = "$\x7bc" := by
      have hcut := hend "" "$\x7bc" (by decide)
      rwa [hcopied "" (by decide)] at hcut
    have hfirst := hsplice "" "a$\x7bb" "$\x7bc" (hplain "" (by decide)) (by decide) (by decide)
    rwa [hcopied "" (by decide), hvalue, hrest] at hfirst
  have hvalue : env.value? "b" = some "$\x7bc\x7d" := by decide
  refine ⟨⟨hplain "$" (by decide), by decide, by decide, by decide⟩, ?_⟩
  rw [hsplice "$" "b" _ (hplain "$" (by decide)) (by decide) (by decide), hcopied "$" (by decide),
    hvalue, hempty, hnested]
  rfl

end Environment

end LineShell

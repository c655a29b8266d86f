import LineShell.Proofs.Definition
import LineShell.Proofs.Event
import LineShell.Proofs.Lookup

/-!
# The longest name of a macro

Where several names of macros stand at one place of a text, the longest one is meant
(`Macro.Longest`).  The passes find it by trying all names in a certain order, the longer ones in
bytes first.  Which of two names of the same length is tried first does not matter: they never stand
at the same place.  So every list of the macros in which longer names come first gives the same
macro (`Macro.Arranged.firstEntry?_eq_some_iff`), and the names that are masked are looked up in the
same way as the macros that are replaced (`Macro.firstName?_namesLongestFirst`).

Nothing in the table says that its names can be names of macros (`Macro.Valid`).  They are, since
the table is changed only by defining and removing macros, whatever is run in between
(`Session.Managed.valid`).
-/

namespace LineShell

/-! ### Names that can be names of macros -/

namespace Macro

variable {table next : NameMap Macro} {name : String}

/-- All names of a table can be names of macros. -/
def Valid (table : NameMap Macro) : Prop := ∀ name ∈ table.names, checkName name = .ok ()

/-- The name of a macro is not empty. -/
lemma ne_empty_of_checkName (h : checkName name = .ok ()) : name ≠ "" := by
  rintro rfl
  exact absurd h (by decide)

/-- What a single step does to a table keeps its names valid. -/
lemma Valid.step (h : Valid table) (hstep : TableStep table next) : Valid next := by
  cases hstep with
  | same => exact h
  | defined hname body =>
    intro other hother
    rcases NameMap.mem_names_insert.1 hother with rfl | hold
    · exact hname
    · exact h other hold
  | removed name =>
    intro other hother
    obtain ⟨entry, hentry, rfl⟩ := List.mem_map.1 hother
    exact h entry.1 (List.mem_map_of_mem (List.mem_filter.1 hentry).1)

end Macro

namespace Engine

/-- Valid names can be followed from one change of the macros to the next. -/
lemma account_valid : Account fun s t => Macro.Valid s.macros → Macro.Valid t.macros where
  turn h hvalid := hvalid.step h.macros
  same h hvalid := h.macros ▸ hvalid
  trans hst htu hvalid := htu (hst hvalid)
  job := Satisfies.job fun _ _ _ _ _ hvalid => hvalid

end Engine

namespace Session

/-- Defining a macro is a step on the table. -/
lemma tableStep_of_defineMacro {s t : Session} {name : String} {body : Macro}
    (h : s.defineMacro name body = .ok t) : Macro.TableStep s.macros t.macros := by
  obtain ⟨_, hname, ht⟩ := exists_of_bind_eq_ok h
  cases ht
  exact .defined hname body

/-- The sessions that a host can come to if it changes the macros only by defining and removing
them.  It builds one with macros of its own, defines and removes macros, runs whatever it likes, and
may change everything but the macros. -/
inductive Managed : Session → Prop
  | built {options : SessionOptions} {registry : Registry} {files : FileTree}
      {packages : List Package} {macros : List (String × Macro)} {s : Session}
      (h : Session.build options registry files packages macros = .ok s) : Managed s
  | defined {s t : Session} {name : String} {body : Macro} (h : Managed s)
      (hdefine : s.defineMacro name body = .ok t) : Managed t
  | undefined {s : Session} (h : Managed s) (name : String) : Managed (s.undefineMacro name).2
  | ran {s t : Session} (h : Managed s) (hevent : s.Event t) : Managed t
  | configured {s t : Session} (h : Managed s) (hmacros : t.macros = s.macros) : Managed t

/-- The names of its macros are valid. -/
theorem Managed.valid {s : Session} (h : s.Managed) : Macro.Valid s.macros := by
  induction h with
  | @built options registry files packages macros s h =>
    obtain ⟨added, hadded, hdefined⟩ := exists_of_bind_eq_ok h
    have hstart : Macro.Valid added.macros := by
      obtain ⟨set, rfl⟩ := Session.exists_of_addPackages hadded
      intro name hname
      cases hname
    clear h hadded
    induction macros generalizing added with
    | nil =>
      cases hdefined
      exact hstart
    | cons entry rest ih =>
      rw [List.foldlM_cons] at hdefined
      obtain ⟨next, hnext, hrest⟩ := exists_of_bind_eq_ok hdefined
      exact ih next hrest (hstart.step (tableStep_of_defineMacro hnext))
  | defined _ hdefine ih => exact ih.step (tableStep_of_defineMacro hdefine)
  | undefined _ name ih => exact ih.step (.removed name)
  | ran _ hevent ih => exact hevent.follows Engine.account_valid ih
  | configured _ hmacros ih =>
    rw [hmacros]
    exact ih

end Session

/-! ### The order in which names are tried -/

namespace Macro

variable {table : NameMap Macro} {name other : String} {body : Macro} {cs : List Char}
  {entries : List (String × Macro)}

/-- The longest name of a table with which a text begins. -/
structure Longest (table : NameMap Macro) (name : String) (cs : List Char) : Prop where
  mem : name ∈ table.names
  begins : name.toList <+: cs
  longest : ∀ other ∈ table.names, other.toList <+: cs → other.length ≤ name.length

/-- The beginning of a name is not longer in bytes, and is the name if it is as long. -/
lemma eq_of_prefix_of_utf8ByteSize_le (h : name.toList <+: other.toList)
    (hle : other.utf8ByteSize ≤ name.utf8ByteSize) : name = other := by
  obtain ⟨rest, hrest⟩ := h
  have hother : other = name ++ String.ofList rest := by
    rw [← String.toList_inj, String.toList_append, String.toList_ofList, hrest]
  rw [hother, String.utf8ByteSize_append] at hle
  have hempty : (String.ofList rest).utf8ByteSize = 0 := by omega
  rw [hother, String.utf8ByteSize_eq_zero_iff.1 hempty, String.append_empty]

/-- Two names of the same length in bytes do not stand at the same place. -/
lemma eq_of_utf8ByteSize_eq (hname : name.toList <+: cs) (hother : other.toList <+: cs)
    (hsize : name.utf8ByteSize = other.utf8ByteSize) : name = other := by
  rcases List.prefix_or_prefix_of_prefix hname hother with h | h
  · exact eq_of_prefix_of_utf8ByteSize_le h hsize.ge
  · exact (eq_of_prefix_of_utf8ByteSize_le h hsize.le).symm

/-- There is only one longest name. -/
lemma Longest.eq (h : Longest table name cs) (hother : Longest table other cs) : name = other := by
  have hlength : name.length = other.length :=
    Nat.le_antisymm (hother.longest name h.mem h.begins) (h.longest other hother.mem hother.begins)
  have hbegin := List.prefix_of_prefix_length_le h.begins hother.begins hlength.le
  exact String.toList_inj.1 (hbegin.eq_of_length hlength)

/-- The macros of a table in an order in which longer names come first. -/
structure Arranged (table : NameMap Macro) (entries : List (String × Macro)) : Prop where
  mem_iff : ∀ {name : String} {body : Macro},
    (name, body) ∈ entries ↔ table.find? name = some body
  descending : entries.Pairwise fun first second =>
    second.1.utf8ByteSize ≤ first.1.utf8ByteSize

/-- The names of the entries that are tried are the names that are tried. -/
lemma map_fst_entriesLongestFirst (table : NameMap Macro) :
    (entriesLongestFirst table).map Prod.fst = namesLongestFirst table := by
  have hnames : ∀ names : List String, (∀ name ∈ names, name ∈ table.names) →
      (names.filterMap fun name => (table.find? name).map fun body => (name, body)).map Prod.fst =
        names := by
    intro names hnames
    induction names with
    | nil => rfl
    | cons name rest ih =>
      obtain ⟨body, hbody⟩ := NameMap.exists_find? (hnames name List.mem_cons_self)
      have hrest := ih fun other hother => hnames other (List.mem_cons_of_mem name hother)
      simp [hbody, hrest]
  exact hnames _ fun name hname => List.mem_mergeSort.1 hname

/-- A name that is tried before another is not shorter. -/
lemma utf8ByteSize_le_of_triedBefore (h : triedBefore name other = true) :
    other.utf8ByteSize ≤ name.utf8ByteSize := by
  simp only [triedBefore, Bool.or_eq_true, Bool.and_eq_true, decide_eq_true_eq, beq_iff_eq] at h
  omega

/-- The names come in the order of their lengths in bytes, the longest one first. -/
lemma pairwise_namesLongestFirst (table : NameMap Macro) :
    (namesLongestFirst table).Pairwise fun first second =>
      second.utf8ByteSize ≤ first.utf8ByteSize := by
  refine List.Pairwise.imp utf8ByteSize_le_of_triedBefore (List.pairwise_mergeSort ?_ ?_ _)
  · intro a b c hab hbc
    simp only [triedBefore, Bool.or_eq_true, Bool.and_eq_true, decide_eq_true_eq,
      beq_iff_eq] at hab hbc ⊢
    rcases hab with hab | ⟨hab, hle⟩
    · omega
    · rcases hbc with hbc | ⟨hbc, hle'⟩
      · omega
      · exact .inr ⟨hab.trans hbc, String.le_trans hle hle'⟩
  · intro a b
    simp only [triedBefore, Bool.or_eq_true, Bool.and_eq_true, decide_eq_true_eq, beq_iff_eq]
    rcases String.le_total a b with hle | hle
    · rcases Nat.lt_trichotomy a.utf8ByteSize b.utf8ByteSize with h | h | h
      · exact .inr (.inl h)
      · exact .inl (.inr ⟨h, hle⟩)
      · exact .inl (.inl h)
    · rcases Nat.lt_trichotomy a.utf8ByteSize b.utf8ByteSize with h | h | h
      · exact .inr (.inl h)
      · exact .inr (.inr ⟨h.symm, hle⟩)
      · exact .inl (.inl h)

/-- The order in which macros are tried is such an order. -/
lemma arranged_entriesLongestFirst (table : NameMap Macro) :
    Arranged table (entriesLongestFirst table) where
  mem_iff {name body} := by
    simp only [entriesLongestFirst, List.mem_filterMap, Option.map_eq_some_iff, Prod.mk.injEq]
    constructor
    · rintro ⟨_, -, _, hfind, rfl, rfl⟩
      exact hfind
    · intro hfind
      have hname := NameMap.mem_names_of_find? hfind
      exact ⟨name, List.mem_mergeSort.2 hname, body, hfind, rfl, rfl⟩
  descending := by
    have h := pairwise_namesLongestFirst table
    rw [← map_fst_entriesLongestFirst, List.pairwise_map] at h
    exact h

/-- The first macro that fits, in an order in which longer names come first, is one with the longest
name: what fits and comes later is not longer. -/
lemma Arranged.longest_of_first (h : Arranged table entries)
    (hfirst : Engine.firstEntry? entries cs = some (name, body)) :
    Longest table name cs ∧ table.find? name = some body := by
  obtain ⟨hfits, before, after, hentries, hbefore⟩ := List.find?_eq_some_iff_append.1 hfirst
  have hbegins : name.toList <+: cs := Text.isSome_after?_iff.1 hfits
  have hfind : table.find? name = some body := h.mem_iff.1 (by rw [hentries]; simp)
  refine ⟨⟨NameMap.mem_names_of_find? hfind, hbegins, ?_⟩, hfind⟩
  intro other hother hfit
  obtain ⟨otherBody, hotherBody⟩ := NameMap.exists_find? hother
  have hmem := h.mem_iff.2 hotherBody
  rw [hentries, List.mem_append, List.mem_cons] at hmem
  rcases hmem with hearlier | hsame | hlater
  · have hnot := hbefore _ hearlier
    simp [Text.isSome_after?_iff.2 hfit] at hnot
  · cases hsame
    exact Nat.le_refl _
  · have hsorted := h.descending
    rw [hentries] at hsorted
    have hsize := (List.pairwise_cons.1 (List.pairwise_append.1 hsorted).2.1).1 _ hlater
    rcases List.prefix_or_prefix_of_prefix hfit hbegins with hbegin | hbegin
    · exact hbegin.length_le
    · rw [eq_of_prefix_of_utf8ByteSize_le hbegin hsize]

/-- In every such order, the first macro that fits is the one with the longest name. -/
theorem Arranged.firstEntry?_eq_some_iff (h : Arranged table entries) :
    Engine.firstEntry? entries cs = some (name, body) ↔
      Longest table name cs ∧ table.find? name = some body := by
  refine ⟨h.longest_of_first, fun ⟨hlongest, hbody⟩ => ?_⟩
  cases hfirst : Engine.firstEntry? entries cs with
  | none =>
    have hnone := List.find?_eq_none.1 hfirst _ (h.mem_iff.2 hbody)
    simp [Text.isSome_after?_iff.2 hlongest.begins] at hnone
  | some entry =>
    obtain ⟨found, foundBody⟩ := entry
    obtain ⟨hfound, hfoundBody⟩ := h.longest_of_first hfirst
    obtain rfl := hlongest.eq hfound
    rw [Option.some.inj (hfoundBody.symm.trans hbody)]

/-- If a text begins with a name, then there is a longest one. -/
lemma exists_longest (hname : name ∈ table.names) (hbegins : name.toList <+: cs) :
    ∃ longest, Longest table longest cs := by
  have harranged := arranged_entriesLongestFirst table
  obtain ⟨body, hbody⟩ := NameMap.exists_find? hname
  cases hfirst : Engine.firstEntry? (entriesLongestFirst table) cs with
  | none =>
    have hnone := List.find?_eq_none.1 hfirst _ (harranged.mem_iff.2 hbody)
    simp [Text.isSome_after?_iff.2 hbegins] at hnone
  | some entry => exact ⟨entry.1, (harranged.longest_of_first hfirst).1⟩

/-- The name that is masked after a suppress marker is that of the macro that is replaced. -/
theorem firstName?_namesLongestFirst (table : NameMap Macro) (cs : List Char) :
    Marked.firstName? ((namesLongestFirst table).map String.toList) cs =
      (Engine.firstEntry? (entriesLongestFirst table) cs).map fun (name, _) =>
        (name.toList, cs.drop name.length) := by
  rw [← map_fst_entriesLongestFirst]
  induction entriesLongestFirst table with
  | nil => rfl
  | cons entry rest ih =>
    obtain ⟨name, body⟩ := entry
    unfold Marked.firstName? Engine.firstEntry? at ih ⊢
    rw [List.map_cons, List.map_cons, List.findSome?_cons, List.find?_cons]
    cases hafter : Text.after? name.toList cs with
    | none => simpa [hafter] using ih
    | some after =>
      have hdrop : cs.drop name.length = after := by
        rw [Text.after?_eq_some.1 hafter]
        exact List.drop_left
      simp [hafter, hdrop]

/-- The longest name is the first one that fits. -/
lemma Longest.firstName?_eq {rest : List Char} (h : Longest table name (name.toList ++ rest)) :
    Marked.firstName? ((namesLongestFirst table).map String.toList) (name.toList ++ rest) =
      some (name.toList, rest) := by
  obtain ⟨body, hbody⟩ := NameMap.exists_find? h.mem
  have hfirst := (arranged_entriesLongestFirst table).firstEntry?_eq_some_iff.2 ⟨h, hbody⟩
  have hdrop : (name.toList ++ rest).drop name.length = rest := List.drop_left
  rw [firstName?_namesLongestFirst, hfirst]
  exact congrArg (fun rest => some (name.toList, rest)) hdrop

/-- If there is no longest name, then none fits. -/
lemma firstName?_eq_none_of_not_longest (h : ∀ name, ¬ Longest table name cs) :
    Marked.firstName? ((namesLongestFirst table).map String.toList) cs = none := by
  rw [firstName?_namesLongestFirst]
  cases hfirst : Engine.firstEntry? (entriesLongestFirst table) cs with
  | none => rfl
  | some entry =>
    have hlongest := ((arranged_entriesLongestFirst table).longest_of_first hfirst).1
    exact absurd hlongest (h entry.1)

end Macro

end LineShell

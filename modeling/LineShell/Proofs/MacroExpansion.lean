import LineShell.Proofs.LongestName
import LineShell.Proofs.Reading

/-!
# Macros are replaced from left to right, the longest name first

The pass that replaces macros reads a text by the lexicon of the macros that are defined: at each
place the macro with the longest name that stands there is found.  The pass is then a loop over the
pieces (`Engine.applyPass_macros`): characters and ignore spans are copied, and each macro that was
found produces its text, which is put in as it is.  Producing a text may call commands, and these
may define and remove macros; the pieces were read before, so this makes no difference to the text.

`Engine.macros_replace_longest` puts this together for all sessions in which macros are only defined
and removed: every text is read in exactly one way, the producers are run once each and from left to
right, and the first one that does not return a text ends the pass.
-/

namespace LineShell

variable {table : NameMap Macro} {entries : List (String × Macro)} {cs : List Char}
  {pieces : List (Piece (String × Macro))}

namespace Macro

/-- The macros of a table, of which the one with the longest name counts. -/
def lexicon (table : NameMap Macro) : Lexicon (String × Macro) where
  spelling entry := entry.1.toList
  Stands entry cs := Longest table entry.1 cs ∧ table.find? entry.1 = some entry.2

/-- At most one macro stands at the beginning of a text, if names are valid. -/
lemma Valid.lawful_lexicon (h : Valid table) : (lexicon table).Lawful where
  begins hstands := hstands.1.begins
  ne_nil {entry _} hstands := by
    have hne := ne_empty_of_checkName (h entry.1 hstands.1.mem)
    exact fun hnil => hne (String.toList_eq_nil_iff.1 hnil)
  eq_of_stands {first second _} hfirst hsecond := by
    obtain ⟨name, body⟩ := first
    obtain ⟨other, otherBody⟩ := second
    obtain rfl : name = other := hfirst.1.eq hsecond.1
    exact congrArg (name, ·) (Option.some.inj (hfirst.2.symm.trans hsecond.2))

end Macro

namespace Engine

variable {α β : Type} {exec : Exec} {s : Session}

/-! ### Live text, piece by piece -/

/-- What is put in for a piece: what a macro produces, or the piece itself. -/
def produced (exec : Exec) : Piece (String × Macro) → Engine (List Char)
  | .char c => pure [c]
  | .span body closed => pure (Marked.Segment.ignored body closed).chars
  | .found (name, body) => String.toList <$> produce exec name body

/-- Characters that are to be passed over are dropped. -/
lemma expandMacros_skip (exec : Exec) (entries : List (String × Macro)) (skip : Nat)
    (cs : List Char) :
    expandMacros exec entries skip cs = expandMacros exec entries 0 (cs.drop skip) := by
  induction cs generalizing skip with
  | nil => simp [expandMacros]
  | cons c rest ih =>
    cases skip with
    | zero => rfl
    | succ skip => rw [expandMacros, List.drop_succ_cons, ih]

/-- Where no macro fits, a character is copied. -/
lemma expandMacros_cons {c : Char} {rest : List Char}
    (h : firstEntry? entries (c :: rest) = none) :
    expandMacros exec entries 0 (c :: rest) = (c :: ·) <$> expandMacros exec entries 0 rest := by
  simp [expandMacros, h]

/-- Where a macro fits, its text is produced, and the scan goes on after its name. -/
lemma expandMacros_found {name : String} {body : Macro} (hname : name ≠ "") {rest : List Char}
    (h : firstEntry? entries (name.toList ++ rest) = some (name, body)) :
    expandMacros exec entries 0 (name.toList ++ rest) = (do
      let out ← produce exec name body
      (out.toList ++ ·) <$> expandMacros exec entries 0 rest) := by
  obtain ⟨c, tail, htail⟩ := List.exists_cons_of_ne_nil (mt String.toList_eq_nil_iff.1 hname)
  have hlength : name.length - 1 = tail.length := by
    rw [← String.length_toList, htail]
    rfl
  rw [htail, List.cons_append] at h ⊢
  simp [expandMacros, h, hlength, expandMacros_skip exec entries tail.length]

/-- Live text is expanded piece by piece, in whatever order macros of different names of the same
length are tried. -/
lemma expandMacros_eq_mapM (hvalid : Macro.Valid table) (harranged : Macro.Arranged table entries)
    (h : (Macro.lexicon table).Reading cs pieces) :
    expandMacros exec entries 0 cs = List.flatten <$> pieces.mapM (produced exec) := by
  induction h with
  | done => rfl
  | @copied c rest pieces hnone _ ih =>
    have hfirst : firstEntry? entries (c :: rest) = none := by
      cases hfirst : firstEntry? entries (c :: rest) with
      | none => rfl
      | some entry => exact absurd (harranged.firstEntry?_eq_some_iff.1 hfirst) (hnone entry)
    rw [expandMacros_cons hfirst, ih]
    simp [produced]
  | @found entry cs rest pieces hstands hcut _ ih =>
    obtain ⟨name, body⟩ := entry
    have hfirst := harranged.firstEntry?_eq_some_iff.2 hstands
    have hname := Macro.ne_empty_of_checkName (hvalid name hstands.1.mem)
    obtain rfl : cs = name.toList ++ rest := hcut
    rw [expandMacros_found hname hfirst, ih]
    simp [produced]

/-! ### The whole pass -/

/-- The macros in whatever order are replaced piece by piece, if longer names come first. -/
lemma mapLive_expandMacros (hvalid : Macro.Valid table) (harranged : Macro.Arranged table entries)
    (h : (Macro.lexicon table).Reads cs pieces) (exec : Exec) :
    Marked.mapLive (expandMacros exec entries 0) cs =
      List.flatten <$> pieces.mapM (produced exec) := by
  have hspan : ∀ body closed, produced exec (.span body closed) =
      pure (Marked.Segment.ignored body closed).chars := fun _ _ => rfl
  have hlive : ∀ {text pieces}, (Macro.lexicon table).Reading text pieces →
      ∀ limit : Option Nat, (·, limit) <$> expandMacros exec entries 0 text =
        (fun outs => (outs.flatten, limit)) <$> pieces.mapM (produced exec) := by
    intro text pieces hread limit
    rw [expandMacros_eq_mapM hvalid harranged hread, Functor.map_map]
  rw [mapLive_eq _ none, rewriteSegments_of_reading hspan hlive h, Functor.map_map]

/-- The pass that replaces macros goes through a text piece by piece. -/
theorem applyPass_macros (hvalid : Macro.Valid s.macros)
    (h : (Macro.lexicon s.macros).Reads cs pieces) (exec : Exec) :
    applyPass exec .macros cs s = (List.flatten <$> pieces.mapM (produced exec)) s := by
  have hpass : applyPass exec .macros cs s =
      Marked.mapLive (expandMacros exec (Macro.entriesLongestFirst s.macros) 0) cs s := by
    rw [mapLive_eq _ s.interpolationLimit, applyPass_eq exec (by simp [passes_standard])]
    rfl
  rw [hpass, mapLive_expandMacros hvalid (Macro.arranged_entriesLongestFirst s.macros) h]

/-- An action that does not return a value ends what was to come after it. -/
lemma map_bind_of_not_done {action : Engine α} (h : ∀ a t, action s ≠ (.done a, t))
    (next : α → Engine β) (f : β → α) : (f <$> (action >>= next)) s = action s := by
  change Engine.bind (Engine.bind action next) _ s = action s
  unfold Engine.bind
  rcases hended : action s with ⟨a | e | p | r, t⟩
  · exact absurd hended (h a t)
  · rfl
  · rfl
  · rfl

/-- Actions that are run one after the other all return, or the first one that does not return a
value ends the run as it ended itself. -/
lemma mapM_returns_or_stops (action : α → Engine β) (entries : List α) (s : Session) :
    (∃ outs t, entries.mapM action s = (.done outs, t)) ∨
    ∃ before a after outs u, entries = before ++ a :: after ∧
      before.mapM action s = (.done outs, u) ∧ (∀ out t, action a u ≠ (.done out, t)) ∧
      ∀ f : List β → β, (f <$> entries.mapM action) s = action a u := by
  induction entries generalizing s with
  | nil => exact .inl ⟨[], s, rfl⟩
  | cons a rest ih =>
    by_cases hreturns : ∃ out u, action a s = (.done out, u)
    · obtain ⟨out, u, hfirst⟩ := hreturns
      have hcons : ∀ others : List α, (a :: others).mapM action s =
          ((out :: ·) <$> others.mapM action) u := by
        intro others
        rw [List.mapM_cons, bind_of_done hfirst, bind_pure_comp]
      rcases ih u with ⟨outs, t, hrest⟩ | ⟨before, b, after, outs, v, hsplit, hbefore, hstop, hend⟩
      · exact .inl ⟨out :: outs, t, (hcons rest).trans (map_of_done hrest _)⟩
      · have hall : ∀ f : List β → β, (f <$> (a :: rest).mapM action) s = action b v := by
          intro f
          rw [← hend fun outs => f (out :: outs), List.mapM_cons, map_bind, bind_of_done hfirst,
            bind_pure_comp, Functor.map_map]
        refine .inr ⟨a :: before, b, after, out :: outs, v, by rw [hsplit]; rfl, ?_, hstop, hall⟩
        exact (hcons before).trans (map_of_done hbefore _)
    · have hstop : ∀ out t, action a s ≠ (.done out, t) := fun out t heq => hreturns ⟨out, t, heq⟩
      refine .inr ⟨[], a, rest, [], s, rfl, rfl, hstop, fun f => ?_⟩
      rw [List.mapM_cons]
      exact map_bind_of_not_done hstop _ f

/-- In every session in which macros were only defined and removed, whatever was run: the names of
the macros are valid, and so not empty.  The pass that replaces macros reads every text in exactly
one way: at each place of live text the macro with the longest name that stands there is found, or
else one character is copied, and ignore spans are copied.  The macros are those of the session in
which the pass came to the text.  What was found is produced once each, from left to right, and put
in as it is.  Either all producers return, and the pass returns their texts and what was copied, or
the first one that fails, crashes or comes to no end does so for the pass.  Two names of the same
length in bytes never stand at the same place, and so any order of the macros in which longer names
come first gives the same result. -/
theorem macros_replace_longest (h : s.Managed) (exec : Exec) (cs : List Char) :
    (∀ name ∈ s.macros.names, Macro.checkName name = .ok () ∧ name ≠ "") ∧
    (∃! pieces, (Macro.lexicon s.macros).Reads cs pieces) ∧
    (∀ pieces, (Macro.lexicon s.macros).Reads cs pieces →
      pieces.flatMap (Piece.written (Macro.lexicon s.macros).spelling) = cs ∧
      applyPass exec .macros cs s = (List.flatten <$> pieces.mapM (produced exec)) s ∧
      ((∃ outs t, pieces.mapM (produced exec) s = (.done outs, t) ∧
          applyPass exec .macros cs s = (.done outs.flatten, t)) ∨
        ∃ before name body after outs u, pieces = before ++ .found (name, body) :: after ∧
          before.mapM (produced exec) s = (.done outs, u) ∧
          (∀ out t, produce exec name body u ≠ (.done out, t)) ∧
          applyPass exec .macros cs s = (String.toList <$> produce exec name body) u)) ∧
    (∀ text : List Char, ∀ name ∈ s.macros.names, ∀ other ∈ s.macros.names,
      name.toList <+: text → other.toList <+: text → name.utf8ByteSize = other.utf8ByteSize →
        name = other) ∧
    ∀ entries, Macro.Arranged s.macros entries →
      Marked.mapLive (expandMacros exec entries 0) cs s = applyPass exec .macros cs s := by
  have hvalid := h.valid
  have hunique := hvalid.lawful_lexicon.existsUnique_reads cs
  refine ⟨fun name hname => ?_, hunique,
    fun pieces hreads => ⟨hreads.flatMap_written, ?_, ?_⟩, ?_, ?_⟩
  · have hcheck := hvalid name hname
    exact ⟨hcheck, Macro.ne_empty_of_checkName hcheck⟩
  · exact applyPass_macros hvalid hreads exec
  · rw [applyPass_macros hvalid hreads]
    rcases mapM_returns_or_stops (produced exec) pieces s with
      ⟨outs, t, hdone⟩ | ⟨before, piece, after, outs, u, hsplit, hbefore, hstop, hend⟩
    · exact .inl ⟨outs, t, hdone, map_of_done hdone _⟩
    · cases piece with
      | char c => exact absurd rfl (hstop _ u)
      | span body closed => exact absurd rfl (hstop _ u)
      | found entry =>
        obtain ⟨name, body⟩ := entry
        refine .inr ⟨before, name, body, after, outs, u, hsplit, hbefore, ?_, hend _⟩
        intro out t hproduced
        exact hstop _ t (map_of_done hproduced _)
  · intro text name _ other _ hname hother hsize
    exact Macro.eq_of_utf8ByteSize_eq hname hother hsize
  · intro entries harranged
    obtain ⟨pieces, hreads, -⟩ := hunique
    rw [mapLive_expandMacros hvalid harranged hreads, applyPass_macros hvalid hreads]

/-- The first macro of a text removes the second one, which is replaced nevertheless, and by a text
that is the name of the first one again. -/
theorem macros_replace_longest_while_removed :
    let table : NameMap Macro := .ofList [("a", .action "#undef" ["ab"]), ("ab", .text "a")]
    let s := { Session.start {} standardRegistry .empty with macros := table }
    let ended := applyPass (execute 1) .macros "aab".toList s
    s.Managed ∧ ended.1 = .done "a".toList ∧ ended.2.macros.names = ["a"] := by
  intro table s ended
  have hs : s.Managed := by
    have hbuilt : Session.build {} standardRegistry .empty []
        [("a", .action "#undef" ["ab"]), ("ab", .text "a")] = .ok s := rfl
    exact .built hbuilt
  have hreads : (Macro.lexicon table).Reads "aab".toList
      [.found ("a", .action "#undef" ["ab"]), .found ("ab", .text "a")] := by
    have hfirst : (Macro.lexicon table).Stands ("a", .action "#undef" ["ab"]) "aab".toList :=
      ⟨⟨by decide, by decide, by decide⟩, rfl⟩
    have hsecond : (Macro.lexicon table).Stands ("ab", .text "a") "ab".toList :=
      ⟨⟨by decide, by decide, by decide⟩, rfl⟩
    have hlive : Marked.segments "aab".toList = [.live "aab".toList] :=
      Marked.segments_of_not_occurs (by decide)
    rw [Lexicon.Reads, hlive]
    exact .live (.found hfirst rfl (.found hsecond rfl .done)) .nil
  have hremoved : produced (execute 1) (.found ("a", .action "#undef" ["ab"])) s =
      (.done [], { s with macros := table.erase "ab" }) := by
    have hstandard : s.Standard := ⟨rfl, rfl⟩
    have hdefined : s.macros.contains "ab" = true := rfl
    have hundef := execute_undefine 0 hstandard (by decide) hdefined
    have hproduced : produce (execute 1) "a" (.action "#undef" ["ab"]) s =
        (.done "", { s with macros := table.erase "ab" }) := bind_of_done hundef _
    exact map_of_done hproduced _
  have hended : ended = (.done "a".toList, { s with macros := table.erase "ab" }) := by
    have hpass := ((macros_replace_longest hs (execute 1) "aab".toList).2.2.1 _ hreads).2.1
    rw [List.mapM_cons, map_bind, bind_of_done hremoved] at hpass
    exact hpass
  rw [hended]
  exact ⟨hs, rfl, by decide⟩

end Engine

end LineShell

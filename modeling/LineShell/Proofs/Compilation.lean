import LineShell.Proofs.ByteOrder
import LineShell.Proofs.FailFast
import LineShell.Proofs.Passes
import LineShell.Proofs.Routine.Script
import Mathlib.Data.List.Forall2
import Mathlib.Data.List.Sort

/-!
# Scripts that are compiled into one

The scripts of a directory are put together into one text, in which each of them that is not empty
ends in a line end.  Running that text is running the scripts one after the other.

The lines of the whole are those of its parts, because a line ends where a part does
(`Script.lines_concatenate`).  Two things are not as they were, and neither is seen when the lines
are run.  A line end that is added takes a carriage return before it along
(`Text.lines_terminated`); it would be taken off anyway before the line is read
(`Engine.runLine_append_return`).  And if the first script is empty, the line end that is added
makes one more line, which is blank.
-/

namespace LineShell

/-! ### Line ends at the end of a text -/

namespace Text

/-- A text with a line end after it, unless it ends in one. -/
def terminated (text : String) : String :=
  if text.toList.getLast? = some '\n' then text else text ++ "\n"

variable {whole text : String}

/-- The last character of such a text is the line end. -/
lemma exists_toList_terminated (text : String) :
    ∃ before, (terminated text).toList = before ++ ['\n'] := by
  unfold terminated
  split
  · next h => exact ⟨text.toList.dropLast, (List.dropLast_append_getLast? _ h).symm⟩
  · exact ⟨text.toList, String.toList_append⟩

/-- A second line end is not added. -/
lemma terminated_terminated (text : String) : terminated (terminated text) = terminated text := by
  obtain ⟨before, hbefore⟩ := exists_toList_terminated text
  rw [terminated, if_pos (by rw [hbefore, List.getLast?_concat])]

/-- Whether a line end is added is seen at the last part of a text. -/
lemma terminated_append (h : text ≠ "") :
    terminated (whole ++ text) = whole ++ terminated text := by
  have hne : text.toList ≠ [] := fun hnil => h (String.toList_eq_nil_iff.1 hnil)
  have hlast : (whole ++ text).toList.getLast? = text.toList.getLast? := by
    rw [String.toList_append, List.getLast?_append_of_ne_nil _ hne]
  rw [terminated, terminated, hlast]
  split
  · rfl
  · rw [String.append_assoc]

/-! ### Lines of a text and of its parts -/

/-- A line ends at a line end, so that what comes after it is cut into lines by itself. -/
lemma linesFrom_append (pending before after : List Char) :
    linesFrom pending (before ++ '\n' :: after) =
      linesFrom pending (before ++ ['\n']) ++ linesFrom [] after := by
  induction before generalizing pending with
  | nil => rfl
  | cons c rest ih =>
    rw [List.cons_append, List.cons_append, linesFrom, linesFrom]
    split
    · rw [ih, List.cons_append]
    · rw [ih]

/-- What comes after a text that ends in a line end is cut into lines by itself. -/
lemma lines_terminated_append (text after : String) :
    lines (terminated text ++ after) = lines (terminated text) ++ lines after := by
  obtain ⟨before, hbefore⟩ := exists_toList_terminated text
  rw [lines, lines, lines, String.toList_append, hbefore, List.append_assoc,
    List.singleton_append, linesFrom_append, List.map_append]

/-- A line end after a text closes its last line, and takes a carriage return before it along. -/
lemma linesFrom_append_lineEnd {pending before : List Char} (hopen : pending ≠ [] ∨ before ≠ [])
    (h : before.getLast? ≠ some '\n') :
    linesFrom pending (before ++ ['\n']) = linesFrom pending before ∨
      ∃ front last, linesFrom pending before = front ++ [last ++ ['\r']] ∧
        linesFrom pending (before ++ ['\n']) = front ++ [last] := by
  induction before generalizing pending with
  | nil =>
    have hpending : pending ≠ [] := hopen.resolve_right fun h => h rfl
    rw [List.nil_append, linesFrom, linesFrom, if_pos rfl, if_neg (by simpa using hpending)]
    unfold closeLine
    split
    · exact .inr ⟨[], _, by rw [List.reverse_cons, List.nil_append], rfl⟩
    · exact .inl rfl
  | cons c rest ih =>
    have hrest : rest.getLast? ≠ some '\n' := by
      cases rest with
      | nil => simp
      | cons d rest => rwa [List.getLast?_cons_cons] at h
    rw [List.cons_append, linesFrom, linesFrom]
    split
    · next hc =>
      have hne : rest ≠ [] := by
        rintro rfl
        simp [hc] at h
      rcases ih (.inr hne) hrest with hsame | ⟨front, last, hlines, hclosed⟩
      · exact .inl (by rw [hsame])
      · exact .inr ⟨_ :: front, last, by rw [hlines]; rfl, by rw [hclosed]; rfl⟩
    · exact ih (.inl (List.cons_ne_nil _ _)) hrest

/-- If a text is not empty, a line end after it changes no line but the last one, which loses a
carriage return at its end. -/
lemma lines_terminated (h : text ≠ "") :
    lines (terminated text) = lines text ∨
      ∃ front last, lines text = front ++ [last ++ "\r"] ∧
        lines (terminated text) = front ++ [last] := by
  have hne : text.toList ≠ [] := fun hnil => h (String.toList_eq_nil_iff.1 hnil)
  unfold terminated
  split
  · exact .inl rfl
  · next hlast =>
    unfold lines
    rw [String.toList_append]
    rcases linesFrom_append_lineEnd (.inr hne) hlast with hsame | ⟨front, last, hlines, hclosed⟩
    · exact .inl (congrArg _ hsame)
    · refine .inr ⟨front.map String.ofList, String.ofList last, ?_, ?_⟩
      · rw [hlines, List.map_append, List.map_singleton, String.ofList_append]
      · exact (congrArg _ hclosed).trans List.map_append

end Text

namespace Script

/-- What a text becomes when texts are put together. -/
def part (text : String) : String := if text = "" then "" else Text.terminated text

/-- A part has the lines of its text, but that the last one may lose a carriage return. -/
lemma lines_part (text : String) :
    Text.lines (part text) = Text.lines text ∨ ∃ front last,
      Text.lines text = front ++ [last ++ "\r"] ∧ Text.lines (part text) = front ++ [last] := by
  unfold part
  split
  · next h => exact .inl (by rw [h])
  · next h => exact Text.lines_terminated h

/-- Each text that is not the first one is put after a line end. -/
lemma lines_terminated_append_part (whole text : String) :
    Text.lines (Text.terminated (Text.terminated whole ++ text)) =
      Text.lines (Text.terminated whole) ++ Text.lines (part text) := by
  unfold part
  split
  · next h =>
    rw [h, String.append_empty, Text.terminated_terminated]
    exact (List.append_nil _).symm
  · next h => rw [Text.terminated_append h, Text.lines_terminated_append]

/-- The lines of texts that are put together are those of its parts, but for a blank one in front if
the first text is empty. -/
lemma lines_concatenate (texts : List String) :
    Text.lines (concatenate texts) =
      (if texts.head? = some "" then [""] else []) ++ texts.flatMap fun text =>
        Text.lines (part text) := by
  have hafter : ∀ (texts : List String) (whole : String),
      Text.lines (texts.foldl (fun whole text => Text.terminated (whole ++ text))
        (Text.terminated whole)) =
      Text.lines (Text.terminated whole) ++ texts.flatMap fun text => Text.lines (part text) := by
    intro texts
    induction texts with
    | nil => exact fun whole => (List.append_nil _).symm
    | cons text rest ih =>
      intro whole
      rw [List.foldl_cons, ih, lines_terminated_append_part, List.flatMap_cons, List.append_assoc]
  cases texts with
  | nil => rfl
  | cons first rest =>
    have hfirst : concatenate (first :: rest) =
        rest.foldl (fun whole text => Text.terminated (whole ++ text)) (Text.terminated first) := by
      change rest.foldl (fun whole text => Text.terminated (whole ++ text))
        (Text.terminated ("" ++ first)) = _
      rw [String.empty_append]
    rw [hfirst, hafter, List.flatMap_cons, ← List.append_assoc]
    congr 1
    by_cases h : first = ""
    · rw [h]
      rfl
    · rw [part, if_neg h, List.head?_cons, if_neg (by simpa using h), List.nil_append]

end Script

/-- The names of files are in order. -/
lemma FileTree.pairwise_of_fileNames?_eq_ok {tree : FileTree} {path : String} {names : List String}
    (h : tree.fileNames? path = some (.ok names)) : names.Pairwise (· ≤ ·) := by
  unfold fileNames? at h
  split at h
  · obtain ⟨listed, -, hnames⟩ := Option.map_eq_some_iff.1 h
    cases hnames
    exact List.pairwise_mergeSort' (· ≤ ·) listed
  all_goals simp at h

namespace Engine

variable {exec : Exec} {s t : Session}

/-! ### Running the lines -/

/-- A carriage return at the end of a line is not seen when the line is run. -/
lemma runLine_append_return (exec : Exec) (line : String) :
    runLine exec (line ++ "\r") = runLine exec line := by
  have htrim : ∀ cs, Word.trimLineEnd (cs ++ ['\r']) = Word.trimLineEnd cs := by
    intro cs
    simp [Word.trimLineEnd, Word.isLineEnd]
  have hsplit : Word.split (line ++ "\r") = Word.split line := by
    rw [Word.split, Word.split, String.toList_append, Word.splitChars, Word.splitChars]
    exact congrArg _ (congrArg _ (htrim _))
  rw [runLine, runLine, hsplit]

/-- A blank line does nothing, whether the session is running or has stopped. -/
lemma runLines_blank (exec : Exec) : runLines exec [""] = pure () := by
  funext s
  cases hrunning : s.running with
  | false => exact runLines_of_stopped hrunning _
  | true =>
    rw [runLines_of_running hrunning]
    have hblank : runLine exec "" = pure () := by
      rw [runLine, show Word.split "" = [] by decide +kernel]
    rw [hblank]
    rfl

/-- What an action is followed by depends on the session that the action comes to. -/
lemma bind_congr_of_eq {α β : Type} {first other : Engine α} (h : first s = other s)
    (next : α → Engine β) : (first >>= next) s = (other >>= next) s := by
  change Engine.bind first next s = Engine.bind other next s
  rw [Engine.bind, Engine.bind, h]

/-- Lines are run one after the other. -/
lemma runLines_append (exec : Exec) (first second : List String) :
    runLines exec (first ++ second) = runLines exec first >>= fun _ => runLines exec second := by
  induction first with
  | nil => exact (pure_bind _ _).symm
  | cons line rest ih =>
    funext s
    cases hrunning : s.running with
    | false =>
      rw [bind_of_done (runLines_of_stopped hrunning _), runLines_of_stopped hrunning,
        runLines_of_stopped hrunning]
    | true =>
      calc runLines exec (line :: rest ++ second) s
          = (runLine exec line >>= fun _ => runLines exec (rest ++ second)) s :=
            runLines_of_running hrunning line (rest ++ second)
        _ = ((runLine exec line >>= fun _ => runLines exec rest) >>= fun _ =>
              runLines exec second) s := by rw [ih, bind_assoc]
        _ = (runLines exec (line :: rest) >>= fun _ => runLines exec second) s :=
            bind_congr_of_eq (runLines_of_running hrunning line rest).symm _

/-- The part that a script becomes is run like the script. -/
lemma runScript_part (exec : Exec) (text : String) :
    runScript exec (Script.part text) = runScript exec text := by
  unfold runScript
  rcases Script.lines_part text with hsame | ⟨front, last, hlines, hpart⟩
  · rw [hsame]
  · have hlast : runLines exec [last ++ "\r"] = runLines exec [last] := by
      simp only [runLines, runLine_append_return]
    rw [hlines, hpart, runLines_append, runLines_append, hlast]

/-- Lines that come from texts one after the other are run text by text. -/
lemma runLines_flatMap (exec : Exec) (cut : String → List String) (texts : List String) :
    runLines exec (texts.flatMap cut) = forM texts fun text => runLines exec (cut text) := by
  induction texts with
  | nil => rfl
  | cons text rest ih => rw [List.flatMap_cons, runLines_append, ih, List.forM_cons]

/-- Scripts that are put together are run one after the other. -/
lemma runScript_concatenate (exec : Exec) (texts : List String) :
    runScript exec (Script.concatenate texts) = forM texts (runScript exec) := by
  have hblank : runLines exec (if texts.head? = some "" then [""] else []) = pure () := by
    split
    · exact runLines_blank exec
    · rfl
  have hparts : (fun text => runLines exec (Text.lines (Script.part text))) = runScript exec :=
    funext (runScript_part exec)
  rw [runScript, Script.lines_concatenate, runLines_append, hblank, pure_bind, runLines_flatMap,
    hparts]

/-- In a stopped session no script is run. -/
lemma forM_runScript_of_stopped (h : s.running = false) (texts : List String) :
    forM texts (runScript exec) s = (.done (), s) := by
  rw [← runScript_concatenate]
  exact runLines_of_stopped h _

/-! ### Compiling a directory -/

/-- A file that is read is text, and reading it leaves the session as it is. -/
lemma readFile_eq_done_iff {path text : String} :
    readFile path s = (.done text, t) ↔ t = s ∧ s.files.readText? path = some (.ok text) := by
  unfold readFile
  rcases s.files.readText? path with _ | _ | read
  · simp
  · simp
  · simp [eq_comm, and_comm]

/-- So it is with files that are read one after the other. -/
lemma mapM_readFile_eq_done_iff {paths texts : List String} :
    paths.mapM readFile s = (.done texts, t) ↔ t = s ∧
      List.Forall₂ (fun path text => s.files.readText? path = some (.ok text)) paths texts := by
  induction paths generalizing texts t with
  | nil =>
    rw [List.mapM_nil, List.forall₂_nil_left_iff]
    change (Outcome.done [], s) = (Outcome.done texts, t) ↔ _
    rw [Prod.mk.injEq, Outcome.done.injEq, and_comm, eq_comm, @eq_comm _ [] texts]
  | cons path rest ih =>
    rw [List.mapM_cons]
    constructor
    · intro h
      obtain ⟨text, u, hread, hnext⟩ := Routine.exists_of_bind_eq_done h
      obtain ⟨rfl, htext⟩ := readFile_eq_done_iff.1 hread
      obtain ⟨others, v, hrest, hlast⟩ := Routine.exists_of_bind_eq_done hnext
      obtain ⟨rfl, hothers⟩ := ih.1 hrest
      cases hlast
      exact ⟨rfl, .cons htext hothers⟩
    · rintro ⟨rfl, hread⟩
      obtain ⟨text, others, htext, hothers, rfl⟩ := List.forall₂_cons_left_iff.1 hread
      rw [bind_of_done (readFile_eq_done_iff.2 ⟨rfl, htext⟩), bind_of_done (ih.2 ⟨rfl, hothers⟩)]
      rfl

/-- The scripts of a directory are found in the order of their names. -/
lemma exists_of_scriptFiles_eq_done {dir : String} {paths : List String}
    (h : scriptFiles dir s = (.done paths, t)) :
    t = s ∧ ∃ files : List String, paths = files.map (Path.join dir) ∧
      files.Pairwise fun a b => Text.bytes a ≤ Text.bytes b := by
  unfold scriptFiles at h
  rcases hnames : s.files.fileNames? dir with _ | _ | names <;> rw [hnames] at h
  · simp at h
  · simp at h
  · cases h
    have hsorted := FileTree.pairwise_of_fileNames?_eq_ok hnames
    exact ⟨rfl, _, List.filter_map, (hsorted.imp Text.bytes_le_bytes_iff.2).filter _⟩

/-- Compiling a directory reads its scripts, of which there has to be one, and puts them
together. -/
lemma compileDirectory_eq_done_iff {dir name : String} {command : Command} :
    compileDirectory dir name s = (.done command, t) ↔ t = s ∧ ∃ files texts, files ≠ [] ∧
      scriptFiles dir s = (.done (files.map (Path.join dir)), s) ∧
      (files.Pairwise fun a b => Text.bytes a ≤ Text.bytes b) ∧
      List.Forall₂ (fun file text => s.files.readText? (Path.join dir file) = some (.ok text))
        files texts ∧
      command = Script.command (Script.concatenate texts)
        (Text.decimal files.length ++ " scripts compiled from " ++ dir) name := by
  constructor
  · intro h
    obtain ⟨paths, u, hpaths, hnext⟩ := Routine.exists_of_bind_eq_done h
    obtain ⟨rfl, files, rfl, hsorted⟩ := exists_of_scriptFiles_eq_done hpaths
    cases files with
    | nil => simp [Engine.fail] at hnext
    | cons file rest =>
      obtain ⟨texts, v, hread, hlast⟩ := Routine.exists_of_bind_eq_done hnext
      obtain ⟨rfl, htexts⟩ := mapM_readFile_eq_done_iff.1 hread
      rw [List.forall₂_map_left_iff] at htexts
      cases hlast
      refine ⟨rfl, file :: rest, texts, List.cons_ne_nil _ _, hpaths, hsorted, htexts, ?_⟩
      rw [List.length_map]
  · rintro ⟨rfl, files, texts, hne, hpaths, -, htexts, rfl⟩
    have hread : (files.map (Path.join dir)).mapM readFile t = (.done texts, t) :=
      mapM_readFile_eq_done_iff.2 ⟨rfl, List.forall₂_map_left_iff.2 htexts⟩
    rw [compileDirectory, bind_of_done hpaths]
    cases files with
    | nil => exact absurd rfl hne
    | cons file rest =>
      refine (bind_of_done hread _).trans ?_
      rw [List.length_map]
      rfl

/-- Compiling a directory returns a command if and only if the names of its scripts are known, there
is one, and all of them can be read.  The session does not change, and the command is made of the
texts of the scripts, put together in the order of the bytes of their names.

Running texts that have been put together is running one after the other, in every session: both end
in the same way and leave the same session.  Once a text has stopped the session, the texts after it
change nothing; a text that does not return is the last one.

No line belongs to two texts.  The lines of the whole are those of the texts one after the other,
after a blank one if the first text is empty.  At most, the last line of a text has lost a carriage
return at its end. -/
theorem compiled_scripts_run_in_order (exec : Exec) (dir name : String) (s : Session) :
    (∀ command t, compileDirectory dir name s = (.done command, t) ↔ t = s ∧ ∃ files texts,
      files ≠ [] ∧ scriptFiles dir s = (.done (files.map (Path.join dir)), s) ∧
      (files.Pairwise fun a b => Text.bytes a ≤ Text.bytes b) ∧
      List.Forall₂ (fun file text => s.files.readText? (Path.join dir file) = some (.ok text))
        files texts ∧
      command = Script.command (Script.concatenate texts)
        (Text.decimal files.length ++ " scripts compiled from " ++ dir) name) ∧
    ∀ texts : List String,
      runScript exec (Script.concatenate texts) s = forM texts (runScript exec) s ∧
      (∀ before after t, texts = before ++ after →
        (forM before (runScript exec) s = (.done (), t) → t.running = false →
          runScript exec (Script.concatenate texts) s = (.done (), t)) ∧
        ∀ outcome, forM before (runScript exec) s = (outcome, t) → outcome ≠ .done () →
          runScript exec (Script.concatenate texts) s = (outcome, t)) ∧
      ∃ groups, Text.lines (Script.concatenate texts) =
          (if texts.head? = some "" then [""] else []) ++ groups.flatten ∧
        List.Forall₂ (fun group text => group = Text.lines text ∨ ∃ front last,
          Text.lines text = front ++ [last ++ "\r"] ∧ group = front ++ [last]) groups texts := by
  refine ⟨fun command t => compileDirectory_eq_done_iff, fun texts => ⟨?_, ?_, ?_⟩⟩
  · rw [runScript_concatenate]
  · rintro before after t rfl
    rw [runScript_concatenate, List.forM_append]
    constructor
    · intro hbefore hstopped
      rw [bind_of_done hbefore, forM_runScript_of_stopped hstopped]
    · intro outcome hbefore hne
      rw [bind_of_not_done (by rwa [hbefore]), hbefore]
  · refine ⟨texts.map fun text => Text.lines (Script.part text), ?_, ?_⟩
    · rw [Script.lines_concatenate, List.flatMap_def]
    · rw [List.forall₂_map_left_iff, List.forall₂_same]
      exact fun text _ => Script.lines_part text

/-- Four scripts that are not found in order.  The first one ends in an open quote, blanks and a
carriage return, the second one is empty, the third one stops the session in a line without a line
end, and the fourth one comes too late. -/
theorem compiled_scripts_run_in_order_until_quit :
    let files := [("2-nothing.c9", ""), ("4-late.c9", "print late\n"),
      ("1-open.c9", "print 'one  \r"), ("3-quit.c9", "print two\r\nquit")].foldl
        (fun tree (name, text) => tree.insert (Path.join "all" name) (.file text.toUTF8))
        FileTree.empty
    let s := Session.start {} standardRegistry files
    let texts := ["print 'one  \r", "", "print two\r\nquit", "print late\n"]
    compileDirectory "all" "run" s =
      (.done (Script.command (Script.concatenate texts) "4 scripts compiled from all" "run"), s) ∧
    ∃ t, t.running = false ∧ t.out = "one  \ntwo\n" ∧
      forM (texts.take 3) (runScript (execute 3)) s = (.done (), t) ∧
      runScript (execute 3) (Script.concatenate texts) s = (.done (), t) := by
  intro files s texts
  obtain ⟨hcompile, hrun⟩ := compiled_scripts_run_in_order (execute 3) "all" "run" s
  constructor
  · have hlisting : files.listing? ["all"] =
        some ["3-quit.c9", "1-open.c9", "4-late.c9", "2-nothing.c9"] := by decide +kernel
    have hnames : files.fileNames? "all" =
        some (.ok ["1-open.c9", "2-nothing.c9", "3-quit.c9", "4-late.c9"]) := by
      have hnode : files.node? "all" = some .directory := rfl
      have hplace : FileTree.resolved "all" = ["all"] := by decide +kernel
      rw [FileTree.fileNames?, hnode, hplace, hlisting]
      simp [List.mergeSort, List.MergeSort.Internal.splitInTwo]
    refine (hcompile _ s).2 ⟨rfl, ["1-open.c9", "2-nothing.c9", "3-quit.c9", "4-late.c9"], texts,
      by decide, ?_, by decide, ?_, rfl⟩
    · rw [scriptFiles, show s.files = files from rfl, hnames]
      exact congrArg (fun paths => (Outcome.done paths, s)) (by decide +kernel)
    · exact .cons rfl (.cons rfl (.cons rfl (.cons rfl .nil)))
  · have hend : (forM (texts.take 3) (runScript (execute 3)) s).1 = .done () ∧
        (forM (texts.take 3) (runScript (execute 3)) s).2.running = false ∧
        (forM (texts.take 3) (runScript (execute 3)) s).2.out = "one  \ntwo\n" := by decide +kernel
    obtain ⟨hdone, hstopped, hout⟩ := hend
    obtain ⟨-, hstops, -⟩ := hrun texts
    exact ⟨_, hstopped, hout, Prod.ext hdone rfl,
      (hstops (texts.take 3) ["print late\n"] _ rfl).1 (Prod.ext hdone rfl) hstopped⟩

end Engine

end LineShell

import LineShell.Proofs.Routine

/-!
# Scripts with and without supervision

The lines of a script are run by two loops.  One hands the first error on, the other supervises each
line and reports the first error under the number of its line.  Both run the same lines: those up to
the first one that does not return, or up to the one after which the session has stopped.

`LinesDone` says that lines have been run one after the other, each of them in a running session,
and that all of them returned.  Either loop, put to these lines and others after them, goes on with
the others in the session that they leave (`LinesDone.runLines_append`,
`LinesDone.superviseLines_append`), so it is enough to look at where the lines end.  There the two
loops differ in nothing but the report (`superviseScript_agrees_with_runScript`).
-/

namespace LineShell.Engine

variable {exec : Exec} {s t u : Session} {line : String} {lines : List String}

/-! ### Lines that have been run -/

/-- The lines have been run one after the other, each of them in a running session, and all of them
returned; the last session is the one that they leave. -/
inductive LinesDone (exec : Exec) : Session → List String → Session → Prop
  | nil (s : Session) : LinesDone exec s [] s
  | cons {s t u : Session} {line : String} {rest : List String} (hrunning : s.running = true)
      (hline : runLine exec line s = (.done (), t)) (hrest : LinesDone exec t rest u) :
      LinesDone exec s (line :: rest) u

/-- The report on a line of a script that fails. -/
def diagnostic (origin : String) (number : Nat) (line : String) (e : Error) : String :=
  origin ++ ":" ++ Text.decimal number ++ ": " ++ Text.firstWord line ++ ": " ++ e.message ++ "\n"

/-! ### One line of either loop -/

/-- In a stopped session no line is run. -/
lemma runLines_of_stopped (h : s.running = false) (lines : List String) :
    runLines exec lines s = (.done (), s) := by
  cases lines with
  | nil => rfl
  | cons line rest =>
    change (if s.running = true then (do runLine exec line; runLines exec rest) else pure ()) s = _
    rw [if_neg (by simp [h])]
    rfl

/-- In a running session the next line is run, and the others if it returned. -/
lemma runLines_of_running (h : s.running = true) (line : String) (rest : List String) :
    runLines exec (line :: rest) s =
      Engine.bind (runLine exec line) (fun _ => runLines exec rest) s := by
  change (if s.running = true then (do runLine exec line; runLines exec rest) else pure ()) s = _
  rw [if_pos h]
  rfl

/-- In a stopped session no line is run under supervision either. -/
lemma superviseLines_of_stopped (h : s.running = false) (origin : String) (number : Nat)
    (lines : List String) : superviseLines exec origin number lines s = (.done true, s) := by
  cases lines with
  | nil => rfl
  | cons line rest =>
    simp only [superviseLines]
    change (if s.running = true then _ else pure true : Engine Bool) s = _
    rw [if_neg (by simp [h])]
    rfl

/-- In a running session the next line is run under supervision, and the others if it returned. -/
lemma superviseLines_of_running (h : s.running = true) (origin : String) (number : Nat)
    (line : String) (rest : List String) :
    superviseLines exec origin number (line :: rest) s =
      Engine.bind (supervise (origin ++ ":" ++ Text.decimal number ++ ": " ++ Text.firstWord line)
          (runLine exec line))
        (fun ok => if ok then superviseLines exec origin (number + 1) rest else pure false) s := by
  simp only [superviseLines]
  change (if s.running = true then _ else pure true : Engine Bool) s = _
  rw [if_pos h]
  rfl

/-- A line that returns is followed by the others. -/
lemma superviseLines_of_done (h : s.running = true) (hline : runLine exec line s = (.done (), t))
    (origin : String) (number : Nat) (rest : List String) :
    superviseLines exec origin number (line :: rest) s =
      superviseLines exec origin (number + 1) rest t := by
  rw [superviseLines_of_running h, Engine.bind, supervise, hline]
  rfl

/-- A line that fails is reported, if failures are, and is the last one. -/
lemma superviseLines_of_failed (h : s.running = true) {e : Error}
    (hline : runLine exec line s = (.failed e, t)) (origin : String) (number : Nat)
    (rest : List String) :
    superviseLines exec origin number (line :: rest) s =
      (.done false, { t with
        err := t.err ++ if t.errorFeedback then diagnostic origin number line e else "" }) := by
  rw [superviseLines_of_running h, Engine.bind, supervise, hline]
  refine Prod.ext rfl ?_
  change t.errorLine _ = _
  unfold Session.errorLine
  split
  · simp [diagnostic, String.append_assoc]
  · simp

/-- A line that comes to no end is the last one. -/
lemma superviseLines_of_halted (h : s.running = true) {reason : Halt}
    (hline : runLine exec line s = (.halted reason, t)) (origin : String) (number : Nat)
    (rest : List String) :
    superviseLines exec origin number (line :: rest) s = (.halted reason, t) := by
  rw [superviseLines_of_running h, Engine.bind, supervise, hline]

/-! ### Lines one after the other -/

/-- Lines that have been run are followed by the others. -/
lemma LinesDone.runLines_append (h : LinesDone exec s lines t) (later : List String) :
    runLines exec (lines ++ later) s = runLines exec later t := by
  induction h with
  | nil => rfl
  | cons hrunning hline _ ih =>
    rw [List.cons_append, runLines_of_running hrunning, Engine.bind, hline]
    exact ih

/-- They are so under supervision, too, and the number of the next line is known. -/
lemma LinesDone.superviseLines_append (h : LinesDone exec s lines t) (origin : String)
    (number : Nat) (later : List String) :
    superviseLines exec origin number (lines ++ later) s =
      superviseLines exec origin (number + lines.length) later t := by
  induction h generalizing number with
  | nil => rfl
  | @cons _ _ _ line rest hrunning hline _ ih =>
    rw [List.cons_append, superviseLines_of_done hrunning hline, ih, List.length_cons]
    congr 1
    omega

/-- The lines of a script that are run: all, or those up to where the session has stopped, or those
before one that does not return. -/
lemma exists_linesDone (exec : Exec) (lines : List String) (s : Session) :
    ∃ executed later t, lines = executed ++ later ∧ LinesDone exec s executed t ∧
      ((later = [] ∨ t.running = false) ∨
        t.running = true ∧ ∃ line rest, later = line :: rest ∧
          (runLine exec line t).1 ≠ .done ()) := by
  induction lines generalizing s with
  | nil => exact ⟨[], [], s, rfl, .nil s, .inl (.inl rfl)⟩
  | cons line rest ih =>
    cases hrunning : s.running with
    | false => exact ⟨[], line :: rest, s, rfl, .nil s, .inl (.inr hrunning)⟩
    | true =>
      rcases hline : runLine exec line s with ⟨_ | e | p | r, t⟩
      · obtain ⟨executed, later, u, rfl, hdone, hend⟩ := ih t
        exact ⟨line :: executed, later, u, rfl, .cons hrunning hline hdone, hend⟩
      all_goals
        refine ⟨[], line :: rest, s, rfl, .nil s, .inr ⟨hrunning, line, rest, rfl, ?_⟩⟩
        simp [hline]

/-! ### The two loops -/

/-- A script in which nothing crashes is run in the same way with and without supervision, whatever
is in the session.  Some of its lines are run and return, each of them while the session is running.
If these are all lines, or the session has stopped after them, both loops are done and leave the
session that the lines leave.  If the next line fails, it is the last one that is run, and both
loops leave the session that it leaves, but for the report of the supervised one; this is written
last, and only if failures are reported at this moment.  If the next line comes to no end, neither
do the loops. -/
theorem superviseScript_agrees_with_runScript (exec : Exec) (origin text : String) (s : Session)
    (hcrash : (runScript exec text s).1.ending ≠ .crashed) :
    ((superviseScript exec origin text s).1 = .done true ↔
      (runScript exec text s).1 = .done ()) ∧
    ∃ executed later t, Text.lines text = executed ++ later ∧ LinesDone exec s executed t ∧
      ((later = [] ∨ t.running = false) ∧ runScript exec text s = (.done (), t) ∧
          superviseScript exec origin text s = (.done true, t) ∨
        ∃ line rest u, later = line :: rest ∧ t.running = true ∧
          ((∃ e, runLine exec line t = (.failed e, u) ∧ runScript exec text s = (.failed e, u) ∧
              superviseScript exec origin text s = (.done false, { u with
                err := u.err ++ if u.errorFeedback then
                  diagnostic origin (executed.length + 1) line e
                else "" })) ∨
            ∃ reason, runLine exec line t = (.halted reason, u) ∧
              runScript exec text s = (.halted reason, u) ∧
              superviseScript exec origin text s = (.halted reason, u))) := by
  obtain ⟨executed, later, t, hlines, hdone, hend⟩ := exists_linesDone exec (Text.lines text) s
  have hrun : runScript exec text s = runLines exec later t := by
    rw [runScript, hlines, hdone.runLines_append]
  have hsupervise : superviseScript exec origin text s =
      superviseLines exec origin (executed.length + 1) later t := by
    rw [superviseScript, hlines, hdone.superviseLines_append, Nat.add_comm]
  rcases hend with hstopped | ⟨hrunning, line, rest, rfl, hbroken⟩
  · -- both loops are through
    have hrun : runScript exec text s = (.done (), t) := by
      rcases hstopped with rfl | hstopped
      · exact hrun
      · rw [hrun, runLines_of_stopped hstopped]
    have hsupervise : superviseScript exec origin text s = (.done true, t) := by
      rcases hstopped with rfl | hstopped
      · exact hsupervise
      · rw [hsupervise, superviseLines_of_stopped hstopped]
    refine ⟨by rw [hrun, hsupervise]; simp, executed, later, t, hlines, hdone, .inl ?_⟩
    exact ⟨hstopped, hrun, hsupervise⟩
  · rw [runLines_of_running hrunning, Engine.bind] at hrun
    rcases hline : runLine exec line t with ⟨_ | e | p | reason, u⟩ <;> rw [hline] at hrun
    · simp [hline] at hbroken
    · rw [superviseLines_of_failed hrunning hline] at hsupervise
      refine ⟨by rw [hrun, hsupervise]; simp, executed, _, t, hlines, hdone, .inr ?_⟩
      exact ⟨line, rest, u, rfl, hrunning, .inl ⟨e, hline, hrun, hsupervise⟩⟩
    · rw [hrun] at hcrash
      exact absurd rfl hcrash
    · rw [superviseLines_of_halted hrunning hline] at hsupervise
      refine ⟨by rw [hrun, hsupervise]; simp, executed, _, t, hlines, hdone, .inr ?_⟩
      exact ⟨line, rest, u, rfl, hrunning, .inr ⟨reason, hline, hrun, hsupervise⟩⟩

/-- A script that turns the reports off and on again, contains a failure and then fails, with blank
lines and comments between: the only report is that of the line that fails, under its number. -/
theorem superviseScript_agrees_on_toggled_reports :
    let s := Session.start {} standardRegistry .empty
    let text := "errors off\ncatch raise x\n\n// again\nerrors on\nraise boom\nprint never\n"
    (runScript (execute 3) text s).1 = .failed (.raised "boom") ∧
      (superviseScript (execute 3) "setup" text s).2.err = "setup:6: raise: boom\n" ∧
      ∃ executed later t, Text.lines text = executed ++ later ∧ LinesDone (execute 3) s executed t ∧
        ∃ line rest u, later = line :: rest ∧
          runLine (execute 3) line t = (.failed (.raised "boom"), u) ∧
          superviseScript (execute 3) "setup" text s = (.done false, { u with
            err := u.err ++ if u.errorFeedback then
              diagnostic "setup" (executed.length + 1) line (.raised "boom")
            else "" }) := by
  intro s text
  have hfailed : (runScript (execute 3) text s).1 = .failed (.raised "boom") := by decide +kernel
  have hreport : (superviseScript (execute 3) "setup" text s).2.err = "setup:6: raise: boom\n" := by
    decide +kernel
  have hcrash : (runScript (execute 3) text s).1.ending ≠ .crashed := by
    rw [hfailed]
    decide
  obtain ⟨-, executed, later, t, hlines, hdone, hend⟩ :=
    superviseScript_agrees_with_runScript (execute 3) "setup" text s hcrash
  refine ⟨hfailed, hreport, executed, later, t, hlines, hdone, ?_⟩
  rcases hend with ⟨-, hrun, -⟩ |
    ⟨line, rest, u, hlater, -, ⟨e, hline, hrun, hsupervise⟩ | ⟨reason, -, hrun, -⟩⟩
  · rw [hrun] at hfailed
    cases hfailed
  · rw [hrun] at hfailed
    cases hfailed
    exact ⟨line, rest, u, hlater, hline, hsupervise⟩
  · rw [hrun] at hfailed
    cases hfailed

end LineShell.Engine

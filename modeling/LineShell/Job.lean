import LineShell.Error

/-!
# Background jobs

A job has a number, the command line it was started with, and an outcome that is known once it has
finished.  Jobs stay in the table until they are waited for, or found finished and reported.  Each
runs on a thread of its own, which needs room for as many calls as are allowed.  When a thread comes
to its end is not up to the interpreter: which jobs are found finished at which look is given with
the table.
-/

namespace LineShell

/-! ### Threads -/

/-- The largest number of 64 bits. -/
def wordLimit : Nat := 0xFFFFFFFFFFFFFFFF

/-- The room that a thread needs for a number of calls inside one another, in bytes: 64 KiB for each
call, at least 8 MiB, and no more than 64 bits can tell. -/
def threadStackSize (maxDepth : Nat) : Nat :=
  max (min (maxDepth * 65536) wordLimit) (8 * 1024 * 1024)

/-- The most bytes that there are for a thread. -/
def maxThreadStackSize : Nat := 1 <<< 35

/-- Why a thread cannot be given room for a number of calls inside one another. -/
def threadFault? (maxDepth : Nat) : Option ThreadFault :=
  let size := threadStackSize maxDepth
  if size = wordLimit then some .badSize
  else if maxThreadStackSize < size then some .noRoom
  else none

/-! ### Jobs -/

/-- A background job. -/
structure Job where
  id : Nat
  label : String
  ok : Bool
  deriving DecidableEq, Repr

/-- The jobs that are still to be reported, in the order of their start, and the number of the next
one. -/
structure JobTable where
  tracked : List Job
  nextId : Nat
  /-- How often the jobs were looked at. -/
  looks : Nat
  /-- Which jobs are found finished at a look, by the number of the look. -/
  finished : Nat → Job → Bool

/-- The number of a job and whether it succeeded. -/
abbrev JobReport := Nat × Bool

namespace JobTable

/-- No jobs so far; those to come have finished whenever they are looked at. -/
def empty : JobTable := ⟨[], 1, 0, fun _ _ => true⟩

/-- Starts to track a job, and gives its number. -/
def start (table : JobTable) (label : String) (ok : Bool) : Nat × JobTable :=
  (table.nextId, { table with
    tracked := table.tracked ++ [⟨table.nextId, label, ok⟩], nextId := table.nextId + 1 })

/-- Passes over the number of a job that could not be started. -/
def skip (table : JobTable) : JobTable := { table with nextId := table.nextId + 1 }

/-- What is reported of a job. -/
def report (job : Job) : JobReport := (job.id, job.ok)

/-- Waits for all jobs. -/
def wait (table : JobTable) : List JobReport × JobTable :=
  (table.tracked.map report, { table with tracked := [] })

/-- Reports the jobs that have finished; the others stay. -/
def reap (table : JobTable) (finished : Job → Bool) : List JobReport × JobTable :=
  ((table.tracked.filter finished).map report,
    { table with tracked := table.tracked.filter (!finished ·) })

/-- Looks at the jobs, and reports those that are found finished. -/
def look (table : JobTable) : List JobReport × JobTable :=
  let (reports, rest) := table.reap (table.finished table.looks)
  (reports, { rest with looks := table.looks + 1 })

/-- Waits for the jobs whose numbers are not below `first`; the earlier ones stay. -/
def joinFrom (table : JobTable) (first : Nat) : List JobReport × JobTable :=
  ((table.tracked.filter (first ≤ ·.id)).map report,
    { table with tracked := table.tracked.filter (·.id < first) })

/-- The word for an outcome. -/
def stateWord (ok : Bool) : String := if ok then "done" else "failed"

/-- The word for what has become of a job, which has finished if there is a report of it. -/
def progressWord (reports : List JobReport) (job : Job) : String :=
  match reports.lookup job.id with
  | some ok => stateWord ok
  | none => "running"

/-- The line that reports a job. -/
def reportLine (entry : JobReport) : String :=
  "[" ++ Text.decimal entry.1 ++ "] " ++ stateWord entry.2

end JobTable

end LineShell

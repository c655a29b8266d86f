import LineShell.Session.Basic

/-!
# Guarded runs

Runs that put the session back in order when they end: an isolated run closes the frames it opened,
a temporary scope leaves the scopes that were entered in it, and a run in Global returns to where
access went before.  `supervise` turns failures and crashes into a report; only a crash needs
rolling back, since it skips the clean-up of the runs that it breaks out of.
-/

namespace LineShell

/-- The message of a crash. -/
def CrashPayload.text : CrashPayload → String
  | .message text => text
  | .other => "command panicked"

/-- What a supervised run returns to after a crash. -/
structure Checkpoint where
  frames : Nat
  scopes : ScopeCheckpoint
  depth : Nat
  deriving DecidableEq, Repr

namespace Session

/-- Records the number of frames, the scopes and the number of active calls. -/
def checkpoint (s : Session) : Checkpoint :=
  ⟨s.memory.depth, s.scopes.checkpoint, s.depth⟩

/-- Returns to what was recorded. -/
def restore (s : Session) (point : Checkpoint) : Session :=
  { s with
    memory := s.memory.truncate point.frames
    scopes := s.scopes.restore point.scopes
    depth := point.depth }

/-- A copy of the session with no active call and no jobs. -/
def fork (s : Session) : Session :=
  { s with depth := 0, running := true, jobs := .empty }

end Session

namespace Engine

variable {α : Type}

/-- Runs an action on a frame of its own. -/
def isolated (action : Engine α) : Engine α := fun s =>
  let (restoreTo, memory) := s.memory.enterIsolated
  action.cleanup (fun s => { s with memory := s.memory.leaveIsolated restoreTo })
    { s with memory }

/-- Runs an action in a temporary scope. -/
def temporaryScope (action : Engine α) : Engine α := fun s =>
  match s.scopes.beginTemporary with
  | .error e => (.failed e, s)
  | .ok (mark, scopes) =>
    action.cleanup (fun s => { s with scopes := s.scopes.endTemporary mark }) { s with scopes }

/-- Runs an action in Global. -/
def inGlobal (action : Engine α) : Engine α := fun s =>
  let (wasGlobal, scopes) := s.scopes.beginGlobal
  action.cleanup (fun s => { s with scopes := s.scopes.endGlobal wasGlobal }) { s with scopes }

/-- Runs an action, reports its failure or crash under the name of its source, and tells whether it
returned. -/
def supervise (source : String) (action : Engine Unit) : Engine Bool := fun s =>
  let point := s.checkpoint
  match action s with
  | (.done _, s) => (.done true, s)
  | (.failed e, s) => (.done false, s.errorLine (source ++ ": " ++ e.message))
  | (.crashed payload, s) =>
    let e := Error.unexpected source payload.text
    (.done false, (s.restore point).errorLine (source ++ ": " ++ e.message))
  | (.halted reason, s) => (.halted reason, s)

/-- What a captured run wrote. -/
structure Captured where
  success : Bool
  out : String
  err : String
  deriving DecidableEq, Repr

/-- Runs an action with its output kept apart.  Jobs that it started are waited for. -/
def capture (action : Engine Bool) : Engine Captured := fun s =>
  let firstJob := s.jobs.nextId
  match action { s with out := "", err := "" } with
  | (.done success, t) =>
    (.done ⟨success, t.out, t.err⟩,
      { t with out := s.out, err := s.err, jobs := (t.jobs.joinFrom firstJob).2 })
  | (.failed e, t) => (.failed e, { t with out := s.out, err := s.err })
  | (.crashed payload, t) => (.crashed payload, { t with out := s.out, err := s.err })
  | (.halted reason, t) => (.halted reason, { t with out := s.out, err := s.err })

/-- Runs an action on a copy of the session, of which only the output is kept. -/
def onFork (action : Engine α) : Engine α := fun s =>
  let (outcome, child) := action s.fork
  (outcome, { s with out := child.out, err := child.err })

/-- Starts a job, and gives its number and what it wrote.  The job runs on a copy of the session, if
there is room for its thread.

The whole job is run here, and how it ends is put in the table at once; only when it is found
finished is left to `JobTable.finished`.  So a job that comes to no end halts the run that started
it, where a thread of its own would go on in the background and the number would be given all the
same. -/
def startJob (exec : Exec) (name : String) (args : List String) :
    Engine (Nat × String × String) := fun s =>
  match threadFault? s.maxDepth with
  | some fault => (.failed (.thread fault), { s with jobs := s.jobs.skip })
  | none =>
    match supervise name (exec name args) { s.fork with out := "", err := "" } with
    | (.halted reason, _) => (.halted reason, s)
    | (outcome, child) =>
      let (id, jobs) := s.jobs.start (Word.commandLine name args) (outcome = .done true)
      (.done (id, child.out, child.err), { s with jobs })

/-- Puts the output of a job after that of the session. -/
def addOutput (out err : String) : Engine Unit :=
  modify fun s => { s with out := s.out ++ out, err := s.err ++ err }

/-- Starts a job and gives its number. -/
def spawn (exec : Exec) (name : String) (args : List String) : Engine Nat := do
  let (id, out, err) ← startJob exec name args
  addOutput out err
  return id

end Engine

end LineShell

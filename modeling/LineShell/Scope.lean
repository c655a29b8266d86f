import LineShell.Error
import LineShell.NameMap
import LineShell.Text.Alphanumeric

/-!
# Scopes of variables

Variables live in nested local scopes and in one Global scope.  While Global is active all access
goes to it; otherwise a variable is stored in the innermost local scope, and sought there and then
in Global.  There is always one local scope at least, so the type keeps the innermost one apart from
those around it.  A temporary scope sets a mark that leaving scopes cannot cross, and a temporary
run in Global sets a guard that keeps Global active.
-/

namespace LineShell

/-- The variables of one scope. -/
abbrev Scope := NameMap String

/-- All scopes: the innermost local one, those around it from the inside out, the Global one,
whether Global is active, the marks of temporary scopes, the latest first, and the number of guards.
-/
structure Scopes where
  inner : Scope
  outer : List Scope
  global : Scope
  globalActive : Bool
  marks : List Nat
  guards : Nat

/-- The state to which the end of a temporary scope returns. -/
structure TemporaryMark where
  restoreDepth : Nat
  wasGlobal : Bool
  deriving DecidableEq, Repr

/-- What is needed to undo an aborted run. -/
structure ScopeCheckpoint where
  depth : Nat
  globalActive : Bool
  marks : Nat
  guards : Nat
  deriving DecidableEq, Repr

namespace Scopes

/-- One local scope without variables, and Global not active. -/
def initial : Scopes := ⟨.empty, [], .empty, false, [], 0⟩

/-- The number of local scopes. -/
def depth (scopes : Scopes) : Nat := scopes.outer.length + 1

/-- The scope that variables are stored in. -/
def active (scopes : Scopes) : Scope :=
  if scopes.globalActive then scopes.global else scopes.inner

/-- The scopes with the active one changed. -/
def modifyActive (scopes : Scopes) (f : Scope → Scope) : Scopes :=
  if scopes.globalActive then { scopes with global := f scopes.global }
  else { scopes with inner := f scopes.inner }

/-- Opens a local scope. -/
def enterScope (scopes : Scopes) : Except Error Scopes :=
  if scopes.globalActive then .error (.scope .enterInGlobal)
  else .ok { scopes with inner := .empty, outer := scopes.inner :: scopes.outer }

/-- Closes the innermost local scope. -/
def exitScope (scopes : Scopes) : Except Error Scopes :=
  if scopes.globalActive then .error (.scope .exitInGlobal)
  else
    match scopes.outer with
    | [] => .error (.scope .exitOutermost)
    | next :: outer =>
      if scopes.marks.head?.any (scopes.depth ≤ ·) then .error (.scope .exitTemporary)
      else .ok { scopes with inner := next, outer }

/-- Directs all access to Global. -/
def enterGlobal (scopes : Scopes) : Except Error Scopes :=
  if scopes.globalActive then .error (.scope .globalActive)
  else .ok { scopes with globalActive := true }

/-- Directs access to the local scopes again. -/
def exitGlobal (scopes : Scopes) : Except Error Scopes :=
  if !scopes.globalActive then .error (.scope .globalInactive)
  else if 0 < scopes.guards then .error (.scope .globalGuarded)
  else .ok { scopes with globalActive := false }

/-- Stores a variable in the active scope. -/
def store (scopes : Scopes) (name value : String) : Scopes :=
  scopes.modifyActive (·.insert name value)

/-- The value of a variable. -/
def load? (scopes : Scopes) (name : String) : Option String :=
  if scopes.globalActive then scopes.global.find? name
  else (scopes.inner.find? name).or (scopes.global.find? name)

/-- The value of a variable, or the error that there is none. -/
def load (scopes : Scopes) (name : String) : Except Error String :=
  match scopes.load? name with
  | some value => .ok value
  | none => .error (.undefinedVariable name)

/-- Removes a variable from the active scope, and tells whether it was there. -/
def remove (scopes : Scopes) (name : String) : Bool × Scopes :=
  (scopes.active.contains name, scopes.modifyActive (·.erase name))

/-- The local scopes without those inside the first `depth`, of which one always stays. -/
def keepScopes (scopes : Scopes) (depth : Nat) : Scopes :=
  match (scopes.inner :: scopes.outer).drop (scopes.depth - max depth 1) with
  | [] => scopes
  | inner :: outer => { scopes with inner, outer }

/-- Opens a temporary scope. -/
def beginTemporary (scopes : Scopes) : Except Error (TemporaryMark × Scopes) := do
  let opened ← scopes.enterScope
  return (⟨scopes.depth, scopes.globalActive⟩,
    { opened with marks := opened.depth :: opened.marks })

/-- Leaves every scope that was opened since the mark was set, the temporary one included. -/
def endTemporary (scopes : Scopes) (mark : TemporaryMark) : Scopes :=
  let kept := scopes.keepScopes mark.restoreDepth
  { kept with
    marks := scopes.marks.dropWhile (mark.restoreDepth < ·)
    globalActive := mark.wasGlobal }

/-- Makes Global active for one run, and tells whether it was so before. -/
def beginGlobal (scopes : Scopes) : Bool × Scopes :=
  (scopes.globalActive, { scopes with globalActive := true, guards := scopes.guards + 1 })

/-- Ends a run in Global. -/
def endGlobal (scopes : Scopes) (wasGlobal : Bool) : Scopes :=
  { scopes with globalActive := wasGlobal, guards := scopes.guards - 1 }

/-- Records the state of the scopes. -/
def checkpoint (scopes : Scopes) : ScopeCheckpoint :=
  ⟨scopes.depth, scopes.globalActive, scopes.marks.length, scopes.guards⟩

/-- Returns to a recorded state, as far as leaving scopes and dropping marks can. -/
def restore (scopes : Scopes) (point : ScopeCheckpoint) : Scopes :=
  let kept := scopes.keepScopes point.depth
  { kept with
    marks := scopes.marks.drop (scopes.marks.length - point.marks)
    globalActive := point.globalActive
    guards := point.guards }

end Scopes

/-- Variables are named by letters, digits, underscores, points and hyphens. -/
def isVariableName (cs : List Char) : Bool :=
  !cs.isEmpty && cs.all fun c => Text.isAlphanumeric c || c == '_' || c == '.' || c == '-'

end LineShell

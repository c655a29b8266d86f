import LineShell.Error

/-!
# The passes that expand a line

Every line is expanded by passes in ascending order of their priorities; of two passes of the same
priority the one that was added first comes first.  The pass that protects the commands for
definitions has the least priority of all and cannot be removed.
-/

namespace LineShell

/-- A pass of the host program: it transforms each text for itself. -/
structure CustomPass where
  name : String
  priority : Int
  transform : String → Except Error String

/-- A pass. -/
inductive Pass
  | builtin
  | macros
  | variables
  | memory
  | custom (pass : CustomPass)

namespace Pass

/-- The name by which a pass is removed. -/
def name : Pass → String
  | .builtin => "builtin"
  | .macros => "macros"
  | .variables => "variables"
  | .memory => "memory"
  | .custom pass => pass.name

/-- Passes of lower priority run earlier. -/
def priority : Pass → Int
  | .builtin => -2147483648
  | .macros => 0
  | .variables => 100
  | .memory => 200
  | .custom pass => pass.priority

end Pass

/-- The passes in the order in which they run. -/
structure Pipeline where
  passes : List Pass

namespace Pipeline

/-- No passes. -/
def empty : Pipeline := ⟨[]⟩

/-- Puts a pass behind those whose priority is not greater. -/
def add (pipeline : Pipeline) (pass : Pass) : Pipeline :=
  let runsFirst (other : Pass) : Bool := other.priority ≤ pass.priority
  ⟨pipeline.passes.takeWhile runsFirst ++ pass :: pipeline.passes.dropWhile runsFirst⟩

/-- The four passes of the interpreter itself. -/
def standard : Pipeline :=
  [Pass.builtin, .macros, .variables, .memory].foldl add empty

/-- Takes out the first pass of a name, and gives it together with the others. -/
def remove (pipeline : Pipeline) (name : String) : Except Error (Pass × Pipeline) :=
  if name = Pass.builtin.name then .error (.definition .builtinPass)
  else
    match pipeline.passes.find? (·.name == name) with
    | none => .error (.raised ("no preprocess pass named '" ++ name ++ "'"))
    | some pass => .ok (pass, ⟨pipeline.passes.eraseP (·.name == name)⟩)

end Pipeline

end LineShell

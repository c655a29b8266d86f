import LineShell.Session.Basic

/-!
# Changes of a session in place

What the commands do to the memory, the scopes, the macros and the packages of a session, step by
step: a change looks at the session, fails where it is refused, and alters the session bit by bit.
Nothing takes back what was altered before a failure.
-/

namespace LineShell.Engine

/-- Fails if something is refused. -/
def refuseIf (refused : Bool) (error : Error) : Engine Unit :=
  if refused then fail error else pure ()

/-- Changes the session and gives what the change gives. -/
def update {α : Type} (f : Session → α × Session) : Engine α := fun s =>
  (.done (f s).1, (f s).2)

/-! ### Stacks -/

/-- Changes the active stack. -/
def changeActive (f : Stack → Stack) : Engine Unit :=
  modify fun s => { s with memory := s.memory.modifyActive f }

/-- Takes the value off the top of the active stack. -/
def popItem : Engine Item := fun s =>
  match s.memory.pop with
  | .ok (item, memory) => (.done item, { s with memory })
  | .error e => (.failed e, s)

/-- Exchanges the two top values of the active stack: both are taken off and put back in the other
order. -/
def swapItems : Engine Unit := do
  refuseIf ((← get).memory.active.items.length < 2) .emptyStack
  let first ← popItem
  let second ← popItem
  changeActive (·.push first)
  changeActive (·.push second)

/-- Discards the active frame. -/
def closeFrame : Engine Unit := do
  let memory := (← get).memory
  refuseIf (memory.depth ≤ memory.floor) (.frame (if memory.floor = 1 then .base else .isolated))
  match memory.below with
  | [] => fail (.frame .base)
  | active :: below => modify fun s => { s with memory := { s.memory with active, below } }

/-! ### Scopes -/

/-- Opens a local scope. -/
def enterScope : Engine Unit := do
  refuseIf (← get).scopes.globalActive (.scope .enterInGlobal)
  modify fun s => { s with
    scopes := { s.scopes with inner := .empty, outer := s.scopes.inner :: s.scopes.outer } }

/-- Closes the innermost local scope. -/
def exitScope : Engine Unit := do
  let scopes := (← get).scopes
  refuseIf scopes.globalActive (.scope .exitInGlobal)
  match scopes.outer with
  | [] => fail (.scope .exitOutermost)
  | inner :: outer =>
    refuseIf (scopes.marks.head?.any (scopes.depth ≤ ·)) (.scope .exitTemporary)
    modify fun s => { s with scopes := { s.scopes with inner, outer } }

/-- Directs all access to Global. -/
def enterGlobal : Engine Unit := do
  refuseIf (← get).scopes.globalActive (.scope .globalActive)
  modify fun s => { s with scopes := { s.scopes with globalActive := true } }

/-- Directs access to the local scopes again. -/
def exitGlobal : Engine Unit := do
  let scopes := (← get).scopes
  refuseIf (!scopes.globalActive) (.scope .globalInactive)
  refuseIf (0 < scopes.guards) (.scope .globalGuarded)
  modify fun s => { s with scopes := { s.scopes with globalActive := false } }

/-- Stores a variable in the active scope. -/
def storeVariable (name value : String) : Engine Unit :=
  modify fun s => { s with scopes := s.scopes.store name value }

/-- Removes a variable from the active scope, and tells whether it was there. -/
def removeVariable (name : String) : Engine Bool :=
  update fun s => ((s.scopes.remove name).1, { s with scopes := (s.scopes.remove name).2 })

/-! ### Macros -/

/-- Defines a macro, in place of one of the same name. -/
def defineMacro (name : String) (body : Macro) : Engine Unit := do
  ofExcept (Macro.checkName name)
  modify fun s => { s with macros := s.macros.insert name body }

/-- Removes a macro, and tells whether it was there. -/
def undefineMacro (name : String) : Engine Bool := update (·.undefineMacro name)

/-! ### Packages -/

/-- Adds a loaded package.  The names of the native and the custom package are taken. -/
def addPackage (package : Package) : Engine Unit := do
  refuseIf (package.name = nativeName ∨ package.name = customName)
    (.definition (.packageName package.name))
  modify fun s => { s with packages := (s.packages.add package).2 }

/-- Adds packages one after the other, until one is refused. -/
def addPackages : List Package → Engine Unit
  | [] => pure ()
  | package :: rest => do
    addPackage package
    addPackages rest

/-- Adds a package of the registry. -/
def usePackage (name : String) : Engine Unit := do
  let package ← ofExcept ((← get).registry.create name)
  addPackage package

/-- Puts a command among the custom ones, in place of one of the same name. -/
def registerCustom (name : String) (command : Command) : Engine Unit := do
  ofExcept (command.check name)
  modify fun s =>
    let custom := s.packages.custom
    let custom := { custom with commands := custom.commands.insert name command }
    { s with packages := { s.packages with custom } }

/-- Takes a command from the custom ones, and tells whether it was there. -/
def removeCustom (name : String) : Engine Bool := update fun s =>
  let custom := s.packages.custom
  let rest := { custom with commands := custom.commands.erase name }
  (custom.commands.contains name, { s with packages := { s.packages with custom := rest } })

end LineShell.Engine

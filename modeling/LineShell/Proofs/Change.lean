import LineShell.Session.Change
import Mathlib.Tactic.Common

/-!
# What changes in place amount to

A change in place goes step by step, and what it has altered before a failure stays altered.  Here
it is shown that the changes which may be refused alter nothing before that: each is the same as
one change of the session that is made as a whole or not at all (`Engine.attempt`).
-/

namespace LineShell

namespace Engine

variable {α β : Type} {s t : Session}

/-! ### Single steps -/

/-- What comes after an action that returned a value. -/
lemma bind_of_done {action : Engine α} {a : α} (h : action s = (.done a, t))
    (next : α → Engine β) : (action >>= next) s = next a t := by
  change Engine.bind action next s = _
  rw [Engine.bind, h]

/-- Nothing comes after an action that failed. -/
lemma bind_of_failed {action : Engine α} {e : Error} (h : action s = (.failed e, t))
    (next : α → Engine β) : (action >>= next) s = (.failed e, t) := by
  change Engine.bind action next s = _
  rw [Engine.bind, h]

/-- What comes after a look at the session. -/
lemma get_bind_apply (next : Session → Engine α) (s : Session) : (get >>= next) s = next s s := rfl

/-- What comes after a refusal. -/
lemma refuseIf_bind_apply (refused : Bool) (e : Error) (next : Unit → Engine α) (s : Session) :
    (refuseIf refused e >>= next) s = if refused then (.failed e, s) else next () s := by
  cases refused with
  | false => exact bind_of_done rfl next
  | true => exact bind_of_failed rfl next

/-- What comes after a look that may fail. -/
lemma ofExcept_bind_apply (x : Except Error α) (next : α → Engine β) (s : Session) :
    (ofExcept x >>= next) s = match x with
      | .ok a => next a s
      | .error e => (.failed e, s) := by
  cases x with
  | error e => exact bind_of_failed rfl next
  | ok a => exact bind_of_done rfl next

/-- A change that may be refused, of a session that is known. -/
lemma attempt_apply (step : Session → Except Error Session) (s : Session) :
    attempt step s = match step s with
      | .ok t => (.done (), t)
      | .error e => (.failed e, s) := rfl

/-! ### Stacks -/

/-- The value on top is taken off. -/
lemma popItem_of_cons {item : Item} {items : List Item}
    (h : s.memory.active.items = item :: items) :
    popItem s = (.done item, { s with memory := { s.memory with active :=
      { s.memory.active with items } } }) := by
  simp only [popItem, Memory.pop, Stack.pop, h]

/-- Two values are exchanged, or nothing is done: the second value is there when the first one is
taken off. -/
theorem swapItems_eq : swapItems = attempt fun s => do
    let active ← s.memory.active.swap
    return { s with memory := { s.memory with active } } := by
  funext s
  rw [swapItems, get_bind_apply, refuseIf_bind_apply, attempt_apply, Stack.swap]
  rcases hitems : s.memory.active.items with _ | ⟨first, _ | ⟨second, rest⟩⟩
  · rfl
  · rfl
  · rw [if_neg (by simp), bind_of_done (popItem_of_cons hitems), bind_of_done (popItem_of_cons rfl)]
    rfl

/-- The active frame is discarded, or nothing is done. -/
theorem closeFrame_eq : closeFrame = attempt fun s => do
    let (_, memory) ← s.memory.closeFrame
    return { s with memory } := by
  funext s
  rw [closeFrame, get_bind_apply, refuseIf_bind_apply, attempt_apply, Memory.closeFrame]
  by_cases hfloor : s.memory.depth ≤ s.memory.floor
  · rw [if_pos hfloor, if_pos (decide_eq_true hfloor)]
    rfl
  · rw [if_neg hfloor, if_neg (by simpa using hfloor)]
    cases s.memory.below <;> rfl

/-! ### Scopes -/

/-- A local scope is opened, or nothing is done. -/
theorem enterScope_eq : enterScope = attempt fun s => do
    return { s with scopes := ← s.scopes.enterScope } := by
  funext s
  rw [enterScope, get_bind_apply, refuseIf_bind_apply, attempt_apply, Scopes.enterScope]
  split <;> rfl

/-- The innermost local scope is closed, or nothing is done. -/
theorem exitScope_eq : exitScope = attempt fun s => do
    return { s with scopes := ← s.scopes.exitScope } := by
  funext s
  rw [exitScope, get_bind_apply, refuseIf_bind_apply, attempt_apply, Scopes.exitScope]
  by_cases hglobal : s.scopes.globalActive = true
  · rw [if_pos hglobal, if_pos hglobal]
    rfl
  · rw [if_neg hglobal, if_neg hglobal]
    cases s.scopes.outer with
    | nil => rfl
    | cons inner outer =>
      dsimp only
      rw [refuseIf_bind_apply]
      split <;> rfl

/-- Access goes to Global, or nothing is done. -/
theorem enterGlobal_eq : enterGlobal = attempt fun s => do
    return { s with scopes := ← s.scopes.enterGlobal } := by
  funext s
  rw [enterGlobal, get_bind_apply, refuseIf_bind_apply, attempt_apply, Scopes.enterGlobal]
  split <;> rfl

/-- Access goes to the local scopes, or nothing is done. -/
theorem exitGlobal_eq : exitGlobal = attempt fun s => do
    return { s with scopes := ← s.scopes.exitGlobal } := by
  funext s
  rw [exitGlobal, get_bind_apply, refuseIf_bind_apply, refuseIf_bind_apply, attempt_apply,
    Scopes.exitGlobal]
  by_cases hglobal : (!s.scopes.globalActive) = true
  · rw [if_pos hglobal, if_pos hglobal]
    rfl
  · rw [if_neg hglobal, if_neg hglobal]
    by_cases hguards : 0 < s.scopes.guards
    · rw [if_pos hguards, if_pos (decide_eq_true hguards)]
      rfl
    · rw [if_neg hguards, if_neg (by simpa using hguards)]
      rfl

/-! ### Macros and packages -/

/-- A macro is defined, or nothing is done. -/
theorem defineMacro_eq (name : String) (body : Macro) :
    defineMacro name body = attempt (·.defineMacro name body) := by
  funext s
  rw [defineMacro, ofExcept_bind_apply, attempt_apply, Session.defineMacro]
  cases Macro.checkName name <;> rfl

/-- A package is added, or nothing is done. -/
theorem addPackage_eq (package : Package) : addPackage package = attempt (·.addPackage package) := by
  funext s
  rw [addPackage, refuseIf_bind_apply, attempt_apply, Session.addPackage]
  by_cases hname : package.name = nativeName ∨ package.name = customName
  · rw [if_pos hname, if_pos (decide_eq_true hname)]
  · rw [if_neg hname, if_neg (by simpa using hname)]
    rfl

/-- A package of the registry is added, or nothing is done. -/
theorem usePackage_eq (name : String) : usePackage name = attempt (·.usePackage name) := by
  funext s
  rw [usePackage, get_bind_apply, ofExcept_bind_apply, attempt_apply, Session.usePackage]
  cases s.registry.create name with
  | error e => rfl
  | ok package => exact congrFun (addPackage_eq package) s

/-- A command is put among the custom ones, or nothing is done. -/
theorem registerCustom_eq (name : String) (command : Command) :
    registerCustom name command = attempt fun s => do
      let packages ← s.packages.registerCustom name command
      return { s with packages } := by
  funext s
  rw [registerCustom, ofExcept_bind_apply, attempt_apply, PackageSet.registerCustom,
    Package.register]
  cases command.check name <;> rfl

end Engine

end LineShell

import LineShell.Command
import LineShell.NameMap

/-!
# Packages of commands

A package is a named collection of commands.  A name is looked up in the native package, then among
the custom commands, then in the loaded packages in the order of their loading, and the first
package that has it wins.
-/

namespace LineShell

/-- A named collection of commands. -/
structure Package where
  name : String
  commands : NameMap Command

namespace Package

/-- A package without commands. -/
def empty (name : String) : Package := ⟨name, .empty⟩

/-- The number of commands. -/
def size (package : Package) : Nat := package.commands.size

/-- Puts in a command, in place of one of the same name. -/
def register (package : Package) (name : String) (command : Command) : Except Error Package := do
  command.check name
  return { package with commands := package.commands.insert name command }

/-- Puts in commands one after the other; the first that is refused is the error. -/
def registerAll (package : Package) : List (String × Command) → Except Error Package
  | [] => .ok package
  | (name, command) :: rest => do
    let package ← package.register name command
    package.registerAll rest

/-- Puts in all commands of another package. -/
def absorb (package other : Package) : Package :=
  { package with commands := package.commands.insertAll other.commands }

end Package

/-- The name of the package of built-in commands. -/
def nativeName : String := "native"

/-- The name of the package of aliases and scripts. -/
def customName : String := "custom"

/-- The packages in which commands are looked up. -/
structure PackageSet where
  native : Package
  custom : Package
  loaded : List Package

namespace PackageSet

/-- A set of packages in which nothing is custom or loaded. -/
def ofNative (native : Package) : PackageSet := ⟨native, .empty customName, []⟩

/-- The packages in the order of lookup. -/
def toList (set : PackageSet) : List Package := set.native :: set.custom :: set.loaded

/-- The command that a name stands for, and the package that has it. -/
def resolve? (set : PackageSet) (name : String) : Option (Package × Command) :=
  set.toList.findSome? fun package =>
    (package.commands.find? name).map fun command => (package, command)

/-- Whether a name stands for the command of the package of this name. -/
def isReachable (set : PackageSet) (package name : String) : Bool :=
  (set.resolve? name).any fun (found, _) => found.name == package

/-- The commands of a package that are looked up there. -/
def reachableIn (set : PackageSet) (package : Package) : List (String × Command) :=
  package.commands.entries.filter fun (name, _) => set.isReachable package.name name

/-- Adds a package to a list, in place of the first one of the same name, which is given back. -/
def addTo (package : Package) : List Package → Option Package × List Package
  | [] => (none, [package])
  | other :: rest =>
    if other.name = package.name then (some other, package :: rest)
    else
      let (replaced, rest) := addTo package rest
      (replaced, other :: rest)

/-- Adds a loaded package, in place of the one of the same name, which is given back. -/
def add (set : PackageSet) (package : Package) : Option Package × PackageSet :=
  let (replaced, loaded) := addTo package set.loaded
  (replaced, { set with loaded })

/-- Takes the first loaded package of a name out. -/
def remove (set : PackageSet) (name : String) : Option Package × PackageSet :=
  (set.loaded.find? (·.name == name),
    { set with loaded := set.loaded.eraseP (·.name == name) })

/-- The first package of a name. -/
def get? (set : PackageSet) (name : String) : Option Package :=
  set.toList.find? (·.name == name)

/-- Every name that stands for a command, once and in order. -/
def reachableNames (set : PackageSet) : List String :=
  (set.toList.foldl (fun names package =>
    package.commands.names.foldl (fun names name => names.insert name ()) names)
    (NameMap.empty : NameMap Unit)).names

/-- The set with a command among the custom ones. -/
def registerCustom (set : PackageSet) (name : String) (command : Command) :
    Except Error PackageSet := do
  let custom ← set.custom.register name command
  return { set with custom }

end PackageSet

/-- Packages that can be loaded by name.  Making one may fail. -/
abbrev Registry := NameMap (Except Error Package)

/-- The package that a registry makes under a name. -/
def Registry.create (registry : Registry) (name : String) : Except Error Package :=
  match registry.find? name with
  | some made => made
  | none => .error (.raised ("package '" ++ name ++ "' is not registered"))

end LineShell

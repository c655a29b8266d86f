import LineShell.Session.Expansion

/-!
# Commands on the memory stacks
-/

namespace LineShell.Builtin

/-- The commands on the memory stacks, by name. -/
def memoryCommands : List (String × Command) :=
  let entry (name : String) (least : Nat) (most : Option Nat) (command : MemoryCommand)
      (description usage : String) : String × Command :=
    (name, ⟨least, most, description, usage, [], .builtin (.memory command)⟩)
  [entry "push" 1 (some 2) .push
     ("Push a value, optionally typed as bool, int, float, char or text. " ++
      "A ^ in VALUE is read from the stack; write #[^]# for a literal caret")
     "push VALUE [TYPE]",
   entry "pop" 0 (some 0) .pop "Pop and print the top value" "pop",
   entry "peek" 0 (some 0) .peek "Print the top value" "peek",
   entry "dup" 0 (some 0) .dup "Duplicate the top value" "dup",
   entry "swap" 0 (some 0) .swap "Exchange the two top values" "swap",
   entry "clear" 0 (some 0) .clear "Empty the active stack" "clear",
   entry "count" 0 (some 0) .count "Push the size of the active stack" "count",
   entry "stack" 0 (some 1) .stack "List the active stack, most recent first" "stack [--json]",
   entry "lock" 0 (some 0) .lock "Stop command results from landing on the active stack" "lock",
   entry "unlock" 0 (some 0) .unlock "Let command results land on the active stack again"
     "unlock",
   entry "push-frame" 0 (some 0) .pushFrame "Open a fresh memory stack" "push-frame",
   entry "pop-frame" 0 (some 0) .popFrame "Discard the active memory stack" "pop-frame",
   entry "frames" 0 (some 0) .frames "List memory stacks, active first" "frames",
   entry "isolated" 1 none .isolated "Run a command on its own memory stack"
     "isolated COMMAND [ARG]..."]

/-- The value that `push` is given: a text, or a value of the kind that is named after it. -/
def pushedItem (args : Arguments) : Except Error Item := do
  let raw ← args.text 0
  match args.items[1]? with
  | none => return .text raw
  | some kindName =>
    match Kind.ofName? kindName.display with
    | none => throw (.raised ("push: unknown type '" ++ kindName.display ++ "'"))
    | some kind =>
      match Item.ofKind? kind raw with
      | some item => return item
      | none => throw (.notOfKind args.command 0 raw kind)

/-- The active stack, one value to a line or as a data text. -/
def stackText (stack : Stack) (args : Arguments) : Except Error String :=
  match args.items[0]? with
  | none => .ok (String.join (stack.items.map fun item => item.display ++ "\n"))
  | some flag =>
    if flag.display = "--json" then
      .ok ("[" ++ ",".intercalate (stack.items.map Item.jsonText) ++ "]\n")
    else .error (.raised ("stack: unknown option '" ++ flag.display ++ "'"))

/-- The frames, the active one first, each with its number and the number of its values. -/
def framesText (memory : Memory) : String :=
  String.join (memory.frames.mapIdx fun i frame =>
    Text.decimal (memory.depth - 1 - i) ++ ": " ++ Text.decimal frame.items.length ++ " items"
      ++ (if frame.locked then " (locked)" else "") ++ "\n")

/-- What the commands on the memory stacks do. -/
def runMemory (exec : Exec) (command : MemoryCommand) (args : Arguments) :
    Engine (Option Item) :=
  match command with
  | .push => do
    let item ← Engine.ofExcept (pushedItem args)
    Engine.changeActive (·.push item)
    return none
  | .pop => do
    let item ← Engine.popItem
    Engine.modify (·.sayLine item.display)
    return none
  | .peek => do
    let item ← Engine.ofExcept (← Engine.get).memory.active.peek
    Engine.modify (·.sayLine item.display)
    return none
  | .dup => do
    let top ← Engine.ofExcept (← Engine.get).memory.active.peek
    Engine.changeActive (·.push top)
    return none
  | .swap => do
    Engine.swapItems
    return none
  | .clear => do
    Engine.changeActive Stack.clear
    return none
  | .count => do return some (.int (← Engine.get).memory.active.items.length)
  | .stack => do
    let text ← Engine.ofExcept (stackText (← Engine.get).memory.active args)
    Engine.modify (·.say text)
    return none
  | .lock => do
    Engine.changeActive fun stack => { stack with locked := true }
    return none
  | .unlock => do
    Engine.changeActive fun stack => { stack with locked := false }
    return none
  | .pushFrame => do
    Engine.modify fun s => { s with memory := s.memory.openFrame }
    return none
  | .popFrame => do
    Engine.closeFrame
    return none
  | .frames => do
    Engine.modify fun s => s.say (framesText s.memory)
    return none
  | .isolated => do
    let (name, rest) ← Engine.ofExcept (args.forward 0)
    Engine.isolated (exec name rest)
    return none

end LineShell.Builtin

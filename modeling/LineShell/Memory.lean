import LineShell.Error
import LineShell.Item

/-!
# Memory stacks

Commands leave their results on the active one of several stacks, which are called frames.  There is
always one frame at least, so the type keeps the active frame apart from those below it.  An
isolated run opens a frame of its own and sets a floor, below which frames cannot be closed until it
ends.
-/

namespace LineShell

/-- One stack of values, the most recent first.  A locked stack does not receive the results of
commands. -/
structure Stack where
  items : List Item
  locked : Bool
  deriving DecidableEq, Repr

namespace Stack

/-- A fresh stack. -/
def empty : Stack := ⟨[], false⟩

/-- The stack with a value on top. -/
def push (stack : Stack) (item : Item) : Stack := { stack with items := item :: stack.items }

/-- The value on top and the stack without it. -/
def pop (stack : Stack) : Except Error (Item × Stack) :=
  match stack.items with
  | [] => .error .emptyStack
  | item :: items => .ok (item, { stack with items })

/-- The value on top. -/
def peek (stack : Stack) : Except Error Item :=
  match stack.items with
  | [] => .error .emptyStack
  | item :: _ => .ok item

/-- The stack without its values. -/
def clear (stack : Stack) : Stack := { stack with items := [] }

/-- The stack with its two top values exchanged. -/
def swap (stack : Stack) : Except Error Stack :=
  match stack.items with
  | a :: b :: rest => .ok { stack with items := b :: a :: rest }
  | _ => .error .emptyStack

/-- The stack after the result of a command, which a locked stack does not take. -/
def receive (stack : Stack) (item : Item) : Stack :=
  if stack.locked then stack else stack.push item

end Stack

/-- The frames: the active one, those below it from the top down, and the floors that isolated runs
have set, the latest first. -/
structure Memory where
  active : Stack
  below : List Stack
  floors : List Nat
  deriving DecidableEq, Repr

namespace Memory

/-- One empty frame and no floor. -/
def initial : Memory := ⟨.empty, [], []⟩

/-- The number of frames. -/
def depth (memory : Memory) : Nat := memory.below.length + 1

/-- All frames, the active one first. -/
def frames (memory : Memory) : List Stack := memory.active :: memory.below

/-- The frames with the active one changed. -/
def modifyActive (memory : Memory) (f : Stack → Stack) : Memory :=
  { memory with active := f memory.active }

/-- The frames with a value on the active one. -/
def push (memory : Memory) (item : Item) : Memory := memory.modifyActive (·.push item)

/-- The value on top of the active frame, and the frames without it. -/
def pop (memory : Memory) : Except Error (Item × Memory) :=
  match memory.active.pop with
  | .ok (item, stack) => .ok (item, { memory with active := stack })
  | .error e => .error e

/-- Opens a fresh frame, which becomes the active one. -/
def openFrame (memory : Memory) : Memory :=
  { memory with active := .empty, below := memory.active :: memory.below }

/-- The least number of frames that closing a frame may leave in place. -/
def floor (memory : Memory) : Nat := memory.floors.headD 1

/-- Discards the active frame, and gives it together with the others. -/
def closeFrame (memory : Memory) : Except Error (Stack × Memory) :=
  if memory.depth ≤ memory.floor then
    .error (.frame (if memory.floor = 1 then .base else .isolated))
  else
    match memory.below with
    | [] => .error (.frame .base)
    | next :: below => .ok (memory.active, { memory with active := next, below })

/-- The frames without those above the first `depth`, of which one always stays. -/
def keepFrames (memory : Memory) (depth : Nat) : Memory :=
  match memory.frames.drop (memory.depth - max depth 1) with
  | [] => memory
  | active :: below => { memory with active, below }

/-- The floors without those above `bound`, as far as they lie on top of the others. -/
def dropFloors (memory : Memory) (bound : Nat) : Memory :=
  { memory with floors := memory.floors.dropWhile (bound < ·) }

/-- Drops the frames above the first `depth`, and the floors that are left without a frame. -/
def truncate (memory : Memory) (depth : Nat) : Memory :=
  let kept := memory.keepFrames depth
  kept.dropFloors kept.depth

/-- Opens the frame of an isolated run and sets its floor.  The number of frames before it is what
`leaveIsolated` takes. -/
def enterIsolated (memory : Memory) : Nat × Memory :=
  let opened := memory.openFrame
  (memory.depth, { opened with floors := opened.depth :: opened.floors })

/-- Drops every frame and every floor since the isolated run was entered. -/
def leaveIsolated (memory : Memory) (restoreTo : Nat) : Memory :=
  (memory.dropFloors restoreTo).truncate restoreTo

end Memory

end LineShell

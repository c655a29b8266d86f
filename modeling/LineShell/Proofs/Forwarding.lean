import LineShell.Proofs.Permanence

/-!
# Commands that hand over a call

Some built-in commands are given another command and its arguments, after some arguments of their
own, and call it, or put it away to be called later.  On the way the texts become arguments of
declared kinds, and these are turned back into texts.  Only declared positions could be changed by
that, and what is handed over lies behind them (`Command.forward_of_coerceAll`).

A `Forwarder` is such a command with its own arguments.  `Forwarder.run` says what it does with a
target and its texts, and `Forwarder.dispatch_eq` that a call of it does this with the very texts of
the call.
-/

namespace LineShell

/-! ### Kinds position by position -/

namespace Command

variable {command : Command} {name : String} {kinds : List Kind} {raw : List String}
  {args : List Argument} {position start : Nat}

/-- The kind that a position has: the declared one, or that of texts behind the declared ones. -/
def kindAt (command : Command) (i : Nat) : Kind := command.kinds.getD i .text

/-- The kinds from the second one on, position by position. -/
lemma getD_tail (kinds : List Kind) (i : Nat) :
    kinds.tail.getD i .text = kinds.getD (i + 1) .text := by
  cases kinds <;> rfl

/-- The first text is judged by the first kind, the others by those after it. -/
lemma coerceFrom_cons (name : String) (position : Nat) (kinds : List Kind) (value : String)
    (rest : List String) :
    coerceFrom name position kinds (value :: rest) =
      match (kinds.getD 0 .text).coerce value with
      | none => .error (.notOfKind name position value (kinds.getD 0 .text))
      | some arg => do
        let args ← coerceFrom name (position + 1) kinds.tail rest
        return arg :: args := by
  cases kinds <;> rfl

/-- If texts are turned into arguments, then each text into the argument at its position. -/
lemma getElem?_of_coerceFrom (h : coerceFrom name position kinds raw = .ok args) :
    args.length = raw.length ∧
      ∀ i, args[i]? = raw[i]?.bind (kinds.getD i .text).coerce := by
  induction raw generalizing kinds position args with
  | nil =>
    cases h
    exact ⟨rfl, fun i => rfl⟩
  | cons value rest ih =>
    rw [coerceFrom_cons] at h
    cases hvalue : (kinds.getD 0 .text).coerce value with
    | none =>
      rw [hvalue] at h
      cases h
    | some arg =>
      rw [hvalue] at h
      obtain ⟨more, hmore, hcons⟩ := exists_of_bind_eq_ok h
      cases hcons
      obtain ⟨hlength, hrest⟩ := ih hmore
      refine ⟨congrArg Nat.succ hlength, fun i => ?_⟩
      cases i with
      | zero => exact hvalue.symm
      | succ i => exact (hrest i).trans (by rw [getD_tail, List.getElem?_cons_succ])

/-- If each text is of the kind of its position, they are all turned into arguments. -/
lemma exists_coerceFrom (name : String) (position : Nat)
    (h : ∀ i value, raw[i]? = some value → (kinds.getD i .text).coerce value ≠ none) :
    ∃ args, coerceFrom name position kinds raw = .ok args := by
  induction raw generalizing kinds position with
  | nil => exact ⟨[], rfl⟩
  | cons value rest ih =>
    have hrest : ∀ i value, rest[i]? = some value →
        (kinds.tail.getD i .text).coerce value ≠ none := by
      intro i other hother
      rw [getD_tail]
      exact h (i + 1) other hother
    obtain ⟨arg, harg⟩ := Option.ne_none_iff_exists'.1 (h 0 value rfl)
    obtain ⟨args, hargs⟩ := ih (position + 1) hrest
    exact ⟨arg :: args, by rw [coerceFrom_cons, harg, hargs]; rfl⟩

/-- The first text that is not of the kind of its position is the error. -/
lemma coerceFrom_of_first (name : String) (position : Nat) {value : String} {i : Nat}
    (hvalue : raw[i]? = some value) (hfails : (kinds.getD i .text).coerce value = none)
    (hbefore : ∀ j < i, ∀ value, raw[j]? = some value →
      (kinds.getD j .text).coerce value ≠ none) :
    coerceFrom name position kinds raw =
      .error (.notOfKind name (position + i) value (kinds.getD i .text)) := by
  induction i generalizing kinds position raw with
  | zero =>
    obtain ⟨rest, rfl⟩ : ∃ rest, raw = value :: rest := by
      cases raw with
      | nil => cases hvalue
      | cons first rest =>
        cases hvalue
        exact ⟨rest, rfl⟩
    rw [coerceFrom_cons, hfails]
    rfl
  | succ i ih =>
    cases raw with
    | nil => cases hvalue
    | cons first rest =>
      obtain ⟨arg, harg⟩ :=
        Option.ne_none_iff_exists'.1 (hbefore 0 (Nat.succ_pos i) first rfl)
      have hlater : ∀ j < i, ∀ value, rest[j]? = some value →
          (kinds.tail.getD j .text).coerce value ≠ none := by
        intro j hj other hother
        rw [getD_tail]
        exact hbefore (j + 1) (Nat.succ_lt_succ hj) other hother
      rw [← getD_tail] at hfails
      rw [coerceFrom_cons, harg, ih (position + 1) hvalue hfails hlater, getD_tail, Nat.add_assoc,
        Nat.add_comm 1]
      rfl

/-- Behind the declared kinds texts stay what they are. -/
lemma drop_of_coerceFrom (h : coerceFrom name position kinds raw = .ok args)
    (hkinds : kinds.length ≤ start) : args.drop start = (raw.drop start).map .text := by
  obtain ⟨-, heach⟩ := getElem?_of_coerceFrom h
  refine List.ext_getElem? fun i => ?_
  have hkind : kinds.getD (start + i) .text = .text := by
    rw [List.getD_eq_getElem?_getD, List.getElem?_eq_none (by omega)]
    rfl
  rw [List.getElem?_drop, heach, hkind, List.getElem?_map, List.getElem?_drop]
  cases raw[start + i]? <;> rfl

/-- Texts are turned into arguments exactly if each is of the kind of its position. -/
theorem exists_coerceAll_iff :
    (∃ arguments, command.coerceAll name raw = .ok arguments) ↔
      ∀ i value, raw[i]? = some value → (command.kindAt i).coerce value ≠ none := by
  constructor
  · rintro ⟨arguments, h⟩ i value hvalue hfails
    obtain ⟨items, hitems, -⟩ := exists_of_bind_eq_ok h
    obtain ⟨hlength, heach⟩ := getElem?_of_coerceFrom hitems
    have hnone : items[i]? = none := by
      rw [heach, hvalue, Option.bind_some]
      exact hfails
    have hlt : i < raw.length := (List.getElem?_eq_some_iff.1 hvalue).1
    exact absurd (List.getElem?_eq_none_iff.1 hnone) (by omega)
  · intro h
    obtain ⟨items, hitems⟩ := exists_coerceFrom name 0 h
    exact ⟨⟨name, items⟩, by rw [coerceAll, hitems]; rfl⟩

/-- The error names the first text that is not of the kind of its position. -/
theorem coerceAll_of_first {value : String} {i : Nat} (hvalue : raw[i]? = some value)
    (hfails : (command.kindAt i).coerce value = none)
    (hbefore : ∀ j < i, ∀ value, raw[j]? = some value →
      (command.kindAt j).coerce value ≠ none) :
    command.coerceAll name raw = .error (.notOfKind name i value (command.kindAt i)) := by
  have herror := coerceFrom_of_first name 0 hvalue hfails hbefore
  rw [coerceAll, herror, Nat.zero_add]
  rfl

/-- The texts of a command that declares a kind for the first one only. -/
lemma coerceAll_cons {kind : Kind} (hkinds : command.kinds = [kind]) {value : String}
    {arg : Argument} (hvalue : kind.coerce value = some arg) (rest : List String) :
    command.coerceAll name (value :: rest) = .ok ⟨name, arg :: rest.map .text⟩ := by
  rw [coerceAll, hkinds, coerceFrom_cons]
  simp only [List.getD_cons_zero, hvalue, List.tail_cons, coerceFrom_nil]
  rfl

/-- The command and the arguments that are handed over are the texts behind a position, if no kind
is declared there. -/
theorem forward_of_coerceAll {arguments : Arguments} {target : String} {rest : List String}
    (h : command.coerceAll name raw = .ok arguments) (hkinds : command.kinds.length ≤ start)
    (hrest : raw.drop start = target :: rest) : arguments.forward start = .ok (target, rest) := by
  obtain ⟨items, hitems, hmade⟩ := exists_of_bind_eq_ok h
  cases hmade
  have htexts : (items.drop start).map Argument.display = target :: rest := by
    rw [drop_of_coerceFrom hitems hkinds, hrest, List.map_map]
    exact List.map_id (target :: rest)
  rw [Arguments.forward, Arguments.rest, htexts]

end Command

/-! ### Calls whose arguments are accepted -/

namespace Engine

variable {s : Session} {name : String}

/-- A call of a command whose arguments are accepted.  Unless the limit on active calls is reached,
the body is run as one more active call, and the value that it gives is taken in. -/
def called (name : String) (body : Engine (Option Item)) : Engine Unit := fun s =>
  if s.maxDepth ≤ s.depth then (.failed (.frame (.callDepth s.maxDepth name)), s)
  else Engine.bind (Guard.call.run body) receive s

/-- The call of the command that a name stands for, with arguments that are accepted. -/
lemma dispatch_eq_called {package : Package} {command : Command} {args : List String}
    {arguments : Arguments} (hresolve : s.packages.resolve? name = some (package, command))
    (harity : command.checkArity name args.length = .ok ())
    (hcoerce : command.coerceAll name args = .ok arguments) (fuel : Nat) (exec : Exec) :
    dispatch fuel exec name args s =
      called name (runBody fuel exec package.name arguments command.body) s := by
  have hcall := resolveCall_of_resolve? hresolve args
  rw [dispatch, dispatch_eq_callWith, called]
  by_cases hfull : s.maxDepth ≤ s.depth
  · have haccept : accept command name args s = .error (.frame (.callDepth s.maxDepth name)) := by
      rw [accept, harity, hcoerce]
      exact if_pos hfull
    rw [haccept] at hcall
    rw [if_pos hfull, callWith_of_error _ hcall]
  · have haccept : accept command name args s = .ok arguments := by
      rw [accept, harity, hcoerce]
      exact if_neg hfull
    rw [haccept] at hcall
    rw [if_neg hfull, callWith_of_ok _ hcall]

/-- The call of a built-in command. -/
lemma dispatch_builtin (hnative : s.packages.native = nativePackage) {command : Command}
    (hfind : nativePackage.commands.find? name = some command) {args : List String}
    {arguments : Arguments} (harity : command.checkArity name args.length = .ok ())
    (hcoerce : command.coerceAll name args = .ok arguments) (fuel : Nat) (exec : Exec) :
    dispatch fuel exec name args s =
      called name (runBody fuel exec nativeName arguments command.body) s := by
  rw [← hnative] at hfind
  have hresolve := PackageSet.resolve?_of_native hfind
  rw [hnative] at hresolve
  exact dispatch_eq_called hresolve harity hcoerce fuel exec

/-- A body that gives no value leaves nothing to be taken in. -/
lemma called_of_no_value (action : Engine Unit) (hroom : s.depth < s.maxDepth) :
    called name (do action; return none) s =
      action.cleanup (fun t => { t with depth := t.depth - 1 })
        { s with depth := s.depth + 1 } := by
  rw [called, if_neg (Nat.not_le.2 hroom)]
  change Engine.bind (cleanup (Engine.bind action _) _) receive { s with depth := s.depth + 1 } = _
  simp only [Engine.bind, cleanup]
  rcases action { s with depth := s.depth + 1 } with ⟨a | e | p | r, t⟩ <;> rfl

end Engine

/-! ### What is done with the command that is handed over -/

/-- A built-in command that hands over a call, with its own arguments. -/
inductive Forwarder
  | repeatTimes (times : Nat)
  | whileTrue (line : String)
  | ifTrue (test : Bool)
  | unlessTrue (test : Bool)
  | catching
  | async
  | isolated
  | scoped
  | globally
  | alias (name : String)
  | call (name : String)
  | action (name : String)

namespace Forwarder

/-- The name of the command. -/
def name : Forwarder → String
  | .repeatTimes _ => "repeat"
  | .whileTrue _ => "while"
  | .ifTrue _ => "if"
  | .unlessTrue _ => "unless"
  | .catching => "catch"
  | .async => "async"
  | .isolated => "isolated"
  | .scoped => "scoped"
  | .globally => "globally"
  | .alias _ => "alias"
  | .call _ => "#call"
  | .action _ => "#action"

/-- Some texts write the command's own arguments. -/
def Leads : Forwarder → List String → Prop
  | .repeatTimes times, leading =>
    ∃ count, leading = [count] ∧ Kind.int.coerce count = some (.int times)
  | .ifTrue test, leading | .unlessTrue test, leading =>
    ∃ text, leading = [text] ∧ Kind.bool.coerce text = some (.bool test)
  | .whileTrue text, leading | .alias text, leading | .call text, leading
  | .action text, leading => leading = [text]
  | _, leading => leading = []

/-- What is done with a target and its texts: they are called, or put away as they are. -/
def run (fuel : Nat) (exec : Exec) (target : String) (texts : List String) :
    Forwarder → Engine (Option Item)
  | .repeatTimes times => do
    Builtin.callTimes (exec target texts) times
    return none
  | .whileTrue line => do
    Builtin.callWhile (Builtin.condition exec line) (exec target texts) fuel
    return none
  | .ifTrue test => do
    if test then exec target texts
    return none
  | .unlessTrue test => do
    unless test do exec target texts
    return none
  | .catching => return some (.bool (← Engine.supervise target (exec target texts)))
  | .async => do
    let (id, out, err) ← Engine.startJob exec target texts
    Engine.modify (·.sayLine ("[" ++ Text.decimal id ++ "] started"))
    Engine.addOutput out err
    return none
  | .isolated => do
    Engine.isolated (exec target texts)
    return none
  | .scoped => do
    Engine.temporaryScope (exec target texts)
    return none
  | .globally => do
    Engine.inGlobal (exec target texts)
    return none
  | .alias name => do
    Engine.registerCustom name (Builtin.aliasCommand name target texts)
    return none
  | .call name => do
    Engine.defineMacro name (.call target texts)
    return none
  | .action name => do
    Engine.defineMacro name (.action target texts)
    return none

/-- The command itself, as it stands in the tables. -/
def command : Forwarder → Command
  | .repeatTimes _ => Builtin.controlCommands[2].2
  | .whileTrue _ => Builtin.controlCommands[3].2
  | .ifTrue _ => Builtin.controlCommands[4].2
  | .unlessTrue _ => Builtin.controlCommands[5].2
  | .catching => Builtin.controlCommands[7].2
  | .async => Builtin.controlCommands[8].2
  | .isolated => Builtin.memoryCommands[13].2
  | .scoped => Builtin.scopeCommands[8].2
  | .globally => Builtin.scopeCommands[9].2
  | .call _ => Builtin.macroCommands[1].2
  | .action _ => Builtin.macroCommands[2].2
  | .alias _ => Builtin.macroCommands[5].2

/-- The command's own arguments. -/
def own : Forwarder → List Argument
  | .repeatTimes times => [.int times]
  | .ifTrue test | .unlessTrue test => [.bool test]
  | .whileTrue text | .alias text | .call text | .action text => [.text text]
  | _ => []

/-- Which built-in command it is. -/
def builtin : Forwarder → Builtin
  | .repeatTimes _ => .control .repeatTimes
  | .whileTrue _ => .control .whileTrue
  | .ifTrue _ => .control .ifTrue
  | .unlessTrue _ => .control .unlessTrue
  | .catching => .control .catching
  | .async => .control .async
  | .isolated => .memory .isolated
  | .scoped => .scope .scoped
  | .globally => .scope .globally
  | .alias _ => .macros .alias
  | .call _ => .macros .call
  | .action _ => .macros .action

variable {s : Session} {f : Forwarder} {leading : List String}

/-- The name of the command stands for it in the native package. -/
lemma find?_command (f : Forwarder) :
    nativePackage.commands.find? f.name = some f.command := by
  have hall : ∀ entry ∈ [Builtin.controlCommands[2], Builtin.controlCommands[3],
      Builtin.controlCommands[4], Builtin.controlCommands[5], Builtin.controlCommands[7],
      Builtin.controlCommands[8], Builtin.memoryCommands[13], Builtin.scopeCommands[8],
      Builtin.scopeCommands[9]],
        nativePackage.commands.find? entry.1 = some entry.2 := by
    decide +kernel
  have hmacros : ∀ (i : Nat) (h : i < Builtin.macroCommands.length),
      nativePackage.commands.find? Builtin.macroCommands[i].1 =
        some Builtin.macroCommands[i].2 :=
    fun i h => Session.find?_macroCommands (List.getElem_mem h)
  cases f with
  | repeatTimes => exact hall Builtin.controlCommands[2] (by simp)
  | whileTrue => exact hall Builtin.controlCommands[3] (by simp)
  | ifTrue => exact hall Builtin.controlCommands[4] (by simp)
  | unlessTrue => exact hall Builtin.controlCommands[5] (by simp)
  | catching => exact hall Builtin.controlCommands[7] (by simp)
  | async => exact hall Builtin.controlCommands[8] (by simp)
  | isolated => exact hall Builtin.memoryCommands[13] (by simp)
  | «scoped» => exact hall Builtin.scopeCommands[8] (by simp)
  | globally => exact hall Builtin.scopeCommands[9] (by simp)
  | call => exact hmacros 1 (by decide)
  | action => exact hmacros 2 (by decide)
  | «alias» => exact hmacros 5 (by decide)

/-- There is no upper limit to the number of texts, and a target is enough. -/
lemma checkArity_command (h : f.Leads leading) (target : String) (texts : List String) :
    f.command.checkArity f.name (leading ++ target :: texts).length = .ok () := by
  have hmost : f.command.most = none := by cases f <;> rfl
  have hleast : f.command.least = leading.length + 1 := by
    cases f with
    | repeatTimes | ifTrue | unlessTrue =>
      obtain ⟨text, rfl, -⟩ := h
      rfl
    | _ =>
      obtain rfl := h
      rfl
  have henough : ¬ (leading ++ target :: texts).length < f.command.least := by
    rw [hleast, List.length_append, List.length_cons]
    omega
  rw [Command.checkArity, if_neg henough, hmost]

/-- The texts of a call are turned into the command's own arguments and texts. -/
lemma coerceAll_command (h : f.Leads leading) (texts : List String) :
    f.command.coerceAll f.name (leading ++ texts) = .ok ⟨f.name, f.own ++ texts.map .text⟩ := by
  cases f with
  | repeatTimes | ifTrue | unlessTrue =>
    obtain ⟨text, rfl, htext⟩ := h
    exact Command.coerceAll_cons rfl htext texts
  | _ =>
    obtain rfl := h
    exact Command.coerceAll_of_kinds_eq_nil rfl _ _

lemma body_command (f : Forwarder) : f.command.body = .builtin f.builtin := by
  cases f <;> rfl

/-- The body does what is said of the command. -/
lemma runBody_command (f : Forwarder) (fuel : Nat) (exec : Exec) (package target : String)
    (texts : List String) :
    Engine.runBody fuel exec package ⟨f.name, f.own ++ (target :: texts).map .text⟩
      f.command.body = f.run fuel exec target texts := by
  obtain ⟨args, hargs⟩ : ∃ args : Arguments,
      args = ⟨f.name, f.own ++ (target :: texts).map .text⟩ := ⟨_, rfl⟩
  have hforward : args.forward f.own.length = .ok (target, texts) := by
    have hrest : args.rest f.own.length = target :: texts := by
      rw [hargs, Arguments.rest, List.drop_left, List.map_map]
      exact List.map_id (target :: texts)
    rw [Arguments.forward, hrest]
  have hvalue : ∀ {α : Type} (a : α), Engine.ofExcept (.ok a) = pure a := fun a => rfl
  rw [← hargs, body_command]
  change Engine.runBuiltin fuel exec args f.builtin = _
  cases f with
  | repeatTimes times =>
    have hint : args.int 0 = .ok times := by rw [hargs]; rfl
    have hbehind : args.forward 1 = .ok (target, texts) := hforward
    have hpos : ¬ (times : Int) < 0 := by omega
    simp only [builtin, Engine.runBuiltin, Builtin.runControl, hint, hbehind, hvalue, pure_bind,
      hpos, if_false]
    rfl
  | whileTrue line =>
    have htext : args.text 0 = .ok line := by rw [hargs]; rfl
    have hbehind : args.forward 1 = .ok (target, texts) := hforward
    simp only [builtin, Engine.runBuiltin, Builtin.runControl, htext, hbehind, hvalue, pure_bind,
      run]
  | ifTrue test | unlessTrue test =>
    have hbool : args.bool 0 = .ok test := by rw [hargs]; rfl
    have hbehind : args.forward 1 = .ok (target, texts) := hforward
    simp only [builtin, Engine.runBuiltin, Builtin.runControl, hbool, hbehind, hvalue, pure_bind,
      run]
  | catching | async | isolated | «scoped» | globally =>
    have hbehind : args.forward 0 = .ok (target, texts) := hforward
    simp only [builtin, Engine.runBuiltin, Builtin.runControl, Builtin.runMemory,
      Builtin.runScope, hbehind, hvalue, pure_bind, run]
  | «alias» name =>
    have htext : args.text 0 = .ok name := by rw [hargs]; rfl
    have hbehind : args.forward 1 = .ok (target, texts) := hforward
    simp only [builtin, Engine.runBuiltin, Builtin.runMacros, htext, hbehind, hvalue, pure_bind,
      run]
  | call name | action name =>
    have htext : args.text 0 = .ok name := by rw [hargs]; rfl
    have hbehind : args.forward 1 = .ok (target, texts) := hforward
    simp only [builtin, Engine.runBuiltin, Builtin.runMacros, htext, hbehind, hvalue, pure_bind,
      run]

/-- A call of a forwarder, in a session with the built-in commands: what is done with the target
is done with the very texts of the call. -/
theorem dispatch_eq (hnative : s.packages.native = nativePackage) (h : f.Leads leading)
    (fuel : Nat) (exec : Exec) (target : String) (texts : List String) :
    Engine.dispatch fuel exec f.name (leading ++ target :: texts) s =
      Engine.called f.name (f.run fuel exec target texts) s := by
  have hcall := Engine.dispatch_builtin hnative f.find?_command (checkArity_command h target texts)
    (coerceAll_command h (target :: texts)) fuel exec
  rw [hcall, runBody_command]

end Forwarder

end LineShell

import LineShell.Proofs.Decimal
import LineShell.Proofs.Forwarding

/-!
# Texts reach their command as they are

Between the call of a command and the command that it is meant for there may be commands that hand
it over, macros, aliases of aliases and scripts.  None of them changes the texts.  For the built-in
commands that hand over a call this is `Forwarder.dispatch_eq`.  Aliases call one another through a
chain (`PackageSet.AliasChain`); each link puts its fixed arguments before those it is called with.
A script finds its arguments as variables: these are named by numbers, which are never written
alike, so that none takes the place of another.

`Engine.texts_are_handed_over` puts this together.
-/

namespace LineShell

/-! ### Variables for the arguments of a script -/

namespace Scopes

/-- A variable that was stored has its value. -/
lemma load?_store (scopes : Scopes) (name value : String) :
    (scopes.store name value).load? name = some value := by
  unfold store modifyActive load?
  by_cases hglobal : scopes.globalActive = true
  · simp [hglobal, NameMap.find?_insert]
  · simp [hglobal, NameMap.find?_insert]

/-- The other variables have the values that they had. -/
lemma load?_store_of_ne (scopes : Scopes) {name other : String} (value : String)
    (hne : other ≠ name) : (scopes.store name value).load? other = scopes.load? other := by
  unfold store modifyActive load?
  by_cases hglobal : scopes.globalActive = true
  · simp [hglobal, NameMap.find?_insert_of_ne hne]
  · simp [hglobal, NameMap.find?_insert_of_ne hne]

/-- The scopes with variables for some texts, which are named by numbers from one on. -/
def storeFrom (scopes : Scopes) (start : Nat) (texts : List String) : Scopes :=
  (texts.zipIdx start).foldl (fun scopes (value, index) =>
    scopes.store (Text.decimal index) value) scopes

variable {texts : List String} {start : Nat}

lemma storeFrom_cons (scopes : Scopes) (start : Nat) (text : String) (rest : List String) :
    scopes.storeFrom start (text :: rest) =
      (scopes.store (Text.decimal start) text).storeFrom (start + 1) rest := rfl

/-- A variable with another name keeps its value. -/
lemma load?_storeFrom_of_ne (scopes : Scopes) {name : String}
    (hne : ∀ i < texts.length, name ≠ Text.decimal (start + i)) :
    (scopes.storeFrom start texts).load? name = scopes.load? name := by
  induction texts generalizing scopes start with
  | nil => rfl
  | cons text rest ih =>
    have hrest : ∀ i < rest.length, name ≠ Text.decimal (start + 1 + i) := by
      intro i hi
      rw [Nat.add_assoc, Nat.add_comm 1]
      exact hne (i + 1) (Nat.succ_lt_succ hi)
    rw [storeFrom_cons, ih _ hrest]
    exact load?_store_of_ne scopes text (hne 0 (Nat.succ_pos _))

/-- The variable of each text has it as its value: those stored later have other names. -/
lemma load?_storeFrom (scopes : Scopes) {i : Nat} {value : String} (h : texts[i]? = some value) :
    (scopes.storeFrom start texts).load? (Text.decimal (start + i)) = some value := by
  induction texts generalizing scopes start i with
  | nil => cases h
  | cons text rest ih =>
    rw [storeFrom_cons]
    cases i with
    | zero =>
      cases h
      rw [load?_storeFrom_of_ne]
      · exact load?_store scopes _ _
      · intro i _ hsame
        have hnumber := Text.decimal_injective hsame
        omega
    | succ i =>
      rw [Nat.add_comm i 1, ← Nat.add_assoc]
      exact ih (scopes.store (Text.decimal start) text) h

end Scopes

namespace Engine

open Scopes

variable {args : List String}

/-- The count of the arguments is not named by a number. -/
lemma argc_ne_decimal (n : Nat) : Text.decimal n ≠ "argc" :=
  Text.decimal_ne ⟨'a', by decide, by decide⟩ n

/-- The arguments of a script are numbered from one on. -/
lemma bindPositional_eq (scopes : Scopes) (args : List String) :
    bindPositional scopes args =
      (scopes.storeFrom 1 args).store "argc" (Text.decimal args.length) := rfl

/-- Each argument of a script is the value of the variable that is named by its number. -/
lemma load?_bindPositional (scopes : Scopes) {i : Nat} {value : String}
    (h : args[i]? = some value) :
    (bindPositional scopes args).load? (Text.decimal (i + 1)) = some value := by
  rw [bindPositional_eq, load?_store_of_ne _ _ (argc_ne_decimal _), Nat.add_comm]
  exact load?_storeFrom scopes h

/-- Variables with other names are as they were. -/
lemma load?_bindPositional_of_ne (scopes : Scopes) {name : String} (hcount : name ≠ "argc")
    (hne : ∀ i < args.length, name ≠ Text.decimal (i + 1)) :
    (bindPositional scopes args).load? name = scopes.load? name := by
  rw [bindPositional_eq, load?_store_of_ne _ _ hcount]
  refine load?_storeFrom_of_ne scopes fun i hi => ?_
  rw [Nat.add_comm]
  exact hne i hi

end Engine

/-! ### Chains of aliases -/

/-- From a name one comes to a target by following aliases.  The fixed arguments of the aliases on
the way are listed in their order. -/
inductive PackageSet.AliasChain (set : PackageSet) : String → List (List String) → String → Prop
  | target (name : String) : AliasChain set name [] name
  | link {name next last label : String} {fixed : List String} {more : List (List String)}
      {package : Package}
      (hlink : set.resolve? name = some (package, Builtin.aliasCommand label next fixed))
      (hrest : AliasChain set next more last) : AliasChain set name (fixed :: more) last

namespace Engine

variable {s : Session} {name : String}

/-- A command without declared kinds and limits accepts all texts as they are. -/
lemma dispatch_any {package : Package} {body : Body} {description usage : String}
    (hresolve : s.packages.resolve? name = some (package, .any body description usage))
    (fuel : Nat) (exec : Exec) (args : List String) :
    dispatch fuel exec name args s =
      called name (runBody fuel exec package.name ⟨name, args.map .text⟩ body) s :=
  dispatch_eq_called hresolve rfl (Command.coerceAll_of_kinds_eq_nil rfl name args) fuel exec

/-- The texts of arguments that are texts. -/
lemma rest_texts (name : String) (args : List String) :
    Arguments.rest ⟨name, args.map .text⟩ 0 = args := by
  rw [Arguments.rest, List.drop_zero, List.map_map]
  exact List.map_id args

/-- An alias calls its target with the fixed arguments before those that it is called with. -/
lemma dispatch_alias {package : Package} {label next : String} {fixed : List String}
    (hresolve : s.packages.resolve? name =
      some (package, Builtin.aliasCommand label next fixed))
    (fuel : Nat) (exec : Exec) (args : List String) :
    dispatch fuel exec name args s =
      called name (do exec next (fixed ++ args); return none) s := by
  rw [dispatch_any hresolve, runBody, Host.runBody, rest_texts]

/-- As long as the limit on active calls is not reached, a chain of aliases calls its target, with
the fixed arguments of all aliases, those of the last one first, before the arguments of the
caller. -/
lemma execute_of_aliasChain {fixed : List (List String)} {target : String}
    (h : s.packages.AliasChain name fixed target) (hroom : s.depth + fixed.length ≤ s.maxDepth)
    (fuel : Nat) (args : List String) :
    execute (fuel + fixed.length) name args s =
      (execute fuel target (fixed.reverse.flatten ++ args)).cleanup
        (fun t => { t with depth := t.depth - fixed.length })
        { s with depth := s.depth + fixed.length } := by
  obtain ⟨set, hset⟩ : ∃ set, set = s.packages := ⟨_, rfl⟩
  rw [← hset] at h
  induction h generalizing s args with
  | target name =>
    change execute fuel name args s = cleanup (execute fuel name args) _ s
    rw [cleanup]
    rcases execute fuel name args s with ⟨a | e | p | r, t⟩ <;> rfl
  | @link name next last label first more package hlink _ ih =>
    subst hset
    rw [List.length_cons] at hroom
    have hcall : execute (fuel + (first :: more).length) name args s =
        (execute (fuel + more.length) next (first ++ args)).cleanup
          (fun t => { t with depth := t.depth - 1 }) { s with depth := s.depth + 1 } := by
      change dispatch (fuel + more.length) (execute (fuel + more.length)) name args s = _
      rw [dispatch_alias hlink, called_of_no_value _ (by omega)]
    have hnext := ih (s := { s with depth := s.depth + 1 }) (by dsimp only; omega) (first ++ args)
      rfl
    have htexts : (first :: more).reverse.flatten ++ args =
        more.reverse.flatten ++ (first ++ args) := by
      simp
    rw [hcall, htexts, cleanup, hnext]
    -- the calls on the way are taken back one by one, and all at once
    have hdepth : s.depth + 1 + more.length = s.depth + (first :: more).length := by
      rw [List.length_cons]
      omega
    simp only [cleanup, hdepth]
    rcases execute fuel last _ _ with ⟨a | e | p | r, t⟩ <;>
      simp [Nat.sub_sub]

/-- If the limit is reached on the way, the call fails there, and nothing else happens. -/
lemma execute_of_long_aliasChain {fixed : List (List String)} {target : String}
    (h : s.packages.AliasChain name fixed target) (hdepth : s.depth ≤ s.maxDepth)
    (hlong : s.maxDepth < s.depth + fixed.length) (fuel : Nat) (args : List String) :
    ∃ link, execute (fuel + fixed.length) name args s =
      (.failed (.frame (.callDepth s.maxDepth link)), s) := by
  obtain ⟨set, hset⟩ : ∃ set, set = s.packages := ⟨_, rfl⟩
  rw [← hset] at h
  induction h generalizing s args with
  | target name => exact absurd hlong (Nat.not_lt.2 hdepth)
  | @link name next last label first more package hlink _ ih =>
    subst hset
    rw [List.length_cons] at hlong
    have hcall : execute (fuel + (first :: more).length) name args s =
        called name (do execute (fuel + more.length) next (first ++ args); return none) s := by
      change dispatch (fuel + more.length) (execute (fuel + more.length)) name args s = _
      rw [dispatch_alias hlink]
    by_cases hfull : s.maxDepth ≤ s.depth
    · exact ⟨name, by rw [hcall, called, if_pos hfull]⟩
    · obtain ⟨link, hlater⟩ := ih (s := { s with depth := s.depth + 1 }) (by dsimp only; omega)
        (by dsimp only; omega) (first ++ args) rfl
      refine ⟨link, ?_⟩
      rw [hcall, called_of_no_value _ (by omega), cleanup, hlater]
      rfl

/-! ### What is put away, and scripts -/

/-- What was done by a call that returned without giving a value. -/
lemma exists_of_called_done {action : Engine Unit} {t : Session}
    (h : called name (do action; return none) s = (.done (), t)) :
    ∃ u, action { s with depth := s.depth + 1 } = (.done (), u) ∧
      t = { u with depth := u.depth - 1 } := by
  by_cases hfull : s.maxDepth ≤ s.depth
  · rw [called, if_pos hfull] at h
    cases h
  · rw [called_of_no_value _ (Nat.not_le.1 hfull), cleanup] at h
    rcases hrun : action { s with depth := s.depth + 1 } with ⟨a | e | p | r, u⟩ <;>
      rw [hrun] at h <;> cases h
    exact ⟨u, rfl, rfl⟩

/-- What a macro was defined as is found under its name. -/
lemma find?_of_defineMacro {u : Session} {label : String} {body : Macro}
    (h : defineMacro label body s = (.done (), u)) : u.macros.find? label = some body := by
  rw [defineMacro, ofExcept_bind_apply] at h
  split at h <;> cases h
  exact NameMap.find?_insert _ _ _

/-- So is a command among the custom ones. -/
lemma find?_of_registerCustom {u : Session} {label : String} {command : Command}
    (h : registerCustom label command s = (.done (), u)) :
    u.packages.custom.commands.find? label = some command := by
  rw [registerCustom, ofExcept_bind_apply] at h
  split at h <;> cases h
  exact NameMap.find?_insert _ _ _

/-- A command that is made of a script runs it in a temporary scope with the variables for its
arguments. -/
lemma dispatch_script {package : Package} {label description text : String}
    (hresolve : s.packages.resolve? name = some (package, Script.command text description label))
    (hroom : s.depth < s.maxDepth) {mark : TemporaryMark} {opened : Scopes}
    (hbegin : s.scopes.beginTemporary = .ok (mark, opened)) (fuel : Nat) (exec : Exec)
    (args : List String) :
    dispatch fuel exec name args s =
      (runScript exec text).cleanup
        (fun t => { t with scopes := t.scopes.endTemporary mark, depth := t.depth - 1 })
        { s with scopes := bindPositional opened args, depth := s.depth + 1 } := by
  have hlocal : ¬ s.scopes.globalActive = true := by
    intro hglobal
    obtain ⟨_, hopened, -⟩ := exists_of_bind_eq_ok hbegin
    rw [Scopes.enterScope, if_pos hglobal] at hopened
    cases hopened
  have hrun : runScriptCommand exec text args { s with depth := s.depth + 1 } =
      (runScript exec text).cleanup
        (fun t => { t with scopes := t.scopes.endTemporary mark })
        { s with scopes := bindPositional opened args, depth := s.depth + 1 } := by
    change (if s.scopes.globalActive = true then fail (.scope .scriptInGlobal) else
      temporaryScope _) { s with depth := s.depth + 1 } = _
    rw [if_neg hlocal, temporaryScope]
    simp only [hbegin]
    rfl
  rw [dispatch_any hresolve, runBody, Host.runBody, rest_texts, called_of_no_value _ hroom, cleanup,
    hrun]
  simp only [cleanup]
  rcases runScript exec text _ with ⟨a | e | p | r, t⟩ <;> rfl

/-- In every session with the built-in commands, texts are handed over as they are.

A list of texts is turned into arguments exactly if each text is of the kind of its position, and
the error names the first one that is not.  Behind the declared kinds a command and its arguments
are taken out again as they were.  So each built-in command that hands over a call does with the
target and its texts what `Forwarder.run` says, and what is put away by an alias or a macro is the
call that was given, which is made when the macro is expanded.

A chain of aliases calls its target with the fixed arguments of all aliases before those of the
caller, unless it is too long for the limit on active calls, which is the error then.  A script
finds its arguments in the variables that are named by their numbers, and their number in another
one; all other variables are as they were. -/
theorem texts_are_handed_over (hnative : s.packages.native = nativePackage) (fuel : Nat)
    (exec : Exec) :
    (∀ (command : Command) (name : String) (raw : List String),
      ((∃ arguments, command.coerceAll name raw = .ok arguments) ↔
        ∀ i value, raw[i]? = some value → (command.kindAt i).coerce value ≠ none) ∧
      (∀ i value, raw[i]? = some value → (command.kindAt i).coerce value = none →
        (∀ j < i, ∀ earlier, raw[j]? = some earlier →
          (command.kindAt j).coerce earlier ≠ none) →
        command.coerceAll name raw = .error (.notOfKind name i value (command.kindAt i))) ∧
      ∀ arguments start, command.coerceAll name raw = .ok arguments →
        command.kinds.length ≤ start → ∀ hstart : start < raw.length,
          arguments.forward start = .ok (raw[start], raw.drop (start + 1))) ∧
    (∀ (f : Forwarder) leading target texts, f.Leads leading →
      dispatch fuel exec f.name (leading ++ target :: texts) s =
        called f.name (f.run fuel exec target texts) s) ∧
    (∀ label target texts t,
      (dispatch fuel exec "alias" (label :: target :: texts) s = (.done (), t) →
        t.packages.custom.commands.find? label =
          some (Builtin.aliasCommand label target texts)) ∧
      (dispatch fuel exec "#call" (label :: target :: texts) s = (.done (), t) →
        t.macros.find? label = some (.call target texts)) ∧
      (dispatch fuel exec "#action" (label :: target :: texts) s = (.done (), t) →
        t.macros.find? label = some (.action target texts))) ∧
    (∀ label target texts,
      produce exec label (.call target texts) =
        (isolated do
          exec target texts
          return (← popItem).display).whenEmpty
            (.raised ("macro '" ++ label ++ "' produced no value")) ∧
      produce exec label (.action target texts) = do
        exec target texts
        return "") ∧
    (∀ name fixed target, s.packages.AliasChain name fixed target → ∀ args,
      (s.depth + fixed.length ≤ s.maxDepth →
        execute (fuel + fixed.length) name args s =
          (execute fuel target (fixed.reverse.flatten ++ args)).cleanup
            (fun t => { t with depth := t.depth - fixed.length })
            { s with depth := s.depth + fixed.length }) ∧
      (s.depth ≤ s.maxDepth → s.maxDepth < s.depth + fixed.length →
        ∃ link, execute (fuel + fixed.length) name args s =
          (.failed (.frame (.callDepth s.maxDepth link)), s))) ∧
    ∀ name package label description text mark opened,
      s.packages.resolve? name = some (package, Script.command text description label) →
      s.depth < s.maxDepth → s.scopes.beginTemporary = .ok (mark, opened) →
      ∀ args, dispatch fuel exec name args s =
          (runScript exec text).cleanup
            (fun t => { t with scopes := t.scopes.endTemporary mark, depth := t.depth - 1 })
            { s with scopes := bindPositional opened args, depth := s.depth + 1 } ∧
        (∀ i value, args[i]? = some value →
          (bindPositional opened args).load? (Text.decimal (i + 1)) = some value) ∧
        (bindPositional opened args).load? "argc" = some (Text.decimal args.length) ∧
        ∀ other, other ≠ "argc" → (∀ i < args.length, other ≠ Text.decimal (i + 1)) →
          (bindPositional opened args).load? other = opened.load? other := by
  have hforwarders : ∀ (f : Forwarder) (leading : List String), f.Leads leading →
      ∀ target texts, dispatch fuel exec f.name (leading ++ target :: texts) s =
        called f.name (f.run fuel exec target texts) s :=
    fun f leading h target texts => Forwarder.dispatch_eq hnative h fuel exec target texts
  refine ⟨fun command name raw => ⟨Command.exists_coerceAll_iff, ?_, ?_⟩,
    fun f leading target texts h => hforwarders f leading h target texts, ?_,
    fun _ _ _ => ⟨rfl, rfl⟩, ?_, ?_⟩
  · intro i value hvalue hfails hbefore
    exact Command.coerceAll_of_first hvalue hfails hbefore
  · intro arguments start hcoerce hkinds hstart
    exact Command.forward_of_coerceAll hcoerce hkinds (List.drop_eq_getElem_cons hstart)
  · intro label target texts t
    refine ⟨fun h => ?_, fun h => ?_, fun h => ?_⟩
    · have hcall := hforwarders (.alias label) [label] rfl target texts
      obtain ⟨u, hdone, rfl⟩ := exists_of_called_done (hcall.symm.trans h)
      have hfound := find?_of_registerCustom hdone
      exact hfound
    · have hcall := hforwarders (.call label) [label] rfl target texts
      obtain ⟨u, hdone, rfl⟩ := exists_of_called_done (hcall.symm.trans h)
      have hfound := find?_of_defineMacro hdone
      exact hfound
    · have hcall := hforwarders (.action label) [label] rfl target texts
      obtain ⟨u, hdone, rfl⟩ := exists_of_called_done (hcall.symm.trans h)
      have hfound := find?_of_defineMacro hdone
      exact hfound
  · intro name fixed target hchain args
    constructor
    · intro hroom
      exact execute_of_aliasChain hchain hroom fuel args
    · intro hdepth hlong
      exact execute_of_long_aliasChain hchain hdepth hlong fuel args
  · intro name package label description text mark opened hresolve hroom hbegin args
    refine ⟨dispatch_script hresolve hroom hbegin fuel exec args, ?_, ?_, ?_⟩
    · intro i value hvalue
      exact load?_bindPositional opened hvalue
    · exact Scopes.load?_store _ _ _
    · intro other hcount hne
      exact load?_bindPositional_of_ne opened hcount hne

/-- Through an alias of an alias a command is called with all fixed arguments, a blank in one of
them, in a fresh session in which the aliases were defined. -/
theorem texts_are_handed_over_through_aliases :
    let start := Session.start {} standardRegistry .empty
    let once := (execute 1 "alias" ["say", "print", " 07 "] start).2
    let s := (execute 1 "alias" ["again", "say", "b", ""] once).2
    s.packages.native = nativePackage ∧
    s.packages.AliasChain "again" [["b", ""], [" 07 "]] "print" ∧
    ∀ fuel args, execute (fuel + 2) "again" args s =
      (execute fuel "print" ([" 07 ", "b", ""] ++ args)).cleanup
        (fun t => { t with depth := t.depth - 2 }) { s with depth := s.depth + 2 } := by
  intro start once s
  have hstart : start.Untouched :=
    .built (show Session.build {} standardRegistry .empty [] [] = .ok _ from rfl)
  have honce : once.Untouched := hstart.ran (.command 1 "alias" ["say", "print", " 07 "])
  have hs : s.Untouched := honce.ran (.command 1 "alias" ["again", "say", "b", ""])
  have hcustom : ∀ {name : String} {command : Command},
      nativePackage.commands.find? name = none ∧
          s.packages.custom.commands.find? name = some command →
        s.packages.resolve? name = some (s.packages.custom, command) := by
    rintro name command ⟨hnone, hfind⟩
    rw [← hs.native_eq] at hnone
    simp [PackageSet.resolve?, PackageSet.toList, hnone, hfind]
  obtain ⟨hagain, hsay, hdepth, hmax⟩ :
      (nativePackage.commands.find? "again" = none ∧
        s.packages.custom.commands.find? "again" =
          some (Builtin.aliasCommand "again" "say" ["b", ""])) ∧
      (nativePackage.commands.find? "say" = none ∧
        s.packages.custom.commands.find? "say" =
          some (Builtin.aliasCommand "say" "print" [" 07 "])) ∧
      s.depth = 0 ∧ s.maxDepth = 256 := by
    decide +kernel
  -- from here on the session need not be looked into
  clear_value s
  have hchain : s.packages.AliasChain "again" [["b", ""], [" 07 "]] "print" :=
    .link (hcustom hagain) (.link (hcustom hsay) (.target "print"))
  refine ⟨hs.native_eq, hchain, fun fuel args => ?_⟩
  have hroom : s.depth + 2 ≤ s.maxDepth := by omega
  have hcalls := (texts_are_handed_over hs.native_eq fuel (execute fuel)).2.2.2.2.1
  exact (hcalls "again" [["b", ""], [" 07 "]] "print" hchain args).1 hroom

end Engine

end LineShell

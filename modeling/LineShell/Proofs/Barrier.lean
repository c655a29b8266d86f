import LineShell.Proofs.Forwarding

/-!
# Catching is a barrier

The command `catch` calls another command under supervision.  However that call ends, with a value,
with an error or with a crash under whatever guards, `catch` itself returns, at the depth at which
it was called, and leaves the truth value that says how it went on the active stack.  What it
returns to after the inner call is `Engine.settled`: the session that the call left, if it returned;
the same session with a report, if it failed; the session rolled back and then reported on, if it
crashed.

`Engine.catch_is_a_barrier` states this for every call in every session with room for one more.
-/

namespace LineShell

namespace Engine

variable {s : Session} {name : String} {args : List String}

/-- What supervision makes of the session in which a run ended that was begun in `s`. -/
def settled (source : String) (s : Session) : Outcome Unit × Session → Session
  | (.failed e, t) => t.errorLine (source ++ ": " ++ e.message)
  | (.crashed payload, t) =>
    (t.restore s.checkpoint).errorLine
      (source ++ ": " ++ (Error.unexpected source payload.text).message)
  | (_, t) => t

/-- A supervised run that comes to an end tells whether the action returned. -/
lemma supervise_of_ended {source : String} {action : Engine Unit}
    (h : ∀ reason, (action s).1 ≠ .halted reason) :
    supervise source action s =
      (.done (decide ((action s).1 = .done ())), settled source s (action s)) := by
  rw [supervise]
  rcases hrun : action s with ⟨a | e | p | r, t⟩
  · rfl
  · rfl
  · rfl
  · exact absurd (congrArg Prod.fst hrun) (h r)

/-- A report changes neither the number of active calls nor the frames. -/
lemma errorLine_unchanged (t : Session) (text : String) :
    (t.errorLine text).depth = t.depth ∧ (t.errorLine text).memory = t.memory := by
  have halike := alike_errorLine t text
  exact ⟨halike.depth, halike.memory⟩

/-- After a call that came to an end as many calls are active as before, once a crash is rolled
back. -/
lemma depth_settled {source : String} {fuel : Nat}
    (h : ∀ reason, (execute fuel name args s).1 ≠ .halted reason) :
    (settled source s (execute fuel name args s)).depth = s.depth := by
  have hreturned := (rule_execute rule_depth fuel).command name args s
  rcases hrun : execute fuel name args s with ⟨a | e | p | r, t⟩ <;> rw [hrun] at hreturned h
  · exact hreturned rfl
  · exact (errorLine_unchanged t _).1.trans (hreturned rfl)
  · exact (errorLine_unchanged (t.restore s.checkpoint) _).1
  · exact absurd rfl (h r)

/-- The call of `catch`: a supervised call one level deeper, whose outcome is put on the active
stack. -/
lemma execute_catch (hnative : s.packages.native = nativePackage) (hroom : s.depth < s.maxDepth)
    (fuel : Nat) (name : String) (args : List String) :
    execute (fuel + 1) "catch" (name :: args) s =
      match supervise name (execute fuel name args) { s with depth := s.depth + 1 } with
      | (.done ok, t) =>
        (.done (),
          { t with depth := t.depth - 1, memory := t.memory.modifyActive (·.receive (.bool ok)) })
      | (.failed e, t) => (.failed e, { t with depth := t.depth - 1 })
      | (.crashed payload, t) => (.crashed payload, t)
      | (.halted reason, t) => (.halted reason, t) := by
  have hleads : Forwarder.Leads .catching [] := rfl
  have hcall : execute (fuel + 1) "catch" (name :: args) s =
      called "catch" (Forwarder.run fuel (execute fuel) name args .catching) s :=
    Forwarder.dispatch_eq hnative hleads fuel (execute fuel) name args
  rw [hcall, called, if_neg (Nat.not_le.2 hroom)]
  change Engine.bind (cleanup (Engine.bind (supervise name (execute fuel name args)) _) _) receive
    { s with depth := s.depth + 1 } = _
  simp only [Engine.bind, cleanup]
  rcases supervise name (execute fuel name args) _ with ⟨ok | e | p | r, t⟩ <;> rfl

/-- In every session with the built-in commands and with room for one more active call, and for
every inner call: if the inner call comes to an end, then `catch` returns, with as many active calls
as before, and puts a truth value on the stack that is then active, unless it is locked, and
nothing else.  The value is whether the inner call returned, and if it did, then all else is what
the inner call left.  Otherwise a report of the failure comes in addition, after rolling back if the
inner call crashed.  If the inner call comes to no end, then neither does `catch`. -/
theorem catch_is_a_barrier (hnative : s.packages.native = nativePackage)
    (hroom : s.depth < s.maxDepth) (fuel : Nat) (name : String) (args : List String) :
    let inside := { s with depth := s.depth + 1 }
    let inner := execute fuel name args inside
    let outer := execute (fuel + 1) "catch" (name :: args) s
    (∀ reason, inner.1 = .halted reason → outer = (.halted reason, inner.2)) ∧
    ((∀ reason, inner.1 ≠ .halted reason) →
      ∃ ok t, outer.1 = .done () ∧ outer.2.depth = s.depth ∧
        outer.2.memory.active =
          (if t.memory.active.locked then t.memory.active else t.memory.active.push (.bool ok)) ∧
        t = { outer.2 with
          depth := s.depth + 1, memory := { outer.2.memory with active := t.memory.active } } ∧
        (ok = true ↔ inner.1 = .done ()) ∧
        (ok = true → t = inner.2) ∧
        (∀ e, inner.1 = .failed e → t = inner.2.errorLine (name ++ ": " ++ e.message)) ∧
        ∀ payload, inner.1 = .crashed payload →
          t = (inner.2.restore inside.checkpoint).errorLine
            (name ++ ": " ++ (Error.unexpected name payload.text).message)) := by
  intro inside inner outer
  have houter := execute_catch hnative hroom fuel name args
  constructor
  · intro reason hhalted
    have hinner : execute fuel name args inside = (.halted reason, inner.2) :=
      Prod.ext hhalted rfl
    have hsupervise : supervise name (execute fuel name args) inside =
        (.halted reason, inner.2) := by
      rw [supervise, hinner]
    rw [hsupervise] at houter
    exact houter
  · intro hended
    rw [supervise_of_ended hended] at houter
    obtain ⟨t, ht⟩ : ∃ t, t = settled name inside inner := ⟨_, rfl⟩
    have hdepth : t.depth = s.depth + 1 := by
      rw [ht]
      exact depth_settled hended
    have hsettled : outer = (.done (),
        { t with
          depth := s.depth
          memory := t.memory.modifyActive (·.receive (.bool (decide (inner.1 = .done ())))) }) := by
      refine houter.trans ?_
      rw [ht] at hdepth ⊢
      dsimp only
      rw [hdepth, Nat.add_sub_cancel]
    rw [hsettled]
    refine ⟨decide (inner.1 = .done ()), t, rfl, rfl, rfl, ?_, decide_eq_true_iff, ?_, ?_, ?_⟩
    · rw [← hdepth]
      rfl
    · intro hok
      rw [ht, show inner = (.done (), inner.2) from Prod.ext (of_decide_eq_true hok) rfl]
      rfl
    · intro e hfailed
      rw [ht, show inner = (.failed e, inner.2) from Prod.ext hfailed rfl]
      rfl
    · intro payload hcrashed
      rw [ht, show inner = (.crashed payload, inner.2) from Prod.ext hcrashed rfl]
      rfl

/-- A crash on frames and in a scope of its own, inside an isolated run in a temporary scope, in a
session with a package of the host. -/
theorem catch_is_a_barrier_around_crash :
    let crashing : Command := .any (.program [.openFrame, .enterScope, .crash .other]) "" ""
    let host : Package := ⟨"host", .ofList [("crash", crashing)]⟩
    let s := { Session.start {} standardRegistry .empty with
      packages := { PackageSet.ofNative nativePackage with loaded := [host] } }
    let inner := execute 4 "isolated" ["scoped", "crash"] { s with depth := s.depth + 1 }
    let outer := execute (4 + 1) "catch" ["isolated", "scoped", "crash"] s
    s.packages.native = nativePackage ∧ s.depth < s.maxDepth ∧ inner.1 = .crashed .other ∧
      (inner.2.memory.depth, inner.2.scopes.depth, inner.2.depth) = (3, 3, 4) ∧
      outer.1 = .done () ∧ outer.2.depth = s.depth ∧
      outer.2.memory.active.items = [.bool false] := by
  intro crashing host s inner outer
  have hnative : s.packages.native = nativePackage := rfl
  have hroom : s.depth < s.maxDepth := by decide
  obtain ⟨hcrashed, hopened, hempty⟩ : inner.1 = .crashed .other ∧
      (inner.2.memory.depth, inner.2.scopes.depth, inner.2.depth) = (3, 3, 4) ∧
      (inner.2.restore { s with depth := s.depth + 1 }.checkpoint).memory.active = .empty := by
    decide +kernel
  have hended : ∀ reason, inner.1 ≠ .halted reason := by
    intro reason hhalted
    rw [hcrashed] at hhalted
    cases hhalted
  have hbarrier : _ ∧ _ := catch_is_a_barrier hnative hroom 4 "isolated" ["scoped", "crash"]
  obtain ⟨ok, t, hdone, hdepth, hactive, -, hok, -, -, hrolled⟩ := hbarrier.2 hended
  -- from here on the session need not be looked into
  clear_value s
  have hfalse : ok = false := by
    rw [← Bool.not_eq_true, hok]
    intro hreturned
    rw [hcrashed] at hreturned
    cases hreturned
  have hstack : t.memory.active = .empty := by
    rw [hrolled .other hcrashed]
    exact (congrArg Memory.active (errorLine_unchanged _ _).2).trans hempty
  refine ⟨hnative, hroom, hcrashed, hopened, hdone, hdepth, ?_⟩
  rw [hactive, hstack, hfalse]
  rfl

end Engine

end LineShell

import LineShell.Proofs.Decimal
import LineShell.Proofs.Forwarding

/-!
# Repeating adds up

The command `repeat` calls another command a number of times, in the session that the call before
has left, until a call does not return.  `Engine.Rounds` is a number of calls in a row that return;
all that a repetition does is told by the rounds that it gets through and by the call, if there is
one, that ends it (`Engine.rounds_or_stop`).

So a repetition is one of a first part followed, if that returned, by one of the rest.  This goes
for whole calls of `repeat`, too (`Engine.repeat_is_additive`): what was called in between may have
changed nearly everything, but the built-in commands, the limit on active calls and the number of
active calls are what they were.
-/

namespace LineShell

namespace Engine

open Routine

variable {s t : Session} {call : Engine Unit} {n : Nat}

/-- A number of calls in a row that return, from a first session to a last one. -/
inductive Rounds (call : Engine Unit) : Nat → Session → Session → Prop
  | done (s : Session) : Rounds call 0 s s
  | next {n : Nat} {s t u : Session} (hcall : call s = (.done (), t)) (hrest : Rounds call n t u) :
      Rounds call (n + 1) s u

/-- As many rounds as are asked for, or fewer and then a call that does not return. -/
lemma rounds_or_stop (call : Engine Unit) (n : Nat) (s : Session) :
    (∃ t, Rounds call n s t ∧ Builtin.callTimes call n s = (.done (), t)) ∨
      ∃ k < n, ∃ t, Rounds call k s t ∧ (call t).1 ≠ .done () ∧
        Builtin.callTimes call n s = call t := by
  induction n generalizing s with
  | zero => exact .inl ⟨s, .done s, rfl⟩
  | succ n ih =>
    by_cases hdone : (call s).1 = .done ()
    · have hcall : call s = (.done (), (call s).2) := Prod.ext hdone rfl
      have hrest : Builtin.callTimes call (n + 1) s = Builtin.callTimes call n (call s).2 := by
        rw [callTimes_succ, bind_of_done hcall]
      rw [hrest]
      rcases ih (call s).2 with ⟨u, hrounds, hresult⟩ | ⟨k, hk, u, hrounds, hstop, hresult⟩
      · exact .inl ⟨u, .next hcall hrounds, hresult⟩
      · exact .inr ⟨k + 1, Nat.succ_lt_succ hk, u, .next hcall hrounds, hstop, hresult⟩
    · have hstops : Builtin.callTimes call (n + 1) s = call s := by
        rw [callTimes_succ, bind_of_not_done hdone]
      exact .inr ⟨0, Nat.succ_pos n, s, .done s, hdone, hstops⟩

/-- A number of calls is a first part of them, and then the rest. -/
lemma callTimes_add (call : Engine Unit) (m n : Nat) :
    Builtin.callTimes call (m + n) =
      (Builtin.callTimes call m >>= fun _ => Builtin.callTimes call n) := by
  induction m with
  | zero => rw [Nat.zero_add]; rfl
  | succ m ih => rw [Nat.succ_add, callTimes_succ, callTimes_succ, ih, bind_assoc]

/-- What calls of the interpreter that return have left alone. -/
structure Unmoved (s t : Session) : Prop where
  native : t.packages.native = s.packages.native
  maxDepth : t.maxDepth = s.maxDepth
  depth : t.depth = s.depth

/-- A call that returns leaves it alone. -/
lemma unmoved_of_done {fuel : Nat} {name : String} {args : List String}
    (h : execute fuel name args s = (.done (), t)) : Unmoved s t := by
  have hstocks := (account_stocks.execute fuel).command name args s
  have hsetup := (rule_execute rule_setup fuel).command name args s
  have hdepth := (rule_execute rule_depth fuel).command name args s
  rw [h] at hstocks hsetup hdepth
  exact ⟨hstocks.native_eq, Session.maxDepth_of_setup hsetup, hdepth rfl⟩

/-- So do rounds of such calls. -/
lemma Rounds.unmoved {fuel : Nat} {name : String} {args : List String}
    (h : Rounds (execute fuel name args) n s t) : Unmoved s t := by
  induction h with
  | done s => exact ⟨rfl, rfl, rfl⟩
  | next hcall _ ih =>
    have hfirst := unmoved_of_done hcall
    exact ⟨ih.native.trans hfirst.native, ih.maxDepth.trans hfirst.maxDepth,
      ih.depth.trans hfirst.depth⟩

/-! ### Calls of `repeat` -/

variable {count target : String} {texts : List String}

/-- A call of `repeat` with a text that writes the number of calls. -/
lemma dispatch_repeat (hnative : s.packages.native = nativePackage)
    (hcount : Kind.int.coerce count = some (.int n)) (fuel : Nat) (exec : Exec) :
    dispatch fuel exec "repeat" (count :: target :: texts) s =
      called "repeat" (do Builtin.callTimes (exec target texts) n; return none) s := by
  have hleads : Forwarder.Leads (.repeatTimes n) [count] := ⟨count, rfl, hcount⟩
  exact Forwarder.dispatch_eq hnative hleads fuel exec target texts

/-- A call of `repeat` is one of the first part, and then, if that returned, one of the rest. -/
lemma execute_repeat_add (hnative : s.packages.native = nativePackage) {m n : Nat}
    {first second both : String} (hfirst : Kind.int.coerce first = some (.int m))
    (hsecond : Kind.int.coerce second = some (.int n))
    (hboth : Kind.int.coerce both = some (.int (m + n : Nat))) (fuel : Nat) :
    execute (fuel + 1) "repeat" (both :: target :: texts) s =
      Engine.bind (execute (fuel + 1) "repeat" (first :: target :: texts))
        (fun _ => execute (fuel + 1) "repeat" (second :: target :: texts)) s := by
  have hrepeat : ∀ {u : Session} {k : Nat} {text : String},
      u.packages.native = nativePackage → Kind.int.coerce text = some (.int k) →
        execute (fuel + 1) "repeat" (text :: target :: texts) u =
          called "repeat"
            (do Builtin.callTimes (execute fuel target texts) k; return none) u :=
    fun hu htext => dispatch_repeat hu htext fuel (execute fuel)
  rw [hrepeat hnative hboth, Engine.bind, hrepeat hnative hfirst]
  by_cases hfull : s.maxDepth ≤ s.depth
  · simp only [called, if_pos hfull]
  · have hroom : s.depth < s.maxDepth := Nat.not_le.1 hfull
    rw [called_of_no_value _ hroom, called_of_no_value _ hroom]
    rcases rounds_or_stop (execute fuel target texts) m { s with depth := s.depth + 1 } with
      ⟨t, hrounds, hresult⟩ | ⟨k, hk, t, hrounds, hstop, hresult⟩
    · have hmore : Builtin.callTimes (execute fuel target texts) (m + n)
          { s with depth := s.depth + 1 } = Builtin.callTimes (execute fuel target texts) n t := by
        rw [callTimes_add, bind_of_done hresult]
      -- the second call of `repeat` makes its calls at the depth at which the first one made them
      obtain ⟨hnative', hmax, hdepth⟩ := hrounds.unmoved
      obtain ⟨u, hu⟩ : ∃ u, u = { t with depth := t.depth - 1 } := ⟨_, rfl⟩
      have hinside : { u with depth := u.depth + 1 } = t := by
        have hback : t.depth - 1 + 1 = t.depth := by rw [hdepth, Nat.add_sub_cancel]
        rw [hu, hback]
      have hroom' : u.depth < u.maxDepth := by
        rw [hu]
        change t.depth - 1 < t.maxDepth
        rw [hdepth, hmax, Nat.add_sub_cancel]
        exact hroom
      have hu' : u.packages.native = nativePackage := by
        rw [hu]
        exact hnative'.trans hnative
      simp only [cleanup, hresult, hmore]
      rw [← hu, hrepeat hu' hsecond, called_of_no_value _ hroom', cleanup, hinside]
    · have hpart : (Builtin.callTimes (execute fuel target texts) m
          { s with depth := s.depth + 1 }).1 ≠ .done () := by rwa [hresult]
      have hmore : Builtin.callTimes (execute fuel target texts) (m + n)
          { s with depth := s.depth + 1 } = execute fuel target texts t := by
        rw [callTimes_add, bind_of_not_done hpart, hresult]
      simp only [cleanup, hresult, hmore]
      rcases hcall : execute fuel target texts t with ⟨a | e | p | r, u⟩
      · exact absurd (congrArg Prod.fst hcall) hstop
      all_goals rfl

/-- In every session with the built-in commands, and for all counts whose sum is a number of 64
bits: a call of `repeat` with the sum does what a call with the first count does, followed, if that
returned, by a call with the second one.  The counts may be written in any way, in decimal digits
for one.

For every way of calling commands, `repeat` calls the target with the very texts of the call.  It
gets through as many rounds as are asked for, or it stops at the first call that does not return,
as that call does, and calls nothing more.  All calls are made at the same depth, as one more active
call than `repeat` itself; if there is no room for it, nothing is called. -/
theorem repeat_is_additive (hnative : s.packages.native = nativePackage) {m n : Nat}
    (hbound : ((m + n : Nat) : Int) ≤ maxInt64) (target : String) (texts : List String) :
    (∀ k ≤ m + n, Kind.int.coerce (Text.decimal k) = some (.int k)) ∧
    (∀ first second both, Kind.int.coerce first = some (.int m) →
      Kind.int.coerce second = some (.int n) → Kind.int.coerce both = some (.int (m + n : Nat)) →
        (∀ fuel, execute (fuel + 1) "repeat" (both :: target :: texts) s =
          Engine.bind (execute (fuel + 1) "repeat" (first :: target :: texts))
            (fun _ => execute (fuel + 1) "repeat" (second :: target :: texts)) s) ∧
        ∀ fuel exec,
          let call := exec target texts
          let inside := { s with depth := s.depth + 1 }
          let outer := dispatch fuel exec "repeat" (both :: target :: texts) s
          (s.maxDepth ≤ s.depth → outer = (.failed (.frame (.callDepth s.maxDepth "repeat")), s)) ∧
          (s.depth < s.maxDepth →
            (∃ t, Rounds call (m + n) inside t ∧
              outer = (.done (), { t with depth := t.depth - 1 })) ∨
            ∃ k < m + n, ∃ t, Rounds call k inside t ∧ (call t).1 ≠ .done () ∧
              outer = call.cleanup (fun u => { u with depth := u.depth - 1 }) t)) ∧
    ∀ fuel k t, Rounds (execute fuel target texts) k { s with depth := s.depth + 1 } t →
      t.depth = s.depth + 1 := by
  refine ⟨fun k hk => Kind.coerce_decimal (by omega), ?_, fun fuel k t h => h.unmoved.depth⟩
  intro first second both hfirst hsecond hboth
  refine ⟨execute_repeat_add hnative hfirst hsecond hboth, fun fuel exec => ⟨?_, ?_⟩⟩
  · intro hfull
    rw [dispatch_repeat hnative hboth, called, if_pos hfull]
  · intro hroom
    rw [dispatch_repeat hnative hboth, called_of_no_value _ hroom]
    rcases rounds_or_stop (exec target texts) (m + n) { s with depth := s.depth + 1 } with
      ⟨t, hrounds, hresult⟩ | ⟨k, hk, t, hrounds, hstop, hresult⟩
    · exact .inl ⟨t, hrounds, by rw [cleanup, hresult]⟩
    · exact .inr ⟨k, hk, t, hrounds, hstop, by rw [cleanup, cleanup, hresult]⟩

/-- Three calls on a stack of two values: two of them return, and the third one fails, whether they
are asked for at once or as two and one. -/
theorem repeat_is_additive_on_short_stack :
    let s := { Session.start {} standardRegistry .empty with
      memory := (Memory.initial.push (.text "a")).push (.text "b") }
    let outer := execute (2 + 1) "repeat" ["3", "pop"] s
    s.packages.native = nativePackage ∧ ((2 + 1 : Nat) : Int) ≤ maxInt64 ∧
      outer = Engine.bind (execute (2 + 1) "repeat" ["2", "pop"])
        (fun _ => execute (2 + 1) "repeat" ["1", "pop"]) s ∧
      outer.1 = .failed .emptyStack ∧ outer.2.out = "b\na\n" := by
  intro s outer
  have hnative : s.packages.native = nativePackage := rfl
  have hbound : ((2 + 1 : Nat) : Int) ≤ maxInt64 := by decide
  obtain ⟨hfailed, hout⟩ : outer.1 = .failed .emptyStack ∧ outer.2.out = "b\na\n" := by
    decide +kernel
  have hsum := ((repeat_is_additive hnative hbound "pop" []).2.1 "2" "1" "3" (by decide +kernel)
    (by decide +kernel) (by decide +kernel)).1 2
  clear_value s
  exact ⟨hnative, hbound, hsum, hfailed, hout⟩

end Engine

end LineShell

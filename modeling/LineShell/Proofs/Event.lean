import LineShell.Proofs.Avoidance

/-!
# What runs do to the packages, the jobs and the macros

A host runs commands, lines and scripts, supervised or not (`Session.Event`).  The ways of putting
routines together all leave the packages, the table of jobs and the macros alone; only single steps
and the start of a job touch them.  So a relation on these parts that can be followed from step to
step (`Engine.Account`) holds of every run, however it ended (`Session.Event.follows`).

The packages are an instance of this: they are changed by single steps only
(`Session.Event.stocks`), since jobs work on a copy of the session.
-/

namespace LineShell

namespace Session

variable {s t : Session}

/-- Two sessions with the same packages, the same jobs and the same macros. -/
structure SameHoldings (s t : Session) : Prop where
  packages : t.packages = s.packages
  registry : t.registry = s.registry
  jobs : t.jobs = s.jobs
  macros : t.macros = s.macros

/-- A guard leaves packages, jobs and macros alone, when it is opened and when it is taken back. -/
lemma sameHoldings_of_opens {guard : Guard} {close : Session → Session}
    (h : guard.opens s = .ok (t, close)) :
    s.SameHoldings t ∧ ∀ u : Session, u.SameHoldings (close u) := by
  cases guard with
  | scope =>
    obtain ⟨mark, scopes, -, rfl, rfl⟩ := Guard.scope_opens_eq_ok h
    exact ⟨⟨rfl, rfl, rfl, rfl⟩, fun _ => ⟨rfl, rfl, rfl, rfl⟩⟩
  | isolation | global | call =>
    cases h
    exact ⟨⟨rfl, rfl, rfl, rfl⟩, fun _ => ⟨rfl, rfl, rfl, rfl⟩⟩

/-- So does the report of a failure. -/
lemma sameHoldings_errorLine (s : Session) (text : String) :
    s.SameHoldings (s.errorLine text) := by
  have hsame := Engine.alike_errorLine s text
  exact ⟨hsame.packages, hsame.registry, s.jobs_errorLine text,
    s.macros_errorLine text⟩

end Session

namespace Engine

variable {R : Session → Session → Prop}

/-- A relation between the sessions before and after a run that can be followed from one change of
the packages and the jobs to the next. -/
structure Account (R : Session → Session → Prop) : Prop where
  turn : ∀ {s t : Session}, s.Turn t → R s t
  same : ∀ {s t : Session}, s.SameHoldings t → R s t
  trans : ∀ {s t u : Session}, R s t → R t u → R s u
  job : ∀ (exec : Exec) (name : String) (args : List String),
    (startJob exec name args).Satisfies fun _ s t => R s t

/-- Such a relation can be followed through a guarded run. -/
lemma Account.guarded (account : Account R) {guard : Guard} {s t u : Session}
    {close : Session → Session} (hopen : guard.opens s = .ok (t, close)) (h : R t u) (e : Ending) :
    R s (if e = .returned then close u else u) := by
  obtain ⟨hopened, hclosed⟩ := Session.sameHoldings_of_opens hopen
  have hbody : R s u := account.trans (account.same hopened) h
  split
  · exact account.trans hbody (account.same (hclosed u))
  · exact hbody

/-- It is respected by all the ways of putting routines together. -/
lemma Account.norm (account : Account R) : Norm (fun _ => True) fun _ s t => R s t where
  plain h s := account.turn (h.turn s)
  trans hst htu := account.trans hst htu
  report text h := account.trans h (account.same (Session.sameHoldings_errorLine _ text))
  guarded {e _ _ _ _ _} _ hopen h := account.guarded hopen h e
  contained _ {_ _} h := account.trans h (account.same ⟨rfl, rfl, rfl, rfl⟩)
  halted _ _ := account.same ⟨rfl, rfl, rfl, rfl⟩
  crashed _ _ := account.same ⟨rfl, rfl, rfl, rfl⟩
  job _ := account.job

/-- It holds of all calls. -/
theorem Account.execute (account : Account R) (fuel : Nat) :
    (Engine.execute fuel).Every (Satisfies fun _ s t => R s t) := by
  refine Host.every_execute (fun s => account.same ⟨rfl, rfl, rfl, rfl⟩)
    (fun fuel exec hexec name args => ?_) (fun fuel exec hexec callback => ?_) fuel
  · have hbody : ∀ package arguments body,
        (runBody fuel exec package arguments body).Satisfies fun _ s t => R s t :=
      fun package arguments body =>
        (Routine.permitted_runBody fuel package arguments body fun _ _ => trivial).satisfies
          account.norm hexec
    rw [dispatch_eq_callWith]
    refine Satisfies.callWith_deeper account.norm (fun {e s t} _ h => ?_) hbody name args
    exact account.guarded (Guard.call_opens s) h e
  · exact satisfies_runCallback account.norm callback

/-- It holds of all runs of the interpreter. -/
theorem Account.follows (account : Account R) {α : Type} {routine : Routine α}
    (h : routine.Permitted fun _ => True) (fuel : Nat) (s : Session) :
    R s (routine (Engine.execute fuel) s).2 :=
  h.satisfies account.norm (account.execute fuel) s

/-- The steps of the packages can be followed. -/
lemma account_stocks : Account Session.Stocks where
  turn h := h.stocks
  same h := .of_eq h.packages h.registry
  trans hst htu := hst.trans htu
  job := Satisfies.job fun _ _ _ _ _ => .of_eq rfl rfl

end Engine

namespace Session

variable {s t : Session}

/-- What a host can run in a session, and the session that is left, however the run ended. -/
inductive Event (s : Session) : Session → Prop
  | command (fuel : Nat) (name : String) (args : List String) :
      Event s (Engine.execute fuel name args s).2
  | line (fuel : Nat) (line : String) : Event s (Engine.runLine (Engine.execute fuel) line s).2
  | script (fuel : Nat) (text : String) : Event s (Engine.runScript (Engine.execute fuel) text s).2
  | supervisedLine (fuel : Nat) (line : String) :
      Event s (Engine.superviseLine (Engine.execute fuel) line s).2
  | supervisedScript (fuel : Nat) (origin text : String) :
      Event s (Engine.superviseScript (Engine.execute fuel) origin text s).2

/-- What can be followed from one change of the packages and the jobs to the next holds of whatever
is run. -/
theorem Event.follows {R : Session → Session → Prop} (h : s.Event t) (account : Engine.Account R) :
    R s t := by
  cases h with
  | command fuel name args => exact (account.execute fuel).command name args s
  | line fuel line => exact account.follows (Routine.permitted_runLine line) fuel s
  | script fuel text => exact account.follows (Routine.permitted_runScript text) fuel s
  | supervisedLine fuel line =>
    exact account.follows (Routine.permitted_superviseLine trivial line) fuel s
  | supervisedScript fuel origin text =>
    exact account.follows (Routine.permitted_superviseScript trivial origin text) fuel s

/-- Whatever is run, the packages are changed by steps only. -/
theorem Event.stocks (h : s.Event t) : s.Stocks t := h.follows Engine.account_stocks

end Session

end LineShell

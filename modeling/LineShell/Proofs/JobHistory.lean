import LineShell.Proofs.Event
import LineShell.Shell
import Mathlib.Data.List.Nodup

/-!
# The history of background jobs

What happens to the jobs of a session is a list of events: a job is started, jobs are reported by
someone who waits for them or looks at them, and jobs are joined at the end of a captured run
(`Session.JobHistory`).  The runs in between may be anything that leaves the table of jobs alone,
and every run of the interpreter has a history (`Session.Event.exists_jobHistory`).

Three operations take jobs out of the table, by different criteria; all of them cut it in two
(`JobTable.Taken`).  From this it follows that the table can be told from the events
(`JobTable.Accounted`): the jobs that are tracked are those that were started and are not gone, in
the order of their numbers, and none is gone twice.
-/

namespace LineShell

/-! ### Events -/

/-- What can happen to jobs. -/
inductive JobEvent
  | started (id : Nat)
  | reported (reports : List JobReport)
  | joined (reports : List JobReport)
  deriving DecidableEq, Repr

namespace JobEvent

/-- The numbers of the jobs that were started. -/
def startedIn (events : List JobEvent) : List Nat :=
  events.flatMap fun
    | .started id => [id]
    | _ => []

/-- The numbers of the jobs that were reported. -/
def reportedIn (events : List JobEvent) : List Nat :=
  events.flatMap fun
    | .reported reports => reports.map Prod.fst
    | _ => []

/-- The numbers of the jobs that were joined. -/
def joinedIn (events : List JobEvent) : List Nat :=
  events.flatMap fun
    | .joined reports => reports.map Prod.fst
    | _ => []

/-- The numbers of the jobs that are no longer tracked. -/
def goneIn (events : List JobEvent) : List Nat :=
  events.flatMap fun
    | .started _ => []
    | .reported reports => reports.map Prod.fst
    | .joined reports => reports.map Prod.fst

variable {events more : List JobEvent}

@[simp] lemma startedIn_append :
    startedIn (events ++ more) = startedIn events ++ startedIn more := List.flatMap_append

@[simp] lemma goneIn_append : goneIn (events ++ more) = goneIn events ++ goneIn more :=
  List.flatMap_append

@[simp] lemma joinedIn_append : joinedIn (events ++ more) = joinedIn events ++ joinedIn more :=
  List.flatMap_append

/-- A job is gone as often as it was reported or joined. -/
lemma count_goneIn (events : List JobEvent) (id : Nat) :
    (goneIn events).count id = (reportedIn events).count id + (joinedIn events).count id := by
  induction events with
  | nil => rfl
  | cons event rest ih =>
    simp only [goneIn, reportedIn, joinedIn, List.flatMap_cons, List.count_append] at ih ⊢
    cases event with
    | started id => simpa using ih
    | reported reports | joined reports =>
      simp only [List.count_nil]
      omega

/-- A job is gone if it was reported or joined. -/
lemma mem_goneIn {id : Nat} :
    id ∈ goneIn events ↔ id ∈ reportedIn events ++ joinedIn events := by
  rw [← List.count_pos_iff, ← List.count_pos_iff, count_goneIn, List.count_append]

end JobEvent

open JobEvent

/-! ### Tables -/

namespace JobTable

variable {table next rest : JobTable} {events more : List JobEvent} {reports : List JobReport}

/-- The numbers of the jobs that are tracked. -/
def ids (table : JobTable) : List Nat := table.tracked.map Job.id

/-- The jobs are tracked in the order of their numbers, and the next one is above them all. -/
structure Proper (table : JobTable) : Prop where
  ascending : table.ids.Pairwise (· < ·)
  below : ∀ id ∈ table.ids, id < table.nextId

/-- Jobs are taken out of a table: those that are reported, and no others. -/
structure Taken (table : JobTable) (reports : List JobReport) (rest : JobTable) : Prop where
  sublist : (reports.map Prod.fst).Sublist table.ids
  ids_eq : rest.ids = table.ids.filter (· ∉ reports.map Prod.fst)
  nextId_eq : rest.nextId = table.nextId

/-- A table that is cut in two by a criterion on jobs. -/
lemma Proper.taken (h : table.Proper) (p : Job → Bool) (hnext : rest.nextId = table.nextId)
    (hrest : rest.tracked = table.tracked.filter (!p ·)) :
    table.Taken ((table.tracked.filter p).map report) rest := by
  have hreports : ((table.tracked.filter p).map report).map Prod.fst =
      (table.tracked.filter p).map Job.id := by
    rw [List.map_map]
    rfl
  refine ⟨?_, ?_, hnext⟩
  · rw [hreports]
    exact List.filter_sublist.map Job.id
  · rw [hreports, ids, ids, hrest, List.filter_map]
    refine congrArg (List.map Job.id) (List.filter_congr fun job hjob => ?_)
    -- A job with the number of one that is taken out is that job.
    have hinj : ∀ other ∈ table.tracked, other.id = job.id → other = job := fun other hother =>
      List.inj_on_of_nodup_map (h.ascending.imp Nat.ne_of_lt) hother hjob
    by_cases hp : p job = true
    · have hmem : job.id ∈ (table.tracked.filter p).map Job.id :=
        List.mem_map_of_mem (List.mem_filter.2 ⟨hjob, hp⟩)
      simp only [hp, Function.comp_apply, hmem, not_true, decide_false, Bool.not_true]
    · have hmem : job.id ∉ (table.tracked.filter p).map Job.id := by
        intro hmem
        obtain ⟨other, hother, hid⟩ := List.mem_map.1 hmem
        obtain ⟨hother, hpother⟩ := List.mem_filter.1 hother
        rw [hinj other hother hid] at hpother
        exact hp hpother
      simp only [hp, Function.comp_apply, hmem, not_false_eq_true, decide_true, Bool.not_false]

/-- Who waits takes out all jobs. -/
lemma Proper.taken_wait (h : table.Proper) : table.Taken table.wait.1 table.wait.2 := by
  have htaken : table.Taken ((table.tracked.filter fun _ => true).map report) table.wait.2 :=
    h.taken (fun _ => true) rfl (by simp [wait])
  rw [List.filter_true] at htaken
  exact htaken

/-- Who looks takes out the jobs that are found finished. -/
lemma Proper.taken_look (h : table.Proper) : table.Taken table.look.1 table.look.2 :=
  h.taken (table.finished table.looks) rfl rfl

/-- A captured run takes out the jobs with numbers from its first one on. -/
lemma Proper.taken_joinFrom (h : table.Proper) (first : Nat) :
    table.Taken (table.joinFrom first).1 (table.joinFrom first).2 := by
  refine h.taken (fun job => first ≤ job.id) rfl ?_
  simp only [joinFrom, ← decide_not, Nat.not_le]

/-- The numbers of the jobs that a captured run joins. -/
lemma ids_joined (table : JobTable) (first : Nat) :
    (table.joinFrom first).1.map Prod.fst = table.ids.filter (first ≤ ·) := by
  rw [ids, List.filter_map, joinFrom, List.map_map]
  rfl

/-- The numbers of the jobs that it leaves. -/
lemma ids_left (table : JobTable) (first : Nat) :
    (table.joinFrom first).2.ids = table.ids.filter (· < first) := by
  rw [ids, ids, List.filter_map, joinFrom]
  rfl

/-! ### Accounts of a table -/

/-- The numbers of the jobs that were tracked before some events or started by them. -/
def known (table : JobTable) (events : List JobEvent) : List Nat :=
  table.ids ++ startedIn events

/-- More events add the jobs that they start. -/
lemma known_append (table : JobTable) (events more : List JobEvent) :
    table.known (events ++ more) = table.known events ++ startedIn more := by
  rw [known, startedIn_append, ← List.append_assoc, known]

/-- The table after some events is accounted for by the table before and the events: what is tracked
was tracked or started, and is not gone. -/
structure Accounted (table : JobTable) (events : List JobEvent) (next : JobTable) : Prop where
  ascending : (table.known events).Pairwise (· < ·)
  below : ∀ id ∈ table.known events, id < next.nextId
  ids_eq : next.ids = (table.known events).filter (· ∉ goneIn events)
  gone_nodup : (goneIn events).Nodup
  gone_known : ∀ id ∈ goneIn events, id ∈ table.known events
  nextId_le : table.nextId ≤ next.nextId
  fresh : ∀ id ∈ startedIn events, table.nextId ≤ id

/-- What is tracked afterwards is known. -/
lemma Accounted.sublist (h : table.Accounted events next) :
    next.ids.Sublist (table.known events) := by
  rw [h.ids_eq]
  exact List.filter_sublist

/-- A table that is accounted for is proper. -/
lemma Accounted.proper (h : table.Accounted events next) : next.Proper :=
  ⟨h.ascending.sublist h.sublist, fun id hid => h.below id (h.sublist.subset hid)⟩

/-- Every job that was tracked or started is tracked or gone, and this once. -/
lemma Accounted.count_eq (h : table.Accounted events next) (id : Nat) :
    next.ids.count id + (goneIn events).count id = if id ∈ table.known events then 1 else 0 := by
  have hall : (table.known events).Nodup := h.ascending.imp Nat.ne_of_lt
  rw [← hall.count]
  by_cases hgone : id ∈ goneIn events
  · have htracked : id ∉ next.ids := by
      rw [h.ids_eq, List.mem_filter]
      simp [hgone]
    rw [List.count_eq_zero_of_not_mem htracked, Nat.zero_add, h.gone_nodup.count, hall.count,
      if_pos hgone, if_pos (h.gone_known id hgone)]
  · rw [List.count_eq_zero_of_not_mem hgone, Nat.add_zero, h.ids_eq]
    exact List.count_filter (by simpa using hgone)

section Trans

variable {last : JobTable}

/-- What the first events are about has lower numbers than what is started later. -/
lemma Accounted.lt_of_started (h : table.Accounted events next)
    (hmore : next.Accounted more last) {id later : Nat} (hid : id ∈ table.known events)
    (hlater : later ∈ startedIn more) : id < later :=
  Nat.lt_of_lt_of_le (h.below id hid) (hmore.fresh later hlater)

/-- What later events are about is not gone before. -/
lemma Accounted.not_gone (h : table.Accounted events next) (hmore : next.Accounted more last)
    {id : Nat} (hid : id ∈ next.known more) : id ∉ goneIn events := by
  intro hgone
  rcases List.mem_append.1 hid with htracked | hlater
  · rw [h.ids_eq] at htracked
    simpa [hgone] using (List.mem_filter.1 htracked).2
  · exact Nat.lt_irrefl id (h.lt_of_started hmore (h.gone_known id hgone) hlater)

/-- What later events are about is known of all events. -/
lemma Accounted.mem_known (h : table.Accounted events next) {id : Nat}
    (hid : id ∈ next.known more) : id ∈ table.known (events ++ more) := by
  rw [known_append]
  rcases List.mem_append.1 hid with htracked | hlater
  · exact List.mem_append_left _ (h.sublist.subset htracked)
  · exact List.mem_append_right _ hlater

/-- Events that follow one another. -/
lemma Accounted.trans (h : table.Accounted events next) (hmore : next.Accounted more last) :
    table.Accounted (events ++ more) last := by
  constructor
  · rw [known_append]
    refine List.pairwise_append.2 ⟨h.ascending, ?_, fun _ hid _ => h.lt_of_started hmore hid⟩
    exact hmore.ascending.sublist (List.sublist_append_right _ _)
  · intro id hid
    rw [known_append] at hid
    rcases List.mem_append.1 hid with hid | hid
    · exact Nat.lt_of_lt_of_le (h.below id hid) hmore.nextId_le
    · exact hmore.below id (List.mem_append_right _ hid)
  · have hstarted : (startedIn more).filter (· ∉ goneIn events) = startedIn more := by
      refine List.filter_eq_self.2 fun id hid => ?_
      simpa using h.not_gone hmore (List.mem_append_right _ hid)
    have hleft : (table.known (events ++ more)).filter (· ∉ goneIn events) = next.known more := by
      rw [known_append, List.filter_append, ← h.ids_eq, hstarted, known]
    rw [hmore.ids_eq, ← hleft, List.filter_filter]
    refine List.filter_congr fun id _ => ?_
    simp [Bool.and_comm]
  · rw [goneIn_append]
    refine List.nodup_append.2 ⟨h.gone_nodup, hmore.gone_nodup, ?_⟩
    rintro id hid other hother rfl
    exact h.not_gone hmore (hmore.gone_known id hother) hid
  · intro id hid
    rw [goneIn_append] at hid
    rcases List.mem_append.1 hid with hid | hid
    · rw [known_append]
      exact List.mem_append_left _ (h.gone_known id hid)
    · exact h.mem_known (hmore.gone_known id hid)
  · exact Nat.le_trans h.nextId_le hmore.nextId_le
  · intro id hid
    rw [startedIn_append] at hid
    rcases List.mem_append.1 hid with hid | hid
    · exact h.fresh id hid
    · exact Nat.le_trans h.nextId_le (hmore.fresh id hid)

end Trans

/-- Nothing happens, or a number is passed over. -/
lemma Proper.accounted_nil (h : table.Proper) (hids : next.ids = table.ids)
    (hnext : table.nextId ≤ next.nextId) : table.Accounted [] next where
  ascending := by simpa [known, startedIn] using h.ascending
  below := by
    intro id hid
    have hid : id ∈ table.ids := by simpa [known, startedIn] using hid
    exact Nat.lt_of_lt_of_le (h.below id hid) hnext
  ids_eq := by simp [known, startedIn, goneIn, hids]
  gone_nodup := List.nodup_nil
  gone_known := by simp [goneIn]
  nextId_le := hnext
  fresh := by simp [startedIn]

/-- A job is started. -/
lemma Proper.accounted_start (h : table.Proper) (label : String) (ok : Bool) :
    table.Accounted [.started table.nextId] (table.start label ok).2 where
  ascending := by
    refine List.pairwise_append.2 ⟨h.ascending, by simp [startedIn], ?_⟩
    intro id hid other hother
    have hother : other = table.nextId := by simpa [startedIn] using hother
    exact hother ▸ h.below id hid
  below := by
    intro id hid
    change id < table.nextId + 1
    rcases List.mem_append.1 hid with hid | hid
    · exact Nat.lt_succ_of_lt (h.below id hid)
    · have hid : id = table.nextId := by simpa [startedIn] using hid
      omega
  ids_eq := by simp [known, ids, start, startedIn, goneIn]
  gone_nodup := by simp [goneIn]
  gone_known := by simp [goneIn]
  nextId_le := Nat.le_succ _
  fresh := by simp [startedIn]

/-- Jobs are taken out by an event. -/
lemma Taken.accounted (h : table.Taken reports rest) (hproper : table.Proper) {event : JobEvent}
    (hstarted : startedIn [event] = []) (hgone : goneIn [event] = reports.map Prod.fst) :
    table.Accounted [event] rest where
  ascending := by simpa [known, hstarted] using hproper.ascending
  below := by
    intro id hid
    rw [known, hstarted, List.append_nil] at hid
    rw [h.nextId_eq]
    exact hproper.below id hid
  ids_eq := by rw [h.ids_eq, known, hstarted, hgone, List.append_nil]
  gone_nodup := by
    rw [hgone]
    exact (hproper.ascending.imp Nat.ne_of_lt).sublist h.sublist
  gone_known := by
    intro id hid
    rw [hgone] at hid
    exact List.mem_append_left _ (h.sublist.subset hid)
  nextId_le := Nat.le_of_eq h.nextId_eq.symm
  fresh := by simp [hstarted]

end JobTable

/-! ### Histories -/

namespace Session

variable {s t u v : Session} {events inner : List JobEvent}

/-- What happens to the jobs of a session: jobs are started or cannot be started, someone waits for
all jobs or looks at them, a run is captured, or something else is done that leaves the table
alone; one after the other. -/
inductive JobHistory : Session → List JobEvent → Session → Prop
  | other {s t : Session} (h : t.jobs = s.jobs) : JobHistory s [] t
  | trans {s t u : Session} {events more : List JobEvent} (h : JobHistory s events t)
      (hmore : JobHistory t more u) : JobHistory s (events ++ more) u
  | spawned {exec : Exec} {name : String} {args : List String} {s t : Session} {id : Nat}
      {out err : String} (h : Engine.startJob exec name args s = (.done (id, out, err), t)) :
      JobHistory s [.started id] t
  | refused {exec : Exec} {name : String} {args : List String} {s t : Session} {e : Error}
      (h : Engine.startJob exec name args s = (.failed e, t)) : JobHistory s [] t
  | waited {s t : Session} (h : t.jobs = s.jobs.wait.2) :
      JobHistory s [.reported s.jobs.wait.1] t
  | looked {s t : Session} (h : t.jobs = s.jobs.look.2) :
      JobHistory s [.reported s.jobs.look.1] t
  | captured {action : Engine Bool} {s t u : Session} {success : Bool}
      {captured : Engine.Captured} {inner : List JobEvent}
      (hrun : action { s with out := "", err := "" } = (.done success, t))
      (hinner : JobHistory { s with out := "", err := "" } inner t)
      (hcapture : Engine.capture action s = (.done captured, u)) :
      JobHistory s (inner ++ [.joined (t.jobs.joinFrom s.jobs.nextId).1]) u

end Session

namespace Engine

variable {s t u : Session}

/-- A job is refused and its number passed over, or it is put into the table under the next number,
or it comes to no end. -/
lemma startJob_cases (exec : Exec) (name : String) (args : List String) (s : Session) :
    (∃ e, startJob exec name args s = (.failed e, { s with jobs := s.jobs.skip })) ∨
    (∃ label ok out err, startJob exec name args s =
      (.done (s.jobs.nextId, out, err), { s with jobs := (s.jobs.start label ok).2 })) ∨
    ∃ reason, startJob exec name args s = (.halted reason, s) := by
  rw [startJob]
  cases threadFault? s.maxDepth with
  | some fault => exact .inl ⟨_, rfl⟩
  | none =>
    rcases supervise name (exec name args) { s.fork with out := "", err := "" } with
      ⟨a | e | p | r, child⟩
    · exact .inr (.inl ⟨_, _, _, _, rfl⟩)
    · exact .inr (.inl ⟨_, _, _, _, rfl⟩)
    · exact .inr (.inl ⟨_, _, _, _, rfl⟩)
    · exact .inr (.inr ⟨r, rfl⟩)

/-- A captured run ends with the join of the jobs from its first one on. -/
lemma jobs_of_capture {action : Engine Bool} {success : Bool} {captured : Captured}
    (hrun : action { s with out := "", err := "" } = (.done success, t))
    (hcapture : capture action s = (.done captured, u)) :
    u.jobs = (t.jobs.joinFrom s.jobs.nextId).2 := by
  rw [capture, hrun] at hcapture
  cases hcapture
  rfl

end Engine

namespace Session

variable {s t u v : Session} {events inner : List JobEvent}

/-- The table of a session is accounted for by the history of its jobs. -/
theorem JobHistory.accounted (h : s.JobHistory events t) (hs : s.jobs.Proper) :
    s.jobs.Accounted events t.jobs := by
  induction h with
  | other h => exact hs.accounted_nil (by rw [h]) (Nat.le_of_eq (by rw [h]))
  | trans _ _ ih ihmore =>
    have hfirst := ih hs
    exact hfirst.trans (ihmore hfirst.proper)
  | @spawned exec name args s t id out err h =>
    obtain ⟨e, hrun⟩ | ⟨label, ok, out, err, hrun⟩ | ⟨reason, hrun⟩ :=
      Engine.startJob_cases exec name args s
    all_goals
      rw [hrun] at h
      cases h
    exact hs.accounted_start label ok
  | @refused exec name args s t e h =>
    obtain ⟨e, hrun⟩ | ⟨label, ok, out, err, hrun⟩ | ⟨reason, hrun⟩ :=
      Engine.startJob_cases exec name args s
    all_goals
      rw [hrun] at h
      cases h
    exact hs.accounted_nil rfl (Nat.le_succ _)
  | @waited s t h =>
    rw [h]
    exact hs.taken_wait.accounted hs rfl (by simp [goneIn])
  | @looked s t h =>
    rw [h]
    exact hs.taken_look.accounted hs rfl (by simp [goneIn])
  | @captured action s t u success captured inner hrun _ hcapture ih =>
    have hinner := ih hs
    rw [Engine.jobs_of_capture hrun hcapture]
    have hjoin := hinner.proper.taken_joinFrom s.jobs.nextId
    exact hinner.trans (hjoin.accounted hinner.proper rfl (by simp [goneIn]))

/-- Only jobs that were started in the meantime are joined. -/
lemma JobHistory.joined_fresh (h : s.JobHistory events t) (hs : s.jobs.Proper) :
    ∀ id ∈ joinedIn events, s.jobs.nextId ≤ id := by
  induction h with
  | @trans s t u events more h _ ih ihmore =>
    have hfirst := h.accounted hs
    intro id hid
    rw [joinedIn_append] at hid
    rcases List.mem_append.1 hid with hid | hid
    · exact ih hs id hid
    · exact Nat.le_trans hfirst.nextId_le (ihmore hfirst.proper id hid)
  | @captured action s t u success captured inner hrun hinner hcapture ih =>
    intro id hid
    rw [joinedIn_append] at hid
    rcases List.mem_append.1 hid with hid | hid
    · exact ih hs id hid
    · have hid : id ∈ (t.jobs.joinFrom s.jobs.nextId).1.map Prod.fst := by
        simpa [joinedIn] using hid
      rw [JobTable.ids_joined] at hid
      simpa using (List.mem_filter.1 hid).2
  | other | spawned | refused | waited | looked => simp [joinedIn]

/-- A captured run joins those of the jobs started in it that are not gone by then. -/
lemma JobHistory.ids_joined (h : s.JobHistory inner t) (hs : s.jobs.Proper) :
    (t.jobs.joinFrom s.jobs.nextId).1.map Prod.fst =
      (startedIn inner).filter fun id => id ∉ reportedIn inner ∧ id ∉ joinedIn inner := by
  have haccount := h.accounted hs
  have hearlier : s.jobs.ids.filter (s.jobs.nextId ≤ ·) = [] :=
    List.filter_eq_nil_iff.2 fun id hid => by simpa using hs.below id hid
  have hlater : (startedIn inner).filter (s.jobs.nextId ≤ ·) = startedIn inner :=
    List.filter_eq_self.2 fun id hid => by simpa using haccount.fresh id hid
  rw [JobTable.ids_joined, haccount.ids_eq, JobTable.known, List.filter_comm, List.filter_append,
    hearlier, hlater, List.nil_append]
  refine List.filter_congr fun id _ => ?_
  rw [decide_eq_decide, mem_goneIn, List.mem_append, not_or]

/-- It leaves all the earlier jobs that were not reported in it. -/
lemma JobHistory.ids_left (h : s.JobHistory inner t) (hs : s.jobs.Proper) :
    (t.jobs.joinFrom s.jobs.nextId).2.ids = s.jobs.ids.filter (· ∉ reportedIn inner) := by
  have haccount := h.accounted hs
  have hearlier : s.jobs.ids.filter (· < s.jobs.nextId) = s.jobs.ids :=
    List.filter_eq_self.2 fun id hid => by simpa using hs.below id hid
  have hlater : (startedIn inner).filter (· < s.jobs.nextId) = [] :=
    List.filter_eq_nil_iff.2 fun id hid => by simpa using haccount.fresh id hid
  rw [JobTable.ids_left, haccount.ids_eq, JobTable.known, List.filter_comm, List.filter_append,
    hearlier, hlater, List.append_nil]
  refine List.filter_congr fun id hid => ?_
  -- What is joined was started in the run, so that no earlier job is.
  have hjoined : id ∉ joinedIn inner := by
    intro hmem
    have hfresh := h.joined_fresh hs id hmem
    have hbelow := hs.below id hid
    omega
  rw [decide_eq_decide, mem_goneIn, List.mem_append, not_or, and_iff_left hjoined]

/-! ### Runs of the interpreter -/

/-- What a single step does to the jobs is a history. -/
lemma exists_jobHistory_of_step (h : s.jobs.Step t.jobs) : ∃ events, s.JobHistory events t := by
  generalize hjobs : t.jobs = next at h
  cases h with
  | same => exact ⟨_, .other hjobs⟩
  | waited => exact ⟨_, .waited hjobs⟩
  | looked => exact ⟨_, .looked hjobs⟩

end Session

/-- The histories of jobs can be followed through all runs. -/
lemma Engine.account_jobs : Account fun s t => ∃ events, s.JobHistory events t where
  turn h := Session.exists_jobHistory_of_step h.jobs
  same h := ⟨_, .other h.jobs⟩
  trans := by
    rintro s t u ⟨events, h⟩ ⟨more, hmore⟩
    exact ⟨_, h.trans hmore⟩
  job := by
    intro exec name args s
    obtain ⟨e, hrun⟩ | ⟨label, ok, out, err, hrun⟩ | ⟨reason, hrun⟩ :=
      startJob_cases exec name args s
    all_goals rw [hrun]
    · exact ⟨_, .refused hrun⟩
    · exact ⟨_, .spawned hrun⟩
    · exact ⟨_, .other rfl⟩

/-- A line that is entered, after which the jobs are looked at, is a permitted routine. -/
lemma Routine.permitted_runEntered (line : String) :
    Permitted (fun _ => True) (fun exec => do
      let _ ← Engine.superviseLine exec line
      Engine.modify fun s =>
        (s.jobs.look.1.map JobTable.reportLine).foldl Session.sayLine
          { s with jobs := s.jobs.look.2 }) := by
  refine .bind (permitted_superviseLine trivial line) fun _ => .plain (.modify ?_ ?_)
  · intro s
    refine Session.Kin.turn ?_ ?_ (.of_eq (Session.macros_foldl_sayLine _ _ _))
    · refine Session.Kin.trans (t := { s with jobs := s.jobs.look.2 })
        ⟨⟨rfl, rfl, rfl, rfl, rfl⟩, rfl⟩ ?_
      exact Session.kin_foldl_sayLine _ _ _
    · rw [Session.jobs_foldl_sayLine]
      exact .looked
  · intro s limit
    exact Session.foldl_sayLine_withLimit _ _ { s with jobs := s.jobs.look.2 } limit

namespace Session

variable {s t u v : Session} {events inner : List JobEvent}

/-- Whatever is run, the jobs have a history. -/
theorem Event.exists_jobHistory (h : s.Event t) : ∃ events, s.JobHistory events t :=
  h.follows Engine.account_jobs

/-- So they have when a line is entered. -/
theorem exists_jobHistory_runEntered (s : Session) (line : String) :
    ∃ events, s.JobHistory events (Shell.runEntered line s).2 :=
  Engine.account_jobs.follows (Routine.permitted_runEntered line) Engine.ample s

/-- No job is lost or reported twice, whenever jobs are found finished.  From a session without jobs
on, numbers are given out and jobs are tracked in ascending order; every job that was started is in
one place: it is still tracked, or it was reported, or it was joined, and this once.  Who waits is
told of all tracked jobs.  A captured run joins those of the jobs started in it that are not gone by
then, and leaves the earlier ones that were not reported in it.  All of this is about every run, and
about every line that is entered, as all of them have a history. -/
theorem JobHistory.every_job_in_one_place (hs : s.jobs.tracked = [])
    (h : s.JobHistory events t) :
    (startedIn events).Pairwise (· < ·) ∧ t.jobs.ids.Pairwise (· < ·) ∧
    (∀ id, t.jobs.ids.count id + (reportedIn events).count id + (joinedIn events).count id =
      if id ∈ startedIn events then 1 else 0) ∧
    (t.jobs.wait.1.map Prod.fst = t.jobs.ids ∧ t.jobs.wait.2.tracked = []) ∧
    (∀ (action : Engine Bool) (success : Bool) (captured : Engine.Captured) (inner : List JobEvent)
        (u v : Session),
      action { t with out := "", err := "" } = (.done success, u) →
      JobHistory { t with out := "", err := "" } inner u →
      Engine.capture action t = (.done captured, v) →
        t.JobHistory (inner ++ [.joined (u.jobs.joinFrom t.jobs.nextId).1]) v ∧
        (u.jobs.joinFrom t.jobs.nextId).1.map Prod.fst =
          (startedIn inner).filter (fun id => id ∉ reportedIn inner ∧ id ∉ joinedIn inner) ∧
        v.jobs.ids = t.jobs.ids.filter (· ∉ reportedIn inner)) ∧
    (∀ u v : Session, u.Event v → ∃ more, u.JobHistory more v) ∧
    ∀ (u : Session) (line : String), ∃ more, u.JobHistory more (Shell.runEntered line u).2 := by
  have hids : s.jobs.ids = [] := by rw [JobTable.ids, hs, List.map_nil]
  have hproper : s.jobs.Proper := by
    constructor
    · rw [hids]
      exact .nil
    · simp [hids]
  have haccount := h.accounted hproper
  refine ⟨?_, haccount.proper.ascending, ?_, ⟨?_, rfl⟩, ?_, ?_, exists_jobHistory_runEntered⟩
  · simpa [JobTable.known, hids] using haccount.ascending
  · intro id
    rw [Nat.add_assoc, ← count_goneIn, haccount.count_eq, JobTable.known, hids, List.nil_append]
  · rw [JobTable.wait, List.map_map]
    rfl
  · intro action success captured inner u v hrun hinner hcapture
    refine ⟨.captured hrun hinner hcapture, hinner.ids_joined haccount.proper, ?_⟩
    rw [Engine.jobs_of_capture hrun hcapture]
    exact hinner.ids_left haccount.proper
  · exact fun u v => Event.exists_jobHistory

/-- The first of three jobs takes long.  The others are started in a captured script, which looks at
the jobs in between: the second one is reported then, the third one is joined at the end, and the
first one stays. -/
theorem JobHistory.every_job_in_one_place_around_capture :
    let s : Session := { Session.start {} standardRegistry .empty with
      jobs := { JobTable.empty with finished := fun _ job => job.id ≠ 1 } }
    let script := "async print b\njobs\nasync print c\n"
    let action := Engine.superviseScript (Engine.execute 4) "s" script
    let t := (Engine.startJob (Engine.execute 4) "print" ["a"] s).2
    let v := (Engine.capture action t).2
    s.jobs.tracked = [] ∧ s.JobHistory [.started 1] t ∧ v.jobs.ids = [1] ∧
      ∃ inner, t.JobHistory (inner ++ [.joined [(3, true)]]) v ∧
        [3] = (startedIn inner).filter (fun id => id ∉ reportedIn inner ∧ id ∉ joinedIn inner) ∧
        [1] = [1].filter (· ∉ reportedIn inner) := by
  intro s script action t v
  let u := (action { t with out := "", err := "" }).2
  have heval : (Engine.startJob (Engine.execute 4) "print" ["a"] s).1 = .done (1, "a\n", "") ∧
      (action { t with out := "", err := "" }).1 = .done true ∧ t.jobs.ids = [1] ∧
      v.jobs.ids = [1] ∧ (u.jobs.joinFrom t.jobs.nextId).1 = [(3, true)] := by decide +kernel
  obtain ⟨hstarted, hdone, htracked, hstays, hjoins⟩ := heval
  have hspawn : Engine.startJob (Engine.execute 4) "print" ["a"] s =
      (.done (1, "a\n", ""), t) := by rw [← hstarted]
  have hrun : action { t with out := "", err := "" } = (.done true, u) := by rw [← hdone]
  have hcaptured : (Engine.capture action t).1 = .done ⟨true, u.out, u.err⟩ := by
    rw [Engine.capture, hrun]
  have hcapture : Engine.capture action t = (.done ⟨true, u.out, u.err⟩, v) := by
    rw [← hcaptured]
  have hfirst : s.JobHistory [.started 1] t := .spawned hspawn
  obtain ⟨-, -, -, -, hcaptures, hruns, -⟩ := every_job_in_one_place rfl hfirst
  obtain ⟨inner, hinner⟩ := hruns _ _
    (.supervisedScript (s := { t with out := "", err := "" }) 4 "s" script)
  obtain ⟨hhistory, hjoined, hleft⟩ := hcaptures action true _ inner u v hrun hinner hcapture
  rw [hjoins] at hhistory hjoined
  rw [hstays, htracked] at hleft
  exact ⟨rfl, hfirst, hstays, inner, hhistory, hjoined, hleft⟩

end Session

end LineShell

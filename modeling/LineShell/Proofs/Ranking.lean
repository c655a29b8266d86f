import LineShell.Pipeline
import Mathlib.Data.List.Induction
import Mathlib.Data.List.Nodup
import Mathlib.Data.List.TakeWhile
import Mathlib.Tactic.Common

/-!
# The order of the passes

Passes are added to a pipeline and removed from it by name, any number of times.  To tell passes
apart that are alike, each is numbered by how many were added before it (`Pipeline.Added`).
`Pipeline.Roster` follows the numbered passes through a history of changes: what is added is put
between the passes that precede it and those that it precedes, the first pass of a name is taken
out, and a removal that is refused changes nothing.

The passes of a pipeline are always those of its roster (`Pipeline.order_is_stable`), so they run in
the order of their priorities, and those of one priority in the order in which they were added.
The pass that protects the commands for definitions stays the first one: no priority is less than
its own, it was there before all others, and it cannot be removed.
-/

namespace LineShell

/-! ### Putting an element in its place -/

section Insertion

variable {α : Type} {r : α → α → Bool} {a b : α} {l : List α}

/-- In an ordered list, what comes behind a greater element is greater as well. -/
lemma not_le_of_mem_dropWhile (trans : ∀ a b c, r a b → r b c → r a c)
    (hl : l.Pairwise fun a b => r a b = true) (hb : b ∈ l.dropWhile (r · a)) : ¬ r b a := by
  induction l with
  | nil => simp at hb
  | cons c l ih =>
    obtain ⟨hc, hl⟩ := List.pairwise_cons.1 hl
    rw [List.dropWhile_cons] at hb
    split at hb
    · exact ih hl hb
    · next hca =>
      rcases List.mem_cons.1 hb with rfl | hb
      · exact hca
      · exact fun hba => hca (trans c b a (hc b hb) hba)

/-- An ordered list is ordered by places where its order does not decide. -/
lemma pairwise_zipIdxLE (hl : l.Pairwise fun a b => r a b = true) :
    l.zipIdx.Pairwise fun a b => List.zipIdxLE r a b = true := by
  rw [List.pairwise_iff_getElem] at hl ⊢
  intro i j hi hj hij
  rw [List.length_zipIdx] at hi hj
  simp [List.zipIdxLE, hl i j hi hj hij, Nat.le_of_lt hij]

/-- Of two elements of a numbered list neither comes before the other only if they are the same. -/
lemma eq_of_zipIdxLE {x y : α × Nat} (hx : x ∈ l.zipIdx) (hy : y ∈ l.zipIdx)
    (hxy : List.zipIdxLE r x y = true) (hyx : List.zipIdxLE r y x = true) : x = y := by
  obtain ⟨a, i⟩ := x
  obtain ⟨b, j⟩ := y
  have hij : i = j := by
    simp only [List.zipIdxLE] at hxy hyx
    split at hxy <;> simp_all
    omega
  subst hij
  rw [List.mk_mem_zipIdx_iff_getElem?] at hx hy
  rw [Option.some.inj (hx.symm.trans hy)]

/-- With their places in a list to which an element is added at the end, its elements with that one
in between: it is not less than those before it, and less than those behind it. -/
lemma pairwise_zipIdxLE_insert {front back : List α}
    (total : ∀ a b, (r a b || r b a) = true)
    (hl : (front ++ back).Pairwise fun a b => r a b = true)
    (hfront : ∀ b ∈ front, r b a = true) (hback : ∀ b ∈ back, ¬ r b a) :
    (front.zipIdx ++ (a, (front ++ back).length) :: back.zipIdx front.length).Pairwise
      fun x y => List.zipIdxLE r x y = true := by
  have hpairs := pairwise_zipIdxLE hl
  rw [List.zipIdx_append, Nat.zero_add, List.pairwise_append] at hpairs
  obtain ⟨hbefore, hbehind, hcross⟩ := hpairs
  rw [List.pairwise_append, List.pairwise_cons]
  refine ⟨hbefore, ⟨fun y hy => ?_, hbehind⟩, fun x hx y hy => ?_⟩
  · have hya := hback y.1 (List.fst_mem_of_mem_zipIdx hy)
    have hay : r a y.1 = true := by simpa [hya] using total a y.1
    simp [List.zipIdxLE, hay, hya]
  · rcases List.mem_cons.1 hy with rfl | hy
    · have hxa := hfront x.1 (List.fst_mem_of_mem_zipIdx hx)
      have hlt := List.snd_lt_of_mem_zipIdx hx
      simp [List.zipIdxLE, hxa]
      omega
    · exact hcross x hx y hy

/-- To put an element behind those of an ordered list that are not greater is to put it at the end
and to sort the list again, equal elements staying in their order. -/
lemma insert_eq_mergeSort (trans : ∀ a b c, r a b → r b c → r a c)
    (total : ∀ a b, (r a b || r b a) = true) (hl : l.Pairwise fun a b => r a b = true) (a : α) :
    l.takeWhile (r · a) ++ a :: l.dropWhile (r · a) = (l ++ [a]).mergeSort r := by
  have hsplit := List.takeWhile_append_dropWhile (p := (r · a)) (l := l)
  have hback : ∀ b ∈ l.dropWhile (r · a), ¬ r b a := fun b hb =>
    not_le_of_mem_dropWhile trans hl hb
  have hfront : ∀ b ∈ l.takeWhile (r · a), r b a = true := fun b hb =>
    List.mem_takeWhile_imp (p := (r · a)) hb
  generalize l.takeWhile (r · a) = front at hsplit hfront ⊢
  generalize l.dropWhile (r · a) = back at hsplit hback ⊢
  subst hsplit
  -- with their places in the list that is sorted, elements can be told apart
  have hordered := pairwise_zipIdxLE_insert total hl hfront hback
  have hnumbered : (front ++ back ++ [a]).zipIdx = front.zipIdx ++
      (back.zipIdx front.length ++ [(a, (front ++ back).length)]) := by
    simp [List.zipIdx_append]
  have hperm : (front.zipIdx ++ (a, (front ++ back).length) :: back.zipIdx front.length).Perm
      (front ++ back ++ [a]).zipIdx := by
    rw [hnumbered]
    exact (List.perm_append_singleton _ _).symm.append_left _
  have hsorted : (front ++ back ++ [a]).zipIdx.mergeSort (List.zipIdxLE r) =
      front.zipIdx ++ (a, (front ++ back).length) :: back.zipIdx front.length := by
    have hmerged := List.mergeSort_perm (front ++ back ++ [a]).zipIdx (List.zipIdxLE r)
    refine (hmerged.trans hperm.symm).eq_of_pairwise (fun x y hx hy => ?_)
      (List.pairwise_mergeSort (List.zipIdxLE_trans trans) (List.zipIdxLE_total total) _) hordered
    exact eq_of_zipIdxLE (hmerged.mem_iff.1 hx) (hperm.mem_iff.1 hy)
  rw [← List.mergeSort_zipIdx, hsorted]
  simp

end Insertion

namespace Pass

/-- Priorities are signed numbers of 32 bits. -/
def InRange (pass : Pass) : Prop := -2147483648 ≤ pass.priority ∧ pass.priority ≤ 2147483647

/-- Whether a pass is not to run later than another one. -/
def leqPriority (a b : Pass) : Bool := a.priority ≤ b.priority

/-- No pass has a lower priority than the one that cannot be removed. -/
lemma InRange.builtin_le {pass : Pass} (h : pass.InRange) : Pass.builtin.priority ≤ pass.priority :=
  h.1

end Pass

namespace Pipeline

/-! ### Histories of changes -/

/-- A change of the passes. -/
inductive Change
  | add (pass : Pass)
  | remove (name : String)

/-- The pipeline after a change.  A removal that fails leaves it as it is. -/
def change (pipeline : Pipeline) : Change → Pipeline
  | .add pass => pipeline.add pass
  | .remove name =>
    match pipeline.remove name with
    | .ok (_, rest) => rest
    | .error _ => pipeline

/-- The pipeline after changes of the standard one. -/
def after (history : List Change) : Pipeline := history.foldl change standard

/-- A pass, with the number of passes that were added before it. -/
structure Added where
  pass : Pass
  serial : Nat

/-- Whether a pass comes before another one: it has the lower priority, or it has the same priority
and was added before. -/
def Added.Precedes (a b : Added) : Prop :=
  a.pass.priority < b.pass.priority ∨ a.pass.priority = b.pass.priority ∧ a.serial < b.serial

/-- The passes of the standard pipeline. -/
def original : List Added := [⟨.builtin, 0⟩, ⟨.macros, 1⟩, ⟨.variables, 2⟩, ⟨.memory, 3⟩]

/-- How many passes were added, those of the standard pipeline included. -/
def addedCount (history : List Change) : Nat :=
  original.length + history.countP (· matches .add _)

/-- The passes that are there after some changes. -/
inductive Roster : List Change → List Added → Prop
  | start : Roster [] original
  | added {history : List Change} {before later : List Added} {pass : Pass}
      (h : Roster history (before ++ later))
      (hbefore : ∀ other ∈ before, other.Precedes ⟨pass, addedCount history⟩)
      (hlater : ∀ other ∈ later, Added.Precedes ⟨pass, addedCount history⟩ other) :
      Roster (history ++ [.add pass]) (before ++ ⟨pass, addedCount history⟩ :: later)
  | removed {history : List Change} {before later : List Added} {first : Added}
      (h : Roster history (before ++ first :: later))
      (hbefore : ∀ other ∈ before, other.pass.name ≠ first.pass.name)
      (hname : first.pass.name ≠ Pass.builtin.name) :
      Roster (history ++ [.remove first.pass.name]) (before ++ later)
  | refused {history : List Change} {placed : List Added} {name : String}
      (h : Roster history placed)
      (hname : name = Pass.builtin.name ∨ ∀ other ∈ placed, other.pass.name ≠ name) :
      Roster (history ++ [.remove name]) placed

variable {pipeline : Pipeline} {history : List Change} {placed before later : List Added}
  {pass : Pass} {name : String} {count : Nat}

/-! ### What a change does -/

/-- A removal is refused, or it takes out the first pass of its name and leaves the others. -/
lemma remove_cases (pipeline : Pipeline) (name : String) :
    ((name = Pass.builtin.name ∨ ∀ pass ∈ pipeline.passes, pass.name ≠ name) ∧
      ∃ e, pipeline.remove name = .error e) ∨
    ∃ before pass later, pipeline.passes = before ++ pass :: later ∧
      (∀ other ∈ before, other.name ≠ name) ∧ pass.name = name ∧ name ≠ Pass.builtin.name ∧
      pipeline.remove name = .ok (pass, ⟨before ++ later⟩) := by
  unfold remove
  split
  · next hbuiltin => exact .inl ⟨.inl hbuiltin, _, rfl⟩
  · next hname =>
    cases hfind : pipeline.passes.find? (·.name == name) with
    | none =>
      refine .inl ⟨.inr fun pass hpass => ?_, _, rfl⟩
      simpa using List.find?_eq_none.1 hfind pass hpass
    | some pass =>
      obtain ⟨hpass, before, later, hsplit, hbefore⟩ := List.find?_eq_some_iff_append.1 hfind
      have hothers : ∀ other ∈ before, ¬ (other.name == name) = true := by simpa using hbefore
      refine .inr ⟨before, pass, later, hsplit, by simpa using hothers, by simpa using hpass,
        hname, ?_⟩
      rw [hsplit, List.eraseP_append_right _ hothers,
        List.eraseP_cons_of_pos (p := fun other : Pass => other.name == name) hpass]

/-- A removal is refused just when it is that of the protecting pass or no pass has the name. -/
lemma remove_eq_error_iff (pipeline : Pipeline) (name : String) :
    (∃ e, pipeline.remove name = .error e) ↔
      name = Pass.builtin.name ∨ ∀ pass ∈ pipeline.passes, pass.name ≠ name := by
  rcases remove_cases pipeline name with ⟨hrefused, e, hremove⟩ |
    ⟨before, pass, later, hcut, -, hname, hbuiltin, hremove⟩
  · exact iff_of_true ⟨e, hremove⟩ hrefused
  · refine iff_of_false (by simp [hremove]) (not_or.2 ⟨hbuiltin, fun hnone => ?_⟩)
    exact hnone pass (by simp [hcut]) hname

/-- A pass is put behind those that are not to run later. -/
lemma passes_add (h : pipeline.passes = placed.map Added.pass) (pass : Pass) :
    (pipeline.add pass).passes =
      (placed.takeWhile (·.pass.leqPriority pass)).map Added.pass ++
        pass :: (placed.dropWhile (·.pass.leqPriority pass)).map Added.pass := by
  simp only [add, h, List.takeWhile_map, List.dropWhile_map]
  rfl

/-! ### The invariant -/

/-- What holds of the passes that are there: they are in order, their numbers are different and less
than the next one, and the first pass of all is still the first one. -/
structure Ranked (count : Nat) (placed : List Added) : Prop where
  ordered : placed.Pairwise Added.Precedes
  earlier : ∀ added ∈ placed, added.serial < count
  nodup : (placed.map Added.serial).Nodup
  first : placed.head? = some ⟨.builtin, 0⟩

lemma ranked_original : Ranked original.length original where
  ordered := by simp [original, Added.Precedes, Pass.priority]
  earlier := by simp [original]
  nodup := by simp [original]
  first := rfl

lemma Added.Precedes.le {a b : Added} (h : a.Precedes b) : a.pass.priority ≤ b.pass.priority := by
  rcases h with h | ⟨h, -⟩ <;> omega

lemma leqPriority_trans (a b c : Pass) (hab : a.leqPriority b) (hbc : b.leqPriority c) :
    a.leqPriority c := by
  simp only [Pass.leqPriority, decide_eq_true_eq] at hab hbc ⊢
  omega

lemma leqPriority_total (a b : Pass) : (a.leqPriority b || b.leqPriority a) = true := by
  simp only [Pass.leqPriority, Bool.or_eq_true, decide_eq_true_eq]
  omega

lemma Ranked.pairwise_leqPriority (h : Ranked count placed) :
    placed.Pairwise fun a b => a.pass.leqPriority b.pass = true :=
  h.ordered.imp fun hab => decide_eq_true hab.le

/-- A pass is put behind those that precede it, and before those that it precedes. -/
lemma Ranked.place (h : Ranked count placed) (pass : Pass) :
    (∀ other ∈ placed.takeWhile (·.pass.leqPriority pass), other.Precedes ⟨pass, count⟩) ∧
      ∀ other ∈ placed.dropWhile (·.pass.leqPriority pass),
        Added.Precedes ⟨pass, count⟩ other := by
  constructor
  · intro other hother
    have hle : other.pass.leqPriority pass = true :=
      List.mem_takeWhile_imp (p := fun other : Added => other.pass.leqPriority pass) hother
    have hserial := h.earlier other ((List.takeWhile_sublist _).subset hother)
    simp only [Pass.leqPriority, decide_eq_true_eq] at hle
    rcases Int.lt_or_eq_of_le hle with hlt | heq
    · exact .inl hlt
    · exact .inr ⟨heq, hserial⟩
  · intro other hother
    have hgreater := not_le_of_mem_dropWhile (r := fun a b : Added => a.pass.leqPriority b.pass)
      (a := ⟨pass, count⟩) (fun a b c => leqPriority_trans a.pass b.pass c.pass)
      h.pairwise_leqPriority hother
    refine .inl ?_
    simpa [Pass.leqPriority] using hgreater

/-- A pass that is put in its place leaves the others in order, and the first one the first. -/
lemma Ranked.insert (h : Ranked count (before ++ later)) (hrange : pass.InRange)
    (hbefore : ∀ other ∈ before, other.Precedes ⟨pass, count⟩)
    (hlater : ∀ other ∈ later, Added.Precedes ⟨pass, count⟩ other) :
    Ranked (count + 1) (before ++ ⟨pass, count⟩ :: later) where
  ordered := by
    obtain ⟨hfront, hback, hcross⟩ := List.pairwise_append.1 h.ordered
    refine List.pairwise_append.2 ⟨hfront, List.pairwise_cons.2 ⟨hlater, hback⟩, ?_⟩
    intro a ha b hb
    rcases List.mem_cons.1 hb with rfl | hb
    · exact hbefore a ha
    · exact hcross a ha b hb
  earlier := by
    intro added hadded
    rw [List.mem_append, List.mem_cons] at hadded
    have hold := h.earlier added
    rw [List.mem_append] at hold
    rcases hadded with hadded | rfl | hadded
    · have hlt := hold (.inl hadded)
      omega
    · exact Nat.lt_succ_self _
    · have hlt := hold (.inr hadded)
      omega
  nodup := by
    have hperm : ((before ++ ⟨pass, count⟩ :: later).map Added.serial).Perm
        (count :: (before ++ later).map Added.serial) :=
      List.perm_middle.map Added.serial
    refine hperm.nodup_iff.2 (List.nodup_cons.2 ⟨?_, h.nodup⟩)
    rw [List.mem_map]
    rintro ⟨added, hadded, hserial⟩
    have hlt := h.earlier added hadded
    omega
  first := by
    cases before with
    | nil =>
      -- then the new pass would have a priority less than the least one
      have hfirst := hlater ⟨.builtin, 0⟩ (List.mem_of_mem_head? h.first)
      have hle := hrange.builtin_le
      rcases hfirst with hlt | ⟨-, hlt⟩
      · simp only at hlt
        omega
      · simp at hlt
    | cons added before => exact h.first

/-- A pass that is taken out leaves the others in order, and unless it is the first pass of all, that
one is still the first. -/
lemma Ranked.erase {added : Added} (h : Ranked count (before ++ added :: later))
    (hname : added.pass.name ≠ Pass.builtin.name) : Ranked count (before ++ later) := by
  have hsub : (before ++ later).Sublist (before ++ added :: later) :=
    (List.sublist_cons_self added later).append_left before
  refine ⟨h.ordered.sublist hsub, fun other hother => h.earlier other (hsub.subset hother),
    h.nodup.sublist (hsub.map Added.serial), ?_⟩
  cases before with
  | nil =>
    have hfirst : added = ⟨.builtin, 0⟩ := Option.some.inj h.first
    exact absurd (by rw [hfirst]) hname
  | cons first before => exact h.first

/-! ### Whole histories -/

lemma after_concat (history : List Change) (step : Change) :
    after (history ++ [step]) = (after history).change step := by
  rw [after, List.foldl_append]
  rfl

lemma addedCount_add (history : List Change) (pass : Pass) :
    addedCount (history ++ [.add pass]) = addedCount history + 1 := by
  rw [addedCount, List.countP_append]
  rfl

lemma addedCount_remove (history : List Change) (name : String) :
    addedCount (history ++ [.remove name]) = addedCount history := by
  rw [addedCount, List.countP_append]
  rfl

/-- After every history the passes are those of its roster, and these are in order. -/
lemma exists_roster (hrange : ∀ pass, Change.add pass ∈ history → pass.InRange) :
    ∃ placed, Roster history placed ∧ (after history).passes = placed.map Added.pass ∧
      Ranked (addedCount history) placed := by
  induction history using List.reverseRecOn with
  | nil => exact ⟨original, .start, rfl, ranked_original⟩
  | append_singleton history step ih =>
    obtain ⟨placed, hroster, hpasses, hranked⟩ :=
      ih fun pass hpass => hrange pass (List.mem_append_left _ hpass)
    rw [after_concat]
    cases step with
    | add pass =>
      obtain ⟨hbefore, hlater⟩ := hranked.place pass
      have hsplit := List.takeWhile_append_dropWhile
        (p := fun other : Added => other.pass.leqPriority pass) (l := placed)
      rw [← hsplit] at hroster hranked
      refine ⟨_, .added hroster hbefore hlater, ?_, ?_⟩
      · rw [change, passes_add hpasses, List.map_append, List.map_cons]
      · rw [addedCount_add]
        exact hranked.insert (hrange pass (by simp)) hbefore hlater
    | remove name =>
      rw [addedCount_remove, change]
      rcases remove_cases (after history) name with ⟨hrefused, e, hremove⟩ |
        ⟨before, pass, later, hcut, hothers, hname, hbuiltin, hremove⟩
      · rw [hpasses, List.forall_mem_map] at hrefused
        rw [hremove]
        exact ⟨placed, .refused hroster hrefused, hpasses, hranked⟩
      · rw [hpasses, List.map_eq_append_iff] at hcut
        obtain ⟨front, rest, rfl, rfl, hrest⟩ := hcut
        obtain ⟨added, back, rfl, rfl, rfl⟩ := List.map_eq_cons_iff.1 hrest
        subst hname
        rw [hremove]
        refine ⟨front ++ back, .removed hroster ?_ hbuiltin, by rw [List.map_append],
          hranked.erase hbuiltin⟩
        exact fun other hother => hothers other.pass (List.mem_map_of_mem hother)

/-- Passes are added to the standard pipeline and removed from it by name, in any number and order.
Then the passes are those of the roster of this history: nothing is lost or there twice unless it
was added twice, only the first pass of a name is taken out at a time, and what is refused changes
nothing.  They run in the order of their priorities, and those of one priority in the order in which
they were added; the pass that was there before all others is the first one.  To add a pass is to
put it at the end and to sort again, passes of one priority staying in their order.  A removal is
refused just when it is that of the protecting pass or no pass has the name. -/
theorem order_is_stable (history : List Change)
    (hrange : ∀ pass, Change.add pass ∈ history → pass.InRange) :
    (∃ placed, Roster history placed ∧ (after history).passes = placed.map Added.pass ∧
      placed.Pairwise Added.Precedes ∧ (placed.map Added.serial).Nodup ∧
      placed.head? = some ⟨.builtin, 0⟩) ∧
    (∀ pass, ((after history).add pass).passes =
      ((after history).passes ++ [pass]).mergeSort Pass.leqPriority) ∧
    ∀ name, (∃ e, (after history).remove name = .error e) ↔
      name = Pass.builtin.name ∨ ∀ pass ∈ (after history).passes, pass.name ≠ name := by
  obtain ⟨placed, hroster, hpasses, hranked⟩ := exists_roster hrange
  refine ⟨⟨placed, hroster, hpasses, hranked.ordered, hranked.nodup, hranked.first⟩,
    fun pass => ?_, (after history).remove_eq_error_iff⟩
  have hordered : (after history).passes.Pairwise fun a b => a.leqPriority b = true := by
    rw [hpasses]
    exact List.pairwise_map.2 hranked.pairwise_leqPriority
  exact insert_eq_mergeSort leqPriority_trans leqPriority_total hordered pass

/-- A pass with the name and the priority of the protecting one comes after it and is not removed
either. -/
theorem order_is_stable_beside_namesake :
    let pass (name : String) (priority : Int) : Pass := .custom ⟨name, priority, .ok⟩
    let history : List Change := [.add (pass "builtin" (-2147483648)), .add (pass "a" 0),
      .add (pass "b" 0), .remove "macros", .remove "builtin"]
    (∀ pass, Change.add pass ∈ history → pass.InRange) ∧
      (∃ placed, Roster history placed ∧ (after history).passes = placed.map Added.pass ∧
        placed.head? = some ⟨.builtin, 0⟩) ∧
      (after history).passes.map Pass.name =
        ["builtin", "builtin", "a", "b", "variables", "memory"] := by
  intro pass history
  have hrange : ∀ pass, Change.add pass ∈ history → pass.InRange := by
    simp [history, pass, Pass.InRange, Pass.priority]
  obtain ⟨⟨placed, hroster, hpasses, -, -, hfirst⟩, -⟩ := order_is_stable history hrange
  exact ⟨hrange, ⟨placed, hroster, hpasses, hfirst⟩, by decide⟩

end Pipeline

end LineShell

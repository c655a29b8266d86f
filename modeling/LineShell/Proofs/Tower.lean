import Mathlib.Data.List.Basic
import Mathlib.Tactic.Common

/-!
# Towers with barriers

The frames of a session and its local scopes are guarded in the same way.  Both are stacks of
levels, the top one first, and in both a run that opens a level of its own sets a barrier at the
height that it has reached then.  Levels are closed one at a time and only above the latest barrier,
so everything below the level that this barrier stands on is *sheltered*: whatever happens on top,
it stays as it is until the barrier is taken away.

`Tower.Extends t u` says that `u` can come out of `t` in this way: the barriers of `t` are still in
force in `u`, below any that were added, and what `t` shelters is sheltered by `u` too.  This is a
preorder on valid towers.  Its main consequence is `Tower.Extends.unraise`: a tower that extends
another one with a new level and a barrier on it gives that other tower back when it is cut down to
its height.
-/

namespace LineShell

/-- Levels, the top one first, and the heights at which barriers stand, the latest first. -/
structure Tower (β : Type) where
  levels : List β
  bars : List Nat

namespace Tower

variable {β : Type} {t u v : Tower β}

/-- The number of levels. -/
def height (t : Tower β) : Nat := t.levels.length

/-- The height to which the levels can be closed. -/
def bar (t : Tower β) : Nat := t.bars.headD 1

/-- The levels below the one on which the latest barrier stands. -/
def sheltered (t : Tower β) : List β := t.levels.drop (t.height + 1 - t.bar)

/-- A tower has a level, its barriers stand one above the other, and none of them stands on the
lowest level or above the top one. -/
structure Valid (t : Tower β) : Prop where
  levels_ne_nil : t.levels ≠ []
  decreasing : t.bars.Pairwise (· > ·)
  bounds : ∀ b ∈ t.bars, 2 ≤ b ∧ b ≤ t.height

/-- `u` stands on everything that `t` shelters, and keeps the barriers of `t`. -/
structure Extends (t u : Tower β) : Prop where
  valid : u.Valid
  bars : t.bars <:+ u.bars
  sheltered : t.sheltered <:+ u.sheltered

/-- The tower with a new level and a barrier on it. -/
def raise (t : Tower β) (a : β) : Tower β := ⟨a :: t.levels, (t.height + 1) :: t.bars⟩

/-! ### The latest barrier -/

/-- No barrier stands above the latest one. -/
lemma Valid.le_bar (ht : t.Valid) {b : Nat} (hb : b ∈ t.bars) : b ≤ t.bar := by
  unfold bar
  have hdec := ht.decreasing
  cases hbars : t.bars with
  | nil => simp [hbars] at hb
  | cons c rest =>
    rw [hbars] at hb hdec
    rcases List.mem_cons.1 hb with rfl | hmem
    · exact Nat.le_refl _
    · exact Nat.le_of_lt ((List.pairwise_cons.1 hdec).1 b hmem)

/-- The latest barrier stands on a level, and without barriers the lowest level is the limit. -/
lemma Valid.bar_bounds (ht : t.Valid) : 1 ≤ t.bar ∧ t.bar ≤ t.height := by
  unfold bar
  cases hbars : t.bars with
  | nil => exact ⟨Nat.le_refl 1, List.length_pos_of_ne_nil ht.levels_ne_nil⟩
  | cons c rest =>
    have hc := ht.bounds c (by simp [hbars])
    exact ⟨by simp only [List.headD_cons]; omega, hc.2⟩

/-- Adding barriers does not lower the latest one. -/
lemma Valid.bar_le_of_suffix (hu : u.Valid) (h : t.bars <:+ u.bars) : t.bar ≤ u.bar := by
  cases hbars : t.bars with
  | nil =>
    have := hu.bar_bounds.1
    simpa [bar, hbars] using this
  | cons c rest =>
    have hc : c ∈ u.bars := h.subset (by simp [hbars])
    have := hu.le_bar hc
    simpa [bar, hbars] using this

/-- One level less than the height of the latest barrier is sheltered. -/
lemma Valid.length_sheltered (ht : t.Valid) : t.sheltered.length = t.bar - 1 := by
  have := ht.bar_bounds
  unfold sheltered
  rw [List.length_drop]
  change t.height - (t.height + 1 - t.bar) = t.bar - 1
  omega

/-- Fewer barriers, and those the older ones, leave fewer levels sheltered. -/
lemma Valid.sheltered_suffix (ht : t.Valid) (hu : u.Valid) (hbars : t.bars <:+ u.bars)
    (h : t.sheltered <:+ u.levels) : t.sheltered <:+ u.sheltered := by
  refine List.suffix_of_suffix_length_le h (List.drop_suffix _ _) ?_
  have := hu.bar_le_of_suffix hbars
  rw [ht.length_sheltered, hu.length_sheltered]
  omega

/-! ### Extension is a preorder -/

/-- A valid tower extends itself. -/
lemma Valid.extends_self (ht : t.Valid) : t.Extends t :=
  ⟨ht, List.suffix_rfl, List.suffix_rfl⟩

/-- Extensions of extensions are extensions. -/
lemma Extends.trans (h : t.Extends u) (h' : u.Extends v) : t.Extends v :=
  ⟨h'.valid, h.bars.trans h'.bars, h.sheltered.trans h'.sheltered⟩

/-- Levels above the latest barrier can be changed, opened and closed. -/
lemma Valid.extends_of_bars_eq (ht : t.Valid) {levels : List β} (hlen : t.bar ≤ levels.length)
    (h : t.sheltered <:+ levels) : t.Extends ⟨levels, t.bars⟩ := by
  have hv : Valid (⟨levels, t.bars⟩ : Tower β) := by
    refine ⟨?_, ht.decreasing, fun b hb => ⟨(ht.bounds b hb).1, ?_⟩⟩
    · exact List.ne_nil_of_length_pos (Nat.le_trans ht.bar_bounds.1 hlen)
    · exact Nat.le_trans (ht.le_bar hb) hlen
  exact ⟨hv, List.suffix_rfl, ht.sheltered_suffix hv List.suffix_rfl h⟩

/-- The top level is never sheltered. -/
lemma Valid.sheltered_suffix_tail (ht : t.Valid) : t.sheltered <:+ t.levels.tail := by
  refine List.suffix_of_suffix_length_le (List.drop_suffix _ _) (List.tail_suffix _) ?_
  have := ht.bar_bounds
  rw [ht.length_sheltered, List.length_tail]
  change t.bar - 1 ≤ t.height - 1
  omega

/-- The top level can be changed. -/
lemma Valid.extends_top (ht : t.Valid) (a : β) : t.Extends ⟨a :: t.levels.tail, t.bars⟩ := by
  refine ht.extends_of_bars_eq ?_ (ht.sheltered_suffix_tail.trans (List.suffix_cons a _))
  have hpos := List.length_pos_of_ne_nil ht.levels_ne_nil
  have hbar : t.bar ≤ t.levels.length := ht.bar_bounds.2
  rw [List.length_cons, List.length_tail]
  omega

/-- A level can be opened. -/
lemma Valid.extends_open (ht : t.Valid) (a : β) : t.Extends ⟨a :: t.levels, t.bars⟩ := by
  refine ht.extends_of_bars_eq ?_ ((List.drop_suffix _ _).trans (List.suffix_cons a _))
  exact Nat.le_succ_of_le ht.bar_bounds.2

/-- A level above the latest barrier can be closed. -/
lemma Valid.extends_close (ht : t.Valid) (h : t.bar < t.height) :
    t.Extends ⟨t.levels.tail, t.bars⟩ := by
  refine ht.extends_of_bars_eq ?_ ht.sheltered_suffix_tail
  rw [List.length_tail]
  exact Nat.le_sub_one_of_lt h

/-- A new level with a barrier on it shelters all the others. -/
lemma sheltered_raise (t : Tower β) (a : β) : (t.raise a).sheltered = t.levels := by
  simp [sheltered, raise, height, bar]

/-- A tower is extended by a new level with a barrier on it. -/
lemma Valid.extends_raise (ht : t.Valid) (a : β) : t.Extends (t.raise a) := by
  have hpos := List.length_pos_of_ne_nil ht.levels_ne_nil
  refine ⟨⟨by simp [raise], ?_, ?_⟩, List.suffix_cons _ _, ?_⟩
  · refine List.pairwise_cons.2 ⟨fun b hb => ?_, ht.decreasing⟩
    have := (ht.bounds b hb).2
    omega
  · intro b hb
    rcases List.mem_cons.1 hb with rfl | hmem
    · simp only [raise, height, List.length_cons]
      omega
    · have := ht.bounds b hmem
      simp only [raise, height, List.length_cons] at this ⊢
      omega
  · rw [sheltered_raise]
    exact List.drop_suffix _ _

/-! ### Cutting a tower down -/

/-- The levels above a height are taken away. -/
def cut (u : Tower β) (height : Nat) : List β := u.levels.drop (u.height - height)

/-- A tower that is cut has no more levels than it had, and no more than the given height. -/
lemma length_cut (u : Tower β) (height : Nat) : (u.cut height).length = min u.height height := by
  simp only [cut, List.length_drop]
  change u.height - (u.height - height) = _
  omega

/-- Of barriers that stand one above the other, those above a bound come first. -/
lemma Valid.le_of_mem_dropWhile (hu : u.Valid) {n b : Nat}
    (hb : b ∈ u.bars.dropWhile (n < ·)) : b ≤ n := by
  have hsorted : (u.bars.dropWhile (n < ·)).Pairwise (· > ·) :=
    hu.decreasing.sublist (List.dropWhile_suffix _).sublist
  cases hrest : u.bars.dropWhile (n < ·) with
  | nil => simp [hrest] at hb
  | cons c rest =>
    have hc : ¬ n < c := by
      have hne : u.bars.dropWhile (fun b => decide (n < b)) ≠ [] := by simp [hrest]
      simpa [hrest] using List.head_dropWhile_not (fun b => decide (n < b)) hne
    rw [hrest] at hb hsorted
    rcases List.mem_cons.1 hb with rfl | hmem
    · omega
    · have := (List.pairwise_cons.1 hsorted).1 b hmem
      omega

/-- There is nothing to take away above a bound that all barriers are within. -/
lemma dropWhile_of_le {bars : List Nat} {n : Nat} (hle : ∀ b ∈ bars, b ≤ n) :
    bars.dropWhile (n < ·) = bars := by
  cases bars with
  | nil => rfl
  | cons b rest =>
    have := hle b (by simp)
    exact List.dropWhile_cons_of_neg (by simpa using this)

/-- Barriers within a bound stay when those above it are taken away. -/
lemma suffix_dropWhile_of_le {bars bars' : List Nat} {n : Nat} (h : bars <:+ bars')
    (hle : ∀ b ∈ bars, b ≤ n) : bars <:+ bars'.dropWhile (n < ·) := by
  obtain ⟨added, rfl⟩ := h
  rw [List.dropWhile_append]
  split
  · exact (dropWhile_of_le hle).symm ▸ List.suffix_rfl
  · exact List.suffix_append _ _

/-- The barriers of a tower stand within every tower that extends it. -/
lemma Extends.bar_le_height (ht : t.Valid) (h : t.Extends u) {b : Nat} (hb : b ∈ t.bars) :
    b ≤ min u.height t.height :=
  Nat.le_min.2 ⟨(h.valid.bounds b (h.bars.subset hb)).2, (ht.bounds b hb).2⟩

/-- An extension that is cut down to the height of the tower still stands on what the tower
shelters. -/
lemma Extends.sheltered_suffix_cut (ht : t.Valid) (h : t.Extends u) :
    t.sheltered <:+ u.cut t.height := by
  refine List.suffix_of_suffix_length_le
    (h.sheltered.trans (List.drop_suffix _ _)) (List.drop_suffix _ _) ?_
  have hbar := h.valid.bar_le_of_suffix h.bars
  have hu := h.valid.bar_bounds
  have hb := ht.bar_bounds
  rw [length_cut, ht.length_sheltered]
  omega

/-- A tower stays valid when it is cut down and the barriers that are left without a level are
taken away. -/
lemma Valid.cut (hu : u.Valid) {n : Nat} (hn : 1 ≤ n) :
    Valid ⟨u.cut n, u.bars.dropWhile (min u.height n < ·)⟩ := by
  refine ⟨?_, hu.decreasing.sublist (List.dropWhile_suffix _).sublist, fun b hb => ⟨?_, ?_⟩⟩
  · have hpos := hu.bar_bounds
    refine List.ne_nil_of_length_pos ?_
    rw [length_cut]
    omega
  · exact (hu.bounds b ((List.dropWhile_suffix _).subset hb)).1
  · have hle := hu.le_of_mem_dropWhile hb
    simpa only [height, length_cut] using hle

/-- An extension stays one when it is cut down to the height of the tower, and the barriers that are
left without a level are taken away. -/
lemma Extends.cut (ht : t.Valid) (h : t.Extends u) :
    t.Extends ⟨u.cut t.height, u.bars.dropWhile (min u.height t.height < ·)⟩ := by
  have hbars := suffix_dropWhile_of_le h.bars fun b hb => h.bar_le_height ht hb
  have hpos := ht.bar_bounds
  have hv := h.valid.cut (Nat.le_trans hpos.1 hpos.2)
  exact ⟨hv, hbars, ht.sheltered_suffix hv hbars (h.sheltered_suffix_cut ht)⟩

/-- A tower that has the barriers of another one stays valid when it is cut down to the height of
that one and only these barriers are kept. -/
lemma Valid.recall (ht : t.Valid) (hu : u.Valid) (hbars : t.bars <:+ u.bars) :
    Valid ⟨u.cut t.height, t.bars⟩ := by
  refine ⟨?_, ht.decreasing, fun b hb => ⟨(ht.bounds b hb).1, ?_⟩⟩
  · have htb := ht.bar_bounds
    have hub := hu.bar_bounds
    refine List.ne_nil_of_length_pos ?_
    rw [length_cut]
    omega
  · have hle := (ht.bounds b hb).2
    have hle' := (hu.bounds b (hbars.subset hb)).2
    simp only [height, length_cut]
    exact Nat.le_min.2 ⟨hle', hle⟩

/-- Barriers within a bound are not taken away with those above it. -/
lemma mem_dropWhile_of_le {bars : List Nat} {n b : Nat} (hb : b ∈ bars) (hle : b ≤ n) :
    b ∈ bars.dropWhile (n < ·) := by
  rw [← List.takeWhile_append_dropWhile (p := fun b => decide (n < b)) (l := bars)] at hb
  rcases List.mem_append.1 hb with hmem | hmem
  · have habove := List.all_eq_true.1 List.all_takeWhile b hmem
    simp only [decide_eq_true_eq] at habove
    omega
  · exact hmem

/-- An extension that is cut down to the height of the tower has just the barriers of the tower if
and only if all others stand above that height. -/
lemma Extends.cut_bars_eq_iff (ht : t.Valid) (h : t.Extends u) :
    u.bars.dropWhile (min u.height t.height < ·) = t.bars ↔
      ∀ b ∈ u.bars, b ≤ t.height → b ∈ t.bars := by
  constructor
  · intro heq b hb hle
    rw [← heq]
    exact mem_dropWhile_of_le hb (Nat.le_min.2 ⟨(h.valid.bounds b hb).2, hle⟩)
  · intro hkept
    obtain ⟨added, hadded⟩ := suffix_dropWhile_of_le h.bars fun b hb => h.bar_le_height ht hb
    cases added with
    | nil => exact hadded.symm
    | cons b rest =>
      -- the uppermost of the others would stand above itself
      have hb : b ∈ u.bars.dropWhile (min u.height t.height < ·) := by
        rw [← hadded]
        exact List.mem_append_left _ List.mem_cons_self
      have hle := h.valid.le_of_mem_dropWhile hb
      have hmem : b ∈ t.bars :=
        hkept b ((List.dropWhile_suffix _).subset hb) (Nat.le_trans hle (Nat.min_le_right _ _))
      have hdec := h.valid.decreasing.sublist
        (List.dropWhile_suffix (min u.height t.height < ·)).sublist
      rw [← hadded, List.cons_append, List.pairwise_cons] at hdec
      exact absurd (hdec.1 b (List.mem_append_right rest hmem)) (Nat.lt_irrefl b)

/-- An extension stays one when it is cut down to the height of the tower and only the barriers of
the tower are kept. -/
lemma Extends.recall (ht : t.Valid) (h : t.Extends u) : t.Extends ⟨u.cut t.height, t.bars⟩ := by
  refine ht.extends_of_bars_eq ?_ (h.sheltered_suffix_cut ht)
  have hbar := h.valid.bar_le_of_suffix h.bars
  have hu := h.valid.bar_bounds
  have hb := ht.bar_bounds
  rw [length_cut]
  omega

/-- A new level with a barrier on it keeps all the others in place. -/
lemma Extends.levels_suffix {a : β} (h : (t.raise a).Extends u) : t.levels <:+ u.levels := by
  have hsheltered := h.sheltered.trans (List.drop_suffix _ _)
  rwa [sheltered_raise] at hsheltered

/-- A tower comes back when what extends it with a new level and a barrier is cut down to its
height, and the barriers above that height are taken away. -/
lemma Extends.unraise (ht : t.Valid) {a : β} (h : (t.raise a).Extends u) :
    u.cut t.height = t.levels ∧ u.bars.dropWhile (t.height < ·) = t.bars := by
  constructor
  · exact (List.suffix_iff_eq_drop.1 h.levels_suffix).symm
  · -- the added barriers stand above the new one, and so above the tower
    obtain ⟨added, hadded⟩ := h.bars
    have habove : ∀ b ∈ added, t.height < b := by
      intro b hb
      have hdec := h.valid.decreasing
      rw [← hadded, List.pairwise_append] at hdec
      have := hdec.2.2 b hb (t.height + 1) (by simp [raise])
      omega
    have hsub : t.bars <:+ u.bars := (List.suffix_cons _ _).trans ⟨added, hadded⟩
    have hkeep := suffix_dropWhile_of_le hsub fun b hb => (ht.bounds b hb).2
    refine (hkeep.eq_of_length_le ?_).symm
    have hdrop : u.bars.dropWhile (t.height < ·) = t.bars.dropWhile (t.height < ·) := by
      rw [← hadded, List.dropWhile_append_of_pos (by simpa using habove)]
      exact List.dropWhile_cons_of_pos (by simp)
    rw [hdrop]
    exact (List.dropWhile_suffix _).length_le

/-- An extension of a tower with a new level and a barrier is higher than the tower. -/
lemma Extends.height_lt {a : β} (h : (t.raise a).Extends u) : t.height < u.height := by
  have := (h.valid.bounds (t.height + 1) (h.bars.subset (by simp [raise]))).2
  omega

end Tower

end LineShell

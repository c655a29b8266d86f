import LineShell.Proofs.Stock
import Mathlib.Data.List.Nodup

/-!
# Looking up commands in packages of different names

Whether the command of a package can be reached is judged by the name of the package in which its
name is looked up (`PackageSet.isReachable`).  That is right only if no two packages have the same
name.  `PackageSet.Proper` says so, together with the names of the native and the custom package and
with the conditions that all commands were checked for; it holds at the start and is kept by all
changes of the packages.

In a proper set of packages each name that stands for a command is reachable in one package, the one
in which it is found (`PackageSet.Proper.isReachable_iff`).
-/

namespace LineShell

/-! ### Names in a map -/

namespace NameMap

variable {α : Type} {map : NameMap α} {name : String} {a : α}

/-- The names are in strictly increasing order. -/
lemma pairwise_names (map : NameMap α) : map.names.Pairwise (· < ·) :=
  List.pairwise_map.2 map.sorted

/-- No name occurs twice. -/
lemma nodup_names (map : NameMap α) : map.names.Nodup := by
  refine map.pairwise_names.imp ?_
  rintro first _ hlt rfl
  exact String.lt_irrefl first hlt

/-- The names that occur after an entry is put in. -/
lemma mem_names_insert {other : String} :
    other ∈ (map.insert name a).names ↔ other = name ∨ other ∈ map.names := by
  have hentries : ∀ entries : List (String × α),
      other ∈ (insertEntry name a entries).map Prod.fst ↔
        other = name ∨ other ∈ entries.map Prod.fst := by
    intro entries
    induction entries with
    | nil => simp [insertEntry]
    | cons head rest ih =>
      rw [insertEntry]
      split
      · simp
      · split
        · next heq => simp [heq]
        · rw [List.map_cons, List.mem_cons, ih, List.map_cons, List.mem_cons]
          exact or_left_comm
  exact hentries map.entries

/-- What is put in under a name is not found under another one. -/
lemma find?_insert_of_ne {other : String} (hne : other ≠ name) :
    (map.insert name a).find? other = map.find? other := by
  have hbeq : (other == name) = false := beq_eq_false_iff_ne.2 hne
  have hentries : ∀ entries : List (String × α),
      (insertEntry name a entries).lookup other = entries.lookup other := by
    intro entries
    induction entries with
    | nil => rw [insertEntry, List.lookup_cons, hbeq]
    | cons head rest ih =>
      rw [insertEntry]
      split
      · rw [List.lookup_cons, hbeq]
      · split
        · next heq => rw [List.lookup_cons, List.lookup_cons, ← heq, hbeq]
        · rw [List.lookup_cons, List.lookup_cons, ih]
  exact hentries map.entries

/-- What is put in under a name is found under it. -/
lemma find?_insert (map : NameMap α) (name : String) (a : α) :
    (map.insert name a).find? name = some a := by
  have hentries : ∀ entries : List (String × α),
      (insertEntry name a entries).lookup name = some a := by
    intro entries
    induction entries with
    | nil => rw [insertEntry, List.lookup_cons_self]
    | cons head rest ih =>
      rw [insertEntry]
      split
      · rw [List.lookup_cons_self]
      · split
        · rw [List.lookup_cons_self]
        · next hne => rw [List.lookup_cons, beq_eq_false_iff_ne.2 hne, ih]
  exact hentries map.entries

/-- The entry of a name is the only one with this name. -/
lemma filter_eq_of_find? (h : map.find? name = some a) :
    map.entries.filter (fun entry => entry.1 == name) = [(name, a)] := by
  obtain ⟨before, after, heq, hbefore⟩ := List.lookup_eq_some_iff.1 h
  have hsorted := map.sorted
  rw [heq] at hsorted ⊢
  have hafter := (List.pairwise_cons.1 (List.pairwise_append.1 hsorted).2.1).1
  have hnone : before.filter (fun entry => entry.1 == name) = [] := by
    refine List.filter_eq_nil_iff.2 fun entry hentry heq => ?_
    have hne := hbefore entry hentry
    rw [beq_iff_eq] at heq
    simp [heq] at hne
  have hrest : after.filter (fun entry => entry.1 == name) = [] := by
    refine List.filter_eq_nil_iff.2 fun entry hentry heq => ?_
    rw [beq_iff_eq] at heq
    exact String.lt_irrefl name (heq ▸ hafter entry hentry)
  rw [List.filter_append, hnone, List.nil_append, List.filter_cons, if_pos (beq_self_eq_true _),
    hrest]

/-- An entry is found under its name. -/
lemma find?_of_mem (h : (name, a) ∈ map.entries) : map.find? name = some a := by
  cases hfind : map.find? name with
  | none => exact absurd (List.lookup_eq_none_iff.1 hfind _ h) (by simp)
  | some b =>
    have hmem : (name, a) ∈ map.entries.filter fun entry => entry.1 == name :=
      List.mem_filter.2 ⟨h, beq_self_eq_true name⟩
    rw [filter_eq_of_find? hfind, List.mem_singleton] at hmem
    rw [(Prod.mk.inj hmem).2]

/-- A value is found under a name exactly if the name occurs. -/
lemma isSome_find?_iff : (map.find? name).isSome = true ↔ name ∈ map.names := by
  rw [Option.isSome_iff_exists]
  constructor
  · rintro ⟨a, ha⟩
    exact List.mem_map.2 ⟨(name, a), mem_of_find? ha, rfl⟩
  · intro hmem
    obtain ⟨entry, hentry, rfl⟩ := List.mem_map.1 hmem
    exact ⟨entry.2, find?_of_mem hentry⟩

/-- Nothing is left out where the name does not occur. -/
lemma erase_of_contains_eq_false (h : map.contains name = false) : map.erase name = map := by
  have hentries : map.entries.filter (fun entry => entry.1 != name) = map.entries := by
    refine List.filter_eq_self.2 fun entry hmem => ?_
    by_contra hname
    have hsame : entry.1 = name := by simpa using hname
    have hfound : map.contains name = true :=
      isSome_find?_iff.2 (hsame ▸ List.mem_map_of_mem hmem)
    rw [h] at hfound
    cases hfound
  unfold erase
  congr

/-- A value is found under a name that occurs. -/
lemma exists_find? (h : name ∈ map.names) : ∃ a, map.find? name = some a :=
  Option.isSome_iff_exists.1 (isSome_find?_iff.2 h)

/-- A name under which a value is found occurs. -/
lemma mem_names_of_find? (h : map.find? name = some a) : name ∈ map.names :=
  List.mem_map.2 ⟨(name, a), mem_of_find? h, rfl⟩

end NameMap

/-! ### Names in packages -/

/-- All commands of the package are accepted under their names. -/
def Package.Accepted (package : Package) : Prop :=
  ∀ entry ∈ package.commands.entries, entry.2.check entry.1 = .ok ()

/-- A command that is accepted is named by one word, and asks for no more arguments than it
takes. -/
lemma Command.of_check_eq_ok {command : Command} {name : String} (h : command.check name = .ok ()) :
    name ≠ "" ∧ (∀ c ∈ name.toList, Text.isBlank c = false) ∧
      ∀ most, command.most = some most → command.least ≤ most := by
  have hname : ∀ name : String, check.checkName name = .ok () →
      name ≠ "" ∧ ∀ c ∈ name.toList, Text.isBlank c = false := by
    intro name hcheck
    unfold check.checkName at hcheck
    split at hcheck
    · cases hcheck
    · next hword =>
      rw [Bool.or_eq_true, not_or, Bool.not_eq_true, Bool.not_eq_true] at hword
      refine ⟨fun hempty => ?_, fun c hc => ?_⟩
      · simp [hempty] at hword
      · exact Bool.eq_false_iff.2 fun hblank =>
          Bool.eq_false_iff.1 hword.2 (List.any_eq_true.2 ⟨c, hc, hblank⟩)
  unfold check at h
  cases hmost : command.most with
  | none =>
    rw [hmost] at h
    exact ⟨(hname name h).1, (hname name h).2, fun most heq => by cases heq⟩
  | some most =>
    rw [hmost] at h
    dsimp only at h
    split at h
    · cases h
    · next hle =>
      refine ⟨(hname name h).1, (hname name h).2, fun other heq => ?_⟩
      cases heq
      exact Nat.le_of_not_lt hle

namespace Package

/-- Registering keeps the commands of a package accepted. -/
lemma Accepted.register {package next : Package} {name : String} {command : Command}
    (h : package.Accepted) (hr : package.register name command = .ok next) : next.Accepted := by
  obtain ⟨_, hcheck, hnext⟩ := exists_of_bind_eq_ok hr
  cases hnext
  intro entry hentry
  rcases NameMap.mem_insertEntry hentry with rfl | hmem
  · exact hcheck
  · exact h entry hmem

/-- So does taking a command out. -/
lemma Accepted.erase {package : Package} (h : package.Accepted) (name : String) :
    Accepted { package with commands := package.commands.erase name } :=
  fun entry hentry => h entry (List.mem_filter.1 hentry).1

/-- The commands of a package that can be made are accepted. -/
lemma Made.accepted {package : Package} (h : package.Made) : package.Accepted := by
  induction h with
  | empty name =>
    intro entry hentry
    simp [Package.empty, NameMap.empty] at hentry
  | registered _ hr ih => exact ih.register hr
  | erased _ name ih => exact ih.erase name
  | absorbed _ _ ih ihother =>
    intro entry hentry
    rcases NameMap.mem_of_mem_foldl_insert hentry with hother | hown
    · exact ihother entry hother
    · exact ih entry hown

end Package

namespace PackageSet

variable {set next : PackageSet} {package : Package} {name : String}

/-- A name stands for a command exactly if it occurs in a package. -/
lemma isSome_resolve?_iff :
    (set.resolve? name).isSome = true ↔ ∃ package ∈ set.toList, name ∈ package.commands.names := by
  unfold resolve?
  rw [List.findSome?_isSome_iff]
  constructor
  · rintro ⟨package, hmem, hfound⟩
    rw [Option.isSome_map] at hfound
    exact ⟨package, hmem, NameMap.isSome_find?_iff.1 hfound⟩
  · rintro ⟨package, hmem, hname⟩
    refine ⟨package, hmem, ?_⟩
    rw [Option.isSome_map]
    exact NameMap.isSome_find?_iff.2 hname

/-- The names that occur after names are put in one after the other. -/
lemma mem_foldl_insert (names : List String) (map : NameMap Unit) :
    name ∈ (names.foldl (fun map name => map.insert name ()) map).names ↔
      name ∈ names ∨ name ∈ map.names := by
  induction names generalizing map with
  | nil => simp
  | cons first rest ih =>
    rw [List.foldl_cons, ih, NameMap.mem_names_insert, List.mem_cons, or_left_comm, or_assoc]

/-- The names that are collected from packages are those that occur in them. -/
lemma mem_foldl_names (packages : List Package) (map : NameMap Unit) :
    name ∈ (packages.foldl (fun names package =>
        package.commands.names.foldl (fun names name => names.insert name ()) names) map).names ↔
      (∃ package ∈ packages, name ∈ package.commands.names) ∨ name ∈ map.names := by
  induction packages generalizing map with
  | nil => simp
  | cons first rest ih =>
    rw [List.foldl_cons, ih, mem_foldl_insert]
    simp only [List.mem_cons, exists_eq_or_imp]
    rw [or_left_comm, or_assoc]

/-- The reachable names are those that stand for a command. -/
lemma mem_reachableNames_iff : name ∈ set.reachableNames ↔ (set.resolve? name).isSome = true := by
  rw [isSome_resolve?_iff, reachableNames, mem_foldl_names]
  simp [NameMap.names, NameMap.empty]

/-- The reachable names are in strictly increasing order. -/
lemma pairwise_reachableNames (set : PackageSet) : set.reachableNames.Pairwise (· < ·) :=
  NameMap.pairwise_names _

/-! ### Packages of different names -/

/-- The native and the custom package have their names and no other package has, no two loaded
packages have the same name, and all commands are accepted under their names. -/
structure Proper (set : PackageSet) : Prop where
  native_name : set.native.name = nativeName
  custom_name : set.custom.name = customName
  loaded_name : ∀ package ∈ set.loaded, package.name ≠ nativeName ∧ package.name ≠ customName
  loaded_nodup : (set.loaded.map Package.name).Nodup
  accepted : ∀ package ∈ set.toList, package.Accepted

namespace Proper

/-- No two packages have the same name. -/
lemma nodup_names (h : set.Proper) : (set.toList.map Package.name).Nodup := by
  simp only [toList, List.map_cons, h.native_name, h.custom_name, List.nodup_cons, List.mem_cons,
    List.mem_map, not_or]
  refine ⟨⟨by decide, ?_⟩, ?_, h.loaded_nodup⟩
  · rintro ⟨package, hmem, hname⟩
    exact (h.loaded_name package hmem).1 hname
  · rintro ⟨package, hmem, hname⟩
    exact (h.loaded_name package hmem).2 hname

/-- The name of a package tells which one it is. -/
lemma eq_of_name_eq (h : set.Proper) {first second : Package} (hfirst : first ∈ set.toList)
    (hsecond : second ∈ set.toList) (hname : first.name = second.name) : first = second :=
  List.inj_on_of_nodup_map h.nodup_names hfirst hsecond hname

/-- A command is reachable in a package exactly if its name is found there. -/
lemma isReachable_iff (h : set.Proper) (hmem : package ∈ set.toList) :
    set.isReachable package.name name = true ↔
      ∃ command, set.resolve? name = some (package, command) := by
  unfold isReachable
  cases hresolve : set.resolve? name with
  | none => simp
  | some found =>
    obtain ⟨other, command⟩ := found
    simp only [Option.any_some, beq_iff_eq, Option.some.injEq, Prod.mk.injEq, exists_eq_right']
    constructor
    · intro hname
      exact h.eq_of_name_eq (mem_of_resolve? hresolve).1 hmem hname
    · rintro rfl
      rfl

/-- A set of packages is proper at the start. -/
lemma ofNative : (PackageSet.ofNative nativePackage).Proper where
  native_name := rfl
  custom_name := rfl
  loaded_name := by simp [PackageSet.ofNative]
  loaded_nodup := .nil
  accepted := by
    intro package hmem
    rcases List.mem_cons.1 hmem with rfl | hmem
    · exact Package.made_nativePackage.accepted
    · rw [List.mem_singleton.1 hmem]
      exact (Package.Made.empty customName).accepted

/-- Other native and custom commands that are accepted keep a set of packages proper. -/
lemma of_loaded_eq (h : set.Proper) (hnative : next.native.name = set.native.name)
    (hcustom : next.custom.name = set.custom.name) (hloaded : next.loaded = set.loaded)
    (hfirst : next.native.Accepted) (hsecond : next.custom.Accepted) : next.Proper where
  native_name := hnative.trans h.native_name
  custom_name := hcustom.trans h.custom_name
  loaded_name := by
    rw [hloaded]
    exact h.loaded_name
  loaded_nodup := by
    rw [hloaded]
    exact h.loaded_nodup
  accepted := by
    intro package hmem
    simp only [toList, hloaded, List.mem_cons] at hmem
    rcases hmem with rfl | rfl | hmem
    · exact hfirst
    · exact hsecond
    · exact h.accepted package (by simp [toList, hmem])

/-- The native package of a proper set is accepted. -/
lemma native_accepted (h : set.Proper) : set.native.Accepted :=
  h.accepted _ (by simp [toList])

/-- So is the custom one. -/
lemma custom_accepted (h : set.Proper) : set.custom.Accepted :=
  h.accepted _ (by simp [toList])

/-- Registering among the custom commands keeps a set of packages proper. -/
lemma registerCustom (h : set.Proper) {command : Command}
    (hr : set.registerCustom name command = .ok next) : next.Proper := by
  obtain ⟨custom, hcustom, hnext⟩ := exists_of_bind_eq_ok hr
  cases hnext
  have hname : custom.name = set.custom.name := by
    obtain ⟨_, -, heq⟩ := exists_of_bind_eq_ok hcustom
    cases heq
    rfl
  exact h.of_loaded_eq rfl hname rfl h.native_accepted (h.custom_accepted.register hcustom)

/-- So does registering among the native commands. -/
lemma registerNative (h : set.Proper) {command : Command} {native : Package}
    (hr : set.native.register name command = .ok native) :
    ({ set with native } : PackageSet).Proper := by
  have hname : native.name = set.native.name := by
    obtain ⟨_, -, heq⟩ := exists_of_bind_eq_ok hr
    cases heq
    rfl
  exact h.of_loaded_eq hname rfl rfl (h.native_accepted.register hr) h.custom_accepted

/-- Adding a package puts its name at the end, unless it is there already. -/
lemma map_name_addTo (package : Package) (packages : List Package) :
    (addTo package packages).2.map Package.name =
      if package.name ∈ packages.map Package.name then packages.map Package.name
      else packages.map Package.name ++ [package.name] := by
  induction packages with
  | nil => simp [addTo]
  | cons other rest ih =>
    rw [addTo]
    by_cases hname : other.name = package.name
    · simp [hname]
    · have hne : package.name ≠ other.name := fun heq => hname heq.symm
      simp only [if_neg hname, List.map_cons, ih, List.mem_cons, hne, false_or]
      split <;> simp

/-- Adding a package keeps a set of packages proper. -/
lemma add (h : set.Proper) (hnative : package.name ≠ nativeName)
    (hcustom : package.name ≠ customName) (haccepted : package.Accepted) :
    (set.add package).2.Proper where
  native_name := h.native_name
  custom_name := h.custom_name
  loaded_name := by
    intro other hmem
    rcases mem_addTo hmem with rfl | hmem
    · exact ⟨hnative, hcustom⟩
    · exact h.loaded_name other hmem
  loaded_nodup := by
    change ((addTo package set.loaded).2.map Package.name).Nodup
    rw [map_name_addTo]
    split
    · exact h.loaded_nodup
    · next hnew => exact List.nodup_append.2 ⟨h.loaded_nodup, by simp, by simpa using hnew⟩
  accepted := by
    intro other hmem
    simp only [toList, PackageSet.add, List.mem_cons] at hmem
    rcases hmem with rfl | rfl | hmem
    · exact h.native_accepted
    · exact h.custom_accepted
    · rcases mem_addTo hmem with rfl | hmem
      · exact haccepted
      · exact h.accepted other (by simp [toList, hmem])

/-- Taking a package out keeps a set of packages proper. -/
lemma remove (h : set.Proper) (name : String) : (set.remove name).2.Proper where
  native_name := h.native_name
  custom_name := h.custom_name
  loaded_name package hmem := h.loaded_name package (List.mem_of_mem_eraseP hmem)
  loaded_nodup := h.loaded_nodup.sublist (List.eraseP_sublist.map Package.name)
  accepted := by
    intro package hmem
    simp only [toList, PackageSet.remove, List.mem_cons] at hmem
    rcases hmem with rfl | rfl | hmem
    · exact h.native_accepted
    · exact h.custom_accepted
    · exact h.accepted package (by simp [toList, List.mem_of_mem_eraseP hmem])

/-- The changes that commands make keep a set of packages proper. -/
lemma step {registry : Registry} (h : set.Proper) (hregistry : registry.Made)
    (hstep : set.Step registry next) : next.Proper := by
  cases hstep with
  | registered hr => exact h.registerCustom hr
  | unregistered name =>
    exact h.of_loaded_eq rfl rfl rfl h.native_accepted (h.custom_accepted.erase name)
  | added hmade hnative hcustom =>
    refine h.add hnative hcustom ?_
    rcases hmade with hmade | ⟨name, hcreate⟩
    · exact hmade.accepted
    · exact (hregistry name _ hcreate).accepted

/-- So does any number of them. -/
lemma steps {registry : Registry} (h : set.Proper) (hregistry : registry.Made)
    (hsteps : Relation.ReflTransGen (PackageSet.Step registry) set next) : next.Proper := by
  induction hsteps with
  | refl => exact h
  | tail _ hstep ih => exact ih.step hregistry hstep

end Proper

end PackageSet

end LineShell

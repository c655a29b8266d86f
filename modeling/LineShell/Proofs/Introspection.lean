import LineShell.Proofs.Event
import LineShell.Proofs.Lookup
import Mathlib.Algebra.GroupWithZero.Nat

/-!
# What is listed is what is called

The help lists the commands of each package that can be reached there, and the list of packages
tells how many those are.  Both are read off the packages without a look at how a call finds its
command, except by `PackageSet.isReachable`, which compares names of packages only.

In every session that a host can come to (`Session.Hosted`) the packages are proper, so what is
listed agrees with what is called (`Session.Hosted.lists_what_is_called`): a name that stands for a
command is listed once, under the package in which it is found, and the numbers of reachable
commands add up to the number of all names that stand for a command.  For the texts, the parts of
which they are made are brought out first (`Help.sections`, `Help.counts`).
-/

namespace LineShell

/-! ### The parts of the texts -/

namespace Help

/-- The sections of the list of commands: for each package that has any, its name and the commands
that are looked up there. -/
def sections (set : PackageSet) : List (String × List (String × Command)) :=
  (set.toList.map fun package => (package.name, set.reachableIn package)).filter
    fun part => !part.2.isEmpty

/-- The text of a section. -/
def sectionText (part : String × List (String × Command)) : String :=
  "\n[" ++ part.1 ++ "]\n" ++ String.join (part.2.map fun (name, command) =>
    "  " ++ Text.padRight 14 name ++ " " ++ command.description ++ "\n")

/-- The places at which a name is listed: the titles of the sections, each with the command that
stands there under the name. -/
def listings (set : PackageSet) (name : String) : List (String × Command) :=
  (sections set).flatMap fun part =>
    (part.2.filter fun entry => entry.1 == name).map fun entry => (part.1, entry.2)

/-- What the list of packages tells of one: its name, how many of its commands can be called, and
how many cannot. -/
structure Count where
  package : String
  reachable : Nat
  shadowed : Nat

/-- What the list of packages tells of a package. -/
def countOf (set : PackageSet) (package : Package) : Count where
  package := package.name
  reachable := (set.reachableIn package).length
  shadowed := (package.commands.entries.filter fun (name, _) =>
    !set.isReachable package.name name).length

/-- What the list of packages tells of all of them. -/
def counts (set : PackageSet) : List Count := set.toList.map (countOf set)

/-- The line for a package. -/
def countText (count : Count) : String :=
  Text.padRight 12 count.package ++ " " ++ Text.decimal count.reachable ++ " commands"
    ++ (if count.shadowed = 0 then "" else " (" ++ Text.decimal count.shadowed ++ " shadowed)")
    ++ "\n"

/-- The list of commands is made of its sections. -/
lemma listCommands_eq (set : PackageSet) :
    listCommands set = "cmd9 - available commands\n" ++ String.join ((sections set).map sectionText)
      ++ "\nUse 'help NAME' for more information.\n" := by
  have hparts : ∀ packages : List Package, String.join (packages.map (packageSection set)) =
      String.join (((packages.map fun package => (package.name, set.reachableIn package)).filter
        fun part => !part.2.isEmpty).map sectionText) := by
    intro packages
    induction packages with
    | nil => rfl
    | cons package rest ih =>
      rw [List.map_cons, List.map_cons, String.join_cons, ih, List.filter_cons]
      unfold packageSection
      cases set.reachableIn package with
      | nil => rw [String.empty_append]; rfl
      | cons entry others =>
        have hfull : (!(package.name, entry :: others).2.isEmpty) = true := rfl
        rw [if_pos hfull, List.map_cons, String.join_cons]
        rfl
  unfold listCommands sections
  rw [hparts]

/-- The commands of a package are those that can be called and those that cannot. -/
lemma reachable_add_shadowed (set : PackageSet) (package : Package) :
    (countOf set package).reachable + (countOf set package).shadowed = package.size :=
  (List.length_eq_length_filter_add _).symm

/-- The list of packages is made of what it tells of each. -/
lemma listPackages_eq (set : PackageSet) :
    listPackages set = String.join ((counts set).map countText) := by
  have hline : ∀ package, packageLine set package = countText (countOf set package) := by
    intro package
    have hsum : (set.reachableIn package).length + (countOf set package).shadowed = package.size :=
      reachable_add_shadowed set package
    by_cases hnone : (countOf set package).shadowed = 0
    · have hall : ¬ (set.reachableIn package).length < package.size := by omega
      simp only [packageLine, countText, if_neg hall, if_pos hnone]
      rfl
    · have hsome : (set.reachableIn package).length < package.size := by omega
      have hrest : package.size - (set.reachableIn package).length =
          (countOf set package).shadowed := by omega
      simp only [packageLine, countText, if_pos hsome, if_neg hnone, hrest]
      rfl
  unfold listPackages counts
  rw [List.map_map]
  exact congrArg String.join (List.map_congr_left fun package _ => hline package)

end Help

/-! ### Names are listed once -/

namespace PackageSet.Proper

variable {set : PackageSet} {name : String}

/-- Under a name that is found in a package, one command of the package can be called. -/
lemma filter_reachableIn (h : set.Proper) {package : Package} {command : Command}
    (hfound : set.resolve? name = some (package, command)) :
    (set.reachableIn package).filter (fun entry => entry.1 == name) = [(name, command)] := by
  obtain ⟨hmem, hentry⟩ := mem_of_resolve? hfound
  have hreachable : set.isReachable package.name name = true :=
    (h.isReachable_iff hmem).2 ⟨command, hfound⟩
  unfold reachableIn
  rw [List.filter_comm, NameMap.filter_eq_of_find? (NameMap.find?_of_mem hentry), List.filter_cons,
    if_pos hreachable]
  rfl

/-- Under a name that is found elsewhere, no command of the package can be called. -/
lemma filter_reachableIn_of_ne (h : set.Proper) {package found : Package} {command : Command}
    (hmem : package ∈ set.toList) (hne : package ≠ found)
    (hfound : set.resolve? name = some (found, command)) :
    (set.reachableIn package).filter (fun entry => entry.1 == name) = [] := by
  refine List.filter_eq_nil_iff.2 fun entry hentry hname => ?_
  have hreachable : set.isReachable package.name entry.1 = true := (List.mem_filter.1 hentry).2
  rw [beq_iff_eq] at hname
  rw [hname] at hreachable
  obtain ⟨other, hother⟩ := (h.isReachable_iff hmem).1 hreachable
  rw [hfound] at hother
  exact hne (Prod.mk.inj (Option.some.inj hother)).1.symm

/-- A name that stands for a command is listed once, under the package in which it is found. -/
lemma listings_eq (h : set.Proper) {package : Package} {command : Command}
    (hfound : set.resolve? name = some (package, command)) :
    Help.listings set name = [(package.name, command)] := by
  let lists (package : Package) : List (String × Command) :=
    ((set.reachableIn package).filter fun entry => entry.1 == name).map fun entry =>
      (package.name, entry.2)
  -- the sections that are left out list nothing
  have hsections : Help.listings set name = set.toList.flatMap lists := by
    unfold Help.listings Help.sections
    induction set.toList with
    | nil => rfl
    | cons first rest ih =>
      rw [List.map_cons, List.filter_cons, List.flatMap_cons, ← ih]
      cases hfirst : set.reachableIn first with
      | nil => simp [lists, hfirst]
      | cons entry others => simp [lists, hfirst]
  have hnodup : set.toList.Nodup := h.nodup_names.of_map _
  obtain ⟨before, after, heq⟩ := List.append_of_mem (mem_of_resolve? hfound).1
  have hothers : ∀ other ∈ set.toList, other ≠ package → lists other = [] := by
    intro other hmem hne
    change List.map _ (List.filter _ _) = _
    rw [h.filter_reachableIn_of_ne hmem hne hfound]
    rfl
  rw [heq, List.nodup_append, List.nodup_cons] at hnodup
  obtain ⟨-, ⟨hafter, -⟩, hbefore⟩ := hnodup
  have hfirst : before.flatMap lists = [] := by
    refine List.flatMap_eq_nil_iff.2 fun other hmem => hothers other ?_ ?_
    · simp [heq, hmem]
    · exact hbefore other hmem package List.mem_cons_self
  have hlast : after.flatMap lists = [] := by
    refine List.flatMap_eq_nil_iff.2 fun other hmem => hothers other ?_ ?_
    · simp [heq, hmem]
    · exact fun hsame => hafter (hsame ▸ hmem)
  have hown : lists package = [(package.name, command)] := by
    change List.map _ (List.filter _ _) = _
    rw [h.filter_reachableIn hfound]
    rfl
  rw [hsections, heq, List.flatMap_append, List.flatMap_cons, hfirst, hlast, hown]
  rfl

/-! ### Names are counted once -/

/-- The names that can be called in a package are those that are found there. -/
lemma mem_map_fst_reachableIn (h : set.Proper) {package : Package} (hmem : package ∈ set.toList) :
    name ∈ (set.reachableIn package).map Prod.fst ↔
      ∃ command, set.resolve? name = some (package, command) := by
  rw [← h.isReachable_iff hmem, List.mem_map]
  constructor
  · rintro ⟨entry, hentry, rfl⟩
    exact (List.mem_filter.1 hentry).2
  · intro hreachable
    obtain ⟨command, hfound⟩ := (h.isReachable_iff hmem).1 hreachable
    exact ⟨(name, command), List.mem_filter.2 ⟨(mem_of_resolve? hfound).2, hreachable⟩, rfl⟩

/-- The names that can be called in the packages, one package after the other, are all names that
stand for a command. -/
lemma perm_reachableNames (h : set.Proper) :
    (set.toList.flatMap fun package => (set.reachableIn package).map Prod.fst).Perm
      set.reachableNames := by
  have hnodup : (set.toList.flatMap fun package =>
      (set.reachableIn package).map Prod.fst).Nodup := by
    refine List.nodup_flatMap.2 ⟨fun package _ => ?_, ?_⟩
    · exact package.commands.nodup_names.sublist (List.filter_sublist.map Prod.fst)
    · refine (List.pairwise_map.1 h.nodup_names).imp_of_mem fun {p q} hp hq hne n hnp hnq => ?_
      -- a name is found in one package only
      obtain ⟨command, hfound⟩ := (h.mem_map_fst_reachableIn hp).1 hnp
      obtain ⟨other, hother⟩ := (h.mem_map_fst_reachableIn hq).1 hnq
      rw [hfound] at hother
      exact hne (congrArg Package.name (Prod.mk.inj (Option.some.inj hother)).1)
  refine (List.perm_ext_iff_of_nodup hnodup (NameMap.nodup_names _)).2 fun n => ?_
  change _ ↔ n ∈ set.reachableNames
  rw [mem_reachableNames_iff, List.mem_flatMap, Option.isSome_iff_exists]
  constructor
  · rintro ⟨package, hmem, hn⟩
    obtain ⟨command, hfound⟩ := (h.mem_map_fst_reachableIn hmem).1 hn
    exact ⟨_, hfound⟩
  · rintro ⟨⟨package, command⟩, hfound⟩
    have hmem := (mem_of_resolve? hfound).1
    exact ⟨package, hmem, (h.mem_map_fst_reachableIn hmem).2 ⟨command, hfound⟩⟩

/-- The numbers of commands that can be called add up to the number of names. -/
lemma sum_reachable (h : set.Proper) :
    ((Help.counts set).map Help.Count.reachable).sum = set.reachableNames.length := by
  rw [← h.perm_reachableNames.length_eq, List.length_flatMap, Help.counts, List.map_map]
  refine congrArg List.sum (List.map_congr_left fun package _ => ?_)
  exact (List.length_map _).symm

end PackageSet.Proper

/-! ### Sessions of a host -/

namespace Session

/-- The sessions that a host can come to.  It starts with the built-in commands and a registry of
packages that can be made, adds and removes packages, registers commands, runs whatever it likes,
and may change everything but the packages. -/
inductive Hosted : Session → Prop
  | start {s : Session} (hpackages : s.packages = .ofNative nativePackage)
      (hregistry : s.registry.Made) : Hosted s
  | added {s t : Session} {package : Package} (h : Hosted s) (hmade : package.Made)
      (hadd : s.addPackage package = .ok t) : Hosted t
  | removed {s : Session} (h : Hosted s) (name : String) :
      Hosted { s with packages := (s.packages.remove name).2 }
  | registeredCustom {s : Session} {packages : PackageSet} {name : String} {command : Command}
      (h : Hosted s) (hr : s.packages.registerCustom name command = .ok packages) :
      Hosted { s with packages }
  | registeredNative {s : Session} {native : Package} {name : String} {command : Command}
      (h : Hosted s) (hr : s.packages.native.register name command = .ok native) :
      Hosted { s with packages := { s.packages with native } }
  | ran {s t : Session} (h : Hosted s) (hevent : s.Event t) : Hosted t
  | configured {s t : Session} (h : Hosted s) (hpackages : t.packages = s.packages)
      (hregistry : t.registry.Made) : Hosted t

/-- The packages of such a session are proper, and so is what its registry makes. -/
theorem Hosted.proper {s : Session} (h : s.Hosted) : s.packages.Proper ∧ s.registry.Made := by
  induction h with
  | start hpackages hregistry =>
    rw [hpackages]
    exact ⟨.ofNative, hregistry⟩
  | added _ hmade hadd ih =>
    have hstocks := Stocks.addPackage (.inl hmade) hadd
    exact ⟨ih.1.steps ih.2 hstocks.packages, hstocks.registry ▸ ih.2⟩
  | removed _ name ih => exact ⟨ih.1.remove name, ih.2⟩
  | registeredCustom _ hr ih => exact ⟨ih.1.registerCustom hr, ih.2⟩
  | registeredNative _ hr ih => exact ⟨ih.1.registerNative hr, ih.2⟩
  | ran _ hevent ih =>
    have hstocks := hevent.stocks
    exact ⟨ih.1.steps ih.2 hstocks.packages, hstocks.registry ▸ ih.2⟩
  | configured _ hpackages hregistry ih =>
    rw [hpackages]
    exact ⟨ih.1, hregistry⟩

/-- In every session that a host can come to, no two packages have the same name, and all commands
are named by one word and ask for no more arguments than they take.  The help lists every name that
occurs in a package once, under the package from which a call takes it.  The numbers of reachable
commands in the list of packages add up to the number of reachable names, which are exactly the
names that stand for a command, in strictly increasing order; and in the line of each package the
commands that can be called and those that cannot are all its commands. -/
theorem Hosted.lists_what_is_called {s : Session} (h : s.Hosted) :
    (s.packages.toList.map Package.name).Nodup ∧
    (∀ package ∈ s.packages.toList, ∀ name command, (name, command) ∈ package.commands.entries →
      name ≠ "" ∧ (∀ c ∈ name.toList, Text.isBlank c = false) ∧
        ∀ most, command.most = some most → command.least ≤ most) ∧
    Help.listCommands s.packages = "cmd9 - available commands\n"
      ++ String.join ((Help.sections s.packages).map Help.sectionText)
      ++ "\nUse 'help NAME' for more information.\n" ∧
    (∀ name, (∃ package ∈ s.packages.toList, package.commands.contains name = true) →
      ∃ package command, s.packages.resolve? name = some (package, command) ∧
        Help.listings s.packages name = [(package.name, command)]) ∧
    Help.listPackages s.packages = String.join ((Help.counts s.packages).map Help.countText) ∧
    ((Help.counts s.packages).map Help.Count.reachable).sum = s.packages.reachableNames.length ∧
    s.packages.reachableNames.Pairwise (· < ·) ∧
    (∀ name, name ∈ s.packages.reachableNames ↔ (s.packages.resolve? name).isSome = true) ∧
    ∀ package ∈ s.packages.toList, (Help.countOf s.packages package).reachable +
      (Help.countOf s.packages package).shadowed = package.size := by
  obtain ⟨hproper, -⟩ := h.proper
  refine ⟨hproper.nodup_names, fun package hmem name command hentry => ?_,
    Help.listCommands_eq _, fun name hdefined => ?_, Help.listPackages_eq _, hproper.sum_reachable,
    PackageSet.pairwise_reachableNames _, fun name => PackageSet.mem_reachableNames_iff,
    fun package _ => Help.reachable_add_shadowed _ package⟩
  · exact Command.of_check_eq_ok (hproper.accepted package hmem _ hentry)
  · obtain ⟨package, hmem, hcontains⟩ := hdefined
    have hsome : (s.packages.resolve? name).isSome = true :=
      PackageSet.isSome_resolve?_iff.2 ⟨package, hmem, NameMap.isSome_find?_iff.1 hcontains⟩
    obtain ⟨⟨found, command⟩, hfound⟩ := Option.isSome_iff_exists.1 hsome
    exact ⟨found, command, hfound, hproper.listings_eq hfound⟩

/-- Once the commands on texts are in use, an alias under the name of one of them is listed in its
place. -/
theorem Hosted.lists_alias_in_place_of_loaded_command :
    let s := Session.start {} standardRegistry .empty
    let t := (Engine.execute 1 "use" ["text"] s).2
    let u := (Engine.execute 1 "alias" ["upper", "print"] t).2
    (Help.listings t.packages "upper").map Prod.fst = ["text"] ∧
      (Help.listings u.packages "upper").map Prod.fst = ["custom"] := by
  intro s t u
  have hs : s.Hosted := .start rfl Registry.made_standardRegistry
  have ht : t.Hosted := hs.ran (.command 1 "use" ["text"])
  have hu : u.Hosted := ht.ran (.command 1 "alias" ["upper", "print"])
  have hlisted : ∀ {v : Session} {title : String}, v.Hosted →
      (v.packages.resolve? "upper").map (fun found => found.1.name) = some title →
        (Help.listings v.packages "upper").map Prod.fst = [title] := by
    intro v title hv htitle
    obtain ⟨found, hfound, rfl⟩ := Option.map_eq_some_iff.1 htitle
    obtain ⟨package, hmem, hname⟩ :=
      PackageSet.isSome_resolve?_iff.1 (Option.isSome_iff_exists.2 ⟨found, hfound⟩)
    obtain ⟨-, -, -, hlists, -⟩ := hv.lists_what_is_called
    obtain ⟨other, command, hother, hlistings⟩ :=
      hlists "upper" ⟨package, hmem, NameMap.isSome_find?_iff.2 hname⟩
    rw [hfound] at hother
    rw [hlistings, Option.some.inj hother]
    rfl
  exact ⟨hlisted ht (by decide +kernel), hlisted hu (by decide +kernel)⟩

end Session

end LineShell
